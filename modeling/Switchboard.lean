import Switchboard.ConnectionId
import Switchboard.Envelope
import Switchboard.Main
import Switchboard.Relay.Outside
import Switchboard.Proofs.FiniteMap
import Switchboard.Proofs.Registry.Groups
import Switchboard.Proofs.Registry.Indices
import Switchboard.Proofs.Registry.Routing
import Switchboard.Proofs.Switch.Effects
import Switchboard.Proofs.Run
import Switchboard.Proofs.Switch.Acts
import Switchboard.Proofs.Switch.GapFree
import Switchboard.Proofs.Hub.Acts
import Switchboard.Proofs.Switch.Accepted
import Switchboard.Proofs.Hub.Orphans
import Switchboard.Proofs.Switch.Interrupted
import Switchboard.Proofs.Hub.Stopping
import Switchboard.Proofs.Switch.Isolation
import Switchboard.Proofs.Pump.Turns
import Switchboard.Proofs.Relay.Acts
import Switchboard.Proofs.Relay.Ghosts
import Switchboard.Proofs.Hub.Order
import Switchboard.Proofs.Relay.Frames
import Switchboard.Proofs.Relay.Submitters
import Switchboard.Proofs.Relay.Order
import Switchboard.Proofs.Relay.Schedule
import Switchboard.Proofs.Relay.Arrivals
import Switchboard.Proofs.Double.Nearest
import Switchboard.Proofs.Double.Shortest
import Switchboard.Proofs.Json.Strings
import Switchboard.Proofs.Json.Numbers
import Switchboard.Proofs.Json.Values
import Switchboard.Proofs.Envelope.Paths
import Switchboard.Proofs.Pump.Keepalive
import Switchboard.Proofs.Switch.Counts
import Switchboard.Proofs.Hub.Counts
import Switchboard.Proofs.Relay.Tallies
import Switchboard.Proofs.Pump.Endings
import Switchboard.Proofs.Relay.Ingestion
import Switchboard.Proofs.Relay.Teardown
import Switchboard.Proofs.Relay.Accounts
import Switchboard.Proofs.Json.Overlaid
import Switchboard.Proofs.Settings.Layers
import Switchboard.Proofs.Settings.Files
import Switchboard.Proofs.Settings.Options
import Switchboard.Proofs.Settings.Loaded
import Switchboard.Proofs.Relay.Readings
import Switchboard.Proofs.Pump.Writings
import Switchboard.Proofs.Pump.Deadline
import Switchboard.Proofs.Relay.Limits
import Switchboard.Proofs.Registry.Calls
import Switchboard.Proofs.Switch.Stale
import Switchboard.Proofs.Connection
import Switchboard.Proofs.Json.Grammar
import Switchboard.Proofs.Envelope.Payloads
import Switchboard.Proofs.Switch.Unordered
import Switchboard.Proofs.Json.Layers
import Switchboard.Proofs.ReadBack
import Switchboard.Proofs.Text.Entries
import Switchboard.Proofs.Identity.Headers
import Switchboard.Proofs.Text.Numeral
import Switchboard.Proofs.Settings.Variables
import Switchboard.Proofs.Json.Parts
import Switchboard.Proofs.Settings.OffsetReset
import Switchboard.Proofs.Relay.LastSteps
