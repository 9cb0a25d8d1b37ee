import Switchboard.Json.Overlay
import Switchboard.Settings.Basic
import Switchboard.Text.Bytes
import Switchboard.Text.Numeral
import Switchboard.Text.Entries

/-!
# The layers of settings

Settings are made up of layers, each of which lies over the one before: the defaults, the settings
file, the environment and the command line.  The file is laid over the defaults field by field.  A
variable of the environment counts if it is text and valid for its field; otherwise it is as if it
were not set.
-/
namespace Switchboard

/-- The variables of an environment. -/
structure Environment where
  entries : List (String × Bytes)

namespace Environment

/-- The text of a variable, if it is set and is text. -/
def text? (env : Environment) (name : String) : Option String :=
  (env.entries.find? (·.1 == name)).bind fun v => Bytes.text? v.2

/-- The text of a variable, if it is set and not empty. -/
def filled? (env : Environment) (name : String) : Option String :=
  (env.text? name).filter (!·.isEmpty)

/-- The 16-bit number of a variable, if it is in range. -/
def uint16? (env : Environment) (name : String) (low high : Nat) : Option UInt16 :=
  ((env.text? name).bind (Text.rangedNumeral? UInt16.size low high)).map UInt16.ofNat

/-- The 64-bit number of a variable, if it is in range. -/
def uint64? (env : Environment) (name : String) (low high : Nat) : Option UInt64 :=
  ((env.text? name).bind (Text.rangedNumeral? UInt64.size low high)).map UInt64.ofNat

/-- The listener, as far as the environment sets it. -/
def applyToServer (env : Environment) (s : ServerSettings) : ServerSettings where
  host := (env.filled? "RELAY_HOST").getD s.host
  port := (env.uint16? "RELAY_PORT" 0 65535).getD s.port
  maxMessageSize := (env.uint64? "RELAY_MAX_MESSAGE_SIZE" 1024 67108864).getD s.maxMessageSize

/-- The hub, as far as the environment sets it. -/
def applyToHub (env : Environment) (s : HubSettings) : HubSettings where
  eventBuffer := (env.uint64? "RELAY_HUB_EVENT_BUFFER" 1 1000000).getD s.eventBuffer
  outboundQueueCapacity :=
    (env.uint64? "RELAY_QUEUE_CAPACITY" 1 1000000).getD s.outboundQueueCapacity

/-- The timing of the pumps, as far as the environment sets it. -/
def applyToKeepalive (env : Environment) (s : KeepaliveSettings) : KeepaliveSettings where
  writeWait := (env.uint64? "RELAY_WRITE_WAIT_MS" 1 600000).getD s.writeWait
  pongWait := (env.uint64? "RELAY_PONG_WAIT_MS" 1 3600000).getD s.pongWait
  pingPeriod := (env.uint64? "RELAY_PING_PERIOD_MS" 1 3600000).getD s.pingPeriod

/-- The two places where consuming can start. -/
def offsetReset? (s : String) : Option String :=
  if s = "earliest" ∨ s = "latest" then some s else none

/-- The bus, as far as the environment sets it. -/
def applyToBus (env : Environment) (s : BusSettings) : BusSettings where
  brokers := (env.filled? "RELAY_BUS_BROKERS").getD s.brokers
  groupId := (env.filled? "RELAY_BUS_GROUP_ID").getD s.groupId
  topics := ((env.filled? "RELAY_BUS_TOPICS").map Text.entries).getD s.topics
  autoOffsetReset := ((env.filled? "RELAY_BUS_OFFSET_RESET").bind offsetReset?).getD
    s.autoOffsetReset

/-- Log output, as far as the environment sets it. -/
def applyToLogging (env : Environment) (s : LoggingSettings) : LoggingSettings where
  level := (env.filled? "RELAY_LOG_LEVEL").getD s.level
  format := ((env.filled? "RELAY_LOG_FORMAT").bind LogFormat.ofName?).getD s.format

/-- Settings with what the environment sets. -/
def applyTo (env : Environment) (s : Settings) : Settings where
  server := env.applyToServer s.server
  hub := env.applyToHub s.hub
  keepalive := env.applyToKeepalive s.keepalive
  bus := env.applyToBus s.bus
  logging := env.applyToLogging s.logging

end Environment

/-- What stands at a path. -/
inductive Stored
  | absent
  | directory
  | file (content : Bytes)
  deriving DecidableEq, Repr

namespace Settings

/-- A path with one more step. -/
def joinPath (path step : String) : String :=
  if path.isEmpty then step
  else if path.endsWith "/" then path ++ step
  else path ++ "/" ++ step

/-- Where settings are looked for: at `RELAY_CONFIG`, or else in the home directory. -/
def path (env : Environment) : String :=
  match env.filled? "RELAY_CONFIG" with
  | some explicit => explicit
  | none => joinPath (joinPath ((env.text? "HOME").getD "/tmp") ".relay") "settings.json"

/-- The defaults with what the settings file sets, as a JSON value. -/
def overlaid : Stored → Except SettingsError Json.Value
  | .absent => .ok (Settings.json {})
  | .directory => .error (.unreadable "Is a directory (os error 21)")
  | .file content =>
    match Bytes.text? content with
    | none => .error (.unreadable "stream did not contain valid UTF-8")
    | some _ =>
      match Json.parse content with
      | .error fault => .error (.json fault)
      | .ok v => .ok (Json.Value.overlay (Settings.json {}) v)

/-- The settings of a file and an environment. -/
def load (stored : Stored) (env : Environment) : Except SettingsError Settings := do
  let merged ← overlaid stored
  let s ← (decoder.ofValue merged).mapError .json
  let s := env.applyTo s
  s.validate
  return s

end Settings
end Switchboard
