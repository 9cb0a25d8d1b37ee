import Switchboard.Json.Writer
import Switchboard.Registry
import Switchboard.Settings.Basic

/-!
# Health

What the relay says of its own state: whether the hub is running, for how long, and how many
clients it has.
-/
namespace Switchboard

/-- The state of the relay; without sizes of a registry, because the hub has stopped. -/
structure Health where
  uptimeSeconds : Nat
  stats : Option Registry.Stats
  deriving DecidableEq, Repr

namespace Health

/-- The word for the state. -/
def status (h : Health) : String :=
  match h.stats with
  | some _ => "ok"
  | none => "stopping"

/-- The HTTP status that goes with the state. -/
def httpStatus (h : Health) : Nat :=
  match h.stats with
  | some _ => 200
  | none => 503

/-- The state as a JSON value. -/
def json (h : Health) : Json.Value :=
  let stats := h.stats.getD ⟨0, 0, 0⟩
  .object [
    ("status", .string h.status),
    ("uptime_secs", numberJson h.uptimeSeconds),
    ("connections", numberJson stats.clients),
    ("roles", numberJson stats.roles),
    ("organizations", numberJson stats.organizations)]

end Health
end Switchboard
