import Switchboard.Double.Layout
import Switchboard.Double.Nearest
import Switchboard.Double.Shortest

/-!
# Metrics

What the relay counts about itself.  A **series** is one thing that is counted, with its labels;
a series is listed from the first time that it is touched, even if only by zero.  Counters and the
number of observed lengths of time are whole numbers that grow; gauges go up and down and are
shown as floating point numbers.
-/
namespace Switchboard

/-- One thing that is counted. -/
inductive Series
  /-- Registered clients. -/
  | hubClients
  /-- Messages routed, by kind. -/
  | hubMessagesRouted (kind : String)
  /-- Payloads queued for connections. -/
  | hubDeliveries
  /-- Payloads that a connection did not take. -/
  | hubDrops
  /-- Clients that were put out after a drop. -/
  | hubEvictions
  /-- Connections closed because their user came again. -/
  | hubSuperseded
  /-- Sessions begun. -/
  | sessions
  /-- Sessions under way. -/
  | sessionsActive
  /-- Sessions over, by what ended them. -/
  | sessionsEnded (reason : String)
  /-- How long sessions lasted. -/
  | sessionDuration
  /-- Requests for a session without a usable identity. -/
  | sessionsRejected
  /-- Messages that could not be decoded, by where they came from and what was wrong. -/
  | decodeErrors (origin kind : String)
  /-- Records received from the bus. -/
  | busRecords (topic : String)
  /-- Failures to receive from the bus. -/
  | busErrors (topic severity : String)
  deriving DecidableEq, Repr

namespace Series

/-- The name of a series. -/
def name : Series → String
  | hubClients => "hub_clients"
  | hubMessagesRouted _ => "hub_messages_routed_total"
  | hubDeliveries => "hub_deliveries_total"
  | hubDrops => "hub_drops_total"
  | hubEvictions => "hub_evictions_total"
  | hubSuperseded => "hub_superseded_total"
  | sessions => "ws_connections_total"
  | sessionsActive => "ws_connections_active"
  | sessionsEnded _ => "ws_disconnections_total"
  | sessionDuration => "ws_connection_duration_seconds_count"
  | sessionsRejected => "ws_rejected_total"
  | decodeErrors .. => "decode_errors_total"
  | busRecords _ => "bus_records_total"
  | busErrors .. => "bus_errors_total"

/-- The labels of a series. -/
def labels : Series → List (String × String)
  | hubMessagesRouted kind => [("kind", kind)]
  | sessionsEnded reason => [("reason", reason)]
  | decodeErrors origin kind => [("origin", origin), ("kind", kind)]
  | busRecords topic => [("topic", topic)]
  | busErrors topic severity => [("topic", topic), ("severity", severity)]
  | _ => []

/-- Whether a series goes up and down. -/
def isGauge : Series → Bool
  | hubClients | sessionsActive => true
  | _ => false

/-- Characters of the value of a label as they are written between quotes; `held` tells whether a
backslash before them is still to be written.  What may be an escape already is not escaped again:
two backslashes are written like one, and a backslash before a quote is part of the quote's escape.
Newlines do not wait for a backslash before them. -/
def escape : Bool → List Char → List Char
  | held, [] => if held then ['\\', '\\'] else []
  | held, '\n' :: rest => '\\' :: 'n' :: escape held rest
  | _, '"' :: rest => '\\' :: '"' :: escape false rest
  | true, '\\' :: rest => '\\' :: '\\' :: escape false rest
  | false, '\\' :: rest => escape true rest
  | true, c :: rest => '\\' :: '\\' :: c :: escape false rest
  | false, c :: rest => c :: escape false rest

/-- The value of a label as it is written between quotes. -/
def escaped (value : String) : String := String.ofList (escape false value.toList)

/-- The labels of a series as they are written. -/
def labelsText (s : Series) : String :=
  match s.labels with
  | [] => ""
  | labels => "\x7b" ++ String.intercalate "," (labels.map fun (label, value) =>
      label ++ "=\"" ++ escaped value ++ "\"") ++ "\x7d"

/-- The text of the floating point number nearest to a whole number. -/
def gaugeText (n : Nat) : String :=
  match Double.nearest? n 1 with
  | some magnitude => Double.plainText ⟨false, magnitude⟩
  | none => "inf"

/-- A value of a series as it is written. -/
def valueText (s : Series) (n : Nat) : String :=
  if s.isGauge then gaugeText n else toString n

/-- The line that shows a value of a series. -/
def sample (s : Series) (n : Nat) : String :=
  s.name ++ s.labelsText ++ " " ++ s.valueText n

end Series

/-- The values of the series that have been touched. -/
structure Metrics where
  values : List (Series × Nat)
  deriving DecidableEq, Repr

namespace Metrics

/-- What is said when a second place is to be set up for what the whole process counts. -/
def secondRecorder : String :=
  "failed to install exporter as global recorder: " ++
    "attempted to set a recorder after the metrics system was already initialized"

/-- Nothing has been counted. -/
def empty : Metrics := ⟨[]⟩

instance : EmptyCollection Metrics := ⟨empty⟩

instance : Inhabited Metrics := ⟨∅⟩

/-- The value of a series, zero if it has not been touched. -/
def value (s : Series) (m : Metrics) : Nat := (m.values.lookup s).getD 0

/-- Gives a series a value. -/
def set (s : Series) (n : Nat) (m : Metrics) : Metrics :=
  ⟨(s, n) :: m.values.filter fun entry => entry.1 != s⟩

/-- Adds to a series. -/
def add (s : Series) (n : Nat) (m : Metrics) : Metrics := m.set s (m.value s + n)

/-- Takes one away from a gauge. -/
def lower (s : Series) (m : Metrics) : Metrics := m.set s (m.value s - 1)

/-- The lines that show all values, in the order of their texts. -/
def samples (m : Metrics) : List String :=
  (m.values.map fun (s, n) => s.sample n).mergeSort (fun a b => decide (a ≤ b))

/-- The values of two sets of series that have none in common. -/
def merge (a b : Metrics) : Metrics := ⟨a.values ++ b.values⟩

/-- Whether nothing has been touched. -/
def isEmpty (m : Metrics) : Bool := m.values.isEmpty

theorem lookup_filter_ne (s t : Series) (vs : List (Series × Nat)) (h : t ≠ s) :
    (vs.filter fun entry => entry.1 != s).lookup t = vs.lookup t := by
  induction vs with
  | nil => rfl
  | cons v vs ih =>
    obtain ⟨u, n⟩ := v
    by_cases hu : u = s
    · subst hu
      have : (t == u) = false := by simpa using h
      simp [List.lookup_cons, this, ih]
    · have : (u != s) = true := by simpa using hu
      simp only [List.filter_cons, this, if_true, List.lookup_cons, ih]

theorem value_set (s t : Series) (n : Nat) (m : Metrics) :
    (m.set s n).value t = if t = s then n else m.value t := by
  by_cases h : t = s
  · subst h; simp [value, set]
  · have : (t == s) = false := by simpa using h
    simp [value, set, List.lookup_cons, this, h, lookup_filter_ne s t m.values h]

theorem value_add (s t : Series) (n : Nat) (m : Metrics) :
    (m.add s n).value t = m.value t + if t = s then n else 0 := by
  rw [add, value_set]; split <;> simp_all

end Metrics
end Switchboard
