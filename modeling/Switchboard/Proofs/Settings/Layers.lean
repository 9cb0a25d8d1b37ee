import Switchboard.Settings.Layers

/-! # The layers of settings

A layer may say something of every field of settings and says nothing of the others
(`Settings.Layer`).  Settings by layers are, field by field, what the first layer says
that says anything, or else the default (`Settings.ofLayers`); to have one more layer
before the others is to put it onto what they come to (`ofLayers_cons`).

A variable of the environment says something if it is text and valid for its field: not
empty, an integer in range, or one of some names.  What an environment says of which field
is written down once for all of its variables (`Environment.layer`), and the environment
is put onto settings as that layer (`Environment.applyTo_eq_onto`). -/
namespace Switchboard

namespace Settings

/-- What a layer says of each field, if anything. -/
structure Layer where
  host : Option String := none
  port : Option UInt16 := none
  maxMessageSize : Option UInt64 := none
  eventBuffer : Option UInt64 := none
  outboundQueueCapacity : Option UInt64 := none
  writeWait : Option UInt64 := none
  pongWait : Option UInt64 := none
  pingPeriod : Option UInt64 := none
  brokers : Option String := none
  groupId : Option String := none
  topics : Option (List String) := none
  autoOffsetReset : Option String := none
  level : Option String := none
  format : Option LogFormat := none
  deriving DecidableEq, Repr

/-- What the first layer says that says anything, or else something. -/
def first {α : Type} (layers : List Layer) (part : Layer → Option α) (otherwise : α) : α :=
  (layers.findSome? part).getD otherwise

/-- **Settings by layers**: every field as the first layer says that says anything of
it, or else as the defaults say. -/
def ofLayers (layers : List Layer) : Settings where
  server := {
    host := first layers Layer.host "127.0.0.1"
    port := first layers Layer.port 8080
    maxMessageSize := first layers Layer.maxMessageSize 524288 }
  hub := {
    eventBuffer := first layers Layer.eventBuffer 1024
    outboundQueueCapacity := first layers Layer.outboundQueueCapacity 256 }
  keepalive := {
    writeWait := first layers Layer.writeWait 10000
    pongWait := first layers Layer.pongWait 60000
    pingPeriod := first layers Layer.pingPeriod 54000 }
  bus := {
    brokers := first layers Layer.brokers "localhost:9092"
    groupId := first layers Layer.groupId "relay"
    topics := first layers Layer.topics []
    autoOffsetReset := first layers Layer.autoOffsetReset "latest" }
  logging := {
    level := first layers Layer.level "info"
    format := first layers Layer.format .compact }

/-- Settings with what a layer says. -/
def Layer.onto (layer : Layer) (s : Settings) : Settings where
  server := {
    host := layer.host.getD s.server.host
    port := layer.port.getD s.server.port
    maxMessageSize := layer.maxMessageSize.getD s.server.maxMessageSize }
  hub := {
    eventBuffer := layer.eventBuffer.getD s.hub.eventBuffer
    outboundQueueCapacity := layer.outboundQueueCapacity.getD s.hub.outboundQueueCapacity }
  keepalive := {
    writeWait := layer.writeWait.getD s.keepalive.writeWait
    pongWait := layer.pongWait.getD s.keepalive.pongWait
    pingPeriod := layer.pingPeriod.getD s.keepalive.pingPeriod }
  bus := {
    brokers := layer.brokers.getD s.bus.brokers
    groupId := layer.groupId.getD s.bus.groupId
    topics := layer.topics.getD s.bus.topics
    autoOffsetReset := layer.autoOffsetReset.getD s.bus.autoOffsetReset }
  logging := {
    level := layer.level.getD s.logging.level
    format := layer.format.getD s.logging.format }

theorem ofLayers_nil : ofLayers [] = {} := rfl

/-- A layer comes before those that follow it. -/
theorem ofLayers_cons (layer : Layer) (layers : List Layer) :
    ofLayers (layer :: layers) = layer.onto (ofLayers layers) := by
  have hfirst : ∀ {α : Type} (part : Layer → Option α) (otherwise : α),
      first (layer :: layers) part otherwise =
        (part layer).getD (first layers part otherwise) := by
    intro α part otherwise
    rw [first, List.findSome?_cons]
    cases part layer <;> rfl
  simp only [ofLayers, hfirst]
  rfl

end Settings

namespace Environment

open Settings (Layer)

variable {env : Environment} {name t : String} {limit low high : Nat}

/-- What a variable says as a number, if it is an integer in range. -/
def number? (env : Environment) (name : String) (low high : Nat) : Option Nat :=
  ((env.text? name).bind fun t => Text.numeral? t.toList).filter fun n => low ≤ n ∧ n ≤ high

/-- What an environment says. -/
def layer (env : Environment) : Layer where
  host := env.filled? "RELAY_HOST"
  port := (env.number? "RELAY_PORT" 0 65535).map UInt16.ofNat
  maxMessageSize := (env.number? "RELAY_MAX_MESSAGE_SIZE" 1024 67108864).map UInt64.ofNat
  eventBuffer := (env.number? "RELAY_HUB_EVENT_BUFFER" 1 1000000).map UInt64.ofNat
  outboundQueueCapacity := (env.number? "RELAY_QUEUE_CAPACITY" 1 1000000).map UInt64.ofNat
  writeWait := (env.number? "RELAY_WRITE_WAIT_MS" 1 600000).map UInt64.ofNat
  pongWait := (env.number? "RELAY_PONG_WAIT_MS" 1 3600000).map UInt64.ofNat
  pingPeriod := (env.number? "RELAY_PING_PERIOD_MS" 1 3600000).map UInt64.ofNat
  brokers := env.filled? "RELAY_BUS_BROKERS"
  groupId := env.filled? "RELAY_BUS_GROUP_ID"
  topics := (env.filled? "RELAY_BUS_TOPICS").map Text.entries
  autoOffsetReset := (env.text? "RELAY_BUS_OFFSET_RESET").filter (· ∈ ["earliest", "latest"])
  level := env.filled? "RELAY_LOG_LEVEL"
  format := (env.text? "RELAY_LOG_FORMAT").bind LogFormat.ofName?

/-! ## Variables -/

/-- A range that fits the type is all that a numeral is held to. -/
theorem rangedNumeral?_eq_filter (hhigh : high < limit) : Text.rangedNumeral? limit low high t =
    (Text.numeral? t.toList).filter fun n => low ≤ n ∧ n ≤ high := by
  rw [Text.rangedNumeral?]
  cases Text.numeral? t.toList with
  | none => rfl
  | some n =>
    by_cases hn : low ≤ n ∧ n ≤ high
    · have hlimit : n < limit := Nat.lt_of_le_of_lt hn.2 hhigh
      simp [Option.filter, hn, hlimit]
    · simp [Option.filter, hn]

theorem bind_rangedNumeral? (hhigh : high < limit) :
    (env.text? name).bind (Text.rangedNumeral? limit low high) = env.number? name low high := by
  rw [number?]
  cases env.text? name with
  | none => rfl
  | some t => exact rangedNumeral?_eq_filter hhigh

theorem uint16?_eq_number? (hhigh : high < UInt16.size) :
    env.uint16? name low high = (env.number? name low high).map UInt16.ofNat := by
  rw [uint16?, bind_rangedNumeral? hhigh]

theorem uint64?_eq_number? (hhigh : high < UInt64.size) :
    env.uint64? name low high = (env.number? name low high).map UInt64.ofNat := by
  rw [uint64?, bind_rangedNumeral? hhigh]

/-- An empty text is none of the names. -/
theorem bind_filled? {α : Type} {f : String → Option α} (hf : f "" = none) :
    (env.filled? name).bind f = (env.text? name).bind f := by
  rw [filled?]
  cases env.text? name with
  | none => rfl
  | some t =>
    by_cases ht : t = ""
    · rw [ht]
      exact hf.symm
    · simp [Option.filter, ht]

theorem bind_offsetReset? (t? : Option String) :
    t?.bind offsetReset? = t?.filter (· ∈ ["earliest", "latest"]) := by
  cases t? with
  | none => rfl
  | some t => by_cases ht : t = "earliest" ∨ t = "latest" <;> simp [offsetReset?, Option.filter, ht]

/-- An environment is put onto settings as a layer. -/
theorem applyTo_eq_onto (env : Environment) (s : Settings) : env.applyTo s = env.layer.onto s := by
  have hserver : env.applyToServer s.server = (env.layer.onto s).server := by
    rw [applyToServer, uint16?_eq_number? (by decide), uint64?_eq_number? (by decide)]
    rfl
  have hhub : env.applyToHub s.hub = (env.layer.onto s).hub := by
    rw [applyToHub, uint64?_eq_number? (by decide), uint64?_eq_number? (by decide)]
    rfl
  have hkeepalive : env.applyToKeepalive s.keepalive = (env.layer.onto s).keepalive := by
    rw [applyToKeepalive, uint64?_eq_number? (by decide), uint64?_eq_number? (by decide),
      uint64?_eq_number? (by decide)]
    rfl
  have hbus : env.applyToBus s.bus = (env.layer.onto s).bus := by
    rw [applyToBus, bind_filled? rfl, bind_offsetReset?]
    rfl
  have hlogging : env.applyToLogging s.logging = (env.layer.onto s).logging := by
    rw [applyToLogging, bind_filled? (by decide +kernel)]
    rfl
  rw [applyTo, hserver, hhub, hkeepalive, hbus, hlogging]

end Environment
end Switchboard
