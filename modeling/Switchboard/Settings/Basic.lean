import Switchboard.Json.Record
import Switchboard.Logging

/-!
# Settings

All that can be set, section by section, with what holds where nothing is set.  Settings are read
from and written to JSON; every field may be absent.  `validate` refuses what the relay cannot be
run with, and names the first such thing.
-/
namespace Switchboard

/-- The listener. -/
structure ServerSettings where
  host : String := "127.0.0.1"
  /-- Zero for any free port. -/
  port : UInt16 := 8080
  /-- The size in bytes of the largest message that is taken from a WebSocket. -/
  maxMessageSize : UInt64 := 524288
  deriving DecidableEq, Repr

/-- The hub's mailbox and the connections' queues. -/
structure HubSettings where
  eventBuffer : UInt64 := 1024
  outboundQueueCapacity : UInt64 := 256
  deriving DecidableEq, Repr

/-- The timing of the pumps, in milliseconds. -/
structure KeepaliveSettings where
  /-- How long a frame may take to be written. -/
  writeWait : UInt64 := 10000
  /-- How long a peer may go without a pong. -/
  pongWait : UInt64 := 60000
  /-- How often a peer is pinged. -/
  pingPeriod : UInt64 := 54000
  deriving DecidableEq, Repr

/-- The external bus. -/
structure BusSettings where
  brokers : String := "localhost:9092"
  groupId : String := "relay"
  topics : List String := []
  /-- Where to start when nothing has been consumed yet. -/
  autoOffsetReset : String := "latest"
  deriving DecidableEq, Repr

/-- Log output. -/
structure LoggingSettings where
  /-- The filter where the environment has none. -/
  level : String := "info"
  format : LogFormat := .compact
  deriving DecidableEq, Repr

/-- All settings. -/
structure Settings where
  server : ServerSettings := {}
  hub : HubSettings := {}
  keepalive : KeepaliveSettings := {}
  bus : BusSettings := {}
  logging : LoggingSettings := {}
  deriving DecidableEq, Repr

open Json

/-- How a 16-bit number is read. -/
def uint16Decoder : Decoder UInt16 :=
  (Decoder.unsigned "u16" UInt16.size).map UInt16.ofNat

/-- How a 64-bit duration is read. -/
def millisecondsDecoder : Decoder UInt64 :=
  (Decoder.unsigned "u64" UInt64.size).map UInt64.ofNat

/-- How a size is read. -/
def sizeDecoder : Decoder UInt64 :=
  (Decoder.unsigned "usize" UInt64.size).map UInt64.ofNat

/-- A number as it is written. -/
def numberJson (n : Nat) : Value :=
  .number (.natural (UInt64.ofNat n))

namespace ServerSettings

def decoder : Decoder ServerSettings :=
  .record "struct ServerSettings" {} [
    .optional "host" .string fun v s => { s with host := v },
    .optional "port" uint16Decoder fun v s => { s with port := v },
    .optional "maxMessageSize" sizeDecoder fun v s => { s with maxMessageSize := v }]

def json (s : ServerSettings) : Value := .object [
  ("host", .string s.host),
  ("maxMessageSize", numberJson s.maxMessageSize.toNat),
  ("port", numberJson s.port.toNat)]

end ServerSettings

namespace HubSettings

def decoder : Decoder HubSettings :=
  .record "struct HubSettings" {} [
    .optional "eventBuffer" sizeDecoder fun v s => { s with eventBuffer := v },
    .optional "outboundQueueCapacity" sizeDecoder fun v s =>
      { s with outboundQueueCapacity := v }]

def json (s : HubSettings) : Value := .object [
  ("eventBuffer", numberJson s.eventBuffer.toNat),
  ("outboundQueueCapacity", numberJson s.outboundQueueCapacity.toNat)]

end HubSettings

namespace KeepaliveSettings

def decoder : Decoder KeepaliveSettings :=
  .record "struct KeepaliveSettings" {} [
    .optional "writeWaitMs" millisecondsDecoder fun v s => { s with writeWait := v },
    .optional "pongWaitMs" millisecondsDecoder fun v s => { s with pongWait := v },
    .optional "pingPeriodMs" millisecondsDecoder fun v s => { s with pingPeriod := v }]

def json (s : KeepaliveSettings) : Value := .object [
  ("pingPeriodMs", numberJson s.pingPeriod.toNat),
  ("pongWaitMs", numberJson s.pongWait.toNat),
  ("writeWaitMs", numberJson s.writeWait.toNat)]

end KeepaliveSettings

namespace BusSettings

def decoder : Decoder BusSettings :=
  .record "struct BusSettings" {} [
    .optional "brokers" .string fun v s => { s with brokers := v },
    .optional "groupId" .string fun v s => { s with groupId := v },
    .optional "topics" (.list .string) fun v s => { s with topics := v },
    .optional "autoOffsetReset" .string fun v s => { s with autoOffsetReset := v }]

def json (s : BusSettings) : Value := .object [
  ("autoOffsetReset", .string s.autoOffsetReset),
  ("brokers", .string s.brokers),
  ("groupId", .string s.groupId),
  ("topics", .array (s.topics.map Value.string))]

end BusSettings

namespace LoggingSettings

def decoder : Decoder LoggingSettings :=
  .record "struct LoggingSettings" {} [
    .optional "level" .string fun v s => { s with level := v },
    .optional "format" LogFormat.decoder fun v s => { s with format := v }]

def json (s : LoggingSettings) : Value := .object [
  ("format", .string s.format.text),
  ("level", .string s.level)]

end LoggingSettings

/-- Why settings were not taken. -/
inductive SettingsError
  /-- The file cannot be read. -/
  | unreadable (reason : String)
  | json (fault : Json.Fault)
  | zeroQueueCapacity
  | zeroEventBuffer
  | zeroWriteWait
  /-- Pings do not come before the peer is given up. -/
  | pingPeriod (pingPeriod pongWait : Nat)
  | emptyTopic
  deriving DecidableEq, Repr

namespace SettingsError

/-- The short name of the kind of an error. -/
def kind : SettingsError → String
  | unreadable _ => "Io"
  | json _ => "Json"
  | _ => "InvalidValue"

/-- What lies behind an error, if it is not the error itself. -/
def cause? : SettingsError → Option String
  | unreadable reason => some reason
  | json fault => some fault.message
  | _ => none

/-- What is wrong with a value. -/
def detail : SettingsError → String
  | unreadable reason => reason
  | json fault => fault.message
  | zeroQueueCapacity => "hub.outboundQueueCapacity must be non-zero"
  | zeroEventBuffer => "hub.eventBuffer must be non-zero"
  | zeroWriteWait => "keepalive.writeWaitMs must be non-zero"
  | pingPeriod ping pong =>
    "keepalive.pingPeriodMs (" ++ toString ping ++
      ") must be non-zero and shorter than keepalive.pongWaitMs (" ++ toString pong ++ ")"
  | emptyTopic => "bus.topics must not contain empty names"

/-- What is said of a value that is wrong in some way. -/
def valueText (detail : String) : String :=
  "invalid settings value: " ++ detail

/-- The wording of an error. -/
def message (e : SettingsError) : String :=
  match e with
  | unreadable reason => "failed to read settings file: " ++ reason
  | json fault => "failed to parse settings JSON: " ++ fault.message
  | e => valueText e.detail

end SettingsError

namespace Settings

/-- How settings are read. -/
def decoder : Decoder Settings :=
  .record "struct RelaySettings" {} [
    .optional "server" ServerSettings.decoder fun v s => { s with server := v },
    .optional "hub" HubSettings.decoder fun v s => { s with hub := v },
    .optional "keepalive" KeepaliveSettings.decoder fun v s => { s with keepalive := v },
    .optional "bus" BusSettings.decoder fun v s => { s with bus := v },
    .optional "logging" LoggingSettings.decoder fun v s => { s with logging := v }]

/-- The JSON value of settings. -/
def json (s : Settings) : Value := .object [
  ("bus", s.bus.json),
  ("hub", s.hub.json),
  ("keepalive", s.keepalive.json),
  ("logging", s.logging.json),
  ("server", s.server.json)]

/-- Refuses settings that the relay cannot be run with. -/
def validate (s : Settings) : Except SettingsError Unit :=
  if s.hub.outboundQueueCapacity = 0 then .error .zeroQueueCapacity
  else if s.hub.eventBuffer = 0 then .error .zeroEventBuffer
  else if s.keepalive.writeWait = 0 then .error .zeroWriteWait
  else if s.keepalive.pingPeriod = 0 ∨ s.keepalive.pongWait ≤ s.keepalive.pingPeriod then
    .error (.pingPeriod s.keepalive.pingPeriod.toNat s.keepalive.pongWait.toNat)
  else if s.bus.topics.any String.isEmpty then .error .emptyTopic
  else .ok ()

/-- Where the listener is bound. -/
def bindAddress (s : Settings) : String :=
  s.server.host ++ ":" ++ toString s.server.port.toNat

end Settings
end Switchboard
