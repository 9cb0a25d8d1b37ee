import Switchboard.ContentType
import Switchboard.Instant.Reader
import Switchboard.Instant.Writer
import Switchboard.Message
import Switchboard.Source.Basic

/-!
# Envelopes

An envelope describes the event that it carries: which version of the specification it follows,
what kind of event it is, where it comes from, when it happened and what its data is written in.
Both reading and writing check the source, so an envelope that has been read can be written again.

Faults are met in a fixed order: the JSON text and the types of its fields, then the version, the
content type and the source.
-/
namespace Switchboard

/-- Why an envelope or a message was not taken. -/
inductive CodecError
  | specVersion (found : String)
  | contentType (found : String)
  | source (found : String) (reason : Source.Fault)
  | envelope (fault : Json.Fault)
  | message (fault : Json.Fault)
  deriving DecidableEq, Repr

namespace CodecError

/-- The short name of the kind of an error. -/
def kind : CodecError → String
  | specVersion _ => "invalid_spec_version"
  | contentType _ => "invalid_content_type"
  | source .. => "invalid_source"
  | envelope _ => "malformed_envelope"
  | message _ => "malformed_message"

/-- What is said of a source that is not accepted for a reason. -/
def sourceText (found reason : String) : String :=
  "invalid source URI " ++ Text.quoted found ++ ": " ++ reason

/-- The wording of an error. -/
def text : CodecError → String
  | specVersion found => "unsupported spec version: " ++ Text.quoted found
  | contentType found => "unsupported content type: " ++ Text.quoted found
  | source found reason => sourceText found reason.message
  | envelope fault => "malformed envelope: " ++ fault.message
  | message fault => "malformed message: " ++ fault.message

end CodecError

/-- The version that a text names. -/
def SpecVersion.ofText (s : String) : Except CodecError SpecVersion :=
  match ofText? s with
  | some v => .ok v
  | none => .error (.specVersion s)

/-- The content type that a text names. -/
def ContentType.ofText (s : String) : Except CodecError ContentType :=
  match ofText? s with
  | some c => .ok c
  | none => .error (.contentType s)

/-- Checks a source reference. -/
def Source.accept (source : String) : Except CodecError Unit :=
  (Source.check source).mapError (.source source)

/-- An event with its description. -/
structure Envelope where
  specVersion : SpecVersion
  /-- What kind of event it is. -/
  type : String
  /-- Where it comes from. -/
  source : String
  id : String
  time : Option Instant
  contentType : ContentType
  data : Json.Value
  deriving DecidableEq

namespace Envelope

/-- The attributes of an envelope as they stand in a JSON text. -/
structure Attributes where
  specVersion : String
  type : String
  source : String
  id : String
  time : Option Instant
  contentType : Option String
  data : Json.Value

/-- How the time of an envelope is read. -/
def timeDecoder : Json.Decoder Instant :=
  .stringAs "an RFC 3339 formatted date and time string" fun s =>
    (Instant.read s).mapError Instant.Fault.message

/-- The attributes of an envelope; those that describe neither time nor content are required. -/
def fields : List (Json.Field Attributes) := [
  .required "specversion" .string fun s a => { a with specVersion := s },
  .required "type" .string fun s a => { a with type := s },
  .required "source" .string fun s a => { a with source := s },
  .required "id" .string fun s a => { a with id := s },
  .optional "time" (.optional timeDecoder) fun t a => { a with time := t },
  .optional "datacontenttype" (.optional .string) fun s a => { a with contentType := s },
  .optional "data" .value fun v a => { a with data := v }]

/-- How the attributes of an envelope are read. -/
def attributesDecoder : Json.Decoder Attributes :=
  .record "struct WireIn" ⟨"", "", "", "", none, none, .null⟩ fields

/-- The envelope with the given attributes. -/
def ofAttributes (a : Attributes) : Except CodecError Envelope := do
  let specVersion ← SpecVersion.ofText a.specVersion
  let contentType ← match a.contentType with
    | some s => ContentType.ofText s
    | none => pure .applicationJson
  Source.accept a.source
  return ⟨specVersion, a.type, a.source, a.id, a.time, contentType, a.data⟩

/-- Reads an envelope. -/
def decode (bytes : Bytes) : Except CodecError Envelope := do
  ofAttributes (← (attributesDecoder.parse bytes).mapError .envelope)

/-- The attributes of an envelope in the order in which they are written. -/
def written (e : Envelope) : List (String × Json.Value) :=
  [("specversion", .string e.specVersion.text), ("type", .string e.type),
    ("source", .string e.source), ("id", .string e.id)] ++
  (match e.time with
    | some t => [("time", .string t.text)]
    | none => []) ++
  [("datacontenttype", .string e.contentType.text), ("data", e.data)]

/-- Writes an envelope. -/
def encode (e : Envelope) : Except CodecError String := do
  Source.accept e.source
  return (Json.Value.object e.written).text

/-- The envelope of data that is sent now. -/
def stamped (data : Json.Value) (source id type : String) (now : Instant) : Envelope :=
  ⟨.v1_0, type, source, id, some now, .applicationJson, data⟩

end Envelope

namespace ClientMessage

/-- Reads a message. -/
def parse (bytes : Bytes) : Except CodecError ClientMessage :=
  (decoder.parse bytes).mapError .message

/-- Reads a message from a value. -/
def ofValue (v : Json.Value) : Except CodecError ClientMessage :=
  (decoder.ofValue v).mapError .message

end ClientMessage

/-- The message that an envelope carries, on its way. -/
def RoutedMessage.ofRecord (bytes : Bytes) : Except CodecError RoutedMessage := do
  let e ← Envelope.decode bytes
  return (← ClientMessage.ofValue e.data).routed

end Switchboard
