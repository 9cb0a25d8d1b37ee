import Switchboard.Json.Record
import Switchboard.Name
import Switchboard.Payload

/-!
# Messages

A client says whom its message is for by lists of names, or asks for everyone.  What is routed is a
payload with an **audience**: everyone, or whoever is named as a user, holds a named role or
belongs to a named organization.  In an audience the names are sets, so neither their order nor
their repetition in the client's lists matters.
-/
namespace Switchboard

/-- Whom a message is for. -/
inductive Audience
  | everyone
  /-- The named users, the holders of the named roles and the members of the named
  organizations. -/
  | named (users : NameSet .user) (roles : NameSet .role) (organizations : NameSet .organization)

namespace Audience

/-- Nobody. -/
def nobody : Audience := named ∅ ∅ ∅

/-- The audience with a user added; everyone includes the user already. -/
def withUser (user : UserId) : Audience → Audience
  | everyone => everyone
  | named users roles organizations => named (users.insert user) roles organizations

/-- The audience with the holders of a role added. -/
def withRole (role : Role) : Audience → Audience
  | everyone => everyone
  | named users roles organizations => named users (roles.insert role) organizations

/-- The audience with the members of an organization added. -/
def withOrganization (organization : OrganizationId) : Audience → Audience
  | everyone => everyone
  | named users roles organizations => named users roles (organizations.insert organization)

/-- The word for the kind of an audience. -/
def kind : Audience → String
  | everyone => "broadcast"
  | named .. => "targeted"

/-- Whether two audiences name the same. -/
def same : Audience → Audience → Bool
  | everyone, everyone => true
  | named u r o, named u' r' o' =>
    u.toList == u'.toList && r.toList == r'.toList && o.toList == o'.toList
  | _, _ => false

end Audience

/-- A payload and whom it is for. -/
structure RoutedMessage where
  audience : Audience
  payload : Payload

/-- Whether two routed messages are equal. -/
def RoutedMessage.same (a b : RoutedMessage) : Bool :=
  a.audience.same b.audience && a.payload == b.payload

/-- A message as a client sends it. -/
structure ClientMessage where
  /-- For everyone, whatever the lists say. -/
  broadcast : Bool
  users : List UserId
  roles : List Role
  organizations : List OrganizationId
  payload : Json.Value
  deriving DecidableEq, Repr

namespace ClientMessage

/-- A message for nobody, with nothing in it. -/
def empty : ClientMessage := ⟨false, [], [], [], .null⟩

/-- The fields of a message. -/
def fields : List (Json.Field ClientMessage) := [
  .optional "broadcast" .bool fun b m => { m with broadcast := b },
  .optional "users" (.list Name.decoder) fun ns m => { m with users := ns },
  .optional "roles" (.list Name.decoder) fun ns m => { m with roles := ns },
  .optional "organizations" (.list Name.decoder) fun ns m => { m with organizations := ns },
  .optional "payload" .value fun v m => { m with payload := v }]

/-- How a message is read. -/
def decoder : Json.Decoder ClientMessage :=
  .record "struct ClientMessage" empty fields

/-- The fields of a message in the order in which they are written. -/
def written (m : ClientMessage) : List (String × Json.Value) := [
  ("broadcast", .bool m.broadcast),
  ("users", .array (m.users.map Name.json)),
  ("roles", .array (m.roles.map Name.json)),
  ("organizations", .array (m.organizations.map Name.json)),
  ("payload", m.payload)]

/-- The JSON text of a message. -/
def text (m : ClientMessage) : String :=
  (Json.Value.object m.written).text

/-- The JSON value of a message. -/
def json (m : ClientMessage) : Json.Value :=
  .object (m.written.foldl (fun fs (k, v) => Json.Value.setField k v fs) [])

/-- Whom a message is for. -/
def audience (m : ClientMessage) : Audience :=
  if m.broadcast then .everyone
  else .named (.ofNames m.users) (.ofNames m.roles) (.ofNames m.organizations)

/-- A message on its way: its payload in compact form, and whom it is for. -/
def routed (m : ClientMessage) : RoutedMessage :=
  ⟨m.audience, .ofJson m.payload⟩

end ClientMessage
end Switchboard
