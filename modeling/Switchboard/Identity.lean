import Switchboard.Json.Record
import Switchboard.Json.Writer
import Switchboard.Name

/-!
# Identities

Who is at the other end of a connection.  An identity is taken on trust from whoever accepts the
connection; it is only indexed.
-/
namespace Switchboard

/-- Who is at the other end of a connection. -/
structure Identity where
  user : UserId
  /-- The empty name for none. -/
  organization : OrganizationId
  roles : NameSet .role

namespace Identity

/-- The identity with the given parts. -/
def ofParts (user organization : String) (roles : List String) : Identity :=
  ⟨⟨user⟩, ⟨organization⟩, .ofNames (roles.map Name.mk)⟩

/-- Whether the user holds a role. -/
def hasRole (i : Identity) (role : Role) : Bool :=
  i.roles.contains role

/-- The organization, if there is one. -/
def organization? (i : Identity) : Option OrganizationId :=
  if i.organization.text.isEmpty then none else some i.organization

/-- The fields of an identity. -/
def fields : List (Json.Field Identity) := [
  .required "userId" Name.decoder fun n i => { i with user := n },
  .optional "organization" Name.decoder fun n i => { i with organization := n },
  .optional "roles" NameSet.decoder fun ns i => { i with roles := ns }]

/-- How an identity is read. -/
def decoder : Json.Decoder Identity :=
  .record "struct Identity" ⟨⟨""⟩, ⟨""⟩, ∅⟩ fields

/-- The JSON text of an identity. -/
def text (i : Identity) : String :=
  (Json.Value.object [
    ("userId", i.user.json),
    ("organization", i.organization.json),
    ("roles", NameSet.json i.roles)]).text

end Identity
end Switchboard
