import Switchboard.Identity
import Switchboard.Text.Bytes
import Switchboard.Text.Entries

/-!
# Identities from request headers

Whoever accepts connections says in three headers who is connecting.  The user has to be named;
organization and roles may be absent.  The headers are looked at in the order user, organization,
roles, and the first one that cannot be used decides how the request is refused.
-/
namespace Switchboard

/-- The headers of a request, in order. -/
abbrev Headers := List (String × Bytes)

namespace Headers

/-- The first value of a header, whose name is found in either case. -/
def first? (headers : Headers) (name : String) : Option Bytes :=
  (headers.find? fun h => Text.lowerAscii h.1 == name).map Prod.snd

/-- A byte that shows, or stands between those that show. -/
def isReadable (b : UInt8) : Bool :=
  (0x20 ≤ b && b < 0x7f) || b == 0x09

end Headers

/-- Why a request for a connection was refused. -/
inductive IdentityRejection
  | missingUser
  /-- The value of a header is not text. -/
  | invalidHeader (name : String)
  deriving DecidableEq, Repr

namespace IdentityRejection

/-- The wording of a refusal. -/
def message : IdentityRejection → String
  | missingUser => "missing x-user-id header"
  | invalidHeader name => "invalid " ++ name ++ " header"

/-- The status that a request is refused with. -/
def status : IdentityRejection → Nat
  | missingUser => 401
  | invalidHeader _ => 400

end IdentityRejection

namespace Identity

/-- The text of a header, if there is one. -/
def headerText? (headers : Headers) (name : String) : Except IdentityRejection (Option String) :=
  match headers.first? name with
  | none => .ok none
  | some b =>
    if b.all Headers.isReadable then .ok (Bytes.text? b) else .error (.invalidHeader name)

/-- The identity that headers give. -/
def ofHeaders (headers : Headers) : Except IdentityRejection Identity := do
  let user ← match (← headerText? headers "x-user-id").map Text.trim with
    | none => throw .missingUser
    | some user => if user.isEmpty then throw .missingUser else pure user
  let organization ← headerText? headers "x-organization-id"
  let roles ← headerText? headers "x-user-roles"
  return ofParts user ((organization.map Text.trim).getD "") ((roles.map Text.entries).getD [])

end Identity
end Switchboard
