import Switchboard.ConnectionId
import Switchboard.Identity
import Switchboard.Message

/-!
# The registry of clients

A client is an identity together with the name of its connection.  The registry holds at most one
client for each user, and finds clients by user, by role and by organization.  Role and
organization entries exist only while they have members.

A message is resolved to the clients that its audience describes, each of them once.
-/
namespace Switchboard

/-- Who is reached over a connection. -/
structure Client where
  connection : ConnectionId
  identity : Identity

namespace Client

/-- The user of a client. -/
def user (c : Client) : UserId := c.identity.user

/-- The roles of a client. -/
def roles (c : Client) : List Role := c.identity.roles.toList

/-- The organization of a client, the empty name for none. -/
def organization (c : Client) : OrganizationId := c.identity.organization

/-- The organization of a client, if it has one. -/
def organization? (c : Client) : Option OrganizationId := c.identity.organization?

end Client

/-- Clients by the names of their connections. -/
abbrev Members := Std.ExtTreeMap ConnectionId Client

/-- The members of every group of a kind; no group is empty. -/
abbrev Groups (kind : NameKind) := Std.ExtTreeMap (Name kind) Members

namespace Groups

variable {kind : NameKind}

/-- The groups with a client added to one of them. -/
def join (c : Client) (name : Name kind) (groups : Groups kind) : Groups kind :=
  groups.alter name fun members => some ((members.getD ∅).insert c.connection c)

/-- The groups with a client taken out of one of them.  A group that nobody is left in is gone. -/
def leave (c : Client) (name : Name kind) (groups : Groups kind) : Groups kind :=
  groups.alter name fun
    | some members =>
      let rest := members.erase c.connection
      if rest.isEmpty then none else some rest
    | none => none

/-- The members of a group, none if there is no such group. -/
def membersOf (groups : Groups kind) (name : Name kind) : List Client :=
  match groups[name]? with
  | some members => members.values
  | none => []

end Groups

/-- Who is connected. -/
structure Registry where
  byUser : Std.ExtTreeMap UserId Client
  byRole : Groups .role
  byOrganization : Groups .organization

namespace Registry

/-- How many clients are registered, and how many roles and organizations they have. -/
structure Stats where
  clients : Nat
  roles : Nat
  organizations : Nat
  deriving DecidableEq, Repr

/-- The registry in which nobody is registered. -/
def empty : Registry := ⟨∅, ∅, ∅⟩

instance : EmptyCollection Registry := ⟨empty⟩

instance : Inhabited Registry := ⟨∅⟩

/-- How many clients are registered. -/
def size (r : Registry) : Nat := r.byUser.size

/-- The sizes of a registry. -/
def stats (r : Registry) : Stats := ⟨r.byUser.size, r.byRole.size, r.byOrganization.size⟩

/-- The registered clients. -/
def clients (r : Registry) : List Client := r.byUser.values

/-- Whether a client is the registered one of its user. -/
def isRegistered (c : Client) (r : Registry) : Bool :=
  match r.byUser[c.user]? with
  | some current => current.connection == c.connection
  | none => false

/-- Adds a client to the groups of its roles and its organization. -/
def joinGroups (c : Client) (r : Registry) : Registry :=
  { r with
    byRole := c.roles.foldl (fun groups role => groups.join c role) r.byRole
    byOrganization := match c.organization? with
      | some organization => r.byOrganization.join c organization
      | none => r.byOrganization }

/-- Takes a client out of the groups of its roles and its organization. -/
def leaveGroups (c : Client) (r : Registry) : Registry :=
  { r with
    byRole := c.roles.foldl (fun groups role => groups.leave c role) r.byRole
    byOrganization := r.byOrganization.leave c c.organization }

/-- Registers a client in the place of whoever was registered for its user, and tells which other
connection is superseded by that. -/
def register (c : Client) (r : Registry) : Registry × Option Client :=
  let previous := r.byUser[c.user]?
  let r := { r with byUser := r.byUser.insert c.user c }
  let r := match previous with
    | some p => r.leaveGroups p
    | none => r
  (r.joinGroups c, previous.filter fun p => p.connection != c.connection)

/-- Takes a client out, unless another connection of its user is the registered one, and tells
whether it was there. -/
def unregister (c : Client) (r : Registry) : Registry × Bool :=
  if r.isRegistered c then
    ({ r with byUser := r.byUser.erase c.user }.leaveGroups c, true)
  else (r, false)

/-- Takes everybody out. -/
def drain (r : Registry) : Registry × List Client := (∅, r.clients)

/-- The clients of a list, without later ones on a connection that was there before. -/
def distinct : List Client → List Client
  | [] => []
  | c :: rest => c :: (distinct rest).filter fun other => other.connection != c.connection

/-- The clients whom an audience describes. -/
def resolve (audience : Audience) (r : Registry) : List Client :=
  match audience with
  | .everyone => r.clients
  | .named users roles organizations =>
    distinct (users.toList.filterMap (r.byUser[·]?) ++
      roles.toList.flatMap r.byRole.membersOf ++
      organizations.toList.flatMap r.byOrganization.membersOf)

theorem mem_of_mem_distinct {c : Client} {cs : List Client} (h : c ∈ distinct cs) : c ∈ cs := by
  induction cs with
  | nil => exact h
  | cons d ds ih =>
    simp only [distinct, List.mem_cons, List.mem_filter] at h ⊢
    exact h.imp id fun h => ih h.1

/-- No connection occurs twice. -/
theorem pairwise_distinct (cs : List Client) :
    (distinct cs).Pairwise fun a b => a.connection ≠ b.connection := by
  induction cs with
  | nil => exact .nil
  | cons c rest ih =>
    refine List.pairwise_cons.2 ⟨fun d hd => ?_, ih.filter _⟩
    exact fun h => by simp [h] at hd

end Registry
end Switchboard
