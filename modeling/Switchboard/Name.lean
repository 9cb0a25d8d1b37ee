import Std.Data.ExtTreeMap
import Std.Data.ExtTreeSet
import Switchboard.Json.Decoder

/-!
# Names of users, roles and organizations

A name is a text that is never taken apart.  The three kinds of names are different types, so that
a role is not looked up among the users.  Names are ordered by code point, which is also the order
of their UTF-8 forms; sets and maps list them in that order, so two sets with the same members are
equal and are written the same way.
-/
namespace Switchboard

/-- What a name names. -/
inductive NameKind
  | user
  | role
  | organization
  deriving DecidableEq, Repr

/-- A name of the given kind. -/
structure Name (kind : NameKind) where
  text : String
  deriving DecidableEq, Repr

/-- The name of a user. -/
abbrev UserId := Name .user

/-- The name of a role. -/
abbrev Role := Name .role

/-- The name of an organization; the empty one stands for none. -/
abbrev OrganizationId := Name .organization

namespace Name

variable {kind : NameKind}

/-- Names are compared by their texts. -/
def order (a b : Name kind) : Ordering :=
  compare a.text b.text

instance : Ord (Name kind) := ⟨order⟩

instance : Std.TransOrd (Name kind) where
  eq_swap {a b} := Std.OrientedOrd.eq_swap (α := String) (a := a.text) (b := b.text)
  isLE_trans {a _ _} h₁ h₂ := Std.TransOrd.isLE_trans (α := String) (a := a.text) h₁ h₂

instance : Std.LawfulEqOrd (Name kind) where
  compare_self {a} := Std.ReflOrd.compare_self (α := String) (a := a.text)
  eq_of_compare {a b} h := by
    have : a.text = b.text := Std.LawfulEqOrd.eq_of_compare (α := String) h
    cases a; cases b; cases this; rfl

instance : Inhabited (Name kind) := ⟨⟨""⟩⟩

/-- A name is written as a string. -/
def json (n : Name kind) : Json.Value := .string n.text

/-- A name is read from a string. -/
def decoder : Json.Decoder (Name kind) := Json.Decoder.string.map Name.mk

end Name

/-- A set of names, listed in order. -/
abbrev NameSet (kind : NameKind) := Std.ExtTreeSet (Name kind)

namespace NameSet

variable {kind : NameKind}

/-- The names of a list, each once. -/
def ofNames (names : List (Name kind)) : NameSet kind :=
  names.foldl (fun s n => s.insert n) ∅

/-- A set of names is read from an array in any order, with or without repetitions. -/
def decoder : Json.Decoder (NameSet kind) := (Json.Decoder.list Name.decoder).map ofNames

/-- A set of names is written as an array in increasing order. -/
def json (s : NameSet kind) : Json.Value := .array (s.toList.map Name.json)

end NameSet
end Switchboard
