import Std.Data.ExtTreeMap

/-!
# Names of connections

Every connection has a name of its own, which is never given out again.  A name is shown as a UUID
of version 7: forty-eight bits of time, then the version, and further bits that tell apart what was
named at the same time.
-/
namespace Switchboard

/-- The name of a connection: the bits of its UUID that are free, as a number. -/
structure ConnectionId where
  value : Nat
  deriving DecidableEq, Repr

namespace ConnectionId

instance : Ord ConnectionId := ⟨fun a b => compare a.value b.value⟩

instance : Std.TransOrd ConnectionId where
  eq_swap {a b} := Std.OrientedOrd.eq_swap (α := Nat) (a := a.value) (b := b.value)
  isLE_trans {a _ _} h₁ h₂ := Std.TransOrd.isLE_trans (α := Nat) (a := a.value) h₁ h₂

instance : Std.LawfulEqOrd ConnectionId where
  compare_self {a} := Std.ReflOrd.compare_self (α := Nat) (a := a.value)
  eq_of_compare {a b} h := by
    have : a.value = b.value := Std.LawfulEqOrd.eq_of_compare (α := Nat) h
    cases a; cases b; cases this; rfl

/-- The lowest `count` bits of a number. -/
def lowBits (count n : Nat) : Nat := n % 1 <<< count

/-- The name of the connection with a serial number, made at a time in milliseconds. -/
def ofSerial (milliseconds serial : Nat) : ConnectionId :=
  ⟨lowBits 48 milliseconds <<< 74 + lowBits 74 serial⟩

/-- Names made with different serial numbers are different, whenever they were made. -/
theorem eq_of_ofSerial_eq {time time' k k' : Nat} (hk : k < 1 <<< 74) (hk' : k' < 1 <<< 74)
    (h : ofSerial time k = ofSerial time' k') : k = k' := by
  have hmod : ∀ n, n < 1 <<< 74 → lowBits 74 n = n := fun n hn => Nat.mod_eq_of_lt hn
  have hvalue : lowBits 48 time <<< 74 + k = lowBits 48 time' <<< 74 + k' := by
    rw [← hmod k hk, ← hmod k' hk']
    exact congrArg value h
  omega

/-- The version of the UUID. -/
def version : Nat := 7

/-- The hundred and twenty-eight bits of the UUID: version and variant stand between the free
ones. -/
def uuid (c : ConnectionId) : Nat :=
  let time := lowBits 48 (c.value >>> 74)
  let high := lowBits 12 (c.value >>> 62)
  let low := lowBits 62 c.value
  let first := (time <<< 4 + version) <<< 12 + high
  first <<< 64 + (1 <<< 63 + low)

/-- Hexadecimal digits of `n`, most significant first. -/
def hexDigits : Nat → Nat → List Char
  | 0, _ => []
  | width + 1, n => hexDigits width (n / 16) ++ [Nat.digitChar (n % 16)]

/-- The UUID as text. -/
def text (c : ConnectionId) : String :=
  let ds := hexDigits 32 c.uuid
  let group (start length : Nat) : List Char := (ds.drop start).take length
  String.ofList (group 0 8 ++ '-' :: group 8 4 ++ '-' :: group 12 4 ++ '-' :: group 16 4 ++
    '-' :: group 20 12)

end ConnectionId
end Switchboard
