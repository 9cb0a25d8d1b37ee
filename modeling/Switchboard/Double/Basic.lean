/-!
# Finite binary64 numbers

A finite number of the format binary64 is a sign and a **magnitude**, the number's place in the
increasing list of non-negative finite numbers of the format.  The magnitude is also the number's
encoding without its sign bit: there are `2 ^ 52` places for every value of the exponent field, of
which the greatest, kept for the infinities, is left out.

A magnitude `m` stands for `significand m * 2 ^ exponent m`, exactly.
-/
namespace Switchboard

/-- How many places there are for one value of the exponent field: two to the power of 52. -/
abbrev Double.stride : Nat := 0x10000000000000

/-- How many non-negative finite numbers there are. -/
abbrev Double.limit : Nat := 2047 * Double.stride

/-- A finite binary64 number. -/
structure Double where
  /-- The sign; a negative zero is a number of its own. -/
  negative : Bool
  /-- The place among the non-negative finite numbers. -/
  magnitude : Fin Double.limit
  deriving DecidableEq, Repr

namespace Double

/-- The integer part of what a magnitude stands for. -/
def significand (m : Fin limit) : Nat :=
  if m.val < stride then m.val else stride + m.val % stride

/-- The power of two that goes with the significand. -/
def exponent (m : Fin limit) : Int :=
  if m.val < stride then -1074 else (m.val / stride : Nat) - 1075

/-- The numerator of what a magnitude stands for. -/
def numerator (m : Fin limit) : Nat :=
  significand m * Nat.pow 2 (exponent m).toNat

/-- The denominator of what a magnitude stands for. -/
def denominator (m : Fin limit) : Nat :=
  Nat.pow 2 (-exponent m).toNat

/-- The magnitude of zero, which is the first one. -/
def first : Fin limit := ⟨0, by decide⟩

/-- The zero that is not negative. -/
def zero : Double := ⟨false, first⟩

end Double
end Switchboard
