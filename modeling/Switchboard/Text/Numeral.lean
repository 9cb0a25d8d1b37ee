/-!
# Numbers in a range

A number given as text is one plus sign at most and then decimal digits, with as many leading zeros
as you like.  `rangedNumeral?` accepts it if its exact value fits the type and the range.
-/
namespace Switchboard.Text

/-- The value of decimal digits, of which there is at least one. -/
def digitsValue? (cs : List Char) : Option Nat :=
  if cs ≠ [] ∧ cs.all Char.isDigit then
    some (cs.foldl (fun n c => n * 10 + (c.toNat - 48)) 0)
  else none

/-- The value of digits with at most one plus sign before them. -/
def numeral? : List Char → Option Nat
  | '+' :: cs => digitsValue? cs
  | cs => digitsValue? cs

/-- The value of a numeral that is below `limit` and from `low` to `high`. -/
def rangedNumeral? (limit low high : Nat) (s : String) : Option Nat :=
  match numeral? s.toList with
  | some n => if n < limit ∧ low ≤ n ∧ n ≤ high then some n else none
  | none => none

end Switchboard.Text
