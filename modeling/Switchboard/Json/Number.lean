import Switchboard.Double.Layout

/-!
# JSON numbers

A number is an integer of 64 bits where it can be one, and the nearest binary64 number otherwise.
The integers split by sign, so that each number has one form: a negative integer is counted down
from minus one.  Minus zero is not an integer; it is the binary64 number of that name.
-/
namespace Switchboard.Json

/-- How many negative integers have 64 bits: two to the power of 63. -/
abbrev negativeLimit : Nat := 0x8000000000000000

/-- A JSON number. -/
inductive Number
  /-- An integer from zero up. -/
  | natural (n : UInt64)
  /-- The integer `-1 - below`. -/
  | negative (below : Fin negativeLimit)
  /-- Any other number. -/
  | double (x : Double)
  deriving DecidableEq, Repr

namespace Number

/-- The text of a binary64 number: positional while the first digit counts something between
`10 ^ -5` and `10 ^ 15`, scientific beyond.  There is always a point or a power of ten. -/
def doubleText (x : Double) : String :=
  let (ds, lead) := Double.leadingDigits x.magnitude
  let body :=
    if -5 ≤ lead ∧ lead ≤ 15 then Double.positional ['.', '0'] ds lead
    else Double.scientific ds lead
  String.ofList (Double.signText x ++ body)

/-- The text of a number. -/
def text : Number → String
  | natural n => toString n.toNat
  | negative below => "-" ++ toString (below.val + 1)
  | double x => doubleText x

/-- The number `-n` as an integer, for `n` from 1 to `negativeLimit`. -/
def ofNegated? (n : Nat) : Option Number :=
  if h : 0 < n ∧ n ≤ negativeLimit then some (negative ⟨n - 1, by omega⟩) else none

/-- The number with the given sign and digits, if it is an integer of 64 bits. -/
def ofInteger? (minus : Bool) (n : Nat) : Option Number :=
  if minus then ofNegated? n
  else if n < UInt64.size then some (natural (UInt64.ofNat n))
  else none

end Number
end Switchboard.Json
