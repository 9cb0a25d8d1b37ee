import Switchboard.Double.Basic

/-!
# The nearest binary64 number

`nearest? n d` is the magnitude nearest to the fraction `n / d`; of two equally near ones it is the
one with an even significand.  There is none when the fraction lies beyond the greatest finite
number by half a step or more.  All arithmetic is exact.
-/
namespace Switchboard.Double

/-- The greatest `k` with `2 ^ k ≤ n / d`, for positive `n` and `d`. -/
def floorLog2 (n d : Nat) : Int :=
  let k : Int := (n.log2 : Int) - d.log2
  if d * Nat.pow 2 k.toNat ≤ n * Nat.pow 2 (-k).toNat then k else k - 1

/-- The nearest integer to `n / d`, the even one of two equally near ones. -/
def roundHalfEven (n d : Nat) : Nat :=
  let q := n / d
  let r := n % d
  if d < 2 * r || (2 * r == d && q % 2 == 1) then q + 1 else q

/-- The magnitude nearest to `n / d`. -/
def nearest? (n d : Nat) : Option (Fin limit) :=
  if n = 0 then some first
  else
    let e := max (floorLog2 n d - 52) (-1074)
    let q := roundHalfEven (n * Nat.pow 2 (-e).toNat) (d * Nat.pow 2 e.toNat)
    let m := (e + 1074).toNat * stride + q
    if h : m < limit then some ⟨m, h⟩ else none

/-- The magnitude nearest to `digits * 10 ^ exponent`.  Powers of ten that lie beyond either end
of the format whatever the digits are not computed. -/
def nearestDecimal? (digits : Nat) (exponent : Int) : Option (Fin limit) :=
  if digits = 0 then some first
  else if 400 < exponent then none
  else if exponent < -(400 + digits.log2 : Int) then some first
  else nearest? (digits * Nat.pow 10 exponent.toNat) (Nat.pow 10 (-exponent).toNat)

end Switchboard.Double
