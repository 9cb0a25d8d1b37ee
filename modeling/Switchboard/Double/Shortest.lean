import Switchboard.Double.Nearest

/-!
# The shortest decimal that reads back

Among the decimals whose nearest binary64 number is a given one, `shortest` finds one with the
fewest digits, and of those the one nearest to the number.  The decimals with a given number of
digits form a grid, so only the number's two neighbours on each grid are tried, on coarser grids
first.  A decimal is taken only if it reads back, and the number's exact decimal form, which is
the last resort, reads back as well; so `shortest` always gives a decimal that reads back.
-/
namespace Switchboard.Double

/-- The greatest `k` with `10 ^ k ≤ n / d`, for positive `n` and `d`.  The estimate from the
binary logarithm is off by at most one. -/
def floorLog10 (n d : Nat) : Int :=
  let estimate := (floorLog2 n d * 30103) / 100000
  let reaches (k : Int) : Bool := d * Nat.pow 10 k.toNat ≤ n * Nat.pow 10 (-k).toNat
  if reaches (estimate + 1) then estimate + 1
  else if reaches estimate then estimate
  else estimate - 1

/-- Whether `digits * 10 ^ exponent` has `m` as its nearest magnitude. -/
def readsBack (m : Fin limit) (digits : Nat) (exponent : Int) : Bool :=
  nearestDecimal? digits exponent == some m

/-- The nearer of the two neighbours of `m` that reads back, on the grid of decimals with
`places + 1` digits. -/
def onGrid? (m : Fin limit) (places : Nat) : Option (Nat × Int) :=
  let n := numerator m
  let d := denominator m
  let e := floorLog10 n d - places
  let scaledN := n * Nat.pow 10 (-e).toNat
  let scaledD := d * Nat.pow 10 e.toNat
  let below := scaledN / scaledD
  let nearer := roundHalfEven scaledN scaledD
  let farther := if nearer = below then below + 1 else below
  if readsBack m nearer e then some (nearer, e)
  else if readsBack m farther e then some (farther, e)
  else none

/-- The exact decimal form of a magnitude. -/
def exactDecimal (m : Fin limit) : Nat × Int :=
  if 0 ≤ exponent m then (significand m * Nat.pow 2 (exponent m).toNat, 0)
  else (significand m * Nat.pow 5 (-exponent m).toNat, exponent m)

/-- A decimal with the fewest digits that reads back as `m`, as digits and a power of ten. -/
def shortest (m : Fin limit) : Nat × Int :=
  if m.val = 0 then (0, 0) else ((List.range 17).findSome? (onGrid? m)).getD (exactDecimal m)

end Switchboard.Double
