import Switchboard.Double.Shortest

/-!
# Numbers as text

The digits of a number are those of its shortest decimal.  Positional text puts the point where it
belongs and fills up with zeros; scientific text has one digit before the point.
-/
namespace Switchboard.Double

/-- Takes trailing zeros off the digits of a decimal; the power of ten makes up for them. -/
def stripZeros : Nat → Nat × Int → Nat × Int
  | 0, r => r
  | fuel + 1, (digits, e) =>
    if digits ≠ 0 ∧ digits % 10 = 0 then stripZeros fuel (digits / 10, e + 1) else (digits, e)

/-- The digits of a magnitude as characters, with the power of ten of the first one. -/
def leadingDigits (m : Fin limit) : List Char × Int :=
  let (digits, e) := stripZeros 400 (shortest m)
  let ds := Nat.toDigits 10 digits
  (ds, e + ds.length - 1)

/-- Digits with the point after the one that counts units; `lead` is the power of ten of the first
digit.  A number without a fractional part ends in `whole`. -/
def positional (whole : List Char) (ds : List Char) (lead : Int) : List Char :=
  if lead < 0 then ['0', '.'] ++ List.replicate (-lead - 1).toNat '0' ++ ds
  else
    let units := lead.toNat + 1
    if ds.length ≤ units then ds ++ List.replicate (units - ds.length) '0' ++ whole
    else ds.take units ++ ['.'] ++ ds.drop units

/-- Digits with the point after the first one, and a signed power of ten. -/
def scientific (ds : List Char) (lead : Int) : List Char :=
  let fraction := match ds.tail with
    | [] => []
    | rest => '.' :: rest
  let sign := if lead < 0 then '-' else '+'
  ds.take 1 ++ fraction ++ ['e', sign] ++ Nat.toDigits 10 lead.natAbs

/-- The sign of a number as text. -/
def signText (x : Double) : List Char :=
  if x.negative then ['-'] else []

/-- Positional text without a fractional part where the number has none. -/
def plainText (x : Double) : String :=
  let (ds, lead) := leadingDigits x.magnitude
  String.ofList (signText x ++ positional [] ds lead)

end Switchboard.Double
