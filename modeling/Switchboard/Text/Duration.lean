/-!
# Lengths of time in words

A length of time is written in the greatest of seconds, milli-, micro- and nanoseconds of which it
has at least one, with as many decimal places as it needs.
-/
namespace Switchboard.Text

/-- The decimal places of `part` out of `10 ^ width`, without trailing zeros. -/
def placesText (width part : Nat) : String :=
  let ds := Nat.toDigits 10 part
  let padded := List.replicate (width - ds.length) '0' ++ ds
  let kept := (padded.reverse.dropWhile (· == '0')).reverse
  if part = 0 then "" else "." ++ String.ofList kept

/-- A length of time of so many nanoseconds. -/
def durationText (nanoseconds : Nat) : String :=
  let inUnits (width : Nat) (unit : String) : String :=
    let size := Nat.pow 10 width
    toString (nanoseconds / size) ++ placesText width (nanoseconds % size) ++ unit
  if 1000000000 ≤ nanoseconds then inUnits 9 "s"
  else if 1000000 ≤ nanoseconds then inUnits 6 "ms"
  else if 1000 ≤ nanoseconds then inUnits 3 "µs"
  else inUnits 0 "ns"

end Switchboard.Text
