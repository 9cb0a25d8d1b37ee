import Switchboard.Instant.Basic

/-!
# Writing an instant

An instant is written as a date, a time and a `Z`.  A year of up to four digits has four; any other
has a sign as well.  Fractions of a second have three, six or nine digits, as few as lose nothing,
and none where there is no fraction.
-/
namespace Switchboard.Instant

/-- The decimal digits of `n`, at least `width` of them. -/
def digits (width n : Nat) : List Char :=
  let ds := Nat.toDigits 10 n
  List.replicate (width - ds.length) '0' ++ ds

/-- A year. -/
def yearText (year : Int) : List Char :=
  if 0 ≤ year ∧ year ≤ 9999 then digits 4 year.toNat
  else (if year < 0 then '-' else '+') :: digits 4 year.natAbs

/-- A fraction of a second with the point before it. -/
def fractionText (nanosecond : Nat) : List Char :=
  if nanosecond = 0 then []
  else if nanosecond % 1000000 = 0 then '.' :: digits 3 (nanosecond / 1000000)
  else if nanosecond % 1000 = 0 then '.' :: digits 6 (nanosecond / 1000)
  else '.' :: digits 9 nanosecond

/-- The text of an instant. -/
def text (i : Instant) : String :=
  String.ofList <|
    yearText i.date.year ++ '-' :: digits 2 i.date.month ++ '-' :: digits 2 i.date.day ++
    'T' :: digits 2 i.time.hour.val ++ ':' :: digits 2 i.time.minute.val ++
    ':' :: digits 2 i.time.second.val ++ fractionText i.time.nanosecond.val ++ ['Z']

end Switchboard.Instant
