/-!
# Dates and instants

A date is a day of the proleptic Gregorian calendar, in a year that the calendar's users agreed to
count.  An instant is a reading of a clock set to UTC, to the nanosecond.  A minute may have a
sixty-first second, so a leap second is an instant of its own.

A clock that is set to an offset of whole minutes reads the same seconds; `Instant.atOffset?` finds
the instant at which such a clock reads a given date and time.
-/
namespace Switchboard

/-- Whether a year has a twenty-ninth of February. -/
def isLeapYear (year : Int) : Bool :=
  year % 4 == 0 && (year % 100 != 0 || year % 400 == 0)

/-- The days of a month. -/
def daysInMonth (year : Int) (month : Nat) : Nat :=
  if month = 2 then (if isLeapYear year then 29 else 28)
  else if month = 4 ∨ month = 6 ∨ month = 9 ∨ month = 11 then 30
  else 31

/-- What makes three numbers a date. -/
def IsDate (year : Int) (month day : Nat) : Prop :=
  (-262143 ≤ year ∧ year ≤ 262142) ∧ (1 ≤ month ∧ month ≤ 12) ∧
    1 ≤ day ∧ day ≤ daysInMonth year month

instance (year : Int) (month day : Nat) : Decidable (IsDate year month day) :=
  inferInstanceAs (Decidable (_ ∧ _ ∧ _))

/-- A day of the calendar. -/
structure Date where
  year : Int
  month : Nat
  day : Nat
  isDate : IsDate year month day
  deriving DecidableEq

namespace Date

/-- The date with the given parts. -/
def ofParts? (year : Int) (month day : Nat) : Option Date :=
  if h : IsDate year month day then some ⟨year, month, day, h⟩ else none

/-- The next day. -/
def next? (d : Date) : Option Date :=
  if d.day < daysInMonth d.year d.month then ofParts? d.year d.month (d.day + 1)
  else if d.month < 12 then ofParts? d.year (d.month + 1) 1
  else ofParts? (d.year + 1) 1 1

/-- The day before. -/
def previous? (d : Date) : Option Date :=
  if 1 < d.day then ofParts? d.year d.month (d.day - 1)
  else if 1 < d.month then ofParts? d.year (d.month - 1) (daysInMonth d.year (d.month - 1))
  else ofParts? (d.year - 1) 12 31

end Date

/-- A reading of a clock. -/
structure TimeOfDay where
  hour : Fin 24
  minute : Fin 60
  /-- The sixty-first second is a leap second. -/
  second : Fin 61
  nanosecond : Fin 1000000000
  deriving DecidableEq, Repr

/-- A date and a reading of a clock set to UTC. -/
structure Instant where
  date : Date
  time : TimeOfDay
  deriving DecidableEq

namespace Instant

/-- The same time `minutes` after midnight. -/
def setMinutes (time : TimeOfDay) (minutes : Nat) : TimeOfDay :=
  { time with
    hour := ⟨minutes / 60 % 24, Nat.mod_lt _ (by decide)⟩
    minute := ⟨minutes % 60, Nat.mod_lt _ (by decide)⟩ }

/-- The instant at which a clock that is `offset` minutes ahead of UTC, by less than a day, reads a
given date and time. -/
def atOffset? (date : Date) (time : TimeOfDay) (offset : Int) : Option Instant :=
  let minutes : Int := time.hour.val * 60 + time.minute.val - offset
  if minutes < 0 then
    date.previous?.map fun d => ⟨d, setMinutes time (minutes + 1440).toNat⟩
  else if 1440 ≤ minutes then
    date.next?.map fun d => ⟨d, setMinutes time (minutes - 1440).toNat⟩
  else some ⟨date, setMinutes time minutes.toNat⟩

end Instant
end Switchboard
