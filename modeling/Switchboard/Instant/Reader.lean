import Switchboard.Instant.Basic
import Switchboard.Text.Ascii
import Switchboard.Text.Blank

/-!
# Reading an instant

The accepted form is that of RFC 3339 with some freedom: a single blank may stand for the `T`,
blanks may stand around the parts, parts of two digits may have one, a year may have a sign and then
any number of digits, a fraction may have more digits than count, the offset may lack its colon and
`UTC` may stand for `Z`.  The first fault that is met is the one reported.
-/
namespace Switchboard.Instant

open Text

/-- Why a text is not an instant. -/
inductive Fault
  /-- A part lies outside its range, or there is no such date. -/
  | outOfRange
  /-- The calendar has no day for the instant. -/
  | impossible
  | invalid
  | tooShort
  | tooLong
  deriving DecidableEq, Repr

/-- The wording of a fault. -/
def Fault.message : Fault → String
  | outOfRange => "input is out of range"
  | impossible => "no possible date and time matching input"
  | invalid => "input contains invalid characters"
  | tooShort => "premature end of input"
  | tooLong => "trailing input"

/-- The value of decimal digits. -/
def valueOf (ds : List Char) : Nat :=
  ds.foldl (fun n d => n * 10 + (d.toNat - 48)) 0

/-- A number of one to `most` digits, or of any length. -/
def readNumber (most : Option Nat) (cs : List Char) : Except Fault (Nat × List Char) :=
  match cs with
  | [] => .error .tooShort
  | c :: _ =>
    if c.isDigit then
      let all := cs.takeWhile Char.isDigit
      let ds := match most with
        | some n => all.take n
        | none => all
      .ok (valueOf ds, cs.drop ds.length)
    else .error .invalid

/-- A number of at most two digits in a range, after blanks. -/
def readPart (low high : Nat) (cs : List Char) : Except Fault (Nat × List Char) := do
  let (n, rest) ← readNumber (some 2) (trimFront cs)
  if low ≤ n && n ≤ high then return (n, rest) else throw .outOfRange

/-- Years are counted up to here in either direction: two to the power of 31. -/
def yearLimit : Int := 0x80000000

/-- A year, after blanks. -/
def readYear (cs : List Char) : Except Fault (Int × List Char) := do
  let (year, rest) ← show Except Fault (Int × List Char) from
    match trimFront cs with
    | '-' :: cs => do
      let (n, rest) ← readNumber none cs
      return (-(n : Int), rest)
    | '+' :: cs => do
      let (n, rest) ← readNumber none cs
      return ((n : Int), rest)
    | cs => do
      let (n, rest) ← readNumber (some 4) cs
      return ((n : Int), rest)
  if -yearLimit ≤ year ∧ year < yearLimit then return (year, rest) else throw .outOfRange

/-- A mark, after blanks. -/
def readMark (mark : Char) (cs : List Char) : Except Fault (List Char) :=
  match trimFront cs with
  | [] => .error .tooShort
  | c :: rest => if c = mark then .ok rest else .error .invalid

/-- What stands between a date and a time. -/
def readBetween : List Char → Except Fault (List Char)
  | [] => .error .tooShort
  | c :: rest => if c = 't' || c = 'T' || c = ' ' then .ok rest else .error .invalid

/-- A fraction of a second in nanoseconds, if there is one; digits past the ninth do not count. -/
def readFraction : List Char → Except Fault (Nat × List Char)
  | '.' :: cs => do
    let (n, rest) ← readNumber (some 9) cs
    let places := cs.length - rest.length
    return (n * Nat.pow 10 (9 - places), rest.dropWhile Char.isDigit)
  | cs => .ok (0, cs)

/-- Two characters of a part whose digits do not come singly.  What is not ASCII takes the place of
both. -/
def readPair : List Char → Except Fault (Char × Char × List Char)
  | [] => .error .tooShort
  | [c] => if c.toNat < 0x80 then .error .tooShort else .error .invalid
  | c :: d :: rest => .ok (c, d, rest)

/-- The value of two digits. -/
def pairValue (c d : Char) : Nat :=
  valueOf [c, d]

/-- The minutes of an offset. -/
def readOffsetMinutes (cs : List Char) : Except Fault (Nat × List Char) := do
  let (c, d, rest) ← readPair cs
  if c.isDigit && d.isDigit then
    if c ≤ '5' then return (pairValue c d, rest) else throw .outOfRange
  else throw .invalid

/-- The sign of an offset: whether it is behind UTC. -/
def readOffsetSign : List Char → Except Fault (Bool × List Char)
  | [] => .error .tooShort
  | c :: rest =>
    if c = '+' then .ok (false, rest)
    else if c = '-' || c = '\u2212' then .ok (true, rest)
    else .error .invalid

/-- An offset from UTC in minutes. -/
def readOffset (cs : List Char) : Except Fault (Int × List Char) :=
  match cs with
  | 'Z' :: rest => .ok (0, rest)
  | 'z' :: rest => .ok (0, rest)
  | cs =>
    if (cs.take 3).map Char.toUpper = ['U', 'T', 'C'] then .ok (0, cs.drop 3)
    else do
      let (behind, cs) ← readOffsetSign cs
      let (c, d, cs) ← readPair cs
      if c.isDigit && d.isDigit then
        let (minutes, rest) ← readOffsetMinutes (cs.dropWhile fun c => c == ':' || isBlank c)
        let offset : Int := pairValue c d * 60 + minutes
        return (if behind then -offset else offset, rest)
      else throw .invalid

/-- The instant with the given parts, each of which is in the range that its reader checks. -/
def ofParts (year : Int) (month day hour minute second nanosecond : Nat) (offset : Int) :
    Except Fault Instant := do
  let some date := Date.ofParts? year month day | throw .outOfRange
  if h : hour < 24 ∧ minute < 60 ∧ second < 61 ∧ nanosecond < 1000000000 then
    if offset.natAbs < 1440 then
      match atOffset? date ⟨⟨hour, h.1⟩, ⟨minute, h.2.1⟩, ⟨second, h.2.2.1⟩, ⟨nanosecond, h.2.2.2⟩⟩
          offset with
      | some i => return i
      | none => throw .impossible
    else throw .outOfRange
  else throw .outOfRange

/-- The instant that a text writes. -/
def read (s : String) : Except Fault Instant := do
  let (year, cs) ← readYear s.toList
  let cs ← readMark '-' cs
  let (month, cs) ← readPart 1 12 cs
  let cs ← readMark '-' cs
  let (day, cs) ← readPart 1 31 cs
  let cs ← readBetween cs
  let (hour, cs) ← readPart 0 23 cs
  let cs ← readMark ':' cs
  let (minute, cs) ← readPart 0 59 cs
  let cs ← readMark ':' cs
  let (second, cs) ← readPart 0 60 cs
  let (nanosecond, cs) ← readFraction cs
  let (offset, cs) ← readOffset (trimFront cs)
  match trimFront cs with
  | [] => ofParts year month day hour minute second nanosecond offset
  | _ => throw .tooLong

end Switchboard.Instant
