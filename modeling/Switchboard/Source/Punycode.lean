/-!
# Punycode

A label of a domain name outside ASCII has a form within it.  The ASCII characters come first, then
a hyphen, and then the places and differences of all others as numbers with digits of a base that
depends on what came before.  `decodePunycode?` reads that form back.
-/
namespace Switchboard.Source

/-- The value of a digit: letters before decimal digits. -/
def digitOf? (c : Char) : Option Nat :=
  if 'a' ≤ c ∧ c ≤ 'z' then some (c.toNat - 'a'.toNat)
  else if c.isDigit then some (c.toNat - '0'.toNat + 26)
  else none

/-- The smallest value that a digit before the last one has; `position` counts in steps of 36. -/
def threshold (bias position : Nat) : Nat :=
  if position ≤ bias then 1 else min 26 (position - bias)

/-- Shrinks a difference until it is small, and tells in how many steps of 36. -/
def shrink (delta : Nat) : Nat × Nat :=
  if 455 < delta then
    let (small, steps) := shrink (delta / 35)
    (small, steps + 36)
  else (delta, 0)
termination_by delta

/-- The bias after a difference, when there are so many characters. -/
def nextBias (delta count : Nat) (isFirst : Bool) : Nat :=
  let scaled := if isFirst then delta / 700 else delta / 2
  let (small, steps) := shrink (scaled + scaled / count)
  steps + 36 * small / (small + 38)

/-- Reads a number, of which `value` has been read and whose next digit weighs `weight`. -/
def readNumber? (bias : Nat) : (position weight value : Nat) → List Char →
    Option (Nat × List Char)
  | _, _, _, [] => none
  | position, weight, value, c :: rest =>
    match digitOf? c with
    | none => none
    | some digit =>
      let value := value + digit * weight
      let t := threshold bias position
      if UInt32.size ≤ value then none
      else if digit < t then some (value, rest)
      else if UInt32.size ≤ weight * (36 - t) then none
      else readNumber? bias (position + 36) (weight * (36 - t)) value rest

/-- Puts characters into a text; there are at most as many as there are digits. -/
def insertAll? : (fuel code place bias : Nat) → List Char → List Char → Option (List Char)
  | _, _, _, _, text, [] => some text
  | 0, _, _, _, _, _ => none
  | fuel + 1, code, place, bias, text, digits =>
    match readNumber? bias 36 1 0 digits with
    | none => none
    | some (delta, rest) =>
      let count := text.length + 1
      let place' := (place + delta) % count
      let code := code + (place + delta) / count
      if code.isValidChar then
        insertAll? fuel code (place' + 1) (nextBias delta count (place == 0))
          (text.take place' ++ Char.ofNat code :: text.drop place') rest
      else none

/-- The text that a form in ASCII stands for. -/
def decodePunycode? (cs : List Char) : Option (List Char) :=
  let digits := (cs.reverse.takeWhile (· ≠ '-')).reverse
  let plain := cs.take (cs.length - digits.length - 1)
  if cs.head? = some '-' ∧ plain = [] then none
  else insertAll? digits.length 128 0 72 plain digits

end Switchboard.Source
