import Switchboard.Json.Fault
import Switchboard.Text.Ascii
import Switchboard.Text.Bytes

/-!
# The words, strings and numbers of JSON

Readers of the smallest parts of a JSON text.  A reader takes the text from where its part starts
and gives what it read with the rest of the text, or the first fault it met.
-/
namespace Switchboard.Json

open Ascii

/-- A reader of one part of a text. -/
abbrev Reader (α : Type) := Bytes → Except Fault (α × Bytes)

/-- Blanks between the parts of a JSON text. -/
def isJsonBlank (b : UInt8) : Bool :=
  b == space || b == tab || b == lineFeed || b == carriageReturn

/-- The text from its first byte that is not blank. -/
def skipBlanks (text : Bytes) : Bytes :=
  text.dropWhile isJsonBlank

/-- The rest of a word whose first letter has been recognised. -/
def readWord : Bytes → Bytes → Except Fault Bytes
  | [], text => .ok text
  | _ :: _, [] => .error .valueEnds
  | w :: word, b :: text => if w = b then readWord word text else .error .wordExpected

/-! ## Strings -/

/-- The UTF-8 form of a code point that is not a surrogate. -/
def utf8 (n : Nat) : Bytes :=
  String.utf8EncodeChar (Char.ofNat n)

/-- What an escape of one letter stands for. -/
def shortEscape? (b : UInt8) : Option UInt8 :=
  if b = quote || b = backslash || b = slash then some b
  else if b = lowerB then some 0x08
  else if b = lowerF then some 0x0c
  else if b = lowerN then some lineFeed
  else if b = lowerR then some carriageReturn
  else if b = lowerT then some tab
  else none

/-- The number that four hexadecimal digits write. -/
def hexQuad? (a b c d : UInt8) : Option Nat := do
  let a ← hexValue? a
  let b ← hexValue? b
  let c ← hexValue? c
  let d ← hexValue? d
  return ((a * 16 + b) * 16 + c) * 16 + d

/-- Where a string's reader stands between two bytes. -/
inductive StringState
  /-- Between characters. -/
  | plain
  /-- After a backslash. -/
  | escape
  /-- In the four digits of an escape, after those in `seen`; `lead` is the first half of a
  pair of surrogates that this escape has to complete. -/
  | digits (lead : Option Nat) (seen : Bytes)
  /-- After the first half of a pair of surrogates. -/
  | afterLead (lead : Nat)
  /-- After the first half of a pair of surrogates and a backslash. -/
  | afterLeadEscape (lead : Nat)
  deriving DecidableEq, Repr

/-- What the four digits of an escape add to a string, and where its reader stands then. -/
def closeEscape (lead : Option Nat) (n : Nat) : Except Fault (Bytes × StringState) :=
  match lead with
  | none =>
    if 0xdc00 ≤ n && n ≤ 0xdfff then .error .loneSurrogate
    else if 0xd800 ≤ n && n ≤ 0xdbff then .ok ([], .afterLead n)
    else .ok (utf8 n, .plain)
  | some first =>
    if 0xdc00 ≤ n && n ≤ 0xdfff then
      .ok (utf8 (0x10000 + (first - 0xd800) * 0x400 + (n - 0xdc00)), .plain)
    else .error .loneSurrogate

/-- The bytes of a string whose opening quote has been read, in reverse and after those in `done`,
with what follows the closing quote. -/
def scanString : StringState → Bytes → Reader Bytes
  | .plain, _, [] => .error .stringEnds
  | .plain, done, b :: rest =>
    if b = quote then .ok (done, rest)
    else if b = backslash then scanString .escape done rest
    else if b < 0x20 then .error .controlCharacter
    else scanString .plain (b :: done) rest
  | .escape, _, [] => .error .stringEnds
  | .escape, done, b :: rest =>
    if b = lowerU then scanString (.digits none []) done rest
    else match shortEscape? b with
      | some c => scanString .plain (c :: done) rest
      | none => .error .badEscape
  | .digits _ _, _, [] => .error .stringEnds
  | .digits lead seen, done, d :: rest =>
    match seen with
    | [c, b, a] =>
      match hexQuad? a b c d with
      | none => .error .badEscape
      | some n =>
        match closeEscape lead n with
        | .error fault => .error fault
        | .ok (added, state) => scanString state (added.reverse ++ done) rest
    | seen => scanString (.digits lead (d :: seen)) done rest
  | .afterLead _, _, [] => .error .stringEnds
  | .afterLead lead, done, b :: rest =>
    if b = backslash then scanString (.afterLeadEscape lead) done rest else .error .escapeEnds
  | .afterLeadEscape _, _, [] => .error .stringEnds
  | .afterLeadEscape lead, done, b :: rest =>
    if b = lowerU then scanString (.digits (some lead) []) done rest else .error .escapeEnds

/-- A string whose opening quote has been read. -/
def readString : Reader String := fun text => do
  let (reversed, rest) ← scanString .plain [] text
  match Bytes.text? reversed.reverse with
  | some s => return (s, rest)
  | none => throw .badUnicode

/-- Where the reader of a string that is not wanted stands between two bytes. -/
inductive SkipState
  /-- Between characters. -/
  | plain
  /-- After a backslash. -/
  | escape
  /-- In the four digits of an escape, after those in `seen`. -/
  | digits (seen : Bytes)
  deriving DecidableEq, Repr

/-- What follows a string whose opening quote has been read.  The string is only looked at as far
as its end has to be found: neither surrogates nor UTF-8 are checked. -/
def skipStringFrom : SkipState → Bytes → Except Fault Bytes
  | _, [] => .error .stringEnds
  | .plain, b :: rest =>
    if b = quote then .ok rest
    else if b = backslash then skipStringFrom .escape rest
    else if b < 0x20 then .error .controlCharacter
    else skipStringFrom .plain rest
  | .escape, b :: rest =>
    if b = lowerU then skipStringFrom (.digits []) rest
    else match shortEscape? b with
      | some _ => skipStringFrom .plain rest
      | none => .error .badEscape
  | .digits seen, d :: rest =>
    match seen with
    | [c, b, a] =>
      match hexQuad? a b c d with
      | none => .error .badEscape
      | some _ => skipStringFrom .plain rest
    | seen => skipStringFrom (.digits (d :: seen)) rest

/-- What follows a string whose opening quote has been read. -/
def skipString (text : Bytes) : Except Fault Bytes :=
  skipStringFrom .plain text

/-! ## Numbers -/

/-- The digits at the front of a text, and what follows them. -/
def spanDigits (text : Bytes) : Bytes × Bytes :=
  text.span isDigit

/-- At least one digit; `ended` and `other` are the faults of a text that ends here and of one that
goes on otherwise. -/
def readDigits (ended other : Fault) : Reader Bytes := fun text =>
  match text with
  | [] => .error ended
  | b :: _ => if isDigit b then .ok (spanDigits text) else .error other

/-- The integer part of a number: a zero alone, or digits that do not start with zero. -/
def readIntegerPart (ended : Fault) : Reader Bytes := fun text => do
  let (ds, rest) ← readDigits ended .badNumber text
  match ds with
  | d :: _ :: _ => if d = zero then throw .badNumber else return (ds, rest)
  | _ => return (ds, rest)

/-- The fractional part of a number, if there is one. -/
def readFraction (ended : Fault) : Reader (Option Bytes)
  | point :: text => do
    let (ds, rest) ← readDigits ended .badNumber text
    return (some ds, rest)
  | text => .ok (none, text)

/-- The sign that a text starts with, if it is negative, and what follows the sign. -/
def readSign : Bytes → Bool × Bytes
  | plus :: text => (false, text)
  | minus :: text => (true, text)
  | text => (false, text)

/-- The power of ten of a number, if there is one. -/
def readPower (ended : Fault) : Reader (Option Int) := fun text =>
  match text with
  | b :: rest =>
    if b = lowerE || b = upperE then do
      let (negative, rest) := readSign rest
      let (ds, rest) ← readDigits ended .badNumber rest
      let n : Int := decimalValue ds
      return (some (if negative then -n else n), rest)
    else .ok (none, text)
  | [] => .ok (none, [])

/-- The number with the given parts. -/
def numberOf (minus : Bool) (whole : Bytes) (fraction : Option Bytes) (power : Option Int) :
    Except Fault Number :=
  let integer? :=
    match fraction, power with
    | none, none => Number.ofInteger? minus (decimalValue whole)
    | _, _ => none
  match integer? with
  | some n => .ok n
  | none =>
    let places := fraction.getD []
    match Double.nearestDecimal? (decimalValue (whole ++ places))
        (power.getD 0 - places.length) with
    | some m => .ok (.double ⟨minus, m⟩)
    | none => .error .numberRange

/-- A number, from its sign or first digit. -/
def readNumber : Reader Number := fun text => do
  let (negative, text) := match text with
    | minus :: rest => (true, rest)
    | text => (false, text)
  let (whole, text) ← readIntegerPart .valueEnds text
  let (fraction, text) ← readFraction .valueEnds text
  let (power, text) ← readPower .valueEnds text
  let n ← numberOf negative whole fraction power
  return (n, text)

/-- What follows a number that is not wanted; its size does not matter. -/
def skipNumber (text : Bytes) : Except Fault Bytes := do
  let text := match text with
    | minus :: rest => rest
    | text => text
  let (_, text) ← readIntegerPart .badNumber text
  let (_, text) ← readFraction .badNumber text
  let (_, text) ← readPower .badNumber text
  return text

end Switchboard.Json
