import Switchboard.Json.Reader

/-!
# Passing over a value

The value of a field that nobody asked for is passed over.  Its text has to be well-formed, but it
is read less closely than a wanted value: it may nest as deeply as it likes, its numbers may have
any size, its strings need not be text, and its arrays and objects are ended without a look at the
comma before the end.  What is open is kept as a stack.
-/
namespace Switchboard.Json

open Ascii

/-- What may be open around a value that is passed over. -/
inductive Enclosure
  | list
  | map
  deriving DecidableEq, Repr

/-- The fault of a text that ends inside an enclosure. -/
def Enclosure.ended : Enclosure → Fault
  | list => .listEnds
  | map => .objectEnds

/-- The fault of a text that does not go on with a comma or the end of an enclosure. -/
def Enclosure.commaExpected : Enclosure → Fault
  | list => .listCommaExpected
  | map => .objectCommaExpected

/-- The byte that ends an enclosure. -/
def Enclosure.close : Enclosure → UInt8
  | list => closeBracket
  | map => closeBrace

/-- What is due next of a value that is passed over. -/
inductive SkipStep
  /-- A value. -/
  | value
  /-- The end of the innermost enclosure, or else its next member; `comma` says whether a comma
  has to come before the member. -/
  | member (comma : Bool)
  deriving DecidableEq, Repr

/-- The key and the colon of a field that is passed over. -/
def skipKey (text : Bytes) : Except Fault Bytes :=
  match skipBlanks text with
  | [] => .error .objectEnds
  | b :: rest =>
    if b = quote then do
      let text ← skipString rest
      readColon text
    else .error .keyExpected

/-- What stands before the value of the next member of an enclosure. -/
def skipToMember (enclosure : Enclosure) (text : Bytes) : Except Fault Bytes :=
  match enclosure with
  | .list => .ok text
  | .map => skipKey text

/-- One step over a value: what is due next, what is open then, and the rest of the text. -/
def skipOne (step : SkipStep) (enclosures : List Enclosure) (text : Bytes) :
    Except Fault (SkipStep × List Enclosure × Bytes) :=
  match step, enclosures with
  | .value, enclosures =>
    match skipBlanks text with
    | [] => .error .valueEnds
    | b :: rest =>
      if b = openBracket then .ok (.member false, .list :: enclosures, rest)
      else if b = openBrace then .ok (.member false, .map :: enclosures, rest)
      else if b = quote then do
        let rest ← skipString rest
        return (.member true, enclosures, rest)
      else if b = minus || isDigit b then do
        let rest ← skipNumber (b :: rest)
        return (.member true, enclosures, rest)
      else do
        let (_, rest) ← readScalar? (b :: rest)
        return (.member true, enclosures, rest)
  | .member _, [] => .ok (.member true, [], text)
  | .member comma?, enclosure :: outer =>
    match skipBlanks text with
    | [] => .error enclosure.ended
    | b :: rest =>
      if b = enclosure.close then .ok (.member true, outer, rest)
      else if comma? then
        if b = comma then do
          let rest ← skipToMember enclosure rest
          return (.value, enclosure :: outer, rest)
        else .error enclosure.commaExpected
      else do
        let rest ← skipToMember enclosure (b :: rest)
        return (.value, enclosure :: outer, rest)

/-- Steps over a value until nothing is open. -/
def skipFrom : Nat → SkipStep → List Enclosure → Bytes → Except Fault Bytes
  | 0, _, _, _ => .error .valueEnds
  | fuel + 1, step, enclosures, text =>
    match step, enclosures with
    | .member _, [] => .ok text
    | step, enclosures =>
      match skipOne step enclosures text with
      | .error fault => .error fault
      | .ok (step, enclosures, rest) => skipFrom fuel step enclosures rest

/-- What follows a value that is passed over.  Every second step takes a byte, so the walk is
never cut short. -/
def skipValue (text : Bytes) : Except Fault Bytes :=
  skipFrom (2 * text.length + 2) .value [] text

end Switchboard.Json
