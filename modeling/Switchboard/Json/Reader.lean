import Switchboard.Json.Token
import Switchboard.Json.Value

/-!
# Reading JSON

A text is read from front to back, and the first fault that is met is the one reported.  Every
array and object that is entered takes one from an allowance of `maxDepth`; a text that would open
one more is refused.

The walk over the items of an array (`readItems`) and over the fields of an object (`readFields`)
is the same whatever is made of them, so both take a step that reads one item, or one field's
value, into a state.
-/
namespace Switchboard.Json

open Ascii

/-- How many arrays and objects may be open at once. -/
def maxDepth : Nat := 127

/-- Finds the next item of an array: `none` at the closing bracket, which is left in place. -/
def nextItem (first : Bool) (text : Bytes) : Except Fault (Option Bytes) :=
  match skipBlanks text with
  | [] => .error .listEnds
  | b :: rest =>
    if b = closeBracket then .ok none
    else if first then .ok (some (b :: rest))
    else if b = comma then
      match skipBlanks rest with
      | [] => .error .valueEnds
      | c :: rest => if c = closeBracket then .error .trailingComma else .ok (some (c :: rest))
    else .error .listCommaExpected

/-- Ends an array after its last wanted item. -/
def endArray (text : Bytes) : Except Fault Bytes :=
  match skipBlanks text with
  | [] => .error .listEnds
  | b :: rest =>
    if b = closeBracket then .ok rest
    else if b = comma then
      match skipBlanks rest with
      | c :: _ => if c = closeBracket then .error .trailingComma else .error .trailingCharacters
      | [] => .error .trailingCharacters
    else .error .trailingCharacters

/-- Finds the next field of an object and reads its key: `none` at the closing brace, with what
follows it. -/
def nextField (first : Bool) (text : Bytes) : Except Fault (Option String × Bytes) :=
  let key (text : Bytes) : Except Fault (Option String × Bytes) := do
    let (k, rest) ← readString text
    return (some k, rest)
  match skipBlanks text with
  | [] => .error .objectEnds
  | b :: rest =>
    if b = closeBrace then .ok (none, rest)
    else if first then
      if b = quote then key rest else .error .keyExpected
    else if b = comma then
      match skipBlanks rest with
      | [] => .error .valueEnds
      | c :: rest =>
        if c = quote then key rest
        else if c = closeBrace then .error .trailingComma
        else .error .keyExpected
    else .error .objectCommaExpected

/-- The colon between a key and its value. -/
def readColon (text : Bytes) : Except Fault Bytes :=
  match skipBlanks text with
  | [] => .error .objectEnds
  | b :: rest => if b = colon then .ok rest else .error .colonExpected

variable {σ : Type}

/-- The items of an array whose bracket has been read, each taken into the state by `step`. -/
def readItemsFrom (step : σ → Bytes → Except Fault (σ × Bytes)) :
    Nat → Bool → σ → Bytes → Except Fault (σ × Bytes)
  | 0, _, _, _ => .error .listEnds
  | fuel + 1, first, s, text =>
    match nextItem first text with
    | .error fault => .error fault
    | .ok none => do
      let rest ← endArray text
      return (s, rest)
    | .ok (some text) =>
      match step s text with
      | .error fault => .error fault
      | .ok (s, rest) => readItemsFrom step fuel false s rest

/-- The items of an array whose bracket has been read.  Every item takes a byte, so the walk is
never cut short. -/
def readItems (step : σ → Bytes → Except Fault (σ × Bytes)) (s : σ) (text : Bytes) :
    Except Fault (σ × Bytes) :=
  readItemsFrom step (text.length + 1) true s text

/-- The fields of an object whose brace has been read, each taken into the state by `step`, which
is given the key and the text after it. -/
def readFieldsFrom (step : σ → String → Bytes → Except Fault (σ × Bytes)) :
    Nat → Bool → σ → Bytes → Except Fault (σ × Bytes)
  | 0, _, _, _ => .error .objectEnds
  | fuel + 1, first, s, text =>
    match nextField first text with
    | .error fault => .error fault
    | .ok (none, rest) => .ok (s, rest)
    | .ok (some key, text) =>
      match step s key text with
      | .error fault => .error fault
      | .ok (s, rest) => readFieldsFrom step fuel false s rest

/-- The fields of an object whose brace has been read.  Every field takes a byte, so the walk is
never cut short. -/
def readFields (step : σ → String → Bytes → Except Fault (σ × Bytes)) (s : σ) (text : Bytes) :
    Except Fault (σ × Bytes) :=
  readFieldsFrom step (text.length + 1) true s text

/-- A value that is neither an array nor an object; `none` before one of these. -/
def readScalar? (text : Bytes) : Except Fault (Option Value × Bytes) :=
  match text with
  | [] => .error .valueEnds
  | b :: rest =>
    if b = openBracket || b = openBrace then .ok (none, text)
    else if b = quote then do
      let (s, rest) ← readString rest
      return (some (.string s), rest)
    else if b = minus || isDigit b then do
      let (n, rest) ← readNumber text
      return (some (.number n), rest)
    else if b = lowerN then do
      let rest ← readWord [0x75, 0x6c, 0x6c] rest
      return (some .null, rest)
    else if b = lowerT then do
      let rest ← readWord [0x72, 0x75, 0x65] rest
      return (some (.bool true), rest)
    else if b = lowerF then do
      let rest ← readWord [0x61, 0x6c, 0x73, 0x65] rest
      return (some (.bool false), rest)
    else .error .valueExpected

/-- A value, with an allowance of arrays and objects to open. -/
def readValue : Nat → Reader Value
  | allowance, text =>
    match readScalar? (skipBlanks text) with
    | .error fault => .error fault
    | .ok (some v, rest) => .ok (v, rest)
    | .ok (none, text) =>
      match allowance with
      | 0 => .error .tooDeep
      | allowance + 1 =>
        match text with
        | [] => .error .valueEnds
        | b :: rest =>
          if b = openBracket then do
            let step (items : List Value) (text : Bytes) := do
              let (v, rest) ← readValue allowance text
              return (v :: items, rest)
            let (items, rest) ← readItems step [] rest
            return (.array items.reverse, rest)
          else do
            let step (fields : List (String × Value)) (key : String) (text : Bytes) := do
              let text ← readColon text
              let (v, rest) ← readValue allowance text
              return (Value.setField key v fields, rest)
            let (fields, rest) ← readFields step [] rest
            return (.object fields, rest)

/-- Nothing but blanks may follow what has been read. -/
def finish {α : Type} (read : α × Bytes) : Except Fault α :=
  match skipBlanks read.2 with
  | [] => .ok read.1
  | _ => .error .trailingCharacters

/-- The value that a whole text writes. -/
def parse (text : Bytes) : Except Fault Value := do
  finish (← readValue maxDepth text)

end Switchboard.Json
