import Switchboard.Json.Reader

/-!
# Reading into a type

A **decoder** says how something of a type is read, both straight from a text and from a value that
has been read already.  The two agree on what they accept wherever a text has no repeated keys,
but they differ in what they report: a text is read from front to back into the wanted type, so
that a value of the wrong type is reported before a flaw of the text further on.
-/
namespace Switchboard.Json

open Ascii

/-- How something of type `α` is read. -/
structure Decoder (α : Type) where
  /-- From a text, with an allowance of arrays and objects to open. -/
  read : Nat → Reader α
  /-- From a value. -/
  ofValue : Value → Except Fault α

/-- What a value is found to be. -/
def Value.found : Value → Found
  | null => .null
  | bool b => .bool b
  | number n => .number n
  | string s => .string s
  | array _ => .sequence
  | object _ => .map

namespace Decoder

variable {α β : Type}

/-- The whole of a text. -/
def parse (d : Decoder α) (text : Bytes) : Except Fault α := do
  finish (← d.read maxDepth text)

/-- What a text starts with, when something else is wanted. -/
def mismatch (expected : String) (text : Bytes) : Except Fault α :=
  match readScalar? text with
  | .error fault => .error fault
  | .ok (some v, _) => .error (.wrongType v.found expected)
  | .ok (none, rest) =>
    .error (.wrongType (if rest.head? = some openBracket then .sequence else .map) expected)

/-- Any value. -/
def value : Decoder Value where
  read := readValue
  ofValue := .ok

/-- A value that is neither an array nor an object, made into something by `accept`. -/
def scalar (expected : String) (accept : Value → Option (Except Fault α)) : Decoder α where
  read _ text :=
    match readScalar? (skipBlanks text) with
    | .error fault => .error fault
    | .ok (none, rest) => mismatch expected rest
    | .ok (some v, rest) =>
      match accept v with
      | none => .error (.wrongType v.found expected)
      | some (.error fault) => .error fault
      | some (.ok a) => .ok (a, rest)
  ofValue v :=
    match accept v with
    | none => .error (.wrongType v.found expected)
    | some result => result

/-- A string. -/
def string : Decoder String :=
  scalar "a string" fun
    | .string s => some (.ok s)
    | _ => none

/-- A string that stands for something else, or is refused for a reason. -/
def stringAs (expected : String) (accept : String → Except String α) : Decoder α :=
  scalar expected fun
    | .string s => some ((accept s).mapError .refused)
    | _ => none

/-- A boolean. -/
def bool : Decoder Bool :=
  scalar "a boolean" fun
    | .bool b => some (.ok b)
    | _ => none

/-- An integer from zero up to below `limit`, which is the range of the type called `name`. -/
def unsigned (name : String) (limit : Nat) : Decoder Nat :=
  scalar name fun
    | .number (.natural n) =>
      if n.toNat < limit then some (.ok n.toNat)
      else some (.error (.wrongValue (.number (.natural n)) name))
    | .number (.negative n) => some (.error (.wrongValue (.number (.negative n)) name))
    | _ => none

/-- Something that may be null instead. -/
def optional (d : Decoder α) : Decoder (Option α) where
  read allowance text :=
    match skipBlanks text with
    | [] => .error .valueEnds
    | b :: rest =>
      if b = lowerN then do
        let rest ← readWord [0x75, 0x6c, 0x6c] rest
        return (none, rest)
      else do
        let (a, rest) ← d.read allowance (b :: rest)
        return (some a, rest)
  ofValue
    | .null => .ok none
    | v => some <$> d.ofValue v

/-- Every item of a list, in order. -/
def valuesOf (d : Decoder α) : List Value → Except Fault (List α)
  | [] => .ok []
  | v :: vs => do
    let a ← d.ofValue v
    let as ← valuesOf d vs
    return a :: as

/-- An array of such things. -/
def list (d : Decoder α) : Decoder (List α) where
  read allowance text :=
    match skipBlanks text with
    | [] => .error .valueEnds
    | b :: rest =>
      if b = openBracket then
        match allowance with
        | 0 => .error .tooDeep
        | allowance + 1 => do
          let step (items : List α) (text : Bytes) := do
            let (a, rest) ← d.read allowance text
            return (a :: items, rest)
          let (items, rest) ← readItems step [] rest
          return (items.reverse, rest)
      else mismatch "a sequence" (b :: rest)
  ofValue
    | .array items => valuesOf d items
    | v => .error (.wrongType v.found "a sequence")

/-- What is read, made into something else. -/
def map (f : α → β) (d : Decoder α) : Decoder β where
  read allowance text := do
    let (a, rest) ← d.read allowance text
    return (f a, rest)
  ofValue v := f <$> d.ofValue v

end Decoder
end Switchboard.Json
