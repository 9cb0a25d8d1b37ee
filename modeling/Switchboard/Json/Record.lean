import Switchboard.Json.Decoder
import Switchboard.Json.Skip

/-!
# Reading a record

A record is read from an object by the names of its fields, or from an array by their order.  The
reader starts from an initial record and sets the fields that it meets, so a field that is absent
keeps its initial value; a field that is **required** must be met.  In an object a field that is
not known is passed over, and one that is met twice is a fault.
-/
namespace Switchboard.Json

open Ascii

/-- A field of a record of type `α`. -/
structure Field (α : Type) where
  name : String
  isRequired : Bool
  /-- Reads a value for the field, as the change that it makes to the record. -/
  set : Decoder (α → α)

namespace Field

variable {α β : Type}

/-- A field that keeps its initial value when it is absent. -/
def optional (name : String) (d : Decoder β) (set : β → α → α) : Field α :=
  ⟨name, false, d.map set⟩

/-- A field that has to be there. -/
def required (name : String) (d : Decoder β) (set : β → α → α) : Field α :=
  ⟨name, true, d.map set⟩

end Field

namespace Decoder

variable {α : Type}

/-- How many elements a record wants, in words. -/
def elementsText (record : String) (n : Nat) : String :=
  record ++ " with " ++ toString n ++ (if n = 1 then " element" else " elements")

/-- The first required field that has not been seen. -/
def firstMissing (fields : List (Field α)) (seen : List String) : Option String :=
  (fields.find? fun f => f.isRequired && !seen.contains f.name).map Field.name

/-- A record, once all its fields have been seen. -/
def complete (fields : List (Field α)) (a : α) (seen : List String) : Except Fault α :=
  match firstMissing fields seen with
  | some name => .error (.missingField name)
  | none => .ok a

/-- One field of an object in a text. -/
def readField (fields : List (Field α)) (allowance : Nat) (s : α × List String) (key : String)
    (text : Bytes) : Except Fault ((α × List String) × Bytes) :=
  match fields.find? (·.name == key) with
  | none => do
    let text ← readColon text
    let rest ← skipValue text
    return (s, rest)
  | some f =>
    if s.2.contains key then .error (.repeatedField key)
    else do
      let text ← readColon text
      let (change, rest) ← f.set.read allowance text
      return ((change s.1, key :: s.2), rest)

/-- The elements of an array in a text, field by field. -/
def readElements (short : Nat → Fault) (allowance : Nat) :
    List (Field α) → Nat → Bool → α → Bytes → Except Fault (α × Bytes)
  | [], _, _, a, text => do
    let rest ← endArray text
    return (a, rest)
  | f :: fields, index, first, a, text =>
    match nextItem first text with
    | .error fault => .error fault
    | .ok none =>
      if f.isRequired then .error (short index)
      else readElements short allowance fields (index + 1) first a text
    | .ok (some text) => do
      let (change, rest) ← f.set.read allowance text
      readElements short allowance fields (index + 1) false (change a) rest

/-- The fields of an object that has been read already. -/
def fieldsOf (fields : List (Field α)) :
    List (String × Value) → α × List String → Except Fault (α × List String)
  | [], s => .ok s
  | (key, v) :: rest, s =>
    match fields.find? (·.name == key) with
    | none => fieldsOf fields rest s
    | some f => do
      let change ← f.set.ofValue v
      fieldsOf fields rest (change s.1, key :: s.2)

/-- The items of an array that has been read already, field by field; what is left over is given
back. -/
def elementsOf (short : Nat → Fault) :
    List (Field α) → Nat → List Value → α → Except Fault (α × List Value)
  | [], _, items, a => .ok (a, items)
  | f :: fields, index, [], a =>
    if f.isRequired then .error (short index) else elementsOf short fields (index + 1) [] a
  | f :: fields, index, v :: items, a => do
    let change ← f.set.ofValue v
    elementsOf short fields (index + 1) items (change a)

/-- A record: what it is called, what it is before any field is set, and its fields. -/
def record (name : String) (initial : α) (fields : List (Field α)) : Decoder α where
  read allowance text :=
    match skipBlanks text with
    | [] => .error .valueEnds
    | b :: rest =>
      if b = openBracket then
        match allowance with
        | 0 => .error .tooDeep
        | allowance + 1 =>
          let short n := .wrongLength n (elementsText name fields.length)
          readElements short allowance fields 0 true initial rest
      else if b = openBrace then
        match allowance with
        | 0 => .error .tooDeep
        | allowance + 1 => do
          let ((a, seen), rest) ← readFields (readField fields allowance) (initial, []) rest
          let a ← complete fields a seen
          return (a, rest)
      else mismatch name (b :: rest)
  ofValue
    | .object entries => do
      let (a, seen) ← fieldsOf fields entries (initial, [])
      complete fields a seen
    | .array items => do
      let short n := .wrongLength n (elementsText name fields.length)
      let (a, left) ← elementsOf short fields 0 items initial
      match left with
      | [] => return a
      | _ => throw (.wrongLength items.length "fewer elements in array")
    | v => .error (.wrongType v.found name)

end Decoder
end Switchboard.Json
