import Switchboard.Json.Decoder

/-!
# Reading one of several names

A choice between names is written as the name, or as an object whose only key is the name and whose
only value is null.
-/
namespace Switchboard.Json

open Ascii

namespace Decoder

variable {α : Type}

/-- The choice that a name stands for. -/
def named (choices : List (String × α)) (name : String) : Except Fault α :=
  match choices.find? (·.1 == name) with
  | some (_, a) => .ok a
  | none => .error (.unknownVariant name (choices.map Prod.fst))

/-- The null that goes with a name written as a key. -/
def unit : Decoder Unit :=
  scalar "unit" fun
    | .null => some (.ok ())
    | _ => none

/-- The name of a choice. -/
def variantName : Decoder String :=
  scalar "variant identifier" fun
    | .string s => some (.ok s)
    | _ => none

/-- One of several names. -/
def variant (choices : List (String × α)) : Decoder α where
  read allowance text :=
    match skipBlanks text with
    | [] => .error .valueEnds
    | b :: rest =>
      if b = quote then do
        let (name, rest) ← readString rest
        let a ← named choices name
        return (a, rest)
      else if b = openBrace then
        match allowance with
        | 0 => .error .tooDeep
        | allowance + 1 => do
          let (name, rest) ← variantName.read allowance rest
          let a ← named choices name
          let rest ← readColon rest
          let (_, rest) ← unit.read allowance rest
          match skipBlanks rest with
          | [] => .error .objectEnds
          | c :: rest => if c = closeBrace then .ok (a, rest) else .error .valueExpected
      else .error .valueExpected
  ofValue
    | .string name => named choices name
    | .object [(name, v)] => do
      let a ← named choices name
      unit.ofValue v
      return a
    | .object _ => .error (.wrongValue .map "map with a single key")
    | v => .error (.wrongType v.found "string or map")

end Decoder
end Switchboard.Json
