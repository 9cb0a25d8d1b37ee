import Switchboard.Json.Value

/-!
# Laying one value over another

An object laid over an object changes the fields that it has and leaves the others.  Anything else
takes the place of what it is laid over.  A field that is null changes nothing, but a null inside
of something new is kept.
-/
namespace Switchboard.Json.Value

mutual

/-- `source` laid over `target`. -/
def overlay (target : Value) : (source : Value) → Value
  | object fields =>
    match target with
    | object under => object (overlayFields under fields)
    | _ => object fields
  | null => null
  | bool b => bool b
  | number n => number n
  | string s => string s
  | array items => array items

/-- Fields laid over fields. -/
def overlayFields (under : List (String × Value)) :
    (fields : List (String × Value)) → List (String × Value)
  | [] => under
  | (_, null) :: rest => overlayFields under rest
  | (key, v) :: rest =>
    match field? key under with
    | some w => overlayFields (setField key (overlay w v) under) rest
    | none => overlayFields (setField key v under) rest

end

end Switchboard.Json.Value
