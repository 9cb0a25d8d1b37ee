import Switchboard.Json.Number

/-!
# JSON values

A value is a tree.  The fields of an object are listed by increasing key, each key once; a value
all of whose objects are like that is `Canonical`.  `setField` keeps a list of fields in that
order, and a field set again takes the later value.
-/
namespace Switchboard.Json

/-- A JSON value. -/
inductive Value
  | null
  | bool (b : Bool)
  | number (n : Number)
  | string (s : String)
  | array (items : List Value)
  | object (fields : List (String × Value))
  deriving Repr

namespace Value

mutual

/-- Equality of values is decided along the tree. -/
def decEq : (v w : Value) → Decidable (v = w)
  | null, null => isTrue rfl
  | bool a, bool b =>
    if h : a = b then isTrue (by rw [h]) else isFalse (fun e => h (by injection e))
  | number a, number b =>
    if h : a = b then isTrue (by rw [h]) else isFalse (fun e => h (by injection e))
  | string a, string b =>
    if h : a = b then isTrue (by rw [h]) else isFalse (fun e => h (by injection e))
  | array a, array b =>
    match decEqItems a b with
    | isTrue h => isTrue (by rw [h])
    | isFalse h => isFalse (fun e => h (by injection e))
  | object a, object b =>
    match decEqFields a b with
    | isTrue h => isTrue (by rw [h])
    | isFalse h => isFalse (fun e => h (by injection e))
  | null, bool _ | null, number _ | null, string _ | null, array _ | null, object _
  | bool _, null | bool _, number _ | bool _, string _ | bool _, array _ | bool _, object _
  | number _, null | number _, bool _ | number _, string _ | number _, array _
  | number _, object _ | string _, null | string _, bool _ | string _, number _
  | string _, array _ | string _, object _ | array _, null | array _, bool _
  | array _, number _ | array _, string _ | array _, object _ | object _, null
  | object _, bool _ | object _, number _ | object _, string _ | object _, array _ =>
    isFalse (fun e => by cases e)

/-- Equality of lists of items. -/
def decEqItems : (v w : List Value) → Decidable (v = w)
  | [], [] => isTrue rfl
  | [], _ :: _ => isFalse (fun e => by cases e)
  | _ :: _, [] => isFalse (fun e => by cases e)
  | a :: as, b :: bs =>
    match decEq a b, decEqItems as bs with
    | isTrue h, isTrue t => isTrue (by rw [h, t])
    | isFalse h, _ => isFalse (fun e => h (by injection e))
    | _, isFalse t => isFalse (fun e => t (by injection e))

/-- Equality of lists of fields. -/
def decEqFields : (v w : List (String × Value)) → Decidable (v = w)
  | [], [] => isTrue rfl
  | [], _ :: _ => isFalse (fun e => by cases e)
  | _ :: _, [] => isFalse (fun e => by cases e)
  | (k, a) :: as, (l, b) :: bs =>
    if hk : k = l then
      match decEq a b, decEqFields as bs with
      | isTrue h, isTrue t => isTrue (by rw [hk, h, t])
      | isFalse h, _ => isFalse (fun e => h (by injection e with e _; injection e))
      | _, isFalse t => isFalse (fun e => t (by injection e))
    else isFalse (fun e => hk (by injection e with e _; injection e))

end

instance : DecidableEq Value := decEq

/-- `fields` with the value of `key` set. -/
def setField (key : String) (value : Value) : List (String × Value) → List (String × Value)
  | [] => [(key, value)]
  | (k, v) :: rest =>
    if key < k then (key, value) :: (k, v) :: rest
    else if key = k then (key, value) :: rest
    else (k, v) :: setField key value rest

/-- The value of a key. -/
def field? (key : String) : List (String × Value) → Option Value
  | [] => none
  | (k, v) :: rest => if k = key then some v else field? key rest

mutual

/-- Every object in the tree lists its fields by increasing key. -/
def Canonical : Value → Prop
  | array items => CanonicalItems items
  | object fields => (fields.map Prod.fst).Pairwise (· < ·) ∧ CanonicalFields fields
  | _ => True

/-- Every item is canonical. -/
def CanonicalItems : List Value → Prop
  | [] => True
  | v :: vs => Canonical v ∧ CanonicalItems vs

/-- The value of every field is canonical. -/
def CanonicalFields : List (String × Value) → Prop
  | [] => True
  | (_, v) :: fs => Canonical v ∧ CanonicalFields fs

end

mutual

/-- How many arrays and objects are open at once at the deepest point. -/
def depth : Value → Nat
  | array items => depthItems items + 1
  | object fields => depthFields fields + 1
  | _ => 0

/-- The depth of the deepest item. -/
def depthItems : List Value → Nat
  | [] => 0
  | v :: vs => max (depth v) (depthItems vs)

/-- The depth of the deepest field. -/
def depthFields : List (String × Value) → Nat
  | [] => 0
  | (_, v) :: fs => max (depth v) (depthFields fs)

end

end Value
end Switchboard.Json
