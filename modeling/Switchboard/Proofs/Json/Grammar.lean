import Mathlib.Tactic.IntervalCases
import Switchboard.Json.Writer
import Switchboard.Proofs.Json.Numbers

/-! # The grammar of JSON

The grammar says which texts are JSON, without a reader.  Each of its parts relates a text
that starts with the part to what is left of the text after it, so that parts are put
together by what lies between them.  It is the strict grammar: nothing but four blanks
may stand between the parts, no comma after a last item, no comment, no control character
in a string, no escape beyond nine, no number with a plus, a leading zero or a bare point.

The writer keeps to it: what is written of any value is a text of the grammar
(`isText_text`), and so it is without blanks. -/
namespace Switchboard.Json
namespace Grammar

/-! ## Blanks and numbers -/

/-- Any number of blanks. -/
inductive Blanks : List Char → List Char → Prop
  | none {rest : List Char} : Blanks rest rest
  | more {c : Char} {cs rest : List Char} :
    c ∈ [' ', '\t', '\n', '\r'] → Blanks cs rest → Blanks (c :: cs) rest

/-- One decimal digit or more. -/
inductive Digits : List Char → List Char → Prop
  | one {c : Char} {rest : List Char} : c.isDigit → Digits (c :: rest) rest
  | more {c : Char} {cs rest : List Char} : c.isDigit → Digits cs rest → Digits (c :: cs) rest

/-- The part of a number before the point: a zero alone, or digits of which the first one
is no zero. -/
inductive Whole : List Char → List Char → Prop
  | zero {rest : List Char} : Whole ('0' :: rest) rest
  | digits {c : Char} {cs rest : List Char} : c ≠ '0' → Digits (c :: cs) rest → Whole (c :: cs) rest

/-- The point of a number and the digits after it, if it has any. -/
inductive Fraction : List Char → List Char → Prop
  | none {rest : List Char} : Fraction rest rest
  | digits {cs rest : List Char} : Digits cs rest → Fraction ('.' :: cs) rest

/-- The power of ten of a number, if it has one. -/
inductive Power : List Char → List Char → Prop
  | none {rest : List Char} : Power rest rest
  | plain {e : Char} {cs rest : List Char} : e ∈ ['e', 'E'] → Digits cs rest → Power (e :: cs) rest
  | signed {e sign : Char} {cs rest : List Char} :
    e ∈ ['e', 'E'] → sign ∈ ['+', '-'] → Digits cs rest → Power (e :: sign :: cs) rest

/-- A number without its sign. -/
inductive Unsigned : List Char → List Char → Prop
  | parts {cs fraction power rest : List Char} :
    Whole cs fraction → Fraction fraction power → Power power rest → Unsigned cs rest

/-! ## Strings -/

/-- The digits of hexadecimal numbers. -/
def hexadecimal : List Char :=
  ['0', '1', '2', '3', '4', '5', '6', '7', '8', '9', 'a', 'b', 'c', 'd', 'e', 'f',
    'A', 'B', 'C', 'D', 'E', 'F']

/-- The characters of a string, with the quote that ends it. -/
inductive Characters : List Char → List Char → Prop
  | ended {rest : List Char} : Characters ('"' :: rest) rest
  | plain {c : Char} {cs rest : List Char} :
    c ≠ '"' → c ≠ '\\' → 0x20 ≤ c.toNat → Characters cs rest → Characters (c :: cs) rest
  | short {c : Char} {cs rest : List Char} :
    c ∈ ['"', '\\', '/', 'b', 'f', 'n', 'r', 't'] → Characters cs rest →
    Characters ('\\' :: c :: cs) rest
  | coded {c₁ c₂ c₃ c₄ : Char} {cs rest : List Char} :
    c₁ ∈ hexadecimal → c₂ ∈ hexadecimal → c₃ ∈ hexadecimal → c₄ ∈ hexadecimal →
    Characters cs rest →
    Characters ('\\' :: 'u' :: c₁ :: c₂ :: c₃ :: c₄ :: cs) rest

/-- A string between quotes. -/
inductive Quoted : List Char → List Char → Prop
  | quoted {cs rest : List Char} : Characters cs rest → Quoted ('"' :: cs) rest

/-! ## Values -/

mutual

/-- A value. -/
inductive IsValue : List Char → List Char → Prop
  | null {rest : List Char} : IsValue ("null".toList ++ rest) rest
  | true {rest : List Char} : IsValue ("true".toList ++ rest) rest
  | false {rest : List Char} : IsValue ("false".toList ++ rest) rest
  | number {cs rest : List Char} : Unsigned cs rest → IsValue cs rest
  | negative {cs rest : List Char} : Unsigned cs rest → IsValue ('-' :: cs) rest
  | string {cs rest : List Char} : Quoted cs rest → IsValue cs rest
  | emptyArray {cs rest : List Char} : Blanks cs (']' :: rest) → IsValue ('[' :: cs) rest
  | array {cs rest : List Char} : Items cs rest → IsValue ('[' :: cs) rest
  | emptyObject {cs rest : List Char} : Blanks cs ('\x7d' :: rest) → IsValue ('\x7b' :: cs) rest
  | object {cs rest : List Char} : Fields cs rest → IsValue ('\x7b' :: cs) rest

/-- A value with the blanks before and after it. -/
inductive Element : List Char → List Char → Prop
  | element {cs cs₁ cs₂ rest : List Char} :
    Blanks cs cs₁ → IsValue cs₁ cs₂ → Blanks cs₂ rest → Element cs rest

/-- The items of an array, with the bracket that ends it. -/
inductive Items : List Char → List Char → Prop
  | last {cs rest : List Char} : Element cs (']' :: rest) → Items cs rest
  | more {cs cs₁ rest : List Char} : Element cs (',' :: cs₁) → Items cs₁ rest → Items cs rest

/-- The fields of an object, with the brace that ends it. -/
inductive Fields : List Char → List Char → Prop
  | last {cs cs₁ cs₂ cs₃ rest : List Char} :
    Blanks cs cs₁ → Quoted cs₁ cs₂ → Blanks cs₂ (':' :: cs₃) → Element cs₃ ('\x7d' :: rest) →
    Fields cs rest
  | more {cs cs₁ cs₂ cs₃ cs₄ rest : List Char} :
    Blanks cs cs₁ → Quoted cs₁ cs₂ → Blanks cs₂ (':' :: cs₃) → Element cs₃ (',' :: cs₄) →
    Fields cs₄ rest → Fields cs rest

end

/-- A whole text: one value, and blanks. -/
def IsText (s : String) : Prop := Element s.toList []

/-! ## Numbers that are written -/

variable {c : Char} {cs ds rest : List Char}

theorem digits_append (hds : AreDigits ds) (hne : ds ≠ []) (rest : List Char) :
    Digits (ds ++ rest) rest := by
  induction ds with
  | nil => exact absurd rfl hne
  | cons c ds ih =>
    have hc := hds c List.mem_cons_self
    by_cases hlast : ds = []
    · subst hlast
      exact .one hc
    · exact .more hc (ih (fun d hd => hds d (List.mem_cons_of_mem c hd)) hlast)

/-- A well-formed numeral is a number of the grammar. -/
theorem isValue_numeral {x : Numeral} (hx : x.WellFormed) (rest : List Char) :
    IsValue (x.text ++ rest) rest := by
  have hpower : Power (Numeral.powerText x.power ++ rest) rest := by
    cases x.power with
    | none => exact .none
    | some k =>
      have hdigits := digits_append (areDigits_toDigits k.natAbs) Nat.toDigits_ne_nil rest
      refine .signed (by simp) ?_ hdigits
      split <;> simp
  have hfraction : Fraction (Numeral.fractionText x.fraction ++ (Numeral.powerText x.power ++ rest))
      (Numeral.powerText x.power ++ rest) := by
    cases hf : x.fraction with
    | none => exact .none
    | some ds =>
      obtain ⟨hds, hne⟩ := hx.fraction_digits ds hf
      exact .digits (digits_append hds hne _)
  have hwhole : ∀ rest, Whole (x.whole ++ rest) rest := by
    intro rest
    obtain ⟨c, ds, hcs⟩ := List.exists_cons_of_ne_nil hx.whole_ne_nil
    by_cases hzero : c = '0'
    · rw [hx.whole_zero (by rw [hcs, hzero]; rfl)]
      exact .zero
    · have hdigits := digits_append hx.whole_digits hx.whole_ne_nil rest
      rw [hcs] at hdigits ⊢
      exact .digits hzero hdigits
  have hunsigned := Unsigned.parts (hwhole _) hfraction hpower
  rw [Numeral.text, List.append_assoc, List.append_assoc, List.append_assoc]
  cases x.minus with
  | false => exact .number hunsigned
  | true => exact .negative hunsigned

/-! ## Strings that are written -/

theorem hexDigit_mem (n : Nat) : hexDigit n ∈ hexadecimal := by
  have hlt : n % 16 < 16 := Nat.mod_lt n (by decide)
  unfold hexDigit
  generalize n % 16 = k at hlt
  interval_cases k <;> decide

/-- A character is written as one of the grammar. -/
theorem characters_escapedChar (c : Char) (h : Characters cs rest) :
    Characters (escapedChar c ++ cs) rest := by
  unfold escapedChar
  split
  · exact .short (by decide) h
  split
  · exact .short (by decide) h
  split
  · repeat
      split
      · exact .short (by decide) h
    exact .coded (by decide) (by decide) (hexDigit_mem _) (hexDigit_mem _) h
  · next hquote hbackslash hcontrol => exact .plain hquote hbackslash (Nat.not_lt.mp hcontrol) h

theorem quoted_writeString (s : String) (rest : List Char) : Quoted (writeString s rest) rest := by
  have hall : ∀ cs : List Char, Characters (cs.flatMap escapedChar ++ '"' :: rest) rest := by
    intro cs
    induction cs with
    | nil => exact .ended
    | cons c cs ih =>
      rw [List.flatMap_cons, List.append_assoc]
      exact characters_escapedChar c ih
  exact .quoted (hall s.toList)

/-! ## Values that are written -/

theorem Element.of_value (h : IsValue cs rest) : Element cs rest := .element .none h .none

mutual

/-- **What is written of a value** is a value of the grammar. -/
theorem isValue_write : (v : Value) → (rest : List Char) → IsValue (v.write rest) rest
  | .null, _ => .null
  | .bool true, _ => .true
  | .bool false, _ => .false
  | .number n, rest => by
    obtain ⟨x, hx, htext, -⟩ := spells_text n
    show IsValue (n.text.toList ++ rest) rest
    rw [← htext]
    exact isValue_numeral hx rest
  | .string s, rest => .string (quoted_writeString s rest)
  | .array [], _ => .emptyArray .none
  | .array (v :: items), rest => .array (items_writeItems items rest (isValue_write v _))
  | .object [], _ => .emptyObject .none
  | .object ((k, v) :: fields), rest =>
    .object (fields_writeFields fields rest (quoted_writeString k _) (isValue_write v _))

/-- The items after one. -/
theorem items_writeItems : (items : List Value) → (rest : List Char) → {cs : List Char} →
    IsValue cs (Value.writeItems items rest) → Items cs rest
  | [], _, _, h => .last (.of_value h)
  | v :: items, rest, _, h => .more (.of_value h) (items_writeItems items rest (isValue_write v _))

/-- The fields after one. -/
theorem fields_writeFields : (fields : List (String × Value)) → (rest : List Char) →
    {cs cs' : List Char} → Quoted cs (':' :: cs') → IsValue cs' (Value.writeFields fields rest) →
    Fields cs rest
  | [], _, _, _, hk, hv => .last .none hk .none (.of_value hv)
  | (k, v) :: fields, rest, _, _, hk, hv => .more .none hk .none (.of_value hv)
    (fields_writeFields fields rest (quoted_writeString k _) (isValue_write v _))

end

/-- **The text of a value is a text of the grammar.** -/
theorem isText_text (v : Value) : IsText v.text := by
  rw [IsText, Value.text, String.toList_ofList]
  exact .of_value (isValue_write v [])

end Grammar
end Switchboard.Json
