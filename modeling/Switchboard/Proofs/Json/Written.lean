import Mathlib.Tactic.IntervalCases
import Switchboard.Json.Reader
import Switchboard.Proofs.Json.Numbers
import Switchboard.Proofs.Json.Strings

/-! # Values that are written are read back

What a reader makes of a written value does not depend on what follows the value, as
long as that does not make a number longer (`Reads`).  The walks over the items of an
array and over the fields of an object make of them what is made of one item, or one
field, after the other (`readItems_written`, `readFields_written`), whatever that is;
so the readers of values and of types need a law only for one item or one field.

A reader decides by the first byte what it is going to read.  `Value.firstBytes` lists
the bytes that a value can start with, and what a reader does not mistake the value for
is read off that list. -/
namespace Switchboard.Json

open Ascii

variable {α σ : Type} {v : Value} {rest : List Char}

/-- A reader makes the same of a written value, whatever follows the value. -/
def Reads (read : Reader α) (v : Value) (result : Except Fault α) : Prop :=
  ∀ rest : List Char, EndsNumber (Bytes.ofChars rest) →
    read (Bytes.ofChars (v.write rest)) = result.map (·, Bytes.ofChars rest)

/-! ## What a written value starts with -/

namespace Value

/-- A value that is neither an array nor an object. -/
def IsScalar : Value → Prop
  | array _ | object _ => False
  | _ => True

/-- The bytes that the text of a value can start with. -/
def firstBytes : Value → List UInt8
  | null => [lowerN]
  | bool true => [lowerT]
  | bool false => [lowerF]
  | number _ => [minus, zero, 0x31, 0x32, 0x33, 0x34, 0x35, 0x36, 0x37, 0x38, 0x39]
  | string _ => [quote]
  | array _ => [openBracket]
  | object _ => [openBrace]

variable {b : UInt8}

theorem mem_firstBytes_number (h : b = minus ∨ isDigit b = true) (n : Number) :
    b ∈ firstBytes (number n) := by
  rcases h with rfl | hb
  · exact List.mem_cons_self
  have hrange : 48 ≤ b.toNat ∧ b.toNat ≤ 57 := by
    simp only [isDigit, Bool.and_eq_true, decide_eq_true_eq] at hb
    exact ⟨UInt8.le_iff_toNat_le.mp hb.1, UInt8.le_iff_toNat_le.mp hb.2⟩
  obtain ⟨hlow, hhigh⟩ := hrange
  rw [← UInt8.ofNat_toNat (x := b)]
  generalize b.toNat = k at hlow hhigh
  simp only [firstBytes]
  interval_cases k <;> decide

/-- The text of a value starts with one of the bytes that it can start with. -/
theorem exists_head_write (v : Value) (rest : List Char) :
    ∃ b text, Bytes.ofChars (v.write rest) = b :: text ∧ b ∈ v.firstBytes := by
  cases v with
  | null => exact ⟨_, _, rfl, List.mem_cons_self⟩
  | bool b => cases b <;> exact ⟨_, _, rfl, List.mem_cons_self⟩
  | number n =>
    obtain ⟨b, text, hb, hstart⟩ := head_written n
    rw [write, Bytes.ofChars_append, hb]
    exact ⟨b, _, rfl, mem_firstBytes_number hstart n⟩
  | string s => exact ⟨_, _, rfl, List.mem_cons_self⟩
  | array items => cases items <;> exact ⟨_, _, rfl, List.mem_cons_self⟩
  | object fields => cases fields <;> exact ⟨_, _, rfl, List.mem_cons_self⟩

/-- No value starts with a blank. -/
theorem not_blank_of_mem (h : b ∈ v.firstBytes) : isJsonBlank b = false := by
  have hall : v.firstBytes.all (fun c => !isJsonBlank c) = true := by
    rcases v with _ | (_ | _) | _ | _ | _ | _ <;> rfl
  simpa using List.all_eq_true.mp hall b h

/-- No value starts with the end of an array. -/
theorem ne_closeBracket_of_mem (h : b ∈ v.firstBytes) : b ≠ closeBracket := by
  have hall : v.firstBytes.all (· != closeBracket) = true := by
    rcases v with _ | (_ | _) | _ | _ | _ | _ <;> rfl
  simpa using List.all_eq_true.mp hall b h

/-- No value starts with what stands between two items. -/
theorem ne_comma_of_mem (h : b ∈ v.firstBytes) : b ≠ comma := by
  have hall : v.firstBytes.all (· != comma) = true := by
    rcases v with _ | (_ | _) | _ | _ | _ | _ <;> rfl
  simpa using List.all_eq_true.mp hall b h

/-- Only arrays start as arrays do. -/
theorem ne_openBracket_of_mem (h : b ∈ v.firstBytes) (hv : ∀ items, v ≠ array items) :
    b ≠ openBracket := by
  have hall : v.firstBytes.all (· != openBracket) = true := by
    rcases v with _ | (_ | _) | _ | _ | items | _
    case array => exact absurd rfl (hv items)
    all_goals rfl
  simpa using List.all_eq_true.mp hall b h

/-- Only objects start as objects do. -/
theorem ne_openBrace_of_mem (h : b ∈ v.firstBytes) (hv : ∀ fields, v ≠ object fields) :
    b ≠ openBrace := by
  have hall : v.firstBytes.all (· != openBrace) = true := by
    rcases v with _ | (_ | _) | _ | _ | _ | fields
    case object => exact absurd rfl (hv fields)
    all_goals rfl
  simpa using List.all_eq_true.mp hall b h

/-- Only strings start as strings do. -/
theorem ne_quote_of_mem (h : b ∈ v.firstBytes) (hv : ∀ s, v ≠ string s) : b ≠ quote := by
  have hall : v.firstBytes.all (· != quote) = true := by
    rcases v with _ | (_ | _) | _ | s | _ | _
    case string => exact absurd rfl (hv s)
    all_goals rfl
  simpa using List.all_eq_true.mp hall b h

/-- Only null starts as null does. -/
theorem ne_lowerN_of_mem (h : b ∈ v.firstBytes) (hv : v ≠ null) : b ≠ lowerN := by
  have hall : v.firstBytes.all (· != lowerN) = true := by
    rcases v with _ | (_ | _) | _ | _ | _ | _
    case null => exact absurd rfl hv
    all_goals rfl
  simpa using List.all_eq_true.mp hall b h

theorem skipBlanks_write (v : Value) (rest : List Char) :
    skipBlanks (Bytes.ofChars (v.write rest)) = Bytes.ofChars (v.write rest) := by
  obtain ⟨b, text, hb, hmem⟩ := exists_head_write v rest
  rw [hb, skipBlanks, List.dropWhile_cons, not_blank_of_mem hmem]
  rfl

/-! ## What follows a value -/

mutual

/-- What follows a value is put behind it. -/
theorem write_append : (v : Value) → (cs ds : List Char) → v.write (cs ++ ds) = v.write cs ++ ds
  | null, _, _ => rfl
  | bool true, _, _ => rfl
  | bool false, _, _ => rfl
  | number n, cs, ds => by rw [write, write, List.append_assoc]
  | string s, cs, ds => by simp [write, writeString]
  | array [], _, _ => rfl
  | array (v :: items), cs, ds => by
    rw [write, write, writeItems_append items, write_append v, List.cons_append]
  | object [], _, _ => rfl
  | object ((k, v) :: fields), cs, ds => by
    rw [write, write, writeFields_append fields, write_append v]
    simp [writeString]

theorem writeItems_append : (items : List Value) → (cs ds : List Char) →
    writeItems items (cs ++ ds) = writeItems items cs ++ ds
  | [], _, _ => rfl
  | v :: items, cs, ds => by
    rw [writeItems, writeItems, writeItems_append items, write_append v, List.cons_append]

theorem writeFields_append : (fields : List (String × Value)) → (cs ds : List Char) →
    writeFields fields (cs ++ ds) = writeFields fields cs ++ ds
  | [], _, _ => rfl
  | (k, v) :: fields, cs, ds => by
    rw [writeFields, writeFields, writeFields_append fields, write_append v]
    simp [writeString]

end

theorem length_write (v : Value) (rest : List Char) :
    (Bytes.ofChars (v.write rest)).length =
      (Bytes.ofChars (v.write [])).length + (Bytes.ofChars rest).length := by
  rw [← List.nil_append rest, write_append, Bytes.ofChars_append, List.length_append]
  rfl

theorem length_write_pos (v : Value) : 0 < (Bytes.ofChars (v.write [])).length := by
  obtain ⟨b, text, hb, -⟩ := exists_head_write v []
  rw [hb]
  exact Nat.succ_pos _

end Value

/-! ## Scalars -/

/-- **A written scalar is read back.** -/
theorem readScalar?_written (hv : v.IsScalar) (hrest : EndsNumber (Bytes.ofChars rest)) :
    readScalar? (Bytes.ofChars (v.write rest)) = .ok (some v, Bytes.ofChars rest) := by
  cases v with
  | null => rfl
  | bool b => cases b <;> rfl
  | number n =>
    obtain ⟨b, text, hb, hstart⟩ := head_written n
    have hread := readNumber_written n hrest
    have hmem := Value.mem_firstBytes_number hstart n
    have hbracket := Value.ne_openBracket_of_mem hmem (fun _ => nofun)
    have hbrace := Value.ne_openBrace_of_mem hmem (fun _ => nofun)
    have hquote := Value.ne_quote_of_mem hmem (fun _ => nofun)
    rw [hb] at hread
    rw [Value.write, Bytes.ofChars_append, hb]
    simp only [List.cons_append] at hread ⊢
    simp [readScalar?, hbracket, hbrace, hquote, hstart, hread, bind, Except.bind, pure, Except.pure]
  | string s =>
    have hread := readString_written s (Bytes.ofChars rest)
    have hquote : Bytes.ofChars ((Value.string s).write rest) =
        quote :: (Bytes.ofChars (s.toList.flatMap escapedChar) ++ quote :: Bytes.ofChars rest) := by
      rw [Value.write, ofChars_writeString]
    rw [hquote]
    show (do
      let s ← readString _
      return (some (Value.string s.1), s.2)) = _
    rw [hread]
    rfl
  | array items => exact hv.elim
  | object fields => exact hv.elim

/-- An array or an object is left to others. -/
theorem readScalar?_array (items : List Value) (rest : List Char) :
    readScalar? (Bytes.ofChars ((Value.array items).write rest)) =
      .ok (none, Bytes.ofChars ((Value.array items).write rest)) := by
  cases items <;> rfl

theorem readScalar?_object (fields : List (String × Value)) (rest : List Char) :
    readScalar? (Bytes.ofChars ((Value.object fields).write rest)) =
      .ok (none, Bytes.ofChars ((Value.object fields).write rest)) := by
  cases fields <;> rfl

/-! ## The walk over items -/

/-- The items of an array as they are written after the bracket or after another
item, with the bracket that ends the array. -/
def itemsText : Bool → List Value → List Char → List Char
  | true, [], rest => ']' :: rest
  | true, v :: items, rest => v.write (Value.writeItems items rest)
  | false, items, rest => Value.writeItems items rest

theorem write_array (items : List Value) (rest : List Char) :
    (Value.array items).write rest = '[' :: itemsText true items rest := by
  cases items <;> rfl

theorem endsNumber_writeItems (items : List Value) (rest : List Char) :
    EndsNumber (Bytes.ofChars (Value.writeItems items rest)) := by
  intro b hb
  cases items with
  | nil =>
    obtain rfl : closeBracket = b := Option.some.inj hb
    decide
  | cons v items =>
    obtain rfl : comma = b := Option.some.inj hb
    decide

theorem nextItem_nil (first : Bool) (rest : List Char) :
    nextItem first (Bytes.ofChars (itemsText first [] rest)) = .ok none := by
  cases first <;> rfl

theorem nextItem_cons (first : Bool) (v : Value) (items : List Value) (rest : List Char) :
    nextItem first (Bytes.ofChars (itemsText first (v :: items) rest)) =
      .ok (some (Bytes.ofChars (v.write (Value.writeItems items rest)))) := by
  obtain ⟨b, text, hb, hmem⟩ := Value.exists_head_write v (Value.writeItems items rest)
  have hblanks := Value.skipBlanks_write v (Value.writeItems items rest)
  have hbracket := Value.ne_closeBracket_of_mem hmem
  cases first with
  | true =>
    rw [itemsText, nextItem, hblanks, hb]
    simp [hbracket]
  | false =>
    have hcomma : Bytes.ofChars (itemsText false (v :: items) rest) =
        comma :: Bytes.ofChars (v.write (Value.writeItems items rest)) := rfl
    have hskip : ∀ text, skipBlanks (comma :: text) = comma :: text := fun _ => rfl
    have hne : comma ≠ closeBracket := by decide
    rw [hcomma, nextItem, hskip]
    simp only [hne, if_false]
    rw [hblanks, hb]
    simp [hbracket]

/-- What is left of an array at its end. -/
theorem endArray_itemsText (first : Bool) (rest : List Char) :
    endArray (Bytes.ofChars (itemsText first [] rest)) = .ok (Bytes.ofChars rest) := by
  cases first <;> rfl

/-- Every item takes a byte. -/
theorem length_items_le (items : List Value) (rest : List Char) :
    items.length ≤ (Bytes.ofChars (itemsText true items rest)).length := by
  have hlater : ∀ items : List Value,
      items.length ≤ (Bytes.ofChars (Value.writeItems items rest)).length := by
    intro items
    induction items with
    | nil => exact Nat.zero_le _
    | cons v items ih =>
      have hcomma : Bytes.ofChars (Value.writeItems (v :: items) rest) =
          comma :: Bytes.ofChars (v.write (Value.writeItems items rest)) := rfl
      rw [hcomma, List.length_cons, List.length_cons, Value.length_write]
      omega
  cases items with
  | nil => exact Nat.zero_le _
  | cons v items =>
    have hpos := Value.length_write_pos v
    have hitems := hlater items
    rw [itemsText, Value.length_write, List.length_cons]
    omega

theorem readItemsFrom_written {step : σ → Bytes → Except Fault (σ × Bytes)}
    {next : σ → Value → Except Fault σ} {items : List Value} (rest : List Char)
    (hstep : ∀ v ∈ items, ∀ s, Reads (step s) v (next s v)) {fuel : Nat}
    (hfuel : items.length < fuel) (first : Bool) (s : σ) :
    readItemsFrom step fuel first s (Bytes.ofChars (itemsText first items rest)) =
      (items.foldlM next s).map (·, Bytes.ofChars rest) := by
  induction items generalizing fuel first s with
  | nil =>
    obtain ⟨fuel, rfl⟩ : ∃ n, fuel = n + 1 := ⟨fuel - 1, by omega⟩
    rw [readItemsFrom, nextItem_nil]
    simp only
    rw [endArray_itemsText]
    rfl
  | cons v items ih =>
    obtain ⟨fuel, rfl⟩ : ∃ n, fuel = n + 1 := ⟨fuel - 1, by omega⟩
    rw [readItemsFrom, nextItem_cons]
    simp only
    rw [hstep v List.mem_cons_self s _ (endsNumber_writeItems items rest), List.foldlM_cons]
    cases next s v with
    | error fault => rfl
    | ok s' =>
      have hlater := ih (fun w hw => hstep w (List.mem_cons_of_mem v hw))
        (Nat.lt_of_succ_lt_succ hfuel) false s'
      exact hlater

/-- **The walk over the items of a written array** makes of them what is made of one
after the other. -/
theorem readItems_written (step : σ → Bytes → Except Fault (σ × Bytes))
    {next : σ → Value → Except Fault σ} {items : List Value}
    (hstep : ∀ v ∈ items, ∀ s, Reads (step s) v (next s v)) (s : σ) (rest : List Char) :
    readItems step s (Bytes.ofChars (itemsText true items rest)) =
      (items.foldlM next s).map (·, Bytes.ofChars rest) :=
  readItemsFrom_written rest hstep (Nat.lt_succ_of_le (length_items_le items rest)) true s

/-! ## The walk over fields -/

/-- The fields of an object as they are written after the brace or after another
field, with the brace that ends the object. -/
def fieldsText : Bool → List (String × Value) → List Char → List Char
  | true, [], rest => '\x7d' :: rest
  | true, (k, v) :: fields, rest => writeString k (':' :: v.write (Value.writeFields fields rest))
  | false, fields, rest => Value.writeFields fields rest

theorem write_object (fields : List (String × Value)) (rest : List Char) :
    (Value.object fields).write rest = '\x7b' :: fieldsText true fields rest := by
  cases fields <;> rfl

theorem endsNumber_writeFields (fields : List (String × Value)) (rest : List Char) :
    EndsNumber (Bytes.ofChars (Value.writeFields fields rest)) := by
  intro b hb
  cases fields with
  | nil =>
    obtain rfl : closeBrace = b := Option.some.inj hb
    decide
  | cons f fields =>
    obtain rfl : comma = b := Option.some.inj hb
    decide

theorem nextField_nil (first : Bool) (rest : List Char) :
    nextField first (Bytes.ofChars (fieldsText first [] rest)) =
      .ok (none, Bytes.ofChars rest) := by
  cases first <;> rfl

theorem nextField_cons (first : Bool) (k : String) (v : Value) (fields : List (String × Value))
    (rest : List Char) :
    nextField first (Bytes.ofChars (fieldsText first ((k, v) :: fields) rest)) =
      .ok (some k, Bytes.ofChars (':' :: v.write (Value.writeFields fields rest))) := by
  have hkey := readString_written k (Bytes.ofChars (':' :: v.write (Value.writeFields fields rest)))
  have hfirst := ofChars_writeString k (':' :: v.write (Value.writeFields fields rest))
  cases first with
  | true =>
    rw [fieldsText, hfirst]
    show (do
      let k ← readString _
      return (some k.1, k.2)) = _
    rw [hkey]
    rfl
  | false =>
    have hcomma : Bytes.ofChars (fieldsText false ((k, v) :: fields) rest) =
        comma :: Bytes.ofChars (writeString k (':' :: v.write (Value.writeFields fields rest))) :=
      rfl
    rw [hcomma, hfirst]
    show (do
      let k ← readString _
      return (some k.1, k.2)) = _
    rw [hkey]
    rfl

theorem readColon_written (rest : List Char) :
    readColon (Bytes.ofChars (':' :: rest)) = .ok (Bytes.ofChars rest) := rfl

/-- A key takes bytes. -/
theorem length_lt_writeString (k : String) (rest : List Char) :
    (Bytes.ofChars rest).length < (Bytes.ofChars (writeString k (':' :: rest))).length := by
  have hcolon : Bytes.ofChars (':' :: rest) = colon :: Bytes.ofChars rest := rfl
  rw [ofChars_writeString, List.length_cons, List.length_append, List.length_cons, hcolon,
    List.length_cons]
  omega

/-- Every field takes a byte. -/
theorem length_fields_le (fields : List (String × Value)) (rest : List Char) :
    fields.length ≤ (Bytes.ofChars (fieldsText true fields rest)).length := by
  have hlater : ∀ fields : List (String × Value),
      fields.length ≤ (Bytes.ofChars (Value.writeFields fields rest)).length := by
    intro fields
    induction fields with
    | nil => exact Nat.zero_le _
    | cons f fields ih =>
      have hcomma : Bytes.ofChars (Value.writeFields (f :: fields) rest) = comma ::
          Bytes.ofChars (writeString f.1 (':' :: f.2.write (Value.writeFields fields rest))) := rfl
      have hkey := length_lt_writeString f.1 (f.2.write (Value.writeFields fields rest))
      have hvalue := Value.length_write f.2 (Value.writeFields fields rest)
      rw [hcomma, List.length_cons, List.length_cons]
      omega
  cases fields with
  | nil => exact Nat.zero_le _
  | cons f fields =>
    have hkey := length_lt_writeString f.1 (f.2.write (Value.writeFields fields rest))
    have hvalue := Value.length_write f.2 (Value.writeFields fields rest)
    have hfields := hlater fields
    rw [fieldsText, List.length_cons]
    omega

/-- What is made of a field after its key, whatever follows the field. -/
def ReadsField (step : Bytes → Except Fault (σ × Bytes)) (v : Value) (result : Except Fault σ) :
    Prop :=
  ∀ rest : List Char, EndsNumber (Bytes.ofChars rest) →
    step (Bytes.ofChars (':' :: v.write rest)) = result.map (·, Bytes.ofChars rest)

theorem readFieldsFrom_written {step : σ → String → Bytes → Except Fault (σ × Bytes)}
    {next : σ → String × Value → Except Fault σ} {fields : List (String × Value)}
    (rest : List Char) (hstep : ∀ f ∈ fields, ∀ s, ReadsField (step s f.1) f.2 (next s f))
    {fuel : Nat} (hfuel : fields.length < fuel) (first : Bool) (s : σ) :
    readFieldsFrom step fuel first s (Bytes.ofChars (fieldsText first fields rest)) =
      (fields.foldlM next s).map (·, Bytes.ofChars rest) := by
  induction fields generalizing fuel first s with
  | nil =>
    obtain ⟨fuel, rfl⟩ : ∃ n, fuel = n + 1 := ⟨fuel - 1, by omega⟩
    rw [readFieldsFrom, nextField_nil]
    rfl
  | cons f fields ih =>
    obtain ⟨fuel, rfl⟩ : ∃ n, fuel = n + 1 := ⟨fuel - 1, by omega⟩
    rw [readFieldsFrom, nextField_cons]
    simp only
    rw [hstep f List.mem_cons_self s _ (endsNumber_writeFields fields rest), List.foldlM_cons]
    cases next s f with
    | error fault => rfl
    | ok s' =>
      have hlater := ih (fun g hg => hstep g (List.mem_cons_of_mem f hg))
        (Nat.lt_of_succ_lt_succ hfuel) false s'
      exact hlater

/-- **The walk over the fields of a written object** makes of them what is made of
one after the other. -/
theorem readFields_written (step : σ → String → Bytes → Except Fault (σ × Bytes))
    {next : σ → String × Value → Except Fault σ} {fields : List (String × Value)}
    (hstep : ∀ f ∈ fields, ∀ s, ReadsField (step s f.1) f.2 (next s f)) (s : σ)
    (rest : List Char) :
    readFields step s (Bytes.ofChars (fieldsText true fields rest)) =
      (fields.foldlM next s).map (·, Bytes.ofChars rest) :=
  readFieldsFrom_written rest hstep (Nat.lt_succ_of_le (length_fields_le fields rest)) true s

end Switchboard.Json
