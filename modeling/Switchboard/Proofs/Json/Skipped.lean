import Switchboard.Json.Skip
import Switchboard.Proofs.Json.Written

/-! # Values that are written are passed over

The walk that passes over a value keeps what is open on a stack and takes a step at a
time, so its law is about steps: so many of them lead from the start of a written
value to what follows it, whatever is open around the value (`passes_write`).  They
number less than two for every byte of the value, which is as many as the walk is
given (`skipValue_written`). -/
namespace Switchboard.Json

open Ascii

variable {m n : Nat} {v : Value}

/-- Where a walk is: what is due next, what is open and the rest of the text. -/
abbrev Point := SkipStep × List Enclosure × Bytes

variable {s t u : Point}

/-- So many steps lead a walk from one point to another. -/
def Passes (n : Nat) (s t : Point) : Prop :=
  ∀ fuel, skipFrom (n + fuel) s.1 s.2.1 s.2.2 = skipFrom fuel t.1 t.2.1 t.2.2

theorem Passes.trans (hst : Passes m s t) (htu : Passes n t u) : Passes (m + n) s u := by
  intro fuel
  rw [Nat.add_assoc, hst, htu]

theorem passes_value {enclosures : List Enclosure} {text : Bytes}
    (h : skipOne .value enclosures text = .ok t) : Passes 1 (.value, enclosures, text) t := by
  intro fuel
  rw [Nat.add_comm, skipFrom]
  · rw [h]
  · exact fun _ hmember => nomatch hmember

theorem passes_member {comma? : Bool} {enclosure : Enclosure} {outer : List Enclosure}
    {text : Bytes} (h : skipOne (.member comma?) (enclosure :: outer) text = .ok t) :
    Passes 1 (.member comma?, enclosure :: outer, text) t := by
  intro fuel
  rw [Nat.add_comm, skipFrom]
  · rw [h]
  · exact fun _ _ hnil => nomatch hnil

/-! ## One step -/

variable (enclosures : List Enclosure)

/-- A scalar is passed over in one step. -/
theorem passes_scalar (hv : v.IsScalar) {rest : List Char}
    (hrest : EndsNumber (Bytes.ofChars rest)) :
    Passes 1 (.value, enclosures, Bytes.ofChars (v.write rest))
      (.member true, enclosures, Bytes.ofChars rest) := by
  apply passes_value
  cases v with
  | null => rfl
  | bool b => cases b <;> rfl
  | number n =>
    have hskip := skipNumber_written n hrest
    have hblanks := Value.skipBlanks_write (.number n) rest
    obtain ⟨b, text, hb, hstart⟩ := head_written n
    have hmem := Value.mem_firstBytes_number hstart n
    have hbracket := Value.ne_openBracket_of_mem hmem (fun _ => nofun)
    have hbrace := Value.ne_openBrace_of_mem hmem (fun _ => nofun)
    have hquote := Value.ne_quote_of_mem hmem (fun _ => nofun)
    rw [Value.write, Bytes.ofChars_append, hb, List.cons_append] at hblanks
    rw [hb, List.cons_append] at hskip
    rw [Value.write, Bytes.ofChars_append, hb, List.cons_append, skipOne, hblanks]
    simp [hbracket, hbrace, hquote, hstart, hskip, bind, Except.bind, pure, Except.pure]
  | string s =>
    have hskip := skipString_written s (Bytes.ofChars rest)
    rw [Value.write, ofChars_writeString]
    show (do
      let rest ← skipString _
      return (SkipStep.member true, enclosures, rest)) = _
    rw [hskip]
    rfl
  | array items => exact hv.elim
  | object fields => exact hv.elim

theorem passes_openBracket (items : List Value) (rest : List Char) :
    Passes 1 (.value, enclosures, Bytes.ofChars ((Value.array items).write rest))
      (.member false, .list :: enclosures, Bytes.ofChars (itemsText true items rest)) := by
  rw [write_array]
  exact passes_value rfl

theorem passes_openBrace (fields : List (String × Value)) (rest : List Char) :
    Passes 1 (.value, enclosures, Bytes.ofChars ((Value.object fields).write rest))
      (.member false, .map :: enclosures, Bytes.ofChars (fieldsText true fields rest)) := by
  rw [write_object]
  exact passes_value rfl

theorem passes_closeBracket (first : Bool) (rest : List Char) :
    Passes 1 (.member (!first), .list :: enclosures, Bytes.ofChars (itemsText first [] rest))
      (.member true, enclosures, Bytes.ofChars rest) := by
  cases first <;> exact passes_member rfl

theorem passes_closeBrace (first : Bool) (rest : List Char) :
    Passes 1 (.member (!first), .map :: enclosures, Bytes.ofChars (fieldsText first [] rest))
      (.member true, enclosures, Bytes.ofChars rest) := by
  cases first <;> exact passes_member rfl

/-- What stands before an item is passed over in one step. -/
theorem passes_toItem (first : Bool) (v : Value) (items : List Value) (rest : List Char) :
    Passes 1
      (.member (!first), .list :: enclosures, Bytes.ofChars (itemsText first (v :: items) rest))
      (.value, .list :: enclosures, Bytes.ofChars (v.write (Value.writeItems items rest))) := by
  apply passes_member
  cases first with
  | true =>
    obtain ⟨b, text, hb, hmem⟩ := Value.exists_head_write v (Value.writeItems items rest)
    have hblanks := Value.skipBlanks_write v (Value.writeItems items rest)
    have hbracket : b ≠ Enclosure.list.close := Value.ne_closeBracket_of_mem hmem
    rw [itemsText, skipOne, hblanks, hb]
    simp [hbracket, skipToMember, bind, Except.bind, pure, Except.pure]
  | false => rfl

theorem skipKey_written (k : String) (rest : List Char) :
    skipKey (Bytes.ofChars (writeString k (':' :: rest))) = .ok (Bytes.ofChars rest) := by
  rw [ofChars_writeString]
  show (do
    let text ← skipString _
    readColon text) = _
  rw [skipString_written]
  exact readColon_written rest

/-- The key and the colon before the value of a field are passed over in one step. -/
theorem passes_toField (first : Bool) (k : String) (v : Value) (fields : List (String × Value))
    (rest : List Char) :
    Passes 1
      (.member (!first), .map :: enclosures, Bytes.ofChars (fieldsText first ((k, v) :: fields) rest))
      (.value, .map :: enclosures, Bytes.ofChars (v.write (Value.writeFields fields rest))) := by
  have hkey := skipKey_written k (v.write (Value.writeFields fields rest))
  have hstep : skipOne (.member (!first)) (.map :: enclosures)
      (Bytes.ofChars (fieldsText first ((k, v) :: fields) rest)) =
      (do
        let rest ← skipKey
          (Bytes.ofChars (writeString k (':' :: v.write (Value.writeFields fields rest))))
        return (.value, .map :: enclosures, rest)) := by
    cases first with
    | true =>
      rw [fieldsText, ofChars_writeString]
      rfl
    | false =>
      show skipOne _ _ (comma :: Bytes.ofChars (writeString k _)) = _
      rw [ofChars_writeString]
      rfl
  apply passes_member
  rw [hstep, hkey]
  rfl

/-! ## A whole value -/

theorem passes_write_scalar (hv : v.IsScalar) :
    ∃ n, n + 1 ≤ 2 * (Bytes.ofChars (v.write [])).length ∧
      ∀ (enclosures : List Enclosure) (rest : List Char), EndsNumber (Bytes.ofChars rest) →
        Passes n (.value, enclosures, Bytes.ofChars (v.write rest))
          (.member true, enclosures, Bytes.ofChars rest) := by
  have hpos := Value.length_write_pos v
  exact ⟨1, by omega, fun enclosures _ hrest => passes_scalar enclosures hv hrest⟩

mutual

/-- **The steps over a written value** number less than two for a byte. -/
theorem passes_write : (v : Value) → ∃ n, n + 1 ≤ 2 * (Bytes.ofChars (v.write [])).length ∧
    ∀ (enclosures : List Enclosure) (rest : List Char), EndsNumber (Bytes.ofChars rest) →
      Passes n (.value, enclosures, Bytes.ofChars (v.write rest))
        (.member true, enclosures, Bytes.ofChars rest)
  | .null => passes_write_scalar (by trivial)
  | .bool _ => passes_write_scalar (by trivial)
  | .number _ => passes_write_scalar (by trivial)
  | .string _ => passes_write_scalar (by trivial)
  | .array items => by
    obtain ⟨n, hn, hitems⟩ := passes_writeItems true items
    have hlength : (Bytes.ofChars ((Value.array items).write [])).length =
        (Bytes.ofChars (itemsText true items [])).length + 1 := by
      rw [write_array]
      rfl
    refine ⟨1 + n, by omega, fun enclosures rest _ => ?_⟩
    exact (passes_openBracket enclosures items rest).trans (hitems enclosures rest)
  | .object fields => by
    obtain ⟨n, hn, hfields⟩ := passes_writeFields true fields
    have hlength : (Bytes.ofChars ((Value.object fields).write [])).length =
        (Bytes.ofChars (fieldsText true fields [])).length + 1 := by
      rw [write_object]
      rfl
    refine ⟨1 + n, by omega, fun enclosures rest _ => ?_⟩
    exact (passes_openBrace enclosures fields rest).trans (hfields enclosures rest)

/-- The steps over the items of an array and the bracket that ends it. -/
theorem passes_writeItems : (first : Bool) → (items : List Value) →
    ∃ n, n + 1 ≤ 2 * (Bytes.ofChars (itemsText first items [])).length ∧
      ∀ (enclosures : List Enclosure) (rest : List Char),
        Passes n (.member (!first), .list :: enclosures, Bytes.ofChars (itemsText first items rest))
          (.member true, enclosures, Bytes.ofChars rest)
  | first, [] => by
    refine ⟨1, ?_, fun enclosures rest => passes_closeBracket enclosures first rest⟩
    cases first <;> decide
  | first, v :: items => by
    obtain ⟨m, hm, hvalue⟩ := passes_write v
    obtain ⟨n, hn, hitems⟩ := passes_writeItems false items
    have hlength : (Bytes.ofChars (v.write [])).length +
        (Bytes.ofChars (itemsText false items [])).length ≤
          (Bytes.ofChars (itemsText first (v :: items) [])).length := by
      have hwrite := Value.length_write v (Value.writeItems items [])
      cases first with
      | true => exact hwrite.ge
      | false => exact hwrite.ge.trans (Nat.le_succ _)
    -- The step to the item is paid for by the byte that the steps over the item leave unused.
    refine ⟨1 + (m + n), by omega, fun enclosures rest => ?_⟩
    have hafter := endsNumber_writeItems items rest
    exact (passes_toItem enclosures first v items rest).trans
      ((hvalue (.list :: enclosures) _ hafter).trans (hitems enclosures rest))

/-- The steps over the fields of an object and the brace that ends it. -/
theorem passes_writeFields : (first : Bool) → (fields : List (String × Value)) →
    ∃ n, n + 1 ≤ 2 * (Bytes.ofChars (fieldsText first fields [])).length ∧
      ∀ (enclosures : List Enclosure) (rest : List Char),
        Passes n (.member (!first), .map :: enclosures, Bytes.ofChars (fieldsText first fields rest))
          (.member true, enclosures, Bytes.ofChars rest)
  | first, [] => by
    refine ⟨1, ?_, fun enclosures rest => passes_closeBrace enclosures first rest⟩
    cases first <;> decide
  | first, (k, v) :: fields => by
    obtain ⟨m, hm, hvalue⟩ := passes_write v
    obtain ⟨n, hn, hfields⟩ := passes_writeFields false fields
    have hlength : (Bytes.ofChars (v.write [])).length +
        (Bytes.ofChars (fieldsText false fields [])).length ≤
          (Bytes.ofChars (fieldsText first ((k, v) :: fields) [])).length := by
      have hwrite := Value.length_write v (Value.writeFields fields [])
      have hkey := length_lt_writeString k (v.write (Value.writeFields fields []))
      cases first with
      | true => exact hwrite.ge.trans hkey.le
      | false => exact (hwrite.ge.trans hkey.le).trans (Nat.le_succ _)
    refine ⟨1 + (m + n), by omega, fun enclosures rest => ?_⟩
    have hafter := endsNumber_writeFields fields rest
    exact (passes_toField enclosures first k v fields rest).trans
      ((hvalue (.map :: enclosures) _ hafter).trans (hfields enclosures rest))

end

/-- **A written value is passed over** to what follows it, however deep it is. -/
theorem skipValue_written (v : Value) {rest : List Char}
    (hrest : EndsNumber (Bytes.ofChars rest)) :
    skipValue (Bytes.ofChars (v.write rest)) = .ok (Bytes.ofChars rest) := by
  obtain ⟨n, hn, hpasses⟩ := passes_write v
  have hlength := Value.length_write v rest
  obtain ⟨fuel, hfuel⟩ : ∃ fuel,
      2 * (Bytes.ofChars (v.write rest)).length + 2 = n + (fuel + 1) :=
    ⟨2 * (Bytes.ofChars (v.write rest)).length + 1 - n, by omega⟩
  rw [skipValue, hfuel]
  exact hpasses [] rest hrest (fuel + 1)

end Switchboard.Json
