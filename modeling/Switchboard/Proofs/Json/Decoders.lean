import Switchboard.Json.Decoder
import Switchboard.Proofs.Json.Values

/-! # Types read from a text and from a value

A decoder reads its type from a text and, by other means, from a value that has been
read already.  It is **faithful** if both make the same of every canonical value that
is not too deep for the text: the same result, or the same fault.  Every decoder that
the fields of records use is faithful, for its parts are (`Faithful.optional`,
`Faithful.list`, `Faithful.map`). -/
namespace Switchboard.Json

open Ascii

variable {α β : Type} {read : Reader α} {v : Value} {a : Nat} {result : Except Fault α}

/-! ## What a reader makes of a value -/

theorem Reads.map (h : Reads read v result) (f : α → β) :
    Reads (fun text => do
      let (x, rest) ← read text
      return (f x, rest)) v (result.map f) := by
  intro rest hrest
  simp only [h rest hrest]
  cases result <;> rfl

/-- A whole text. -/
theorem Reads.finish (h : Reads read v result) :
    (do Json.finish (← read (Bytes.ofText v.text))) = result := by
  have hends : EndsNumber (Bytes.ofChars []) := by
    intro b hb
    cases hb
  rw [Value.text, Bytes.ofText_ofList, h [] hends]
  cases result <;> rfl

/-- A value of the wrong type is found to be what it is. -/
theorem mismatch_written (expected : String) (v : Value) {rest : List Char}
    (hrest : EndsNumber (Bytes.ofChars rest)) :
    Decoder.mismatch (α := α) expected (Bytes.ofChars (v.write rest)) =
      .error (.wrongType v.found expected) := by
  unfold Decoder.mismatch
  cases v with
  | null | bool | number | string => rw [readScalar?_written (by trivial) hrest]
  | array items =>
    rw [readScalar?_array, write_array]
    rfl
  | object fields =>
    rw [readScalar?_object, write_object]
    rfl

namespace Decoder

@[simp] theorem string_ofValue (s : String) : string.ofValue (.string s) = .ok s := rfl

@[simp] theorem value_ofValue (v : Value) : value.ofValue v = .ok v := rfl

@[simp] theorem optional_ofValue_string (d : Decoder α) (s : String) :
    (optional d).ofValue (.string s) = (d.ofValue (.string s)).map some := rfl

@[simp] theorem map_ofValue (f : α → β) (d : Decoder α) (v : Value) :
    (d.map f).ofValue v = (d.ofValue v).map f := rfl

/-- A list is read back from an array if its items are. -/
theorem list_ofValue_map {d : Decoder α} {json : α → Value} (h : ∀ x, d.ofValue (json x) = .ok x)
    (xs : List α) : (list d).ofValue (.array (xs.map json)) = .ok xs := by
  show valuesOf d (xs.map json) = .ok xs
  induction xs with
  | nil => rfl
  | cons x xs ih =>
    rw [List.map_cons, valuesOf, ih, h]
    rfl

/-- A text and the value that it writes are read the same way. -/
def Faithful (d : Decoder α) : Prop :=
  ∀ a v, v.Canonical → v.depth ≤ a → Reads (d.read a) v (d.ofValue v)

variable {d : Decoder α}

theorem Faithful.parse (hd : d.Faithful) (hv : v.Canonical) (hdepth : v.depth ≤ maxDepth) :
    d.parse (Bytes.ofText v.text) = d.ofValue v :=
  (hd maxDepth v hv hdepth).finish

/-- A whole text that is read is read from its start. -/
theorem exists_of_parse {text : Bytes} {x : α} (h : d.parse text = .ok x) :
    ∃ rest, d.read maxDepth text = .ok (x, rest) := by
  obtain ⟨⟨y, rest⟩, hread, hfinish⟩ := exists_of_bind_eq_ok h
  unfold Json.finish at hfinish
  split at hfinish
  · cases hfinish
    exact ⟨rest, hread⟩
  · cases hfinish

/-- The value of a whole text is canonical, and no deeper than a text may nest. -/
theorem canonical_of_parse {text : Bytes} (h : Json.parse text = .ok v) :
    v.Canonical ∧ v.depth ≤ maxDepth := by
  obtain ⟨rest, hread⟩ := exists_of_parse (d := value) h
  exact canonical_of_readValue hread

theorem faithful_value : value.Faithful := by
  intro a v hv hdepth
  have hread := reads_readValue a hv
  rwa [allowed, if_pos hdepth] at hread

/-- A scalar is read back if neither arrays nor objects are accepted. -/
theorem faithful_scalar {expected : String} {accept : Value → Option (Except Fault α)}
    (harray : ∀ items, accept (.array items) = none)
    (hobject : ∀ fields, accept (.object fields) = none) : (scalar expected accept).Faithful := by
  have hscalar : ∀ a v, v.IsScalar →
      Reads ((scalar expected accept).read a) v ((scalar expected accept).ofValue v) := by
    intro a v hv rest hrest
    unfold scalar
    simp only
    rw [Value.skipBlanks_write, readScalar?_written hv hrest]
    simp only
    rcases accept v with _ | (fault | x) <;> rfl
  -- Arrays and objects are left by the reader of scalars and found to be what they are.
  have hother : ∀ a v, accept v = none →
      (∀ rest, readScalar? (Bytes.ofChars (v.write rest)) = .ok (none, Bytes.ofChars (v.write rest))) →
      Reads ((scalar expected accept).read a) v ((scalar expected accept).ofValue v) := by
    intro a v hnone hleft rest hrest
    unfold scalar
    simp only
    rw [Value.skipBlanks_write, hleft]
    simp only
    rw [mismatch_written expected _ hrest, hnone]
    rfl
  intro a v _ _
  cases v with
  | null | bool | number | string => exact hscalar a _ (by trivial)
  | array items => exact hother a _ (harray items) (readScalar?_array items)
  | object fields => exact hother a _ (hobject fields) (readScalar?_object fields)

theorem faithful_string : string.Faithful :=
  faithful_scalar (fun _ => rfl) fun _ => rfl

theorem faithful_stringAs (expected : String) (accept : String → Except String α) :
    (stringAs expected accept).Faithful :=
  faithful_scalar (fun _ => rfl) fun _ => rfl

theorem faithful_bool : bool.Faithful :=
  faithful_scalar (fun _ => rfl) fun _ => rfl

/-- What is read is made of what the decoder behind it reads. -/
theorem exists_of_map_read {d : Decoder α} {f : α → β} {text rest : Bytes} {y : β}
    (h : (d.map f).read a text = .ok (y, rest)) :
    ∃ x, d.read a text = .ok (x, rest) ∧ y = f x := by
  obtain ⟨⟨x, rest'⟩, hread, hy⟩ := exists_of_bind_eq_ok h
  cases hy
  exact ⟨x, hread, rfl⟩

theorem Faithful.map (hd : d.Faithful) (f : α → β) : (d.map f).Faithful :=
  fun a v hv hdepth => (hd a v hv hdepth).map f

theorem Faithful.optional (hd : d.Faithful) : (optional d).Faithful := by
  intro a v hv hdepth
  by_cases hnull : v = .null
  · subst hnull
    intro rest _
    rfl
  have hvalue : (Decoder.optional d).ofValue v = (d.ofValue v).map some := by
    cases v with
    | null => exact absurd rfl hnull
    | bool | number | string | array | object => rfl
  intro rest hrest
  have hread := (hd a v hv hdepth).map some rest hrest
  obtain ⟨b, text, hb, hmem⟩ := Value.exists_head_write v rest
  have hstart : b ≠ lowerN := Value.ne_lowerN_of_mem hmem hnull
  have hblanks := Value.skipBlanks_write v rest
  rw [hb] at hread hblanks
  rw [hvalue, ← hread, hb]
  unfold Decoder.optional
  simp only [hblanks, hstart, if_false]

/-- The items taken one by one are those taken together. -/
theorem foldlM_ofValue (items : List Value) (done : List α) :
    items.foldlM (fun as v => (d.ofValue v).map (· :: as)) done =
      (valuesOf d items).map fun as => as.reverse ++ done := by
  induction items generalizing done with
  | nil => rfl
  | cons v items ih =>
    rw [List.foldlM_cons, valuesOf]
    cases d.ofValue v with
    | error fault => rfl
    | ok x =>
      have hlater := ih (x :: done)
      simp only [Except.map, bind, Except.bind] at hlater ⊢
      rw [hlater]
      cases valuesOf d items with
      | error fault => rfl
      | ok as => simp [pure, Except.pure]

theorem Faithful.list (hd : d.Faithful) : (list d).Faithful := by
  intro a v hv hdepth
  by_cases hother : ∀ items, v ≠ .array items
  · have hvalue : (Decoder.list d).ofValue v = .error (.wrongType v.found "a sequence") := by
      cases v with
      | array items => exact absurd rfl (hother items)
      | null | bool | number | string | object => rfl
    intro rest hrest
    have hmismatch := mismatch_written (α := List α × Bytes) "a sequence" v hrest
    obtain ⟨b, text, hb, hmem⟩ := Value.exists_head_write v rest
    have hstart : b ≠ openBracket := Value.ne_openBracket_of_mem hmem hother
    have hblanks := Value.skipBlanks_write v rest
    rw [hb] at hmismatch hblanks
    rw [hvalue, hb]
    unfold Decoder.list
    simp only [hblanks, hstart, if_false]
    exact hmismatch
  obtain ⟨items, rfl⟩ : ∃ items, v = .array items := by
    simpa using hother
  obtain ⟨a, rfl⟩ : ∃ n, a = n + 1 := ⟨a - 1, by rw [Value.depth] at hdepth; omega⟩
  have hcanonical := Value.canonicalItems_iff.mp hv
  have hitems := Value.depthItems_le_iff.mp (Nat.le_of_succ_le_succ hdepth)
  have hstep : ∀ v ∈ items, ∀ as : List α, Reads (fun text => do
      let (x, rest) ← d.read a text
      return (x :: as, rest)) v ((d.ofValue v).map (· :: as)) :=
    fun v hmem as => (hd a v (hcanonical v hmem) (hitems v hmem)).map (· :: as)
  intro rest _
  have hread := readItems_written _ hstep [] rest
  rw [foldlM_ofValue] at hread
  rw [write_array]
  show (do
    let items ← readItems _ ([] : List α) (Bytes.ofChars (itemsText true items rest))
    return (items.1.reverse, items.2)) = _
  rw [hread]
  show _ = (valuesOf d items).map _
  cases valuesOf d items with
  | error fault => rfl
  | ok as => simp [Except.map, bind, Except.bind, pure, Except.pure]

end Decoder
end Switchboard.Json
