import Switchboard.Json.Record
import Switchboard.Proofs.Json.Decoders
import Switchboard.Proofs.Json.Skipped

/-! # Records read from a text and from a value

A record is read from an object field by field.  What becomes of the record with one
field is written down once, for any way in which the values of fields are read
(`takeField`); a written object is then read by taking its fields in their order
(`reads_record_object`).

If the decoders of its fields are faithful, a record is read from a text if and only
if it can be had from the value that the text writes, and is then the same
(`agrees_record`).  The faults may differ: an array with too many items is refused for
what follows the last field in one case and for its length in the other.

What the reader of every field keeps true of a record is true of every record that is
read (`record_invariant`). -/
namespace Switchboard.Json
namespace Decoder

open Ascii

variable {α : Type} {fields : List (Field α)} {a : Nat} {v : Value} {k : String}
  {entries : List (String × Value)} {items : List Value}

/-! ## Fields -/

section Fields

variable {β : Type} {d : Decoder β} {set : β → α → α} {change : α → α} {text rest : Bytes}

theorem Faithful.required (hd : d.Faithful) (name : String) (set : β → α → α) :
    (Field.required name d set).set.Faithful := hd.map set

theorem Faithful.notRequired (hd : d.Faithful) (name : String) (set : β → α → α) :
    (Field.optional name d set).set.Faithful := hd.map set

theorem exists_of_required_read {name : String}
    (h : (Field.required name d set).set.read a text = .ok (change, rest)) :
    ∃ y, d.read a text = .ok (y, rest) ∧ change = set y := exists_of_map_read h

theorem exists_of_notRequired_read {name : String}
    (h : (Field.optional name d set).set.read a text = .ok (change, rest)) :
    ∃ y, d.read a text = .ok (y, rest) ∧ change = set y := exists_of_map_read h

end Fields

/-! ## From an object -/

section Objects

variable {result : Field α → Value → Except Fault (α → α)}

/-- What becomes of a record, and of the names of the fields seen, with a field of an
object, whose value is read as `result` says. -/
def takeField (fields : List (Field α)) (result : Field α → Value → Except Fault (α → α))
    (s : α × List String) (entry : String × Value) : Except Fault (α × List String) :=
  match fields.find? (·.name == entry.1) with
  | none => .ok s
  | some f =>
    if s.2.contains entry.1 then .error (.repeatedField entry.1)
    else (result f entry.2).map fun change => (change s.1, entry.1 :: s.2)

theorem readsField_takeField
    (hread : ∀ f ∈ fields, f.name = k → Reads (f.set.read a) v (result f v))
    (s : α × List String) :
    ReadsField (readField fields a s k) v (takeField fields result s (k, v)) := by
  intro rest hrest
  unfold readField takeField
  cases hfind : fields.find? (·.name == k) with
  | none =>
    simp only [readColon_written, bind, Except.bind]
    rw [skipValue_written v hrest]
    rfl
  | some f =>
    have hname : f.name = k := by simpa using List.find?_some hfind
    have hmem : f ∈ fields := List.mem_of_find?_eq_some hfind
    by_cases hseen : s.2.contains k = true
    · simp only [hseen, if_true]
      rfl
    · simp only [hseen, readColon_written, bind, Except.bind]
      rw [hread f hmem hname rest hrest]
      cases result f v <;> rfl

/-- **A written object is read field by field.** -/
theorem reads_record_object (name : String) (initial : α)
    (hread : ∀ e ∈ entries, ∀ f ∈ fields, f.name = e.1 →
      Reads (f.set.read a) e.2 (result f e.2)) :
    Reads ((record name initial fields).read (a + 1)) (.object entries) (do
      let (x, seen) ← entries.foldlM (takeField fields result) (initial, [])
      complete fields x seen) := by
  intro rest _
  have hstep := fun e hmem => readsField_takeField (hread e hmem)
  have hfields := readFields_written _ hstep (initial, []) rest
  rw [write_object]
  show (do
    let s ← readFields (readField fields a) (initial, [])
      (Bytes.ofChars (fieldsText true entries rest))
    let x ← complete fields s.1.1 s.1.2
    return (x, s.2)) = _
  rw [hfields]
  cases entries.foldlM (takeField fields result) (initial, []) with
  | error fault => rfl
  | ok s =>
    obtain ⟨x, seen⟩ := s
    simp only [Except.map, bind, Except.bind]
    cases complete fields x seen <;> rfl

/-- If no key comes twice, fields are taken as they are from a value. -/
theorem foldlM_takeField (s : α × List String) (hnodup : (entries.map Prod.fst).Nodup)
    (hseen : ∀ e ∈ entries, e.1 ∉ s.2) :
    entries.foldlM (takeField fields fun f => f.set.ofValue) s = fieldsOf fields entries s := by
  induction entries generalizing s with
  | nil => rfl
  | cons e entries ih =>
    obtain ⟨k, v⟩ := e
    obtain ⟨hlater, hnodup⟩ := List.nodup_cons.mp hnodup
    rw [List.foldlM_cons, fieldsOf, takeField]
    cases fields.find? (·.name == k) with
    | none => exact ih s hnodup fun e hmem => hseen e (List.mem_cons_of_mem _ hmem)
    | some f =>
      have hnew : s.2.contains k = false := by
        simpa using hseen (k, v) List.mem_cons_self
      simp only [hnew]
      cases f.set.ofValue v with
      | error fault => rfl
      | ok change =>
        refine ih (change s.1, k :: s.2) hnodup fun e hmem => ?_
        intro h
        rcases List.mem_cons.mp h with h | h
        · exact hlater (List.mem_map.mpr ⟨e, hmem, h⟩)
        · exact hseen e (List.mem_cons_of_mem _ hmem) h

/-- **A record is read from a written object as from its fields**, in whatever order they
are, if no key comes twice. -/
theorem reads_record_entries (name : String) (initial : α) (hfields : ∀ f ∈ fields, f.set.Faithful)
    (hnodup : (entries.map Prod.fst).Nodup)
    (hentries : ∀ e ∈ entries, e.2.Canonical ∧ e.2.depth ≤ a) :
    Reads ((record name initial fields).read (a + 1)) (.object entries)
      ((record name initial fields).ofValue (.object entries)) := by
  have hread := reads_record_object name initial
    fun e hmem f hf _ => hfields f hf a e.2 (hentries e hmem).1 (hentries e hmem).2
  rwa [foldlM_takeField (initial, []) hnodup fun _ _ => List.not_mem_nil] at hread

end Objects

/-! ## From an array -/

/-- An array is not at its end before an item. -/
theorem endArray_cons (first : Bool) (v : Value) (items : List Value) (rest : List Char) :
    endArray (Bytes.ofChars (itemsText first (v :: items) rest)) =
      .error .trailingCharacters := by
  obtain ⟨b, text, hb, hmem⟩ := Value.exists_head_write v (Value.writeItems items rest)
  have hblanks := Value.skipBlanks_write v (Value.writeItems items rest)
  have hbracket := Value.ne_closeBracket_of_mem hmem
  have hcomma := Value.ne_comma_of_mem hmem
  cases first with
  | true =>
    rw [itemsText, endArray, hblanks, hb]
    simp [hbracket, hcomma]
  | false =>
    have htext : Bytes.ofChars (itemsText false (v :: items) rest) =
        comma :: Bytes.ofChars (v.write (Value.writeItems items rest)) := rfl
    have hskip : ∀ text, skipBlanks (comma :: text) = comma :: text := fun _ => rfl
    have hne : comma ≠ closeBracket := by decide
    rw [htext, endArray, hskip]
    simp only [hne, if_false, if_true]
    rw [hblanks, hb]
    simp [hbracket]

/-- **A written array is read item by item**, and refused if items are left over. -/
theorem readElements_written (short : Nat → Fault) (hfields : ∀ f ∈ fields, f.set.Faithful)
    (hitems : ∀ v ∈ items, v.Canonical ∧ v.depth ≤ a) (index : Nat) (first : Bool) (x : α)
    (rest : List Char) :
    readElements short a fields index first x (Bytes.ofChars (itemsText first items rest)) =
      (do
        let (x, left) ← elementsOf short fields index items x
        match left with
        | [] => return (x, Bytes.ofChars rest)
        | _ => throw .trailingCharacters) := by
  induction fields generalizing items index first x with
  | nil =>
    rw [readElements, elementsOf]
    cases items with
    | nil =>
      rw [endArray_itemsText]
      rfl
    | cons v items =>
      rw [endArray_cons]
      rfl
  | cons f fields ih =>
    have hlater := fun g hg => hfields g (List.mem_cons_of_mem f hg)
    rw [readElements]
    cases items with
    | nil =>
      rw [nextItem_nil, elementsOf]
      cases f.isRequired with
      | true => rfl
      | false => exact ih hlater hitems (index + 1) first x
    | cons v items =>
      obtain ⟨⟨hv, hdepth⟩, hitems⟩ := List.forall_mem_cons.mp hitems
      have hread := hfields f List.mem_cons_self a v hv hdepth _ (endsNumber_writeItems items rest)
      rw [nextItem_cons, elementsOf]
      simp only [hread]
      cases f.set.ofValue v with
      | error fault => rfl
      | ok change => exact ih hlater hitems (index + 1) false (change x)

/-! ## From either -/

/-- A text is read if and only if the value that it writes is taken, and it is read as
the same. -/
def Agrees (d : Decoder α) : Prop :=
  ∀ a v, v.Canonical → v.depth ≤ a →
    ∃ result, Reads (d.read a) v result ∧ result.toOption = (d.ofValue v).toOption

theorem Agrees.parse {d : Decoder α} (hd : d.Agrees) (hv : v.Canonical)
    (hdepth : v.depth ≤ maxDepth) :
    (d.parse (Bytes.ofText v.text)).toOption = (d.ofValue v).toOption := by
  obtain ⟨result, hread, hresult⟩ := hd maxDepth v hv hdepth
  rw [← hresult, ← hread.finish]
  rfl

/-- **Records whose fields are read faithfully agree** with the values that are
written. -/
theorem agrees_record (name : String) (initial : α) (hfields : ∀ f ∈ fields, f.set.Faithful) :
    (record name initial fields).Agrees := by
  intro a v hv hdepth
  by_cases hobject : ∃ entries, v = .object entries
  · -- No key of a canonical object comes twice, so the reader never meets a repeated field.
    obtain ⟨entries, rfl⟩ := hobject
    obtain ⟨a, rfl⟩ : ∃ n, a = n + 1 := ⟨a - 1, by rw [Value.depth] at hdepth; omega⟩
    obtain ⟨hsorted, hcanonical⟩ := Value.canonical_object_iff.mp hv
    have hentries := Value.depthFields_le_iff.mp (Nat.le_of_succ_le_succ hdepth)
    have hnodup : (entries.map Prod.fst).Nodup := hsorted.imp fun h => ne_of_lt h
    exact ⟨_, reads_record_entries name initial hfields hnodup fun e hmem =>
      ⟨hcanonical e hmem, hentries e hmem⟩, rfl⟩
  by_cases harray : ∃ items, v = .array items
  · -- Items that are left over are a fault both times, but not the same one.
    obtain ⟨items, rfl⟩ := harray
    obtain ⟨a, rfl⟩ : ∃ n, a = n + 1 := ⟨a - 1, by rw [Value.depth] at hdepth; omega⟩
    have hcanonical := Value.canonicalItems_iff.mp hv
    have hitems := Value.depthItems_le_iff.mp (Nat.le_of_succ_le_succ hdepth)
    have hread := readElements_written (fun n => .wrongLength n (elementsText name fields.length))
      hfields (fun v hmem => ⟨hcanonical v hmem, hitems v hmem⟩) 0 true initial
    refine ⟨do
      let (x, left) ← elementsOf (fun n => .wrongLength n (elementsText name fields.length))
        fields 0 items initial
      match left with
      | [] => return x
      | _ => throw .trailingCharacters, fun rest _ => ?_, ?_⟩
    · rw [write_array]
      refine (hread rest).trans ?_
      rcases elementsOf _ fields 0 items initial with fault | ⟨x, _ | ⟨v, left⟩⟩ <;> rfl
    · show _ = (do
        let (x, left) ← elementsOf (fun n => .wrongLength n (elementsText name fields.length))
          fields 0 items initial
        match left with
        | [] => return x
        | _ => throw (.wrongLength items.length "fewer elements in array") :
          Except Fault α).toOption
      rcases elementsOf _ fields 0 items initial with fault | ⟨x, _ | ⟨v, left⟩⟩ <;> rfl
  · -- Anything else is refused for what it is.
    refine ⟨.error (.wrongType v.found name), fun rest hrest => ?_, ?_⟩
    · have hmismatch := mismatch_written (α := α × Bytes) name v hrest
      obtain ⟨b, text, hb, hmem⟩ := Value.exists_head_write v rest
      have hbracket : b ≠ openBracket :=
        Value.ne_openBracket_of_mem hmem fun items h => harray ⟨items, h⟩
      have hbrace : b ≠ openBrace :=
        Value.ne_openBrace_of_mem hmem fun entries h => hobject ⟨entries, h⟩
      have hblanks := Value.skipBlanks_write v rest
      rw [hb] at hmismatch hblanks
      rw [hb]
      unfold record
      simp only [hblanks, hbracket, hbrace, if_false]
      exact hmismatch
    · cases v with
      | array items => exact absurd ⟨items, rfl⟩ harray
      | object entries => exact absurd ⟨entries, rfl⟩ hobject
      | null | bool | number | string => rfl

/-! ## What can be read -/

section Invariants

variable {I : α → Prop} {x : α} {text rest : Bytes}

/-- Nothing is read where something else is wanted. -/
theorem mismatch_ne_ok (expected : String) (text : Bytes) : mismatch expected text ≠ .ok x := by
  intro h
  unfold mismatch at h
  split at h <;> cases h

theorem readElements_invariant {short : Nat → Fault} {index : Nat} {first : Bool}
    (hset : ∀ f ∈ fields, ∀ text change rest, f.set.read a text = .ok (change, rest) →
      ∀ x, I x → I (change x)) {y : α} (hx : I x)
    (h : readElements short a fields index first x text = .ok (y, rest)) : I y := by
  induction fields generalizing index first x text with
  | nil =>
    obtain ⟨_, _, hy⟩ := exists_of_bind_eq_ok h
    cases hy
    exact hx
  | cons f fields ih =>
    have hlater := fun g hg => hset g (List.mem_cons_of_mem f hg)
    rw [readElements] at h
    split at h
    · cases h
    · split at h
      · cases h
      · exact ih hlater hx h
    · obtain ⟨⟨change, rest'⟩, hread, h⟩ := exists_of_bind_eq_ok h
      exact ih hlater (hset f List.mem_cons_self _ _ _ hread x hx) h

theorem readField_invariant {s s' : α × List String}
    (hset : ∀ f ∈ fields, ∀ text change rest, f.set.read a text = .ok (change, rest) →
      ∀ x, I x → I (change x)) (hs : I s.1)
    (h : readField fields a s k text = .ok (s', rest)) : I s'.1 := by
  unfold readField at h
  split at h
  · obtain ⟨_, _, h⟩ := exists_of_bind_eq_ok h
    obtain ⟨_, _, h⟩ := exists_of_bind_eq_ok h
    cases h
    exact hs
  · next f hfind =>
    split at h
    · cases h
    · obtain ⟨_, _, h⟩ := exists_of_bind_eq_ok h
      obtain ⟨⟨change, rest'⟩, hread, h⟩ := exists_of_bind_eq_ok h
      cases h
      exact hset f (List.mem_of_find?_eq_some hfind) _ _ _ hread s.1 hs

/-- **What every field keeps** is true of every record that is read. -/
theorem record_invariant {name : String} {initial : α}
    (hset : ∀ f ∈ fields, ∀ text change rest, f.set.read a text = .ok (change, rest) →
      ∀ x, I x → I (change x)) (hinitial : I initial)
    (h : (record name initial fields).read (a + 1) text = .ok (x, rest)) : I x := by
  unfold record at h
  simp only at h
  split at h
  · cases h
  split at h
  · exact readElements_invariant hset hinitial h
  split at h
  · obtain ⟨⟨⟨y, seen⟩, rest'⟩, hread, h⟩ := exists_of_bind_eq_ok h
    obtain ⟨z, hcomplete, h⟩ := exists_of_bind_eq_ok h
    cases h
    have hy : I y := readFields_invariant (I := fun s => I s.1)
      (fun s k text s' rest hs hstep => readField_invariant hset hs hstep) hinitial hread
    unfold complete at hcomplete
    split at hcomplete
    · cases hcomplete
    · cases hcomplete
      exact hy
  · exact absurd h (mismatch_ne_ok name _)

end Invariants

end Decoder
end Switchboard.Json
