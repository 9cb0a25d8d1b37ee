import Mathlib.Data.String.Basic
import Switchboard.Proofs.Json.Written

/-! # Values that are written are read back

Fields that are set one after the other, each with a greater key than those before
it, end up in the order in which they were set (`foldl_setField`).  So the
fields of a canonical object are read back in their order, and a canonical value is
read back as it is, provided that it opens no more arrays and objects at once than
are allowed; if it opens more, it is refused for that reason and for no other
(`reads_readValue`).

The other way round, whatever is read is canonical and opens no more than was allowed
(`canonical_of_readValue`). -/
namespace Switchboard.Json

/-! ## Results -/

section Results

variable {ε ε' α β : Type} {x : Except ε α}

/-- What succeeds after something else comes of what that gave. -/
theorem exists_of_bind_eq_ok {f : α → Except ε β} {b : β} (h : x >>= f = .ok b) :
    ∃ a, x = .ok a ∧ f a = .ok b := by
  cases x with
  | error fault => cases h
  | ok a => exact ⟨a, rfl, h⟩

/-- What fails after something else fails with that or because of what it gave. -/
theorem error_or_exists_of_bind_eq_error {f : α → Except ε β} {fault : ε}
    (h : x >>= f = .error fault) : x = .error fault ∨ ∃ a, x = .ok a ∧ f a = .error fault := by
  cases x with
  | error found => exact Or.inl (congrArg Except.error (Except.error.inj h))
  | ok a => exact Or.inr ⟨a, rfl, h⟩

theorem eq_ok_of_mapError {f : ε → ε'} {a : α} (h : x.mapError f = .ok a) : x = .ok a := by
  cases x with
  | error fault => cases h
  | ok b => exact congrArg Except.ok (Except.ok.inj h)

theorem exists_of_mapError {f : ε → ε'} {fault : ε'} (h : x.mapError f = .error fault) :
    ∃ found, x = .error found ∧ fault = f found := by
  cases x with
  | error found => exact ⟨found, rfl, (Except.error.inj h).symm⟩
  | ok a => cases h

theorem eq_ok_of_toOption {a : α} (h : x.toOption = some a) : x = .ok a := by
  cases x with
  | error fault => cases h
  | ok b => exact congrArg Except.ok (Option.some.inj h)

theorem exists_error_of_toOption (h : x.toOption = none) : ∃ fault, x = .error fault := by
  cases x with
  | error fault => exact ⟨fault, rfl⟩
  | ok a => cases h

end Results

namespace Value

variable {k : String} {v : Value} {fields : List (String × Value)} {items : List Value} {n : Nat}

/-! ## Items and fields, one by one -/

theorem canonicalItems_iff : CanonicalItems items ↔ ∀ v ∈ items, v.Canonical := by
  induction items with
  | nil => simp [CanonicalItems]
  | cons v items ih => simp [CanonicalItems, ih]

theorem canonicalFields_iff : CanonicalFields fields ↔ ∀ f ∈ fields, f.2.Canonical := by
  induction fields with
  | nil => simp [CanonicalFields]
  | cons f fields ih => simp [CanonicalFields, ih]

theorem depthItems_le_iff : depthItems items ≤ n ↔ ∀ v ∈ items, v.depth ≤ n := by
  induction items with
  | nil => simp [depthItems]
  | cons v items ih => simp [depthItems, ih]

theorem depthFields_le_iff : depthFields fields ≤ n ↔ ∀ f ∈ fields, f.2.depth ≤ n := by
  induction fields with
  | nil => simp [depthFields]
  | cons f fields ih => simp [depthFields, ih]

/-! ## Fields in order -/

/-- Fields that are listed by increasing key. -/
def Sorted (fields : List (String × Value)) : Prop := (fields.map Prod.fst).Pairwise (· < ·)

theorem canonical_object_iff :
    (object fields).Canonical ↔ Sorted fields ∧ ∀ f ∈ fields, f.2.Canonical := by
  rw [Canonical, canonicalFields_iff]
  rfl

theorem sorted_nil : Sorted [] := List.Pairwise.nil

theorem sorted_cons_iff {f : String × Value} :
    Sorted (f :: fields) ↔ (∀ g ∈ fields, f.1 < g.1) ∧ Sorted fields := by
  simp [Sorted]

/-- A field with the greatest key comes last. -/
theorem setField_eq_append (h : ∀ f ∈ fields, f.1 < k) :
    setField k v fields = fields ++ [(k, v)] := by
  induction fields with
  | nil => rfl
  | cons f fields ih =>
    have hlt : f.1 < k := h f List.mem_cons_self
    rw [setField, if_neg (lt_asymm hlt), if_neg (ne_of_gt hlt),
      ih fun g hg => h g (List.mem_cons_of_mem f hg)]
    rfl

/-- A field that is set, or one that was there. -/
theorem mem_setField {f : String × Value} (h : f ∈ setField k v fields) :
    f = (k, v) ∨ f ∈ fields := by
  induction fields with
  | nil => exact Or.inl (List.mem_singleton.mp h)
  | cons g fields ih =>
    rw [setField] at h
    split at h
    · exact List.mem_cons.mp h
    split at h
    · rcases List.mem_cons.mp h with h | h
      · exact Or.inl h
      · exact Or.inr (List.mem_cons_of_mem g h)
    · rcases List.mem_cons.mp h with h | h
      · exact Or.inr (List.mem_cons.mpr (Or.inl h))
      · exact (ih h).imp_right (List.mem_cons_of_mem g)

/-- **Setting a field keeps the fields in order.** -/
theorem Sorted.setField (h : Sorted fields) : Sorted (setField k v fields) := by
  induction fields with
  | nil => simp [Sorted, Value.setField]
  | cons g fields ih =>
    obtain ⟨hlater, hsorted⟩ := sorted_cons_iff.mp h
    rw [Value.setField]
    split
    · next hlt =>
      refine sorted_cons_iff.mpr ⟨fun f hf => ?_, h⟩
      rcases List.mem_cons.mp hf with rfl | hf
      · exact hlt
      · exact lt_trans hlt (hlater f hf)
    split
    · next heq =>
      refine sorted_cons_iff.mpr ⟨fun f hf => ?_, hsorted⟩
      rw [heq]
      exact hlater f hf
    · next hnlt hne =>
      refine sorted_cons_iff.mpr ⟨fun f hf => ?_, ih hsorted⟩
      rcases mem_setField hf with rfl | hf
      · exact lt_of_le_of_ne (not_lt.mp hnlt) (Ne.symm hne)
      · exact hlater f hf

/-- Fields in order, set one after the other, stay as they are. -/
theorem foldl_setField (before : List (String × Value)) (h : Sorted (before ++ fields)) :
    fields.foldl (fun fs f => Value.setField f.1 f.2 fs) before = before ++ fields := by
  induction fields generalizing before with
  | nil => exact (List.append_nil before).symm
  | cons f fields ih =>
    have hlast : ∀ g ∈ before, g.1 < f.1 := by
      intro g hg
      rw [Sorted, List.map_append] at h
      exact (List.pairwise_append.mp h).2.2 g.1 (List.mem_map_of_mem hg) f.1 (by simp)
    rw [List.foldl_cons, setField_eq_append hlast, ih _ (by simpa using h)]
    simp

end Value

/-! ## Reading what was written -/

open Ascii

variable {σ : Type} {v : Value} {items : List Value} {fields : List (String × Value)} {a : Nat}

/-- What becomes of a value where so many arrays and objects may be open. -/
def allowed (a : Nat) (v : Value) : Except Fault Value :=
  if v.depth ≤ a then .ok v else .error .tooDeep

theorem allowed_scalar (hv : v.IsScalar) (a : Nat) : allowed a v = .ok v := by
  cases v with
  | null | bool | number | string => exact if_pos (Nat.zero_le a)
  | array items => exact hv.elim
  | object fields => exact hv.elim

theorem reads_scalar (hv : v.IsScalar) (a : Nat) : Reads (readValue a) v (allowed a v) := by
  intro rest hrest
  rw [allowed_scalar hv]
  unfold readValue
  rw [Value.skipBlanks_write, readScalar?_written hv hrest]
  rfl

/-- **What is admitted one by one** is admitted together if nothing is too deep. -/
theorem foldlM_allowed {β : Type} (valueOf : β → Value) (put : σ → β → Value → σ) (xs : List β)
    (s : σ) :
    xs.foldlM (fun s x => (allowed a (valueOf x)).map (put s x)) s =
      if ∀ x ∈ xs, (valueOf x).depth ≤ a then
        .ok (xs.foldl (fun s x => put s x (valueOf x)) s)
      else .error .tooDeep := by
  induction xs generalizing s with
  | nil => simp [pure, Except.pure]
  | cons x xs ih =>
    rw [List.foldlM_cons]
    by_cases hx : (valueOf x).depth ≤ a
    · have hallowed : allowed a (valueOf x) = .ok (valueOf x) := if_pos hx
      rw [hallowed]
      simp only [List.forall_mem_cons, hx, true_and, List.foldl_cons]
      exact ih _
    · have hrefuse : allowed a (valueOf x) = .error .tooDeep := if_neg hx
      rw [hrefuse]
      simp only [List.forall_mem_cons, hx, false_and, if_false]
      rfl

/-- An array is read back if its items are. -/
theorem reads_array (hitems : ∀ v ∈ items, Reads (readValue a) v (allowed a v)) :
    Reads (readValue (a + 1)) (.array items) (allowed (a + 1) (.array items)) := by
  intro rest _
  have hstep : ∀ v ∈ items, ∀ vs : List Value, Reads (fun text => do
      let v ← readValue a text
      return (v.1 :: vs, v.2)) v ((allowed a v).map (· :: vs)) := by
    intro v hmem vs rest hrest
    simp only [hitems v hmem rest hrest]
    cases allowed a v <;> rfl
  have hread := readItems_written _ hstep [] rest
  have hallowed : allowed (a + 1) (.array items) =
      if ∀ v ∈ items, v.depth ≤ a then .ok (.array items) else .error .tooDeep := by
    simp only [allowed, Value.depth, Nat.add_le_add_iff_right, Value.depthItems_le_iff]
  rw [foldlM_allowed (fun v => v) (fun vs _ v => v :: vs)] at hread
  rw [hallowed]
  unfold readValue
  rw [Value.skipBlanks_write, readScalar?_array, write_array]
  show (do
    let items ← readItems _ [] (Bytes.ofChars (itemsText true items rest))
    return (Value.array items.1.reverse, items.2)) = _
  rw [hread]
  split
  · simp [bind, Except.bind, Except.map, pure, Except.pure]
  · rfl

/-- An object with its fields in order is read back if they are. -/
theorem reads_object (hsorted : Value.Sorted fields)
    (hfields : ∀ f ∈ fields, Reads (readValue a) f.2 (allowed a f.2)) :
    Reads (readValue (a + 1)) (.object fields) (allowed (a + 1) (.object fields)) := by
  intro rest _
  have hstep : ∀ f ∈ fields, ∀ fs : List (String × Value), ReadsField (fun text => do
      let text ← readColon text
      let v ← readValue a text
      return (Value.setField f.1 v.1 fs, v.2)) f.2
        ((allowed a f.2).map fun v => Value.setField f.1 v fs) := by
    intro f hmem fs rest hrest
    simp only [readColon_written, bind, Except.bind]
    rw [hfields f hmem rest hrest]
    cases allowed a f.2 <;> rfl
  have hread := readFields_written (fun fs k text => do
    let text ← readColon text
    let v ← readValue a text
    return (Value.setField k v.1 fs, v.2)) hstep [] rest
  have hallowed : allowed (a + 1) (.object fields) =
      if ∀ f ∈ fields, f.2.depth ≤ a then .ok (.object fields) else .error .tooDeep := by
    simp only [allowed, Value.depth, Nat.add_le_add_iff_right, Value.depthFields_le_iff]
  rw [foldlM_allowed Prod.snd (fun fs f v => Value.setField f.1 v fs),
    Value.foldl_setField [] hsorted] at hread
  rw [hallowed]
  unfold readValue
  rw [Value.skipBlanks_write, readScalar?_object, write_object]
  show (do
    let fields ← readFields _ [] (Bytes.ofChars (fieldsText true fields rest))
    return (Value.object fields.1, fields.2)) = _
  rw [hread]
  split <;> rfl

/-- **A written value is read back**, or refused for its depth alone. -/
theorem reads_readValue (a : Nat) (hv : v.Canonical) : Reads (readValue a) v (allowed a v) := by
  -- The reader recurses on what may still be opened, and so does the proof.
  induction a generalizing v with
  | zero =>
    cases v with
    | null | bool | number | string => exact reads_scalar (by trivial) 0
    | array items =>
      intro rest _
      unfold readValue
      rw [Value.skipBlanks_write, readScalar?_array]
      rfl
    | object fields =>
      intro rest _
      unfold readValue
      rw [Value.skipBlanks_write, readScalar?_object]
      rfl
  | succ a ih =>
    cases v with
    | null | bool | number | string => exact reads_scalar (by trivial) (a + 1)
    | array items =>
      have hitems := Value.canonicalItems_iff.mp hv
      exact reads_array fun v hmem => ih (hitems v hmem)
    | object fields =>
      obtain ⟨hsorted, hfields⟩ := Value.canonical_object_iff.mp hv
      exact reads_object hsorted fun f hmem => ih (hfields f hmem)

/-! ## What can be read -/

section Invariants

variable {I : σ → Prop} {s s' : σ} {text rest : Bytes}

/-- **What every item keeps**, the walk over the items keeps. -/
theorem readItems_invariant {step : σ → Bytes → Except Fault (σ × Bytes)}
    (hstep : ∀ s text s' rest, I s → step s text = .ok (s', rest) → I s') (hs : I s)
    (h : readItems step s text = .ok (s', rest)) : I s' := by
  unfold readItems at h
  generalize text.length + 1 = fuel at h
  generalize true = first at h
  induction fuel generalizing first s text with
  | zero => cases h
  | succ fuel ih =>
    rw [readItemsFrom] at h
    split at h
    · cases h
    · obtain ⟨rest', -, hrest⟩ := exists_of_bind_eq_ok h
      cases hrest
      exact hs
    · split at h
      · cases h
      · next hread => exact ih (hstep _ _ _ _ hs hread) false h

/-- **What every field keeps**, the walk over the fields keeps. -/
theorem readFields_invariant {step : σ → String → Bytes → Except Fault (σ × Bytes)}
    (hstep : ∀ s k text s' rest, I s → step s k text = .ok (s', rest) → I s') (hs : I s)
    (h : readFields step s text = .ok (s', rest)) : I s' := by
  unfold readFields at h
  generalize text.length + 1 = fuel at h
  generalize true = first at h
  induction fuel generalizing first s text with
  | zero => cases h
  | succ fuel ih =>
    rw [readFieldsFrom] at h
    split at h
    · cases h
    · cases h
      exact hs
    · split at h
      · cases h
      · next hread => exact ih (hstep _ _ _ _ _ hs hread) false h

end Invariants

/-- What is read at one go is a scalar. -/
theorem isScalar_of_readScalar? {text rest : Bytes}
    (h : readScalar? text = .ok (some v, rest)) : v.IsScalar := by
  unfold readScalar? at h
  split at h
  · cases h
  split at h
  · cases h
  repeat
    split at h
    · obtain ⟨_, -, hv⟩ := exists_of_bind_eq_ok h
      cases hv
      trivial
  cases h

theorem canonical_of_isScalar (hv : v.IsScalar) (a : Nat) : v.Canonical ∧ v.depth ≤ a := by
  cases v with
  | null | bool | number | string => exact ⟨trivial, Nat.zero_le a⟩
  | array items => exact hv.elim
  | object fields => exact hv.elim

/-- **Whatever is read is canonical** and opens no more arrays and objects at once
than was allowed. -/
theorem canonical_of_readValue {text rest : Bytes} (h : readValue a text = .ok (v, rest)) :
    v.Canonical ∧ v.depth ≤ a := by
  induction a generalizing v text rest with
  | zero =>
    unfold readValue at h
    split at h
    · cases h
    · next hread =>
      cases h
      exact canonical_of_isScalar (isScalar_of_readScalar? hread) 0
    · cases h
  | succ a ih =>
    unfold readValue at h
    split at h
    · cases h
    · next hread =>
      cases h
      exact canonical_of_isScalar (isScalar_of_readScalar? hread) (a + 1)
    simp only at h
    split at h
    · cases h
    -- What is read of an array are its items in reverse, and of an object its fields in order.
    split at h
    · obtain ⟨⟨items, rest'⟩, hread, hv⟩ := exists_of_bind_eq_ok h
      cases hv
      have hitems : ∀ v ∈ items, v.Canonical ∧ v.depth ≤ a := by
        refine readItems_invariant (I := fun vs => ∀ v ∈ vs, v.Canonical ∧ v.depth ≤ a)
          (fun vs text vs' rest hvs hstep => ?_) (fun v hv => absurd hv List.not_mem_nil) hread
        obtain ⟨⟨w, rest'⟩, hw, heq⟩ := exists_of_bind_eq_ok hstep
        cases heq
        exact List.forall_mem_cons.mpr ⟨ih hw, hvs⟩
      refine ⟨Value.canonicalItems_iff.mpr fun v hv => ?_,
        Nat.succ_le_succ (Value.depthItems_le_iff.mpr fun v hv => ?_)⟩
      · exact (hitems v (List.mem_reverse.mp hv)).1
      · exact (hitems v (List.mem_reverse.mp hv)).2
    · obtain ⟨⟨fields, rest'⟩, hread, hv⟩ := exists_of_bind_eq_ok h
      cases hv
      have hfields : Value.Sorted fields ∧ ∀ f ∈ fields, f.2.Canonical ∧ f.2.depth ≤ a := by
        refine readFields_invariant
          (I := fun fs => Value.Sorted fs ∧ ∀ f ∈ fs, f.2.Canonical ∧ f.2.depth ≤ a)
          (fun fs k text fs' rest hfs hstep => ?_)
          ⟨Value.sorted_nil, fun f hf => absurd hf List.not_mem_nil⟩ hread
        obtain ⟨text', -, hstep⟩ := exists_of_bind_eq_ok hstep
        obtain ⟨⟨w, rest'⟩, hw, heq⟩ := exists_of_bind_eq_ok hstep
        cases heq
        refine ⟨hfs.1.setField, fun f hf => ?_⟩
        rcases Value.mem_setField hf with rfl | hf
        · exact ih hw
        · exact hfs.2 f hf
      refine ⟨Value.canonical_object_iff.mpr ⟨hfields.1, fun f hf => (hfields.2 f hf).1⟩,
        Nat.succ_le_succ (Value.depthFields_le_iff.mpr fun f hf => (hfields.2 f hf).2)⟩

end Switchboard.Json
