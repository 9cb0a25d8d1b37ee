import Switchboard.Json.Overlay
import Switchboard.Proofs.Json.Records

/-! # What is read from overlaid objects

An object that is laid over another changes the fields that it gives, which are those
that it has and that are not null (`field?_overlayFields`).  A record is read from an
object whose fields come in order as if there were no fields but those that the record
has (`ofValue_record_of_sorted`).  So what is read from an object that lies over another
is, field by field, what the one gives, or else what the other has
(`ofValue_overlaid`). -/
namespace Switchboard.Json

namespace Value

/-- The fields of a value, none if it is not an object. -/
def fields : Value → List (String × Value)
  | object fields => fields
  | _ => []

instance (entries : List (String × Value)) : Decidable (Sorted entries) :=
  inferInstanceAs (Decidable ((entries.map Prod.fst).Pairwise (· < ·)))

variable {k : String} {v w : Value} {fields under : List (String × Value)} {keys : List String}

/-! ## Looking up -/

theorem field?_setField {key : String} :
    field? k (setField key v fields) = if key = k then some v else field? k fields := by
  induction fields with
  | nil => rfl
  | cons f fields ih =>
    rw [setField]
    by_cases hlt : key < f.1
    · rw [if_pos hlt]
      rfl
    rw [if_neg hlt]
    by_cases heq : key = f.1
    · rw [if_pos heq, field?, field?]
      by_cases hk : key = k
      · rw [if_pos hk, if_pos hk]
      · rw [if_neg hk, if_neg hk, if_neg (heq ▸ hk)]
    · rw [if_neg heq, field?, field?, ih]
      by_cases hk : f.1 = k
      · rw [if_pos hk, if_pos hk, if_neg (hk ▸ heq)]
      · rw [if_neg hk, if_neg hk]

theorem field?_eq_none (h : ∀ f ∈ fields, f.1 ≠ k) : field? k fields = none := by
  induction fields with
  | nil => rfl
  | cons f fields ih =>
    rw [field?, if_neg (h f List.mem_cons_self)]
    exact ih fun g hg => h g (List.mem_cons_of_mem f hg)

theorem mem_of_field? (h : field? k fields = some v) : (k, v) ∈ fields := by
  induction fields with
  | nil => cases h
  | cons f fields ih =>
    rw [field?] at h
    split at h
    · next hk =>
      cases h
      exact hk ▸ List.mem_cons_self
    · exact List.mem_cons_of_mem f (ih h)

theorem exists_of_field? (h : (field? k fields).isSome) : ∃ f ∈ fields, f.1 = k := by
  by_contra hnone
  rw [field?_eq_none fun f hf he => hnone ⟨f, hf, he⟩] at h
  cases h

theorem isSome_field? {f : String × Value} (h : f ∈ fields) : (field? f.1 fields).isSome := by
  by_contra hnone
  induction fields with
  | nil => cases h
  | cons g fields ih =>
    rw [field?] at hnone
    split at hnone
    · exact hnone rfl
    · next hne =>
      rcases List.mem_cons.mp h with rfl | h
      · exact hne rfl
      · exact ih h hnone

/-- What an object gives for a key: the value of the field, unless it is null. -/
def given? (k : String) (fields : List (String × Value)) : Option Value :=
  (field? k fields).filter (· ≠ .null)

theorem given?_cons {key : String} : given? k ((key, v) :: fields) =
    if key = k then (if v = .null then none else some v) else given? k fields := by
  rw [given?, field?]
  by_cases hk : key = k
  · rw [if_pos hk, if_pos hk]
    by_cases hv : v = .null <;> simp [hv]
  · rw [if_neg hk, if_neg hk]
    rfl

theorem ne_null_of_given? (h : given? k fields = some v) : v ≠ .null := by
  simpa using (Option.filter_eq_some_iff.mp h).2

/-- A value laid over the field with a key. -/
def laid (key : String) (v : Value) (under : List (String × Value)) : Value :=
  match field? key under with
  | some w => overlay w v
  | none => v

/-- Fields are laid over fields one by one. -/
theorem overlayFields_cons {key : String} : overlayFields under ((key, v) :: fields) =
    overlayFields (if v = .null then under else setField key (laid key v under) under) fields := by
  cases v with
  | null => rw [overlayFields, if_pos rfl]
  | bool | number | string | array | object =>
    rw [overlayFields, if_neg nofun, laid]
    · cases field? key under <;> rfl
    · exact nofun

/-- **A field of overlaid objects**: the one that is given, laid over what was there. -/
theorem field?_overlayFields (h : Sorted fields) :
    field? k (overlayFields under fields) =
      ((given? k fields).map fun v => laid k v under).or (field? k under) := by
  induction fields generalizing under with
  | nil => rfl
  | cons f fields ih =>
    obtain ⟨key, v⟩ := f
    obtain ⟨hlater, hsorted⟩ := sorted_cons_iff.mp h
    rw [overlayFields_cons, ih hsorted, given?_cons]
    by_cases hk : key = k
    · -- no later field has the key
      subst hk
      have hnone : given? key fields = none := by
        rw [given?, field?_eq_none fun g hg => ne_of_gt (hlater g hg)]
        rfl
      rw [hnone, if_pos rfl]
      by_cases hv : v = .null
      · rw [if_pos hv, if_pos hv]
      · rw [if_neg hv, if_neg hv, field?_setField, if_pos rfl]
        rfl
    · have hfield : field? k (if v = .null then under
          else setField key (laid key v under) under) = field? k under := by
        by_cases hv : v = .null
        · rw [if_pos hv]
        · rw [if_neg hv, field?_setField, if_neg hk]
      have hlaid : ∀ u, laid k u (if v = .null then under
          else setField key (laid key v under) under) = laid k u under := by
        intro u
        rw [laid, hfield]
        rfl
      simp only [if_neg hk, hfield, hlaid]

theorem Sorted.overlayFields (h : Sorted under) : Sorted (overlayFields under fields) := by
  induction fields generalizing under with
  | nil => exact h
  | cons f fields ih =>
    obtain ⟨key, v⟩ := f
    rw [overlayFields_cons]
    split
    · exact ih h
    · exact ih h.setField

/-- The value of a field, null if there is none. -/
def entry (k : String) (fields : List (String × Value)) : Value := (field? k fields).getD .null

theorem entry_eq_given? : entry k fields = (given? k fields).getD .null := by
  rw [entry, given?]
  cases field? k fields with
  | none => rfl
  | some v =>
    by_cases hv : v = .null
    · rw [hv]
      rfl
    · simp [Option.filter, hv]

theorem overlay_object : overlay (.object under) (.object fields) =
    .object (overlayFields under fields) := by
  rw [overlay]

theorem overlay_of_ne_object (hw : ∀ fields, w ≠ .object fields) : overlay w v = v := by
  cases v with
  | object fields =>
    rw [overlay]
    exact fun under he => hw under he
  | null | bool | number | string | array => rw [overlay]

/-- Where a field was there before, it is what is given, laid over that. -/
theorem entry_overlayFields (h : Sorted fields) (hunder : field? k under = some w) :
    entry k (overlayFields under fields) = ((given? k fields).map (overlay w)).getD w := by
  rw [entry, field?_overlayFields h, hunder]
  cases given? k fields with
  | none => rfl
  | some v =>
    show laid k v under = overlay w v
    rw [laid, hunder]

/-! ## Keys in order -/

/-- **The fields with some keys**, in the order of the keys, when there are fields with
all of these keys. -/
theorem filter_eq_map (h : Sorted fields) (hkeys : keys.Pairwise (· < ·))
    (hall : ∀ k ∈ keys, (field? k fields).isSome) :
    (fields.filter fun f => f.1 ∈ keys) = keys.map fun k => (k, entry k fields) := by
  induction fields generalizing keys with
  | nil =>
    cases keys with
    | nil => rfl
    | cons k keys => cases hall k List.mem_cons_self
  | cons f fields ih =>
    obtain ⟨key, v⟩ := f
    obtain ⟨hlater, hsorted⟩ := sorted_cons_iff.mp h
    have hfield : ∀ k, key ≠ k → field? k ((key, v) :: fields) = field? k fields :=
      fun k hk => if_neg hk
    by_cases hin : key ∈ keys
    · -- the least of the keys is that of the first field
      obtain ⟨k, ks, rfl⟩ := List.exists_cons_of_ne_nil (List.ne_nil_of_mem hin)
      obtain ⟨hleast, hks⟩ := List.pairwise_cons.mp hkeys
      have hk : key = k := by
        by_contra hne
        obtain ⟨g, hg, rfl⟩ := exists_of_field? (hfield k hne ▸ hall k List.mem_cons_self)
        have hlater' : key ∈ ks := (List.mem_cons.mp hin).resolve_left hne
        exact lt_asymm (hlater g hg) (hleast key hlater')
      subst hk
      have hne : ∀ k ∈ ks, key ≠ k := fun k hk => ne_of_lt (hleast k hk)
      have hrest : (fields.filter fun f => f.1 ∈ key :: ks) = fields.filter fun f => f.1 ∈ ks := by
        refine List.filter_congr fun g hg => ?_
        simp [ne_of_gt (hlater g hg)]
      have hall' : ∀ k ∈ ks, (field? k fields).isSome :=
        fun k hk => hfield k (hne k hk) ▸ hall k (List.mem_cons_of_mem key hk)
      rw [List.filter_cons_of_pos (by simp), hrest, ih hsorted hks hall', List.map_cons]
      refine congrArg₂ List.cons ?_ (List.map_congr_left fun k hk => ?_)
      · simp [entry, field?]
      · rw [entry, entry, hfield k (hne k hk)]
    · have hne : ∀ k ∈ keys, key ≠ k := fun k hk he => hin (he ▸ hk)
      rw [List.filter_cons_of_neg (by simpa using hin), ih hsorted hkeys
        fun k hk => hfield k (hne k hk) ▸ hall k hk]
      refine List.map_congr_left fun k hk => ?_
      rw [entry, entry, hfield k (hne k hk)]

end Value

namespace Field

variable {α β : Type} {d : Decoder β} {set : β → α → α}

@[simp] theorem name_optional (name : String) : (optional name d set).name = name := rfl

@[simp] theorem isRequired_optional (name : String) :
    (optional name d set).isRequired = false := rfl

@[simp] theorem ofValue_optional (name : String) (v : Value) :
    (optional name d set).set.ofValue v = set <$> d.ofValue v := rfl

end Field

namespace Decoder

open Value (entry given? Sorted overlayFields field?)

variable {α β : Type} {fields : List (Field α)} {entries : List (String × Value)}
  {keys : List String} {w : Value}

/-- Fields that a record does not have are passed over. -/
theorem fieldsOf_filter (s : α × List String) :
    fieldsOf fields entries s =
      fieldsOf fields (entries.filter fun e => e.1 ∈ fields.map Field.name) s := by
  induction entries generalizing s with
  | nil => rfl
  | cons e entries ih =>
    obtain ⟨key, v⟩ := e
    rw [fieldsOf]
    cases hfind : fields.find? (·.name == key) with
    | none =>
      have hout : key ∉ fields.map Field.name := by
        intro hin
        obtain ⟨f, hf, hname⟩ := List.mem_map.mp hin
        exact List.find?_eq_none.mp hfind f hf (by simpa using hname)
      rw [List.filter_cons_of_neg (by simpa using hout)]
      exact ih s
    | some f =>
      have hin : key ∈ fields.map Field.name :=
        List.mem_map.mpr ⟨f, List.mem_of_find?_eq_some hfind, by
          simpa using List.find?_some hfind⟩
      rw [List.filter_cons_of_pos (by simpa using hin), fieldsOf, hfind]
      dsimp only
      cases f.set.ofValue v with
      | error fault => rfl
      | ok change => exact ih (change s.1, key :: s.2)

/-- **A record is read from an object by its own fields** when they come in order and
none of them is required. -/
theorem ofValue_record_of_sorted {name : String} {initial : α} (hentries : Sorted entries)
    (hkeys : keys.Pairwise (· < ·)) (hnames : ∀ k, k ∈ fields.map Field.name ↔ k ∈ keys)
    (hoptional : ∀ f ∈ fields, f.isRequired = false)
    (hall : ∀ k ∈ keys, (field? k entries).isSome) :
    (record name initial fields).ofValue (.object entries) =
      Prod.fst <$> fieldsOf fields (keys.map fun k => (k, entry k entries)) (initial, []) := by
  have hown : (entries.filter fun e => e.1 ∈ fields.map Field.name) =
      keys.map fun k => (k, entry k entries) := by
    simp only [hnames]
    exact Value.filter_eq_map hentries hkeys hall
  have hcomplete : ∀ (a : α) (seen : List String), complete fields a seen = .ok a := by
    intro a seen
    have hnone : firstMissing fields seen = none := by
      rw [firstMissing, List.find?_eq_none.mpr fun f hf => by simp [hoptional f hf]]
      rfl
    rw [complete, hnone]
  show (do
    let s ← fieldsOf fields entries (initial, [])
    complete fields s.1 s.2) = _
  rw [fieldsOf_filter, hown]
  simp only [hcomplete]
  cases fieldsOf fields (keys.map fun k => (k, entry k entries)) (initial, []) <;> rfl

/-- **A record is read from overlaid objects** by the keys of the object below, when
these are the names of its fields. -/
theorem ofValue_record_overlaid {name : String} {initial : α}
    (under : List (String × Value)) (keys : List String) (hkeys : keys.Pairwise (· < ·))
    (hnames : (fields.map Field.name).Perm keys) (hoptional : ∀ f ∈ fields, f.isRequired = false)
    (hunder : under.map Prod.fst = keys) (hentries : Sorted entries) :
    (record name initial fields).ofValue (.overlay (.object under) (.object entries)) =
      Prod.fst <$> fieldsOf fields
        (keys.map fun k => (k, entry k (overlayFields under entries))) (initial, []) := by
  have hsorted : Sorted under := by
    rw [Sorted, hunder]
    exact hkeys
  have hall : ∀ k ∈ keys, (field? k (overlayFields under entries)).isSome := by
    intro k hk
    rw [← hunder] at hk
    obtain ⟨f, hf, rfl⟩ := List.mem_map.mp hk
    rw [Value.field?_overlayFields hentries, Option.isSome_or, Bool.or_eq_true_iff]
    exact Or.inr (Value.isSome_field? hf)
  rw [Value.overlay_object]
  exact ofValue_record_of_sorted hsorted.overlayFields hkeys (fun k => hnames.mem_iff) hoptional hall

/-- **What is read of a field of overlaid objects** is what is read of the one that is
given, if there is one, or else what was there before. -/
theorem ofValue_overlaid {y : β} (under : List (String × Value)) (d : Decoder β) (k : String)
    (hentries : Sorted entries) (hunder : field? k under = some w)
    (hw : ∀ fields, w ≠ .object fields) (hd : d.ofValue w = .ok y) :
    d.ofValue (entry k (overlayFields under entries)) =
      (fun x => x.getD y) <$> (optional d).ofValue (entry k entries) := by
  rw [Value.entry_overlayFields hentries hunder, Value.entry_eq_given?]
  cases hgiven : given? k entries with
  | none => exact hd
  | some v =>
    show d.ofValue (Value.overlay w v) = (fun x => x.getD y) <$> (optional d).ofValue v
    rw [Value.overlay_of_ne_object hw]
    cases v with
    | null => exact absurd rfl (Value.ne_null_of_given? hgiven)
    | bool | number | string | array | object =>
      show _ = (fun x : Option β => x.getD y) <$> (some <$> d.ofValue _)
      cases d.ofValue _ <;> rfl

end Decoder
end Switchboard.Json
