import Switchboard.Proofs.Json.Overlaid

/-! # What is read of one field

A record may be written as an object, which has its fields under their names, or as an
array, which has them in their places (`Value.part?`).  What the record has in one field
when it has been read is what can be read of that part, or what it had before if there is
no such part (`Decoder.Holds.gives`); for every other field leaves it alone.

A text that is laid over another takes its place (`Value.getD_string?_overlay`), so a field
that holds a text has what the layer says, in whichever way the layer is written. -/
namespace Switchboard.Json

namespace Value

/-- What a record that is written as a value has for a field: an object has it under the
name of the field, an array in its place. -/
def part? (key : String) (place : Nat) : Value → Option Value
  | object fields => field? key fields
  | array items => items[place]?
  | _ => none

/-- The text that a value is, if it is one. -/
def string? : Value → Option String
  | string s => some s
  | _ => none

end Value

namespace Field

variable {α β γ : Type} {get : α → β} {d : Decoder γ} {set : γ → α → α}

/-- A field that has no effect on what `get` has of a record. -/
def Keeps (get : α → β) (f : Field α) : Prop :=
  ∀ v change, f.set.ofValue v = .ok change → ∀ x, get (change x) = get x

theorem exists_of_optional {name : String} {v : Value} {change : α → α}
    (h : (optional name d set).set.ofValue v = .ok change) :
    ∃ y, d.ofValue v = .ok y ∧ change = set y := by
  rw [ofValue_optional] at h
  cases hread : d.ofValue v with
  | error fault =>
    rw [hread] at h
    cases h
  | ok y =>
    rw [hread] at h
    cases h
    exact ⟨y, rfl, rfl⟩

theorem keeps_optional (name : String) (d : Decoder γ) (h : ∀ y x, get (set y x) = get x) :
    (optional name d set).Keeps get := by
  intro v change hchange x
  obtain ⟨y, -, rfl⟩ := exists_of_optional hchange
  exact h y x

end Field

namespace Decoder

open Value (field? part?)

variable {α β : Type} {fields : List (Field α)} {place : Nat} {key : String} {f : Field α}
  {d : Decoder β} {get : α → β}

/-- By `get` a record holds what is read by `d` for its field with a name and a place. -/
structure Holds (fields : List (Field α)) (place : Nat) (key : String) (f : Field α)
    (d : Decoder β) (get : α → β) : Prop where
  at_place : fields[place]? = some f
  name_eq : f.name = key
  nodup : (fields.map Field.name).Nodup
  get_set : ∀ v change, f.set.ofValue v = .ok change → ∀ x, d.ofValue v = .ok (get (change x))
  other : ∀ g ∈ fields, g.name = key ∨ g.Keeps get

/-- A field that need not be there is held by what has it set. -/
theorem holds_optional {set : β → α → α} (hplace : fields[place]? = some (.optional key d set))
    (hnodup : (fields.map Field.name).Nodup) (hset : ∀ y x, get (set y x) = y)
    (hother : ∀ g ∈ fields, g.name = key ∨ g.Keeps get) :
    Holds fields place key (.optional key d set) d get where
  at_place := hplace
  name_eq := rfl
  nodup := hnodup
  get_set v change h x := by
    obtain ⟨y, hy, rfl⟩ := Field.exists_of_optional h
    rw [hset]
    exact hy
  other := hother

/-- What there is after a part has been read, or what there was if there is no part. -/
def Gives (d : Decoder β) (part : Option Value) (before after : β) : Prop :=
  match part with
  | some v => d.ofValue v = .ok after
  | none => after = before

/-- Fields that have no effect have none in an array. -/
theorem get_of_elementsOf {short : Nat → Fault} {index : Nat} {items left : List Value} {x y : α}
    (hkept : ∀ g ∈ fields, g.Keeps get)
    (h : elementsOf short fields index items x = .ok (y, left)) : get y = get x := by
  induction fields generalizing index items x with
  | nil =>
    cases h
    rfl
  | cons g fields ih =>
    obtain ⟨hg, hkept⟩ := List.forall_mem_cons.mp hkept
    cases items with
    | nil =>
      rw [elementsOf] at h
      split at h
      · cases h
      · exact ih hkept h
    | cons v items =>
      obtain ⟨change, hchange, h⟩ := exists_of_bind_eq_ok h
      rw [ih hkept h, hg v change hchange x]

namespace Holds

/-- There is one field only with the name. -/
theorem eq_of_name (h : Holds fields place key f d get) {g : Field α} (hg : g ∈ fields)
    (hname : g.name = key) : g = f :=
  List.inj_on_of_nodup_map h.nodup hg (List.mem_of_getElem? h.at_place)
    (hname.trans h.name_eq.symm)

/-- From an object. -/
theorem gives_of_fieldsOf (h : Holds fields place key f d get) {entries : List (String × Value)}
    {s s' : α × List String} (hnodup : (entries.map Prod.fst).Nodup)
    (hread : fieldsOf fields entries s = .ok s') :
    d.Gives (field? key entries) (get s.1) (get s'.1) := by
  induction entries generalizing s with
  | nil =>
    cases hread
    exact rfl
  | cons e entries ih =>
    obtain ⟨k, v⟩ := e
    obtain ⟨hlater, hnodup⟩ := List.nodup_cons.mp hnodup
    rw [fieldsOf] at hread
    cases hfind : fields.find? (·.name == k) with
    | none =>
      have hk : k ≠ key := by
        rintro rfl
        have hnone := List.find?_eq_none.mp hfind f (List.mem_of_getElem? h.at_place)
        exact hnone (by simpa using h.name_eq)
      rw [hfind] at hread
      rw [field?, if_neg hk]
      exact ih hnodup hread
    | some g =>
      have hname : g.name = k := by simpa using List.find?_some hfind
      have hg : g ∈ fields := List.mem_of_find?_eq_some hfind
      rw [hfind] at hread
      obtain ⟨change, hchange, hread⟩ := exists_of_bind_eq_ok hread
      have hrest := ih hnodup hread
      by_cases hk : k = key
      · -- no later entry has the name
        have hnone : field? key entries = none :=
          Value.field?_eq_none fun e he heq =>
            hlater (List.mem_map.mpr ⟨e, he, heq.trans hk.symm⟩)
        obtain rfl := h.eq_of_name hg (hname.trans hk)
        rw [hnone] at hrest
        have hkept : get s'.1 = get (change s.1) := hrest
        rw [field?, if_pos hk, hkept]
        exact h.get_set v change hchange s.1
      · have hkept := (h.other g hg).resolve_left (hname ▸ hk) v change hchange s.1
        rw [field?, if_neg hk, ← hkept]
        exact hrest

/-- The fields after the first one. -/
theorem tail {g : Field α} (h : Holds (g :: fields) (place + 1) key f d get) :
    Holds fields place key f d get where
  at_place := h.at_place
  name_eq := h.name_eq
  nodup := (List.nodup_cons.mp h.nodup).2
  get_set := h.get_set
  other g hg := h.other g (List.mem_cons_of_mem _ hg)

/-- From an array. -/
theorem gives_of_elementsOf {short : Nat → Fault} {index : Nat} {items left : List Value}
    {x y : α} (h : Holds fields place key f d get)
    (hread : elementsOf short fields index items x = .ok (y, left)) :
    d.Gives items[place]? (get x) (get y) := by
  induction fields generalizing place index items x with
  | nil => cases h.at_place
  | cons g fields ih =>
    cases place with
    | zero =>
      -- no later field has the name
      obtain rfl : g = f := Option.some.inj h.at_place
      obtain ⟨hnew, -⟩ := List.nodup_cons.mp h.nodup
      have hkept : ∀ g' ∈ fields, g'.Keeps get := fun g' hg' =>
        (h.other g' (List.mem_cons_of_mem _ hg')).resolve_left fun he =>
          hnew (List.mem_map.mpr ⟨g', hg', he.trans h.name_eq.symm⟩)
      cases items with
      | nil =>
        rw [elementsOf] at hread
        split at hread
        · cases hread
        · exact get_of_elementsOf hkept hread
      | cons v items =>
        obtain ⟨change, hchange, hread⟩ := exists_of_bind_eq_ok hread
        have hlater := get_of_elementsOf hkept hread
        show d.ofValue v = .ok (get y)
        rw [hlater]
        exact h.get_set v change hchange x
    | succ place =>
      have hg : g.Keeps get := by
        refine (h.other g List.mem_cons_self).resolve_left fun he =>
          (List.nodup_cons.mp h.nodup).1 ?_
        have hf : f ∈ fields := List.mem_of_getElem? h.tail.at_place
        exact List.mem_map.mpr ⟨f, hf, h.name_eq.trans he.symm⟩
      cases items with
      | nil =>
        rw [elementsOf] at hread
        split at hread
        · cases hread
        · have hlater := ih h.tail hread
          exact hlater
      | cons v items =>
        obtain ⟨change, hchange, hread⟩ := exists_of_bind_eq_ok hread
        have hlater := ih h.tail hread
        rw [← hg v change hchange x]
        exact hlater

/-- **What a record holds when it has been read**, in whichever way it is written. -/
theorem gives (get : α → β) {name : String} {initial x : α} {v : Value} (hv : v.Canonical)
    (hread : (record name initial fields).ofValue v = .ok x)
    (h : Holds fields place key f d get) : d.Gives (v.part? key place) (get initial) (get x) := by
  cases v with
  | object entries =>
    have hsorted := (Value.canonical_object_iff.mp hv).1
    obtain ⟨⟨y, seen⟩, hfields, hread⟩ := exists_of_bind_eq_ok hread
    have hgives := h.gives_of_fieldsOf (hsorted.imp fun h => ne_of_lt h) hfields
    have hcomplete : complete fields y seen = .ok x := hread
    unfold complete at hcomplete
    split at hcomplete
    · cases hcomplete
    · cases hcomplete
      exact hgives
  | array items =>
    obtain ⟨⟨y, left⟩, helements, hread⟩ := exists_of_bind_eq_ok hread
    have hgives := h.gives_of_elementsOf helements
    cases left with
    | nil =>
      cases hread
      exact hgives
    | cons v left => cases hread
  | null | bool | number | string => cases hread

end Holds

/-- What a text was before, or what it is read of. -/
theorem Gives.string_eq {part : Option Value} {before after : String}
    (h : Gives .string part before after) : after = (part.bind Value.string?).getD before := by
  cases part with
  | none => exact h
  | some v =>
    cases v with
    | string s =>
      cases h
      rfl
    | null | bool | number | array | object => cases h

end Decoder

namespace Value

variable {k key : String} {place : Nat} {v w : Value} {under fields : List (String × Value)}

theorem canonical_of_part? (hv : v.Canonical) (h : v.part? key place = some w) :
    w.Canonical := by
  cases v with
  | object fields => exact (canonical_object_iff.mp hv).2 _ (mem_of_field? h)
  | array items => exact canonicalItems_iff.mp hv _ (List.mem_of_getElem? h)
  | null | bool | number | string => cases h

/-- A part that is null has no parts, like one that is not there. -/
theorem bind_part?_eq_entry :
    (field? key fields).bind (part? k place) = (entry key fields).part? k place := by
  rw [entry]
  cases field? key fields <;> rfl

theorem bind_string?_eq_entry :
    (field? key fields).bind string? = (entry key fields).string? := by
  rw [entry]
  cases field? key fields <;> rfl

/-- Of overlaid objects. -/
theorem part?_overlay_object (h : Sorted fields) (hunder : field? key under = some w) :
    (overlay (.object under) (.object fields)).part? key place =
      some (((given? key fields).map (overlay w)).getD w) := by
  rw [overlay_object]
  show field? key (overlayFields under fields) = _
  rw [field?_overlayFields h, hunder]
  cases given? key fields with
  | none => rfl
  | some v =>
    show some (laid key v under) = some (overlay w v)
    rw [laid, hunder]

/-- A text that is laid over another takes its place. -/
theorem getD_string?_overlay {old : String} (hv : v.Canonical)
    (hunder : field? key under = some (.string old)) :
    (((overlay (.object under) v).part? key place).bind string?).getD old =
      ((v.part? key place).bind string?).getD old := by
  cases v with
  | object fields =>
    have hsorted := (canonical_object_iff.mp hv).1
    rw [part?_overlay_object hsorted hunder]
    show _ = ((field? key fields).bind string?).getD old
    rw [bind_string?_eq_entry, entry_eq_given?]
    cases given? key fields with
    | none => rfl
    | some v =>
      have hplace : overlay (.string old) v = v := overlay_of_ne_object nofun
      show (overlay (.string old) v).string?.getD old = v.string?.getD old
      rw [hplace]
  | null | bool | number | string | array => rw [overlay]

end Value
end Switchboard.Json
