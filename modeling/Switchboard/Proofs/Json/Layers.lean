import Switchboard.Proofs.Json.Overlaid

/-! # Values in layers

A value laid over another is read off key by key: at every key of two objects it is what
the one gives there, laid over what the other has (`field?_overlayFields`).  Fields in
order are determined by what is found under their keys (`Sorted.ext`), so laws of whole
values come down to laws of one key, by induction over the value that lies on top
(`fields_induction`).

A value laid over itself stays what it is (`overlay_self`).  Of three layers either two
may be put together first (`overlay_overlay`), if the topmost never has an object where
the one below it has something else: laid over that, the object takes its place, but laid
over what is further down it would leave fields of that.  A field that is null is nothing
in this, for it is passed over. -/
namespace Switchboard.Json.Value

variable {k : String} {path : List String} {t a b s u v w : Value}
  {fields under above others : List (String × Value)}

/-! ## Objects by their keys -/

/-- A value is an object. -/
def IsObject (v : Value) : Prop := ∃ fields, v = object fields

/-- The keys of an object, none of any other value. -/
def keys (v : Value) : List String := v.fields.map Prod.fst

/-- What an object has under a key. -/
def get? (k : String) (v : Value) : Option Value := field? k v.fields

/-- What is found in objects inside of each other by the keys that lead there. -/
def at? : List String → Value → Option Value
  | [], v => some v
  | k :: path, v => (v.get? k).bind (at? path)

theorem sizeOf_lt_of_mem {f : String × Value} (h : f ∈ fields) :
    sizeOf f.2 < sizeOf (object fields) := by
  have hmem := List.sizeOf_lt_of_mem h
  have hpair : sizeOf f = 1 + sizeOf f.1 + sizeOf f.2 := rfl
  rw [object.sizeOf_spec]
  omega

/-- **What holds of an object if it holds of the values of its fields**, and holds of
everything that is no object, holds of all values. -/
@[elab_as_elim]
theorem fields_induction {motive : Value → Prop} (v : Value)
    (other : ∀ v, ¬ v.IsObject → motive v)
    (object : ∀ fields, (∀ f ∈ fields, motive f.2) → motive (object fields)) : motive v := by
  match v with
  | .object fields => exact object fields fun f hf => fields_induction f.2 other object
  | .null | .bool _ | .number _ | .string _ | .array _ => exact other _ nofun
termination_by sizeOf v
decreasing_by exact sizeOf_lt_of_mem hf

theorem field?_eq_none_iff : field? k fields = none ↔ k ∉ fields.map Prod.fst := by
  constructor
  · intro hnone hin
    obtain ⟨f, hf, rfl⟩ := List.mem_map.mp hin
    have hsome := isSome_field? hf
    rw [hnone] at hsome
    cases hsome
  · intro hout
    exact field?_eq_none fun f hf he => hout (List.mem_map.mpr ⟨f, hf, he⟩)

theorem Sorted.pairwise (h : Sorted fields) : fields.Pairwise fun f g => f.1 < g.1 :=
  List.pairwise_map.mp h

/-- Of fields in order each is the one that is found under its key. -/
theorem Sorted.mem_iff (h : Sorted fields) {f : String × Value} :
    f ∈ fields ↔ field? f.1 fields = some f.2 := by
  refine ⟨fun hf => ?_, mem_of_field?⟩
  induction fields with
  | nil => cases hf
  | cons g fields ih =>
    obtain ⟨hlater, hsorted⟩ := sorted_cons_iff.mp h
    rcases List.mem_cons.mp hf with rfl | hf
    · exact if_pos rfl
    · rw [field?, if_neg (ne_of_lt (hlater f hf))]
      exact ih hsorted hf

/-- **Fields in order are determined by what is found under every key.** -/
theorem Sorted.ext (h : Sorted fields) (h' : Sorted others)
    (hsame : ∀ k, field? k fields = field? k others) : fields = others := by
  have hmem : ∀ f, f ∈ fields ↔ f ∈ others := by
    intro f
    rw [h.mem_iff, h'.mem_iff, hsame]
  have hnodup : ∀ {fs : List (String × Value)}, Sorted fs → fs.Nodup :=
    fun hs => hs.pairwise.imp fun hlt he => ne_of_lt hlt (congrArg Prod.fst he)
  have hperm := (List.perm_ext_iff_of_nodup (hnodup h) (hnodup h')).mpr hmem
  exact hperm.eq_of_pairwise (fun _ _ _ _ hlt hgt => absurd hgt (lt_asymm hlt)) h.pairwise h'.pairwise

/-! ## One layer -/

theorem overlay_of_not_isObject (h : ¬ (t.IsObject ∧ s.IsObject)) : overlay t s = s := by
  by_cases ht : t.IsObject
  · have hs : ¬ s.IsObject := fun hs => h ⟨ht, hs⟩
    cases s with
    | object fields => exact absurd ⟨fields, rfl⟩ hs
    | null | bool | number | string | array => rw [overlay]
  · exact overlay_of_ne_object fun fields he => ht ⟨fields, he⟩

theorem field?_of_given? (h : given? k fields = some v) : field? k fields = some v :=
  (Option.filter_eq_some_iff.mp h).1

/-- What comes of a layer is null only if the layer is. -/
theorem overlay_ne_null (h : v ≠ .null) : overlay w v ≠ .null := by
  by_cases hobject : w.IsObject ∧ v.IsObject
  · obtain ⟨⟨under, rfl⟩, ⟨fields, rfl⟩⟩ := hobject
    rw [overlay_object]
    exact nofun
  · rwa [overlay_of_not_isObject hobject]

theorem laid_of_field? (h : field? k under = some w) : laid k v under = overlay w v := by
  rw [laid, h]

theorem laid_of_field?_eq_none (h : field? k under = none) : laid k v under = v := by
  rw [laid, h]

/-- What lies over nothing, or over null, stays what it is. -/
theorem laid_of_given?_eq_none (h : given? k under = none) : laid k v under = v := by
  cases hw : field? k under with
  | none => exact laid_of_field?_eq_none hw
  | some w =>
    rw [given?, hw] at h
    obtain rfl : w = .null := by simpa [Option.filter] using h
    rw [laid_of_field? hw]
    exact overlay_of_ne_object (by simp)

theorem laid_ne_null (h : v ≠ .null) : laid k v under ≠ .null := by
  unfold laid
  split
  · exact overlay_ne_null h
  · exact h

/-- What overlaid objects give for a key, to be laid over something in their turn. -/
theorem given?_overlayFields (h : Sorted fields) :
    given? k (overlayFields under fields) =
      ((given? k fields).map fun v => laid k v under).or (given? k under) := by
  rw [given?, field?_overlayFields h]
  cases hgiven : given? k fields with
  | none => rfl
  | some v =>
    have hne : laid k v under ≠ .null := laid_ne_null (ne_null_of_given? hgiven)
    simp [Option.filter, hne]

/-- A canonical value under a canonical layer stays canonical. -/
theorem Canonical.overlay (ht : t.Canonical) (hs : s.Canonical) : (overlay t s).Canonical := by
  induction s using fields_induction generalizing t with
  | other s hother => rwa [overlay_of_not_isObject fun h => hother h.2]
  | object fields ih =>
    by_cases hobject : t.IsObject
    · obtain ⟨under, rfl⟩ := hobject
      obtain ⟨hunder, hbelow⟩ := canonical_object_iff.mp ht
      obtain ⟨hsorted, hfields⟩ := canonical_object_iff.mp hs
      have hresult : Sorted (overlayFields under fields) := hunder.overlayFields
      rw [overlay_object, canonical_object_iff]
      refine ⟨hresult, fun f hf => ?_⟩
      rw [hresult.mem_iff, field?_overlayFields hsorted, Option.or_eq_some_iff,
        Option.map_eq_some_iff] at hf
      rcases hf with ⟨v, hv, hlaid⟩ | ⟨-, hf⟩
      · have hmem := mem_of_field? (field?_of_given? hv)
        rw [← hlaid, laid]
        split
        · next w hw => exact ih _ hmem (hbelow _ (mem_of_field? hw)) (hfields _ hmem)
        · exact hfields _ hmem
      · exact hbelow _ (mem_of_field? hf)
    · rwa [overlay_of_not_isObject fun h => hobject h.1]

/-! ## Several layers -/

/-- **A value laid over itself** stays what it is. -/
theorem overlay_self (hs : s.Canonical) : overlay s s = s := by
  induction s using fields_induction with
  | other s hother => exact overlay_of_not_isObject fun h => hother h.1
  | object fields ih =>
    obtain ⟨hsorted, hfields⟩ := canonical_object_iff.mp hs
    rw [overlay_object]
    refine congrArg object (hsorted.overlayFields.ext hsorted fun k => ?_)
    rw [field?_overlayFields hsorted]
    cases hgiven : given? k fields with
    | none => rfl
    | some v =>
      have hfield := field?_of_given? hgiven
      have hmem := mem_of_field? hfield
      show some (laid k v fields) = field? k fields
      rw [laid, hfield]
      exact congrArg some (ih _ hmem (hfields _ hmem))

/-- Wherever a value has an object, the value under it has an object too, unless it has
null there or nothing. -/
def Underlies (a b : Value) : Prop :=
  ∀ path v w, a.at? path = some v → b.at? path = some w → v ≠ .null → w ≠ .null →
    w.IsObject → v.IsObject

theorem underlies_self (a : Value) : a.Underlies a := by
  intro path v w hv hw _ _ hobject
  rw [hv] at hw
  cases hw
  exact hobject

/-- What is null underlies everything, and everything underlies what is no object. -/
theorem underlies_of_null_or (h : a = .null ∨ ¬ b.IsObject) : a.Underlies b := by
  intro path v w hv hw hne _ hobject
  cases path with
  | nil =>
    obtain rfl : a = v := Option.some.inj hv
    obtain rfl : b = w := Option.some.inj hw
    rcases h with hnull | hother
    · exact absurd hnull hne
    · exact absurd hobject hother
  | cons k path =>
    obtain ⟨x, hx, -⟩ := Option.bind_eq_some_iff.mp hv
    obtain ⟨y, hy, -⟩ := Option.bind_eq_some_iff.mp hw
    rcases h with rfl | hother
    · cases hx
    · have hnone : b.fields = [] := by
        cases b with
        | object fields => exact absurd ⟨fields, rfl⟩ hother
        | null | bool | number | string | array => rfl
      rw [get?, hnone] at hy
      cases hy

/-- One object underlies another if what it has under every key underlies what the other
has there. -/
theorem underlies_object_iff : (object under).Underlies (object fields) ↔
    ∀ k v w, field? k under = some v → field? k fields = some w → v.Underlies w := by
  constructor
  · intro h k v w hv hw path v' w' hv' hw'
    refine h (k :: path) v' w' ?_ ?_
    · show (field? k under).bind _ = _
      rw [hv]
      exact hv'
    · show (field? k fields).bind _ = _
      rw [hw]
      exact hw'
  · intro h path v w hv hw hv' hw' hobject
    cases path with
    | nil => exact ⟨under, (Option.some.inj hv).symm⟩
    | cons k path =>
      obtain ⟨x, hx, hv⟩ := Option.bind_eq_some_iff.mp hv
      obtain ⟨y, hy, hw⟩ := Option.bind_eq_some_iff.mp hw
      exact h k x y hx hy path v w hv hw hv' hw' hobject

/-- **Layers may be put together first**, if each object of the upper one comes over an
object of the lower one or over nothing. -/
theorem overlay_overlay (ht : t.Canonical) (ha : a.Canonical) (hb : b.Canonical)
    (hne : a ≠ .null) (h : a.Underlies b) :
    overlay (overlay t a) b = overlay t (overlay a b) := by
  induction b using fields_induction generalizing t a with
  | other b hother =>
    have hover : ∀ w, overlay w b = b := fun w => overlay_of_not_isObject fun h => hother h.2
    rw [hover, hover, hover]
  | object above ih =>
    obtain ⟨fields, rfl⟩ := h [] a _ rfl rfl hne nofun ⟨above, rfl⟩
    by_cases hobject : t.IsObject
    · obtain ⟨under, rfl⟩ := hobject
      obtain ⟨hunder, hbelow⟩ := canonical_object_iff.mp ht
      obtain ⟨hsorted, hfields⟩ := canonical_object_iff.mp ha
      obtain ⟨hsorted', habove⟩ := canonical_object_iff.mp hb
      rw [overlay_object, overlay_object, overlay_object, overlay_object]
      refine congrArg object (hunder.overlayFields.overlayFields.ext hunder.overlayFields
        fun k => ?_)
      rw [field?_overlayFields hsorted', field?_overlayFields hsorted.overlayFields,
        given?_overlayFields hsorted', field?_overlayFields hsorted]
      cases hgiven : given? k above with
      | none => rfl
      | some w =>
        show some (laid k w (overlayFields under fields)) = some (laid k (laid k w fields) under)
        refine congrArg some ?_
        have hw := field?_of_given? hgiven
        have hmem := mem_of_field? hw
        cases hmiddle : given? k fields with
        | none =>
          -- what is in the middle is nothing or null, and `w` comes over what is below
          have hnothing : laid k w fields = w := laid_of_given?_eq_none hmiddle
          have hbottom : field? k (overlayFields under fields) = field? k under := by
            rw [field?_overlayFields hsorted, hmiddle]
            rfl
          rw [hnothing, laid, laid, hbottom]
        | some v =>
          have hv := field?_of_given? hmiddle
          have hlaid : laid k w fields = overlay v w := laid_of_field? hv
          have hboth : laid k w (overlayFields under fields) = overlay (laid k v under) w := by
            refine laid_of_field? ?_
            rw [field?_overlayFields hsorted, hmiddle]
            rfl
          rw [hboth, hlaid]
          cases hu : field? k under with
          | none => rw [laid_of_field?_eq_none hu, laid_of_field?_eq_none hu]
          | some u =>
            rw [laid_of_field? hu, laid_of_field? hu]
            exact ih _ hmem (hbelow _ (mem_of_field? hu)) (hfields _ (mem_of_field? hv))
              (habove _ hmem) (ne_null_of_given? hmiddle) (underlies_object_iff.mp h k v w hv hw)
    · rw [overlay_of_not_isObject fun h => hobject h.1, overlay_of_not_isObject fun h => hobject h.1]

/-- What was laid over a value may be laid over it again. -/
theorem overlay_overlay_self (ht : t.Canonical) (hs : s.Canonical) :
    overlay (overlay t s) s = overlay t s := by
  by_cases hnull : s = .null
  · have hobject : ∀ w : Value, ¬ (w.IsObject ∧ s.IsObject) := by
      rintro w ⟨-, fields, he⟩
      cases hnull.symm.trans he
    rw [overlay_of_not_isObject (hobject _), overlay_of_not_isObject (hobject _)]
  · rw [overlay_overlay ht hs hs hnull (underlies_self s), overlay_self hs]

/-! ## The laws together -/

theorem mem_keys_iff : k ∈ v.keys ↔ v.get? k ≠ none := by
  rw [get?, ne_eq, field?_eq_none_iff, not_not]
  rfl

/-- What overlaid objects have under a key. -/
theorem get?_overlay (ha : a.Canonical) (hobjects : t.IsObject ∧ a.IsObject) :
    (overlay t a).get? k =
      ((given? k a.fields).map fun v => laid k v t.fields).or (t.get? k) := by
  obtain ⟨⟨under, rfl⟩, ⟨fields, rfl⟩⟩ := hobjects
  rw [overlay_object]
  exact field?_overlayFields (canonical_object_iff.mp ha).1

theorem given?_fields_eq_none_iff :
    given? k v.fields = none ↔ v.get? k = none ∨ v.get? k = some .null := by
  rw [given?, get?]
  cases field? k v.fields with
  | none => simp
  | some w => simp [Option.filter]

/-- **The laws of layers.**  An object over an object has the keys of both, but for those
that the upper one has null under; under each key it has what the lower one has if the
upper one has nothing or null there, what the upper one has if the lower one has nothing,
and else the one laid over the other.  If either is no object, the upper one is all there
is.  Laying a value over itself, or over what it was laid over before, changes nothing.
And of three objects that lie over each other either two may be put together first, if
the middle one underlies the topmost. -/
theorem laws_of_layers (ht : t.Canonical) (ha : a.Canonical) (hb : b.Canonical) :
    (overlay t a).Canonical ∧
    (t.IsObject ∧ a.IsObject → (overlay t a).IsObject ∧
      (∀ k, k ∈ (overlay t a).keys ↔ k ∈ t.keys ∨ ∃ v, a.get? k = some v ∧ v ≠ .null) ∧
      ∀ k,
        (a.get? k = none ∨ a.get? k = some .null → (overlay t a).get? k = t.get? k) ∧
        ∀ v, a.get? k = some v → v ≠ .null →
          (t.get? k = none → (overlay t a).get? k = some v) ∧
          ∀ w, t.get? k = some w → (overlay t a).get? k = some (overlay w v)) ∧
    (¬ (t.IsObject ∧ a.IsObject) → overlay t a = a) ∧
    overlay a a = a ∧
    overlay (overlay t a) a = overlay t a ∧
    (t.IsObject → a.IsObject → b.IsObject → a.Underlies b →
      overlay (overlay t a) b = overlay t (overlay a b)) := by
  refine ⟨ht.overlay ha, fun hobjects => ⟨?_, fun k => ?_, fun k => ⟨fun hnone => ?_, ?_⟩⟩,
    overlay_of_not_isObject, overlay_self ha, overlay_overlay_self ht ha, ?_⟩
  · obtain ⟨⟨under, rfl⟩, ⟨fields, rfl⟩⟩ := hobjects
    exact ⟨_, overlay_object⟩
  · have hgiven : given? k a.fields ≠ none ↔ ∃ v, a.get? k = some v ∧ v ≠ .null := by
      rw [ne_eq, given?_fields_eq_none_iff]
      cases a.get? k <;> simp
    rw [mem_keys_iff, mem_keys_iff, get?_overlay ha hobjects, ← hgiven, ne_eq, Option.or_eq_none_iff,
      Option.map_eq_none_iff, not_and_or, or_comm]
  · rw [get?_overlay ha hobjects, given?_fields_eq_none_iff.mpr hnone]
    rfl
  · intro v hv hne
    have hgiven : given? k a.fields = some v := by
      rw [given?, ← get?, hv]
      simp [Option.filter, hne]
    have hover : (overlay t a).get? k = some (laid k v t.fields) := by
      rw [get?_overlay ha hobjects, hgiven]
      rfl
    rw [hover]
    exact ⟨fun hnone => congrArg some (laid_of_field?_eq_none hnone),
      fun w hw => congrArg some (laid_of_field? hw)⟩
  · rintro - ⟨fields, rfl⟩ - hunder
    exact overlay_overlay ht ha hb (by simp) hunder

/-- A number in the middle: the object over it takes its place, but laid over what is below
it leaves a field of that. -/
example :
    let t := object [("k", object [("x", bool true)])]
    let a := object [("k", string "off")]
    let b := object [("k", object [])]
    overlay (overlay t a) b = b ∧ overlay t (overlay a b) = t := by decide

/-- Nulls at every level, an object in the place of a string, and one in the place of a
null. -/
theorem laws_of_layers_nulls :
    let t := object [("bus", object [("topics", array [null]), ("x", null)]), ("k", string "off")]
    let a := object [("bus", object [("group", object [("n", null)]), ("topics", null)]),
      ("k", object [("y", bool true)]), ("z", null)]
    let b := object [("bus", object [("group", object [("m", null)])]),
      ("k", object [("w", bool false), ("y", null)]), ("z", object [("q", null)])]
    t.Canonical ∧ a.Canonical ∧ b.Canonical ∧ a.Underlies b ∧
      (overlay t a).keys = ["bus", "k"] ∧
      overlay (overlay t a) a = overlay t a ∧
      overlay (overlay t a) b = overlay t (overlay a b) := by
  intro t a b
  have ht : t.Canonical := by
    simp +decide [t, Canonical, CanonicalFields, CanonicalItems]
  have ha : a.Canonical := by
    simp +decide [a, Canonical, CanonicalFields]
  have hb : b.Canonical := by
    simp +decide [b, Canonical, CanonicalFields]
  have hunder : a.Underlies b := by
    refine underlies_object_iff.mpr fun k v w hv hw => ?_
    obtain ⟨rfl, rfl⟩ | ⟨rfl, rfl⟩ | ⟨rfl, rfl⟩ := by simpa using mem_of_field? hw
    · -- the sections have objects under the same key, but nothing in common inside
      obtain rfl := Option.some.inj hv
      refine underlies_object_iff.mpr fun k v w hv hw => ?_
      obtain ⟨rfl, rfl⟩ := by simpa using mem_of_field? hw
      obtain rfl := Option.some.inj hv
      refine underlies_object_iff.mpr fun k v w hv hw => ?_
      obtain ⟨rfl, rfl⟩ := by simpa using mem_of_field? hw
      cases hv
    · obtain rfl := Option.some.inj hv
      refine underlies_object_iff.mpr fun k v w hv hw => ?_
      obtain ⟨rfl, rfl⟩ | ⟨rfl, rfl⟩ := by simpa using mem_of_field? hw
      · cases hv
      · exact underlies_of_null_or (Or.inr (by simp [IsObject]))
    · obtain rfl := Option.some.inj hv
      exact underlies_of_null_or (Or.inl rfl)
  obtain ⟨-, -, -, -, hagain, hlayers⟩ := laws_of_layers ht ha hb
  exact ⟨ht, ha, hb, hunder, by decide, hagain, hlayers ⟨_, rfl⟩ ⟨_, rfl⟩ ⟨_, rfl⟩ hunder⟩

end Switchboard.Json.Value
