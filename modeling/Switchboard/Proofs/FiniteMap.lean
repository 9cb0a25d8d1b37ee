import Mathlib.Data.List.Dedup
import Mathlib.Data.List.Perm.Basic
import Switchboard.Name

/-! # Listing finite maps and sets

A finite map lists its values in the order of their keys.  What is listed is
exactly what the map holds (`mem_values_iff`), and a relation between the
entries at different keys holds pairwise along the list (`pairwise_values`).
The size of a map is the number of different names in any list that names its
keys (`size_eq_length_dedup`).  A sum over the values of a map changes by the
value that is put in, less the one in whose place it comes (`total_insert`). -/
namespace Switchboard.FiniteMap
open Std

variable {α β : Type} {cmp : α → α → Ordering} [TransCmp cmp]

theorem values_eq_map_toList (t : ExtTreeMap α β cmp) : t.values = t.toList.map Prod.snd := by
  have h : t.values = t.foldr (fun _ v l => v :: l) [] := by
    cases t with
    | mk t => exact t.inductionOn fun _ => rfl
  rw [h, ExtTreeMap.foldr_eq_foldr_toList]
  induction t.toList with
  | nil => rfl
  | cons a l ih => rw [List.foldr_cons, ih, List.map_cons]

theorem length_values (t : ExtTreeMap α β cmp) : t.values.length = t.size := by
  rw [values_eq_map_toList, List.length_map, ExtTreeMap.length_toList]

theorem nodup_toList (t : ExtTreeMap α β cmp) : t.toList.Nodup := by
  refine ExtTreeMap.distinct_keys_toList.imp fun {a b} hne he => hne ?_
  rw [he]
  exact ReflCmp.compare_self

/-- The sum of what is measured of the values of a map. -/
def total (measure : β → Nat) (t : ExtTreeMap α β cmp) : Nat :=
  (t.values.map measure).foldr (· + ·) 0

variable [LawfulEqCmp cmp]

theorem mem_values_iff {t : ExtTreeMap α β cmp} {v : β} :
    v ∈ t.values ↔ ∃ k : α, t[k]? = some v := by
  rw [values_eq_map_toList, List.mem_map]
  constructor
  · rintro ⟨⟨k, w⟩, h, rfl⟩
    exact ⟨k, ExtTreeMap.mem_toList_iff_getElem?_eq_some.mp h⟩
  · rintro ⟨k, h⟩
    exact ⟨(k, v), ExtTreeMap.mem_toList_iff_getElem?_eq_some.mpr h, rfl⟩

theorem pairwise_values {t : ExtTreeMap α β cmp} {R : β → β → Prop}
    (h : ∀ (k l : α) (v w : β), t[k]? = some v → t[l]? = some w → k ≠ l → R v w) :
    t.values.Pairwise R := by
  rw [values_eq_map_toList, List.pairwise_map]
  refine ExtTreeMap.distinct_keys_toList.imp_of_mem fun {a b} ha hb hab => ?_
  refine h a.1 b.1 a.2 b.2 (ExtTreeMap.mem_toList_iff_getElem?_eq_some.mp ha)
    (ExtTreeMap.mem_toList_iff_getElem?_eq_some.mp hb) ?_
  exact fun he => hab (LawfulEqCmp.compare_eq_iff_eq.mpr he)

theorem nodup_keys (t : ExtTreeMap α β cmp) : t.keys.Nodup :=
  ExtTreeMap.distinct_keys.imp fun h he => h (LawfulEqCmp.compare_eq_iff_eq.mpr he)

/-- **The size of a map is the number of different keys.** -/
theorem size_eq_length_dedup [DecidableEq α] {t : ExtTreeMap α β cmp} {keys : List α}
    (h : ∀ k, k ∈ t ↔ k ∈ keys) : t.size = keys.dedup.length := by
  rw [← ExtTreeMap.length_keys]
  refine List.Perm.length_eq ((List.perm_ext_iff_of_nodup (nodup_keys t) keys.nodup_dedup).mpr ?_)
  intro k
  rw [ExtTreeMap.mem_keys, h, List.mem_dedup]

variable {measure : β → Nat} {t : ExtTreeMap α β cmp} {k : α} {v : β}

/-- What a map lists is a value of its own, and what it lists without it. -/
theorem values_perm (h : t[k]? = some v) : t.values.Perm (v :: (t.erase k).values) := by
  have hn : ((k, v) :: (t.erase k).toList).Nodup := by
    refine List.nodup_cons.mpr ⟨fun hin => ?_, nodup_toList _⟩
    rw [ExtTreeMap.mem_toList_iff_getElem?_eq_some, ExtTreeMap.getElem?_erase_self] at hin
    cases hin
  rw [values_eq_map_toList, values_eq_map_toList, ← List.map_cons (f := Prod.snd) (a := (k, v))]
  refine ((List.perm_ext_iff_of_nodup (nodup_toList t) hn).mpr ?_).map _
  rintro ⟨l, w⟩
  rw [List.mem_cons, ExtTreeMap.mem_toList_iff_getElem?_eq_some,
    ExtTreeMap.mem_toList_iff_getElem?_eq_some, ExtTreeMap.getElem?_erase, Prod.mk.injEq]
  by_cases hl : k = l
  · subst hl
    simp [h, eq_comm, ReflCmp.compare_self]
  · rw [if_neg (mt LawfulEqCmp.eq_of_compare hl)]
    simp [Ne.symm hl]

theorem total_eq_add_erase (h : t[k]? = some v) :
    total measure t = measure v + total measure (t.erase k) :=
  ((values_perm h).map measure).foldr_eq 0

/-- **What becomes of a sum over a map** when a value is put in: the value comes
in the place of the one that was there before, if any was. -/
theorem total_insert : total measure (t.insert k v) + (t[k]?.map measure).getD 0 =
    total measure t + measure v := by
  have hrest : (t.insert k v).erase k = t.erase k := by
    refine ExtTreeMap.ext_getElem? fun l => ?_
    rw [ExtTreeMap.getElem?_erase, ExtTreeMap.getElem?_erase, ExtTreeMap.getElem?_insert]
    split <;> rfl
  rw [total_eq_add_erase ExtTreeMap.getElem?_insert_self, hrest]
  cases h : t[k]? with
  | none =>
    have he : t.erase k = t := by
      refine ExtTreeMap.ext_getElem? fun l => ?_
      rw [ExtTreeMap.getElem?_erase]
      split
      · next hl => rw [← h, LawfulEqCmp.eq_of_compare hl]
      · rfl
    rw [he]
    exact Nat.add_comm (measure v) _
  | some w =>
    rw [total_eq_add_erase h]
    show measure v + _ + measure w = measure w + _ + measure v
    omega

end Switchboard.FiniteMap

namespace Switchboard.NameSet

variable {kind : NameKind}

/-- A set made of a list has the members of the list, in any order and however
often they occur. -/
theorem mem_ofNames {names : List (Name kind)} {n : Name kind} :
    n ∈ ofNames names ↔ n ∈ names := by
  suffices h : ∀ s : NameSet kind, n ∈ names.foldl (fun s n => s.insert n) s ↔ n ∈ s ∨ n ∈ names by
    rw [ofNames, h]
    simp
  induction names with
  | nil => simp
  | cons m names ih =>
    intro s
    rw [List.foldl_cons, ih, Std.ExtTreeSet.mem_insert, Std.LawfulEqCmp.compare_eq_iff_eq,
      List.mem_cons, eq_comm, or_comm (a := n = m), or_assoc]

theorem ofNames_congr {names names' : List (Name kind)} (h : ∀ n, n ∈ names ↔ n ∈ names') :
    ofNames names = ofNames names' :=
  Std.ExtTreeSet.ext_mem fun n => by rw [mem_ofNames, mem_ofNames, h]

end Switchboard.NameSet
