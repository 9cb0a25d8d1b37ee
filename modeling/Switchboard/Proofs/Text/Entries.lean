import Mathlib.Data.List.Basic
import Mathlib.Data.List.TakeWhile
import Switchboard.Text.Entries

/-! # Lists written with commas, entry by entry

Trimming takes off both ends of a text whatever blank characters are there, and nothing
else (`trimBoth_eq_iff`).  A list written with commas is cut at every comma, so its parts
are the longest stretches without one (`mem_splitOn_iff`).  Together this says what the
entries are: a text is an entry if it stands between two commas, or an end of the list,
with nothing but blank characters around it, and has itself no comma, no blank character
at an end, and at least one character (`mem_entries_iff`).

A comma between two lists makes one list of them (`entries_append`).  So a list can be
taken apart at its commas, and its entries are known from the ways in which they can be
written: with any blank characters around them, and with blank parts anywhere
(`entries_eq_iff`). -/
namespace Switchboard.Text

variable {cs ds front back : List Char} {s e : String}

/-! ## Trimming -/

/-- All characters are blank. -/
def AllBlank (cs : List Char) : Prop := ∀ c ∈ cs, isBlank c = true

/-- There is no blank character at either end. -/
def Trimmed (cs : List Char) : Prop :=
  (∀ c ∈ cs.head?, isBlank c = false) ∧ ∀ c ∈ cs.getLast?, isBlank c = false

instance : Decidable (AllBlank cs) := decidable_of_iff (cs.all isBlank = true) List.all_eq_true

theorem trimmed_iff : Trimmed cs ↔
    cs.head?.all (!isBlank ·) = true ∧ cs.getLast?.all (!isBlank ·) = true := by
  rw [Trimmed]
  cases cs.head? <;> cases cs.getLast? <;> simp

instance : Decidable (Trimmed cs) := decidable_of_iff _ trimmed_iff.symm

theorem AllBlank.append (hfront : AllBlank front) (hback : AllBlank back) :
    AllBlank (front ++ back) := by
  intro c hc
  rcases List.mem_append.mp hc with hc | hc
  · exact hfront c hc
  · exact hback c hc

theorem AllBlank.reverse (h : AllBlank cs) : AllBlank cs.reverse :=
  fun c hc => h c (List.mem_reverse.mp hc)

/-- What is left when the front is trimmed does not start with a blank character, and
what was taken off is blank. -/
theorem trimFront_eq_iff : trimFront cs = ds ↔
    (∀ c ∈ ds.head?, isBlank c = false) ∧ ∃ front, AllBlank front ∧ cs = front ++ ds := by
  constructor
  · rintro rfl
    refine ⟨fun c hc => ?_, cs.takeWhile isBlank, fun c hc => List.mem_takeWhile_imp hc,
      List.takeWhile_append_dropWhile.symm⟩
    have hhead := List.head?_dropWhile_not isBlank cs
    rw [show (cs.dropWhile isBlank).head? = some c from hc] at hhead
    exact hhead
  · rintro ⟨hhead, front, hfront, rfl⟩
    rw [trimFront, List.dropWhile_append_of_pos hfront]
    cases ds with
    | nil => rfl
    | cons c ds => rw [List.dropWhile_cons_of_neg (by simp [hhead c rfl])]

/-- What was taken off both ends is blank, and what is left has no blank character at an
end. -/
theorem exists_trimBoth (cs : List Char) : Trimmed (trimBoth cs) ∧
    ∃ front back, AllBlank front ∧ AllBlank back ∧ cs = front ++ trimBoth cs ++ back := by
  obtain ⟨hhead, front, hfront, hcs⟩ := trimFront_eq_iff.mp (rfl : trimFront cs = _)
  have hreverse : trimFront (trimFront cs).reverse = (trimBoth cs).reverse := by
    rw [trimBoth, trimBack, List.reverse_reverse]
  obtain ⟨hlast, back, hback, hrest⟩ := trimFront_eq_iff.mp hreverse
  rw [List.reverse_eq_iff, List.reverse_append, List.reverse_reverse] at hrest
  rw [hrest] at hcs hhead
  refine ⟨⟨fun c hc => hhead c (List.mem_head?_append_of_mem_head? hc), ?_⟩,
    front, back.reverse, hfront, hback.reverse, ?_⟩
  · rwa [List.head?_reverse] at hlast
  · exact hcs.trans (List.append_assoc ..).symm

theorem trimBoth_of_allBlank (h : AllBlank cs) : trimBoth cs = [] := by
  have hall : trimFront cs = [] :=
    trimFront_eq_iff.mpr ⟨nofun, cs, h, (List.append_nil cs).symm⟩
  rw [trimBoth, hall]
  rfl

/-- Blank characters around a text that has none at its ends are taken off. -/
theorem trimBoth_append (h : Trimmed cs) (hfront : AllBlank front) (hback : AllBlank back) :
    trimBoth (front ++ cs ++ back) = cs := by
  by_cases hcs : cs = []
  · rw [hcs, List.append_nil]
    exact trimBoth_of_allBlank (hfront.append hback)
  · have hfirst : trimFront (front ++ cs ++ back) = cs ++ back := by
      refine trimFront_eq_iff.mpr ⟨fun c hc => h.1 c ?_, front, hfront, List.append_assoc ..⟩
      rwa [List.head?_append_of_ne_nil _ hcs] at hc
    have hsecond : trimFront (cs ++ back).reverse = cs.reverse := by
      rw [List.reverse_append]
      refine trimFront_eq_iff.mpr ⟨?_, back.reverse, hback.reverse, rfl⟩
      rw [List.head?_reverse]
      exact h.2
    rw [trimBoth, hfirst, trimBack, hsecond, List.reverse_reverse]

/-- **Trimming** takes blank characters off both ends, as many as there are. -/
theorem trimBoth_eq_iff : trimBoth cs = ds ↔ Trimmed ds ∧
    ∃ front back, AllBlank front ∧ AllBlank back ∧ cs = front ++ ds ++ back := by
  constructor
  · rintro rfl
    exact exists_trimBoth cs
  · rintro ⟨hds, front, back, hfront, hback, rfl⟩
    exact trimBoth_append hds hfront hback

/-! ## Cutting -/

/-- **The parts of a list** that is cut at a mark are the stretches between two marks, or
an end of the list, that do not have the mark themselves. -/
theorem mem_splitOn_iff {α : Type} [DecidableEq α] {mark : α} {xs part : List α} :
    part ∈ xs.splitOn mark ↔ mark ∉ part ∧ ∃ before after, xs = before ++ part ++ after ∧
      (before = [] ∨ ∃ b, before = b ++ [mark]) ∧ (after = [] ∨ ∃ a, after = mark :: a) := by
  constructor
  · -- either there is no mark, or the rest after the first one is cut in its turn
    intro h
    by_cases hmark : mark ∈ xs
    · obtain ⟨first, rest, hxs, hfirst⟩ := List.eq_append_cons_of_mem hmark
      rw [hxs, List.splitOn_append_cons_self_of_not_mem hfirst, List.mem_cons] at h
      rcases h with rfl | h
      · exact ⟨hfirst, [], mark :: rest, hxs, Or.inl rfl, Or.inr ⟨rest, rfl⟩⟩
      · obtain ⟨hpart, before, after, hrest, hbefore, hafter⟩ := mem_splitOn_iff.mp h
        refine ⟨hpart, first ++ mark :: before, after, by simp [hxs, hrest], Or.inr ?_, hafter⟩
        rcases hbefore with rfl | ⟨b, rfl⟩
        · exact ⟨first, rfl⟩
        · exact ⟨first ++ mark :: b, by simp⟩
    · rw [List.splitOn_eq_singleton hmark, List.mem_singleton] at h
      subst h
      exact ⟨hmark, [], [], by simp, Or.inl rfl, Or.inl rfl⟩
  · rintro ⟨hpart, before, after, rfl, hbefore, hafter⟩
    have hcut : part ∈ (part ++ after).splitOn mark := by
      rcases hafter with rfl | ⟨a, rfl⟩
      · rw [List.append_nil, List.splitOn_eq_singleton hpart]
        exact List.mem_singleton_self part
      · rw [List.splitOn_append_cons_self_of_not_mem hpart]
        exact List.mem_cons_self
    rcases hbefore with rfl | ⟨b, rfl⟩
    · exact hcut
    · rw [List.append_assoc, List.append_assoc, List.singleton_append,
        List.splitOn_append_cons_self]
      exact List.mem_append_right _ hcut
termination_by xs.length
decreasing_by rw [hxs, List.length_append, List.length_cons]; omega

/-! ## Entries -/

/-- What can be an entry. -/
structure IsEntry (e : String) : Prop where
  ne_empty : e ≠ ""
  trimmed : Trimmed e.toList
  no_comma : ',' ∉ e.toList

theorem isEntry_iff : IsEntry e ↔ e ≠ "" ∧ Trimmed e.toList ∧ ',' ∉ e.toList :=
  ⟨fun h => ⟨h.ne_empty, h.trimmed, h.no_comma⟩, fun h => ⟨h.1, h.2.1, h.2.2⟩⟩

instance : Decidable (IsEntry e) := decidable_of_iff _ isEntry_iff.symm

theorem comma_not_mem_of_allBlank (h : AllBlank cs) : ',' ∉ cs :=
  fun hin => absurd (h _ hin) (by decide)

/-- A comma is not blank, so there is none around an entry either. -/
theorem IsEntry.no_comma_around (he : IsEntry e) (hfront : AllBlank front) (hback : AllBlank back) :
    ',' ∉ front ++ e.toList ++ back := by
  rw [List.mem_append, List.mem_append]
  rintro ((h | h) | h)
  · exact comma_not_mem_of_allBlank hfront h
  · exact he.no_comma h
  · exact comma_not_mem_of_allBlank hback h

/-- What is left of a text without a comma when it is trimmed, if anything, is an entry. -/
theorem isEntry_trimBoth (hcomma : ',' ∉ cs) (hne : trimBoth cs ≠ []) :
    IsEntry (String.ofList (trimBoth cs)) := by
  obtain ⟨htrimmed, front, back, -, -, hcs⟩ := exists_trimBoth cs
  refine ⟨fun hempty => hne ?_, by rwa [String.toList_ofList], fun hin => hcomma ?_⟩
  · simpa using congrArg String.toList hempty
  · rw [String.toList_ofList] at hin
    rw [hcs]
    exact List.mem_append_left _ (List.mem_append_right _ hin)

/-- An entry is a part of the list, trimmed, of which something is left. -/
theorem mem_entries_iff_part :
    e ∈ entries s ↔ e ≠ "" ∧ ∃ part ∈ s.toList.splitOn ',', trimBoth part = e.toList := by
  rw [entries, List.mem_map]
  constructor
  · rintro ⟨cs, hcs, rfl⟩
    obtain ⟨hparts, hne⟩ := List.mem_filter.mp hcs
    obtain ⟨part, hpart, rfl⟩ := List.mem_map.mp hparts
    refine ⟨fun he => ?_, part, hpart, String.toList_ofList.symm⟩
    have hnil : trimBoth part = [] := by simpa using congrArg String.toList he
    rw [hnil] at hne
    cases hne
  · rintro ⟨hne, part, hpart, htrim⟩
    refine ⟨e.toList, List.mem_filter.mpr ⟨List.mem_map.mpr ⟨part, hpart, htrim⟩, ?_⟩,
      String.ofList_toList⟩
    simpa using hne

/-- **The entries of a list** are what stands between commas, apart from blank characters
around it. -/
theorem mem_entries_iff : e ∈ entries s ↔ IsEntry e ∧ ∃ before front back after,
    s.toList = before ++ (front ++ e.toList ++ back) ++ after ∧
    AllBlank front ∧ AllBlank back ∧
    (before = [] ∨ ∃ b, before = b ++ [',']) ∧ (after = [] ∨ ∃ a, after = ',' :: a) := by
  rw [mem_entries_iff_part]
  constructor
  · rintro ⟨hne, part, hpart, htrim⟩
    obtain ⟨hcomma, before, after, hs, hbefore, hafter⟩ := mem_splitOn_iff.mp hpart
    obtain ⟨htrimmed, front, back, hfront, hback, rfl⟩ := trimBoth_eq_iff.mp htrim
    refine ⟨⟨hne, htrimmed, fun he => hcomma ?_⟩, before, front, back, after, hs, hfront, hback,
      hbefore, hafter⟩
    exact List.mem_append_left _ (List.mem_append_right _ he)
  · rintro ⟨⟨hne, htrimmed, hcomma⟩, before, front, back, after, hs, hfront, hback, hbefore, hafter⟩
    have hpart := IsEntry.no_comma_around ⟨hne, htrimmed, hcomma⟩ hfront hback
    exact ⟨hne, _, mem_splitOn_iff.mpr ⟨hpart, before, after, hs, hbefore, hafter⟩,
      trimBoth_eq_iff.mpr ⟨htrimmed, front, back, hfront, hback, rfl⟩⟩

/-! ## Spellings -/

/-- Two lists with a comma between them have the entries of both. -/
theorem entries_append (s t : String) : entries (s ++ "," ++ t) = entries s ++ entries t := by
  have hlist : (s ++ "," ++ t).toList = s.toList ++ ',' :: t.toList := by simp
  simp only [entries, hlist, List.splitOn_append_cons_self, List.map_append, List.filter_append]

theorem entries_empty : entries "" = [] := by decide

/-- A list that is put together from parts has the entries of its parts. -/
theorem entries_intercalate_cons (part : String) (parts : List String) :
    entries (",".intercalate (part :: parts)) =
      entries part ++ entries (",".intercalate parts) := by
  cases parts with
  | nil =>
    rw [String.intercalate_singleton, String.intercalate_nil, entries_empty, List.append_nil]
  | cons next parts => rw [String.intercalate_cons_cons, entries_append]

/-- A part without a comma is one entry at most. -/
theorem entries_of_no_comma (h : ',' ∉ s.toList) :
    entries s = if trimBoth s.toList = [] then [] else [String.ofList (trimBoth s.toList)] := by
  rw [entries, List.splitOn_eq_singleton h]
  by_cases hnil : trimBoth s.toList = [] <;> simp [hnil]

/-- The parts of a list and the entries that they spell: blank characters alone spell no
entry, and an entry may have any of them around it. -/
inductive Spelling : List String → List String → Prop
  | nil : Spelling [] []
  | blank {gap : String} {parts es : List String} (hgap : AllBlank gap.toList)
    (h : Spelling parts es) : Spelling (gap :: parts) es
  | entry {front e back : String} {parts es : List String} (hfront : AllBlank front.toList)
    (he : IsEntry e) (hback : AllBlank back.toList) (h : Spelling parts es) :
    Spelling ((front ++ e ++ back) :: parts) (e :: es)

/-- Entries are spelled by themselves. -/
theorem spelling_self {es : List String} (h : ∀ e ∈ es, IsEntry e) : Spelling es es := by
  induction es with
  | nil => exact .nil
  | cons e es ih =>
    obtain ⟨he, hes⟩ := List.forall_mem_cons.mp h
    have hnone : AllBlank "".toList := nofun
    simpa using Spelling.entry hnone he hnone (ih hes)

theorem Spelling.entries_eq {parts es : List String} (h : Spelling parts es) :
    entries (",".intercalate parts) = es := by
  induction h with
  | nil => exact entries_empty
  | blank hgap _ ih =>
    rw [entries_intercalate_cons, ih, entries_of_no_comma (comma_not_mem_of_allBlank hgap),
      if_pos (trimBoth_of_allBlank hgap), List.nil_append]
  | @entry front e back parts es hfront he hback _ ih =>
    have hlist : (front ++ e ++ back).toList = front.toList ++ e.toList ++ back.toList := by simp
    have hcomma : ',' ∉ (front ++ e ++ back).toList := hlist ▸ he.no_comma_around hfront hback
    have htrim : trimBoth (front ++ e ++ back).toList = e.toList := by
      rw [hlist]
      exact trimBoth_append he.trimmed hfront hback
    have hne : e.toList ≠ [] := fun hnil => he.ne_empty (String.toList_eq_nil_iff.mp hnil)
    rw [entries_intercalate_cons, ih, entries_of_no_comma hcomma, htrim, if_neg hne,
      String.ofList_toList, List.singleton_append]

/-- Parts without commas spell the entries of the list that they make up. -/
theorem spelling_entries {parts : List String} (h : ∀ p ∈ parts, ',' ∉ p.toList) :
    Spelling parts (entries (",".intercalate parts)) := by
  induction parts with
  | nil => exact .nil
  | cons part parts ih =>
    obtain ⟨hpart, hparts⟩ := List.forall_mem_cons.mp h
    obtain ⟨-, front, back, hfront, hback, hlist⟩ := exists_trimBoth part.toList
    rw [entries_intercalate_cons, entries_of_no_comma hpart]
    by_cases hnil : trimBoth part.toList = []
    · rw [if_pos hnil]
      rw [hnil, List.append_nil] at hlist
      exact .blank (hlist ▸ hfront.append hback) (ih hparts)
    · rw [if_neg hnil]
      have hpadded : part = String.ofList front ++ String.ofList (trimBoth part.toList) ++
          String.ofList back := by
        rw [← String.ofList_append, ← String.ofList_append, ← hlist, String.ofList_toList]
      conv => arg 1; rw [hpadded]
      exact .entry (by rwa [String.toList_ofList]) (isEntry_trimBoth hpart hnil)
        (by rwa [String.toList_ofList]) (ih hparts)

/-- **The lists that have some entries** are those that spell them. -/
theorem entries_eq_iff {es : List String} :
    entries s = es ↔ ∃ parts, Spelling parts es ∧ s = ",".intercalate parts := by
  constructor
  · rintro rfl
    have hs : s = ",".intercalate ((s.toList.splitOn ',').map String.ofList) := by
      rw [← String.toList_inj, String.toList_intercalate, List.map_map]
      have hid : (String.toList ∘ String.ofList) = id := funext fun cs => String.toList_ofList
      rw [hid, List.map_id]
      exact (List.intercalate_splitOn ',').symm
    have hparts : ∀ p ∈ (s.toList.splitOn ',').map String.ofList, ',' ∉ p.toList := by
      intro p hp
      obtain ⟨cs, hcs, rfl⟩ := List.mem_map.mp hp
      rw [String.toList_ofList]
      exact (mem_splitOn_iff.mp hcs).1
    have hspelling := spelling_entries hparts
    rw [← hs] at hspelling
    exact ⟨_, hspelling, hs⟩
  · rintro ⟨parts, h, rfl⟩
    exact h.entries_eq

end Switchboard.Text
