import Mathlib.Data.List.Induction
import Mathlib.Data.Nat.Digits.Defs
import Switchboard.Proofs.Json.Numerals
import Switchboard.Text.Numeral

/-! # Numerals and their values

A numeral is one plus sign at most and then decimal digits, of which there is at least
one; its value is that of the digits by their places (`IsNumeral`).  In other words, it is
the decimal form of its value with any number of zeros before it, and a plus sign before
these or not (`isNumeral_iff_toDigits`).

The reader of numerals takes exactly these, if the value fits the type and is in range
(`rangedNumeral?_eq_some_iff`).  It can do with numbers of the type alone, for digits that
are taken in from left to right never make a number smaller: if the value fits, so does
every number on the way, and if it does not, then at some digit the number leaves the type
(`rangedNumeral?_eq_boundedNumeral?`). -/
namespace Switchboard.Text

open Json (AreDigits areDigits_toDigits areDigits_zeros)

variable {cs ds : List Char} {c : Char} {n limit low high : Nat} {s : String}

/-! ## Digits -/

/-- The value of a digit. -/
def digitValue (c : Char) : Nat := c.toNat - '0'.toNat

/-- The value of digits by their places: the last one counts once, and each one counts
ten times as much as the one after it. -/
def placeValue (ds : List Char) : Nat := Nat.ofDigits 10 (ds.reverse.map digitValue)

theorem digitValue_lt (hc : c.isDigit = true) : digitValue c < 10 := by
  obtain ⟨-, hle⟩ := Char.isDigit_iff_toNat.mp hc
  have hzero : '0'.toNat = 48 := rfl
  have hnine : '9'.toNat = 57 := rfl
  rw [digitValue]
  omega

theorem digitChar_digitValue (hc : c.isDigit = true) : (digitValue c).digitChar = c := by
  obtain ⟨hle, -⟩ := Char.isDigit_iff_toNat.mp hc
  have hzero : '0'.toNat = 48 := rfl
  refine Char.toNat_inj.mp ?_
  rw [Nat.toNat_digitChar_of_lt_ten (digitValue_lt hc), digitValue]
  omega

/-- One more digit at the end. -/
theorem placeValue_append_singleton (ds : List Char) (c : Char) :
    placeValue (ds ++ [c]) = 10 * placeValue ds + digitValue c := by
  rw [placeValue, List.reverse_append, List.reverse_singleton, List.singleton_append,
    List.map_cons, Nat.ofDigits_cons, Nat.add_comm]
  rfl

theorem placeValue_eq_ofDigitChars (ds : List Char) :
    placeValue ds = Nat.ofDigitChars 10 ds 0 := by
  induction ds using List.reverseRecOn with
  | nil => rfl
  | append_singleton ds c ih =>
    rw [placeValue_append_singleton, Nat.ofDigitChars_append, ih]
    rfl

/-- Digits that are taken in from left to right come to their value. -/
theorem foldl_eq_placeValue (ds : List Char) :
    ds.foldl (fun n c => n * 10 + (c.toNat - 48)) 0 = placeValue ds := by
  induction ds using List.reverseRecOn with
  | nil => rfl
  | append_singleton ds c ih =>
    rw [List.foldl_append, List.foldl_cons, List.foldl_nil, ih, placeValue_append_singleton,
      Nat.mul_comm]
    rfl

theorem placeValue_zeros_append_toDigits (zeros n : Nat) :
    placeValue (List.replicate zeros '0' ++ Nat.toDigits 10 n) = n := by
  rw [placeValue_eq_ofDigitChars, Nat.ofDigitChars_append, Nat.ofDigitChars_replicate_zero,
    Nat.mul_zero, Nat.ofDigitChars_ten_toDigits]

/-- **Digits are the decimal form of their value** but for zeros at the front. -/
theorem exists_zeros (hds : AreDigits ds) (hne : ds ≠ []) :
    ∃ zeros, ds = List.replicate zeros '0' ++ Nat.toDigits 10 (placeValue ds) := by
  induction ds using List.reverseRecOn with
  | nil => exact absurd rfl hne
  | append_singleton ds c ih =>
    have hc : c.isDigit = true := hds c (List.mem_append_right _ List.mem_cons_self)
    have hlast : Nat.toDigits 10 (digitValue c) = [c] := by
      rw [Nat.toDigits_of_lt_base (digitValue_lt hc), digitChar_digitValue hc]
    rw [placeValue_append_singleton]
    by_cases hnil : ds = []
    · have hnothing : placeValue [] = 0 := rfl
      rw [hnil, hnothing, Nat.mul_zero, Nat.zero_add, hlast]
      exact ⟨0, rfl⟩
    obtain ⟨zeros, hzeros⟩ := ih (fun d hd => hds d (List.mem_append_left _ hd)) hnil
    by_cases hvalue : placeValue ds = 0
    · -- there are only zeros before the last digit
      rw [hvalue] at hzeros
      rw [hvalue, Nat.mul_zero, Nat.zero_add, hlast, hzeros]
      refine ⟨zeros + 1, ?_⟩
      rw [List.replicate_succ']
      rfl
    · have hmore := Nat.toDigits_append_toDigits (by decide : 1 < 10)
        (Nat.pos_of_ne_zero hvalue) (digitValue_lt hc)
      refine ⟨zeros, ?_⟩
      rw [← hmore, hlast, ← List.append_assoc, ← hzeros]

/-! ## Numerals -/

/-- A numeral for a number: one plus sign at most, and then digits with that value, of
which there is at least one. -/
def IsNumeral (cs : List Char) (n : Nat) : Prop :=
  ∃ ds, (cs = ds ∨ cs = '+' :: ds) ∧ ds ≠ [] ∧ AreDigits ds ∧ placeValue ds = n

/-- **The numerals for a number** are its decimal form with any number of zeros before it,
with a plus sign or without. -/
theorem isNumeral_iff_toDigits : IsNumeral cs n ↔ ∃ zeros,
    cs = List.replicate zeros '0' ++ Nat.toDigits 10 n ∨
    cs = '+' :: (List.replicate zeros '0' ++ Nat.toDigits 10 n) := by
  constructor
  · rintro ⟨ds, hcs, hne, hds, rfl⟩
    obtain ⟨zeros, hzeros⟩ := exists_zeros hds hne
    refine ⟨zeros, ?_⟩
    rwa [← hzeros]
  · rintro ⟨zeros, hcs⟩
    exact ⟨_, hcs, List.append_ne_nil_of_right_ne_nil _ Nat.toDigits_ne_nil,
      (areDigits_zeros zeros).append (areDigits_toDigits n), placeValue_zeros_append_toDigits zeros n⟩

theorem digitsValue?_eq_some_iff :
    digitsValue? cs = some n ↔ cs ≠ [] ∧ AreDigits cs ∧ placeValue cs = n := by
  have hall : cs.all Char.isDigit = true ↔ AreDigits cs := List.all_eq_true
  rw [digitsValue?, foldl_eq_placeValue]
  split
  · next h =>
    rw [Option.some.injEq]
    exact ⟨fun hn => ⟨h.1, hall.mp h.2, hn⟩, fun hn => hn.2.2⟩
  · next h => exact ⟨nofun, fun hn => absurd ⟨hn.1, hall.mpr hn.2.1⟩ h⟩

/-- What follows a plus sign at the front, or all if there is none. -/
def afterPlus : List Char → List Char
  | '+' :: ds => ds
  | ds => ds

theorem isNumeral_iff_afterPlus : IsNumeral cs n ↔
    afterPlus cs ≠ [] ∧ AreDigits (afterPlus cs) ∧ placeValue (afterPlus cs) = n := by
  unfold afterPlus
  split
  · next ds =>
    constructor
    · rintro ⟨ds', hcs | hcs, h⟩
      · -- a plus sign is no digit
        have hplus : '+'.isDigit = true := h.2.1 '+' (hcs ▸ List.mem_cons_self)
        cases hplus
      · rwa [(List.cons.inj hcs).2]
    · exact fun h => ⟨ds, Or.inr rfl, h⟩
  · next hplus =>
    constructor
    · rintro ⟨ds, rfl | hcs, h⟩
      · exact h
      · exact absurd hcs (hplus ds)
    · exact fun h => ⟨cs, Or.inl rfl, h⟩

theorem numeral?_eq_some_iff : numeral? cs = some n ↔ IsNumeral cs n := by
  have hplus : numeral? cs = digitsValue? (afterPlus cs) := by
    unfold numeral?
    split
    · rfl
    · next hplus =>
      unfold afterPlus
      split
      · next ds => exact absurd rfl (hplus ds)
      · rfl
  rw [hplus, digitsValue?_eq_some_iff, isNumeral_iff_afterPlus]

/-- **What is read of a text as a number in a range** is the value of a numeral that fits
the type and is in the range, and nothing otherwise. -/
theorem rangedNumeral?_eq_some_iff : rangedNumeral? limit low high s = some n ↔
    IsNumeral s.toList n ∧ n < limit ∧ low ≤ n ∧ n ≤ high := by
  rw [rangedNumeral?, ← numeral?_eq_some_iff]
  cases numeral? s.toList with
  | none => exact ⟨nofun, fun h => nomatch h.1⟩
  | some m =>
    by_cases hm : m < limit ∧ low ≤ m ∧ m ≤ high
    · simp only [if_pos hm, Option.some.injEq]
      exact ⟨fun h => ⟨h, h ▸ hm⟩, fun h => h.1⟩
    · simp only [if_neg hm, Option.some.injEq]
      exact ⟨nofun, fun h => absurd (h.1 ▸ h.2) hm⟩

/-! ## Within a type -/

/-- Takes in digits from left to right, with numbers below `limit` only: nothing comes of
them if there is another character, or a number on the way does not fit. -/
def accumulate? (limit : Nat) : Nat → List Char → Option Nat
  | n, [] => some n
  | n, c :: cs =>
    if c.isDigit ∧ n * 10 < limit ∧ n * 10 + digitValue c < limit then
      accumulate? limit (n * 10 + digitValue c) cs
    else none

/-- The value of a numeral, found with numbers below `limit` only. -/
def boundedNumeral? (limit : Nat) (cs : List Char) : Option Nat :=
  if afterPlus cs = [] then none else accumulate? limit 0 (afterPlus cs)

/-- More digits never make a number smaller. -/
theorem le_ofDigitChars (n : Nat) (ds : List Char) : n ≤ Nat.ofDigitChars 10 ds n := by
  induction ds generalizing n with
  | nil => exact Nat.le_refl n
  | cons c ds ih =>
    rw [Nat.ofDigitChars_cons]
    have hmore := ih (10 * n + (c.toNat - '0'.toNat))
    omega

theorem accumulate?_eq_some_iff {m : Nat} (h : n < limit ∨ ds ≠ []) :
    accumulate? limit n ds = some m ↔
      AreDigits ds ∧ m < limit ∧ Nat.ofDigitChars 10 ds n = m := by
  induction ds generalizing n with
  | nil =>
    have hn : n < limit := h.resolve_right fun hne => hne rfl
    rw [accumulate?, Option.some.injEq]
    exact ⟨fun he => ⟨nofun, he ▸ hn, he⟩, fun he => he.2.2⟩
  | cons c ds ih =>
    have hstep : Nat.ofDigitChars 10 (c :: ds) n =
        Nat.ofDigitChars 10 ds (n * 10 + digitValue c) := by
      rw [Nat.ofDigitChars_cons, Nat.mul_comm, digitValue]
    rw [accumulate?, hstep]
    by_cases hc : c.isDigit ∧ n * 10 < limit ∧ n * 10 + digitValue c < limit
    · rw [if_pos hc, ih (Or.inl hc.2.2)]
      simp only [AreDigits, List.forall_mem_cons, hc.1, true_and]
    · rw [if_neg hc]
      refine ⟨nofun, ?_⟩
      rintro ⟨hds, hm, rfl⟩
      -- the number that does not fit can only grow
      have hmore := le_ofDigitChars (n * 10 + digitValue c) ds
      exact absurd ⟨hds c List.mem_cons_self, by omega, by omega⟩ hc

theorem boundedNumeral?_eq_some_iff :
    boundedNumeral? limit cs = some n ↔ IsNumeral cs n ∧ n < limit := by
  rw [boundedNumeral?, isNumeral_iff_afterPlus]
  by_cases hnil : afterPlus cs = []
  · rw [if_pos hnil]
    exact ⟨nofun, fun h => absurd hnil h.1.1⟩
  · rw [if_neg hnil, accumulate?_eq_some_iff (Or.inr hnil), ← placeValue_eq_ofDigitChars]
    tauto

/-- **No number on the way has to leave the type**: a number in a range is found as well by
taking in the digits with numbers of the type, and giving up at the first that does not
fit. -/
theorem rangedNumeral?_eq_boundedNumeral? : rangedNumeral? limit low high s =
    (boundedNumeral? limit s.toList).filter fun n => low ≤ n ∧ n ≤ high := by
  ext n
  rw [rangedNumeral?_eq_some_iff, Option.filter_eq_some_iff, boundedNumeral?_eq_some_iff,
    decide_eq_true_eq, and_assoc]

end Switchboard.Text
