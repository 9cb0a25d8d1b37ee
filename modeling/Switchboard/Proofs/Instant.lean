import Switchboard.Instant.Reader
import Switchboard.Instant.Writer
import Switchboard.Proofs.Text.Numeral

/-! # Instants that are written are read back

The reader takes many spellings and the writer makes one.  In that one every number
ends before a mark that is no digit, so each part is read back by itself
(`readPart_digits`, `readYear_yearText`, `readFraction_fractionText`), and a clock set
to UTC reads what the instant says; so the instant comes back, whatever its year, with
its nanoseconds and its leap second (`read_text`). -/
namespace Switchboard.Instant

open Json (AreDigits areDigits_toDigits areDigits_zeros)
open Text

variable {width n low high : Nat} {ds rest : List Char}

/-! ## Numbers -/

theorem areDigits_digits (width n : Nat) : AreDigits (digits width n) :=
  (areDigits_zeros _).append (areDigits_toDigits n)

theorem digits_ne_nil (width n : Nat) : digits width n ≠ [] :=
  List.append_ne_nil_of_right_ne_nil _ Nat.toDigits_ne_nil

/-- A number that fits has as many digits as are asked for. -/
theorem length_digits (hwidth : 0 < width) (hn : n < 10 ^ width) :
    (digits width n).length = width := by
  have hfits : (Nat.toDigits 10 n).length ≤ width :=
    (Nat.length_toDigits_le_iff (by decide) hwidth).mpr hn
  rw [digits, List.length_append, List.length_replicate]
  omega

theorem valueOf_digits (width n : Nat) : valueOf (digits width n) = n := by
  rw [valueOf, Text.foldl_eq_placeValue, digits, Text.placeValue_zeros_append_toDigits]

/-- A number is read up to the first character that is no digit. -/
theorem readNumber_append {most : Option Nat} (hds : AreDigits ds) (hne : ds ≠ [])
    (hmost : ∀ k ∈ most, ds.length ≤ k) (hrest : ∀ c ∈ rest.head?, c.isDigit = false) :
    readNumber most (ds ++ rest) = .ok (valueOf ds, rest) := by
  have hall : (ds ++ rest).takeWhile Char.isDigit = ds := by
    have hstop : rest.takeWhile Char.isDigit = [] := by
      cases rest with
      | nil => rfl
      | cons c rest => simp [hrest c rfl]
    rw [List.takeWhile_append_of_pos hds, hstop, List.append_nil]
  obtain ⟨c, cs, rfl⟩ := List.exists_cons_of_ne_nil hne
  have hc : c.isDigit = true := hds c List.mem_cons_self
  rw [List.cons_append] at hall ⊢
  simp only [readNumber, hc, if_true, hall]
  cases most with
  | none => simp
  | some k => simp [List.take_of_length_le (hmost k rfl)]

/-- No digit is blank. -/
theorem trimFront_digits (hds : AreDigits ds) (hne : ds ≠ []) :
    trimFront (ds ++ rest) = ds ++ rest := by
  obtain ⟨c, cs, rfl⟩ := List.exists_cons_of_ne_nil hne
  have hrange : 48 ≤ c.toNat ∧ c.toNat ≤ 57 :=
    Char.isDigit_iff_toNat.mp (hds c List.mem_cons_self)
  have hblank : isBlank c = false := by
    simp only [isBlank, Bool.or_eq_false_iff, Bool.and_eq_false_iff, decide_eq_false_iff_not,
      beq_eq_false_iff_ne]
    omega
  rw [List.cons_append, trimFront, List.dropWhile_cons, hblank]
  rfl

/-! ## Parts -/

/-- A part of two digits is read back if it is in its range. -/
theorem readPart_digits (hlow : low ≤ n) (hhigh : n ≤ high) (hn : n < 100)
    (hrest : ∀ c ∈ rest.head?, c.isDigit = false) :
    readPart low high (digits 2 n ++ rest) = .ok (n, rest) := by
  have hds := areDigits_digits 2 n
  have hne := digits_ne_nil 2 n
  have hlength : ∀ k ∈ some 2, (digits 2 n).length ≤ k := by
    intro k hk
    obtain rfl : 2 = k := Option.some.inj hk
    exact (length_digits (by decide) hn).le
  unfold readPart
  rw [trimFront_digits hds hne, readNumber_append hds hne hlength hrest, valueOf_digits]
  simp [bind, Except.bind, pure, Except.pure, hlow, hhigh]

/-- What a text of digits starts with is no sign. -/
theorem readYear_digits (hn : n < 10000) (hrest : ∀ c ∈ rest.head?, c.isDigit = false) :
    readYear (digits 4 n ++ rest) = .ok ((n : Int), rest) := by
  have hds := areDigits_digits 4 n
  have hne := digits_ne_nil 4 n
  have hlength : ∀ k ∈ some 4, (digits 4 n).length ≤ k := by
    intro k hk
    obtain rfl : 4 = k := Option.some.inj hk
    exact (length_digits (by decide) hn).le
  have hread := readNumber_append hds hne hlength hrest
  rw [valueOf_digits] at hread
  have hyear : -yearLimit ≤ (n : Int) ∧ (n : Int) < yearLimit := by
    unfold yearLimit
    omega
  unfold readYear
  rw [trimFront_digits hds hne]
  obtain ⟨c, cs, hcs⟩ := List.exists_cons_of_ne_nil hne
  have hc : c.isDigit = true := hds c (hcs ▸ List.mem_cons_self)
  rw [hcs, List.cons_append] at hread ⊢
  split
  · next heq =>
    obtain ⟨rfl, -⟩ := List.cons.inj heq
    exact absurd hc (by decide)
  · next heq =>
    obtain ⟨rfl, -⟩ := List.cons.inj heq
    exact absurd hc (by decide)
  · simp [hread, hyear, bind, Except.bind, pure, Except.pure]

/-- **A year is read back**, with a sign or without. -/
theorem readYear_yearText {year : Int} (hyear : -yearLimit ≤ year ∧ year < yearLimit)
    (hrest : ∀ c ∈ rest.head?, c.isDigit = false) :
    readYear (yearText year ++ rest) = .ok (year, rest) := by
  by_cases hplain : 0 ≤ year ∧ year ≤ 9999
  · have hnat : (year.toNat : Int) = year := Int.toNat_of_nonneg hplain.1
    rw [yearText, if_pos hplain, readYear_digits (by omega) hrest, hnat]
  have hlength : ∀ k ∈ (none : Option Nat), (digits 4 year.natAbs).length ≤ k := by
    intro k hk
    cases hk
  have hread : readNumber none (digits 4 year.natAbs ++ rest) = .ok (year.natAbs, rest) := by
    rw [readNumber_append (areDigits_digits 4 _) (digits_ne_nil 4 _) hlength hrest, valueOf_digits]
  rw [yearText, if_neg hplain, List.cons_append]
  unfold readYear
  by_cases hsign : year < 0
  · have hvalue : -(year.natAbs : Int) = year := by omega
    have hfront : ∀ cs, trimFront ('-' :: cs) = '-' :: cs := fun _ => rfl
    simp only [hsign, if_true, hfront, hread, hvalue, hyear, bind, Except.bind, pure, Except.pure,
      and_self]
  · have hvalue : (year.natAbs : Int) = year := by omega
    have hfront : ∀ cs, trimFront ('+' :: cs) = '+' :: cs := fun _ => rfl
    simp only [hsign, if_false, if_true, hfront, hread, hvalue, hyear, bind, Except.bind, pure,
      Except.pure, and_self]

/-- So many digits of a fraction count for the rest of nine. -/
theorem readFraction_digits (hwidth : 0 < width) (hmost : width ≤ 9) (hn : n < 10 ^ width) :
    readFraction ('.' :: digits width n ++ ['Z']) = .ok (n * 10 ^ (9 - width), ['Z']) := by
  have hlength := length_digits hwidth hn
  have hread : readNumber (some 9) (digits width n ++ ['Z']) = .ok (n, ['Z']) := by
    rw [readNumber_append (areDigits_digits width n) (digits_ne_nil width n), valueOf_digits]
    · intro k hk
      obtain rfl : 9 = k := Option.some.inj hk
      omega
    · intro c hc
      obtain rfl : 'Z' = c := Option.some.inj hc
      rfl
  have hplaces : (digits width n ++ ['Z']).length - ['Z'].length = width := by
    rw [List.length_append, hlength]
    rfl
  rw [List.cons_append, readFraction, hread]
  simp only [bind, Except.bind, pure, Except.pure, hplaces]
  rfl

/-- **A fraction is read back**, however many of its digits are left out. -/
theorem readFraction_fractionText {nanosecond : Nat} (h : nanosecond < 1000000000) :
    readFraction (fractionText nanosecond ++ ['Z']) = .ok (nanosecond, ['Z']) := by
  unfold fractionText
  split
  · next hzero =>
    rw [hzero]
    rfl
  split
  · rw [readFraction_digits (by decide) (by decide) (by omega)]
    congr 2
    omega
  split
  · rw [readFraction_digits (by decide) (by decide) (by omega)]
    congr 2
    omega
  · rw [readFraction_digits (by decide) (by decide) (by omega)]
    congr 2
    omega

/-! ## Instants -/

/-- A clock that is set to UTC reads an instant. -/
theorem atOffset?_zero (i : Instant) : atOffset? i.date i.time 0 = some i := by
  obtain ⟨date, ⟨⟨hour, hhour⟩, ⟨minute, hminute⟩, second, nanosecond⟩⟩ := i
  have hlow : ¬ ((hour : Int) * 60 + minute - 0 < 0) := by omega
  have hhigh : ¬ (1440 ≤ (hour : Int) * 60 + minute - 0) := by omega
  have hnat : ((hour : Int) * 60 + minute - 0).toNat = hour * 60 + minute := by omega
  have hset : setMinutes ⟨⟨hour, hhour⟩, ⟨minute, hminute⟩, second, nanosecond⟩
      (hour * 60 + minute) = ⟨⟨hour, hhour⟩, ⟨minute, hminute⟩, second, nanosecond⟩ := by
    simp only [setMinutes, TimeOfDay.mk.injEq, Fin.mk.injEq, and_true]
    omega
  simp only [atOffset?, hlow, hhigh, if_false, hnat, hset]

theorem ofParts_utc (i : Instant) :
    ofParts i.date.year i.date.month i.date.day i.time.hour i.time.minute i.time.second
      i.time.nanosecond 0 = .ok i := by
  have hdate : Date.ofParts? i.date.year i.date.month i.date.day = some i.date :=
    dif_pos i.date.isDate
  have htime : i.time.hour.val < 24 ∧ i.time.minute.val < 60 ∧ i.time.second.val < 61 ∧
      i.time.nanosecond.val < 1000000000 :=
    ⟨i.time.hour.isLt, i.time.minute.isLt, i.time.second.isLt, i.time.nanosecond.isLt⟩
  have hinstant := atOffset?_zero i
  unfold ofParts
  simp only [hdate, htime, and_self, dite_true, Int.natAbs_zero, Fin.eta]
  rw [if_pos (by decide)]
  simp only [hinstant]
  rfl

theorem daysInMonth_le (year : Int) (month : Nat) : daysInMonth year month ≤ 31 := by
  unfold daysInMonth
  repeat' split
  all_goals decide

/-- **An instant is read back from its text.** -/
theorem read_text (i : Instant) : read i.text = .ok i := by
  obtain ⟨⟨hyearLow, hyearHigh⟩, ⟨hmonthLow, hmonthHigh⟩, hdayLow, hday⟩ := i.date.isDate
  have hdayHigh := hday.trans (daysInMonth_le i.date.year i.date.month)
  have hhour := i.time.hour.isLt
  have hminute := i.time.minute.isLt
  have hsecond := i.time.second.isLt
  have hyear : -yearLimit ≤ i.date.year ∧ i.date.year < yearLimit := by
    unfold yearLimit
    omega
  -- Every part ends before a mark, and no mark is a digit.
  have hstop : ∀ {mark : Char} {cs : List Char}, mark.isDigit = false →
      ∀ c ∈ (mark :: cs).head?, c.isDigit = false := by
    intro mark cs hmark c hc
    exact (Option.some.inj hc) ▸ hmark
  have hreadYear : ∀ cs, readYear (yearText i.date.year ++ '-' :: cs) =
      .ok (i.date.year, '-' :: cs) :=
    fun _ => readYear_yearText hyear (hstop rfl)
  have hreadMonth : ∀ cs, readPart 1 12 (digits 2 i.date.month ++ '-' :: cs) =
      .ok (i.date.month, '-' :: cs) :=
    fun _ => readPart_digits hmonthLow hmonthHigh (by omega) (hstop rfl)
  have hreadDay : ∀ cs, readPart 1 31 (digits 2 i.date.day ++ 'T' :: cs) =
      .ok (i.date.day, 'T' :: cs) :=
    fun _ => readPart_digits hdayLow hdayHigh (by omega) (hstop rfl)
  have hreadHour : ∀ cs, readPart 0 23 (digits 2 i.time.hour.val ++ ':' :: cs) =
      .ok (i.time.hour.val, ':' :: cs) :=
    fun _ => readPart_digits (Nat.zero_le _) (by omega) (by omega) (hstop rfl)
  have hreadMinute : ∀ cs, readPart 0 59 (digits 2 i.time.minute.val ++ ':' :: cs) =
      .ok (i.time.minute.val, ':' :: cs) :=
    fun _ => readPart_digits (Nat.zero_le _) (by omega) (by omega) (hstop rfl)
  have hfraction : ∀ c ∈ (fractionText i.time.nanosecond.val ++ ['Z']).head?,
      c.isDigit = false := by
    unfold fractionText
    repeat' split
    all_goals exact hstop rfl
  have hreadSecond : readPart 0 60 (digits 2 i.time.second.val ++
      (fractionText i.time.nanosecond.val ++ ['Z'])) =
        .ok (i.time.second.val, fractionText i.time.nanosecond.val ++ ['Z']) :=
    readPart_digits (Nat.zero_le _) (by omega) (by omega) hfraction
  have hdash : ∀ cs, readMark '-' ('-' :: cs) = .ok cs := fun _ => rfl
  have hcolon : ∀ cs, readMark ':' (':' :: cs) = .ok cs := fun _ => rfl
  have hbetween : ∀ cs, readBetween ('T' :: cs) = .ok cs := fun _ => rfl
  have hzone : readOffset (trimFront ['Z']) = .ok (0, []) := rfl
  unfold read text
  rw [String.toList_ofList]
  simp only [List.append_assoc, List.cons_append, hreadYear, hdash, hreadMonth, hreadDay,
    hbetween, hreadHour, hcolon, hreadMinute, hreadSecond,
    readFraction_fractionText i.time.nanosecond.isLt, hzone, bind, Except.bind]
  exact ofParts_utc i

end Switchboard.Instant
