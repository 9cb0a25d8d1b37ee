import Switchboard.Json.Token
import Mathlib.Algebra.Order.Ring.Int
import Mathlib.Data.List.TakeDrop
import Switchboard.Proofs.Text.Encoding

/-! # Numerals

A written number has a sign or none, an integer part, a fraction or none and a power
of ten or none: a `Numeral`.  The readers of these parts follow one another without a
look back, so a well-formed numeral is read as the number with its parts
(`Numeral.readNumber_text`), whatever follows it that does not make it longer, and it
is passed over likewise (`Numeral.skipNumber_text`). -/
namespace Switchboard.Json

open Ascii

/-! ## Digits -/

/-- Characters that are decimal digits. -/
def AreDigits (cs : List Char) : Prop := ∀ c ∈ cs, c.isDigit = true

/-- A text that does not make a number before it longer. -/
def EndsNumber (rest : Bytes) : Prop :=
  ∀ b ∈ rest.head?, isDigit b = false ∧ b ≠ point ∧ b ≠ lowerE ∧ b ≠ upperE

variable {cs ds : List Char} {rest : Bytes}

theorem areDigits_toDigits (n : Nat) : AreDigits (Nat.toDigits 10 n) := fun _ hc =>
  Nat.isDigit_of_mem_toDigits (by decide) (by decide) hc

theorem areDigits_zeros (n : Nat) : AreDigits (List.replicate n '0') := by
  intro c hc
  rw [List.eq_of_mem_replicate hc]
  rfl

theorem AreDigits.append (hcs : AreDigits cs) (hds : AreDigits ds) : AreDigits (cs ++ ds) := by
  intro c hc
  rcases List.mem_append.mp hc with hc | hc
  · exact hcs c hc
  · exact hds c hc

/-- A digit is one byte, which has the same number. -/
theorem utf8EncodeChar_digit {c : Char} (hc : c.isDigit = true) :
    ∃ b, String.utf8EncodeChar c = [b] ∧ isDigit b = true ∧ b.toNat = c.toNat := by
  have hrange : 48 ≤ c.toNat ∧ c.toNat ≤ 57 := Char.isDigit_iff_toNat.mp hc
  have hnat : (UInt8.ofNat c.toNat).toNat = c.toNat := by
    rw [UInt8.toNat_ofNat']
    omega
  refine ⟨UInt8.ofNat c.toNat, Bytes.utf8EncodeChar_ascii (by omega), ?_, hnat⟩
  simp only [isDigit, Bool.and_eq_true, decide_eq_true_eq]
  rw [UInt8.le_iff_toNat_le, UInt8.le_iff_toNat_le, hnat]
  exact hrange

theorem isDigit_of_mem_ofChars (hds : AreDigits ds) : ∀ b ∈ Bytes.ofChars ds, isDigit b = true := by
  intro b hb
  obtain ⟨c, hc, hb⟩ := List.mem_flatMap.mp hb
  obtain ⟨d, hd, hdigit, -⟩ := utf8EncodeChar_digit (hds c hc)
  rw [hd, List.mem_singleton] at hb
  exact hb ▸ hdigit

theorem length_ofChars_digits (hds : AreDigits ds) : (Bytes.ofChars ds).length = ds.length := by
  induction ds with
  | nil => rfl
  | cons c ds ih =>
    obtain ⟨b, hb, -⟩ := utf8EncodeChar_digit (hds c List.mem_cons_self)
    rw [Bytes.ofChars_cons, hb, List.length_append, ih fun d hd => hds d (List.mem_cons_of_mem _ hd)]
    simp [Nat.add_comm]

/-- The value of digits is the same in characters and in bytes. -/
theorem decimalValue_ofChars (hds : AreDigits ds) :
    decimalValue (Bytes.ofChars ds) = Nat.ofDigitChars 10 ds 0 := by
  suffices hall : ∀ n, (Bytes.ofChars ds).foldl (fun n d => n * 10 + digitValue d) n =
      Nat.ofDigitChars 10 ds n from hall 0
  induction ds with
  | nil => exact fun _ => rfl
  | cons c ds ih =>
    intro n
    obtain ⟨b, hb, -, hnat⟩ := utf8EncodeChar_digit (hds c List.mem_cons_self)
    have hvalue : digitValue b = c.toNat - '0'.toNat := by
      rw [digitValue, hnat]
      rfl
    rw [Bytes.ofChars_cons, hb, List.singleton_append, List.foldl_cons, hvalue,
      ih fun d hd => hds d (List.mem_cons_of_mem _ hd), Nat.ofDigitChars_cons, Nat.mul_comm]

/-- The digits at the front of a text are those before the first other byte. -/
theorem spanDigits_append (hds : AreDigits ds) (hrest : ∀ b ∈ rest.head?, isDigit b = false) :
    spanDigits (Bytes.ofChars ds ++ rest) = (Bytes.ofChars ds, rest) := by
  have hall := isDigit_of_mem_ofChars hds
  have hstop : rest.takeWhile isDigit = [] ∧ rest.dropWhile isDigit = rest := by
    cases rest with
    | nil => exact ⟨rfl, rfl⟩
    | cons b rest => simp [hrest b rfl]
  rw [spanDigits, List.span_eq_takeWhile_dropWhile, List.takeWhile_append_of_pos hall,
    List.dropWhile_append_of_pos hall, hstop.1, hstop.2, List.append_nil]

theorem readDigits_append (ended other : Fault) (hds : AreDigits ds) (hne : ds ≠ [])
    (hrest : ∀ b ∈ rest.head?, isDigit b = false) :
    readDigits ended other (Bytes.ofChars ds ++ rest) = .ok (Bytes.ofChars ds, rest) := by
  rw [← spanDigits_append hds hrest]
  have hall := isDigit_of_mem_ofChars hds
  have hlength := length_ofChars_digits hds
  cases hbytes : Bytes.ofChars ds with
  | nil =>
    rw [hbytes] at hlength
    exact absurd (List.length_eq_zero_iff.mp hlength.symm) hne
  | cons b bs =>
    rw [hbytes] at hall
    simp [readDigits, hall b List.mem_cons_self]

/-! ## Numerals -/

/-- The parts of a written number. -/
structure Numeral where
  minus : Bool
  whole : List Char
  fraction : Option (List Char)
  power : Option Int

namespace Numeral

/-- A fraction with the point before it. -/
def fractionText : Option (List Char) → List Char
  | none => []
  | some ds => '.' :: ds

/-- A power of ten with its sign. -/
def powerText : Option Int → List Char
  | none => []
  | some k => 'e' :: (if k < 0 then '-' else '+') :: Nat.toDigits 10 k.natAbs

/-- A numeral as it is written. -/
def text (x : Numeral) : List Char :=
  (if x.minus then ['-'] else []) ++ (x.whole ++ (fractionText x.fraction ++ powerText x.power))

/-- What a reader asks of a numeral: an integer part is a zero alone or does not start
with a zero, and neither it nor a fraction is empty. -/
structure WellFormed (x : Numeral) : Prop where
  whole_digits : AreDigits x.whole
  whole_ne_nil : x.whole ≠ []
  whole_zero : x.whole.head? = some '0' → x.whole = ['0']
  fraction_digits : ∀ ds ∈ x.fraction, AreDigits ds ∧ ds ≠ []

/-- The number with the parts of a numeral. -/
def number (x : Numeral) : Except Fault Number :=
  numberOf x.minus (Bytes.ofChars x.whole) (x.fraction.map Bytes.ofChars) x.power

variable {x : Numeral}

theorem readIntegerPart_append {ended : Fault} (hx : x.WellFormed)
    (hrest : ∀ b ∈ rest.head?, isDigit b = false) :
    readIntegerPart ended (Bytes.ofChars x.whole ++ rest) = .ok (Bytes.ofChars x.whole, rest) := by
  unfold readIntegerPart
  rw [readDigits_append _ _ hx.whole_digits hx.whole_ne_nil hrest]
  obtain ⟨c, ds, hcs⟩ := List.exists_cons_of_ne_nil hx.whole_ne_nil
  obtain ⟨b, hb, -, hnat⟩ := utf8EncodeChar_digit (hx.whole_digits c (hcs ▸ List.mem_cons_self))
  by_cases hzero : c = '0'
  · have halone : x.whole = ['0'] := hx.whole_zero (by rw [hcs, hzero]; rfl)
    rw [halone]
    rfl
  · have hbzero : b ≠ zero := fun heq => hzero (Char.toNat_inj.mp (by rw [← hnat, heq]; rfl))
    rw [hcs, Bytes.ofChars_cons, hb, List.singleton_append]
    cases Bytes.ofChars ds with
    | nil => rfl
    | cons d bs => simp [bind, Except.bind, hbzero, pure, Except.pure]

theorem readFraction_append {ended : Fault} {fraction : Option (List Char)}
    (hfraction : ∀ ds ∈ fraction, AreDigits ds ∧ ds ≠ [])
    (hrest : ∀ b ∈ rest.head?, isDigit b = false ∧ b ≠ point) :
    readFraction ended (Bytes.ofChars (fractionText fraction) ++ rest) =
      .ok (fraction.map Bytes.ofChars, rest) := by
  cases fraction with
  | none =>
    cases rest with
    | nil => rfl
    | cons b rest =>
      have hpoint := (hrest b rfl).2
      simp only [fractionText, Bytes.ofChars_nil, List.nil_append, Option.map_none]
      unfold readFraction
      split
      · next heq => exact absurd (List.cons.inj heq).1 hpoint
      · rfl
  | some ds =>
    obtain ⟨hds, hne⟩ := hfraction ds rfl
    have hpoint : Bytes.ofChars (fractionText (some ds)) ++ rest =
        point :: (Bytes.ofChars ds ++ rest) := rfl
    have hread := readDigits_append ended .badNumber hds hne
      fun b hb => (hrest b hb).1
    rw [hpoint]
    show (do
      let ds ← readDigits ended .badNumber (Bytes.ofChars ds ++ rest)
      return (some ds.1, ds.2)) = Except.ok (some (Bytes.ofChars ds), rest)
    rw [hread]
    rfl

theorem readSign_minus (text : Bytes) : readSign (Ascii.minus :: text) = (true, text) := rfl

theorem readSign_plus (text : Bytes) : readSign (plus :: text) = (false, text) := rfl

theorem readPower_append {ended : Fault} {power : Option Int} (hrest : EndsNumber rest) :
    readPower ended (Bytes.ofChars (powerText power) ++ rest) = .ok (power, rest) := by
  have hstop : ∀ b ∈ rest.head?, isDigit b = false := fun b hb => (hrest b hb).1
  cases power with
  | none =>
    cases rest with
    | nil => rfl
    | cons b rest =>
      obtain ⟨-, -, hlower, hupper⟩ := hrest b rfl
      simp [powerText, readPower, hlower, hupper]
  | some k =>
    have hread := readDigits_append ended .badNumber
      (areDigits_toDigits k.natAbs) Nat.toDigits_ne_nil hstop
    have hvalue : decimalValue (Bytes.ofChars (Nat.toDigits 10 k.natAbs)) = k.natAbs := by
      rw [decimalValue_ofChars (areDigits_toDigits _), Nat.ofDigitChars_ten_toDigits]
    by_cases hk : k < 0
    · have hminus : Bytes.ofChars (powerText (some k)) ++ rest =
          lowerE :: Ascii.minus :: (Bytes.ofChars (Nat.toDigits 10 k.natAbs) ++ rest) := by
        rw [powerText, if_pos hk]
        rfl
      have hback : -|k| = k := by rw [abs_of_neg hk, neg_neg]
      simp [hminus, readPower, readSign_minus, hread, bind, Except.bind, pure, Except.pure, hvalue, hback]
    · have hplus : Bytes.ofChars (powerText (some k)) ++ rest =
          lowerE :: plus :: (Bytes.ofChars (Nat.toDigits 10 k.natAbs) ++ rest) := by
        rw [powerText, if_neg hk]
        rfl
      have hback : |k| = k := abs_of_nonneg (not_lt.mp hk)
      simp [hplus, readPower, readSign_plus, hread, bind, Except.bind, pure, Except.pure, hvalue, hback]

/-- What comes after a fraction ends it. -/
theorem powerText_ends (power : Option Int) (hrest : EndsNumber rest) :
    ∀ b ∈ (Bytes.ofChars (powerText power) ++ rest).head?, isDigit b = false ∧ b ≠ point := by
  cases power with
  | none => exact fun b hb => ⟨(hrest b hb).1, (hrest b hb).2.1⟩
  | some k =>
    intro b hb
    obtain rfl : lowerE = b := Option.some.inj hb
    decide

/-- What comes after an integer part ends it. -/
theorem fractionText_ends (fraction : Option (List Char))
    (hrest : ∀ b ∈ rest.head?, isDigit b = false) :
    ∀ b ∈ (Bytes.ofChars (fractionText fraction) ++ rest).head?, isDigit b = false := by
  cases fraction with
  | none => exact hrest
  | some ds =>
    intro b hb
    obtain rfl : point = b := Option.some.inj hb
    rfl

/-- A numeral after its sign starts with a digit, and so not with another sign. -/
theorem whole_append_ne_minus (hx : x.WellFormed) (rest' text : Bytes) :
    Bytes.ofChars x.whole ++ rest' ≠ Ascii.minus :: text := by
  obtain ⟨c, ds, hcs⟩ := List.exists_cons_of_ne_nil hx.whole_ne_nil
  obtain ⟨b, hb, hdigit, -⟩ := utf8EncodeChar_digit (hx.whole_digits c (hcs ▸ List.mem_cons_self))
  rw [hcs, Bytes.ofChars_cons, hb]
  intro heq
  rw [(List.cons.inj heq).1] at hdigit
  exact absurd hdigit (by decide)

/-- A number after its sign. -/
def readUnsigned (minus : Bool) : Reader Number := fun text => do
  let (whole, text) ← readIntegerPart .valueEnds text
  let (fraction, text) ← readFraction .valueEnds text
  let (power, text) ← readPower .valueEnds text
  let n ← numberOf minus whole fraction power
  return (n, text)

/-- A number that is passed over, after its sign. -/
def skipUnsigned (text : Bytes) : Except Fault Bytes := do
  let (_, text) ← readIntegerPart .badNumber text
  let (_, text) ← readFraction .badNumber text
  let (_, text) ← readPower .badNumber text
  return text

theorem readNumber_unsigned {text : Bytes} (h : ∀ rest, text ≠ Ascii.minus :: rest) :
    readNumber text = readUnsigned false text := by
  unfold readNumber
  split
  next heq =>
  split at heq
  · exact absurd rfl (h _)
  · cases heq
    rfl

theorem skipNumber_unsigned {text : Bytes} (h : ∀ rest, text ≠ Ascii.minus :: rest) :
    skipNumber text = skipUnsigned text := by
  unfold skipNumber
  split
  · exact absurd rfl (h _)
  · rfl

/-- The bytes of a numeral, part by part. -/
theorem ofChars_text (x : Numeral) (rest : Bytes) :
    Bytes.ofChars x.text ++ rest =
      (if x.minus then [Ascii.minus] else []) ++ (Bytes.ofChars x.whole ++
        (Bytes.ofChars (fractionText x.fraction) ++ (Bytes.ofChars (powerText x.power) ++ rest))) := by
  have hsign : Bytes.ofChars (if x.minus then ['-'] else []) =
      if x.minus then [Ascii.minus] else [] := by
    cases x.minus <;> rfl
  simp only [text, Bytes.ofChars_append, hsign, List.append_assoc]

/-- **A numeral is read as the number with its parts.** -/
theorem readNumber_text (hx : x.WellFormed) (hrest : EndsNumber rest) :
    readNumber (Bytes.ofChars x.text ++ rest) = x.number.map (·, rest) := by
  have hpower := powerText_ends x.power hrest
  have hfraction := fractionText_ends x.fraction fun b hb => (hpower b hb).1
  have hunsigned : ∀ minus, readUnsigned minus (Bytes.ofChars x.whole ++
      (Bytes.ofChars (fractionText x.fraction) ++ (Bytes.ofChars (powerText x.power) ++ rest))) =
      (numberOf minus (Bytes.ofChars x.whole) (x.fraction.map Bytes.ofChars) x.power).map
        (·, rest) := by
    intro minus
    unfold readUnsigned
    rw [readIntegerPart_append hx hfraction]
    simp only [bind, Except.bind]
    rw [readFraction_append hx.fraction_digits hpower]
    simp only
    rw [readPower_append hrest]
    rfl
  rw [ofChars_text, number]
  cases hminus : x.minus with
  | false =>
    rw [if_neg Bool.false_ne_true, List.nil_append,
      readNumber_unsigned (whole_append_ne_minus hx _), hunsigned]
  | true => exact hunsigned true

/-- A numeral is passed over, whatever its number. -/
theorem skipNumber_text (hx : x.WellFormed) (hrest : EndsNumber rest) :
    skipNumber (Bytes.ofChars x.text ++ rest) = .ok rest := by
  have hpower := powerText_ends x.power hrest
  have hfraction := fractionText_ends x.fraction fun b hb => (hpower b hb).1
  have hunsigned : skipUnsigned (Bytes.ofChars x.whole ++
      (Bytes.ofChars (fractionText x.fraction) ++ (Bytes.ofChars (powerText x.power) ++ rest))) =
      .ok rest := by
    unfold skipUnsigned
    rw [readIntegerPart_append hx hfraction]
    simp only [bind, Except.bind]
    rw [readFraction_append hx.fraction_digits hpower]
    simp only
    rw [readPower_append hrest]
    rfl
  rw [ofChars_text]
  cases hminus : x.minus with
  | false =>
    rw [if_neg Bool.false_ne_true, List.nil_append,
      skipNumber_unsigned (whole_append_ne_minus hx _), hunsigned]
  | true => exact hunsigned

end Numeral

end Switchboard.Json
