import Switchboard.Proofs.Double.Shortest
import Switchboard.Proofs.Json.Numerals

/-! # Numbers that are written are read back

Every number is written as a numeral of it (`spells_text`): an integer as its digits,
and a binary64 number as the digits of its shortest decimal, with the point before
them, behind them, among them, or after the first one and a power of ten.  As such a
decimal reads back, so does what is written (`readNumber_written`). -/
namespace Switchboard.Json

open Ascii

/-- Only zero is written with a zero as its first digit. -/
theorem eq_zero_of_toDigits_head {n : Nat} (h : (Nat.toDigits 10 n).head? = some '0') : n = 0 := by
  induction n using Nat.strong_induction_on with
  | _ n ih =>
    rw [Nat.toDigits_eq_if (by decide)] at h
    split at h
    · exact Nat.digitChar_eq_zero.mp (Option.some.inj h)
    · next hlarge =>
      rw [List.head?_append_of_ne_nil _ Nat.toDigits_ne_nil] at h
      have hsmaller := ih (n / 10) (by omega) h
      omega

/-- The digits of an integer are a well-formed integer part. -/
theorem wellFormed_integer (minus : Bool) (n : Nat) :
    Numeral.WellFormed ⟨minus, Nat.toDigits 10 n, none, none⟩ where
  whole_digits := areDigits_toDigits n
  whole_ne_nil := Nat.toDigits_ne_nil
  whole_zero h := by
    rw [eq_zero_of_toDigits_head h]
    rfl
  fraction_digits := nofun

/-- A numeral with a fraction or a power of ten is read as the binary64 number that is
nearest to it. -/
theorem Numeral.number_eq_double {x : Numeral} {m : Fin Double.limit} (hx : x.WellFormed)
    (hpoint : x.fraction ≠ none ∨ x.power ≠ none)
    (hnearest : Double.nearestDecimal? (Nat.ofDigitChars 10 (x.whole ++ x.fraction.getD []) 0)
      (x.power.getD 0 - (x.fraction.getD []).length) = some m) :
    x.number = .ok (.double ⟨x.minus, m⟩) := by
  have hplaces : AreDigits (x.fraction.getD []) := by
    cases hfraction : x.fraction with
    | none => exact fun _ hc => nomatch hc
    | some ds => exact (hx.fraction_digits ds hfraction).1
  have hbytes : (x.fraction.map Bytes.ofChars).getD [] = Bytes.ofChars (x.fraction.getD []) := by
    cases x.fraction <;> rfl
  have hnearest' : Double.nearestDecimal?
      (decimalValue (Bytes.ofChars x.whole ++ (x.fraction.map Bytes.ofChars).getD []))
      (x.power.getD 0 - ((x.fraction.map Bytes.ofChars).getD []).length) = some m := by
    rw [hbytes, ← Bytes.ofChars_append, decimalValue_ofChars (hx.whole_digits.append hplaces),
      length_ofChars_digits hplaces, hnearest]
  obtain ⟨minus, whole, fraction, power⟩ := x
  cases fraction with
  | none =>
    cases power with
    | none => simp at hpoint
    | some k => simp only [number, numberOf, Option.map_none] at hnearest' ⊢; rw [hnearest']
  | some ds => simp only [number, numberOf, Option.map_some] at hnearest' ⊢; rw [hnearest']

/-- Characters that are a numeral of a number. -/
def Spells (cs : List Char) (v : Number) : Prop :=
  ∃ x : Numeral, x.WellFormed ∧ x.text = cs ∧ x.number = .ok v

/-- An integer is spelled by its digits. -/
theorem spells_integer (minus : Bool) {n : Nat} {v : Number}
    (h : Number.ofInteger? minus n = some v) :
    Spells ((if minus then ['-'] else []) ++ Nat.toDigits 10 n) v := by
  refine ⟨⟨minus, Nat.toDigits 10 n, none, none⟩, wellFormed_integer minus n, ?_, ?_⟩
  · simp [Numeral.text, Numeral.fractionText, Numeral.powerText]
  · have hvalue : decimalValue (Bytes.ofChars (Nat.toDigits 10 n)) = n := by
      rw [decimalValue_ofChars (areDigits_toDigits n), Nat.ofDigitChars_ten_toDigits]
    simp [Numeral.number, numberOf, hvalue, h]

/-! The digits of a decimal, with the point where it belongs. -/

section Layouts

variable {n : Nat} {e : Int} {x : Double}

/-- The place of the first digit of a decimal, as a power of ten. -/
def leadOf (n : Nat) (e : Int) : Int := e + (Nat.toDigits 10 n).length - 1

theorem signText_eq (x : Double) : Double.signText x = if x.negative then ['-'] else [] := rfl

/-- With the point before the digits. -/
theorem spells_belowOne (hback : Double.nearestDecimal? n e = some x.magnitude)
    (hlead : leadOf n e < 0) :
    Spells (Double.signText x ++ Double.positional ['.', '0'] (Nat.toDigits 10 n) (leadOf n e))
      (.double x) := by
  have hzeros : AreDigits (List.replicate (-leadOf n e - 1).toNat '0' ++ Nat.toDigits 10 n) :=
    (areDigits_zeros _).append (areDigits_toDigits n)
  have hwell : Numeral.WellFormed ⟨x.negative, ['0'],
      some (List.replicate (-leadOf n e - 1).toNat '0' ++ Nat.toDigits 10 n), none⟩ :=
    { whole_digits := areDigits_zeros 1
      whole_ne_nil := List.cons_ne_nil _ _
      whole_zero := fun _ => rfl
      fraction_digits := by
        rintro ds ⟨⟩
        exact ⟨hzeros, List.append_ne_nil_of_right_ne_nil _ Nat.toDigits_ne_nil⟩ }
  refine ⟨_, hwell, ?_, Numeral.number_eq_double hwell (Or.inl (Option.some_ne_none _)) ?_⟩
  · simp [Numeral.text, Numeral.fractionText, Numeral.powerText, Double.positional, hlead,
      signText_eq]
  · have hvalue : Nat.ofDigitChars 10
        (['0'] ++ (List.replicate (-leadOf n e - 1).toNat '0' ++ Nat.toDigits 10 n)) 0 = n := by
      rw [Nat.ofDigitChars_append, Nat.ofDigitChars_append, Nat.ofDigitChars_replicate_zero]
      exact Nat.ofDigitChars_ten_toDigits
    have hplaces : (0 : Int) - ((List.replicate (-leadOf n e - 1).toNat '0' ++
        Nat.toDigits 10 n).length : Nat) = e := by
      rw [List.length_append, List.length_replicate]
      unfold leadOf at *
      omega
    rw [← hback]
    exact congrArg₂ _ hvalue hplaces

/-- With the point behind the digits, and a zero after it. -/
theorem spells_whole (hback : Double.nearestDecimal? n e = some x.magnitude)
    (hzero : n = 0 → e = 0) (hlead : ¬ leadOf n e < 0)
    (hlength : (Nat.toDigits 10 n).length ≤ (leadOf n e).toNat + 1) :
    Spells (Double.signText x ++ Double.positional ['.', '0'] (Nat.toDigits 10 n) (leadOf n e))
      (.double x) := by
  -- The zeros that fill up to the units.
  obtain ⟨k, hk⟩ : ∃ k, (leadOf n e).toNat + 1 = (Nat.toDigits 10 n).length + k :=
    Nat.exists_eq_add_of_le hlength
  have hfill : (leadOf n e).toNat + 1 - (Nat.toDigits 10 n).length = k := by omega
  have hexp : e = k := by
    unfold leadOf at *
    omega
  have hwell : Numeral.WellFormed ⟨x.negative, Nat.toDigits 10 n ++ List.replicate k '0',
      some ['0'], none⟩ :=
    { whole_digits := (areDigits_toDigits n).append (areDigits_zeros k)
      whole_ne_nil := List.append_ne_nil_of_left_ne_nil Nat.toDigits_ne_nil _
      whole_zero := by
        intro hhead
        rw [List.head?_append_of_ne_nil _ Nat.toDigits_ne_nil] at hhead
        obtain rfl : n = 0 := eq_zero_of_toDigits_head hhead
        obtain rfl : k = 0 := by
          have he := hzero rfl
          omega
        rfl
      fraction_digits := by
        rintro ds ⟨⟩
        exact ⟨areDigits_zeros 1, List.cons_ne_nil _ _⟩ }
  refine ⟨_, hwell, ?_, Numeral.number_eq_double hwell (Or.inl (Option.some_ne_none _)) ?_⟩
  · simp [Numeral.text, Numeral.fractionText, Numeral.powerText, Double.positional, hlead, hlength,
      hfill, signText_eq]
  · have hvalue : Nat.ofDigitChars 10 (Nat.toDigits 10 n ++ List.replicate k '0' ++ ['0']) 0 =
        n * 10 ^ (k + 1) := by
      have hzeros : List.replicate k '0' ++ ['0'] = List.replicate (k + 1) '0' :=
        List.replicate_succ'.symm
      rw [List.append_assoc, hzeros, Nat.ofDigitChars_append, Nat.ofDigitChars_ten_toDigits,
        Nat.ofDigitChars_replicate_zero, Nat.mul_comm]
    have hplaces : (-1 : Int) + ((k + 1 : Nat) : Int) = e := by omega
    rw [← hback, ← hplaces, ← Double.nearestDecimal?_mul_pow]
    exact congrArg₂ _ hvalue rfl

/-- With the point among the digits. -/
theorem spells_mixed (hback : Double.nearestDecimal? n e = some x.magnitude)
    (hzero : n = 0 → e = 0) (hlead : ¬ leadOf n e < 0)
    (hlength : ¬ (Nat.toDigits 10 n).length ≤ (leadOf n e).toNat + 1) :
    Spells (Double.signText x ++ Double.positional ['.', '0'] (Nat.toDigits 10 n) (leadOf n e))
      (.double x) := by
  have hdigits := areDigits_toDigits n
  have hwell : Numeral.WellFormed ⟨x.negative, (Nat.toDigits 10 n).take ((leadOf n e).toNat + 1),
      some ((Nat.toDigits 10 n).drop ((leadOf n e).toNat + 1)), none⟩ :=
    { whole_digits := fun c hc => hdigits c (List.mem_of_mem_take hc)
      whole_ne_nil := by
        rw [Ne, List.take_eq_nil_iff]
        exact not_or.mpr ⟨Nat.succ_ne_zero _, Nat.toDigits_ne_nil⟩
      whole_zero := by
        intro hhead
        rw [List.head?_take, if_neg (Nat.succ_ne_zero _)] at hhead
        obtain rfl : n = 0 := eq_zero_of_toDigits_head hhead
        exact absurd (Nat.le_add_left 1 _) hlength
      fraction_digits := by
        rintro ds ⟨⟩
        refine ⟨fun c hc => hdigits c (List.mem_of_mem_drop hc), ?_⟩
        rw [Ne, List.drop_eq_nil_iff]
        exact hlength }
  refine ⟨_, hwell, ?_, Numeral.number_eq_double hwell (Or.inl (Option.some_ne_none _)) ?_⟩
  · simp [Numeral.text, Numeral.fractionText, Numeral.powerText, Double.positional, hlead, hlength,
      signText_eq]
  · have hvalue : Nat.ofDigitChars 10 ((Nat.toDigits 10 n).take ((leadOf n e).toNat + 1) ++
        (Nat.toDigits 10 n).drop ((leadOf n e).toNat + 1)) 0 = n := by
      rw [List.take_append_drop, Nat.ofDigitChars_ten_toDigits]
    have hplaces : (0 : Int) - (((Nat.toDigits 10 n).drop ((leadOf n e).toNat + 1)).length : Nat) =
        e := by
      rw [List.length_drop]
      unfold leadOf at *
      omega
    rw [← hback]
    exact congrArg₂ _ hvalue hplaces

/-- With the point after the first digit, and a power of ten. -/
theorem spells_scientific (hback : Double.nearestDecimal? n e = some x.magnitude) :
    Spells (Double.signText x ++ Double.scientific (Nat.toDigits 10 n) (leadOf n e))
      (.double x) := by
  have hdigits := areDigits_toDigits n
  obtain ⟨c, ds, hcs⟩ := List.exists_cons_of_ne_nil (Nat.toDigits_ne_nil (n := n) (b := 10))
  have hvalue : Nat.ofDigitChars 10 (c :: ds) 0 = n := by
    rw [← hcs, Nat.ofDigitChars_ten_toDigits]
  have hplaces : leadOf n e - (ds.length : Nat) = e := by
    unfold leadOf
    rw [hcs, List.length_cons]
    omega
  rw [hcs] at hdigits ⊢
  -- The digits after the first one are the fraction, if there are any.
  have hwell : Numeral.WellFormed ⟨x.negative, [c], if ds = [] then none else some ds,
      some (leadOf n e)⟩ :=
    { whole_digits := fun d hd => hdigits d (List.mem_singleton.mp hd ▸ List.mem_cons_self)
      whole_ne_nil := List.cons_ne_nil _ _
      whole_zero := fun hhead => congrArg (· :: []) (Option.some.inj hhead)
      fraction_digits := by
        intro fraction hfraction
        split at hfraction
        · cases hfraction
        · next hne =>
          cases hfraction
          exact ⟨fun d hd => hdigits d (List.mem_cons_of_mem _ hd), hne⟩ }
  refine ⟨_, hwell, ?_, Numeral.number_eq_double hwell (Or.inr (Option.some_ne_none _)) ?_⟩
  · cases ds <;>
      simp [Numeral.text, Numeral.fractionText, Numeral.powerText, Double.scientific, signText_eq]
  · have hrest : (if ds = [] then none else some ds).getD [] = ds := by
      split
      · next hnil => exact hnil.symm
      · rfl
    rw [← hback]
    refine congrArg₂ _ ?_ ?_
    · rw [hrest]
      exact hvalue
    · rw [hrest]
      exact hplaces

end Layouts

/-- **Every number is written as a numeral of it.** -/
theorem spells_text (v : Number) : Spells v.text.toList v := by
  cases v with
  | natural n =>
    have htext : (Number.natural n).text.toList = Nat.toDigits 10 n.toNat := by
      rw [Number.text, Nat.toString_eq_ofList_toDigits, String.toList_ofList]
    rw [htext]
    refine spells_integer false ?_
    have hlt : n.toNat < UInt64.size := n.toNat_lt
    simp [Number.ofInteger?, hlt]
  | negative below =>
    have htext : (Number.negative below).text.toList = '-' :: Nat.toDigits 10 (below.val + 1) := by
      rw [Number.text, Nat.toString_eq_ofList_toDigits, String.toList_append, String.toList_ofList,
        String.toList_ofList, List.singleton_append]
    rw [htext]
    refine spells_integer true ?_
    have hle : below.val + 1 ≤ negativeLimit := below.isLt
    simp [Number.ofInteger?, Number.ofNegated?, hle]
  | double x =>
    obtain ⟨n, e, hdigits, hback, hzero⟩ := Double.leadingDigits_readsBack x.magnitude
    have htext : (Number.double x).text.toList = Double.signText x ++
        if -5 ≤ leadOf n e ∧ leadOf n e ≤ 15 then
          Double.positional ['.', '0'] (Nat.toDigits 10 n) (leadOf n e)
        else Double.scientific (Nat.toDigits 10 n) (leadOf n e) := by
      rw [Number.text, Number.doubleText, hdigits, String.toList_ofList]
      rfl
    rw [htext]
    split
    · by_cases hlead : leadOf n e < 0
      · exact spells_belowOne hback hlead
      by_cases hlength : (Nat.toDigits 10 n).length ≤ (leadOf n e).toNat + 1
      · exact spells_whole hback hzero hlead hlength
      · exact spells_mixed hback hzero hlead hlength
    · exact spells_scientific hback

/-- **A written number is read back**, whatever follows it that does not make it
longer. -/
theorem readNumber_written (v : Number) {rest : Bytes} (hrest : EndsNumber rest) :
    readNumber (Bytes.ofChars v.text.toList ++ rest) = .ok (v, rest) := by
  obtain ⟨x, hx, htext, hnumber⟩ := spells_text v
  rw [← htext, Numeral.readNumber_text hx hrest, hnumber]
  rfl

theorem skipNumber_written (v : Number) {rest : Bytes} (hrest : EndsNumber rest) :
    skipNumber (Bytes.ofChars v.text.toList ++ rest) = .ok rest := by
  obtain ⟨x, hx, htext, -⟩ := spells_text v
  rw [← htext, Numeral.skipNumber_text hx hrest]

/-- A written number starts with its sign or a digit. -/
theorem head_written (v : Number) :
    ∃ b text, Bytes.ofChars v.text.toList = b :: text ∧ (b = minus ∨ isDigit b = true) := by
  obtain ⟨x, hx, htext, -⟩ := spells_text v
  have hbytes := Numeral.ofChars_text x []
  rw [List.append_nil, htext] at hbytes
  obtain ⟨c, ds, hcs⟩ := List.exists_cons_of_ne_nil hx.whole_ne_nil
  obtain ⟨b, hb, hdigit, -⟩ := utf8EncodeChar_digit (hx.whole_digits c (hcs ▸ List.mem_cons_self))
  cases hminus : x.minus with
  | false =>
    rw [hminus, hcs, Bytes.ofChars_cons, hb] at hbytes
    exact ⟨b, _, hbytes, Or.inr hdigit⟩
  | true =>
    rw [hminus] at hbytes
    exact ⟨minus, _, hbytes, Or.inl rfl⟩

end Switchboard.Json
