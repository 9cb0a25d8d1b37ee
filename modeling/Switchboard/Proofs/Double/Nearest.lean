import Mathlib.Algebra.Order.Field.Power
import Mathlib.Algebra.Order.Ring.Rat
import Mathlib.Data.Int.Log
import Mathlib.Data.Rat.Floor
import Mathlib.Tactic.GCongr
import Mathlib.Tactic.Linarith
import Mathlib.Tactic.Positivity
import Mathlib.Tactic.Ring
import Switchboard.Double.Nearest

/-! # Nearest numbers depend on the fraction alone

`nearest?` is given a numerator and a denominator, but what it finds depends on
the fraction only (`nearest?_congr`), and it finds a magnitude from the fraction
that the magnitude stands for (`nearest?_numerator`).

A decimal is such a fraction.  The decimals that are settled without computing a
power of ten are settled as the fraction would be (`nearestDecimal?_eq`), so a zero
more at the end of the digits is the same as one more in the power of ten
(`nearestDecimal?_mul_pow`). -/
namespace Switchboard.Double

variable {n d n' d' c digits : Nat} {e : Int}

/-! ## The binary logarithm of a fraction -/

theorem zpow_le_div_iff (hd : 0 < d) (k : Int) :
    (2 : ℚ) ^ k ≤ (n : ℚ) / d ↔ d * 2 ^ k.toNat ≤ n * 2 ^ (-k).toNat := by
  have hpos : (0 : ℚ) < d := by exact_mod_cast hd
  rw [le_div_iff₀ hpos]
  rcases Int.le_total 0 k with hk | hk
  · obtain ⟨j, rfl⟩ := Int.eq_ofNat_of_zero_le hk
    have hneg : (-(j : Int)).toNat = 0 := by omega
    rw [hneg, Int.toNat_natCast, zpow_natCast, mul_comm, pow_zero, mul_one]
    exact_mod_cast Iff.rfl
  · obtain ⟨j, rfl⟩ : ∃ j : Nat, k = -(j : Int) := ⟨(-k).toNat, by omega⟩
    have hneg : (-(j : Int)).toNat = 0 := by omega
    have hpow : (0 : ℚ) < 2 ^ j := by positivity
    rw [hneg, neg_neg, Int.toNat_natCast, zpow_neg, zpow_natCast, ← div_eq_inv_mul,
      div_le_iff₀ hpow, pow_zero, mul_one]
    exact_mod_cast Iff.rfl

/-- A power of two that a fraction lies at or above, while it lies below the next
one, is the logarithm of the fraction. -/
theorem eq_log_of_bounds {r : ℚ} {k : Int} (hr : 0 < r) (hlow : (2 : ℚ) ^ k ≤ r)
    (hhigh : r < (2 : ℚ) ^ (k + 1)) : k = Int.log 2 r := by
  have h₁ : k ≤ Int.log 2 r := (Int.zpow_le_iff_le_log (by decide) hr).mp hlow
  have h₂ : Int.log 2 r < k + 1 := (Int.lt_zpow_iff_log_lt (by decide) hr).mp hhigh
  omega

/-- The lengths of numerator and denominator say where a fraction lies to within
a factor of two on either side. -/
theorem div_bounds (hn : 0 < n) (hd : 0 < d) :
    (2 : ℚ) ^ ((n.log2 : Int) - d.log2 - 1) ≤ (n : ℚ) / d ∧
      (n : ℚ) / d < (2 : ℚ) ^ ((n.log2 : Int) - d.log2 + 1) := by
  have hpos : (0 : ℚ) < d := by exact_mod_cast hd
  have hn₁ : (2 : ℚ) ^ n.log2 ≤ n := by exact_mod_cast Nat.log2_self_le (by omega)
  have hn₂ : (n : ℚ) < 2 ^ (n.log2 + 1) := by exact_mod_cast Nat.lt_log2_self
  have hd₁ : (2 : ℚ) ^ d.log2 ≤ d := by exact_mod_cast Nat.log2_self_le (by omega)
  have hd₂ : (d : ℚ) < 2 ^ (d.log2 + 1) := by exact_mod_cast Nat.lt_log2_self
  have hlow : (2 : ℚ) ^ ((n.log2 : Int) - d.log2 - 1) = 2 ^ n.log2 / 2 ^ (d.log2 + 1) := by
    rw [show (n.log2 : Int) - d.log2 - 1 = n.log2 - ((d.log2 + 1 : Nat) : Int) by push_cast; ring,
      zpow_sub₀ two_ne_zero, zpow_natCast, zpow_natCast]
  have hhigh : (2 : ℚ) ^ ((n.log2 : Int) - d.log2 + 1) = 2 ^ (n.log2 + 1) / 2 ^ d.log2 := by
    rw [show (n.log2 : Int) - d.log2 + 1 = ((n.log2 + 1 : Nat) : Int) - d.log2 by push_cast; ring,
      zpow_sub₀ two_ne_zero, zpow_natCast, zpow_natCast]
  constructor
  · rw [hlow]
    gcongr
  · rw [hhigh]
    gcongr

/-- `floorLog2` is the binary logarithm of the fraction, rounded down. -/
theorem floorLog2_eq_log (hn : 0 < n) (hd : 0 < d) :
    floorLog2 n d = Int.log 2 ((n : ℚ) / d) := by
  have hr : (0 : ℚ) < (n : ℚ) / d := by positivity
  obtain ⟨hlow, hhigh⟩ := div_bounds hn hd
  have htest := zpow_le_div_iff (n := n) hd ((n.log2 : Int) - d.log2)
  unfold floorLog2
  simp only [Nat.pow_eq, ← htest]
  split
  · next h => exact eq_log_of_bounds hr h hhigh
  · next h =>
    refine eq_log_of_bounds hr hlow ?_
    rw [sub_add_cancel]
    exact not_le.mp h

theorem le_floorLog2 (hd : 0 < d) {k : Nat} (h : d * 2 ^ k ≤ n) : (k : Int) ≤ floorLog2 n d := by
  have hn : 0 < n := lt_of_lt_of_le (by positivity) h
  have hr : (0 : ℚ) < (n : ℚ) / d := by positivity
  rw [floorLog2_eq_log hn hd, ← Int.zpow_le_iff_le_log (by decide) hr]
  rw [Nat.cast_ofNat, zpow_le_div_iff hd]
  simpa using h

theorem floorLog2_lt (hn : 0 < n) (hd : 0 < d) {k : Nat} (h : n * 2 ^ k < d) :
    floorLog2 n d < -k := by
  have hr : (0 : ℚ) < (n : ℚ) / d := by positivity
  rw [floorLog2_eq_log hn hd, ← Int.lt_zpow_iff_log_lt (by decide) hr, ← not_le]
  rw [Nat.cast_ofNat, zpow_le_div_iff hd]
  simpa using h

/-! ## The nearest integer and the nearest number -/

theorem roundHalfEven_mul (hc : 0 < c) : roundHalfEven (c * n) (c * d) = roundHalfEven n d := by
  have hlt : c * d < 2 * (c * (n % d)) ↔ d < 2 * (n % d) := by
    rw [Nat.mul_left_comm, Nat.mul_lt_mul_left hc]
  have heq : 2 * (c * (n % d)) = c * d ↔ 2 * (n % d) = d := by
    rw [Nat.mul_left_comm, Nat.mul_right_inj (by omega)]
  simp [roundHalfEven, Nat.mul_div_mul_left n d hc, Nat.mul_mod_mul_left, hlt, heq]

/-- An integer is rounded to itself. -/
theorem roundHalfEven_self (hd : 0 < d) : roundHalfEven (n * d) d = n := by
  simp [roundHalfEven, Nat.mul_div_cancel n hd, hd.ne]

/-- Less than half is rounded to zero. -/
theorem roundHalfEven_eq_zero (h : 2 * n < d) : roundHalfEven n d = 0 := by
  have hdiv : n / d = 0 := Nat.div_eq_of_lt (by omega)
  have hmod : n % d = n := Nat.mod_eq_of_lt (by omega)
  simp [roundHalfEven, hdiv, hmod]
  omega

theorem nearest?_mul (hc : 0 < c) (hd : 0 < d) : nearest? (c * n) (c * d) = nearest? n d := by
  rcases Nat.eq_zero_or_pos n with rfl | hn
  · simp [nearest?]
  · have hlog : floorLog2 (c * n) (c * d) = floorLog2 n d := by
      rw [floorLog2_eq_log (by positivity) (by positivity), floorLog2_eq_log hn hd]
      push_cast
      rw [mul_div_mul_left _ _ (by positivity)]
    have hzero : ¬ c * n = 0 := by positivity
    simp only [nearest?, hzero, hn.ne', if_false, hlog, Nat.mul_assoc, roundHalfEven_mul hc]

/-- **What is nearest depends on the fraction alone.** -/
theorem nearest?_congr (hd : 0 < d) (hd' : 0 < d') (h : n * d' = n' * d) :
    nearest? n d = nearest? n' d' := by
  calc nearest? n d = nearest? (d' * n) (d' * d) := (nearest?_mul hd' hd).symm
    _ = nearest? (d * n') (d * d') := by rw [Nat.mul_comm d' n, h, Nat.mul_comm d' d, Nat.mul_comm n']
    _ = nearest? n' d' := nearest?_mul hd hd'

/-- A fraction that lies far beyond the greatest number has none near it. -/
theorem nearest?_eq_none {k : Nat} (hk : 1100 ≤ k) (hd : 0 < d) (h : d * 2 ^ k ≤ n) :
    nearest? n d = none := by
  have hn : 0 < n := lt_of_lt_of_le (by positivity) h
  have hlog : (k : Int) ≤ floorLog2 n d := le_floorLog2 hd h
  have hout : ∀ q, ¬ (max (floorLog2 n d - 52) (-1074) + 1074).toNat * stride + q < limit := by
    intro q hlt
    have hlarge : 2122 ≤ (max (floorLog2 n d - 52) (-1074) + 1074).toNat := by omega
    unfold limit stride at hlt
    omega
  simp only [nearest?, hn.ne', if_false, dif_neg (hout _)]

/-- A fraction that lies far below the least positive number is nearest to zero. -/
theorem nearest?_eq_first {k : Nat} (hk : 1100 ≤ k) (hd : 0 < d) (h : n * 2 ^ k < d) :
    nearest? n d = some first := by
  rcases Nat.eq_zero_or_pos n with rfl | hn
  · simp [nearest?]
  · have hlog : floorLog2 n d < -k := floorLog2_lt hn hd h
    have hexp : max (floorLog2 n d - 52) (-1074) = -1074 := by omega
    have hround : ∀ j < k,
        roundHalfEven (n * Nat.pow 2 j) (d * Nat.pow 2 (-1074 : Int).toNat) = 0 := by
      intro j hj
      have hone : Nat.pow 2 (-1074 : Int).toNat = 1 := rfl
      rw [hone, Nat.mul_one]
      refine roundHalfEven_eq_zero ?_
      calc 2 * (n * 2 ^ j) = n * 2 ^ (j + 1) := by ring
        _ ≤ n * 2 ^ k := Nat.mul_le_mul_left n (Nat.pow_le_pow_right (by decide) hj)
        _ < d := h
    simp only [nearest?, hn.ne', if_false, hexp, hround (- -1074 : Int).toNat (by omega)]
    rfl

/-! ## Magnitudes and what they stand for -/

theorem denominator_pos (m : Fin limit) : 0 < denominator m :=
  Nat.pow_pos (by decide)

/-- A magnitude is counted by its exponent and its significand. -/
theorem eq_exponent_add_significand (m : Fin limit) :
    m.val = (exponent m + 1074).toNat * stride + significand m := by
  unfold exponent significand
  split
  · simp
  · next h =>
    have hone : 1 ≤ m.val / stride := (Nat.one_le_div_iff (by decide)).mpr (not_lt.mp h)
    have hexp : ((m.val / stride : Nat) - 1075 + 1074 : Int).toNat = m.val / stride - 1 := by omega
    have hsplit := Nat.div_add_mod m.val stride
    have hcount : (m.val / stride - 1) * stride + stride = stride * (m.val / stride) := by
      rw [← Nat.succ_mul, Nat.succ_eq_add_one, Nat.sub_add_cancel hone, Nat.mul_comm]
    rw [hexp, ← Nat.add_assoc, hcount]
    exact hsplit.symm

theorem exponent_ge (m : Fin limit) : -1074 ≤ exponent m := by
  unfold exponent
  split
  · exact le_rfl
  · next h =>
    have hone : 1 ≤ m.val / stride := (Nat.one_le_div_iff (by decide)).mpr (not_lt.mp h)
    omega

theorem significand_pos {m : Fin limit} (hm : m.val ≠ 0) : 0 < significand m := by
  unfold significand stride
  split <;> omega

/-- A magnitude stands for its significand times a power of two. -/
theorem numerator_div_denominator (m : Fin limit) :
    (numerator m : ℚ) / denominator m = significand m * (2 : ℚ) ^ exponent m := by
  have hpow := denominator_pos m
  unfold numerator denominator at *
  rcases Int.le_total 0 (exponent m) with h | h
  · obtain ⟨j, hj⟩ := Int.eq_ofNat_of_zero_le h
    have hneg : (-(j : Int)).toNat = 0 := by omega
    rw [hj, hneg, Int.toNat_natCast, zpow_natCast]
    simp
  · obtain ⟨j, hj⟩ : ∃ j : Nat, exponent m = -(j : Int) := ⟨(-exponent m).toNat, by omega⟩
    have hneg : (-(j : Int)).toNat = 0 := by omega
    rw [hj, neg_neg, hneg, Int.toNat_natCast, zpow_neg, zpow_natCast]
    simp [div_eq_mul_inv]

/-- The exponent that is found for what a magnitude stands for is its own. -/
theorem max_floorLog2_eq_exponent (m : Fin limit) (hm : m.val ≠ 0) :
    max (floorLog2 (numerator m) (denominator m) - 52) (-1074) = exponent m := by
  have hpow : ∀ j : Nat, (2 : ℚ) ^ j * (2 : ℚ) ^ exponent m = (2 : ℚ) ^ ((j : Int) + exponent m) := by
    intro j
    rw [zpow_add₀ two_ne_zero, zpow_natCast]
  have hpos := significand_pos hm
  have hfraction : (0 : ℚ) < significand m * (2 : ℚ) ^ exponent m := by positivity
  have hnumerator : 0 < numerator m := Nat.mul_pos hpos (Nat.pow_pos (by decide))
  have hlog : floorLog2 (numerator m) (denominator m) =
      Int.log 2 (significand m * (2 : ℚ) ^ exponent m) := by
    rw [floorLog2_eq_log hnumerator (denominator_pos m), numerator_div_denominator]
  have hbelow : ∀ j : Nat, significand m < 2 ^ j →
      floorLog2 (numerator m) (denominator m) < j + exponent m := by
    intro j hj
    rw [hlog, ← Int.lt_zpow_iff_log_lt (by decide) hfraction, Nat.cast_ofNat, ← hpow]
    have hj' : (significand m : ℚ) < 2 ^ j := by exact_mod_cast hj
    gcongr
  have habove : ∀ j : Nat, 2 ^ j ≤ significand m →
      j + exponent m ≤ floorLog2 (numerator m) (denominator m) := by
    intro j hj
    rw [hlog, ← Int.zpow_le_iff_le_log (by decide) hfraction, Nat.cast_ofNat, ← hpow]
    have hj' : (2 : ℚ) ^ j ≤ significand m := by exact_mod_cast hj
    gcongr
  -- A subnormal significand may be short, but its exponent is the least one; any other has just
  -- 53 binary digits.
  by_cases hsub : m.val < stride
  · have hexp : exponent m = -1074 := if_pos hsub
    have hlt := hbelow 52 (by rw [significand, if_pos hsub]; exact hsub)
    omega
  · have hsig : significand m = stride + m.val % stride := if_neg hsub
    have hmod : m.val % stride < stride := Nat.mod_lt _ (by decide)
    have hge := habove 52 (by rw [hsig]; exact Nat.le_add_right _ _)
    have hlt := hbelow 53 (by rw [hsig]; unfold stride at *; omega)
    have hexp := exponent_ge m
    omega

/-- **What a magnitude stands for is nearest to it.** -/
theorem nearest?_numerator (m : Fin limit) :
    nearest? (numerator m) (denominator m) = some m := by
  by_cases hm : m.val = 0
  · have hzero : numerator m = 0 := by simp [numerator, significand, hm]
    have hfirst : m = first := Fin.ext hm
    rw [hzero, hfirst]
    rfl
  · have hnumerator : numerator m ≠ 0 :=
      (Nat.mul_pos (significand_pos hm) (Nat.pow_pos (by decide))).ne'
    have hround : roundHalfEven (numerator m * Nat.pow 2 (-exponent m).toNat)
        (denominator m * Nat.pow 2 (exponent m).toNat) = significand m := by
      have hsplit : numerator m * Nat.pow 2 (-exponent m).toNat =
          significand m * (denominator m * Nat.pow 2 (exponent m).toNat) := by
        unfold numerator denominator
        ring
      rw [hsplit]
      exact roundHalfEven_self (Nat.mul_pos (denominator_pos m) (Nat.pow_pos (by decide)))
    simp only [nearest?, hnumerator, if_false, max_floorLog2_eq_exponent m hm, hround,
      ← eq_exponent_add_significand]
    exact dif_pos m.isLt

/-! ## Decimals as fractions -/

/-- **A decimal is read as the fraction that it is**, also where no power of ten is
computed. -/
theorem nearestDecimal?_eq (hdigits : 0 < digits) (e : Int) :
    nearestDecimal? digits e = nearest? (digits * 10 ^ e.toNat) (10 ^ (-e).toNat) := by
  have height : ∀ k : Nat, 2 ^ (3 * k) ≤ 10 ^ k := by
    intro k
    rw [Nat.pow_mul]
    exact Nat.pow_le_pow_left (by decide) k
  -- The two shortcuts are taken only far outside the range of the numbers.
  unfold nearestDecimal?
  rw [if_neg hdigits.ne']
  split
  · next h =>
    have hneg : (-e).toNat = 0 := by omega
    have hlarge : 10 ^ (-e).toNat * 2 ^ (3 * e.toNat) ≤ digits * 10 ^ e.toNat := by
      rw [hneg, Nat.pow_zero, Nat.one_mul]
      exact (height e.toNat).trans (Nat.le_mul_of_pos_left _ hdigits)
    exact (nearest?_eq_none (by omega) (by positivity) hlarge).symm
  split
  · next h =>
    have hpos : e.toNat = 0 := by omega
    have hsmall : digits * 10 ^ e.toNat * 2 ^ (1100 + digits.log2) < 10 ^ (-e).toNat := by
      rw [hpos, Nat.pow_zero, Nat.mul_one]
      calc digits * 2 ^ (1100 + digits.log2)
          < 2 ^ (digits.log2 + 1) * 2 ^ (1100 + digits.log2) :=
            Nat.mul_lt_mul_of_pos_right Nat.lt_log2_self (by positivity)
        _ = 2 ^ (digits.log2 + 1 + (1100 + digits.log2)) := (Nat.pow_add ..).symm
        _ ≤ 2 ^ (3 * (-e).toNat) := Nat.pow_le_pow_right (by decide) (by omega)
        _ ≤ 10 ^ (-e).toNat := height _
    exact (nearest?_eq_first (by omega) (by positivity) hsmall).symm
  · rfl

/-- **Zeros at the end of the digits** are the same as a greater power of ten. -/
theorem nearestDecimal?_mul_pow (digits k : Nat) (e : Int) :
    nearestDecimal? (digits * 10 ^ k) e = nearestDecimal? digits (e + k) := by
  rcases Nat.eq_zero_or_pos digits with rfl | hdigits
  · simp [nearestDecimal?]
  · rw [nearestDecimal?_eq (by positivity), nearestDecimal?_eq hdigits]
    refine nearest?_congr (by positivity) (by positivity) ?_
    have hexp : k + e.toNat + (-(e + k)).toNat = (e + k).toNat + (-e).toNat := by omega
    calc digits * 10 ^ k * 10 ^ e.toNat * 10 ^ (-(e + k)).toNat
        = digits * 10 ^ (k + e.toNat + (-(e + k)).toNat) := by ring
      _ = digits * 10 ^ ((e + k).toNat + (-e).toNat) := by rw [hexp]
      _ = digits * 10 ^ (e + k).toNat * 10 ^ (-e).toNat := by ring

end Switchboard.Double
