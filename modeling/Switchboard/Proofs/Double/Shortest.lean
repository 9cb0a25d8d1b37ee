import Switchboard.Double.Layout
import Switchboard.Proofs.Double.Nearest

/-! # The decimal that is written reads back

`shortest` tries decimals on coarser and coarser grids and takes one only if it
reads back.  What is left to show is that its last resort, the exact decimal form of
a number, reads back as well (`readsBack_exactDecimal`), and that no digit that
counts is lost with the zeros at the end (`stripZeros_eq`).

So the digits of a number, put where they belong, read back as that number
(`leadingDigits_readsBack`), whatever the number is. -/
namespace Switchboard.Double

/-- The exact decimal form of a number is nearest to it. -/
theorem readsBack_exactDecimal {m : Fin limit} (hm : m.val ≠ 0) :
    nearestDecimal? (exactDecimal m).1 (exactDecimal m).2 = some m := by
  have hsig := significand_pos hm
  unfold exactDecimal
  split
  · next h =>
    have hneg : (-exponent m).toNat = 0 := by omega
    have hden : denominator m = 1 := by simp [denominator, hneg]
    have hdigits : 0 < numerator m := Nat.mul_pos hsig (Nat.pow_pos (by decide))
    calc nearestDecimal? (numerator m) 0 = nearest? (numerator m * 10 ^ 0) (10 ^ 0) :=
          nearestDecimal?_eq hdigits 0
      _ = nearest? (numerator m) (denominator m) := by rw [hden, Nat.pow_zero, Nat.mul_one]
      _ = some m := nearest?_numerator m
  · next h =>
    obtain ⟨j, hj⟩ : ∃ j : Nat, exponent m = -(j : Int) := ⟨(-exponent m).toNat, by omega⟩
    have hneg : (-(j : Int)).toNat = 0 := by omega
    have hnum : numerator m = significand m := by simp [numerator, hj, hneg]
    have hden : denominator m = 2 ^ j := by simp [denominator, hj]
    have hdigits : 0 < significand m * 5 ^ j := by positivity
    rw [hj, neg_neg, Int.toNat_natCast]
    calc nearestDecimal? (significand m * 5 ^ j) (-j)
        = nearest? (significand m * 5 ^ j * 10 ^ (-(j : Int)).toNat) (10 ^ (- -(j : Int)).toNat) :=
          nearestDecimal?_eq hdigits _
      _ = nearest? (significand m * 5 ^ j) (10 ^ j) := by
          rw [hneg, neg_neg, Int.toNat_natCast, Nat.pow_zero, Nat.mul_one]
      _ = nearest? (significand m) (2 ^ j) := by
          refine nearest?_congr (by positivity) (by positivity) ?_
          rw [Nat.mul_assoc, ← Nat.mul_pow]
      _ = some m := by rw [← hnum, ← hden, nearest?_numerator]

/-- Of two decimals with one power of ten, the first that reads back. -/
theorem readsBack_of_either {m : Fin limit} {a b : Nat} {e : Int} {r : Nat × Int}
    (h : (if readsBack m a e then some (a, e)
      else if readsBack m b e then some (b, e) else none) = some r) :
    nearestDecimal? r.1 r.2 = some m := by
  split at h
  · next ha =>
    cases h
    exact eq_of_beq ha
  split at h
  · next hb =>
    cases h
    exact eq_of_beq hb
  · cases h

/-- What is found on a grid reads back. -/
theorem readsBack_onGrid {m : Fin limit} {places : Nat} {r : Nat × Int}
    (h : onGrid? m places = some r) : nearestDecimal? r.1 r.2 = some m :=
  readsBack_of_either h

/-- **The shortest decimal reads back.** -/
theorem readsBack_shortest (m : Fin limit) :
    nearestDecimal? (shortest m).1 (shortest m).2 = some m := by
  unfold shortest
  split
  · next h =>
    have hfirst : m = first := Fin.ext h
    rw [hfirst]
    rfl
  · next h =>
    cases hfound : (List.range 17).findSome? (onGrid? m) with
    | none => exact readsBack_exactDecimal h
    | some r =>
      obtain ⟨places, -, hgrid⟩ := List.exists_of_findSome?_eq_some hfound
      exact readsBack_onGrid hgrid

/-- Zeros that are taken off the end of the digits come back in the power of ten. -/
theorem stripZeros_eq (fuel digits : Nat) (e : Int) :
    nearestDecimal? (stripZeros fuel (digits, e)).1 (stripZeros fuel (digits, e)).2 =
      nearestDecimal? digits e := by
  induction fuel generalizing digits e with
  | zero => rfl
  | succ fuel ih =>
    unfold stripZeros
    split
    · next h =>
      have hten : digits / 10 * 10 ^ 1 = digits := by omega
      have hone := nearestDecimal?_mul_pow (digits / 10) 1 e
      rw [hten] at hone
      rw [ih, hone]
      rfl
    · rfl

theorem stripZeros_zero (fuel : Nat) : stripZeros fuel (0, 0) = (0, 0) := by
  cases fuel with
  | zero => rfl
  | succ fuel => simp [stripZeros]

/-- **The digits of a number read back** as that number, with their first one at its
place; and a zero has its only digit at the place of the units. -/
theorem leadingDigits_readsBack (m : Fin limit) :
    ∃ n : Nat, ∃ e : Int,
      leadingDigits m = (Nat.toDigits 10 n, e + (Nat.toDigits 10 n).length - 1) ∧
      nearestDecimal? n e = some m ∧ (n = 0 → e = 0) := by
  refine ⟨(stripZeros 400 (shortest m)).1, (stripZeros 400 (shortest m)).2, rfl, ?_, ?_⟩
  · rw [← readsBack_shortest m]
    exact stripZeros_eq 400 (shortest m).1 (shortest m).2
  · -- Digits that are zero read back as the first magnitude, which is written as zero at once.
    intro hzero
    have hback := (stripZeros_eq 400 (shortest m).1 (shortest m).2).trans (readsBack_shortest m)
    have hfirst : first = m := by
      rw [Prod.mk.eta, hzero] at hback
      exact Option.some.inj hback
    have hshortest : shortest m = (0, 0) := by
      rw [← hfirst]
      rfl
    rw [hshortest, stripZeros_zero]

end Switchboard.Double
