/-
Module: Portfolio.Proofs.Number.Whole
Purpose: The exact values of binary64 numbers, and which of them are integers.
Main exports: Double.toRat, Double.Denotes, Double.denotes_iff, Double.clampToInt_of_denotes,
  Number.Denotes
-/
import Mathlib.Algebra.Order.Field.Rat
import Mathlib.Algebra.Order.Ring.Abs
import Mathlib.Data.Nat.Cast.Field
import Mathlib.Data.Rat.Cast.Order
import Mathlib.Tactic.NormNum
import Portfolio.Number.Basic

namespace Portfolio

namespace Double

/-- The exact value of a finite number. -/
def toRat (x : Double) : ℚ := (if x.negative then -1 else 1) * (x.mantissa * 2 ^ x.exponent)

/-- The number is finite, and its value is the integer. -/
def Denotes (x : Double) (n : ℤ) : Prop := x.isFinite = true ∧ x.toRat = n

variable {x : Double} {n : ℤ}

/-- Below the exponent zero, a number is whole if its mantissa has enough factors of two. -/
theorem isWhole_iff : x.isWhole = true ↔
    x.isFinite = true ∧ (0 ≤ x.exponent ∨ 2 ^ (-x.exponent).toNat ∣ x.mantissa) := by
  rw [isWhole, Bool.and_eq_true, Bool.or_eq_true, decide_eq_true_eq, beq_iff_eq,
    Nat.dvd_iff_mod_eq_zero]
  rfl

/-- The size of a number without a fraction is its whole part. -/
theorem mantissa_mul_of_isWhole (h : x.isWhole = true) :
    (x.mantissa : ℚ) * 2 ^ x.exponent = x.wholePart := by
  obtain ⟨-, hwhole⟩ := isWhole_iff.1 h
  rw [wholePart]
  split
  · next hexponent =>
      obtain ⟨k, hk⟩ := Int.eq_ofNat_of_zero_le hexponent
      simp [hk]
  · next hexponent =>
      obtain ⟨k, hk⟩ := Int.eq_ofNat_of_zero_le (by omega : 0 ≤ -x.exponent)
      have hexp : x.exponent = -(k : ℤ) := by omega
      have hdvd := hwhole.resolve_left hexponent
      rw [hk, Int.toNat_natCast] at hdvd
      rw [hk, Int.toNat_natCast, hexp, zpow_neg, zpow_natCast, ← div_eq_mul_inv]
      simpa using (Nat.cast_div (K := ℚ) hdvd (by positivity)).symm

theorem toRat_of_isWhole (h : x.isWhole = true) : x.toRat = x.truncate := by
  rw [toRat, mantissa_mul_of_isWhole h, truncate]
  split
  · simp
  · simp

/-- A finite number with an integer as its value has no fraction. -/
theorem isWhole_of_denotes (h : x.Denotes n) : x.isWhole = true := by
  obtain ⟨hfinite, hvalue⟩ := h
  rw [isWhole_iff]
  refine ⟨hfinite, or_iff_not_imp_left.2 fun hexponent => ?_⟩
  obtain ⟨k, hk⟩ := Int.eq_ofNat_of_zero_le (by omega : 0 ≤ -x.exponent)
  have hexp : x.exponent = -(k : ℤ) := by omega
  have hpow : (2 : ℚ) ^ k ≠ 0 := by positivity
  have habs : (x.mantissa : ℚ) * (2 ^ k)⁻¹ = n.natAbs := by
    have hsign : |if x.negative then (-1 : ℚ) else 1| = 1 := by
      split
      · simp
      · simp
    have hnonneg : (0 : ℚ) ≤ x.mantissa * (2 ^ k)⁻¹ :=
      mul_nonneg (Nat.cast_nonneg _) (inv_nonneg.2 (pow_nonneg (by norm_num) _))
    have hsize := congrArg abs hvalue
    rw [toRat, hexp, zpow_neg, zpow_natCast, abs_mul, hsign, one_mul,
      abs_of_nonneg hnonneg] at hsize
    rw [hsize, Nat.cast_natAbs, Int.cast_abs]
  have hmantissa : (x.mantissa : ℚ) = (n.natAbs * 2 ^ k : ℕ) := by
    rw [mul_inv_eq_iff_eq_mul₀ hpow] at habs
    exact_mod_cast habs
  rw [hk, Int.toNat_natCast, Nat.cast_injective hmantissa]
  exact Nat.dvd_mul_left _ _

/-- The numbers without a fraction are those with an integer as their value, and that is what
truncating them gives. -/
theorem denotes_iff : x.Denotes n ↔ x.isWhole = true ∧ x.truncate = n := by
  constructor
  · intro h
    have hwhole := isWhole_of_denotes h
    have hvalue := h.2
    rw [toRat_of_isWhole hwhole] at hvalue
    exact ⟨hwhole, by exact_mod_cast hvalue⟩
  · rintro ⟨hwhole, rfl⟩
    exact ⟨(isWhole_iff.1 hwhole).1, toRat_of_isWhole hwhole⟩

instance (x : Double) (n : ℤ) : Decidable (x.Denotes n) := decidable_of_iff' _ denotes_iff

/-- An integer is only moved if it is out of bounds. -/
theorem clampToInt_of_denotes (h : x.Denotes n) (lo hi : ℤ) :
    x.clampToInt lo hi = max lo (min hi n) := by
  have hnan : x.isNaN = false := by
    have hfinite := h.1
    rw [isFinite, bne_iff_ne] at hfinite
    simp [isNaN, hfinite]
  rw [clampToInt, hnan, h.1, (denotes_iff.1 h).2]
  rfl

end Double

/-- The value of a number is the integer. -/
def Number.Denotes : Number → ℤ → Prop
  | .int m, n => m = n
  | .double x, n => x.Denotes n

end Portfolio
