import IRDiagnostics.Binary64.Rounding
import IRDiagnostics.Proofs.Text.Decimal
import Mathlib.Tactic

/-!
This module contains what the integer arithmetic on ratios computes, in terms of rational numbers:
the decimal exponent of a positive number and the integer nearest to it.
-/

namespace IRDiagnostics

/--
Whether `m` is the integer nearest to `x`, or the even one of the two that are equally near.
-/
def NearestEven (x : ℚ) (m : ℕ) : Prop :=
  ∀ k : ℤ, |x - m| ≤ |x - k| ∧ (|x - m| = |x - k| → k = m ∨ Even m)

theorem abs_sub_le_distances (x : ℚ) (m k : ℤ) : (|m - k| : ℤ) ≤ |x - m| + |x - k| := by
  have := abs_sub_le (m : ℚ) x k
  rw [abs_sub_comm (m : ℚ) x] at this
  exact_mod_cast this

theorem nearestEven_of_abs_le {x : ℚ} {m : ℕ} (hle : |x - m| ≤ 1 / 2)
    (heven : |x - m| = 1 / 2 → Even m) : NearestEven x m := by
  intro k
  by_cases hk : k = m
  . simp [hk]
  . have hstep : (1 : ℤ) ≤ |(m : ℤ) - k| := Int.one_le_abs (by omega)
    have hstep : (1 : ℚ) ≤ (|(m : ℤ) - k| : ℤ) := by exact_mod_cast hstep
    have hdistances := abs_sub_le_distances x m k
    rw [Int.cast_natCast] at hdistances
    constructor
    . linarith
    . intro heq
      right
      apply heven
      linarith

theorem NearestEven.unique {x : ℚ} {m n : ℕ} (hm : NearestEven x m) (hn : NearestEven x n) :
    m = n := by
  by_contra hne
  have heq : |x - m| = |x - n| := by
    apply le_antisymm
    . exact_mod_cast (hm n).1
    . exact_mod_cast (hn m).1
  have hmeven : Even m := by
    obtain h | h := (hm n).2 (by exact_mod_cast heq)
    . exact absurd (by exact_mod_cast h.symm) hne
    . exact h
  have hneven : Even n := by
    obtain h | h := (hn m).2 (by exact_mod_cast heq.symm)
    . exact absurd (by exact_mod_cast h) hne
    . exact h
  -- Two even numbers are so far apart that the integer below `x` is nearer than both.
  have hfar : (2 : ℤ) ≤ |(m : ℤ) - n| := by
    obtain ⟨i, hi⟩ := hmeven
    obtain ⟨j, hj⟩ := hneven
    rw [le_abs]
    omega
  have hfar : (2 : ℚ) ≤ (|(m : ℤ) - n| : ℤ) := by exact_mod_cast hfar
  have hdistances := abs_sub_le_distances x m n
  rw [Int.cast_natCast, Int.cast_natCast] at hdistances
  have hfloor := (hm ⌊x⌋).1
  rw [abs_of_nonneg (sub_nonneg.mpr (Int.floor_le x))] at hfloor
  have := Int.lt_floor_add_one x
  linarith

theorem nearestEven_roundHalf (num : ℕ) {den : ℕ} (hden : 0 < den) :
    NearestEven (num / den) (roundHalf .even num den) := by
  have hdiv : (num : ℚ) / den = (num / den : ℕ) + (num % den : ℕ) / den := by
    have hpos : (den : ℚ) ≠ 0 := by positivity
    have : (num : ℚ) = den * (num / den : ℕ) + (num % den : ℕ) := by
      exact_mod_cast (Nat.div_add_mod num den).symm
    field_simp
    linarith
  have hdenq : (0 : ℚ) < den := by exact_mod_cast hden
  rw [hdiv]
  have hlt : num % den < den := Nat.mod_lt num hden
  unfold roundHalf
  generalize num / den = quotient
  generalize num % den = remainder at hlt
  have hremainder : (0 : ℚ) ≤ remainder / den := by positivity
  dsimp only
  split
  . next hlow =>
    have : (remainder : ℚ) / den < 1 / 2 := by
      rw [div_lt_div_iff₀ hdenq (by norm_num)]
      exact_mod_cast (by omega : remainder * 2 < 1 * den)
    apply nearestEven_of_abs_le
    . rw [abs_of_nonneg (by linarith)]
      linarith
    . rw [abs_of_nonneg (by linarith)]
      intro heq
      linarith
  . split
    . next hhigh =>
      have : 1 / 2 < (remainder : ℚ) / den := by
        rw [div_lt_div_iff₀ (by norm_num) hdenq]
        exact_mod_cast (by omega : 1 * den < remainder * 2)
      have : (remainder : ℚ) / den < 1 := by
        rw [div_lt_one hdenq]
        exact_mod_cast hlt
      apply nearestEven_of_abs_le
      . push_cast
        rw [abs_of_nonpos (by linarith)]
        linarith
      . push_cast
        rw [abs_of_nonpos (by linarith)]
        intro heq
        linarith
    . next hlow hhigh =>
      have hhalf : (remainder : ℚ) / den = 1 / 2 := by
        rw [div_eq_div_iff hdenq.ne' (by norm_num)]
        exact_mod_cast (by omega : remainder * 2 = 1 * den)
      rw [hhalf]
      apply nearestEven_of_abs_le
      . obtain h | h := Nat.mod_two_eq_zero_or_one quotient
        . rw [h]
          norm_num
        . rw [h]
          push_cast
          norm_num
      . intro _
        rw [Nat.even_iff]
        omega

theorem decimalExponent_spec {num den : ℕ} (hnum : 0 < num) (hden : 0 < den) :
    (10 : ℚ) ^ decimalExponent num den ≤ num / den ∧
      (num : ℚ) / den < 10 ^ (decimalExponent num den + 1) := by
  have hnumq : (0 : ℚ) < num := by exact_mod_cast hnum
  have hdenq : (0 : ℚ) < den := by exact_mod_cast hden
  unfold decimalExponent
  split
  . next hle =>
    have hquotient : 0 < num / den := Nat.div_pos hle hden
    have hlow := pow_length_toDigits_le hquotient
    have hhigh := lt_pow_length_toDigits (num / den)
    have hpos := Nat.length_toDigits_pos (b := 10) (n := num / den)
    generalize (Nat.toDigits 10 (num / den)).length = length at *
    have hexponent : (length : ℤ) - 1 = (length - 1 : ℕ) := by omega
    constructor
    . rw [hexponent, zpow_natCast, le_div_iff₀ hdenq]
      rw [Nat.le_div_iff_mul_le hden] at hlow
      exact_mod_cast hlow
    . rw [sub_add_cancel, zpow_natCast, div_lt_iff₀ hdenq]
      rw [Nat.div_lt_iff_lt_mul hden] at hhigh
      exact_mod_cast hhigh
  . next hlt =>
    -- Below one, the digits of the inverse count; it is rounded down from below so that a power of
    -- ten itself has one digit less.
    have hquotient : 0 < (den - 1) / num := Nat.div_pos (by omega) hnum
    have hlow := pow_length_toDigits_le hquotient
    have hhigh := lt_pow_length_toDigits ((den - 1) / num)
    have hpos := Nat.length_toDigits_pos (b := 10) (n := (den - 1) / num)
    generalize (Nat.toDigits 10 ((den - 1) / num)).length = length at *
    have hexponent : -(length : ℤ) + 1 = -(length - 1 : ℕ) := by omega
    constructor
    . rw [zpow_neg, zpow_natCast, le_div_iff₀ hdenq, inv_mul_le_iff₀ (by positivity)]
      rw [Nat.div_lt_iff_lt_mul hnum] at hhigh
      have : den ≤ 10 ^ length * num := by omega
      exact_mod_cast this
    . rw [hexponent, zpow_neg, zpow_natCast, div_lt_iff₀ hdenq, lt_inv_mul_iff₀ (by positivity)]
      rw [Nat.le_div_iff_mul_le hnum] at hlow
      have : 10 ^ (length - 1) * num < den := by omega
      exact_mod_cast this

end IRDiagnostics
