import IRDiagnostics.Proofs.Binary64.Value

/-!
This module contains the rounding of positive rational numbers to floating-point numbers: how far
the nearest number is away, and that it is the rational number itself if there is one.
-/

namespace IRDiagnostics

theorem NearestEven.abs_sub_le {x : ℚ} {m : ℕ} (h : NearestEven x m) : |x - m| ≤ 1 / 2 := by
  have hle := Int.floor_le x
  have hlt := Int.lt_floor_add_one x
  have hfloor : |x - m| ≤ x - ⌊x⌋ := by
    apply (h ⌊x⌋).1.trans_eq
    exact abs_of_nonneg (by linarith)
  have hceil : |x - m| ≤ ⌊x⌋ + 1 - x := by
    apply (h (⌊x⌋ + 1)).1.trans_eq
    rw [Int.cast_add, Int.cast_one, abs_of_nonpos (by linarith)]
    ring
  linarith

theorem binaryExponent_eq_log {num den : ℕ} (hnum : 0 < num) (hden : 0 < den) :
    binaryExponent num den = Int.log 2 ((num : ℚ) / den) := by
  have hnumq : (0 : ℚ) < num := by exact_mod_cast hnum
  have hdenq : (0 : ℚ) < den := by exact_mod_cast hden
  symm
  unfold binaryExponent
  split
  . next hle =>
    have hquotient : 0 < num / den := Nat.div_pos hle hden
    have hlow := Nat.log2_self_le hquotient.ne'
    have hhigh := Nat.lt_log2_self (n := num / den)
    apply log_eq_of_bounds (by positivity)
    . rw [zpow_natCast, le_div_iff₀ hdenq]
      rw [Nat.le_div_iff_mul_le hden] at hlow
      exact_mod_cast hlow
    . rw [← Nat.cast_succ, zpow_natCast, div_lt_iff₀ hdenq]
      rw [Nat.div_lt_iff_lt_mul hden] at hhigh
      exact_mod_cast hhigh
  . next hlt =>
    have hquotient : 0 < (den - 1) / num := Nat.div_pos (by omega) hnum
    have hlow := Nat.log2_self_le hquotient.ne'
    have hhigh := Nat.lt_log2_self (n := (den - 1) / num)
    generalize ((den - 1) / num).log2 = log at *
    apply log_eq_of_bounds (by positivity)
    . rw [← Nat.cast_succ, zpow_neg, zpow_natCast, le_div_iff₀ hdenq,
        inv_mul_le_iff₀ (by positivity)]
      rw [Nat.div_lt_iff_lt_mul hnum] at hhigh
      have : den ≤ 2 ^ (log + 1) * num := by omega
      exact_mod_cast this
    . have hexponent : -((log : ℤ) + 1) + 1 = -log := by ring
      rw [hexponent, zpow_neg, zpow_natCast, div_lt_iff₀ hdenq, lt_inv_mul_iff₀ (by positivity)]
      rw [Nat.le_div_iff_mul_le hnum] at hlow
      have : 2 ^ log * num < den := by omega
      exact_mod_cast this

namespace Binary64

/--
That a number without a sign is the one nearest to a rational number that is not negative.
-/
def IsNearest (q : ℚ) (x : Binary64) : Prop :=
  ∃ significand : ℕ, NearestEven (q / 2 ^ unitOf q) significand ∧
    HasMagnitude x (significand * 2 ^ unitOf q)

theorem shifted_ratio_eq (num den : ℕ) (exponent : ℤ) :
    ((num <<< (-exponent).toNat : ℕ) : ℚ) / (den <<< exponent.toNat : ℕ) =
      num / den / 2 ^ exponent := by
  rw [Nat.shiftLeft_eq, Nat.shiftLeft_eq]
  obtain ⟨n, rfl | rfl⟩ := exponent.eq_nat_or_neg
  . simp [div_div]
  . simp [mul_div_right_comm]

theorem ofRatio_eq {num den : ℕ} (hnum : 0 < num) (hden : 0 < den) :
    ∃ significand exponent : ℕ,
      unitOf (num / den) = exponent - 1074 ∧ significand ≤ 2 ^ 53 ∧
      NearestEven ((num : ℚ) / den / 2 ^ unitOf (num / den)) significand ∧
      ofRatio num den =
        if 2047 * 2 ^ 52 ≤ exponent * 2 ^ 52 + significand then
          infinity
        else
          ⟨UInt64.ofNat (exponent * 2 ^ 52 + significand)⟩ := by
  have hq : (0 : ℚ) < num / den := by positivity
  have hunit := bottom_le_unitOf ((num : ℚ) / den)
  have hnearest : NearestEven ((num : ℚ) / den / 2 ^ unitOf (num / den))
      (roundHalf .even (num <<< (-unitOf (num / den)).toNat)
        (den <<< (unitOf (num / den)).toNat)) := by
    rw [← shifted_ratio_eq]
    apply nearestEven_roundHalf
    rw [Nat.shiftLeft_eq]
    positivity
  refine ⟨_, (unitOf ((num : ℚ) / den) + 1074).toNat, by omega, ?_, hnearest, ?_⟩
  . apply hnearest.ge
    rw [div_le_iff₀ (by positivity)]
    exact_mod_cast (lt_of_unitOf hq).le
  . unfold ofRatio
    rw [if_neg hnum.ne', binaryExponent_eq_log hnum hden]
    dsimp only
    rw [Nat.shiftLeft_eq 2047, Nat.shiftLeft_eq _ 52]
    rfl

theorem isNearest_ofRatio {num den : ℕ} (hnum : 0 < num) (hden : 0 < den)
    (h : ofRatio num den ≠ infinity) : IsNearest (num / den) (ofRatio num den) := by
  have hq : (0 : ℚ) < num / den := by positivity
  obtain ⟨significand, exponent, hunit, hle, hnearest, hratio⟩ := ofRatio_eq hnum hden
  refine ⟨significand, hnearest, ?_⟩
  split at hratio
  . exact absurd hratio h
  . next hlt =>
    rw [hratio, hunit]
    apply hasMagnitude_ofNat hle _ (Nat.lt_of_not_le hlt)
    by_cases hbottom : unitOf ((num : ℚ) / den) = -1074
    . left
      omega
    . right
      apply hnearest.le
      rw [le_div_iff₀ (by positivity)]
      exact_mod_cast le_of_unitOf hq hbottom

/--
No number is rounded to infinity that is nearer to the greatest finite number than to the next power
of two.
-/
theorem ofRatio_ne_infinity {num den : ℕ} (hnum : 0 < num) (hden : 0 < den)
    (h : (num : ℚ) / den < (2 ^ 53 - 1 / 2) * 2 ^ (971 : ℤ)) : ofRatio num den ≠ infinity := by
  have hq : (0 : ℚ) < num / den := by positivity
  obtain ⟨significand, exponent, hunit, hsignificand, hnearest, hratio⟩ := ofRatio_eq hnum hden
  have hle : unitOf ((num : ℚ) / den) ≤ 971 := by
    apply unitOf_le hq _ (by norm_num)
    apply h.trans
    gcongr
    norm_num
  have hfits : exponent * 2 ^ 52 + significand < 2047 * 2 ^ 52 := by
    by_cases htop : unitOf ((num : ℚ) / den) = 971
    . -- At the top the significand must not be rounded up to a power of two.
      have hdistance := (abs_le.mp hnearest.abs_sub_le).1
      rw [htop] at hdistance
      rw [← div_lt_iff₀ (by positivity)] at h
      have : (significand : ℚ) < 2 ^ 53 := by linarith
      have : significand < 2 ^ 53 := by exact_mod_cast this
      omega
    . omega
  rw [hratio, if_neg (by omega)]
  intro heq
  have hbits := congrArg Binary64.biasedExponent heq
  rw [(fields_ofNat _ (by omega)).2.1] at hbits
  have : infinity.biasedExponent = 2047 := rfl
  omega

namespace IsNearest

variable {q : ℚ} {x : Binary64} (hq : 0 < q) (h : IsNearest q x)

include h

theorem finite : x.biasedExponent ≠ 2047 := by
  obtain ⟨_, _, hmagnitude⟩ := h
  exact hmagnitude.finite

theorem hasMagnitude : HasMagnitude x x.absValue := by
  obtain ⟨_, _, hmagnitude⟩ := h
  exact ⟨hmagnitude.finite, hmagnitude.isNegative_eq, rfl⟩

theorem distance_le_half_unit : |x.absValue - q| ≤ 1 / 2 * 2 ^ unitOf q := by
  obtain ⟨significand, hnearest, hmagnitude⟩ := h
  have hpow : (0 : ℚ) < 2 ^ unitOf q := by positivity
  calc |x.absValue - q|
      = |q / 2 ^ unitOf q - significand| * 2 ^ unitOf q := by
        rw [← abs_of_pos hpow, ← abs_mul, abs_of_pos hpow, sub_mul, div_mul_cancel₀ _ hpow.ne',
          abs_sub_comm, hmagnitude.absValue_eq]
    _ ≤ 1 / 2 * 2 ^ unitOf q := by
        gcongr
        exact hnearest.abs_sub_le

include hq

/--
The distance is relative to the number, or to the least positive number if that is greater.
-/
theorem distance_le : |x.absValue - q| ≤ max (q / 2 ^ 53) (1 / 2 * 2 ^ (-1074 : ℤ)) := by
  apply h.distance_le_half_unit.trans
  by_cases hbottom : unitOf q = -1074
  . rw [hbottom]
    exact le_max_right _ _
  . apply le_trans _ (le_max_left _ _)
    rw [le_div_iff₀ (by norm_num)]
    have := le_of_unitOf hq hbottom
    linarith

theorem absValue_eq_of_eq (significand : ℕ) (exponent : ℤ) (hvalue : q = significand * 2 ^ exponent)
    (hsignificand : significand < 2 ^ 53) (hexponent : -1074 ≤ exponent) : x.absValue = q := by
  have hunit : unitOf q ≤ exponent := by
    apply unitOf_le hq _ hexponent
    rw [hvalue]
    gcongr
    exact_mod_cast hsignificand
  obtain ⟨n, hn⟩ := Int.le.dest hunit
  obtain ⟨nearest, hnearest, hmagnitude⟩ := h
  have hwhole : q / 2 ^ unitOf q = (significand * 2 ^ n : ℕ) := by
    rw [div_eq_iff (by positivity)]
    calc q
        = significand * 2 ^ exponent := hvalue
      _ = significand * (2 ^ unitOf q * 2 ^ n) := by
          rw [← hn, zpow_add₀ (by norm_num), zpow_natCast]
      _ = (significand * 2 ^ n : ℕ) * 2 ^ unitOf q := by
          push_cast
          ring
  have hself : NearestEven (q / 2 ^ unitOf q) (significand * 2 ^ n) := by
    apply nearestEven_of_abs_le
    . rw [hwhole]
      simp
    . rw [hwhole]
      simp
  rw [hmagnitude.absValue_eq, hnearest.unique hself, ← hwhole]
  exact div_mul_cancel₀ _ (by positivity)

end IsNearest

/-!
Products and quotients of magnitudes are rounded once.
-/

theorem HasMagnitude.ratio_eq {x : Binary64} {a : ℚ} (hx : HasMagnitude x a) (ha : 0 < a) :
    (x.magnitude.1 : ℚ) / x.magnitude.2 = a ∧ 0 < x.magnitude.1 ∧ 0 < x.magnitude.2 := by
  have hvalue := hx.absValue_eq
  rw [Binary64.absValue_eq] at hvalue
  have hsignificand : 0 < x.significand := by
    rw [Nat.pos_iff_ne_zero]
    intro hzero
    simp [hzero] at hvalue
    linarith
  unfold magnitude
  rw [datum_eq hx.finite]
  exact ⟨(Binary64.ratio_eq _ _).trans hvalue, ratio_pos hsignificand _⟩

section Arithmetic

variable {x y : Binary64} {a b : ℚ} (hx : HasMagnitude x a) (hy : HasMagnitude y b) (ha : 0 < a)
  (hb : 0 < b)

include hx hy ha hb

theorem isNearest_mulMagnitude (h : x.mulMagnitude y ≠ infinity) :
    IsNearest (a * b) (x.mulMagnitude y) := by
  obtain ⟨hxratio, hxnum, hxden⟩ := hx.ratio_eq ha
  obtain ⟨hyratio, hynum, hyden⟩ := hy.ratio_eq hb
  have hnearest := isNearest_ofRatio (Nat.mul_pos hxnum hynum) (Nat.mul_pos hxden hyden) h
  rw [Nat.cast_mul, Nat.cast_mul, mul_div_mul_comm, hxratio, hyratio] at hnearest
  exact hnearest

theorem mulMagnitude_ne_infinity (h : a * b < (2 ^ 53 - 1 / 2) * 2 ^ (971 : ℤ)) :
    x.mulMagnitude y ≠ infinity := by
  obtain ⟨hxratio, hxnum, hxden⟩ := hx.ratio_eq ha
  obtain ⟨hyratio, hynum, hyden⟩ := hy.ratio_eq hb
  apply ofRatio_ne_infinity (Nat.mul_pos hxnum hynum) (Nat.mul_pos hxden hyden)
  rw [Nat.cast_mul, Nat.cast_mul, mul_div_mul_comm, hxratio, hyratio]
  exact h

theorem isNearest_divMagnitude (h : a / b < (2 ^ 53 - 1 / 2) * 2 ^ (971 : ℤ)) :
    IsNearest (a / b) (x.divMagnitude y) := by
  obtain ⟨hxratio, hxnum, hxden⟩ := hx.ratio_eq ha
  obtain ⟨hyratio, hynum, hyden⟩ := hy.ratio_eq hb
  have hvalue : ((x.magnitude.1 * y.magnitude.2 : ℕ) : ℚ) / (x.magnitude.2 * y.magnitude.1 : ℕ) =
      a / b := by
    rw [← hxratio, ← hyratio, div_div_div_eq]
    push_cast
    rfl
  have hnearest := isNearest_ofRatio (Nat.mul_pos hxnum hyden) (Nat.mul_pos hxden hynum)
    (ofRatio_ne_infinity (Nat.mul_pos hxnum hyden) (Nat.mul_pos hxden hynum) (hvalue ▸ h))
  rw [hvalue] at hnearest
  exact hnearest

end Arithmetic

theorem div_lt_of_finite {x : Binary64} (hx : x.biasedExponent ≠ 2047) {b : ℚ} (hb : 2 ≤ b) :
    x.absValue / b < (2 ^ 53 - 1 / 2) * 2 ^ (971 : ℤ) := by
  have hsignificand : (x.significand : ℚ) < 2 ^ 53 := by exact_mod_cast x.significand_lt
  have htop : (0 : ℚ) < 2 ^ (971 : ℤ) := by positivity
  have hunit : (2 : ℚ) ^ x.unitExponent ≤ 2 ^ (971 : ℤ) :=
    zpow_le_zpow_right₀ (by norm_num) (unitExponent_le hx)
  have hvalue : x.absValue ≤ 2 ^ 53 * 2 ^ (971 : ℤ) := by
    rw [absValue_eq]
    gcongr
  generalize (2 : ℚ) ^ (971 : ℤ) = top at *
  rw [div_lt_iff₀ (by linarith)]
  nlinarith

end Binary64

end IRDiagnostics
