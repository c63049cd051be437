import IRDiagnostics.Json.Number
import IRDiagnostics.Proofs.Binary64.Nearest

/-!
This module contains how far scaling by a power of ten is off. The power, each quotient and each
product are rounded, so a result is within a few units in the last place of the exact decimal, and
it is the nearest number if all that is scaled with is exact.
-/

namespace IRDiagnostics

/-!
Relative errors of products and quotients.
-/

section Errors

variable {a n p m u v : ℚ} (hn : 0 < n) (hm : 0 < m) (ha : |a - n| ≤ u * n) (hp : |p - m| ≤ v * m)

include hn hm ha hp

theorem abs_mul_sub_mul_le : |a * p - n * m| ≤ (u + v + u * v) * (n * m) := by
  have hu : 0 ≤ u := nonneg_of_mul_nonneg_left ((abs_nonneg _).trans ha) hn
  calc |a * p - n * m|
      = |(a - n) * (p - m) + (a - n) * m + n * (p - m)| := by
        congr 1
        ring
    _ ≤ |a - n| * |p - m| + |a - n| * m + n * |p - m| := by
        rw [← abs_mul, ← abs_of_pos hm, ← abs_mul, abs_of_pos hm, ← abs_of_pos hn, ← abs_mul,
          abs_of_pos hn]
        exact abs_add_three _ _ _
    _ ≤ u * n * (v * m) + u * n * m + n * (v * m) := by gcongr
    _ = (u + v + u * v) * (n * m) := by ring

theorem abs_div_sub_div_le (hv : v < 1) : |a / p - n / m| ≤ (u + v) / (1 - v) * (n / m) := by
  have hlow : (1 - v) * m ≤ p := by
    have := (abs_le.mp hp).1
    linarith
  have hone : 0 < 1 - v := by linarith
  have hppos : 0 < p := (mul_pos hone hm).trans_le hlow
  have hsum : 0 ≤ u + v := by
    have hu : 0 ≤ u := nonneg_of_mul_nonneg_left ((abs_nonneg _).trans ha) hn
    have hv : 0 ≤ v := nonneg_of_mul_nonneg_left ((abs_nonneg _).trans hp) hm
    linarith
  have hdifference : a / p - n / m = ((a - n) * m - n * (p - m)) / (p * m) := by
    field_simp
    ring
  rw [hdifference, abs_div, abs_of_pos (mul_pos hppos hm), div_le_iff₀ (mul_pos hppos hm)]
  calc |(a - n) * m - n * (p - m)|
      ≤ |a - n| * m + n * |p - m| := by
        rw [← abs_of_pos hm, ← abs_mul, abs_of_pos hm, ← abs_of_pos hn, ← abs_mul, abs_of_pos hn]
        exact abs_sub _ _
    _ ≤ u * n * m + n * (v * m) := by gcongr
    _ = (u + v) / (1 - v) * (n / m) * ((1 - v) * m * m) := by
        field_simp
    _ ≤ (u + v) / (1 - v) * (n / m) * (p * m) := by gcongr

end Errors

namespace Binary64.IsNearest

variable {q : ℚ} {x : Binary64}

theorem distance_le_mul (h : IsNearest q x) (hq : 1 ≤ q) : |x.absValue - q| ≤ 1 / 2 ^ 53 * q := by
  apply (h.distance_le (by linarith)).trans
  apply max_le
  . linarith
  . have hle : (2 : ℚ) ^ (-1074 : ℤ) ≤ 2 ^ (-53 : ℤ) :=
      zpow_le_zpow_right₀ (by norm_num) (by norm_num)
    have hunit : (2 : ℚ) ^ (-53 : ℤ) = 1 / 2 ^ 53 := by norm_num
    rw [hunit] at hle
    linarith

theorem pos (h : IsNearest q x) (hq : 2 ^ (-1074 : ℤ) ≤ q) : 0 < x.absValue := by
  have hpow : (0 : ℚ) < 2 ^ (-1074 : ℤ) := by positivity
  have hle : max (q / 2 ^ 53) (1 / 2 * 2 ^ (-1074 : ℤ)) ≤ q / 2 := by
    apply max_le
    . have : 0 < q := hpow.trans_le hq
      linarith
    . linarith
  have hdistance := (abs_le.mp ((h.distance_le (hpow.trans_le hq)).trans hle)).1
  linarith

/--
Rounding something near a decimal adds a bit more than a unit in the last place to its distance.
-/
theorem distance_le_of_near (h : IsNearest q x) (hq : 0 < q) {decimal unit error : ℚ}
    (hnear : |q - decimal| ≤ error * unit) (herror : error ≤ 3) (hunit : 2 ^ (-1074 : ℤ) ≤ unit)
    (hdecimal : decimal ≤ 2 ^ 53 * unit) :
    |x.absValue - decimal| ≤ (error + 101 / 100) * unit := by
  have hpos : 0 < unit := lt_of_lt_of_le (by positivity) hunit
  have hround : max (q / 2 ^ 53) (1 / 2 * 2 ^ (-1074 : ℤ)) ≤ 101 / 100 * unit := by
    apply max_le
    . have := (abs_le.mp hnear).2
      rw [div_le_iff₀ (by norm_num)]
      nlinarith
    . linarith
  calc |x.absValue - decimal|
      ≤ |x.absValue - q| + |q - decimal| := abs_sub_le _ _ _
    _ ≤ 101 / 100 * unit + error * unit := by
        gcongr
        exact (h.distance_le hq).trans hround
    _ = (error + 101 / 100) * unit := by ring

end Binary64.IsNearest

namespace Json.Number

open Binary64

/-!
Whole numbers and powers of ten.
-/

theorem pow_308_lt : (10 : ℚ) ^ 308 < (2 ^ 53 - 1 / 2) * 2 ^ (971 : ℤ) := by
  have hnat : 10 ^ 308 < 9007199254740991 * 2 ^ 971 := by decide +kernel
  have hrat : (10 : ℚ) ^ 308 < 9007199254740991 * 2 ^ 971 := by exact_mod_cast hnat
  have htop : (2 : ℚ) ^ (971 : ℤ) = 2 ^ 971 := zpow_natCast 2 971
  rw [htop]
  apply hrat.trans
  gcongr
  norm_num

theorem pow_308_le : 4 * (10 : ℚ) ^ 308 ≤ 2 ^ 1074 := by
  have hnat : 4 * 10 ^ 308 ≤ 2 ^ 1074 := by decide +kernel
  exact_mod_cast hnat

theorem isNearest_ofNat {n : ℕ} (hpos : 0 < n) (hle : n ≤ 10 ^ 308) :
    IsNearest n (.ofRatio n 1) := by
  have hvalue : (n : ℚ) / (1 : ℕ) = n := by rw [Nat.cast_one, div_one]
  have hlt : (n : ℚ) / (1 : ℕ) < (2 ^ 53 - 1 / 2) * 2 ^ (971 : ℤ) := by
    rw [hvalue]
    exact lt_of_le_of_lt (by exact_mod_cast hle) pow_308_lt
  have hnearest := isNearest_ofRatio hpos Nat.one_pos (ofRatio_ne_infinity hpos Nat.one_pos hlt)
  rw [hvalue] at hnearest
  exact hnearest

theorem isNearest_powerOfTen (exponent : ℕ) (h : exponent ≤ 308) :
    IsNearest (10 ^ exponent) (powerOfTen exponent) := by
  have hle : 10 ^ exponent ≤ 10 ^ 308 := pow_le_pow_right₀ (by norm_num) h
  have hnearest := isNearest_ofNat (n := 10 ^ exponent) (by positivity) hle
  rw [Nat.cast_pow, Nat.cast_ofNat] at hnearest
  exact hnearest

theorem absValue_ofNat {n : ℕ} (hpos : 0 < n) (hle : n ≤ 2 ^ 53) :
    (Binary64.ofRatio n 1).absValue = n := by
  have hnearest := isNearest_ofNat hpos (hle.trans (by decide +kernel))
  have hq : (0 : ℚ) < n := by exact_mod_cast hpos
  by_cases htop : n = 2 ^ 53
  . apply hnearest.absValue_eq_of_eq hq 1 53
    . rw [htop]
      norm_num
    . norm_num
    . norm_num
  . apply hnearest.absValue_eq_of_eq hq n 0
    . rw [zpow_zero, mul_one]
    . omega
    . norm_num

theorem absValue_powerOfTen {exponent : ℕ} (h : exponent ≤ 22) :
    (powerOfTen exponent).absValue = 10 ^ exponent := by
  have hfive : 5 ^ exponent ≤ 5 ^ 22 := Nat.pow_le_pow_right (by decide) h
  have hnearest := isNearest_powerOfTen exponent (by omega)
  apply hnearest.absValue_eq_of_eq (by positivity) (5 ^ exponent) exponent
  . rw [zpow_natCast, Nat.cast_pow, ← mul_pow]
    norm_num
  . omega
  . omega

/--
The power that is divided by first when the exponent is out of range is much nearer to a power of
ten than it would need to be.
-/
theorem distance_powerOfTen_308_le :
    |(powerOfTen 308).absValue - 10 ^ 308| ≤ 1 / 2 ^ 56 * 10 ^ 308 := by
  have hsignificand : (powerOfTen 308).significand = 5010420900022432 := by decide +kernel
  have hunit : (powerOfTen 308).unitExponent = (971 : ℕ) := by decide +kernel
  have hlow : 10 ^ 308 ≤ 5010420900022432 * 2 ^ 971 := by decide +kernel
  have hhigh : 2 ^ 56 * (5010420900022432 * 2 ^ 971) ≤ (2 ^ 56 + 1) * 10 ^ 308 := by
    decide +kernel
  have hlow : (10 : ℚ) ^ 308 ≤ 5010420900022432 * 2 ^ 971 := by exact_mod_cast hlow
  have hhigh : (2 : ℚ) ^ 56 * (5010420900022432 * 2 ^ 971) ≤ (2 ^ 56 + 1) * 10 ^ 308 := by
    exact_mod_cast hhigh
  rw [Binary64.absValue_eq, hsignificand, hunit, zpow_natCast, Nat.cast_ofNat]
  generalize (2 : ℚ) ^ 971 = top at *
  generalize (10 : ℚ) ^ 308 = power at *
  rw [abs_of_nonneg (by linarith)]
  linarith

/-!
Scaling.
-/

/--
What is read for `n * 10 ^ exponent`: the number nearest to something within a few units in the last
place of it, and nearest to the decimal itself if its digits and the power of ten are exact.
-/
def IsScaled (n : ℕ) (exponent : ℤ) (x : Binary64) : Prop :=
  ∃ q, IsNearest q x ∧ 0 < q ∧
    (∀ unit, 2 ^ (-1074 : ℤ) ≤ unit → (n : ℚ) * 10 ^ exponent ≤ 2 ^ 53 * unit →
      |q - n * 10 ^ exponent| ≤ 9 / 4 * unit) ∧
    (n ≤ 2 ^ 53 → exponent.natAbs ≤ 22 → q = n * 10 ^ exponent)

theorem bottom_le_of_one_le {q : ℚ} (h : 1 ≤ q) : 2 ^ (-1074 : ℤ) ≤ q :=
  (zpow_le_one_of_nonpos₀ (by norm_num) (by norm_num)).trans h

theorem one_le_pow_ten (exponent : ℕ) : (1 : ℚ) ≤ 10 ^ exponent := one_le_pow₀ (by norm_num)

theorem two_le_powerOfTen (exponent : ℕ) (hpos : 0 < exponent) (hle : exponent ≤ 308) :
    2 ≤ (powerOfTen exponent).absValue := by
  have hten : (10 : ℚ) ≤ 10 ^ exponent := le_self_pow₀ (by norm_num) hpos.ne'
  have hdistance := (isNearest_powerOfTen exponent hle).distance_le_mul (one_le_pow_ten exponent)
  have := (abs_le.mp hdistance).1
  linarith

theorem isInfinite_of_finite {x : Binary64} (h : x.biasedExponent ≠ 2047) :
    x.isInfinite = false := by
  unfold isInfinite
  rw [datum_eq h]

theorem scale_of_neg {magnitude : Binary64} {exponent : ℕ} (hpos : 0 < exponent)
    (hle : exponent ≤ 308) :
    scale magnitude (-exponent) = some (magnitude.divMagnitude (powerOfTen exponent)) := by
  rw [scale, if_neg (by omega), if_pos (by omega), neg_neg, Int.toNat_natCast]

theorem error_mul_le {factor error decimal unit : ℚ} (hfactor : factor ≤ error / 2 ^ 53)
    (herror : 0 ≤ error) (hpos : 0 ≤ decimal) (hdecimal : decimal ≤ 2 ^ 53 * unit) :
    factor * decimal ≤ error * unit := by
  calc factor * decimal
      ≤ error / 2 ^ 53 * (2 ^ 53 * unit) := by gcongr
    _ = error * unit := by
        field_simp

theorem digits_le {n : ℕ} (h : n ≤ 10 ^ 17) : n ≤ 10 ^ 308 := by
  have : 10 ^ 17 ≤ 10 ^ 308 := pow_le_pow_right₀ (by norm_num) (by norm_num)
  exact h.trans this

section Scaling

variable {n : ℕ} (hn : 0 < n) (hle : n ≤ 10 ^ 17)

include hn hle

theorem distance_digits_le : |(Binary64.ofRatio n 1).absValue - n| ≤ 1 / 2 ^ 53 * n :=
  (isNearest_ofNat hn (digits_le hle)).distance_le_mul (by exact_mod_cast hn)

theorem digits_pos : 0 < (Binary64.ofRatio n 1).absValue :=
  (isNearest_ofNat hn (digits_le hle)).pos (bottom_le_of_one_le (by exact_mod_cast hn))

theorem ofRatio_ne_zero : Binary64.ofRatio n 1 ≠ zero := by
  intro hzero
  have hpos := digits_pos hn hle
  rw [hzero, absValue_zero] at hpos
  exact lt_irrefl 0 hpos

theorem bottom_le_first_quotient :
    2 ^ (-1074 : ℤ) ≤ (Binary64.ofRatio n 1).absValue / (powerOfTen 308).absValue := by
  have hbounds := pow_308_le
  have hone : (1 : ℚ) ≤ n := by exact_mod_cast hn
  have hbottom : (2 : ℚ) ^ (-1074 : ℤ) = (2 ^ 1074)⁻¹ := zpow_neg_coe_of_pos 2 (by norm_num)
  have hlow := (abs_le.mp (distance_digits_le hn hle)).1
  have hhigh := (abs_le.mp distance_powerOfTen_308_le).2
  have htwo := two_le_powerOfTen 308 (by norm_num) (le_refl 308)
  have hpow : (0 : ℚ) < 2 ^ 1074 := by positivity
  rw [hbottom, le_div_iff₀ (by linarith), inv_mul_le_iff₀ hpow]
  generalize (2 : ℚ) ^ 1074 = bottom at *
  generalize (10 : ℚ) ^ 308 = power at *
  nlinarith

/--
Neither the digits nor the power of ten are rounded up far enough to make a product infinite, except
perhaps for the greatest numbers of all.
-/
theorem mulMagnitude_powerOfTen_ne_infinity {exponent : ℕ} (hexponent : exponent ≤ 308)
    (h : (n : ℚ) * 10 ^ exponent ≤ (2 ^ 53 - 7 / 2) * 2 ^ (971 : ℤ)) :
    (Binary64.ofRatio n 1).mulMagnitude (powerOfTen exponent) ≠ infinity := by
  have hdigits := isNearest_ofNat hn (digits_le hle)
  have hpower := isNearest_powerOfTen exponent hexponent
  have hpowerpos := hpower.pos (bottom_le_of_one_le (one_le_pow_ten exponent))
  apply mulMagnitude_ne_infinity hdigits.hasMagnitude hpower.hasMagnitude (digits_pos hn hle)
    hpowerpos
  have hdistance := abs_mul_sub_mul_le (by exact_mod_cast hn) (by positivity)
    (distance_digits_le hn hle) (hpower.distance_le_mul (one_le_pow_ten exponent))
  have hunit : (0 : ℚ) < 2 ^ (971 : ℤ) := by positivity
  generalize (2 : ℚ) ^ (971 : ℤ) = unit at *
  have herror : (1 / 2 ^ 53 + 1 / 2 ^ 53 + 1 / 2 ^ 53 * (1 / 2 ^ 53)) * ((n : ℚ) * 10 ^ exponent) ≤
      201 / 100 * unit :=
    error_mul_le (by norm_num) (by norm_num) (by positivity) (by linarith)
  have := (abs_le.mp (hdistance.trans herror)).2
  linarith

theorem exists_scale_of_nonneg {exponent : ℕ} (hexponent : exponent ≤ 308)
    (hfits : (Binary64.ofRatio n 1).mulMagnitude (powerOfTen exponent) ≠ infinity) :
    ∃ x, scale (.ofRatio n 1) exponent = some x ∧ IsScaled n exponent x := by
  have hdigits := isNearest_ofNat hn (digits_le hle)
  have hpower := isNearest_powerOfTen exponent hexponent
  have hpos := digits_pos hn hle
  have hpowerpos := hpower.pos (bottom_le_of_one_le (one_le_pow_ten exponent))
  have hnearest := isNearest_mulMagnitude hdigits.hasMagnitude hpower.hasMagnitude hpos hpowerpos
    hfits
  refine ⟨_, ?_, _, hnearest, mul_pos hpos hpowerpos, ?_, ?_⟩
  . rw [scale, if_pos (by omega), if_pos (by omega), Int.toNat_natCast]
    dsimp only
    rw [isInfinite_of_finite hnearest.finite, if_neg Bool.false_ne_true]
  . intro unit hunit hdecimal
    rw [zpow_natCast] at *
    have hdistance := abs_mul_sub_mul_le (by exact_mod_cast hn) (by positivity)
      (distance_digits_le hn hle) (hpower.distance_le_mul (one_le_pow_ten exponent))
    apply hdistance.trans
    exact error_mul_le (by norm_num) (by norm_num) (by positivity) hdecimal
  . intro hexact hsmall
    rw [absValue_ofNat hn hexact, absValue_powerOfTen (by omega), zpow_natCast]

theorem exists_scale_of_neg {exponent : ℕ} (hpositive : 0 < exponent) (hexponent : exponent ≤ 308) :
    ∃ x, scale (.ofRatio n 1) (-exponent) = some x ∧ IsScaled n (-exponent) x := by
  have hdigits := isNearest_ofNat hn (digits_le hle)
  have hpower := isNearest_powerOfTen exponent hexponent
  have hpos := digits_pos hn hle
  have htwo := two_le_powerOfTen exponent hpositive hexponent
  have hnearest := isNearest_divMagnitude hdigits.hasMagnitude hpower.hasMagnitude hpos
    (by linarith) (div_lt_of_finite hdigits.finite htwo)
  have hvalue : (n : ℚ) * 10 ^ (-exponent : ℤ) = n / 10 ^ exponent := by
    rw [zpow_neg, zpow_natCast, div_eq_mul_inv]
  refine ⟨_, scale_of_neg hpositive hexponent, _, hnearest, by positivity, ?_, ?_⟩
  . intro unit hunit hdecimal
    rw [hvalue] at *
    have hdistance := abs_div_sub_div_le (by exact_mod_cast hn) (by positivity)
      (distance_digits_le hn hle) (hpower.distance_le_mul (one_le_pow_ten exponent)) (by norm_num)
    apply hdistance.trans
    exact error_mul_le (by norm_num) (by norm_num) (by positivity) hdecimal
  . intro hexact hsmall
    rw [hvalue, absValue_ofNat hn hexact, absValue_powerOfTen (by omega)]

/--
Far below, the digits are divided by the greatest power of ten first. The quotient may be too small
to be precise, but what it lacks is small beside the unit in the last place of the result.
-/
theorem exists_scale_of_deep {exponent : ℕ} (hpositive : 0 < exponent) (hexponent : exponent ≤ 16) :
    ∃ x, scale (.ofRatio n 1) (-(308 + exponent : ℕ)) = some x ∧
      IsScaled n (-(308 + exponent : ℕ)) x := by
  have hdigits := isNearest_ofNat hn (digits_le hle)
  have hgreatest := isNearest_powerOfTen 308 (le_refl 308)
  have hpower := isNearest_powerOfTen exponent (by omega)
  have hpos := digits_pos hn hle
  have htwo := two_le_powerOfTen 308 (by norm_num) (le_refl 308)
  have hquotient := isNearest_divMagnitude hdigits.hasMagnitude hgreatest.hasMagnitude hpos
    (by linarith) (div_lt_of_finite hdigits.finite htwo)
  have hquotientpos := hquotient.pos (bottom_le_first_quotient hn hle)
  have htwo' := two_le_powerOfTen exponent hpositive (by omega)
  have hnearest := isNearest_divMagnitude hquotient.hasMagnitude hpower.hasMagnitude hquotientpos
    (by linarith) (div_lt_of_finite hquotient.finite htwo')
  have hvalue : (n : ℚ) * 10 ^ (-(308 + exponent : ℕ) : ℤ) = n / 10 ^ 308 / 10 ^ exponent := by
    rw [zpow_neg, zpow_natCast, pow_add, div_div, div_eq_mul_inv]
  refine ⟨_, ?_, _, hnearest, div_pos hquotientpos (by linarith), ?_, by omega⟩
  . have hrest : (-(308 + exponent : ℕ) : ℤ) + 308 = -exponent := by omega
    rw [scale, if_neg (by omega), if_neg (by omega), if_neg (ofRatio_ne_zero hn hle), hrest]
    exact scale_of_neg hpositive (by omega)
  . intro unit hunit hdecimal
    rw [hvalue] at *
    have hpowerpos : (0 : ℚ) < 10 ^ exponent := by positivity
    have hscaled : (n : ℚ) / 10 ^ 308 ≤ 2 ^ 53 * (10 ^ exponent * unit) := by
      rw [div_le_iff₀ hpowerpos] at hdecimal
      apply hdecimal.trans_eq
      ring
    have hunit' : 2 ^ (-1074 : ℤ) ≤ 10 ^ exponent * unit := by
      have := one_le_pow_ten exponent
      have : (0 : ℚ) < 2 ^ (-1074 : ℤ) := by positivity
      nlinarith
    have hfirst : |(Binary64.ofRatio n 1).absValue / (powerOfTen 308).absValue - n / 10 ^ 308| ≤
        113 / 100 * (10 ^ exponent * unit) := by
      have hdistance := abs_div_sub_div_le (by exact_mod_cast hn) (by positivity)
        (distance_digits_le hn hle) distance_powerOfTen_308_le (by norm_num)
      apply hdistance.trans
      exact error_mul_le (by norm_num) (by norm_num) (by positivity) hscaled
    have hsecond := hquotient.distance_le_of_near (div_pos hpos (by linarith)) hfirst
      (by norm_num) hunit' hscaled
    rw [absValue_powerOfTen (by omega), ← sub_div, abs_div, abs_of_pos hpowerpos,
      div_le_iff₀ hpowerpos]
    apply hsecond.trans
    have : 0 < 10 ^ exponent * unit := mul_pos hpowerpos (lt_of_lt_of_le (by positivity) hunit)
    linarith

/--
Scaling fails for no decimal but one that is too great.
-/
theorem exists_scale {exponent : ℤ} (hmin : -324 ≤ exponent) (hmax : exponent ≤ 308)
    (hfits : 0 ≤ exponent →
      (Binary64.ofRatio n 1).mulMagnitude (powerOfTen exponent.toNat) ≠ infinity) :
    ∃ x, scale (.ofRatio n 1) exponent = some x ∧ IsScaled n exponent x := by
  obtain hnonneg | hneg := le_or_gt 0 exponent
  . obtain ⟨exponent, rfl⟩ := Int.eq_ofNat_of_zero_le hnonneg
    exact exists_scale_of_nonneg hn hle (by omega) (hfits hnonneg)
  . obtain ⟨exponent, rfl⟩ := Int.exists_eq_neg_ofNat hneg.le
    by_cases hshallow : exponent ≤ 308
    . exact exists_scale_of_neg hn hle (by omega) hshallow
    . obtain ⟨rest, rfl⟩ := Nat.exists_eq_add_of_lt (not_le.mp hshallow)
      exact exists_scale_of_deep hn hle (Nat.succ_pos rest) (by omega)

end Scaling

end Json.Number

end IRDiagnostics
