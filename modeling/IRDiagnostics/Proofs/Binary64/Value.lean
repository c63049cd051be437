import IRDiagnostics.Proofs.Binary64.Scientific
import Mathlib.Data.Int.Log

/-!
This module contains the magnitudes of floating-point numbers as whole multiples of a unit in the
last place. A number is determined by its sign and its magnitude.
-/

namespace IRDiagnostics

namespace Binary64

/-!
The fields of a pattern.
-/

theorem fields_ofNat (pattern : ℕ) (h : pattern < 2 ^ 64) :
    (⟨UInt64.ofNat pattern⟩ : Binary64).isNegative = decide (2 ^ 63 ≤ pattern) ∧
      (⟨UInt64.ofNat pattern⟩ : Binary64).biasedExponent = pattern / 2 ^ 52 % 2048 ∧
      (⟨UInt64.ofNat pattern⟩ : Binary64).fraction = pattern % 2 ^ 52 := by
  have hbits : (UInt64.ofNat pattern).toNat = pattern := UInt64.toNat_ofNat_of_lt' h
  unfold isNegative biasedExponent fraction
  dsimp only
  rw [hbits, Nat.shiftRight_eq_div_pow, Nat.shiftRight_eq_div_pow]
  refine ⟨?_, rfl, rfl⟩
  rw [decide_eq_decide]
  omega

theorem ofFields_eq (negative : Bool) (biasedExponent fraction : ℕ) :
    ofFields negative biasedExponent fraction =
      ⟨UInt64.ofNat (negative.toNat * 2 ^ 63 + biasedExponent * 2 ^ 52 + fraction)⟩ := by
  unfold ofFields
  rw [Nat.shiftLeft_eq, Nat.shiftLeft_eq]

theorem fields_ofFields (negative : Bool) {biasedExponent fraction : ℕ}
    (hexponent : biasedExponent < 2048) (hfraction : fraction < 2 ^ 52) :
    (ofFields negative biasedExponent fraction).isNegative = negative ∧
      (ofFields negative biasedExponent fraction).biasedExponent = biasedExponent ∧
      (ofFields negative biasedExponent fraction).fraction = fraction := by
  have hsign : negative.toNat ≤ 1 := Bool.toNat_le negative
  rw [ofFields_eq]
  obtain ⟨hnegative, hbiased, hrest⟩ :=
    fields_ofNat (negative.toNat * 2 ^ 63 + biasedExponent * 2 ^ 52 + fraction) (by omega)
  rw [hnegative, hbiased, hrest]
  refine ⟨?_, by omega, by omega⟩
  cases negative
  . rw [decide_eq_false_iff_not, Bool.toNat_false]
    omega
  . rw [decide_eq_true_eq, Bool.toNat_true]
    omega

theorem ext_fields {x y : Binary64} (hnegative : x.isNegative = y.isNegative)
    (hexponent : x.biasedExponent = y.biasedExponent) (hfraction : x.fraction = y.fraction) :
    x = y := by
  have hx := x.bits.toNat_lt
  have hy := y.bits.toNat_lt
  unfold isNegative at hnegative
  unfold biasedExponent at hexponent
  unfold fraction at hfraction
  rw [decide_eq_decide] at hnegative
  rw [Nat.shiftRight_eq_div_pow] at hnegative hexponent
  rw [Nat.shiftRight_eq_div_pow] at hnegative hexponent
  rw [Nat.shiftLeft_eq] at hfraction
  have hbits : x.bits.toNat = y.bits.toNat := by omega
  cases x
  cases y
  exact congrArg mk (UInt64.toNat_inj.mp hbits)

theorem fields_neg (x : Binary64) :
    x.neg.isNegative = !x.isNegative ∧ x.neg.biasedExponent = x.biasedExponent ∧
      x.neg.fraction = x.fraction :=
  fields_ofFields _ x.biasedExponent_lt x.fraction_lt

theorem absValue_neg (x : Binary64) : x.neg.absValue = x.absValue := by
  obtain ⟨-, hexponent, hfraction⟩ := x.fields_neg
  unfold absValue
  rw [hexponent, hfraction]

/-!
Significands and units in the last place.
-/

/--
The significand of a finite number, with the hidden leading one of the normal numbers.
-/
def significand (x : Binary64) : ℕ :=
  if x.biasedExponent = 0 then x.fraction else 2 ^ 52 + x.fraction

/--
The exponent of a unit in the last place of a finite number.
-/
def unitExponent (x : Binary64) : ℤ := (max x.biasedExponent 1 : ℕ) - 1075

theorem datum_eq {x : Binary64} (h : x.biasedExponent ≠ 2047) :
    x.datum = .finite x.isNegative x.significand x.unitExponent := by
  unfold datum significand unitExponent
  rw [if_neg h]
  split
  . next hzero => simp [hzero]
  . next hzero =>
    have : max x.biasedExponent 1 = x.biasedExponent := by omega
    rw [this]
    rfl

theorem absValue_eq (x : Binary64) : x.absValue = x.significand * 2 ^ x.unitExponent := by
  have hsplit : ∀ low high : ℤ, high = (52 : ℕ) + low → (2 : ℚ) ^ high = 2 ^ 52 * 2 ^ low := by
    rintro low high rfl
    rw [zpow_add₀ (by norm_num), zpow_natCast]
  unfold absValue significand unitExponent
  split
  . next hzero =>
    have hunit : ((max 0 1 : ℕ) : ℤ) - 1075 = -1074 := rfl
    rw [hsplit (-1074) (-1022) rfl, hzero, hunit, ← mul_assoc, div_mul_cancel₀ _ (by norm_num)]
  . next hzero =>
    have : max x.biasedExponent 1 = x.biasedExponent := by omega
    rw [this, hsplit (x.biasedExponent - 1075) (x.biasedExponent - 1023) (by omega), ← mul_assoc]
    congr 1
    push_cast
    field_simp
    norm_num

theorem significand_lt (x : Binary64) : x.significand < 2 ^ 53 := by
  have := x.fraction_lt
  unfold significand
  split
  all_goals omega

theorem unitExponent_ge (x : Binary64) : -1074 ≤ x.unitExponent := by
  unfold unitExponent
  omega

theorem unitExponent_le {x : Binary64} (h : x.biasedExponent ≠ 2047) : x.unitExponent ≤ 971 := by
  have := x.biasedExponent_lt
  unfold unitExponent
  omega

theorem normal_or_bottom (x : Binary64) : 2 ^ 52 ≤ x.significand ∨ x.unitExponent = -1074 := by
  unfold significand unitExponent
  split
  . right
    omega
  . left
    omega

theorem ext_significand {x y : Binary64} (hnegative : x.isNegative = y.isNegative)
    (hsignificand : x.significand = y.significand) (hunit : x.unitExponent = y.unitExponent) :
    x = y := by
  have hx := x.fraction_lt
  have hy := y.fraction_lt
  unfold significand at hsignificand
  unfold unitExponent at hunit
  apply ext_fields hnegative
  . split at hsignificand
    all_goals split at hsignificand
    all_goals omega
  . split at hsignificand
    all_goals split at hsignificand
    all_goals omega

end Binary64

/-!
The unit in the last place is determined by the magnitude.
-/

/--
The exponent of a unit in the last place of the numbers about as great as a positive number: a
significand has 53 bits unless it is that of a subnormal number.
-/
def unitOf (q : ℚ) : ℤ := max (Int.log 2 q - 52) (-1074)

theorem log_eq_of_bounds {q : ℚ} {exponent : ℤ} (hq : 0 < q) (hlow : 2 ^ exponent ≤ q)
    (hhigh : q < 2 ^ (exponent + 1)) : Int.log 2 q = exponent := by
  have hlow' := (Int.zpow_le_iff_le_log (b := 2) (by norm_num) hq).mp (by exact_mod_cast hlow)
  have hhigh' := (Int.lt_zpow_iff_log_lt (b := 2) (by norm_num) hq).mp (by exact_mod_cast hhigh)
  omega

theorem unitOf_le {q : ℚ} {exponent : ℤ} (hq : 0 < q) (hlt : q < 2 ^ 53 * 2 ^ exponent)
    (hexponent : -1074 ≤ exponent) : unitOf q ≤ exponent := by
  have hlog : Int.log 2 q < 53 + exponent := by
    rw [← Int.lt_zpow_iff_log_lt (by norm_num) hq]
    rw [Nat.cast_ofNat, zpow_add₀ (by norm_num)]
    exact_mod_cast hlt
  unfold unitOf
  omega

theorem le_unitOf {q : ℚ} {exponent : ℤ} (hq : 0 < q) (hle : 2 ^ 52 * 2 ^ exponent ≤ q) :
    exponent ≤ unitOf q := by
  have hlog : 52 + exponent ≤ Int.log 2 q := by
    rw [← Int.zpow_le_iff_le_log (by norm_num) hq]
    rw [Nat.cast_ofNat, zpow_add₀ (by norm_num)]
    exact_mod_cast hle
  unfold unitOf
  omega

theorem bottom_le_unitOf (q : ℚ) : -1074 ≤ unitOf q := le_max_right _ _

theorem lt_of_unitOf {q : ℚ} (hq : 0 < q) : q < 2 ^ 53 * 2 ^ unitOf q := by
  have hlog : Int.log 2 q < 53 + unitOf q := by
    unfold unitOf
    omega
  rw [← Int.lt_zpow_iff_log_lt (by norm_num) hq] at hlog
  rw [Nat.cast_ofNat, zpow_add₀ (by norm_num)] at hlog
  exact_mod_cast hlog

theorem le_of_unitOf {q : ℚ} (hq : 0 < q) (h : unitOf q ≠ -1074) : 2 ^ 52 * 2 ^ unitOf q ≤ q := by
  have hlog : 52 + unitOf q ≤ Int.log 2 q := by
    unfold unitOf at *
    omega
  rw [← Int.zpow_le_iff_le_log (by norm_num) hq] at hlog
  rw [Nat.cast_ofNat, zpow_add₀ (by norm_num)] at hlog
  exact_mod_cast hlog

namespace Binary64

theorem unitOf_absValue {x : Binary64} (h : 0 < x.absValue) :
    unitOf x.absValue = x.unitExponent := by
  have hunit : (0 : ℚ) < 2 ^ x.unitExponent := by positivity
  apply le_antisymm
  . apply unitOf_le h _ x.unitExponent_ge
    rw [absValue_eq, mul_lt_mul_iff_left₀ hunit]
    exact_mod_cast x.significand_lt
  . obtain hnormal | hbottom := x.normal_or_bottom
    . apply le_unitOf h
      rw [absValue_eq, mul_le_mul_iff_left₀ hunit]
      exact_mod_cast hnormal
    . rw [hbottom]
      apply bottom_le_unitOf

theorem absValue_zero : zero.absValue = 0 := (absValue_eq_zero_iff zero).mpr ⟨rfl, rfl⟩

theorem absValue_nonneg (x : Binary64) : 0 ≤ x.absValue := by
  rw [absValue_eq]
  positivity

/--
A number is determined by its sign and its magnitude.
-/
theorem ext_absValue {x y : Binary64} (hnegative : x.isNegative = y.isNegative)
    (hvalue : x.absValue = y.absValue) : x = y := by
  obtain hzero | hpos := x.absValue_nonneg.eq_or_lt
  . obtain ⟨hxexponent, hxfraction⟩ := (absValue_eq_zero_iff x).mp hzero.symm
    obtain ⟨hyexponent, hyfraction⟩ := (absValue_eq_zero_iff y).mp (hvalue ▸ hzero.symm)
    apply ext_fields hnegative
    . rw [hxexponent, hyexponent]
    . rw [hxfraction, hyfraction]
  . have hunit : x.unitExponent = y.unitExponent := by
      rw [← unitOf_absValue hpos, ← unitOf_absValue (hvalue ▸ hpos), hvalue]
    apply ext_significand hnegative _ hunit
    rw [absValue_eq, absValue_eq, hunit] at hvalue
    have hpow : (2 : ℚ) ^ y.unitExponent ≠ 0 := by positivity
    exact_mod_cast mul_right_cancel₀ hpow hvalue

/--
That a number is finite, without a sign, and has a magnitude.
-/
structure HasMagnitude (x : Binary64) (magnitude : ℚ) : Prop where
  finite : x.biasedExponent ≠ 2047
  isNegative_eq : x.isNegative = false
  absValue_eq : x.absValue = magnitude

theorem hasMagnitude_ofNat {significand exponent : ℕ} (hle : significand ≤ 2 ^ 53)
    (hnormal : exponent = 0 ∨ 2 ^ 52 ≤ significand)
    (hlt : exponent * 2 ^ 52 + significand < 2047 * 2 ^ 52) :
    HasMagnitude ⟨UInt64.ofNat (exponent * 2 ^ 52 + significand)⟩
      (significand * 2 ^ ((exponent : ℤ) - 1074)) := by
  obtain ⟨hnegative, hexponent, hfraction⟩ :=
    fields_ofNat (exponent * 2 ^ 52 + significand) (by omega)
  refine ⟨by omega, by rw [hnegative, decide_eq_false_iff_not]; omega, ?_⟩
  rw [absValue_eq]
  unfold Binary64.significand unitExponent
  rw [hexponent, hfraction]
  obtain hsmall | hmiddle | htop :
      significand < 2 ^ 52 ∨ 2 ^ 52 ≤ significand ∧ significand < 2 ^ 53 ∨
        significand = 2 ^ 53 := by omega
  . -- A subnormal number.
    obtain rfl : exponent = 0 := by omega
    rw [Nat.zero_mul, Nat.zero_add, Nat.div_eq_of_lt hsmall, Nat.mod_eq_of_lt hsmall]
    simp
  . have hdiv : (exponent * 2 ^ 52 + significand) / 2 ^ 52 % 2048 = exponent + 1 := by omega
    have hmod : 2 ^ 52 + (exponent * 2 ^ 52 + significand) % 2 ^ 52 = significand := by omega
    rw [hdiv, hmod, if_neg (by omega)]
    congr 2
    omega
  . -- The significand carries into the exponent.
    have hdiv : (exponent * 2 ^ 52 + significand) / 2 ^ 52 % 2048 = exponent + 2 := by omega
    have hmod : (exponent * 2 ^ 52 + significand) % 2 ^ 52 = 0 := by omega
    have hexponent : ((max (exponent + 2) 1 : ℕ) : ℤ) - 1075 = exponent - 1074 + 1 := by omega
    rw [hdiv, hmod, if_neg (by omega), hexponent, zpow_add_one₀ (by norm_num), htop]
    push_cast
    ring

end Binary64

end IRDiagnostics
