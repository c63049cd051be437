import IRDiagnostics.Proofs.Binary64.Value
import IRDiagnostics.Remark.Argument

/-!
This module contains that a number of 32 bits is the same number in 64 bits: the subnormal numbers
become normal ones, but no digit is lost on the way. What is shown of it is therefore rounded once,
from the value of the 32 bit pattern.
-/

namespace IRDiagnostics

namespace Datum

/--
Patterns that stand for the same thing, whatever their significands and exponents are.
-/
inductive Same : Datum → Datum → Prop where
  | nan : Same .nan .nan
  | infinite (negative : Bool) : Same (.infinite negative) (.infinite negative)
  | finite (negative : Bool) {significand significand' : ℕ} {exponent exponent' : ℤ}
    (h : (significand : ℚ) * 2 ^ exponent = significand' * 2 ^ exponent') :
    Same (.finite negative significand exponent) (.finite negative significand' exponent')

/--
The texts of a floating-point datum in exponent form, told from its sign and its magnitude.
-/
inductive IsScientific : Datum → String → Prop where
  | nan : IsScientific .nan "NaN"
  | infinite (negative : Bool) :
    IsScientific (.infinite negative) (if negative then "-inf" else "inf")
  | zero (negative : Bool) (binary : ℤ) :
    IsScientific (.finite negative 0 binary)
      (if negative then "-0.000000e+00" else "0.000000e+00")
  | rounded (negative : Bool) {significand digits : ℕ} {binary exponent : ℤ}
    (hlow : (10 : ℚ) ^ exponent ≤ significand * 2 ^ binary)
    (hhigh : (significand : ℚ) * 2 ^ binary < 10 ^ (exponent + 1))
    (hdigits : NearestEven (significand * 2 ^ binary / 10 ^ (exponent - 6)) digits)
    (hseven : digits ≠ 10 ^ 7) :
    IsScientific (.finite negative significand binary)
      (Binary64.exponentForm negative digits exponent)
  /-- Rounding carries into the next power of ten. -/
  | carried (negative : Bool) {significand : ℕ} {binary exponent : ℤ}
    (hlow : (10 : ℚ) ^ exponent ≤ significand * 2 ^ binary)
    (hhigh : (significand : ℚ) * 2 ^ binary < 10 ^ (exponent + 1))
    (hdigits : NearestEven (significand * 2 ^ binary / 10 ^ (exponent - 6)) (10 ^ 7)) :
    IsScientific (.finite negative significand binary)
      (Binary64.exponentForm negative (10 ^ 6) (exponent + 1))

variable {a b : Datum}

theorem Same.symm (h : a.Same b) : b.Same a := by
  cases h with
  | nan => exact .nan
  | infinite negative => exact .infinite negative
  | finite negative h => exact .finite negative h.symm

theorem Same.isScientific (h : a.Same b) {text : String} (ha : a.IsScientific text) :
    b.IsScientific text := by
  cases h with
  | nan | infinite => exact ha
  | finite negative h =>
    cases ha with
    | zero =>
      rw [Nat.cast_zero, zero_mul] at h
      have hpow : ∀ exponent : ℤ, (2 : ℚ) ^ exponent ≠ 0 := fun exponent => by positivity
      rw [eq_comm, mul_eq_zero_iff_right (hpow _), Nat.cast_eq_zero] at h
      rw [h]
      apply IsScientific.zero
    | rounded _ hlow hhigh hdigits hseven =>
      rw [h] at hlow hhigh hdigits
      exact .rounded negative hlow hhigh hdigits hseven
    | carried _ hlow hhigh hdigits =>
      rw [h] at hlow hhigh hdigits
      exact .carried negative hlow hhigh hdigits

end Datum

namespace Binary64

theorem IsScientific.datum {x : Binary64} {text : String} (h : x.IsScientific text) :
    x.datum.IsScientific text := by
  cases h with
  | nan hexponent hfraction =>
    rw [datum_of_nan hexponent hfraction]
    exact .nan
  | infinite hexponent hfraction =>
    rw [datum_of_infinite hexponent hfraction]
    exact .infinite x.isNegative
  | zero hexponent hfraction =>
    rw [datum_eq (by omega)]
    have : x.significand = 0 := by
      unfold significand
      rw [if_pos hexponent, hfraction]
    rw [this]
    apply Datum.IsScientific.zero
  | rounded exponent digits hfinite hlow hhigh hdigits hseven =>
    rw [datum_eq hfinite]
    rw [absValue_eq] at hlow hhigh hdigits
    exact .rounded x.isNegative hlow hhigh hdigits hseven
  | carried exponent hfinite hlow hhigh hdigits =>
    rw [datum_eq hfinite]
    rw [absValue_eq] at hlow hhigh hdigits
    exact .carried x.isNegative hlow hhigh hdigits

theorem isScientific_of_datum {x : Binary64} {text : String} (h : x.datum.IsScientific text) :
    x.IsScientific text := by
  by_cases hfinite : x.biasedExponent = 2047
  . by_cases hfraction : x.fraction = 0
    . rw [datum_of_infinite hfinite hfraction] at h
      cases h
      exact .infinite hfinite hfraction
    . rw [datum_of_nan hfinite hfraction] at h
      cases h
      exact .nan hfinite hfraction
  . rw [datum_eq hfinite] at h
    have hvalue := absValue_eq x
    generalize x.significand = significand at h hvalue
    generalize x.unitExponent = binary at h hvalue
    cases h with
    | zero =>
      rw [Nat.cast_zero, zero_mul, absValue_eq_zero_iff] at hvalue
      exact .zero hvalue.1 hvalue.2
    | rounded _ hlow hhigh hdigits hseven =>
      rw [← hvalue] at hlow hhigh hdigits
      exact .rounded _ _ hfinite hlow hhigh hdigits hseven
    | carried _ hlow hhigh hdigits =>
      rw [← hvalue] at hlow hhigh hdigits
      exact .carried _ hfinite hlow hhigh hdigits

theorem datum_ofFields_normal (negative : Bool) {biasedExponent fraction : ℕ}
    (hpos : 0 < biasedExponent) (hexponent : biasedExponent < 2047) (hfraction : fraction < 2 ^ 52) :
    (ofFields negative biasedExponent fraction).datum =
      .finite negative (2 ^ 52 + fraction) (biasedExponent - 1075) := by
  obtain ⟨hnegative', hexponent', hfraction'⟩ :=
    fields_ofFields negative (by omega : biasedExponent < 2048) hfraction
  unfold datum
  rw [hnegative', hexponent', hfraction', if_neg (by omega), if_neg (by omega)]
  rfl

end Binary64

namespace Binary32

theorem shifted_mul_zpow (significand shift : ℕ) {low high : ℤ} (h : low + shift = high) :
    ((significand * 2 ^ shift : ℕ) : ℚ) * 2 ^ low = significand * 2 ^ high := by
  rw [← h, zpow_add₀ (by norm_num), zpow_natCast]
  push_cast
  ring

theorem fraction_lt (x : Binary32) : x.fraction < 2 ^ 23 :=
  Nat.mod_lt _ (by norm_num)

theorem biasedExponent_lt (x : Binary32) : x.biasedExponent < 256 :=
  Nat.mod_lt _ (by norm_num)

theorem datum_widen_of_special {x : Binary32} (h : x.biasedExponent = 255) :
    x.datum.Same x.widen.datum := by
  have hfraction := x.fraction_lt
  unfold datum widen
  rw [if_pos h, if_pos h]
  split
  . next hzero =>
    obtain ⟨hnegative', hexponent', hfraction'⟩ :=
      Binary64.fields_ofFields x.isNegative (by omega : 2047 < 2048) (by omega : 0 < 2 ^ 52)
    rw [Binary64.datum_of_infinite hexponent' hfraction', hnegative']
    exact .infinite x.isNegative
  . next hzero =>
    rw [Nat.shiftLeft_eq, Nat.shiftLeft_eq, Nat.shiftLeft_eq]
    obtain ⟨hnegative', hexponent', hfraction'⟩ :=
      Binary64.fields_ofFields x.isNegative (by omega : 2047 < 2048)
        (by omega : 1 * 2 ^ 51 + x.fraction % (1 * 2 ^ 22) * 2 ^ 29 < 2 ^ 52)
    rw [Binary64.datum_of_nan hexponent' (by omega)]
    exact .nan

theorem datum_widen_of_subnormal {x : Binary32} (h : x.biasedExponent = 0) :
    x.datum.Same x.widen.datum := by
  have hfraction := x.fraction_lt
  have hfinite : x.biasedExponent ≠ 255 := by omega
  unfold datum widen
  rw [if_neg hfinite, if_neg hfinite, if_pos h, if_pos h]
  split
  . next hzero =>
    obtain ⟨hnegative', hexponent', hfraction'⟩ :=
      Binary64.fields_ofFields x.isNegative (by omega : 0 < 2048) (by omega : 0 < 2 ^ 52)
    rw [Binary64.datum_eq (by omega), hnegative', Binary64.significand, hexponent', hfraction', hzero]
    apply Datum.Same.finite
    simp
  . next hzero =>
    have hlog : x.fraction.log2 < 23 := (Nat.log2_lt hzero).mpr hfraction
    obtain ⟨shift, hshift⟩ : ∃ shift, 23 - x.fraction.log2 = shift := ⟨_, rfl⟩
    have hlow : 2 ^ 23 ≤ x.fraction * 2 ^ shift := by
      calc 2 ^ 23 = 2 ^ x.fraction.log2 * 2 ^ shift := by
            rw [← pow_add]
            congr 1
            omega
        _ ≤ x.fraction * 2 ^ shift := by
            gcongr
            exact Nat.log2_self_le hzero
    have hhigh : x.fraction * 2 ^ shift < 2 ^ 24 := by
      calc x.fraction * 2 ^ shift < 2 ^ (x.fraction.log2 + 1) * 2 ^ shift := by
            gcongr
            exact Nat.lt_log2_self
        _ = 2 ^ 24 := by
            rw [← pow_add]
            congr 1
            omega
    dsimp only
    rw [hshift, Nat.shiftLeft_eq, Nat.shiftLeft_eq, Nat.shiftLeft_eq]
    rw [Binary64.datum_ofFields_normal _ (by omega) (by omega) (by omega)]
    have hsignificand : 2 ^ 52 + (x.fraction * 2 ^ shift - 1 * 2 ^ 23) * 2 ^ 29 =
        x.fraction * 2 ^ (shift + 29) := by
      rw [pow_add, ← mul_assoc]
      omega
    rw [hsignificand]
    apply Datum.Same.finite
    symm
    apply shifted_mul_zpow
    omega

theorem datum_widen_of_normal {x : Binary32} (h : x.biasedExponent ≠ 0)
    (hfinite : x.biasedExponent ≠ 255) : x.datum.Same x.widen.datum := by
  have hexponent := x.biasedExponent_lt
  have hfraction := x.fraction_lt
  unfold datum widen
  rw [if_neg hfinite, if_neg hfinite, if_neg h, if_neg h]
  rw [Nat.shiftLeft_eq, Nat.shiftLeft_eq]
  rw [Binary64.datum_ofFields_normal _ (by omega) (by omega) (by omega)]
  have hsignificand : 2 ^ 52 + x.fraction * 2 ^ 29 = (1 * 2 ^ 23 + x.fraction) * 2 ^ 29 := by omega
  rw [hsignificand]
  apply Datum.Same.finite
  symm
  apply shifted_mul_zpow
  omega

theorem datum_widen (x : Binary32) : x.datum.Same x.widen.datum := by
  by_cases hspecial : x.biasedExponent = 255
  . exact datum_widen_of_special hspecial
  . by_cases hsubnormal : x.biasedExponent = 0
    . exact datum_widen_of_subnormal hsubnormal
    . exact datum_widen_of_normal hsubnormal hspecial

end Binary32

/--
Widening changes neither the sign nor the value of a number, so an argument shows the exponent form
of the 32 bit number itself.
-/
theorem Argument.ofFloat_rounds_once (key : String) (x : Binary32) :
    x.datum.Same x.widen.datum ∧
      ∀ text, (ofFloat key x).val = text ↔ x.datum.IsScientific text := by
  have hsame := x.datum_widen
  refine ⟨hsame, ?_⟩
  intro text
  have hwidened := Binary64.isScientific_scientific x.widen
  constructor
  . rintro rfl
    apply hsame.symm.isScientific
    exact hwidened.datum
  . intro h
    apply hwidened.unique
    apply Binary64.isScientific_of_datum
    exact hsame.isScientific h

/-- The subnormal number next to zero. -/
example : (Argument.ofFloat "Ratio" ⟨0x80000001⟩).val = "-1.401298e-45" := by decide

end IRDiagnostics
