import IRDiagnostics.Binary64.Scientific
import IRDiagnostics.Proofs.Binary64.Rounding

/-!
This module contains what the exponent form of a floating-point number says. The magnitude of a
number is rounded once, from its exact value to seven digits with ties to even, and reading the
exponent back to widen it never fails.
-/

namespace IRDiagnostics

namespace Binary64

/--
The magnitude of a finite number. Without exponent bits there is no hidden leading one.
-/
def absValue (x : Binary64) : ℚ :=
  if x.biasedExponent = 0 then
    x.fraction / 2 ^ 52 * 2 ^ (-1022 : ℤ)
  else
    (1 + x.fraction / 2 ^ 52) * 2 ^ ((x.biasedExponent : ℤ) - 1023)

/--
Seven digits, the first one before the point, and an exponent with its sign and at least two digits.
-/
def exponentForm (negative : Bool) (digits : ℕ) (exponent : ℤ) : String :=
  String.ofList <|
    signChars negative ++ Nat.digitChar (digits / 10 ^ 6) :: '.' ::
      [5, 4, 3, 2, 1, 0].map (fun place => Nat.digitChar (digits / 10 ^ place % 10)) ++
      'e' :: (if exponent < 0 then '-' else '+') ::
        (Nat.toDigits 10 exponent.natAbs).leftpad 2 '0'

/--
The texts of a number in exponent form. There is one for each number.
-/
inductive IsScientific (x : Binary64) : String → Prop where
  | nan (hexponent : x.biasedExponent = 2047) (hfraction : x.fraction ≠ 0) :
    IsScientific x "NaN"
  | infinite (hexponent : x.biasedExponent = 2047) (hfraction : x.fraction = 0) :
    IsScientific x (if x.isNegative then "-inf" else "inf")
  | zero (hexponent : x.biasedExponent = 0) (hfraction : x.fraction = 0) :
    IsScientific x (if x.isNegative then "-0.000000e+00" else "0.000000e+00")
  /-- The exponent is that of the greatest power of ten in the magnitude. -/
  | rounded (exponent : ℤ) (digits : ℕ) (hfinite : x.biasedExponent ≠ 2047)
    (hlow : 10 ^ exponent ≤ x.absValue) (hhigh : x.absValue < 10 ^ (exponent + 1))
    (hdigits : NearestEven (x.absValue / 10 ^ (exponent - 6)) digits) (hseven : digits ≠ 10 ^ 7) :
    IsScientific x (exponentForm x.isNegative digits exponent)
  /-- Rounding carries into the next power of ten. -/
  | carried (exponent : ℤ) (hfinite : x.biasedExponent ≠ 2047)
    (hlow : 10 ^ exponent ≤ x.absValue) (hhigh : x.absValue < 10 ^ (exponent + 1))
    (hdigits : NearestEven (x.absValue / 10 ^ (exponent - 6)) (10 ^ 7)) :
    IsScientific x (exponentForm x.isNegative (10 ^ 6) (exponent + 1))

theorem biasedExponent_lt (x : Binary64) : x.biasedExponent < 2048 :=
  Nat.mod_lt _ (by norm_num)

theorem fraction_lt (x : Binary64) : x.fraction < 2 ^ 52 :=
  Nat.mod_lt _ (by norm_num)

theorem datum_of_infinite {x : Binary64} (hexponent : x.biasedExponent = 2047)
    (hfraction : x.fraction = 0) : x.datum = .infinite x.isNegative := by
  simp [datum, hexponent, hfraction]

theorem datum_of_nan {x : Binary64} (hexponent : x.biasedExponent = 2047)
    (hfraction : x.fraction ≠ 0) : x.datum = .nan := by
  simp [datum, hexponent, hfraction]

theorem datum_of_finite {x : Binary64} (h : x.biasedExponent ≠ 2047) :
    ∃ (significand : ℕ) (exponent : ℤ),
      x.datum = .finite x.isNegative significand exponent ∧
      (significand : ℚ) * 2 ^ exponent = x.absValue ∧
      significand < 2 ^ 53 ∧ -1074 ≤ exponent ∧ exponent ≤ 971 := by
  have hexponent := x.biasedExponent_lt
  have hfraction := x.fraction_lt
  unfold datum absValue
  rw [if_neg h]
  split
  . refine ⟨_, _, rfl, ?_, by omega, by omega, by omega⟩
    have : (2 : ℚ) ^ (-1022 : ℤ) = 2 ^ 52 * 2 ^ (-1074 : ℤ) := by
      rw [← zpow_natCast, ← zpow_add₀ (by norm_num)]
      norm_num
    rw [this]
    field_simp
  . refine ⟨_, _, rfl, ?_, by omega, by omega, by omega⟩
    have : (2 : ℚ) ^ ((x.biasedExponent : ℤ) - 1023) =
        2 ^ 52 * 2 ^ ((x.biasedExponent : ℤ) - 1075) := by
      rw [← zpow_natCast, ← zpow_add₀ (by norm_num)]
      congr 1
      push_cast
      ring
    rw [this]
    push_cast
    field_simp
    norm_num

theorem absValue_eq_zero_iff (x : Binary64) :
    x.absValue = 0 ↔ x.biasedExponent = 0 ∧ x.fraction = 0 := by
  unfold absValue
  split
  . next h => simp [h]
  . next h =>
    have : (0 : ℚ) < (1 + x.fraction / 2 ^ 52) * 2 ^ ((x.biasedExponent : ℤ) - 1023) := by
      positivity
    simp [h, this.ne']

theorem ratio_eq (significand : ℕ) (exponent : ℤ) :
    ((ratio significand exponent).1 : ℚ) / (ratio significand exponent).2 =
      significand * 2 ^ exponent := by
  unfold ratio
  rw [Nat.shiftLeft_eq, Nat.shiftLeft_eq]
  obtain ⟨n, rfl | rfl⟩ := exponent.eq_nat_or_neg
  . simp
  . simp [div_eq_mul_inv]

theorem ratio_pos {significand : ℕ} (h : 0 < significand) (exponent : ℤ) :
    0 < (ratio significand exponent).1 ∧ 0 < (ratio significand exponent).2 := by
  unfold ratio
  rw [Nat.shiftLeft_eq, Nat.shiftLeft_eq]
  constructor
  . positivity
  . positivity

theorem scaled_ratio_eq (num den : ℕ) (exponent : ℤ) :
    ((num * Nat.pow 10 (6 - exponent).toNat : ℕ) : ℚ) /
        (den * Nat.pow 10 (exponent - 6).toNat : ℕ) =
      num / den / 10 ^ (exponent - 6) := by
  have : 6 - exponent = -(exponent - 6) := by ring
  rw [this]
  generalize exponent - 6 = scale
  obtain ⟨n, rfl | rfl⟩ := scale.eq_nat_or_neg
  . simp [div_div]
  . simp [mul_div_right_comm]

end Binary64

theorem NearestEven.le {x : ℚ} {m k : ℕ} (h : NearestEven x m) (hk : k ≤ x) : k ≤ m := by
  by_contra hlt
  have hlt : (m : ℚ) < k := by exact_mod_cast (by omega : m < k)
  have := (h k).1
  rw [Int.cast_natCast, abs_of_nonneg (by linarith), abs_of_nonneg (by linarith)] at this
  linarith

theorem NearestEven.ge {x : ℚ} {m k : ℕ} (h : NearestEven x m) (hk : x ≤ k) : m ≤ k := by
  by_contra hlt
  have hlt : (k : ℚ) < m := by exact_mod_cast (by omega : k < m)
  have := (h k).1
  rw [Int.cast_natCast, abs_of_nonpos (by linarith), abs_of_nonpos (by linarith)] at this
  linarith

namespace Binary64

theorem sevenDigits_eq {num den : ℕ} (hnum : 0 < num) (hden : 0 < den) :
    ∃ (exponent : ℤ) (digits : ℕ),
      (10 : ℚ) ^ exponent ≤ num / den ∧ (num : ℚ) / den < 10 ^ (exponent + 1) ∧
      NearestEven (num / den / 10 ^ (exponent - 6)) digits ∧
      sevenDigits num den =
        if digits = 10 ^ 7 then (10 ^ 6, exponent + 1) else (digits, exponent) := by
  obtain ⟨hlow, hhigh⟩ := decimalExponent_spec hnum hden
  refine ⟨decimalExponent num den, _, hlow, hhigh, ?_, rfl⟩
  rw [← scaled_ratio_eq]
  apply nearestEven_roundHalf
  exact Nat.mul_pos hden (Nat.pow_pos (by norm_num))

theorem digits_bounds {x : ℚ} {exponent : ℤ} {digits : ℕ} (hlow : 10 ^ exponent ≤ x)
    (hhigh : x < 10 ^ (exponent + 1)) (hdigits : NearestEven (x / 10 ^ (exponent - 6)) digits) :
    10 ^ 6 ≤ digits ∧ digits ≤ 10 ^ 7 := by
  have hpow : (0 : ℚ) < 10 ^ (exponent - 6) := by positivity
  have hscale : ∀ n : ℕ, ((10 ^ n : ℕ) : ℚ) * 10 ^ (exponent - 6) = 10 ^ (exponent - 6 + n) := by
    intro n
    rw [zpow_add₀ (by norm_num), zpow_natCast, mul_comm]
    push_cast
    rfl
  constructor
  . apply hdigits.le
    rw [le_div_iff₀ hpow, hscale]
    simpa using hlow
  . apply hdigits.ge
    rw [div_le_iff₀ hpow, hscale]
    apply hhigh.le.trans_eq
    congr 1
    push_cast
    ring

theorem exponent_unique {x : ℚ} {e f : ℤ} (he : 10 ^ e ≤ x ∧ x < 10 ^ (e + 1))
    (hf : 10 ^ f ≤ x ∧ x < 10 ^ (f + 1)) : e = f := by
  have hef : (10 : ℚ) ^ e < 10 ^ (f + 1) := he.1.trans_lt hf.2
  have hfe : (10 : ℚ) ^ f < 10 ^ (e + 1) := hf.1.trans_lt he.2
  rw [zpow_lt_zpow_iff_right₀ (by norm_num)] at hef hfe
  omega

/-!
The text of the digits and of the exponent.
-/

theorem splitExponent?_append {mantissa : List Char} (h : 'e' ∉ mantissa) (exponent : List Char) :
    splitExponent? (mantissa ++ 'e' :: exponent) = some (mantissa, exponent) := by
  have hmantissa : ∀ c ∈ mantissa, c ≠ 'e' := by
    intro c hc heq
    rw [heq] at hc
    exact h hc
  unfold splitExponent?
  rw [List.dropWhile_append_of_pos (by simpa using hmantissa)]
  rw [List.takeWhile_append_of_pos (by simpa using hmantissa)]
  simp

theorem signedNumber?_toDigits (negative : Bool) {n : ℕ} (h : n < 2 ^ 31) :
    signedNumber? negative (Nat.toDigits 10 n) = some (if negative then -(n : ℤ) else n) := by
  have hdigits : (Nat.toDigits 10 n).all (·.isDigit) = true := by
    rw [List.all_eq_true]
    intro c hc
    exact isDigit_of_mem_toDigits hc
  have hmin : Int32.minValue.toInt = -2 ^ 31 := by rfl
  have hmax : Int32.maxValue.toInt = 2 ^ 31 - 1 := by rfl
  unfold signedNumber?
  rw [if_neg (by simp [hdigits])]
  dsimp only
  rw [Nat.ofDigitChars_ten_toDigits]
  rw [if_pos]
  cases negative
  . simp only [Bool.false_eq_true, if_false]
    omega
  . simp only [if_true]
    omega

theorem exponent?_eq {exponent : ℤ} (h : exponent.natAbs < 2 ^ 31) :
    exponent? ((if exponent < 0 then ['-'] else []) ++ Nat.toDigits 10 exponent.natAbs) =
      some exponent := by
  by_cases hneg : exponent < 0
  . rw [if_pos hneg]
    simp only [List.cons_append, List.nil_append, exponent?]
    rw [signedNumber?_toDigits true h, if_pos rfl]
    congr 1
    omega
  . rw [if_neg hneg]
    rw [List.nil_append]
    have hminus := not_mem_toDigits exponent.natAbs (c := '-') (by rfl)
    have hplus := not_mem_toDigits exponent.natAbs (c := '+') (by rfl)
    unfold exponent?
    split
    . next digits heq => simp [heq] at hminus
    . next digits heq => simp [heq] at hplus
    . rw [signedNumber?_toDigits false h, if_neg Bool.false_ne_true]
      congr 1
      omega

theorem exponentChars_eq (exponent : ℤ) :
    exponentChars exponent =
      (if exponent < 0 then '-' else '+') :: (Nat.toDigits 10 exponent.natAbs).leftpad 2 '0' := by
  unfold exponentChars
  rw [List.cons_append]
  congr 1
  have hpos := Nat.length_toDigits_pos (b := 10) (n := exponent.natAbs)
  have hone := Nat.length_toDigits_le_iff (b := 10) (n := exponent.natAbs) (k := 1) (by omega)
    (by omega)
  unfold List.leftpad
  split
  . have : (Nat.toDigits 10 exponent.natAbs).length = 1 := by omega
    rw [this]
    rfl
  . have : 2 - (Nat.toDigits 10 exponent.natAbs).length = 0 := by omega
    rw [this]
    rfl

theorem not_mem_signChars (negative : Bool) : 'e' ∉ signChars negative := by
  cases negative <;> decide

def mantissaChars (digits : ℕ) : List Char :=
  Nat.digitChar (digits / 10 ^ 6) :: '.' ::
    [5, 4, 3, 2, 1, 0].map fun place => Nat.digitChar (digits / 10 ^ place % 10)

theorem digitsChars_eq {digits : ℕ} (hlow : 10 ^ 6 ≤ digits) (hhigh : digits < 10 ^ 7)
    (exponent : ℤ) :
    digitsChars digits exponent =
      mantissaChars digits ++
        'e' :: ((if exponent < 0 then ['-'] else []) ++ Nat.toDigits 10 exponent.natAbs) := by
  unfold digitsChars mantissaChars
  rw [toDigits_eq_map_places hlow hhigh]
  dsimp only
  rw [List.append_assoc]
  rfl

theorem not_mem_mantissaChars {digits : ℕ} (hlow : 10 ^ 6 ≤ digits) (hhigh : digits < 10 ^ 7) :
    'e' ∉ mantissaChars digits := by
  have hdigits := not_mem_toDigits digits (c := 'e') (by rfl)
  rw [toDigits_eq_map_places hlow hhigh] at hdigits
  have hplaces : (List.range 6).reverse = [5, 4, 3, 2, 1, 0] := by rfl
  rw [hplaces] at hdigits
  unfold mantissaChars
  simpa using hdigits

theorem not_mem_mantissa (negative : Bool) {digits : ℕ} (hlow : 10 ^ 6 ≤ digits)
    (hhigh : digits < 10 ^ 7) : 'e' ∉ signChars negative ++ mantissaChars digits := by
  rw [List.mem_append, not_or]
  exact ⟨not_mem_signChars negative, not_mem_mantissaChars hlow hhigh⟩

theorem widenExponent_digitsChars (negative : Bool) {digits : ℕ} {exponent : ℤ}
    (hlow : 10 ^ 6 ≤ digits) (hhigh : digits < 10 ^ 7) (hexponent : exponent.natAbs < 2 ^ 31) :
    String.ofList (widenExponent (signChars negative ++ digitsChars digits exponent)) =
      exponentForm negative digits exponent := by
  rw [digitsChars_eq hlow hhigh, ← List.append_assoc]
  unfold widenExponent exponentForm
  rw [splitExponent?_append (not_mem_mantissa negative hlow hhigh)]
  dsimp only
  rw [exponent?_eq hexponent, Option.getD_some, exponentChars_eq]
  unfold mantissaChars
  congr 1

theorem natAbs_exponent_lt {significand : ℕ} {binary exponent : ℤ} (hpos : 0 < significand)
    (hlt : significand < 2 ^ 53) (hmin : -1074 ≤ binary) (hmax : binary ≤ 971)
    (hlow : (10 : ℚ) ^ exponent ≤ significand * 2 ^ binary)
    (hhigh : (significand : ℚ) * 2 ^ binary < 10 ^ (exponent + 1)) :
    exponent.natAbs < 2 ^ 30 := by
  have hten : ∀ n : ℕ, (2 : ℚ) ^ n ≤ 10 ^ n := by
    intro n
    exact pow_le_pow_left₀ (by norm_num) (by norm_num) n
  -- The magnitude lies between powers of two, and powers of ten lie further out.
  have habove : exponent < 1024 := by
    rw [← zpow_lt_zpow_iff_right₀ (a := (10 : ℚ)) (by norm_num)]
    calc (10 : ℚ) ^ exponent
        ≤ significand * 2 ^ binary := hlow
      _ ≤ significand * 2 ^ (971 : ℤ) := by
          gcongr
          norm_num
      _ < 2 ^ 53 * 2 ^ (971 : ℤ) := by
          gcongr
          exact_mod_cast hlt
      _ = 2 ^ 1024 := by
          rw [← zpow_natCast, ← zpow_natCast, ← zpow_add₀ (by norm_num)]
          norm_num
      _ ≤ 10 ^ 1024 := hten 1024
      _ = 10 ^ (1024 : ℤ) := by
          rw [← zpow_natCast]
          norm_num
  have hbelow : -1074 < exponent + 1 := by
    rw [← zpow_lt_zpow_iff_right₀ (a := (10 : ℚ)) (by norm_num)]
    calc (10 : ℚ) ^ (-1074 : ℤ)
        = (10 ^ 1074)⁻¹ := by rw [zpow_neg]; norm_cast
      _ ≤ (2 ^ 1074)⁻¹ := by
          gcongr
          norm_num
      _ = 1 * 2 ^ (-1074 : ℤ) := by rw [one_mul, zpow_neg]; norm_cast
      _ ≤ significand * 2 ^ binary := by
          gcongr
          . exact_mod_cast hpos
          . norm_num
      _ < 10 ^ (exponent + 1) := hhigh
  omega

theorem shortChars_of_finite {x : Binary64} (hfinite : x.biasedExponent ≠ 2047)
    (hzero : ¬ (x.biasedExponent = 0 ∧ x.fraction = 0)) :
    ∃ (digits : ℕ) (exponent : ℤ),
      shortChars x.datum = signChars x.isNegative ++ digitsChars digits exponent ∧
      10 ^ 6 ≤ digits ∧ digits < 10 ^ 7 ∧ exponent.natAbs < 2 ^ 31 ∧
      x.IsScientific (exponentForm x.isNegative digits exponent) := by
  obtain ⟨significand, binary, hdatum, hvalue, hlt, hmin, hmax⟩ := datum_of_finite hfinite
  rw [← absValue_eq_zero_iff, ← hvalue] at hzero
  have hpos : 0 < significand := by
    rw [Nat.pos_iff_ne_zero]
    rintro rfl
    simp at hzero
  obtain ⟨hnum, hden⟩ := ratio_pos hpos binary
  obtain ⟨exponent, digits, hlow, hhigh, hdigits, hseven⟩ := sevenDigits_eq hnum hden
  rw [ratio_eq] at hlow hhigh hdigits
  have hexponent := natAbs_exponent_lt hpos hlt hmin hmax hlow hhigh
  rw [hvalue] at hlow hhigh hdigits
  obtain ⟨hmin, hmax⟩ := digits_bounds hlow hhigh hdigits
  have hshort : shortChars x.datum = signChars x.isNegative ++
      digitsChars (sevenDigits (ratio significand binary).1 (ratio significand binary).2).1
        (sevenDigits (ratio significand binary).1 (ratio significand binary).2).2 := by
    rw [hdatum]
    simp only [shortChars, if_neg hpos.ne']
  rw [hseven] at hshort
  by_cases hcarry : digits = 10 ^ 7
  . rw [if_pos hcarry] at hshort
    refine ⟨_, _, hshort, by omega, by omega, by omega, ?_⟩
    rw [hcarry] at hdigits
    exact .carried exponent hfinite hlow hhigh hdigits
  . rw [if_neg hcarry] at hshort
    refine ⟨_, _, hshort, by omega, by omega, by omega, ?_⟩
    exact .rounded exponent digits hfinite hlow hhigh hdigits hcarry

theorem shortChars_of_zero {x : Binary64} (hexponent : x.biasedExponent = 0)
    (hfraction : x.fraction = 0) :
    shortChars x.datum =
      signChars x.isNegative ++ ['0', '.', '0', '0', '0', '0', '0', '0', 'e', '0'] := by
  simp [datum, hexponent, hfraction, shortChars]

theorem shortChars_of_infinite {x : Binary64} (hexponent : x.biasedExponent = 2047)
    (hfraction : x.fraction = 0) :
    shortChars x.datum = signChars x.isNegative ++ ['i', 'n', 'f'] := by
  rw [datum_of_infinite hexponent hfraction, shortChars]

theorem shortChars_of_nan {x : Binary64} (hexponent : x.biasedExponent = 2047)
    (hfraction : x.fraction ≠ 0) : shortChars x.datum = ['N', 'a', 'N'] := by
  rw [datum_of_nan hexponent hfraction, shortChars]

theorem widenExponent_zero (negative : Bool) :
    String.ofList (widenExponent
        (signChars negative ++ ['0', '.', '0', '0', '0', '0', '0', '0', 'e', '0'])) =
      if negative then "-0.000000e+00" else "0.000000e+00" := by
  cases negative <;> decide

theorem widenExponent_infinite (negative : Bool) :
    String.ofList (widenExponent (signChars negative ++ ['i', 'n', 'f'])) =
      if negative then "-inf" else "inf" := by
  cases negative <;> decide

theorem isScientific_scientific (x : Binary64) : x.IsScientific x.scientific := by
  unfold scientific
  by_cases hfinite : x.biasedExponent = 2047
  . by_cases hfraction : x.fraction = 0
    . rw [shortChars_of_infinite hfinite hfraction, widenExponent_infinite]
      exact .infinite hfinite hfraction
    . rw [shortChars_of_nan hfinite hfraction]
      exact .nan hfinite hfraction
  . by_cases hzero : x.biasedExponent = 0 ∧ x.fraction = 0
    . rw [shortChars_of_zero hzero.1 hzero.2, widenExponent_zero]
      exact .zero hzero.1 hzero.2
    . obtain ⟨digits, exponent, hshort, hmin, hmax, hexponent, hspec⟩ :=
        shortChars_of_finite hfinite hzero
      rw [hshort, widenExponent_digitsChars _ hmin hmax hexponent]
      exact hspec

theorem not_zero_of_le_absValue {x : Binary64} {exponent : ℤ}
    (hlow : 10 ^ exponent ≤ x.absValue) : ¬ (x.biasedExponent = 0 ∧ x.fraction = 0) := by
  rw [← absValue_eq_zero_iff]
  intro hzero
  rw [hzero] at hlow
  have : (0 : ℚ) < 10 ^ exponent := by positivity
  linarith

theorem IsScientific.unique {x : Binary64} {s t : String} (hs : x.IsScientific s)
    (ht : x.IsScientific t) : s = t := by
  cases hs with
  | nan hexponent hfraction =>
    cases ht with
    | nan => rfl
    | infinite _ hfraction' => exact absurd hfraction' hfraction
    | zero _ hfraction' => exact absurd hfraction' hfraction
    | rounded _ _ hfinite => exact absurd hexponent hfinite
    | carried _ hfinite => exact absurd hexponent hfinite
  | infinite hexponent hfraction =>
    cases ht with
    | nan _ hfraction' => exact absurd hfraction hfraction'
    | infinite => rfl
    | zero hexponent' => omega
    | rounded _ _ hfinite => exact absurd hexponent hfinite
    | carried _ hfinite => exact absurd hexponent hfinite
  | zero hexponent hfraction =>
    cases ht with
    | nan _ hfraction' => exact absurd hfraction hfraction'
    | infinite hexponent' => omega
    | zero => rfl
    | rounded _ _ _ hlow => exact absurd ⟨hexponent, hfraction⟩ (not_zero_of_le_absValue hlow)
    | carried _ _ hlow => exact absurd ⟨hexponent, hfraction⟩ (not_zero_of_le_absValue hlow)
  | rounded exponent digits hfinite hlow hhigh hdigits hseven =>
    cases ht with
    | nan hexponent => exact absurd hexponent hfinite
    | infinite hexponent => exact absurd hexponent hfinite
    | zero hexponent hfraction => exact absurd ⟨hexponent, hfraction⟩ (not_zero_of_le_absValue hlow)
    | rounded exponent' digits' _ hlow' hhigh' hdigits' =>
      -- The magnitude determines the exponent, and the exponent the digits.
      obtain rfl := exponent_unique ⟨hlow, hhigh⟩ ⟨hlow', hhigh'⟩
      rw [hdigits.unique hdigits']
    | carried exponent' _ hlow' hhigh' hdigits' =>
      obtain rfl := exponent_unique ⟨hlow, hhigh⟩ ⟨hlow', hhigh'⟩
      exact absurd (hdigits.unique hdigits') hseven
  | carried exponent hfinite hlow hhigh hdigits =>
    cases ht with
    | nan hexponent => exact absurd hexponent hfinite
    | infinite hexponent => exact absurd hexponent hfinite
    | zero hexponent hfraction => exact absurd ⟨hexponent, hfraction⟩ (not_zero_of_le_absValue hlow)
    | rounded exponent' digits' _ hlow' hhigh' hdigits' hseven' =>
      obtain rfl := exponent_unique ⟨hlow, hhigh⟩ ⟨hlow', hhigh'⟩
      exact absurd (hdigits'.unique hdigits) hseven'
    | carried exponent' _ hlow' hhigh' =>
      obtain rfl := exponent_unique ⟨hlow, hhigh⟩ ⟨hlow', hhigh'⟩
      rfl

theorem all_isSome_exponent? (x : Binary64) :
    ((splitExponent? (shortChars x.datum)).all fun (_, exponent) =>
      (exponent? exponent).isSome) = true := by
  by_cases hfinite : x.biasedExponent = 2047
  . by_cases hfraction : x.fraction = 0
    . rw [shortChars_of_infinite hfinite hfraction]
      cases x.isNegative <;> rfl
    . rw [shortChars_of_nan hfinite hfraction]
      rfl
  . by_cases hzero : x.biasedExponent = 0 ∧ x.fraction = 0
    . rw [shortChars_of_zero hzero.1 hzero.2]
      cases x.isNegative <;> rfl
    . obtain ⟨digits, exponent, hshort, hmin, hmax, hexponent, -⟩ :=
        shortChars_of_finite hfinite hzero
      rw [hshort, digitsChars_eq hmin hmax, ← List.append_assoc]
      rw [splitExponent?_append (not_mem_mantissa x.isNegative hmin hmax)]
      rw [Option.all_some]
      dsimp only
      rw [exponent?_eq hexponent]
      rfl

/--
The shown text of every number is the one of its exponent form, and the exponent that is read back
to widen it never counts as zero for being unreadable.
-/
theorem scientific_eq_iff_isScientific (x : Binary64) :
    (∀ text, x.scientific = text ↔ x.IsScientific text) ∧
      ((splitExponent? (shortChars x.datum)).all fun (_, exponent) =>
        (exponent? exponent).isSome) = true := by
  constructor
  . intro text
    constructor
    . rintro rfl
      exact isScientific_scientific x
    . intro h
      exact (isScientific_scientific x).unique h
  . exact all_isSome_exponent? x

end Binary64

end IRDiagnostics
