import IRDiagnostics.Proofs.Binary64.Shortest
import IRDiagnostics.Proofs.Json.Scale

/-!
This module contains how floating-point numbers are read from the literals that they are written as.
The digits are all read, but the power of ten and each step of scaling by it is rounded, so that the
number that is read may be another one nearby.
-/

namespace IRDiagnostics

namespace Json.Number

/-!
The digits of a literal.
-/

theorem leading_of_lt {whole : ℕ} (h : whole < UInt64.size) : leading whole = (whole, 0) := by
  rw [leading, if_pos h]

theorem appendFraction_lastDigits {n : ℕ} (h : n < UInt64.size) (exponent : ℤ) (count : ℕ)
    (rest : List (Fin 10)) :
    appendFraction (n / 10 ^ count) exponent (lastDigits n count ++ rest) =
      appendFraction n (exponent - count) rest := by
  induction count generalizing n rest with
  | zero => simp [lastDigits]
  | succ count ih =>
    have hdigit : n / 10 * 10 + (Fin.ofNat 10 n).val = n := Nat.div_add_mod' n 10
    rw [lastDigits, List.append_assoc, pow_succ', ← Nat.div_div_eq_div_mul]
    rw [ih (by omega), List.singleton_append, appendFraction, hdigit, if_pos h]
    congr 1
    push_cast
    ring

theorem significand_of_places {n : ℕ} (h : n < UInt64.size) (places : ℕ) (negative : Bool)
    (exponent : Option ℤ) :
    significand
        { negative, whole := n / 10 ^ places, fraction := lastDigits n places, exponent } =
      (n, exponent.getD 0 - places) := by
  have hwhole : n / 10 ^ places < UInt64.size := (Nat.div_le_self _ _).trans_lt h
  have hfraction := appendFraction_lastDigits h 0 places []
  rw [List.append_nil, appendFraction, zero_sub] at hfraction
  unfold significand
  dsimp only
  rw [leading_of_lt hwhole]
  dsimp only
  rw [Nat.cast_zero, hfraction]
  congr 1
  ring

theorem significand_of_digit (negative : Bool) {whole : ℕ} {digit : Fin 10}
    (h : whole * 10 + digit < UInt64.size) :
    significand { negative, whole, fraction := [digit] } = (whole * 10 + digit, -1) := by
  unfold significand
  dsimp only
  rw [leading_of_lt (by omega)]
  simp only [appendFraction]
  rw [if_pos h]
  rfl

theorem positional_lt {digits : ℕ} {exponent : ℤ}
    (h : 0 ≤ exponent ∧ (Nat.toDigits 10 digits).length + exponent ≤ 16) :
    digits * 10 ^ exponent.toNat < 10 ^ 16 := by
  calc digits * 10 ^ exponent.toNat
      < 10 ^ (Nat.toDigits 10 digits).length * 10 ^ exponent.toNat := by
        gcongr
        exact lt_pow_length_toDigits digits
    _ = 10 ^ ((Nat.toDigits 10 digits).length + exponent.toNat) := (pow_add _ _ _).symm
    _ ≤ 10 ^ 16 := Nat.pow_le_pow_right (by decide) (by omega)

theorem significand_ofDecimal (negative : Bool) {digits : ℕ} (h : digits ≤ 10 ^ 17)
    (exponent : ℤ) :
    (ofDecimal negative digits exponent).significand =
      if 0 ≤ exponent ∧ (Nat.toDigits 10 digits).length + exponent ≤ 16 then
        (digits * 10 ^ exponent.toNat * 10, -1)
      else
        (digits, exponent) := by
  have hsize : UInt64.size = 2 ^ 64 := rfl
  have hpos := Nat.length_toDigits_pos (b := 10) (n := digits)
  unfold ofDecimal
  dsimp only
  split
  . next hwhole =>
    have hlt := positional_lt hwhole
    rw [Nat.pow_eq, significand_of_digit negative (by rw [Fin.val_zero]; omega)]
    rfl
  . split
    . next hmiddle =>
      rw [Nat.pow_eq, significand_of_places (by omega)]
      congr 1
      rw [Option.getD_none]
      omega
    . rw [Nat.pow_eq, significand_of_places (by omega)]
      congr 1
      rw [Option.getD_some]
      omega

/--
A literal is read as the decimal that it was written for, with all of its digits.
-/
theorem significand_ofDecimal_spec (negative : Bool) {digits : ℕ} {exponent : ℤ}
    (hpos : 0 < digits) (hle : digits ≤ 10 ^ 17) (hmin : -324 ≤ exponent) :
    0 < (ofDecimal negative digits exponent).significand.1 ∧
      (ofDecimal negative digits exponent).significand.1 ≤ 10 ^ 17 ∧
      -324 ≤ (ofDecimal negative digits exponent).significand.2 ∧
      ((ofDecimal negative digits exponent).significand.1 : ℚ) *
          10 ^ (ofDecimal negative digits exponent).significand.2 =
        digits * 10 ^ exponent := by
  rw [significand_ofDecimal negative hle]
  split
  . next hwhole =>
    have hlt := positional_lt hwhole
    refine ⟨by positivity, by dsimp only; omega, by dsimp only; omega, ?_⟩
    obtain ⟨n, rfl⟩ := Int.eq_ofNat_of_zero_le hwhole.1
    rw [Int.toNat_natCast, zpow_natCast, zpow_neg_one]
    push_cast
    field_simp
  . exact ⟨hpos, hle, hmin, rfl⟩

open Binary64

/-!
The number that is read.
-/

/--
The greatest numbers are not read as infinite either.
-/
theorem greatest_mulMagnitude_ne_infinity :
    ∀ significand ∈ [2 ^ 53 - 3, 2 ^ 53 - 2, 2 ^ 53 - 1],
      (Binary64.ofRatio (shortest .even significand 971).1 1).mulMagnitude
          (powerOfTen (shortest .even significand 971).2.toNat) ≠ infinity := by
  decide +kernel

theorem exponent_le_of_decimal_le {n : ℕ} (hn : 0 < n) {exponent : ℤ}
    (h : (n : ℚ) * 10 ^ exponent ≤ 2 ^ 53 * 2 ^ (971 : ℤ)) : exponent ≤ 308 := by
  have hnat : 2 ^ 53 * 2 ^ 971 < 10 ^ 309 := by decide +kernel
  have hrat : (2 : ℚ) ^ 53 * 2 ^ 971 < 10 ^ 309 := by exact_mod_cast hnat
  have hone : (1 : ℚ) ≤ n := by exact_mod_cast hn
  have hpower : (10 : ℚ) ^ exponent < 10 ^ (309 : ℤ) := by
    calc (10 : ℚ) ^ exponent
        = 1 * 10 ^ exponent := (one_mul _).symm
      _ ≤ n * 10 ^ exponent := by gcongr
      _ ≤ 2 ^ 53 * 2 ^ (971 : ℤ) := h
      _ = 2 ^ 53 * 2 ^ 971 := congrArg _ (zpow_natCast 2 971)
      _ < 10 ^ 309 := hrat
      _ = 10 ^ (309 : ℤ) := (zpow_natCast 10 309).symm
  rw [zpow_lt_zpow_iff_right₀ (by norm_num)] at hpower
  omega

theorem ofBinary64?_of_pos {x : Binary64} (hx : x.biasedExponent ≠ 2047)
    (hpos : 0 < x.significand) :
    ofBinary64? x =
      some (ofDecimal x.isNegative (shortest .even x.significand x.unitExponent).1
        (shortest .even x.significand x.unitExponent).2) := by
  unfold ofBinary64?
  rw [datum_eq hx]
  dsimp only
  rw [if_neg hpos.ne']

theorem ofBinary64?_of_zero {x : Binary64} (hx : x.biasedExponent ≠ 2047)
    (hzero : x.significand = 0) :
    ofBinary64? x = some { negative := x.isNegative, whole := 0, fraction := [0] } := by
  unfold ofBinary64?
  rw [datum_eq hx]
  dsimp only
  rw [if_pos hzero]

section Shortest

variable {significand : ℕ} {exponent : ℤ}

theorem significand_add_half_le (hlt : significand < 2 ^ 53) :
    (significand : ℚ) + 1 / 2 ≤ 2 ^ 53 := by
  have : (significand : ℚ) + 1 ≤ 2 ^ 53 := by exact_mod_cast hlt
  linarith

/--
All but three numbers leave room for rounding below the least power of two that is too great.
-/
theorem upper_bound_le (hlt : significand < 2 ^ 53) (hmax : exponent ≤ 971)
    (htop : ¬ (exponent = 971 ∧ 2 ^ 53 - 3 ≤ significand)) :
    ((significand : ℚ) + 1 / 2) * 2 ^ exponent ≤ (2 ^ 53 - 7 / 2) * 2 ^ (971 : ℤ) := by
  by_cases hexponent : exponent = 971
  . have hle : significand + 4 ≤ 2 ^ 53 := by omega
    have hle : (significand : ℚ) + 4 ≤ 2 ^ 53 := by exact_mod_cast hle
    rw [hexponent]
    gcongr
    linarith
  . have hhalf : (2 : ℚ) ^ exponent ≤ 2 ^ (970 : ℤ) :=
      zpow_le_zpow_right₀ (by norm_num) (by omega)
    have hdouble : (2 : ℚ) ^ (971 : ℤ) = 2 ^ (970 : ℤ) * 2 := zpow_add_one₀ (by norm_num) 970
    calc ((significand : ℚ) + 1 / 2) * 2 ^ exponent
        ≤ 2 ^ 53 * 2 ^ (970 : ℤ) := by
          gcongr
          exact significand_add_half_le hlt
      _ ≤ (2 ^ 53 - 7 / 2) * 2 * 2 ^ (970 : ℤ) := by
          gcongr
          norm_num
      _ = (2 ^ 53 - 7 / 2) * 2 ^ (971 : ℤ) := by
          rw [hdouble, mul_assoc, mul_comm 2]

/--
The literal of a positive number is a decimal in its rounding interval, and scaling its digits does
not fail.
-/
theorem exists_scale_shortest (hpos : 0 < significand) (hlt : significand < 2 ^ 53)
    (hmin : -1074 ≤ exponent) (hmax : exponent ≤ 971) (negative : Bool) {literal : Number}
    (hliteral : literal = ofDecimal negative (shortest .even significand exponent).1
      (shortest .even significand exponent).2) :
    0 < literal.significand.1 ∧
      (roundingInterval significand exponent).Contains exponent
        (literal.significand.1 * 10 ^ literal.significand.2) ∧
      ∃ x, scale (.ofRatio literal.significand.1 1) literal.significand.2 = some x ∧
        IsScaled literal.significand.1 literal.significand.2 x := by
  obtain ⟨hdigits, hdigitsle, hgrid, hcontains⟩ := shortest_spec .even hpos hlt hmin
  obtain ⟨hn, hle, hexponent, hvalue⟩ :=
    significand_ofDecimal_spec negative hdigits hdigitsle hgrid
  have hform := significand_ofDecimal negative hdigitsle (shortest .even significand exponent).2
  rw [← hliteral] at hn hle hexponent hvalue hform
  rw [← hvalue] at hcontains
  have hhigh := (bounds_of_contains hpos hcontains).2
  have hpower : literal.significand.2 ≤ 308 := by
    apply exponent_le_of_decimal_le hn
    calc (literal.significand.1 : ℚ) * 10 ^ literal.significand.2
        ≤ (significand + 1 / 2) * 2 ^ exponent := hhigh
      _ ≤ 2 ^ 53 * 2 ^ (971 : ℤ) := by
          gcongr
          . exact significand_add_half_le hlt
          . norm_num
  refine ⟨hn, hcontains, exists_scale hn hle hexponent hpower ?_⟩
  intro hnonneg
  by_cases htop : exponent = 971 ∧ 2 ^ 53 - 3 ≤ significand
  . -- A great power of ten is not written positionally.
    split at hform
    . rw [hform] at hnonneg
      contradiction
    . rw [hform, htop.1]
      apply greatest_mulMagnitude_ne_infinity
      simp only [List.mem_cons, List.not_mem_nil, or_false]
      omega
  . apply mulMagnitude_powerOfTen_ne_infinity hn hle (by omega)
    rw [← zpow_natCast, Int.toNat_of_nonneg hnonneg]
    exact hhigh.trans (upper_bound_le hlt hmax htop)

end Shortest

/--
How far a number may be from the one whose literal it is read from. It has the same sign and is at
most four units in the last place away, and it is the same number if the digits of the literal and
the power of ten they are scaled by are exact.
-/
structure IsReading (literal : Number) (x y : Binary64) : Prop where
  finite : y.biasedExponent ≠ 2047
  isNegative_eq : y.isNegative = x.isNegative
  distance_le : |y.absValue - x.absValue| ≤ 4 * 2 ^ x.unitExponent
  eq_of_exact : literal.significand.1 ≤ 2 ^ 53 → literal.significand.2.natAbs ≤ 22 → y = x

theorem toBinary64?_eq_some {literal : Number} {magnitude : Binary64}
    (h : scale (.ofRatio literal.significand.1 1) literal.significand.2 = some magnitude) :
    literal.toBinary64? = some (if literal.negative then magnitude.neg else magnitude) := by
  unfold toBinary64?
  dsimp only
  rw [h]
  rfl

theorem negative_ofDecimal (negative : Bool) (digits : ℕ) (exponent : ℤ) :
    (ofDecimal negative digits exponent).negative = negative := by
  unfold ofDecimal
  dsimp only
  split
  . rfl
  . split
    . rfl
    . rfl

theorem withSign_fields {magnitude : Binary64} (h : magnitude.isNegative = false)
    (negative : Bool) :
    (if negative then magnitude.neg else magnitude).isNegative = negative ∧
      (if negative then magnitude.neg else magnitude).biasedExponent = magnitude.biasedExponent ∧
      (if negative then magnitude.neg else magnitude).absValue = magnitude.absValue := by
  cases negative with
  | false => exact ⟨h, rfl, rfl⟩
  | true =>
    obtain ⟨hnegative, hexponent, -⟩ := magnitude.fields_neg
    rw [h] at hnegative
    exact ⟨hnegative, hexponent, magnitude.absValue_neg⟩

theorem exists_reading_of_pos {x : Binary64} (hx : x.biasedExponent ≠ 2047)
    (hpos : 0 < x.significand) :
    ∃ literal y, ofBinary64? x = some literal ∧ literal.toBinary64? = some y ∧
      IsReading literal x y := by
  obtain ⟨hn, hcontains, magnitude, hscale, q, hnearest, hq, hnear, hexact⟩ :=
    exists_scale_shortest hpos x.significand_lt x.unitExponent_ge (unitExponent_le hx)
      x.isNegative rfl
  obtain ⟨hnegative, hexponent, hvalue⟩ :=
    withSign_fields hnearest.hasMagnitude.isNegative_eq x.isNegative
  refine ⟨_, _, ofBinary64?_of_pos hx hpos, toBinary64?_eq_some hscale, ?_⟩
  rw [negative_ofDecimal]
  refine ⟨?_, hnegative, ?_, ?_⟩
  . rw [hexponent]
    exact hnearest.finite
  . have hunit : 2 ^ (-1074 : ℤ) ≤ (2 : ℚ) ^ x.unitExponent :=
      zpow_le_zpow_right₀ (by norm_num) x.unitExponent_ge
    have hdecimal := (bounds_of_contains hpos hcontains).2.trans
      (mul_le_mul_of_nonneg_right (significand_add_half_le x.significand_lt) (by positivity))
    have hread := hnearest.distance_le_of_near hq (hnear _ hunit hdecimal) (by norm_num) hunit
      hdecimal
    have hwritten := abs_sub_le_of_contains hpos hcontains
    rw [hvalue, x.absValue_eq]
    apply (abs_sub_le _ _ _).trans ((add_le_add hread hwritten).trans _)
    have : (0 : ℚ) < 2 ^ x.unitExponent := by positivity
    linarith
  . intro hdigits hpower
    rw [hexact hdigits hpower] at hnearest
    apply ext_absValue hnegative
    rw [hvalue, x.absValue_eq]
    exact hnearest.absValue_eq_of_contains hpos x.significand_lt hcontains x.unitExponent_ge
      x.normal_or_bottom

theorem exists_reading_of_zero {x : Binary64} (hx : x.biasedExponent ≠ 2047)
    (hzero : x.significand = 0) :
    ∃ literal y, ofBinary64? x = some literal ∧ literal.toBinary64? = some y ∧
      IsReading literal x y := by
  have hsignificand : significand { negative := x.isNegative, whole := 0, fraction := [0] } =
      (0, -1) :=
    significand_of_digit x.isNegative (by decide)
  have hscale : scale (.ofRatio 0 1) (-1) = some zero := by
    apply (scale_of_neg Nat.one_pos (by norm_num)).trans
    decide +kernel
  have hread : toBinary64? { negative := x.isNegative, whole := 0, fraction := [0] } =
      some (if x.isNegative then zero.neg else zero) := by
    apply toBinary64?_eq_some
    rw [hsignificand]
    exact hscale
  obtain ⟨hnegative, -, hvalue⟩ :=
    withSign_fields (show zero.isNegative = false from rfl) x.isNegative
  have hsame : (if x.isNegative then zero.neg else zero) = x := by
    apply ext_absValue hnegative
    rw [hvalue, absValue_zero, x.absValue_eq, hzero, Nat.cast_zero, zero_mul]
  refine ⟨_, x, ofBinary64?_of_zero hx hzero, hread.trans (congrArg some hsame), hx, rfl, ?_, ?_⟩
  . rw [sub_self, abs_zero]
    positivity
  . intro _ _
    rfl

/--
The literal of every finite number is read as a number near it.
-/
theorem exists_reading {x : Binary64} (hx : x.biasedExponent ≠ 2047) :
    ∃ literal y, ofBinary64? x = some literal ∧ literal.toBinary64? = some y ∧
      IsReading literal x y := by
  obtain hzero | hpos := Nat.eq_zero_or_pos x.significand
  . exact exists_reading_of_zero hx hzero
  . exact exists_reading_of_pos hx hpos

end Json.Number

end IRDiagnostics
