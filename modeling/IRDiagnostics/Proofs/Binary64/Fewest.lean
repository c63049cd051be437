import IRDiagnostics.Proofs.Binary64.Shortest

/-!
This module contains that the digits which are chosen for a number are as few as possible. The
decimals that identify a number are those in its rounding interval, and one with fewer digits would
be a point of a coarser grid.
-/

namespace IRDiagnostics

theorem NearestEven.even_of_abs_eq {x : ℚ} {m : ℕ} (h : NearestEven x m)
    (habs : |x - m| = 1 / 2) : Even m := by
  -- There is another integer that is as near.
  have hother (k : ℤ) (hne : k ≠ m) (hk : |x - k| = 1 / 2) : Even m :=
    ((h k).2 (habs.trans hk.symm)).resolve_left hne
  obtain hx | hx := (abs_eq (by norm_num)).mp habs
  . apply hother (m + 1) (by omega)
    push_cast
    rw [abs_of_nonpos (by linarith)]
    linarith
  . apply hother (m - 1) (by omega)
    push_cast
    rw [abs_of_nonneg (by linarith)]
    linarith

namespace Binary64

/--
That a decimal identifies a finite number: what is nearest to the decimal has the magnitude of the
number.
-/
def IsIdentifiedBy (x : Binary64) (digits : ℕ) (exponent : ℤ) : Prop :=
  ∃ nearest, IsNearest (digits * 10 ^ exponent) nearest ∧ nearest.absValue = x.absValue

/--
That a decimal identifies a finite number and that none with fewer digits does.
-/
structure IsShortest (x : Binary64) (digits : ℕ) (exponent : ℤ) : Prop where
  isIdentifiedBy : x.IsIdentifiedBy digits exponent
  length_le : ∀ other exponent', x.IsIdentifiedBy other exponent' →
    (Nat.toDigits 10 digits).length ≤ (Nat.toDigits 10 other).length

theorem RoundingInterval.Contains.convex {interval : RoundingInterval} {exponent : ℤ} {a b q : ℚ}
    (ha : interval.Contains exponent a) (hb : interval.Contains exponent b) (hlow : a ≤ q)
    (hhigh : q ≤ b) : interval.Contains exponent q := by
  unfold RoundingInterval.Contains at *
  split
  . next hclosed =>
    rw [if_pos hclosed] at ha hb
    exact ⟨ha.1.trans hlow, hhigh.trans hb.2⟩
  . next hopen =>
    rw [if_neg hopen] at ha hb
    exact ⟨ha.1.trans_le hlow, hhigh.trans_lt hb.2⟩

section Grid

variable {significand : ℕ} {exponent : ℤ} (hpos : 0 < significand)

include hpos

theorem contains_value :
    (roundingInterval significand exponent).Contains exponent (significand * 2 ^ exponent) := by
  have hpow : (0 : ℚ) < 2 ^ exponent := by positivity
  have hgap := (lowerGap_bounds significand exponent).1
  apply contains_of_abs_sub_lt hpos
  rw [sub_self, abs_zero]
  apply mul_pos _ hpow
  linarith

/--
The two neighbours of the number stand for all points of a grid.
-/
theorem not_contains_of_nearest?_eq_none {tie : Tie} {gridExponent : ℤ}
    (hnone : (roundingInterval significand exponent).nearest? tie exponent gridExponent = none)
    (point : ℕ) :
    ¬ (roundingInterval significand exponent).Contains exponent (point * 10 ^ gridExponent) := by
  intro hpoint
  have hvalue : (roundingInterval significand exponent).Contains exponent
      (significand * 2 ^ exponent) :=
    contains_value hpos
  obtain ⟨below, hlow, hhigh, ⟨_, hsome, -⟩ | ⟨-, hbelow, habove⟩⟩ :=
    (roundingInterval significand exponent).nearest?_cases exponent gridExponent tie
  . rw [hnone] at hsome
    contradiction
  . rw [value_roundingInterval] at hlow hhigh
    obtain hgt | hle := Nat.lt_or_ge below point
    . apply habove
      apply hvalue.convex hpoint hhigh.le
      gcongr
      exact hgt
    . apply hbelow
      apply hpoint.convex hvalue _ hlow
      gcongr

/--
No decimal in the rounding interval has fewer digits. On a grid before the chosen one it would be a
point, and below all of these the digits do not reach up to the number.
-/
theorem length_shortest_le (hlt : significand < 2 ^ 53) (hmin : -1074 ≤ exponent) (tie : Tie)
    {digits : ℕ} {decimalExponent : ℤ}
    (h : (roundingInterval significand exponent).Contains exponent
      (digits * 10 ^ decimalExponent)) :
    (Nat.toDigits 10 (shortest tie significand exponent).1).length ≤
      (Nat.toDigits 10 digits).length := by
  obtain ⟨leading, places, point, hshortest, hleading, -, -, hpoint, -, -, hearlier⟩ :=
    exists_shortest_eq tie hpos hlt hmin
  have hshort : (Nat.toDigits 10 (shortest tie significand exponent).1).length ≤ places + 1 := by
    rw [Nat.length_toDigits_le_iff (by norm_num) (by omega), hshortest]
    have hpow : 10 ^ (places + 1) = 10 ^ places * 10 := pow_succ 10 places
    have hone : 0 < 10 ^ places := by positivity
    split
    . dsimp only
      omega
    . dsimp only
      omega
  apply hshort.trans
  by_contra hfewer
  cases places with
  | zero => exact hfewer Nat.length_toDigits_pos
  | succ places =>
    have hdigits : digits < 10 ^ (places + 1) := by
      rw [← Nat.length_toDigits_le_iff (by norm_num) (by omega)]
      omega
    have hnone := not_contains_of_nearest?_eq_none hpos (hearlier places (Nat.lt_succ_self _))
    by_cases hcoarse : leading - places ≤ decimalExponent
    . apply hnone (digits * 10 ^ (decimalExponent - (leading - places)).toNat)
      obtain ⟨n, hn⟩ := Int.le.dest hcoarse
      rw [← hn, zpow_add₀ (by norm_num), zpow_natCast] at h
      have hexponent : (decimalExponent - (leading - places)).toNat = n := by omega
      rw [hexponent]
      push_cast
      rw [mul_right_comm, mul_assoc]
      exact h
    . apply hnone (10 ^ places)
      have hgrid : ((10 ^ places : ℕ) : ℚ) * 10 ^ (leading - places) = 10 ^ leading := by
        push_cast
        rw [← zpow_natCast, ← zpow_add₀ (by norm_num)]
        congr 1
        ring
      rw [hgrid]
      apply h.convex (contains_value hpos) _ hleading
      calc (digits : ℚ) * 10 ^ decimalExponent
          ≤ 10 ^ (places + 1) * 10 ^ (leading - (places + 1 : ℕ)) := by
            gcongr
            . exact_mod_cast hdigits.le
            . norm_num
            . omega
        _ = 10 ^ leading := by
            rw [← zpow_natCast, ← zpow_add₀ (by norm_num)]
            congr 1
            ring

end Grid

/-!
The decimals that identify a number.
-/

theorem exists_isNearest {q : ℚ} (hq : 0 < q) (h : q < (2 ^ 53 - 1 / 2) * 2 ^ (971 : ℤ)) :
    ∃ x, IsNearest q x := by
  obtain ⟨num, hnum⟩ := Int.eq_ofNat_of_zero_le (Rat.num_nonneg.mpr hq.le)
  have hvalue : (num : ℚ) / q.den = q := by
    have hdiv := Rat.num_div_den q
    rw [hnum, Int.cast_natCast] at hdiv
    exact hdiv
  have hpos : 0 < num := by
    have := Rat.num_pos.mpr hq
    omega
  rw [← hvalue] at h ⊢
  exact ⟨_, isNearest_ofRatio hpos q.den_pos (ofRatio_ne_infinity hpos q.den_pos h)⟩

/--
The number that is nearest to a rational number in its own binade has it in its interval.
-/
theorem contains_of_nearestEven {significand : ℕ} {exponent : ℤ} {q : ℚ} (hpos : 0 < significand)
    (h : NearestEven (q / 2 ^ exponent) significand)
    (hbinade : significand = 2 ^ 52 ∧ -1074 < exponent → 2 ^ 52 * 2 ^ exponent ≤ q) :
    (roundingInterval significand exponent).Contains exponent q := by
  have hpow : (0 : ℚ) < 2 ^ exponent := by positivity
  obtain ⟨hlow, hhigh⟩ := abs_le.mp h.abs_sub_le
  have hgap : (significand : ℚ) - lowerGap significand exponent ≤ q / 2 ^ exponent ∧
      (|q / 2 ^ exponent - significand| ≠ 1 / 2 →
        (significand : ℚ) - lowerGap significand exponent < q / 2 ^ exponent) := by
    unfold lowerGap
    split
    . next hpower =>
      have hge := hbinade hpower
      rw [← le_div_iff₀ hpow] at hge
      rw [hpower.1]
      push_cast
      exact ⟨by linarith, fun _ => by linarith⟩
    . refine ⟨by linarith, ?_⟩
      intro hne
      have := (abs_lt.mp (lt_of_le_of_ne h.abs_sub_le hne)).1
      linarith
  rw [contains_roundingInterval_iff hpos]
  split
  . rw [← le_div_iff₀ hpow, ← div_le_iff₀ hpow]
    exact ⟨hgap.1, by linarith⟩
  . next hodd =>
    have hne : |q / 2 ^ exponent - significand| ≠ 1 / 2 := by
      intro heq
      exact hodd (Nat.even_iff.mp (h.even_of_abs_eq heq))
    have := (abs_lt.mp (lt_of_le_of_ne h.abs_sub_le hne)).2
    rw [← lt_div_iff₀ hpow, ← div_lt_iff₀ hpow]
    exact ⟨hgap.2 hne, by linarith⟩

theorem isNearest_zero_iff {x : Binary64} : IsNearest 0 x ↔ x = zero := by
  constructor
  . rintro ⟨significand, hnearest, hmagnitude⟩
    have hsignificand : significand = 0 := by
      have := hnearest.abs_sub_le
      rw [zero_div, zero_sub, abs_neg, Nat.abs_cast] at this
      have : (significand : ℚ) < 1 := by linarith
      have : significand < 1 := by exact_mod_cast this
      omega
    apply ext_absValue hmagnitude.isNegative_eq
    rw [hmagnitude.absValue_eq, hsignificand, Nat.cast_zero, zero_mul, absValue_zero]
  . rintro rfl
    refine ⟨0, ?_, by decide, rfl, ?_⟩
    . apply nearestEven_of_abs_le
      . norm_num
      . norm_num
    . rw [absValue_zero, Nat.cast_zero, zero_mul]

section Identified

variable {x : Binary64} {q : ℚ} (hpos : 0 < x.significand)

include hpos

/--
The significand and the unit in the last place are determined by the magnitude.
-/
theorem fields_of_absValue {significand : ℕ} {exponent : ℤ}
    (hvalue : x.absValue = significand * 2 ^ exponent) (hlt : significand < 2 ^ 53)
    (hmin : -1074 ≤ exponent) (hcanonical : 2 ^ 52 ≤ significand ∨ exponent = -1074) :
    x.significand = significand ∧ x.unitExponent = exponent := by
  have habs := x.absValue_eq
  have habspos : 0 < x.absValue := by
    rw [habs]
    positivity
  have hunit : x.unitExponent = exponent := by
    rw [← unitOf_absValue habspos]
    apply le_antisymm
    . apply unitOf_le habspos _ hmin
      rw [hvalue]
      gcongr
      exact_mod_cast hlt
    . obtain hnormal | hbottom := hcanonical
      . apply le_unitOf habspos
        rw [hvalue]
        gcongr
        exact_mod_cast hnormal
      . rw [hbottom]
        exact bottom_le_unitOf _
  rw [hvalue, hunit] at habs
  have hpow : (2 : ℚ) ^ exponent ≠ 0 := by positivity
  exact ⟨by exact_mod_cast (mul_right_cancel₀ hpow habs).symm, hunit⟩

theorem pos_of_contains
    (h : (roundingInterval x.significand x.unitExponent).Contains x.unitExponent q) : 0 < q := by
  have hone : (1 : ℚ) ≤ x.significand := by exact_mod_cast hpos
  have hgap := (lowerGap_bounds x.significand x.unitExponent).2
  apply lt_of_lt_of_le _ (bounds_of_contains hpos h).1
  apply mul_pos
  . linarith
  . positivity

theorem lt_greatest_of_contains (hx : x.biasedExponent ≠ 2047)
    (h : (roundingInterval x.significand x.unitExponent).Contains x.unitExponent q) :
    q < (2 ^ 53 - 1 / 2) * 2 ^ (971 : ℤ) := by
  have hlt := x.significand_lt
  have hunit : (2 : ℚ) ^ x.unitExponent ≤ 2 ^ (971 : ℤ) :=
    zpow_le_zpow_right₀ (by norm_num) (unitExponent_le hx)
  have hpow : (0 : ℚ) < 2 ^ x.unitExponent := by positivity
  have hupper : q < (2 ^ 53 - 1 / 2) * 2 ^ x.unitExponent := by
    rw [contains_roundingInterval_iff hpos] at h
    split at h
    . next heven =>
      -- The greatest significand is odd.
      have hle : x.significand + 2 ≤ 2 ^ 53 := by omega
      have hle : (x.significand : ℚ) + 2 ≤ 2 ^ 53 := by exact_mod_cast hle
      apply h.2.trans_lt
      gcongr
      linarith
    . have hle : (x.significand : ℚ) + 1 ≤ 2 ^ 53 := by exact_mod_cast hlt
      apply h.2.trans_le
      gcongr
      linarith
  exact hupper.trans_le (mul_le_mul_of_nonneg_left hunit (by norm_num))

theorem isNearest_of_contains (hx : x.biasedExponent ≠ 2047)
    (h : (roundingInterval x.significand x.unitExponent).Contains x.unitExponent q) :
    ∃ nearest, IsNearest q nearest ∧ nearest.absValue = x.absValue := by
  obtain ⟨nearest, hnearest⟩ :=
    exists_isNearest (pos_of_contains hpos h) (lt_greatest_of_contains hpos hx h)
  refine ⟨nearest, hnearest, ?_⟩
  rw [x.absValue_eq]
  exact hnearest.absValue_eq_of_contains hpos x.significand_lt h x.unitExponent_ge
    x.normal_or_bottom

theorem contains_of_isNearest {nearest : Binary64} (hq : 0 < q) (h : IsNearest q nearest)
    (hvalue : nearest.absValue = x.absValue) :
    (roundingInterval x.significand x.unitExponent).Contains x.unitExponent q := by
  obtain ⟨significand, hnearest, hmagnitude⟩ := h
  have habs : x.absValue = significand * 2 ^ unitOf q := hvalue.symm.trans hmagnitude.absValue_eq
  have hpow : (0 : ℚ) < 2 ^ unitOf q := by positivity
  have hbottom := bottom_le_unitOf q
  have hle : significand ≤ 2 ^ 53 := by
    apply hnearest.ge
    rw [div_le_iff₀ hpow]
    exact_mod_cast (lt_of_unitOf hq).le
  obtain hlt | rfl := hle.lt_or_eq
  . have hcanonical : 2 ^ 52 ≤ significand ∨ unitOf q = -1074 := by
      by_cases hsubnormal : unitOf q = -1074
      . exact .inr hsubnormal
      . left
        apply hnearest.le
        rw [le_div_iff₀ hpow]
        exact_mod_cast le_of_unitOf hq hsubnormal
    obtain ⟨hsignificand, hunit⟩ := fields_of_absValue hpos habs hlt hbottom hcanonical
    rw [hunit, hsignificand]
    apply contains_of_nearestEven (hsignificand ▸ hpos) hnearest
    intro hbinade
    exact le_of_unitOf hq (by omega)
  . -- The significand is rounded up to a power of two, which is in the next binade.
    have hdouble : (2 : ℚ) ^ (unitOf q + 1) = 2 ^ unitOf q * 2 := zpow_add_one₀ (by norm_num) _
    have habs : x.absValue = (2 ^ 52 : ℕ) * 2 ^ (unitOf q + 1) := by
      rw [habs, hdouble]
      push_cast
      ring
    obtain ⟨hsignificand, hunit⟩ :=
      fields_of_absValue hpos habs (by norm_num) (by omega) (.inl (le_refl _))
    have hlow := (abs_le.mp hnearest.abs_sub_le).1
    have hlow : (2 ^ 53 - 1 / 2) * 2 ^ unitOf q ≤ q := by
      rw [← le_div_iff₀ hpow]
      push_cast at hlow
      linarith
    have hhigh := lt_of_unitOf hq
    rw [hunit, hsignificand, contains_roundingInterval_iff (by norm_num), if_pos (by norm_num)]
    unfold lowerGap
    rw [if_pos ⟨rfl, by omega⟩, hdouble]
    push_cast
    constructor
    . linarith
    . linarith

/--
The decimals that identify a positive number are those in its rounding interval.
-/
theorem isIdentifiedBy_iff (hx : x.biasedExponent ≠ 2047) (digits : ℕ) (exponent : ℤ) :
    x.IsIdentifiedBy digits exponent ↔
      (roundingInterval x.significand x.unitExponent).Contains x.unitExponent
        (digits * 10 ^ exponent) := by
  constructor
  . rintro ⟨nearest, hnearest, hvalue⟩
    apply contains_of_isNearest hpos _ hnearest hvalue
    have hdigits : digits ≠ 0 := by
      rintro rfl
      rw [Nat.cast_zero, zero_mul, isNearest_zero_iff] at hnearest
      rw [hnearest, absValue_zero, x.absValue_eq] at hvalue
      have : 0 < (x.significand : ℚ) * 2 ^ x.unitExponent := by positivity
      exact this.ne hvalue
    have : 0 < digits := Nat.pos_of_ne_zero hdigits
    positivity
  . exact isNearest_of_contains hpos hx

theorem isShortest_shortest (hx : x.biasedExponent ≠ 2047) (tie : Tie) :
    x.IsShortest (shortest tie x.significand x.unitExponent).1
      (shortest tie x.significand x.unitExponent).2 := by
  obtain ⟨-, -, -, hcontains⟩ := shortest_spec tie hpos x.significand_lt x.unitExponent_ge
  refine ⟨(isIdentifiedBy_iff hpos hx _ _).mpr hcontains, ?_⟩
  intro digits exponent hidentified
  apply length_shortest_le hpos x.significand_lt x.unitExponent_ge
  exact (isIdentifiedBy_iff hpos hx _ _).mp hidentified

end Identified

theorem isShortest_zero {x : Binary64} (hzero : x.significand = 0) : x.IsShortest 0 0 := by
  refine ⟨⟨zero, ?_, ?_⟩, ?_⟩
  . rw [Nat.cast_zero, zero_mul, isNearest_zero_iff]
  . rw [absValue_zero, x.absValue_eq, hzero, Nat.cast_zero, zero_mul]
  . intro digits exponent _
    exact Nat.length_toDigits_pos

end Binary64

end IRDiagnostics
