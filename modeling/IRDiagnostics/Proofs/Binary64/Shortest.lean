import IRDiagnostics.Binary64.Shortest
import IRDiagnostics.Proofs.Binary64.Nearest

/-!
This module contains the choice of the fewest digits. Seventeen digits are enough for a decimal that
is nearer to a number than to any other, and rounding such a decimal gives the number again.
-/

namespace IRDiagnostics

namespace Binary64

namespace RoundingInterval

/--
Whether a rational number lies in an interval whose unit in the last place is `2 ^ exponent`.
-/
def Contains (interval : RoundingInterval) (exponent : ℤ) (q : ℚ) : Prop :=
  if interval.closed then
    interval.lower * 2 ^ (exponent - 2) ≤ q ∧ q ≤ interval.upper * 2 ^ (exponent - 2)
  else
    interval.lower * 2 ^ (exponent - 2) < q ∧ q < interval.upper * 2 ^ (exponent - 2)

theorem pow_toNat_neg_mul {b : ℚ} (hb : b ≠ 0) (n : ℤ) : b ^ (-n).toNat * b ^ n = b ^ n.toNat := by
  obtain ⟨n, rfl | rfl⟩ := n.eq_nat_or_neg
  . simp
  . simp [hb]

section Grid

variable (exponent gridExponent : ℤ)

/--
The numerator and the denominator of a grid are a power of two and a power of ten with a common
factor.
-/
theorem exists_common_factor :
    ∃ factor : ℚ, 0 < factor ∧
      ((Nat.pow 10 (-gridExponent).toNat <<< (exponent - 2).toNat : ℕ) : ℚ) =
        2 ^ (exponent - 2) * factor ∧
      ((Nat.pow 10 gridExponent.toNat <<< (2 - exponent).toNat : ℕ) : ℚ) =
        10 ^ gridExponent * factor := by
  have hneg : 2 - exponent = -(exponent - 2) := by ring
  refine ⟨10 ^ (-gridExponent).toNat * 2 ^ (-(exponent - 2)).toNat, by positivity, ?_, ?_⟩
  . rw [Nat.shiftLeft_eq, Nat.cast_mul, Nat.pow_eq, Nat.cast_pow, Nat.cast_pow]
    rw [Nat.cast_ofNat, Nat.cast_ofNat, ← pow_toNat_neg_mul (by norm_num) (exponent - 2)]
    ring
  . rw [Nat.shiftLeft_eq, Nat.cast_mul, Nat.pow_eq, Nat.cast_pow, Nat.cast_pow]
    rw [Nat.cast_ofNat, Nat.cast_ofNat, hneg, ← pow_toNat_neg_mul (by norm_num) gridExponent]
    ring

theorem scaled_le_iff (bound point : ℕ) :
    (bound * Nat.pow 10 (-gridExponent).toNat <<< (exponent - 2).toNat ≤
        point * Nat.pow 10 gridExponent.toNat <<< (2 - exponent).toNat ↔
      (bound : ℚ) * 2 ^ (exponent - 2) ≤ point * 10 ^ gridExponent) ∧
    (point * Nat.pow 10 gridExponent.toNat <<< (2 - exponent).toNat ≤
        bound * Nat.pow 10 (-gridExponent).toNat <<< (exponent - 2).toNat ↔
      (point : ℚ) * 10 ^ gridExponent ≤ bound * 2 ^ (exponent - 2)) := by
  obtain ⟨factor, hfactor, hscale, hden⟩ := exists_common_factor exponent gridExponent
  rw [← Nat.cast_le (α := ℚ), ← Nat.cast_le (α := ℚ), Nat.cast_mul, Nat.cast_mul, hscale, hden]
  rw [← mul_assoc, ← mul_assoc]
  exact ⟨mul_le_mul_iff_left₀ hfactor, mul_le_mul_iff_left₀ hfactor⟩

variable (interval : RoundingInterval)

theorem holds_iff (point : ℕ) :
    interval.holds (Nat.pow 10 (-gridExponent).toNat <<< (exponent - 2).toNat) point
        (Nat.pow 10 gridExponent.toNat <<< (2 - exponent).toNat) = true ↔
      interval.Contains exponent (point * 10 ^ gridExponent) := by
  obtain ⟨hlower, hlower'⟩ := scaled_le_iff exponent gridExponent interval.lower point
  obtain ⟨hupper, hupper'⟩ := scaled_le_iff exponent gridExponent interval.upper point
  unfold holds Contains
  split
  . rw [decide_eq_true_eq, hlower, hupper']
  . rw [decide_eq_true_eq, ← not_le, ← not_le, hlower', hupper, not_le, not_le]

/--
Of a grid the two neighbours of the value are looked at, and there is a point unless none of them
lies in the interval.
-/
theorem nearest?_cases (tie : Tie) :
    ∃ below : ℕ,
      (below : ℚ) * 10 ^ gridExponent ≤ interval.value * 2 ^ (exponent - 2) ∧
      interval.value * 2 ^ (exponent - 2) < ((below + 1 : ℕ) : ℚ) * 10 ^ gridExponent ∧
      ((∃ point, interval.nearest? tie exponent gridExponent = some point ∧
          (point = below ∨ point = below + 1) ∧
          interval.Contains exponent (point * 10 ^ gridExponent)) ∨
        interval.nearest? tie exponent gridExponent = none ∧
          ¬ interval.Contains exponent (below * 10 ^ gridExponent) ∧
          ¬ interval.Contains exponent ((below + 1 : ℕ) * 10 ^ gridExponent)) := by
  have hle := fun point => scaled_le_iff exponent gridExponent interval.value point
  have hholds := holds_iff exponent gridExponent interval
  have hden : 0 < Nat.pow 10 gridExponent.toNat <<< (2 - exponent).toNat := by
    rw [Nat.shiftLeft_eq, Nat.pow_eq]
    positivity
  unfold nearest?
  dsimp only
  generalize Nat.pow 10 (-gridExponent).toNat <<< (exponent - 2).toNat = scale at *
  generalize Nat.pow 10 gridExponent.toNat <<< (2 - exponent).toNat = den at *
  have hround : roundHalf tie (interval.value * scale) den = interval.value * scale / den ∨
      roundHalf tie (interval.value * scale) den = interval.value * scale / den + 1 := by
    unfold roundHalf
    cases tie
    all_goals grind
  refine ⟨interval.value * scale / den, ?_, ?_, ?_⟩
  . rw [← (hle _).2]
    exact Nat.div_mul_le_self _ _
  . rw [← not_le, ← (hle _).2, not_le]
    rw [← Nat.div_lt_iff_lt_mul hden]
    exact Nat.lt_succ_self _
  . rw [← hholds, ← hholds]
    split
    . next hbelow habove =>
      right
      simp [hbelow, habove]
    . next hbelow habove =>
      left
      exact ⟨_, rfl, .inl rfl, (hholds _).mp hbelow⟩
    . next hbelow habove =>
      left
      exact ⟨_, rfl, .inr rfl, (hholds _).mp habove⟩
    . next hbelow habove =>
      left
      refine ⟨_, rfl, hround, (hholds _).mp ?_⟩
      obtain heq | heq := hround
      . rw [heq]
        exact hbelow
      . rw [heq]
        exact habove

end Grid

end RoundingInterval

section Interval

/--
How far the lower bound of a rounding interval is away from the number, in units in the last place.
-/
def lowerGap (significand : ℕ) (exponent : ℤ) : ℚ :=
  if significand = 2 ^ 52 ∧ -1074 < exponent then 1 / 4 else 1 / 2

theorem lowerGap_bounds (significand : ℕ) (exponent : ℤ) :
    1 / 4 ≤ lowerGap significand exponent ∧ lowerGap significand exponent ≤ 1 / 2 := by
  unfold lowerGap
  split
  . norm_num
  . norm_num

variable {significand : ℕ} {exponent : ℤ}

theorem lowerGap_mul_le : lowerGap significand exponent * 2 ^ exponent ≤ 1 / 2 * 2 ^ exponent := by
  gcongr
  exact (lowerGap_bounds significand exponent).2

theorem quarter_mul (n : ℕ) : (n : ℚ) * 2 ^ (exponent - 2) = n / 4 * 2 ^ exponent := by
  rw [zpow_sub₀ (by norm_num)]
  ring

theorem value_roundingInterval :
    ((roundingInterval significand exponent).value : ℚ) * 2 ^ (exponent - 2) =
      significand * 2 ^ exponent := by
  rw [quarter_mul]
  unfold roundingInterval
  push_cast
  ring

theorem contains_roundingInterval_iff (hpos : 0 < significand) (q : ℚ) :
    (roundingInterval significand exponent).Contains exponent q ↔
      if significand % 2 = 0 then
        (significand - lowerGap significand exponent) * 2 ^ exponent ≤ q ∧
          q ≤ (significand + 1 / 2) * 2 ^ exponent
      else
        (significand - lowerGap significand exponent) * 2 ^ exponent < q ∧
          q < (significand + 1 / 2) * 2 ^ exponent := by
  have hlower : ((roundingInterval significand exponent).lower : ℚ) / 4 =
      significand - lowerGap significand exponent := by
    unfold roundingInterval lowerGap
    dsimp only
    rw [Nat.shiftLeft_eq, one_mul, Nat.cast_sub (by split <;> omega)]
    split
    . push_cast
      ring
    . push_cast
      ring
  have hupper : ((roundingInterval significand exponent).upper : ℚ) / 4 = significand + 1 / 2 := by
    unfold roundingInterval
    push_cast
    ring
  unfold RoundingInterval.Contains
  rw [quarter_mul, quarter_mul, hlower, hupper]
  unfold roundingInterval
  simp only [decide_eq_true_eq]

theorem contains_of_abs_sub_lt (hpos : 0 < significand) {q : ℚ}
    (h : |q - significand * 2 ^ exponent| < lowerGap significand exponent * 2 ^ exponent) :
    (roundingInterval significand exponent).Contains exponent q := by
  have hgap : lowerGap significand exponent * 2 ^ exponent ≤ 1 / 2 * 2 ^ exponent :=
    lowerGap_mul_le
  obtain ⟨hlow, hhigh⟩ := abs_lt.mp h
  rw [contains_roundingInterval_iff hpos]
  split
  . constructor
    all_goals linarith
  . constructor
    all_goals linarith

theorem abs_sub_le_of_contains (hpos : 0 < significand) {q : ℚ}
    (h : (roundingInterval significand exponent).Contains exponent q) :
    |q - significand * 2 ^ exponent| ≤ 1 / 2 * 2 ^ exponent := by
  have hgap : lowerGap significand exponent * 2 ^ exponent ≤ 1 / 2 * 2 ^ exponent :=
    lowerGap_mul_le
  rw [contains_roundingInterval_iff hpos] at h
  rw [abs_le]
  split at h
  . constructor
    all_goals linarith
  . constructor
    all_goals linarith

/--
A grid has a point in the interval if its step is less than twice the smaller half of the interval.
-/
theorem nearest?_ne_none (hpos : 0 < significand) (tie : Tie) {gridExponent : ℤ}
    (hstep : 10 ^ gridExponent < 2 * lowerGap significand exponent * 2 ^ exponent) :
    (roundingInterval significand exponent).nearest? tie exponent gridExponent ≠ none := by
  intro hnone
  obtain ⟨below, hlow, hhigh, ⟨point, hsome, -⟩ | ⟨-, hbelow, habove⟩⟩ :=
    (roundingInterval significand exponent).nearest?_cases exponent gridExponent tie
  . rw [hnone] at hsome
    contradiction
  . rw [value_roundingInterval] at hlow hhigh
    push_cast at hhigh habove
    by_cases hnear :
        (significand : ℚ) * 2 ^ exponent - below * 10 ^ gridExponent ≤ 10 ^ gridExponent / 2
    . apply hbelow
      apply contains_of_abs_sub_lt hpos
      rw [abs_of_nonpos (by linarith)]
      linarith
    . apply habove
      apply contains_of_abs_sub_lt hpos
      rw [abs_of_nonneg (by linarith)]
      linarith

end Interval

theorem findSome?_range_eq_some {f : ℕ → Option α} {n i : ℕ} (hi : i < n) (h : f i ≠ none) :
    ∃ first a, first < n ∧ (List.range n).findSome? f = some a ∧ f first = some a ∧
      ∀ earlier < first, f earlier = none := by
  have hne : (List.range n).findSome? f ≠ none := by
    rw [Ne, List.findSome?_eq_none_iff]
    intro hnone
    exact h (hnone i (List.mem_range.mpr hi))
  obtain ⟨a, ha⟩ := Option.ne_none_iff_exists'.mp hne
  obtain ⟨before, first, after, hrange, hfirst, hbefore⟩ := List.findSome?_eq_some_iff.mp ha
  have hmem : ∀ j, j < n ↔ j ∈ before ++ first :: after := by
    intro j
    rw [← hrange, List.mem_range]
  have hsorted := List.pairwise_lt_range (n := n)
  rw [hrange, List.pairwise_append, List.pairwise_cons] at hsorted
  have hlt : first < n := (hmem first).mpr (by simp)
  refine ⟨first, a, hlt, ha, hfirst, ?_⟩
  intro earlier hearlier
  obtain hmem | hmem := List.mem_append.mp ((hmem earlier).mp (by omega))
  . exact hbefore earlier hmem
  . obtain rfl | hmem := List.mem_cons.mp hmem
    . omega
    . have := hsorted.2.1.1 earlier hmem
      omega

section Digits

variable {significand : ℕ} {exponent leading : ℤ}

/--
The greatest power of ten in a number is sixteen places above a grid that is fine enough.
-/
theorem seventeenth_digit_lt (hlt : significand < 2 ^ 53)
    (hleading : 10 ^ leading ≤ (significand : ℚ) * 2 ^ exponent) :
    (10 : ℚ) ^ (leading - 16) < 2 * lowerGap significand exponent * 2 ^ exponent := by
  have hpow : (0 : ℚ) < 2 ^ exponent := by positivity
  have hgap : (significand : ℚ) / 10 ^ 16 < 2 * lowerGap significand exponent := by
    unfold lowerGap
    split
    . next h =>
      rw [h.1]
      norm_num
    . have : (significand : ℚ) < 2 ^ 53 := by exact_mod_cast hlt
      linarith
  calc (10 : ℚ) ^ (leading - 16)
      = 10 ^ leading / 10 ^ 16 := by
        rw [zpow_sub₀ (by norm_num)]
        rfl
    _ ≤ significand * 2 ^ exponent / 10 ^ 16 := by gcongr
    _ = significand / 10 ^ 16 * 2 ^ exponent := by ring
    _ < 2 * lowerGap significand exponent * 2 ^ exponent := by gcongr

theorem tiny_lt_unit (hmin : -1074 ≤ exponent) : (10 : ℚ) ^ (-324 : ℤ) < 1 / 2 * 2 ^ exponent := by
  have hnat : 2 ^ 1075 < 10 ^ 324 := by decide +kernel
  calc (10 : ℚ) ^ (-324 : ℤ)
      = (10 ^ 324)⁻¹ := zpow_neg_coe_of_pos 10 (by decide)
    _ < (2 ^ 1075)⁻¹ := by
        gcongr
        exact_mod_cast hnat
    _ = 2 ^ (-1075 : ℤ) := (zpow_neg_coe_of_pos 2 (by decide)).symm
    _ = 1 / 2 * 2 ^ (-1074 : ℤ) := by
        rw [one_div, ← zpow_neg_one, ← zpow_add₀ (by norm_num)]
        rfl
    _ ≤ 1 / 2 * 2 ^ exponent := by
        gcongr
        norm_num

/--
No grid below the magnitude of the least positive number is looked at.
-/
theorem tiny_lt_gap (hmin : -1074 ≤ exponent) :
    (10 : ℚ) ^ (-324 : ℤ) < 2 * lowerGap significand exponent * 2 ^ exponent := by
  apply (tiny_lt_unit hmin).trans_le
  gcongr
  have := (lowerGap_bounds significand exponent).1
  linarith

end Digits

/--
What is chosen, before a trailing zero is dropped: a point of the first grid that has one.
-/
theorem exists_first_grid (tie : Tie) {significand : ℕ} {exponent leading : ℤ}
    (hpos : 0 < significand) (hlt : significand < 2 ^ 53) (hmin : -1074 ≤ exponent)
    (hlow : 10 ^ leading ≤ (significand : ℚ) * 2 ^ exponent)
    (hhigh : (significand : ℚ) * 2 ^ exponent < 10 ^ (leading + 1)) :
    ∃ places point : ℕ,
      (List.range 17).findSome? (fun (fractionDigits : ℕ) =>
          ((roundingInterval significand exponent).nearest? tie exponent
            (leading - fractionDigits)).map (·, leading - fractionDigits)) =
        some (point, leading - places) ∧
      places < 17 ∧ 0 < point ∧ point ≤ 10 ^ (places + 1) ∧ -324 ≤ leading - places ∧
      (roundingInterval significand exponent).Contains exponent
        (point * 10 ^ (leading - places)) ∧
      ∀ earlier < places, (roundingInterval significand exponent).nearest? tie exponent
        (leading - (earlier : ℕ)) = none := by
  have hpow : (0 : ℚ) < 2 ^ exponent := by positivity
  have hone : (1 : ℚ) ≤ significand := by exact_mod_cast hpos
  have hlast : (roundingInterval significand exponent).nearest? tie exponent
      (leading - (16 : ℕ)) ≠ none :=
    nearest?_ne_none hpos tie (seventeenth_digit_lt hlt hlow)
  have hbottom : (roundingInterval significand exponent).nearest? tie exponent (-324) ≠ none :=
    nearest?_ne_none hpos tie (tiny_lt_gap hmin)
  have hleading : -324 ≤ leading := by
    by_contra hbelow
    have hpowers : (10 : ℚ) ^ (leading + 1) ≤ 10 ^ (-324 : ℤ) := by
      rw [zpow_le_zpow_iff_right₀ (by norm_num)]
      omega
    have := tiny_lt_unit hmin
    nlinarith
  obtain ⟨places, ⟨point, grid⟩, hplaces, hfirst, hhit, hearlier⟩ :=
    findSome?_range_eq_some (f := fun fractionDigits : ℕ =>
        ((roundingInterval significand exponent).nearest? tie exponent
          (leading - fractionDigits)).map (·, leading - fractionDigits))
      (show 16 < 17 by decide) (by simpa using hlast)
  obtain ⟨point', hsome, heq⟩ := Option.map_eq_some_iff.mp hhit
  obtain ⟨rfl, rfl⟩ := Prod.mk.inj heq
  simp only [Option.map_eq_none_iff] at hearlier
  obtain ⟨below, hbelow, -, ⟨point, hpoint, hneighbour, hcontains⟩ | ⟨hnone, -⟩⟩ :=
    (roundingInterval significand exponent).nearest?_cases exponent (leading - places) tie
  case inr => simp [hnone] at hsome
  obtain rfl := Option.some.inj (hpoint.symm.trans hsome)
  refine ⟨places, point, hfirst, hplaces, ?_, ?_, ?_, hcontains, hearlier⟩
  . have hdistance := (abs_le.mp (abs_sub_le_of_contains hpos hcontains)).1
    rw [Nat.pos_iff_ne_zero]
    rintro rfl
    rw [Nat.cast_zero, zero_mul] at hdistance
    nlinarith
  . rw [value_roundingInterval] at hbelow
    have hstep : (0 : ℚ) < 10 ^ (leading - places) := by positivity
    have hsplit : (10 : ℚ) ^ (leading + 1) = 10 ^ (places + 1) * 10 ^ (leading - places) := by
      rw [← zpow_natCast, ← zpow_add₀ (by norm_num)]
      congr 1
      push_cast
      ring
    rw [hsplit] at hhigh
    have hbelow := lt_of_mul_lt_mul_right (hbelow.trans_lt hhigh) hstep.le
    have hbelow : below < 10 ^ (places + 1) := by exact_mod_cast hbelow
    omega
  . by_contra hdeep
    -- The bottom grid is earlier, and it has a point.
    have hnone := hearlier (leading + 324).toNat (by omega)
    have hgrid : leading - (leading + 324).toNat = -324 := by omega
    rw [hgrid] at hnone
    exact hbottom hnone

/--
The digits that are chosen for a positive number are those of a point of the first grid below its
leading digit that has one.
-/
theorem exists_shortest_eq (tie : Tie) {significand : ℕ} {exponent : ℤ} (hpos : 0 < significand)
    (hlt : significand < 2 ^ 53) (hmin : -1074 ≤ exponent) :
    ∃ (leading : ℤ) (places point : ℕ),
      shortest tie significand exponent =
        (if point % 10 = 0 then (point / 10, leading - places + 1) else (point, leading - places)) ∧
      10 ^ leading ≤ (significand : ℚ) * 2 ^ exponent ∧
      places < 17 ∧ 0 < point ∧ point ≤ 10 ^ (places + 1) ∧ -324 ≤ leading - places ∧
      (roundingInterval significand exponent).Contains exponent
        (point * 10 ^ (leading - places)) ∧
      ∀ earlier < places, (roundingInterval significand exponent).nearest? tie exponent
        (leading - (earlier : ℕ)) = none := by
  obtain ⟨hnum, hden⟩ := ratio_pos hpos exponent
  obtain ⟨hlow, hhigh⟩ := decimalExponent_spec hnum hden
  rw [ratio_eq] at hlow hhigh
  obtain ⟨places, point, hfirst, hgrid⟩ := exists_first_grid tie hpos hlt hmin hlow hhigh
  refine ⟨_, places, point, ?_, hlow, hgrid⟩
  unfold shortest
  dsimp only
  rw [hfirst]

/--
The digits that are chosen for a positive number are those of a decimal in its rounding interval.
-/
theorem shortest_spec (tie : Tie) {significand : ℕ} {exponent : ℤ} (hpos : 0 < significand)
    (hlt : significand < 2 ^ 53) (hmin : -1074 ≤ exponent) :
    0 < (shortest tie significand exponent).1 ∧ (shortest tie significand exponent).1 ≤ 10 ^ 17 ∧
      -324 ≤ (shortest tie significand exponent).2 ∧
      (roundingInterval significand exponent).Contains exponent
        ((shortest tie significand exponent).1 * 10 ^ (shortest tie significand exponent).2) := by
  obtain ⟨leading, places, point, hshortest, -, hplaces, hpoint, hle, hgrid, hcontains, -⟩ :=
    exists_shortest_eq tie hpos hlt hmin
  have hle : point ≤ 10 ^ 17 := hle.trans (Nat.pow_le_pow_right (by norm_num) (by omega))
  rw [hshortest]
  split
  . next hzero =>
    have hvalue : ((point / 10 : ℕ) : ℚ) * 10 ^ (leading - places + 1) =
        point * 10 ^ (leading - places) := by
      rw [zpow_add_one₀ (by norm_num), Nat.cast_div (Nat.dvd_of_mod_eq_zero hzero) (by norm_num)]
      push_cast
      ring
    refine ⟨by omega, by omega, by omega, ?_⟩
    rw [hvalue]
    exact hcontains
  . exact ⟨hpoint, hle, hgrid, hcontains⟩

/-!
Rounding a decimal in the interval of a number gives the number.
-/

section Reading

variable {significand : ℕ} {exponent : ℤ} {q : ℚ} (hpos : 0 < significand)
  (hlt : significand < 2 ^ 53) (hq : (roundingInterval significand exponent).Contains exponent q)

include hpos hq

theorem bounds_of_contains :
    (significand - lowerGap significand exponent) * 2 ^ exponent ≤ q ∧
      q ≤ (significand + 1 / 2) * 2 ^ exponent := by
  rw [contains_roundingInterval_iff hpos] at hq
  split at hq
  . exact hq
  . exact ⟨hq.1.le, hq.2.le⟩

theorem nearestEven_of_contains : NearestEven (q / 2 ^ exponent) significand := by
  have hpow : (0 : ℚ) < 2 ^ exponent := by positivity
  have hdistance : |q / 2 ^ exponent - significand| ≤ 1 / 2 := by
    have := abs_sub_le_of_contains hpos hq
    rw [← div_le_iff₀ hpow, ← abs_of_pos hpow, ← abs_div, abs_of_pos hpow, sub_div,
      mul_div_cancel_right₀ _ hpow.ne'] at this
    exact this
  apply nearestEven_of_abs_le hdistance
  intro htie
  by_contra hodd
  -- The bounds belong to an interval only if the significand is even.
  rw [contains_roundingInterval_iff hpos, if_neg (by rwa [Nat.even_iff] at hodd)] at hq
  rw [← div_lt_iff₀ hpow, ← lt_div_iff₀ hpow] at hq
  have hgap := (lowerGap_bounds significand exponent).2
  have : |q / 2 ^ exponent - significand| < 1 / 2 := by
    rw [abs_lt]
    constructor
    all_goals linarith
  linarith

/--
Below a power of two the units are only half as great.
-/
theorem nearestEven_of_contains_of_lt (hpower : significand = 2 ^ 52) (hmin : -1074 < exponent)
    (hbelow : q < 2 ^ 52 * 2 ^ exponent) : NearestEven (q / 2 ^ (exponent - 1)) (2 ^ 53) := by
  have hpow : (0 : ℚ) < 2 ^ (exponent - 1) := by positivity
  have hdouble : (2 : ℚ) ^ exponent = 2 * 2 ^ (exponent - 1) := by
    rw [mul_comm, ← zpow_add_one₀ (by norm_num), sub_add_cancel]
  have hlow := (bounds_of_contains hpos hq).1
  unfold lowerGap at hlow
  rw [if_pos ⟨hpower, hmin⟩, hpower, hdouble] at hlow
  rw [hdouble] at hbelow
  have hlow : (2 ^ 53 - 1 / 2 : ℚ) ≤ q / 2 ^ (exponent - 1) := by
    rw [le_div_iff₀ hpow]
    push_cast at hlow
    linarith
  have hhigh : q / 2 ^ (exponent - 1) < 2 ^ 53 := by
    rw [div_lt_iff₀ hpow]
    linarith
  apply nearestEven_of_abs_le
  . push_cast
    rw [abs_of_nonpos (by linarith)]
    linarith
  . intro _
    decide

include hlt

theorem IsNearest.absValue_eq_of_contains {x : Binary64} (h : IsNearest q x)
    (hmin : -1074 ≤ exponent) (hcanonical : 2 ^ 52 ≤ significand ∨ exponent = -1074) :
    x.absValue = significand * 2 ^ exponent := by
  have hpow : (0 : ℚ) < 2 ^ exponent := by positivity
  have hone : (1 : ℚ) ≤ significand := by exact_mod_cast hpos
  have htop : (significand : ℚ) + 1 ≤ 2 ^ 53 := by exact_mod_cast hlt
  have hgap := (lowerGap_bounds significand exponent).2
  obtain ⟨hlow, hhigh⟩ := bounds_of_contains hpos hq
  have hqpos : 0 < q := by nlinarith
  have hle : unitOf q ≤ exponent := by
    apply unitOf_le hqpos _ hmin
    nlinarith
  obtain ⟨nearest, hnearest, hmagnitude⟩ := h
  by_cases hunit : unitOf q = exponent
  . rw [hunit] at hnearest hmagnitude
    rw [hmagnitude.absValue_eq, hnearest.unique (nearestEven_of_contains hpos hq)]
  . -- The magnitude is in the lower half of the interval around a power of two.
    have hbottom := bottom_le_unitOf q
    have hnormal : 2 ^ 52 ≤ significand := by omega
    have hbelow : q < 2 ^ 52 * 2 ^ exponent := by
      by_contra hge
      have := le_unitOf hqpos (not_lt.mp hge)
      omega
    have hpower : significand = 2 ^ 52 := by
      by_contra hne
      have hgreater : 2 ^ 52 + 1 ≤ significand := by omega
      have hgreater : (2 ^ 52 + 1 : ℚ) ≤ significand := by exact_mod_cast hgreater
      nlinarith
    have hdouble : (2 : ℚ) ^ exponent = 2 * 2 ^ (exponent - 1) := by
      rw [mul_comm, ← zpow_add_one₀ (by norm_num), sub_add_cancel]
    have hhalf : 2 ^ 52 * 2 ^ (exponent - 1) ≤ q := by
      have hvalue : (significand : ℚ) = 2 ^ 52 := by exact_mod_cast hpower
      have hpow' : (0 : ℚ) < 2 ^ (exponent - 1) := by positivity
      rw [hvalue, hdouble] at hlow
      nlinarith
    have hunit : unitOf q = exponent - 1 := by
      have := le_unitOf hqpos hhalf
      omega
    rw [hunit] at hnearest hmagnitude
    have hnext := nearestEven_of_contains_of_lt hpos hq hpower (by omega) hbelow
    rw [hmagnitude.absValue_eq, hnearest.unique hnext, hpower, hdouble]
    push_cast
    ring

end Reading

end Binary64

end IRDiagnostics
