import IRDiagnostics.Proofs.Binary64.Fewest
import IRDiagnostics.Proofs.Json.Number

/-!
This module contains the decimals that number literals denote, whatever they are read as. The
literal of a floating-point number denotes a decimal with the fewest digits that identify it.
-/

namespace IRDiagnostics

namespace Json.Number

/--
What the digits after the point denote.
-/
def fractionValue : List (Fin 10) → ℚ
  | [] => 0
  | digit :: digits => (digit.val + fractionValue digits) / 10

/--
The magnitude that a literal denotes. Nothing is rounded.
-/
def absValue (literal : Number) : ℚ :=
  (literal.whole + fractionValue literal.fraction) * 10 ^ literal.exponent.getD 0

/--
That a literal has the sign of a floating-point number and denotes a decimal with the fewest digits
that identify the number.
-/
structure IsShortest (literal : Number) (x : Binary64) : Prop where
  negative_eq : literal.negative = x.isNegative
  exists_decimal : ∃ (digits : ℕ) (exponent : ℤ),
    literal.absValue = digits * 10 ^ exponent ∧ x.IsShortest digits exponent

theorem div_add_fractionValue (n count : ℕ) (rest : List (Fin 10)) :
    ((n / 10 ^ count : ℕ) : ℚ) + fractionValue (lastDigits n count ++ rest) =
      (n + fractionValue rest) / 10 ^ count := by
  induction count generalizing n rest with
  | zero => simp [lastDigits]
  | succ count ih =>
    have hdigit : n / 10 * 10 + (Fin.ofNat 10 n).val = n := Nat.div_add_mod' n 10
    have hdigit : ((n / 10 : ℕ) : ℚ) * 10 + (Fin.ofNat 10 n).val = n := by exact_mod_cast hdigit
    rw [lastDigits, List.append_assoc, pow_succ', ← Nat.div_div_eq_div_mul, ih,
      List.singleton_append, fractionValue, pow_succ', ← hdigit]
    field_simp
    ring

theorem absValue_of_places (n places : ℕ) (negative : Bool) (exponent : Option ℤ) :
    absValue { negative, whole := n / 10 ^ places, fraction := lastDigits n places, exponent } =
      n / 10 ^ places * 10 ^ exponent.getD 0 := by
  have hdigits := div_add_fractionValue n places []
  rw [List.append_nil, fractionValue, add_zero] at hdigits
  unfold absValue
  rw [hdigits]

theorem absValue_of_whole (negative : Bool) (whole : ℕ) :
    absValue { negative, whole, fraction := [0] } = whole := by
  simp [absValue, fractionValue]

theorem absValue_ofDecimal (negative : Bool) (digits : ℕ) (exponent : ℤ) :
    (ofDecimal negative digits exponent).absValue = digits * 10 ^ exponent := by
  have hlength := Nat.length_toDigits_pos (b := 10) (n := digits)
  unfold ofDecimal
  dsimp only
  simp only [Nat.pow_eq]
  split
  . next hwhole =>
    obtain ⟨n, rfl⟩ := Int.eq_ofNat_of_zero_le hwhole.1
    rw [absValue_of_whole, Int.toNat_natCast, zpow_natCast]
    push_cast
    rfl
  . split
    . next hmiddle =>
      obtain ⟨n, rfl⟩ := Int.exists_eq_neg_ofNat (show exponent ≤ 0 by omega)
      rw [absValue_of_places, neg_neg, Int.toNat_natCast, Option.getD_none, zpow_zero, mul_one,
        zpow_neg, zpow_natCast, div_eq_mul_inv]
    . obtain ⟨places, hplaces⟩ := Nat.exists_eq_add_of_lt hlength
      have hpoint : ((0 + places + 1 : ℕ) : ℤ) + exponent - 1 = places + exponent := by
        push_cast
        ring
      rw [absValue_of_places, Option.getD_some, hplaces, hpoint, zpow_add₀ (by norm_num),
        zpow_natCast, zero_add, Nat.add_sub_cancel, ← mul_assoc, div_mul_cancel₀ _ (by positivity)]

/--
The literal that a finite number is written as has the fewest digits that identify it.
-/
theorem isShortest_of_ofBinary64? {x : Binary64} {literal : Number}
    (hx : x.biasedExponent ≠ 2047) (h : ofBinary64? x = some literal) : literal.IsShortest x := by
  obtain hzero | hpos := Nat.eq_zero_or_pos x.significand
  . obtain rfl := Option.some.inj ((ofBinary64?_of_zero hx hzero).symm.trans h)
    refine ⟨rfl, 0, 0, ?_, Binary64.isShortest_zero hzero⟩
    rw [absValue_of_whole, Nat.cast_zero, zero_mul]
  . obtain rfl := Option.some.inj ((ofBinary64?_of_pos hx hpos).symm.trans h)
    exact ⟨negative_ofDecimal _ _ _, _, _, absValue_ofDecimal _ _ _,
      Binary64.isShortest_shortest hpos hx .even⟩

end Json.Number

end IRDiagnostics
