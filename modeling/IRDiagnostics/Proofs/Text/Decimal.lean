import IRDiagnostics.Text.Reader
import Mathlib.Algebra.Group.Nat.Defs

/-!
This module contains how decimal numerals are told from the text behind them. A numeral ends where
the digits end, so two numerals with something other than a digit behind them are equal as soon as
the whole texts are.
-/

namespace IRDiagnostics

def startsWithDigit : List Char → Bool
  | c :: _ => c.isDigit
  | [] => false

theorem isDigit_of_mem_toDigits {n : Nat} {c : Char} (hc : c ∈ Nat.toDigits 10 n) :
    c.isDigit = true :=
  Nat.isDigit_of_mem_toDigits (by omega) (by omega) hc

theorem takeWhile_digits_append {digits rest : List Char}
    (hdigits : ∀ c ∈ digits, c.isDigit = true) (h : startsWithDigit rest = false) :
    (digits ++ rest).takeWhile (·.isDigit) = digits := by
  rw [List.takeWhile_append_of_pos hdigits]
  cases rest with
  | nil => simp
  | cons c rest => simp [show c.isDigit = false from h]

theorem dropWhile_digits_append {digits rest : List Char}
    (hdigits : ∀ c ∈ digits, c.isDigit = true) (h : startsWithDigit rest = false) :
    (digits ++ rest).dropWhile (·.isDigit) = rest := by
  rw [List.dropWhile_append_of_pos hdigits]
  cases rest with
  | nil => simp
  | cons c rest => simp [show c.isDigit = false from h]

theorem toDigits_inj {m n : Nat} (h : Nat.toDigits 10 m = Nat.toDigits 10 n) : m = n := by
  rw [← Nat.ofDigitChars_ten_toDigits (n := m)]
  rw [h]
  exact Nat.ofDigitChars_ten_toDigits

theorem toDigits_append_inj {m n : Nat} {rest rest' : List Char}
    (hrest : startsWithDigit rest = false) (hrest' : startsWithDigit rest' = false)
    (h : Nat.toDigits 10 m ++ rest = Nat.toDigits 10 n ++ rest') : m = n ∧ rest = rest' := by
  constructor
  . apply toDigits_inj
    rw [← takeWhile_digits_append (fun _ => isDigit_of_mem_toDigits) hrest]
    rw [h]
    exact takeWhile_digits_append (fun _ => isDigit_of_mem_toDigits) hrest'
  . have hm : ∀ c ∈ Nat.toDigits 10 m, c.isDigit = true := fun _ => isDigit_of_mem_toDigits
    rw [← dropWhile_digits_append hm hrest]
    rw [h]
    exact dropWhile_digits_append (fun _ => isDigit_of_mem_toDigits) hrest'

theorem startsWithDigit_toDigits_append (n : Nat) (rest : List Char) :
    startsWithDigit (Nat.toDigits 10 n ++ rest) = true := by
  cases hdigits : Nat.toDigits 10 n with
  | nil => exact absurd hdigits Nat.toDigits_ne_nil
  | cons c digits =>
    apply isDigit_of_mem_toDigits (n := n)
    simp [hdigits]

theorem not_mem_toDigits (n : Nat) {c : Char} (hc : c.isDigit = false) : c ∉ Nat.toDigits 10 n := by
  intro hmem
  have := isDigit_of_mem_toDigits hmem
  rw [hc] at this
  contradiction

theorem pow_length_toDigits_le {n : Nat} (hn : 0 < n) :
    10 ^ ((Nat.toDigits 10 n).length - 1) ≤ n := by
  by_cases hlength : (Nat.toDigits 10 n).length = 1
  . rw [hlength]
    omega
  . have hpos := Nat.length_toDigits_pos (b := 10) (n := n)
    have hle := Nat.length_toDigits_le_iff (b := 10) (n := n)
      (k := (Nat.toDigits 10 n).length - 1) (by omega) (by omega)
    omega

theorem lt_pow_length_toDigits (n : Nat) : n < 10 ^ (Nat.toDigits 10 n).length := by
  apply (Nat.length_toDigits_le_iff (by omega) Nat.length_toDigits_pos).mp
  exact Nat.le_refl _

theorem toDigits_eq_map_places {n k : Nat} (hlow : 10 ^ k ≤ n) (hhigh : n < 10 ^ (k + 1)) :
    Nat.toDigits 10 n =
      Nat.digitChar (n / 10 ^ k) ::
        (List.range k).reverse.map fun place => Nat.digitChar (n / 10 ^ place % 10) := by
  induction k generalizing n with
  | zero =>
    rw [Nat.toDigits_of_lt_base (by omega)]
    simp
  | succ k ih =>
    have hbase : 10 ≤ n := by
      have : 0 < 10 ^ k := Nat.pow_pos (by omega)
      omega
    rw [Nat.toDigits_of_base_le (by omega) hbase]
    -- The digits but the last one are those of the number divided by ten.
    rw [ih (by omega) (by omega)]
    rw [List.range_succ_eq_map]
    simp [Nat.div_div_eq_div_mul, Nat.pow_succ, Nat.mul_comm]

theorem digitChar_ne_zero : ∀ digit < 10, 0 < digit → Nat.digitChar digit ≠ '0' := by
  decide

theorem toDigits_eq_cons_of_pos {n : Nat} (hn : 0 < n) :
    ∃ c digits, Nat.toDigits 10 n = c :: digits ∧ c ≠ '0' := by
  have hlow := pow_length_toDigits_le hn
  have hhigh := lt_pow_length_toDigits n
  have hpos := Nat.length_toDigits_pos (b := 10) (n := n)
  have hlength : (Nat.toDigits 10 n).length - 1 + 1 = (Nat.toDigits 10 n).length := by omega
  rw [← hlength] at hhigh
  refine ⟨_, _, toDigits_eq_map_places hlow hhigh, ?_⟩
  apply digitChar_ne_zero
  . rw [Nat.div_lt_iff_lt_mul (Nat.pow_pos (by omega))]
    rw [Nat.pow_succ] at hhigh
    omega
  . exact Nat.div_pos hlow (Nat.pow_pos (by omega))

end IRDiagnostics
