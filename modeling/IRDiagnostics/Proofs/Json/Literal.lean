import IRDiagnostics.Json.Printer
import IRDiagnostics.Json.Token
import IRDiagnostics.Proofs.Text.Reader

/-!
This module contains the reading of the literals that are written for strings and numbers. The text
behind a string literal does not matter, because the literal is closed; the text behind a number
must not go on with something that belongs to numbers.
-/

namespace IRDiagnostics

namespace Json

/--
Whether a spelling is read as the piece of `c` in string literals.
-/
def Spells (chars : List Char) (c : Char) : Prop :=
  ∃ piece,
    (∀ rest, pieces (chars ++ rest) =
      (pieces rest).map fun (pieces, rest) => (piece :: pieces, rest)) ∧
    ∀ pieces, join? (piece :: pieces) = (join? pieces).map (c :: ·)

theorem join?_char (c : Char) (pieces : List Piece) :
    join? (.char c :: pieces) = (join? pieces).map (c :: ·) := by
  simp [join?]

theorem join?_unit {unit : Nat} (hhigh : isHighSurrogate unit = false)
    (hlow : isLowSurrogate unit = false) (pieces : List Piece) :
    join? (.unit unit :: pieces) = (join? pieces).map (Char.ofNat unit :: ·) := by
  cases pieces with
  | nil => simp [join?, hhigh, hlow]
  | cons piece pieces =>
    cases piece with
    | char c => simp [join?, hhigh, hlow]
    | unit low => simp [join?, hhigh, hlow]

theorem spells_unescape {c d : Char} (hc : c ≠ 'u') (h : unescape? c = some d) :
    Spells ['\\', c] d := by
  refine ⟨.char d, ?_, join?_char d⟩
  intro rest
  rw [List.cons_append, List.cons_append, List.nil_append]
  rw [pieces]
  . rw [h]
    cases pieces rest <;> rfl
  . intro a b c d rest hu
    exact absurd hu hc

theorem spells_unit {a b c d : Char} {unit : Nat} (h : unit? a b c d = some unit)
    (hhigh : isHighSurrogate unit = false) (hlow : isLowSurrogate unit = false) :
    Spells ['\\', 'u', a, b, c, d] (Char.ofNat unit) := by
  refine ⟨.unit unit, ?_, join?_unit hhigh hlow⟩
  intro rest
  simp only [List.cons_append, List.nil_append]
  rw [pieces]
  rw [h]
  cases pieces rest <;> rfl

theorem spells_self {c : Char} (hquote : c ≠ '"') (hbackslash : c ≠ '\\')
    (hcontrol : ¬ c.toNat < 0x20) : Spells [c] c := by
  refine ⟨.char c, ?_, join?_char c⟩
  intro rest
  rw [List.cons_append, List.nil_append]
  rw [pieces]
  . rw [if_neg hcontrol]
    cases pieces rest <;> rfl
  . exact hquote
  . intro _ _ _ _ _ heq
    exact absurd heq hbackslash
  . intro _ _ heq
    exact absurd heq hbackslash

theorem unit?_control : ∀ n < 0x20,
    unit? '0' '0' (Nat.digitChar (n / 16)) (Nat.digitChar (n % 16)) = some n ∧
      isHighSurrogate n = false ∧ isLowSurrogate n = false := by
  decide

theorem spells_escape (c : Char) : Spells (escape c) c := by
  unfold escape
  split
  . exact spells_unescape (by decide) (by rfl)
  . exact spells_unescape (by decide) (by rfl)
  . exact spells_unescape (by decide) (by rfl)
  . exact spells_unescape (by decide) (by rfl)
  . exact spells_unescape (by decide) (by rfl)
  . exact spells_unescape (by decide) (by rfl)
  . exact spells_unescape (by decide) (by rfl)
  . next hquote hbackslash _ _ _ _ _ =>
    split
    . next hcontrol =>
      -- A control character is no surrogate, so its unit stands for itself.
      obtain ⟨hunit, hhigh, hlow⟩ := unit?_control c.toNat hcontrol
      have := spells_unit hunit hhigh hlow
      rw [Char.ofNat_toNat] at this
      exact this
    . next hcontrol => exact spells_self hquote hbackslash hcontrol

theorem pieces_flatMap_escape (chars rest : List Char) :
    ∃ pieces', pieces (chars.flatMap escape ++ '"' :: rest) = some (pieces', rest) ∧
      join? pieces' = some chars := by
  induction chars with
  | nil => exact ⟨[], by rfl, by rfl⟩
  | cons c chars ih =>
    obtain ⟨pieces', hpieces, hjoin⟩ := ih
    obtain ⟨piece, hread, hpiece⟩ := spells_escape c
    refine ⟨piece :: pieces', ?_, ?_⟩
    . rw [List.flatMap_cons, List.append_assoc, hread, hpieces]
      rfl
    . rw [hpiece, hjoin]
      rfl

theorem textReader_append (text : Text) (rest : List Char) :
    textReader (text.chars ++ rest) = some (text, rest) := by
  cases text with
  | none => rfl
  | some text =>
    obtain ⟨pieces', hpieces, hjoin⟩ := pieces_flatMap_escape text.toList rest
    simp only [Text.chars, textReader]
    simp [hpieces, hjoin]

theorem wholeReader_append (n : Nat) {rest : List Char} (h : startsWithDigit rest = false) :
    wholeReader (Nat.toDigits 10 n ++ rest) = some (n, rest) := by
  have htake := Reader.takeWhile1_toDigits_append n h
  unfold wholeReader
  obtain rfl | hn := n.eq_zero_or_pos
  . simp
  . obtain ⟨c, digits, hdigits, hc⟩ := toDigits_eq_cons_of_pos hn
    have hchar : Reader.char '0' (Nat.toDigits 10 n ++ rest) = none := by
      rw [hdigits, List.cons_append, Reader.char_cons]
      rw [if_neg (Ne.symm hc)]
    simp [hchar, htake]

theorem digitValue_digit (d : Fin 10) : digitValue (digit d) = d := by
  decide +revert

theorem isDigit_digit (d : Fin 10) : (digit d).isDigit = true := by
  decide +revert

theorem fractionReader_append {digits : List (Fin 10)} (hne : digits ≠ []) {rest : List Char}
    (h : startsWithDigit rest = false) :
    fractionReader ('.' :: digits.map digit ++ rest) = some (digits, rest) := by
  have htake : Reader.takeWhile1 (·.isDigit) (digits.map digit ++ rest) =
      some (digits.map digit, rest) := by
    apply Reader.takeWhile1_digits_append
    . simpa using hne
    . simp [isDigit_digit]
    . exact h
  have hvalue : digitValue ∘ digit = id := by
    funext d
    exact digitValue_digit d
  simp [fractionReader, htake, hvalue]

/--
Whether no number literal goes on with the text.
-/
def endsNumber : List Char → Bool
  | c :: _ => !(c.isDigit || c = '.' || c = 'e' || c = 'E')
  | [] => true

theorem endsNumber_cons {c : Char} {rest : List Char} :
    endsNumber (c :: rest) = true ↔ c.isDigit = false ∧ c ≠ '.' ∧ c ≠ 'e' ∧ c ≠ 'E' := by
  simp [endsNumber, and_assoc]

theorem startsWithDigit_of_endsNumber {rest : List Char} (h : endsNumber rest = true) :
    startsWithDigit rest = false := by
  cases rest with
  | nil => rfl
  | cons c rest =>
    rw [endsNumber_cons] at h
    exact h.1

theorem optional_exponentReader_append (exponent : Option Int) {rest : List Char}
    (h : endsNumber rest = true) :
    (optional exponentReader : Reader (Option Int)) (exponentChars exponent ++ rest) =
      some (exponent, rest) := by
  cases exponent with
  | some exponent =>
    have hdigits := Reader.takeWhile1_toDigits_append exponent.natAbs
      (startsWithDigit_of_endsNumber h)
    have hread : exponentReader (exponentChars (some exponent) ++ rest) = some (exponent, rest) := by
      unfold exponentReader exponentChars
      dsimp only
      generalize hmagnitude : exponent.natAbs = magnitude at hdigits ⊢
      by_cases hneg : exponent < 0
      . simp [Reader.optional_apply, hneg, hdigits]
        omega
      . simp [Reader.optional_apply, hneg, hdigits]
        omega
    rw [Reader.optional_apply, hread]
    rfl
  | none =>
    have hread : exponentReader rest = none := by
      cases rest with
      | nil => rfl
      | cons c rest =>
        rw [endsNumber_cons] at h
        simp [exponentReader, h]
    simp [Reader.optional_apply, exponentChars, hread]

theorem optional_fractionReader_append (digits : List (Fin 10)) {rest : List Char}
    (hdigit : startsWithDigit rest = false) (hpoint : Reader.char '.' rest = none) :
    ∃ fraction, (optional fractionReader : Reader (Option (List (Fin 10))))
        (fractionChars digits ++ rest) = some (fraction, rest) ∧
      fraction.getD [] = digits := by
  by_cases hne : digits = []
  . refine ⟨none, ?_, hne.symm⟩
    have hread : fractionReader rest = none := by
      simp [fractionReader, hpoint]
    simp [Reader.optional_apply, fractionChars, hne, hread]
  . refine ⟨some digits, ?_, rfl⟩
    have hread := fractionReader_append hne hdigit
    rw [List.cons_append] at hread
    simp [Reader.optional_apply, fractionChars, hne, hread]

theorem startsWithDigit_exponentChars (exponent : Option Int) {rest : List Char}
    (h : endsNumber rest = true) : startsWithDigit (exponentChars exponent ++ rest) = false := by
  cases exponent with
  | some exponent => rfl
  | none => exact startsWithDigit_of_endsNumber h

theorem startsWithDigit_fractionChars (digits : List (Fin 10)) {rest : List Char}
    (h : startsWithDigit rest = false) : startsWithDigit (fractionChars digits ++ rest) = false := by
  unfold fractionChars
  split
  . exact h
  . rfl

theorem char_point_exponentChars (exponent : Option Int) {rest : List Char}
    (h : endsNumber rest = true) : Reader.char '.' (exponentChars exponent ++ rest) = none := by
  cases exponent with
  | some exponent => rfl
  | none =>
    cases rest with
    | nil => rfl
    | cons c rest =>
      rw [endsNumber_cons] at h
      simp [exponentChars, Ne.symm h.2.1]

theorem optional_minus_append (negative : Bool) (n : Nat) (rest : List Char) :
    ∃ minus, (optional (Reader.char '-') : Reader (Option Unit))
        ((if negative then ['-'] else []) ++ (Nat.toDigits 10 n ++ rest)) =
          some (minus, Nat.toDigits 10 n ++ rest) ∧
      minus.isSome = negative := by
  cases negative with
  | true => exact ⟨some (), rfl, rfl⟩
  | false =>
    have hread : Reader.char '-' (Nat.toDigits 10 n ++ rest) = none := by
      have h := startsWithDigit_toDigits_append n rest
      cases hchars : Nat.toDigits 10 n ++ rest with
      | nil => rfl
      | cons c chars =>
        rw [hchars] at h
        rw [Reader.char_cons, if_neg]
        rintro rfl
        contradiction
    exact ⟨none, by simp [Reader.optional_apply, hread], rfl⟩

theorem numberChars_append_eq_cons (number : Number) (rest : List Char) :
    ∃ c chars, number.chars ++ rest = c :: chars ∧ (c = '-' ∨ c.isDigit = true) := by
  unfold Number.chars
  rw [List.append_assoc, List.append_assoc, List.append_assoc]
  generalize fractionChars number.fraction ++ (exponentChars number.exponent ++ rest) = rest
  cases number.negative with
  | true => exact ⟨_, _, rfl, .inl rfl⟩
  | false =>
    have hdigit := startsWithDigit_toDigits_append number.whole rest
    cases hchars : Nat.toDigits 10 number.whole ++ rest with
    | nil =>
      rw [hchars] at hdigit
      contradiction
    | cons c chars =>
      rw [hchars] at hdigit
      exact ⟨c, chars, rfl, .inr hdigit⟩

theorem numberReader_append (number : Number) {rest : List Char} (h : endsNumber rest = true) :
    numberReader (number.chars ++ rest) = some (number, rest) := by
  obtain ⟨negative, whole, digits, exponent⟩ := number
  have hexponent := optional_exponentReader_append exponent h
  have hdigit := startsWithDigit_exponentChars exponent h
  obtain ⟨fraction, hfraction, hdigits⟩ := optional_fractionReader_append digits hdigit
    (char_point_exponentChars exponent h)
  have hwhole := wholeReader_append whole (startsWithDigit_fractionChars digits hdigit)
  obtain ⟨minus, hminus, hnegative⟩ := optional_minus_append negative whole
    (fractionChars digits ++ (exponentChars exponent ++ rest))
  unfold numberReader Number.chars
  simp only [Reader.bind_apply, Reader.pure_apply, List.append_assoc]
  rw [hminus]
  rw [Option.bind_some, hwhole]
  rw [Option.bind_some, hfraction]
  rw [Option.bind_some, hexponent]
  rw [Option.bind_some, hdigits, hnegative]

end Json

end IRDiagnostics
