import IRDiagnostics.Proofs.Text.Reader
import IRDiagnostics.Toml.Printer

/-!
This module contains that any text can be written as a basic string: whatever its characters are, it
is read back from its quoted form.
-/

namespace IRDiagnostics

namespace Toml

variable {layout : Layout} {c : Char} {chars rest : List Char}

theorem codePoint?_hexDigit (layout : Layout) : ∀ n < 0x80,
    codePoint? ['0', '0', layout.hexDigit (n / 16), layout.hexDigit (n % 16)] =
      some (Char.ofNat n) := by
  unfold Layout.hexDigit
  cases layout.capitals <;> decide

theorem escape?_hexDigit (h : c.toNat < 0x80) :
    escape? ('u' :: '0' :: '0' :: layout.hexDigit (c.toNat / 16) ::
      layout.hexDigit (c.toNat % 16) :: rest) = some (c, rest) := by
  unfold escape?
  simp [codePoint?_hexDigit layout c.toNat h]

theorem basicRest_backslash (h : escape? chars = some (c, rest)) :
    basicRest ('\\' :: chars) = (basicRest rest).map fun (text, rest) => (c :: text, rest) := by
  rw [basicRest]
  split
  . next heq =>
    rw [h] at heq
    cases heq
    cases basicRest rest <;> rfl
  . next heq =>
    rw [h] at heq
    contradiction

theorem basicRest_self (h : isBasicChar c) :
    basicRest (c :: rest) = (basicRest rest).map fun (text, rest) => (c :: text, rest) := by
  rw [basicRest]
  . rw [if_pos h]
    cases basicRest rest <;> rfl
  . rintro rfl
    contradiction
  . rintro rfl
    contradiction

theorem isBasicChar_of_not_escaped (hquote : c ≠ '"') (hbackslash : c ≠ '\\')
    (hcontrol : ¬ (c.toNat < 0x20 || c.toNat = 0x7F)) : isBasicChar c := by
  simp only [Bool.or_eq_true, decide_eq_true_eq, not_or, Nat.not_lt] at hcontrol
  simp [isBasicChar, isCommentChar, hquote, hbackslash, hcontrol]

/--
A character is read from what is written for it.
-/
theorem basicRest_escape_append (layout : Layout) (c : Char) (rest : List Char) :
    basicRest (layout.escape c ++ rest) =
      (basicRest rest).map fun (text, rest) => (c :: text, rest) := by
  unfold Layout.escape
  split
  . exact basicRest_backslash rfl
  . exact basicRest_backslash rfl
  . next hquote hbackslash =>
    split
    . next hcontrol =>
      apply basicRest_backslash
      apply escape?_hexDigit
      simp only [Bool.or_eq_true, decide_eq_true_eq] at hcontrol
      omega
    . next hcontrol =>
      apply basicRest_self
      exact isBasicChar_of_not_escaped hquote hbackslash hcontrol

theorem basicRest_flatMap_escape (layout : Layout) (chars rest : List Char) :
    basicRest (chars.flatMap layout.escape ++ '"' :: rest) = some (chars, rest) := by
  induction chars with
  | nil => rw [List.flatMap_nil, List.nil_append, basicRest]
  | cons c chars ih =>
    rw [List.flatMap_cons, List.append_assoc]
    rw [basicRest_escape_append]
    rw [ih]
    rfl

/--
No character is written with a quote in front, so a string that is not empty does not open with
three quotes.
-/
theorem escape_eq_cons (layout : Layout) (c : Char) :
    ∃ first rest, first ≠ '"' ∧ layout.escape c = first :: rest := by
  unfold Layout.escape
  split
  . exact ⟨_, _, by decide, rfl⟩
  . exact ⟨_, _, by decide, rfl⟩
  . next hquote _ =>
    split
    . exact ⟨_, _, by decide, rfl⟩
    . exact ⟨_, _, hquote, rfl⟩

theorem multiLineBasicString_quoted_append (layout : Layout) (text : String)
    (h : rest.head? ≠ some '"') : multiLineBasicString (layout.quoted text ++ rest) = none := by
  unfold Layout.quoted
  cases text.toList with
  | nil =>
    cases rest with
    | nil => rfl
    | cons c rest =>
      have : ¬ '"' = c := by
        rintro rfl
        contradiction
      simp [multiLineBasicString, this]
  | cons c chars =>
    obtain ⟨first, others, hfirst, heq⟩ := escape_eq_cons layout c
    simp [multiLineBasicString, heq, hfirst.symm]

theorem string_quoted_append (layout : Layout) (text : String) (h : rest.head? ≠ some '"') :
    string (layout.quoted text ++ rest) = some (text, rest) := by
  have hmulti := multiLineBasicString_quoted_append layout text h
  have hbasic : basicString (layout.quoted text ++ rest) = some (text.toList, rest) := by
    unfold basicString Layout.quoted
    simp [basicRest_flatMap_escape]
  have hliteral : multiLineLiteralString (layout.quoted text ++ rest) = none := rfl
  unfold string
  simp [hmulti, hbasic, hliteral]

end Toml

end IRDiagnostics
