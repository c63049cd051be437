import IRDiagnostics.Proofs.Text.Decimal

/-!
This module contains what readers do to the front of a text, one lemma for each way to build a
reader. Together they turn the reading of a text that is known in part into computation.
-/

namespace IRDiagnostics

namespace Reader

variable {α β : Type} {p : Char → Bool}

@[simp]
theorem pure_apply (x : α) (chars : List Char) : (pure x : Reader α) chars = some (x, chars) := rfl

@[simp]
theorem bind_apply (reader : Reader α) (next : α → Reader β) (chars : List Char) :
    (reader >>= next) chars = (reader chars).bind fun (x, rest) => next x rest := rfl

@[simp]
theorem map_apply (f : α → β) (reader : Reader α) (chars : List Char) :
    (f <$> reader) chars = (reader chars).map fun (x, rest) => (f x, rest) := by
  change ((reader chars).bind fun (x, rest) => some (f x, rest)) = _
  cases reader chars <;> rfl

@[simp]
theorem orElse_apply (reader other : Reader α) (chars : List Char) :
    (reader <|> other) chars = (reader chars).or (other chars) := by
  change (reader chars <|> other chars) = _
  cases reader chars <;> rfl

@[simp]
theorem seqRight_apply (reader : Reader α) (next : Reader β) (chars : List Char) :
    (reader *> next) chars = (reader chars).bind fun (_, rest) => next rest := rfl

@[simp]
theorem seqLeft_apply (reader : Reader α) (next : Reader β) (chars : List Char) :
    (reader <* next) chars =
      (reader chars).bind fun (x, rest) => (next rest).map fun (_, rest) => (x, rest) := by
  change ((reader chars).bind fun (x, rest) => (next rest).bind fun (_, rest) => some (x, rest)) = _
  simp only [Option.map_eq_bind]
  rfl

theorem optional_apply (reader : Reader α) (chars : List Char) :
    (optional reader : Reader (Option α)) chars =
      ((reader chars).map fun (x, rest) => (some x, rest)).or (some (none, chars)) := by
  unfold optional
  simp

@[simp]
theorem satisfy_nil : satisfy p [] = none := rfl

@[simp]
theorem satisfy_cons (c : Char) (rest : List Char) :
    satisfy p (c :: rest) = if p c then some (c, rest) else none := rfl

@[simp]
theorem char_nil (c : Char) : char c [] = none := rfl

@[simp]
theorem char_cons (c d : Char) (rest : List Char) :
    char c (d :: rest) = if c = d then some ((), rest) else none := rfl

@[simp]
theorem word_nil (chars : List Char) : word [] chars = some ((), chars) := rfl

@[simp]
theorem word_cons (c : Char) (word' chars : List Char) :
    word (c :: word') chars = (char c chars).bind fun (_, rest) => word word' rest := rfl

@[simp]
theorem takeWhile_apply (chars : List Char) :
    takeWhile p chars = some (chars.takeWhile p, chars.dropWhile p) := rfl

@[simp]
theorem takeWhile1_nil : takeWhile1 p [] = none := rfl

theorem takeWhile1_append {chars rest : List Char} (hne : chars ≠ [])
    (hchars : ∀ c ∈ chars, p c = true) (hrest : rest.dropWhile p = rest) :
    takeWhile1 p (chars ++ rest) = some (chars, rest) := by
  have htake : rest.takeWhile p = [] := by
    have := List.takeWhile_append_dropWhile (p := p) (l := rest)
    rw [hrest] at this
    exact List.append_left_eq_self.mp this
  cases chars with
  | nil => contradiction
  | cons c chars =>
    rw [List.forall_mem_cons] at hchars
    unfold takeWhile1
    rw [List.cons_append]
    dsimp only
    rw [if_pos hchars.1]
    rw [List.takeWhile_append_of_pos hchars.2, htake, List.append_nil]
    rw [List.dropWhile_append_of_pos hchars.2, hrest]

theorem takeWhile1_digits_append {digits rest : List Char} (hne : digits ≠ [])
    (hdigits : ∀ c ∈ digits, c.isDigit = true) (h : startsWithDigit rest = false) :
    takeWhile1 (·.isDigit) (digits ++ rest) = some (digits, rest) := by
  apply takeWhile1_append hne hdigits
  exact dropWhile_digits_append (List.forall_mem_nil _) h

theorem takeWhile1_toDigits_append (n : Nat) {rest : List Char} (h : startsWithDigit rest = false) :
    takeWhile1 (·.isDigit) (Nat.toDigits 10 n ++ rest) = some (Nat.toDigits 10 n, rest) :=
  takeWhile1_digits_append Nat.toDigits_ne_nil (fun _ => isDigit_of_mem_toDigits) h

/--
Readings one after the other, each of which takes something off the text, until one fails.
-/
inductive Readings (reader : Reader α) : List Char → List α → List Char → Prop where
  | stop {chars : List Char} (h : reader chars = none) : Readings reader chars [] chars
  | step {x : α} {xs : List α} {chars next rest : List Char} (h : reader chars = some (x, next))
      (hlt : next.length < chars.length) (htail : Readings reader next xs rest) :
      Readings reader chars (x :: xs) rest

namespace Readings

variable {reader : Reader α} {chars rest : List Char} {xs : List α}

theorem manyWithin_eq (h : Readings reader chars xs rest) {bound : List Char}
    (hbound : chars.length ≤ bound.length) : manyWithin reader bound chars = (xs, rest) := by
  induction h generalizing bound with
  | stop h =>
    cases bound with
    | nil => rfl
    | cons c bound =>
      unfold manyWithin
      rw [h]
  | step h hlt htail ih =>
    cases bound with
    | nil =>
      rw [List.length_nil] at hbound
      omega
    | cons c bound =>
      rw [List.length_cons] at hbound
      unfold manyWithin
      rw [h]
      dsimp only
      rw [ih (by omega)]

theorem many_eq (h : Readings reader chars xs rest) : many reader chars = some (xs, rest) := by
  unfold many
  rw [h.manyWithin_eq (Nat.le_refl _)]

theorem separated_eq {item : Reader α} {separator : Reader Unit} {x : α} {next : List Char}
    (hitem : item chars = some (x, next)) (h : Readings (separator *> item) next xs rest) :
    separated item separator chars = some (x :: xs, rest) := by
  unfold separated
  simp [hitem, h.many_eq]

end Readings

end Reader

end IRDiagnostics
