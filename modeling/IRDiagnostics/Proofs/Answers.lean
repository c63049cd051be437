/-!
This module contains total correctness of reads: a read has an answer, and the answer is as told.
Such statements are put together along the steps of a read. Answers can be compared, so that what a
fixed module answers, or what is told of it, is found by computing it.
-/

namespace IRDiagnostics

instance decidableEqExcept [DecidableEq ε] [DecidableEq α] : DecidableEq (Except ε α)
  | .ok _, .ok _ => decidable_of_iff _ (Except.ok.injEq ..).to_iff.symm
  | .error _, .error _ => decidable_of_iff _ (Except.error.injEq ..).to_iff.symm
  | .ok _, .error _ | .error _, .ok _ => isFalse nofun

theorem Except.bind_eq_ok_iff {x : Except ε α} {f : α → Except ε β} {b : β} :
    (x >>= f) = .ok b ↔ ∃ a, x = .ok a ∧ f a = .ok b := by
  cases x with
  | error e => simp [bind, Except.bind]
  | ok a => simp [bind, Except.bind]

theorem Except.map_eq_ok_iff {x : Except ε α} {f : α → β} {b : β} :
    x.map f = .ok b ↔ ∃ a, x = .ok a ∧ f a = b := by
  cases x with
  | error e => simp [Except.map]
  | ok a => simp [Except.map]

theorem Except.mapError_eq_ok_iff {x : Except ε α} {f : ε → δ} {a : α} :
    x.mapError f = .ok a ↔ x = .ok a := by
  cases x with
  | error e =>
    change Except.error (f e) = _ ↔ _
    simp
  | ok b =>
    change Except.ok b = _ ↔ _
    simp

def Answers (read : Except ε α) (told : α → Prop) : Prop :=
  ∃ answer, read = .ok answer ∧ told answer

instance decidableAnswers {told : α → Prop} [DecidablePred told] (read : Except ε α) :
    Decidable (Answers read told) :=
  match read with
  | .ok answer => decidable_of_iff (told answer)
    ⟨fun h => ⟨answer, rfl, h⟩, fun ⟨_, heq, h⟩ => Except.ok.inj heq ▸ h⟩
  | .error _ => isFalse nofun

namespace Answers

variable {told : α → Prop} {told' : β → Prop}

theorem pure {answer : α} (h : told answer) : Answers (Pure.pure answer : Except ε α) told :=
  ⟨answer, rfl, h⟩

theorem bind {read : Except ε α} {next : α → Except ε β} (h : Answers read told)
    (hnext : ∀ answer, told answer → Answers (next answer) told') :
    Answers (read >>= next) told' := by
  obtain ⟨answer, rfl, hanswer⟩ := h
  exact hnext answer hanswer

theorem and_eq {read : Except ε α} (h : Answers read told) :
    Answers read fun answer => read = .ok answer ∧ told answer := by
  obtain ⟨answer, rfl, hanswer⟩ := h
  exact ⟨answer, rfl, rfl, hanswer⟩

theorem bind_pure {read : Except ε α} {f : α → β} (h : Answers read told) :
    Answers (read >>= fun answer => Pure.pure (f answer)) fun _ => True := by
  apply h.bind
  intro answer hanswer
  exact .pure trivial

theorem map {read : Except ε α} {f : α → β} (h : Answers read told)
    (hf : ∀ answer, told answer → told' (f answer)) : Answers (read.map f) told' := by
  obtain ⟨answer, rfl, hanswer⟩ := h
  exact ⟨f answer, rfl, hf answer hanswer⟩

theorem mapError {read : Except ε α} {f : ε → δ} (h : Answers read told) :
    Answers (read.mapError f) told := by
  obtain ⟨answer, rfl, hanswer⟩ := h
  exact ⟨answer, rfl, hanswer⟩

theorem mono {read : Except ε α} {told'' : α → Prop} (h : Answers read told)
    (himp : ∀ answer, told answer → told'' answer) : Answers read told'' := by
  obtain ⟨answer, rfl, hanswer⟩ := h
  exact ⟨answer, rfl, himp answer hanswer⟩

end Answers

end IRDiagnostics
