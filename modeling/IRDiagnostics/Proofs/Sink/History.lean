import IRDiagnostics.Sink.Call

/-!
This module contains what a sink makes of the calls on it. Whatever the calls are, what was taken
out and what is still stored is together what the reports rendered, and the number of errors counts
all of it.
-/

namespace IRDiagnostics

namespace Sink

/--
What a call adds to a sink.
-/
def Call.rendered? : Call → Option Rendered
  | .report module diagnostic =>
    if diagnostic.enabled module.filter then (diagnostic.render module).toOption else none
  | _ => none

/--
What an answer hands over.
-/
def Answer.handedOver : Answer → List Rendered
  | .taken rendered => rendered.toList
  | _ => []

/--
The renderings of the enabled diagnostics that calls report, in order.
-/
def reported (calls : List Call) : List Rendered := calls.filterMap Call.rendered?

def errors (rendered : List Rendered) : Nat := rendered.countP (·.severity.isError)

theorem reported_cons (call : Call) (calls : List Call) :
    reported (call :: calls) = call.rendered?.toList ++ reported calls := by
  unfold reported
  cases h : call.rendered? with
  | none => simp [h]
  | some rendered => simp [h]

theorem run_append (sink : Sink) (calls later : List Call) :
    sink.run (calls ++ later) =
      ((sink.run calls).1 ++ ((sink.run calls).2.run later).1, ((sink.run calls).2.run later).2) := by
  induction calls generalizing sink with
  | nil => rfl
  | cons call calls ih =>
    simp only [List.cons_append, run]
    rw [ih]

theorem apply_report (sink : Sink) (module : Module) (diagnostic : Diagnostic) :
    sink.apply (.report module diagnostic) =
      if diagnostic.enabled module.filter then
        match diagnostic.render module with
        | .ok rendered => (.reported true, sink.push rendered)
        | .error fault => (.fault fault, sink)
      else
        (.reported false, sink) := by
  by_cases henabled : diagnostic.enabled module.filter
  . simp only [apply, report, henabled, ↓reduceIte]
    cases diagnostic.render module with
    | ok rendered => rfl
    | error fault => rfl
  . simp only [apply, report, henabled]
    rfl

theorem stored_push (sink : Sink) (rendered : Rendered) :
    (sink.push rendered).stored = sink.stored.push rendered := rfl

theorem errorCount_push (sink : Sink) (rendered : Rendered) :
    (sink.push rendered).errorCount = sink.errorCount + errors [rendered] := by
  cases h : rendered.severity.isError with
  | true => simp [push, store, count, errors, h]
  | false => simp [push, store, count, errors, h]

theorem handedOver_apply_append (sink : Sink) (call : Call) :
    (sink.apply call).1.handedOver ++ (sink.apply call).2.stored.toList =
      sink.stored.toList ++ call.rendered?.toList := by
  cases call with
  | report module diagnostic =>
    rw [apply_report]
    simp only [Call.rendered?]
    split
    . cases diagnostic.render module with
      | ok rendered => simp [Answer.handedOver, stored_push, Except.toOption]
      | error fault => simp [Answer.handedOver, Except.toOption]
    . simp [Answer.handedOver]
  | takeAll => simp [apply, takeAll, Answer.handedOver, Call.rendered?]
  | diagnostics | errorCount | hasErrors => simp [apply, Answer.handedOver, Call.rendered?]

theorem errorCount_apply (sink : Sink) (call : Call) :
    (sink.apply call).2.errorCount = sink.errorCount + errors call.rendered?.toList := by
  cases call with
  | report module diagnostic =>
    rw [apply_report]
    simp only [Call.rendered?]
    split
    . cases diagnostic.render module with
      | ok rendered => exact errorCount_push sink rendered
      | error fault => rfl
    . rfl
  | takeAll | diagnostics | errorCount | hasErrors => rfl

theorem handedOver_run_append (sink : Sink) (calls : List Call) :
    (sink.run calls).1.flatMap Answer.handedOver ++ (sink.run calls).2.stored.toList =
      sink.stored.toList ++ reported calls := by
  induction calls generalizing sink with
  | nil => simp [run, reported]
  | cons call calls ih =>
    simp only [run, List.flatMap_cons, List.append_assoc]
    rw [ih]
    rw [← List.append_assoc]
    rw [handedOver_apply_append]
    rw [reported_cons, List.append_assoc]

theorem errorCount_run (sink : Sink) (calls : List Call) :
    (sink.run calls).2.errorCount = sink.errorCount + errors (reported calls) := by
  induction calls generalizing sink with
  | nil => rfl
  | cons call calls ih =>
    simp only [run]
    rw [ih]
    rw [errorCount_apply]
    rw [reported_cons]
    simp [errors, Nat.add_assoc]

theorem hasErrors_iff (sink : Sink) : sink.hasErrors ↔ 0 < sink.errorCount := by
  simp [hasErrors]

theorem hasErrors_run {sink : Sink} (h : sink.hasErrors) (calls : List Call) :
    (sink.run calls).2.hasErrors := by
  rw [hasErrors_iff] at h ⊢
  rw [errorCount_run]
  omega

/--
A report is answered by `true` exactly if it appended an entry.
-/
theorem reported_true_iff (sink : Sink) (module : Module) (diagnostic : Diagnostic) :
    (sink.apply (.report module diagnostic)).1 = .reported true ↔
      ∃ rendered, (sink.apply (.report module diagnostic)).2.stored = sink.stored.push rendered := by
  have hne : ∀ rendered, sink.stored ≠ sink.stored.push rendered := by
    intro rendered h
    have := congrArg Array.size h
    simp at this
  rw [apply_report]
  split
  . cases diagnostic.render module with
    | ok rendered =>
      simp only [true_iff]
      exact ⟨rendered, stored_push sink rendered⟩
    | error fault => simp [hne]
  . simp [hne]

/--
What was answered and what a new sink has become after some calls, told from the calls.
-/
structure History (calls : List Call) (answers : List Answer) (sink : Sink) : Prop where
  /-- Nothing is lost, repeated or put in another order. -/
  contents : answers.flatMap Answer.handedOver ++ sink.stored.toList = reported calls
  errorCount : sink.errorCount = errors (reported calls)
  hasErrors : sink.hasErrors ↔ ∃ rendered ∈ reported calls, rendered.severity.isError
  hasErrors_run : sink.hasErrors → ∀ later, (sink.run later).2.hasErrors
  /-- The answer to the next call is that of the sink as it is now. -/
  next : ∀ call, empty.run (calls ++ [call]) =
    (answers ++ [(sink.apply call).1], (sink.apply call).2)
  report_enabled : ∀ (module : Module) (diagnostic : Diagnostic) (rendered : Rendered),
    diagnostic.enabled module.filter → diagnostic.render module = .ok rendered →
      (sink.apply (.report module diagnostic)).1 = .reported true ∧
      (sink.apply (.report module diagnostic)).2.stored = sink.stored.push rendered ∧
      (sink.apply (.report module diagnostic)).2.errorCount = sink.errorCount + errors [rendered]
  report_disabled : ∀ (module : Module) (diagnostic : Diagnostic),
    ¬ diagnostic.enabled module.filter →
      sink.apply (.report module diagnostic) = (.reported false, sink)
  reported_true_iff : ∀ (module : Module) (diagnostic : Diagnostic),
    (sink.apply (.report module diagnostic)).1 = .reported true ↔
      ∃ rendered, (sink.apply (.report module diagnostic)).2.stored = sink.stored.push rendered
  takeAll : sink.apply .takeAll = (.taken sink.stored, { sink with stored := #[] })
  diagnostics : sink.apply .diagnostics = (.diagnostics sink.stored, sink)
  errorCount_answer : sink.apply .errorCount = (.errorCount (errors (reported calls)), sink)
  hasErrors_answer : sink.apply .hasErrors =
    (.hasErrors ((reported calls).any (·.severity.isError)), sink)

theorem history_run (calls : List Call) :
    History calls (empty.run calls).1 (empty.run calls).2 := by
  have hcount : (empty.run calls).2.errorCount = errors (reported calls) := by
    rw [errorCount_run]
    exact Nat.zero_add _
  constructor
  . exact handedOver_run_append empty calls
  . exact hcount
  . rw [hasErrors_iff]
    rw [hcount]
    exact List.countP_pos_iff
  . intro h later
    exact hasErrors_run h later
  . intro call
    exact run_append empty calls [call]
  . intro module diagnostic rendered henabled hrendered
    rw [apply_report, if_pos henabled, hrendered]
    exact ⟨rfl, stored_push _ _, errorCount_push _ _⟩
  . intro module diagnostic hdisabled
    rw [apply_report, if_neg hdisabled]
  . intro module diagnostic
    exact reported_true_iff _ module diagnostic
  . rfl
  . rfl
  . simp only [apply, hcount]
  . have hany : (empty.run calls).2.hasErrors = (reported calls).any (·.severity.isError) := by
      rw [Bool.eq_iff_iff, hasErrors_iff, hcount, List.any_eq_true]
      exact List.countP_pos_iff
    simp only [apply, hany]

end Sink

end IRDiagnostics
