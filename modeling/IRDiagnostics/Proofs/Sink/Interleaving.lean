import IRDiagnostics.Proofs.Sink.History
import IRDiagnostics.Sink.Interleaving
import Mathlib.Logic.Relation

/-!
This module contains what holds of a sink whenever its threads are looked at. An error is counted
before it is stored, so the counter is ahead of what was stored by the errors that are in flight,
and nobody sees an error that is not counted yet.
-/

namespace IRDiagnostics

namespace SharedSink

open Sink

variable {Thread : Type} [DecidableEq Thread]

/--
What was ever stored: what was taken out and what is still there.
-/
def pushed (state : SharedSink Thread) : List Rendered := state.taken ++ state.sink.stored.toList

/--
What a thread has in a log of all threads.
-/
def ofThread (thread : Thread) (log : List (Thread × Rendered)) : List Rendered :=
  (log.filter (·.1 = thread)).map (·.2)

theorem ofThread_append (thread : Thread) (log rest : List (Thread × Rendered)) :
    ofThread thread (log ++ rest) = ofThread thread log ++ ofThread thread rest := by
  simp [ofThread]

theorem ofThread_self (thread : Thread) (rendered : Rendered) :
    ofThread thread [(thread, rendered)] = [rendered] := by
  simp [ofThread]

theorem ofThread_of_ne {thread other : Thread} (h : other ≠ thread) (rendered : Rendered) :
    ofThread other [(thread, rendered)] = [] := by
  simp [ofThread, Ne.symm h]

theorem ofThread_eq_nil {thread : Thread} {log : List (Thread × Rendered)}
    (h : ∀ entry ∈ log, entry.1 ≠ thread) : ofThread thread log = [] := by
  unfold ofThread
  rw [List.map_eq_nil_iff]
  rw [List.filter_eq_nil_iff]
  intro entry hentry
  simpa using h entry hentry

theorem ofThread_filter_of_ne {thread other : Thread} (h : other ≠ thread)
    (log : List (Thread × Rendered)) :
    ofThread other (log.filter (·.1 ≠ thread)) = ofThread other log := by
  unfold ofThread
  rw [List.filter_filter]
  congr 2
  funext entry
  by_cases hentry : entry.1 = other
  . simp [hentry, h]
  . simp [hentry]

/--
An entry of a thread that has no other one comes first up to the order.
-/
theorem perm_cons_filter {log : List (Thread × Rendered)} {thread : Thread} {rendered : Rendered}
    (hnodup : (log.map (·.1)).Nodup) (hmem : (thread, rendered) ∈ log) :
    log.Perm ((thread, rendered) :: log.filter (·.1 ≠ thread)) := by
  induction log with
  | nil => cases hmem
  | cons entry log ih =>
    rw [List.map_cons, List.nodup_cons] at hnodup
    obtain ⟨hentry, hnodup⟩ := hnodup
    cases List.mem_cons.mp hmem with
    | inl heq =>
      subst heq
      have hall : ∀ other ∈ log, other.1 ≠ thread := by
        intro other hother heq
        exact hentry (List.mem_map.mpr ⟨other, hother, heq⟩)
      have hfilter : log.filter (·.1 ≠ thread) = log := by
        rw [List.filter_eq_self]
        simpa using hall
      rw [List.filter_cons_of_neg (by simp), hfilter]
    | inr hmem =>
      have hne : entry.1 ≠ thread := by
        intro heq
        exact hentry (List.mem_map.mpr ⟨(thread, rendered), hmem, heq.symm⟩)
      simp only [List.filter_cons, hne, ne_eq, not_false_eq_true, decide_true, ↓reduceIte]
      exact ((ih hnodup hmem).cons entry).trans (.swap _ _ _)

theorem ofThread_eq_singleton {log : List (Thread × Rendered)} {thread : Thread}
    {rendered : Rendered} (hnodup : (log.map (·.1)).Nodup) (hmem : (thread, rendered) ∈ log) :
    ofThread thread log = [rendered] := by
  have hperm := (perm_cons_filter hnodup hmem).filter (·.1 = thread)
  have hrest : (log.filter (·.1 ≠ thread)).filter (·.1 = thread) = [] := by
    rw [List.filter_filter, List.filter_eq_nil_iff]
    simp
  rw [List.filter_cons_of_pos (by simp), hrest, List.perm_singleton] at hperm
  unfold ofThread
  rw [hperm]
  rfl

theorem errors_append (rendered rest : List Rendered) :
    errors (rendered ++ rest) = errors rendered + errors rest := List.countP_append

theorem errors_cons (rendered : Rendered) (rest : List Rendered) :
    errors (rendered :: rest) = errors [rendered] + errors rest :=
  errors_append [rendered] rest

theorem errors_inFlight_of_mem {log : List (Thread × Rendered)} {thread : Thread}
    {rendered : Rendered} (hnodup : (log.map (·.1)).Nodup) (hmem : (thread, rendered) ∈ log) :
    errors (log.map (·.2)) =
      errors [rendered] + errors ((log.filter (·.1 ≠ thread)).map (·.2)) := by
  have hperm := (perm_cons_filter hnodup hmem).map (·.2)
  rw [List.map_cons] at hperm
  rw [← errors_cons]
  exact hperm.countP_eq _

/--
What counter, contents and logs have to do with each other at any time.
-/
structure Consistent (state : SharedSink Thread) : Prop where
  errorCount : state.sink.errorCount =
    errors state.pushed + errors (state.inFlight.map (·.2))
  /-- What is in flight belongs to different threads. -/
  nodup : (state.inFlight.map (·.1)).Nodup
  finished : state.finished.map (·.2) = state.pushed
  begun : ∀ thread,
    state.begun thread = ofThread thread state.finished ++ ofThread thread state.inFlight

theorem consistent_start : Consistent ({} : SharedSink Thread) where
  errorCount := rfl
  nodup := .nil
  finished := rfl
  begun _ := rfl

theorem errorCount_count (sink : Sink) (rendered : Rendered) :
    (sink.count rendered).errorCount = sink.errorCount + errors [rendered] :=
  errorCount_push sink rendered

theorem Consistent.count {state : SharedSink Thread} (h : Consistent state) {thread : Thread}
    (rendered : Rendered) (hidle : ∀ entry ∈ state.inFlight, entry.1 ≠ thread) :
    Consistent
      { state with
        sink := state.sink.count rendered
        begun := fun other =>
          if other = thread then state.begun other ++ [rendered] else state.begun other
        inFlight := (thread, rendered) :: state.inFlight } where
  errorCount := by
    have hcons := errors_cons rendered (state.inFlight.map (·.2))
    rw [errorCount_count, h.errorCount]
    change _ = errors state.pushed + errors (rendered :: state.inFlight.map (·.2))
    omega
  nodup := by
    rw [List.map_cons, List.nodup_cons]
    refine ⟨?_, h.nodup⟩
    intro hmem
    obtain ⟨entry, hentry, heq⟩ := List.mem_map.mp hmem
    exact hidle entry hentry heq
  finished := h.finished
  begun other := by
    have hcons := ofThread_append other [(thread, rendered)] state.inFlight
    rw [List.singleton_append] at hcons
    simp only [hcons]
    split
    . next heq =>
      subst heq
      rw [h.begun, ofThread_self, ofThread_eq_nil hidle]
      simp
    . next hne =>
      rw [h.begun, ofThread_of_ne hne]
      rfl

theorem Consistent.store {state : SharedSink Thread} (h : Consistent state) {thread : Thread}
    {rendered : Rendered} (hmem : (thread, rendered) ∈ state.inFlight) :
    Consistent
      { state with
        sink := state.sink.store rendered
        inFlight := state.inFlight.filter (·.1 ≠ thread)
        finished := state.finished ++ [(thread, rendered)] } where
  errorCount := by
    have hpushed : state.taken ++ (state.sink.store rendered).stored.toList =
        state.pushed ++ [rendered] := by
      simp [pushed, Sink.store]
    have hcount := h.errorCount
    rw [errors_inFlight_of_mem h.nodup hmem] at hcount
    unfold pushed
    rw [hpushed, errors_append]
    change state.sink.errorCount =
      _ + errors ((state.inFlight.filter (·.1 ≠ thread)).map (·.2))
    omega
  nodup := by
    apply List.Nodup.sublist _ h.nodup
    apply List.Sublist.map
    exact List.filter_sublist
  finished := by
    rw [List.map_append, h.finished]
    simp [pushed, Sink.store]
  begun other := by
    rw [h.begun, ofThread_append]
    by_cases hother : other = thread
    . subst hother
      have hrest : ofThread other (state.inFlight.filter (·.1 ≠ other)) = [] := by
        apply ofThread_eq_nil
        simp
      rw [ofThread_self, hrest, ofThread_eq_singleton h.nodup hmem]
      simp
    . rw [ofThread_of_ne hother, ofThread_filter_of_ne hother]
      simp

theorem Consistent.takeAll {state : SharedSink Thread} (h : Consistent state) :
    Consistent
      { state with
        sink := state.sink.takeAll.2
        taken := state.taken ++ state.sink.takeAll.1.toList } := by
  have hpushed : pushed
      { state with
        sink := state.sink.takeAll.2
        taken := state.taken ++ state.sink.takeAll.1.toList } = state.pushed := by
    simp [pushed, Sink.takeAll]
  constructor
  . rw [hpushed]
    exact h.errorCount
  . exact h.nodup
  . rw [hpushed]
    exact h.finished
  . exact h.begun

theorem Consistent.step {state next : SharedSink Thread} (h : Consistent state)
    (hstep : Step state next) : Consistent next := by
  cases hstep with
  | count thread rendered hidle => exact h.count rendered hidle
  | store thread rendered hmem => exact h.store hmem
  | takeAll => exact h.takeAll

theorem consistent_of_reachable {state : SharedSink Thread} (h : Reachable state) :
    Consistent state := by
  induction h with
  | start => exact consistent_start
  | step _ hstep ih => exact ih.step hstep

theorem errorCount_le_of_step {state next : SharedSink Thread} (h : Step state next) :
    state.sink.errorCount ≤ next.sink.errorCount := by
  cases h with
  | count thread rendered hidle =>
    rw [errorCount_count]
    omega
  | store thread rendered hmem => exact Nat.le_refl _
  | takeAll => exact Nat.le_refl _

theorem errorCount_le_of_steps {state later : SharedSink Thread}
    (h : Relation.ReflTransGen Step state later) :
    state.sink.errorCount ≤ later.sink.errorCount := by
  induction h with
  | refl => exact Nat.le_refl _
  | tail _ hstep ih => exact Nat.le_trans ih (errorCount_le_of_step hstep)

theorem Consistent.hasErrors_of_mem {state : SharedSink Thread} (h : Consistent state)
    {rendered : Rendered} (hmem : rendered ∈ state.pushed) (herror : rendered.severity.isError)
    {later : SharedSink Thread} (hlater : Relation.ReflTransGen Step state later) :
    later.sink.hasErrors := by
  have hpos : 0 < errors state.pushed := List.countP_pos_iff.mpr ⟨rendered, hmem, herror⟩
  have hcount := h.errorCount
  have hle := errorCount_le_of_steps hlater
  rw [hasErrors_iff]
  omega

/--
What threads can rely on in a state, whatever the order in which their steps came. Looking at what
is stored or at the counter leaves the state as it is and is no step: what a thread sees is what
holds in a state.
-/
structure Accounted (state : SharedSink Thread) : Prop where
  /-- The counter is ahead of what was stored by the errors that are in flight. -/
  errorCount : state.sink.errorCount =
    errors state.pushed + errors (state.inFlight.map (·.2))
  /-- A thread reports one diagnostic at a time. -/
  inFlight_nodup : (state.inFlight.map (·.1)).Nodup
  errorCount_of_idle : state.inFlight = [] → state.sink.errorCount = errors state.pushed
  /-- Who has seen an error among what is or was stored sees the counter above zero ever after. -/
  hasErrors_of_mem : ∀ rendered ∈ state.pushed, rendered.severity.isError →
    ∀ later, Relation.ReflTransGen Step state later → later.sink.hasErrors
  /-- What was stored is what the finished reports brought, and nothing else. -/
  finished : state.finished.map (·.2) = state.pushed
  /-- A thread's finished reports come in the order it began them; only its last can be missing. -/
  begun : ∀ thread,
    state.begun thread = ofThread thread state.finished ++ ofThread thread state.inFlight

theorem accounted_of_reachable {state : SharedSink Thread} (h : Reachable state) :
    Accounted state := by
  have hconsistent := consistent_of_reachable h
  constructor
  . exact hconsistent.errorCount
  . exact hconsistent.nodup
  . intro hidle
    have hcount := hconsistent.errorCount
    rw [hidle] at hcount
    exact hcount
  . intro rendered hmem herror later hlater
    exact hconsistent.hasErrors_of_mem hmem herror hlater
  . exact hconsistent.finished
  . exact hconsistent.begun

def failure (message : String) : Rendered :=
  { kind := .sampleProfile, severity := .error, message }

/--
One thread is overtaken by another between the two steps of its report.
-/
theorem accounted_of_reachable_overtaken :
    ∃ state : SharedSink Bool, Reachable state ∧
      state.sink.errorCount = 2 ∧ state.taken = [failure "late"] ∧
      state.inFlight = [(false, failure "early")] ∧ Accounted state := by
  have hearly := Reachable.start.step (.count {} false (failure "early") (by decide))
  have hlate := hearly.step (.count _ true (failure "late") (by decide))
  have hstored := hlate.step (.store _ true (failure "late") (by decide))
  have htaken := hstored.step (.takeAll _)
  exact ⟨_, htaken, rfl, rfl, rfl, accounted_of_reachable htaken⟩

end SharedSink

end IRDiagnostics
