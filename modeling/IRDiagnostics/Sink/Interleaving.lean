import IRDiagnostics.Sink.Basic

/-!
This module contains a sink that several threads report to at the same time. A report takes two
steps: the diagnostic is counted first and stored afterwards, and other threads may do anything in
between. Taking out what is stored is a single step.
-/

namespace IRDiagnostics

/--
A sink and its threads.
-/
structure SharedSink (Thread : Type) where
  sink : Sink := .empty
  /-- What each thread has begun to report, oldest first. -/
  begun : Thread → List Rendered := fun _ => []
  /-- What is counted but not yet stored, with the thread that reports it. -/
  inFlight : List (Thread × Rendered) := []
  /-- What was ever stored, with the thread that reported it, oldest first. -/
  finished : List (Thread × Rendered) := []
  /-- What was ever taken out, oldest first. -/
  taken : List Rendered := []

namespace SharedSink

variable {Thread : Type} [DecidableEq Thread]

/--
One atomic step.
-/
inductive Step : SharedSink Thread → SharedSink Thread → Prop where
  /-- A thread that is not reporting begins to report a diagnostic and counts it. -/
  | count (state : SharedSink Thread) (thread : Thread) (rendered : Rendered) :
      (∀ entry ∈ state.inFlight, entry.1 ≠ thread) →
      Step state
        { state with
          sink := state.sink.count rendered
          begun := fun other =>
            if other = thread then state.begun other ++ [rendered] else state.begun other
          inFlight := (thread, rendered) :: state.inFlight }
  /-- A thread stores what it has counted. -/
  | store (state : SharedSink Thread) (thread : Thread) (rendered : Rendered) :
      (thread, rendered) ∈ state.inFlight →
      Step state
        { state with
          sink := state.sink.store rendered
          inFlight := state.inFlight.filter (·.1 ≠ thread)
          finished := state.finished ++ [(thread, rendered)] }
  /-- Everything that is stored is taken out. -/
  | takeAll (state : SharedSink Thread) :
      Step state
        { state with
          sink := state.sink.takeAll.2
          taken := state.taken ++ state.sink.takeAll.1.toList }

/--
The states that can be reached from an empty sink that nobody reports to.
-/
inductive Reachable : SharedSink Thread → Prop where
  | start : Reachable {}
  | step {state next : SharedSink Thread} : Reachable state → Step state next → Reachable next

end SharedSink

end IRDiagnostics
