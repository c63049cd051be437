import IRDiagnostics.Kind.Basic

/-!
This module contains the allocation of plugin kinds from a counter that all threads share. A thread
reads the counter and then tries to raise it by one from the value it read; when another thread was
faster, or the exchange fails for no reason, it reads again. The kind is the raised value.

`Kind.allocate` is the allocation as a single step, `Allocation.Step` the interleaving of its parts.
-/

namespace IRDiagnostics

namespace Kind

/--
Take the next kind from the counter `last`, which holds the kind that was given out last. There is
none once the counter has reached its greatest value.
-/
def allocate (last : UInt32) : Option Kind :=
  if last.toNat + 1 < UInt32.size then some ⟨last + 1⟩ else none

/--
Take kinds from the counter until `count` are taken or none is left.
-/
def allocateMany (last : UInt32) (count : Nat) : List Kind :=
  match count with
  | 0 => []
  | count + 1 =>
    match allocate last with
    | some kind => kind :: allocateMany kind.raw count
    | none => []

end Kind

/--
The shared counter, the value each allocating thread has read, and the kinds given out so far with
the thread that got them, latest first.
-/
structure Allocation (Thread : Type) where
  last : UInt32
  seen : Thread → Option UInt32 := fun _ => none
  issued : List (Thread × Kind) := []
  /-- The threads whose allocation failed because the kinds are exhausted. -/
  failed : List Thread := []

namespace Allocation

variable {Thread : Type} [DecidableEq Thread]

/--
Forget or replace what a thread has read.
-/
def setSeen (state : Allocation Thread) (thread : Thread) (value : Option UInt32) :
    Thread → Option UInt32 :=
  fun other => if other = thread then value else state.seen other

/--
One atomic step of one thread.
-/
inductive Step : Allocation Thread → Allocation Thread → Prop where
  /-- A thread without a value reads the counter. -/
  | load (state : Allocation Thread) (thread : Thread) :
      state.seen thread = none →
      Step state { state with seen := state.setSeen thread (some state.last) }
  /-- The counter cannot be raised beyond its greatest value: the allocation fails. -/
  | exhaust (state : Allocation Thread) (thread : Thread) (value : UInt32) :
      state.seen thread = some value →
      Kind.allocate value = none →
      Step state
        { state with seen := state.setSeen thread none, failed := thread :: state.failed }
  /-- The counter still holds the value read and is raised. -/
  | exchange (state : Allocation Thread) (thread : Thread) (value : UInt32) (kind : Kind) :
      state.seen thread = some value →
      Kind.allocate value = some kind →
      state.last = value →
      Step state
        { state with
          last := kind.raw
          seen := state.setSeen thread none
          issued := (thread, kind) :: state.issued }
  /-- The exchange fails and the thread starts over. -/
  | retry (state : Allocation Thread) (thread : Thread) (value : UInt32) :
      state.seen thread = some value →
      Step state { state with seen := state.setSeen thread none }

/--
The states that can be reached from a counter, with no allocation under way at first.
-/
inductive Reachable (start : UInt32) : Allocation Thread → Prop where
  | start : Reachable start { last := start }
  | step {state next : Allocation Thread} :
      Reachable start state → Step state next → Reachable start next

end Allocation

end IRDiagnostics
