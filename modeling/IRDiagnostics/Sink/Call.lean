import IRDiagnostics.Sink.Basic

/-!
This module contains the calls on a sink as data. `Sink.apply` performs one of them and `Sink.run` a
list of them.
-/

namespace IRDiagnostics

namespace Sink

inductive Call where
  /-- Report a diagnostic about a module. -/
  | report (module : Module) (diagnostic : Diagnostic)
  /-- Take out everything that is stored. -/
  | takeAll
  /-- Look at everything that is stored. -/
  | diagnostics
  | errorCount
  | hasErrors

/--
What a call answers.
-/
inductive Answer where
  /-- Whether the diagnostic was stored. -/
  | reported (stored : Bool)
  /-- The diagnostic could not be rendered. -/
  | fault (fault : Fault)
  | taken (rendered : Array Rendered)
  | diagnostics (rendered : Array Rendered)
  | errorCount (count : Nat)
  | hasErrors (any : Bool)
  deriving DecidableEq

/--
A diagnostic is rendered before anything is counted or stored, so a fault leaves the sink as it was.
-/
def apply (sink : Sink) : Call → Answer × Sink
  | .report module diagnostic =>
    match sink.report module diagnostic with
    | .ok (stored, sink) => (.reported stored, sink)
    | .error fault => (.fault fault, sink)
  | .takeAll =>
    let (rendered, sink) := sink.takeAll
    (.taken rendered, sink)
  | .diagnostics => (.diagnostics sink.stored, sink)
  | .errorCount => (.errorCount sink.errorCount, sink)
  | .hasErrors => (.hasErrors sink.hasErrors, sink)

/--
Perform calls from left to right.
-/
def run (sink : Sink) : List Call → List Answer × Sink
  | [] => ([], sink)
  | call :: calls =>
    let (answer, sink) := sink.apply call
    let (answers, sink) := sink.run calls
    (answer :: answers, sink)

end Sink

end IRDiagnostics
