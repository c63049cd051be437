import IRDiagnostics.Kind.Basic
import IRDiagnostics.Location.Basic
import IRDiagnostics.Severity

/-!
This module contains what the diagnostics about a place in a function have in common.
-/

namespace IRDiagnostics

structure Located where
  kind : Kind
  severity : Severity
  function : FunctionId
  location : Location
  deriving DecidableEq

namespace Located

/--
Locate a diagnostic at an instruction if there is one and at the function otherwise. An instruction
without a source position leaves the location unavailable.
-/
def resolve (module : Module) (kind : Kind) (severity : Severity) (function : FunctionId)
    (inst : Option InstId) : Except Fault Located := do
  let location ← match inst with
    | some inst => Location.ofInst module inst
    | none => Location.ofFunction module function
  return { kind, severity, function, location }

end Located

end IRDiagnostics
