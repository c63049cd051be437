import IRDiagnostics.Diagnostic.Basic

/-!
This module contains the sink that diagnostics are reported to. A diagnostic is rendered when it is
reported, so what the sink holds does not refer to the module any more. The number of errors counts
everything that was ever stored, also what has been taken out again.
-/

namespace IRDiagnostics

/--
A diagnostic as text.
-/
structure Rendered where
  kind : Kind
  severity : Severity
  message : String
  deriving DecidableEq

def Rendered.text (rendered : Rendered) : String :=
  rendered.severity.text ++ ": " ++ rendered.message

def Diagnostic.render (module : Module) (diagnostic : Diagnostic) : Except Fault Rendered := do
  let message ← diagnostic.text module
  return { kind := diagnostic.kind, severity := diagnostic.severity, message }

structure Sink where
  stored : Array Rendered := #[]
  /--
  The number of errors that were ever stored. A counter of 64 bits would come to the same, as
  nothing reports so many diagnostics that it starts over.
  -/
  errorCount : Nat := 0
  deriving DecidableEq

namespace Sink

def empty : Sink := {}

/--
Count a diagnostic if it is an error.
-/
def count (sink : Sink) (rendered : Rendered) : Sink :=
  { sink with errorCount := sink.errorCount + rendered.severity.isError.toNat }

def store (sink : Sink) (rendered : Rendered) : Sink :=
  { sink with stored := sink.stored.push rendered }

def push (sink : Sink) (rendered : Rendered) : Sink := (sink.count rendered).store rendered

/--
Store a diagnostic unless the filter of its module does not want it, and tell whether it was stored.
-/
def report (sink : Sink) (module : Module) (diagnostic : Diagnostic) :
    Except Fault (Bool × Sink) :=
  if diagnostic.enabled module.filter then do
    return (true, sink.push (← diagnostic.render module))
  else
    return (false, sink)

def hasErrors (sink : Sink) : Bool := 0 < sink.errorCount

/--
Take out everything that is stored.
-/
def takeAll (sink : Sink) : Array Rendered × Sink := (sink.stored, { sink with stored := #[] })

end Sink

end IRDiagnostics
