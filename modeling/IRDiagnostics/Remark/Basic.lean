import IRDiagnostics.Fragment
import IRDiagnostics.Located
import IRDiagnostics.Remark.Argument
import IRDiagnostics.Remark.Category

/-!
This module contains the optimization remarks. A remark is made about a block, an instruction or a
function and then filled with arguments; the values of the arguments up to the split make up its
message. `Remark.Step` lists what can be done to a remark after it was made.
-/

namespace IRDiagnostics

structure Remark where
  located : Located
  category : Category
  pass : String
  name : String
  /-- The block the remark is about. -/
  region : Option BlockId
  args : List Argument := []
  /-- Where the arguments start that the message leaves out. -/
  firstExtra : Option Nat := none
  verbose : Bool := false
  /-- How often the code was run, if that is known. -/
  hotness : Option UInt64 := none
  deriving DecidableEq

/--
Why a remark cannot be made.
-/
inductive RemarkError where
  /-- The category does not accept the kind. -/
  | kindRefused (kind : Kind) (category : Category)
  | fault (fault : Fault)
  deriving DecidableEq

def RemarkError.message : RemarkError → String
  | .kindRefused kind category =>
    "diagnostic kind " ++ kind.text ++ " does not belong to " ++ category.label ++ " remarks"
  | .fault reason => reason.message

/--
The split of a remark's arguments was set before, at `index`.
-/
structure ExtraArgsMarked where
  index : Nat
  deriving DecidableEq

def ExtraArgsMarked.text (error : ExtraArgsMarked) : String :=
  "extra arguments already start at index " ++ error.index.repr

namespace Remark

/--
A remark of an explicit kind and severity about a block. The kind is checked before the block is
looked at. The check is a debug assertion, and debug assertions are taken to be enabled: without
them a remark of a kind that its category does not accept would be made as well.
-/
def withKind (module : Module) (kind : Kind) (severity : Severity) (category : Category)
    (pass name : String) (location : Location) (region : BlockId) : Except RemarkError Remark :=
  if category.accepts kind then do
    let function ← (module.blockParent region).mapError .fault
    let located := { kind, severity, function, location }
    return { located, category, pass, name, region }
  else
    throw (.kindRefused kind category)

/--
A remark of its category's kind and severity about a block.
-/
def ofBlock (module : Module) (category : Category) (pass name : String) (location : Location)
    (region : BlockId) : Except RemarkError Remark :=
  withKind module category.defaultKind category.defaultSeverity category pass name location region

/--
A remark that floating-point operations would have to be reordered.
-/
def fpCommute (module : Module) (pass name : String) (location : Location) (region : BlockId) :
    Except RemarkError Remark :=
  withKind module .optimizationRemarkAnalysisFpCommute .remark .analysis pass name location region

/--
A remark that pointers may alias.
-/
def aliasing (module : Module) (pass name : String) (location : Location) (region : BlockId) :
    Except RemarkError Remark :=
  withKind module .optimizationRemarkAnalysisAliasing .remark .analysis pass name location region

/--
A remark about an instruction and its block, located at the instruction's source position.
-/
def ofInst (module : Module) (category : Category) (pass name : String) (inst : InstId) :
    Except Fault Remark := do
  let function ← module.instFunction inst
  let location ← Location.ofInst module inst
  let region ← module.instParent inst
  let located :=
    { kind := category.defaultKind, severity := category.defaultSeverity, function, location }
  return { located, category, pass, name, region }

/--
A remark about a function and its entry block, located at the function's subprogram.
-/
def ofFunction (module : Module) (category : Category) (pass name : String)
    (function : FunctionId) : Except Fault Remark := do
  let location ← Location.ofFunction module function
  let region ← module.firstBlock function
  let located :=
    { kind := category.defaultKind, severity := category.defaultSeverity, function, location }
  return { located, category, pass, name, region }

def insert (remark : Remark) (argument : Argument) : Remark :=
  { remark with args := remark.args ++ [argument] }

def setVerbose (remark : Remark) : Remark := { remark with verbose := true }

def setHotness (remark : Remark) (hotness : UInt64) : Remark := { remark with hotness }

/--
Let the message end with the arguments inserted so far. This can be done once.
-/
def markExtraArgs (remark : Remark) : Except ExtraArgsMarked Remark :=
  match remark.firstExtra with
  | some index => .error { index }
  | none => .ok { remark with firstExtra := some remark.args.length }

/--
The number of arguments that the message is made of.
-/
def messageSize (remark : Remark) : Nat := remark.firstExtra.getD remark.args.length

def message (remark : Remark) : String :=
  String.join ((remark.args.take remark.messageSize).map (·.val))

def extraArgs (remark : Remark) : List Argument := remark.args.drop remark.messageSize

/--
Analysis remarks of the pass without a name are wanted whatever the filter says.
-/
def alwaysPrint (remark : Remark) : Bool := remark.category = .analysis && remark.pass = ""

/--
Whether a filter wants the remark. Failures do not depend on it, but only warnings are reported.
-/
def enabled (filter : Filter) (remark : Remark) : Bool :=
  match remark.category with
  | .applied => filter.applied remark.pass
  | .missed => filter.missed remark.pass
  | .analysis => filter.analysis remark.pass || remark.alwaysPrint
  | .failure => remark.located.severity = .warning

def hotnessText : Option UInt64 → String
  | some hotness => " (hotness: " ++ hotness.toNat.repr ++ ")"
  | none => ""

def text (remark : Remark) : String :=
  remark.located.location.text ++ ": " ++ remark.message ++ hotnessText remark.hotness

/--
What can be done to a remark.
-/
inductive Step where
  | insert (argument : Argument)
  | setVerbose
  | markExtraArgs
  | setHotness (hotness : UInt64)
  deriving DecidableEq

/--
A refused step leaves the remark as it is.
-/
def apply (remark : Remark) : Step → Except ExtraArgsMarked Unit × Remark
  | .insert argument => (.ok (), remark.insert argument)
  | .setVerbose => (.ok (), remark.setVerbose)
  | .markExtraArgs =>
    match remark.markExtraArgs with
    | .ok remark => (.ok (), remark)
    | .error error => (.error error, remark)
  | .setHotness hotness => (.ok (), remark.setHotness hotness)

def run (remark : Remark) (steps : List Step) : Remark :=
  steps.foldl (fun remark step => (remark.apply step).2) remark

end Remark

end IRDiagnostics
