import IRDiagnostics.Diagnostic.Basic
import IRDiagnostics.Module.Scope
import IRDiagnostics.Remark.Origin

/-!
This module contains the ways to make a diagnostic as data, with the ids that each of them is given.
`Diagnostic.make` makes the diagnostic.
-/

namespace IRDiagnostics

def Remark.Origin.handles : Remark.Origin → List Handle
  | .withKind _ _ _ _ region | .block _ _ region | .fpCommute _ region | .aliasing _ region =>
    [region.handle]
  | .inst _ id => [id.handle]
  | .function _ id => [id.handle]

/--
The ids in the call that a violation holds.
-/
def Barebone.Violation.handles : Violation → List Handle
  | .hwRegInvalid call _ | .hwRegAllocFailure call _ | .multipartArgUnsupported call _ =>
    (call.map Call.handles).getD []
  | .mustTailCall call | .notInTailCallPosition call | .inNonBareboneFunction call => call.handles
  | .noClobberHwRegInvalid _ | .framePointerNotAllowed | .localAreaSizeInvalid ..
  | .localAreaSizeAlignNote _ | .localAreaSizeExceeded .. | .returnNotAllowed => []

namespace Diagnostic

/--
What a diagnostic is made from.
-/
inductive Origin where
  | inlineAsm (message : String) (severity : Severity) (cookie : UInt64)
  /-- The cookie is in the metadata of the instruction. -/
  | inlineAsmOfInst (inst : InstId) (message : String) (severity : Severity)
  | resourceLimit (diagnostic : ResourceLimit)
  | debugVersion (version : UInt32) (severity : Severity)
  | debugInvalid (severity : Severity)
  | sampleProfile (diagnostic : SampleProfile)
  | pgoProfile (diagnostic : PgoProfile)
  | iselFallback (function : FunctionId) (severity : Severity)
  | misExpect (inst : InstId) (message : String)
  | unsupported (function : FunctionId) (inst : Option InstId) (message : String)
    (severity : Severity)
  /-- A violation other than a plain return, which `bareboneReturn` is there for. -/
  | barebone (severity : Severity) (function : FunctionId) (violation : Barebone.Violation)
  /-- A plain return, which is located at the instruction that returns. -/
  | bareboneReturn (severity : Severity) (function : FunctionId) (ret : InstId)
  /-- A remark with all that is done to it after it is made. -/
  | remark (pass name : String) (origin : Remark.Origin) (steps : List Remark.Step)
  | plugin (kind : Kind) (severity : Severity) (message : String)

/--
The ids that the maker of a diagnostic is given.
-/
def Origin.handles : Origin → List Handle
  | .inlineAsm .. | .debugVersion .. | .debugInvalid _ | .sampleProfile _ | .pgoProfile _
  | .plugin .. => []
  | .inlineAsmOfInst inst _ _ | .misExpect inst _ => [inst.handle]
  | .resourceLimit diagnostic => [diagnostic.function.handle]
  | .iselFallback function _ => [function.handle]
  | .unsupported function inst _ _ => function.handle :: (inst.map Id.handle).toList
  | .barebone _ function violation => function.handle :: violation.handles
  | .bareboneReturn _ function ret => [function.handle, ret.handle]
  | .remark _ _ origin _ => origin.handles

/--
Whether the kind, if one is given to a remark, is one that its category accepts.
-/
def Origin.kindAccepted : Origin → Bool
  | .remark _ _ origin _ => origin.kindAccepted
  | _ => true

def make (module : Module) : Origin → Except RemarkError Diagnostic
  | .inlineAsm message severity cookie => return .inlineAsm { message, severity, cookie }
  | .inlineAsmOfInst inst message severity =>
    ((InlineAsm.ofInst module inst message severity).map .inlineAsm).mapError .fault
  | .resourceLimit diagnostic => return .resourceLimit diagnostic
  | .debugVersion version severity => return .debugVersion version severity
  | .debugInvalid severity => return .debugInvalid severity
  | .sampleProfile diagnostic => return .sampleProfile diagnostic
  | .pgoProfile diagnostic => return .pgoProfile diagnostic
  | .iselFallback function severity => return .iselFallback function severity
  | .misExpect inst message => ((MisExpect.at module inst message).map .misExpect).mapError .fault
  | .unsupported function inst message severity =>
    ((Unsupported.at module function inst message severity).map .unsupported).mapError .fault
  | .barebone severity function violation =>
    ((Barebone.ofViolation module severity function violation).map .barebone).mapError .fault
  | .bareboneReturn severity function ret =>
    ((Barebone.ofReturn module severity function ret).map .barebone).mapError .fault
  | .remark pass name origin steps => do
    let remark ← Remark.make module pass name origin
    return .remark (remark.run steps)
  | .plugin kind severity message => return .plugin kind severity message

/--
The ids that a diagnostic holds.
-/
def handles : Diagnostic → List Handle
  | .inlineAsm diagnostic => (diagnostic.inst.map Id.handle).toList
  | .resourceLimit diagnostic => [diagnostic.function.handle]
  | .debugVersion .. | .debugInvalid _ | .sampleProfile _ | .pgoProfile _ | .plugin .. => []
  | .iselFallback function _ => [function.handle]
  | .misExpect diagnostic => [diagnostic.located.function.handle]
  | .unsupported diagnostic => [diagnostic.located.function.handle]
  | .barebone diagnostic => diagnostic.located.function.handle :: diagnostic.violation.handles
  | .remark diagnostic =>
    diagnostic.located.function.handle :: (diagnostic.region.map Id.handle).toList

end Diagnostic

end IRDiagnostics
