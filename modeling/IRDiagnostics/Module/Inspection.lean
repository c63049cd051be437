import IRDiagnostics.Binary64.Positional
import IRDiagnostics.Module.Read
import IRDiagnostics.Text.Inspection

/-!
This module contains the forms in which the entities of a module are shown for inspection. They tell
ids and names apart from one another, as printed names alone do not.
-/

namespace IRDiagnostics

open Inspection

mutual

def Ty.inspect : Ty → String
  | .void => "Void"
  | .int bits => wrapped "Int" bits.toNat.repr
  | .half => "Half"
  | .float => "Float"
  | .double => "Double"
  | .ptr => "Ptr"
  | .label => "Label"
  | .vector len element =>
    record "Vector" [("len", len.toNat.repr), ("element", element.inspect)]
  | .array len element =>
    record "Array" [("len", len.toNat.repr), ("element", element.inspect)]
  | .struct fields packed =>
    record "Struct" [("fields", list (Ty.inspectAll fields)), ("packed", toString packed)]
  | .function ret params vararg =>
    wrapped "Function" <| record "FunctionType"
      [("ret", ret.inspect),
       ("params", list (Ty.inspectAll params)),
       ("vararg", toString vararg)]

def Ty.inspectAll : List Ty → List String
  | [] => []
  | ty :: tys => ty.inspect :: Ty.inspectAll tys

end

def Signature.inspect (signature : Signature) : String :=
  record "FunctionType"
    [("ret", signature.ret.inspect),
     ("params", list (Ty.inspectAll signature.params)),
     ("vararg", toString signature.vararg)]

def Constant.inspect : Constant → String
  | .int bits value =>
    record "Int" [("bits", bits.toNat.repr), ("value", toString value.toInt)]
  | .float value => wrapped "Float" value.shortestText
  | .null => "Null"
  | .undef => "Undef"
  | .poison => "Poison"
  | .zeroInitializer => "ZeroInitializer"

def FunctionId.inspect (function : FunctionId) : String :=
  wrapped "FunctionId" function.index.repr

def InstId.inspect (inst : InstId) : String := wrapped "InstId" inst.index.repr

def Call.inspect (call : Call) : String :=
  let callee :=
    match call.callee with
    | .direct function => wrapped "Direct" function.inspect
    | .indirect signature => wrapped "Indirect" signature.inspect
  record "CallRef" [("inst", call.inst.inspect), ("callee", callee)]

namespace Module

variable (module : Module)

def inspectFunction (function : FunctionId) : Except Fault String := do
  let name ← module.functionName function
  return record "FunctionRef" [("id", function.inspect), ("name", quoted name)]

def inspectBlock (block : BlockId) : Except Fault String := do
  let name ← module.blockName block
  return record "BlockRef"
    [("id", wrapped "BlockId" block.index.repr), ("name", optional (name.map quoted))]

def inspectInst (inst : InstId) : Except Fault String := do
  let opcode ← module.instOpcode inst
  return record "InstRef" [("id", inst.inspect), ("opcode", opcode.label)]

def inspectGlobal (global : GlobalId) : Except Fault String := do
  let name ← module.globalName global
  return record "GlobalRef"
    [("id", wrapped "GlobalId" global.index.repr), ("name", quoted name)]

def inspectParameter (parameter : Parameter) : Except Fault String := do
  let name ← module.functionName parameter.function
  return record "ArgumentRef" [("function", quoted name), ("index", parameter.index.repr)]

def inspectValue : Value → Except Fault String
  | .parameter parameter => wrapped "Argument" <$> module.inspectParameter parameter
  | .global global => wrapped "Global" <$> module.inspectGlobal global
  | .constant constant => return wrapped "Constant" constant.inspect
  | .instruction inst => wrapped "Instruction" <$> module.inspectInst inst
  | .function function => wrapped "Function" <$> module.inspectFunction function

/--
The filter of a module is not shown.
-/
def inspectFilter : String := "Context \x7b .. \x7d"

end Module

end IRDiagnostics
