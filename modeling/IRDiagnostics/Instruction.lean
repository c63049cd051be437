import IRDiagnostics.DebugInfo
import IRDiagnostics.Metadata
import IRDiagnostics.Ty.Basic

/-!
This module contains the instructions of the intermediate representation. A call is an instruction
with a callee; all other instructions have none.
-/

namespace IRDiagnostics

inductive Opcode where
  | ret
  | br
  | switch
  | unreachable
  | add
  | sub
  | mul
  | sdiv
  | udiv
  | fadd
  | fmul
  | and
  | or
  | xor
  | shl
  | alloca
  | load
  | store
  | getElementPtr
  | icmp
  | fcmp
  | phi
  | select
  | call
  deriving DecidableEq

namespace Opcode

/--
The name an instruction is written with.
-/
def name : Opcode → String
  | .ret => "ret"
  | .br => "br"
  | .switch => "switch"
  | .unreachable => "unreachable"
  | .add => "add"
  | .sub => "sub"
  | .mul => "mul"
  | .sdiv => "sdiv"
  | .udiv => "udiv"
  | .fadd => "fadd"
  | .fmul => "fmul"
  | .and => "and"
  | .or => "or"
  | .xor => "xor"
  | .shl => "shl"
  | .alloca => "alloca"
  | .load => "load"
  | .store => "store"
  | .getElementPtr => "getelementptr"
  | .icmp => "icmp"
  | .fcmp => "fcmp"
  | .phi => "phi"
  | .select => "select"
  | .call => "call"

/--
The name an opcode has in interchange texts.
-/
def label : Opcode → String
  | .ret => "Ret"
  | .br => "Br"
  | .switch => "Switch"
  | .unreachable => "Unreachable"
  | .add => "Add"
  | .sub => "Sub"
  | .mul => "Mul"
  | .sdiv => "SDiv"
  | .udiv => "UDiv"
  | .fadd => "FAdd"
  | .fmul => "FMul"
  | .and => "And"
  | .or => "Or"
  | .xor => "Xor"
  | .shl => "Shl"
  | .alloca => "Alloca"
  | .load => "Load"
  | .store => "Store"
  | .getElementPtr => "GetElementPtr"
  | .icmp => "ICmp"
  | .fcmp => "FCmp"
  | .phi => "Phi"
  | .select => "Select"
  | .call => "Call"

def all : List Opcode :=
  [.ret, .br, .switch, .unreachable, .add, .sub, .mul, .sdiv, .udiv, .fadd, .fmul, .and, .or, .xor,
    .shl, .alloca, .load, .store, .getElementPtr, .icmp, .fcmp, .phi, .select, .call]

def ofLabel? (label : String) : Option Opcode := all.find? (·.label = label)

theorem ofLabel?_label (opcode : Opcode) : ofLabel? opcode.label = some opcode := by
  cases opcode <;> decide

end Opcode

/--
What a call instruction calls: a known function, or a pointer that is called with a signature.
-/
inductive Callee where
  | direct (function : FunctionId)
  | indirect (signature : Signature)
  deriving DecidableEq

structure Instruction where
  opcode : Opcode
  parent : BlockId
  debugLoc : Option DebugLoc
  attachments : Metadata.Attachments := []
  callee : Option Callee := none

/--
A call instruction together with its callee.
-/
structure Call where
  inst : InstId
  callee : Callee
  deriving DecidableEq

/--
View an instruction as a call, if it is one.
-/
def Instruction.asCall? (instruction : Instruction) (inst : InstId) : Option Call :=
  instruction.callee.map fun callee => { inst, callee }

end IRDiagnostics
