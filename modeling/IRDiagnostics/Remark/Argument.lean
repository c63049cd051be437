import IRDiagnostics.Location.Basic
import IRDiagnostics.Ty.Printer

/-!
This module contains the arguments of optimization remarks. The value of an argument is what the
message shows of it; its key and its location are for readers of the record.
-/

namespace IRDiagnostics

structure Argument where
  /-- The name of the argument, empty for plain text. -/
  key : String
  val : String
  location : Location := .unavailable
  deriving DecidableEq

namespace Argument

/--
The name of a symbol as the user wrote it: one leading U+0001, which marks a name as mangled
already, is dropped.
-/
def userName (name : String) : String :=
  match name.toList with
  | '\x01' :: rest => String.ofList rest
  | _ => name

def ofString (key val : String) : Argument := { key, val }

def ofTy (key : String) (ty : Ty) : Argument := { key, val := ty.text }

def ofInt (key : String) (value : Int64) : Argument := { key, val := toString value.toInt }

def ofUInt (key : String) (value : UInt64) : Argument := { key, val := value.toNat.repr }

/--
A number of 32 bits in exponent form.
-/
def ofFloat (key : String) (value : Binary32) : Argument := { key, val := value.widen.scientific }

/--
A source position as `file:line:column`.
-/
def ofPosition (key : String) (position : Option Position) : Argument :=
  let val :=
    match position with
    | some position =>
      s!"{position.file.filename}:{position.line.toNat}:{position.column.toNat}"
    | none => "<UNKNOWN LOCATION>"
  { key, val, location := Location.ofPosition? position }

/--
A value of the module: parameters, globals and functions by name, constants in operand form,
instructions by opcode. Functions and instructions are located.
-/
def ofValue (module : Module) (key : String) : Value → Except Fault Argument
  | .parameter parameter => do
    return { key, val := userName (← module.parameterName parameter) }
  | .global global => do
    return { key, val := userName (← module.globalName global) }
  | .constant constant => return { key, val := constant.text }
  | .instruction inst => do
    let opcode ← module.instOpcode inst
    return { key, val := opcode.name, location := ← Location.ofInst module inst }
  | .function function => do
    let name ← module.functionName function
    return { key, val := userName name, location := ← Location.ofFunction module function }

end Argument

end IRDiagnostics
