import IRDiagnostics.Module.Read
import IRDiagnostics.Ty.Printer

/-!
This module contains the pieces that the text of a diagnostic is made of. A diagnostic is a list of
fragments; a `Printer` says how each sort of fragment is written.
-/

namespace IRDiagnostics

inductive Fragment where
  | text (text : String)
  | int (value : Int64)
  | uint (value : UInt64)
  | ty (ty : Ty)
  | signature (signature : Signature)
  /-- The name of a function. -/
  | function (function : FunctionId)
  /-- The identifier of the module. -/
  | module
  deriving DecidableEq

/--
How the fragments other than plain text are written. What is left out is written as diagnostics show
it: numbers in decimal, types in their printed form, names as they are.
-/
structure Printer where
  int : Int64 → String := fun value => toString value.toInt
  uint : UInt64 → String := fun value => value.toNat.repr
  ty : Ty → String := Ty.text
  signature : Signature → String := Signature.text
  function : String → String := id
  module : String → String := id

namespace Printer

def plain : Printer := {}

/--
Write every fragment other than plain text between angle brackets, after the name of its sort.
-/
def tagged : Printer where
  int value := tag "int" (plain.int value)
  uint value := tag "uint" (plain.uint value)
  ty value := tag "type" value.text
  signature value := tag "fntype" value.text
  function name := tag "fn" name
  module identifier := tag "module" identifier
where
  tag (sort text : String) : String := "<" ++ sort ++ ":" ++ text ++ ">"

/--
The text of a fragment. Only the name of a function has to be looked up.
-/
def fragment (printer : Printer) (module : Module) : Fragment → Except Fault String
  | .text text => .ok text
  | .int value => .ok (printer.int value)
  | .uint value => .ok (printer.uint value)
  | .ty ty => .ok (printer.ty ty)
  | .signature signature => .ok (printer.signature signature)
  | .function function => (module.functionName function).map printer.function
  | .module => .ok (printer.module module.identifier)

def fragments (printer : Printer) (module : Module) : List Fragment → Except Fault String
  | [] => .ok ""
  | fragment :: rest => do
    let text ← printer.fragment module fragment
    return text ++ (← printer.fragments module rest)

end Printer

end IRDiagnostics
