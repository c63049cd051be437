import IRDiagnostics.Remark.Basic

/-!
This module contains the records of optimization remarks: all that a remark says, detached from the
module it is about. Arguments that the message leaves out are kept.
-/

namespace IRDiagnostics

namespace Record

structure Place where
  file : String
  line : UInt32
  column : UInt32
  deriving DecidableEq

def Place.ofLocation? : Location → Option Place
  | .unavailable => none
  | .at position => some
    { file := position.file.filename, line := position.line, column := position.column }

structure Argument where
  key : String := ""
  value : String
  location : Option Place := none
  deriving DecidableEq

def Argument.ofArgument (argument : IRDiagnostics.Argument) : Argument where
  key := argument.key
  value := argument.val
  location := Place.ofLocation? argument.location

end Record

structure Record where
  category : Category
  pass : String
  name : String
  function : String
  location : Option Record.Place := none
  args : List Record.Argument := []
  hotness : Option UInt64 := none
  verbose : Bool := false
  deriving DecidableEq

def Remark.toRecord (module : Module) (remark : Remark) : Except Fault Record := do
  let function ← module.functionName remark.located.function
  return {
    category := remark.category
    pass := remark.pass
    name := remark.name
    function
    location := Record.Place.ofLocation? remark.located.location
    args := remark.args.map Record.Argument.ofArgument
    hotness := remark.hotness
    verbose := remark.verbose
  }

end IRDiagnostics
