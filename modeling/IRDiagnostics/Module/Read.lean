import IRDiagnostics.Module.Basic

/-!
This module contains the readers of a module. An id is a handle that may be passed around freely;
whether it was issued is found out when something is read through it, and only then.
-/

namespace IRDiagnostics

/--
A formal parameter of a function, by its position.
-/
structure Parameter where
  function : FunctionId
  index : Nat
  deriving DecidableEq

/--
The values a remark can mention.
-/
inductive Value where
  | parameter (parameter : Parameter)
  | global (global : GlobalId)
  | constant (constant : Constant)
  | instruction (inst : InstId)
  | function (function : FunctionId)
  deriving DecidableEq

namespace Module

variable (module : Module)

def functionName (function : FunctionId) : Except Fault String := do
  module.symbols.resolve (← module.functions.read function).name

def functionSignature (function : FunctionId) : Except Fault Signature := do
  return (← module.functions.read function).signature

/--
The subprogram of a function. Its file is not read.
-/
def functionSubprogram (function : FunctionId) : Except Fault (Option Subprogram) := do
  match (← module.functions.read function).subprogram with
  | some subprogram => return some (← module.subprograms.read subprogram)
  | none => return none

def functionBlocks (function : FunctionId) : Except Fault (List BlockId) := do
  return (← module.functions.read function).blocks

/--
The entry block of a function, none for a declaration.
-/
def firstBlock (function : FunctionId) : Except Fault (Option BlockId) := do
  return (← module.functionBlocks function).head?

/--
The parameter at a position of a function, if the function has that many.
-/
def parameter? (function : FunctionId) (index : Nat) : Except Fault (Option Parameter) := do
  let params := (← module.functions.read function).params
  return if index < params.length then some { function, index } else none

def parameterName (parameter : Parameter) : Except Fault String := do
  let params := (← module.functions.read parameter.function).params
  match params[parameter.index]? with
  | some name => module.symbols.resolve name
  | none => throw (.outOfBounds params.length parameter.index)

def blockName (block : BlockId) : Except Fault (Option String) := do
  match (← module.blocks.read block).name with
  | some name => return some (← module.symbols.resolve name)
  | none => return none

def blockParent (block : BlockId) : Except Fault FunctionId := do
  return (← module.blocks.read block).parent

def blockInsts (block : BlockId) : Except Fault (List InstId) := do
  return (← module.blocks.read block).insts

def instOpcode (inst : InstId) : Except Fault Opcode := do
  return (← module.insts.read inst).opcode

def instParent (inst : InstId) : Except Fault BlockId := do
  return (← module.insts.read inst).parent

/--
The function an instruction belongs to.
-/
def instFunction (inst : InstId) : Except Fault FunctionId := do
  module.blockParent (← module.instParent inst)

/--
A source position with its file, which has to be a file of the module.
-/
def position (debugLoc : DebugLoc) : Except Fault Position := do
  let file ← module.files.read debugLoc.file
  return { file, line := debugLoc.line, column := debugLoc.column }

def instPosition (inst : InstId) : Except Fault (Option Position) := do
  match (← module.insts.read inst).debugLoc with
  | some debugLoc => return some (← module.position debugLoc)
  | none => return none

def instMetadata (inst : InstId) (kind : String) : Except Fault (Option Metadata.Node) := do
  return (← module.insts.read inst).attachments.find? kind

def asCall? (inst : InstId) : Except Fault (Option Call) := do
  return (← module.insts.read inst).asCall? inst

def callSignature (call : Call) : Except Fault Signature :=
  match call.callee with
  | .direct function => module.functionSignature function
  | .indirect signature => .ok signature

def globalName (global : GlobalId) : Except Fault String := do
  module.symbols.resolve (← module.globals.read global).name

def globalTy (global : GlobalId) : Except Fault Ty := do
  return (← module.globals.read global).ty

/--
The first function with the given name, if any.
-/
def functionByName? (name : String) : Option FunctionId := do
  let symbol ← module.symbols.find? name
  let (id, _) ← module.functions.toList.find? (·.2.name = symbol)
  return id

end Module

/--
The known function that is called, none for a call through a pointer.
-/
def Call.function? (call : Call) : Option FunctionId :=
  match call.callee with
  | .direct function => some function
  | .indirect _ => none

end IRDiagnostics
