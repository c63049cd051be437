import IRDiagnostics.Module.Basic

/-!
This module contains the operations that build a module. Each one stores an entity or updates one
that is stored already; nothing is ever removed. Ids that are only stored are not looked at: a
function's subprogram, a subprogram's file and a source position's file are first checked when they
are read. A name is interned before anything is stored, so an operation with a new name fails when
there is no symbol left for it.
-/

namespace IRDiagnostics

/--
Why an instruction is refused. The module stays as it is.
-/
inductive Rejection where
  /-- A call has to name its callee. -/
  | callWithoutCallee
  /-- A direct call has to name a function that is declared already. -/
  | undeclaredCallee (function : FunctionId)
  deriving DecidableEq

def Rejection.toInternalError : Rejection → InternalError
  | .callWithoutCallee => ⟨"call instructions must be created with add_call"⟩
  | .undeclaredCallee function => ⟨s!"call to undeclared function #{function.index}"⟩

/--
Why a build operation does not go through.
-/
inductive BuildError where
  | rejected (rejection : Rejection)
  | fault (fault : Fault)
  deriving DecidableEq

namespace Module

def addFile (module : Module) (file : SourceFile) : FileId × Module :=
  let (id, files) := module.files.alloc file
  (id, { module with files })

def addSubprogram (module : Module) (subprogram : Subprogram) : SubprogramId × Module :=
  let (id, subprograms) := module.subprograms.alloc subprogram
  (id, { module with subprograms })

/--
Declare a function. Its own name is interned before those of its parameters.
-/
def addFunction (module : Module) (name : String) (signature : Signature) (params : List String) :
    Except Fault (FunctionId × Module) := do
  let (name, symbols) ← module.symbols.intern name
  let (params, symbols) ← symbols.internAll params
  let (id, functions) := module.functions.alloc { name, signature, params }
  return (id, { module with symbols, functions })

def setSubprogram (module : Module) (function : FunctionId) (subprogram : SubprogramId) :
    Except Fault Module := do
  let functions ← module.functions.modify function ({ · with subprogram := some subprogram })
  return { module with functions }

/--
Intern the name of a block, if it has one.
-/
def internName (symbols : SymbolTable) : Option String → Except Fault (Option Symbol × SymbolTable)
  | none => return (none, symbols)
  | some name => do
    let (name, symbols) ← symbols.intern name
    return (some name, symbols)

/--
Append a block to a function.
-/
def addBlock (module : Module) (function : FunctionId) (name : Option String) :
    Except Fault (BlockId × Module) := do
  let (name, symbols) ← internName module.symbols name
  let (id, blocks) := module.blocks.alloc { name, parent := function }
  let functions ← module.functions.modify function fun data =>
    { data with blocks := data.blocks ++ [id] }
  return (id, { module with symbols, blocks, functions })

/--
Append an instruction to the block it names as its parent.
-/
def pushInstruction (module : Module) (instruction : Instruction) :
    Except Fault (InstId × Module) := do
  let (id, insts) := module.insts.alloc instruction
  let blocks ← module.blocks.modify instruction.parent fun data =>
    { data with insts := data.insts ++ [id] }
  return (id, { module with insts, blocks })

/--
Append an instruction that is not a call.
-/
def addInstruction (module : Module) (parent : BlockId) (opcode : Opcode)
    (debugLoc : Option DebugLoc) : Except BuildError (InstId × Module) :=
  if opcode = .call then
    .error (.rejected .callWithoutCallee)
  else
    (module.pushInstruction { opcode, parent, debugLoc }).mapError .fault

/--
Why a callee may not be called: a function has to be declared, a pointer can always be called.
-/
def refusal? (module : Module) : Callee → Option Rejection
  | .direct function =>
    if module.functions.contains function then none else some (.undeclaredCallee function)
  | .indirect _ => none

/--
Append a call instruction. Its callee is looked at before its block.
-/
def addCall (module : Module) (parent : BlockId) (callee : Callee) (debugLoc : Option DebugLoc) :
    Except BuildError (InstId × Module) :=
  match module.refusal? callee with
  | some rejection => .error (.rejected rejection)
  | none =>
    (module.pushInstruction { opcode := .call, parent, debugLoc, callee }).mapError .fault

/--
File a metadata node of an instruction under its kind, in place of an earlier one.
-/
def setMetadata (module : Module) (inst : InstId) (kind : String) (node : Metadata.Node) :
    Except Fault Module := do
  let insts ← module.insts.modify inst fun data =>
    { data with attachments := data.attachments.set kind node }
  return { module with insts }

def addGlobal (module : Module) (name : String) (ty : Ty) : Except Fault (GlobalId × Module) := do
  let (name, symbols) ← module.symbols.intern name
  let (id, globals) := module.globals.alloc { name, ty }
  return (id, { module with symbols, globals })

def addConstant (module : Module) (constant : Constant) : ConstantId × Module :=
  let (id, constants) := module.constants.alloc constant
  (id, { module with constants })

end Module

end IRDiagnostics
