import IRDiagnostics.Module.Build

/-!
This module contains the operations that build a module as data. `Module.apply` performs one of them
and `Module.build` a list of them.
-/

namespace IRDiagnostics

inductive BuildStep where
  | file (file : SourceFile)
  | subprogram (subprogram : Subprogram)
  | function (name : String) (signature : Signature) (params : List String)
  | setSubprogram (function : FunctionId) (subprogram : SubprogramId)
  | block (function : FunctionId) (name : Option String)
  | instruction (parent : BlockId) (opcode : Opcode) (debugLoc : Option DebugLoc)
  | call (parent : BlockId) (callee : Callee) (debugLoc : Option DebugLoc)
  | metadata (inst : InstId) (kind : String) (node : Metadata.Node)
  | global (name : String) (ty : Ty)
  | constant (constant : Constant)
  deriving DecidableEq

/--
What a build step answers: the id of the entity it stored, nothing, or why it was refused.
-/
inductive BuildAnswer where
  | issued (raw : UInt32)
  | done
  | rejected (rejection : Rejection)
  deriving DecidableEq

namespace BuildAnswer

def ofIssued (result : Id ε × Module) : BuildAnswer × Module := (.issued result.1.raw, result.2)

/--
A refusal is an answer like any other and leaves the module as it was; a fault ends the run.
-/
def ofInserted (module : Module) :
    Except BuildError (InstId × Module) → Except Fault (BuildAnswer × Module)
  | .ok result => .ok (ofIssued result)
  | .error (.rejected rejection) => .ok (.rejected rejection, module)
  | .error (.fault fault) => .error fault

end BuildAnswer

namespace Module

def apply (module : Module) : BuildStep → Except Fault (BuildAnswer × Module)
  | .file file => .ok (BuildAnswer.ofIssued (module.addFile file))
  | .subprogram subprogram => .ok (BuildAnswer.ofIssued (module.addSubprogram subprogram))
  | .function name signature params =>
    (module.addFunction name signature params).map BuildAnswer.ofIssued
  | .setSubprogram function subprogram => (module.setSubprogram function subprogram).map (.done, ·)
  | .block function name => (module.addBlock function name).map BuildAnswer.ofIssued
  | .instruction parent opcode debugLoc =>
    BuildAnswer.ofInserted module (module.addInstruction parent opcode debugLoc)
  | .call parent callee debugLoc =>
    BuildAnswer.ofInserted module (module.addCall parent callee debugLoc)
  | .metadata inst kind node => (module.setMetadata inst kind node).map (.done, ·)
  | .global name ty => (module.addGlobal name ty).map BuildAnswer.ofIssued
  | .constant constant => .ok (BuildAnswer.ofIssued (module.addConstant constant))

/--
Run build steps from left to right. The answers of the steps before a fault are kept.
-/
def build (module : Module) : List BuildStep → List BuildAnswer × Except Fault Module
  | [] => ([], .ok module)
  | step :: steps =>
    match module.apply step with
    | .ok (answer, module) =>
      let (answers, result) := module.build steps
      (answer :: answers, result)
    | .error fault => ([], .error fault)

end Module

end IRDiagnostics
