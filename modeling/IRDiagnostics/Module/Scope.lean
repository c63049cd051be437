import IRDiagnostics.Module.Step

/-!
This module contains the scope of build steps: the ids that a step is given, the id that it returns,
and the lists of steps that are given only ids which were returned before.
-/

namespace IRDiagnostics

/--
An id of an entity of any sort.
-/
structure Handle where
  entity : Entity
  raw : UInt32
  deriving DecidableEq

def Id.handle (id : Id ε) : Handle := ⟨ε, id.raw⟩

def Callee.handles : Callee → List Handle
  | .direct function => [function.handle]
  | .indirect _ => []

def Call.handles (call : Call) : List Handle := call.inst.handle :: call.callee.handles

/--
The file of a source position, if there is a position.
-/
def DebugLoc.handles (debugLoc : Option DebugLoc) : List Handle :=
  (debugLoc.map (·.file.handle)).toList

namespace BuildStep

/--
The ids that a step is given.
-/
def handles : BuildStep → List Handle
  | .file _ | .function .. | .global .. | .constant _ => []
  | .subprogram data => [data.file.handle]
  | .setSubprogram target data => [target.handle, data.handle]
  | .block parent _ => [parent.handle]
  | .instruction parent _ debugLoc => parent.handle :: DebugLoc.handles debugLoc
  | .call parent callee debugLoc => parent.handle :: DebugLoc.handles debugLoc ++ callee.handles
  | .metadata inst _ _ => [inst.handle]

/--
The names that a step brings into a module.
-/
def names : BuildStep → List String
  | .function name _ params => name :: params
  | .block _ name => name.toList
  | .global name _ => [name]
  | .file _ | .subprogram _ | .setSubprogram .. | .instruction .. | .call .. | .metadata ..
  | .constant _ => []

/--
The sort of entity that a step stores, if it stores one.
-/
def stores? : BuildStep → Option Entity
  | .file _ => some .file
  | .subprogram _ => some .subprogram
  | .function .. => some .function
  | .block .. => some .block
  | .instruction .. | .call .. => some .instruction
  | .global .. => some .global
  | .constant _ => some .constant
  | .setSubprogram .. | .metadata .. => none

/--
The id that a step returned, if this was its answer.
-/
def returned? (step : BuildStep) : BuildAnswer → Option Handle
  | .issued raw => step.stores?.map ({ entity := ·, raw })
  | .done | .rejected _ => none

end BuildStep

namespace Module

/--
The number of entities of a sort.
-/
def size (module : Module) : Entity → Nat
  | .function => module.functions.size
  | .block => module.blocks.size
  | .instruction => module.insts.size
  | .global => module.globals.size
  | .constant => module.constants.size
  | .file => module.files.size
  | .subprogram => module.subprograms.size

/--
Whether there is an entity for a handle.
-/
def Issued (module : Module) (handle : Handle) : Prop :=
  handle.raw.toNat < module.size handle.entity

/--
Whether every id that the steps are given was returned by a step before it or is known beforehand.
-/
def wellScoped (module : Module) (known : List Handle) : List BuildStep → Bool
  | [] => true
  | step :: steps =>
    step.handles.all (· ∈ known) &&
      match module.apply step with
      | .ok (answer, module) =>
        module.wellScoped (known ++ (step.returned? answer).toList) steps
      | .error _ => true

/--
The ids that the steps return.
-/
def returned (module : Module) : List BuildStep → List Handle
  | [] => []
  | step :: steps =>
    match module.apply step with
    | .ok (answer, module) => (step.returned? answer).toList ++ module.returned steps
    | .error _ => []

end Module

end IRDiagnostics
