import IRDiagnostics.Module.Inspection
import IRDiagnostics.Proofs.Module.Closed

/-!
This module contains the readers of closed modules. A read through an issued id has an answer, and
the ids in the answer were issued as well, so reads can be chained without end.
-/

namespace IRDiagnostics

namespace Module

variable {module : Module}

structure ParameterReadable (module : Module) (parameter : Parameter) : Prop where
  parent : module.Issued parameter.function.handle
  name : Answers (module.parameterName parameter) fun _ => True
  inspection : Answers (module.inspectParameter parameter) fun _ => True

structure SubprogramReadable (module : Module) (subprogram : Subprogram) : Prop where
  file : Answers (module.files.read subprogram.file) fun _ => True

structure FunctionReadable (module : Module) (function : FunctionId) : Prop where
  name : Answers (module.functionName function) fun _ => True
  signature : Answers (module.functionSignature function) fun _ => True
  subprogram : Answers (module.functionSubprogram function) fun subprogram =>
    ∀ data ∈ subprogram, module.SubprogramReadable data
  blocks : Answers (module.functionBlocks function) fun blocks =>
    ∀ block ∈ blocks, module.Issued block.handle
  firstBlock : Answers (module.firstBlock function) fun first =>
    ∀ block ∈ first, module.Issued block.handle
  parameter : ∀ index, Answers (module.parameter? function index) fun parameter =>
    ∀ data ∈ parameter, module.ParameterReadable data
  inspection : Answers (module.inspectFunction function) fun _ => True

structure BlockReadable (module : Module) (block : BlockId) : Prop where
  name : Answers (module.blockName block) fun _ => True
  parent : Answers (module.blockParent block) fun function => module.Issued function.handle
  insts : Answers (module.blockInsts block) fun insts => ∀ inst ∈ insts, module.Issued inst.handle
  inspection : Answers (module.inspectBlock block) fun _ => True

structure CallReadable (module : Module) (call : Call) : Prop where
  inst : module.Issued call.inst.handle
  function : ∀ function ∈ call.function?, module.Issued function.handle
  signature : Answers (module.callSignature call) fun _ => True

structure InstReadable (module : Module) (inst : InstId) : Prop where
  opcode : Answers (module.instOpcode inst) fun _ => True
  parent : Answers (module.instParent inst) fun block => module.Issued block.handle
  function : Answers (module.instFunction inst) fun function => module.Issued function.handle
  position : Answers (module.instPosition inst) fun _ => True
  metadata : ∀ kind, Answers (module.instMetadata inst kind) fun _ => True
  call : Answers (module.asCall? inst) fun call => ∀ data ∈ call, module.Covers data.handles
  inspection : Answers (module.inspectInst inst) fun _ => True

structure GlobalReadable (module : Module) (global : GlobalId) : Prop where
  name : Answers (module.globalName global) fun _ => True
  ty : Answers (module.globalTy global) fun _ => True
  inspection : Answers (module.inspectGlobal global) fun _ => True

namespace Closed

variable {function : FunctionId} {block : BlockId} {inst : InstId} {global : GlobalId}

theorem answers_functionName (h : module.Closed) (hfunction : module.Issued function.handle) :
    Answers (module.functionName function) fun _ => True := by
  apply (h.functions.answers_read hfunction).bind
  intro data hdata
  exact SymbolTable.answers_resolve hdata.name

theorem answers_functionSignature (h : module.Closed) (hfunction : module.Issued function.handle) :
    Answers (module.functionSignature function) fun _ => True :=
  (h.functions.answers_read hfunction).bind_pure

theorem answers_functionSubprogram (h : module.Closed)
    (hfunction : module.Issued function.handle) :
    Answers (module.functionSubprogram function) fun subprogram =>
      ∀ data ∈ subprogram, module.Issued data.file.handle := by
  apply (h.functions.answers_read hfunction).bind
  intro data hdata
  split
  . next subprogram hsubprogram =>
    apply (h.subprograms.answers_read (hdata.subprogram subprogram hsubprogram)).bind
    intro subprogram hfile
    exact .pure (by simpa using hfile)
  . exact .pure (by simp)

theorem answers_functionBlocks (h : module.Closed) (hfunction : module.Issued function.handle) :
    Answers (module.functionBlocks function) fun blocks =>
      ∀ block ∈ blocks, module.Issued block.handle := by
  apply (h.functions.answers_read hfunction).bind
  intro data hdata
  exact .pure hdata.blocks

theorem answers_firstBlock (h : module.Closed) (hfunction : module.Issued function.handle) :
    Answers (module.firstBlock function) fun first =>
      ∀ block ∈ first, module.Issued block.handle := by
  apply (h.answers_functionBlocks hfunction).bind
  intro blocks hblocks
  apply Answers.pure
  intro block hblock
  apply hblocks
  exact List.mem_of_mem_head? hblock

theorem answers_inspectFunction (h : module.Closed) (hfunction : module.Issued function.handle) :
    Answers (module.inspectFunction function) fun _ => True :=
  (h.answers_functionName hfunction).bind_pure

theorem answers_parameter? (h : module.Closed) (hfunction : module.Issued function.handle)
    (index : Nat) :
    Answers (module.parameter? function index) fun parameter =>
      ∀ data ∈ parameter, module.ParameterReadable data := by
  obtain ⟨data, hread, hdata⟩ := h.functions.answers_read hfunction
  unfold parameter?
  rw [hread]
  apply Answers.pure
  intro parameter hparameter
  split at hparameter
  . next hindex =>
    cases hparameter
    refine ⟨hfunction, ?_, ?_⟩
    . -- The name is read from the list that the position was checked against.
      unfold parameterName
      rw [hread]
      have hname : data.params[index]? = some data.params[index] := List.getElem?_eq_getElem hindex
      simp only [bind, Except.bind, hname]
      apply SymbolTable.answers_resolve
      exact hdata.params _ (List.getElem_mem _)
    . exact (h.answers_functionName hfunction).bind_pure
  . simp at hparameter

theorem answers_blockName (h : module.Closed) (hblock : module.Issued block.handle) :
    Answers (module.blockName block) fun _ => True := by
  apply (h.blocks.answers_read hblock).bind
  intro data hdata
  split
  . next name hname =>
    exact (SymbolTable.answers_resolve (hdata.name name hname)).bind_pure
  . exact .pure trivial

theorem answers_blockParent (h : module.Closed) (hblock : module.Issued block.handle) :
    Answers (module.blockParent block) fun function => module.Issued function.handle := by
  apply (h.blocks.answers_read hblock).bind
  intro data hdata
  exact .pure hdata.parent

theorem answers_instOpcode (h : module.Closed) (hinst : module.Issued inst.handle) :
    Answers (module.instOpcode inst) fun _ => True :=
  (h.insts.answers_read hinst).bind_pure

theorem answers_inspectInst (h : module.Closed) (hinst : module.Issued inst.handle) :
    Answers (module.inspectInst inst) fun _ => True :=
  (h.answers_instOpcode hinst).bind_pure

theorem answers_instParent (h : module.Closed) (hinst : module.Issued inst.handle) :
    Answers (module.instParent inst) fun block => module.Issued block.handle := by
  apply (h.insts.answers_read hinst).bind
  intro data hdata
  exact .pure hdata.parent

theorem answers_instFunction (h : module.Closed) (hinst : module.Issued inst.handle) :
    Answers (module.instFunction inst) fun function => module.Issued function.handle := by
  apply (h.answers_instParent hinst).bind
  intro block hblock
  exact h.answers_blockParent hblock

theorem answers_readFile {file : FileId} (hfile : module.Issued file.handle) :
    Answers (module.files.read file) fun _ => True :=
  Arena.All.answers_read (fun _ _ => trivial) hfile

theorem answers_position {debugLoc : DebugLoc} (hfile : module.Issued debugLoc.file.handle) :
    Answers (module.position debugLoc) fun _ => True :=
  (answers_readFile hfile).bind_pure

theorem answers_instPosition (h : module.Closed) (hinst : module.Issued inst.handle) :
    Answers (module.instPosition inst) fun _ => True := by
  apply (h.insts.answers_read hinst).bind
  intro data hdata
  split
  . next debugLoc hdebugLoc =>
    have hfile := hdata.debugLoc
    rw [hdebugLoc] at hfile
    exact (answers_position (covers_singleton.mp hfile)).bind_pure
  . exact .pure trivial

theorem answers_instMetadata (h : module.Closed) (hinst : module.Issued inst.handle)
    (kind : String) : Answers (module.instMetadata inst kind) fun _ => True :=
  (h.insts.answers_read hinst).bind_pure

theorem answers_asCall? (h : module.Closed) (hinst : module.Issued inst.handle) :
    Answers (module.asCall? inst) fun call => ∀ data ∈ call, module.Covers data.handles := by
  apply (h.insts.answers_read hinst).bind
  intro data hdata
  apply Answers.pure
  intro call hcall
  obtain ⟨callee, hcallee, rfl⟩ := Option.map_eq_some_iff.mp hcall
  exact covers_cons.mpr ⟨hinst, hdata.callee callee hcallee⟩

theorem answers_globalName (h : module.Closed) (hglobal : module.Issued global.handle) :
    Answers (module.globalName global) fun _ => True := by
  apply (h.globals.answers_read hglobal).bind
  intro data hname
  exact SymbolTable.answers_resolve hname

theorem answers_inspectGlobal (h : module.Closed) (hglobal : module.Issued global.handle) :
    Answers (module.inspectGlobal global) fun _ => True :=
  (h.answers_globalName hglobal).bind_pure

theorem callReadable (h : module.Closed) {call : Call} (hcall : module.Covers call.handles) :
    module.CallReadable call := by
  rw [Call.handles, covers_cons] at hcall
  obtain ⟨hinst, hcallee⟩ := hcall
  refine ⟨hinst, ?_, ?_⟩
  . unfold Call.function?
    split
    . next function heq =>
      rw [heq] at hcallee
      simpa using covers_singleton.mp hcallee
    . simp
  . unfold callSignature
    split
    . next function heq =>
      rw [heq] at hcallee
      exact h.answers_functionSignature (covers_singleton.mp hcallee)
    . exact .pure trivial

theorem functionReadable (h : module.Closed) (hfunction : module.Issued function.handle) :
    module.FunctionReadable function where
  name := h.answers_functionName hfunction
  signature := h.answers_functionSignature hfunction
  subprogram := (h.answers_functionSubprogram hfunction).mono
    fun _ hsubprogram data hdata => ⟨answers_readFile (hsubprogram data hdata)⟩
  blocks := h.answers_functionBlocks hfunction
  firstBlock := h.answers_firstBlock hfunction
  parameter := h.answers_parameter? hfunction
  inspection := h.answers_inspectFunction hfunction

theorem blockReadable (h : module.Closed) (hblock : module.Issued block.handle) :
    module.BlockReadable block where
  name := h.answers_blockName hblock
  parent := h.answers_blockParent hblock
  insts := by
    apply (h.blocks.answers_read hblock).bind
    intro data hdata
    exact .pure hdata.insts
  inspection := (h.answers_blockName hblock).bind_pure

theorem instReadable (h : module.Closed) (hinst : module.Issued inst.handle) :
    module.InstReadable inst where
  opcode := h.answers_instOpcode hinst
  parent := h.answers_instParent hinst
  function := h.answers_instFunction hinst
  position := h.answers_instPosition hinst
  metadata := h.answers_instMetadata hinst
  call := h.answers_asCall? hinst
  inspection := h.answers_inspectInst hinst

theorem globalReadable (h : module.Closed) (hglobal : module.Issued global.handle) :
    module.GlobalReadable global where
  name := h.answers_globalName hglobal
  ty := (h.globals.answers_read hglobal).bind_pure
  inspection := h.answers_inspectGlobal hglobal

end Closed

end Module

end IRDiagnostics
