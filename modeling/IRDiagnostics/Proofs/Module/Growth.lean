import IRDiagnostics.Module.Read
import IRDiagnostics.Proofs.Arena
import IRDiagnostics.Proofs.Module.Steps
import IRDiagnostics.Proofs.SymbolTable

/-!
This module contains what build steps leave as it is. A module only grows: functions and blocks get
new entries at the end of their lists, a function may get another subprogram and an instruction
other metadata, and nothing else changes. So whatever could be read through a handle reads the same
ever after.
-/

namespace IRDiagnostics

namespace Module

variable {module next later : Module} {steps : List BuildStep}

/--
Whether a step gives a subprogram to the function at a position.
-/
def SetsSubprogram (steps : List BuildStep) (idx : Nat) : Prop :=
  ∃ function subprogram, function.index = idx ∧ BuildStep.setSubprogram function subprogram ∈ steps

/--
Whether a step files metadata of a kind for the instruction at a position.
-/
def SetsMetadata (steps : List BuildStep) (idx : Nat) (kind : String) : Prop :=
  ∃ inst node, inst.index = idx ∧ BuildStep.metadata inst kind node ∈ steps

/--
What a function can become by build steps.
-/
structure FunctionGrows (steps : List BuildStep) (idx : Nat) (data later : Function) : Prop where
  name : later.name = data.name
  signature : later.signature = data.signature
  params : later.params = data.params
  blocks : data.blocks <+: later.blocks
  subprogram : ¬ SetsSubprogram steps idx → later.subprogram = data.subprogram

structure BlockGrows (data later : Block) : Prop where
  name : later.name = data.name
  parent : later.parent = data.parent
  insts : data.insts <+: later.insts

structure InstGrows (steps : List BuildStep) (idx : Nat) (data later : Instruction) : Prop where
  opcode : later.opcode = data.opcode
  parent : later.parent = data.parent
  debugLoc : later.debugLoc = data.debugLoc
  callee : later.callee = data.callee
  attachments : ∀ kind, ¬ SetsMetadata steps idx kind →
    later.attachments.find? kind = data.attachments.find? kind

theorem FunctionGrows.refl (steps : List BuildStep) (idx : Nat) (data : Function) :
    FunctionGrows steps idx data data where
  name := rfl
  signature := rfl
  params := rfl
  blocks := List.prefix_refl _
  subprogram _ := rfl

theorem FunctionGrows.trans {idx : Nat} {data data' data'' : Function}
    (h : FunctionGrows steps idx data data') (h' : FunctionGrows steps idx data' data'') :
    FunctionGrows steps idx data data'' where
  name := h'.name.trans h.name
  signature := h'.signature.trans h.signature
  params := h'.params.trans h.params
  blocks := h.blocks.trans h'.blocks
  subprogram hnot := (h'.subprogram hnot).trans (h.subprogram hnot)

theorem BlockGrows.refl (data : Block) : BlockGrows data data where
  name := rfl
  parent := rfl
  insts := List.prefix_refl _

theorem BlockGrows.trans {data data' data'' : Block} (h : BlockGrows data data')
    (h' : BlockGrows data' data'') : BlockGrows data data'' where
  name := h'.name.trans h.name
  parent := h'.parent.trans h.parent
  insts := h.insts.trans h'.insts

theorem InstGrows.refl (steps : List BuildStep) (idx : Nat) (data : Instruction) :
    InstGrows steps idx data data where
  opcode := rfl
  parent := rfl
  debugLoc := rfl
  callee := rfl
  attachments _ _ := rfl

theorem InstGrows.trans {idx : Nat} {data data' data'' : Instruction}
    (h : InstGrows steps idx data data') (h' : InstGrows steps idx data' data'') :
    InstGrows steps idx data data'' where
  opcode := h'.opcode.trans h.opcode
  parent := h'.parent.trans h.parent
  debugLoc := h'.debugLoc.trans h.debugLoc
  callee := h'.callee.trans h.callee
  attachments kind hnot := (h'.attachments kind hnot).trans (h.attachments kind hnot)

/--
What a module can become by some of the given steps.
-/
structure Grows (steps : List BuildStep) (module later : Module) : Prop where
  identifier : later.identifier = module.identifier
  filter : later.filter = module.filter
  symbols : module.symbols.IsPrefix later.symbols
  functions : module.functions.Grows (FunctionGrows steps) later.functions
  blocks : module.blocks.Grows (fun _ => BlockGrows) later.blocks
  insts : module.insts.Grows (InstGrows steps) later.insts
  globals : module.globals.Grows (fun _ => Eq) later.globals
  constants : module.constants.Grows (fun _ => Eq) later.constants
  files : module.files.Grows (fun _ => Eq) later.files
  subprograms : module.subprograms.Grows (fun _ => Eq) later.subprograms

theorem Grows.refl (steps : List BuildStep) (module : Module) : module.Grows steps module where
  identifier := rfl
  filter := rfl
  symbols := SymbolTable.isPrefix_refl _
  functions := .refl (FunctionGrows.refl steps) _
  blocks := .refl (fun _ => BlockGrows.refl) _
  insts := .refl (InstGrows.refl steps) _
  globals := .refl (fun _ => Eq.refl) _
  constants := .refl (fun _ => Eq.refl) _
  files := .refl (fun _ => Eq.refl) _
  subprograms := .refl (fun _ => Eq.refl) _

theorem Grows.trans (h : module.Grows steps next) (h' : next.Grows steps later) :
    module.Grows steps later where
  identifier := h'.identifier.trans h.identifier
  filter := h'.filter.trans h.filter
  symbols := h.symbols.trans h'.symbols
  functions := h.functions.trans (fun _ _ _ _ => FunctionGrows.trans) h'.functions
  blocks := h.blocks.trans (fun _ _ _ _ => BlockGrows.trans) h'.blocks
  insts := h.insts.trans (fun _ _ _ _ => InstGrows.trans) h'.insts
  globals := h.globals.trans (fun _ _ _ _ => Eq.trans) h'.globals
  constants := h.constants.trans (fun _ _ _ _ => Eq.trans) h'.constants
  files := h.files.trans (fun _ _ _ _ => Eq.trans) h'.files
  subprograms := h.subprograms.trans (fun _ _ _ _ => Eq.trans) h'.subprograms

theorem grows_addFile (module : Module) (file : SourceFile) :
    module.Grows steps (module.addFile file).2 :=
  { Grows.refl steps module with files := Arena.grows_alloc (fun _ => Eq.refl) _ file }

theorem grows_addSubprogram (module : Module) (subprogram : Subprogram) :
    module.Grows steps (module.addSubprogram subprogram).2 :=
  { Grows.refl steps module with
    subprograms := Arena.grows_alloc (fun _ => Eq.refl) _ subprogram }

theorem grows_addConstant (module : Module) (constant : Constant) :
    module.Grows steps (module.addConstant constant).2 :=
  { Grows.refl steps module with
    constants := Arena.grows_alloc (fun _ => Eq.refl) _ constant }

theorem grows_of_setSubprogram {function : FunctionId} {subprogram : SubprogramId}
    (h : module.setSubprogram function subprogram = .ok next)
    (hmem : .setSubprogram function subprogram ∈ steps) : module.Grows steps next := by
  rw [setSubprogram_eq_ok_iff] at h
  obtain ⟨functions, hmodify, rfl⟩ := h
  refine { Grows.refl steps module with
    functions := Arena.grows_of_modify (FunctionGrows.refl steps) hmodify ?_ }
  intro data
  exact { FunctionGrows.refl steps function.index data with
    subprogram := fun hnot => absurd ⟨function, subprogram, rfl, hmem⟩ hnot }

theorem grows_of_setMetadata {inst : InstId} {kind : String} {node : Metadata.Node}
    (h : module.setMetadata inst kind node = .ok next)
    (hmem : .metadata inst kind node ∈ steps) : module.Grows steps next := by
  rw [setMetadata_eq_ok_iff] at h
  obtain ⟨insts, hmodify, rfl⟩ := h
  refine { Grows.refl steps module with
    insts := Arena.grows_of_modify (InstGrows.refl steps) hmodify ?_ }
  intro data
  refine { InstGrows.refl steps inst.index data with attachments := ?_ }
  intro other hnot
  apply Metadata.Attachments.find?_set_of_ne
  rintro rfl
  exact hnot ⟨inst, node, rfl, hmem⟩

theorem grows_of_addBlock {function : FunctionId} {name : Option String}
    {result : BlockId × Module} (h : module.addBlock function name = .ok result) :
    module.Grows steps result.2 := by
  rw [addBlock_eq_ok_iff] at h
  obtain ⟨symbol?, symbols, functions, hintern, hmodify, rfl⟩ := h
  refine { Grows.refl steps module with
    symbols := SymbolTable.isPrefix_of_internAll (internName_eq_ok_iff.mp hintern)
    functions := Arena.grows_of_modify (FunctionGrows.refl steps) hmodify ?_
    blocks := Arena.grows_alloc (fun _ => BlockGrows.refl) _ _ }
  intro data
  exact { FunctionGrows.refl steps function.index data with blocks := List.prefix_append _ _ }

theorem grows_of_pushInstruction {instruction : Instruction} {inst : InstId}
    (h : module.pushInstruction instruction = .ok (inst, next)) : module.Grows steps next := by
  rw [pushInstruction_eq_ok_iff] at h
  obtain ⟨blocks, hmodify, h⟩ := h
  cases h
  refine { Grows.refl steps module with
    insts := Arena.grows_alloc (InstGrows.refl steps) _ _
    blocks := Arena.grows_of_modify (fun _ => BlockGrows.refl) hmodify ?_ }
  intro data
  exact { BlockGrows.refl data with insts := List.prefix_append _ _ }

theorem grows_of_apply {step : BuildStep} {answer : BuildAnswer}
    (h : module.apply step = .ok (answer, next)) (hmem : step ∈ steps) :
    module.Grows steps next := by
  cases step with
  | file file =>
    cases h
    exact grows_addFile module file
  | subprogram subprogram =>
    cases h
    exact grows_addSubprogram module subprogram
  | function name signature params =>
    rw [apply_function_eq_ok_iff] at h
    obtain ⟨symbol, ids, symbols, hintern, _, rfl⟩ := h
    exact { Grows.refl steps module with
      symbols := SymbolTable.isPrefix_of_internAll hintern
      functions := Arena.grows_alloc (FunctionGrows.refl steps) _ _ }
  | setSubprogram function subprogram =>
    rw [apply_setSubprogram_eq_ok_iff] at h
    exact grows_of_setSubprogram h.2 hmem
  | block function name =>
    rw [apply_block_eq_ok_iff] at h
    obtain ⟨id, hadd, _⟩ := h
    exact grows_of_addBlock hadd
  | instruction parent opcode debugLoc | call parent callee debugLoc =>
    obtain ⟨_, _, rfl⟩ | ⟨_, id, hpush, _⟩ := inserted_of_apply h rfl
    . exact .refl steps next
    . exact grows_of_pushInstruction hpush
  | metadata inst kind node =>
    rw [apply_metadata_eq_ok_iff] at h
    exact grows_of_setMetadata h.2 hmem
  | global name ty =>
    rw [apply_global_eq_ok_iff] at h
    obtain ⟨symbol, symbols, hintern, _, rfl⟩ := h
    exact { Grows.refl steps module with
      symbols := SymbolTable.isPrefix_of_intern hintern
      globals := Arena.grows_alloc (fun _ => Eq.refl) _ _ }
  | constant constant =>
    cases h
    exact grows_addConstant module constant

theorem grows_of_build {run : List BuildStep} (h : (module.build run).2 = .ok later)
    (hsubset : run ⊆ steps) : module.Grows steps later := by
  induction run generalizing module with
  | nil =>
    cases h
    exact .refl steps _
  | cons step run ih =>
    rw [build_cons_eq_ok_iff] at h
    obtain ⟨answer, next, happly, hrest⟩ := h
    rw [List.cons_subset] at hsubset
    exact (grows_of_apply happly hsubset.1).trans (ih hrest hsubset.2)

/--
What a read answers in a module it also answers in the later one.
-/
def Keeps (module later : Module) (read : Module → Except Fault α) : Prop :=
  ∀ answer, read module = .ok answer → read later = .ok answer

namespace Grows

variable {arena : Module → Arena ε β} {R : Nat → β → β → Prop} {id : Id ε}
  {function : FunctionId} {block : BlockId} {inst : InstId}

theorem keeps_pure (answer : α) : module.Keeps later fun _ => pure answer := fun _ heq => heq

theorem keeps_bind {read : Module → Except Fault α} {next : α → Module → Except Fault β}
    (h : module.Keeps later read) (hnext : ∀ answer, module.Keeps later (next answer)) :
    module.Keeps later fun module => read module >>= (next · module) := by
  intro answer hanswer
  rw [Except.bind_eq_ok_iff] at hanswer ⊢
  obtain ⟨first, hfirst, hanswer⟩ := hanswer
  exact ⟨first, h first hfirst, hnext first answer hanswer⟩

theorem keeps_read (h : (arena module).Grows (fun _ => Eq) (arena later)) (id : Id ε) :
    module.Keeps later fun module => (arena module).read id := by
  intro item hread
  obtain ⟨item', hitem', rfl⟩ := h.read hread
  exact hitem'

/--
What goes on from an item in a way that does not depend on how the item may have grown.
-/
theorem keeps_read_bind {next : β → Module → Except Fault α}
    (h : (arena module).Grows R (arena later))
    (hnext : ∀ item item', R id.index item item' → ∀ answer, next item module = .ok answer →
      next item' later = .ok answer) :
    module.Keeps later fun module => (arena module).read id >>= (next · module) := by
  intro answer hanswer
  rw [Except.bind_eq_ok_iff] at hanswer ⊢
  obtain ⟨item, hread, hanswer⟩ := hanswer
  obtain ⟨item', hread', hR⟩ := h.read hread
  exact ⟨item', hread', hnext item item' hR answer hanswer⟩

theorem keeps_field {field : β → α} (h : (arena module).Grows R (arena later))
    (hfield : ∀ item item', R id.index item item' → field item' = field item) :
    module.Keeps later fun module => do return field (← (arena module).read id) := by
  apply keeps_read_bind h
  intro item item' hR answer hanswer
  rw [hfield item item' hR]
  exact hanswer

theorem keeps_resolve (h : module.Grows steps later) (symbol : Symbol) :
    module.Keeps later (·.symbols.resolve symbol) :=
  fun _ hresolve => h.symbols.resolve hresolve

theorem keeps_functionName (h : module.Grows steps later) (function : FunctionId) :
    module.Keeps later (·.functionName function) := by
  apply keeps_read_bind h.functions
  intro data data' hdata
  rw [hdata.name]
  exact h.keeps_resolve data.name

theorem keeps_functionSignature (h : module.Grows steps later) (function : FunctionId) :
    module.Keeps later (·.functionSignature function) :=
  keeps_field h.functions fun _ _ hdata => hdata.signature

theorem keeps_parameter? (h : module.Grows steps later) (function : FunctionId) (index : Nat) :
    module.Keeps later (·.parameter? function index) := by
  apply keeps_read_bind h.functions
  intro data data' hdata answer hanswer
  rw [hdata.params]
  exact hanswer

theorem keeps_parameterName (h : module.Grows steps later) (parameter : Parameter) :
    module.Keeps later (·.parameterName parameter) := by
  apply keeps_read_bind h.functions
  intro data data' hdata answer hanswer
  rw [hdata.params]
  dsimp only at hanswer ⊢
  split at hanswer
  . exact h.keeps_resolve _ _ hanswer
  . contradiction

theorem keeps_blockName (h : module.Grows steps later) (block : BlockId) :
    module.Keeps later (·.blockName block) := by
  apply keeps_read_bind h.blocks
  intro data data' hdata
  rw [hdata.name]
  cases data.name with
  | none => exact fun _ heq => heq
  | some name => exact keeps_bind (h.keeps_resolve name) fun _ => keeps_pure _

theorem keeps_blockParent (h : module.Grows steps later) (block : BlockId) :
    module.Keeps later (·.blockParent block) :=
  keeps_field h.blocks fun _ _ hdata => hdata.parent

theorem keeps_instOpcode (h : module.Grows steps later) (inst : InstId) :
    module.Keeps later (·.instOpcode inst) :=
  keeps_field h.insts fun _ _ hdata => hdata.opcode

theorem keeps_instParent (h : module.Grows steps later) (inst : InstId) :
    module.Keeps later (·.instParent inst) :=
  keeps_field h.insts fun _ _ hdata => hdata.parent

theorem keeps_instFunction (h : module.Grows steps later) (inst : InstId) :
    module.Keeps later (·.instFunction inst) :=
  keeps_bind (h.keeps_instParent inst) h.keeps_blockParent

theorem keeps_position (h : module.Grows steps later) (debugLoc : DebugLoc) :
    module.Keeps later (·.position debugLoc) :=
  keeps_bind (keeps_read h.files debugLoc.file) fun _ => keeps_pure _

theorem keeps_instPosition (h : module.Grows steps later) (inst : InstId) :
    module.Keeps later (·.instPosition inst) := by
  apply keeps_read_bind h.insts
  intro data data' hdata
  rw [hdata.debugLoc]
  cases data.debugLoc with
  | none => exact fun _ heq => heq
  | some debugLoc => exact keeps_bind (h.keeps_position debugLoc) fun _ => keeps_pure _

theorem keeps_asCall? (h : module.Grows steps later) (inst : InstId) :
    module.Keeps later (·.asCall? inst) := by
  apply keeps_field h.insts
  intro data data' hdata
  unfold Instruction.asCall?
  rw [hdata.callee]

theorem keeps_callSignature (h : module.Grows steps later) (call : Call) :
    module.Keeps later (·.callSignature call) := by
  unfold callSignature
  cases call.callee with
  | direct function => exact h.keeps_functionSignature function
  | indirect signature => exact keeps_pure signature

theorem keeps_globalName (h : module.Grows steps later) (global : GlobalId) :
    module.Keeps later (·.globalName global) :=
  keeps_bind (keeps_read h.globals global) fun data => h.keeps_resolve data.name

theorem keeps_globalTy (h : module.Grows steps later) (global : GlobalId) :
    module.Keeps later (·.globalTy global) :=
  keeps_bind (keeps_read h.globals global) fun _ => keeps_pure _

theorem keeps_functionSubprogram (h : module.Grows steps later)
    (hnot : ¬ SetsSubprogram steps function.index) :
    module.Keeps later (·.functionSubprogram function) := by
  apply keeps_read_bind h.functions
  intro data data' hdata
  rw [hdata.subprogram hnot]
  cases data.subprogram with
  | none => exact fun _ heq => heq
  | some subprogram =>
    exact keeps_bind (keeps_read h.subprograms subprogram) fun _ => keeps_pure _

theorem keeps_instMetadata (h : module.Grows steps later) {kind : String}
    (hnot : ¬ SetsMetadata steps inst.index kind) :
    module.Keeps later (·.instMetadata inst kind) :=
  keeps_field h.insts fun _ _ hdata => hdata.attachments kind hnot

theorem functionBlocks_append (h : module.Grows steps later) {blocks : List BlockId}
    (hread : module.functionBlocks function = .ok blocks) :
    ∃ more, later.functionBlocks function = .ok (blocks ++ more) := by
  unfold functionBlocks at hread ⊢
  rw [Except.bind_eq_ok_iff] at hread
  obtain ⟨data, hdata, heq⟩ := hread
  cases heq
  obtain ⟨data', hdata', hgrows⟩ := h.functions.read hdata
  obtain ⟨more, hmore⟩ := hgrows.blocks
  refine ⟨more, ?_⟩
  rw [hdata', hmore]
  rfl

theorem blockInsts_append (h : module.Grows steps later) {insts : List InstId}
    (hread : module.blockInsts block = .ok insts) :
    ∃ more, later.blockInsts block = .ok (insts ++ more) := by
  unfold blockInsts at hread ⊢
  rw [Except.bind_eq_ok_iff] at hread
  obtain ⟨data, hdata, heq⟩ := hread
  cases heq
  obtain ⟨data', hdata', hgrows⟩ := h.blocks.read hdata
  obtain ⟨more, hmore⟩ := hgrows.insts
  refine ⟨more, ?_⟩
  rw [hdata', hmore]
  rfl

theorem functionByName?_eq_some (h : module.Grows steps later) {name : String}
    (hfind : module.functionByName? name = some function) :
    later.functionByName? name = some function := by
  unfold functionByName? at hfind ⊢
  rw [Option.bind_eq_bind, Option.bind_eq_some_iff] at hfind ⊢
  obtain ⟨symbol, hsymbol, hfind⟩ := hfind
  refine ⟨symbol, h.symbols.find? hsymbol, ?_⟩
  rw [Option.bind_eq_bind, Option.bind_eq_some_iff] at hfind ⊢
  obtain ⟨⟨id, data⟩, hfirst, heq⟩ := hfind
  have hname : ∀ idx data data', FunctionGrows steps idx data data' →
      decide (data'.name = symbol) = decide (data.name = symbol) := by
    intro idx data data' hdata
    rw [hdata.name]
  obtain ⟨data', hfirst'⟩ := h.functions.find?_toList hname hfirst
  exact ⟨(id, data'), hfirst', heq⟩

end Grows

/--
What can be relied on in a later module, to which the given steps have led. A handle reads as it did
before, whenever it could be read.
-/
structure HandlesKept (steps : List BuildStep) (module later : Module) : Prop where
  functionName : ∀ function, module.Keeps later (·.functionName function)
  functionSignature : ∀ function, module.Keeps later (·.functionSignature function)
  parameter? : ∀ function index, module.Keeps later (·.parameter? function index)
  parameterName : ∀ parameter, module.Keeps later (·.parameterName parameter)
  blockName : ∀ block, module.Keeps later (·.blockName block)
  blockParent : ∀ block, module.Keeps later (·.blockParent block)
  instOpcode : ∀ inst, module.Keeps later (·.instOpcode inst)
  instParent : ∀ inst, module.Keeps later (·.instParent inst)
  instFunction : ∀ inst, module.Keeps later (·.instFunction inst)
  /-- The position with its file. -/
  instPosition : ∀ inst, module.Keeps later (·.instPosition inst)
  asCall? : ∀ inst, module.Keeps later (·.asCall? inst)
  /-- What is called has the same signature; a known function has the same name, too. -/
  callSignature : ∀ call, module.Keeps later (·.callSignature call)
  globalName : ∀ global, module.Keeps later (·.globalName global)
  globalTy : ∀ global, module.Keeps later (·.globalTy global)
  constant : ∀ constant, module.Keeps later (·.constants.read constant)
  file : ∀ file, module.Keeps later (·.files.read file)
  subprogram : ∀ subprogram, module.Keeps later (·.subprograms.read subprogram)
  /-- New blocks and instructions come last. -/
  functionBlocks : ∀ function blocks, module.functionBlocks function = .ok blocks →
    ∃ more, later.functionBlocks function = .ok (blocks ++ more)
  blockInsts : ∀ block insts, module.blockInsts block = .ok insts →
    ∃ more, later.blockInsts block = .ok (insts ++ more)
  /-- A function has another subprogram only if it was given one. -/
  functionSubprogram : ∀ function,
    (∀ subprogram, .setSubprogram function subprogram ∉ steps) →
      (module.Keeps later fun module => do return (← module.functions.read function).subprogram) ∧
        module.Keeps later (·.functionSubprogram function)
  /-- An instruction has other metadata of a kind only if it was given some of this kind. -/
  instMetadata : ∀ inst kind, (∀ node, .metadata inst kind node ∉ steps) →
    module.Keeps later (·.instMetadata inst kind)
  functionByName? : ∀ name function, module.functionByName? name = some function →
    later.functionByName? name = some function

theorem not_setsSubprogram {function : FunctionId}
    (h : ∀ subprogram, .setSubprogram function subprogram ∉ steps) :
    ¬ SetsSubprogram steps function.index := by
  rintro ⟨other, subprogram, heq, hmem⟩
  rw [Id.index_inj] at heq
  subst heq
  exact h subprogram hmem

theorem not_setsMetadata {inst : InstId} {kind : String}
    (h : ∀ node, .metadata inst kind node ∉ steps) : ¬ SetsMetadata steps inst.index kind := by
  rintro ⟨other, node, heq, hmem⟩
  rw [Id.index_inj] at heq
  subst heq
  exact h node hmem

theorem handlesKept_of_build (h : (module.build steps).2 = .ok later) :
    HandlesKept steps module later := by
  have hgrows : module.Grows steps later := grows_of_build h (List.Subset.refl steps)
  constructor
  . exact hgrows.keeps_functionName
  . exact hgrows.keeps_functionSignature
  . exact hgrows.keeps_parameter?
  . exact hgrows.keeps_parameterName
  . exact hgrows.keeps_blockName
  . exact hgrows.keeps_blockParent
  . exact hgrows.keeps_instOpcode
  . exact hgrows.keeps_instParent
  . exact hgrows.keeps_instFunction
  . exact hgrows.keeps_instPosition
  . exact hgrows.keeps_asCall?
  . exact hgrows.keeps_callSignature
  . exact hgrows.keeps_globalName
  . exact hgrows.keeps_globalTy
  . exact Grows.keeps_read hgrows.constants
  . exact Grows.keeps_read hgrows.files
  . exact Grows.keeps_read hgrows.subprograms
  . intro function blocks
    exact hgrows.functionBlocks_append
  . intro block insts
    exact hgrows.blockInsts_append
  . intro function hnot
    have hnot := not_setsSubprogram hnot
    refine ⟨?_, hgrows.keeps_functionSubprogram hnot⟩
    exact Grows.keeps_field hgrows.functions fun _ _ hdata => hdata.subprogram hnot
  . intro inst kind hnot
    exact hgrows.keeps_instMetadata (not_setsMetadata hnot)
  . intro name function
    exact hgrows.functionByName?_eq_some

def earlierSteps : List BuildStep :=
  [.file { filename := "a.c", directory := "/src" },
   .function "f" ⟨.void, [.ptr], false⟩ ["p"],
   .block ⟨0⟩ (some "entry"),
   .call ⟨0⟩ (.direct ⟨0⟩) (some { file := ⟨0⟩, line := 5, column := 2 }),
   .metadata ⟨0⟩ "srcloc" ⟨[.int 7]⟩]

def laterSteps : List BuildStep :=
  [.subprogram { name := "f", file := ⟨0⟩, line := 3, scopeLine := 4 },
   .function "f" ⟨.ptr, [], true⟩ ["entry"],
   .setSubprogram ⟨1⟩ ⟨0⟩,
   .block ⟨0⟩ (some "f"),
   .metadata ⟨0⟩ "prof" {},
   .call ⟨0⟩ (.direct ⟨2⟩) none,
   .instruction ⟨0⟩ .ret none]

/--
A second function takes the names of the first one, to which a block and an instruction are added.
-/
theorem handlesKept_of_build_sameName :
    ∃ module later, (build { identifier := "m" } earlierSteps).2 = .ok module ∧
      (module.build laterSteps).2 = .ok later ∧
      later.functionByName? "f" = some ⟨0⟩ ∧
      later.functionBlocks ⟨0⟩ = .ok [⟨0⟩, ⟨1⟩] ∧ later.blockInsts ⟨0⟩ = .ok [⟨0⟩, ⟨1⟩] ∧
      HandlesKept laterSteps module later := by
  obtain ⟨module, hmodule, later, hlater, hfunction, hblocks, hinsts⟩ :
      Answers (build { identifier := "m" } earlierSteps).2 fun module =>
        Answers (module.build laterSteps).2 fun later =>
          later.functionByName? "f" = some ⟨0⟩ ∧ later.functionBlocks ⟨0⟩ = .ok [⟨0⟩, ⟨1⟩] ∧
            later.blockInsts ⟨0⟩ = .ok [⟨0⟩, ⟨1⟩] := by decide +kernel
  exact ⟨module, later, hmodule, hlater, hfunction, hblocks, hinsts, handlesKept_of_build hlater⟩

end Module

end IRDiagnostics
