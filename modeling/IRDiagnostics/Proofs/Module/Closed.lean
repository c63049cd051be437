import IRDiagnostics.Module.Scope
import IRDiagnostics.Proofs.Arena
import IRDiagnostics.Proofs.Module.Steps
import IRDiagnostics.Proofs.SymbolTable

/-!
This module contains the closedness of modules: whatever a module holds refers to ids and symbols
that the module has issued. A step that is given only issued ids goes through and keeps the module
closed, and so a run of steps in which every id was returned before never faults, as long as there
are symbols for its names.
-/

namespace IRDiagnostics

namespace Module

variable {module next outer : Module}

/--
Whether all of several ids were issued.
-/
def Covers (module : Module) (handles : List Handle) : Prop :=
  ∀ handle ∈ handles, module.Issued handle

instance (module : Module) (handles : List Handle) : Decidable (module.Covers handles) :=
  have (handle : Handle) : Decidable (module.Issued handle) := inferInstanceAs (Decidable (_ < _))
  inferInstanceAs (Decidable (∀ handle ∈ handles, module.Issued handle))

/--
Nothing that was issued by a module is taken back in the next one.
-/
structure Extends (module next : Module) : Prop where
  size : ∀ entity, module.size entity ≤ next.size entity
  symbols : module.symbols.IsPrefix next.symbols

theorem Issued.mono {handle : Handle} (h : module.Issued handle) (hext : module.Extends next) :
    next.Issued handle := Nat.lt_of_lt_of_le h (hext.size _)

theorem Covers.mono {handles : List Handle} (h : module.Covers handles)
    (hext : module.Extends next) : next.Covers handles :=
  fun handle hhandle => (h handle hhandle).mono hext

theorem covers_singleton {handle : Handle} : module.Covers [handle] ↔ module.Issued handle :=
  List.forall_mem_singleton

theorem covers_cons {handle : Handle} {handles : List Handle} :
    module.Covers (handle :: handles) ↔ module.Issued handle ∧ module.Covers handles :=
  List.forall_mem_cons

theorem covers_append {handles handles' : List Handle} :
    module.Covers (handles ++ handles') ↔ module.Covers handles ∧ module.Covers handles' :=
  List.forall_mem_append

theorem Extends.symbol (hext : module.Extends next) {symbol : Symbol}
    (h : module.symbols.Issued symbol) : next.symbols.Issued symbol :=
  h.mono hext.symbols

structure FunctionCovered (module : Module) (function : Function) : Prop where
  name : module.symbols.Issued function.name
  params : ∀ param ∈ function.params, module.symbols.Issued param
  subprogram : ∀ subprogram ∈ function.subprogram, module.Issued subprogram.handle
  blocks : ∀ block ∈ function.blocks, module.Issued block.handle

structure BlockCovered (module : Module) (block : Block) : Prop where
  name : ∀ name ∈ block.name, module.symbols.Issued name
  parent : module.Issued block.parent.handle
  insts : ∀ inst ∈ block.insts, module.Issued inst.handle

structure InstCovered (module : Module) (instruction : Instruction) : Prop where
  parent : module.Issued instruction.parent.handle
  debugLoc : module.Covers (DebugLoc.handles instruction.debugLoc)
  callee : ∀ callee ∈ instruction.callee, module.Covers callee.handles

theorem FunctionCovered.mono {function : Function} (h : module.FunctionCovered function)
    (hext : module.Extends next) : next.FunctionCovered function where
  name := hext.symbol h.name
  params param hparam := hext.symbol (h.params param hparam)
  subprogram subprogram hsubprogram := (h.subprogram subprogram hsubprogram).mono hext
  blocks block hblock := (h.blocks block hblock).mono hext

theorem BlockCovered.mono {block : Block} (h : module.BlockCovered block)
    (hext : module.Extends next) : next.BlockCovered block where
  name name hname := hext.symbol (h.name name hname)
  parent := h.parent.mono hext
  insts inst hinst := (h.insts inst hinst).mono hext

theorem InstCovered.mono {instruction : Instruction} (h : module.InstCovered instruction)
    (hext : module.Extends next) : next.InstCovered instruction where
  parent := h.parent.mono hext
  debugLoc := h.debugLoc.mono hext
  callee callee hcallee := (h.callee callee hcallee).mono hext

/--
Whatever `module` holds refers to what `outer` has issued.
-/
structure ClosedIn (module outer : Module) : Prop where
  functions : module.functions.All outer.FunctionCovered
  blocks : module.blocks.All outer.BlockCovered
  insts : module.insts.All outer.InstCovered
  globals : module.globals.All fun global => outer.symbols.Issued global.name
  subprograms : module.subprograms.All fun subprogram => outer.Issued subprogram.file.handle

def Closed (module : Module) : Prop := module.ClosedIn module

theorem ClosedIn.mono (h : module.ClosedIn outer) (hext : outer.Extends next) :
    module.ClosedIn next where
  functions := h.functions.imp fun _ hfunction => hfunction.mono hext
  blocks := h.blocks.imp fun _ hblock => hblock.mono hext
  insts := h.insts.imp fun _ hinst => hinst.mono hext
  globals := h.globals.imp fun _ hglobal => hext.symbol hglobal
  subprograms := h.subprograms.imp fun _ hsubprogram => hsubprogram.mono hext

theorem closed_empty (identifier : String) (filter : Filter) :
    ({ identifier, filter } : Module).Closed where
  functions := Arena.all_empty
  blocks := Arena.all_empty
  insts := Arena.all_empty
  globals := Arena.all_empty
  subprograms := Arena.all_empty

/--
What an operation promises that leads to `next` and returns the ids in `returned`.
-/
structure Sound (module next : Module) (returned : List Handle) : Prop where
  extension : module.Extends next
  closed : next.Closed
  returned : next.Covers returned

theorem sound_addFile (h : module.Closed) (file : SourceFile) :
    module.Sound (module.addFile file).2 [(module.addFile file).1.handle] := by
  have hext : module.Extends (module.addFile file).2 := {
    size entity := by cases entity <;> simp [size, addFile]
    symbols := SymbolTable.isPrefix_refl _ }
  refine ⟨hext, { h.mono hext with }, ?_⟩
  exact covers_singleton.mpr (module.files.nextId_index_lt _)

theorem sound_addSubprogram (h : module.Closed) {subprogram : Subprogram}
    (hfile : module.Issued subprogram.file.handle) :
    module.Sound (module.addSubprogram subprogram).2
      [(module.addSubprogram subprogram).1.handle] := by
  have hext : module.Extends (module.addSubprogram subprogram).2 := {
    size entity := by cases entity <;> simp [size, addSubprogram]
    symbols := SymbolTable.isPrefix_refl _ }
  have hclosed := h.mono hext
  refine ⟨hext, ?_, ?_⟩
  . exact { hclosed with subprograms := hclosed.subprograms.alloc (hfile.mono hext) }
  . exact covers_singleton.mpr (module.subprograms.nextId_index_lt _)

theorem sound_addConstant (h : module.Closed) (constant : Constant) :
    module.Sound (module.addConstant constant).2 [(module.addConstant constant).1.handle] := by
  have hext : module.Extends (module.addConstant constant).2 := {
    size entity := by cases entity <;> simp [size, addConstant]
    symbols := SymbolTable.isPrefix_refl _ }
  refine ⟨hext, { h.mono hext with }, ?_⟩
  exact covers_singleton.mpr (module.constants.nextId_index_lt _)

theorem answers_apply_function (h : module.Closed) {name : String} {signature : Signature}
    {params : List String} (hroom : module.symbols.HasRoom (name :: params)) :
    Answers (module.apply (.function name signature params)) fun result =>
      module.Sound result.2
        ((BuildStep.function name signature params).returned? result.1).toList := by
  obtain ⟨⟨_, symbols⟩, hintern, _⟩ := hroom.answers_internAll
  obtain ⟨symbol, _, ids, _, _, rfl⟩ := SymbolTable.internAll_cons_eq_ok_iff.mp hintern
  refine ⟨_, apply_function_eq_ok_iff.mpr ⟨symbol, ids, symbols, hintern, rfl, rfl⟩, ?_⟩
  have hext : module.Extends { module with
      symbols
      functions := (module.functions.alloc { name := symbol, signature, params := ids }).2 } := {
    size entity := by cases entity <;> simp [size]
    symbols := SymbolTable.isPrefix_of_internAll hintern }
  have hclosed := h.mono hext
  have hissued := List.forall_mem_cons.mp (SymbolTable.issued_of_internAll hintern)
  refine ⟨hext, ?_, covers_singleton.mpr (module.functions.nextId_index_lt _)⟩
  exact { hclosed with
    functions := hclosed.functions.alloc {
      name := hissued.1
      params := hissued.2
      subprogram := by simp
      blocks := by simp } }

theorem answers_apply_global (h : module.Closed) {name : String} {ty : Ty}
    (hroom : module.symbols.HasRoom [name]) :
    Answers (module.apply (.global name ty)) fun result =>
      module.Sound result.2 ((BuildStep.global name ty).returned? result.1).toList := by
  obtain ⟨⟨symbol, symbols⟩, hintern, _⟩ := hroom.answers_intern
  refine ⟨_, apply_global_eq_ok_iff.mpr ⟨symbol, symbols, hintern, rfl, rfl⟩, ?_⟩
  have hext : module.Extends { module with
      symbols, globals := (module.globals.alloc { name := symbol, ty }).2 } := {
    size entity := by cases entity <;> simp [size]
    symbols := SymbolTable.isPrefix_of_intern hintern }
  have hclosed := h.mono hext
  refine ⟨hext, ?_, covers_singleton.mpr (module.globals.nextId_index_lt _)⟩
  exact { hclosed with
    globals := hclosed.globals.alloc (SymbolTable.issued_of_intern hintern) }

theorem answers_setSubprogram (h : module.Closed) {function : FunctionId}
    {subprogram : SubprogramId} (hfunction : module.Issued function.handle)
    (hsubprogram : module.Issued subprogram.handle) :
    Answers (module.setSubprogram function subprogram) fun next => module.Sound next [] := by
  unfold setSubprogram
  apply (Arena.answers_modify hfunction).bind
  intro functions hmodify
  have hext : module.Extends { module with functions } := {
    size entity := by cases entity <;> simp [size, Arena.size_of_modify hmodify]
    symbols := SymbolTable.isPrefix_refl _ }
  have hclosed := h.mono hext
  refine .pure ⟨hext, ?_, by simp [Covers]⟩
  exact { hclosed with
    functions := hclosed.functions.modify hmodify fun data hdata => { hdata with
      subprogram := by simpa using hsubprogram.mono hext } }

theorem answers_setMetadata (h : module.Closed) {inst : InstId} (hinst : module.Issued inst.handle)
    (kind : String) (node : Metadata.Node) :
    Answers (module.setMetadata inst kind node) fun next => module.Sound next [] := by
  unfold setMetadata
  apply (Arena.answers_modify hinst).bind
  intro insts hmodify
  have hext : module.Extends { module with insts } := {
    size entity := by cases entity <;> simp [size, Arena.size_of_modify hmodify]
    symbols := SymbolTable.isPrefix_refl _ }
  have hclosed := h.mono hext
  refine .pure ⟨hext, ?_, by simp [Covers]⟩
  exact { hclosed with
    insts := hclosed.insts.modify hmodify fun data hdata => { hdata with } }

theorem answers_internName {symbols : SymbolTable} {name : Option String}
    (hroom : symbols.HasRoom name.toList) :
    Answers (internName symbols name) fun result =>
      symbols.internAll name.toList = .ok (result.1.toList, result.2) := by
  cases name with
  | none => exact .pure rfl
  | some name =>
    obtain ⟨⟨symbol, next⟩, hintern, _⟩ := hroom.answers_intern
    have hname : internName symbols (some name) = .ok (some symbol, next) := by
      simp only [internName, hintern, bind, Except.bind, pure, Except.pure]
    exact ⟨_, hname, internName_eq_ok_iff.mp hname⟩

theorem answers_addBlock (h : module.Closed) {function : FunctionId}
    (hfunction : module.Issued function.handle) {name : Option String}
    (hroom : module.symbols.HasRoom name.toList) :
    Answers (module.addBlock function name) fun result =>
      module.Sound result.2 [result.1.handle] := by
  obtain ⟨functions, hmodify, _⟩ := Arena.answers_modify hfunction
  obtain ⟨⟨symbol?, symbols⟩, hname, hintern⟩ := answers_internName hroom
  refine ⟨_, addBlock_eq_ok_iff.mpr ⟨symbol?, symbols, functions, hname, hmodify, rfl⟩, ?_⟩
  have hext : module.Extends { module with
      symbols
      blocks := (module.blocks.alloc { name := symbol?, parent := function }).2
      functions } := {
    size entity := by cases entity <;> simp [size, Arena.size_of_modify hmodify]
    symbols := SymbolTable.isPrefix_of_internAll hintern }
  have hclosed := h.mono hext
  refine ⟨hext, ?_, covers_singleton.mpr (module.blocks.nextId_index_lt _)⟩
  exact { hclosed with
    functions := hclosed.functions.modify hmodify fun data hdata => { hdata with
      blocks := by
        rw [List.forall_mem_append]
        rw [List.forall_mem_singleton]
        exact ⟨hdata.blocks, module.blocks.nextId_index_lt _⟩ }
    blocks := hclosed.blocks.alloc {
      name := by simpa using SymbolTable.issued_of_internAll hintern
      parent := hfunction.mono hext
      insts := by simp } }

theorem answers_pushInstruction (h : module.Closed) {instruction : Instruction}
    (hinstruction : module.InstCovered instruction) :
    Answers (module.pushInstruction instruction) fun result =>
      module.Sound result.2 [result.1.handle] := by
  obtain ⟨blocks, hmodify, _⟩ := Arena.answers_modify hinstruction.parent
  refine ⟨_, pushInstruction_eq_ok_iff.mpr ⟨blocks, hmodify, rfl⟩, ?_⟩
  have hext : module.Extends
      { module with insts := (module.insts.alloc instruction).2, blocks } := {
    size entity := by cases entity <;> simp [size, Arena.size_of_modify hmodify]
    symbols := SymbolTable.isPrefix_refl _ }
  have hclosed := h.mono hext
  refine ⟨hext, ?_, covers_singleton.mpr (module.insts.nextId_index_lt _)⟩
  exact { hclosed with
    insts := hclosed.insts.alloc (hinstruction.mono hext)
    blocks := hclosed.blocks.modify hmodify fun data hdata => { hdata with
      insts := by
        rw [List.forall_mem_append]
        rw [List.forall_mem_singleton]
        exact ⟨hdata.insts, module.insts.nextId_index_lt _⟩ } }

theorem sound_self (h : module.Closed) : module.Sound module [] where
  extension := ⟨fun _ => Nat.le_refl _, SymbolTable.isPrefix_refl _⟩
  closed := h
  returned := by simp [Covers]

theorem answers_apply (h : module.Closed) {step : BuildStep} (hstep : module.Covers step.handles)
    (hroom : module.symbols.HasRoom step.names) :
    Answers (module.apply step) fun result =>
      module.Sound result.2 (step.returned? result.1).toList := by
  cases step with
  | file file => exact .pure (sound_addFile h file)
  | subprogram subprogram => exact .pure (sound_addSubprogram h (covers_singleton.mp hstep))
  | function name signature params => exact answers_apply_function h hroom
  | setSubprogram function subprogram =>
    rw [BuildStep.handles, covers_cons, covers_singleton] at hstep
    apply (answers_setSubprogram h hstep.1 hstep.2).map
    intro next hnext
    exact hnext
  | block function name =>
    apply (answers_addBlock h (covers_singleton.mp hstep) hroom).map
    intro result hresult
    exact hresult
  | instruction parent opcode debugLoc =>
    rw [BuildStep.handles, covers_cons] at hstep
    by_cases hopcode : opcode = .call
    . refine ⟨_, apply_instruction_eq_ok_iff.mpr (.inl ⟨hopcode, rfl, rfl⟩), ?_⟩
      exact sound_self h
    . have hinstruction : module.InstCovered { opcode, parent, debugLoc } :=
        { parent := hstep.1, debugLoc := hstep.2, callee := by simp }
      obtain ⟨⟨inst, next⟩, hpush, hsound⟩ := answers_pushInstruction h hinstruction
      exact ⟨_, apply_instruction_eq_ok_iff.mpr (.inr ⟨hopcode, inst, hpush, rfl⟩), hsound⟩
  | call parent callee debugLoc =>
    rw [BuildStep.handles, covers_append, covers_cons] at hstep
    cases hrefusal : module.refusal? callee with
    | some rejection =>
      refine ⟨_, apply_call_eq_ok_iff.mpr (.inl ⟨rejection, hrefusal, rfl, rfl⟩), ?_⟩
      exact sound_self h
    | none =>
      have hinstruction : module.InstCovered { opcode := .call, parent, debugLoc, callee } :=
        { parent := hstep.1.1, debugLoc := hstep.1.2, callee := by simpa using hstep.2 }
      obtain ⟨⟨inst, next⟩, hpush, hsound⟩ := answers_pushInstruction h hinstruction
      exact ⟨_, apply_call_eq_ok_iff.mpr (.inr ⟨hrefusal, inst, hpush, rfl⟩), hsound⟩
  | metadata inst kind node =>
    apply (answers_setMetadata h (covers_singleton.mp hstep) kind node).map
    intro next hnext
    exact hnext
  | global name ty => exact answers_apply_global h hroom
  | constant constant => exact .pure (sound_addConstant h constant)

/--
A run faults nowhere and what it returned was issued, if every id it is given was returned before
and there are symbols for all its names.
-/
theorem answers_build (h : module.Closed) {known : List Handle} (hknown : module.Covers known)
    {steps : List BuildStep} (hsteps : module.wellScoped known steps)
    (hroom : module.symbols.HasRoom (steps.flatMap BuildStep.names)) :
    Answers (module.build steps).2 fun next =>
      next.Closed ∧ next.Covers (known ++ module.returned steps) := by
  induction steps generalizing module known with
  | nil =>
    refine .pure ⟨h, ?_⟩
    rw [returned, List.append_nil]
    exact hknown
  | cons step steps ih =>
    rw [wellScoped, Bool.and_eq_true, List.all_eq_true] at hsteps
    have hstep : module.Covers step.handles := by
      intro handle hhandle
      apply hknown
      simpa using hsteps.1 handle hhandle
    rw [List.flatMap_cons] at hroom
    obtain ⟨⟨answer, next⟩, happly, hsound⟩ := answers_apply h hstep hroom.of_append
    obtain ⟨symbols, hintern⟩ := symbols_of_apply happly
    simp only [happly] at hsteps
    have hknown' := covers_append.mpr ⟨hknown.mono hsound.extension, hsound.returned⟩
    obtain ⟨last, hbuild, hlast⟩ := ih hsound.closed hknown' hsteps.2
      ((SymbolTable.hasRoom_append_iff_of_internAll hintern).mp hroom)
    refine ⟨last, build_cons_eq_ok_iff.mpr ⟨answer, next, happly, hbuild⟩, hlast.1, ?_⟩
    simp only [returned, happly]
    rw [← List.append_assoc]
    exact hlast.2

end Module

end IRDiagnostics
