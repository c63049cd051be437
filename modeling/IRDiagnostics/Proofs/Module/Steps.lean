import IRDiagnostics.Module.Scope
import IRDiagnostics.Proofs.SymbolTable

/-!
This module contains what the build steps of a module do: which arenas they extend or update and
when they go through. Statements about a whole run are derived from `Module.build_induction`.
-/

namespace IRDiagnostics

/--
Whether a step is for an instruction.
-/
def BuildStep.inserts : BuildStep → Bool
  | .instruction .. | .call .. => true
  | .file _ | .subprogram _ | .function .. | .setSubprogram .. | .block .. | .metadata ..
  | .global .. | .constant _ => false

namespace Module

theorem setSubprogram_eq_ok_iff {module module' : Module} {function : FunctionId}
    {subprogram : SubprogramId} :
    module.setSubprogram function subprogram = .ok module' ↔
      ∃ functions,
        module.functions.modify function ({ · with subprogram := some subprogram }) =
          .ok functions ∧
        { module with functions } = module' := by
  unfold setSubprogram
  simp [Except.bind_eq_ok_iff, pure, Except.pure]

theorem setMetadata_eq_ok_iff {module module' : Module} {inst : InstId} {kind : String}
    {node : Metadata.Node} :
    module.setMetadata inst kind node = .ok module' ↔
      ∃ insts,
        module.insts.modify inst
            (fun data => { data with attachments := data.attachments.set kind node }) =
          .ok insts ∧
        { module with insts } = module' := by
  unfold setMetadata
  simp [Except.bind_eq_ok_iff, pure, Except.pure]

theorem internName_eq_ok_iff {symbols next : SymbolTable} {name : Option String}
    {symbol? : Option Symbol} :
    internName symbols name = .ok (symbol?, next) ↔
      symbols.internAll name.toList = .ok (symbol?.toList, next) := by
  cases name with
  | none =>
    rw [Option.toList_none, SymbolTable.internAll_nil_eq_ok_iff, Option.toList_eq_nil_iff]
    simp [internName, pure, Except.pure, eq_comm]
  | some name =>
    rw [Option.toList_some, SymbolTable.internAll_cons_eq_ok_iff]
    simp only [internName, Except.bind_eq_ok_iff, SymbolTable.internAll_nil_eq_ok_iff, pure,
      Except.pure, Prod.exists, Except.ok.injEq, Prod.mk.injEq]
    constructor
    . rintro ⟨symbol, _, hintern, rfl, rfl⟩
      exact ⟨symbol, _, [], hintern, ⟨rfl, rfl⟩, rfl⟩
    . rintro ⟨symbol, _, _, hintern, ⟨rfl, rfl⟩, hsymbol⟩
      rw [Option.toList_eq_singleton_iff] at hsymbol
      exact ⟨symbol, _, hintern, hsymbol.symm, rfl⟩

theorem addBlock_eq_ok_iff {module : Module} {function : FunctionId} {name : Option String}
    {result : BlockId × Module} :
    module.addBlock function name = .ok result ↔
      ∃ symbol? symbols functions,
        internName module.symbols name = .ok (symbol?, symbols) ∧
        module.functions.modify function
            (fun data => { data with blocks := data.blocks ++ [module.blocks.nextId] }) =
          .ok functions ∧
        (module.blocks.nextId,
          { module with
            symbols
            blocks := (module.blocks.alloc { name := symbol?, parent := function }).2
            functions }) = result := by
  unfold addBlock
  simp only [Except.bind_eq_ok_iff, pure, Except.pure, Arena.alloc, Prod.exists, Except.ok.injEq]
  grind

theorem pushInstruction_eq_ok_iff {module : Module} {instruction : Instruction}
    {result : InstId × Module} :
    module.pushInstruction instruction = .ok result ↔
      ∃ blocks,
        module.blocks.modify instruction.parent
            (fun data => { data with insts := data.insts ++ [module.insts.nextId] }) =
          .ok blocks ∧
        (module.insts.nextId,
          { module with insts := (module.insts.alloc instruction).2, blocks }) = result := by
  unfold pushInstruction
  simp [Except.bind_eq_ok_iff, pure, Except.pure, Arena.alloc]

theorem ofInserted_eq_ok_iff {module module' : Module} {answer : BuildAnswer}
    {result : Except Fault (InstId × Module)} :
    BuildAnswer.ofInserted module (result.mapError .fault) = .ok (answer, module') ↔
      ∃ id, result = .ok (id, module') ∧ answer = .issued id.raw := by
  cases result with
  | error fault =>
    change (BuildAnswer.ofInserted module (.error (.fault fault)) = _) ↔ _
    simp [BuildAnswer.ofInserted]
  | ok result =>
    obtain ⟨id, extended⟩ := result
    change (BuildAnswer.ofInserted module (.ok (id, extended)) = _) ↔ _
    simp only [BuildAnswer.ofInserted, BuildAnswer.ofIssued, Except.ok.injEq, Prod.mk.injEq]
    grind

theorem apply_instruction_eq_ok_iff {module module' : Module} {parent : BlockId} {opcode : Opcode}
    {debugLoc : Option DebugLoc} {answer : BuildAnswer} :
    module.apply (.instruction parent opcode debugLoc) = .ok (answer, module') ↔
      (opcode = .call ∧ answer = .rejected .callWithoutCallee ∧ module' = module) ∨
      (opcode ≠ .call ∧
        ∃ id, module.pushInstruction { opcode, parent, debugLoc } = .ok (id, module') ∧
          answer = .issued id.raw) := by
  simp only [apply, addInstruction]
  split
  . next h => simp [h, BuildAnswer.ofInserted, eq_comm]
  . next h => simp [h, ofInserted_eq_ok_iff]

theorem apply_call_eq_ok_iff {module module' : Module} {parent : BlockId} {callee : Callee}
    {debugLoc : Option DebugLoc} {answer : BuildAnswer} :
    module.apply (.call parent callee debugLoc) = .ok (answer, module') ↔
      (∃ rejection, module.refusal? callee = some rejection ∧ answer = .rejected rejection ∧
        module' = module) ∨
      (module.refusal? callee = none ∧
        ∃ id, module.pushInstruction { opcode := .call, parent, debugLoc, callee } =
            .ok (id, module') ∧
          answer = .issued id.raw) := by
  simp only [apply, addCall]
  split
  . next h => simp [h, BuildAnswer.ofInserted, eq_comm]
  . next h => simp [h, ofInserted_eq_ok_iff]

/--
A step for an instruction is refused, or an instruction without metadata is appended.
-/
theorem inserted_of_apply {module next : Module} {step : BuildStep} {answer : BuildAnswer}
    (h : module.apply step = .ok (answer, next)) (hstep : step.inserts) :
    (∃ rejection, answer = .rejected rejection ∧ next = module) ∨
      ∃ instruction id, module.pushInstruction instruction = .ok (id, next) ∧
        answer = .issued id.raw ∧ instruction.attachments = [] := by
  cases step with
  | instruction parent opcode debugLoc =>
    rw [apply_instruction_eq_ok_iff] at h
    obtain ⟨_, hanswer, hnext⟩ | ⟨_, id, hpush, hanswer⟩ := h
    . exact .inl ⟨_, hanswer, hnext⟩
    . exact .inr ⟨_, id, hpush, hanswer, rfl⟩
  | call parent callee debugLoc =>
    rw [apply_call_eq_ok_iff] at h
    obtain ⟨rejection, _, hanswer, hnext⟩ | ⟨_, id, hpush, hanswer⟩ := h
    . exact .inl ⟨rejection, hanswer, hnext⟩
    . exact .inr ⟨_, id, hpush, hanswer, rfl⟩
  | _ => contradiction

theorem apply_setSubprogram_eq_ok_iff {module module' : Module} {function : FunctionId}
    {subprogram : SubprogramId} {answer : BuildAnswer} :
    module.apply (.setSubprogram function subprogram) = .ok (answer, module') ↔
      answer = .done ∧ module.setSubprogram function subprogram = .ok module' := by
  simp only [apply, Except.map_eq_ok_iff, Prod.mk.injEq]
  grind

theorem apply_metadata_eq_ok_iff {module module' : Module} {inst : InstId} {kind : String}
    {node : Metadata.Node} {answer : BuildAnswer} :
    module.apply (.metadata inst kind node) = .ok (answer, module') ↔
      answer = .done ∧ module.setMetadata inst kind node = .ok module' := by
  simp only [apply, Except.map_eq_ok_iff, Prod.mk.injEq]
  grind

theorem apply_function_eq_ok_iff {module module' : Module} {name : String} {signature : Signature}
    {params : List String} {answer : BuildAnswer} :
    module.apply (.function name signature params) = .ok (answer, module') ↔
      ∃ symbol ids symbols,
        module.symbols.internAll (name :: params) = .ok (symbol :: ids, symbols) ∧
        answer = .issued module.functions.nextId.raw ∧
        module' = { module with
          symbols
          functions := (module.functions.alloc { name := symbol, signature, params := ids }).2 } := by
  simp only [apply, addFunction, Except.map_eq_ok_iff, Except.bind_eq_ok_iff,
    SymbolTable.internAll_cons_eq_ok_iff, BuildAnswer.ofIssued, Arena.alloc, pure, Except.pure,
    Prod.exists, Except.ok.injEq, Prod.mk.injEq, List.cons.injEq]
  grind

theorem apply_global_eq_ok_iff {module module' : Module} {name : String} {ty : Ty}
    {answer : BuildAnswer} :
    module.apply (.global name ty) = .ok (answer, module') ↔
      ∃ symbol symbols, module.symbols.intern name = .ok (symbol, symbols) ∧
        answer = .issued module.globals.nextId.raw ∧
        module' = { module with
          symbols, globals := (module.globals.alloc { name := symbol, ty }).2 } := by
  simp only [apply, addGlobal, Except.map_eq_ok_iff, Except.bind_eq_ok_iff, BuildAnswer.ofIssued,
    Arena.alloc, pure, Except.pure, Prod.exists, Except.ok.injEq, Prod.mk.injEq]
  grind

theorem apply_block_eq_ok_iff {module module' : Module} {function : FunctionId}
    {name : Option String} {answer : BuildAnswer} :
    module.apply (.block function name) = .ok (answer, module') ↔
      ∃ id, module.addBlock function name = .ok (id, module') ∧ answer = .issued id.raw := by
  simp only [apply, Except.map_eq_ok_iff, BuildAnswer.ofIssued, Prod.exists, Prod.mk.injEq]
  grind

theorem symbols_of_pushInstruction {module next : Module} {instruction : Instruction}
    {inst : InstId} (h : module.pushInstruction instruction = .ok (inst, next)) :
    next.symbols = module.symbols := by
  rw [pushInstruction_eq_ok_iff] at h
  obtain ⟨blocks, _, h⟩ := h
  cases h
  rfl

/--
A step interns its names from left to right and no other text.
-/
theorem symbols_of_apply {module next : Module} {step : BuildStep} {answer : BuildAnswer}
    (h : module.apply step = .ok (answer, next)) :
    ∃ symbols, module.symbols.internAll step.names = .ok (symbols, next.symbols) := by
  have hnone (hsymbols : next.symbols = module.symbols) :
      module.symbols.internAll [] = .ok ([], next.symbols) :=
    SymbolTable.internAll_nil_eq_ok_iff.mpr ⟨rfl, hsymbols⟩
  cases step with
  | file file | subprogram subprogram | constant constant =>
    cases h
    exact ⟨[], rfl⟩
  | function name signature params =>
    rw [apply_function_eq_ok_iff] at h
    obtain ⟨symbol, ids, symbols, hintern, _, rfl⟩ := h
    exact ⟨symbol :: ids, hintern⟩
  | setSubprogram function subprogram =>
    rw [apply_setSubprogram_eq_ok_iff, setSubprogram_eq_ok_iff] at h
    obtain ⟨_, functions, _, rfl⟩ := h
    exact ⟨[], rfl⟩
  | block function name =>
    simp only [apply_block_eq_ok_iff, addBlock_eq_ok_iff, Prod.mk.injEq] at h
    obtain ⟨_, ⟨symbol?, symbols, functions, hintern, _, _, rfl⟩, _⟩ := h
    exact ⟨symbol?.toList, internName_eq_ok_iff.mp hintern⟩
  | instruction parent opcode debugLoc | call parent callee debugLoc =>
    obtain ⟨_, _, rfl⟩ | ⟨_, inst, hpush, _⟩ := inserted_of_apply h rfl
    . exact ⟨[], hnone rfl⟩
    . exact ⟨[], hnone (symbols_of_pushInstruction hpush)⟩
  | metadata inst kind node =>
    rw [apply_metadata_eq_ok_iff, setMetadata_eq_ok_iff] at h
    obtain ⟨_, insts, _, rfl⟩ := h
    exact ⟨[], rfl⟩
  | global name ty =>
    rw [apply_global_eq_ok_iff] at h
    obtain ⟨symbol, symbols, hintern, _, rfl⟩ := h
    have hnil : symbols.internAll [] = .ok ([], symbols) :=
      SymbolTable.internAll_nil_eq_ok_iff.mpr ⟨rfl, rfl⟩
    refine ⟨[symbol], SymbolTable.internAll_cons_eq_ok_iff.mpr ?_⟩
    exact ⟨symbol, symbols, [], hintern, hnil, rfl⟩

/--
Whether ids can tell the items of every arena apart.
-/
structure Addressable (module : Module) : Prop where
  functions : module.functions.size < UInt32.size
  blocks : module.blocks.size < UInt32.size
  insts : module.insts.size < UInt32.size
  globals : module.globals.size < UInt32.size
  constants : module.constants.size < UInt32.size
  files : module.files.size < UInt32.size
  subprograms : module.subprograms.size < UInt32.size

instance (module : Module) : Decidable module.Addressable :=
  decidable_of_iff
    (module.functions.size < UInt32.size ∧ module.blocks.size < UInt32.size ∧
      module.insts.size < UInt32.size ∧ module.globals.size < UInt32.size ∧
      module.constants.size < UInt32.size ∧ module.files.size < UInt32.size ∧
      module.subprograms.size < UInt32.size)
    ⟨fun ⟨hfunctions, hblocks, hinsts, hglobals, hconstants, hfiles, hsubprograms⟩ =>
      ⟨hfunctions, hblocks, hinsts, hglobals, hconstants, hfiles, hsubprograms⟩,
    fun h => ⟨h.functions, h.blocks, h.insts, h.globals, h.constants, h.files, h.subprograms⟩⟩

theorem addressable_of_pushInstruction {module module' : Module} {instruction : Instruction}
    {id : InstId} (h : module.pushInstruction instruction = .ok (id, module'))
    (hsize : module'.Addressable) : module.Addressable := by
  rw [pushInstruction_eq_ok_iff] at h
  obtain ⟨blocks, hblocks, h⟩ := h
  cases h
  have := Arena.size_of_modify hblocks
  have hinsts := hsize.insts
  rw [Arena.size_alloc] at hinsts
  exact { hsize with
    blocks := by rw [← this]; exact hsize.blocks
    insts := by omega }

theorem addressable_of_addBlock {module : Module} {function : FunctionId} {name : Option String}
    {result : BlockId × Module} (h : module.addBlock function name = .ok result)
    (hsize : result.2.Addressable) : module.Addressable := by
  rw [addBlock_eq_ok_iff] at h
  obtain ⟨_, _, functions, _, hfunctions, h⟩ := h
  subst h
  have := Arena.size_of_modify hfunctions
  have hblocks := hsize.blocks
  rw [Arena.size_alloc] at hblocks
  exact { hsize with
    functions := by rw [← this]; exact hsize.functions
    blocks := by omega }

theorem addressable_of_apply {module module' : Module} {step : BuildStep} {answer : BuildAnswer}
    (h : module.apply step = .ok (answer, module')) (hsize : module'.Addressable) :
    module.Addressable := by
  cases step with
  | file file =>
    cases h
    have := hsize.files
    simp only [addFile, Arena.size_alloc] at this
    exact { hsize with files := by omega }
  | subprogram subprogram =>
    cases h
    have := hsize.subprograms
    simp only [addSubprogram, Arena.size_alloc] at this
    exact { hsize with subprograms := by omega }
  | function name signature params =>
    rw [apply_function_eq_ok_iff] at h
    obtain ⟨_, _, _, _, _, rfl⟩ := h
    have := hsize.functions
    simp only [Arena.size_alloc] at this
    exact { hsize with functions := by omega }
  | setSubprogram function subprogram =>
    rw [apply_setSubprogram_eq_ok_iff, setSubprogram_eq_ok_iff] at h
    obtain ⟨_, functions, hfunctions, rfl⟩ := h
    have := Arena.size_of_modify hfunctions
    exact { hsize with functions := by rw [← this]; exact hsize.functions }
  | block function name =>
    rw [apply_block_eq_ok_iff] at h
    obtain ⟨id, hadd, _⟩ := h
    exact addressable_of_addBlock hadd hsize
  | instruction parent opcode debugLoc | call parent callee debugLoc =>
    obtain ⟨_, _, rfl⟩ | ⟨_, id, hpush, _⟩ := inserted_of_apply h rfl
    . exact hsize
    . exact addressable_of_pushInstruction hpush hsize
  | metadata inst kind node =>
    rw [apply_metadata_eq_ok_iff, setMetadata_eq_ok_iff] at h
    obtain ⟨_, insts, hinsts, rfl⟩ := h
    have := Arena.size_of_modify hinsts
    exact { hsize with insts := by rw [← this]; exact hsize.insts }
  | global name ty =>
    rw [apply_global_eq_ok_iff] at h
    obtain ⟨_, _, _, _, rfl⟩ := h
    have := hsize.globals
    simp only [Arena.size_alloc] at this
    exact { hsize with globals := by omega }
  | constant constant =>
    cases h
    have := hsize.constants
    simp only [addConstant, Arena.size_alloc] at this
    exact { hsize with constants := by omega }

theorem build_cons_eq_ok_iff {module module' : Module} {step : BuildStep} {steps : List BuildStep} :
    (module.build (step :: steps)).2 = .ok module' ↔
      ∃ answer next, module.apply step = .ok (answer, next) ∧
        (next.build steps).2 = .ok module' := by
  simp only [build]
  split
  . next h => simp [h, and_assoc]
  . next h => simp [h]

theorem build_cons_eq_iff {module last : Module} {step : BuildStep} {steps : List BuildStep}
    {answers : List BuildAnswer} :
    module.build (step :: steps) = (answers, .ok last) ↔
      ∃ answer rest next, module.apply step = .ok (answer, next) ∧
        next.build steps = (rest, .ok last) ∧ answers = answer :: rest := by
  simp only [build]
  split
  . next answer next h =>
    simp only [h, Except.ok.injEq, Prod.mk.injEq]
    constructor
    . rintro ⟨rfl, hlast⟩
      exact ⟨answer, _, next, ⟨rfl, rfl⟩, Prod.ext rfl hlast, rfl⟩
    . rintro ⟨_, rest, _, ⟨rfl, rfl⟩, hrest, rfl⟩
      rw [hrest]
      exact ⟨rfl, rfl⟩
  . next h => simp [h]

/--
A run goes through its moments: what was built before any of its steps.
-/
theorem build_append_eq_ok_iff {module last : Module} {steps steps' : List BuildStep} :
    (module.build (steps ++ steps')).2 = .ok last ↔
      ∃ moment, (module.build steps).2 = .ok moment ∧ (moment.build steps').2 = .ok last := by
  induction steps generalizing module with
  | nil => simp [build]
  | cons step steps ih =>
    rw [List.cons_append]
    simp only [build_cons_eq_ok_iff, ih]
    grind

/--
What every step keeps is kept by a run.
-/
theorem build_invariant {P : Module → Prop}
    (hstep : ∀ (module : Module) (step : BuildStep) (answer : BuildAnswer) (next : Module),
      module.apply step = .ok (answer, next) → P module → P next)
    {module module' : Module} {steps : List BuildStep}
    (h : (module.build steps).2 = .ok module') (hP : P module) : P module' := by
  induction steps generalizing module with
  | nil =>
    cases h
    exact hP
  | cons step steps ih =>
    rw [build_cons_eq_ok_iff] at h
    obtain ⟨answer, next, happly, hrest⟩ := h
    apply ih hrest
    exact hstep module step answer next happly hP

/--
What every step keeps is kept by a run. A step may assume that its result is addressable, as the
result of the run is and arenas never shrink.
-/
theorem build_induction {P : Module → Prop}
    (hstep : ∀ (module : Module) (step : BuildStep) (answer : BuildAnswer) (next : Module),
      module.apply step = .ok (answer, next) → next.Addressable → P module → P next)
    {module module' : Module} {steps : List BuildStep}
    (h : (module.build steps).2 = .ok module') (hsize : module'.Addressable) (hP : P module) :
    P module' := by
  apply build_invariant (P := fun module => module.Addressable → P module) _ h (fun _ => hP) hsize
  intro module step answer next happly hmodule hnext
  apply hstep module step answer next happly hnext
  apply hmodule
  exact addressable_of_apply happly hnext

/--
A run that goes through had symbols for all its names.
-/
theorem hasRoom_of_build {module last : Module} {steps : List BuildStep}
    (h : (module.build steps).2 = .ok last) :
    module.symbols.HasRoom (steps.flatMap BuildStep.names) := by
  induction steps generalizing module with
  | nil => exact module.symbols.hasRoom_nil
  | cons step steps ih =>
    rw [build_cons_eq_ok_iff] at h
    obtain ⟨answer, next, happly, hrest⟩ := h
    obtain ⟨symbols, hintern⟩ := symbols_of_apply happly
    rw [List.flatMap_cons, SymbolTable.hasRoom_append_iff_of_internAll hintern]
    exact ih hrest

theorem addressable_of_build {module module' : Module} {steps : List BuildStep}
    (h : (module.build steps).2 = .ok module') (hsize : module'.Addressable) :
    module.Addressable := by
  induction steps generalizing module with
  | nil =>
    cases h
    exact hsize
  | cons step steps ih =>
    rw [build_cons_eq_ok_iff] at h
    obtain ⟨answer, next, happly, hrest⟩ := h
    apply addressable_of_apply happly
    exact ih hrest

end Module

end IRDiagnostics
