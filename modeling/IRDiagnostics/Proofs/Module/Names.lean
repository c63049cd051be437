import IRDiagnostics.Proofs.Module.Growth

/-!
This module contains what can be looked up from the parts of a module. The block of an instruction
and the function of a block are stored, and the name of a function is a symbol of the module. All of
this holds of every module, also of one that was given ids which were never returned: a block is
only added to a function that is there, and an instruction to a block that is there.
-/

namespace IRDiagnostics

namespace Module

variable {module next : Module}

structure NamesKnown (module : Module) : Prop where
  functions : module.functions.All fun data => module.symbols.Issued data.name
  blocks : module.blocks.All fun data => module.functions.contains data.parent

theorem NamesKnown.pushInstruction (h : module.NamesKnown) {instruction : Instruction}
    {inst : InstId} (hpush : module.pushInstruction instruction = .ok (inst, next)) :
    next.NamesKnown := by
  rw [pushInstruction_eq_ok_iff] at hpush
  obtain ⟨blocks, hmodify, hpush⟩ := hpush
  cases hpush
  exact ⟨h.functions, h.blocks.modify hmodify fun _ hparent => hparent⟩

theorem NamesKnown.apply (h : module.NamesKnown) {step : BuildStep} {answer : BuildAnswer}
    (hstep : module.apply step = .ok (answer, next)) : next.NamesKnown := by
  have hgrows : module.Grows [step] next := grows_of_apply hstep List.mem_cons_self
  -- What was stored before refers to what is still there.
  have hfunctions : module.functions.All fun data => next.symbols.Issued data.name :=
    h.functions.imp fun _ hname => hname.mono hgrows.symbols
  have hblocks : module.blocks.All fun data => next.functions.contains data.parent :=
    h.blocks.imp fun _ hparent => hgrows.functions.contains hparent
  cases step with
  | file file | subprogram subprogram | constant constant =>
    cases hstep
    exact ⟨hfunctions, hblocks⟩
  | function name signature params =>
    rw [apply_function_eq_ok_iff] at hstep
    obtain ⟨symbol, ids, symbols, hintern, _, rfl⟩ := hstep
    have hname : symbols.Issued symbol :=
      SymbolTable.issued_of_internAll hintern symbol List.mem_cons_self
    exact ⟨hfunctions.alloc hname, hblocks⟩
  | setSubprogram function subprogram =>
    rw [apply_setSubprogram_eq_ok_iff, setSubprogram_eq_ok_iff] at hstep
    obtain ⟨_, functions, hmodify, rfl⟩ := hstep
    exact ⟨hfunctions.modify hmodify fun _ hname => hname, hblocks⟩
  | block function name =>
    simp only [apply_block_eq_ok_iff, addBlock_eq_ok_iff, Prod.mk.injEq] at hstep
    obtain ⟨_, ⟨_, _, functions, _, hmodify, _, rfl⟩, _⟩ := hstep
    have hparent := (Arena.modify_eq_ok_iff.mp hmodify).1
    refine ⟨hfunctions.modify hmodify fun _ hname => hname, ?_⟩
    exact hblocks.alloc (hgrows.functions.contains hparent)
  | instruction parent opcode debugLoc | call parent callee debugLoc =>
    obtain ⟨_, _, rfl⟩ | ⟨_, inst, hpush, _⟩ := inserted_of_apply hstep rfl
    . exact h
    . exact h.pushInstruction hpush
  | metadata inst kind node =>
    rw [apply_metadata_eq_ok_iff, setMetadata_eq_ok_iff] at hstep
    obtain ⟨_, insts, _, rfl⟩ := hstep
    exact ⟨hfunctions, hblocks⟩
  | global name ty =>
    rw [apply_global_eq_ok_iff] at hstep
    obtain ⟨_, _, _, _, rfl⟩ := hstep
    exact ⟨hfunctions, hblocks⟩

theorem namesKnown_of_build {identifier : String} {filter : Filter} {steps : List BuildStep}
    (h : (build { identifier, filter } steps).2 = .ok module) : module.NamesKnown := by
  apply build_invariant (P := NamesKnown) _ h ⟨Arena.all_empty, Arena.all_empty⟩
  intro module step answer next hstep hnames
  exact hnames.apply hstep

def ParentsKnown (module : Module) : Prop :=
  module.insts.All fun data => module.blocks.contains data.parent

theorem ParentsKnown.apply (h : module.ParentsKnown) {step : BuildStep} {answer : BuildAnswer}
    (hstep : module.apply step = .ok (answer, next)) : next.ParentsKnown := by
  have hgrows : module.Grows [step] next := grows_of_apply hstep List.mem_cons_self
  have hinsts : module.insts.All fun data => next.blocks.contains data.parent :=
    h.imp fun _ hparent => hgrows.blocks.contains hparent
  cases step with
  | file file | subprogram subprogram | constant constant =>
    cases hstep
    exact hinsts
  | function name signature params =>
    rw [apply_function_eq_ok_iff] at hstep
    obtain ⟨_, _, _, _, _, rfl⟩ := hstep
    exact hinsts
  | setSubprogram function subprogram =>
    rw [apply_setSubprogram_eq_ok_iff, setSubprogram_eq_ok_iff] at hstep
    obtain ⟨_, functions, _, rfl⟩ := hstep
    exact hinsts
  | block function name =>
    simp only [apply_block_eq_ok_iff, addBlock_eq_ok_iff, Prod.mk.injEq] at hstep
    obtain ⟨_, ⟨_, _, functions, _, _, _, rfl⟩, _⟩ := hstep
    exact hinsts
  | instruction parent opcode debugLoc | call parent callee debugLoc =>
    obtain ⟨_, _, rfl⟩ | ⟨_, inst, hpush, _⟩ := inserted_of_apply hstep rfl
    . exact h
    . rw [pushInstruction_eq_ok_iff] at hpush
      obtain ⟨blocks, hmodify, hpush⟩ := hpush
      cases hpush
      have hparent := (Arena.modify_eq_ok_iff.mp hmodify).1
      exact hinsts.alloc (hgrows.blocks.contains hparent)
  | metadata inst kind node =>
    rw [apply_metadata_eq_ok_iff, setMetadata_eq_ok_iff] at hstep
    obtain ⟨_, insts, hmodify, rfl⟩ := hstep
    exact hinsts.modify hmodify fun _ hparent => hparent
  | global name ty =>
    rw [apply_global_eq_ok_iff] at hstep
    obtain ⟨_, _, _, _, rfl⟩ := hstep
    exact hinsts

theorem parentsKnown_of_build {identifier : String} {filter : Filter} {steps : List BuildStep}
    (h : (build { identifier, filter } steps).2 = .ok module) : module.ParentsKnown := by
  apply build_invariant (P := ParentsKnown) _ h Arena.all_empty
  intro module step answer next hstep hparents
  exact hparents.apply hstep

theorem NamesKnown.contains_of_blockParent (h : module.NamesKnown) {block : BlockId}
    {function : FunctionId} (hparent : module.blockParent block = .ok function) :
    module.functions.contains function := by
  unfold blockParent at hparent
  rw [Except.bind_eq_ok_iff] at hparent
  obtain ⟨data, hread, heq⟩ := hparent
  cases heq
  exact h.blocks.of_read hread

theorem NamesKnown.answers_functionName (h : module.NamesKnown) {function : FunctionId}
    (hfunction : module.functions.contains function) :
    Answers (module.functionName function) fun _ => True := by
  rw [Arena.contains_iff] at hfunction
  apply (h.functions.answers_read hfunction).bind
  intro data hname
  exact SymbolTable.answers_resolve hname

theorem answers_instFunction (hparents : module.ParentsKnown) (hnames : module.NamesKnown)
    {inst : InstId} (hinst : module.insts.contains inst) :
    Answers (module.instFunction inst) fun function => module.functions.contains function := by
  rw [Arena.contains_iff] at hinst
  have hparent : Answers (module.instParent inst) fun block => module.blocks.contains block := by
    apply (hparents.answers_read hinst).bind
    intro data hdata
    exact .pure hdata
  apply hparent.bind
  intro block hblock
  rw [Arena.contains_iff] at hblock
  apply (hnames.blocks.answers_read hblock).bind
  intro data hdata
  exact .pure hdata

end Module

end IRDiagnostics
