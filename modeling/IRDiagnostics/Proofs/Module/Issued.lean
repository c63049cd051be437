import IRDiagnostics.Module.Scope
import IRDiagnostics.Proofs.Module.Steps

/-!
This module contains the agreement between the ids that a run returned and the ids that its module
knows. A step that stores an entity returns the next free id of its sort and takes no other, so the
ids of a module that is built from an empty one are exactly those that were returned on the way.
-/

namespace IRDiagnostics

namespace Module

variable {module next last : Module}

theorem Addressable.size_lt (h : module.Addressable) (entity : Entity) :
    module.size entity < UInt32.size := by
  cases entity with
  | function => exact h.functions
  | block => exact h.blocks
  | instruction => exact h.insts
  | global => exact h.globals
  | constant => exact h.constants
  | file => exact h.files
  | subprogram => exact h.subprograms

/--
What a step that returned `returned` does to the numbers of entities.
-/
def Counts (module next : Module) : Option Handle → Prop
  | none => ∀ entity, next.size entity = module.size entity
  | some handle =>
    handle.raw = UInt32.ofNat (module.size handle.entity) ∧
      ∀ entity, next.size entity = module.size entity + if entity = handle.entity then 1 else 0

theorem counts_of_addBlock {function : FunctionId} {name : Option String} {id : BlockId}
    (h : module.addBlock function name = .ok (id, next)) : module.Counts next (some id.handle) := by
  rw [addBlock_eq_ok_iff] at h
  obtain ⟨_, _, functions, _, hfunctions, h⟩ := h
  cases h
  refine ⟨rfl, ?_⟩
  intro entity
  cases entity <;> simp [size, Id.handle, Arena.size_of_modify hfunctions]

theorem counts_of_pushInstruction {instruction : Instruction} {id : InstId}
    (h : module.pushInstruction instruction = .ok (id, next)) :
    module.Counts next (some id.handle) := by
  rw [pushInstruction_eq_ok_iff] at h
  obtain ⟨blocks, hblocks, h⟩ := h
  cases h
  refine ⟨rfl, ?_⟩
  intro entity
  cases entity <;> simp [size, Id.handle, Arena.size_of_modify hblocks]

theorem counts_of_apply {step : BuildStep} {answer : BuildAnswer}
    (h : module.apply step = .ok (answer, next)) :
    module.Counts next (step.returned? answer) := by
  cases step with
  | file file | subprogram subprogram | constant constant =>
    cases h
    refine ⟨rfl, ?_⟩
    intro entity
    cases entity <;> simp [size, addFile, addSubprogram, addConstant]
  | function name signature params =>
    rw [apply_function_eq_ok_iff] at h
    obtain ⟨_, _, _, _, rfl, rfl⟩ := h
    refine ⟨rfl, ?_⟩
    intro entity
    cases entity <;> simp [size]
  | setSubprogram function subprogram =>
    rw [apply_setSubprogram_eq_ok_iff, setSubprogram_eq_ok_iff] at h
    obtain ⟨rfl, functions, hfunctions, rfl⟩ := h
    intro entity
    cases entity <;> simp [size, Arena.size_of_modify hfunctions]
  | block function name =>
    rw [apply_block_eq_ok_iff] at h
    obtain ⟨id, hadd, rfl⟩ := h
    exact counts_of_addBlock hadd
  | instruction parent opcode debugLoc | call parent callee debugLoc =>
    obtain ⟨_, rfl, rfl⟩ | ⟨_, id, hpush, rfl, _⟩ := inserted_of_apply h rfl
    . intro entity
      rfl
    . exact counts_of_pushInstruction hpush
  | metadata inst kind node =>
    rw [apply_metadata_eq_ok_iff, setMetadata_eq_ok_iff] at h
    obtain ⟨rfl, insts, hinsts, rfl⟩ := h
    intro entity
    cases entity <;> simp [size, Arena.size_of_modify hinsts]
  | global name ty =>
    rw [apply_global_eq_ok_iff] at h
    obtain ⟨_, _, _, rfl, rfl⟩ := h
    refine ⟨rfl, ?_⟩
    intro entity
    cases entity <;> simp [size]

theorem Counts.issued_iff {returned : Option Handle} (h : module.Counts next returned)
    (hsize : module.Addressable) {handle : Handle} :
    next.Issued handle ↔ module.Issued handle ∨ returned = some handle := by
  unfold Issued
  cases returned with
  | none =>
    rw [h handle.entity]
    simp
  | some new =>
    obtain ⟨hraw, hcount⟩ := h
    have hnew : new.raw.toNat = module.size new.entity := by
      rw [hraw]
      exact UInt32.toNat_ofNat_of_lt' (hsize.size_lt new.entity)
    obtain ⟨entity, raw⟩ := handle
    obtain ⟨newEntity, newRaw⟩ := new
    rw [hcount]
    simp only [Option.some.injEq, Handle.mk.injEq] at hnew ⊢
    rw [← UInt32.toNat_inj]
    split
    . next heq =>
      subst heq
      simp only [true_and]
      omega
    . next hne =>
      simp only [Ne.symm hne, false_and, or_false]
      omega

theorem issued_iff_of_build {steps : List BuildStep} (h : (module.build steps).2 = .ok last)
    (hsize : last.Addressable) {handle : Handle} :
    last.Issued handle ↔ module.Issued handle ∨ handle ∈ module.returned steps := by
  induction steps generalizing module with
  | nil =>
    cases h
    simp [returned]
  | cons step steps ih =>
    rw [build_cons_eq_ok_iff] at h
    obtain ⟨answer, next, happly, hrest⟩ := h
    have hnext : next.Addressable := addressable_of_build hrest hsize
    rw [ih hrest]
    rw [(counts_of_apply happly).issued_iff (addressable_of_apply happly hnext)]
    simp only [returned, happly, List.mem_append, Option.mem_toList]
    rw [or_assoc]

theorem not_issued_init {identifier : String} {filter : Filter} (handle : Handle) :
    ¬ Issued { identifier, filter } handle := by
  obtain ⟨entity, raw⟩ := handle
  cases entity <;> exact Nat.not_lt_zero _

/--
The functions that can be called at a moment are those that were declared on the way to it.
-/
theorem contains_function_iff_returned {identifier : String} {filter : Filter}
    {steps : List BuildStep} (h : (build { identifier, filter } steps).2 = .ok last)
    (hsize : last.Addressable) {function : FunctionId} :
    last.functions.contains function ↔ function.handle ∈ returned { identifier, filter } steps := by
  have hissued : last.Issued function.handle ↔ _ := issued_iff_of_build h hsize
  simp only [not_issued_init, false_or] at hissued
  rw [← hissued]
  exact Arena.contains_iff

end Module

end IRDiagnostics
