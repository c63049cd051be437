import IRDiagnostics.Proofs.Module.Growth

/-!
This module contains the agreement between opcodes and callees. Whether an instruction is a call is
told by its opcode and by its callee, and both tell the same of every instruction that was stored. A
function that is called directly was declared before the call and is declared ever after.
-/

namespace IRDiagnostics

namespace Module

variable {module next : Module}

/--
How the opcode, the callee and the functions of the module belong together in an instruction.
-/
structure CallSound (module : Module) (data : Instruction) : Prop where
  callee_isSome_iff : data.callee.isSome ↔ data.opcode = .call
  declared : ∀ function, data.callee = some (.direct function) →
    module.functions.contains function

def CallsSound (module : Module) : Prop := module.insts.All module.CallSound

theorem CallSound.mono {data : Instruction} (h : module.CallSound data)
    (hfunctions : ∀ function, module.functions.contains function →
      next.functions.contains function) : next.CallSound data where
  callee_isSome_iff := h.callee_isSome_iff
  declared function hcallee := hfunctions function (h.declared function hcallee)

theorem callSound_of_ne_call {opcode : Opcode} (h : opcode ≠ .call) (parent : BlockId)
    (debugLoc : Option DebugLoc) : module.CallSound { opcode, parent, debugLoc } where
  callee_isSome_iff := by simp [h]
  declared function hcallee := by contradiction

theorem refusal?_direct_eq_none_iff {function : FunctionId} :
    module.refusal? (.direct function) = none ↔ module.functions.contains function := by
  simp [refusal?]

theorem callSound_of_refusal? {callee : Callee} (h : module.refusal? callee = none)
    (parent : BlockId) (debugLoc : Option DebugLoc) :
    module.CallSound { opcode := .call, parent, debugLoc, callee } where
  callee_isSome_iff := by simp
  declared function hcallee := by
    cases hcallee
    exact refusal?_direct_eq_none_iff.mp h

theorem all_insts_of_pushInstruction {P : Instruction → Prop} {instruction : Instruction}
    {inst : InstId} (hpush : module.pushInstruction instruction = .ok (inst, next))
    (h : module.insts.All P) (hinstruction : P instruction) : next.insts.All P := by
  rw [pushInstruction_eq_ok_iff] at hpush
  obtain ⟨blocks, _, hpush⟩ := hpush
  cases hpush
  exact h.alloc hinstruction

theorem CallsSound.apply (h : module.CallsSound) {step : BuildStep} {answer : BuildAnswer}
    (hstep : module.apply step = .ok (answer, next)) : next.CallsSound := by
  have hgrows : module.Grows [step] next := grows_of_apply hstep List.mem_cons_self
  -- Functions are only added, so it is enough to look at the instructions.
  suffices next.insts.All module.CallSound by
    refine this.imp ?_
    intro data hdata
    exact hdata.mono fun function => hgrows.functions.contains
  cases step with
  | file file | subprogram subprogram | constant constant =>
    cases hstep
    exact h
  | function name signature params =>
    rw [apply_function_eq_ok_iff] at hstep
    obtain ⟨_, _, _, _, _, rfl⟩ := hstep
    exact h
  | setSubprogram function subprogram =>
    rw [apply_setSubprogram_eq_ok_iff, setSubprogram_eq_ok_iff] at hstep
    obtain ⟨_, functions, _, rfl⟩ := hstep
    exact h
  | block function name =>
    simp only [apply_block_eq_ok_iff, addBlock_eq_ok_iff, Prod.mk.injEq] at hstep
    obtain ⟨_, ⟨_, _, functions, _, _, _, rfl⟩, _⟩ := hstep
    exact h
  | instruction parent opcode debugLoc =>
    rw [apply_instruction_eq_ok_iff] at hstep
    obtain ⟨_, _, rfl⟩ | ⟨hopcode, inst, hpush, _⟩ := hstep
    . exact h
    . exact all_insts_of_pushInstruction hpush h (callSound_of_ne_call hopcode parent debugLoc)
  | call parent callee debugLoc =>
    rw [apply_call_eq_ok_iff] at hstep
    obtain ⟨_, _, _, rfl⟩ | ⟨hrefusal, inst, hpush, _⟩ := hstep
    . exact h
    . exact all_insts_of_pushInstruction hpush h (callSound_of_refusal? hrefusal parent debugLoc)
  | metadata inst kind node =>
    rw [apply_metadata_eq_ok_iff, setMetadata_eq_ok_iff] at hstep
    obtain ⟨_, insts, hmodify, rfl⟩ := hstep
    apply h.modify hmodify
    intro data hdata
    exact ⟨hdata.callee_isSome_iff, hdata.declared⟩
  | global name ty =>
    rw [apply_global_eq_ok_iff] at hstep
    obtain ⟨_, _, _, _, rfl⟩ := hstep
    exact h

theorem callsSound_of_build {identifier : String} {filter : Filter} {steps : List BuildStep}
    (h : (build { identifier, filter } steps).2 = .ok module) : module.CallsSound := by
  apply build_invariant (P := CallsSound) _ h Arena.all_empty
  intro module step answer next hstep hcalls
  exact hcalls.apply hstep

/--
What is read of a call to a known function.
-/
structure CallsDirectly (module : Module) (inst : InstId) (call : Call) (function : FunctionId)
    (signature : Signature) : Prop where
  asCall? : module.asCall? inst = .ok (some call)
  declared : module.functions.contains function
  function? : call.function? = some function
  functionSignature : module.functionSignature function = .ok signature
  callSignature : module.callSignature call = .ok signature

/--
What is read of a call through a pointer.
-/
structure CallsIndirectly (module : Module) (inst : InstId) (call : Call) (signature : Signature) :
    Prop where
  asCall? : module.asCall? inst = .ok (some call)
  function? : call.function? = none
  callSignature : module.callSignature call = .ok signature

/--
What is read of an instruction that may be a call. The steps that lead to a later module may be none
at all.
-/
structure CallConsistent (module : Module) (inst : InstId) : Prop where
  isSome_iff : ∃ opcode call?, module.instOpcode inst = .ok opcode ∧
    module.asCall? inst = .ok call? ∧ (call?.isSome ↔ opcode = .call)
  direct : ∀ call function, module.asCall? inst = .ok (some call) →
    call.callee = .direct function →
      ∃ signature, ∀ steps later, (module.build steps).2 = .ok later →
        later.CallsDirectly inst call function signature
  indirect : ∀ call signature, module.asCall? inst = .ok (some call) →
    call.callee = .indirect signature →
      ∀ steps later, (module.build steps).2 = .ok later →
        later.CallsIndirectly inst call signature

theorem functionSignature_of_contains {function : FunctionId}
    (h : module.functions.contains function) :
    ∃ signature, module.functionSignature function = .ok signature := by
  rw [Arena.contains_iff_get?] at h
  obtain ⟨data, hdata⟩ := h
  refine ⟨data.signature, ?_⟩
  unfold functionSignature
  rw [Arena.read_eq_ok_iff.mpr hdata]
  rfl

theorem asCall?_eq_some_iff {inst : InstId} {call : Call} :
    module.asCall? inst = .ok (some call) ↔
      ∃ data, module.insts.read inst = .ok data ∧ data.callee = some call.callee ∧
        call.inst = inst := by
  obtain ⟨callInst, callee⟩ := call
  unfold Module.asCall? Instruction.asCall?
  simp only [Except.bind_eq_ok_iff, pure, Except.pure, Except.ok.injEq, Option.map_eq_some_iff,
    Call.mk.injEq]
  constructor
  . rintro ⟨data, hdata, other, hother, rfl, rfl⟩
    exact ⟨data, hdata, hother, rfl⟩
  . rintro ⟨data, hdata, hcallee, rfl⟩
    exact ⟨data, hdata, callee, hcallee, rfl, rfl⟩

theorem CallsSound.isSome_iff (h : module.CallsSound) {inst : InstId}
    (hinst : module.insts.contains inst) :
    ∃ opcode call?, module.instOpcode inst = .ok opcode ∧
      module.asCall? inst = .ok call? ∧ (call?.isSome ↔ opcode = .call) := by
  rw [Arena.contains_iff] at hinst
  obtain ⟨data, hread, hdata⟩ := h.answers_read hinst
  refine ⟨data.opcode, data.asCall? inst, ?_, ?_, ?_⟩
  . unfold instOpcode
    rw [hread]
    rfl
  . unfold Module.asCall?
    rw [hread]
    rfl
  . unfold Instruction.asCall?
    rw [Option.isSome_map]
    exact hdata.callee_isSome_iff

theorem CallsSound.declared (h : module.CallsSound) {inst : InstId} {call : Call}
    {function : FunctionId} (hcall : module.asCall? inst = .ok (some call))
    (hcallee : call.callee = .direct function) : module.functions.contains function := by
  rw [asCall?_eq_some_iff] at hcall
  obtain ⟨data, hread, hdata, _⟩ := hcall
  apply (h.of_read hread).declared
  rw [hdata, hcallee]

theorem CallsSound.callConsistent (h : module.CallsSound) {inst : InstId}
    (hinst : module.insts.contains inst) : module.CallConsistent inst where
  isSome_iff := h.isSome_iff hinst
  direct call function hcall hcallee := by
    have hdeclared := h.declared hcall hcallee
    obtain ⟨signature, hsignature⟩ := functionSignature_of_contains hdeclared
    refine ⟨signature, ?_⟩
    intro steps later hbuild
    have hgrows : module.Grows steps later := grows_of_build hbuild (List.Subset.refl steps)
    have hlater := hgrows.keeps_functionSignature function signature hsignature
    constructor
    . exact hgrows.keeps_asCall? inst _ hcall
    . exact hgrows.functions.contains hdeclared
    . unfold Call.function?
      rw [hcallee]
    . exact hlater
    . unfold callSignature
      rw [hcallee]
      exact hlater
  indirect call signature hcall hcallee steps later hbuild := by
    have hgrows : module.Grows steps later := grows_of_build hbuild (List.Subset.refl steps)
    constructor
    . exact hgrows.keeps_asCall? inst _ hcall
    . unfold Call.function?
      rw [hcallee]
    . unfold callSignature
      rw [hcallee]

/--
Every instruction of a module, whatever was built or refused on the way to it, is consistent as a
call.
-/
theorem callConsistent_of_build {identifier : String} {filter : Filter} {steps : List BuildStep}
    (h : (build { identifier, filter } steps).2 = .ok module) {inst : InstId}
    (hinst : module.insts.contains inst) : module.CallConsistent inst := by
  have hcalls := callsSound_of_build h
  exact hcalls.callConsistent hinst

def mixedCalls : List BuildStep :=
  [.function "f" ⟨.void, [], false⟩ [],
   .block ⟨0⟩ none,
   .call ⟨0⟩ (.direct ⟨1⟩) none,
   .instruction ⟨0⟩ .call none,
   .call ⟨0⟩ (.indirect ⟨.int 8, [.ptr], true⟩) none,
   .function "g" ⟨.ptr, [.double], false⟩ ["x"],
   .call ⟨0⟩ (.direct ⟨1⟩) none,
   .instruction ⟨0⟩ .ret none]

/--
A function is called before and after it is declared; only the second call goes through.
-/
theorem callConsistent_of_build_mixed :
    ∃ module, (build { identifier := "m" } mixedCalls).2 = .ok module ∧
      module.insts.contains ⟨1⟩ ∧ ¬ module.insts.contains ⟨3⟩ ∧
      module.asCall? ⟨1⟩ = .ok (some ⟨⟨1⟩, .direct ⟨1⟩⟩) ∧
      module.callSignature ⟨⟨1⟩, .direct ⟨1⟩⟩ = .ok ⟨.ptr, [.double], false⟩ ∧
      module.CallConsistent ⟨1⟩ := by
  obtain ⟨module, h, hinst, hrefused, hcall, hsignature⟩ :
      Answers (build { identifier := "m" } mixedCalls).2 fun module =>
        module.insts.contains ⟨1⟩ ∧ ¬ module.insts.contains ⟨3⟩ ∧
          module.asCall? ⟨1⟩ = .ok (some ⟨⟨1⟩, .direct ⟨1⟩⟩) ∧
          module.callSignature ⟨⟨1⟩, .direct ⟨1⟩⟩ = .ok ⟨.ptr, [.double], false⟩ := by
    decide +kernel
  exact ⟨module, h, hinst, hrefused, hcall, hsignature, callConsistent_of_build h hinst⟩

end Module

end IRDiagnostics
