import IRDiagnostics.Proofs.Module.Issued

/-!
This module contains what the refused steps of a run leave behind, which is nothing: the run without
them has the same answers and the same module. A step is refused for what it is and for the
functions that were declared before it, never for its block.
-/

namespace IRDiagnostics

def BuildAnswer.isRejected : BuildAnswer → Bool
  | .rejected _ => true
  | .issued _ | .done => false

namespace Module

variable {module next last : Module} {steps : List BuildStep} {answers : List BuildAnswer}

/--
The steps of a run that were not refused, with their answers.
-/
def accepted (steps : List BuildStep) (answers : List BuildAnswer) :
    List (BuildStep × BuildAnswer) :=
  (steps.zip answers).filter fun pair => !pair.2.isRejected

theorem eq_of_apply_rejected {step : BuildStep} {answer : BuildAnswer}
    (h : module.apply step = .ok (answer, next)) (hanswer : answer.isRejected) : next = module := by
  cases step with
  | file file | subprogram subprogram | constant constant =>
    cases h
    contradiction
  | function name signature params =>
    rw [apply_function_eq_ok_iff] at h
    obtain ⟨_, _, _, _, rfl, _⟩ := h
    contradiction
  | setSubprogram function subprogram =>
    rw [apply_setSubprogram_eq_ok_iff] at h
    rw [h.1] at hanswer
    contradiction
  | block function name =>
    rw [apply_block_eq_ok_iff] at h
    obtain ⟨id, _, rfl⟩ := h
    contradiction
  | instruction parent opcode debugLoc | call parent callee debugLoc =>
    obtain ⟨_, _, heq⟩ | ⟨_, id, _, rfl, _⟩ := inserted_of_apply h rfl
    . exact heq
    . contradiction
  | metadata inst kind node =>
    rw [apply_metadata_eq_ok_iff] at h
    rw [h.1] at hanswer
    contradiction
  | global name ty =>
    rw [apply_global_eq_ok_iff] at h
    obtain ⟨_, _, _, rfl, _⟩ := h
    contradiction

theorem length_answers_of_build (h : module.build steps = (answers, .ok last)) :
    answers.length = steps.length := by
  induction steps generalizing module answers with
  | nil =>
    cases h
    rfl
  | cons step steps ih =>
    rw [build_cons_eq_iff] at h
    obtain ⟨answer, rest, next, _, hrest, rfl⟩ := h
    rw [List.length_cons, List.length_cons]
    rw [ih hrest]

theorem build_accepted (h : module.build steps = (answers, .ok last)) :
    module.build ((accepted steps answers).map (·.1)) =
      ((accepted steps answers).map (·.2), .ok last) := by
  induction steps generalizing module answers with
  | nil =>
    cases h
    rfl
  | cons step steps ih =>
    rw [build_cons_eq_iff] at h
    obtain ⟨answer, rest, next, happly, hrest, rfl⟩ := h
    specialize ih hrest
    unfold accepted at ih ⊢
    rw [List.zip_cons_cons]
    cases hanswer : answer.isRejected with
    | true =>
      -- The step is left out, and the others find the module as it was before the step.
      rw [eq_of_apply_rejected happly hanswer] at ih
      rw [List.filter_cons_of_neg (by simp [hanswer])]
      exact ih
    | false =>
      rw [List.filter_cons_of_pos (by simp [hanswer])]
      rw [List.map_cons, List.map_cons]
      rw [build_cons_eq_iff]
      exact ⟨answer, _, next, happly, ih, rfl⟩

theorem mapError_fault_ne_rejected {result : Except Fault α} {rejection : Rejection} :
    result.mapError BuildError.fault ≠ .error (.rejected rejection) := by
  cases result with
  | ok value =>
    change Except.ok value ≠ _
    simp
  | error fault =>
    change Except.error (BuildError.fault fault) ≠ _
    simp

theorem addInstruction_eq_rejected_iff {parent : BlockId} {opcode : Opcode}
    {debugLoc : Option DebugLoc} {rejection : Rejection} :
    module.addInstruction parent opcode debugLoc = .error (.rejected rejection) ↔
      opcode = .call ∧ rejection = .callWithoutCallee := by
  unfold addInstruction
  split
  . next h => simp [h, eq_comm]
  . next h => simp [h, mapError_fault_ne_rejected]

theorem addCall_eq_rejected_iff {parent : BlockId} {callee : Callee} {debugLoc : Option DebugLoc}
    {rejection : Rejection} :
    module.addCall parent callee debugLoc = .error (.rejected rejection) ↔
      module.refusal? callee = some rejection := by
  unfold addCall
  split
  . next h => simp [h]
  . next h => simp [h, mapError_fault_ne_rejected]

theorem refusal?_eq_some_iff {callee : Callee} {rejection : Rejection} :
    module.refusal? callee = some rejection ↔
      ∃ function, callee = .direct function ∧ ¬ module.functions.contains function ∧
        rejection = .undeclaredCallee function := by
  cases callee with
  | direct function =>
    simp only [refusal?, Callee.direct.injEq, exists_eq_left']
    split
    . next h => simp only [h, not_true_eq_false, false_and, reduceCtorEq]
    . next h => simp only [h, Bool.false_eq_true, not_false_eq_true, true_and, Option.some.injEq,
        eq_comm]
  | indirect signature => simp [refusal?]

/--
What is refused after the ids in `issued` were returned, and why. The block has no part in it.
-/
structure Refuses (module : Module) (issued : List Handle) : Prop where
  instruction_iff : ∀ parent opcode debugLoc rejection,
    module.addInstruction parent opcode debugLoc = .error (.rejected rejection) ↔
      opcode = .call ∧ rejection = .callWithoutCallee
  call_iff : ∀ parent callee debugLoc rejection,
    module.addCall parent callee debugLoc = .error (.rejected rejection) ↔
      ∃ function, callee = .direct function ∧ function.handle ∉ issued ∧
        rejection = .undeclaredCallee function

/--
How a run that led from `module` to `last` compares with the run of the accepted steps alone.
-/
structure RefusalsTraceless (module : Module) (steps : List BuildStep) (answers : List BuildAnswer)
    (last : Module) : Prop where
  answered : answers.length = steps.length
  unchanged : module.build ((accepted steps answers).map (·.1)) =
    ((accepted steps answers).map (·.2), .ok last)
  /-- At every moment of the run, whatever is asked for next. -/
  refuses : ∀ before after, steps = before ++ after →
    ∃ moment, (module.build before).2 = .ok moment ∧ moment.Refuses (module.returned before)

theorem refuses_of_build {identifier : String} {filter : Filter}
    (h : (build { identifier, filter } steps).2 = .ok last) (hsize : last.Addressable) :
    last.Refuses (returned { identifier, filter } steps) where
  instruction_iff _ _ _ _ := addInstruction_eq_rejected_iff
  call_iff _ _ _ _ := by
    rw [addCall_eq_rejected_iff]
    simp only [refusal?_eq_some_iff, contains_function_iff_returned h hsize]

theorem refusalsTraceless_of_build {identifier : String} {filter : Filter}
    (h : build { identifier, filter } steps = (answers, .ok last)) (hsize : last.Addressable) :
    RefusalsTraceless { identifier, filter } steps answers last := by
  refine ⟨length_answers_of_build h, build_accepted h, ?_⟩
  intro before after heq
  subst heq
  have hbuild : (build { identifier, filter } (before ++ after)).2 = .ok last := by rw [h]
  rw [build_append_eq_ok_iff] at hbuild
  obtain ⟨moment, hbefore, hafter⟩ := hbuild
  refine ⟨moment, hbefore, ?_⟩
  apply refuses_of_build hbefore
  exact addressable_of_build hafter hsize

def stepsWithRefusals : List BuildStep :=
  [.instruction ⟨9⟩ .call none,
   .function "f" ⟨.void, [], false⟩ ["p"],
   .block ⟨0⟩ (some "entry"),
   .call ⟨0⟩ (.direct ⟨1⟩) none,
   .call ⟨7⟩ (.direct ⟨2⟩) none,
   .instruction ⟨0⟩ .load none,
   .function "g" ⟨.ptr, [], false⟩ [],
   .instruction ⟨0⟩ .call none,
   .call ⟨0⟩ (.direct ⟨1⟩) none,
   .metadata ⟨1⟩ "srcloc" ⟨[.int 7]⟩,
   .call ⟨5⟩ (.direct ⟨2⟩) none,
   .instruction ⟨0⟩ .ret none]

/--
Five of twelve steps are refused, three of them for blocks that do not exist, and one callee is
declared only after its first call.
-/
theorem refusalsTraceless_of_build_unknownBlocks :
    ∃ answers last, build { identifier := "m" } stepsWithRefusals = (answers, .ok last) ∧
      last.Addressable ∧ last.insts.size = 3 ∧
      (accepted stepsWithRefusals answers).map (·.2) =
        [.issued 0, .issued 0, .issued 0, .issued 1, .issued 1, .done, .issued 2] ∧
      RefusalsTraceless { identifier := "m" } stepsWithRefusals answers last := by
  obtain ⟨last, hlast, hsize, hinsts, haccepted⟩ :
      Answers (build { identifier := "m" } stepsWithRefusals).2 fun last =>
        last.Addressable ∧ last.insts.size = 3 ∧
          (accepted stepsWithRefusals (build { identifier := "m" } stepsWithRefusals).1).map (·.2) =
            [.issued 0, .issued 0, .issued 0, .issued 1, .issued 1, .done, .issued 2] := by
    decide +kernel
  have h : build { identifier := "m" } stepsWithRefusals = (_, .ok last) := Prod.ext rfl hlast
  exact ⟨_, last, h, hsize, hinsts, haccepted, refusalsTraceless_of_build h hsize⟩

end Module

end IRDiagnostics
