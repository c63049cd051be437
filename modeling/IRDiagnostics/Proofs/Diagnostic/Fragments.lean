import IRDiagnostics.Diagnostic.Origin
import IRDiagnostics.Proofs.Module.Steps

/-!
This module contains the functions that the text of a diagnostic names. They are all among the ids
that the diagnostic holds.
-/

namespace IRDiagnostics

namespace Barebone

variable {function : FunctionId}

theorem mem_handles_of_callee {call : Call} (h : .function function = callee call) :
    function.handle ∈ call.handles := by
  unfold callee at h
  split at h
  . next callee heq =>
    cases h
    simp [Call.handles, heq, Callee.handles]
  . cases h

theorem mem_handles_of_inCall {call : Option Call} (h : .function function ∈ inCall call) :
    function.handle ∈ (call.map Call.handles).getD [] := by
  cases call with
  | some call =>
    apply mem_handles_of_callee
    simpa [inCall] using h
  | none => simp [inCall] at h

theorem Violation.mem_handles_of_fragments {violation : Violation}
    (h : .function function ∈ violation.fragments) : function.handle ∈ violation.handles := by
  cases violation with
  | hwRegInvalid call raw | hwRegAllocFailure call raw | multipartArgUnsupported call ty =>
    apply mem_handles_of_inCall
    simpa [fragments, call?] using h
  | mustTailCall call | notInTailCallPosition call | inNonBareboneFunction call =>
    apply mem_handles_of_callee
    simpa [fragments] using h
  | _ => simp [fragments] at h

theorem mem_handles_of_fragments {diagnostic : Barebone}
    (h : .function function ∈ diagnostic.fragments) :
    function.handle ∈ (Diagnostic.barebone diagnostic).handles := by
  unfold fragments at h
  rw [List.mem_append] at h
  cases h with
  | inl h =>
    -- Before the violation, only the function that the diagnostic is about is named.
    have : function = diagnostic.located.function := by grind
    rw [this]
    exact List.mem_cons_self
  | inr h =>
    apply List.mem_cons_of_mem
    exact Violation.mem_handles_of_fragments h

end Barebone

/--
The text of a diagnostic names only functions that the diagnostic holds.
-/
theorem Diagnostic.mem_handles_of_fragments {module : Module} {diagnostic : Diagnostic}
    {fragments : List Fragment} {function : FunctionId}
    (h : diagnostic.fragments module = .ok fragments) (hfunction : .function function ∈ fragments) :
    function.handle ∈ diagnostic.handles := by
  cases diagnostic with
  | inlineAsm diagnostic =>
    cases h
    grind [InlineAsm.fragments]
  | resourceLimit diagnostic =>
    cases h
    have : function = diagnostic.function := by grind [ResourceLimit.fragments]
    simp [handles, this]
  | sampleProfile diagnostic =>
    cases h
    grind [SampleProfile.fragments]
  | pgoProfile diagnostic =>
    cases h
    grind [PgoProfile.fragments]
  | iselFallback other severity =>
    cases h
    have : function = other := by simpa using hfunction
    simp [handles, this]
  | misExpect diagnostic =>
    cases h
    simp [MisExpect.fragments] at hfunction
  | unsupported diagnostic =>
    obtain ⟨signature, _, h⟩ := Except.bind_eq_ok_iff.mp h
    cases h
    have : function = diagnostic.located.function := by simpa using hfunction
    simp [handles, this]
  | barebone diagnostic =>
    cases h
    exact Barebone.mem_handles_of_fragments hfunction
  | debugVersion version severity | debugInvalid severity | remark diagnostic
  | plugin kind severity message =>
    cases h
    simp at hfunction

end IRDiagnostics
