import IRDiagnostics.Diagnostic.Basic
import IRDiagnostics.Proofs.Module.Steps
import Mathlib.Data.List.Induction

/-!
This module contains what becomes of the metadata that is filed for instructions. The last node that
was filed under a kind is the one that is read, kinds stay in the order in which they came up first,
and what is done to other instructions or other parts of a module has no influence. The cookie of an
inline assembly statement is read in this way.
-/

namespace IRDiagnostics

namespace Metadata.Attachments

/--
File several nodes from left to right, each under its kind.
-/
def setAll (attachments : Attachments) (filings : List (String × Node)) : Attachments :=
  filings.foldl (fun attachments (kind, node) => attachments.set kind node) attachments

theorem setAll_append (attachments : Attachments) (filings filings' : List (String × Node)) :
    attachments.setAll (filings ++ filings') = (attachments.setAll filings).setAll filings' := by
  apply List.foldl_append

theorem find?_setAll (attachments : Attachments) (filings : List (String × Node)) (kind : String) :
    (attachments.setAll filings).find? kind =
      (filings.reverse.lookup kind).or (attachments.find? kind) := by
  induction filings generalizing attachments with
  | nil => rfl
  | cons filing filings ih =>
    obtain ⟨other, node⟩ := filing
    have hset : (attachments.set other node).find? kind =
        (List.lookup kind [(other, node)]).or (attachments.find? kind) := by
      by_cases h : kind = other
      . subst h
        rw [find?_set_self]
        simp
      . rw [find?_set_of_ne attachments node h]
        simp [List.lookup_cons, beq_eq_false_iff_ne.mpr h]
    rw [List.reverse_cons]
    rw [List.lookup_append]
    rw [Option.or_assoc]
    rw [← hset]
    apply ih

theorem kinds_set (attachments : Attachments) (kind : String) (node : Node) :
    (attachments.set kind node).map (·.1) =
      if kind ∈ attachments.map (·.1) then attachments.map (·.1)
      else attachments.map (·.1) ++ [kind] := by
  induction attachments with
  | nil => simp [set]
  | cons head rest ih =>
    obtain ⟨other, old⟩ := head
    simp only [set]
    split
    . next h => simp [h]
    . next h =>
      simp only [List.map_cons, List.mem_cons, Ne.symm h, false_or]
      rw [ih]
      split
      . rfl
      . rfl

theorem eraseDups_append_singleton (kinds : List String) (kind : String) :
    (kinds ++ [kind]).eraseDups =
      if kind ∈ kinds then kinds.eraseDups else kinds.eraseDups ++ [kind] := by
  rw [List.eraseDups_append]
  split
  . next h => simp [List.removeAll, h]
  . next h => simp [List.removeAll, h, List.eraseDups_cons]

theorem kinds_setAll_nil (filings : List (String × Node)) :
    (setAll [] filings).map (·.1) = (filings.map (·.1)).eraseDups := by
  induction filings using List.reverseRecOn with
  | nil => rfl
  | append_singleton filings filing ih =>
    obtain ⟨kind, node⟩ := filing
    have hlast : setAll [] (filings ++ [(kind, node)]) = (setAll [] filings).set kind node :=
      setAll_append [] filings [(kind, node)]
    rw [hlast]
    rw [kinds_set]
    rw [ih]
    rw [List.map_append, List.map_singleton]
    rw [eraseDups_append_singleton]
    simp only [List.mem_eraseDups]

theorem nodup_kinds_set {attachments : Attachments} (h : (attachments.map (·.1)).Nodup)
    (kind : String) (node : Node) : ((attachments.set kind node).map (·.1)).Nodup := by
  rw [kinds_set]
  split
  . exact h
  . next hkind =>
    rw [(List.perm_append_singleton kind _).nodup_iff]
    exact List.nodup_cons.mpr ⟨hkind, h⟩

theorem nodup_kinds_setAll {attachments : Attachments} (h : (attachments.map (·.1)).Nodup)
    (filings : List (String × Node)) : ((attachments.setAll filings).map (·.1)).Nodup := by
  induction filings generalizing attachments with
  | nil => exact h
  | cons filing filings ih =>
    apply ih
    exact nodup_kinds_set h filing.1 filing.2

end Metadata.Attachments

/--
What a step files for an instruction, with the kind it is filed under.
-/
def BuildStep.filing? (inst : InstId) : BuildStep → Option (String × Metadata.Node)
  | .metadata other kind node => if other = inst then some (kind, node) else none
  | _ => none

namespace Module

variable {module next last : Module} {steps : List BuildStep} {inst : InstId}

/--
All that is filed for an instruction in a run, oldest first.
-/
def filings (inst : InstId) (steps : List BuildStep) : List (String × Metadata.Node) :=
  steps.filterMap (·.filing? inst)

/--
The metadata of an instruction, none if there is no such instruction yet.
-/
def attachments (module : Module) (inst : InstId) : Metadata.Attachments :=
  (module.insts.get? inst).elim [] (·.attachments)

theorem attachments_of_pushInstruction {instruction : Instruction} {id : InstId}
    (h : module.pushInstruction instruction = .ok (id, next)) (hnone : instruction.attachments = []) :
    next.attachments inst = module.attachments inst := by
  rw [pushInstruction_eq_ok_iff] at h
  obtain ⟨blocks, _, h⟩ := h
  cases h
  unfold attachments Arena.get? Arena.alloc
  dsimp only
  rw [Array.getElem?_push]
  split
  . next heq => simp [heq, hnone]
  . rfl

theorem attachments_of_setMetadata {other : InstId} {kind : String} {node : Metadata.Node}
    (h : module.setMetadata other kind node = .ok next) :
    next.attachments inst =
      if other = inst then (module.attachments inst).set kind node
      else module.attachments inst := by
  rw [setMetadata_eq_ok_iff] at h
  obtain ⟨insts, hmodify, rfl⟩ := h
  unfold attachments
  rw [Arena.get?_of_modify hmodify]
  by_cases heq : other = inst
  . subst heq
    have hcontains := (Arena.modify_eq_ok_iff.mp hmodify).1
    rw [Arena.contains_iff_get?] at hcontains
    obtain ⟨data, hdata⟩ := hcontains
    simp [hdata]
  . simp [heq, Ne.symm heq]

theorem attachments_of_apply {step : BuildStep} {answer : BuildAnswer}
    (h : module.apply step = .ok (answer, next)) :
    next.attachments inst = (module.attachments inst).setAll (step.filing? inst).toList := by
  cases step with
  | file file | subprogram subprogram | constant constant =>
    cases h
    rfl
  | function name signature params =>
    rw [apply_function_eq_ok_iff] at h
    obtain ⟨_, _, _, _, _, rfl⟩ := h
    rfl
  | setSubprogram function subprogram =>
    rw [apply_setSubprogram_eq_ok_iff, setSubprogram_eq_ok_iff] at h
    obtain ⟨_, functions, _, rfl⟩ := h
    rfl
  | block function name =>
    simp only [apply_block_eq_ok_iff, addBlock_eq_ok_iff, Prod.mk.injEq] at h
    obtain ⟨_, ⟨_, _, functions, _, _, _, rfl⟩, _⟩ := h
    rfl
  | instruction parent opcode debugLoc | call parent callee debugLoc =>
    obtain ⟨_, _, rfl⟩ | ⟨_, id, hpush, _, hnone⟩ := inserted_of_apply h rfl
    . rfl
    . exact attachments_of_pushInstruction hpush hnone
  | metadata other kind node =>
    rw [apply_metadata_eq_ok_iff] at h
    rw [attachments_of_setMetadata h.2]
    simp only [BuildStep.filing?]
    split
    . rfl
    . rfl
  | global name ty =>
    rw [apply_global_eq_ok_iff] at h
    obtain ⟨_, _, _, _, rfl⟩ := h
    rfl

theorem filings_cons (inst : InstId) (step : BuildStep) (steps : List BuildStep) :
    filings inst (step :: steps) = (step.filing? inst).toList ++ filings inst steps := by
  unfold filings
  rw [List.filterMap_cons]
  cases step.filing? inst with
  | none => rfl
  | some filing => rfl

theorem attachments_of_build (h : (module.build steps).2 = .ok last) :
    last.attachments inst = (module.attachments inst).setAll (filings inst steps) := by
  induction steps generalizing module with
  | nil =>
    cases h
    rfl
  | cons step steps ih =>
    rw [build_cons_eq_ok_iff] at h
    obtain ⟨answer, next, happly, hrest⟩ := h
    rw [ih hrest]
    rw [attachments_of_apply happly]
    rw [filings_cons]
    rw [Metadata.Attachments.setAll_append]

theorem attachments_init {identifier : String} {filter : Filter} :
    attachments { identifier, filter } inst = [] := by
  unfold attachments
  rw [Arena.get?_empty]
  rfl

end Module

/--
The integer that a node starts with, 0 if there is no node or it starts with something else.
-/
def Metadata.cookie : Option Node → UInt64
  | some { operands := .int value :: _ } => value
  | _ => 0

theorem Metadata.getD_firstInt (node : Option Node) :
    (node.bind (·.firstInt)).getD 0 = cookie node := by
  cases node with
  | none => rfl
  | some node =>
    obtain ⟨operands⟩ := node
    cases operands with
    | nil => rfl
    | cons operand operands =>
      cases operand with
      | int value => rfl
      | text value => rfl

/--
How an inline assembly diagnostic shows its cookie.
-/
structure InlineAsm.ShowsCookie (module : Module) (diagnostic : InlineAsm) : Prop where
  shown_iff : (Diagnostic.inlineAsm diagnostic).text module =
    .ok (diagnostic.message ++ " at line " ++ diagnostic.cookie.toNat.repr) ↔ diagnostic.cookie ≠ 0
  hidden_iff : (Diagnostic.inlineAsm diagnostic).text module = .ok diagnostic.message ↔
    diagnostic.cookie = 0

theorem InlineAsm.text_eq (module : Module) (diagnostic : InlineAsm) :
    (Diagnostic.inlineAsm diagnostic).text module =
      .ok (diagnostic.message ++
        if diagnostic.cookie = 0 then "" else " at line " ++ diagnostic.cookie.toNat.repr) := by
  simp only [Diagnostic.text, Diagnostic.print, Diagnostic.fragments, InlineAsm.fragments]
  split
  . simp [Printer.fragments, Printer.fragment, bind, Except.bind, pure, Except.pure]
  . simp [Printer.fragments, Printer.fragment, Printer.plain, bind, Except.bind, pure, Except.pure]

theorem InlineAsm.showsCookie (module : Module) (diagnostic : InlineAsm) :
    diagnostic.ShowsCookie module := by
  have hne : diagnostic.message ≠
      diagnostic.message ++ " at line " ++ diagnostic.cookie.toNat.repr := by
    intro h
    have := congrArg String.length h
    have : " at line ".length = 9 := rfl
    simp only [String.length_append] at *
    omega
  constructor
  . rw [text_eq]
    by_cases h : diagnostic.cookie = 0
    . simpa [h] using hne
    . simp [h, String.append_assoc]
  . rw [text_eq]
    by_cases h : diagnostic.cookie = 0
    . simp [h]
    . simp only [h, ↓reduceIte, Except.ok.injEq, iff_false]
      rw [← String.append_assoc]
      exact hne.symm

namespace Module

variable {last : Module} {steps : List BuildStep} {inst : InstId}

/--
The node that was filed last under a kind for an instruction.
-/
def lastFiled? (inst : InstId) (kind : String) (steps : List BuildStep) : Option Metadata.Node :=
  (filings inst steps).reverse.lookup kind

/--
What is read of the metadata of an instruction after the given steps.
-/
structure MetadataReads (module : Module) (steps : List BuildStep) (inst : InstId) : Prop where
  last : ∀ kind, module.instMetadata inst kind = .ok (lastFiled? inst kind steps)
  /-- The kinds are stored in the order in which they came up, each of them once. -/
  stored : ∃ data, module.insts.read inst = .ok data ∧
    data.attachments.map (·.1) = ((filings inst steps).map (·.1)).eraseDups ∧
    (data.attachments.map (·.1)).Nodup
  inlineAsm : ∀ message severity, ∃ diagnostic,
    InlineAsm.ofInst module inst message severity = .ok diagnostic ∧
      diagnostic = {
        message, severity
        cookie := Metadata.cookie (lastFiled? inst "srcloc" steps)
        inst := some inst } ∧
      diagnostic.ShowsCookie module

theorem read_attachments_of_build {identifier : String} {filter : Filter}
    (h : (build { identifier, filter } steps).2 = .ok last) (hinst : last.insts.contains inst) :
    ∃ data, last.insts.read inst = .ok data ∧
      data.attachments = Metadata.Attachments.setAll [] (filings inst steps) := by
  rw [Arena.contains_iff_get?] at hinst
  obtain ⟨data, hdata⟩ := hinst
  refine ⟨data, Arena.read_eq_ok_iff.mpr hdata, ?_⟩
  have hattachments : last.attachments inst = data.attachments := by
    unfold attachments
    rw [hdata]
    rfl
  rw [← hattachments]
  rw [attachments_of_build h]
  rw [attachments_init]

/--
Whatever else was built in between, an instruction has the metadata that was filed for it last.
-/
theorem metadataReads_of_build {identifier : String} {filter : Filter}
    (h : (build { identifier, filter } steps).2 = .ok last) (hinst : last.insts.contains inst) :
    last.MetadataReads steps inst := by
  obtain ⟨data, hread, hdata⟩ := read_attachments_of_build h hinst
  have hlast : ∀ kind, last.instMetadata inst kind = .ok (lastFiled? inst kind steps) := by
    intro kind
    unfold instMetadata
    rw [hread]
    simp only [bind, Except.bind, pure, Except.pure]
    rw [hdata, Metadata.Attachments.find?_setAll]
    simp [lastFiled?, Metadata.Attachments.find?]
  refine ⟨hlast, ⟨data, hread, ?_, ?_⟩, ?_⟩
  . rw [hdata]
    apply Metadata.Attachments.kinds_setAll_nil
  . rw [hdata]
    apply Metadata.Attachments.nodup_kinds_setAll
    exact List.nodup_nil
  . intro message severity
    refine ⟨_, ?_, rfl, InlineAsm.showsCookie _ _⟩
    unfold InlineAsm.ofInst InlineAsm.cookieKind
    rw [hlast]
    simp only [bind, Except.bind, pure, Except.pure]
    rw [Metadata.getD_firstInt]

def filedInTurns : List BuildStep :=
  [.function "f" ⟨.void, [], false⟩ [],
   .block ⟨0⟩ none,
   .call ⟨0⟩ (.indirect ⟨.void, [], false⟩) none,
   .metadata ⟨0⟩ "srcloc" ⟨[.int 1]⟩,
   .metadata ⟨0⟩ "prof" ⟨[.text "hot"]⟩,
   .call ⟨0⟩ (.indirect ⟨.void, [], false⟩) none,
   .metadata ⟨1⟩ "srcloc" ⟨[.int 9]⟩,
   .metadata ⟨0⟩ "srcloc" ⟨[.int 311, .int 2]⟩,
   .global "srcloc" .ptr,
   .metadata ⟨1⟩ "srcloc" ⟨[.text "9"]⟩]

/--
Two instructions have nodes of one kind in turns. The last node of the second one has no integer.
-/
theorem metadataReads_of_build_inTurns :
    ∃ module, (build { identifier := "m" } filedInTurns).2 = .ok module ∧
      module.insts.contains ⟨0⟩ ∧
      module.instMetadata ⟨0⟩ "srcloc" = .ok (some ⟨[.int 311, .int 2]⟩) ∧
      InlineAsm.ofInst module ⟨1⟩ "bad" .error =
        .ok { message := "bad", severity := .error, cookie := 0, inst := some ⟨1⟩ } ∧
      module.MetadataReads filedInTurns ⟨0⟩ := by
  obtain ⟨module, h, hinst, hnode, hasm⟩ :
      Answers (build { identifier := "m" } filedInTurns).2 fun module =>
        module.insts.contains ⟨0⟩ ∧
          module.instMetadata ⟨0⟩ "srcloc" = .ok (some ⟨[.int 311, .int 2]⟩) ∧
          InlineAsm.ofInst module ⟨1⟩ "bad" .error =
            .ok { message := "bad", severity := .error, cookie := 0, inst := some ⟨1⟩ } := by
    decide +kernel
  exact ⟨module, h, hinst, hnode, hasm, metadataReads_of_build h hinst⟩

end Module

end IRDiagnostics
