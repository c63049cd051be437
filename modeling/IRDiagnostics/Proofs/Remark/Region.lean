import IRDiagnostics.Proofs.Arena
import IRDiagnostics.Proofs.Module.Ownership
import IRDiagnostics.Proofs.Remark.Run

/-!
This module contains the agreement between the function and the region of a remark. The makers of
remarks come to the two in different ways: from a block to its function, from an instruction to its
block and on to the function, or from a function to its first block. In a module that is built from
an empty one, all of them end up with a block of the function.
-/

namespace IRDiagnostics

namespace Module

variable {module : Module}

theorem contains_of_blockParent {block : BlockId} {function : FunctionId}
    (h : module.blockParent block = .ok function) : module.blocks.contains block := by
  unfold blockParent at h
  exact Arena.contains_of_read_bind h

theorem contains_of_instParent {inst : InstId} {block : BlockId}
    (h : module.instParent inst = .ok block) : module.insts.contains inst := by
  unfold instParent at h
  exact Arena.contains_of_read_bind h

theorem Nested.mem_functionBlocks (h : module.Nested) {block : BlockId} {function : FunctionId}
    (hparent : module.blockParent block = .ok function) :
    ∃ blocks, module.functionBlocks function = .ok blocks ∧ block ∈ blocks := by
  have hblocks : ReadsAgree module.blocks module.functionBlocks module.blockParent :=
    h.blocks.readsAgree
  rw [hblocks.mem_list_iff]
  exact ⟨contains_of_blockParent hparent, hparent⟩

theorem Nested.mem_blockInsts (h : module.Nested) {inst : InstId} {block : BlockId}
    (hparent : module.instParent inst = .ok block) :
    ∃ insts, module.blockInsts block = .ok insts ∧ inst ∈ insts := by
  have hinsts : ReadsAgree module.insts module.blockInsts module.instParent := h.insts.readsAgree
  rw [hinsts.mem_list_iff]
  exact ⟨contains_of_instParent hparent, hparent⟩

theorem Nested.blockParent_of_mem (h : module.Nested) {block : BlockId} {function : FunctionId}
    {blocks : List BlockId} (hread : module.functionBlocks function = .ok blocks)
    (hblock : block ∈ blocks) : module.blockParent block = .ok function := by
  have hblocks : ReadsAgree module.blocks module.functionBlocks module.blockParent :=
    h.blocks.readsAgree
  exact ((hblocks.mem_list_iff function block).mp ⟨blocks, hread, hblock⟩).2

theorem firstBlock_eq_ok_iff {function : FunctionId} {first : Option BlockId} :
    module.firstBlock function = .ok first ↔
      ∃ blocks, module.functionBlocks function = .ok blocks ∧ blocks.head? = first := by
  unfold firstBlock
  simp [Except.bind_eq_ok_iff, pure, Except.pure]

end Module

namespace Remark

variable {module : Module} {category : Category} {pass name : String} {made : Remark}

/--
What the function, the region and the kind of a remark have to do with each other and with what the
remark was made about.
-/
structure Anchored (module : Module) (origin : Origin) (remark : Remark) : Prop where
  parent : ∀ block, remark.region = some block →
    module.blockParent block = .ok remark.located.function
  listed : ∀ block, remark.region = some block →
    ∃ blocks, module.functionBlocks remark.located.function = .ok blocks ∧ block ∈ blocks
  region_eq_none_iff : remark.region = none ↔
    ∃ category function, origin = .function category function ∧
      module.functionBlocks function = .ok []
  inst : ∀ category inst, origin = .inst category inst →
    ∃ block insts, remark.region = some block ∧ module.blockInsts block = .ok insts ∧ inst ∈ insts
  kindAccepted : remark.category.accepts remark.located.kind

theorem Anchored.run {origin : Origin} (h : Anchored module origin made) (steps : List Step) :
    Anchored module origin (made.run steps) := by
  rw [run_eq]
  exact ⟨h.parent, h.listed, h.region_eq_none_iff, h.inst, h.kindAccepted⟩

/--
Such a remark is about a block, whatever way the block was named.
-/
theorem anchored_of_withKind (hnested : module.Nested) {kind : Kind} {severity : Severity}
    {location : Location} {region : BlockId} {origin : Origin}
    (hfunction : ∀ category function, origin ≠ .function category function)
    (hinst : ∀ category inst, origin ≠ .inst category inst)
    (h : withKind module kind severity category pass name location region = .ok made) :
    Anchored module origin made := by
  rw [withKind_eq_ok_iff] at h
  obtain ⟨hkind, function, hparent, rfl⟩ := h
  constructor
  . intro block hblock
    cases hblock
    exact hparent
  . intro block hblock
    cases hblock
    exact hnested.mem_functionBlocks hparent
  . simp [hfunction]
  . intro category inst horigin
    exact absurd horigin (hinst category inst)
  . exact hkind

theorem anchored_of_ofInst (hnested : module.Nested) {inst : InstId}
    (h : ofInst module category pass name inst = .ok made) :
    Anchored module (.inst category inst) made := by
  rw [ofInst_eq_ok_iff] at h
  obtain ⟨function, location, region, hfunction, _, hregion, rfl⟩ := h
  have hparent : module.blockParent region = .ok function := by
    unfold Module.instFunction at hfunction
    rw [hregion] at hfunction
    exact hfunction
  constructor
  . intro block hblock
    cases hblock
    exact hparent
  . intro block hblock
    cases hblock
    exact hnested.mem_functionBlocks hparent
  . simp
  . intro _ other horigin
    cases horigin
    obtain ⟨insts, hinsts, hmem⟩ := hnested.mem_blockInsts hregion
    exact ⟨region, insts, rfl, hinsts, hmem⟩
  . exact category.accepts_defaultKind

theorem anchored_of_ofFunction (hnested : module.Nested) {function : FunctionId}
    (h : ofFunction module category pass name function = .ok made) :
    Anchored module (.function category function) made := by
  rw [ofFunction_eq_ok_iff] at h
  obtain ⟨location, region, _, hfirst, rfl⟩ := h
  rw [Module.firstBlock_eq_ok_iff] at hfirst
  obtain ⟨blocks, hblocks, hregion⟩ := hfirst
  constructor
  . intro block hblock
    apply hnested.blockParent_of_mem hblocks
    apply List.mem_of_mem_head?
    rw [hregion]
    exact hblock
  . intro block hblock
    refine ⟨blocks, hblocks, ?_⟩
    apply List.mem_of_mem_head?
    rw [hregion]
    exact hblock
  . -- The first of the blocks is missing only if there are none.
    rw [← hregion, List.head?_eq_none_iff]
    constructor
    . rintro rfl
      exact ⟨category, function, rfl, hblocks⟩
    . rintro ⟨_, _, horigin, hnone⟩
      cases horigin
      rw [hblocks] at hnone
      exact Except.ok.inj hnone
  . intro _ inst horigin
    contradiction
  . exact category.accepts_defaultKind

theorem anchored_of_make (hnested : module.Nested) {origin : Origin}
    (h : make module pass name origin = .ok made) : Anchored module origin made := by
  obtain ⟨hinst, hfunction, kind, severity, category, location, region, hmade⟩ |
    ⟨category, inst, rfl, hmade⟩ | ⟨category, function, rfl, hmade⟩ := make_cases h
  . exact anchored_of_withKind hnested hfunction hinst hmade
  . exact anchored_of_ofInst hnested hmade
  . exact anchored_of_ofFunction hnested hmade

/--
Every remark about a module that is built from an empty one is about a block of its function,
whatever is done to the remark later.
-/
theorem anchored_run_of_make {identifier : String} {filter : Filter}
    {buildSteps : List BuildStep}
    (hbuild : (Module.build { identifier, filter } buildSteps).2 = .ok module)
    (hsize : module.Addressable) {origin : Origin}
    (h : make module pass name origin = .ok made) (steps : List Step) :
    Anchored module origin (made.run steps) := by
  have hnested := Module.nested_of_build hbuild hsize
  apply Anchored.run
  exact anchored_of_make hnested h

def twoFunctions : List BuildStep :=
  [.function "f" ⟨.void, [], false⟩ [],
   .function "g" ⟨.void, [], false⟩ [],
   .block ⟨1⟩ none,
   .block ⟨0⟩ none,
   .block ⟨1⟩ none,
   .instruction ⟨2⟩ .ret none]

/--
The instruction is in the second block of the second function, which is the third block of all.
-/
theorem anchored_run_of_make_secondBlock :
    ∃ module made, (Module.build { identifier := "m" } twoFunctions).2 = .ok module ∧
      module.Addressable ∧ make module "gvn" "Load" (.inst .missed ⟨0⟩) = .ok made ∧
      made.located.function = ⟨1⟩ ∧ made.region = some ⟨2⟩ ∧
      Anchored module (.inst .missed ⟨0⟩) (made.run [.setVerbose, .markExtraArgs]) := by
  obtain ⟨module, hbuild, hsize, made, hmade, hfunction, hregion⟩ :
      Answers (Module.build { identifier := "m" } twoFunctions).2 fun module =>
        module.Addressable ∧
          Answers (make module "gvn" "Load" (.inst .missed ⟨0⟩)) fun made =>
            made.located.function = ⟨1⟩ ∧ made.region = some ⟨2⟩ := by decide +kernel
  exact ⟨module, made, hbuild, hsize, hmade, hfunction, hregion,
    anchored_run_of_make hbuild hsize hmade _⟩

end Remark

end IRDiagnostics
