import IRDiagnostics.Module.Read
import IRDiagnostics.Proofs.Module.Steps

/-!
This module contains the agreement between the two sides on which ownership is recorded: an owner
lists what belongs to it and an item names its owner. Functions own blocks and blocks own
instructions, and every module that is built from an empty one keeps both pairs in agreement.
-/

namespace IRDiagnostics

def Arena.listOf (owners : Arena ω α) (listed : α → List (Id ι)) (owner : Id ω) : List (Id ι) :=
  (owners.get? owner).elim [] listed

/--
The items an owner lists are exactly the stored ones that name it, each once and oldest first.
-/
structure Owns (owners : Arena ω α) (items : Arena ι β) (listed : α → List (Id ι))
    (parent : β → Id ω) : Prop where
  mem_listOf_iff : ∀ (owner : Id ω) (id : Id ι),
    id ∈ owners.listOf listed owner ↔ (items.get? id).map parent = some owner
  ascending : ∀ (owner : Id ω), (owners.listOf listed owner).Pairwise (·.index < ·.index)

theorem Arena.listOf_eq_of_modify {owners owners' : Arena ω α} {listed : α → List (Id ι)}
    {owner : Id ω} {f : α → α} (h : owners.modify owner f = .ok owners')
    (hf : ∀ data, listed (f data) = listed data) (other : Id ω) :
    owners'.listOf listed other = owners.listOf listed other := by
  unfold listOf
  rw [get?_of_modify h]
  split
  . cases owners.get? other with
    | none => rfl
    | some data => exact hf data
  . rfl

theorem Arena.listOf_append_of_modify {owners owners' : Arena ω α} {listed : α → List (Id ι)}
    {owner : Id ω} {f : α → α} {new : Id ι} (h : owners.modify owner f = .ok owners')
    (hf : ∀ data, listed (f data) = listed data ++ [new]) (other : Id ω) :
    owners'.listOf listed other =
      owners.listOf listed other ++ if other = owner then [new] else [] := by
  unfold listOf
  rw [get?_of_modify h]
  split
  . next hother =>
    subst hother
    rw [modify_eq_ok_iff, contains_iff_get?] at h
    obtain ⟨⟨data, hdata⟩, _⟩ := h
    rw [hdata]
    exact hf data
  . simp

theorem Arena.listOf_alloc {owners : Arena ω α} {listed : α → List (Id ι)} {data : α}
    (hdata : listed data = []) (hsize : owners.size < UInt32.size) (owner : Id ω) :
    (owners.alloc data).2.listOf listed owner = owners.listOf listed owner := by
  unfold listOf
  rw [get?_alloc data owner hsize]
  split
  . next howner =>
    subst howner
    rw [get?_nextId hsize]
    exact hdata
  . rfl

theorem Arena.contains_of_mem_listOf {owners : Arena ω α} {listed : α → List (Id ι)} {owner : Id ω}
    {id : Id ι} (hid : id ∈ owners.listOf listed owner) : owners.contains owner := by
  rw [contains_iff_get?]
  unfold listOf at hid
  cases hdata : owners.get? owner with
  | none => simp [hdata] at hid
  | some data => exact ⟨data, rfl⟩

namespace Owns

variable {owners owners' : Arena ω α} {items items' : Arena ι β} {listed : α → List (Id ι)}
  {parent : β → Id ω}

theorem empty : Owns (.empty : Arena ω α) (.empty : Arena ι β) listed parent where
  mem_listOf_iff := by simp [Arena.listOf, Arena.get?_empty]
  ascending := by simp [Arena.listOf, Arena.get?_empty]

theorem contains_item_of_mem_listOf (h : Owns owners items listed parent) {owner : Id ω} {id : Id ι}
    (hid : id ∈ owners.listOf listed owner) : items.contains id := by
  rw [h.mem_listOf_iff, Option.map_eq_some_iff] at hid
  obtain ⟨item, hitem, _⟩ := hid
  rw [Arena.contains_iff_get?]
  exact ⟨item, hitem⟩

theorem of_listOf_eq (h : Owns owners items listed parent)
    (hlist : ∀ owner, owners'.listOf listed owner = owners.listOf listed owner) :
    Owns owners' items listed parent where
  mem_listOf_iff owner id := by
    rw [hlist]
    exact h.mem_listOf_iff owner id
  ascending owner := by
    rw [hlist]
    exact h.ascending owner

theorem modifyItem (h : Owns owners items listed parent) {id : Id ι} {f : β → β}
    (hmodify : items.modify id f = .ok items') (hf : ∀ item, parent (f item) = parent item) :
    Owns owners items' listed parent where
  mem_listOf_iff owner other := by
    rw [h.mem_listOf_iff owner other]
    rw [Arena.get?_of_modify hmodify]
    split
    . simp [Function.comp_def, hf]
    . rfl
  ascending := h.ascending

theorem append (h : Owns owners items listed parent) {item : β} {f : α → α}
    (hmodify : owners.modify (parent item) f = .ok owners')
    (hf : ∀ data, listed (f data) = listed data ++ [items.nextId])
    (hsize : items.size < UInt32.size) : Owns owners' (items.alloc item).2 listed parent where
  mem_listOf_iff owner id := by
    rw [Arena.listOf_append_of_modify hmodify hf]
    rw [Arena.get?_alloc item id hsize]
    rw [List.mem_append]
    rw [h.mem_listOf_iff]
    by_cases hid : id = items.nextId
    . subst hid
      rw [Arena.get?_nextId hsize]
      by_cases howner : owner = parent item
      . simp [howner]
      . simp [howner, Ne.symm howner]
    . by_cases howner : owner = parent item
      . simp [howner, hid]
      . simp [howner, hid]
  ascending owner := by
    rw [Arena.listOf_append_of_modify hmodify hf]
    rw [List.pairwise_append]
    refine ⟨h.ascending owner, by split <;> simp, ?_⟩
    intro id hid new hnew
    -- What is listed was issued before and has a smaller id.
    have hlt := h.contains_item_of_mem_listOf hid
    rw [Arena.contains_iff] at hlt
    split at hnew
    . rw [List.mem_singleton.mp hnew]
      rw [Arena.nextId_index hsize]
      exact hlt
    . simp at hnew

theorem count_listOf (h : Owns owners items listed parent) {owner : Id ω} {id : Id ι}
    (hid : id ∈ owners.listOf listed owner) : (owners.listOf listed owner).count id = 1 := by
  have hnodup : (owners.listOf listed owner).Nodup := by
    apply (h.ascending owner).imp
    intro a b hlt heq
    rw [heq] at hlt
    omega
  rw [hnodup.count]
  simp [hid]

theorem owner_unique (h : Owns owners items listed parent) {owner other : Id ω} {id : Id ι}
    (howner : id ∈ owners.listOf listed owner) (hother : id ∈ owners.listOf listed other) :
    other = owner := by
  rw [h.mem_listOf_iff] at howner hother
  rw [howner] at hother
  exact (Option.some.inj hother).symm

theorem head?_listOf_eq_some_iff (h : Owns owners items listed parent) {owner : Id ω} {id : Id ι} :
    (owners.listOf listed owner).head? = some id ↔
      id ∈ owners.listOf listed owner ∧
        ∀ other ∈ owners.listOf listed owner, id.index ≤ other.index := by
  have hasc := h.ascending owner
  cases hlist : owners.listOf listed owner with
  | nil => simp
  | cons first rest =>
    rw [hlist, List.pairwise_cons] at hasc
    simp only [List.head?_cons, Option.some.injEq, List.mem_cons]
    constructor
    . intro hfirst
      subst hfirst
      refine ⟨.inl rfl, ?_⟩
      intro other hother
      cases hother with
      | inl heq => exact Nat.le_of_eq (by rw [heq])
      | inr hmem => exact Nat.le_of_lt (hasc.1 other hmem)
    . intro ⟨hmem, hle⟩
      cases hmem with
      | inl heq => exact heq.symm
      | inr hmem =>
        have := hle first (.inl rfl)
        have := hasc.1 id hmem
        omega

end Owns

theorem Arena.read_listed_eq_ok_iff {owners : Arena ω α} {listed : α → List (Id ι)} {owner : Id ω}
    {ids : List (Id ι)} :
    (do return listed (← owners.read owner)) = Except.ok ids ↔
      owners.contains owner ∧ owners.listOf listed owner = ids := by
  simp only [Except.bind_eq_ok_iff, read_eq_ok_iff, contains_iff_get?, listOf, pure, Except.pure,
    Except.ok.injEq]
  constructor
  . rintro ⟨data, hdata, rfl⟩
    simp [hdata]
  . rintro ⟨⟨data, hdata⟩, rfl⟩
    simp [hdata]

theorem Arena.read_parent_eq_ok_iff {items : Arena ι β} {parent : β → Id ω} {id : Id ι}
    {owner : Id ω} :
    (do return parent (← items.read id)) = Except.ok owner ↔
      (items.get? id).map parent = some owner := by
  simp [Except.bind_eq_ok_iff, read_eq_ok_iff, pure, Except.pure]

/--
What reading shows of an ownership: `list` gives the items of an owner and `parent` the owner of an
item. Both fail for ids that were not issued.
-/
structure ReadsAgree (items : Arena ι β) (list : Id ω → Except Fault (List (Id ι)))
    (parent : Id ι → Except Fault (Id ω)) : Prop where
  mem_list_iff : ∀ (owner : Id ω) (id : Id ι),
    (∃ ids, list owner = .ok ids ∧ id ∈ ids) ↔ items.contains id ∧ parent id = .ok owner
  ascending : ∀ (owner : Id ω) (ids : List (Id ι)),
    list owner = .ok ids → ids.Pairwise (·.index < ·.index)
  listed_once : ∀ (id : Id ι), items.contains id →
    ∃ owner ids, list owner = .ok ids ∧ ids.count id = 1 ∧
      ∀ other others, list other = .ok others → id ∈ others → other = owner

namespace Owns

variable {owners : Arena ω α} {items : Arena ι β} {listed : α → List (Id ι)} {parent : β → Id ω}

theorem readsAgree (h : Owns owners items listed parent) :
    ReadsAgree items (fun owner => do return listed (← owners.read owner))
      (fun id => do return parent (← items.read id)) where
  mem_list_iff owner id := by
    simp only [Arena.read_listed_eq_ok_iff, Arena.read_parent_eq_ok_iff]
    constructor
    . rintro ⟨ids, ⟨_, rfl⟩, hid⟩
      exact ⟨h.contains_item_of_mem_listOf hid, (h.mem_listOf_iff owner id).mp hid⟩
    . rintro ⟨_, hparent⟩
      have hid := (h.mem_listOf_iff owner id).mpr hparent
      exact ⟨_, ⟨Arena.contains_of_mem_listOf hid, rfl⟩, hid⟩
  ascending owner ids hids := by
    rw [Arena.read_listed_eq_ok_iff] at hids
    rw [← hids.2]
    exact h.ascending owner
  listed_once id hcontains := by
    rw [Arena.contains_iff_get?] at hcontains
    obtain ⟨item, hitem⟩ := hcontains
    have hid : id ∈ owners.listOf listed (parent item) := by
      rw [h.mem_listOf_iff]
      rw [hitem]
      rfl
    simp only [Arena.read_listed_eq_ok_iff]
    refine ⟨parent item, _, ⟨Arena.contains_of_mem_listOf hid, rfl⟩, h.count_listOf hid, ?_⟩
    rintro other others ⟨_, rfl⟩ hother
    exact h.owner_unique hid hother

end Owns

namespace Module

/--
Functions and their blocks, and blocks and their instructions, agree about who owns what.
-/
structure Nested (module : Module) : Prop where
  blocks : Owns module.functions module.blocks Function.blocks Block.parent
  insts : Owns module.blocks module.insts Block.insts Instruction.parent

theorem nested_init (identifier : String) (filter : Filter) :
    Nested { identifier, filter } where
  blocks := Owns.empty
  insts := Owns.empty

theorem Nested.addBlock {module : Module} (h : module.Nested) {function : FunctionId}
    {name : Option String} {result : BlockId × Module}
    (hadd : module.addBlock function name = .ok result) (hsize : module.Addressable) :
    result.2.Nested := by
  rw [addBlock_eq_ok_iff] at hadd
  obtain ⟨_, _, functions, _, hfunctions, rfl⟩ := hadd
  constructor
  . apply h.blocks.append hfunctions
    . intro data
      rfl
    . exact hsize.blocks
  . apply h.insts.of_listOf_eq
    apply Arena.listOf_alloc
    . rfl
    . exact hsize.blocks

theorem Nested.pushInstruction {module : Module} (h : module.Nested) {instruction : Instruction}
    {result : InstId × Module} (hpush : module.pushInstruction instruction = .ok result)
    (hsize : module.Addressable) : result.2.Nested := by
  rw [pushInstruction_eq_ok_iff] at hpush
  obtain ⟨blocks, hblocks, rfl⟩ := hpush
  constructor
  . apply h.blocks.modifyItem hblocks
    intro data
    rfl
  . apply h.insts.append hblocks
    . intro data
      rfl
    . exact hsize.insts

theorem Nested.apply {module next : Module} (h : module.Nested) {step : BuildStep}
    {answer : BuildAnswer} (hstep : module.apply step = .ok (answer, next))
    (hsize : module.Addressable) : next.Nested := by
  cases step with
  | file file | subprogram subprogram | constant constant =>
    cases hstep
    exact ⟨h.blocks, h.insts⟩
  | function name signature params =>
    rw [apply_function_eq_ok_iff] at hstep
    obtain ⟨_, _, _, _, _, rfl⟩ := hstep
    constructor
    . apply h.blocks.of_listOf_eq
      apply Arena.listOf_alloc
      . rfl
      . exact hsize.functions
    . exact h.insts
  | setSubprogram function subprogram =>
    rw [apply_setSubprogram_eq_ok_iff, setSubprogram_eq_ok_iff] at hstep
    obtain ⟨_, functions, hfunctions, rfl⟩ := hstep
    constructor
    . apply h.blocks.of_listOf_eq
      apply Arena.listOf_eq_of_modify hfunctions
      intro data
      rfl
    . exact h.insts
  | block function name =>
    rw [apply_block_eq_ok_iff] at hstep
    obtain ⟨id, hadd, _⟩ := hstep
    exact h.addBlock hadd hsize
  | instruction parent opcode debugLoc | call parent callee debugLoc =>
    obtain ⟨_, _, rfl⟩ | ⟨_, id, hpush, _⟩ := inserted_of_apply hstep rfl
    . exact h
    . exact h.pushInstruction hpush hsize
  | metadata inst kind node =>
    rw [apply_metadata_eq_ok_iff, setMetadata_eq_ok_iff] at hstep
    obtain ⟨_, insts, hinsts, rfl⟩ := hstep
    constructor
    . exact h.blocks
    . apply h.insts.modifyItem hinsts
      intro data
      rfl
  | global name ty =>
    rw [apply_global_eq_ok_iff] at hstep
    obtain ⟨_, _, _, _, rfl⟩ := hstep
    exact ⟨h.blocks, h.insts⟩

theorem nested_of_build {identifier : String} {filter : Filter} {steps : List BuildStep}
    {module : Module} (h : (build { identifier, filter } steps).2 = .ok module)
    (hsize : module.Addressable) : module.Nested := by
  apply build_induction (P := Nested) _ h hsize (nested_init identifier filter)
  intro module step answer next hstep hnext hnested
  exact hnested.apply hstep (addressable_of_apply hstep hnext)

/--
What reading a module shows of who owns what.
-/
structure OwnersAgree (module : Module) : Prop where
  blocks : ReadsAgree module.blocks module.functionBlocks module.blockParent
  insts : ReadsAgree module.insts module.blockInsts module.instParent
  /-- An instruction is found in its block, and its block in its function. -/
  enclosed : ∀ inst, module.insts.contains inst →
    ∃ block insts function blocks,
      module.instParent inst = .ok block ∧
      module.blockInsts block = .ok insts ∧ inst ∈ insts ∧
      module.instFunction inst = .ok function ∧
      module.functionBlocks function = .ok blocks ∧ block ∈ blocks
  /-- The entry block is the oldest block of the function. -/
  firstBlock : ∀ function, module.functions.contains function →
    ∃ first, module.firstBlock function = .ok first ∧
      (first = none ↔ ∀ block, module.blockParent block ≠ .ok function) ∧
      ∀ block, first = some block ↔
        module.blockParent block = .ok function ∧
          ∀ other, module.blockParent other = .ok function → block.index ≤ other.index

theorem Nested.enclosed {module : Module} (h : module.Nested) {inst : InstId}
    (hinst : module.insts.contains inst) :
    ∃ block insts function blocks,
      module.instParent inst = .ok block ∧
      module.blockInsts block = .ok insts ∧ inst ∈ insts ∧
      module.instFunction inst = .ok function ∧
      module.functionBlocks function = .ok blocks ∧ block ∈ blocks := by
  have hblocks : ReadsAgree module.blocks module.functionBlocks module.blockParent :=
    h.blocks.readsAgree
  have hinsts : ReadsAgree module.insts module.blockInsts module.instParent := h.insts.readsAgree
  obtain ⟨block, insts, hlist, hcount, _⟩ := hinsts.listed_once inst hinst
  have hmem : inst ∈ insts := List.count_pos_iff.mp (by omega)
  have hparent := ((hinsts.mem_list_iff block inst).mp ⟨insts, hlist, hmem⟩).2
  have hblock := (Arena.read_listed_eq_ok_iff.mp hlist).1
  obtain ⟨function, blocks, hlist', hcount', _⟩ := hblocks.listed_once block hblock
  have hmem' : block ∈ blocks := List.count_pos_iff.mp (by omega)
  have hparent' := ((hblocks.mem_list_iff function block).mp ⟨blocks, hlist', hmem'⟩).2
  refine ⟨block, insts, function, blocks, hparent, hlist, hmem, ?_, hlist', hmem'⟩
  unfold instFunction
  rw [hparent]
  exact hparent'

theorem Nested.firstBlock {module : Module} (h : module.Nested) {function : FunctionId}
    (hfunction : module.functions.contains function) :
    ∃ first, module.firstBlock function = .ok first ∧
      (first = none ↔ ∀ block, module.blockParent block ≠ .ok function) ∧
      ∀ block, first = some block ↔
        module.blockParent block = .ok function ∧
          ∀ other, module.blockParent other = .ok function → block.index ≤ other.index := by
  have hmem : ∀ block, module.blockParent block = .ok function ↔
      block ∈ module.functions.listOf Function.blocks function := by
    intro block
    rw [h.blocks.mem_listOf_iff]
    exact Arena.read_parent_eq_ok_iff
  have hlist : module.functionBlocks function =
      .ok (module.functions.listOf Function.blocks function) :=
    Arena.read_listed_eq_ok_iff.mpr ⟨hfunction, rfl⟩
  refine ⟨(module.functions.listOf Function.blocks function).head?, ?_, ?_, ?_⟩
  . unfold Module.firstBlock
    rw [hlist]
    rfl
  . simp only [hmem, ne_eq, List.head?_eq_none_iff]
    exact List.eq_nil_iff_forall_not_mem
  . intro block
    simp only [hmem]
    exact h.blocks.head?_listOf_eq_some_iff

/--
Every module that is built from an empty one, refused steps included, reads the same from either
side of an ownership.
-/
theorem ownersAgree_of_build {identifier : String} {filter : Filter} {steps : List BuildStep}
    {module : Module} (h : (build { identifier, filter } steps).2 = .ok module)
    (hsize : module.Addressable) : module.OwnersAgree := by
  have hnested := nested_of_build h hsize
  constructor
  . exact hnested.blocks.readsAgree
  . exact hnested.insts.readsAgree
  . intro inst
    exact hnested.enclosed
  . intro function
    exact hnested.firstBlock

def interleavedSteps : List BuildStep :=
  [.function "f" ⟨.void, [], false⟩ [],
   .function "g" ⟨.void, [], false⟩ [],
   .block ⟨1⟩ none,
   .block ⟨0⟩ (some "entry"),
   .instruction ⟨1⟩ .load none,
   .instruction ⟨0⟩ .call none,
   .block ⟨1⟩ (some "exit"),
   .call ⟨2⟩ (.direct ⟨7⟩) none,
   .call ⟨0⟩ (.direct ⟨0⟩) none,
   .instruction ⟨1⟩ .ret none,
   .metadata ⟨2⟩ "srcloc" {}]

theorem ownersAgree_of_build_interleaved :
    ∃ module, (build { identifier := "m" } interleavedSteps).2 = .ok module ∧
      module.Addressable ∧ module.blocks.size = 3 ∧ module.insts.size = 3 ∧
      module.OwnersAgree := by
  obtain ⟨module, h, hsize, hblocks, hinsts⟩ :
      Answers (build { identifier := "m" } interleavedSteps).2 fun module =>
        module.Addressable ∧ module.blocks.size = 3 ∧ module.insts.size = 3 := by decide +kernel
  exact ⟨module, h, hsize, hblocks, hinsts, ownersAgree_of_build h hsize⟩

end Module

end IRDiagnostics
