import IRDiagnostics.Fault

/-!
This module contains the append-only storage of a module's entities. An `Arena` hands out an `Id`
for every item it stores and never moves or drops an item, so what was read through an id once is
read through it ever after, as long as the 32 bits of an id can count the items.
-/

namespace IRDiagnostics

/--
The sorts of things a module owns, each kept in an arena of its own.
-/
inductive Entity where
  | function
  | block
  | instruction
  | global
  | constant
  | file
  | subprogram
  deriving DecidableEq

/--
A reference to an item of the arena for `ε`.
-/
structure Id (ε : Entity) where
  raw : UInt32
  deriving DecidableEq

abbrev FunctionId := Id .function
abbrev BlockId := Id .block
abbrev InstId := Id .instruction
abbrev GlobalId := Id .global
abbrev ConstantId := Id .constant
abbrev FileId := Id .file
abbrev SubprogramId := Id .subprogram

/--
The position an id stands for.
-/
def Id.index (id : Id ε) : Nat := id.raw.toNat

theorem Id.index_inj {a b : Id ε} : a.index = b.index ↔ a = b := by
  cases a
  cases b
  simp [Id.index, UInt32.toNat_inj]

structure Arena (ε : Entity) (α : Type) where
  items : Array α := #[]
  deriving DecidableEq

namespace Arena

variable {ε : Entity} {α : Type}

def empty : Arena ε α := {}

def size (arena : Arena ε α) : Nat := arena.items.size

def isEmpty (arena : Arena ε α) : Bool := arena.items.isEmpty

/--
Ids count the items from zero and are cut to 32 bits.
-/
def nextId (arena : Arena ε α) : Id ε := ⟨UInt32.ofNat arena.size⟩

/--
Store an item and return the id it was given.
-/
def alloc (arena : Arena ε α) (item : α) : Id ε × Arena ε α :=
  (arena.nextId, ⟨arena.items.push item⟩)

/--
Whether `id` was issued by `arena`.
-/
def contains (arena : Arena ε α) (id : Id ε) : Bool := id.index < arena.size

@[simp]
theorem contains_iff {arena : Arena ε α} {id : Id ε} :
    arena.contains id ↔ id.index < arena.size := by
  simp [contains]

def get? (arena : Arena ε α) (id : Id ε) : Option α := arena.items[id.index]?

/--
The item of `id`, or the fault of reading through an id that was never issued.
-/
def read (arena : Arena ε α) (id : Id ε) : Except Fault α :=
  match arena.get? id with
  | some item => .ok item
  | none => .error (.outOfBounds arena.size id.index)

/--
Replace the item of `id` by its image under `f`.
-/
def modify (arena : Arena ε α) (id : Id ε) (f : α → α) : Except Fault (Arena ε α) :=
  if arena.contains id then
    .ok ⟨arena.items.modify id.index f⟩
  else
    .error (.outOfBounds arena.size id.index)

/--
All items with their ids, oldest first.
-/
def toList (arena : Arena ε α) : List (Id ε × α) :=
  arena.items.toList.zipIdx.map fun (item, idx) => (⟨UInt32.ofNat idx⟩, item)

theorem nextId_index {arena : Arena ε α} (h : arena.size < UInt32.size) :
    arena.nextId.index = arena.size := by
  simp only [nextId, Id.index]
  exact UInt32.toNat_ofNat_of_lt' h

@[simp]
theorem size_alloc (arena : Arena ε α) (item : α) : (arena.alloc item).2.size = arena.size + 1 := by
  simp [alloc, size]

theorem get?_alloc_self {arena : Arena ε α} (item : α) (h : arena.size < UInt32.size) :
    (arena.alloc item).2.get? (arena.alloc item).1 = some item := by
  have := nextId_index h
  simp only [get?, alloc, this]
  simp [size]

theorem get?_alloc_of_contains {arena : Arena ε α} {id : Id ε} (item : α) (h : arena.contains id) :
    (arena.alloc item).2.get? id = arena.get? id := by
  have : id.index < arena.items.size := contains_iff.mp h
  simp [get?, alloc, Array.getElem?_push, Nat.ne_of_lt this]

theorem get?_eq_none_iff {arena : Arena ε α} {id : Id ε} :
    arena.get? id = none ↔ ¬ arena.contains id := by
  simp [get?, size]

theorem contains_iff_get? {arena : Arena ε α} {id : Id ε} :
    arena.contains id ↔ ∃ item, arena.get? id = some item := by
  simp [get?, size, ← Option.isSome_iff_exists]

theorem read_eq_ok_iff {arena : Arena ε α} {id : Id ε} {item : α} :
    arena.read id = .ok item ↔ arena.get? id = some item := by
  unfold read
  split
  . next h => simp [h]
  . next h => simp [h]

theorem get?_empty (id : Id ε) : (empty : Arena ε α).get? id = none := by
  simp [get?, empty]

theorem get?_nextId {arena : Arena ε α} (h : arena.size < UInt32.size) :
    arena.get? arena.nextId = none := by
  rw [get?_eq_none_iff]
  rw [contains_iff]
  rw [nextId_index h]
  omega

theorem get?_alloc {arena : Arena ε α} (item : α) (id : Id ε) (h : arena.size < UInt32.size) :
    (arena.alloc item).2.get? id = if id = arena.nextId then some item else arena.get? id := by
  split
  . next hid =>
    rw [hid]
    exact get?_alloc_self item h
  . next hid =>
    have : id.index ≠ arena.items.size := by
      rw [← Id.index_inj, nextId_index h] at hid
      exact hid
    simp [get?, alloc, Array.getElem?_push, this]

theorem modify_eq_ok_iff {arena arena' : Arena ε α} {id : Id ε} {f : α → α} :
    arena.modify id f = .ok arena' ↔
      arena.contains id ∧ arena' = ⟨arena.items.modify id.index f⟩ := by
  unfold modify
  split
  . next h => simp [h, eq_comm]
  . next h => simp [h]

theorem size_of_modify {arena arena' : Arena ε α} {id : Id ε} {f : α → α}
    (h : arena.modify id f = .ok arena') : arena'.size = arena.size := by
  rw [modify_eq_ok_iff] at h
  simp [h.2, size]

theorem get?_of_modify {arena arena' : Arena ε α} {id : Id ε} {f : α → α}
    (h : arena.modify id f = .ok arena') (other : Id ε) :
    arena'.get? other = if other = id then (arena.get? other).map f else arena.get? other := by
  rw [modify_eq_ok_iff] at h
  simp only [h.2, get?, Array.getElem?_modify, Id.index_inj, eq_comm]

end Arena

end IRDiagnostics
