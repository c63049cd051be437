import IRDiagnostics.Proofs.Arena

/-!
This module contains which ids an arena issues. Ids count the items modulo the number of 32 bit
words, so the first ids are all different and each of them reads the item it was issued for. When
the words are used up the ids start over, and an item that is stored from then on cannot be read
through its id.
-/

namespace IRDiagnostics

namespace Arena

variable {ε : Entity} {α : Type} {arena : Arena ε α} {id : Id ε}

/--
Store several items from left to right.
-/
def allocAll (arena : Arena ε α) : List α → List (Id ε) × Arena ε α
  | [] => ([], arena)
  | item :: items =>
    let (id, arena) := arena.alloc item
    let (ids, arena) := arena.allocAll items
    (id :: ids, arena)

theorem items_allocAll (arena : Arena ε α) (items : List α) :
    (arena.allocAll items).2.items.toList = arena.items.toList ++ items := by
  induction items generalizing arena with
  | nil => simp [allocAll]
  | cons item items ih =>
    simp only [allocAll]
    rw [ih]
    simp [alloc]

theorem contains_nextId_iff : arena.contains arena.nextId ↔ UInt32.size ≤ arena.size := by
  rw [contains_iff, nextId_index_eq_mod]
  have := Nat.mod_lt arena.size (by decide : UInt32.size > 0)
  constructor
  . intro hlt
    apply Nat.le_of_not_lt
    intro hsize
    rw [Nat.mod_eq_of_lt hsize] at hlt
    omega
  . intro hle
    omega

/--
An arena that has used up the words reads an earlier item through the id it issues.
-/
theorem get?_alloc_nextId (arena : Arena ε α) (item : α) :
    (arena.alloc item).2.get? arena.nextId =
      if arena.size < UInt32.size then some item else arena.get? arena.nextId := by
  split
  . next hlt => exact get?_alloc_self item hlt
  . next hge =>
    apply get?_alloc_of_contains
    apply contains_nextId_iff.mpr
    exact Nat.le_of_not_lt hge

theorem ids_allocAll (arena : Arena ε α) (items : List α) (idx : Nat) :
    (arena.allocAll items).1[idx]? =
      if idx < items.length then some ⟨UInt32.ofNat (arena.size + idx)⟩ else none := by
  induction items generalizing arena idx with
  | nil => simp [allocAll]
  | cons item items ih =>
    cases idx with
    | zero => simp [allocAll, alloc, nextId]
    | succ idx =>
      simp only [allocAll, List.getElem?_cons_succ]
      rw [ih]
      simp [Nat.add_assoc, Nat.add_comm 1]

theorem size_allocAll_empty (items : List α) :
    ((empty : Arena ε α).allocAll items).2.size = items.length := by
  unfold size
  rw [← Array.length_toList, items_allocAll]
  simp [empty]

theorem get?_allocAll_empty (items : List α) (id : Id ε) :
    ((empty : Arena ε α).allocAll items).2.get? id = items[id.index]? := by
  unfold get?
  rw [← Array.getElem?_toList, items_allocAll]
  simp [empty]

theorem ids_allocAll_empty_eq_some_iff {items : List α} {idx : Nat} :
    ((empty : Arena ε α).allocAll items).1[idx]? = some id ↔
      idx < items.length ∧ id = ⟨UInt32.ofNat idx⟩ := by
  rw [ids_allocAll]
  simp [empty, size, eq_comm]

theorem mem_ids_allocAll_empty_iff {items : List α} :
    id ∈ ((empty : Arena ε α).allocAll items).1 ↔ id.index < items.length := by
  rw [List.mem_iff_getElem?]
  simp only [ids_allocAll_empty_eq_some_iff]
  constructor
  . rintro ⟨idx, hidx, rfl⟩
    rw [Id.index_ofNat]
    exact Nat.lt_of_le_of_lt (Nat.mod_le _ _) hidx
  . intro hid
    refine ⟨id.index, hid, ?_⟩
    simp [Id.index]

theorem allocAll_append_singleton (arena : Arena ε α) (items : List α) (item : α) :
    arena.allocAll (items ++ [item]) =
      ((arena.allocAll items).1 ++ [((arena.allocAll items).2.alloc item).1],
        ((arena.allocAll items).2.alloc item).2) := by
  induction items generalizing arena with
  | nil => rfl
  | cons other items ih =>
    simp only [List.cons_append, allocAll]
    rw [ih]

/--
What a new arena has issued for the items that were stored in it, and what it does with the next
one.
-/
structure Issues (items : List α) (ids : List (Id ε)) (arena : Arena ε α) : Prop where
  next : ∀ item, empty.allocAll (items ++ [item]) =
    (ids ++ [(arena.alloc item).1], (arena.alloc item).2)
  contains_iff : ∀ id, arena.contains id ↔ id ∈ ids
  fresh_iff : ∀ item, (arena.alloc item).1 ∉ ids ↔ items.length < UInt32.size
  get?_alloc_self : ∀ item, (arena.alloc item).2.get? (arena.alloc item).1 =
    if items.length < UInt32.size then some item else items[items.length % UInt32.size]?
  /-- As long as an id is not issued again, it reads the item it was issued for. -/
  get?_alloc_of_issued : ∀ item idx id, ids[idx]? = some id →
    (arena.alloc item).2.get? id = items[idx % UInt32.size]?
  read_eq_ok_iff : ∀ id item, arena.read id = .ok item ↔ arena.get? id = some item

theorem issues_allocAll (items : List α) :
    Issues items ((empty : Arena ε α).allocAll items).1 (empty.allocAll items).2 := by
  have hsize := size_allocAll_empty (ε := ε) items
  have hcontains : ∀ id : Id ε, (empty.allocAll items).2.contains id ↔
      id ∈ (empty.allocAll items).1 := by
    intro id
    rw [contains_iff, mem_ids_allocAll_empty_iff, hsize]
  constructor
  . apply allocAll_append_singleton
  . exact hcontains
  . intro item
    rw [← hcontains]
    apply (not_congr contains_nextId_iff).trans
    rw [hsize, Nat.not_le]
  . intro item
    apply (get?_alloc_nextId _ item).trans
    rw [get?_allocAll_empty, nextId_index_eq_mod, hsize]
  . intro item idx id hid
    have hmem : id ∈ (empty.allocAll items).1 := List.mem_of_getElem? hid
    rw [get?_alloc_of_contains item ((hcontains id).mpr hmem)]
    rw [get?_allocAll_empty]
    rw [ids_allocAll_empty_eq_some_iff] at hid
    rw [hid.2, Id.index_ofNat]
  . intro id item
    exact read_eq_ok_iff

theorem alloc_of_length_eq {items : List α} (h : items.length = UInt32.size) (item : α) :
    let issued := (empty : Arena ε α).allocAll items
    (issued.2.alloc item).1 ∈ issued.1 ∧
      (issued.2.alloc item).2.get? (issued.2.alloc item).1 = items[0]? := by
  intro issued
  have hsize : issued.2.size = UInt32.size := by rw [size_allocAll_empty, h]
  have hindex : issued.2.nextId.index = 0 := by rw [nextId_index_eq_mod, hsize, Nat.mod_self]
  constructor
  . apply mem_ids_allocAll_empty_iff.mpr
    rw [h]
    apply Nat.lt_of_le_of_lt (Nat.le_of_eq hindex)
    decide
  . apply (get?_alloc_nextId _ item).trans
    rw [if_neg (by omega), get?_allocAll_empty, hindex]

/--
After as many items as there are words of 32 bits the first id is issued again, and the item that is
stored with it cannot be read.
-/
theorem alloc_reissues :
    let issued := (empty : Arena .block String).allocAll (List.replicate UInt32.size "first")
    (issued.2.alloc "second").1 ∈ issued.1 ∧
      (issued.2.alloc "second").2.get? (issued.2.alloc "second").1 = some "first" := by
  have hlength : (List.replicate UInt32.size "first").length = UInt32.size := List.length_replicate
  have hfirst : (List.replicate UInt32.size "first")[0]? = some "first" :=
    List.getElem?_replicate_of_lt (by decide)
  rw [← hfirst]
  exact alloc_of_length_eq hlength "second"

end Arena

end IRDiagnostics
