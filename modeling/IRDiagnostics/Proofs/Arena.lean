import IRDiagnostics.Arena
import IRDiagnostics.Proofs.Answers

/-!
This module contains statements about all items of an arena. They are kept by storing an item that
fulfills them and by updates that keep them, and they are told of whatever is read. The same goes
for statements that relate each item to what has become of it in a later arena.
-/

namespace IRDiagnostics

theorem Id.index_ofNat (idx : Nat) : (⟨UInt32.ofNat idx⟩ : Id ε).index = idx % UInt32.size := by
  unfold Id.index
  exact UInt32.toNat_ofNat'

namespace Arena

variable {arena arena' : Arena ε α} {id : Id ε} {P Q : α → Prop}

def All (arena : Arena ε α) (P : α → Prop) : Prop := ∀ item ∈ arena.items, P item

theorem all_empty : (empty : Arena ε α).All P := by
  simp [All, empty]

theorem All.imp (h : arena.All P) (himp : ∀ item, P item → Q item) : arena.All Q :=
  fun item hitem => himp item (h item hitem)

theorem All.alloc {item : α} (h : arena.All P) (hitem : P item) : (arena.alloc item).2.All P := by
  intro other hother
  simp only [Arena.alloc, Array.mem_push] at hother
  cases hother with
  | inl hmem => exact h other hmem
  | inr heq =>
    rw [heq]
    exact hitem

theorem All.modify {f : α → α} (h : arena.All P) (hmodify : arena.modify id f = .ok arena')
    (hf : ∀ item, P item → P (f item)) : arena'.All P := by
  rw [modify_eq_ok_iff] at hmodify
  intro item hitem
  rw [hmodify.2] at hitem
  obtain ⟨idx, hidx, rfl⟩ := Array.mem_iff_getElem.mp hitem
  rw [Array.getElem_modify]
  split
  . apply hf
    exact h _ (Array.getElem_mem _)
  . exact h _ (Array.getElem_mem _)

theorem All.answers_read (h : arena.All P) (hid : id.index < arena.size) :
    Answers (arena.read id) P := by
  unfold read get?
  rw [Array.getElem?_eq_getElem hid]
  exact .pure (h _ (Array.getElem_mem _))

theorem All.of_read {item : α} (h : arena.All P) (hread : arena.read id = .ok item) : P item := by
  rw [read_eq_ok_iff] at hread
  exact h item (Array.mem_of_getElem? hread)

theorem contains_of_read_bind {next : α → Except Fault β} {answer : β}
    (h : (arena.read id >>= next) = .ok answer) : arena.contains id := by
  cases hread : arena.read id with
  | ok item =>
    rw [contains_iff_get?]
    exact ⟨item, read_eq_ok_iff.mp hread⟩
  | error fault =>
    rw [hread] at h
    cases h

theorem answers_modify {f : α → α} (hid : id.index < arena.size) :
    Answers (arena.modify id f) (arena.modify id f = .ok ·) := by
  unfold modify
  rw [if_pos (contains_iff.mpr hid)]
  exact .pure rfl

theorem nextId_index_eq_mod (arena : Arena ε α) :
    arena.nextId.index = arena.size % UInt32.size :=
  Id.index_ofNat arena.size

theorem nextId_index_lt (arena : Arena ε α) (item : α) :
    arena.nextId.index < (arena.alloc item).2.size := by
  rw [size_alloc, nextId_index_eq_mod]
  -- An id is cut to 32 bits, which makes it no larger.
  apply Nat.lt_succ_of_le
  exact Nat.mod_le _ _

theorem getElem?_toList_eq_some_iff (hsize : arena.size ≤ UInt32.size) {idx : Nat} {item : α} :
    arena.toList[idx]? = some (id, item) ↔ id.index = idx ∧ arena.get? id = some item := by
  simp only [toList, List.getElem?_map, List.getElem?_zipIdx, Option.map_map,
    Option.map_eq_some_iff, Function.comp_apply, Prod.mk.injEq, Array.getElem?_toList, Nat.zero_add]
  constructor
  . rintro ⟨_, hitem, rfl, rfl⟩
    have hidx : idx < arena.size := (Array.getElem?_eq_some_iff.mp hitem).1
    have hindex : Id.index (⟨UInt32.ofNat idx⟩ : Id ε) = idx := by
      rw [Id.index_ofNat]
      apply Nat.mod_eq_of_lt
      omega
    refine ⟨hindex, ?_⟩
    unfold get?
    rw [hindex]
    exact hitem
  . rintro ⟨rfl, hitem⟩
    refine ⟨item, hitem, ?_, rfl⟩
    simp [Id.index]

theorem mem_toList_iff (hsize : arena.size ≤ UInt32.size) {item : α} :
    (id, item) ∈ arena.toList ↔ arena.get? id = some item := by
  rw [List.mem_iff_getElem?]
  simp [getElem?_toList_eq_some_iff hsize]

theorem find?_toList_eq_none_iff (hsize : arena.size ≤ UInt32.size) {p : α → Bool} :
    arena.toList.find? (p ·.2) = none ↔ ∀ id item, arena.get? id = some item → ¬ p item := by
  rw [List.find?_eq_none]
  constructor
  . intro h id item hitem
    exact h (id, item) ((mem_toList_iff hsize).mpr hitem)
  . intro h pair hpair
    exact h pair.1 pair.2 ((mem_toList_iff hsize).mp hpair)

/--
The first item of a sort is the one with the smallest id.
-/
theorem find?_toList_eq_some_iff (hsize : arena.size ≤ UInt32.size) {p : α → Bool} {item : α} :
    arena.toList.find? (p ·.2) = some (id, item) ↔
      arena.get? id = some item ∧ p item ∧
        ∀ other item', arena.get? other = some item' → p item' → id.index ≤ other.index := by
  rw [List.find?_eq_some_iff_getElem]
  constructor
  . rintro ⟨hp, idx, hidx, heq, hmin⟩
    have hfound : arena.toList[idx]? = some (id, item) := List.getElem?_eq_some_iff.mpr ⟨hidx, heq⟩
    rw [getElem?_toList_eq_some_iff hsize] at hfound
    obtain ⟨rfl, hitem⟩ := hfound
    refine ⟨hitem, hp, ?_⟩
    intro other item' hother hp'
    have hother : arena.toList[other.index]? = some (other, item') :=
      (getElem?_toList_eq_some_iff hsize).mpr ⟨rfl, hother⟩
    obtain ⟨_, hother⟩ := List.getElem?_eq_some_iff.mp hother
    apply Nat.le_of_not_lt
    intro hlt
    specialize hmin other.index hlt
    rw [hother] at hmin
    simp [hp'] at hmin
  . rintro ⟨hitem, hp, hmin⟩
    have hfound : arena.toList[id.index]? = some (id, item) :=
      (getElem?_toList_eq_some_iff hsize).mpr ⟨rfl, hitem⟩
    obtain ⟨hidx, heq⟩ := List.getElem?_eq_some_iff.mp hfound
    refine ⟨hp, id.index, hidx, heq, ?_⟩
    intro idx hlt
    have hother : arena.toList[idx]? = some arena.toList[idx] := List.getElem?_eq_getElem _
    obtain ⟨hindex, hother⟩ := (getElem?_toList_eq_some_iff hsize).mp hother
    rw [Bool.not_eq_true', Bool.eq_false_iff]
    intro hp'
    have := hmin _ _ hother hp'
    omega

/--
Every item of an arena is at its position in a later one, in a state that `R` relates to the earlier
one.
-/
def Grows (R : Nat → α → α → Prop) (arena later : Arena ε α) : Prop :=
  ∀ (idx : Nat) (item : α), arena.items[idx]? = some item →
    ∃ item', later.items[idx]? = some item' ∧ R idx item item'

section Grows

variable {R : Nat → α → α → Prop} {later : Arena ε α}

theorem Grows.refl (hrefl : ∀ idx item, R idx item item) (arena : Arena ε α) :
    arena.Grows R arena :=
  fun idx item hitem => ⟨item, hitem, hrefl idx item⟩

theorem Grows.trans (htrans : ∀ idx item item' item'', R idx item item' → R idx item' item'' →
      R idx item item'')
    (h : arena.Grows R arena') (h' : arena'.Grows R later) : arena.Grows R later := by
  intro idx item hitem
  obtain ⟨item', hitem', hR⟩ := h idx item hitem
  obtain ⟨item'', hitem'', hR'⟩ := h' idx item' hitem'
  exact ⟨item'', hitem'', htrans idx item item' item'' hR hR'⟩

theorem grows_alloc (hrefl : ∀ idx item, R idx item item) (arena : Arena ε α) (item : α) :
    arena.Grows R (arena.alloc item).2 := by
  intro idx other hother
  have hlt : idx < arena.items.size := (Array.getElem?_eq_some_iff.mp hother).1
  refine ⟨other, ?_, hrefl idx other⟩
  simp only [Arena.alloc, Array.getElem?_push, Nat.ne_of_lt hlt, ↓reduceIte]
  exact hother

theorem grows_of_modify {f : α → α} (hrefl : ∀ idx item, R idx item item)
    (hmodify : arena.modify id f = .ok arena') (hf : ∀ item, R id.index item (f item)) :
    arena.Grows R arena' := by
  rw [modify_eq_ok_iff] at hmodify
  intro idx item hitem
  rw [hmodify.2, Array.getElem?_modify, hitem]
  split
  . next heq =>
    subst heq
    exact ⟨f item, rfl, hf item⟩
  . exact ⟨item, rfl, hrefl idx item⟩

theorem Grows.read {item : α} (h : arena.Grows R later) (hread : arena.read id = .ok item) :
    ∃ item', later.read id = .ok item' ∧ R id.index item item' := by
  rw [read_eq_ok_iff] at hread
  obtain ⟨item', hitem', hR⟩ := h id.index item hread
  exact ⟨item', read_eq_ok_iff.mpr hitem', hR⟩

theorem Grows.contains (h : arena.Grows R later) (hid : arena.contains id) : later.contains id := by
  rw [contains_iff_get?] at hid ⊢
  obtain ⟨item, hitem⟩ := hid
  obtain ⟨item', hitem', _⟩ := h id.index item hitem
  exact ⟨item', hitem'⟩

theorem find?_zipIdx_of_related {items later : List α} {p : α → Bool} {item : α} {start idx : Nat}
    (h : ∀ (idx : Nat) (item : α), items[idx]? = some item →
      ∃ item', later[idx]? = some item' ∧ p item' = p item)
    (hfind : (items.zipIdx start).find? (p ·.1) = some (item, idx)) :
    ∃ item', (later.zipIdx start).find? (p ·.1) = some (item', idx) := by
  induction items generalizing later start with
  | nil => contradiction
  | cons head items ih =>
    obtain ⟨head', hhead', hp⟩ := h 0 head rfl
    cases later with
    | nil => contradiction
    | cons other later =>
      cases hhead'
      rw [List.zipIdx_cons, List.find?_cons] at hfind ⊢
      dsimp only at hfind ⊢
      rw [hp]
      split at hfind
      . cases hfind
        exact ⟨head', rfl⟩
      . apply ih _ hfind
        intro idx item hitem
        exact h (idx + 1) item hitem

/--
The first item of a sort keeps its id.
-/
theorem Grows.find?_toList {p : α → Bool} {item : α} (h : arena.Grows R later)
    (hp : ∀ idx item item', R idx item item' → p item' = p item)
    (hfind : arena.toList.find? (p ·.2) = some (id, item)) :
    ∃ item', later.toList.find? (p ·.2) = some (id, item') := by
  unfold toList at hfind ⊢
  rw [List.find?_map, Option.map_eq_some_iff] at hfind
  obtain ⟨⟨other, idx⟩, hfind, heq⟩ := hfind
  cases heq
  have hrelated : ∀ (idx : Nat) (item : α), arena.items.toList[idx]? = some item →
      ∃ item', later.items.toList[idx]? = some item' ∧ p item' = p item := by
    intro idx item hitem
    rw [Array.getElem?_toList] at hitem
    obtain ⟨item', hitem', hR⟩ := h idx item hitem
    refine ⟨item', ?_, hp idx item item' hR⟩
    rw [Array.getElem?_toList]
    exact hitem'
  obtain ⟨item', hitem'⟩ := find?_zipIdx_of_related hrelated hfind
  refine ⟨item', ?_⟩
  rw [List.find?_map, Option.map_eq_some_iff]
  exact ⟨_, hitem', rfl⟩

end Grows

end Arena

end IRDiagnostics
