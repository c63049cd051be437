/-!
This module contains finite sets of names. A set is kept as its ascending list of members, so equal
sets are equal lists.
-/

namespace IRDiagnostics

/--
Enter a name into an ascending list, unless it is in it already.
-/
def insertName (name : String) : List String → List String
  | [] => [name]
  | other :: rest =>
    if name < other then
      name :: other :: rest
    else if other < name then
      other :: insertName name rest
    else
      other :: rest

theorem eq_of_not_lt {a b : String} (hab : ¬ a < b) (hba : ¬ b < a) : a = b :=
  String.le_antisymm (String.not_lt.mp hba) (String.not_lt.mp hab)

theorem mem_insertName {name other : String} {names : List String} :
    other ∈ insertName name names ↔ other = name ∨ other ∈ names := by
  induction names with
  | nil => simp [insertName]
  | cons head rest ih =>
    simp only [insertName]
    split
    . simp
    . split
      . simp only [List.mem_cons, ih]
        grind
      . have := eq_of_not_lt ‹_› ‹_›
        simp [this]

theorem pairwise_insertName {name : String} {names : List String} (h : names.Pairwise (· < ·)) :
    (insertName name names).Pairwise (· < ·) := by
  induction names with
  | nil => simp [insertName]
  | cons head rest ih =>
    simp only [List.pairwise_cons] at h
    simp only [insertName]
    split
    . next hlt =>
      simp only [List.pairwise_cons, List.mem_cons, forall_eq_or_imp]
      exact ⟨⟨hlt, fun other hother => String.lt_trans hlt (h.1 other hother)⟩, h.1, h.2⟩
    . split
      . next hlt =>
        simp only [List.pairwise_cons, mem_insertName, forall_eq_or_imp]
        exact ⟨⟨hlt, h.1⟩, ih h.2⟩
      . simpa using h

structure NameSet where
  names : List String := []
  ascending : names.Pairwise (· < ·) := by simp
  deriving DecidableEq

namespace NameSet

def empty : NameSet := {}

def insert (set : NameSet) (name : String) : NameSet :=
  ⟨insertName name set.names, pairwise_insertName set.ascending⟩

def ofList (names : List String) : NameSet := names.foldl insert empty

def contains (set : NameSet) (name : String) : Bool := set.names.contains name

theorem contains_insert {set : NameSet} {name other : String} :
    (set.insert name).contains other ↔ other = name ∨ set.contains other := by
  simp [contains, insert, mem_insertName]

theorem contains_ofList {names : List String} {name : String} :
    (ofList names).contains name ↔ name ∈ names := by
  suffices ∀ set : NameSet, (names.foldl insert set).contains name ↔
      name ∈ names ∨ set.contains name by
    simp only [ofList, this empty]
    simp [contains, empty]
  induction names with
  | nil => simp
  | cons head rest ih =>
    intro set
    simp only [List.foldl_cons, ih, contains_insert, List.mem_cons]
    grind

theorem mem_names_ofList {names : List String} {name : String} :
    name ∈ (ofList names).names ↔ name ∈ names := by
  have h : (ofList names).contains name ↔ name ∈ names := contains_ofList
  rw [contains, List.contains_iff_mem] at h
  exact h

end NameSet

end IRDiagnostics
