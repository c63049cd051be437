import IRDiagnostics.Proofs.Module.Names

/-!
This module contains the search for a function by its name. The search compares symbols, which are
shared with parameters, blocks and globals. As a table has every text once, it finds what a search
through the texts of all names would find.
-/

namespace IRDiagnostics

namespace Module

variable {module : Module} {function : FunctionId} {name : String}

theorem functionName_eq_ok_iff :
    module.functionName function = .ok name ↔
      ∃ data, module.functions.get? function = some data ∧
        module.symbols.resolve data.name = .ok name := by
  unfold functionName
  rw [Except.bind_eq_ok_iff]
  simp only [Arena.read_eq_ok_iff]

theorem functionByName?_of_find?_eq_none (h : module.symbols.find? name = none) :
    module.functionByName? name = none := by
  unfold functionByName?
  rw [h]
  rfl

theorem functionByName?_of_find?_eq_some {symbol : Symbol}
    (h : module.symbols.find? name = some symbol) :
    module.functionByName? name =
      (module.functions.toList.find? (·.2.name = symbol)).map (·.1) := by
  simp only [functionByName?, h, Option.bind_eq_bind, Option.bind_some]
  cases module.functions.toList.find? (·.2.name = symbol) with
  | none => rfl
  | some pair => rfl

/--
How the search for a name relates to the names that are read of functions.
-/
structure SearchesTexts (module : Module) (name : String) : Prop where
  some_iff : ∀ function, module.functionByName? name = some function ↔
    module.functionName function = .ok name ∧
      ∀ other, module.functionName other = .ok name → function.index ≤ other.index
  none_iff : module.functionByName? name = none ↔
    ∀ function, module.functionName function ≠ .ok name
  /-- Every function has a name to compare with. -/
  named : ∀ function, module.functions.contains function →
    ∃ text, module.functionName function = .ok text

theorem functionName_eq_ok_iff_find? {symbol : Symbol}
    (hsymbol : module.symbols.find? name = some symbol) :
    module.functionName function = .ok name ↔
      ∃ data, module.functions.get? function = some data ∧ data.name = symbol := by
  rw [functionName_eq_ok_iff]
  simp only [← SymbolTable.find?_eq_some_iff, hsymbol, Option.some.injEq, eq_comm (a := symbol)]

theorem functionName_ne_ok_of_find?_eq_none (hnone : module.symbols.find? name = none) :
    module.functionName function ≠ .ok name := by
  intro hname
  rw [functionName_eq_ok_iff] at hname
  obtain ⟨data, _, hname⟩ := hname
  rw [← SymbolTable.find?_eq_some_iff, hnone] at hname
  contradiction

section

variable (hfunctions : module.functions.size ≤ UInt32.size)

include hfunctions

theorem functionByName?_eq_some_iff :
    module.functionByName? name = some function ↔
      module.functionName function = .ok name ∧
        ∀ other, module.functionName other = .ok name → function.index ≤ other.index := by
  cases hfind : module.symbols.find? name with
  | none =>
    rw [functionByName?_of_find?_eq_none hfind]
    simp [functionName_ne_ok_of_find?_eq_none hfind]
  | some symbol =>
    have hfirst (data : Function) :
        module.functions.toList.find? (·.2.name = symbol) = some (function, data) ↔
          module.functions.get? function = some data ∧ data.name = symbol ∧
            ∀ other data', module.functions.get? other = some data' → data'.name = symbol →
              function.index ≤ other.index := by
      simpa using Arena.find?_toList_eq_some_iff hfunctions (p := fun data => data.name = symbol)
    rw [functionByName?_of_find?_eq_some hfind]
    simp only [Option.map_eq_some_iff, Prod.exists, exists_and_right, exists_eq_right, hfirst,
      functionName_eq_ok_iff_find? hfind]
    grind

theorem functionByName?_eq_none_iff :
    module.functionByName? name = none ↔ ∀ function, module.functionName function ≠ .ok name := by
  cases hfind : module.symbols.find? name with
  | none =>
    rw [functionByName?_of_find?_eq_none hfind]
    simp [functionName_ne_ok_of_find?_eq_none hfind]
  | some symbol =>
    have hnone : module.functions.toList.find? (·.2.name = symbol) = none ↔
        ∀ function data, module.functions.get? function = some data → ¬ data.name = symbol := by
      simpa only [decide_eq_true_eq] using
        Arena.find?_toList_eq_none_iff hfunctions (p := fun data => data.name = symbol)
    rw [functionByName?_of_find?_eq_some hfind]
    simp only [Option.map_eq_none_iff, hnone, ne_eq, not_exists, not_and,
      functionName_eq_ok_iff_find? hfind]

end

/--
To search is to read the names of all functions, also for a text that is the name of something else
or of nothing at all. A search enters no text into the table and so has no module to answer.
-/
theorem searchesTexts_of_build {identifier : String} {filter : Filter} {steps : List BuildStep}
    (h : (build { identifier, filter } steps).2 = .ok module) (hsize : module.Addressable)
    (name : String) : module.SearchesTexts name := by
  have hfunctions : module.functions.size ≤ UInt32.size := Nat.le_of_lt hsize.functions
  constructor
  . intro function
    apply functionByName?_eq_some_iff hfunctions
  . apply functionByName?_eq_none_iff hfunctions
  . intro function hfunction
    obtain ⟨text, hname, _⟩ := (namesKnown_of_build h).answers_functionName hfunction
    exact ⟨text, hname⟩

def sharedNames : List BuildStep :=
  [.global "main" .ptr,
   .function "f" ⟨.void, [.ptr], false⟩ ["main"],
   .block ⟨0⟩ (some "g"),
   .function "main" ⟨.int 32, [], false⟩ [],
   .function "f" ⟨.ptr, [], true⟩ ["p"],
   .function "main" ⟨.void, [], false⟩ []]

/--
A name that two functions share with a global and a parameter, one that only a block has, and one
that nothing has.
-/
theorem searchesTexts_of_build_sharedNames :
    ∃ module, (build { identifier := "m" } sharedNames).2 = .ok module ∧ module.Addressable ∧
      module.functionByName? "main" = some ⟨1⟩ ∧ module.functionByName? "g" = none ∧
      module.functionByName? "h" = none ∧ module.SearchesTexts "main" := by
  obtain ⟨module, h, hsize, hmain, hblock, hnothing⟩ :
      Answers (build { identifier := "m" } sharedNames).2 fun module =>
        module.Addressable ∧ module.functionByName? "main" = some ⟨1⟩ ∧
          module.functionByName? "g" = none ∧ module.functionByName? "h" = none := by decide +kernel
  exact ⟨module, h, hsize, hmain, hblock, hnothing, searchesTexts_of_build h hsize "main"⟩

end Module

end IRDiagnostics
