import IRDiagnostics.Fault

/-!
This module contains the table of the names that occur in a module. Every text has at most one
symbol, so two symbols of one table are equal exactly when their texts are. There are only so many
symbols: a table that has given all of them out takes no new text.
-/

namespace IRDiagnostics

/--
A name of a module, as an entry of its `SymbolTable`.
-/
structure Symbol where
  raw : UInt32
  deriving DecidableEq

namespace Symbol

/--
The position a symbol stands for.
-/
def index (symbol : Symbol) : Nat := symbol.raw.toNat

/--
The symbol for a position, which is rejected if it does not fit.
-/
def ofIndex? (index : Nat) : Option Symbol :=
  if h : index < UInt32.size then some ⟨UInt32.ofNatLT index h⟩ else none

theorem index_inj {a b : Symbol} : a.index = b.index ↔ a = b := by
  cases a
  cases b
  simp [index, UInt32.toNat_inj]

theorem ofIndex?_eq_some_iff {index : Nat} {symbol : Symbol} :
    ofIndex? index = some symbol ↔ symbol.index = index := by
  have hlt : symbol.index < UInt32.size := symbol.raw.toNat_lt
  unfold ofIndex?
  split
  . next h =>
    rw [Option.some.injEq, ← index_inj]
    exact eq_comm
  . next h =>
    constructor
    . intro hnone
      contradiction
    . omega

theorem ofIndex?_eq_none_iff {index : Nat} : ofIndex? index = none ↔ UInt32.size ≤ index := by
  unfold ofIndex?
  split
  . next h => simpa using h
  . next h => simpa using h

theorem lt_of_ofIndex?_eq_some {index : Nat} {symbol : Symbol} (h : ofIndex? index = some symbol) :
    index < UInt32.size := by
  rw [ofIndex?_eq_some_iff] at h
  rw [← h]
  exact symbol.raw.toNat_lt

end Symbol

/--
The texts that have a symbol, in the order in which they were entered.

The library that keeps the names of modules is not part of this one. `TextStore.Lawful` says what is
assumed of it, and this table is the store of that kind that modules are built with.
-/
structure SymbolTable where
  texts : Array String := #[]
  /-- There is a symbol for every text. -/
  size_le : texts.size ≤ UInt32.size := by decide
  /-- No text is entered twice. -/
  nodup : texts.toList.Nodup := by simp
  deriving DecidableEq

namespace SymbolTable

def empty : SymbolTable := {}

def size (table : SymbolTable) : Nat := table.texts.size

def isEmpty (table : SymbolTable) : Bool := table.texts.isEmpty

/--
The symbol of a text that is already in the table.
-/
def find? (table : SymbolTable) (text : String) : Option Symbol :=
  (table.texts.findIdx? (· == text)).bind Symbol.ofIndex?

theorem find?_eq_none_iff {table : SymbolTable} {text : String} :
    table.find? text = none ↔ text ∉ table.texts := by
  have hfind : table.find? text = none ↔ table.texts.findIdx? (· == text) = none := by
    unfold find?
    cases hidx : table.texts.findIdx? (· == text) with
    | none => simp
    | some idx =>
      have hlt := (Array.findIdx?_eq_some_iff_getElem.mp hidx).1
      have hle := table.size_le
      simp only [Option.bind_some, Symbol.ofIndex?_eq_none_iff, reduceCtorEq, iff_false]
      omega
  rw [hfind, Array.findIdx?_eq_none_iff]
  constructor
  . intro h hmem
    simpa using h text hmem
  . intro h other hother
    rw [beq_eq_false_iff_ne]
    rintro rfl
    exact h hother

/--
Enter a new text at the end of the table.
-/
def push (table : SymbolTable) (text : String) (hnew : text ∉ table.texts)
    (hroom : table.size < UInt32.size) : SymbolTable where
  texts := table.texts.push text
  size_le := by
    rw [Array.size_push]
    exact hroom
  nodup := by
    rw [Array.toList_push, List.nodup_append]
    refine ⟨table.nodup, by simp, ?_⟩
    intro other hother text' htext' heq
    rw [List.mem_singleton.mp htext'] at heq
    rw [heq, Array.mem_toList_iff] at hother
    exact hnew hother

/--
The symbol of a text, which is entered at the end of the table if it is new.
-/
def intern (table : SymbolTable) (text : String) : Except Fault (Symbol × SymbolTable) :=
  match hfind : table.find? text with
  | some symbol => .ok (symbol, table)
  | none =>
    match hsymbol : Symbol.ofIndex? table.size with
    | some symbol =>
      have hroom : table.size < UInt32.size := Symbol.lt_of_ofIndex?_eq_some hsymbol
      .ok (symbol, table.push text (find?_eq_none_iff.mp hfind) hroom)
    | none => .error .symbolsExhausted

theorem ext_texts {table other : SymbolTable} (h : table.texts = other.texts) : table = other := by
  cases table
  cases other
  cases h
  rfl

/--
A text is found, or it is new and gets the next symbol.
-/
theorem intern_eq_ok_iff {table next : SymbolTable} {text : String} {symbol : Symbol} :
    table.intern text = .ok (symbol, next) ↔
      table.find? text = some symbol ∧ next = table ∨
        table.find? text = none ∧ Symbol.ofIndex? table.size = some symbol ∧
          next.texts = table.texts.push text := by
  unfold intern
  split
  . next found hfind => simp [hfind, eq_comm]
  . next hfind =>
    split
    . next fresh hfresh =>
      simp only [hfind, hfresh, Except.ok.injEq, Prod.mk.injEq, Option.some.injEq, reduceCtorEq,
        false_and, true_and, false_or]
      apply and_congr_right
      intro _
      constructor
      . rintro rfl
        rfl
      . intro h
        exact ext_texts h.symm
    . next hfull => simp [hfind, hfull]

theorem intern_eq_error_iff {table : SymbolTable} {text : String} {fault : Fault} :
    table.intern text = .error fault ↔
      table.find? text = none ∧ Symbol.ofIndex? table.size = none ∧ fault = .symbolsExhausted := by
  unfold intern
  split
  . next found hfind => simp [hfind]
  . next hfind =>
    split
    . next fresh hfresh => simp [hfresh]
    . next hfull => simp [hfind, hfull, eq_comm]

/--
Intern several texts from left to right.
-/
def internAll (table : SymbolTable) : List String → Except Fault (List Symbol × SymbolTable)
  | [] => return ([], table)
  | text :: texts => do
    let (symbol, table) ← table.intern text
    let (symbols, table) ← table.internAll texts
    return (symbol :: symbols, table)

def resolve (table : SymbolTable) (symbol : Symbol) : Except Fault String :=
  match table.texts[symbol.index]? with
  | some text => .ok text
  | none => .error .unknownSymbol

end SymbolTable

end IRDiagnostics
