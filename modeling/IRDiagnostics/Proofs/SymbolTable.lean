import IRDiagnostics.Proofs.Answers
import IRDiagnostics.SymbolTable
import Mathlib.Data.Finset.Card
import Mathlib.Data.List.Dedup

/-!
This module contains which symbols a table has issued. Interning issues the symbol it answers, and a
table never takes a symbol back or gives it another text. No text is entered twice, so a symbol is
found by a text exactly when it is resolved to this text. Texts can be interned as long as there are
symbols for all of them.
-/

namespace IRDiagnostics

namespace SymbolTable

variable {table next later : SymbolTable} {symbol : Symbol} {symbols : List Symbol} {text : String}
  {texts : List String}

def Issued (table : SymbolTable) (symbol : Symbol) : Prop := symbol.index < table.size

theorem answers_resolve (h : table.Issued symbol) :
    Answers (table.resolve symbol) fun _ => True := by
  unfold resolve
  rw [Array.getElem?_eq_getElem h]
  exact .pure trivial

theorem resolve_eq_ok_iff :
    table.resolve symbol = .ok text ↔ table.texts[symbol.index]? = some text := by
  unfold resolve
  split
  . next h => simp [h]
  . next h => simp [h]

/--
Looking up is the inverse of resolving.
-/
theorem find?_eq_some_iff : table.find? text = some symbol ↔ table.resolve symbol = .ok text := by
  rw [resolve_eq_ok_iff]
  unfold find?
  simp only [Option.bind_eq_some_iff, Symbol.ofIndex?_eq_some_iff,
    Array.findIdx?_eq_some_iff_getElem, beq_iff_eq]
  constructor
  . rintro ⟨_, ⟨hidx, htext, _⟩, rfl⟩
    rw [Array.getElem?_eq_getElem hidx]
    rw [htext]
  . intro hsymbol
    obtain ⟨hidx, htext⟩ := Array.getElem?_eq_some_iff.mp hsymbol
    refine ⟨symbol.index, ⟨hidx, htext, ?_⟩, rfl⟩
    -- An earlier entry with this text would be the same one.
    intro idx hlt heq
    have hidx' : idx < table.texts.toList.length := Nat.lt_trans hlt hidx
    have : idx = symbol.index := by
      apply (List.getElem?_inj hidx' table.nodup).mp
      rw [Array.getElem?_toList, Array.getElem?_toList]
      rw [hsymbol]
      rw [Array.getElem?_eq_getElem hidx', heq]
    omega

theorem issued_of_find? (h : table.find? text = some symbol) : table.Issued symbol := by
  rw [find?_eq_some_iff, resolve_eq_ok_iff] at h
  exact (Array.getElem?_eq_some_iff.mp h).1

/--
The texts of a table come first in a later one.
-/
def IsPrefix (table later : SymbolTable) : Prop := table.texts.toList <+: later.texts.toList

theorem isPrefix_refl (table : SymbolTable) : table.IsPrefix table := List.prefix_refl _

theorem IsPrefix.trans (h : table.IsPrefix next) (h' : next.IsPrefix later) :
    table.IsPrefix later := List.IsPrefix.trans h h'

theorem IsPrefix.size_le (h : table.IsPrefix later) : table.size ≤ later.size := by
  have hle := List.IsPrefix.length_le h
  rw [Array.length_toList, Array.length_toList] at hle
  exact hle

theorem Issued.mono (h : table.Issued symbol) (hlater : table.IsPrefix later) :
    later.Issued symbol := Nat.lt_of_lt_of_le h hlater.size_le

theorem IsPrefix.resolve (h : table.IsPrefix later) (hresolve : table.resolve symbol = .ok text) :
    later.resolve symbol = .ok text := by
  rw [resolve_eq_ok_iff, ← Array.getElem?_toList] at hresolve ⊢
  obtain ⟨more, hmore⟩ := h
  have hlt := (List.getElem?_eq_some_iff.mp hresolve).1
  rw [← hmore, List.getElem?_append_left hlt]
  exact hresolve

/--
A text that is in a table keeps its symbol.
-/
theorem IsPrefix.find? (h : table.IsPrefix later) (hfind : table.find? text = some symbol) :
    later.find? text = some symbol := by
  rw [find?_eq_some_iff] at hfind ⊢
  exact h.resolve hfind

/-!
Interning of texts.
-/

theorem isPrefix_of_intern (h : table.intern text = .ok (symbol, next)) : table.IsPrefix next := by
  rw [intern_eq_ok_iff] at h
  obtain ⟨_, rfl⟩ | ⟨_, _, htexts⟩ := h
  . exact isPrefix_refl next
  . unfold IsPrefix
    rw [htexts, Array.toList_push]
    exact List.prefix_append _ _

theorem find?_of_intern (h : table.intern text = .ok (symbol, next)) :
    next.find? text = some symbol := by
  rw [intern_eq_ok_iff] at h
  obtain ⟨hfind, rfl⟩ | ⟨_, hsymbol, htexts⟩ := h
  . exact hfind
  . rw [Symbol.ofIndex?_eq_some_iff] at hsymbol
    rw [find?_eq_some_iff, resolve_eq_ok_iff, htexts, hsymbol]
    exact Array.getElem?_push_size

theorem issued_of_intern (h : table.intern text = .ok (symbol, next)) : next.Issued symbol :=
  issued_of_find? (find?_of_intern h)

theorem mem_texts_of_intern (h : table.intern text = .ok (symbol, next)) {other : String} :
    other ∈ next.texts ↔ other ∈ table.texts ∨ other = text := by
  rw [intern_eq_ok_iff] at h
  obtain ⟨hfind, rfl⟩ | ⟨_, _, htexts⟩ := h
  . have hmem : text ∈ next.texts := by
      by_contra hnot
      rw [← find?_eq_none_iff, hfind] at hnot
      contradiction
    constructor
    . exact Or.inl
    . rintro (hother | rfl)
      . exact hother
      . exact hmem
  . simp [htexts]

theorem internAll_nil_eq_ok_iff :
    table.internAll [] = .ok (symbols, next) ↔ symbols = [] ∧ next = table := by
  simp [internAll, pure, Except.pure, eq_comm]

theorem internAll_cons_eq_ok_iff :
    table.internAll (text :: texts) = .ok (symbols, next) ↔
      ∃ symbol between rest, table.intern text = .ok (symbol, between) ∧
        between.internAll texts = .ok (rest, next) ∧ symbols = symbol :: rest := by
  simp only [internAll, Except.bind_eq_ok_iff, pure, Except.pure, Prod.exists, Except.ok.injEq,
    Prod.mk.injEq]
  constructor
  . rintro ⟨symbol, between, hfirst, rest, last, hrest, rfl, rfl⟩
    exact ⟨symbol, between, rest, hfirst, hrest, rfl⟩
  . rintro ⟨symbol, between, rest, hfirst, hrest, rfl⟩
    exact ⟨symbol, between, hfirst, rest, next, hrest, rfl, rfl⟩

theorem isPrefix_of_internAll (h : table.internAll texts = .ok (symbols, next)) :
    table.IsPrefix next := by
  induction texts generalizing table symbols with
  | nil =>
    rw [internAll_nil_eq_ok_iff] at h
    rw [h.2]
    exact isPrefix_refl table
  | cons text texts ih =>
    rw [internAll_cons_eq_ok_iff] at h
    obtain ⟨symbol, between, rest, hfirst, hrest, _⟩ := h
    exact (isPrefix_of_intern hfirst).trans (ih hrest)

theorem issued_of_internAll (h : table.internAll texts = .ok (symbols, next)) :
    ∀ symbol ∈ symbols, next.Issued symbol := by
  induction texts generalizing table symbols with
  | nil =>
    rw [internAll_nil_eq_ok_iff] at h
    simp [h.1]
  | cons text texts ih =>
    rw [internAll_cons_eq_ok_iff] at h
    obtain ⟨symbol, between, rest, hfirst, hrest, rfl⟩ := h
    rw [List.forall_mem_cons]
    exact ⟨(issued_of_intern hfirst).mono (isPrefix_of_internAll hrest), ih hrest⟩

theorem mem_texts_of_internAll (h : table.internAll texts = .ok (symbols, next)) {other : String} :
    other ∈ next.texts ↔ other ∈ table.texts ∨ other ∈ texts := by
  induction texts generalizing table symbols with
  | nil =>
    rw [internAll_nil_eq_ok_iff] at h
    simp [h.2]
  | cons text texts ih =>
    rw [internAll_cons_eq_ok_iff] at h
    obtain ⟨symbol, between, rest, hfirst, hrest, _⟩ := h
    rw [ih hrest, mem_texts_of_intern hfirst, List.mem_cons, or_assoc]

/--
Whether there are symbols for all texts of a table and for further ones, repetitions not counted.
-/
def HasRoom (table : SymbolTable) (texts : List String) : Prop :=
  (table.texts.toList ++ texts).toFinset.card ≤ UInt32.size

theorem hasRoom_empty_iff : empty.HasRoom texts ↔ texts.toFinset.card ≤ UInt32.size := by
  simp [HasRoom, empty]

theorem HasRoom.of_append {further : List String} (h : table.HasRoom (texts ++ further)) :
    table.HasRoom texts := by
  apply (Finset.card_le_card _).trans h
  intro text
  simp only [List.mem_toFinset, List.mem_append]
  tauto

/--
Texts that were interned take the room that they were given.
-/
theorem hasRoom_append_iff_of_internAll {further : List String}
    (h : table.internAll texts = .ok (symbols, next)) :
    table.HasRoom (texts ++ further) ↔ next.HasRoom further := by
  unfold HasRoom
  have htexts : (table.texts.toList ++ (texts ++ further)).toFinset =
      (next.texts.toList ++ further).toFinset := by
    ext text
    simp only [List.mem_toFinset, List.mem_append, Array.mem_toList_iff]
    rw [mem_texts_of_internAll h, or_assoc]
  rw [htexts]

theorem hasRoom_nil (table : SymbolTable) : table.HasRoom [] := by
  unfold HasRoom
  rw [List.append_nil, List.toFinset_card_of_nodup table.nodup]
  exact table.size_le

theorem HasRoom.answers_intern (h : table.HasRoom [text]) :
    Answers (table.intern text) fun _ => True := by
  cases hintern : table.intern text with
  | ok result => exact .pure trivial
  | error fault =>
    rw [intern_eq_error_iff] at hintern
    obtain ⟨hfind, hfull, _⟩ := hintern
    rw [find?_eq_none_iff, ← Array.mem_toList_iff] at hfind
    rw [Symbol.ofIndex?_eq_none_iff] at hfull
    have hnodup : (table.texts.toList ++ [text]).Nodup := by
      rw [(List.perm_append_singleton text _).nodup_iff]
      exact List.nodup_cons.mpr ⟨hfind, table.nodup⟩
    unfold HasRoom at h
    rw [List.toFinset_card_of_nodup hnodup, List.length_append, Array.length_toList] at h
    exact absurd h (Nat.not_le.mpr (Nat.lt_succ_of_le hfull))

theorem HasRoom.answers_internAll (h : table.HasRoom texts) :
    Answers (table.internAll texts) fun _ => True := by
  induction texts generalizing table with
  | nil => exact .pure trivial
  | cons text texts ih =>
    have hfirst : table.HasRoom ([text] ++ texts) := h
    obtain ⟨⟨symbol, between⟩, hintern, _⟩ := hfirst.of_append.answers_intern
    have hsingle : table.internAll [text] = .ok ([symbol], between) := by
      rw [internAll_cons_eq_ok_iff]
      exact ⟨symbol, between, [], hintern, internAll_nil_eq_ok_iff.mpr ⟨rfl, rfl⟩, rfl⟩
    obtain ⟨⟨rest, next⟩, hrest, _⟩ := ih ((hasRoom_append_iff_of_internAll hsingle).mp hfirst)
    refine ⟨_, internAll_cons_eq_ok_iff.mpr ⟨symbol, between, rest, hintern, hrest, rfl⟩, trivial⟩

end SymbolTable

end IRDiagnostics
