import IRDiagnostics.Proofs.SymbolTable
import IRDiagnostics.SymbolTable.Store

/-!
This module contains that symbol tables keep their texts as is assumed of a store.
-/

namespace IRDiagnostics

namespace SymbolTable

variable {table next : SymbolTable} {symbol : Symbol} {text : String}

theorem resolve_of_texts_eq_push (htexts : next.texts = table.texts.push text)
    (hsymbol : symbol.index = table.size) (other : Symbol) :
    next.resolve other = if other = symbol then .ok text else table.resolve other := by
  unfold resolve
  rw [htexts, Array.getElem?_push]
  by_cases heq : other = symbol
  . have hindex : other.index = table.texts.size := by
      rw [heq]
      exact hsymbol
    rw [if_pos heq, if_pos hindex]
  . have hne : other.index ≠ table.texts.size := by
      intro hindex
      apply heq
      rw [← Symbol.index_inj, hindex]
      exact hsymbol.symm
    rw [if_neg heq, if_neg hne]

theorem find?_of_texts_eq_push (htexts : next.texts = table.texts.push text)
    (hsymbol : symbol.index = table.size) (hnew : table.find? text = none) (other : String) :
    next.find? other = if other = text then some symbol else table.find? other := by
  ext found
  rw [find?_eq_some_iff, resolve_of_texts_eq_push htexts hsymbol]
  -- The new symbol stood for nothing, and the text had no symbol.
  have hfree : table.find? other ≠ some symbol := by
    intro hfind
    have hlt : symbol.index < table.size := issued_of_find? hfind
    omega
  by_cases htext : other = text
  . by_cases hfound : found = symbol
    . simp [htext, hfound]
    . subst htext
      rw [if_neg hfound, if_pos rfl, ← find?_eq_some_iff, hnew]
      simp [Ne.symm hfound]
  . rw [if_neg htext]
    by_cases hfound : found = symbol
    . simp [hfound, hfree, Ne.symm htext]
    . rw [if_neg hfound, ← find?_eq_some_iff]

theorem lawful_store : store.Lawful where
  find?_empty _ := find?_eq_none_iff.mpr (by simp [store, empty])
  resolve_empty _ := rfl
  size_empty := rfl
  isEmpty_iff table := by simp [store, isEmpty, size]
  intern_known _ _ _ hfind := intern_eq_ok_iff.mpr (.inl ⟨hfind, rfl⟩)
  intern_new table text symbol hnew hsymbol := by
    have hlt := Symbol.lt_of_ofIndex?_eq_some hsymbol
    have hindex := Symbol.ofIndex?_eq_some_iff.mp hsymbol
    refine ⟨table.push text (find?_eq_none_iff.mp hnew) hlt, ?_, ?_, ?_, ?_⟩
    . exact intern_eq_ok_iff.mpr (.inr ⟨hnew, hsymbol, rfl⟩)
    . exact Array.size_push text
    . exact find?_of_texts_eq_push rfl hindex hnew
    . exact resolve_of_texts_eq_push rfl hindex
  intern_full _ _ hnew hfull := intern_eq_error_iff.mpr ⟨hnew, hfull, rfl⟩

end SymbolTable

end IRDiagnostics
