import IRDiagnostics.SymbolTable

/-!
This module contains what is assumed of the library that keeps the texts of a symbol table. The
library is known by its operations alone, and every assumption is about a single one of them. The
symbol tables that modules are built with are a store of this kind.
-/

namespace IRDiagnostics

/--
The operations of a store of texts with states in `σ`. Looking something up does not change the
state.
-/
structure TextStore (σ : Type) where
  empty : σ
  intern : σ → String → Except Fault (Symbol × σ)
  find? : σ → String → Option Symbol
  resolve : σ → Symbol → Except Fault String
  size : σ → Nat
  isEmpty : σ → Bool

namespace TextStore

variable {σ : Type}

/--
What is new in a state `next` in which a text was given a symbol.
-/
structure Enters (store : TextStore σ) (state : σ) (text : String) (symbol : Symbol) (next : σ) :
    Prop where
  size : store.size next = store.size state + 1
  find? : ∀ other, store.find? next other =
    if other = text then some symbol else store.find? state other
  resolve : ∀ other, store.resolve next other =
    if other = symbol then .ok text else store.resolve state other

/--
How a store documents its operations. Texts are numbered by their symbols in the order in which they
come, and a text is refused if there is no symbol for its number.
-/
structure Lawful (store : TextStore σ) : Prop where
  find?_empty : ∀ text, store.find? store.empty text = none
  resolve_empty : ∀ symbol, store.resolve store.empty symbol = .error .unknownSymbol
  size_empty : store.size store.empty = 0
  isEmpty_iff : ∀ state, store.isEmpty state ↔ store.size state = 0
  /-- A text that is in the store is answered by the symbol it has. -/
  intern_known : ∀ state text symbol, store.find? state text = some symbol →
    store.intern state text = .ok (symbol, state)
  intern_new : ∀ state text symbol, store.find? state text = none →
    Symbol.ofIndex? (store.size state) = some symbol →
    ∃ next, store.intern state text = .ok (symbol, next) ∧ store.Enters state text symbol next
  intern_full : ∀ state text, store.find? state text = none →
    Symbol.ofIndex? (store.size state) = none →
    store.intern state text = .error .symbolsExhausted

end TextStore

def SymbolTable.store : TextStore SymbolTable where
  empty := empty
  intern := intern
  find? := find?
  resolve := resolve
  size := size
  isEmpty := isEmpty

end IRDiagnostics
