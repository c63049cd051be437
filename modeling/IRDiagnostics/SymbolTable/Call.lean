import IRDiagnostics.SymbolTable.Store

/-!
This module contains the calls on a symbol table as data. The table passes every call on to the
store that it keeps its texts in: `TextStore.apply` performs one call and `TextStore.run` a list of
them.
-/

namespace IRDiagnostics

namespace TextStore

inductive Call where
  | intern (text : String)
  /-- Look for a text without entering it. -/
  | find (text : String)
  | resolve (symbol : Symbol)
  | size
  | isEmpty
  deriving DecidableEq

/--
What a call answers.
-/
inductive Answer where
  | interned (symbol : Symbol)
  | found (symbol : Option Symbol)
  | resolved (text : String)
  /-- There is no symbol left for the text, or no text for the symbol. -/
  | fault (fault : Fault)
  | size (size : Nat)
  | isEmpty (empty : Bool)
  deriving DecidableEq

variable {σ : Type}

/--
Only interning changes a store; in particular a fault leaves it as it was.
-/
def apply (store : TextStore σ) (state : σ) : Call → Answer × σ
  | .intern text =>
    match store.intern state text with
    | .ok (symbol, next) => (.interned symbol, next)
    | .error fault => (.fault fault, state)
  | .find text => (.found (store.find? state text), state)
  | .resolve symbol =>
    match store.resolve state symbol with
    | .ok text => (.resolved text, state)
    | .error fault => (.fault fault, state)
  | .size => (.size (store.size state), state)
  | .isEmpty => (.isEmpty (store.isEmpty state), state)

/--
Perform calls from left to right.
-/
def run (store : TextStore σ) (state : σ) : List Call → List Answer × σ
  | [] => ([], state)
  | call :: calls =>
    let (answer, state) := store.apply state call
    let (answers, state) := store.run state calls
    (answer :: answers, state)

end TextStore

end IRDiagnostics
