/-!
This module contains the ways in which reading through a reference or entering a name can fail,
shared by the arenas and the symbol table, and the error for a request the representation has no
form for.
-/

namespace IRDiagnostics

/--
Why a read through an id or a symbol has no answer, or a text no symbol.
-/
inductive Fault where
  /-- The id `idx` was not issued by an arena that holds `len` items. -/
  | outOfBounds (len idx : Nat)
  /-- The symbol was not issued by the table it was looked up in. -/
  | unknownSymbol
  /-- Every symbol stands for a text already, so that there is none for a new text. -/
  | symbolsExhausted
  deriving DecidableEq

def Fault.message : Fault → String
  | .outOfBounds len idx => s!"index out of bounds: the len is {len} but the index is {idx}"
  | .unknownSymbol => "Key out of bounds"
  | .symbolsExhausted => "Key space exhausted"

/--
A request that only a mistake in the compiler itself can make.
-/
structure InternalError where
  message : String
  deriving DecidableEq

def InternalError.text (error : InternalError) : String :=
  "internal compiler error: " ++ error.message

end IRDiagnostics
