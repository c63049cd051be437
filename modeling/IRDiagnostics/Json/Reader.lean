import IRDiagnostics.Json.Token

/-!
This module contains the reading of JSON values from their tokens. The reader is a machine that
takes one token at a time and keeps the arrays and objects that are still open, so nesting has no
limit.
-/

namespace IRDiagnostics

namespace Json

/--
An open array or object. What it holds so far is latest first; an object also has the key of the
value that is being read.
-/
inductive Frame where
  | array (items : List Json)
  | object (members : List (Text × Json)) (key : Text)

/--
What the machine expects next, with the open arrays and objects, innermost first.
-/
inductive State where
  | awaitValue (outer : List Frame)
  /-- An item of a new array or its end. -/
  | firstItem (outer : List Frame)
  /-- A comma or the end of an array. -/
  | afterItem (items : List Json) (outer : List Frame)
  /-- A key of a new object or its end. -/
  | firstKey (outer : List Frame)
  | awaitKey (members : List (Text × Json)) (outer : List Frame)
  | awaitColon (members : List (Text × Json)) (key : Text) (outer : List Frame)
  /-- A comma or the end of an object. -/
  | afterMember (members : List (Text × Json)) (outer : List Frame)
  | done (value : Json)

/--
Put a complete value where it belongs.
-/
def State.complete (value : Json) : List Frame → State
  | [] => .done value
  | .array items :: outer => .afterItem (value :: items) outer
  | .object members key :: outer => .afterMember ((key, value) :: members) outer

/--
The machine after a token that starts a value.
-/
def State.start (outer : List Frame) : Token → Option State
  | .openBracket => some (.firstItem outer)
  | .openBrace => some (.firstKey outer)
  | .scalar value => some (.complete value outer)
  | _ => none

def State.next : State → Token → Option State
  | .awaitValue outer, token => start outer token
  | .firstItem outer, .closeBracket => some (complete (.array []) outer)
  | .firstItem outer, token => start (.array [] :: outer) token
  | .afterItem items outer, .comma => some (.awaitValue (.array items :: outer))
  | .afterItem items outer, .closeBracket => some (complete (.array items.reverse) outer)
  | .firstKey outer, .closeBrace => some (complete (.object []) outer)
  | .firstKey outer, .scalar (.string key) => some (.awaitColon [] key outer)
  | .awaitKey members outer, .scalar (.string key) => some (.awaitColon members key outer)
  | .awaitColon members key outer, .colon => some (.awaitValue (.object members key :: outer))
  | .afterMember members outer, .comma => some (.awaitKey members outer)
  | .afterMember members outer, .closeBrace => some (complete (.object members.reverse) outer)
  | _, _ => none

def State.run (state : State) : List Token → Option State
  | [] => some state
  | token :: tokens => do (← state.next token).run tokens

/--
The value a whole text stands for.
-/
def read? (text : String) : Option Json := do
  match ← (State.awaitValue []).run (← tokens? text.toList) with
  | .done value => some value
  | _ => none

end Json

end IRDiagnostics
