/-!
This module contains the values of JSON. Numbers are kept as they are written, because what a number
means depends on what it is read as; objects keep their members in order and may repeat a key.
-/

namespace IRDiagnostics

namespace Json

/--
The text that a string literal stands for. There is none if one of its escapes is a surrogate
without its other half.
-/
abbrev Text := Option String

/--
A number literal: a whole part, the digits after the point, and the power of ten. No digits after
the point means that there is no point.
-/
structure Number where
  negative : Bool := false
  whole : Nat
  fraction : List (Fin 10) := []
  exponent : Option Int := none
  deriving DecidableEq

end Json

inductive Json where
  | null
  | bool (value : Bool)
  | number (number : Json.Number)
  | string (text : Json.Text)
  | array (items : List Json)
  | object (members : List (Json.Text × Json))

namespace Json

def ofString (text : String) : Json := .string (some text)

def ofNat (n : Nat) : Json := .number { whole := n }

def ofInt (n : Int) : Json := .number { negative := n < 0, whole := n.natAbs }

def ofList (encode : α → Json) (items : List α) : Json := .array (items.map encode)

/--
An object with the given members.
-/
def ofMembers (members : List (String × Json)) : Json :=
  .object (members.map fun (key, value) => (some key, value))

mutual

/--
How many arrays and objects lie in each other.
-/
def nesting : Json → Nat
  | .array items => itemsNesting items + 1
  | .object members => membersNesting members + 1
  | _ => 0

def itemsNesting : List Json → Nat
  | [] => 0
  | item :: items => max item.nesting (itemsNesting items)

def membersNesting : List (Text × Json) → Nat
  | [] => 0
  | (_, value) :: members => max value.nesting (membersNesting members)

end

end Json

end IRDiagnostics
