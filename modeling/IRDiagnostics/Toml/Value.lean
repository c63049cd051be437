import IRDiagnostics.Toml.DateTime
import IRDiagnostics.Toml.Number
import IRDiagnostics.Toml.Quoted

/-!
This module contains the values of TOML texts as they are written, and their reading. Arrays and
inline tables may be nested up to a limit.
-/

namespace IRDiagnostics

namespace Toml

inductive Scalar where
  | string (text : String)
  | integer (value : Int64)
  | float (value : Binary64)
  | dateTime (value : DateTime)
  | boolean (value : Bool)
  deriving DecidableEq

/--
A key with the dots in it taken apart: it leads from table to table.
-/
abbrev Key := List String

/--
A value as it is written. The keys of an inline table are not yet resolved.
-/
inductive Value where
  | scalar (value : Scalar)
  | array (items : List Value)
  | inlineTable (entries : List (Key × Value))

/--
The greatest depth of arrays and inline tables in each other, and of the tables that a key can lead
through.
-/
def nestingLimit : Nat := 79

def isBareKeyChar (c : Char) : Bool := c.isAlphanum || c = '_' || c = '-'

/--
A part of a key: a bare word or a string on one line.
-/
def keyPart : Reader String := do
  blanks
  let chars ← Reader.takeWhile1 isBareKeyChar <|> basicString <|> literalString
  blanks
  return String.ofList chars

def key : Reader Key := do
  let first ← keyPart
  let rest ← Reader.many (Reader.char '.' *> keyPart)
  guard (rest.length + 1 ≤ nestingLimit)
  return first :: rest

def boolean : Reader Bool :=
  (do Reader.word ['t', 'r', 'u', 'e']; return true) <|>
  (do Reader.word ['f', 'a', 'l', 's', 'e']; return false)

def scalar : Reader Scalar :=
  (do return .string (← string)) <|>
  (do return .dateTime (← dateTime)) <|>
  (do return .float (← float)) <|>
  (do return .integer (← integer)) <|>
  (do return .boolean (← boolean))

/--
The items of an array, which may be spread over several lines. A comma may follow the last one.
-/
def array {α : Type} (item : Reader α) : Reader (List α) := do
  Reader.char '['
  let items ← Reader.separated (gap *> item <* gap) (Reader.char ',')
  if !items.isEmpty then
    let _ ← optional (Reader.char ',')
  gap
  Reader.char ']'
  return items

/--
A key, an equals sign and a value, all on one line.
-/
def keyValue {α : Type} (value : Reader α) : Reader (Key × α) := do
  let key ← key
  Reader.char '='
  blanks
  let value ← value
  blanks
  return (key, value)

def inlineTable {α : Type} (value : Reader α) : Reader (List (Key × α)) := do
  Reader.char '\x7b'
  let entries ← Reader.separated (keyValue value) (Reader.char ',')
  blanks
  Reader.char '\x7d'
  return entries

/--
A value with at most the given depth of arrays and inline tables.
-/
def valueWithin : (depth : Nat) → Reader Value
  | 0 => return .scalar (← scalar)
  | depth + 1 =>
    (do return .scalar (← scalar)) <|>
    (do return .array (← array (valueWithin depth))) <|>
    (do return .inlineTable (← inlineTable (valueWithin depth)))

def value : Reader Value := valueWithin nestingLimit

end Toml

end IRDiagnostics
