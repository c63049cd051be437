/-!
This module contains readers, which take a value off the front of a text and leave the rest. A
reader that fails leaves the text as it was, so `<|>` tries its alternatives on the same text.
-/

namespace IRDiagnostics

abbrev Reader (α : Type) := StateT (List Char) Option α

namespace Reader

variable {α : Type}

/--
The first character, if it satisfies `p`.
-/
def satisfy (p : Char → Bool) : Reader Char
  | c :: rest => if p c then some (c, rest) else none
  | [] => none

def char (c : Char) : Reader Unit
  | d :: rest => if c = d then some ((), rest) else none
  | [] => none

def word (chars : List Char) : Reader Unit := chars.forM char

/--
The longest run of characters that satisfy `p`.
-/
def takeWhile (p : Char → Bool) : Reader (List Char) :=
  fun chars => some (chars.takeWhile p, chars.dropWhile p)

/--
As `takeWhile`, but the run may not be empty.
-/
def takeWhile1 (p : Char → Bool) : Reader (List Char)
  | c :: rest => if p c then some (c :: rest.takeWhile p, rest.dropWhile p) else none
  | [] => none

/--
Read as often as possible, but at most once for every character of `bound`.
-/
def manyWithin (reader : Reader α) : (bound chars : List Char) → List α × List Char
  | [], chars => ([], chars)
  | _ :: bound, chars =>
    match reader chars with
    | none => ([], chars)
    | some (x, rest) =>
      let (xs, rest) := manyWithin reader bound rest
      (x :: xs, rest)

/--
Read as often as possible. Readings that each take a character off the text are never cut short.
-/
def many (reader : Reader α) : Reader (List α) :=
  fun chars => some (manyWithin reader chars chars)

/--
Any number of items with a separator between each two of them.
-/
def separated (item : Reader α) (separator : Reader Unit) : Reader (List α) :=
  (do
    let x ← item
    let xs ← many (separator *> item)
    return x :: xs) <|>
  pure []

/--
Read a whole text.
-/
def all (reader : Reader α) (chars : List Char) : Option α :=
  match reader chars with
  | some (x, []) => some x
  | _ => none

end Reader

end IRDiagnostics
