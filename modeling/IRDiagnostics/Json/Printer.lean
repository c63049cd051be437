import IRDiagnostics.Json.Basic

/-!
This module contains the compact text of JSON values: no blanks, and only the escapes that strings
cannot do without.
-/

namespace IRDiagnostics

namespace Json

/--
How a character is written inside a string literal. Control characters without a short escape are
written in four hexadecimal digits.
-/
def escape (c : Char) : List Char :=
  match c with
  | '"' => ['\\', '"']
  | '\\' => ['\\', '\\']
  | '\x08' => ['\\', 'b']
  | '\x0c' => ['\\', 'f']
  | '\n' => ['\\', 'n']
  | '\r' => ['\\', 'r']
  | '\t' => ['\\', 't']
  | c =>
    if c.toNat < 0x20 then
      ['\\', 'u', '0', '0', Nat.digitChar (c.toNat / 16), Nat.digitChar (c.toNat % 16)]
    else
      [c]

/--
A string literal. One that stands for no text is written as a lone surrogate.
-/
def Text.chars : Text → List Char
  | some text => '"' :: text.toList.flatMap escape ++ ['"']
  | none => ['"', '\\', 'u', 'd', '8', '0', '0', '"']

def digit (d : Fin 10) : Char := Nat.digitChar d

def fractionChars (digits : List (Fin 10)) : List Char :=
  if digits = [] then [] else '.' :: digits.map digit

/--
An exponent always has a sign.
-/
def exponentChars : Option Int → List Char
  | some exponent =>
    'e' :: (if exponent < 0 then '-' else '+') :: Nat.toDigits 10 exponent.natAbs
  | none => []

def Number.chars (number : Number) : List Char :=
  (if number.negative then ['-'] else []) ++ Nat.toDigits 10 number.whole ++
    fractionChars number.fraction ++ exponentChars number.exponent

mutual

def chars : Json → List Char
  | .null => ['n', 'u', 'l', 'l']
  | .bool true => ['t', 'r', 'u', 'e']
  | .bool false => ['f', 'a', 'l', 's', 'e']
  | .number literal => literal.chars
  | .string text => text.chars
  | .array [] => ['[', ']']
  | .array (item :: items) => '[' :: item.chars ++ itemsChars items
  | .object [] => ['\x7b', '\x7d']
  | .object ((key, value) :: members) =>
    '\x7b' :: key.chars ++ ':' :: value.chars ++ membersChars members

/--
The rest of an array after its first item.
-/
def itemsChars : List Json → List Char
  | [] => [']']
  | item :: items => ',' :: item.chars ++ itemsChars items

/--
The rest of an object after its first member.
-/
def membersChars : List (Text × Json) → List Char
  | [] => ['\x7d']
  | (key, value) :: members => ',' :: key.chars ++ ':' :: value.chars ++ membersChars members

end

def compact (json : Json) : String := String.ofList json.chars

end Json

end IRDiagnostics
