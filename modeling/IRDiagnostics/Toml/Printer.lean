import IRDiagnostics.Toml.Document

/-!
This module contains how parts of TOML texts are written: basic strings on one line, arrays of them,
truth values, assignments to bare keys and headers.
-/

namespace IRDiagnostics

namespace Toml

/--
What a writer of texts may choose freely.
-/
structure Layout where
  /-- The number of spaces after a comma. -/
  spaces : Nat := 1
  /-- Whether hexadecimal digits are capital letters. -/
  capitals : Bool := false
  /-- Whether the last line ends like the others. -/
  lastLineEnd : Bool := true

namespace Layout

def hexDigit (layout : Layout) (digit : Nat) : Char :=
  if layout.capitals then (Nat.digitChar digit).toUpper else Nat.digitChar digit

/--
How a character is written inside a basic string. Control characters are written in four hexadecimal
digits, whether they have a short escape or not.
-/
def escape (layout : Layout) (c : Char) : List Char :=
  match c with
  | '"' => ['\\', '"']
  | '\\' => ['\\', '\\']
  | c =>
    if c.toNat < 0x20 || c.toNat = 0x7F then
      ['\\', 'u', '0', '0', layout.hexDigit (c.toNat / 16), layout.hexDigit (c.toNat % 16)]
    else
      [c]

def quoted (layout : Layout) (text : String) : List Char :=
  '"' :: text.toList.flatMap layout.escape ++ ['"']

def separator (layout : Layout) : List Char := ',' :: List.replicate layout.spaces ' '

def array (layout : Layout) : List String → List Char
  | [] => ['[', ']']
  | text :: texts =>
    '[' :: layout.quoted text ++
      texts.flatMap (fun text => layout.separator ++ layout.quoted text) ++ [']']

end Layout

def booleanChars (value : Bool) : List Char :=
  if value then ['t', 'r', 'u', 'e'] else ['f', 'a', 'l', 's', 'e']

/--
A line without its end.
-/
def assignmentChars (key : String) (value : List Char) : List Char :=
  key.toList ++ ' ' :: '=' :: ' ' :: value

/--
A line without its end.
-/
def headerChars (key : String) : List Char := '[' :: key.toList ++ [']']

/--
The text of several lines.
-/
def Layout.lines (layout : Layout) : List (List Char) → List Char
  | [] => []
  | [line] => line ++ if layout.lastLineEnd then ['\n'] else []
  | line :: lines => line ++ '\n' :: layout.lines lines

end Toml

end IRDiagnostics
