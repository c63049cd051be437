import IRDiagnostics.Text.Unprintable

/-!
This module contains the form in which values are shown for inspection: a name, followed by named
fields in braces or by a content in parentheses, with texts in quotes.
-/

namespace IRDiagnostics

namespace Inspection

/--
A character inside quotes. What cannot be shown by itself is given by its code point.
-/
def quotedChar (c : Char) : String :=
  match c with
  | '\x00' => "\\0"
  | '\t' => "\\t"
  | '\n' => "\\n"
  | '\r' => "\\r"
  | '"' => "\\\""
  | '\\' => "\\\\"
  | c =>
    if isUnprintable c then
      "\\u\x7b" ++ String.ofList (Nat.toDigits 16 c.toNat) ++ "\x7d"
    else
      c.toString

def quoted (text : String) : String :=
  "\"" ++ String.join (text.toList.map quotedChar) ++ "\""

def commaSeparated (items : List String) : String := ", ".intercalate items

def list (items : List String) : String := "[" ++ commaSeparated items ++ "]"

def wrapped (name content : String) : String := name ++ "(" ++ content ++ ")"

def record (name : String) (fields : List (String × String)) : String :=
  let fields := fields.map fun (field, value) => field ++ ": " ++ value
  name ++ " \x7b " ++ commaSeparated fields ++ " \x7d"

def optional (value? : Option String) : String :=
  match value? with
  | some value => wrapped "Some" value
  | none => "None"

end Inspection

end IRDiagnostics
