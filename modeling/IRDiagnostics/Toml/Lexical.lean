import IRDiagnostics.Text.Reader

/-!
This module contains the blanks, line ends and comments of TOML texts.
-/

namespace IRDiagnostics

namespace Toml

def isBlank (c : Char) : Bool := c = ' ' || c = '\t'

/--
Whether a character may stand in a comment: no control character but the tab.
-/
def isCommentChar (c : Char) : Bool := c = '\t' || 0x20 ≤ c.toNat && c.toNat ≠ 0x7F

def blanks : Reader Unit := do
  let _ ← Reader.takeWhile isBlank

def newline : Reader Unit := Reader.char '\n' <|> Reader.word ['\r', '\n']

/--
The end of the text.
-/
def endOfText : Reader Unit
  | [] => some ((), [])
  | _ => none

def comment : Reader Unit := do
  Reader.char '#'
  let _ ← Reader.takeWhile isCommentChar

def lineEnd : Reader Unit := newline <|> endOfText

/--
What may follow a statement on its line.
-/
def lineRest : Reader Unit := do
  blanks
  let _ ← optional comment
  lineEnd

/--
Blanks, or a line end with the comment in front of it.
-/
def gapPart : Reader Unit :=
  (do let _ ← Reader.takeWhile1 isBlank) <|>
  (do let _ ← optional comment; newline)

/--
Blanks, line ends and comments between the parts of an array.
-/
def gap : Reader Unit := do
  let _ ← Reader.many gapPart

end Toml

end IRDiagnostics
