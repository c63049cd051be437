import IRDiagnostics.Text.Hexadecimal
import IRDiagnostics.Toml.Lexical

/-!
This module contains the four forms of TOML strings. Basic strings have escapes and literal strings
have none; each form exists for one line and for several.
-/

namespace IRDiagnostics

namespace Toml

/--
Whether a character stands for itself in a basic string.
-/
def isBasicChar (c : Char) : Bool := isCommentChar c && c ≠ '"' && c ≠ '\\'

/--
Whether a character may stand in a literal string.
-/
def isLiteralChar (c : Char) : Bool := isCommentChar c && c ≠ '\x27'

def unescape? : Char → Option Char
  | 'b' => some '\x08'
  | 't' => some '\t'
  | 'n' => some '\n'
  | 'f' => some '\x0c'
  | 'r' => some '\r'
  | '"' => some '"'
  | '\\' => some '\\'
  | _ => none

/--
The character with the given hexadecimal code point, which may not be a surrogate.
-/
def codePoint? (digits : List Char) : Option Char := do
  let value ← digitsValue? 16 digits
  if value.isValidChar then some (Char.ofNat value) else none

/--
The text of an escape sequence after its backslash, and what follows.
-/
def escape? : List Char → Option (Char × List Char)
  | 'u' :: a :: b :: c :: d :: rest => return (← codePoint? [a, b, c, d], rest)
  | 'U' :: a :: b :: c :: d :: e :: f :: g :: h :: rest =>
    return (← codePoint? [a, b, c, d, e, f, g, h], rest)
  | c :: rest => return (← unescape? c, rest)
  | [] => none

theorem escape?_length {chars rest : List Char} {c : Char} (h : escape? chars = some (c, rest)) :
    rest.length < chars.length := by
  unfold escape? at h
  split at h <;> simp [Option.bind_eq_some_iff] at h
  all_goals
    obtain ⟨_, -, -, rfl⟩ := h
    simp
  all_goals omega

/--
A basic string up to its closing quote.
-/
def basicRest (chars : List Char) : Option (List Char × List Char) :=
  match chars with
  | [] => none
  | '"' :: rest => some ([], rest)
  | '\\' :: rest =>
    match h : escape? rest with
    | some (c, after) => do
      have := escape?_length h
      let (text, rest) ← basicRest after
      return (c :: text, rest)
    | none => none
  | c :: rest =>
    if isBasicChar c then do
      let (text, rest) ← basicRest rest
      return (c :: text, rest)
    else
      none
termination_by chars.length
decreasing_by all_goals simp only [List.length_cons]; omega

/--
Drop the blanks and line ends in front of a text.
-/
def dropGap : List Char → List Char
  | ' ' :: rest => dropGap rest
  | '\t' :: rest => dropGap rest
  | '\n' :: rest => dropGap rest
  | '\r' :: '\n' :: rest => dropGap rest
  | chars => chars

theorem length_dropGap_le (chars : List Char) : (dropGap chars).length ≤ chars.length := by
  fun_induction dropGap chars <;> grind

/--
A backslash at the end of a line takes the gap up to the next text away. What follows is the text
after the backslash.
-/
def lineContinuation? (chars : List Char) : Option (List Char) :=
  match chars.dropWhile isBlank with
  | '\n' :: rest => some (dropGap rest)
  | '\r' :: '\n' :: rest => some (dropGap rest)
  | _ => none

theorem lineContinuation?_length {chars rest : List Char}
    (h : lineContinuation? chars = some rest) : rest.length < chars.length := by
  have := (List.dropWhile_suffix (l := chars) isBlank).length_le
  unfold lineContinuation? at h
  split at h
  . next tail heq =>
    have := length_dropGap_le tail
    simp only [heq, List.length_cons] at *
    simp only [Option.some.injEq] at h
    subst h
    omega
  . next tail heq =>
    have := length_dropGap_le tail
    simp only [heq, List.length_cons] at *
    simp only [Option.some.injEq] at h
    subst h
    omega
  . contradiction

/--
A basic string of several lines up to its closing quotes. Up to two quotes in front of the closing
ones belong to the text.
-/
def multiLineBasicRest (chars : List Char) : Option (List Char × List Char) :=
  match chars with
  | [] => none
  | '"' :: '"' :: '"' :: '"' :: '"' :: rest => some (['"', '"'], rest)
  | '"' :: '"' :: '"' :: '"' :: rest => some (['"'], rest)
  | '"' :: '"' :: '"' :: rest => some ([], rest)
  | '"' :: rest => do
    let (text, rest) ← multiLineBasicRest rest
    return ('"' :: text, rest)
  | '\\' :: rest =>
    match hline : lineContinuation? rest with
    | some after =>
      have := lineContinuation?_length hline
      multiLineBasicRest after
    | none =>
      match h : escape? rest with
      | some (c, after) => do
        have := escape?_length h
        let (text, rest) ← multiLineBasicRest after
        return (c :: text, rest)
      | none => none
  | '\n' :: rest => do
    let (text, rest) ← multiLineBasicRest rest
    return ('\n' :: text, rest)
  | '\r' :: '\n' :: rest => do
    let (text, rest) ← multiLineBasicRest rest
    return ('\n' :: text, rest)
  | c :: rest =>
    if isBasicChar c then do
      let (text, rest) ← multiLineBasicRest rest
      return (c :: text, rest)
    else
      none
termination_by chars.length
decreasing_by all_goals simp only [List.length_cons]; omega

/--
A literal string up to its closing apostrophe.
-/
def literalRest : List Char → Option (List Char × List Char)
  | [] => none
  | '\x27' :: rest => some ([], rest)
  | c :: rest =>
    if isLiteralChar c then do
      let (text, rest) ← literalRest rest
      return (c :: text, rest)
    else
      none

/--
A literal string of several lines up to its closing apostrophes. Up to two apostrophes in front of
the closing ones belong to the text.
-/
def multiLineLiteralRest : List Char → Option (List Char × List Char)
  | [] => none
  | '\x27' :: '\x27' :: '\x27' :: '\x27' :: '\x27' :: rest => some (['\x27', '\x27'], rest)
  | '\x27' :: '\x27' :: '\x27' :: '\x27' :: rest => some (['\x27'], rest)
  | '\x27' :: '\x27' :: '\x27' :: rest => some ([], rest)
  | '\x27' :: rest => do
    let (text, rest) ← multiLineLiteralRest rest
    return ('\x27' :: text, rest)
  | '\n' :: rest => do
    let (text, rest) ← multiLineLiteralRest rest
    return ('\n' :: text, rest)
  | '\r' :: '\n' :: rest => do
    let (text, rest) ← multiLineLiteralRest rest
    return ('\n' :: text, rest)
  | c :: rest =>
    if isLiteralChar c then do
      let (text, rest) ← multiLineLiteralRest rest
      return (c :: text, rest)
    else
      none

def basicString : Reader (List Char) := do
  Reader.char '"'
  basicRest

def literalString : Reader (List Char) := do
  Reader.char '\x27'
  literalRest

/--
A line end right after the opening quotes does not belong to the text.
-/
def multiLineBasicString : Reader (List Char) := do
  Reader.word ['"', '"', '"']
  let _ ← optional newline
  multiLineBasicRest

def multiLineLiteralString : Reader (List Char) := do
  Reader.word ['\x27', '\x27', '\x27']
  let _ ← optional newline
  multiLineLiteralRest

/--
Three quotes always open a string of several lines.
-/
def string : Reader String := do
  let text ← multiLineBasicString <|> multiLineLiteralString <|> basicString <|> literalString
  return String.ofList text

end Toml

end IRDiagnostics
