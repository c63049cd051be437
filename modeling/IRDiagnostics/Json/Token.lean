import IRDiagnostics.Json.Basic
import IRDiagnostics.Text.Hexadecimal
import IRDiagnostics.Text.Reader

/-!
This module contains the tokens of JSON texts and their strict reading: no leading zeros, no control
characters inside strings, no other escapes than those of the standard.
-/

namespace IRDiagnostics

namespace Json

inductive Token where
  | openBracket
  | closeBracket
  | openBrace
  | closeBrace
  | comma
  | colon
  /-- A literal, a number or a string. -/
  | scalar (value : Json)

/--
What a string literal is made of: characters, and the 16 bit units of its hexadecimal escapes.
-/
inductive Piece where
  | char (c : Char)
  | unit (value : Nat)
  deriving DecidableEq

/--
The value of four hexadecimal digits.
-/
def unit? (a b c d : Char) : Option Nat := do
  return (((← hexValue? a) * 16 + (← hexValue? b)) * 16 + (← hexValue? c)) * 16 + (← hexValue? d)

def unescape? : Char → Option Char
  | '"' => some '"'
  | '\\' => some '\\'
  | '/' => some '/'
  | 'b' => some '\x08'
  | 'f' => some '\x0c'
  | 'n' => some '\n'
  | 'r' => some '\r'
  | 't' => some '\t'
  | _ => none

/--
The pieces of a string literal up to its closing quote.
-/
def pieces : List Char → Option (List Piece × List Char)
  | [] => none
  | '"' :: rest => some ([], rest)
  | '\\' :: 'u' :: a :: b :: c :: d :: rest => do
    let unit ← unit? a b c d
    let (pieces, rest) ← pieces rest
    return (.unit unit :: pieces, rest)
  | '\\' :: c :: rest => do
    let c ← unescape? c
    let (pieces, rest) ← pieces rest
    return (.char c :: pieces, rest)
  | c :: rest =>
    if c.toNat < 0x20 then
      none
    else do
      let (pieces, rest) ← pieces rest
      return (.char c :: pieces, rest)

def isHighSurrogate (unit : Nat) : Bool := 0xD800 ≤ unit && unit < 0xDC00

def isLowSurrogate (unit : Nat) : Bool := 0xDC00 ≤ unit && unit < 0xE000

/--
The text of the pieces. A high surrogate has to be followed by a low one, and a low one to be
preceded by a high one.
-/
def join? : List Piece → Option (List Char)
  | [] => some []
  | .char c :: rest => (c :: ·) <$> join? rest
  | .unit high :: .unit low :: rest =>
    if isHighSurrogate high then
      if isLowSurrogate low then
        (Char.ofNat (0x10000 + (high - 0xD800) * 0x400 + (low - 0xDC00)) :: ·) <$> join? rest
      else
        none
    else if isLowSurrogate high then
      none
    else
      (Char.ofNat high :: ·) <$> join? (.unit low :: rest)
  | .unit unit :: rest =>
    if isHighSurrogate unit || isLowSurrogate unit then
      none
    else
      (Char.ofNat unit :: ·) <$> join? rest

def textReader : Reader Text := do
  Reader.char '"'
  let pieces ← pieces
  return (join? pieces).map String.ofList

def digitValue (c : Char) : Fin 10 := ⟨(c.toNat - '0'.toNat) % 10, Nat.mod_lt _ (by decide)⟩

/--
A whole number without leading zeros.
-/
def wholeReader : Reader Nat :=
  (do Reader.char '0'; return 0) <|>
  (do return Nat.ofDigitChars 10 (← Reader.takeWhile1 (·.isDigit)) 0)

def fractionReader : Reader (List (Fin 10)) := do
  Reader.char '.'
  return (← Reader.takeWhile1 (·.isDigit)).map digitValue

def exponentReader : Reader Int := do
  let _ ← Reader.satisfy fun c => c = 'e' || c = 'E'
  let sign ← optional (Reader.satisfy fun c => c = '+' || c = '-')
  let magnitude := Nat.ofDigitChars 10 (← Reader.takeWhile1 (·.isDigit)) 0
  return if sign = some '-' then -magnitude else magnitude

def numberReader : Reader Number := do
  let minus ← optional (Reader.char '-')
  let whole ← wholeReader
  let fraction ← optional fractionReader
  let exponent ← optional exponentReader
  return { negative := minus.isSome, whole, fraction := fraction.getD [], exponent }

def isBlank (c : Char) : Bool := c = ' ' || c = '\n' || c = '\r' || c = '\t'

/--
A token and the blanks in front of it.
-/
def tokenReader : Reader Token := do
  let _ ← Reader.takeWhile isBlank
  (do Reader.char '['; return .openBracket) <|>
  (do Reader.char ']'; return .closeBracket) <|>
  (do Reader.char '\x7b'; return .openBrace) <|>
  (do Reader.char '\x7d'; return .closeBrace) <|>
  (do Reader.char ','; return .comma) <|>
  (do Reader.char ':'; return .colon) <|>
  (do Reader.word ['n', 'u', 'l', 'l']; return .scalar .null) <|>
  (do Reader.word ['t', 'r', 'u', 'e']; return .scalar (.bool true)) <|>
  (do Reader.word ['f', 'a', 'l', 's', 'e']; return .scalar (.bool false)) <|>
  (do return .scalar (.number (← numberReader))) <|>
  (do return .scalar (.string (← textReader)))

/--
The tokens of a whole text.
-/
def tokens? (chars : List Char) : Option (List Token) :=
  Reader.all (do
    let tokens ← Reader.many tokenReader
    let _ ← Reader.takeWhile isBlank
    return tokens) chars

end Json

end IRDiagnostics
