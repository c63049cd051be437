import IRDiagnostics.Binary64.Rounding
import IRDiagnostics.Text.Hexadecimal
import IRDiagnostics.Toml.Lexical

/-!
This module contains the integers and floating-point numbers of TOML texts. Single underscores may
stand between digits.
-/

namespace IRDiagnostics

namespace Toml

/--
One or more digits, without the underscores between them.
-/
def digits (isDigit : Char → Bool) : Reader (List Char) := do
  let first ← Reader.satisfy isDigit
  let rest ← Reader.many <|
    Reader.satisfy isDigit <|> (do Reader.char '_'; Reader.satisfy isDigit)
  return first :: rest

/--
Whether a minus sign stands here. A plus sign is read too.
-/
def sign : Reader Bool := do
  let sign ← optional (Reader.satisfy fun c => c = '+' || c = '-')
  return sign = some '-'

/--
A decimal number without leading zeros.
-/
def decimal : Reader Nat :=
  (do Reader.char '0'; return 0) <|>
  (do return Nat.ofDigitChars 10 (← digits (·.isDigit)) 0)

def isDigitOf (base : Nat) (c : Char) : Bool :=
  match hexValue? c with
  | some value => value < base
  | none => false

/--
A number of another base after its mark. It has no sign.
-/
def basedNumber (mark : Char) (base : Nat) : Reader Nat := do
  Reader.word ['0', mark]
  let chars ← digits (isDigitOf base)
  liftM (digitsValue? base chars)

def signedDecimal : Reader Int := do
  let negative ← sign
  let magnitude ← decimal
  return if negative then -magnitude else magnitude

/--
An integer of any of the four bases. It has to fit 64 bits.
-/
def integer : Reader Int64 := do
  let value : Int ←
    (do return ↑(← basedNumber 'x' 16)) <|>
    (do return ↑(← basedNumber 'o' 8)) <|>
    (do return ↑(← basedNumber 'b' 2)) <|>
    signedDecimal
  guard (Int64.minValue.toInt ≤ value ∧ value ≤ Int64.maxValue.toInt)
  return Int64.ofInt value

/--
The digits after the point. Zeros may lead.
-/
def fraction : Reader (List Char) := do
  Reader.char '.'
  digits (·.isDigit)

def exponent : Reader Int := do
  let _ ← Reader.satisfy fun c => c = 'e' || c = 'E'
  let negative ← sign
  let magnitude := Nat.ofDigitChars 10 (← digits (·.isDigit)) 0
  return if negative then -magnitude else magnitude

/--
A fraction, an exponent or both.
-/
def scaling : Reader (List Char × Int) :=
  (do
    let places ← fraction
    return (places, (← optional exponent).getD 0)) <|>
  (do return ([], ← exponent))

/--
A number with fraction or exponent. One that is too great to be represented is refused if it is
positive and infinite if it is negative.
-/
def finiteFloat : Reader Binary64 := do
  let negative ← sign
  let whole ← decimal
  let (places, exponent) ← scaling
  let value := Binary64.ofDecimal (Nat.ofDigitChars 10 places whole) (exponent - places.length)
  guard (negative || !value.isInfinite)
  return if negative then value.neg else value

def specialFloat : Reader Binary64 := do
  let negative ← sign
  let value ←
    (do Reader.word ['i', 'n', 'f']; return Binary64.infinity) <|>
    (do Reader.word ['n', 'a', 'n']; return Binary64.quietNaN)
  return if negative then value.neg else value

def float : Reader Binary64 := finiteFloat <|> specialFloat

end Toml

end IRDiagnostics
