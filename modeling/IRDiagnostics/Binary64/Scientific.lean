import IRDiagnostics.Binary64.Rounding

/-!
This module contains the exponent form in which diagnostics show floating-point numbers: seven
significant digits, rounded to nearest from the exact value with ties to even, and an exponent of at
least two digits that always has a sign. The digits are written first, with an exponent as short as
possible, which is then read back and widened.
-/

namespace IRDiagnostics

namespace Binary64

/--
A positive ratio as seven digits and the exponent of the first one. Rounding can carry into an
eighth digit, in which case the exponent grows by one.
-/
def sevenDigits (num den : Nat) : Nat × Int :=
  let exponent := decimalExponent num den
  let digits := roundHalf .even (num * Nat.pow 10 (6 - exponent).toNat)
    (den * Nat.pow 10 (exponent - 6).toNat)
  if digits = 10000000 then (1000000, exponent + 1) else (digits, exponent)

/--
Seven digits with a point after the first one, followed by the exponent.
-/
def digitsChars (digits : Nat) (exponent : Int) : List Char :=
  match Nat.toDigits 10 digits with
  | [] => []
  | first :: rest =>
    first :: '.' :: rest ++ 'e' :: (if exponent < 0 then ['-'] else []) ++
      Nat.toDigits 10 exponent.natAbs

def signChars (negative : Bool) : List Char := if negative then ['-'] else []

/--
The exponent form in which the exponent has a sign only if it is negative and no leading zeros.
-/
def shortChars : Datum → List Char
  | .nan => ['N', 'a', 'N']
  | .infinite negative => signChars negative ++ ['i', 'n', 'f']
  | .finite negative significand exponent =>
    signChars negative ++
      if significand = 0 then
        ['0', '.', '0', '0', '0', '0', '0', '0', 'e', '0']
      else
        let (num, den) := ratio significand exponent
        let (digits, exponent) := sevenDigits num den
        digitsChars digits exponent

/--
The parts of a text before and after the first `e` in it.
-/
def splitExponent? (chars : List Char) : Option (List Char × List Char) :=
  match chars.dropWhile (· ≠ 'e') with
  | [] => none
  | _ :: exponent => some (chars.takeWhile (· ≠ 'e'), exponent)

/--
The number of a sign and digits, none if it does not fit 32 bits.
-/
def signedNumber? (negative : Bool) (digits : List Char) : Option Int :=
  if digits = [] ∨ ¬ digits.all (·.isDigit) then
    none
  else
    let magnitude := Nat.ofDigitChars 10 digits 0
    let value : Int := if negative then -magnitude else magnitude
    if Int32.minValue.toInt ≤ value ∧ value ≤ Int32.maxValue.toInt then some value else none

/--
A whole number with an optional sign.
-/
def exponent? : List Char → Option Int
  | '-' :: digits => signedNumber? true digits
  | '+' :: digits => signedNumber? false digits
  | digits => signedNumber? false digits

/--
An exponent with its sign and at least two digits.
-/
def exponentChars (exponent : Int) : List Char :=
  (if exponent < 0 then '-' else '+') :: (if exponent.natAbs < 10 then ['0'] else []) ++
    Nat.toDigits 10 exponent.natAbs

/--
Write the exponent of a text with its sign and at least two digits. An exponent that cannot be read
counts as zero, and a text without exponent stays as it is.
-/
def widenExponent (chars : List Char) : List Char :=
  match splitExponent? chars with
  | some (mantissa, exponent) =>
    mantissa ++ 'e' :: exponentChars ((exponent? exponent).getD 0)
  | none => chars

def scientific (x : Binary64) : String := String.ofList (widenExponent (shortChars x.datum))

end Binary64

end IRDiagnostics
