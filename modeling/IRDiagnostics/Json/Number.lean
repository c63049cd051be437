import IRDiagnostics.Binary64.Shortest
import IRDiagnostics.Json.Basic

/-!
This module contains the meaning of number literals. Only a literal without point and exponent is an
integer, and minus zero is none. Every literal is a floating-point number: its leading digits that
fit 64 bits, scaled by a rounded power of ten.

The other way round, a floating-point number is written with the fewest digits that identify it.
-/

namespace IRDiagnostics

namespace Json.Number

/--
The integer a literal stands for.
-/
def toInt? (number : Number) : Option Int :=
  if number.fraction = [] ∧ number.exponent = none then
    if number.negative then
      if number.whole = 0 then none else some (-number.whole)
    else
      some number.whole
  else
    none

def toUInt32? (number : Number) : Option UInt32 := do
  let value ← number.toInt?
  if 0 ≤ value ∧ value < UInt32.size then some (UInt32.ofInt value) else none

def toUInt64? (number : Number) : Option UInt64 := do
  let value ← number.toInt?
  if 0 ≤ value ∧ value < UInt64.size then some (UInt64.ofInt value) else none

def toInt64? (number : Number) : Option Int64 := do
  let value ← number.toInt?
  if Int64.minValue.toInt ≤ value ∧ value ≤ Int64.maxValue.toInt then
    some (Int64.ofInt value)
  else
    none

/--
The leading digits of a whole number that fit 64 bits, and the number of digits that follow them.
-/
def leading (whole : Nat) : Nat × Nat :=
  if whole < UInt64.size then
    (whole, 0)
  else
    let (significand, dropped) := leading (whole / 10)
    (significand, dropped + 1)
termination_by whole
decreasing_by
  have : UInt64.size = 0x10000000000000000 := rfl
  omega

/--
Append digits after the point to a significand until it would outgrow 64 bits. Each one lowers the
exponent; the digits that are left do not matter.
-/
def appendFraction (significand : Nat) (exponent : Int) : List (Fin 10) → Nat × Int
  | [] => (significand, exponent)
  | digit :: digits =>
    if significand * 10 + digit < UInt64.size then
      appendFraction (significand * 10 + digit) (exponent - 1) digits
    else
      (significand, exponent)

/--
The significand of 64 bits and the power of ten that a literal is read as.
-/
def significand (number : Number) : Nat × Int :=
  let (whole, dropped) := leading number.whole
  let (significand, exponent) := appendFraction whole dropped number.fraction
  (significand, exponent + number.exponent.getD 0)

/--
A power of ten as a floating-point number.
-/
def powerOfTen (exponent : Nat) : Binary64 := .ofRatio (Nat.pow 10 exponent) 1

/--
Scale a magnitude by a power of ten. Positive powers up to the greatest that is representable are
multiplied with, the others are too great; negative powers are divided by in portions.
-/
def scale (magnitude : Binary64) (exponent : Int) : Option Binary64 :=
  if 0 ≤ exponent then
    if exponent ≤ 308 then
      let product := magnitude.mulMagnitude (powerOfTen exponent.toNat)
      if product.isInfinite then none else some product
    else
      if magnitude = .zero then some magnitude else none
  else if -308 ≤ exponent then
    some (magnitude.divMagnitude (powerOfTen (-exponent).toNat))
  else if magnitude = .zero then
    some magnitude
  else
    scale (magnitude.divMagnitude (powerOfTen 308)) (exponent + 308)
termination_by exponent.natAbs
decreasing_by omega

/--
The floating-point number a literal is read as, none if its magnitude is too great.
-/
def toBinary64? (number : Number) : Option Binary64 := do
  let (significand, exponent) := number.significand
  let magnitude ← scale (.ofRatio significand 1) exponent
  return if number.negative then magnitude.neg else magnitude

/--
The digits of a number, of which the last `count` are given, most significant first.
-/
def lastDigits (n : Nat) : (count : Nat) → List (Fin 10)
  | 0 => []
  | count + 1 => lastDigits (n / 10) count ++ [Fin.ofNat 10 n]

/--
The literal for `digits * 10 ^ exponent`. It is positional if the first digit is at most sixteen
places before or five places behind the point, and then always has a point; otherwise the point
follows the first digit.
-/
def ofDecimal (negative : Bool) (digits : Nat) (exponent : Int) : Number :=
  let count := (Nat.toDigits 10 digits).length
  let point := count + exponent
  if 0 ≤ exponent ∧ point ≤ 16 then
    { negative, whole := digits * Nat.pow 10 exponent.toNat, fraction := [0] }
  else if -5 < point ∧ point ≤ 16 then
    let places := (-exponent).toNat
    { negative, whole := digits / Nat.pow 10 places, fraction := lastDigits digits places }
  else
    let places := count - 1
    { negative
      whole := digits / Nat.pow 10 places
      fraction := lastDigits digits places
      exponent := some (point - 1) }

/--
The literal for a floating-point number, none for what is not finite. Of two equally near decimals
the even one is taken.
-/
def ofBinary64? (x : Binary64) : Option Number :=
  match x.datum with
  | .finite negative significand exponent =>
    if significand = 0 then
      some { negative, whole := 0, fraction := [0] }
    else
      let (digits, exponent) := Binary64.shortest .even significand exponent
      some (ofDecimal negative digits exponent)
  | _ => none

end Json.Number

namespace Json

/--
A floating-point number that is not finite is written as `null`.
-/
def ofBinary64 (x : Binary64) : Json :=
  match Number.ofBinary64? x with
  | some literal => .number literal
  | none => .null

end Json

end IRDiagnostics
