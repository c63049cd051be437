import IRDiagnostics.Binary64.Basic

/-!
This module contains the rounding of positive ratios of natural numbers: to an integer, to a number
of 64 bits, and down to a power of two or of ten. All of it is exact arithmetic on `Nat`.
-/

namespace IRDiagnostics

/--
Which of two equally near integers a ratio is rounded to.
-/
inductive Tie where
  | even
  | up
  deriving DecidableEq

/--
The integer nearest to `num / den`.
-/
def roundHalf (tie : Tie) (num den : Nat) : Nat :=
  let quotient := num / den
  let remainder := num % den
  if 2 * remainder < den then
    quotient
  else if den < 2 * remainder then
    quotient + 1
  else
    match tie with
    | .even => quotient + quotient % 2
    | .up => quotient + 1

/--
The exponent of the greatest power of ten that is at most `num / den`, for positive operands.
-/
def decimalExponent (num den : Nat) : Int :=
  if den ≤ num then
    (Nat.toDigits 10 (num / den)).length - 1
  else
    -(Nat.toDigits 10 ((den - 1) / num)).length

/--
The exponent of the greatest power of two that is at most `num / den`, for positive operands.
-/
def binaryExponent (num den : Nat) : Int :=
  if den ≤ num then
    (num / den).log2
  else
    -(((den - 1) / num).log2 + 1)

namespace Binary64

/--
The number nearest to the ratio `num / den`, ties to the even significand. The significand gets 53
bits unless the exponent would fall below that of the subnormal numbers; a significand that is
rounded up to a power of two carries into the exponent, and what exceeds the format is infinite.
-/
def ofRatio (num den : Nat) : Binary64 :=
  if num = 0 then
    zero
  else
    let exponent := max (binaryExponent num den - 52) (-1074)
    let significand := roundHalf .even (num <<< (-exponent).toNat) (den <<< exponent.toNat)
    let pattern := (exponent + 1074).toNat <<< 52 + significand
    if 2047 <<< 52 ≤ pattern then infinity else ⟨UInt64.ofNat pattern⟩

/--
The number nearest to `digits * 10 ^ exponent`. Beyond `10 ^ 400` every number is infinite and below
`10 ^ -400` it is zero, so no greater powers need to be computed.
-/
def ofDecimal (digits : Nat) (exponent : Int) : Binary64 :=
  if digits = 0 ∨ (Nat.toDigits 10 digits).length + exponent < -400 then
    zero
  else if 400 < exponent then
    infinity
  else
    ofRatio (digits * Nat.pow 10 exponent.toNat) (Nat.pow 10 (-exponent).toNat)

/--
The magnitude of a finite number as a ratio in which the numerator or the denominator is a power
of two.
-/
def ratio (significand : Nat) (exponent : Int) : Nat × Nat :=
  (significand <<< exponent.toNat, 1 <<< (-exponent).toNat)

/--
The ratio of a number's magnitude, zero for what is not finite.
-/
def magnitude (x : Binary64) : Nat × Nat :=
  match x.datum with
  | .finite _ significand exponent => ratio significand exponent
  | _ => (0, 1)

/--
The rounded product of the magnitudes of two finite numbers.
-/
def mulMagnitude (x y : Binary64) : Binary64 :=
  ofRatio (x.magnitude.1 * y.magnitude.1) (x.magnitude.2 * y.magnitude.2)

/--
The rounded quotient of the magnitudes of two finite numbers, the second of which is not zero.
-/
def divMagnitude (x y : Binary64) : Binary64 :=
  ofRatio (x.magnitude.1 * y.magnitude.2) (x.magnitude.2 * y.magnitude.1)

end Binary64

end IRDiagnostics
