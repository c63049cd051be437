/-!
This module contains the binary floating-point numbers of 64 and 32 bits as bit patterns, together
with the exact values these patterns stand for. No arithmetic of the machine is used: a finite
number is a natural significand times a power of two.
-/

namespace IRDiagnostics

/--
What a floating-point pattern stands for. The magnitude of a finite one is
`significand * 2 ^ exponent`.
-/
inductive Datum where
  | nan
  | infinite (negative : Bool)
  | finite (negative : Bool) (significand : Nat) (exponent : Int)
  deriving DecidableEq

/--
A number in the 64 bit interchange format: a sign bit, 11 bits of exponent, 52 bits of fraction.
-/
structure Binary64 where
  bits : UInt64
  deriving DecidableEq

/--
A number in the 32 bit interchange format: a sign bit, 8 bits of exponent, 23 bits of fraction.
-/
structure Binary32 where
  bits : UInt32
  deriving DecidableEq

namespace Binary64

def isNegative (x : Binary64) : Bool := x.bits.toNat >>> 63 = 1

def biasedExponent (x : Binary64) : Nat := x.bits.toNat >>> 52 % 2048

def fraction (x : Binary64) : Nat := x.bits.toNat % 1 <<< 52

/--
Patterns without exponent bits are the zeros and the subnormal numbers; the others have a hidden
leading one.
-/
def datum (x : Binary64) : Datum :=
  if x.biasedExponent = 2047 then
    if x.fraction = 0 then .infinite x.isNegative else .nan
  else if x.biasedExponent = 0 then
    .finite x.isNegative x.fraction (-1074)
  else
    .finite x.isNegative (1 <<< 52 + x.fraction) (x.biasedExponent - 1075)

/--
The pattern with the given sign, biased exponent and fraction.
-/
def ofFields (negative : Bool) (biasedExponent fraction : Nat) : Binary64 :=
  ⟨UInt64.ofNat (negative.toNat <<< 63 + biasedExponent <<< 52 + fraction)⟩

def zero : Binary64 := ⟨0⟩

def infinity : Binary64 := ofFields false 2047 0

def quietNaN : Binary64 := ofFields false 2047 (1 <<< 51)

/--
The pattern with the opposite sign.
-/
def neg (x : Binary64) : Binary64 := ofFields (!x.isNegative) x.biasedExponent x.fraction

def isInfinite (x : Binary64) : Bool :=
  match x.datum with
  | .infinite _ => true
  | _ => false

/--
Equality of numbers rather than of patterns: the zeros are equal to each other and no NaN is equal
to anything.
-/
def numericEq (x y : Binary64) : Bool :=
  match x.datum, y.datum with
  | .nan, _ | _, .nan => false
  | .finite _ 0 _, .finite _ 0 _ => true
  | a, b => a = b

end Binary64

namespace Binary32

def isNegative (x : Binary32) : Bool := x.bits.toNat >>> 31 = 1

def biasedExponent (x : Binary32) : Nat := x.bits.toNat >>> 23 % 256

def fraction (x : Binary32) : Nat := x.bits.toNat % 1 <<< 23

def datum (x : Binary32) : Datum :=
  if x.biasedExponent = 255 then
    if x.fraction = 0 then .infinite x.isNegative else .nan
  else if x.biasedExponent = 0 then
    .finite x.isNegative x.fraction (-149)
  else
    .finite x.isNegative (1 <<< 23 + x.fraction) (x.biasedExponent - 150)

/--
The same number in 64 bits. A subnormal number becomes normal: its leading one is shifted out of
the fraction and the exponent is lowered by as much. A NaN keeps its fraction and becomes quiet.
-/
def widen (x : Binary32) : Binary64 :=
  if x.biasedExponent = 255 then
    if x.fraction = 0 then
      .ofFields x.isNegative 2047 0
    else
      .ofFields x.isNegative 2047 (1 <<< 51 + (x.fraction % 1 <<< 22) <<< 29)
  else if x.biasedExponent = 0 then
    if x.fraction = 0 then
      .ofFields x.isNegative 0 0
    else
      let shift := 23 - x.fraction.log2
      .ofFields x.isNegative (897 - shift) ((x.fraction <<< shift - 1 <<< 23) <<< 29)
  else
    .ofFields x.isNegative (x.biasedExponent + 896) (x.fraction <<< 29)

end Binary32

end IRDiagnostics
