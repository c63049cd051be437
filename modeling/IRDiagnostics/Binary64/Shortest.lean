import IRDiagnostics.Binary64.Rounding

/-!
This module contains the choice of the fewest decimal digits that identify a number of 64 bits: the
reals that round to a number form an interval around it, and the coarsest decimal grid with a point
in that interval gives the digits.
-/

namespace IRDiagnostics

namespace Binary64

/--
The reals that round to a positive finite number, each bound as a multiple of a quarter of the unit
in the last place: the lower bound, the number itself and the upper bound.
-/
structure RoundingInterval where
  lower : Nat
  value : Nat
  upper : Nat
  /-- Whether the bounds themselves round to the number. -/
  closed : Bool

/--
The next smaller number is only half as far away as the next greater one when the significand is the
least normal one, except at the bottom of the exponent range.
-/
def roundingInterval (significand : Nat) (exponent : Int) : RoundingInterval where
  lower := 4 * significand - if significand = 1 <<< 52 ∧ -1074 < exponent then 1 else 2
  value := 4 * significand
  upper := 4 * significand + 2
  closed := significand % 2 = 0

/--
Whether the interval holds `point * den`, all of its bounds being multiplied by `scale`.
-/
def RoundingInterval.holds (interval : RoundingInterval) (scale point den : Nat) : Bool :=
  if interval.closed then
    interval.lower * scale ≤ point * den ∧ point * den ≤ interval.upper * scale
  else
    interval.lower * scale < point * den ∧ point * den < interval.upper * scale

/--
The point of the decimal grid with step `10 ^ gridExponent` that lies in the interval and is nearest
to its value. Only the two neighbours of the value come into question.
-/
def RoundingInterval.nearest? (interval : RoundingInterval) (tie : Tie)
    (exponent gridExponent : Int) : Option Nat :=
  let scale := Nat.pow 10 (-gridExponent).toNat <<< (exponent - 2).toNat
  let den := Nat.pow 10 gridExponent.toNat <<< (2 - exponent).toNat
  let below := interval.value * scale / den
  let above := below + 1
  match interval.holds scale below den, interval.holds scale above den with
  | false, false => none
  | true, false => some below
  | false, true => some above
  | true, true => some (roundHalf tie (interval.value * scale) den)

/--
The digits and the exponent of a decimal that identifies the number `significand * 2 ^ exponent`,
with as few digits as possible. Seventeen are always enough.
-/
def shortest (tie : Tie) (significand : Nat) (exponent : Int) : Nat × Int :=
  let interval := roundingInterval significand exponent
  let (num, den) := ratio significand exponent
  let leading := decimalExponent num den
  let hit? := (List.range 17).findSome? fun (fractionDigits : Nat) =>
    let grid := leading - fractionDigits
    (interval.nearest? tie exponent grid).map (·, grid)
  match hit? with
  | some (digits, grid) => if digits % 10 = 0 then (digits / 10, grid + 1) else (digits, grid)
  | none => (0, 0)

end Binary64

end IRDiagnostics
