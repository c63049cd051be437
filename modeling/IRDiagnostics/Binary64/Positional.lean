import IRDiagnostics.Binary64.Shortest

/-!
This module contains the notation of floating-point numbers with the fewest digits that identify
them: positional for moderate magnitudes, with an exponent for others.
-/

namespace IRDiagnostics

namespace Binary64

/--
The digits with a point after the first `point` of them, filled up with zeros on either side.
-/
def positionalText (digits : List Char) (point : Int) : String :=
  if point ≤ 0 then
    "0." ++ String.ofList (List.replicate (-point).toNat '0' ++ digits)
  else if point < digits.length then
    String.ofList (digits.take point.toNat ++ '.' :: digits.drop point.toNat)
  else
    String.ofList (digits ++ List.replicate (point.toNat - digits.length) '0') ++ ".0"

/--
The digits with a point after the first one if there are more, and an exponent.
-/
def exponentialText (digits : List Char) (exponent : Int) : String :=
  let digits :=
    match digits with
    | first :: second :: rest => first :: '.' :: second :: rest
    | digits => digits
  String.ofList digits ++ "e" ++ toString exponent

/--
Magnitudes from `10 ^ -4` to below `10 ^ 16` are written positionally. Of two equally near decimals
the one with the greater magnitude is taken.
-/
def shortestText (x : Binary64) : String :=
  match x.datum with
  | .nan => "NaN"
  | .infinite negative => (if negative then "-" else "") ++ "inf"
  | .finite negative significand exponent =>
    (if negative then "-" else "") ++
      if significand = 0 then
        "0.0"
      else
        let (number, exponent) := shortest .up significand exponent
        let digits := Nat.toDigits 10 number
        let point := digits.length + exponent
        if -4 < point ∧ point ≤ 16 then
          positionalText digits point
        else
          exponentialText digits (point - 1)

end Binary64

end IRDiagnostics
