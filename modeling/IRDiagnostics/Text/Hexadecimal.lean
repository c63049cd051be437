/-!
This module contains the values of hexadecimal digits.
-/

namespace IRDiagnostics

/--
The value of a hexadecimal digit in either case.
-/
def hexValue? (c : Char) : Option Nat :=
  if '0' ≤ c ∧ c ≤ '9' then
    some (c.toNat - '0'.toNat)
  else if 'a' ≤ c ∧ c ≤ 'f' then
    some (c.toNat - 'a'.toNat + 10)
  else if 'A' ≤ c ∧ c ≤ 'F' then
    some (c.toNat - 'A'.toNat + 10)
  else
    none

/--
The number that the digits of a base up to sixteen stand for, the most significant one first.
-/
def digitsValue? (base : Nat) (chars : List Char) : Option Nat :=
  return (← chars.mapM hexValue?).foldl (fun value digit => base * value + digit) 0

end IRDiagnostics
