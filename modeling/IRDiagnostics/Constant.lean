import IRDiagnostics.Binary64.Scientific

/-!
This module contains the constant operands of the intermediate representation and their operand
form, which shows a value without its type.
-/

namespace IRDiagnostics

inductive Constant where
  /-- An integer of the given bit width, sign-extended to 64 bits. -/
  | int (bits : UInt32) (value : Int64)
  | float (value : Binary64)
  | null
  | undef
  | poison
  | zeroInitializer
  deriving DecidableEq

namespace Constant

/--
The operand form: integers of one bit are truth values, floats are in exponent form.
-/
def text : Constant → String
  | .int bits value =>
    if bits = 1 then
      if value = 0 then "false" else "true"
    else
      toString value.toInt
  | .float value => value.scientific
  | .null => "null"
  | .undef => "undef"
  | .poison => "poison"
  | .zeroInitializer => "zeroinitializer"

/--
Equality of the described values, in which floats compare as numbers.
-/
def numericEq : Constant → Constant → Bool
  | .float x, .float y => x.numericEq y
  | a, b => a = b

end Constant

end IRDiagnostics
