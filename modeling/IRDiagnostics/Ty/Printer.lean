import IRDiagnostics.Ty.Basic

/-!
This module contains the printed form of types and signatures, such as `i32 (ptr, i64)` or
`{ i8, [4 x i32] }`.
-/

namespace IRDiagnostics

mutual

/--
The printed form of a type. A packed struct is wrapped in angle brackets, and a function type shows
its return type first and without brackets.
-/
def Ty.chars : Ty → List Char
  | .void => ['v', 'o', 'i', 'd']
  | .int bits => 'i' :: Nat.toDigits 10 bits.toNat
  | .half => ['h', 'a', 'l', 'f']
  | .float => ['f', 'l', 'o', 'a', 't']
  | .double => ['d', 'o', 'u', 'b', 'l', 'e']
  | .ptr => ['p', 't', 'r']
  | .label => ['l', 'a', 'b', 'e', 'l']
  | .vector len element =>
    '<' :: Nat.toDigits 10 len.toNat ++ " x ".toList ++ element.chars ++ ['>']
  | .array len element =>
    '[' :: Nat.toDigits 10 len.toNat ++ " x ".toList ++ element.chars ++ [']']
  | .struct fields false => '\x7b' :: Ty.fieldsChars fields
  | .struct fields true => '<' :: '\x7b' :: Ty.fieldsChars fields ++ ['>']
  | .function ret params vararg => ret.chars ++ " (".toList ++ Ty.paramsChars params vararg

/--
The fields of a struct with the closing brace. There are no blanks in a struct without fields.
-/
def Ty.fieldsChars : List Ty → List Char
  | [] => ['\x7d']
  | field :: fields => ' ' :: field.chars ++ Ty.tailChars fields ++ " \x7d".toList

/--
The parameters of a function type with the closing bracket. Dots stand for further arguments.
-/
def Ty.paramsChars : (params : List Ty) → (vararg : Bool) → List Char
  | [], false => [')']
  | [], true => ['.', '.', '.', ')']
  | param :: params, false => param.chars ++ Ty.tailChars params ++ ")".toList
  | param :: params, true => param.chars ++ Ty.tailChars params ++ ", ...)".toList

/--
The rest of a list of types after its first one, each preceded by a comma and a space.
-/
def Ty.tailChars : List Ty → List Char
  | [] => []
  | ty :: tys => ", ".toList ++ ty.chars ++ Ty.tailChars tys

end

def Ty.text (ty : Ty) : String := String.ofList ty.chars

def Signature.text (signature : Signature) : String := signature.toTy.text

end IRDiagnostics
