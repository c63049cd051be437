import IRDiagnostics.Json.Decode
import IRDiagnostics.Ty.Basic

/-!
This module contains the JSON form of types and signatures.
-/

namespace IRDiagnostics

mutual

def Ty.toJson : Ty → Json
  | .void => .ofString "Void"
  | .int bits => .ofMembers [("Int", .ofNat bits.toNat)]
  | .half => .ofString "Half"
  | .float => .ofString "Float"
  | .double => .ofString "Double"
  | .ptr => .ofString "Ptr"
  | .label => .ofString "Label"
  | .vector len element =>
    .ofMembers [("Vector", .ofMembers [("len", .ofNat len.toNat), ("element", element.toJson)])]
  | .array len element =>
    .ofMembers [("Array", .ofMembers [("len", .ofNat len.toNat), ("element", element.toJson)])]
  | .struct fields packed =>
    .ofMembers
      [("Struct", .ofMembers [("fields", .array (Ty.listToJson fields)), ("packed", .bool packed)])]
  | .function ret params vararg =>
    .ofMembers
      [("Function", .ofMembers
        [("ret", ret.toJson), ("params", .array (Ty.listToJson params)), ("vararg", .bool vararg)])]

def Ty.listToJson : List Ty → List Json
  | [] => []
  | ty :: tys => ty.toJson :: Ty.listToJson tys

end

def Signature.toJson (signature : Signature) : Json :=
  .ofMembers
    [("ret", signature.ret.toJson),
     ("params", .array (Ty.listToJson signature.params)),
     ("vararg", .bool signature.vararg)]

/--
The types that are written by their name alone.
-/
def Ty.ofName? : String → Option Ty
  | "Void" => some .void
  | "Half" => some .half
  | "Float" => some .float
  | "Double" => some .double
  | "Ptr" => some .ptr
  | "Label" => some .label
  | _ => none

/--
Read a type whose objects and arrays are nested at most `depth` deep, as far as their content
matters.
-/
def Ty.ofJson? : (depth : Nat) → Json → Option Ty
  | _, .string text => text.bind ofName?
  | depth + 1, .object [(some name, payload)] =>
    match name, depth with
    | "Int", _ => do
      return .int (← payload.toUInt32?)
    | "Vector", depth + 1 => do
      let [len, element] ← payload.fields? ["len", "element"] | none
      return .vector (← (← len).toUInt32?) (← Ty.ofJson? depth (← element))
    | "Array", depth + 1 => do
      let [len, element] ← payload.fields? ["len", "element"] | none
      return .array (← (← len).toUInt64?) (← Ty.ofJson? depth (← element))
    | "Struct", depth + 2 => do
      let [fields, packed] ← payload.fields? ["fields", "packed"] | none
      return .struct (← (← fields).toList? (Ty.ofJson? depth)) (← (← packed).toBool?)
    | "Function", depth + 2 => do
      let [ret, params, vararg] ← payload.fields? ["ret", "params", "vararg"] | none
      return .function (← Ty.ofJson? (depth + 1) (← ret))
        (← (← params).toList? (Ty.ofJson? depth)) (← (← vararg).toBool?)
    | name, _ =>
      match payload with
      | .null => ofName? name
      | _ => none
  | _, _ => none

/--
How deep the objects and arrays of a text may be nested.
-/
def Json.nestingLimit : Nat := 127

/--
Read a signature, which is written as the function type it stands for but without its name.
-/
def Signature.ofJson? (depth : Nat) (json : Json) : Option Signature :=
  match depth with
  | depth + 2 => do
    let [ret, params, vararg] ← json.fields? ["ret", "params", "vararg"] | none
    return {
      ret := ← Ty.ofJson? (depth + 1) (← ret)
      params := ← (← params).toList? (Ty.ofJson? depth)
      vararg := ← (← vararg).toBool? }
  | _ => none

end IRDiagnostics
