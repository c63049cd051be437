import IRDiagnostics.Codec.Ty
import IRDiagnostics.Proofs.Json.Decode
import IRDiagnostics.Proofs.Json.RoundTrip

/-!
This module contains the round trip of types and signatures through JSON. A type is read back if its
text is not nested too deep, and only then.
-/

namespace IRDiagnostics

namespace Ty

variable {depth : Nat}

theorem ofJson?_int (payload : Json) :
    Ty.ofJson? (depth + 1) (.ofMembers [("Int", payload)]) = payload.toUInt32?.map .int := by
  rw [Json.ofMembers, List.map_cons, List.map_nil, Ty.ofJson?, Option.map_eq_bind]
  rfl

theorem ofJson?_vector (len element : Json) :
    Ty.ofJson? (depth + 2)
        (.ofMembers [("Vector", .ofMembers [("len", len), ("element", element)])]) =
      len.toUInt32?.bind fun len => (Ty.ofJson? depth element).map (.vector len) := by
  have hfields : (Json.ofMembers [("len", len), ("element", element)]).fields?
      ["len", "element"] = some [some len, some element] := Json.fields?_ofMembers (by simp)
  rw [Json.ofMembers, List.map_cons, List.map_nil, Ty.ofJson?, hfields]
  simp only [Option.bind_eq_bind, Option.bind_some, Option.map_eq_bind]
  rfl

theorem ofJson?_array (len element : Json) :
    Ty.ofJson? (depth + 2)
        (.ofMembers [("Array", .ofMembers [("len", len), ("element", element)])]) =
      len.toUInt64?.bind fun len => (Ty.ofJson? depth element).map (.array len) := by
  have hfields : (Json.ofMembers [("len", len), ("element", element)]).fields?
      ["len", "element"] = some [some len, some element] := Json.fields?_ofMembers (by simp)
  rw [Json.ofMembers, List.map_cons, List.map_nil, Ty.ofJson?, hfields]
  simp only [Option.bind_eq_bind, Option.bind_some, Option.map_eq_bind]
  rfl

theorem ofJson?_struct (fields packed : Json) :
    Ty.ofJson? (depth + 3)
        (.ofMembers [("Struct", .ofMembers [("fields", fields), ("packed", packed)])]) =
      (fields.toList? (Ty.ofJson? depth)).bind fun fields =>
        packed.toBool?.map (.struct fields) := by
  have hfields : (Json.ofMembers [("fields", fields), ("packed", packed)]).fields?
      ["fields", "packed"] = some [some fields, some packed] := Json.fields?_ofMembers (by simp)
  rw [Json.ofMembers, List.map_cons, List.map_nil, Ty.ofJson?, hfields]
  simp only [Option.bind_eq_bind, Option.bind_some, Option.map_eq_bind]
  rfl

/--
The fields of a signature, which are those of the function type it stands for.
-/
theorem fields?_signature (ret params vararg : Json) :
    (Json.ofMembers [("ret", ret), ("params", params), ("vararg", vararg)]).fields?
      ["ret", "params", "vararg"] = some [some ret, some params, some vararg] :=
  Json.fields?_ofMembers (by simp)

theorem ofJson?_function (ret params vararg : Json) :
    Ty.ofJson? (depth + 3)
        (.ofMembers
          [("Function", .ofMembers [("ret", ret), ("params", params), ("vararg", vararg)])]) =
      (Ty.ofJson? (depth + 1) ret).bind fun ret =>
        (params.toList? (Ty.ofJson? depth)).bind fun params =>
          vararg.toBool?.map (.function ret params) := by
  have hfields := fields?_signature ret params vararg
  rw [Json.ofMembers, List.map_cons, List.map_nil, Ty.ofJson?, hfields]
  simp only [Option.bind_eq_bind, Option.bind_some, Option.map_eq_bind]
  rfl

theorem nesting_vector (len : UInt32) (element : Ty) :
    (vector len element).toJson.nesting = element.toJson.nesting + 2 := by
  simp [toJson, Json.ofMembers, Json.ofNat, Json.nesting, Json.membersNesting]

theorem nesting_array (len : UInt64) (element : Ty) :
    (array len element).toJson.nesting = element.toJson.nesting + 2 := by
  simp [toJson, Json.ofMembers, Json.ofNat, Json.nesting, Json.membersNesting]

theorem nesting_struct (fields : List Ty) (packed : Bool) :
    (struct fields packed).toJson.nesting = Json.itemsNesting (listToJson fields) + 3 := by
  simp [toJson, Json.ofMembers, Json.nesting, Json.membersNesting]

theorem nesting_function (ret : Ty) (params : List Ty) (vararg : Bool) :
    (function ret params vararg).toJson.nesting =
      max (ret.toJson.nesting + 2) (Json.itemsNesting (listToJson params) + 3) := by
  simp [toJson, Json.ofMembers, Json.nesting, Json.membersNesting]

mutual

theorem ofJson?_toJson_iff : (ty : Ty) → (depth : Nat) →
    (Ty.ofJson? depth ty.toJson = some ty ↔ ty.toJson.nesting ≤ depth)
  | .void, depth | .half, depth | .float, depth | .double, depth | .ptr, depth
  | .label, depth => by
    simp [toJson, Json.ofString, Json.nesting, Ty.ofJson?, ofName?]
  | .int bits, 0 => by
    refine iff_of_false nofun ?_
    simp [toJson, Json.ofMembers, Json.nesting]
  | .int bits, depth + 1 => by
    rw [toJson, ofJson?_int, Json.toUInt32?_ofNat]
    simp [Json.ofMembers, Json.ofNat, Json.nesting, Json.membersNesting]
  | .vector len element, 0 | .vector len element, 1 => by
    refine iff_of_false nofun ?_
    rw [nesting_vector]
    omega
  | .vector len element, depth + 2 => by
    rw [nesting_vector, toJson, ofJson?_vector, Json.toUInt32?_ofNat, Option.bind_some]
    simp [ofJson?_toJson_iff element depth]
  | .array len element, 0 | .array len element, 1 => by
    refine iff_of_false nofun ?_
    rw [nesting_array]
    omega
  | .array len element, depth + 2 => by
    rw [nesting_array, toJson, ofJson?_array, Json.toUInt64?_ofNat, Option.bind_some]
    simp [ofJson?_toJson_iff element depth]
  | .struct fields packed, 0 | .struct fields packed, 1 | .struct fields packed, 2 => by
    refine iff_of_false nofun ?_
    rw [nesting_struct]
    omega
  | .struct fields packed, depth + 3 => by
    rw [nesting_struct, toJson, ofJson?_struct]
    simp [Json.toList?, Json.toBool?, Option.bind_eq_some_iff, mapM_ofJson?_iff fields depth]
  | .function ret params vararg, 0 | .function ret params vararg, 1
  | .function ret params vararg, 2 => by
    refine iff_of_false nofun ?_
    rw [nesting_function]
    omega
  | .function ret params vararg, depth + 3 => by
    have hret := ofJson?_toJson_iff ret (depth + 1)
    have hparams := mapM_ofJson?_iff params depth
    rw [nesting_function, toJson, ofJson?_function, Nat.max_le]
    simp [Json.toList?, Json.toBool?, Option.bind_eq_some_iff, hret, hparams]

theorem mapM_ofJson?_iff : (tys : List Ty) → (depth : Nat) →
    ((listToJson tys).mapM (Ty.ofJson? depth) = some tys ↔
      Json.itemsNesting (listToJson tys) ≤ depth)
  | [], depth => by
    simp [listToJson, Json.itemsNesting]
  | ty :: tys, depth => by
    have hty := ofJson?_toJson_iff ty depth
    have htys := mapM_ofJson?_iff tys depth
    rw [listToJson, List.mapM_cons, Json.itemsNesting, Nat.max_le, ← hty, ← htys]
    simp [Option.bind_eq_some_iff]

end

end Ty

theorem Signature.nesting_toJson (signature : Signature) :
    signature.toJson.nesting =
      max (signature.ret.toJson.nesting + 1)
        (Json.itemsNesting (Ty.listToJson signature.params) + 2) := by
  simp [toJson, Json.ofMembers, Json.nesting, Json.membersNesting]

theorem Signature.ofJson?_toJson_iff (signature : Signature) (depth : Nat) :
    Signature.ofJson? depth signature.toJson = some signature ↔
      signature.toJson.nesting ≤ depth := by
  obtain ⟨ret, params, vararg⟩ := signature
  rw [nesting_toJson]
  match depth with
  | 0 | 1 =>
    refine iff_of_false nofun ?_
    omega
  | depth + 2 =>
    have hret := Ty.ofJson?_toJson_iff ret (depth + 1)
    have hparams := Ty.mapM_ofJson?_iff params depth
    have hfields := Ty.fields?_signature ret.toJson (.array (Ty.listToJson params)) (.bool vararg)
    rw [Nat.max_le, toJson, Signature.ofJson?, hfields]
    simp [Json.toList?, Json.toBool?, Option.bind_eq_some_iff, hret, hparams]

end IRDiagnostics
