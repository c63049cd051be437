import IRDiagnostics.Codec.Module
import IRDiagnostics.Proofs.Codec.Ty

/-!
This module contains the round trip of types, debug information and metadata through JSON. Only
types can be nested too deep to be read.
-/

namespace IRDiagnostics

theorem Id.ofJson?_toJson (id : Id ε) : Id.ofJson? id.toJson = some id := by
  unfold Id.ofJson? Id.toJson Id.index
  rw [Json.toUInt32?_ofNat]
  rfl

theorem SourceFile.ofJson?_toJson (file : SourceFile) :
    SourceFile.ofJson? file.toJson = some file := by
  have hfields : file.toJson.fields? ["filename", "directory"] =
      some [some (.ofString file.filename), some (.ofString file.directory)] :=
    Json.fields?_ofMembers (by simp)
  unfold SourceFile.ofJson?
  rw [hfields]
  rfl

theorem Subprogram.ofJson?_eq_some {json name file line scopeLine : Json} {subprogram : Subprogram}
    (hfields : json.fields? ["name", "file", "line", "scope_line"] =
      some [some name, some file, some line, some scopeLine])
    (hname : name.toText? = some subprogram.name) (hfile : Id.ofJson? file = some subprogram.file)
    (hline : line.toUInt32? = some subprogram.line)
    (hscopeLine : scopeLine.toUInt32? = some subprogram.scopeLine) :
    Subprogram.ofJson? json = some subprogram := by
  unfold Subprogram.ofJson?
  rw [hfields]
  simp only [Option.bind_eq_bind, Option.bind_some, Option.pure_def, hname, hfile, hline,
    hscopeLine]

theorem Subprogram.ofJson?_toJson (subprogram : Subprogram) :
    Subprogram.ofJson? subprogram.toJson = some subprogram := by
  have hfields : subprogram.toJson.fields? ["name", "file", "line", "scope_line"] =
      some [some (.ofString subprogram.name), some subprogram.file.toJson,
        some (.ofNat subprogram.line.toNat), some (.ofNat subprogram.scopeLine.toNat)] :=
    Json.fields?_ofMembers (by simp)
  apply Subprogram.ofJson?_eq_some hfields
  . rfl
  . exact subprogram.file.ofJson?_toJson
  . exact Json.toUInt32?_ofNat subprogram.line
  . exact Json.toUInt32?_ofNat subprogram.scopeLine

theorem DebugLoc.ofJson?_eq_some {json file line column : Json} {debugLoc : DebugLoc}
    (hfields : json.fields? ["file", "line", "column"] = some [some file, some line, some column])
    (hfile : Id.ofJson? file = some debugLoc.file) (hline : line.toUInt32? = some debugLoc.line)
    (hcolumn : column.toUInt32? = some debugLoc.column) :
    DebugLoc.ofJson? json = some debugLoc := by
  unfold DebugLoc.ofJson?
  rw [hfields]
  simp only [Option.bind_eq_bind, Option.bind_some, Option.pure_def, hfile, hline, hcolumn]

theorem DebugLoc.ofJson?_toJson (debugLoc : DebugLoc) :
    DebugLoc.ofJson? debugLoc.toJson = some debugLoc := by
  have hfields : debugLoc.toJson.fields? ["file", "line", "column"] =
      some [some debugLoc.file.toJson, some (.ofNat debugLoc.line.toNat),
        some (.ofNat debugLoc.column.toNat)] :=
    Json.fields?_ofMembers (by simp)
  apply DebugLoc.ofJson?_eq_some hfields
  . exact debugLoc.file.ofJson?_toJson
  . exact Json.toUInt32?_ofNat debugLoc.line
  . exact Json.toUInt32?_ofNat debugLoc.column

namespace Metadata

theorem Operand.ofJson?_toJson (operand : Operand) :
    Operand.ofJson? operand.toJson = some operand := by
  cases operand with
  | int value =>
    change (Json.ofNat value.toNat).toUInt64?.map Operand.int = _
    rw [Json.toUInt64?_ofNat]
    rfl
  | text value => rfl

theorem Node.ofJson?_toJson (node : Node) : Node.ofJson? node.toJson = some node := by
  have hfields : node.toJson.fields? ["operands"] =
      some [some (.ofList Operand.toJson node.operands)] := Json.fields?_ofMembers (by simp)
  unfold Node.ofJson?
  rw [hfields]
  simp only [Option.bind_eq_bind, Option.bind_some,
    Json.toList?_ofList Operand.ofJson?_toJson node.operands]
  rfl

end Metadata

/--
Reading the compact text of a value.
-/
theorem read_compact {decode : Json → Option α} {json : Json} :
    (Json.read? json.compact).bind decode = decode json := by
  rw [Json.read?_compact, Option.bind_some]

theorem typesAndMetadata_read_back :
    (∀ ty : Ty,
      (Json.read? ty.toJson.compact).bind (Ty.ofJson? Json.nestingLimit) = some ty ↔
        ty.toJson.nesting ≤ Json.nestingLimit) ∧
      (∀ signature : Signature,
        (Json.read? signature.toJson.compact).bind (Signature.ofJson? Json.nestingLimit) =
            some signature ↔
          signature.toJson.nesting ≤ Json.nestingLimit) ∧
      (∀ operand : Metadata.Operand,
        (Json.read? operand.toJson.compact).bind Metadata.Operand.ofJson? = some operand) ∧
      (∀ node : Metadata.Node,
        (Json.read? node.toJson.compact).bind Metadata.Node.ofJson? = some node) ∧
      (∀ file : SourceFile,
        (Json.read? file.toJson.compact).bind SourceFile.ofJson? = some file) ∧
      (∀ subprogram : Subprogram,
        (Json.read? subprogram.toJson.compact).bind Subprogram.ofJson? = some subprogram) ∧
      ∀ debugLoc : DebugLoc,
        (Json.read? debugLoc.toJson.compact).bind DebugLoc.ofJson? = some debugLoc := by
  simp only [read_compact]
  refine ⟨?_, ?_, ?_, ?_, ?_, ?_, ?_⟩
  . exact fun ty => ty.ofJson?_toJson_iff Json.nestingLimit
  . exact fun signature => signature.ofJson?_toJson_iff Json.nestingLimit
  . exact Metadata.Operand.ofJson?_toJson
  . exact Metadata.Node.ofJson?_toJson
  . exact SourceFile.ofJson?_toJson
  . exact Subprogram.ofJson?_toJson
  . exact DebugLoc.ofJson?_toJson

end IRDiagnostics
