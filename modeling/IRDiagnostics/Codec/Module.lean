import IRDiagnostics.Constant
import IRDiagnostics.Instruction
import IRDiagnostics.Json.Decode
import IRDiagnostics.SymbolTable

/-!
This module contains the JSON form of constants, opcodes, ids, debug information and metadata.
-/

namespace IRDiagnostics

namespace Constant

def toJson : Constant → Json
  | .int bits value =>
    .ofMembers
      [("Int", .ofMembers [("bits", .ofNat bits.toNat), ("value", .ofInt value.toInt)])]
  | .float value => .ofMembers [("Float", .ofBinary64 value)]
  | .null => .ofString "Null"
  | .undef => .ofString "Undef"
  | .poison => .ofString "Poison"
  | .zeroInitializer => .ofString "ZeroInitializer"

def ofName? : String → Option Constant
  | "Null" => some .null
  | "Undef" => some .undef
  | "Poison" => some .poison
  | "ZeroInitializer" => some .zeroInitializer
  | _ => none

def ofJson? (json : Json) : Option Constant :=
  match json.alternative? with
  | some ("Int", some payload) => do
    let [bits, value] ← payload.fields? ["bits", "value"] | none
    return .int (← (← bits).toUInt32?) (← (← value).toInt64?)
  | some ("Float", some payload) => payload.toBinary64?.map .float
  | _ => json.plainAlternative?.bind ofName?

end Constant

def Opcode.toJson (opcode : Opcode) : Json := .ofString opcode.label

def Opcode.ofJson? (json : Json) : Option Opcode := json.plainAlternative?.bind ofLabel?

def Id.toJson (id : Id ε) : Json := .ofNat id.index

def Id.ofJson? (json : Json) : Option (Id ε) := json.toUInt32?.map Id.mk

def Symbol.toJson (symbol : Symbol) : Json := .ofNat symbol.raw.toNat

def Symbol.ofJson? (json : Json) : Option Symbol := json.toUInt32?.map Symbol.mk

namespace SourceFile

def toJson (file : SourceFile) : Json :=
  .ofMembers [("filename", .ofString file.filename), ("directory", .ofString file.directory)]

def ofJson? (json : Json) : Option SourceFile := do
  let [filename, directory] ← json.fields? ["filename", "directory"] | none
  return { filename := ← (← filename).toText?, directory := ← (← directory).toText? }

end SourceFile

namespace Subprogram

def toJson (subprogram : Subprogram) : Json :=
  .ofMembers
    [("name", .ofString subprogram.name),
     ("file", subprogram.file.toJson),
     ("line", .ofNat subprogram.line.toNat),
     ("scope_line", .ofNat subprogram.scopeLine.toNat)]

def ofJson? (json : Json) : Option Subprogram := do
  let [name, file, line, scopeLine] ← json.fields? ["name", "file", "line", "scope_line"] | none
  return {
    name := ← (← name).toText?
    file := ← Id.ofJson? (← file)
    line := ← (← line).toUInt32?
    scopeLine := ← (← scopeLine).toUInt32? }

end Subprogram

namespace DebugLoc

def toJson (debugLoc : DebugLoc) : Json :=
  .ofMembers
    [("file", debugLoc.file.toJson),
     ("line", .ofNat debugLoc.line.toNat),
     ("column", .ofNat debugLoc.column.toNat)]

def ofJson? (json : Json) : Option DebugLoc := do
  let [file, line, column] ← json.fields? ["file", "line", "column"] | none
  return {
    file := ← Id.ofJson? (← file)
    line := ← (← line).toUInt32?
    column := ← (← column).toUInt32? }

end DebugLoc

namespace Metadata

def Operand.toJson : Operand → Json
  | .int value => .ofMembers [("Int", .ofNat value.toNat)]
  | .text value => .ofMembers [("Str", .ofString value)]

def Operand.ofJson? (json : Json) : Option Operand :=
  match json.alternative? with
  | some ("Int", some payload) => payload.toUInt64?.map .int
  | some ("Str", some payload) => payload.toText?.map .text
  | _ => none

def Node.toJson (node : Node) : Json :=
  .ofMembers [("operands", .ofList Operand.toJson node.operands)]

def Node.ofJson? (json : Json) : Option Node := do
  let [operands] ← json.fields? ["operands"] | none
  return { operands := ← (← operands).toList? Operand.ofJson? }

end Metadata

end IRDiagnostics
