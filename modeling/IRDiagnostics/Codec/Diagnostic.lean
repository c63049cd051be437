import IRDiagnostics.Json.Decode
import IRDiagnostics.Json.Printer
import IRDiagnostics.Remark.Record
import IRDiagnostics.Sink.Basic

/-!
This module contains the JSON form of remark records and rendered diagnostics. A record leaves out
what is not there: empty keys, unknown locations and unknown hotness. What is left out is read as
its default, and so may be the arguments and the verbose flag.
-/

namespace IRDiagnostics

def Kind.toJson (kind : Kind) : Json := .ofNat kind.raw.toNat

def Kind.ofJson? (json : Json) : Option Kind := json.toUInt32?.map Kind.mk

def Severity.toJson (severity : Severity) : Json := .ofString severity.label

def Severity.ofJson? (json : Json) : Option Severity := json.plainAlternative?.bind ofLabel?

def Category.toJson (category : Category) : Json := .ofString category.text

def Category.ofJson? (json : Json) : Option Category := json.plainAlternative?.bind ofText?

namespace Rendered

def toJson (rendered : Rendered) : Json :=
  .ofMembers
    [("kind", rendered.kind.toJson),
     ("severity", rendered.severity.toJson),
     ("message", .ofString rendered.message)]

def ofJson? (json : Json) : Option Rendered := do
  let [kind, severity, message] ← json.fields? ["kind", "severity", "message"] | none
  return {
    kind := ← Kind.ofJson? (← kind)
    severity := ← Severity.ofJson? (← severity)
    message := ← (← message).toText? }

end Rendered

namespace Record

/--
Read a field that may be missing.
-/
def defaulted (default : α) (decode : Json → Option α) : Option Json → Option α
  | none => some default
  | some json => decode json

namespace Place

def toJson (place : Place) : Json :=
  .ofMembers
    [("file", .ofString place.file),
     ("line", .ofNat place.line.toNat),
     ("column", .ofNat place.column.toNat)]

def ofJson? (json : Json) : Option Place := do
  let [file, line, column] ← json.fields? ["file", "line", "column"] | none
  return {
    file := ← (← file).toText?
    line := ← (← line).toUInt32?
    column := ← (← column).toUInt32? }

/--
The member for a location, if there is one.
-/
def members (place : Option Place) : List (String × Json) :=
  place.toList.map fun place => ("location", place.toJson)

end Place

namespace Argument

def toJson (argument : Argument) : Json :=
  .ofMembers
    ((if argument.key = "" then [] else [("key", .ofString argument.key)]) ++
      [("value", .ofString argument.value)] ++
      Place.members argument.location)

def ofJson? (json : Json) : Option Argument := do
  let [key, value, location] ← json.fields? ["key", "value", "location"] | none
  return {
    key := ← defaulted "" Json.toText? key
    value := ← (← value).toText?
    location := ← defaulted none (Json.toOption? Place.ofJson?) location }

end Argument

def toJson (record : Record) : Json :=
  .ofMembers
    ([("category", record.category.toJson),
      ("pass", .ofString record.pass),
      ("name", .ofString record.name),
      ("function", .ofString record.function)] ++
      Place.members record.location ++
      [("args", .ofList Argument.toJson record.args)] ++
      record.hotness.toList.map (fun hotness => ("hotness", .ofNat hotness.toNat)) ++
      [("verbose", .bool record.verbose)])

def fieldNames : List String :=
  ["category", "pass", "name", "function", "location", "args", "hotness", "verbose"]

def ofJson? (json : Json) : Option Record := do
  let [category, pass, name, function, location, args, hotness, verbose] ←
    json.fields? fieldNames | none
  return {
    category := ← Category.ofJson? (← category)
    pass := ← (← pass).toText?
    name := ← (← name).toText?
    function := ← (← function).toText?
    location := ← defaulted none (Json.toOption? Place.ofJson?) location
    args := ← defaulted [] (Json.toList? Argument.ofJson?) args
    hotness := ← defaulted none (Json.toOption? Json.toUInt64?) hotness
    verbose := ← defaulted false Json.toBool? verbose }

/--
The compact text of a record.
-/
def text (record : Record) : String := record.toJson.compact

end Record

end IRDiagnostics
