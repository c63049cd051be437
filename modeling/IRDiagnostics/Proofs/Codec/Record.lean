import IRDiagnostics.Codec.Diagnostic
import IRDiagnostics.Proofs.Json.Decode
import IRDiagnostics.Proofs.Json.RoundTrip

/-!
This module contains the round trip of remark records and rendered diagnostics through JSON. A
structure is read from the values of its fields; for each structure there is the list of the fields
it is written as, in which the ones that are left out have no value.
-/

namespace IRDiagnostics

theorem Kind.ofJson?_toJson (kind : Kind) : Kind.ofJson? kind.toJson = some kind := by
  unfold Kind.ofJson? Kind.toJson
  rw [Json.toUInt32?_ofNat]
  rfl

theorem Severity.ofJson?_toJson (severity : Severity) :
    Severity.ofJson? severity.toJson = some severity :=
  ofLabel?_label severity

theorem Category.ofJson?_toJson (category : Category) :
    Category.ofJson? category.toJson = some category :=
  ofText?_text category

namespace Rendered

theorem ofJson?_eq_some {json kind severity message : Json} {rendered : Rendered}
    (hfields : json.fields? ["kind", "severity", "message"] =
      some [some kind, some severity, some message])
    (hkind : Kind.ofJson? kind = some rendered.kind)
    (hseverity : Severity.ofJson? severity = some rendered.severity)
    (hmessage : message.toText? = some rendered.message) :
    Rendered.ofJson? json = some rendered := by
  unfold Rendered.ofJson?
  rw [hfields]
  simp only [Option.bind_eq_bind, Option.bind_some, Option.pure_def, hkind, hseverity, hmessage]

def fields (rendered : Rendered) : List (String × Option Json) :=
  [("kind", some rendered.kind.toJson),
   ("severity", some rendered.severity.toJson),
   ("message", some (.ofString rendered.message))]

theorem ofJson?_toJson (rendered : Rendered) :
    Rendered.ofJson? rendered.toJson = some rendered := by
  have hnodup : (rendered.fields.map (·.1)).Nodup := by simp [fields]
  apply ofJson?_eq_some (Json.fields?_ofMembers_present hnodup)
  . exact rendered.kind.ofJson?_toJson
  . exact rendered.severity.ofJson?_toJson
  . rfl

end Rendered

namespace Record

theorem defaulted_map {α : Type} {encode : α → Json} {decode : Json → Option α}
    (hnull : ∀ x, encode x ≠ .null) (h : ∀ x, decode (encode x) = some x) (value : Option α) :
    defaulted none (Json.toOption? decode) (value.map encode) = some value := by
  cases value with
  | none => rfl
  | some x =>
    rw [Option.map_some, defaulted]
    unfold Json.toOption?
    split
    . next heq => exact absurd heq (hnull x)
    . rw [h]
      rfl

namespace Place

theorem ofJson?_eq_some {json file line column : Json} {place : Place}
    (hfields : json.fields? ["file", "line", "column"] = some [some file, some line, some column])
    (hfile : file.toText? = some place.file) (hline : line.toUInt32? = some place.line)
    (hcolumn : column.toUInt32? = some place.column) : Place.ofJson? json = some place := by
  unfold Place.ofJson?
  rw [hfields]
  simp only [Option.bind_eq_bind, Option.bind_some, Option.pure_def, hfile, hline, hcolumn]

def fields (place : Place) : List (String × Option Json) :=
  [("file", some (.ofString place.file)),
   ("line", some (.ofNat place.line.toNat)),
   ("column", some (.ofNat place.column.toNat))]

theorem ofJson?_toJson (place : Place) : Place.ofJson? place.toJson = some place := by
  have hnodup : (place.fields.map (·.1)).Nodup := by simp [fields]
  apply ofJson?_eq_some (Json.fields?_ofMembers_present hnodup)
  . rfl
  . exact Json.toUInt32?_ofNat place.line
  . exact Json.toUInt32?_ofNat place.column

theorem toJson_ne_null (place : Place) : place.toJson ≠ .null := nofun

end Place

namespace Argument

theorem ofJson?_eq_some {json value : Json} {key location : Option Json} {argument : Argument}
    (hfields : json.fields? ["key", "value", "location"] = some [key, some value, location])
    (hkey : defaulted "" Json.toText? key = some argument.key)
    (hvalue : value.toText? = some argument.value)
    (hlocation : defaulted none (Json.toOption? Place.ofJson?) location =
      some argument.location) :
    Argument.ofJson? json = some argument := by
  unfold Argument.ofJson?
  rw [hfields]
  simp only [Option.bind_eq_bind, Option.bind_some, Option.pure_def, hkey, hvalue, hlocation]

def fields (argument : Argument) : List (String × Option Json) :=
  [("key", if argument.key = "" then none else some (.ofString argument.key)),
   ("value", some (.ofString argument.value)),
   ("location", argument.location.map Place.toJson)]

theorem toJson_eq (argument : Argument) :
    argument.toJson = .ofMembers (Json.present argument.fields) := by
  unfold toJson fields Place.members
  split
  . cases argument.location <;> rfl
  . cases argument.location <;> rfl

theorem ofJson?_toJson (argument : Argument) : Argument.ofJson? argument.toJson = some argument := by
  have hnodup : (argument.fields.map (·.1)).Nodup := by simp [fields]
  rw [toJson_eq]
  apply ofJson?_eq_some (Json.fields?_ofMembers_present hnodup)
  . split
    . next hkey => rw [hkey, defaulted]
    . rfl
  . rfl
  . exact defaulted_map Place.toJson_ne_null Place.ofJson?_toJson argument.location

end Argument

theorem ofJson?_eq_some {json category pass name function : Json}
    {location args hotness verbose : Option Json} {record : Record}
    (hfields : json.fields? fieldNames =
      some [some category, some pass, some name, some function, location, args, hotness, verbose])
    (hcategory : Category.ofJson? category = some record.category)
    (hpass : pass.toText? = some record.pass) (hname : name.toText? = some record.name)
    (hfunction : function.toText? = some record.function)
    (hlocation : defaulted none (Json.toOption? Place.ofJson?) location = some record.location)
    (hargs : defaulted [] (Json.toList? Argument.ofJson?) args = some record.args)
    (hhotness : defaulted none (Json.toOption? Json.toUInt64?) hotness = some record.hotness)
    (hverbose : defaulted false Json.toBool? verbose = some record.verbose) :
    Record.ofJson? json = some record := by
  unfold Record.ofJson?
  rw [hfields]
  simp only [Option.bind_eq_bind, Option.bind_some, Option.pure_def, hcategory, hpass, hname,
    hfunction, hlocation, hargs, hhotness, hverbose]

def fields (record : Record) : List (String × Option Json) :=
  [("category", some record.category.toJson),
   ("pass", some (.ofString record.pass)),
   ("name", some (.ofString record.name)),
   ("function", some (.ofString record.function)),
   ("location", record.location.map Place.toJson),
   ("args", some (.ofList Argument.toJson record.args)),
   ("hotness", record.hotness.map fun hotness => .ofNat hotness.toNat),
   ("verbose", some (.bool record.verbose))]

theorem toJson_eq (record : Record) :
    record.toJson = .ofMembers (Json.present record.fields) := by
  unfold toJson fields Place.members
  cases record.location with
  | none => cases record.hotness <;> rfl
  | some place => cases record.hotness <;> rfl

theorem ofJson?_toJson (record : Record) : Record.ofJson? record.toJson = some record := by
  have hnodup : (record.fields.map (·.1)).Nodup := by
    change fieldNames.Nodup
    decide
  rw [toJson_eq]
  apply ofJson?_eq_some (Json.fields?_ofMembers_present hnodup)
  . exact record.category.ofJson?_toJson
  . rfl
  . rfl
  . rfl
  . exact defaulted_map Place.toJson_ne_null Place.ofJson?_toJson record.location
  . exact Json.toList?_ofList Argument.ofJson?_toJson record.args
  . exact defaulted_map nofun Json.toUInt64?_ofNat record.hotness
  . rfl

theorem read_text (record : Record) :
    (Json.read? record.text).bind Record.ofJson? = some record := by
  unfold Record.text
  rw [Json.read?_compact, Option.bind_some]
  exact record.ofJson?_toJson

end Record

/--
Records and rendered diagnostics are read back from their compact text, the records of remarks among
them.
-/
theorem records_read_back :
    (∀ record : Record, (Json.read? record.text).bind Record.ofJson? = some record) ∧
      (∀ (module : Module) (remark : Remark),
        (remark.toRecord module).map
            (fun record => (Json.read? record.text).bind Record.ofJson?) =
          (remark.toRecord module).map some) ∧
      ∀ rendered : Rendered,
        (Json.read? rendered.toJson.compact).bind Rendered.ofJson? = some rendered := by
  refine ⟨Record.read_text, ?_, ?_⟩
  . intro module remark
    rw [funext Record.read_text]
  . intro rendered
    rw [Json.read?_compact, Option.bind_some]
    exact rendered.ofJson?_toJson

end IRDiagnostics
