import IRDiagnostics.Proofs.Codec.Record

/-!
This module contains what is read of a record from which members were deleted. A field that has a
default is read as that, in the record and in each of its arguments; without any other field nothing
is read.
-/

namespace IRDiagnostics

namespace Json

/--
Delete the members of an object whose keys are omitted.
-/
def without (omitted : String → Bool) : Json → Json
  | .object members => .object (members.filter fun (key, _) => ! key.any omitted)
  | json => json

/--
Change the value of a key in an object.
-/
def mapMember (key : String) (change : Json → Json) : Json → Json
  | .object members =>
    .object (members.map fun (other, value) =>
      (other, if other = some key then change value else value))
  | json => json

/--
Change the items of an array by their positions.
-/
def mapItems (change : Nat → Json → Json) : Json → Json
  | .array items => .array (items.mapIdx change)
  | json => json

def withoutFields (omitted : String → Bool) (fields : List (String × Option Json)) :
    List (String × Option Json) :=
  fields.map fun (key, value) => (key, if omitted key then none else value)

def mapField (key : String) (change : Json → Json) (fields : List (String × Option Json)) :
    List (String × Option Json) :=
  fields.map fun (other, value) => (other, if other = key then value.map change else value)

theorem without_ofMembers_present (omitted : String → Bool) (fields : List (String × Option Json)) :
    (ofMembers (present fields)).without omitted =
      ofMembers (present (withoutFields omitted fields)) := by
  unfold ofMembers without
  dsimp only
  congr 1
  induction fields with
  | nil => rfl
  | cons field fields ih =>
    obtain ⟨key, value⟩ := field
    cases value with
    | none => simpa [present, withoutFields] using ih
    | some value =>
      by_cases homitted : omitted key
      . simpa [present, withoutFields, homitted] using ih
      . simpa [present, withoutFields, homitted] using ih

theorem mapMember_ofMembers_present (key : String) (change : Json → Json)
    (fields : List (String × Option Json)) :
    (ofMembers (present fields)).mapMember key change =
      ofMembers (present (mapField key change fields)) := by
  unfold ofMembers mapMember
  dsimp only
  congr 1
  induction fields with
  | nil => rfl
  | cons field fields ih =>
    obtain ⟨other, value⟩ := field
    cases value with
    | none => simpa [present, mapField] using ih
    | some value =>
      by_cases hother : other = key
      . simpa [present, mapField, hother] using ih
      . simpa [present, mapField, hother] using ih

end Json

namespace Record

theorem defaulted_map_unless {α : Type} {encode : α → Json} {decode : Json → Option α}
    (hnull : ∀ x, encode x ≠ .null) (h : ∀ x, decode (encode x) = some x) (omitted : Bool)
    (value : Option α) :
    defaulted none (Json.toOption? decode) (if omitted then none else value.map encode) =
      some (if omitted then none else value) := by
  split
  . rfl
  . exact defaulted_map hnull h value

namespace Argument

/--
The argument with the defaults of the omitted members.
-/
def defaulting (omitted : String → Bool) (argument : Argument) : Argument :=
  { argument with
    key := if omitted "key" then "" else argument.key
    location := if omitted "location" then none else argument.location }

theorem ofJson?_eq_none {json : Json} {key location : Option Json}
    (hfields : json.fields? ["key", "value", "location"] = some [key, none, location]) :
    Argument.ofJson? json = none := by
  unfold Argument.ofJson?
  rw [hfields]
  simp

theorem ofJson?_without (omitted : String → Bool) (argument : Argument) :
    Argument.ofJson? (argument.toJson.without omitted) =
      if omitted "value" then none else some (argument.defaulting omitted) := by
  have hnodup : ((Json.withoutFields omitted argument.fields).map (·.1)).Nodup := by
    simp [Json.withoutFields, fields]
  have hfields := Json.fields?_ofMembers_present hnodup
  rw [← Json.without_ofMembers_present, ← toJson_eq] at hfields
  simp only [Json.withoutFields, fields, List.map_cons, List.map_nil] at hfields
  by_cases hvalue : omitted "value"
  . rw [if_pos hvalue] at hfields
    rw [if_pos hvalue]
    exact ofJson?_eq_none hfields
  . rw [if_neg hvalue] at hfields
    rw [if_neg hvalue]
    apply ofJson?_eq_some hfields
    . unfold defaulting
      split
      . rfl
      . split
        . next hkey => rw [hkey, defaulted]
        . rfl
    . rfl
    . exact defaulted_map_unless Place.toJson_ne_null Place.ofJson?_toJson _ argument.location

theorem mapM_ofJson?_without (omitted : Nat → String → Bool) (args : List Argument) :
    ((args.map toJson).mapIdx fun i json => json.without (omitted i)).mapM Argument.ofJson? =
      if ∃ i < args.length, omitted i "value" then none
      else some (args.mapIdx fun i argument => argument.defaulting (omitted i)) := by
  induction args generalizing omitted with
  | nil => simp
  | cons argument args ih =>
    rw [List.map_cons, List.mapIdx_cons, List.mapM_cons]
    rw [ofJson?_without, ih]
    simp only [List.length_cons, Nat.exists_lt_succ_left]
    by_cases hfirst : omitted 0 "value"
    . simp [hfirst]
    . by_cases hrest : ∃ i < args.length, omitted (i + 1) "value"
      . simp [hfirst, hrest]
      . simp [hfirst, hrest, List.mapIdx_cons]

end Argument

/--
What is deleted from a record: members of its own, and members of its arguments by their positions.
-/
structure Omission where
  members : String → Bool
  argument : Nat → String → Bool

namespace Omission

def delete (omission : Omission) (json : Json) : Json :=
  (json.mapMember "args" (.mapItems fun i item => item.without (omission.argument i))).without
    omission.members

/--
The record with the defaults of the omitted members.
-/
def defaulting (omission : Omission) (record : Record) : Record :=
  { record with
    location := if omission.members "location" then none else record.location
    args :=
      if omission.members "args" then
        []
      else
        record.args.mapIdx fun i argument => argument.defaulting (omission.argument i)
    hotness := if omission.members "hotness" then none else record.hotness
    verbose := if omission.members "verbose" then false else record.verbose }

/--
Whether a member without a default is omitted, from the record or from an argument that is left.
-/
def IsLossy (omission : Omission) (record : Record) : Prop :=
  (∃ key ∈ ["category", "pass", "name", "function"], omission.members key) ∨
    ¬ omission.members "args" ∧ ∃ i < record.args.length, omission.argument i "value"

instance (omission : Omission) (record : Record) : Decidable (omission.IsLossy record) :=
  inferInstanceAs (Decidable (_ ∨ _))

end Omission

theorem ofJson?_eq_none {json : Json} {category pass name function : Option Json}
    {location args hotness verbose : Option Json}
    (hfields : json.fields? fieldNames =
      some [category, pass, name, function, location, args, hotness, verbose])
    (h : (category = none ∨ pass = none ∨ name = none ∨ function = none) ∨
      defaulted [] (Json.toList? Argument.ofJson?) args = none) :
    Record.ofJson? json = none := by
  unfold Record.ofJson?
  rw [hfields]
  obtain (rfl | rfl | rfl | rfl) | hargs := h
  . simp
  . simp
  . simp
  . simp
  . simp [hargs]

theorem fields?_delete (omission : Omission) (record : Record) :
    (omission.delete record.toJson).fields? fieldNames = some
      [if omission.members "category" then none else some record.category.toJson,
       if omission.members "pass" then none else some (.ofString record.pass),
       if omission.members "name" then none else some (.ofString record.name),
       if omission.members "function" then none else some (.ofString record.function),
       if omission.members "location" then none else record.location.map Place.toJson,
       if omission.members "args" then none else
         some (.array ((record.args.map Argument.toJson).mapIdx fun i item =>
           item.without (omission.argument i))),
       if omission.members "hotness" then none else
         record.hotness.map fun hotness => .ofNat hotness.toNat,
       if omission.members "verbose" then none else some (.bool record.verbose)] := by
  have hnodup : ((Json.withoutFields omission.members (Json.mapField "args"
      (.mapItems fun i item => item.without (omission.argument i)) record.fields)).map
        (·.1)).Nodup := by
    change fieldNames.Nodup
    decide
  have hfields := Json.fields?_ofMembers_present hnodup
  rw [← Json.without_ofMembers_present, ← Json.mapMember_ofMembers_present, ← toJson_eq] at hfields
  exact hfields

theorem args_delete (omission : Omission) (record : Record) :
    defaulted [] (Json.toList? Argument.ofJson?)
        (if omission.members "args" then none else
          some (.array ((record.args.map Argument.toJson).mapIdx fun i item =>
            item.without (omission.argument i)))) =
      if ¬ omission.members "args" ∧ ∃ i < record.args.length, omission.argument i "value" then
        none
      else
        some (omission.defaulting record).args := by
  unfold Omission.defaulting
  by_cases hargs : omission.members "args"
  . simp [hargs, defaulted]
  . simp [hargs, defaulted, Json.toList?, Argument.mapM_ofJson?_without]

theorem ofJson?_delete (omission : Omission) (record : Record) :
    Record.ofJson? (omission.delete record.toJson) =
      if omission.IsLossy record then none else some (omission.defaulting record) := by
  have hfields := fields?_delete omission record
  have hargs := args_delete omission record
  simp only [Omission.IsLossy, List.mem_cons, List.not_mem_nil, or_false, exists_eq_or_imp,
    exists_eq_left]
  split
  . next hlossy =>
    apply ofJson?_eq_none hfields
    obtain hkey | hvalue := hlossy
    . left
      obtain hkey | hkey | hkey | hkey := hkey
      all_goals simp [hkey]
    . right
      rw [hargs, if_pos hvalue]
  . next hlossless =>
    simp only [not_or] at hlossless
    obtain ⟨⟨hcategory, hpass, hname, hfunction⟩, hvalue⟩ := hlossless
    rw [if_neg hcategory, if_neg hpass, if_neg hname, if_neg hfunction] at hfields
    rw [if_neg hvalue] at hargs
    apply ofJson?_eq_some hfields
    . exact record.category.ofJson?_toJson
    . rfl
    . rfl
    . rfl
    . exact defaulted_map_unless Place.toJson_ne_null Place.ofJson?_toJson _ record.location
    . exact hargs
    . exact defaulted_map_unless nofun Json.toUInt64?_ofNat _ record.hotness
    . unfold Omission.defaulting
      split
      . rfl
      . rfl

/--
Whatever members are deleted from a record and from its arguments, the rest is read with defaults in
place of what had them, and is not read at all if something else is missing.
-/
theorem read_deleted (omission : Omission) (record : Record) :
    (Json.read? (omission.delete record.toJson).compact).bind Record.ofJson? =
      if omission.IsLossy record then none else some (omission.defaulting record) := by
  rw [Json.read?_compact, Option.bind_some]
  exact ofJson?_delete omission record

end Record

end IRDiagnostics
