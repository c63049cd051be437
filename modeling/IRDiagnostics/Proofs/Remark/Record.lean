import IRDiagnostics.Proofs.Module.Names
import IRDiagnostics.Proofs.Remark.Run
import IRDiagnostics.Remark.Record
import Mathlib.Data.List.Forall2

/-!
This module contains the agreement between the text of a remark and its record. The two are made
apart from one another, but the text can be put together from the record once it is known how many
arguments belong to the message. The record of a remark about a module can always be made.
-/

namespace IRDiagnostics

namespace Record

def Place.text (place : Place) : String :=
  place.file ++ ":" ++ place.line.toNat.repr ++ ":" ++ place.column.toNat.repr

def placeText : Option Place → String
  | some place => place.text
  | none => "<unavailable>:0:0"

theorem placeText_ofLocation? (location : Location) :
    placeText (Place.ofLocation? location) = location.text := by
  cases location with
  | unavailable => decide
  | «at» position => rfl

theorem isSome_ofLocation? (location : Location) :
    (Place.ofLocation? location).isSome = location.isAvailable := by
  cases location with
  | unavailable => rfl
  | «at» position => rfl

/--
That an argument of a record is what was inserted into the remark.
-/
structure Argument.Records (entry : Argument) (argument : IRDiagnostics.Argument) : Prop where
  key : entry.key = argument.key
  value : entry.value = argument.val
  isSome_location_iff : entry.location.isSome ↔ argument.location.isAvailable
  location : placeText entry.location = argument.location.text

theorem Argument.records_ofArgument (argument : IRDiagnostics.Argument) :
    (ofArgument argument).Records argument where
  key := rfl
  value := rfl
  isSome_location_iff := by rw [← isSome_ofLocation?]; rfl
  location := placeText_ofLocation? argument.location

end Record

namespace Remark

variable {module : Module} {pass name : String} {made : Remark}

theorem contains_function_of_ofFunction {category : Category} {function : FunctionId}
    (h : ofFunction module category pass name function = .ok made) :
    module.functions.contains made.located.function := by
  rw [ofFunction_eq_ok_iff] at h
  obtain ⟨location, region, hlocation, _, rfl⟩ := h
  unfold Location.ofFunction Module.functionSubprogram at hlocation
  rw [Except.bind_eq_ok_iff] at hlocation
  obtain ⟨subprogram, hsubprogram, _⟩ := hlocation
  exact Arena.contains_of_read_bind hsubprogram

theorem contains_function_of_withKind (hnames : module.NamesKnown) {kind : Kind}
    {severity : Severity} {category : Category} {location : Location} {region : BlockId}
    (h : withKind module kind severity category pass name location region = .ok made) :
    module.functions.contains made.located.function := by
  rw [withKind_eq_ok_iff] at h
  obtain ⟨_, function, hparent, rfl⟩ := h
  exact hnames.contains_of_blockParent hparent

theorem contains_function_of_ofInst (hnames : module.NamesKnown) {category : Category}
    {inst : InstId} (h : ofInst module category pass name inst = .ok made) :
    module.functions.contains made.located.function := by
  rw [ofInst_eq_ok_iff] at h
  obtain ⟨function, location, region, hfunction, _, _, rfl⟩ := h
  unfold Module.instFunction at hfunction
  rw [Except.bind_eq_ok_iff] at hfunction
  obtain ⟨block, _, hparent⟩ := hfunction
  exact hnames.contains_of_blockParent hparent

theorem contains_function_of_make (hnames : module.NamesKnown) {origin : Origin}
    (h : make module pass name origin = .ok made) :
    module.functions.contains made.located.function := by
  obtain ⟨_, _, kind, severity, category, location, region, hmade⟩ | ⟨category, inst, _, hmade⟩ |
    ⟨category, function, _, hmade⟩ := make_cases h
  . exact contains_function_of_withKind hnames hmade
  . exact contains_function_of_ofInst hnames hmade
  . exact contains_function_of_ofFunction hmade

/--
That a record agrees with the text of a remark and with the arguments that steps inserted into it.
-/
structure Agrees (module : Module) (steps : List Step) (remark : Remark) (record : Record) : Prop
    where
  args : List.Forall₂ Record.Argument.Records record.args (inserted steps)
  messageSize_le : remark.firstExtra.getD remark.args.length ≤ record.args.length
  text : (Diagnostic.remark remark).text module = .ok
    (Record.placeText record.location ++ ": " ++
      String.join ((record.args.take (remark.firstExtra.getD remark.args.length)).map (·.value)) ++
      match record.hotness with
      | some hotness => " (hotness: " ++ hotness.toNat.repr ++ ")"
      | none => "")

theorem text_eq_of_record {remark : Remark} {record : Record}
    (hlocation : record.location = Record.Place.ofLocation? remark.located.location)
    (hargs : record.args = remark.args.map Record.Argument.ofArgument)
    (hhotness : record.hotness = remark.hotness) :
    remark.text =
      Record.placeText record.location ++ ": " ++
        String.join ((record.args.take remark.messageSize).map (·.value)) ++
        hotnessText record.hotness := by
  have hvalues : (record.args.take remark.messageSize).map (·.value) =
      (remark.args.take remark.messageSize).map (·.val) := by
    rw [hargs, ← List.map_take, List.map_map]
    rfl
  rw [hvalues, hhotness, hlocation, Record.placeText_ofLocation?]
  rfl

theorem Fresh.agrees_toRecord (h : made.Fresh) (steps : List Step) {function : String}
    (hfunction : module.functionName made.located.function = .ok function) :
    Answers ((made.run steps).toRecord module) (Agrees module steps (made.run steps)) := by
  have hargs : (made.run steps).args = inserted steps := by rw [h.run_eq]
  have hsplit : (made.run steps).firstExtra = split? steps := by rw [h.run_eq]
  have hlocated : (made.run steps).located = made.located := by rw [h.run_eq]
  unfold toRecord
  rw [hlocated, hfunction]
  apply Answers.pure
  constructor
  . rw [hargs, List.forall₂_map_left_iff, List.forall₂_same]
    intro argument hargument
    exact Record.Argument.records_ofArgument argument
  . rw [List.length_map, hsplit]
    cases hindex : split? steps with
    | none => exact Nat.le_refl _
    | some index =>
      rw [hargs]
      exact le_length_inserted_of_split? hindex
  . unfold Diagnostic.text
    rw [print_remark]
    refine congrArg Except.ok (text_eq_of_record ?_ rfl rfl)
    rw [hlocated]

/--
The record of every remark about a module that is built from an empty one can be made and agrees
with the text, whatever was done to the remark.
-/
theorem agrees_toRecord_run_of_make {identifier : String} {filter : Filter}
    {buildSteps : List BuildStep}
    (hbuild : (Module.build { identifier, filter } buildSteps).2 = .ok module) {origin : Origin}
    (h : make module pass name origin = .ok made) (steps : List Step) :
    Answers ((made.run steps).toRecord module) (Agrees module steps (made.run steps)) := by
  have hnames := Module.namesKnown_of_build hbuild
  obtain ⟨function, hfunction, _⟩ :=
    hnames.answers_functionName (contains_function_of_make hnames h)
  exact (fresh_of_make h).agrees_toRecord steps hfunction

def positioned : List BuildStep :=
  [.file { filename := "a.c", directory := "/src" },
   .subprogram { name := "f", file := ⟨0⟩, line := 3, scopeLine := 4 },
   .function "f" ⟨.void, [], false⟩ [],
   .setSubprogram ⟨0⟩ ⟨0⟩]

theorem agrees_toRecord_run_of_make_twiceMarked :
    ∃ module made, (Module.build { identifier := "m" } positioned).2 = .ok module ∧
      make module "inline" "TooCostly" (.function .missed ⟨0⟩) = .ok made ∧
      (made.run twiceMarked).text = "a.c:4:0: cost 35 (hotness: 12)" ∧
      Answers ((made.run twiceMarked).toRecord module)
        (Agrees module twiceMarked (made.run twiceMarked)) := by
  obtain ⟨module, hbuild, made, hmade, htext⟩ :
      Answers (Module.build { identifier := "m" } positioned).2 fun module =>
        Answers (make module "inline" "TooCostly" (.function .missed ⟨0⟩)) fun made =>
          (made.run twiceMarked).text = "a.c:4:0: cost 35 (hotness: 12)" := by decide +kernel
  exact ⟨module, made, hbuild, hmade, htext, agrees_toRecord_run_of_make hbuild hmade twiceMarked⟩

end Remark

end IRDiagnostics
