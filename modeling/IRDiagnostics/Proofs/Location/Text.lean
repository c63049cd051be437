import IRDiagnostics.Located
import IRDiagnostics.Module.Step
import IRDiagnostics.Proofs.Answers
import IRDiagnostics.Proofs.Text.Decimal
import IRDiagnostics.Remark.Record

/-!
This module contains what the text of a location says. The name of a file is any text, with colons
and digits as well, but a line and a column are digits only, so the last two colons of the text are
the ones that were put between the parts. Remarks write a source position on their own account; it
comes out as it does everywhere else.
-/

namespace IRDiagnostics

theorem append_cons_inj_of_notMem {separator : α} {xs xs' ys ys' : List α} (hys : separator ∉ ys)
    (hys' : separator ∉ ys') (h : xs ++ separator :: ys = xs' ++ separator :: ys') :
    xs = xs' ∧ ys = ys' := by
  obtain ⟨between, hxs, hbetween⟩ | ⟨between, hxs, hbetween⟩ := List.append_eq_append_iff.mp h
  all_goals
    cases between with
    | nil => simp_all
    | cons c between =>
      -- The separator in front of the shorter rest would lie within the longer one.
      rw [List.cons_append, List.cons.injEq] at hbetween
      simp_all

namespace Location

theorem toList_text (location : Location) :
    location.text.toList =
      (location.relativePath.toList ++ ':' :: Nat.toDigits 10 location.line.toNat) ++
        ':' :: Nat.toDigits 10 location.column.toNat := by
  simp [text, Nat.repr]

theorem text_inj {a b : Location} :
    a.text = b.text ↔ a.relativePath = b.relativePath ∧ a.line = b.line ∧ a.column = b.column := by
  have hcolon : ∀ n, ':' ∉ Nat.toDigits 10 n := fun n => not_mem_toDigits n (by rfl)
  constructor
  . intro h
    have h := congrArg String.toList h
    rw [toList_text, toList_text] at h
    -- The column stands behind the last colon and the line behind the one before it.
    obtain ⟨h, hcolumn⟩ := append_cons_inj_of_notMem (hcolon _) (hcolon _) h
    obtain ⟨hpath, hline⟩ := append_cons_inj_of_notMem (hcolon _) (hcolon _) h
    refine ⟨String.toList_inj.mp hpath, ?_, ?_⟩
    . exact UInt32.toNat_inj.mp (toDigits_inj hline)
    . exact UInt32.toNat_inj.mp (toDigits_inj hcolumn)
  . rintro ⟨hpath, hline, hcolumn⟩
    unfold text
    rw [hpath, hline, hcolumn]

/--
That a location is shown in a text and recorded with the parts of a source position.
-/
structure IsShown (location : Location) (position : Position) (shown : String) : Prop where
  text_eq : location.text = shown
  place_eq : Record.Place.ofLocation? location =
    some { file := position.file.filename, line := position.line, column := position.column }

theorem val_ofPosition (key : String) (position : Position) :
    (Argument.ofPosition key (some position)).val = (Location.at position).text := rfl

theorem answers_resolve_of_instPosition {module : Module} {inst : InstId} {position : Position}
    (h : module.instPosition inst = .ok (some position)) (kind : Kind) (severity : Severity)
    (function : FunctionId) :
    Answers (Located.resolve module kind severity function (some inst)) fun located =>
      located.location = .at position := by
  unfold Located.resolve ofInst
  dsimp only
  rw [h]
  exact .pure rfl

/--
Locations with one text have the same parts. The text an argument shows of a source position is that
of its own location, of the location made from the position, and of whatever is located at an
instruction that carries the position; a record of any of them has the same parts.
-/
theorem positions_shown_alike :
    (∀ a b : Location, a.text = b.text ↔
      a.relativePath = b.relativePath ∧ a.line = b.line ∧ a.column = b.column) ∧
    ∀ (key : String) (position : Position),
      let argument := Argument.ofPosition key (some position)
      argument.location.IsShown position argument.val ∧
      (ofPosition? (some position)).IsShown position argument.val ∧
      ∀ (module : Module) (inst : InstId) (kind : Kind) (severity : Severity)
        (function : FunctionId), module.instPosition inst = .ok (some position) →
        Answers (Located.resolve module kind severity function (some inst)) fun located =>
          located.location.IsShown position argument.val := by
  refine ⟨fun a b => text_inj, ?_⟩
  intro key position argument
  have hshown : (Location.at position).IsShown position argument.val :=
    ⟨(val_ofPosition key position).symm, rfl⟩
  refine ⟨hshown, hshown, ?_⟩
  intro module inst kind severity function hinst
  apply (answers_resolve_of_instPosition hinst kind severity function).mono
  intro located hlocated
  rw [hlocated]
  exact hshown

/--
The name of the file looks like a text that has a line and a column already.
-/
theorem positions_shown_alike_colonsInName :
    let position : Position :=
      { file := { filename := "gen:4:2", directory := "/w" }, line := 7, column := 0 }
    let argument := Argument.ofPosition "At" (some position)
    ∃ module, (Module.build { identifier := "m" }
        [.file position.file,
         .function "f" ⟨.void, [], false⟩ [],
         .block ⟨0⟩ none,
         .instruction ⟨0⟩ .add (some { file := ⟨0⟩, line := 7, column := 0 })]).2 = .ok module ∧
      module.instPosition ⟨0⟩ = .ok (some position) ∧ argument.val = "gen:4:2:7:0" ∧
      Answers (Located.resolve module .misExpect .warning ⟨0⟩ (some ⟨0⟩)) fun located =>
        located.location.IsShown position argument.val := by
  intro position argument
  obtain ⟨module, hbuild, hposition⟩ :
      Answers (Module.build { identifier := "m" }
          [.file position.file,
           .function "f" ⟨.void, [], false⟩ [],
           .block ⟨0⟩ none,
           .instruction ⟨0⟩ .add (some { file := ⟨0⟩, line := 7, column := 0 })]).2 fun module =>
        module.instPosition ⟨0⟩ = .ok (some position) := by decide +kernel
  refine ⟨module, hbuild, hposition, by decide, ?_⟩
  exact (positions_shown_alike.2 "At" position).2.2 module ⟨0⟩ .misExpect .warning ⟨0⟩ hposition

end Location

end IRDiagnostics
