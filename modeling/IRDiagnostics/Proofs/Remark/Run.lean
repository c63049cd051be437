import IRDiagnostics.Diagnostic.Basic
import IRDiagnostics.Proofs.Remark.Origin

/-!
This module contains what any sequence of steps makes of a remark. Everything that can be seen of
the remark afterwards is told from the steps alone: which arguments they insert, and how many of
them before the split is set for the first time.
-/

namespace IRDiagnostics

namespace Remark

def Step.argument? : Step → Option Argument
  | .insert argument => some argument
  | _ => none

def Step.hotness? : Step → Option UInt64
  | .setHotness hotness => some hotness
  | _ => none

/--
The arguments that steps insert.
-/
def inserted (steps : List Step) : List Argument := steps.filterMap Step.argument?

/--
The number of arguments inserted before the split is set for the first time, if it is set at all.
-/
def split? (steps : List Step) : Option Nat :=
  if Step.markExtraArgs ∈ steps then
    some (inserted (steps.takeWhile (· ≠ .markExtraArgs))).length
  else
    none

/--
The hotness that is set last.
-/
def lastHotness? (steps : List Step) : Option UInt64 := (steps.filterMap Step.hotness?).getLast?

theorem inserted_cons (step : Step) (steps : List Step) :
    inserted (step :: steps) = step.argument?.toList ++ inserted steps := by
  unfold inserted
  cases h : step.argument? with
  | none => simp [h]
  | some argument => simp [h]

theorem split?_cons (step : Step) (steps : List Step) :
    split? (step :: steps) =
      if step = .markExtraArgs then some 0
      else (split? steps).map (step.argument?.toList.length + ·) := by
  split
  . next h => simp [split?, inserted, h]
  . next h =>
    have hmem : Step.markExtraArgs ∈ step :: steps ↔ Step.markExtraArgs ∈ steps := by
      simp [Ne.symm h]
    simp only [split?, hmem]
    split
    . simp [h, inserted_cons]
    . rfl

theorem lastHotness?_cons (step : Step) (steps : List Step) :
    lastHotness? (step :: steps) = (lastHotness? steps).or step.hotness? := by
  unfold lastHotness?
  cases h : step.hotness? with
  | none => simp [h]
  | some hotness => simp [h, List.getLast?_cons]

theorem apply_markExtraArgs (remark : Remark) :
    remark.apply .markExtraArgs =
      match remark.firstExtra with
      | none => (.ok (), { remark with firstExtra := some remark.args.length })
      | some index => (.error { index }, remark) := by
  simp only [apply, markExtraArgs]
  cases remark.firstExtra with
  | none => rfl
  | some index => rfl

/--
All that a step can change.
-/
theorem apply_snd (remark : Remark) (step : Step) :
    (remark.apply step).2 =
      { remark with
        args := remark.args ++ step.argument?.toList
        firstExtra :=
          remark.firstExtra.or (if step = .markExtraArgs then some remark.args.length else none)
        verbose := remark.verbose || step = .setVerbose
        hotness := step.hotness?.or remark.hotness } := by
  cases step with
  | insert argument => simp [apply, insert, Step.argument?, Step.hotness?]
  | setVerbose => simp [apply, setVerbose, Step.argument?, Step.hotness?]
  | setHotness hotness => simp [apply, setHotness, Step.argument?, Step.hotness?]
  | markExtraArgs =>
    rw [apply_markExtraArgs]
    obtain ⟨_, _, _, _, _, args, firstExtra, _, _⟩ := remark
    cases firstExtra with
    | none => simp [Step.argument?, Step.hotness?]
    | some index => simp [Step.argument?, Step.hotness?]

/--
All that a run can change.
-/
theorem run_eq (remark : Remark) (steps : List Step) :
    remark.run steps =
      { remark with
        args := remark.args ++ inserted steps
        firstExtra := remark.firstExtra.or ((split? steps).map (remark.args.length + ·))
        verbose := remark.verbose || Step.setVerbose ∈ steps
        hotness := (lastHotness? steps).or remark.hotness } := by
  induction steps generalizing remark with
  | nil => simp [run, inserted, split?, lastHotness?]
  | cons step steps ih =>
    have hrun : remark.run (step :: steps) = (remark.apply step).2.run steps := rfl
    rw [hrun]
    rw [ih]
    rw [apply_snd]
    rw [inserted_cons, split?_cons, lastHotness?_cons]
    simp only [mk.injEq, List.append_assoc, List.length_append, true_and]
    refine ⟨?_, ?_, ?_⟩
    . cases remark.firstExtra with
      | some index => rfl
      | none =>
        split
        . simp
        . simp [Function.comp_def, Nat.add_assoc]
    . simp [Bool.or_assoc, eq_comm]
    . rw [Option.or_assoc]

/--
A remark that nothing was done to yet.
-/
structure Fresh (remark : Remark) : Prop where
  args : remark.args = []
  firstExtra : remark.firstExtra = none
  verbose : remark.verbose = false
  hotness : remark.hotness = none

theorem fresh_of_withKind {module : Module} {kind : Kind} {severity : Severity}
    {category : Category} {pass name : String} {location : Location} {region : BlockId}
    {made : Remark}
    (h : withKind module kind severity category pass name location region = .ok made) :
    made.Fresh := by
  rw [withKind_eq_ok_iff] at h
  obtain ⟨_, function, _, rfl⟩ := h
  exact ⟨rfl, rfl, rfl, rfl⟩

theorem fresh_of_ofInst {module : Module} {category : Category} {pass name : String}
    {inst : InstId} {made : Remark} (h : ofInst module category pass name inst = .ok made) :
    made.Fresh := by
  rw [ofInst_eq_ok_iff] at h
  obtain ⟨function, location, region, _, _, _, rfl⟩ := h
  exact ⟨rfl, rfl, rfl, rfl⟩

theorem fresh_of_ofFunction {module : Module} {category : Category} {pass name : String}
    {function : FunctionId} {made : Remark}
    (h : ofFunction module category pass name function = .ok made) : made.Fresh := by
  rw [ofFunction_eq_ok_iff] at h
  obtain ⟨location, region, _, _, rfl⟩ := h
  exact ⟨rfl, rfl, rfl, rfl⟩

theorem fresh_of_make {module : Module} {pass name : String} {origin : Origin} {made : Remark}
    (h : make module pass name origin = .ok made) : made.Fresh := by
  obtain ⟨_, _, kind, severity, category, location, region, hmade⟩ | ⟨category, inst, _, hmade⟩ |
    ⟨category, function, _, hmade⟩ := make_cases h
  . exact fresh_of_withKind hmade
  . exact fresh_of_ofInst hmade
  . exact fresh_of_ofFunction hmade

theorem Fresh.run_eq {made : Remark} (h : made.Fresh) (steps : List Step) :
    made.run steps =
      { made with
        args := inserted steps
        firstExtra := split? steps
        verbose := Step.setVerbose ∈ steps
        hotness := lastHotness? steps } := by
  rw [Remark.run_eq]
  simp [h.args, h.firstExtra, h.verbose, h.hotness]

theorem le_length_inserted_of_split? {steps : List Step} {index : Nat}
    (h : split? steps = some index) : index ≤ (inserted steps).length := by
  unfold split? at h
  split at h
  . cases h
    apply List.Sublist.length_le
    apply List.Sublist.filterMap
    exact List.takeWhile_sublist _
  . cases h

theorem print_remark (printer : Printer) (module : Module) (remark : Remark) :
    (Diagnostic.remark remark).print printer module = .ok remark.text := by
  simp [Diagnostic.print, Diagnostic.fragments, Printer.fragments, Printer.fragment, bind,
    Except.bind, pure, Except.pure]

/--
What can be seen of a remark after some steps, told from the steps and from the remark as it was
made.
-/
structure Outcome (module : Module) (made : Remark) (steps : List Step) (remark : Remark) :
    Prop where
  args : remark.args = inserted steps
  firstExtra : remark.firstExtra = split? steps
  split_le : ∀ index, remark.firstExtra = some index → index ≤ remark.args.length
  /-- The arguments are cut within their bounds, for the message and for what it leaves out. -/
  messageSize_le : remark.messageSize ≤ remark.args.length
  /-- The message is made of the arguments before the split, or of all if there is none. -/
  shown : ∃ shown : List Argument,
    shown ++ remark.extraArgs = inserted steps ∧
    shown.length = (split? steps).getD (inserted steps).length ∧
    remark.message = String.join (shown.map (·.val))
  /-- The split can be set unless it was set before, and then it tells where. -/
  markExtraArgs : remark.apply .markExtraArgs =
    match split? steps with
    | none => (.ok (), { remark with firstExtra := some (inserted steps).length })
    | some index => (.error { index }, remark)
  verbose : remark.verbose ↔ Step.setVerbose ∈ steps
  hotness : remark.hotness = lastHotness? steps
  located : remark.located = made.located
  category : remark.category = made.category
  pass : remark.pass = made.pass
  name : remark.name = made.name
  region : remark.region = made.region
  print : ∀ printer, (Diagnostic.remark remark).print printer module =
    .ok (made.located.location.text ++ ": " ++ remark.message ++
      match lastHotness? steps with
      | some hotness => " (hotness: " ++ hotness.toNat.repr ++ ")"
      | none => "")

theorem Fresh.outcome {made : Remark} (h : made.Fresh) (module : Module) (steps : List Step) :
    Outcome module made steps (made.run steps) := by
  have hargs : (made.run steps).args = inserted steps := by rw [h.run_eq]
  have hsplit : (made.run steps).firstExtra = split? steps := by rw [h.run_eq]
  have hhotness : (made.run steps).hotness = lastHotness? steps := by rw [h.run_eq]
  have hsize : (made.run steps).messageSize = (split? steps).getD (inserted steps).length := by
    rw [messageSize, hargs, hsplit]
  have hle : (split? steps).getD (inserted steps).length ≤ (inserted steps).length := by
    cases hindex : split? steps with
    | none => simp
    | some index => exact le_length_inserted_of_split? hindex
  constructor
  . exact hargs
  . exact hsplit
  . intro index hindex
    rw [hsplit] at hindex
    rw [hargs]
    exact le_length_inserted_of_split? hindex
  . rw [hsize, hargs]
    exact hle
  . refine ⟨(inserted steps).take ((split? steps).getD (inserted steps).length), ?_, ?_, ?_⟩
    . rw [extraArgs, hsize, hargs, List.take_append_drop]
    . rw [List.length_take, Nat.min_eq_left hle]
    . rw [message, hsize, hargs]
  . rw [apply_markExtraArgs, hsplit, hargs]
  . rw [h.run_eq]
    simp
  . exact hhotness
  . rw [h.run_eq]
  . rw [h.run_eq]
  . rw [h.run_eq]
  . rw [h.run_eq]
  . rw [h.run_eq]
  . intro printer
    have hlocated : (made.run steps).located = made.located := by rw [h.run_eq]
    rw [print_remark, text, hlocated, hhotness]
    cases lastHotness? steps with
    | none => rfl
    | some hotness => rfl

/--
Every remark, whatever it was made about and whatever is done to it in any order, is told from the
steps.
-/
theorem outcome_run_of_make {module : Module} {pass name : String} {origin : Origin}
    {made : Remark} (h : make module pass name origin = .ok made) (steps : List Step) :
    Outcome module made steps (made.run steps) := by
  apply Fresh.outcome
  exact fresh_of_make h

def twiceMarked : List Step :=
  [.insert (.ofString "" "cost "),
   .setHotness 3,
   .insert (.ofUInt "Cost" 35),
   .markExtraArgs,
   .insert (.ofString "Reason" "too big"),
   .markExtraArgs,
   .setVerbose,
   .setHotness 12]

theorem outcome_run_of_make_twiceMarked :
    ∃ function module made,
      Module.addFunction { identifier := "m" } "f" ⟨.void, [], false⟩ [] = .ok (function, module) ∧
      make module "inline" "TooCostly" (.function .missed function) = .ok made ∧
      (made.run twiceMarked).text = "<unavailable>:0:0: cost 35 (hotness: 12)" ∧
      (made.run twiceMarked).extraArgs = [.ofString "Reason" "too big"] ∧
      Outcome module made twiceMarked (made.run twiceMarked) := by
  obtain ⟨⟨function, module⟩, hfunction, made, hmade, htext, hextra⟩ :
      Answers (Module.addFunction { identifier := "m" } "f" ⟨.void, [], false⟩ []) fun result =>
        Answers (make result.2 "inline" "TooCostly" (.function .missed result.1)) fun made =>
          (made.run twiceMarked).text = "<unavailable>:0:0: cost 35 (hotness: 12)" ∧
            (made.run twiceMarked).extraArgs = [.ofString "Reason" "too big"] := by decide +kernel
  exact ⟨function, module, made, hfunction, hmade, htext, hextra,
    outcome_run_of_make hmade twiceMarked⟩

end Remark

end IRDiagnostics
