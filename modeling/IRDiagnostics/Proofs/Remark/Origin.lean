import IRDiagnostics.Proofs.Module.Steps
import IRDiagnostics.Remark.Origin

/-!
This module contains what the makers of remarks do: which reads of the module they depend on and
what they make of the answers.
-/

namespace IRDiagnostics

namespace Remark

variable {module : Module} {category : Category} {pass name : String} {made : Remark}

theorem withKind_eq_ok_iff {kind : Kind} {severity : Severity} {location : Location}
    {region : BlockId} :
    withKind module kind severity category pass name location region = .ok made ↔
      category.accepts kind ∧
      ∃ function, module.blockParent region = .ok function ∧
        { located := { kind, severity, function, location }, category, pass, name,
          region := some region } = made := by
  unfold withKind
  split
  . next h => simp [h, Except.bind_eq_ok_iff, Except.mapError_eq_ok_iff, pure, Except.pure]
  . next h => simp [h, throw, throwThe, MonadExceptOf.throw]

theorem ofInst_eq_ok_iff {inst : InstId} :
    ofInst module category pass name inst = .ok made ↔
      ∃ function location region, module.instFunction inst = .ok function ∧
        Location.ofInst module inst = .ok location ∧ module.instParent inst = .ok region ∧
        { located :=
            { kind := category.defaultKind, severity := category.defaultSeverity, function,
              location },
          category, pass, name, region := some region } = made := by
  unfold ofInst
  simp [Except.bind_eq_ok_iff, pure, Except.pure]

theorem ofFunction_eq_ok_iff {function : FunctionId} :
    ofFunction module category pass name function = .ok made ↔
      ∃ location region, Location.ofFunction module function = .ok location ∧
        module.firstBlock function = .ok region ∧
        { located :=
            { kind := category.defaultKind, severity := category.defaultSeverity, function,
              location },
          category, pass, name, region } = made := by
  unfold ofFunction
  simp [Except.bind_eq_ok_iff, pure, Except.pure]

/--
All ways to make a remark come down to three, of which two are about something else than a block.
-/
theorem make_cases {origin : Origin} (h : make module pass name origin = .ok made) :
    ((∀ category inst, origin ≠ .inst category inst) ∧
      (∀ category function, origin ≠ .function category function) ∧
      ∃ kind severity category location region,
        withKind module kind severity category pass name location region = .ok made) ∨
    (∃ category inst, origin = .inst category inst ∧
      ofInst module category pass name inst = .ok made) ∨
    (∃ category function, origin = .function category function ∧
      ofFunction module category pass name function = .ok made) := by
  cases origin with
  | withKind kind severity category location region =>
    exact .inl ⟨by simp, by simp, kind, severity, category, location, region, h⟩
  | block category location region =>
    exact .inl ⟨by simp, by simp, category.defaultKind, category.defaultSeverity, category,
      location, region, h⟩
  | fpCommute location region =>
    exact .inl ⟨by simp, by simp, .optimizationRemarkAnalysisFpCommute, .remark, .analysis,
      location, region, h⟩
  | aliasing location region =>
    exact .inl ⟨by simp, by simp, .optimizationRemarkAnalysisAliasing, .remark, .analysis,
      location, region, h⟩
  | inst category inst =>
    exact .inr (.inl ⟨category, inst, rfl, Except.mapError_eq_ok_iff.mp h⟩)
  | function category function =>
    exact .inr (.inr ⟨category, function, rfl, Except.mapError_eq_ok_iff.mp h⟩)

end Remark

end IRDiagnostics
