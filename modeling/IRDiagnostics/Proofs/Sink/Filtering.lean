import IRDiagnostics.Config.Basic
import IRDiagnostics.Proofs.Answers
import IRDiagnostics.Proofs.Module.Filter
import IRDiagnostics.Proofs.Sink.History

/-!
This module contains what the filter of a module makes of the diagnostics that are reported about
it. A filter only takes remarks away: what is stored under it is stored under a wider one as well,
in the same order and with the same text.
-/

namespace IRDiagnostics

namespace Filter

/--
That every remark that a filter wants is wanted by another one as well.
-/
structure Within (filter wider : Filter) : Prop where
  applied : ∀ pass, filter.applied pass → wider.applied pass
  missed : ∀ pass, filter.missed pass → wider.missed pass
  analysis : ∀ pass, filter.analysis pass → wider.analysis pass

/--
Whether a filter wants the remarks of a category by a pass. Failures are not left to it.
-/
def wants (filter : Filter) (pass : String) : Category → Bool
  | .applied => filter.applied pass
  | .missed => filter.missed pass
  | .analysis => filter.analysis pass
  | .failure => true

end Filter

theorem Config.within_filter {config wider : Config}
    (h : wider.all ∨ ¬ config.all ∧ config.applied.names ⊆ wider.applied.names ∧
      config.missed.names ⊆ wider.missed.names ∧ config.analysis.names ⊆ wider.analysis.names) :
    config.filter.Within wider.filter := by
  obtain hall | ⟨hall, happlied, hmissed, hanalysis⟩ := h
  . constructor
    all_goals simp [filter, hall]
  . constructor
    all_goals
      intro pass
      simp only [filter, hall, NameSet.contains, Bool.or_eq_true, List.contains_iff_mem]
      grind

namespace Remark

variable {filter other : Filter} {remark : Remark}

theorem enabled_of_within (h : filter.Within other) (henabled : remark.enabled filter) :
    remark.enabled other := by
  unfold enabled at henabled ⊢
  cases hcategory : remark.category with
  | applied =>
    rw [hcategory] at henabled
    exact h.applied _ henabled
  | missed =>
    rw [hcategory] at henabled
    exact h.missed _ henabled
  | analysis =>
    rw [hcategory] at henabled
    simp only [Bool.or_eq_true] at henabled ⊢
    exact henabled.imp (h.analysis _) id
  | failure =>
    rw [hcategory] at henabled
    exact henabled

theorem enabled_congr
    (h : filter.wants remark.pass remark.category = other.wants remark.pass remark.category) :
    remark.enabled filter = remark.enabled other := by
  unfold enabled
  cases hcategory : remark.category with
  | applied | missed =>
    rw [hcategory] at h
    exact h
  | analysis =>
    rw [hcategory] at h
    exact congrArg (· || remark.alwaysPrint) h
  | failure => rfl

end Remark

namespace Diagnostic

variable {filter other : Filter} {diagnostic : Diagnostic}

/--
The diagnostics that are not left to the filter.
-/
def Unfiltered : Diagnostic → Prop
  | .remark diagnostic =>
    diagnostic.category = .failure ∨ diagnostic.category = .analysis ∧ diagnostic.pass = ""
  | _ => True

theorem enabled_of_within (h : filter.Within other) (henabled : diagnostic.enabled filter) :
    diagnostic.enabled other := by
  cases diagnostic with
  | remark remark => exact Remark.enabled_of_within h henabled
  | _ => rfl

theorem enabled_congr
    (h : ∀ remark, diagnostic = .remark remark →
      filter.wants remark.pass remark.category = other.wants remark.pass remark.category) :
    diagnostic.enabled filter = diagnostic.enabled other := by
  cases diagnostic with
  | remark remark => exact Remark.enabled_congr (h remark rfl)
  | _ => rfl

theorem Unfiltered.enabled_eq (h : diagnostic.Unfiltered) (filter other : Filter) :
    diagnostic.enabled filter = diagnostic.enabled other := by
  cases diagnostic with
  | remark remark =>
    obtain hcategory | ⟨hcategory, hpass⟩ := h
    . simp [enabled, Remark.enabled, hcategory]
    . simp [enabled, Remark.enabled, Remark.alwaysPrint, hcategory, hpass]
  | _ => rfl

end Diagnostic

namespace Sink

variable {module other : Module}

def session (module : Module) (diagnostics : List Diagnostic) : List Answer × Sink :=
  empty.run (diagnostics.map (.report module))

theorem handedOver_apply_report (sink : Sink) (module : Module) (diagnostic : Diagnostic) :
    (sink.apply (.report module diagnostic)).1.handedOver = [] := by
  rw [apply_report]
  split
  . cases diagnostic.render module with
    | ok rendered => rfl
    | error fault => rfl
  . rfl

theorem handedOver_run_report (sink : Sink) (module : Module) (diagnostics : List Diagnostic) :
    (sink.run (diagnostics.map (.report module))).1.flatMap Answer.handedOver = [] := by
  induction diagnostics generalizing sink with
  | nil => rfl
  | cons diagnostic rest ih =>
    simp only [List.map_cons, run, List.flatMap_cons]
    rw [handedOver_apply_report]
    rw [ih]
    rfl

theorem stored_session (module : Module) (diagnostics : List Diagnostic) :
    (session module diagnostics).2.stored.toList =
      reported (diagnostics.map (.report module)) := by
  -- No report hands anything over, so all that was rendered is still stored.
  have h := handedOver_run_append empty (diagnostics.map (.report module))
  rw [handedOver_run_report] at h
  exact h

theorem errorCount_session (module : Module) (diagnostics : List Diagnostic) :
    (session module diagnostics).2.errorCount =
      errors (reported (diagnostics.map (.report module))) := by
  unfold session
  rw [errorCount_run]
  exact Nat.zero_add _

theorem rendered?_sublist (halike : module.MadeAlike other)
    (hfilter : module.filter.Within other.filter) (diagnostic : Diagnostic) :
    (Call.report module diagnostic).rendered?.toList.Sublist
      (Call.report other diagnostic).rendered?.toList := by
  simp only [Call.rendered?]
  by_cases henabled : diagnostic.enabled module.filter
  . have hother := Diagnostic.enabled_of_within hfilter henabled
    simp only [henabled, hother, ↓reduceIte, halike.render, List.Sublist.refl]
  . rw [if_neg henabled]
    exact List.nil_sublist _

theorem reported_sublist (halike : module.MadeAlike other)
    (hfilter : module.filter.Within other.filter) (diagnostics : List Diagnostic) :
    (reported (diagnostics.map (.report module))).Sublist
      (reported (diagnostics.map (.report other))) := by
  induction diagnostics with
  | nil => exact List.Sublist.refl _
  | cons diagnostic rest ih =>
    rw [List.map_cons, List.map_cons]
    rw [reported_cons, reported_cons]
    apply List.Sublist.append
    . exact rendered?_sublist halike hfilter diagnostic
    . exact ih

theorem apply_report_congr (halike : module.MadeAlike other) {diagnostic : Diagnostic}
    (henabled : diagnostic.enabled module.filter = diagnostic.enabled other.filter)
    (sink : Sink) :
    sink.apply (.report module diagnostic) = sink.apply (.report other diagnostic) := by
  rw [apply_report, apply_report]
  rw [henabled, halike.render]

theorem run_report_congr (halike : module.MadeAlike other) {diagnostics : List Diagnostic}
    (henabled : ∀ diagnostic ∈ diagnostics,
      diagnostic.enabled module.filter = diagnostic.enabled other.filter) (sink : Sink) :
    sink.run (diagnostics.map (.report module)) = sink.run (diagnostics.map (.report other)) := by
  induction diagnostics generalizing sink with
  | nil => rfl
  | cons diagnostic rest ih =>
    rw [List.forall_mem_cons] at henabled
    simp only [List.map_cons, run]
    rw [apply_report_congr halike henabled.1]
    rw [ih henabled.2]

theorem answer_apply_report (sink : Sink) (module : Module) (diagnostic : Diagnostic) :
    (sink.apply (.report module diagnostic)).1 = (empty.apply (.report module diagnostic)).1 := by
  rw [apply_report, apply_report]
  split
  . cases diagnostic.render module with
    | ok rendered => rfl
    | error fault => rfl
  . rfl

theorem answers_run_report (sink : Sink) (module : Module) (diagnostics : List Diagnostic) :
    (sink.run (diagnostics.map (.report module))).1 =
      diagnostics.map fun diagnostic => (empty.apply (.report module diagnostic)).1 := by
  induction diagnostics generalizing sink with
  | nil => rfl
  | cons diagnostic rest ih =>
    simp only [List.map_cons, run]
    rw [answer_apply_report]
    rw [ih]

/--
What two new sinks have in common after the same diagnostics were reported to them, about modules
that differ in their filters.
-/
structure Filtered (module other : Module) (diagnostics : List Diagnostic) : Prop where
  stored : module.filter.Within other.filter →
    (session module diagnostics).2.stored.toList.Sublist
      (session other diagnostics).2.stored.toList
  errorCount : module.filter.Within other.filter →
    (session module diagnostics).2.errorCount ≤ (session other diagnostics).2.errorCount
  /-- What is not left to the filters is stored or not without regard to them. -/
  unfiltered : ∀ (index : Nat) (diagnostic : Diagnostic),
    diagnostics[index]? = some diagnostic → diagnostic.Unfiltered →
      ∃ answer, (session module diagnostics).1[index]? = some answer ∧
        (session other diagnostics).1[index]? = some answer
  /-- Filters that agree about the reported remarks cannot be told apart. -/
  agreed : (∀ remark, .remark remark ∈ diagnostics →
      module.filter.wants remark.pass remark.category =
        other.filter.wants remark.pass remark.category) →
    session module diagnostics = session other diagnostics

theorem filtered_of_madeAlike (halike : module.MadeAlike other) (diagnostics : List Diagnostic) :
    Filtered module other diagnostics := by
  constructor
  . intro hfilter
    rw [stored_session, stored_session]
    exact reported_sublist halike hfilter diagnostics
  . intro hfilter
    rw [errorCount_session, errorCount_session]
    apply List.Sublist.countP_le
    exact reported_sublist halike hfilter diagnostics
  . intro index diagnostic hindex hunfiltered
    have henabled := hunfiltered.enabled_eq module.filter other.filter
    refine ⟨(empty.apply (.report module diagnostic)).1, ?_, ?_⟩
    . simp [session, answers_run_report, hindex]
    . rw [apply_report_congr halike henabled]
      simp [session, answers_run_report, hindex]
  . intro hagree
    apply run_report_congr halike
    intro diagnostic hmem
    apply Diagnostic.enabled_congr
    rintro remark rfl
    exact hagree remark hmem

/--
Whatever is built under two filters, the two modules answer alike and differ in the filter alone,
the same diagnostics can be made about them, and only what the filters are asked about is reported
in different ways.
-/
theorem filtered_of_build {identifier : String} {filter : Filter} (other : Filter)
    {steps : List BuildStep} {module : Module}
    (h : (Module.build { identifier, filter } steps).2 = .ok module) :
    Module.build { identifier, filter := other } steps =
        ((Module.build { identifier, filter } steps).1, .ok (module.withFilter other)) ∧
      module.filter = filter ∧ module.MadeAlike (module.withFilter other) ∧
      ∀ diagnostics, Filtered module (module.withFilter other) diagnostics := by
  -- The filter of the result is told by building once more under the same filter.
  have hfilter := congrArg Prod.snd (Module.build_withFilter { identifier, filter } filter steps)
  have hother := Module.build_withFilter { identifier, filter } other steps
  have halike := Module.madeAlike_withFilter module other
  rw [h] at hother
  refine ⟨hother, ?_, halike, filtered_of_madeAlike halike⟩
  rw [h] at hfilter
  exact congrArg Module.filter (Except.ok.inj (h.symm.trans hfilter))

def inlineOnly : Config := { missed := .ofList ["inline"] }

/--
The third of these remarks does not say which pass it comes from.
-/
def fourOrigins : List Diagnostic.Origin :=
  [.remark "inline" "TooCostly" (.function .missed ⟨0⟩) [.insert (.ofUInt "Cost" 35)],
   .remark "licm" "Hoisted" (.function .missed ⟨0⟩) [],
   .remark "" "Note" (.function .analysis ⟨0⟩) [],
   .plugin .inlineAsm .error "bad operand"]

/--
The remark of the pass that is not configured is the one that is stored under the second filter
alone.
-/
theorem filtered_of_build_inlineOnly :
    let wider : Config := { inlineOnly with all := true }
    let steps := [.function "f" ⟨.void, [], false⟩ []]
    ∃ module module' diagnostics,
      (Module.build { identifier := "m", filter := inlineOnly.filter } steps).2 = .ok module ∧
      (Module.build { identifier := "m", filter := wider.filter } steps).2 = .ok module' ∧
      fourOrigins.mapM (Diagnostic.make module) = .ok diagnostics ∧
      inlineOnly.filter.Within wider.filter ∧
      (session module' diagnostics).2.stored.toList.map (·.message) =
        ["<unavailable>:0:0: 35", "<unavailable>:0:0: ", "<unavailable>:0:0: ", "bad operand"] ∧
      (session module diagnostics).1 =
        [.reported true, .reported false, .reported true, .reported true] ∧
      Filtered module module' diagnostics := by
  intro wider steps
  obtain ⟨module, hbuild, diagnostics, hmade, hmessages, hanswers⟩ :
      Answers (Module.build { identifier := "m", filter := inlineOnly.filter } steps).2 fun module =>
        Answers (fourOrigins.mapM (Diagnostic.make module)) fun diagnostics =>
          (session (module.withFilter wider.filter) diagnostics).2.stored.toList.map (·.message) =
              ["<unavailable>:0:0: 35", "<unavailable>:0:0: ", "<unavailable>:0:0: ",
                "bad operand"] ∧
            (session module diagnostics).1 =
              [.reported true, .reported false, .reported true, .reported true] := by
    decide +kernel
  obtain ⟨hother, _, _, hfiltered⟩ := filtered_of_build wider.filter hbuild
  have hwithin : inlineOnly.filter.Within wider.filter := Config.within_filter (.inl rfl)
  exact ⟨module, module.withFilter wider.filter, diagnostics, hbuild, congrArg Prod.snd hother,
    hmade, hwithin, hmessages, hanswers, hfiltered diagnostics⟩

end Sink

end IRDiagnostics
