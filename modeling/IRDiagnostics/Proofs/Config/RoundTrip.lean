import IRDiagnostics.Config.Load
import IRDiagnostics.Config.Printer
import IRDiagnostics.Proofs.Module.Growth
import IRDiagnostics.Proofs.Toml.Lines
import IRDiagnostics.Proofs.Toml.Table

/-!
This module contains that every configuration can be written in TOML: what is loaded from the text
has the names that were listed, and decides about passes accordingly.
-/

namespace IRDiagnostics

namespace Config

theorem names?_texts (texts : List String) :
    names? (some (.texts texts)) = some (.ofList texts) := by
  suffices (texts.map fun text => Toml.Node.scalar (.string text)).mapM name? = some texts by
    unfold names? Toml.Node.texts
    simp [this]
  induction texts with
  | nil => rfl
  | cons text texts ih =>
    rw [List.map_cons, List.mapM_cons]
    rw [ih]
    rfl

namespace Draft

def values (draft : Draft) : List (String × Toml.Value) :=
  [("all", .scalar (.boolean draft.all)), ("applied", .texts draft.applied),
    ("missed", .texts draft.missed), ("analysis", .texts draft.analysis)]

def nodes (draft : Draft) : Toml.Entries :=
  [("all", .scalar (.boolean draft.all)), ("applied", .texts draft.applied),
    ("missed", .texts draft.missed), ("analysis", .texts draft.analysis)]

/--
The configuration with the names in a draft.
-/
def config (draft : Draft) : Config where
  all := draft.all
  applied := .ofList draft.applied
  missed := .ofList draft.missed
  analysis := .ofList draft.analysis

theorem document_read?_text (layout : Toml.Layout) (draft : Draft) :
    Toml.Document.read? (draft.text layout) =
      some (.ofLines (.header (.table ["remarks"]) ::
        draft.values.map fun (key, value) => .assignment [key] value)) := by
  apply Toml.read?_lines
  . refine .cons (Toml.writesLine_header (by decide)) ?_
    refine .cons (Toml.writesLine_assignment (by decide) (Toml.writesValue_booleanChars _)) ?_
    refine .cons (Toml.writesLine_assignment (by decide) (Toml.writesValue_array layout _)) ?_
    refine .cons (Toml.writesLine_assignment (by decide) (Toml.writesValue_array layout _)) ?_
    refine .cons (Toml.writesLine_assignment (by decide) (Toml.writesValue_array layout _)) ?_
    exact .nil
  . rw [Toml.lines_cons_cons]
    simp [Toml.headerChars]

theorem read?_text (layout : Toml.Layout) (draft : Draft) :
    Toml.read? (draft.text layout) = some [("remarks", .table .header draft.nodes)] := by
  unfold Toml.read?
  rw [document_read?_text]
  apply Toml.entries?_ofLines
  . simp [values, nodes, Toml.Node.ofEntries?, Toml.Node.ofValue?, Toml.ofValue?_texts]
  . change ["all", "applied", "missed", "analysis"].Nodup
    decide

theorem ofText?_text (layout : Toml.Layout) (draft : Draft) :
    ofText? (draft.text layout) = some draft.config := by
  unfold ofText?
  rw [read?_text]
  change ofFields? (some (.scalar (.boolean draft.all))) (some (.texts draft.applied))
    (some (.texts draft.missed)) (some (.texts draft.analysis)) = _
  unfold ofFields?
  simp [names?_texts, flag?, config]

theorem load_text_eq_validate (layout : Toml.Layout) (draft : Draft) :
    load (draft.text layout) = draft.config.validate := by
  unfold load
  rw [ofText?_text]

end Draft

theorem validate_of_not_isBlank {config : Config}
    (h : ∀ category ∈ config.categories, ∀ name ∈ category.2.names, ¬ isBlank name) :
    config.validate = .ok config := by
  have hnone : config.blankCategory? = none := by
    unfold blankCategory?
    rw [Option.map_eq_none_iff, List.find?_eq_none]
    intro category hcategory hany
    obtain ⟨name, hname, hblank⟩ := List.any_eq_true.mp hany
    exact h category hcategory name hname hblank
  unfold validate
  rw [hnone]

namespace Draft

variable {draft : Draft}

theorem validate_config
    (h : ∀ name ∈ draft.applied ++ draft.missed ++ draft.analysis, ¬ isBlank name) :
    draft.config.validate = .ok draft.config := by
  simp only [List.forall_mem_append] at h
  apply validate_of_not_isBlank
  simp only [categories, config, NameSet.mem_names_ofList, List.forall_mem_cons]
  exact ⟨h.1.1, h.1.2, h.2, List.forall_mem_nil _⟩

/--
That a filter wants the remarks that a draft asks for: those of the passes in its lists, or all.
-/
structure Decides (draft : Draft) (filter : Filter) : Prop where
  applied : ∀ pass, filter.applied pass ↔ draft.all ∨ pass ∈ draft.applied
  missed : ∀ pass, filter.missed pass ↔ draft.all ∨ pass ∈ draft.missed
  analysis : ∀ pass, filter.analysis pass ↔ draft.all ∨ pass ∈ draft.analysis

theorem decides_config (draft : Draft) : draft.Decides draft.config.filter where
  applied pass := by simp [filter, config, NameSet.contains_ofList]
  missed pass := by simp [filter, config, NameSet.contains_ofList]
  analysis pass := by simp [filter, config, NameSet.contains_ofList]

/--
What is expected of the configuration that is loaded from the text of a draft.
-/
structure IsReadBackAs (draft : Draft) (config : Config) : Prop where
  all : config.all = draft.all
  applied : ∀ name, name ∈ config.applied.names ↔ name ∈ draft.applied
  missed : ∀ name, name ∈ config.missed.names ↔ name ∈ draft.missed
  analysis : ∀ name, name ∈ config.analysis.names ↔ name ∈ draft.analysis
  filter : draft.Decides config.filter
  /-- Whatever is built into a module, it keeps to the filter it was started with. -/
  modules : ∀ identifier steps module,
    (Module.build { identifier, filter := config.filter } steps).2 = .ok module →
      draft.Decides module.filter

/--
Every draft is read back from its text, however that is laid out, unless a name in it is blank.
-/
theorem load_text (layout : Toml.Layout) (draft : Draft)
    (h : ∀ name ∈ draft.applied ++ draft.missed ++ draft.analysis, ¬ isBlank name) :
    ∃ config, load (draft.text layout) = .ok config ∧ draft.IsReadBackAs config := by
  refine ⟨draft.config, ?_, ?_⟩
  . rw [load_text_eq_validate]
    exact validate_config h
  . exact {
      all := rfl
      applied := fun _ => NameSet.mem_names_ofList
      missed := fun _ => NameSet.mem_names_ofList
      analysis := fun _ => NameSet.mem_names_ofList
      filter := draft.decides_config
      modules := by
        intro identifier steps module hbuild
        rw [(Module.grows_of_build hbuild (List.Subset.refl _)).filter]
        exact draft.decides_config }

def withEscapes : Draft where
  applied := ["loop \"unroll\"", "gvn", "gvn"]
  missed := ["a\\b", "\x00\t\n\x7f"]
  analysis := ["größe"]

/--
Names with quotes, a backslash, control characters and letters outside of ASCII, one of them twice.
-/
theorem load_text_withEscapes :
    (∀ name ∈ withEscapes.applied ++ withEscapes.missed ++ withEscapes.analysis, ¬ isBlank name) ∧
      ∃ config, load (withEscapes.text {}) = .ok config ∧ withEscapes.IsReadBackAs config ∧
        config.filter.missed "\x00\t\n\x7f" ∧ ¬ config.filter.missed "" := by
  have hblank : ∀ name ∈ withEscapes.applied ++ withEscapes.missed ++ withEscapes.analysis,
      ¬ isBlank name := by
    decide
  obtain ⟨config, hload, hread⟩ := load_text {} withEscapes hblank
  refine ⟨hblank, config, hload, hread, ?_, ?_⟩
  . rw [hread.filter.missed]
    decide
  . rw [hread.filter.missed]
    decide

end Draft

end Config

end IRDiagnostics
