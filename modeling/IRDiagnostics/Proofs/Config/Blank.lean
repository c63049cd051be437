import IRDiagnostics.Proofs.Config.RoundTrip
import IRDiagnostics.Remark.Basic

/-!
This module contains what loading a configuration makes sure of. It goes through exactly for the
configurations without blank names, so under a filter that was loaded no remark of a pass with a
blank name is wanted, apart from those that are wanted always.
-/

namespace IRDiagnostics

namespace Config

/--
That one of the names consists of white space alone, if of anything.
-/
def HasBlank (set : NameSet) : Prop := ∃ name ∈ set.names, ∀ c ∈ name.toList, c.toNat ∈ whiteSpace

/--
The key of the first set with a blank name.
-/
inductive FirstBlank (config : Config) : String → Prop where
  | applied (happlied : HasBlank config.applied) : FirstBlank config "applied"
  | missed (happlied : ¬ HasBlank config.applied) (hmissed : HasBlank config.missed) :
    FirstBlank config "missed"
  | analysis (happlied : ¬ HasBlank config.applied) (hmissed : ¬ HasBlank config.missed)
    (hanalysis : HasBlank config.analysis) : FirstBlank config "analysis"

/--
What becomes of a text that is loaded.
-/
structure LoadsSensible (text : String) : Prop where
  ok_iff : ∀ config, load text = .ok config ↔
    ofText? text = some config ∧
      ¬ HasBlank config.applied ∧ ¬ HasBlank config.missed ∧ ¬ HasBlank config.analysis
  invalid_iff : ∀ message, load text = .error (.invalid message) ↔
    ∃ config key, ofText? text = some config ∧ FirstBlank config key ∧
      message = "empty pass name in remarks." ++ key
  malformed_iff : (∃ message, load text = .error (.malformed message)) ↔ ofText? text = none
  readable : ∀ message, load text ≠ .error (.unreadable message)

theorem isBlank_iff {name : String} : isBlank name ↔ ∀ c ∈ name.toList, c.toNat ∈ whiteSpace := by
  simp [isBlank, isWhiteSpace]

theorem any_isBlank_iff {set : NameSet} : set.names.any isBlank ↔ HasBlank set := by
  simp [HasBlank, isBlank_iff]

theorem blankCategory?_eq_none_iff {config : Config} :
    config.blankCategory? = none ↔
      ¬ HasBlank config.applied ∧ ¬ HasBlank config.missed ∧ ¬ HasBlank config.analysis := by
  simp [blankCategory?, categories, ← any_isBlank_iff]

theorem blankCategory?_eq_some_iff {config : Config} {key : String} :
    config.blankCategory? = some key ↔ FirstBlank config key := by
  constructor
  . intro h
    simp only [blankCategory?, categories, List.find?_cons] at h
    split at h
    . next happlied =>
      cases h
      exact .applied (any_isBlank_iff.mp happlied)
    . next happlied =>
      rw [Bool.eq_false_iff, Ne, any_isBlank_iff] at happlied
      split at h
      . next hmissed =>
        cases h
        exact .missed happlied (any_isBlank_iff.mp hmissed)
      . next hmissed =>
        rw [Bool.eq_false_iff, Ne, any_isBlank_iff] at hmissed
        split at h
        . next hanalysis =>
          cases h
          exact .analysis happlied hmissed (any_isBlank_iff.mp hanalysis)
        . contradiction
  . rintro (happlied | ⟨happlied, hmissed⟩ | ⟨happlied, hmissed, hanalysis⟩)
    all_goals
      rw [← any_isBlank_iff] at *
      simp [blankCategory?, categories, *]

theorem validate_eq_ok_iff {config valid : Config} :
    config.validate = .ok valid ↔ config = valid ∧ config.blankCategory? = none := by
  unfold validate
  cases config.blankCategory? with
  | none => simp
  | some key => simp

theorem validate_eq_error_iff {config : Config} {error : ConfigError} :
    config.validate = .error error ↔
      ∃ key, config.blankCategory? = some key ∧
        error = .invalid ("empty pass name in remarks." ++ key) := by
  unfold validate
  cases config.blankCategory? with
  | none => simp
  | some key => simp [eq_comm]

theorem loadsSensible (text : String) : LoadsSensible text := by
  cases hconfig : ofText? text with
  | none =>
    have hload : load text = .error (.malformed "not a configuration in TOML") := by
      unfold load
      rw [hconfig]
    constructor
    all_goals simp [hload, hconfig]
  | some config =>
    have hload : load text = config.validate := by
      unfold load
      rw [hconfig]
    constructor
    . intro valid
      rw [hload, validate_eq_ok_iff, hconfig, Option.some_inj]
      constructor
      . rintro ⟨rfl, hnone⟩
        exact ⟨rfl, blankCategory?_eq_none_iff.mp hnone⟩
      . rintro ⟨rfl, hnone⟩
        exact ⟨rfl, blankCategory?_eq_none_iff.mpr hnone⟩
    . intro message
      simp [hload, validate_eq_error_iff, hconfig, blankCategory?_eq_some_iff]
    . simp [hload, validate_eq_error_iff, hconfig]
    . simp [hload, validate_eq_error_iff]

theorem contains_eq_false_of_not_hasBlank {set : NameSet} {pass : String} (h : ¬ HasBlank set)
    (hpass : ∀ c ∈ pass.toList, c.toNat ∈ whiteSpace) : set.contains pass = false := by
  rw [Bool.eq_false_iff, Ne, NameSet.contains, List.contains_iff_mem]
  intro hmem
  exact h ⟨pass, hmem, hpass⟩

end Config

/--
Whether a remark of a pass with a blank name is wanted.
-/
structure Remark.IgnoresBlank (filter : Filter) (remark : Remark) : Prop where
  applied : remark.category = .applied → remark.enabled filter = false
  missed : remark.category = .missed → remark.enabled filter = false
  analysis : remark.category = .analysis → (remark.enabled filter ↔ remark.pass = "")

theorem Remark.ignoresBlank {text : String} {config : Config} {remark : Remark}
    (hload : Config.load text = .ok config) (hall : config.all = false)
    (hpass : ∀ c ∈ remark.pass.toList, c.toNat ∈ whiteSpace) :
    remark.IgnoresBlank config.filter := by
  obtain ⟨-, happlied, hmissed, hanalysis⟩ := ((Config.loadsSensible text).ok_iff config).mp hload
  constructor
  . intro hcategory
    simp [enabled, hcategory, Config.filter, hall,
      Config.contains_eq_false_of_not_hasBlank happlied hpass]
  . intro hcategory
    simp [enabled, hcategory, Config.filter, hall,
      Config.contains_eq_false_of_not_hasBlank hmissed hpass]
  . intro hcategory
    simp [enabled, hcategory, Config.filter, hall, alwaysPrint,
      Config.contains_eq_false_of_not_hasBlank hanalysis hpass]

/--
A text is loaded as the configuration it describes unless there is a blank name in it, and whatever
is built into a module under its filter, remarks of passes with blank names are not wanted.
-/
theorem Config.load_ignores_blank (text : String) :
    LoadsSensible text ∧
      ∀ config, load text = .ok config → config.all = false →
        ∀ identifier steps module,
          (Module.build { identifier, filter := config.filter } steps).2 = .ok module →
            ∀ remark : Remark, (∀ c ∈ remark.pass.toList, c.toNat ∈ whiteSpace) →
              remark.IgnoresBlank module.filter := by
  refine ⟨loadsSensible text, ?_⟩
  intro config hload hall identifier steps module hbuild remark hpass
  rw [(Module.grows_of_build hbuild (List.Subset.refl _)).filter]
  exact Remark.ignoresBlank hload hall hpass

/--
A blank name that is not empty, made of an ideographic space and a tabulator.
-/
theorem Config.load_ignores_blank_ideographicSpace :
    let draft : Draft := { applied := ["inline"], analysis := ["gvn", "\u3000x"] }
    let located : Located :=
      { kind := .optimizationRemarkAnalysis, severity := .remark, function := ⟨0⟩,
        location := .unavailable }
    let remark : Remark :=
      { located, category := .analysis, pass := "\u3000\t", name := "r", region := none }
    load (draft.text {}) = .ok draft.config ∧ draft.config.all = false ∧
      (∀ c ∈ remark.pass.toList, c.toNat ∈ whiteSpace) ∧
      LoadsSensible (draft.text {}) ∧
      ∃ module,
        (Module.build { identifier := "m", filter := draft.config.filter } [.constant .null]).2 =
          .ok module ∧
        remark.IgnoresBlank module.filter ∧ ¬ remark.enabled module.filter := by
  intro draft located remark
  have hload : load (draft.text {}) = .ok draft.config := by
    rw [draft.load_text_eq_validate]
    exact draft.validate_config (by decide)
  have hpass : ∀ c ∈ remark.pass.toList, c.toNat ∈ whiteSpace :=
    isBlank_iff.mp (by decide)
  have hbuild : (Module.build { identifier := "m", filter := draft.config.filter }
      [.constant .null]).2 = .ok _ := rfl
  obtain ⟨hsensible, hmodules⟩ := load_ignores_blank (draft.text {})
  have hignores := hmodules draft.config hload rfl "m" _ _ hbuild remark hpass
  refine ⟨hload, rfl, hpass, hsensible, _, hbuild, hignores, ?_⟩
  rw [hignores.analysis rfl]
  decide

end IRDiagnostics
