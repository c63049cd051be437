import IRDiagnostics.Proofs.Location.Path
import Mathlib.Tactic

/-!
This module contains when nothing is left of a path whose leading `./` are dropped. A lone `./`
stays, but separators that follow it are dropped together with it.
-/

namespace IRDiagnostics

namespace Path

/--
A piece that stands for the directory itself, with some further separators after its own.
-/
def dotSlash (further : ℕ) : List Char := '.' :: '/' :: List.replicate further '/'

/--
Paths made of such pieces only, the last of which has further separators.
-/
def Vanishing (path : List Char) : Prop :=
  ∃ pieces : List ℕ, path = pieces.flatMap dotSlash ∧ pieces.getLast? ≠ some 0

theorem exists_eq_replicate_append_dropWhile (path : List Char) :
    ∃ further, path = List.replicate further '/' ++ path.dropWhile (· = '/') := by
  induction path with
  | nil => exact ⟨0, rfl⟩
  | cons c path ih =>
    by_cases hc : c = '/'
    . obtain ⟨further, hpath⟩ := ih
      refine ⟨further + 1, ?_⟩
      rw [List.dropWhile_cons_of_pos (by simpa using hc)]
      rw [List.replicate_succ, List.cons_append]
      rw [← hpath, hc]
    . refine ⟨0, ?_⟩
      rw [List.dropWhile_cons_of_neg (by simpa using hc)]
      rfl

theorem dropWhile_replicate_append_pieces (further : ℕ) (pieces : List ℕ) :
    (List.replicate further '/' ++ pieces.flatMap dotSlash).dropWhile (· = '/') =
      pieces.flatMap dotSlash := by
  induction further with
  | zero => cases pieces <;> rfl
  | succ further ih => simpa [List.replicate_succ] using ih

theorem stripDotSlash_eq_nil_iff (path : List Char) : stripDotSlash path = [] ↔ Vanishing path := by
  fun_induction stripDotSlash path with
  | case1 c rest ih =>
    rw [ih]
    constructor
    . rintro ⟨pieces, hpieces, hlast⟩
      obtain ⟨further, hfurther⟩ := exists_eq_replicate_append_dropWhile (c :: rest)
      rw [hpieces] at hfurther
      refine ⟨further :: pieces, ?_, ?_⟩
      . rw [hfurther]
        rfl
      . cases pieces with
        | nil =>
          -- The separators are all there is after the `./`, so there is one at least.
          rw [List.getLast?_singleton, Ne, Option.some_inj]
          rintro rfl
          contradiction
        | cons further' pieces => exact hlast
    . rintro ⟨pieces, hpieces, hlast⟩
      cases pieces with
      | nil => contradiction
      | cons further pieces =>
        have hrest : c :: rest = List.replicate further '/' ++ pieces.flatMap dotSlash :=
          (List.cons.inj (List.cons.inj hpieces).2).2
        refine ⟨pieces, ?_, ?_⟩
        . rw [hrest]
          apply dropWhile_replicate_append_pieces
        . cases pieces with
          | nil => simp
          | cons further' pieces => exact hlast
  | case2 path hpath =>
    constructor
    . rintro rfl
      exact ⟨[], rfl, by simp⟩
    . rintro ⟨pieces, rfl, hlast⟩
      cases pieces with
      | nil => rfl
      | cons further pieces =>
        -- No more than a lone `./` is left alone, and the last piece would be it.
        exfalso
        cases further with
        | succ further => exact hpath _ _ rfl
        | zero =>
          cases pieces with
          | nil => exact hlast rfl
          | cons further' pieces => exact hpath _ _ rfl

theorem resolve_eq_nil_iff {directory name : List Char} :
    resolve directory name = [] ↔ isAbsolute name = false ∧ Vanishing (join directory name) := by
  unfold resolve
  split
  . next h =>
    simp only [h, Bool.true_eq_false, false_and, iff_false]
    rintro rfl
    contradiction
  . next h =>
    rw [stripDotSlash_eq_nil_iff]
    simp [h]

end Path

namespace Location

/--
Stripping leaves something of a path unless it is made of `./` and separators alone and ends in a
further separator. So a location in a file has an absolute path unless the name of the file
completes the directory to such a path.
-/
theorem absolutePath_eq_empty_iff (path : List Char) (position : Position) :
    (Path.stripDotSlash path = [] ↔ Path.Vanishing path) ∧
      ((Location.at position).absolutePath = "" ↔
        Path.isAbsolute position.file.filename.toList = false ∧
          Path.Vanishing
            (Path.join position.file.directory.toList position.file.filename.toList)) := by
  constructor
  . exact Path.stripDotSlash_eq_nil_iff path
  . rw [← Path.resolve_eq_nil_iff]
    rw [absolutePath, String.ofList_eq_empty_iff]

/--
The second separator is dropped with the `./` in front of it, although `./` alone would stay.
-/
theorem absolutePath_furtherSeparator :
    let file : SourceFile := { filename := ".//", directory := "" }
    let location : Location := .at { file, line := 4, column := 1 }
    Path.stripDotSlash file.filename.toList = [] ∧ file.filename ≠ "" ∧
      location.isAvailable ∧ location.absolutePath = "" ∧
      Path.stripDotSlash ['.', '/'] = ['.', '/'] := by
  have hstrip : Path.stripDotSlash ['.', '/', '/'] = [] := by
    rw [Path.stripDotSlash_eq_nil_iff]
    exact ⟨[1], rfl, by decide⟩
  refine ⟨hstrip, by decide, rfl, ?_, ?_⟩
  . change String.ofList (Path.stripDotSlash ['.', '/', '/']) = ""
    rw [hstrip]
  . simp [Path.stripDotSlash]

end Location

end IRDiagnostics
