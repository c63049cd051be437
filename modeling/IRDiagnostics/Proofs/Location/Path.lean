import IRDiagnostics.Location.Basic

/-!
This module contains what a resolved path names. Its components are those of the directory followed
by those of the file name: joining adds no more than a separator, and nothing is stripped but
separators and pieces that stand for the directory itself. Neither of the two makes a path absolute
or relative that was not so before.
-/

namespace IRDiagnostics

namespace Path

theorem components_append_separator (path rest : List Char) :
    components (path ++ '/' :: rest) = components path ++ components rest := by
  unfold components
  rw [List.splitOnP_append_cons path rest (by simp)]
  rw [List.filter_append]

theorem components_separator (path : List Char) : components ('/' :: path) = components path := by
  apply components_append_separator []

theorem components_dotSlash (path : List Char) :
    components ('.' :: '/' :: path) = components path := by
  apply components_append_separator ['.']

theorem components_dropWhile_separator (path : List Char) :
    components (path.dropWhile (· = '/')) = components path := by
  induction path with
  | nil => rfl
  | cons c path ih =>
    rw [List.dropWhile_cons]
    split
    . next h =>
      rw [of_decide_eq_true h]
      rw [components_separator]
      exact ih
    . rfl

theorem head?_dropWhile_separator (path : List Char) :
    (path.dropWhile (· = '/')).head? ≠ some '/' := by
  have := List.head?_dropWhile_not (· = '/') path
  intro h
  simp [h] at this

theorem components_join (directory name : List Char) :
    components (join directory name) = components directory ++ components name := by
  unfold join
  split
  . next h =>
    cases h with
    | inl hempty =>
      rw [hempty]
      rfl
    | inr hlast =>
      obtain ⟨parent, rfl⟩ := List.getLast?_eq_some_iff.mp hlast
      rw [List.append_assoc]
      rw [List.singleton_append]
      rw [components_append_separator]
      rw [components_append_separator]
      simp [components]
  . apply components_append_separator

theorem head?_join {directory name : List Char} (hname : name.head? ≠ some '/') :
    (join directory name).head? = some '/' ↔ directory.head? = some '/' := by
  unfold join
  cases directory with
  | nil => simp [hname]
  | cons c rest =>
    split
    . simp
    . simp

theorem components_stripDotSlash (path : List Char) :
    components (stripDotSlash path) = components path := by
  fun_induction stripDotSlash path with
  | case1 c rest ih =>
    rw [ih]
    rw [components_dropWhile_separator]
    rw [components_dotSlash]
  | case2 path hpath => rfl

theorem head?_stripDotSlash (path : List Char) :
    (stripDotSlash path).head? = some '/' ↔ path.head? = some '/' := by
  fun_induction stripDotSlash path with
  | case1 c rest ih =>
    -- What is left after the separators does not start with one, and neither did the path.
    rw [ih]
    simp [head?_dropWhile_separator]
  | case2 path hpath => rfl

theorem stripDotSlash_eq_of_dotSlash_prefix {path : List Char}
    (h : ['.', '/'] <+: stripDotSlash path) : stripDotSlash path = ['.', '/'] := by
  fun_induction stripDotSlash path with
  | case1 c rest ih =>
    apply ih
    exact h
  | case2 path hpath =>
    obtain ⟨rest, rfl⟩ := h
    cases rest with
    | nil => rfl
    | cons c rest =>
      exfalso
      apply hpath
      rfl

theorem isAbsolute_iff {path : List Char} : isAbsolute path ↔ path.head? = some '/' := by
  unfold isAbsolute
  split
  . simp
  . next h =>
    cases path with
    | nil => simp
    | cons c rest =>
      simp only [Bool.false_eq_true, List.head?_cons, Option.some.injEq, false_iff]
      intro hc
      apply h rest
      rw [hc]

/--
How the path of a file belongs to the directory and the name that were recorded for it.
-/
structure NamesFile (directory name path : List Char) : Prop where
  absolute : name.head? = some '/' → path = name
  components_eq : name.head? ≠ some '/' →
    components path = components directory ++ components name
  head?_iff : name.head? ≠ some '/' → (path.head? = some '/' ↔ directory.head? = some '/')
  dotSlash : name.head? ≠ some '/' → ['.', '/'] <+: path → path = ['.', '/']

theorem namesFile_resolve (directory name : List Char) :
    NamesFile directory name (resolve directory name) := by
  unfold resolve
  split
  . next h =>
    rw [isAbsolute_iff] at h
    constructor
    . intro _
      rfl
    all_goals
      intro hname
      contradiction
  . next h =>
    rw [isAbsolute_iff] at h
    constructor
    . intro hname
      contradiction
    . intro _
      rw [components_stripDotSlash]
      apply components_join
    . intro _
      rw [head?_stripDotSlash]
      exact head?_join h
    . intro _
      apply stripDotSlash_eq_of_dotSlash_prefix

end Path

namespace Location

theorem namesFile_absolutePath {location : Location} {file : SourceFile}
    (h : location.file? = some file) :
    Path.NamesFile file.directory.toList file.filename.toList location.absolutePath.toList := by
  cases location with
  | unavailable => contradiction
  | «at» position =>
    cases h
    rw [absolutePath, String.toList_ofList]
    apply Path.namesFile_resolve

/--
To drop the first two characters of this path alone would make it absolute.
-/
theorem namesFile_absolutePath_manySeparators :
    let file : SourceFile := { filename := ".///.//x.c", directory := "" }
    let location : Location := .at { file, line := 4, column := 1 }
    location.file? = some file ∧ location.absolutePath = "x.c" ∧
      Path.NamesFile file.directory.toList file.filename.toList location.absolutePath.toList := by
  refine ⟨rfl, ?_, namesFile_absolutePath rfl⟩
  simp [absolutePath, Path.resolve, Path.isAbsolute, Path.join, Path.stripDotSlash]

end Location

end IRDiagnostics
