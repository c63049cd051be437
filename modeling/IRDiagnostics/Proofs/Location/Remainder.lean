import IRDiagnostics.Location.Slice
import IRDiagnostics.Proofs.Location.Stripping

/-!
This module contains what is left of a path whose leading `./` are dropped. The loop over the bytes
of the path ends with an answer, which is the path without some leading `./`, each of them together
with all separators after it. There is nothing to drop from the answer any more.
-/

namespace IRDiagnostics

namespace Path

theorem longer_than_dotSlash_iff (path : List Char) :
    2 < byteLength path ∧ ['.', '/'] <+: path ↔ ∃ c rest, path = '.' :: '/' :: c :: rest := by
  constructor
  . rintro ⟨hlength, rest, rfl⟩
    cases rest with
    | nil => contradiction
    | cons c rest => exact ⟨c, rest, rfl⟩
  . rintro ⟨c, rest, rfl⟩
    have hdot : '.'.utf8Size = 1 := rfl
    have hseparator : '/'.utf8Size = 1 := rfl
    have := c.utf8Size_pos
    refine ⟨?_, c :: rest, rfl⟩
    simp only [byteLength_cons]
    omega

theorem stripLoop?_eq (path : List Char) : stripLoop? path = some (stripDotSlash path) := by
  fun_induction stripDotSlash path with
  | case1 c rest ih =>
    -- Both of the dropped characters are encoded in one byte.
    have hslice : sliceFrom? ('.' :: '/' :: c :: rest) 2 = some (c :: rest) :=
      sliceFrom?_append ['.', '/'] (c :: rest)
    unfold stripLoop?
    rw [if_pos ((longer_than_dotSlash_iff _).mpr ⟨c, rest, rfl⟩)]
    split
    . next rest' hrest' =>
      rw [hslice] at hrest'
      cases hrest'
      exact ih
    . next hnone => simp [hslice] at hnone
  | case2 path hpath =>
    unfold stripLoop?
    rw [if_neg]
    rw [longer_than_dotSlash_iff]
    rintro ⟨c, rest, rfl⟩
    exact hpath c rest rfl

theorem stripDotSlash_eq_self {path : List Char} (h : ['.', '/'] <+: path → path = ['.', '/']) :
    stripDotSlash path = path := by
  unfold stripDotSlash
  split
  . next c rest =>
    have := h ⟨c :: rest, rfl⟩
    simp at this
  . rfl

theorem exists_eq_pieces_append_stripDotSlash (path : List Char) :
    ∃ pieces : List ℕ, path = pieces.flatMap dotSlash ++ stripDotSlash path := by
  fun_induction stripDotSlash path with
  | case1 c rest ih =>
    obtain ⟨further, hfurther⟩ := exists_eq_replicate_append_dropWhile (c :: rest)
    obtain ⟨pieces, hpieces⟩ := ih
    refine ⟨further :: pieces, ?_⟩
    rw [List.flatMap_cons, List.append_assoc]
    rw [← hpieces]
    rw [dotSlash, List.cons_append, List.cons_append]
    rw [← hfurther]
  | case2 path hpath => exact ⟨[], rfl⟩

/--
How the loop comes from a path to what is left of it.
-/
structure Strips (path rest : List Char) : Prop where
  /-- The loop ends, and no slice on the way is out of range or within a character. -/
  ends : stripLoop? path = some rest
  pieces : ∃ pieces : List ℕ, path = pieces.flatMap dotSlash ++ rest ∧
    (rest.head? = some '/' → pieces = [])
  dotSlash : ['.', '/'] <+: rest → rest = ['.', '/']
  again : stripLoop? rest = some rest

theorem strips_stripDotSlash (path : List Char) : Strips path (stripDotSlash path) := by
  have hdotSlash : ['.', '/'] <+: stripDotSlash path → stripDotSlash path = ['.', '/'] :=
    stripDotSlash_eq_of_dotSlash_prefix
  obtain ⟨pieces, hpieces⟩ := exists_eq_pieces_append_stripDotSlash path
  constructor
  . exact stripLoop?_eq path
  . refine ⟨pieces, hpieces, ?_⟩
    intro hrest
    cases pieces with
    | nil => rfl
    | cons further pieces =>
      -- A path that starts with `./` does not turn into one that starts with a separator.
      rw [head?_stripDotSlash, hpieces] at hrest
      simp [Path.dotSlash] at hrest
  . exact hdotSlash
  . rw [stripLoop?_eq]
    rw [stripDotSlash_eq_self hdotSlash]

end Path

end IRDiagnostics
