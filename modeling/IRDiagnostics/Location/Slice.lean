import IRDiagnostics.Location.Path

/-!
This module contains the stripping of a path as a loop over the bytes of its text. Each round cuts
the text at a byte offset, which has no result if a character does not start there.
-/

namespace IRDiagnostics

namespace Path

/--
The number of bytes that a text is encoded in.
-/
def byteLength (text : List Char) : Nat := (String.ofList text).utf8ByteSize

/--
The rest of a text from a byte offset on. There is none if the offset lies behind the end of the
text or within a character.
-/
def sliceFrom? : List Char → Nat → Option (List Char)
  | text, 0 => some text
  | [], _ + 1 => none
  | c :: text, offset + 1 =>
    if c.utf8Size ≤ offset + 1 then sliceFrom? text (offset + 1 - c.utf8Size) else none

@[simp]
theorem byteLength_nil : byteLength [] = 0 := by
  simp [byteLength]

@[simp]
theorem byteLength_cons (c : Char) (text : List Char) :
    byteLength (c :: text) = c.utf8Size + byteLength text := by
  unfold byteLength
  rw [← List.singleton_append, String.ofList_append, String.utf8ByteSize_append]
  simp

theorem sliceFrom?_cons (c : Char) (text : List Char) {offset : Nat} (h : c.utf8Size ≤ offset) :
    sliceFrom? (c :: text) offset = sliceFrom? text (offset - c.utf8Size) := by
  have := c.utf8Size_pos
  cases offset with
  | zero => omega
  | succ offset => rw [sliceFrom?, if_pos h]

theorem sliceFrom?_append (front rest : List Char) :
    sliceFrom? (front ++ rest) (byteLength front) = some rest := by
  induction front with
  | nil => rw [byteLength_nil, List.nil_append, sliceFrom?]
  | cons c front ih =>
    rw [byteLength_cons, List.cons_append]
    rw [sliceFrom?_cons _ _ (by omega)]
    rw [Nat.add_sub_cancel_left]
    exact ih

/--
An offset has a slice exactly if some of the characters of the text end there.
-/
theorem sliceFrom?_eq_some_iff {text rest : List Char} {offset : Nat} :
    sliceFrom? text offset = some rest ↔
      ∃ front, text = front ++ rest ∧ byteLength front = offset := by
  constructor
  . intro h
    fun_induction sliceFrom? text offset with
    | case1 text => exact ⟨[], Option.some.inj h, rfl⟩
    | case2 offset => contradiction
    | case3 c text offset hle ih =>
      obtain ⟨front, rfl, hfront⟩ := ih h
      refine ⟨c :: front, rfl, ?_⟩
      rw [byteLength_cons]
      omega
    | case4 c text offset hlt => contradiction
  . rintro ⟨front, rfl, rfl⟩
    apply sliceFrom?_append

theorem length_sliceFrom?_lt {text rest : List Char} {offset : Nat}
    (h : sliceFrom? text (offset + 1) = some rest) : rest.length < text.length := by
  obtain ⟨front, rfl, hfront⟩ := sliceFrom?_eq_some_iff.mp h
  cases front with
  | nil => contradiction
  | cons c front =>
    rw [List.length_append, List.length_cons]
    omega

/--
While the path has more than two bytes and starts with `./`, go on with what follows these two
bytes, without the separators it starts with.
-/
def stripLoop? (path : List Char) : Option (List Char) :=
  if 2 < byteLength path ∧ ['.', '/'] <+: path then
    match _h : sliceFrom? path 2 with
    | some rest => stripLoop? (rest.dropWhile (· = '/'))
    | none => none
  else
    some path
termination_by path.length
decreasing_by
  have hslice := length_sliceFrom?_lt _h
  have hdrop := (List.dropWhile_suffix (l := rest) (· = '/')).length_le
  omega

end Path

end IRDiagnostics
