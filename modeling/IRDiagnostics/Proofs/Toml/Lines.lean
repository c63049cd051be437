import IRDiagnostics.Proofs.Toml.Array
import Mathlib.Data.List.Forall2

/-!
This module contains that headers and assignments are read back from the lines that are written for
them, and texts from their lines.
-/

namespace IRDiagnostics

namespace Toml

open Reader (Readings)

variable {layout : Layout} {key : String} {chars tail rest : List Char}

/--
Whether a key can be written without quotes.
-/
def isBare (key : String) : Bool := !key.toList.isEmpty && key.toList.all isBareKeyChar

theorem isBare_iff : isBare key ↔ key.toList ≠ [] ∧ ∀ c ∈ key.toList, isBareKeyChar c := by
  simp [isBare]

/--
Neither a statement of another kind nor an empty line starts like a bare key.
-/
theorem ne_of_isBareKeyChar {c : Char} (h : isBareKeyChar c) :
    isBlank c = false ∧ c ≠ '#' ∧ c ≠ '\n' ∧ c ≠ '\r' ∧ c ≠ '[' := by
  have hne {d : Char} (hd : isBareKeyChar d = false) : c ≠ d := by
    rintro rfl
    rw [hd] at h
    contradiction
  have hspace : c ≠ ' ' := hne rfl
  have htab : c ≠ '\t' := hne rfl
  refine ⟨?_, hne rfl, hne rfl, hne rfl, hne rfl⟩
  simp [isBlank, hspace, htab]

theorem exists_cons_of_isBare (h : isBare key) :
    ∃ c chars, key.toList = c :: chars ∧ isBareKeyChar c := by
  obtain ⟨hne, hall⟩ := isBare_iff.mp h
  cases heq : key.toList with
  | nil => contradiction
  | cons c chars =>
    rw [heq] at hall
    exact ⟨c, chars, rfl, hall c (by simp)⟩

@[simp]
theorem blanks_apply (chars : List Char) : blanks chars = some ((), chars.dropWhile isBlank) := rfl

theorem dropWhile_isBlank_append (h : isBare key) (tail : List Char) :
    (key.toList ++ tail).dropWhile isBlank = key.toList ++ tail := by
  obtain ⟨c, chars, heq, hc⟩ := exists_cons_of_isBare h
  rw [heq, List.cons_append]
  rw [List.dropWhile_cons_of_neg]
  simp [ne_of_isBareKeyChar hc]

theorem keyPart_append (h : isBare key) (htail : tail.dropWhile isBareKeyChar = tail) :
    keyPart (key.toList ++ tail) = some (key, tail.dropWhile isBlank) := by
  obtain ⟨hne, hall⟩ := isBare_iff.mp h
  have hchars := Reader.takeWhile1_append hne hall htail
  unfold keyPart
  simp [dropWhile_isBlank_append h, hchars]

/--
A key ends before a bracket or an equals sign, blanks apart.
-/
theorem key_append (h : isBare key) (htail : tail.dropWhile isBareKeyChar = tail)
    (hdot : Reader.char '.' (tail.dropWhile isBlank) = none) :
    Toml.key (key.toList ++ tail) = some ([key], tail.dropWhile isBlank) := by
  have hrest : Readings (Reader.char '.' *> keyPart) (tail.dropWhile isBlank) []
      (tail.dropWhile isBlank) := by
    apply Readings.stop
    simp [hdot]
  unfold Toml.key
  simp [keyPart_append h htail, hrest.many_eq, nestingLimit, guard]

/--
What may follow a line: another one, or nothing.
-/
inductive EndsLine : List Char → List Char → Prop where
  | newline (rest : List Char) : EndsLine ('\n' :: rest) rest
  | text : EndsLine [] []

theorem EndsLine.dropWhile_isBlank (h : EndsLine tail rest) : tail.dropWhile isBlank = tail := by
  cases h <;> rfl

theorem EndsLine.lineRest_eq (h : EndsLine tail rest) : lineRest tail = some ((), rest) := by
  cases h <;> rfl

theorem headerLine_append (h : isBare key) (rest : List Char) :
    headerLine (headerChars key ++ rest) = some (.table [key], rest) := by
  have hkey : Toml.key (key.toList ++ ']' :: rest) = some ([key], ']' :: rest) :=
    key_append h rfl rfl
  obtain ⟨c, chars, heq, hc⟩ := exists_cons_of_isBare h
  obtain ⟨-, -, -, -, hbracket⟩ := ne_of_isBareKeyChar hc
  rw [heq, List.cons_append] at hkey
  unfold headerLine headerChars
  rw [heq]
  simp [hkey, hbracket.symm]

/--
That a value is read from `chars`, whatever follows.
-/
structure WritesValue (chars : List Char) (x : Value) : Prop where
  value_append : ∀ rest, value (chars ++ rest) = some (x, rest)
  dropWhile_isBlank_append : ∀ rest, (chars ++ rest).dropWhile isBlank = chars ++ rest

theorem writesValue_array (layout : Layout) (texts : List String) :
    WritesValue (layout.array texts) (.texts texts) where
  value_append := value_array_append layout texts
  dropWhile_isBlank_append rest := by cases texts <;> rfl

theorem writesValue_booleanChars (flag : Bool) :
    WritesValue (booleanChars flag) (.scalar (.boolean flag)) where
  value_append := value_booleanChars_append flag
  dropWhile_isBlank_append rest := by cases flag <;> rfl

theorem keyValue_append {x : Value} (h : isBare key) (hvalue : WritesValue chars x)
    (hends : EndsLine tail rest) :
    keyValue value (assignmentChars key chars ++ tail) = some (([key], x), tail) := by
  have hkey : Toml.key (key.toList ++ ' ' :: '=' :: ' ' :: (chars ++ tail)) =
      some ([key], '=' :: ' ' :: (chars ++ tail)) := key_append h rfl rfl
  have hblank : isBlank ' ' = true := rfl
  unfold keyValue assignmentChars
  simp [hkey, hblank, hvalue.dropWhile_isBlank_append, hvalue.value_append,
    hends.dropWhile_isBlank]

/--
A line that starts like a bare key is neither empty nor a header.
-/
theorem line_cons {c : Char} (hc : isBareKeyChar c) (chars : List Char) :
    line (c :: chars) =
      (keyValue value (c :: chars)).bind fun ((key, x), tail) =>
        (lineRest tail).map fun (_, rest) => (.assignment key x, rest) := by
  obtain ⟨hblank, hhash, hline, hreturn, hbracket⟩ := ne_of_isBareKeyChar hc
  unfold line comment newline headerLine
  simp [hblank, hhash.symm, hline.symm, hreturn.symm, hbracket.symm]

/--
That a line is read from `chars`, however it ends.
-/
structure WritesLine (chars : List Char) (line' : Line) : Prop where
  ne_nil : chars ≠ []
  line_append : ∀ tail rest, EndsLine tail rest → line (chars ++ tail) = some (line', rest)

theorem writesLine_header (h : isBare key) :
    WritesLine (headerChars key) (.header (.table [key])) where
  ne_nil := List.cons_ne_nil _ _
  line_append tail rest hends := by
    have hheader := headerLine_append h tail
    have hblank : isBlank '[' = false := rfl
    obtain ⟨others, heq⟩ : ∃ others, headerChars key ++ tail = '[' :: others := ⟨_, rfl⟩
    rw [heq] at hheader ⊢
    unfold line comment newline
    simp [hheader, hends.lineRest_eq, hblank]

theorem writesLine_assignment {x : Value} (h : isBare key) (hvalue : WritesValue chars x) :
    WritesLine (assignmentChars key chars) (.assignment [key] x) where
  ne_nil := List.append_ne_nil_of_left_ne_nil (isBare_iff.mp h).1 _
  line_append tail rest hends := by
    have hkeyValue := keyValue_append h hvalue hends
    obtain ⟨c, others, heq, hc⟩ := exists_cons_of_isBare h
    unfold assignmentChars at hkeyValue ⊢
    rw [heq, List.cons_append, List.cons_append] at hkeyValue ⊢
    rw [line_cons hc]
    rw [hkeyValue]
    simp [hends.lineRest_eq]

theorem lines_cons_cons (chars next : List Char) (texts : List (List Char)) :
    layout.lines (chars :: next :: texts) = chars ++ '\n' :: layout.lines (next :: texts) := rfl

theorem readings_lines (layout : Layout) {texts : List (List Char)} {lines : List Line}
    (h : List.Forall₂ WritesLine texts lines) :
    Readings line (layout.lines texts) lines [] := by
  induction h with
  | nil => exact .stop rfl
  | @cons chars line' texts lines hhead htail ih =>
    cases htail with
    | nil =>
      -- The last line ends with the text if not with a line end.
      have hpos := List.length_pos_iff.mpr hhead.ne_nil
      have hread : line (layout.lines [chars]) = some (line', []) := by
        unfold Layout.lines
        apply hhead.line_append
        split
        . exact .newline []
        . exact .text
      refine .step hread ?_ (.stop rfl)
      unfold Layout.lines
      rw [List.length_nil, List.length_append]
      omega
    | cons hnext hrest =>
      rw [lines_cons_cons]
      refine .step (hhead.line_append _ _ (.newline _)) ?_ ih
      rw [List.length_append, List.length_cons]
      omega

/--
A text is read as the document of its lines.
-/
theorem read?_lines {texts : List (List Char)} {lines : List Line}
    (h : List.Forall₂ WritesLine texts lines)
    (hmark : (layout.lines texts).head? ≠ some '\uFEFF') :
    Document.read? (String.ofList (layout.lines texts)) = some (Document.ofLines lines) := by
  have hmany := (readings_lines layout h).many_eq
  have hchar : Reader.char '\uFEFF' (layout.lines texts) = none := by
    cases heq : layout.lines texts with
    | nil => rfl
    | cons c chars =>
      rw [heq, List.head?_cons] at hmark
      rw [Reader.char_cons, if_neg]
      rintro rfl
      contradiction
  unfold Document.read? Reader.all Toml.lines
  simp [Reader.optional_apply, hchar, hmany]

end Toml

end IRDiagnostics
