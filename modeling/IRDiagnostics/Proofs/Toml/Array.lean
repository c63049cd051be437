import IRDiagnostics.Proofs.Toml.Quoted

/-!
This module contains that arrays of texts and truth values are read back from what is written for
them.
-/

namespace IRDiagnostics

namespace Toml

open Reader (Readings)

variable {layout : Layout} {depth : Nat} {text : String} {rest : List Char}

/--
Whether a blank, a line end or a comment may stand at the front of a text.
-/
def startsWithGap : List Char → Bool
  | c :: _ => isBlank c || c = '#' || c = '\n' || c = '\r'
  | [] => false

theorem dropWhile_isBlank_of_startsWithGap (h : startsWithGap rest = false) :
    rest.dropWhile isBlank = rest := by
  cases rest with
  | nil => rfl
  | cons c rest =>
    simp only [startsWithGap, Bool.or_eq_false_iff] at h
    rw [List.dropWhile_cons_of_neg]
    simp [h]

theorem gapPart_eq_none (h : startsWithGap rest = false) : gapPart rest = none := by
  unfold gapPart comment newline
  cases rest with
  | nil => rfl
  | cons c rest =>
    simp only [startsWithGap, Bool.or_eq_false_iff, decide_eq_false_iff_not] at h
    obtain ⟨⟨⟨hblank, hhash⟩, hline⟩, hreturn⟩ := h
    have : Reader.takeWhile1 isBlank (c :: rest) = none := by
      simp [Reader.takeWhile1, hblank]
    simp [Reader.optional_apply, this, Ne.symm hhash, Ne.symm hline, Ne.symm hreturn]

theorem gap_replicate_append (count : Nat) (h : startsWithGap rest = false) :
    gap (List.replicate count ' ' ++ rest) = some ((), rest) := by
  suffices ∃ xs, Readings gapPart (List.replicate count ' ' ++ rest) xs rest by
    obtain ⟨xs, hxs⟩ := this
    unfold gap
    simp [hxs.many_eq]
  have hstop := Readings.stop (gapPart_eq_none h)
  cases count with
  | zero => exact ⟨_, hstop⟩
  | succ count =>
    -- The blanks are read all at once.
    have hblanks : Reader.takeWhile1 isBlank (List.replicate (count + 1) ' ' ++ rest) =
        some (List.replicate (count + 1) ' ', rest) := by
      apply Reader.takeWhile1_append
      . exact List.cons_ne_nil _ _
      . intro c hc
        rw [List.eq_of_mem_replicate hc]
        rfl
      . exact dropWhile_isBlank_of_startsWithGap h
    have hpart : gapPart (List.replicate (count + 1) ' ' ++ rest) = some ((), rest) := by
      unfold gapPart
      simp [hblanks]
    refine ⟨_, .step hpart ?_ hstop⟩
    simp

theorem scalar_quoted_append (h : rest.head? ≠ some '"') :
    scalar (layout.quoted text ++ rest) = some (.string text, rest) := by
  unfold scalar
  simp [string_quoted_append layout text h]

theorem valueWithin_quoted_append (h : rest.head? ≠ some '"') :
    valueWithin depth (layout.quoted text ++ rest) = some (.scalar (.string text), rest) := by
  cases depth with
  | zero => simp [valueWithin, scalar_quoted_append h]
  | succ depth => simp [valueWithin, scalar_quoted_append h]

/--
Whether a text starts like what follows an item of an array.
-/
def endsItem : List Char → Bool
  | c :: _ => c = ',' || c = ']'
  | [] => false

theorem startsWithGap_of_endsItem (h : endsItem rest) : startsWithGap rest = false := by
  cases rest with
  | nil => rfl
  | cons c rest =>
    simp only [endsItem, Bool.or_eq_true, decide_eq_true_eq] at h
    rcases h with rfl | rfl <;> rfl

theorem head?_ne_quote_of_endsItem (h : endsItem rest) : rest.head? ≠ some '"' := by
  cases rest with
  | nil => simp
  | cons c rest =>
    simp only [endsItem, Bool.or_eq_true, decide_eq_true_eq] at h
    rcases h with rfl | rfl <;> simp

theorem item_append (layout : Layout) (depth count : Nat) (text : String) (h : endsItem rest) :
    (gap *> valueWithin depth <* gap) (List.replicate count ' ' ++ (layout.quoted text ++ rest)) =
      some (.scalar (.string text), rest) := by
  have hbefore : gap (List.replicate count ' ' ++ (layout.quoted text ++ rest)) =
      some ((), layout.quoted text ++ rest) := gap_replicate_append count rfl
  have hafter : gap rest = some ((), rest) :=
    gap_replicate_append 0 (startsWithGap_of_endsItem h)
  simp [hbefore, valueWithin_quoted_append (head?_ne_quote_of_endsItem h), hafter]

theorem endsItem_items (layout : Layout) (texts : List String) (rest : List Char) :
    endsItem
      (texts.flatMap (fun text => layout.separator ++ layout.quoted text) ++ ']' :: rest) := by
  cases texts <;> rfl

/--
The items of an array after the first one, each with a comma in front.
-/
theorem readings_items (layout : Layout) (depth : Nat) (texts : List String) (rest : List Char) :
    Readings (Reader.char ',' *> (gap *> valueWithin depth <* gap))
      (texts.flatMap (fun text => layout.separator ++ layout.quoted text) ++ ']' :: rest)
      (texts.map fun text => .scalar (.string text)) (']' :: rest) := by
  induction texts with
  | nil => exact .stop rfl
  | cons text texts ih =>
    rw [List.flatMap_cons, List.append_assoc, List.append_assoc]
    refine .step ?_ ?_ ih
    . have hitem := item_append layout depth layout.spaces text (endsItem_items layout texts rest)
      rw [Layout.separator, List.cons_append, Reader.seqRight_apply, Reader.char_cons]
      exact hitem
    . simp only [Layout.separator, List.length_append, List.length_cons]
      omega

theorem array_append (layout : Layout) (depth : Nat) (texts : List String) (rest : List Char) :
    array (valueWithin depth) (layout.array texts ++ rest) =
      some (texts.map fun text => .scalar (.string text), rest) := by
  cases texts with
  | nil => cases depth <;> rfl
  | cons text texts =>
    have hitem := item_append layout depth 0 text (endsItem_items layout texts rest)
    have hitems := (readings_items layout depth texts rest).separated_eq hitem
    have hgap : gap (']' :: rest) = some ((), ']' :: rest) := gap_replicate_append 0 rfl
    rw [List.replicate_zero, List.nil_append] at hitems
    unfold array Layout.array
    simp [hitems, hgap, Reader.optional_apply]

def Value.texts (texts : List String) : Value :=
  .array (texts.map fun text => .scalar (.string text))

theorem value_array_append (layout : Layout) (texts : List String) (rest : List Char) :
    value (layout.array texts ++ rest) = some (.texts texts, rest) := by
  have hscalar : scalar (layout.array texts ++ rest) = none := by
    cases texts <;> rfl
  unfold value nestingLimit valueWithin
  simp [hscalar, array_append, Value.texts]

theorem value_booleanChars_append (value' : Bool) (rest : List Char) :
    value (booleanChars value' ++ rest) = some (.scalar (.boolean value'), rest) := by
  cases value' <;> rfl

end Toml

end IRDiagnostics
