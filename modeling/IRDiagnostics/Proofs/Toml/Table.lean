import IRDiagnostics.Proofs.Toml.Array

/-!
This module contains which tables texts describe: a header and assignments to distinct keys under it
make a table with just these entries.
-/

namespace IRDiagnostics

namespace Toml

namespace Entries

variable {entries assignments : Entries} {key : String} {node : Node}

theorem get?_of_notMem (h : key ∉ entries.map (·.1)) : entries.get? key = none := by
  unfold get?
  rw [List.lookup_eq_none_iff]
  intro entry hentry
  rw [bne_iff_ne]
  rintro rfl
  exact h (List.mem_map_of_mem hentry)

theorem set_of_notMem (h : key ∉ entries.map (·.1)) :
    entries.set key node = entries ++ [(key, node)] := by
  induction entries with
  | nil => rfl
  | cons entry entries ih =>
    rw [List.map_cons, List.mem_cons, not_or] at h
    rw [set, if_neg (Ne.symm h.1)]
    rw [ih h.2]
    rfl

theorem assign_of_notMem (h : key ∉ entries.map (·.1)) :
    entries.assign node true [key] = some (entries ++ [(key, node)]) := by
  unfold assign
  rw [get?_of_notMem h]
  rw [set_of_notMem h]
  rfl

theorem assignAll_of_nodup (h : ((entries ++ assignments).map (·.1)).Nodup) :
    entries.assignAll (assignments.map fun (key, node) => ([key], node)) =
      some (entries ++ assignments) := by
  induction assignments generalizing entries with
  | nil => simp [assignAll]
  | cons entry assignments ih =>
    have hnew : entry.1 ∉ entries.map (·.1) := by
      rw [List.map_append, List.map_cons, List.nodup_append] at h
      intro hmem
      exact h.2.2 _ hmem _ List.mem_cons_self rfl
    have hrest : assignAll (entries ++ [entry])
        (assignments.map fun (key, node) => ([key], node)) =
        some (entries ++ [entry] ++ assignments) := by
      apply ih
      simpa using h
    rw [List.append_assoc, List.singleton_append] at hrest
    rw [← hrest]
    simp [assignAll, assign_of_notMem hnew]

end Entries

theorem ofLines_assignments (values : List (String × Value)) :
    Document.ofLines (values.map fun (key, value) => .assignment [key] value) =
      { root := values.map fun (key, value) => ([key], value) } := by
  induction values with
  | nil => rfl
  | cons entry values ih =>
    unfold Document.ofLines at ih ⊢
    rw [List.map_cons, List.foldr_cons, ih]
    rfl

/--
The document of one header and assignments to distinct keys.
-/
theorem entries?_ofLines {key : String} {values : List (String × Value)} {nodes : Entries}
    (hvalues : Node.ofEntries? (values.map fun (key, value) => ([key], value)) =
      some (nodes.map fun (key, node) => ([key], node)))
    (hnodup : (nodes.map (·.1)).Nodup) :
    (Document.ofLines
      (.header (.table [key]) ::
        values.map fun (key, value) => .assignment [key] value)).entries? =
      some [(key, .table .header nodes)] := by
  have hdocument : Document.ofLines (.header (.table [key]) ::
      values.map fun (key, value) => .assignment [key] value) =
      { sections := [{
          header := .table [key]
          assignments := values.map fun (key, value) => ([key], value) }] } := by
    have hassignments := ofLines_assignments values
    unfold Document.ofLines at hassignments ⊢
    rw [List.foldr_cons, hassignments]
    rfl
  have hnodes : Entries.assignAll [] (nodes.map fun (key, node) => ([key], node)) = some nodes :=
    Entries.assignAll_of_nodup hnodup
  have hchange : Section.change (.table [key]) (nodes.map fun (key, node) => ([key], node)) none =
      some (.table .header nodes) := by
    unfold Section.change
    simp [hnodes]
  rw [hdocument]
  unfold Document.entries?
  simp [Node.ofEntries?, Entries.assignAll, Section.addTo, hvalues, Header.key, Entries.alter,
    Entries.get?, Entries.set, hchange]

def Node.texts (texts : List String) : Node := .array (texts.map fun text => .scalar (.string text))

theorem ofValue?_texts (texts : List String) :
    Node.ofValue? (.texts texts) = some (.texts texts) := by
  suffices Node.ofValues? (texts.map fun text => .scalar (.string text)) =
      some (texts.map fun text => .scalar (.string text)) by
    unfold Value.texts Node.ofValue?
    rw [this]
    rfl
  induction texts with
  | nil => rfl
  | cons text texts ih =>
    rw [List.map_cons, Node.ofValues?]
    rw [ih]
    rfl

end Toml

end IRDiagnostics
