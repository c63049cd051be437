import IRDiagnostics.Json.Decode

/-!
This module contains how data is read back from the JSON values that it was written as. A structure
may leave out fields; they are read as missing, and the other ones as what was written for them.
-/

namespace IRDiagnostics

namespace Json

variable {α : Type}

theorem toNumber?_ofNat (n : Nat) : (ofNat n).toNumber? = some { whole := n } := rfl

theorem toInt?_natural (n : Nat) : Number.toInt? { whole := n } = some (n : Int) := by
  simp [Number.toInt?]

theorem toUInt32?_ofNat (n : UInt32) : toUInt32? (.ofNat n.toNat) = some n := by
  have hlt : (n.toNat : Int) < UInt32.size := Int.ofNat_lt.mpr n.toNat_lt_size
  have hmod : (n.toNat : Int) % 2 ^ 32 = n.toNat := Int.emod_eq_of_lt (by omega) hlt
  unfold toUInt32?
  rw [toNumber?_ofNat, Option.bind_some]
  unfold Number.toUInt32?
  rw [toInt?_natural, Option.bind_eq_bind, Option.bind_some]
  rw [if_pos ⟨by omega, hlt⟩]
  unfold UInt32.ofInt
  rw [hmod, Int.toNat_natCast, UInt32.ofNat_toNat]

theorem toUInt64?_ofNat (n : UInt64) : toUInt64? (.ofNat n.toNat) = some n := by
  have hlt : (n.toNat : Int) < UInt64.size := Int.ofNat_lt.mpr n.toNat_lt_size
  have hmod : (n.toNat : Int) % 2 ^ 64 = n.toNat := Int.emod_eq_of_lt (by omega) hlt
  unfold toUInt64?
  rw [toNumber?_ofNat, Option.bind_some]
  unfold Number.toUInt64?
  rw [toInt?_natural, Option.bind_eq_bind, Option.bind_some]
  rw [if_pos ⟨by omega, hlt⟩]
  unfold UInt64.ofInt
  rw [hmod, Int.toNat_natCast, UInt64.ofNat_toNat]

theorem toInt?_integer (n : Int) :
    Number.toInt? { negative := n < 0, whole := n.natAbs } = some n := by
  unfold Number.toInt?
  rw [if_pos ⟨rfl, rfl⟩]
  dsimp only
  by_cases hneg : n < 0
  . rw [decide_eq_true hneg, if_pos rfl, if_neg (by omega)]
    congr 1
    omega
  . rw [decide_eq_false hneg, if_neg Bool.false_ne_true]
    congr 1
    omega

theorem toInt64?_ofInt (n : Int64) : toInt64? (.ofInt n.toInt) = some n := by
  change Number.toInt64? { negative := n.toInt < 0, whole := n.toInt.natAbs } = some n
  unfold Number.toInt64?
  rw [toInt?_integer, Option.bind_eq_bind, Option.bind_some]
  rw [if_pos ⟨n.minValue_le_toInt, n.toInt_le⟩, Int64.ofInt_toInt]

theorem toList?_ofList {encode : α → Json} {decode : Json → Option α}
    (h : ∀ x, decode (encode x) = some x) (items : List α) :
    toList? decode (ofList encode items) = some items := by
  unfold toList? ofList
  dsimp only
  induction items with
  | nil => rfl
  | cons item items ih =>
    rw [List.map_cons, List.mapM_cons, h, ih]
    rfl

/--
The members of the fields that are there.
-/
def present (fields : List (String × Option Json)) : List (String × Json) :=
  fields.filterMap fun (key, value) => value.map (key, ·)

theorem valuesOf_present_of_not_mem {fields : List (String × Option Json)} {key : String}
    (h : key ∉ fields.map (·.1)) :
    valuesOf ((present fields).map fun (key, value) => (some key, value)) key = [] := by
  induction fields with
  | nil => rfl
  | cons field fields ih =>
    obtain ⟨name, value⟩ := field
    rw [List.map_cons, List.mem_cons, not_or] at h
    have hname : name ≠ key := Ne.symm h.1
    cases value with
    | none => exact ih h.2
    | some value => simpa [present, valuesOf, hname] using ih h.2

theorem valuesOf_present {fields : List (String × Option Json)} {key : String}
    {value : Option Json} (hnodup : (fields.map (·.1)).Nodup) (h : (key, value) ∈ fields) :
    valuesOf ((present fields).map fun (key, value) => (some key, value)) key = value.toList := by
  induction fields with
  | nil => contradiction
  | cons field fields ih =>
    rw [List.map_cons, List.nodup_cons] at hnodup
    rw [List.mem_cons] at h
    obtain rfl | h := h
    . have hrest := valuesOf_present_of_not_mem hnodup.1
      cases value with
      | none => exact hrest
      | some value => simpa [present, valuesOf] using hrest
    . obtain ⟨name, other⟩ := field
      have hname : name ≠ key := by
        rintro rfl
        exact hnodup.1 (List.mem_map.mpr ⟨_, h, rfl⟩)
      cases other with
      | none => exact ih hnodup.2 h
      | some other => simpa [present, valuesOf, hname] using ih hnodup.2 h

theorem mapM_keys {fields : List (String × Option Json)} {read : String → Option (Option Json)}
    (h : ∀ field ∈ fields, read field.1 = some field.2) :
    (fields.map (·.1)).mapM read = some (fields.map (·.2)) := by
  induction fields with
  | nil => rfl
  | cons field fields ih =>
    rw [List.forall_mem_cons] at h
    rw [List.map_cons, List.mapM_cons, h.1, ih h.2]
    rfl

/--
A structure with different keys has the fields that it was written with.
-/
theorem fields?_ofMembers_present {fields : List (String × Option Json)}
    (h : (fields.map (·.1)).Nodup) :
    (ofMembers (present fields)).fields? (fields.map (·.1)) = some (fields.map (·.2)) := by
  unfold ofMembers fields?
  dsimp only
  rw [if_pos (by simp)]
  apply mapM_keys
  intro field hfield
  unfold valueOf?
  rw [valuesOf_present h hfield]
  cases field.2 <;> rfl

/--
A structure that is written with all its fields has all of them.
-/
theorem fields?_ofMembers {members : List (String × Json)} (h : (members.map (·.1)).Nodup) :
    (ofMembers members).fields? (members.map (·.1)) =
      some (members.map fun member => some member.2) := by
  have hpresent : present (members.map fun member => (member.1, some member.2)) = members := by
    unfold present
    rw [List.filterMap_map]
    exact List.filterMap_some
  have hkeys : (members.map fun member => (member.1, some member.2)).map (·.1) =
      members.map (·.1) := by
    rw [List.map_map]
    rfl
  rw [← hkeys] at h
  have hfields := fields?_ofMembers_present h
  rw [hpresent, hkeys, List.map_map] at hfields
  exact hfields

end Json

end IRDiagnostics
