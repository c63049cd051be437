import IRDiagnostics.Kind.Allocation
import IRDiagnostics.Remark.Category
import Mathlib.Logic.Relation

/-!
This module contains what holds of plugin kinds whenever the allocating threads are looked at. A
thread may work with an old value of the counter, but it gives a kind out only if the counter still
has that value, so the kinds count up from where the counter stood at first.
-/

namespace IRDiagnostics

namespace Kind

theorem allocate_eq_some_iff {last : UInt32} {kind : Kind} :
    allocate last = some kind ↔ kind.raw.toNat = last.toNat + 1 := by
  have hlt := kind.raw.toNat_lt_size
  unfold allocate
  split
  . next h =>
    have hsum : (last + 1).toNat = last.toNat + 1 := by
      rw [UInt32.toNat_add]
      exact Nat.mod_eq_of_lt h
    rw [← hsum, UInt32.toNat_inj, Option.some.injEq]
    constructor
    . rintro rfl
      rfl
    . intro heq
      rw [← heq]
  . next h =>
    simp only [reduceCtorEq, false_iff]
    omega

theorem allocate_eq_none_iff {last : UInt32} :
    allocate last = none ↔ last.toNat + 1 = UInt32.size := by
  have hlt := last.toNat_lt_size
  unfold allocate
  split
  . next h =>
    simp only [reduceCtorEq, false_iff]
    omega
  . next h =>
    simp only [true_iff]
    omega

/--
What is expected of a kind that is given to a plugin.
-/
structure IsForPlugins (kind : Kind) : Prop where
  gt_firstPlugin : firstPlugin.raw < kind.raw
  isPlugin : kind.isPlugin
  name? : kind.name? = none
  not_builtIn : kind ∉ builtIn
  accepted : ∀ category : Category, category.accepts kind

/--
A kind above the sentinel is a plugin kind in every respect.
-/
theorem isForPlugins {kind : Kind} (h : firstPlugin.raw < kind.raw) : kind.IsForPlugins where
  gt_firstPlugin := h
  isPlugin := by simpa [Kind.isPlugin] using h
  name? := by
    rw [← Option.not_isSome_iff_eq_none]
    rw [name?_isSome_iff]
    exact UInt32.lt_asymm h
  not_builtIn hmem := UInt32.lt_asymm h (lt_firstPlugin_of_mem_builtIn hmem)
  accepted category := by simp [Category.accepts, Kind.isPlugin, h]

end Kind

namespace Allocation

variable {Thread : Type} {start : UInt32} {state next later : Allocation Thread}

/--
The kinds given out so far as numbers, oldest first.
-/
def numbers (state : Allocation Thread) : List Nat := state.issued.reverse.map (·.2.raw.toNat)

/--
How the counter and what the threads have seen of it belong together at any time.
-/
structure Counted (start : UInt32) (state : Allocation Thread) : Prop where
  last : state.last.toNat = start.toNat + state.issued.length
  numbers : state.numbers = List.range' (start.toNat + 1) state.issued.length
  /-- What a thread has read may be old, but was never more than the counter. -/
  seen : ∀ thread value, state.seen thread = some value → value.toNat ≤ state.last.toNat
  failed : state.failed ≠ [] → state.last.toNat + 1 = UInt32.size

theorem counted_start : Counted start ({ last := start } : Allocation Thread) where
  last := rfl
  numbers := rfl
  seen _ _ h := by contradiction
  failed h := by contradiction

theorem Counted.pairwise (h : Counted start state) :
    state.issued.Pairwise fun entry earlier => earlier.2.raw < entry.2.raw := by
  have hsorted : state.numbers.Pairwise (· < ·) := by
    rw [h.numbers]
    exact List.pairwise_lt_range'
  unfold Allocation.numbers at hsorted
  rw [List.pairwise_map, List.pairwise_reverse] at hsorted
  exact hsorted.imp UInt32.lt_iff_toNat_lt.mpr

theorem Counted.lt_raw (h : Counted start state) {entry : Thread × Kind}
    (hentry : entry ∈ state.issued) : start < entry.2.raw := by
  have hmem : entry.2.raw.toNat ∈ state.numbers :=
    List.mem_map.mpr ⟨entry, List.mem_reverse.mpr hentry, rfl⟩
  rw [h.numbers, List.mem_range'_1] at hmem
  rw [UInt32.lt_iff_toNat_lt]
  omega

variable [DecidableEq Thread]

theorem setSeen_eq_some {thread other : Thread} {value? : Option UInt32} {value : UInt32}
    (h : state.setSeen thread value? other = some value) :
    value? = some value ∨ state.seen other = some value := by
  unfold setSeen at h
  split at h
  . exact .inl h
  . exact .inr h

/--
A thread that forgets what it has read keeps the others as they are.
-/
theorem Counted.seen_setSeen_none (h : Counted start state) (thread : Thread) :
    ∀ other value, state.setSeen thread none other = some value →
      value.toNat ≤ state.last.toNat := by
  intro other value hvalue
  obtain hvalue | hvalue := setSeen_eq_some hvalue
  . contradiction
  . exact h.seen other value hvalue

theorem Counted.load (h : Counted start state) (thread : Thread) :
    Counted start { state with seen := state.setSeen thread (some state.last) } where
  last := h.last
  numbers := h.numbers
  seen other value hvalue := by
    obtain hvalue | hvalue := setSeen_eq_some hvalue
    . cases hvalue
      exact Nat.le_refl _
    . exact h.seen other value hvalue
  failed := h.failed

theorem Counted.exhaust (h : Counted start state) {thread : Thread} {value : UInt32}
    (hseen : state.seen thread = some value) (hnone : Kind.allocate value = none) :
    Counted start
      { state with seen := state.setSeen thread none, failed := thread :: state.failed } where
  last := h.last
  numbers := h.numbers
  seen := h.seen_setSeen_none thread
  failed _ := by
    -- The thread has read the greatest value, and the counter is at least what the thread has read.
    have hle := h.seen thread value hseen
    have hlt := state.last.toNat_lt_size
    rw [Kind.allocate_eq_none_iff] at hnone
    dsimp only
    omega

theorem Counted.exchange (h : Counted start state) {thread : Thread} {kind : Kind}
    (hkind : Kind.allocate state.last = some kind) :
    Counted start
      { state with
        last := kind.raw
        seen := state.setSeen thread none
        issued := (thread, kind) :: state.issued } := by
  rw [Kind.allocate_eq_some_iff] at hkind
  have hlast := h.last
  constructor
  . rw [List.length_cons]
    dsimp only
    omega
  . have hnumbers := h.numbers
    unfold Allocation.numbers at hnumbers ⊢
    rw [List.reverse_cons, List.map_append, List.length_cons, List.range'_concat, hnumbers]
    simp only [List.map_cons, List.map_nil]
    congr 2
    omega
  . intro other value hvalue
    have hle := h.seen_setSeen_none thread other value hvalue
    dsimp only
    omega
  . intro hfailed
    have hfull := h.failed hfailed
    have hlt := kind.raw.toNat_lt_size
    omega

theorem Counted.retry (h : Counted start state) (thread : Thread) :
    Counted start { state with seen := state.setSeen thread none } where
  last := h.last
  numbers := h.numbers
  seen := h.seen_setSeen_none thread
  failed := h.failed

theorem Counted.step (h : Counted start state) (hstep : Step state next) : Counted start next := by
  cases hstep with
  | load thread hidle => exact h.load thread
  | exhaust thread value hseen hnone => exact h.exhaust hseen hnone
  | exchange thread value kind hseen hkind hlast =>
    subst hlast
    exact h.exchange hkind
  | retry thread value hseen => exact h.retry thread

theorem counted_of_reachable (h : Reachable start state) : Counted start state := by
  induction h with
  | start => exact counted_start
  | step _ hstep ih => exact ih.step hstep

theorem reachable_of_steps (h : Reachable start state)
    (hsteps : Relation.ReflTransGen Step state later) : Reachable start later := by
  induction hsteps with
  | refl => exact h
  | tail _ hstep ih => exact ih.step hstep

theorem issued_suffix_of_steps (h : Relation.ReflTransGen Step state later) :
    state.issued <:+ later.issued := by
  induction h with
  | refl => exact List.suffix_refl _
  | tail _ hstep ih =>
    apply ih.trans
    cases hstep with
    | exchange thread value kind hseen hkind hlast => exact List.suffix_cons _ _
    | _ => exact List.suffix_refl _

/--
A counter at its greatest value stays there, and nothing is given out any more.
-/
theorem eq_of_steps_of_full (h : Reachable start state)
    (hfull : state.last.toNat + 1 = UInt32.size)
    (hsteps : Relation.ReflTransGen Step state later) :
    later.last = state.last ∧ later.issued = state.issued := by
  have hstate := (counted_of_reachable h).last
  have hlater := (counted_of_reachable (reachable_of_steps h hsteps)).last
  have hlt := later.last.toNat_lt_size
  have hissued := issued_suffix_of_steps hsteps
  have hle := hissued.length_le
  have hlength : state.issued.length = later.issued.length := by omega
  refine ⟨?_, (hissued.eq_of_length hlength).symm⟩
  rw [← UInt32.toNat_inj]
  omega

/--
What the threads can rely on in a state, whatever the order in which their steps came.
-/
structure Unique (start : UInt32) (state : Allocation Thread) : Prop where
  /-- The kinds count up from the start, in the order in which they were given out. -/
  numbers : state.numbers = List.range' (start.toNat + 1) state.issued.length
  /-- The counter has not wrapped. -/
  last : state.last.toNat = start.toNat + state.issued.length
  distinct : (state.issued.map (·.2)).Nodup
  increasing : ∀ thread, (state.issued.filter (·.1 = thread)).Pairwise
    fun entry earlier => earlier.2.raw < entry.2.raw
  /--
  A call that starts now or later gives its kind out later, and that kind is greater than all that
  finished calls have given out.
  -/
  later : ∀ later, Relation.ReflTransGen Step state later →
    ∃ more, later.issued = more ++ state.issued ∧
      ∀ entry ∈ more, ∀ finished ∈ state.issued, finished.2.raw < entry.2.raw
  isForPlugins : ∀ entry ∈ state.issued, entry.2.IsForPlugins
  /-- A call fails only when the counter is at its greatest value. -/
  full : state.failed ≠ [] → state.last.toNat + 1 = UInt32.size
  /-- The counter stays there, and no kind is given out any more. -/
  full_later : state.last.toNat + 1 = UInt32.size →
    ∀ later, Relation.ReflTransGen Step state later →
      later.last = state.last ∧ later.issued = state.issued

theorem unique_of_reachable (hstart : Kind.firstPlugin.raw ≤ start) (h : Reachable start state) :
    Unique start state := by
  have hcounted := counted_of_reachable h
  constructor
  . exact hcounted.numbers
  . exact hcounted.last
  . rw [List.nodup_iff_pairwise_ne, List.pairwise_map]
    apply hcounted.pairwise.imp
    intro entry earlier hlt heq
    rw [heq] at hlt
    exact UInt32.lt_irrefl _ hlt
  . intro thread
    exact hcounted.pairwise.filter _
  . intro later hsteps
    obtain ⟨more, hmore⟩ := issued_suffix_of_steps hsteps
    refine ⟨more, hmore.symm, ?_⟩
    have hpairwise := (counted_of_reachable (reachable_of_steps h hsteps)).pairwise
    rw [← hmore, List.pairwise_append] at hpairwise
    exact hpairwise.2.2
  . intro entry hentry
    apply Kind.isForPlugins
    exact UInt32.lt_of_le_of_lt hstart (hcounted.lt_raw hentry)
  . exact hcounted.failed
  . intro hfull later hsteps
    exact eq_of_steps_of_full h hfull hsteps

/--
Two threads want the last kind. The slower one fails to exchange the value it has read, reads again
and finds the kinds exhausted.
-/
theorem unique_of_reachable_lastKind :
    Kind.firstPlugin.raw ≤ 0xFFFFFFFE ∧
      ∃ state : Allocation Bool, Reachable 0xFFFFFFFE state ∧
        state.issued = [(true, ⟨0xFFFFFFFF⟩)] ∧ state.failed = [false] ∧
        Unique 0xFFFFFFFE state := by
  have hslow := Reachable.start.step (.load { last := 0xFFFFFFFE } false rfl)
  have hfast := hslow.step (.load _ true rfl)
  have hissued := hfast.step (.exchange _ true 0xFFFFFFFE ⟨0xFFFFFFFF⟩ rfl rfl rfl)
  have hretry := hissued.step (.retry _ false 0xFFFFFFFE rfl)
  have hload := hretry.step (.load _ false rfl)
  have hfailed := hload.step (.exhaust _ false 0xFFFFFFFF rfl rfl)
  exact ⟨by decide, _, hfailed, rfl, rfl, unique_of_reachable (by decide) hfailed⟩

end Allocation

end IRDiagnostics
