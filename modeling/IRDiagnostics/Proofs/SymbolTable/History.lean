import IRDiagnostics.Proofs.SymbolTable.Store
import IRDiagnostics.SymbolTable.Call

/-!
This module contains what any number of calls on a new store amount to, whatever keeps the texts, as
long as every single operation does what is assumed of it and there are symbols for all texts. The
state is described by two invariants: symbols and texts belong to each other one to one, and what a
text has is what interning it was answered by.
-/

namespace IRDiagnostics

namespace TextStore

variable {σ : Type} {store : TextStore σ} {state next : σ} {text : String} {symbol : Symbol}
  {call : Call} {answer : Answer} {calls : List Call} {answers : List Answer}

def Call.interned? : Call → Option String
  | .intern text => some text
  | .find _ | .resolve _ | .size | .isEmpty => none

/--
The texts that calls intern, in order and with repetitions.
-/
def interned (calls : List Call) : List String := calls.filterMap Call.interned?

/--
That interning a text is answered by a symbol somewhere in a run.
-/
def Gives (calls : List Call) (answers : List Answer) (text : String) (symbol : Symbol) : Prop :=
  (.intern text, .interned symbol) ∈ calls.zip answers

theorem Call.interned?_eq_some_iff : call.interned? = some text ↔ call = .intern text := by
  cases call <;> simp [interned?]

theorem mem_interned_iff : text ∈ interned calls ↔ .intern text ∈ calls := by
  unfold interned
  rw [List.mem_filterMap]
  simp [Call.interned?_eq_some_iff]

theorem interned_append_singleton (calls : List Call) (call : Call) :
    interned (calls ++ [call]) = interned calls ++ call.interned?.toList := by
  unfold interned
  rw [List.filterMap_append]
  cases h : call.interned? with
  | none => simp [h]
  | some text => simp [h]

theorem card_interned_append (h : text ∉ interned calls) :
    (interned (calls ++ [.intern text])).toFinset.card = (interned calls).toFinset.card + 1 := by
  have htexts : (interned (calls ++ [.intern text])).toFinset =
      insert text (interned calls).toFinset := by
    ext other
    simp [interned_append_singleton, Call.interned?]
  rw [htexts, Finset.card_insert_of_notMem (by simpa using h)]

theorem gives_append_singleton (h : answers.length = calls.length) :
    Gives (calls ++ [call]) (answers ++ [answer]) text symbol ↔
      Gives calls answers text symbol ∨ call = .intern text ∧ answer = .interned symbol := by
  unfold Gives
  rw [List.zip_append h.symm, List.mem_append]
  simp [eq_comm]

theorem run_append (store : TextStore σ) (state : σ) (calls later : List Call) :
    store.run state (calls ++ later) =
      ((store.run state calls).1 ++ (store.run (store.run state calls).2 later).1,
        (store.run (store.run state calls).2 later).2) := by
  induction calls generalizing state with
  | nil => rfl
  | cons call calls ih =>
    simp only [List.cons_append, run]
    rw [ih]

theorem run_append_singleton (store : TextStore σ) (state : σ) (calls : List Call) (call : Call) :
    store.run state (calls ++ [call]) =
      ((store.run state calls).1 ++ [(store.apply (store.run state calls).2 call).1],
        (store.apply (store.run state calls).2 call).2) :=
  run_append store state calls [call]

/--
All that a single call can do.
-/
inductive Outcome (store : TextStore σ) (state : σ) : Call → Answer → σ → Prop where
  | other {call : Call} {answer : Answer} :
    call.interned? = none → (∀ symbol, answer ≠ .interned symbol) →
      Outcome store state call answer state
  | known {text : String} {symbol : Symbol} :
    store.find? state text = some symbol →
      Outcome store state (.intern text) (.interned symbol) state
  | entered {text : String} {symbol : Symbol} {next : σ} :
    store.find? state text = none → Symbol.ofIndex? (store.size state) = some symbol →
      store.Enters state text symbol next →
        Outcome store state (.intern text) (.interned symbol) next
  | full {text : String} :
    store.find? state text = none → Symbol.ofIndex? (store.size state) = none →
      Outcome store state (.intern text) (.fault .symbolsExhausted) state

theorem outcome_intern (hstore : store.Lawful) (state : σ) (text : String) :
    store.Outcome state (.intern text) (store.apply state (.intern text)).1
      (store.apply state (.intern text)).2 := by
  cases hfind : store.find? state text with
  | some symbol =>
    simp only [apply, hstore.intern_known state text symbol hfind]
    exact .known hfind
  | none =>
    cases hsymbol : Symbol.ofIndex? (store.size state) with
    | none =>
      simp only [apply, hstore.intern_full state text hfind hsymbol]
      exact .full hfind hsymbol
    | some symbol =>
      obtain ⟨next, hintern, hnext⟩ := hstore.intern_new state text symbol hfind hsymbol
      simp only [apply, hintern]
      exact .entered hfind hsymbol hnext

theorem outcome_apply (hstore : store.Lawful) (state : σ) (call : Call) :
    store.Outcome state call (store.apply state call).1 (store.apply state call).2 := by
  cases call with
  | intern text => exact outcome_intern hstore state text
  | find | size | isEmpty => exact .other rfl (by simp [apply])
  | resolve symbol =>
    simp only [apply]
    split
    . exact .other rfl (by simp)
    . exact .other rfl (by simp)

/--
Symbols and texts belong to each other one to one, and the symbols are numbered without a gap.
-/
structure Paired (store : TextStore σ) (state : σ) : Prop where
  resolve_eq_ok_iff : ∀ symbol text,
    store.resolve state symbol = .ok text ↔ store.find? state text = some symbol
  resolve_eq_error_iff : ∀ symbol fault,
    store.resolve state symbol = .error fault ↔
      ¬ symbol.index < store.size state ∧ fault = .unknownSymbol

theorem paired_empty (hstore : store.Lawful) : store.Paired store.empty where
  resolve_eq_ok_iff symbol text := by
    simp [hstore.resolve_empty, hstore.find?_empty]
  resolve_eq_error_iff symbol fault := by
    simp [hstore.resolve_empty, hstore.size_empty, eq_comm]

theorem Paired.enters (h : store.Paired state) (hnew : store.find? state text = none)
    (hsymbol : Symbol.ofIndex? (store.size state) = some symbol)
    (hnext : store.Enters state text symbol next) : store.Paired next := by
  rw [Symbol.ofIndex?_eq_some_iff] at hsymbol
  -- The symbol stood for nothing before, as it is the next one.
  have hfree : store.resolve state symbol = .error .unknownSymbol := by
    rw [h.resolve_eq_error_iff]
    exact ⟨by omega, rfl⟩
  constructor
  . intro other text'
    rw [hnext.resolve, hnext.find?]
    by_cases hother : other = symbol
    . subst hother
      have hnot : store.find? state text' ≠ some other := by
        rw [ne_eq, ← h.resolve_eq_ok_iff, hfree]
        simp
      by_cases htext : text' = text
      . simp [htext]
      . simp [htext, hnot, Ne.symm htext]
    . rw [if_neg hother, h.resolve_eq_ok_iff]
      by_cases htext : text' = text
      . simp [htext, hnew, Ne.symm hother]
      . rw [if_neg htext]
  . intro other fault
    rw [hnext.resolve, hnext.size]
    by_cases hother : other = symbol
    . subst hother
      simp [hsymbol]
    . have hindex : other.index ≠ store.size state := by
        rw [← hsymbol, ne_eq, Symbol.index_inj]
        exact hother
      rw [if_neg hother, h.resolve_eq_error_iff]
      apply and_congr_left
      intro _
      omega

theorem Paired.outcome (h : store.Paired state)
    (houtcome : store.Outcome state call answer next) : store.Paired next := by
  cases houtcome with
  | entered hnew hsymbol hnext => exact h.enters hnew hsymbol hnext
  | _ => exact h

theorem Paired.index_lt_iff (h : store.Paired state) :
    symbol.index < store.size state ↔ ∃ text, store.find? state text = some symbol := by
  simp only [← h.resolve_eq_ok_iff]
  cases hresolve : store.resolve state symbol with
  | ok text =>
    simp only [Except.ok.injEq, exists_eq', iff_true]
    by_contra hnot
    have := (h.resolve_eq_error_iff symbol .unknownSymbol).mpr ⟨hnot, rfl⟩
    rw [hresolve] at this
    contradiction
  | error fault => simpa using ((h.resolve_eq_error_iff symbol fault).mp hresolve).1

/--
A text that has a symbol keeps it.
-/
theorem Outcome.find? (houtcome : store.Outcome state call answer next)
    (h : store.find? state text = some symbol) : store.find? next text = some symbol := by
  cases houtcome with
  | @entered text' _ _ hnew _ hnext =>
    have hne : text ≠ text' := by
      rintro rfl
      rw [h] at hnew
      contradiction
    rw [hnext.find?, if_neg hne]
    exact h
  | _ => exact h

/--
What a run from a new store has led to.
-/
structure Records (store : TextStore σ) (calls : List Call) (answers : List Answer) (state : σ) :
    Prop where
  length_eq : answers.length = calls.length
  paired : store.Paired state
  find?_eq_some_iff : ∀ text symbol,
    store.find? state text = some symbol ↔ Gives calls answers text symbol
  find?_eq_none_iff : ∀ text, store.find? state text = none ↔ text ∉ interned calls
  size_eq : store.size state = (interned calls).toFinset.card

theorem records_empty (hstore : store.Lawful) : store.Records [] [] store.empty where
  length_eq := rfl
  paired := paired_empty hstore
  find?_eq_some_iff := by simp [hstore.find?_empty, Gives]
  find?_eq_none_iff := by simp [hstore.find?_empty, interned]
  size_eq := hstore.size_empty

theorem Records.mem_interned (h : store.Records calls answers state)
    (hfind : store.find? state text = some symbol) : text ∈ interned calls := by
  by_contra hnot
  rw [← h.find?_eq_none_iff, hfind] at hnot
  contradiction

/--
A call that interns no new text changes neither the state nor what is known of it.
-/
theorem Records.same (h : store.Records calls answers state)
    (hinterned : ∀ text, call = .intern text → text ∈ interned calls)
    (hanswer : ∀ text symbol, call = .intern text → answer = .interned symbol →
      store.find? state text = some symbol) :
    store.Records (calls ++ [call]) (answers ++ [answer]) state := by
  have hmem (text : String) : text ∈ interned (calls ++ [call]) ↔ text ∈ interned calls := by
    simp only [interned_append_singleton, List.mem_append, Option.mem_toList,
      Call.interned?_eq_some_iff]
    exact or_iff_left_of_imp (hinterned text)
  constructor
  . simp [h.length_eq]
  . exact h.paired
  . intro text symbol
    rw [gives_append_singleton h.length_eq, ← h.find?_eq_some_iff]
    constructor
    . exact Or.inl
    . rintro (hfind | ⟨hcall, hsymbol⟩)
      . exact hfind
      . exact hanswer text symbol hcall hsymbol
  . intro text
    rw [h.find?_eq_none_iff, hmem]
  . have htexts : (interned (calls ++ [call])).toFinset = (interned calls).toFinset := by
      ext text
      rw [List.mem_toFinset, List.mem_toFinset, hmem]
    rw [h.size_eq, htexts]

theorem Records.enters (h : store.Records calls answers state)
    (hnew : store.find? state text = none)
    (hsymbol : Symbol.ofIndex? (store.size state) = some symbol)
    (hnext : store.Enters state text symbol next) :
    store.Records (calls ++ [.intern text]) (answers ++ [.interned symbol]) next := by
  have hnot := (h.find?_eq_none_iff text).mp hnew
  have hinterned : interned (calls ++ [.intern text]) = interned calls ++ [text] :=
    interned_append_singleton calls (.intern text)
  constructor
  . simp [h.length_eq]
  . exact h.paired.enters hnew hsymbol hnext
  . intro other found
    rw [gives_append_singleton h.length_eq, ← h.find?_eq_some_iff, hnext.find?]
    by_cases htext : other = text
    . subst htext
      simp [hnew]
    . simp [htext, Ne.symm htext]
  . intro other
    rw [hnext.find?, hinterned, List.mem_append, List.mem_singleton, not_or,
      ← h.find?_eq_none_iff]
    by_cases htext : other = text
    . simp [htext]
    . simp [htext]
  . rw [hnext.size, card_interned_append hnot, h.size_eq]

/--
There is a symbol for a new text if there is one for every text so far and for this one.
-/
theorem Records.ofIndex?_ne_none (h : store.Records calls answers state)
    (hnew : store.find? state text = none)
    (hroom : (interned (calls ++ [.intern text])).toFinset.card ≤ UInt32.size) :
    Symbol.ofIndex? (store.size state) ≠ none := by
  have hnot := (h.find?_eq_none_iff text).mp hnew
  rw [card_interned_append hnot, ← h.size_eq] at hroom
  rw [ne_eq, Symbol.ofIndex?_eq_none_iff]
  omega

theorem Records.outcome (h : store.Records calls answers state)
    (houtcome : store.Outcome state call answer next)
    (hroom : (interned (calls ++ [call])).toFinset.card ≤ UInt32.size) :
    store.Records (calls ++ [call]) (answers ++ [answer]) next := by
  cases houtcome with
  | other hcall hanswer =>
    have hnot (text : String) : call ≠ .intern text := by
      rw [ne_eq, ← Call.interned?_eq_some_iff, hcall]
      simp
    apply h.same
    . exact fun text htext => absurd htext (hnot text)
    . exact fun text symbol htext => absurd htext (hnot text)
  | known hfind =>
    apply h.same
    . rintro _ ⟨⟩
      exact h.mem_interned hfind
    . rintro _ _ ⟨⟩ ⟨⟩
      exact hfind
  | entered hnew hsymbol hnext => exact h.enters hnew hsymbol hnext
  | full hnew hfull => exact absurd hfull (h.ofIndex?_ne_none hnew hroom)

theorem records_run (hstore : store.Lawful)
    (hroom : (interned calls).toFinset.card ≤ UInt32.size) :
    store.Records calls (store.run store.empty calls).1 (store.run store.empty calls).2 := by
  induction calls using List.reverseRecOn with
  | nil => exact records_empty hstore
  | append_singleton calls call ih =>
    have hsubset : (interned calls).toFinset ⊆ (interned (calls ++ [call])).toFinset := by
      intro text
      simp only [interned_append_singleton, List.mem_toFinset, List.mem_append]
      exact Or.inl
    have hrecords := ih (Nat.le_trans (Finset.card_le_card hsubset) hroom)
    rw [run_append_singleton]
    exact hrecords.outcome (outcome_apply hstore _ call) hroom

theorem find?_run (hstore : store.Lawful) (later : List Call)
    (h : store.find? state text = some symbol) :
    store.find? (store.run state later).2 text = some symbol := by
  induction later generalizing state with
  | nil => exact h
  | cons call later ih => exact ih ((outcome_apply hstore state call).find? h)

theorem Paired.run (h : store.Paired state) (hstore : store.Lawful) (later : List Call) :
    store.Paired (store.run state later).2 := by
  induction later generalizing state with
  | nil => exact h
  | cons call later ih => exact ih (h.outcome (outcome_apply hstore state call))

theorem apply_resolve_of_ok (h : store.resolve state symbol = .ok text) :
    store.apply state (.resolve symbol) = (.resolved text, state) := by
  simp only [apply, h]

theorem Paired.apply_resolve_eq_fault_iff (h : store.Paired state) :
    store.apply state (.resolve symbol) = (.fault .unknownSymbol, state) ↔
      ¬ symbol.index < store.size state := by
  have herror : store.resolve state symbol = .error .unknownSymbol ↔
      ¬ symbol.index < store.size state := by
    simpa using h.resolve_eq_error_iff symbol .unknownSymbol
  rw [← herror]
  simp only [TextStore.apply]
  cases store.resolve state symbol with
  | ok text => simp
  | error fault => simp

/--
What a new store has answered to some calls and how it answers the next one, told from the texts
that were interned.
-/
structure Bijective (store : TextStore σ) (calls : List Call) (answers : List Answer) (state : σ) :
    Prop where
  next : ∀ call, store.run store.empty (calls ++ [call]) =
    (answers ++ [(store.apply state call).1], (store.apply state call).2)
  exists_gives : ∀ text, .intern text ∈ calls → ∃ symbol, Gives calls answers text symbol
  symbol_eq_iff : ∀ text text' symbol symbol', Gives calls answers text symbol →
    Gives calls answers text' symbol' → (symbol = symbol' ↔ text = text')
  /-- A symbol belongs to its text whatever happens later. -/
  resolve_run : ∀ text symbol, Gives calls answers text symbol →
    ∀ later, store.apply (store.run state later).2 (.resolve symbol) =
      (.resolved text, (store.run state later).2)
  find_eq_some_iff : ∀ text symbol,
    store.apply state (.find text) = (.found (some symbol), state) ↔
      Gives calls answers text symbol
  find_eq_none_iff : ∀ text, store.apply state (.find text) = (.found none, state) ↔
    .intern text ∉ calls
  size : store.apply state .size = (.size (interned calls).toFinset.card, state)
  isEmpty : store.apply state .isEmpty = (.isEmpty (decide (interned calls = [])), state)
  /-- The symbols are numbered without a gap. -/
  gives_iff : ∀ symbol, (∃ text, Gives calls answers text symbol) ↔
    symbol.index < (interned calls).toFinset.card
  resolve_eq_fault_iff : ∀ symbol,
    store.apply state (.resolve symbol) = (.fault .unknownSymbol, state) ↔
      ¬ symbol.index < (interned calls).toFinset.card

theorem bijective_run (hstore : store.Lawful)
    (hroom : (interned calls).toFinset.card ≤ UInt32.size) :
    store.Bijective calls (store.run store.empty calls).1 (store.run store.empty calls).2 := by
  have h := records_run hstore hroom
  constructor
  . exact run_append_singleton store store.empty calls
  . intro text hmem
    rw [← mem_interned_iff] at hmem
    cases hfind : store.find? (store.run store.empty calls).2 text with
    | none => exact absurd hmem ((h.find?_eq_none_iff text).mp hfind)
    | some symbol => exact ⟨symbol, (h.find?_eq_some_iff text symbol).mp hfind⟩
  . intro text text' symbol symbol' hsymbol hsymbol'
    rw [← h.find?_eq_some_iff] at hsymbol hsymbol'
    constructor
    . rintro rfl
      rw [← h.paired.resolve_eq_ok_iff] at hsymbol hsymbol'
      rw [hsymbol] at hsymbol'
      exact Except.ok.inj hsymbol'
    . rintro rfl
      rw [hsymbol] at hsymbol'
      exact Option.some.inj hsymbol'
  . intro text symbol hsymbol later
    rw [← h.find?_eq_some_iff] at hsymbol
    apply apply_resolve_of_ok
    rw [(h.paired.run hstore later).resolve_eq_ok_iff]
    exact find?_run hstore later hsymbol
  . intro text symbol
    rw [← h.find?_eq_some_iff]
    simp [apply]
  . intro text
    rw [← mem_interned_iff, ← h.find?_eq_none_iff]
    simp [apply]
  . simp only [apply, h.size_eq]
  . have hempty : store.isEmpty (store.run store.empty calls).2 = decide (interned calls = []) := by
      rw [Bool.eq_iff_iff, hstore.isEmpty_iff, h.size_eq]
      simp
    simp only [apply, hempty]
  . intro symbol
    rw [← h.size_eq, h.paired.index_lt_iff]
    simp only [h.find?_eq_some_iff]
  . intro symbol
    rw [h.paired.apply_resolve_eq_fault_iff, h.size_eq]

/--
A text is interned twice, and a symbol is resolved that is not given out yet.
-/
theorem bijective_run_repeatedText :
    let store := SymbolTable.store
    let calls := [.intern "main", .find "memcpy", .resolve ⟨1⟩, .intern "memcpy", .intern "main"]
    store.Lawful ∧ (interned calls).toFinset.card ≤ UInt32.size ∧
      (store.run store.empty calls).1 =
        [.interned ⟨0⟩, .found none, .fault .unknownSymbol, .interned ⟨1⟩, .interned ⟨0⟩] ∧
      store.Bijective calls (store.run store.empty calls).1 (store.run store.empty calls).2 := by
  intro store calls
  have hstore : store.Lawful := SymbolTable.lawful_store
  have hroom : (interned calls).toFinset.card ≤ UInt32.size := by decide
  exact ⟨hstore, hroom, by decide +kernel, bijective_run hstore hroom⟩

end TextStore

end IRDiagnostics
