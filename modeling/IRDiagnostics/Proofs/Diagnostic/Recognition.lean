import IRDiagnostics.Proofs.Diagnostic.Text

/-!
This module contains how the violations in a function are told apart by their messages. The first
letters of a message leave open which one it is in a single case, where a name of any length stands
between the first words and those that differ, and then the last letter decides.
-/

namespace IRDiagnostics

namespace Barebone

/--
The kind of the violation that a message is about.
-/
def kindOfMessage? : List Char → Option Kind
  | 'r' :: _ => some .hwRegInvalid
  | 'f' :: 'a' :: _ => some .hwRegAllocFailure
  | 'a' :: 'r' :: _ => some .multipartArgUnsupported
  | 'u' :: _ => some .noClobberHwRegInvalid
  | 'f' :: 'r' :: _ => some .framePointerNotAllowed
  | 'b' :: _ => some .localAreaSizeInvalid
  | 't' :: _ => some .localAreaSizeAlignNote
  | 's' :: _ => some .localAreaSizeExceeded
  | 'm' :: _ => some .returnNotAllowed
  | 'f' :: 'u' :: _ => some .mustTailCall
  | 'a' :: ' ' :: rest =>
    if rest.getLast? = some 'n' then some .notInTailCallPosition else some .inNonBareboneFunction
  | _ => none

/--
A message about where a call stands is told from its end, whatever the callee is shown as.
-/
theorem kindOfMessage?_call (callee : List Char) {ending : List Char} {c : Char}
    (h : ending.getLast? = some c) :
    kindOfMessage? ("a call to function ".toList ++ (callee ++ ending)) =
      if c = 'n' then some .notInTailCallPosition else some .inNonBareboneFunction := by
  have hopening : "a call to function ".toList = 'a' :: ' ' :: "call to function ".toList := rfl
  have hlast : ("call to function ".toList ++ (callee ++ ending)).getLast? = some c := by
    rw [List.getLast?_append, List.getLast?_append, h]
    simp
  rw [hopening, List.cons_append, List.cons_append]
  rw [kindOfMessage?, hlast]
  simp

theorem kindOfMessage?_message {printer : Printer} {module : Module} {violation : Violation}
    {message : String} (h : printer.fragments module violation.fragments = .ok message) :
    kindOfMessage? message.toList = some violation.kind := by
  cases violation with
  | notInTailCallPosition call | inNonBareboneFunction call =>
    rw [Violation.fragments, Printer.fragments_text_eq_ok_iff] at h
    obtain ⟨_, hrest, rfl⟩ := h
    obtain ⟨name, _, _, hending, rfl⟩ := Printer.fragments_cons_eq_ok_iff.mp hrest
    rw [Printer.fragments_text_eq_ok_iff] at hending
    obtain ⟨_, hnil, rfl⟩ := hending
    rw [Printer.fragments_nil_eq_ok_iff.mp hnil, String.append_empty]
    rw [String.toList_append, String.toList_append]
    rw [kindOfMessage?_call _ rfl]
    rfl
  | _ =>
    simp only [Violation.fragments, List.cons_append, Printer.fragments_text_eq_ok_iff] at h
    obtain ⟨rest, _, rfl⟩ := h
    simp only [String.toList_append]
    rw [String.toList_ofList]
    rfl

theorem kind_of_resolve {module : Module} {kind : Kind} {severity : Severity}
    {function : FunctionId} {inst : Option InstId} {located : Located}
    (h : Located.resolve module kind severity function inst = .ok located) :
    located.kind = kind := by
  cases inst with
  | some | none =>
    obtain ⟨location, _, heq⟩ := Except.bind_eq_ok_iff.mp h
    cases heq
    rfl

theorem kind_of_make {module : Module} {origin : Diagnostic.Origin} {diagnostic : Barebone}
    (h : Diagnostic.make module origin = .ok (.barebone diagnostic)) :
    diagnostic.located.kind = diagnostic.violation.kind := by
  cases origin with
  | barebone | bareboneReturn =>
    rw [Diagnostic.make, Except.mapError_eq_ok_iff, Except.map_eq_ok_iff] at h
    obtain ⟨_, hmade, heq⟩ := h
    cases heq
    obtain ⟨located, hlocated, heq⟩ := Except.bind_eq_ok_iff.mp hmade
    cases heq
    exact kind_of_resolve hlocated
  | _ =>
    simp [Diagnostic.make, Except.mapError_eq_ok_iff, Except.map_eq_ok_iff,
      Except.bind_eq_ok_iff, pure, Except.pure] at h

/--
Two violations of different kinds never come out as the same line, whatever the names, types and
attributes in them say. This is so for every way to write the fragments.
-/
theorem print_ne_of_kind_ne {module : Module} {origin origin' : Diagnostic.Origin}
    {a b : Barebone} (ha : Diagnostic.make module origin = .ok (.barebone a))
    (hb : Diagnostic.make module origin' = .ok (.barebone b))
    (hfunction : a.located.function = b.located.function)
    (hlocation : a.located.location = b.located.location)
    (hkind : a.located.kind ≠ b.located.kind) {printer : Printer} {line line' : String}
    (hline : (Diagnostic.barebone a).print printer module = .ok line)
    (hline' : (Diagnostic.barebone b).print printer module = .ok line') : line ≠ line' := by
  rintro rfl
  rw [print_eq_ok_iff] at hline hline'
  obtain ⟨name, message, hname, hmessage, rfl⟩ := hline
  obtain ⟨name', message', hname', hmessage', heq⟩ := hline'
  -- The headings are the same, and so are the messages after them.
  have hnames : name' = name := by
    rw [hfunction, hname'] at hname
    exact Except.ok.inj hname
  rw [hnames, hlocation, String.append_right_inj] at heq
  rw [heq] at hmessage'
  have hkinds := (kindOfMessage?_message hmessage').symm.trans (kindOfMessage?_message hmessage)
  rw [kind_of_make ha, kind_of_make hb] at hkind
  exact hkind (Option.some.inj hkinds).symm

/--
The name of the callee reads like the end of the other message.
-/
theorem print_ne_of_kind_ne_phraseInName :
    let steps : List BuildStep :=
      [.function "f" ⟨.void, [], false⟩ [],
       .function "g must be in tail-call position" ⟨.void, [], false⟩ [],
       .block ⟨0⟩ none,
       .call ⟨0⟩ (.direct ⟨1⟩) none]
    let call : Call := { inst := ⟨0⟩, callee := .direct ⟨1⟩ }
    let located (kind : Kind) : Located :=
      { kind, severity := .error, function := ⟨0⟩, location := .unavailable }
    let a : Barebone :=
      { located := located .notInTailCallPosition, violation := .notInTailCallPosition call }
    let b : Barebone :=
      { located := located .inNonBareboneFunction, violation := .inNonBareboneFunction call }
    let line := "in function f: a call to function g must be in tail-call position " ++
      "must be in tail-call position"
    let line' := "in function f: a call to function g must be in tail-call position " ++
      "is only allowed in barebonecc functions"
    ∃ module, (Module.build { identifier := "m" } steps).2 = .ok module ∧
      Diagnostic.make module (.barebone .error ⟨0⟩ a.violation) = .ok (.barebone a) ∧
      Diagnostic.make module (.barebone .error ⟨0⟩ b.violation) = .ok (.barebone b) ∧
      a.located.kind ≠ b.located.kind ∧
      (Diagnostic.barebone a).print .plain module = .ok line ∧
      (Diagnostic.barebone b).print .plain module = .ok line' ∧ line ≠ line' := by
  intro steps call located a b line line'
  have hkind : a.located.kind ≠ b.located.kind := by decide
  obtain ⟨module, hbuild, ha, hb, hline, hline'⟩ :
      Answers (Module.build { identifier := "m" } steps).2 fun module =>
        Diagnostic.make module (.barebone .error ⟨0⟩ a.violation) = .ok (.barebone a) ∧
          Diagnostic.make module (.barebone .error ⟨0⟩ b.violation) = .ok (.barebone b) ∧
          (Diagnostic.barebone a).print .plain module = .ok line ∧
          (Diagnostic.barebone b).print .plain module = .ok line' := by decide +kernel
  exact ⟨module, hbuild, ha, hb, hkind, hline, hline',
    print_ne_of_kind_ne ha hb rfl rfl hkind hline hline'⟩

end Barebone

end IRDiagnostics
