import IRDiagnostics.Proofs.Diagnostic.Fragments
import IRDiagnostics.Proofs.Module.Closed
import IRDiagnostics.Proofs.Module.Names
import Mathlib.Logic.Basic

/-!
This module contains the texts of diagnostics, which are put together from left to right. A text can
be written as soon as every function it names has a name, and no position has to be read for it: the
location of a diagnostic was resolved when the diagnostic was made.
-/

namespace IRDiagnostics

namespace Printer

variable {printer : Printer} {module : Module} {fragments rest : List Fragment} {line : String}

theorem fragments_cons_eq_ok_iff {fragment : Fragment} :
    printer.fragments module (fragment :: rest) = .ok line ↔
      ∃ text tail, printer.fragment module fragment = .ok text ∧
        printer.fragments module rest = .ok tail ∧ text ++ tail = line := by
  rw [Printer.fragments]
  simp [Except.bind_eq_ok_iff, pure, Except.pure]

@[simp]
theorem fragments_text_eq_ok_iff {text : String} :
    printer.fragments module (.text text :: rest) = .ok line ↔
      ∃ tail, printer.fragments module rest = .ok tail ∧ text ++ tail = line := by
  simp [fragments_cons_eq_ok_iff, fragment]

theorem fragments_function_eq_ok_iff {function : FunctionId} :
    printer.fragments module (.function function :: rest) = .ok line ↔
      ∃ name tail, module.functionName function = .ok name ∧
        printer.fragments module rest = .ok tail ∧ printer.function name ++ tail = line := by
  simp only [fragments_cons_eq_ok_iff, fragment, Except.map_eq_ok_iff]
  constructor
  . rintro ⟨_, tail, ⟨name, hname, rfl⟩, htail, hline⟩
    exact ⟨name, tail, hname, htail, hline⟩
  . rintro ⟨name, tail, hname, htail, hline⟩
    exact ⟨_, tail, ⟨name, hname, rfl⟩, htail, hline⟩

@[simp]
theorem fragments_nil_eq_ok_iff : printer.fragments module [] = .ok line ↔ line = "" := by
  simp [Printer.fragments, eq_comm]

theorem answers_fragments (printer : Printer)
    (h : ∀ function, .function function ∈ fragments →
      Answers (module.functionName function) fun _ => True) :
    Answers (printer.fragments module fragments) fun _ => True := by
  induction fragments with
  | nil => exact .pure trivial
  | cons fragment fragments ih =>
    have hfragment : Answers (printer.fragment module fragment) fun _ => True := by
      cases fragment with
      | function function =>
        apply (h function List.mem_cons_self).map
        intro name hname
        trivial
      | _ => exact .pure trivial
    apply hfragment.bind
    intro text htext
    exact (ih fun function hfunction => h function (List.mem_cons_of_mem _ hfunction)).bind_pure

end Printer

namespace Module.NamesKnown

variable {module : Module} {diagnostic : Diagnostic}

theorem answers_fragments (h : module.NamesKnown) (hdiagnostic : module.Covers diagnostic.handles) :
    Answers (diagnostic.fragments module) fun _ => True := by
  cases diagnostic with
  | unsupported diagnostic =>
    have hread := h.functions.answers_read (covers_singleton.mp hdiagnostic)
    exact Answers.bind_pure (hread.bind_pure)
  | _ => exact .pure trivial

theorem answers_print (h : module.NamesKnown) (printer : Printer)
    (hdiagnostic : module.Covers diagnostic.handles) :
    Answers (diagnostic.print printer module) fun _ => True := by
  obtain ⟨fragments, hfragments, _⟩ := h.answers_fragments hdiagnostic
  unfold Diagnostic.print
  rw [hfragments]
  apply printer.answers_fragments
  intro function hfunction
  apply h.answers_functionName
  rw [Arena.contains_iff]
  exact hdiagnostic _ (Diagnostic.mem_handles_of_fragments hfragments hfunction)

end Module.NamesKnown

namespace Barebone

/--
What comes before the message: the location, if it is available, and the name of the function.
-/
def heading (location : Location) (name : String) : String :=
  (if location.isAvailable then location.text ++ ": " else "") ++ "in function " ++ name ++ ": "

theorem heading_of_isAvailable {location : Location} (h : location.isAvailable) (name : String) :
    heading location name = location.text ++ ": in function " ++ name ++ ": " := by
  have hassoc : location.text ++ ": " ++ "in function " = location.text ++ ": in function " :=
    String.append_assoc
  rw [heading, if_pos h, hassoc]

theorem heading_of_not_isAvailable {location : Location} (h : ¬location.isAvailable)
    (name : String) : heading location name = "in function " ++ name ++ ": " := by
  rw [heading, if_neg h, String.empty_append]

theorem print_eq_ok_iff {printer : Printer} {module : Module} {diagnostic : Barebone}
    {line : String} :
    (Diagnostic.barebone diagnostic).print printer module = .ok line ↔
      ∃ name message, module.functionName diagnostic.located.function = .ok name ∧
        printer.fragments module diagnostic.violation.fragments = .ok message ∧
        heading diagnostic.located.location (printer.function name) ++ message = line := by
  change printer.fragments module diagnostic.fragments = .ok line ↔ _
  unfold fragments heading
  cases hlocation : diagnostic.located.location.isAvailable with
  | false | true =>
    simp [Printer.fragments_function_eq_ok_iff, hlocation, String.append_assoc,
      -String.reduceAppend]

end Barebone

end IRDiagnostics
