/-!
This module contains the severities of diagnostics, ordered from a note to an error.
-/

namespace IRDiagnostics

inductive Severity where
  /-- Context for another diagnostic. -/
  | note
  /-- Information, such as what the optimizer did. -/
  | remark
  /-- A possible problem that does not stop compilation. -/
  | warning
  /-- A problem that stops compilation. -/
  | error
  deriving DecidableEq

namespace Severity

def text : Severity → String
  | .note => "note"
  | .remark => "remark"
  | .warning => "warning"
  | .error => "error"

/--
The name a severity has in interchange texts.
-/
def label : Severity → String
  | .note => "Note"
  | .remark => "Remark"
  | .warning => "Warning"
  | .error => "Error"

def all : List Severity := [.note, .remark, .warning, .error]

def ofLabel? (label : String) : Option Severity := all.find? (·.label = label)

theorem ofLabel?_label (severity : Severity) : ofLabel? severity.label = some severity := by
  cases severity <;> decide

/--
The place of a severity in their order.
-/
def rank : Severity → Nat
  | .note => 0
  | .remark => 1
  | .warning => 2
  | .error => 3

instance : LE Severity where
  le a b := a.rank ≤ b.rank

instance (a b : Severity) : Decidable (a ≤ b) := inferInstanceAs (Decidable (a.rank ≤ b.rank))

instance : Ord Severity where
  compare a b := compare a.rank b.rank

instance : Max Severity := maxOfLe

instance : Min Severity := minOfLe

def isError (severity : Severity) : Bool := severity = .error

end Severity

end IRDiagnostics
