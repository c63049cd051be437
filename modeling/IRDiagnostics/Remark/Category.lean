import IRDiagnostics.Kind.Basic
import IRDiagnostics.Severity

/-!
This module contains the categories of optimization remarks.
-/

namespace IRDiagnostics

inductive Category where
  /-- An optimization was applied. -/
  | applied
  /-- An optimization was considered and not applied. -/
  | missed
  /-- Something that explains a decision of the optimizer. -/
  | analysis
  /-- An optimization that was asked for could not be done. -/
  | failure
  deriving DecidableEq

namespace Category

/--
The name of a category in records.
-/
def text : Category → String
  | .applied => "applied"
  | .missed => "missed"
  | .analysis => "analysis"
  | .failure => "failure"

/--
The name of a category in messages about misuse.
-/
def label : Category → String
  | .applied => "Applied"
  | .missed => "Missed"
  | .analysis => "Analysis"
  | .failure => "Failure"

def all : List Category := [.applied, .missed, .analysis, .failure]

def ofText? (text : String) : Option Category := all.find? (·.text = text)

theorem ofText?_text (category : Category) : ofText? category.text = some category := by
  cases category <;> decide

def defaultKind : Category → Kind
  | .applied => .optimizationRemark
  | .missed => .optimizationRemarkMissed
  | .analysis => .optimizationRemarkAnalysis
  | .failure => .optimizationFailure

def defaultSeverity : Category → Severity
  | .failure => .warning
  | _ => .remark

/--
Whether remarks of a category may be of a kind. Plugin kinds fit every category; besides its default
kind, analysis has two of its own.
-/
def accepts (category : Category) (kind : Kind) : Bool :=
  kind.isPlugin || kind = category.defaultKind ||
    category = .analysis &&
      (kind = .optimizationRemarkAnalysisFpCommute || kind = .optimizationRemarkAnalysisAliasing)

theorem accepts_defaultKind (category : Category) : category.accepts category.defaultKind := by
  simp [accepts]

end Category

end IRDiagnostics
