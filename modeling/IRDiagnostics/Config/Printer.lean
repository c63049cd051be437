import IRDiagnostics.Config.Basic
import IRDiagnostics.Toml.Printer

/-!
This module contains how configurations are written in TOML.
-/

namespace IRDiagnostics

namespace Config

/--
What is written in a configuration. Names may come in any order and more than once.
-/
structure Draft where
  all : Bool := false
  applied : List String := []
  missed : List String := []
  analysis : List String := []
  deriving DecidableEq

open Toml in
def Draft.text (layout : Layout) (draft : Draft) : String :=
  String.ofList <| layout.lines [
    headerChars "remarks",
    assignmentChars "all" (booleanChars draft.all),
    assignmentChars "applied" (layout.array draft.applied),
    assignmentChars "missed" (layout.array draft.missed),
    assignmentChars "analysis" (layout.array draft.analysis)]

end Config

end IRDiagnostics
