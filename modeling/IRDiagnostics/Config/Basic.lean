import IRDiagnostics.Config.NameSet
import IRDiagnostics.Filter
import IRDiagnostics.Text.Blank

/-!
This module contains the configuration of optimization remarks: the passes that report them, per
category. Names of passes match exactly; a name of white space alone can never be meant.
-/

namespace IRDiagnostics

structure Config where
  /-- Every pass reports in every category. -/
  all : Bool := false
  applied : NameSet := .empty
  missed : NameSet := .empty
  analysis : NameSet := .empty
  deriving DecidableEq

inductive ConfigError where
  /-- The file cannot be read. -/
  | unreadable (message : String)
  /-- The text is not a configuration. -/
  | malformed (message : String)
  /-- The configuration does not make sense. -/
  | invalid (message : String)
  deriving DecidableEq

def ConfigError.text : ConfigError → String
  | .unreadable message => "failed to read configuration: " ++ message
  | .malformed message => "failed to parse configuration: " ++ message
  | .invalid message => "validation error: " ++ message

namespace Config

/--
The lists of passes with the keys they are configured under.
-/
def categories (config : Config) : List (String × NameSet) :=
  [("applied", config.applied), ("missed", config.missed), ("analysis", config.analysis)]

/--
The key of the first category with a blank name.
-/
def blankCategory? (config : Config) : Option String :=
  (config.categories.find? fun (_, set) => set.names.any isBlank).map (·.1)

def validate (config : Config) : Except ConfigError Config :=
  match config.blankCategory? with
  | some key => .error (.invalid ("empty pass name in remarks." ++ key))
  | none => .ok config

def filter (config : Config) : Filter where
  applied pass := config.all || config.applied.contains pass
  missed pass := config.all || config.missed.contains pass
  analysis pass := config.all || config.analysis.contains pass

end Config

end IRDiagnostics
