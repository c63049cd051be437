import IRDiagnostics.Config.Basic
import IRDiagnostics.Toml.Document

/-!
This module contains the form of configurations in TOML: a table `remarks` with the keys `all`,
`applied`, `missed` and `analysis`, or an array with the values of these keys. What is missing has
its default, other keys do not matter.
-/

namespace IRDiagnostics

namespace Config

open Toml (Node Entries)

def flag? : Option Node → Option Bool
  | none => some false
  | some (.scalar (.boolean value)) => some value
  | some _ => none

def name? : Node → Option String
  | .scalar (.string text) => some text
  | _ => none

def names? : Option Node → Option NameSet
  | none => some .empty
  | some (.array items) => NameSet.ofList <$> items.mapM name?
  | some _ => none

def ofFields? (all applied missed analysis : Option Node) : Option Config := do
  let all ← flag? all
  let applied ← names? applied
  let missed ← names? missed
  let analysis ← names? analysis
  return { all, applied, missed, analysis }

/--
Of an array only the first four items matter. A date counts as a table without any of the keys.
-/
def ofNode? : Node → Option Config
  | .table _ entries =>
    ofFields? (Entries.get? entries "all") (Entries.get? entries "applied")
      (Entries.get? entries "missed") (Entries.get? entries "analysis")
  | .array items => ofFields? items[0]? items[1]? items[2]? items[3]?
  | .scalar (.dateTime _) => some {}
  | _ => none

def ofEntries? (entries : Entries) : Option Config :=
  match entries.get? "remarks" with
  | none => some {}
  | some node => ofNode? node

/--
The configuration a text describes, sensible or not.
-/
def ofText? (text : String) : Option Config := do ofEntries? (← Toml.read? text)

end Config

end IRDiagnostics
