import IRDiagnostics.Toml.Value

/-!
This module contains the tables that TOML texts describe. Tables come about in several ways, and the
way decides in which other ways they may grow.
-/

namespace IRDiagnostics

namespace Toml

/--
How a table came about.
-/
inductive Origin where
  /-- By a header of its own. -/
  | header
  /-- By the header of a table below it. -/
  | implied
  /-- By a key with dots. -/
  | dotted
  /-- By braces. -/
  | inline
  deriving DecidableEq

inductive Node where
  | scalar (value : Scalar)
  | array (items : List Node)
  | table (origin : Origin) (entries : List (String × Node))
  /-- The tables of several headers with the same key, latest first. -/
  | tables (latest : List (String × Node)) (earlier : List (List (String × Node)))

/--
The entries of a table in the order in which they were made.
-/
abbrev Entries := List (String × Node)

namespace Entries

def get? (entries : Entries) (key : String) : Option Node := entries.lookup key

/--
Replace the node of a key, or append one.
-/
def set (key : String) (node : Node) : Entries → Entries
  | [] => [(key, node)]
  | (other, old) :: rest =>
    if other = key then (key, node) :: rest else (other, old) :: set key node rest

/--
Put a node where a key leads to. The steps of the key enter tables that earlier keys with dots made
or headers implied, and the latest of several tables; missing ones are made. The table at the end
has to be free for new entries, and the last part of the key has to be new in it.
-/
def assign (node : Node) (isFree : Bool) : Key → Entries → Option Entries
  | [], _ => none
  | [part], entries =>
    if isFree && (entries.get? part).isNone then some (entries.set part node) else none
  | part :: key, entries => do
    let inner ←
      match entries.get? part with
      | none => return entries.set part (.table .dotted (← assign node true key []))
      | some (.table .dotted inner) => pure (.table .dotted (← assign node true key inner))
      | some (.table .implied inner) => pure (.table .implied (← assign node false key inner))
      | some (.tables latest earlier) => pure (.tables (← assign node false key latest) earlier)
      | some _ => none
    return entries.set part inner

/--
Change what a header leads to. The steps of the header enter all tables but inline ones, and the
latest of several tables; missing ones are implied.
-/
def alter (change : Option Node → Option Node) : Key → Entries → Option Entries
  | [], _ => none
  | [part], entries => do return entries.set part (← change (entries.get? part))
  | part :: key, entries => do
    let inner ←
      match entries.get? part with
      | none => pure (.table .implied (← alter change key []))
      | some (.table .inline _) => none
      | some (.table origin inner) => pure (.table origin (← alter change key inner))
      | some (.tables latest earlier) => pure (.tables (← alter change key latest) earlier)
      | some _ => none
    return entries.set part inner

/--
Put the nodes of several keys into a table.
-/
def assignAll (entries : Entries) (assignments : List (Key × Node)) : Option Entries :=
  assignments.foldlM (fun entries (key, node) => entries.assign node true key) entries

end Entries

mutual

/--
The node of a value. The keys of an inline table must not clash.
-/
def Node.ofValue? : Value → Option Node
  | .scalar value => some (.scalar value)
  | .array items => return .array (← Node.ofValues? items)
  | .inlineTable entries => do
    return .table .inline (← Entries.assignAll [] (← Node.ofEntries? entries))

def Node.ofValues? : List Value → Option (List Node)
  | [] => some []
  | value :: rest => return (← Node.ofValue? value) :: (← Node.ofValues? rest)

def Node.ofEntries? : List (Key × Value) → Option (List (Key × Node))
  | [] => some []
  | (key, value) :: rest => return (key, ← Node.ofValue? value) :: (← Node.ofEntries? rest)

end

end Toml

end IRDiagnostics
