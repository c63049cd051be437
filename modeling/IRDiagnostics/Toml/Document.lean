import IRDiagnostics.Toml.Node

/-!
This module contains whole TOML texts: assignments to the root table, followed by sections that each
have a header and the assignments under it.
-/

namespace IRDiagnostics

namespace Toml

inductive Header where
  /-- The header of the only table with its key. -/
  | table (key : Key)
  /-- The header of one of several tables with its key. -/
  | arrayTable (key : Key)

inductive Line where
  /-- A comment or nothing. -/
  | blank
  | header (header : Header)
  | assignment (key : Key) (value : Value)

structure Section where
  header : Header
  assignments : List (Key × Value) := []

structure Document where
  root : List (Key × Value) := []
  sections : List Section := []

def headerLine : Reader Header :=
  (do
    Reader.word ['[', '[']
    let key ← key
    Reader.word [']', ']']
    return .arrayTable key) <|>
  (do
    Reader.char '['
    let key ← key
    Reader.char ']'
    return .table key)

/--
A line with its end.
-/
def line : Reader Line := do
  blanks
  (do comment; lineEnd; return .blank) <|>
  (do newline; return .blank) <|>
  (do let header ← headerLine; lineRest; return .header header) <|>
  (do let (key, value) ← keyValue value; lineRest; return .assignment key value)

/--
Lines up to the end of the text. A byte order mark may stand in front.
-/
def lines : Reader (List Line) := do
  let _ ← optional (Reader.char '\uFEFF')
  let lines ← Reader.many line
  blanks
  return lines

/--
Put a line in front of a document.
-/
def Document.cons (document : Document) : Line → Document
  | .blank => document
  | .header header =>
    { sections := { header, assignments := document.root } :: document.sections }
  | .assignment key value => { document with root := (key, value) :: document.root }

/--
Assignments before the first header belong to the root, the others to the header in front of them.
-/
def Document.ofLines (lines : List Line) : Document :=
  lines.foldr (fun line document => document.cons line) {}

def Document.read? (text : String) : Option Document :=
  Document.ofLines <$> Reader.all lines text.toList

/--
What a section makes of the node its header leads to. A table may have been implied before, but not
made otherwise; one of several tables comes after those that are there.
-/
def Section.change (header : Header) (assignments : List (Key × Node)) (node? : Option Node) :
    Option Node :=
  match header, node? with
  | .table _, none => return .table .header (← Entries.assignAll [] assignments)
  | .table _, some (.table .implied entries) =>
    return .table .header (← Entries.assignAll entries assignments)
  | .arrayTable _, none => return .tables (← Entries.assignAll [] assignments) []
  | .arrayTable _, some (.tables latest earlier) =>
    return .tables (← Entries.assignAll [] assignments) (latest :: earlier)
  | _, _ => none

def Header.key : Header → Key
  | .table key => key
  | .arrayTable key => key

def Section.addTo (entries : Entries) (sect : Section) : Option Entries := do
  let assignments ← Node.ofEntries? sect.assignments
  entries.alter (Section.change sect.header assignments) sect.header.key

/--
The root table of a document.
-/
def Document.entries? (document : Document) : Option Entries := do
  let root ← Entries.assignAll [] (← Node.ofEntries? document.root)
  document.sections.foldlM Section.addTo root

/--
The root table of a text.
-/
def read? (text : String) : Option Entries := do (← Document.read? text).entries?

end Toml

end IRDiagnostics
