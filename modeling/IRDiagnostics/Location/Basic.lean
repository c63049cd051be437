import IRDiagnostics.Location.Path
import IRDiagnostics.Module.Read

/-!
This module contains the source locations of diagnostics. A location is resolved once, from the
source position of an instruction or from the subprogram of a function, and holds the file it names.
-/

namespace IRDiagnostics

/--
A place in a source file, or the lack of one.
-/
inductive Location where
  | unavailable
  | at (position : Position)
  deriving DecidableEq

namespace Location

/--
What is shown in place of a file when there is none.
-/
def placeholder : String := "<unavailable>"

def ofPosition? : Option Position → Location
  | some position => .at position
  | none => .unavailable

/--
The place where the body of a function's subprogram opens. The column is not known.
-/
def ofSubprogram? (module : Module) : Option Subprogram → Except Fault Location
  | some subprogram => do
    let file ← module.files.read subprogram.file
    return .at { file, line := subprogram.scopeLine, column := 0 }
  | none => return .unavailable

def ofInst (module : Module) (inst : InstId) : Except Fault Location := do
  return ofPosition? (← module.instPosition inst)

def ofFunction (module : Module) (function : FunctionId) : Except Fault Location := do
  ofSubprogram? module (← module.functionSubprogram function)

def position? : Location → Option Position
  | .unavailable => none
  | .at position => some position

def isAvailable (location : Location) : Bool := location.position?.isSome

def file? (location : Location) : Option SourceFile := location.position?.map (·.file)

def line : Location → UInt32
  | .unavailable => 0
  | .at position => position.line

def column : Location → UInt32
  | .unavailable => 0
  | .at position => position.column

/--
The file name as it was recorded.
-/
def relativePath : Location → String
  | .unavailable => placeholder
  | .at position => position.file.filename

/--
The file name resolved against its directory.
-/
def absolutePath : Location → String
  | .unavailable => placeholder
  | .at position =>
    String.ofList (Path.resolve position.file.directory.toList position.file.filename.toList)

/--
The form `file:line:column`.
-/
def text (location : Location) : String :=
  location.relativePath ++ ":" ++ location.line.toNat.repr ++ ":" ++ location.column.toNat.repr

end Location

end IRDiagnostics
