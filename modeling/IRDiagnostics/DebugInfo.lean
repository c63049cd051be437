import IRDiagnostics.Arena

/-!
This module contains the debug information of a module: source files, the subprograms that functions
come from, and the source positions of instructions.
-/

namespace IRDiagnostics

/--
A source file by the name it was recorded under and the directory a relative name starts from.
-/
structure SourceFile where
  filename : String
  directory : String
  deriving DecidableEq

/--
The source-level definition of a function. Its body opens at `scopeLine`.
-/
structure Subprogram where
  name : String
  file : FileId
  line : UInt32
  scopeLine : UInt32
  deriving DecidableEq

/--
A source position whose file is still a reference. The column is 0 if it is not known.
-/
structure DebugLoc where
  file : FileId
  line : UInt32
  column : UInt32
  deriving DecidableEq

/--
A source position together with its file.
-/
structure Position where
  file : SourceFile
  line : UInt32
  column : UInt32
  deriving DecidableEq

end IRDiagnostics
