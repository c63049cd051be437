import IRDiagnostics.Arena
import IRDiagnostics.Constant
import IRDiagnostics.Filter
import IRDiagnostics.Instruction
import IRDiagnostics.SymbolTable

/-!
This module contains the module of the intermediate representation: the arenas of everything a
translation unit consists of, the names in it, and the filter for remarks about it. Functions list
their blocks and blocks their instructions; each of these knows its owner.
-/

namespace IRDiagnostics

/--
A function. One without blocks is a declaration.
-/
structure Function where
  name : Symbol
  signature : Signature
  params : List Symbol
  subprogram : Option SubprogramId := none
  blocks : List BlockId := []
  deriving DecidableEq

structure Block where
  name : Option Symbol
  parent : FunctionId
  insts : List InstId := []
  deriving DecidableEq

structure Global where
  name : Symbol
  ty : Ty
  deriving DecidableEq

structure Module where
  identifier : String
  filter : Filter := .none
  symbols : SymbolTable := .empty
  functions : Arena .function Function := .empty
  blocks : Arena .block Block := .empty
  insts : Arena .instruction Instruction := .empty
  globals : Arena .global Global := .empty
  constants : Arena .constant Constant := .empty
  files : Arena .file SourceFile := .empty
  subprograms : Arena .subprogram Subprogram := .empty

end IRDiagnostics
