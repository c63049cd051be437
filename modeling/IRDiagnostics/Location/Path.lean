/-!
This module contains the paths of source files: joining a relative name to a directory and dropping
the leading `./` of the result.
-/

namespace IRDiagnostics

namespace Path

/--
Whether a name stands on its own.
-/
def isAbsolute : List Char → Bool
  | '/' :: _ => true
  | _ => false

/--
A directory and a relative name with one separator between them, which is left out after a directory
that ends in one and after the empty directory.
-/
def join (directory name : List Char) : List Char :=
  if directory = [] ∨ directory.getLast? = some '/' then
    directory ++ name
  else
    directory ++ '/' :: name

/--
Drop every leading `./`, together with the further separators after it, as long as something is left
to drop it from.
-/
def stripDotSlash : List Char → List Char
  | '.' :: '/' :: c :: rest => stripDotSlash ((c :: rest).dropWhile (· = '/'))
  | path => path
termination_by path => path.length
decreasing_by
  have := (List.dropWhile_suffix (l := c :: rest) (· = '/')).length_le
  simp at this ⊢
  omega

/--
The pieces of a path between its separators, without the empty ones and those that stand for the
directory itself.
-/
def components (path : List Char) : List (List Char) :=
  (path.splitOnP (· = '/')).filter fun piece => piece ≠ [] ∧ piece ≠ ['.']

end Path

/--
The path of a file name that was recorded with a directory.
-/
def Path.resolve (directory name : List Char) : List Char :=
  if isAbsolute name then name else stripDotSlash (join directory name)

end IRDiagnostics
