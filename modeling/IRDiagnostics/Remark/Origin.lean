import IRDiagnostics.Remark.Basic

/-!
This module contains the ways to make an optimization remark as data. A remark is made about a
block, an instruction or a function; `Remark.make` makes it.
-/

namespace IRDiagnostics

namespace Remark

/--
What a remark is made about, with what its maker decides besides the names.
-/
inductive Origin where
  /-- A block, with an explicit kind and severity. -/
  | withKind (kind : Kind) (severity : Severity) (category : Category) (location : Location)
    (region : BlockId)
  /-- A block, with the kind and the severity of the category. -/
  | block (category : Category) (location : Location) (region : BlockId)
  /-- A block with floating-point operations that would have to be reordered. -/
  | fpCommute (location : Location) (region : BlockId)
  /-- A block with pointers that may alias. -/
  | aliasing (location : Location) (region : BlockId)
  | inst (category : Category) (inst : InstId)
  | function (category : Category) (function : FunctionId)
  deriving DecidableEq

/--
Whether the kind, if one is given, is one that the category accepts.
-/
def Origin.kindAccepted : Origin → Bool
  | .withKind kind _ category _ _ => category.accepts kind
  | _ => true

def make (module : Module) (pass name : String) : Origin → Except RemarkError Remark
  | .withKind kind severity category location region =>
    withKind module kind severity category pass name location region
  | .block category location region => ofBlock module category pass name location region
  | .fpCommute location region => fpCommute module pass name location region
  | .aliasing location region => aliasing module pass name location region
  | .inst category inst => (ofInst module category pass name inst).mapError .fault
  | .function category function =>
    (ofFunction module category pass name function).mapError .fault

end Remark

end IRDiagnostics
