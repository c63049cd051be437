/-!
This module contains the choice of the optimization remarks that are wanted, per category and name
of the pass that makes them.
-/

namespace IRDiagnostics

/--
Which passes may report remarks. A category that is left out wants none.
-/
structure Filter where
  applied : String → Bool := fun _ => false
  missed : String → Bool := fun _ => false
  analysis : String → Bool := fun _ => false

/--
The filter that wants no remark at all.
-/
def Filter.none : Filter := {}

end IRDiagnostics
