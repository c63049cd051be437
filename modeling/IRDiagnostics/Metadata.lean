/-!
This module contains the generic metadata that instructions carry: nodes of operands, each filed
under the name of its kind.
-/

namespace IRDiagnostics

namespace Metadata

inductive Operand where
  | int (value : UInt64)
  | text (value : String)
  deriving DecidableEq

structure Node where
  operands : List Operand := []
  deriving DecidableEq

/--
The first operand of a node if there is one and it is an integer.
-/
def Node.firstInt (node : Node) : Option UInt64 :=
  match node.operands with
  | .int value :: _ => some value
  | _ => none

/--
The nodes of an instruction in the order in which their kinds were first set.
-/
abbrev Attachments := List (String × Node)

namespace Attachments

def find? (attachments : Attachments) (kind : String) : Option Node := attachments.lookup kind

/--
File `node` under `kind`, in place of the node that is there already.
-/
def set (attachments : Attachments) (kind : String) (node : Node) : Attachments :=
  match attachments with
  | [] => [(kind, node)]
  | (other, old) :: rest =>
    if other = kind then
      (kind, node) :: rest
    else
      (other, old) :: Attachments.set rest kind node

theorem find?_set_self (attachments : Attachments) (kind : String) (node : Node) :
    (attachments.set kind node).find? kind = some node := by
  induction attachments with
  | nil => simp [set, find?]
  | cons head rest ih =>
    obtain ⟨other, old⟩ := head
    simp only [set]
    split
    . simp [find?]
    . next h => simpa [find?, List.lookup_cons, beq_eq_false_iff_ne.mpr (Ne.symm h)] using ih

theorem find?_set_of_ne (attachments : Attachments) {kind other : String} (node : Node)
    (h : other ≠ kind) : (attachments.set kind node).find? other = attachments.find? other := by
  induction attachments with
  | nil => simp [set, find?, List.lookup_cons, beq_eq_false_iff_ne.mpr h]
  | cons head rest ih =>
    obtain ⟨key, old⟩ := head
    simp only [set]
    split
    . next hkey => simp [find?, List.lookup_cons, hkey, beq_eq_false_iff_ne.mpr h]
    . simp only [find?, List.lookup_cons] at ih ⊢
      rw [ih]

end Attachments

end Metadata

end IRDiagnostics
