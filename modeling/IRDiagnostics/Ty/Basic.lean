/-!
This module contains the first-class types of the intermediate representation and the signatures of
its functions and calls.
-/

namespace IRDiagnostics

/--
A first-class type. The fields of `function` are those of a `Signature`.
-/
inductive Ty where
  | void
  | int (bits : UInt32)
  | half
  | float
  | double
  | ptr
  | label
  | vector (len : UInt32) (element : Ty)
  | array (len : UInt64) (element : Ty)
  | struct (fields : List Ty) (packed : Bool)
  | function (ret : Ty) (params : List Ty) (vararg : Bool)

/--
The type of a function or of a call site: what it returns, its fixed parameters, and whether more
arguments may follow them.
-/
structure Signature where
  ret : Ty
  params : List Ty
  vararg : Bool

def Signature.toTy (signature : Signature) : Ty :=
  .function signature.ret signature.params signature.vararg

mutual

def Ty.beq : Ty → Ty → Bool
  | .void, .void => true
  | .int m, .int n => m = n
  | .half, .half => true
  | .float, .float => true
  | .double, .double => true
  | .ptr, .ptr => true
  | .label, .label => true
  | .vector m a, .vector n b => m = n && a.beq b
  | .array m a, .array n b => m = n && a.beq b
  | .struct as p, .struct bs q => Ty.beqList as bs && p = q
  | .function a as v, .function b bs w => a.beq b && Ty.beqList as bs && v = w
  | _, _ => false

def Ty.beqList : List Ty → List Ty → Bool
  | [], [] => true
  | a :: as, b :: bs => a.beq b && Ty.beqList as bs
  | _, _ => false

end

mutual

theorem Ty.beq_iff_eq : (a b : Ty) → (a.beq b ↔ a = b)
  | .void, b => by cases b <;> simp [Ty.beq]
  | .int _, b => by cases b <;> simp [Ty.beq]
  | .half, b => by cases b <;> simp [Ty.beq]
  | .float, b => by cases b <;> simp [Ty.beq]
  | .double, b => by cases b <;> simp [Ty.beq]
  | .ptr, b => by cases b <;> simp [Ty.beq]
  | .label, b => by cases b <;> simp [Ty.beq]
  | .vector _ a, b => by cases b <;> simp [Ty.beq, Ty.beq_iff_eq a]
  | .array _ a, b => by cases b <;> simp [Ty.beq, Ty.beq_iff_eq a]
  | .struct as _, b => by cases b <;> simp [Ty.beq, Ty.beqList_iff_eq as]
  | .function a as _, b => by
    cases b <;> simp [Ty.beq, Ty.beq_iff_eq a, Ty.beqList_iff_eq as, and_assoc]

theorem Ty.beqList_iff_eq : (as bs : List Ty) → (Ty.beqList as bs ↔ as = bs)
  | [], bs => by cases bs <;> simp [Ty.beqList]
  | a :: as, bs => by cases bs <;> simp [Ty.beqList, Ty.beq_iff_eq a, Ty.beqList_iff_eq as]

end

instance : DecidableEq Ty := fun a b => decidable_of_iff _ (Ty.beq_iff_eq a b)

deriving instance DecidableEq for Signature

end IRDiagnostics
