import IRDiagnostics.Fragment
import IRDiagnostics.Located

/-!
This module contains the diagnostics for functions with the barebone calling convention. The
convention pins arguments to hardware registers, forbids frame pointers and plain returns, and
demands that control leaves by a tail call to another barebone function.
-/

namespace IRDiagnostics

/--
An alignment in bytes, which is a power of two.
-/
structure Align where
  bytes : UInt64
  isPowerOfTwo : bytes.toNat = 1 <<< bytes.toNat.log2
  deriving DecidableEq

def Align.ofBytes? (bytes : UInt64) : Option Align :=
  if h : bytes.toNat = 1 <<< bytes.toNat.log2 then some ⟨bytes, h⟩ else none

namespace Barebone

/--
What is wrong with a function, together with what the message about it shows.
-/
inductive Violation where
  /-- A register attribute names an unknown register. -/
  | hwRegInvalid (call : Option Call) (raw : String)
  /-- The register an attribute asks for could not be allocated. -/
  | hwRegAllocFailure (call : Option Call) (raw : String)
  /-- An argument that needs several registers has a register attribute. -/
  | multipartArgUnsupported (call : Option Call) (ty : Ty)
  /-- A clobber attribute names an unknown register. -/
  | noClobberHwRegInvalid (raw : String)
  /-- The function would need a frame pointer. -/
  | framePointerNotAllowed
  /-- The size of the local area does not parse or is misaligned. -/
  | localAreaSizeInvalid (raw : String) (align : Align)
  /-- The alignment the size of the local area has to have. -/
  | localAreaSizeAlignNote (align : Align)
  /-- The frame outgrew the local area. -/
  | localAreaSizeExceeded (limit used : Int64)
  /-- The function returns instead of calling another one. -/
  | returnNotAllowed
  /-- A call to a barebone function is not marked as a tail call. -/
  | mustTailCall (call : Call)
  /-- A call to a barebone function is not the last thing its caller does. -/
  | notInTailCallPosition (call : Call)
  /-- A barebone function is called from a function with another convention. -/
  | inNonBareboneFunction (call : Call)
  deriving DecidableEq

namespace Violation

def kind : Violation → Kind
  | .hwRegInvalid .. => .hwRegInvalid
  | .hwRegAllocFailure .. => .hwRegAllocFailure
  | .multipartArgUnsupported .. => .multipartArgUnsupported
  | .noClobberHwRegInvalid .. => .noClobberHwRegInvalid
  | .framePointerNotAllowed => .framePointerNotAllowed
  | .localAreaSizeInvalid .. => .localAreaSizeInvalid
  | .localAreaSizeAlignNote .. => .localAreaSizeAlignNote
  | .localAreaSizeExceeded .. => .localAreaSizeExceeded
  | .returnNotAllowed => .returnNotAllowed
  | .mustTailCall .. => .mustTailCall
  | .notInTailCallPosition .. => .notInTailCallPosition
  | .inNonBareboneFunction .. => .inNonBareboneFunction

/--
The call a violation is about.
-/
def call? : Violation → Option Call
  | .hwRegInvalid call _ | .hwRegAllocFailure call _ | .multipartArgUnsupported call _ => call
  | .mustTailCall call | .notInTailCallPosition call | .inNonBareboneFunction call => some call
  | .noClobberHwRegInvalid _ | .framePointerNotAllowed | .localAreaSizeInvalid _ _
  | .localAreaSizeAlignNote _ | .localAreaSizeExceeded _ _ | .returnNotAllowed => none

end Violation

/--
What a call is shown as: the name of a known function, the signature of a pointer.
-/
def callee (call : Call) : Fragment :=
  match call.callee with
  | .direct function => .function function
  | .indirect signature => .signature signature

def inCall : Option Call → List Fragment
  | some call => [.text " in a call to ", callee call]
  | none => []

def Violation.fragments : Violation → List Fragment
  | .hwRegInvalid call raw =>
    .text "register requested by 'hwreg' attribute is unknown or invalid" ::
      inCall call ++ [.text (": " ++ raw)]
  | .hwRegAllocFailure call raw =>
    .text "failed to allocate register requested by 'hwreg' attribute" ::
      inCall call ++ [.text (": " ++ raw)]
  | .multipartArgUnsupported call ty =>
    [.text "argument of type ", .ty ty,
      .text " is passed in multiple registers, incompatible with 'hwreg'"] ++ inCall call
  | .noClobberHwRegInvalid raw =>
    [.text ("unknown register in 'no-clobber-hwreg' attribute: " ++ raw)]
  | .framePointerNotAllowed => [.text "frame pointer not allowed"]
  | .localAreaSizeInvalid raw _ => [.text ("bad value in 'local-area-size' attribute: " ++ raw)]
  | .localAreaSizeAlignNote align =>
    [.text "the value in 'local-area-size' attribute must be a multiple of ", .uint align.bytes]
  | .localAreaSizeExceeded limit used =>
    [.text "stack size limit of ", .int limit, .text " exceeded: ", .int used, .text " used"]
  | .returnNotAllowed => [.text "must terminate by tail-calling another barebonecc function"]
  | .mustTailCall call =>
    [.text "function ", callee call, .text " must be tail-called, use musttail marker"]
  | .notInTailCallPosition call =>
    [.text "a call to function ", callee call, .text " must be in tail-call position"]
  | .inNonBareboneFunction call =>
    [.text "a call to function ", callee call,
      .text " is only allowed in barebonecc functions"]

end Barebone

/--
A violation in a function.
-/
structure Barebone where
  located : Located
  violation : Barebone.Violation
  deriving DecidableEq

namespace Barebone

/--
A violation that is located at the call it is about, if there is one, and at the function otherwise.
This makes the diagnostics about every violation but a plain return: `ofReturn` is the one maker for
it, although nothing here keeps it out.
-/
def ofViolation (module : Module) (severity : Severity) (function : FunctionId)
    (violation : Violation) : Except Fault Barebone := do
  let inst := violation.call?.map (·.inst)
  let located ← Located.resolve module violation.kind severity function inst
  return { located, violation }

/--
A plain return, located at the instruction that returns.
-/
def ofReturn (module : Module) (severity : Severity) (function : FunctionId) (ret : InstId) :
    Except Fault Barebone := do
  let located ← Located.resolve module Kind.returnNotAllowed severity function (some ret)
  return { located, violation := .returnNotAllowed }

/--
The location comes first, but only if it is available.
-/
def fragments (diagnostic : Barebone) : List Fragment :=
  let located := diagnostic.located
  let location :=
    if located.location.isAvailable then [.text located.location.text, .text ": "] else []
  location ++
    [.text "in function ", .function located.function, .text ": "] ++
    diagnostic.violation.fragments

end Barebone

end IRDiagnostics
