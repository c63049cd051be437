/-!
This module contains the kinds of diagnostics. The built-in kinds come first and have names; above a
sentinel lie the kinds that plugins are given while the compiler runs.
-/

namespace IRDiagnostics

structure Kind where
  raw : UInt32
  deriving DecidableEq

namespace Kind

def inlineAsm : Kind := ⟨0⟩
def resourceLimit : Kind := ⟨1⟩
def stackSize : Kind := ⟨2⟩
def debugMetadataVersion : Kind := ⟨3⟩
def debugMetadataInvalid : Kind := ⟨4⟩
def iselFallback : Kind := ⟨5⟩
def sampleProfile : Kind := ⟨6⟩
def optimizationRemark : Kind := ⟨7⟩
def optimizationRemarkMissed : Kind := ⟨8⟩
def optimizationRemarkAnalysis : Kind := ⟨9⟩
def optimizationRemarkAnalysisFpCommute : Kind := ⟨10⟩
def optimizationRemarkAnalysisAliasing : Kind := ⟨11⟩
def optimizationFailure : Kind := ⟨12⟩
def pgoProfile : Kind := ⟨13⟩
def unsupported : Kind := ⟨14⟩
def misExpect : Kind := ⟨15⟩
def hwRegInvalid : Kind := ⟨16⟩
def hwRegAllocFailure : Kind := ⟨17⟩
def multipartArgUnsupported : Kind := ⟨18⟩
def noClobberHwRegInvalid : Kind := ⟨19⟩
def framePointerNotAllowed : Kind := ⟨20⟩
def localAreaSizeInvalid : Kind := ⟨21⟩
def localAreaSizeAlignNote : Kind := ⟨22⟩
def localAreaSizeExceeded : Kind := ⟨23⟩
def returnNotAllowed : Kind := ⟨24⟩
def mustTailCall : Kind := ⟨25⟩
def notInTailCallPosition : Kind := ⟨26⟩
def inNonBareboneFunction : Kind := ⟨27⟩

/--
The sentinel above the built-in kinds. It is no kind of either sort.
-/
def firstPlugin : Kind := ⟨28⟩

/--
The built-in kinds in ascending order.
-/
def builtIn : List Kind :=
  [inlineAsm, resourceLimit, stackSize, debugMetadataVersion, debugMetadataInvalid, iselFallback,
    sampleProfile, optimizationRemark, optimizationRemarkMissed, optimizationRemarkAnalysis,
    optimizationRemarkAnalysisFpCommute, optimizationRemarkAnalysisAliasing, optimizationFailure,
    pgoProfile, unsupported, misExpect, hwRegInvalid, hwRegAllocFailure, multipartArgUnsupported,
    noClobberHwRegInvalid, framePointerNotAllowed, localAreaSizeInvalid, localAreaSizeAlignNote,
    localAreaSizeExceeded, returnNotAllowed, mustTailCall, notInTailCallPosition,
    inNonBareboneFunction]

/--
The names of the built-in kinds, in the order of the kinds.
-/
def names : List String :=
  ["inline-asm",
   "resource-limit",
   "stack-size",
   "debug-metadata-version",
   "debug-metadata-invalid",
   "isel-fallback",
   "sample-profile",
   "optimization-remark",
   "optimization-remark-missed",
   "optimization-remark-analysis",
   "optimization-remark-analysis-fp-commute",
   "optimization-remark-analysis-aliasing",
   "optimization-failure",
   "pgo-profile",
   "unsupported",
   "mis-expect",
   "barebonecc-hwreg-invalid",
   "barebonecc-hwreg-alloc-failure",
   "barebonecc-multipart-arg-unsupported",
   "barebonecc-no-clobber-hwreg-invalid",
   "barebonecc-frame-pointer-not-allowed",
   "barebonecc-local-area-size-invalid",
   "barebonecc-local-area-size-align-note",
   "barebonecc-local-area-size-exceeded",
   "barebonecc-return-not-allowed",
   "barebonecc-must-tail-call",
   "barebonecc-not-in-tail-call-position",
   "barebonecc-in-non-barebone-function"]

def name? (kind : Kind) : Option String := names[kind.raw.toNat]?

def isPlugin (kind : Kind) : Bool := firstPlugin.raw < kind.raw

/--
A kind without a name is shown by its number.
-/
def text (kind : Kind) : String :=
  match kind.name? with
  | some name => name
  | none => "plugin#" ++ kind.raw.toNat.repr

theorem name?_isSome_iff {kind : Kind} : kind.name?.isSome ↔ kind.raw < firstPlugin.raw := by
  have h : names.length = 28 := rfl
  simp [name?, firstPlugin, UInt32.lt_iff_toNat_lt, h]

theorem lt_firstPlugin_of_mem_builtIn {kind : Kind} (h : kind ∈ builtIn) :
    kind.raw < firstPlugin.raw := by
  revert kind
  decide

end Kind

end IRDiagnostics
