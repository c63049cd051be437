import IRDiagnostics.Diagnostic.Barebone
import IRDiagnostics.Remark.Basic

/-!
This module contains the diagnostics. Each has a kind and a severity, is made of fragments and can
be switched off, which only optimization remarks are.
-/

namespace IRDiagnostics

/--
A problem with an inline assembly statement. The cookie stands for its place in the source, 0 for
none.
-/
structure InlineAsm where
  message : String
  severity : Severity
  cookie : UInt64 := 0
  inst : Option InstId := none
  deriving DecidableEq

/--
The kind of metadata that carries the cookie of an inline assembly statement.
-/
def InlineAsm.cookieKind : String := "srcloc"

/--
A problem with the inline assembly of an instruction, whose metadata has the cookie.
-/
def InlineAsm.ofInst (module : Module) (inst : InstId) (message : String) (severity : Severity) :
    Except Fault InlineAsm := do
  let node ← module.instMetadata inst cookieKind
  let cookie := (node.bind (·.firstInt)).getD 0
  return { message, severity, cookie, inst := some inst }

/--
A function that uses more of a resource than it may. The limit is 0 if it is not known.
-/
structure ResourceLimit where
  kind : Kind := .resourceLimit
  severity : Severity := .error
  function : FunctionId
  resource : String
  size : UInt64
  limit : UInt64
  deriving DecidableEq

def ResourceLimit.stackSize (function : FunctionId) (size limit : UInt64) (severity : Severity) :
    ResourceLimit :=
  { kind := .stackSize, severity, function, resource := "stack frame size", size, limit }

/--
A problem with a sample profile. The line is 0 if it is not known.
-/
structure SampleProfile where
  file : Option String
  line : UInt32
  message : String
  severity : Severity := .error
  deriving DecidableEq

/--
A problem with the profile of an instrumented run.
-/
structure PgoProfile where
  file : Option String
  message : String
  severity : Severity := .error
  deriving DecidableEq

/--
Something the target cannot do.
-/
structure Unsupported where
  located : Located
  message : String
  deriving DecidableEq

def Unsupported.at (module : Module) (function : FunctionId) (inst : Option InstId)
    (message : String) (severity : Severity) : Except Fault Unsupported := do
  return { located := ← Located.resolve module .unsupported severity function inst, message }

/--
A branch annotation that the profile contradicts.
-/
structure MisExpect where
  located : Located
  message : String
  deriving DecidableEq

def MisExpect.at (module : Module) (inst : InstId) (message : String) : Except Fault MisExpect := do
  let function ← module.instFunction inst
  return { located := ← Located.resolve module .misExpect .warning function (some inst), message }

inductive Diagnostic where
  | inlineAsm (diagnostic : InlineAsm)
  | resourceLimit (diagnostic : ResourceLimit)
  /-- Debug information of the module that is dropped because of its version. -/
  | debugVersion (version : UInt32) (severity : Severity)
  /-- Debug information of the module that is dropped because it is malformed. -/
  | debugInvalid (severity : Severity)
  | sampleProfile (diagnostic : SampleProfile)
  | pgoProfile (diagnostic : PgoProfile)
  /-- A function that went through the slow path of instruction selection. -/
  | iselFallback (function : FunctionId) (severity : Severity)
  | misExpect (diagnostic : MisExpect)
  | unsupported (diagnostic : Unsupported)
  | barebone (diagnostic : Barebone)
  | remark (diagnostic : Remark)
  /-- A diagnostic of a plugin. -/
  | plugin (kind : Kind) (severity : Severity) (message : String)
  deriving DecidableEq

namespace Diagnostic

def kind : Diagnostic → Kind
  | .inlineAsm _ => .inlineAsm
  | .resourceLimit diagnostic => diagnostic.kind
  | .debugVersion _ _ => .debugMetadataVersion
  | .debugInvalid _ => .debugMetadataInvalid
  | .sampleProfile _ => .sampleProfile
  | .pgoProfile _ => .pgoProfile
  | .iselFallback _ _ => .iselFallback
  | .misExpect diagnostic => diagnostic.located.kind
  | .unsupported diagnostic => diagnostic.located.kind
  | .barebone diagnostic => diagnostic.located.kind
  | .remark diagnostic => diagnostic.located.kind
  | .plugin kind _ _ => kind

def severity : Diagnostic → Severity
  | .inlineAsm diagnostic => diagnostic.severity
  | .resourceLimit diagnostic => diagnostic.severity
  | .debugVersion _ severity => severity
  | .debugInvalid severity => severity
  | .sampleProfile diagnostic => diagnostic.severity
  | .pgoProfile diagnostic => diagnostic.severity
  | .iselFallback _ severity => severity
  | .misExpect diagnostic => diagnostic.located.severity
  | .unsupported diagnostic => diagnostic.located.severity
  | .barebone diagnostic => diagnostic.located.severity
  | .remark diagnostic => diagnostic.located.severity
  | .plugin _ severity _ => severity

/--
Whether the diagnostic is to be reported at all.
-/
def enabled (filter : Filter) : Diagnostic → Bool
  | .remark diagnostic => diagnostic.enabled filter
  | _ => true

end Diagnostic

def InlineAsm.fragments (diagnostic : InlineAsm) : List Fragment :=
  .text diagnostic.message ::
    if diagnostic.cookie = 0 then [] else [.text " at line ", .uint diagnostic.cookie]

def ResourceLimit.fragments (diagnostic : ResourceLimit) : List Fragment :=
  let limit := if diagnostic.limit = 0 then [] else [.text " of ", .uint diagnostic.limit]
  [.text diagnostic.resource, .text " limit"] ++
    limit ++
    [.text " exceeded (", .uint diagnostic.size, .text ") in ", .function diagnostic.function]

/--
The file comes first unless it is missing or its name is empty, with the line if that is known.
-/
def SampleProfile.fragments (diagnostic : SampleProfile) : List Fragment :=
  let line :=
    if diagnostic.line = 0 then [] else [.text ":", .uint diagnostic.line.toUInt64]
  let file :=
    match diagnostic.file with
    | none | some "" => []
    | some file => .text file :: line ++ [.text ": "]
  file ++ [.text diagnostic.message]

def PgoProfile.fragments (diagnostic : PgoProfile) : List Fragment :=
  let file :=
    match diagnostic.file with
    | none => []
    | some file => [.text file, .text ": "]
  file ++ [.text diagnostic.message]

/--
The text shows the signature of the function and ends with a line break.
-/
def Unsupported.fragments (module : Module) (diagnostic : Unsupported) :
    Except Fault (List Fragment) := do
  let located := diagnostic.located
  let signature ← module.functionSignature located.function
  return [.text located.location.text, .text ": in function ", .function located.function,
    .text " ", .signature signature, .text ": ", .text diagnostic.message, .text "\n"]

def MisExpect.fragments (diagnostic : MisExpect) : List Fragment :=
  [.text diagnostic.located.location.text, .text ": ", .text diagnostic.message]

namespace Diagnostic

def fragments (module : Module) : Diagnostic → Except Fault (List Fragment)
  | .inlineAsm diagnostic => .ok diagnostic.fragments
  | .resourceLimit diagnostic => .ok diagnostic.fragments
  | .debugVersion version _ => .ok
    [.text "ignoring debug info with an invalid version (", .uint version.toUInt64,
      .text ") in ", .module]
  | .debugInvalid _ => .ok [.text "ignoring invalid debug info in ", .module]
  | .sampleProfile diagnostic => .ok diagnostic.fragments
  | .pgoProfile diagnostic => .ok diagnostic.fragments
  | .iselFallback function _ => .ok
    [.text "Instruction selection used fallback path for ", .function function]
  | .misExpect diagnostic => .ok diagnostic.fragments
  | .unsupported diagnostic => diagnostic.fragments module
  | .barebone diagnostic => .ok diagnostic.fragments
  | .remark diagnostic => .ok [.text diagnostic.text]
  | .plugin _ _ message => .ok [.text message]

def print (printer : Printer) (module : Module) (diagnostic : Diagnostic) :
    Except Fault String := do
  printer.fragments module (← diagnostic.fragments module)

def text (module : Module) (diagnostic : Diagnostic) : Except Fault String :=
  diagnostic.print .plain module

end Diagnostic

end IRDiagnostics
