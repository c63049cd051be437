import IRDiagnostics.Proofs.Diagnostic.Placement
import IRDiagnostics.Proofs.Remark.Run
import IRDiagnostics.Remark.Record
import IRDiagnostics.Sink.Basic

/-!
This module contains the diagnostics about closed modules. A diagnostic that is made from issued ids
holds issued ids, and so it can be printed, reported and recorded.
-/

namespace IRDiagnostics

namespace Module

/--
Whether a value of a remark is taken from the module: through an issued id, or as a parameter that a
function of the module has.
-/
def Holds (module : Module) : Value → Prop
  | .parameter parameter => ∃ (function : FunctionId) (index : Nat),
    module.Issued function.handle ∧ module.parameter? function index = .ok (some parameter)
  | .global global => module.Issued global.handle
  | .constant _ => True
  | .instruction inst => module.Issued inst.handle
  | .function function => module.Issued function.handle

structure ValueReadable (module : Module) (value : Value) : Prop where
  inspection : Answers (module.inspectValue value) fun _ => True
  argument : ∀ key, Answers (Argument.ofValue module key value) fun _ => True

structure DiagnosticReadable (module : Module) (diagnostic : Diagnostic) : Prop where
  handles : module.Covers diagnostic.handles
  print : ∀ printer, Answers (diagnostic.print printer module) fun _ => True
  report : ∀ sink : Sink, Answers (sink.report module diagnostic) fun _ => True
  record : ∀ remark, diagnostic = .remark remark → Answers (remark.toRecord module) fun _ => True

namespace Closed

variable {module : Module} {function : FunctionId} {inst : InstId}

theorem answers_locationOfInst (h : module.Closed) (hinst : module.Issued inst.handle) :
    Answers (Location.ofInst module inst) fun _ => True :=
  (h.answers_instPosition hinst).bind_pure

theorem answers_locationOfFunction (h : module.Closed) (hfunction : module.Issued function.handle) :
    Answers (Location.ofFunction module function) fun _ => True :=
  (h.debugInfoIssued.answers_ofFunction hfunction).mono fun _ _ => trivial

theorem parameterReadable (h : module.Closed) {parameter : Parameter}
    (hparameter : module.Holds (.parameter parameter)) : module.ParameterReadable parameter := by
  obtain ⟨function, index, hfunction, hread⟩ := hparameter
  obtain ⟨answer, hanswer, hreadable⟩ := h.answers_parameter? hfunction index
  rw [hread] at hanswer
  cases hanswer
  exact hreadable parameter rfl

theorem answers_inspectValue (h : module.Closed) {value : Value} (hvalue : module.Holds value) :
    Answers (module.inspectValue value) fun _ => True := by
  cases value with
  | parameter parameter => exact (h.parameterReadable hvalue).inspection.map fun _ _ => trivial
  | global global => exact (h.answers_inspectGlobal hvalue).map fun _ _ => trivial
  | constant constant => exact .pure trivial
  | instruction inst => exact (h.answers_inspectInst hvalue).map fun _ _ => trivial
  | function function => exact (h.answers_inspectFunction hvalue).map fun _ _ => trivial

theorem answers_argumentOfValue (h : module.Closed) (key : String) {value : Value}
    (hvalue : module.Holds value) : Answers (Argument.ofValue module key value) fun _ => True := by
  cases value with
  | parameter parameter =>
    exact (h.parameterReadable hvalue).name.bind_pure
  | global global =>
    exact (h.answers_globalName hvalue).bind_pure
  | constant constant => exact .pure trivial
  | instruction inst =>
    apply (h.answers_instOpcode hvalue).bind
    intro opcode hopcode
    exact (h.answers_locationOfInst hvalue).bind_pure
  | function function =>
    apply (h.answers_functionName hvalue).bind
    intro name hname
    exact (h.answers_locationOfFunction hvalue).bind_pure

theorem answers_withKind (h : module.Closed) {kind : Kind} {category : Category}
    (hkind : category.accepts kind) (severity : Severity) (pass name : String)
    (location : Location) {region : BlockId} (hregion : module.Issued region.handle) :
    Answers (Remark.withKind module kind severity category pass name location region)
      fun remark => module.Covers (Diagnostic.remark remark).handles := by
  unfold Remark.withKind
  rw [if_pos hkind]
  apply (h.answers_blockParent hregion).mapError.bind
  intro function hfunction
  apply Answers.pure
  exact covers_cons.mpr ⟨hfunction, covers_singleton.mpr hregion⟩

theorem answers_remarkOfInst (h : module.Closed) (category : Category) (pass name : String)
    (hinst : module.Issued inst.handle) :
    Answers (Remark.ofInst module category pass name inst) fun remark =>
      module.Covers (Diagnostic.remark remark).handles := by
  apply (h.answers_instFunction hinst).bind
  intro function hfunction
  apply (h.answers_locationOfInst hinst).bind
  intro location hlocation
  apply (h.answers_instParent hinst).bind
  intro region hregion
  apply Answers.pure
  exact covers_cons.mpr ⟨hfunction, covers_singleton.mpr hregion⟩

theorem answers_remarkOfFunction (h : module.Closed) (category : Category) (pass name : String)
    (hfunction : module.Issued function.handle) :
    Answers (Remark.ofFunction module category pass name function) fun remark =>
      module.Covers (Diagnostic.remark remark).handles := by
  apply (h.answers_locationOfFunction hfunction).bind
  intro location hlocation
  apply (h.answers_firstBlock hfunction).bind
  intro region hregion
  apply Answers.pure
  refine covers_cons.mpr ⟨hfunction, ?_⟩
  cases region with
  | some region => exact covers_singleton.mpr (hregion region rfl)
  | none => simp [Covers]

theorem answers_makeRemark (h : module.Closed) (pass name : String) {origin : Remark.Origin}
    (hkind : origin.kindAccepted) (horigin : module.Covers origin.handles) :
    Answers (Remark.make module pass name origin) fun remark =>
      module.Covers (Diagnostic.remark remark).handles := by
  cases origin with
  | withKind kind severity category location region =>
    exact h.answers_withKind hkind severity pass name location (covers_singleton.mp horigin)
  | block category location region =>
    apply h.answers_withKind category.accepts_defaultKind
    exact covers_singleton.mp horigin
  | fpCommute location region =>
    have hkind : Category.analysis.accepts .optimizationRemarkAnalysisFpCommute := by decide
    exact h.answers_withKind hkind .remark pass name location (covers_singleton.mp horigin)
  | aliasing location region =>
    have hkind : Category.analysis.accepts .optimizationRemarkAnalysisAliasing := by decide
    exact h.answers_withKind hkind .remark pass name location (covers_singleton.mp horigin)
  | inst category inst =>
    exact (h.answers_remarkOfInst category pass name (covers_singleton.mp horigin)).mapError
  | function category function =>
    exact (h.answers_remarkOfFunction category pass name (covers_singleton.mp horigin)).mapError

theorem answers_inlineAsmOfInst (h : module.Closed) (hinst : module.Issued inst.handle)
    (message : String) (severity : Severity) :
    Answers (InlineAsm.ofInst module inst message severity) fun diagnostic =>
      module.Covers (Diagnostic.inlineAsm diagnostic).handles := by
  apply (h.answers_instMetadata hinst InlineAsm.cookieKind).bind
  intro node hnode
  apply Answers.pure
  exact covers_singleton.mpr hinst

theorem namesKnown (h : module.Closed) : module.NamesKnown where
  functions := h.functions.imp fun _ hdata => hdata.name
  blocks := h.blocks.imp fun _ hdata => Arena.contains_iff.mpr hdata.parent

theorem parentsKnown (h : module.Closed) : module.ParentsKnown :=
  h.insts.imp fun _ hdata => Arena.contains_iff.mpr hdata.parent

theorem answers_make (h : module.Closed) {origin : Diagnostic.Origin} (hkind : origin.kindAccepted)
    (horigin : module.Covers origin.handles) :
    Answers (Diagnostic.make module origin) fun diagnostic =>
      module.Covers diagnostic.handles := by
  cases origin with
  | inlineAsm message severity cookie => exact .pure horigin
  | inlineAsmOfInst inst message severity =>
    apply Answers.mapError
    apply (h.answers_inlineAsmOfInst (covers_singleton.mp horigin) message severity).map
    intro diagnostic hdiagnostic
    exact hdiagnostic
  | resourceLimit diagnostic => exact .pure horigin
  | debugVersion version severity => exact .pure horigin
  | debugInvalid severity => exact .pure horigin
  | sampleProfile diagnostic => exact .pure horigin
  | pgoProfile diagnostic => exact .pure horigin
  | iselFallback function severity => exact .pure horigin
  | misExpect | unsupported | bareboneReturn =>
    have hmake := Diagnostic.answers_make_of_isLocated h.debugInfoIssued h.namesKnown
      h.parentsKnown rfl horigin
    apply hmake.mono
    rintro diagnostic ⟨inst, located, hplaced⟩
    exact hplaced.handles
  | barebone severity function violation =>
    -- Here a plain return is among the violations, which has no rule for its location.
    obtain ⟨hfunction, hviolation⟩ := covers_cons.mp horigin
    apply Answers.mapError
    apply (Diagnostic.answers_ofViolation h.debugInfoIssued severity hfunction hviolation).map
    rintro _ ⟨location, rfl, _⟩
    exact covers_cons.mpr ⟨hfunction, hviolation⟩
  | remark pass name origin steps =>
    apply (h.answers_makeRemark pass name hkind horigin).bind
    intro remark hremark
    apply Answers.pure
    rw [Remark.run_eq]
    exact hremark
  | plugin kind severity message => exact .pure horigin

theorem answers_report (h : module.Closed) (sink : Sink) {diagnostic : Diagnostic}
    (hdiagnostic : module.Covers diagnostic.handles) :
    Answers (sink.report module diagnostic) fun _ => True := by
  unfold Sink.report
  split
  . have hrender : Answers (diagnostic.render module) fun _ => True := by
      exact (h.namesKnown.answers_print .plain hdiagnostic).bind_pure
    exact hrender.bind_pure
  . exact .pure trivial

theorem answers_toRecord (h : module.Closed) {remark : Remark}
    (hremark : module.Covers (Diagnostic.remark remark).handles) :
    Answers (remark.toRecord module) fun _ => True :=
  (h.answers_functionName (covers_cons.mp hremark).1).bind_pure

theorem diagnosticReadable (h : module.Closed) {diagnostic : Diagnostic}
    (hdiagnostic : module.Covers diagnostic.handles) : module.DiagnosticReadable diagnostic where
  handles := hdiagnostic
  print printer := h.namesKnown.answers_print printer hdiagnostic
  report sink := h.answers_report sink hdiagnostic
  record remark hremark := by
    rw [hremark] at hdiagnostic
    exact h.answers_toRecord hdiagnostic

end Closed

/--
Whatever is read of a module through issued ids has an answer, and so has whatever is told of a
diagnostic that is made from them. That a diagnostic is enabled and where its file lies is read from
the diagnostic alone and never fails.
-/
structure Readable (module : Module) : Prop where
  function : ∀ function : FunctionId, module.Issued function.handle →
    module.FunctionReadable function
  block : ∀ block : BlockId, module.Issued block.handle → module.BlockReadable block
  inst : ∀ inst : InstId, module.Issued inst.handle → module.InstReadable inst
  call : ∀ call : Call, module.Covers call.handles → module.CallReadable call
  global : ∀ global : GlobalId, module.Issued global.handle → module.GlobalReadable global
  constant : ∀ constant : ConstantId, module.Issued constant.handle →
    Answers (module.constants.read constant) fun _ => True
  file : ∀ file : FileId, module.Issued file.handle → Answers (module.files.read file) fun _ => True
  subprogram : ∀ subprogram : SubprogramId, module.Issued subprogram.handle →
    Answers (module.subprograms.read subprogram) module.SubprogramReadable
  position : ∀ debugLoc : DebugLoc, module.Issued debugLoc.file.handle →
    Answers (module.position debugLoc) fun _ => True
  value : ∀ value, module.Holds value → module.ValueReadable value
  diagnostic : ∀ origin : Diagnostic.Origin, origin.kindAccepted → module.Covers origin.handles →
    Answers (Diagnostic.make module origin) module.DiagnosticReadable

theorem Closed.readable {module : Module} (h : module.Closed) : module.Readable where
  function _ := h.functionReadable
  block _ := h.blockReadable
  inst _ := h.instReadable
  call _ := h.callReadable
  global _ := h.globalReadable
  constant _ hconstant := Arena.All.answers_read (fun _ _ => trivial) hconstant
  file _ := answers_readFile
  subprogram _ hsubprogram := (h.subprograms.answers_read hsubprogram).mono
    fun _ hfile => ⟨answers_readFile hfile⟩
  position _ := answers_position
  value _ hvalue := ⟨h.answers_inspectValue hvalue, (h.answers_argumentOfValue · hvalue)⟩
  diagnostic _ hkind horigin := (h.answers_make hkind horigin).mono
    fun _ hdiagnostic => h.diagnosticReadable hdiagnostic

/--
No run of build steps faults in which every id that a step is given was returned by an earlier step
and for whose names there are enough symbols, and nothing that is read of the module afterwards
does.
-/
theorem readable_of_wellScoped {identifier : String} {filter : Filter} {steps : List BuildStep}
    (h : ({ identifier, filter } : Module).wellScoped [] steps)
    (hnames : (steps.flatMap BuildStep.names).toFinset.card ≤ UInt32.size) :
    Answers (({ identifier, filter } : Module).build steps).2 fun module =>
      module.Covers (({ identifier, filter } : Module).returned steps) ∧ module.Readable := by
  have hclosed := closed_empty identifier filter
  have hknown : ({ identifier, filter } : Module).Covers [] := by simp [Covers]
  apply (answers_build hclosed hknown h (SymbolTable.hasRoom_empty_iff.mpr hnames)).mono
  intro module hmodule
  exact ⟨hmodule.2, hmodule.1.readable⟩

def selfCall : List BuildStep :=
  [.file { filename := "a.c", directory := "/src" },
   .subprogram { name := "f", file := ⟨0⟩, line := 3, scopeLine := 4 },
   .function "f" ⟨.void, [.ptr], false⟩ ["p"],
   .setSubprogram ⟨0⟩ ⟨0⟩,
   .block ⟨0⟩ (some "entry"),
   .call ⟨0⟩ (.direct ⟨0⟩) (some { file := ⟨0⟩, line := 5, column := 2 }),
   .metadata ⟨0⟩ "srcloc" ⟨[.int 7]⟩,
   .instruction ⟨0⟩ .ret none]

theorem readable_of_wellScoped_selfCall :
    ({ identifier := "m" } : Module).wellScoped [] selfCall ∧
      (selfCall.flatMap BuildStep.names).toFinset.card ≤ UInt32.size ∧
      ({ identifier := "m" } : Module).returned selfCall =
        [⟨.file, 0⟩, ⟨.subprogram, 0⟩, ⟨.function, 0⟩, ⟨.block, 0⟩, ⟨.instruction, 0⟩,
          ⟨.instruction, 1⟩] ∧
      Answers (({ identifier := "m" } : Module).build selfCall).2 fun module =>
        module.Covers (({ identifier := "m" } : Module).returned selfCall) ∧ module.Readable := by
  have hscoped : ({ identifier := "m" } : Module).wellScoped [] selfCall := by decide +kernel
  have hnames : (selfCall.flatMap BuildStep.names).toFinset.card ≤ UInt32.size := by decide +kernel
  exact ⟨hscoped, hnames, by decide +kernel, readable_of_wellScoped hscoped hnames⟩

/--
A file that was never returned goes unnoticed until a position in it is read.
-/
example :
    let steps : List BuildStep :=
      [.function "f" ⟨.void, [], false⟩ [],
       .block ⟨0⟩ none,
       .instruction ⟨0⟩ .ret (some { file := ⟨0⟩, line := 1, column := 1 })]
    (({ identifier := "m" } : Module).build steps).2.bind (·.instPosition ⟨0⟩) =
      .error (.outOfBounds 0 0) := by
  decide +kernel

end Module

end IRDiagnostics
