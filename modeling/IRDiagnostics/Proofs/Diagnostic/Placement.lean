import IRDiagnostics.Proofs.Diagnostic.Text
import IRDiagnostics.Proofs.Module.Readable

/-!
This module contains where the diagnostics about a function are located. All of them follow one
rule, whichever way the instruction comes to their maker: an instruction is asked for its own source
position and for nothing else, and the subprogram of the function counts only if there is no
instruction.
-/

namespace IRDiagnostics

namespace Module

variable {module : Module} {function : FunctionId} {inst : InstId}

/--
Whether the ids of files and subprograms were issued that a module stores without looking at them.
-/
structure DebugInfoIssued (module : Module) : Prop where
  insts : module.insts.All fun data => module.Covers (DebugLoc.handles data.debugLoc)
  functions : module.functions.All fun data =>
    ∀ subprogram ∈ data.subprogram, module.Issued subprogram.handle
  subprograms : module.subprograms.All fun data => module.Issued data.file.handle

/--
The source position that belongs to an instruction, if one is given, or else to a function.
-/
inductive Places (module : Module) (function : FunctionId) :
    Option InstId → Option Position → Prop where
  | inst {inst : InstId} {data : Instruction} {debugLoc : DebugLoc} {file : SourceFile} :
    module.insts.read inst = .ok data → data.debugLoc = some debugLoc →
      module.files.read debugLoc.file = .ok file →
        Places module function (some inst)
          (some { file, line := debugLoc.line, column := debugLoc.column })
  | unplacedInst {inst : InstId} {data : Instruction} :
    module.insts.read inst = .ok data → data.debugLoc = none →
      Places module function (some inst) none
  | function {data : Function} {id : SubprogramId} {subprogram : Subprogram} {file : SourceFile} :
    module.functions.read function = .ok data → data.subprogram = some id →
      module.subprograms.read id = .ok subprogram →
        module.files.read subprogram.file = .ok file →
          Places module function none (some { file, line := subprogram.scopeLine, column := 0 })
  | unplacedFunction {data : Function} :
    module.functions.read function = .ok data → data.subprogram = none →
      Places module function none none

namespace DebugInfoIssued

theorem answers_instPosition (h : module.DebugInfoIssued) (hinst : module.Issued inst.handle)
    (function : FunctionId) :
    Answers (module.instPosition inst) (module.Places function (some inst)) := by
  apply (h.insts.answers_read hinst).and_eq.bind
  rintro data ⟨hread, hfile⟩
  split
  . next debugLoc hdebugLoc =>
    rw [hdebugLoc] at hfile
    have hposition : Answers (module.position debugLoc) fun position =>
        module.Places function (some inst) (some position) := by
      apply (Closed.answers_readFile (covers_singleton.mp hfile)).and_eq.bind
      rintro file ⟨hfile, _⟩
      exact .pure (.inst hread hdebugLoc hfile)
    apply hposition.bind
    intro position hplaces
    exact .pure hplaces
  . next hdebugLoc => exact .pure (.unplacedInst hread hdebugLoc)

theorem answers_functionSubprogram (h : module.DebugInfoIssued)
    (hfunction : module.Issued function.handle) :
    Answers (module.functionSubprogram function) fun
      | some subprogram => module.Issued subprogram.file.handle ∧
        ∀ file, module.files.read subprogram.file = .ok file →
          module.Places function none (some { file, line := subprogram.scopeLine, column := 0 })
      | none => module.Places function none none := by
  apply (h.functions.answers_read hfunction).and_eq.bind
  rintro data ⟨hread, hissued⟩
  split
  . next id hid =>
    apply (h.subprograms.answers_read (hissued id hid)).and_eq.bind
    rintro subprogram ⟨hsubprogram, hfile⟩
    -- The file is not read before the location is made, so what is told of it has to wait.
    refine .pure ⟨hfile, ?_⟩
    intro file hfile
    exact .function hread hid hsubprogram hfile
  . next hnone => exact .pure (.unplacedFunction hread hnone)

theorem answers_ofInst (h : module.DebugInfoIssued) (hinst : module.Issued inst.handle)
    (function : FunctionId) :
    Answers (Location.ofInst module inst) fun location =>
      ∃ position?, module.Places function (some inst) position? ∧
        location = .ofPosition? position? := by
  apply (h.answers_instPosition hinst function).bind
  intro position? hplaces
  exact .pure ⟨position?, hplaces, rfl⟩

theorem answers_ofFunction (h : module.DebugInfoIssued)
    (hfunction : module.Issued function.handle) :
    Answers (Location.ofFunction module function) fun location =>
      ∃ position?, module.Places function none position? ∧
        location = .ofPosition? position? := by
  apply (h.answers_functionSubprogram hfunction).bind
  intro subprogram? hsubprogram
  cases subprogram? with
  | none => exact .pure ⟨none, hsubprogram, rfl⟩
  | some subprogram =>
    obtain ⟨hfile, hplaces⟩ := hsubprogram
    apply (Closed.answers_readFile hfile).and_eq.bind
    rintro file ⟨hfile, _⟩
    exact .pure ⟨_, hplaces file hfile, rfl⟩

end DebugInfoIssued

theorem Closed.debugInfoIssued (h : module.Closed) : module.DebugInfoIssued where
  insts := h.insts.imp fun _ hdata => hdata.debugLoc
  functions := h.functions.imp fun _ hdata => hdata.subprogram
  subprograms := h.subprograms

theorem debugInfoIssued_of_wellScoped {identifier : String} {filter : Filter}
    {steps : List BuildStep} (h : ({ identifier, filter } : Module).wellScoped [] steps)
    (hbuild : (build { identifier, filter } steps).2 = .ok module) : module.DebugInfoIssued := by
  have hknown : ({ identifier, filter } : Module).Covers [] := by simp [Covers]
  obtain ⟨last, hlast, hclosed, _⟩ := answers_build (closed_empty identifier filter) hknown h
    (hasRoom_of_build hbuild)
  rw [hbuild] at hlast
  cases hlast
  exact hclosed.debugInfoIssued

end Module

namespace Location

/--
That all that can be asked of a location tells of one source position, or of the lack of one.
-/
structure Describes (location : Location) (position? : Option Position) : Prop where
  isAvailable : location.isAvailable = position?.isSome
  file? : location.file? = position?.map (·.file)
  relativePath : location.relativePath = (position?.map (·.file.filename)).getD placeholder
  line : location.line = (position?.map (·.line)).getD 0
  column : location.column = (position?.map (·.column)).getD 0
  text : location.text =
    match position? with
    | some position =>
      position.file.filename ++ ":" ++ position.line.toNat.repr ++ ":" ++
        position.column.toNat.repr
    | none => "<unavailable>:0:0"
  absolutePath : location.absolutePath =
    match position? with
    | some position =>
      String.ofList (Path.resolve position.file.directory.toList position.file.filename.toList)
    | none => placeholder

theorem describes_ofPosition? (position? : Option Position) :
    (ofPosition? position?).Describes position? := by
  cases position? with
  | none => exact ⟨rfl, rfl, rfl, rfl, rfl, rfl, rfl⟩
  | some position => exact ⟨rfl, rfl, rfl, rfl, rfl, rfl, rfl⟩

theorem eq_unavailable_of_not_isAvailable {location : Location} (h : ¬location.isAvailable) :
    location = unavailable := by
  cases location with
  | unavailable => rfl
  | «at» position => exact absurd rfl h

end Location

namespace Located

variable {module : Module}

/--
That a diagnostic is located where the instruction is, or where its function is if there is none.
-/
def Placed (module : Module) (located : Located) (inst : Option InstId) : Prop :=
  ∃ position?, module.Places located.function inst position? ∧
    located.location.Describes position?

theorem answers_resolve (h : module.DebugInfoIssued) (kind : Kind) (severity : Severity)
    {function : FunctionId} (hfunction : module.Issued function.handle) {inst : Option InstId}
    (hinst : ∀ id ∈ inst, module.Issued id.handle) :
    Answers (resolve module kind severity function inst) fun located =>
      ∃ location, located = ⟨kind, severity, function, location⟩ ∧ located.Placed module inst := by
  cases inst with
  | some inst =>
    apply (h.answers_ofInst (hinst inst rfl) function).bind
    rintro _ ⟨position?, hplaces, rfl⟩
    exact .pure ⟨_, rfl, position?, hplaces, Location.describes_ofPosition? position?⟩
  | none =>
    apply (h.answers_ofFunction hfunction).bind
    rintro _ ⟨position?, hplaces, rfl⟩
    exact .pure ⟨_, rfl, position?, hplaces, Location.describes_ofPosition? position?⟩

end Located

namespace Barebone.Violation

/--
That a violation holds a call, or none. A plain return has an instruction of another sort.
-/
inductive Holds : Violation → Option Call → Prop where
  | hwRegInvalid (call : Option Call) (raw : String) : Holds (.hwRegInvalid call raw) call
  | hwRegAllocFailure (call : Option Call) (raw : String) : Holds (.hwRegAllocFailure call raw) call
  | multipartArgUnsupported (call : Option Call) (ty : Ty) :
    Holds (.multipartArgUnsupported call ty) call
  | noClobberHwRegInvalid (raw : String) : Holds (.noClobberHwRegInvalid raw) none
  | framePointerNotAllowed : Holds .framePointerNotAllowed none
  | localAreaSizeInvalid (raw : String) (align : Align) :
    Holds (.localAreaSizeInvalid raw align) none
  | localAreaSizeAlignNote (align : Align) : Holds (.localAreaSizeAlignNote align) none
  | localAreaSizeExceeded (limit used : Int64) : Holds (.localAreaSizeExceeded limit used) none
  | mustTailCall (call : Call) : Holds (.mustTailCall call) (some call)
  | notInTailCallPosition (call : Call) : Holds (.notInTailCallPosition call) (some call)
  | inNonBareboneFunction (call : Call) : Holds (.inNonBareboneFunction call) (some call)

theorem holds_call? {violation : Violation} (h : violation ≠ .returnNotAllowed) :
    violation.Holds violation.call? := by
  cases violation with
  | returnNotAllowed => contradiction
  | _ => constructor

theorem handles_subset_of_call? {violation : Violation} {call : Call}
    (h : violation.call? = some call) : call.handles ⊆ violation.handles := by
  cases violation with
  | hwRegInvalid | hwRegAllocFailure | multipartArgUnsupported | mustTailCall
  | notInTailCallPosition | inNonBareboneFunction =>
    cases h
    exact List.Subset.refl _
  | _ => contradiction

end Barebone.Violation

namespace Diagnostic

variable {module : Module}

/--
The makers of the diagnostics that are located in a function.
-/
def Origin.isLocated : Origin → Bool
  | .misExpect .. | .unsupported .. | .bareboneReturn .. => true
  | .barebone _ _ violation => violation ≠ .returnNotAllowed
  | _ => false

/--
The function that a located diagnostic is about, and the instruction that its maker is given.
-/
inductive Origin.IsAbout (module : Module) : Origin → FunctionId → Option InstId → Prop where
  | misExpect {inst : InstId} {function : FunctionId} (message : String) :
    module.instFunction inst = .ok function →
      IsAbout module (.misExpect inst message) function (some inst)
  | unsupported (function : FunctionId) (inst : Option InstId) (message : String)
    (severity : Severity) :
      IsAbout module (.unsupported function inst message severity) function inst
  | barebone (severity : Severity) (function : FunctionId) {violation : Barebone.Violation}
    {call : Option Call} :
      violation.Holds call →
        IsAbout module (.barebone severity function violation) function (call.map (·.inst))
  | bareboneReturn (severity : Severity) (function : FunctionId) (ret : InstId) :
    IsAbout module (.bareboneReturn severity function ret) function (some ret)

/--
What a maker makes of what is located in a function. The message and the violation are the ones that
it is given.
-/
inductive Origin.Makes : Origin → Located → Diagnostic → Prop where
  | misExpect (inst : InstId) (message : String) (function : FunctionId) (location : Location) :
    Makes (.misExpect inst message) ⟨.misExpect, .warning, function, location⟩
      (.misExpect { located := ⟨.misExpect, .warning, function, location⟩, message })
  | unsupported (function : FunctionId) (inst : Option InstId) (message : String)
    (severity : Severity) (location : Location) :
      Makes (.unsupported function inst message severity)
        ⟨.unsupported, severity, function, location⟩
        (.unsupported { located := ⟨.unsupported, severity, function, location⟩, message })
  | barebone (severity : Severity) (function : FunctionId) (violation : Barebone.Violation)
    (location : Location) :
      Makes (.barebone severity function violation) ⟨violation.kind, severity, function, location⟩
        (.barebone { located := ⟨violation.kind, severity, function, location⟩, violation })
  | bareboneReturn (severity : Severity) (function : FunctionId) (ret : InstId)
    (location : Location) :
      Makes (.bareboneReturn severity function ret)
        ⟨.returnNotAllowed, severity, function, location⟩
        (.barebone {
          located := ⟨.returnNotAllowed, severity, function, location⟩
          violation := .returnNotAllowed })

/--
How the text of what a maker makes begins. Only a diagnostic about a violation does without a
location.
-/
def Origin.Opens (located : Located) (name line : String) : Origin → Prop
  | .barebone .. | .bareboneReturn .. =>
    ((located.location.text ++ ": in function " ++ name ++ ": ").toList <+: line.toList ↔
      located.location.isAvailable) ∧
    (¬ located.location.isAvailable → ("in function " ++ name ++ ": ").toList <+: line.toList)
  | .unsupported .. =>
    (located.location.text ++ ": in function " ++ name ++ " ").toList <+: line.toList
  | .misExpect .. => (located.location.text ++ ": ").toList <+: line.toList
  | _ => False

/--
What is told of a diagnostic of an origin that was given an instruction or none.
-/
structure IsPlaced (module : Module) (diagnostic : Diagnostic) (origin : Origin)
    (inst : Option InstId) (located : Located) : Prop where
  about : origin.IsAbout module located.function inst
  makes : origin.Makes located diagnostic
  placed : located.Placed module inst
  handles : module.Covers diagnostic.handles

/--
That a diagnostic is the one of its maker, is located by the rule and begins with what was found.
-/
def IsLocated (module : Module) (origin : Origin) (diagnostic : Diagnostic) : Prop :=
  ∃ inst located name, diagnostic.IsPlaced module origin inst located ∧
    module.functionName located.function = .ok name ∧
    Answers (diagnostic.text module) fun line => origin.Opens located name line

theorem answers_misExpect (h : module.DebugInfoIssued) (hnames : module.NamesKnown)
    (hparents : module.ParentsKnown) {inst : InstId} (hinst : module.Issued inst.handle)
    (message : String) :
    Answers (MisExpect.at module inst message) fun diagnostic =>
      ∃ function location,
        diagnostic = { located := ⟨.misExpect, .warning, function, location⟩, message } ∧
        module.instFunction inst = .ok function ∧ module.Issued function.handle ∧
        diagnostic.located.Placed module (some inst) := by
  have hfunction := Module.answers_instFunction hparents hnames (Arena.contains_iff.mpr hinst)
  apply hfunction.and_eq.bind
  rintro function ⟨hread, hfunction⟩
  rw [Arena.contains_iff] at hfunction
  have hinst : ∀ id ∈ some inst, module.Issued id.handle := by simpa using hinst
  apply (Located.answers_resolve h .misExpect .warning hfunction hinst).bind
  rintro _ ⟨location, rfl, hplaced⟩
  exact .pure ⟨function, location, rfl, hread, hfunction, hplaced⟩

theorem answers_unsupported (h : module.DebugInfoIssued) {function : FunctionId}
    (hfunction : module.Issued function.handle) {inst : Option InstId}
    (hinst : ∀ id ∈ inst, module.Issued id.handle) (message : String) (severity : Severity) :
    Answers (Unsupported.at module function inst message severity) fun diagnostic =>
      ∃ location,
        diagnostic = { located := ⟨.unsupported, severity, function, location⟩, message } ∧
        diagnostic.located.Placed module inst := by
  apply (Located.answers_resolve h .unsupported severity hfunction hinst).bind
  rintro _ ⟨location, rfl, hplaced⟩
  exact .pure ⟨location, rfl, hplaced⟩

theorem answers_ofViolation (h : module.DebugInfoIssued) (severity : Severity)
    {function : FunctionId} (hfunction : module.Issued function.handle)
    {violation : Barebone.Violation} (hviolation : module.Covers violation.handles) :
    Answers (Barebone.ofViolation module severity function violation) fun diagnostic =>
      ∃ location,
        diagnostic = { located := ⟨violation.kind, severity, function, location⟩, violation } ∧
        diagnostic.located.Placed module (violation.call?.map (·.inst)) := by
  have hinst : ∀ id ∈ violation.call?.map (·.inst), module.Issued id.handle := by
    intro id hid
    obtain ⟨call, hcall, rfl⟩ := Option.map_eq_some_iff.mp hid
    apply hviolation
    exact Barebone.Violation.handles_subset_of_call? hcall List.mem_cons_self
  apply (Located.answers_resolve h violation.kind severity hfunction hinst).bind
  rintro _ ⟨location, rfl, hplaced⟩
  exact .pure ⟨location, rfl, hplaced⟩

theorem answers_ofReturn (h : module.DebugInfoIssued) (severity : Severity)
    {function : FunctionId} (hfunction : module.Issued function.handle) {ret : InstId}
    (hret : module.Issued ret.handle) :
    Answers (Barebone.ofReturn module severity function ret) fun diagnostic =>
      ∃ location,
        diagnostic = {
          located := ⟨.returnNotAllowed, severity, function, location⟩
          violation := .returnNotAllowed } ∧
        diagnostic.located.Placed module (some ret) := by
  have hinst : ∀ id ∈ some ret, module.Issued id.handle := by simpa using hret
  apply (Located.answers_resolve h .returnNotAllowed severity hfunction hinst).bind
  rintro _ ⟨location, rfl, hplaced⟩
  exact .pure ⟨location, rfl, hplaced⟩

theorem answers_make_of_isLocated (h : module.DebugInfoIssued) (hnames : module.NamesKnown)
    (hparents : module.ParentsKnown) {origin : Origin} (hlocated : origin.isLocated)
    (horigin : module.Covers origin.handles) :
    Answers (make module origin) fun diagnostic =>
      ∃ inst located, diagnostic.IsPlaced module origin inst located := by
  cases origin with
  | misExpect inst message =>
    apply Answers.mapError
    apply (answers_misExpect h hnames hparents (Module.covers_singleton.mp horigin) message).map
    rintro _ ⟨function, location, rfl, hread, hfunction, hplaced⟩
    exact ⟨some inst, _, .misExpect message hread, .misExpect inst message function location,
      hplaced, Module.covers_singleton.mpr hfunction⟩
  | unsupported function inst message severity =>
    obtain ⟨hfunction, hinst⟩ := Module.covers_cons.mp horigin
    have hinst : ∀ id ∈ inst, module.Issued id.handle := by
      intro id hid
      apply hinst
      simpa using ⟨id, hid, rfl⟩
    apply Answers.mapError
    apply (answers_unsupported h hfunction hinst message severity).map
    rintro _ ⟨location, rfl, hplaced⟩
    exact ⟨inst, _, .unsupported function inst message severity,
      .unsupported function inst message severity location, hplaced,
      Module.covers_singleton.mpr hfunction⟩
  | barebone severity function violation =>
    have hreturn : violation ≠ .returnNotAllowed := of_decide_eq_true hlocated
    obtain ⟨hfunction, hviolation⟩ := Module.covers_cons.mp horigin
    apply Answers.mapError
    apply (answers_ofViolation h severity hfunction hviolation).map
    rintro _ ⟨location, rfl, hplaced⟩
    exact ⟨_, _, .barebone severity function (Barebone.Violation.holds_call? hreturn),
      .barebone severity function violation location, hplaced,
      Module.covers_cons.mpr ⟨hfunction, hviolation⟩⟩
  | bareboneReturn severity function ret =>
    obtain ⟨hfunction, hret⟩ := Module.covers_cons.mp horigin
    apply Answers.mapError
    apply (answers_ofReturn h severity hfunction (Module.covers_singleton.mp hret)).map
    rintro _ ⟨location, rfl, hplaced⟩
    exact ⟨some ret, _, .bareboneReturn severity function ret,
      .bareboneReturn severity function ret location, hplaced,
      Module.covers_singleton.mpr hfunction⟩
  | _ => contradiction

theorem toList_isPrefix_append (front rest : String) : front.toList <+: (front ++ rest).toList :=
  ⟨rest.toList, String.toList_append.symm⟩

theorem text_barebone {diagnostic : Barebone} {name line : String}
    (hline : (barebone diagnostic).text module = .ok line)
    (hname : module.functionName diagnostic.located.function = .ok name) :
    ((diagnostic.located.location.text ++ ": in function " ++ name ++ ": ").toList <+: line.toList ↔
      diagnostic.located.location.isAvailable) ∧
    (¬ diagnostic.located.location.isAvailable →
      ("in function " ++ name ++ ": ").toList <+: line.toList) := by
  obtain ⟨name', message, hname', _, rfl⟩ := Barebone.print_eq_ok_iff.mp hline
  rw [hname] at hname'
  cases hname'
  by_cases havailable : diagnostic.located.location.isAvailable
  . rw [Barebone.heading_of_isAvailable havailable]
    exact ⟨iff_of_true (toList_isPrefix_append _ _) havailable, fun h => absurd havailable h⟩
  . rw [Barebone.heading_of_not_isAvailable havailable]
    refine ⟨iff_of_false ?_ havailable, fun _ => toList_isPrefix_append _ _⟩
    -- What is shown for a missing location starts with another letter than the name of a function.
    rw [Location.eq_unavailable_of_not_isAvailable havailable]
    rintro ⟨rest, hrest⟩
    simp [Location.text, Location.relativePath, Location.placeholder] at hrest

theorem text_unsupported {diagnostic : Unsupported} {name line : String}
    (hline : (unsupported diagnostic).text module = .ok line)
    (hname : module.functionName diagnostic.located.function = .ok name) :
    (diagnostic.located.location.text ++ ": in function " ++ name ++ " ").toList <+:
      line.toList := by
  obtain ⟨fragments, hfragments, hprint⟩ := Except.bind_eq_ok_iff.mp hline
  obtain ⟨signature, _, heq⟩ := Except.bind_eq_ok_iff.mp hfragments
  cases heq
  simp only [Printer.fragments_text_eq_ok_iff, Printer.fragments_function_eq_ok_iff] at hprint
  obtain ⟨_, ⟨_, ⟨name', _, hname', ⟨rest, _, rfl⟩, rfl⟩, rfl⟩, rfl⟩ := hprint
  rw [hname] at hname'
  cases hname'
  rw [← String.append_assoc, ← String.append_assoc, ← String.append_assoc]
  exact toList_isPrefix_append _ rest

theorem text_misExpect {diagnostic : MisExpect} {line : String}
    (hline : (misExpect diagnostic).text module = .ok line) :
    (diagnostic.located.location.text ++ ": ").toList <+: line.toList := by
  change Printer.plain.fragments module diagnostic.fragments = .ok line at hline
  rw [MisExpect.fragments] at hline
  simp only [Printer.fragments_text_eq_ok_iff] at hline
  obtain ⟨_, ⟨rest, _, rfl⟩, rfl⟩ := hline
  rw [← String.append_assoc]
  exact toList_isPrefix_append _ rest

theorem Origin.Makes.opens {origin : Origin} {located : Located} {diagnostic : Diagnostic}
    {name line : String} (h : origin.Makes located diagnostic)
    (hname : module.functionName located.function = .ok name)
    (hline : diagnostic.text module = .ok line) : origin.Opens located name line := by
  cases h with
  | misExpect => simpa only [Opens] using text_misExpect hline
  | unsupported => simpa only [Opens] using text_unsupported hline hname
  | barebone | bareboneReturn => simpa only [Opens] using text_barebone hline hname

theorem Origin.Makes.handle_mem_handles {origin : Origin} {located : Located}
    {diagnostic : Diagnostic} (h : origin.Makes located diagnostic) :
    located.function.handle ∈ diagnostic.handles := by
  cases h with
  | _ => exact List.mem_cons_self

theorem IsPlaced.isLocated {origin : Origin} {inst : Option InstId} {located : Located}
    {diagnostic : Diagnostic} (h : diagnostic.IsPlaced module origin inst located)
    (hnames : module.NamesKnown) : diagnostic.IsLocated module origin := by
  have hfunction := h.handles _ h.makes.handle_mem_handles
  obtain ⟨name, hname, _⟩ := hnames.answers_functionName (Arena.contains_iff.mpr hfunction)
  obtain ⟨line, hline, _⟩ := hnames.answers_print .plain h.handles
  exact ⟨inst, located, name, h, hname, line, hline, h.makes.opens hname hline⟩

/--
Every maker of a diagnostic about a function locates it by the same rule, in every module that steps
can build from file and subprogram ids that were issued.
-/
theorem located_alike_of_build {identifier : String} {filter : Filter} {steps : List BuildStep}
    (h : (Module.build { identifier, filter } steps).2 = .ok module)
    (hissued : module.DebugInfoIssued) {origin : Origin} (hlocated : origin.isLocated)
    (horigin : module.Covers origin.handles) :
    Answers (make module origin) (IsLocated module origin) := by
  have hnames := Module.namesKnown_of_build h
  have hparents := Module.parentsKnown_of_build h
  apply (answers_make_of_isLocated hissued hnames hparents hlocated horigin).mono
  rintro diagnostic ⟨inst, located, hplaced⟩
  exact hplaced.isLocated hnames

/--
The call has no source position, and the subprogram of the function does not stand in for it.
-/
theorem located_alike_of_build_unplacedCall :
    let steps : List BuildStep :=
      [.file { filename := "a.c", directory := "/src" },
       .subprogram { name := "f", file := ⟨0⟩, line := 3, scopeLine := 4 },
       .function "f" ⟨.void, [], false⟩ [],
       .setSubprogram ⟨0⟩ ⟨0⟩,
       .block ⟨0⟩ none,
       .call ⟨0⟩ (.direct ⟨0⟩) none]
    let origin : Origin :=
      .barebone .error ⟨0⟩ (.mustTailCall { inst := ⟨0⟩, callee := .direct ⟨0⟩ })
    ∃ module, (Module.build { identifier := "m" } steps).2 = .ok module ∧
      module.DebugInfoIssued ∧ origin.isLocated ∧ module.Covers origin.handles ∧
      (make module origin).toOption.map (·.text module) =
        some (.ok "in function f: function f must be tail-called, use musttail marker") ∧
      Answers (make module origin) (IsLocated module origin) := by
  intro steps origin
  have hscoped : ({ identifier := "m" } : Module).wellScoped [] steps := by decide +kernel
  obtain ⟨module, hbuild, horigin, htext⟩ :
      Answers (Module.build { identifier := "m" } steps).2 fun module =>
        module.Covers origin.handles ∧
          (make module origin).toOption.map (·.text module) =
            some (.ok "in function f: function f must be tail-called, use musttail marker") := by
    decide +kernel
  have hissued := Module.debugInfoIssued_of_wellScoped hscoped hbuild
  have hlocated : origin.isLocated := rfl
  exact ⟨module, hbuild, hissued, hlocated, horigin, htext,
    located_alike_of_build hbuild hissued hlocated horigin⟩

end Diagnostic

end IRDiagnostics
