import IRDiagnostics.Diagnostic.Origin
import IRDiagnostics.Sink.Basic

/-!
This module contains what the filter of a module has no part in. Building the module, making a
diagnostic about it and rendering the diagnostic are the same under every filter.
-/

namespace IRDiagnostics

namespace Module

def withFilter (module : Module) (filter : Filter) : Module := { module with filter }

variable (module : Module) (filter : Filter)

theorem addFunction_withFilter (name : String) (signature : Signature) (params : List String) :
    (module.withFilter filter).addFunction name signature params =
      (module.addFunction name signature params).map fun result =>
        (result.1, result.2.withFilter filter) := by
  simp only [addFunction, withFilter]
  cases module.symbols.intern name with
  | error fault => rfl
  | ok result =>
    cases hparams : result.2.internAll params with
    | error fault => simp only [bind, Except.bind, hparams, Except.map]
    | ok result => simp only [bind, Except.bind, hparams, Except.map, pure, Except.pure]

theorem setSubprogram_withFilter (function : FunctionId) (subprogram : SubprogramId) :
    (module.withFilter filter).setSubprogram function subprogram =
      (module.setSubprogram function subprogram).map (·.withFilter filter) := by
  simp only [setSubprogram, withFilter]
  cases module.functions.modify function ({ · with subprogram := some subprogram }) with
  | ok functions => rfl
  | error fault => rfl

theorem addBlock_withFilter (function : FunctionId) (name : Option String) :
    (module.withFilter filter).addBlock function name =
      (module.addBlock function name).map fun result => (result.1, result.2.withFilter filter) := by
  simp only [addBlock, withFilter, Arena.alloc]
  cases internName module.symbols name with
  | error fault => rfl
  | ok result =>
    cases module.functions.modify function
        (fun data => { data with blocks := data.blocks ++ [module.blocks.nextId] }) with
    | ok functions => rfl
    | error fault => rfl

theorem pushInstruction_withFilter (instruction : Instruction) :
    (module.withFilter filter).pushInstruction instruction =
      (module.pushInstruction instruction).map fun result =>
        (result.1, result.2.withFilter filter) := by
  simp only [pushInstruction, withFilter, Arena.alloc]
  cases module.blocks.modify instruction.parent
      (fun data => { data with insts := data.insts ++ [module.insts.nextId] }) with
  | ok blocks => rfl
  | error fault => rfl

theorem setMetadata_withFilter (inst : InstId) (kind : String) (node : Metadata.Node) :
    (module.withFilter filter).setMetadata inst kind node =
      (module.setMetadata inst kind node).map (·.withFilter filter) := by
  simp only [setMetadata, withFilter]
  cases module.insts.modify inst
      (fun data => { data with attachments := data.attachments.set kind node }) with
  | ok insts => rfl
  | error fault => rfl

theorem addGlobal_withFilter (name : String) (ty : Ty) :
    (module.withFilter filter).addGlobal name ty =
      (module.addGlobal name ty).map fun result => (result.1, result.2.withFilter filter) := by
  simp only [addGlobal, withFilter]
  cases module.symbols.intern name with
  | ok result => rfl
  | error fault => rfl

theorem ofInserted_withFilter (result : Except Fault (InstId × Module)) :
    BuildAnswer.ofInserted (module.withFilter filter)
        ((result.map fun result => (result.1, result.2.withFilter filter)).mapError .fault) =
      (BuildAnswer.ofInserted module (result.mapError .fault)).map fun result =>
        (result.1, result.2.withFilter filter) := by
  cases result with
  | ok result => rfl
  | error fault => rfl

theorem apply_withFilter (step : BuildStep) :
    (module.withFilter filter).apply step =
      (module.apply step).map fun result => (result.1, result.2.withFilter filter) := by
  cases step with
  | file file => rfl
  | subprogram subprogram => rfl
  | function name signature params =>
    simp only [apply, addFunction_withFilter]
    cases module.addFunction name signature params with
    | ok result => rfl
    | error fault => rfl
  | setSubprogram function subprogram =>
    simp only [apply, setSubprogram_withFilter]
    cases module.setSubprogram function subprogram with
    | ok module => rfl
    | error fault => rfl
  | block function name =>
    simp only [apply, addBlock_withFilter]
    cases module.addBlock function name with
    | ok result => rfl
    | error fault => rfl
  | instruction parent opcode debugLoc =>
    simp only [apply, addInstruction]
    split
    . rfl
    . rw [pushInstruction_withFilter]
      exact ofInserted_withFilter module filter _
  | call parent callee debugLoc =>
    have hrefusal : (module.withFilter filter).refusal? callee = module.refusal? callee := by
      cases callee with
      | direct function => rfl
      | indirect signature => rfl
    simp only [apply, addCall, hrefusal]
    cases module.refusal? callee with
    | some rejection => rfl
    | none =>
      simp only
      rw [pushInstruction_withFilter]
      exact ofInserted_withFilter module filter _
  | metadata inst kind node =>
    simp only [apply, setMetadata_withFilter]
    cases module.setMetadata inst kind node with
    | ok module => rfl
    | error fault => rfl
  | global name ty =>
    simp only [apply, addGlobal_withFilter]
    cases module.addGlobal name ty with
    | ok result => rfl
    | error fault => rfl
  | constant constant => rfl

/--
A build has the same answers under every filter, and the module that comes of it differs in the
filter alone.
-/
theorem build_withFilter (steps : List BuildStep) :
    (module.withFilter filter).build steps =
      ((module.build steps).1, (module.build steps).2.map (·.withFilter filter)) := by
  induction steps generalizing module with
  | nil => rfl
  | cons step steps ih =>
    simp only [build]
    rw [apply_withFilter]
    cases module.apply step with
    | ok result =>
      simp only [Except.map]
      rw [ih]
      rfl
    | error fault => rfl

/--
What is the same about two modules wherever diagnostics are made and rendered.
-/
structure MadeAlike (module other : Module) : Prop where
  position : ∀ inst, other.instPosition inst = module.instPosition inst
  call : ∀ inst, other.asCall? inst = module.asCall? inst
  locationOfInst : ∀ inst, Location.ofInst other inst = Location.ofInst module inst
  locationOfFunction : ∀ function,
    Location.ofFunction other function = Location.ofFunction module function
  argument : ∀ key value, Argument.ofValue other key value = Argument.ofValue module key value
  make : ∀ origin, Diagnostic.make other origin = Diagnostic.make module origin
  print : ∀ printer diagnostic,
    Diagnostic.print printer other diagnostic = Diagnostic.print printer module diagnostic
  render : ∀ diagnostic, Diagnostic.render other diagnostic = Diagnostic.render module diagnostic

theorem fragments_withFilter (printer : Printer) (fragments : List Fragment) :
    printer.fragments (module.withFilter filter) fragments =
      printer.fragments module fragments := by
  induction fragments with
  | nil => rfl
  | cons fragment rest ih =>
    have hfragment : printer.fragment (module.withFilter filter) fragment =
        printer.fragment module fragment := by
      cases fragment with
      | _ => rfl
    simp only [Printer.fragments]
    rw [hfragment]
    rw [ih]

theorem print_withFilter (printer : Printer) (diagnostic : Diagnostic) :
    diagnostic.print printer (module.withFilter filter) = diagnostic.print printer module := by
  have hfragments : diagnostic.fragments (module.withFilter filter) =
      diagnostic.fragments module := by
    cases diagnostic with
    | _ => rfl
  unfold Diagnostic.print
  rw [hfragments]
  simp only [fragments_withFilter]

theorem make_withFilter (origin : Diagnostic.Origin) :
    Diagnostic.make (module.withFilter filter) origin = Diagnostic.make module origin := by
  cases origin with
  | remark pass name origin steps =>
    have hmake : Remark.make (module.withFilter filter) pass name origin =
        Remark.make module pass name origin := by
      cases origin with
      | _ => rfl
    simp only [Diagnostic.make]
    rw [hmake]
  | _ => rfl

theorem madeAlike_withFilter : MadeAlike module (module.withFilter filter) where
  position inst := rfl
  call inst := rfl
  locationOfInst inst := rfl
  locationOfFunction function := rfl
  argument key value := by
    cases value with
    | _ => rfl
  make origin := make_withFilter module filter origin
  print printer diagnostic := print_withFilter module filter printer diagnostic
  render diagnostic := by
    unfold Diagnostic.render Diagnostic.text
    rw [print_withFilter]

end Module

end IRDiagnostics
