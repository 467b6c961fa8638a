import JuliaNative.Proofs.Build.Sequence
import JuliaNative.Proofs.SameWork

set_option autoImplicit false

/-! # The stages do the same work

What a stage does of a build directory, of commands and of files does not depend on what was printed,
asked or done before, nor on whether its steps are reported: for configurations that ask the same of a
stage (`ResolvedConfiguration.AlikeFor`), carrying it out is the same work (`Build.sameWork_carryOut`).
It is shown along the text of each function, so that it also says which of them run commands, and that
only looking for the product of an earlier stage fails without naming a command or a file. -/

namespace JuliaNative

open JuliaNative.Action

/-- If a failure is that of a command, it names the command. -/
def Failure.NamesCommand : Failure → Prop
  | .error (.stage failure) => failure.command ≠ []
  | _ => True

namespace Action

variable {running : Bool}

/-! ## Looking at files -/

theorem sameWork_absolute {fails : Failure → Prop} (path : Path) :
    SameWork running fails (absolute path) (absolute path) :=
  .bind .read fun _ => .pure _

theorem sameWork_lookup (path : Path) :
    SameWork running Failure.NamesCommand (lookup path) (lookup path) := by
  refine .bind (sameWork_absolute path) fun location => .bind .files fun current => ?_
  refine .ite (fun _ => .pure _) fun _ => ?_
  split
  · exact .throw trivial
  · exact .pure _

theorem sameWork_has (path : Path) :
    SameWork running Failure.NamesCommand (has path) (has path) :=
  .bind (sameWork_lookup path) fun _ => .pure _

theorem sameWork_isFile (path : Path) :
    SameWork running Failure.NamesCommand (isFile path) (isFile path) :=
  .bind (sameWork_lookup path) fun _ => .pure _

theorem sameWork_isDirectory (path : Path) :
    SameWork running Failure.NamesCommand (isDirectory path) (isDirectory path) :=
  .bind (sameWork_lookup path) fun _ => .pure _

theorem sameWork_refuseNull (path : Path) :
    SameWork running Failure.NamesCommand (refuseNull path) (refuseNull path) :=
  .ite (fun _ => .throw trivial) fun _ => .pure _

end Action

/-! ## Staging -/

namespace Stager

variable {running : Bool} {stager stager' : Stager}

theorem sameWork_report (text : String) :
    SameWork running Failure.NamesCommand (stager.report text) (stager'.report text) :=
  .sayIf _ _ _ _

theorem sameWork_reportNone (done : List String) :
    SameWork running Failure.NamesCommand (stager.reportNone done) (stager'.reportNone done) :=
  .ite (fun _ => sameWork_report _) fun _ => .pure _

theorem sameWork_removeTree (path : Path) (issue : SystemError → StagingIssue) :
    SameWork running Failure.NamesCommand (removeTree path issue) (removeTree path issue) := by
  refine .bind (sameWork_refuseNull path) fun _ => .bind .files fun current => ?_
  refine .bind (.setFiles _) fun _ => ?_
  split
  · exact .pure _
  · exact .throw trivial

theorem sameWork_removeEntry (path : Path) :
    SameWork running Failure.NamesCommand (removeEntry path) (removeEntry path) := by
  refine .bind .files fun current => .ite (fun _ => sameWork_removeTree _ _) fun _ => ?_
  split
  · exact .throw trivial
  · split
    · exact .setFiles _
    · exact .throw trivial

theorem sameWork_entryNames (directory : Path) :
    SameWork running Failure.NamesCommand (entryNames directory) (entryNames directory) := by
  refine .bind (sameWork_refuseNull directory) fun _ => .bind .files fun current => ?_
  refine .bind (sameWork_absolute directory) fun location => ?_
  split
  · exact .pure _
  · exact .throw trivial

/-- The end of a replacement: the copy. -/
def copyInto (source destination : Path) : Action Unit := do
  refuseNull destination
  match (← files).copy (← absolute source) destination with
  | .ok changed => setFiles changed
  | .error refusal =>
    fail (.staging (.notCopied source destination (.ofCopy source destination refusal)))

theorem sameWork_copyInto (source destination : Path) :
    SameWork running Failure.NamesCommand (copyInto source destination)
      (copyInto source destination) := by
  refine .bind (sameWork_refuseNull destination) fun _ => .bind .files fun current => ?_
  refine .bind (sameWork_absolute source) fun location => ?_
  split
  · exact .setFiles _
  · exact .throw trivial

theorem sameWork_replaceBy (source destination : Path) :
    SameWork running Failure.NamesCommand (replaceBy source destination)
      (replaceBy source destination) := by
  refine .bind .files fun current => .ite (fun _ => ?_) fun _ => sameWork_copyInto source destination
  split
  · exact .bind (.setFiles _) fun _ => sameWork_copyInto source destination
  · exact .bind (.throw trivial) fun _ => sameWork_copyInto source destination

theorem sameWork_selectLibraries (rules : LinkRules) (directory : Path) :
    SameWork running Failure.NamesCommand (selectLibraries rules directory)
      (selectLibraries rules directory) := by
  refine .bind (sameWork_entryNames directory) fun names => .bind (.filterM fun name => ?_) fun _ => .pure _
  exact .bind (sameWork_isFile _) fun found => .pure _

theorem sameWork_runtimeDirectories (runtime : Runtime) :
    SameWork running Failure.NamesCommand (runtimeDirectories runtime)
      (runtimeDirectories runtime) :=
  .bind .files fun _ => .bind .read fun _ => .pure _

section

variable (hdir : stager'.buildDir = stager.buildDir)
include hdir

theorem sameWork_clean : SameWork running Failure.NamesCommand stager.clean stager'.clean := by
  unfold clean
  rw [hdir]
  refine .bind (sameWork_isDirectory _) fun found => .ite (fun _ => ?_) fun _ => ?_
  · refine .bind (sameWork_report _) fun _ => .bind (sameWork_removeTree _ _) fun _ => .pure _
  · exact .bind (sameWork_report _) fun _ => .pure _

theorem sameWork_ensureBuildDir :
    SameWork running Failure.NamesCommand stager.ensureBuildDir stager'.ensureBuildDir := by
  unfold ensureBuildDir
  rw [hdir]
  refine .bind (sameWork_isDirectory _) fun found => .ite (fun _ => .pure _) fun _ => ?_
  refine .bind (sameWork_report _) fun _ => .bind (sameWork_refuseNull _) fun _ => ?_
  refine .bind .files fun current => .bind (.setFiles _) fun _ => ?_
  split
  · exact .pure _
  · exact .throw trivial

theorem sameWork_writeText (name content : String) :
    SameWork running Failure.NamesCommand (stager.writeText name content)
      (stager'.writeText name content) := by
  unfold writeText
  rw [hdir]
  refine .bind (sameWork_refuseNull _) fun _ => .bind .files fun current => ?_
  split
  · exact .bind (.setFiles _) fun _ => .pure _
  · exact .throw trivial

theorem sameWork_removeTemporary :
    SameWork running Failure.NamesCommand stager.removeTemporary stager'.removeTemporary := by
  unfold removeTemporary
  rw [hdir]
  refine .bind (sameWork_report _) fun _ => .bind (sameWork_entryNames _) fun names => ?_
  refine .bind (.forM fun name => ?_) fun _ => .bind (sameWork_reportNone _) fun _ => .pure _
  exact .bind (sameWork_report _) fun _ => sameWork_removeEntry _

theorem sameWork_copyFile (source : Path) :
    SameWork running Failure.NamesCommand (stager.copyFile source) (stager'.copyFile source) := by
  unfold copyFile
  rw [hdir]
  refine .bind (sameWork_isFile source) fun found => .ite (fun _ => ?_) fun _ => .throw trivial
  refine .bind (sameWork_absolute source) fun location => ?_
  refine .bind (.discard (sameWork_lookup _)) fun _ => .bind .files fun current => ?_
  refine .ite (fun _ => ?_) fun _ => .pure _
  exact .bind (sameWork_report _) fun _ => .bind (sameWork_replaceBy _ _) fun _ => .pure _

theorem sameWork_copyFiles (sources : List Path) (heading : String) :
    SameWork running Failure.NamesCommand (stager.copyFiles sources heading)
      (stager'.copyFiles sources heading) := by
  refine .bind (sameWork_report _) fun _ => ?_
  refine .bind (.filterM fun source => sameWork_copyFile hdir source) fun copied => ?_
  exact .bind (sameWork_reportNone _) fun _ => .pure _

theorem sameWork_copyRuntimeLibraries (rules : LinkRules) (runtime : Runtime) :
    SameWork running Failure.NamesCommand (stager.copyRuntimeLibraries rules runtime)
      (stager'.copyRuntimeLibraries rules runtime) := by
  refine .bind (sameWork_runtimeDirectories runtime) fun resolved => ?_
  refine .bind (.ofExcept fun _ => trivial) fun directories => ?_
  refine .bind (.mapM fun directory => ?_) fun libraries => sameWork_copyFiles hdir _ _
  refine .bind (sameWork_isDirectory directory) fun found => ?_
  exact .ite (fun _ => sameWork_selectLibraries rules directory) fun _ => .throw trivial

end

end Stager

/-! ## Commands -/

theorem VersionFault.namesCommand (fault : VersionFault) : fault.failure.NamesCommand := by
  cases fault <;> trivial

theorem sameWork_noteTreeEvent {running : Bool} (event : TreeEvent) :
    SameWork running Failure.NamesCommand (noteTreeEvent event) (noteTreeEvent event) := by
  unfold noteTreeEvent
  split
  · exact .note _ _ _ _
  · exact .note _ _ _ _
  · exact .pure _

theorem sameWork_passInterrupt {running : Bool} {α : Type} (process : Int) :
    SameWork running Failure.NamesCommand (passInterrupt process : Action α)
      (passInterrupt process) := by
  refine .bind (.discard (.bind .read fun host => ?_)) fun _ => ?_
  · refine .bind (.remember fun _ => rfl) fun _ => ?_
    refine .bind (.forM fun event => sameWork_noteTreeEvent event) fun _ => ?_
    exact .ofExcept fun _ => trivial
  · exact .bind (.remember fun _ => rfl) fun _ => .throw trivial

theorem sameWork_noteCommand {running : Bool} (command : List String) (directory : Path)
    (environment : Option Environment) :
    SameWork running Failure.NamesCommand (noteCommand command directory environment)
      (noteCommand command directory environment) := by
  refine .bind (.note _ _ _ _) fun _ => ?_
  split
  · exact .pure _
  · exact .note _ _ _ _

theorem sameWork_requireProgram {running : Bool} (value : Value) :
    SameWork running Failure.NamesCommand (requireProgram value) (requireProgram value) := by
  unfold requireProgram
  split
  · exact .pure _
  · exact .pure _
  · exact .throw trivial

theorem sameWork_runCommand (showOutput showOutput' : Bool) (task : Task) (description : String)
    {command : List String} (hcommand : command ≠ []) (directory : Path)
    (environment : Option Environment) :
    SameWork true Failure.NamesCommand
      (runCommand showOutput task description command directory environment)
      (runCommand showOutput' task description command directory environment) := by
  refine .bind (sameWork_noteCommand command directory environment) fun _ => ?_
  refine .bind (.remember fun h => by cases h) fun _ => .bind .read fun host => .bind .files fun current => ?_
  split
  · exact .throw hcommand
  · exact .bind (.setFiles _) fun _ => sameWork_passInterrupt _
  · exact .bind (.setFiles _) fun _ => .throw trivial
  · refine .bind (.setFiles _) fun _ => .ite (fun _ => .throw hcommand) fun _ => ?_
    exact .bind (.sayIf _ _ _ _) fun _ => .bind (.sayIf _ _ _ _) fun _ => .pure _

theorem ne_nil_of_compileCommand {base : BaseCommand} {runtime : Runtime}
    {program objectFile : String} {request : CompileRequest} {command : List String}
    (h : compileCommand base runtime program objectFile request = .ok command) : command ≠ [] := by
  unfold compileCommand at h
  cases hexpression : Julia.loadExpression program runtime with
  | error fault =>
      rw [hexpression] at h
      cases h
  | ok expression =>
      rw [hexpression] at h
      obtain rfl := Except.ok.inj h
      exact List.cons_ne_nil _ _

theorem ne_nil_of_primingCommand? {base : BaseCommand} {runtime : Runtime} {program : String}
    {request : CompileRequest} {command : List String}
    (h : primingCommand? base runtime program request = .ok (some command)) : command ≠ [] := by
  rintro rfl
  unfold primingCommand? at h
  cases hprimes : primesCache runtime request with
  | error fault =>
      rw [hprimes] at h
      cases h
  | ok primes =>
      rw [hprimes] at h
      cases primes with
      | false => cases h
      | true =>
          cases hexpression : Julia.loadExpression program runtime with
          | error fault =>
              rw [hexpression] at h
              cases h
          | ok expression =>
              rw [hexpression] at h
              cases h

theorem ne_nil_of_sharedCommand {compiler : String} {rules : LinkRules} {runtime : Runtime}
    {artifacts : Artifacts} {flags : List String} {initSource : Option String}
    {command : List String}
    (h : sharedCommand compiler rules runtime artifacts flags initSource = .ok command) :
    command ≠ [] := by
  unfold sharedCommand at h
  cases hobject : objectArguments rules runtime artifacts.objectFile with
  | error fault =>
      rw [hobject] at h
      cases h
  | ok object =>
      rw [hobject] at h
      obtain rfl := Except.ok.inj h
      exact List.cons_ne_nil _ _

namespace Workshop

/-- The text of the trace that a command was told to write. -/
def readTrace (workshop : Workshop) (command : List String) : Action String := do
  let path := workshop.buildDir.entry traceName
  if ← has path then
    match (← files).read path with
    | .ok file =>
      let text ← ofExcept (fun fault => .crash (.undecodable fault)) (Text.decode file.content)
      return String.ofList (Text.unifyLineEnds text.toList)
    | .error refusal => crash (.system (.at refusal path))
  else
    fail (.stage {
      task := .compilation
      description := "Snoop run did not produce " ++ traceName
      command })

theorem trace_eq (workshop : Workshop) (julia : String) (script : Path) :
    workshop.trace julia script = (do
      let what := "Snoop \"" ++ script.name ++ "\""
      workshop.perform .compilation what (traceCommand julia script.toString) none what
      workshop.readTrace (traceCommand julia script.toString)) := rfl

/-- Two workshops differ at most in what they report. -/
def Alike (workshop workshop' : Workshop) : Prop :=
  workshop'.stager.buildDir = workshop.stager.buildDir

variable {workshop workshop' : Workshop} (halike : workshop.Alike workshop')
include halike

theorem sameWork_perform (task : Task) (heading : String) {command : List String}
    (hcommand : command ≠ []) (environment : Option Environment) (description : String) :
    SameWork true Failure.NamesCommand
      (workshop.perform task heading command environment description)
      (workshop'.perform task heading command environment description) := by
  unfold perform buildDir
  rw [halike]
  refine .bind (.sayIf _ _ _ _) fun _ => ?_
  exact .discard (sameWork_runCommand _ _ _ _ hcommand _ _)

theorem sameWork_compileObject (base : BaseCommand) (runtime : Runtime) (program : Path)
    (objectFile : String) (request : CompileRequest) :
    SameWork true Failure.NamesCommand
      (workshop.compileObject base runtime program objectFile request)
      (workshop'.compileObject base runtime program objectFile request) := by
  unfold compileObject buildDir
  rw [halike]
  refine .ofExcept_bind VersionFault.namesCommand fun command hcommand => ?_
  refine .bind (.ofExcept VersionFault.namesCommand) fun archive => ?_
  exact .bind (sameWork_perform halike _ _ (ne_nil_of_compileCommand hcommand) _ _) fun _ => .pure _

theorem sameWork_compile (runtime : Runtime) (program : Path) (objectFile : String)
    (request : CompileRequest) :
    SameWork true Failure.NamesCommand (workshop.compile runtime program objectFile request)
      (workshop'.compile runtime program objectFile request) := by
  unfold compile
  split
  · next base hbase =>
      refine .ofExcept_bind VersionFault.namesCommand fun priming hpriming => ?_
      have hobject := sameWork_compileObject halike base runtime program objectFile request
      split
      · exact hobject
      · refine .bind (sameWork_perform halike _ _ ?_ _ _) fun _ => hobject
        exact ne_nil_of_primingCommand? hpriming
  · exact .throw trivial

theorem sameWork_readTrace {running : Bool} {command : List String} (hcommand : command ≠ []) :
    SameWork running Failure.NamesCommand (workshop.readTrace command)
      (workshop'.readTrace command) := by
  unfold readTrace buildDir
  rw [halike]
  refine .bind (sameWork_has _) fun found => .ite (fun _ => ?_) fun _ => .throw hcommand
  refine .bind .files fun current => ?_
  split
  · exact .bind (.ofExcept fun _ => trivial) fun _ => .pure _
  · exact .throw trivial

theorem sameWork_trace (julia : String) (script : Path) :
    SameWork true Failure.NamesCommand (workshop.trace julia script)
      (workshop'.trace julia script) := by
  have hcommand : traceCommand julia script.toString ≠ [] := List.cons_ne_nil _ _
  rw [trace_eq, trace_eq]
  refine .bind (sameWork_perform halike _ _ hcommand _ _) fun _ => ?_
  exact sameWork_readTrace halike hcommand

theorem sameWork_prepareMain (julia : String) (script program : Path) :
    SameWork true Failure.NamesCommand (workshop.prepareMain julia script program)
      (workshop'.prepareMain julia script program) := by
  unfold prepareMain buildDir
  rw [halike]
  refine .bind (sameWork_trace halike julia script) fun trace => .bind .read fun host => ?_
  exact Stager.sameWork_writeText halike _ _

end Workshop

namespace Linker

variable {workshop workshop' : Workshop} {linker : Linker} {artifacts : Artifacts}

/-- Looking for the product of an earlier stage fails in a way of its own if it is not there. -/
theorem sameWork_requireProduct (halike : workshop.Alike workshop') {running : Bool}
    (what kind product : String) :
    SameWork running (fun _ => True) (requireProduct workshop what kind product)
      (requireProduct workshop' what kind product) := by
  unfold requireProduct Workshop.buildDir
  rw [halike]
  refine .bind ((sameWork_has _).mono id fun _ _ => trivial) fun found => ?_
  exact .ite (fun _ => .pure _) fun _ => .throw trivial

theorem sameWork_linkObject (halike : workshop.Alike workshop') (flags : List String)
    (initSource : Option String) :
    SameWork true Failure.NamesCommand (linker.linkObject workshop artifacts flags initSource)
      (linker.linkObject workshop' artifacts flags initSource) := by
  unfold linkObject Workshop.buildDir
  rw [halike]
  refine .ofExcept_bind VersionFault.namesCommand fun command hcommand => ?_
  refine .bind (.bind .read fun host => .pure _) fun environment => ?_
  refine .bind (Workshop.sameWork_perform halike _ _ ?_ _ _) fun _ => .pure _
  exact ne_nil_of_sharedCommand hcommand

/-- The link of the shared library once its object file was found. -/
def linkFound (linker : Linker) (workshop : Workshop) (artifacts : Artifacts) (flags : List String) :
    Bool → Action Path
  | false => linker.linkObject workshop artifacts flags none
  | true => do
    discard (workshop.stager.writeText artifacts.initSource initSource)
    linker.linkObject workshop artifacts flags (some artifacts.initSource)

theorem linkShared_eq (linker : Linker) (workshop : Workshop) (artifacts : Artifacts)
    (flags : List String) (withInit : Bool) :
    linker.linkShared workshop artifacts flags withInit = (do
      requireProduct workshop ("Build shared library \"" ++ artifacts.sharedLibrary ++ "\"")
        "object file" artifacts.objectFile
      linker.linkFound workshop artifacts flags withInit) := by
  cases withInit <;> rfl

/-- The link of the executable once its shared library was found. -/
def linkDriver (linker : Linker) (workshop : Workshop) (artifacts : Artifacts) (driver : Path)
    (flags : List String) : Action Path := do
  let what := "Build executable \"" ++ artifacts.executable ++ "\""
  let command :=
    executableCommand linker.compiler linker.rules linker.runtime artifacts driver.toString flags
  workshop.perform .linking what command (← linker.environment) what
  return workshop.buildDir.child artifacts.executable

theorem linkExecutable_eq (linker : Linker) (workshop : Workshop) (artifacts : Artifacts)
    (driver : Path) (flags : List String) :
    linker.linkExecutable workshop artifacts driver flags = (do
      requireProduct workshop ("Build executable \"" ++ artifacts.executable ++ "\"")
        "shared library" artifacts.sharedLibrary
      linker.linkDriver workshop artifacts driver flags) := rfl

theorem sameWork_linkFound (halike : workshop.Alike workshop') (flags : List String)
    (withInit : Bool) :
    SameWork true Failure.NamesCommand (linker.linkFound workshop artifacts flags withInit)
      (linker.linkFound workshop' artifacts flags withInit) := by
  cases withInit with
  | false => exact sameWork_linkObject halike flags none
  | true =>
      refine .bind (.discard (Stager.sameWork_writeText halike _ _)) fun _ => ?_
      exact sameWork_linkObject halike flags _

theorem sameWork_linkDriver (halike : workshop.Alike workshop') (driver : Path)
    (flags : List String) :
    SameWork true Failure.NamesCommand (linker.linkDriver workshop artifacts driver flags)
      (linker.linkDriver workshop' artifacts driver flags) := by
  unfold linkDriver Workshop.buildDir
  rw [halike]
  refine .bind (.bind .read fun host => .pure _) fun environment => ?_
  exact .bind (Workshop.sameWork_perform halike _ _ (List.cons_ne_nil _ _) _ _) fun _ => .pure _

end Linker

/-! ## Stages -/

namespace Stage

/-- Whether a stage links. -/
def links : Stage → Bool
  | shared | executable => true
  | _ => false

theorem needsRuntime_of_links {which : Stage} (h : which.links = true) : which.needsRuntime = true := by
  cases which with
  | shared => rfl
  | executable => rfl
  | _ => cases h

/-- Whether a stage runs commands. -/
def runsCommands : Stage → Bool
  | object => true
  | which => which.links

end Stage

/-- Two configurations ask the same of a stage: they may differ in the stages that they select, in what
    they report, and in the user's files if the stage does not copy them. -/
structure ResolvedConfiguration.AlikeFor (which : Stage) (resolved resolved' : ResolvedConfiguration) :
    Prop where
  program : resolved'.program = resolved.program
  driverProgram : resolved'.driverProgram = resolved.driverProgram
  buildDir : resolved'.buildDir = resolved.buildDir
  outputName : resolved'.outputName = resolved.outputName
  snoopFile : resolved'.snoopFile = resolved.snoopFile
  sharedInit : resolved'.sharedInit = resolved.sharedInit
  copyFiles : which = .copyUserFiles → resolved'.copyFiles = resolved.copyFiles
  request : resolved'.request = resolved.request
  julia : resolved'.julia = resolved.julia
  cc : resolved'.cc = resolved.cc
  ccFlags : resolved'.ccFlags = resolved.ccFlags

theorem ResolvedConfiguration.AlikeFor.refl (which : Stage) (resolved : ResolvedConfiguration) :
    resolved.AlikeFor which resolved :=
  ⟨rfl, rfl, rfl, rfl, rfl, rfl, fun _ => rfl, rfl, rfl, rfl, rfl⟩

namespace Build

variable {which : Stage} {resolved resolved' : ResolvedConfiguration} {rules : LinkRules}
  {runtime : Option Runtime} {setup setup' : Setup}

/-- How a stage fails: only the stages that link miss the products of other stages. -/
def FailsFor (which : Stage) (failure : Failure) : Prop :=
  which.links = true ∨ failure.NamesCommand

theorem sameWork_enter (hbuildDir : resolved'.buildDir = resolved.buildDir) {running : Bool}
    (progress : Progress) :
    SameWork running Failure.NamesCommand (enter resolved progress) (enter resolved' progress) := by
  refine .ite (fun _ => .pure _) fun _ => ?_
  exact .bind (.discard (Stager.sameWork_ensureBuildDir hbuildDir)) fun _ => .pure _

theorem sameWork_compileProgram (h : setup.resolved.AlikeFor which resolved') :
    SameWork true Failure.NamesCommand (compileProgram setup)
      (compileProgram { setup with resolved := resolved' }) := by
  have halike : (workshop setup.resolved).Alike (workshop resolved') := h.buildDir
  unfold compileProgram
  simp only [h.snoopFile, h.program, h.julia, h.request]
  split
  · exact .bind (.pure _) fun program => Workshop.sameWork_compile halike _ _ _ _
  · refine .bind (sameWork_requireProgram _) fun julia => ?_
    refine .bind (Workshop.sameWork_prepareMain halike _ _ _) fun program => ?_
    exact Workshop.sameWork_compile halike _ _ _ _

theorem sameWork_linkFlags {running : Bool} (h : setup.resolved.AlikeFor which resolved') :
    SameWork running Failure.NamesCommand (linkFlags setup)
      (linkFlags { setup with resolved := resolved' }) := by
  unfold linkFlags
  simp only [h.request, h.ccFlags]
  refine .bind (Stager.sameWork_runtimeDirectories _) fun directories => ?_
  exact .bind (.ofExcept fun _ => trivial) fun base => .pure _

theorem sameWork_prepare {running : Bool} (h : setup.resolved.AlikeFor which resolved')
    (progress : Progress) :
    SameWork running Failure.NamesCommand (prepare setup progress)
      (prepare { setup with resolved := resolved' } progress) := by
  unfold prepare
  split
  · exact .pure _
  · simp only [h.cc]
    exact .bind (sameWork_linkFlags h) fun flags => .bind (sameWork_requireProgram _) fun _ => .pure _

/-- Stages for which two configurations ask the same do the same work. -/
theorem sameWork_carryOutInside (h : resolved.AlikeFor which resolved')
    (setup : Option Setup) (hsetup : ∀ s ∈ setup, s.resolved = resolved) (progress : Progress) :
    SameWork which.runsCommands (FailsFor which) (carryOutInside resolved setup progress which)
      (carryOutInside resolved' (setup.map fun s => { s with resolved := resolved' }) progress
        which) := by
  have halike : (workshop resolved).Alike (workshop resolved') := h.buildDir
  have hnames : ∀ failure : Failure, failure.NamesCommand → FailsFor which failure := fun _ => .inr
  cases which with
  | clean => exact .pure _
  | object =>
      cases setup with
      | none => exact .pure _
      | some setup =>
        obtain rfl := hsetup setup rfl
        exact .bind ((sameWork_compileProgram h).mono id hnames) fun path => .pure _
  | shared =>
      cases setup with
      | none => exact .pure _
      | some setup =>
        obtain rfl := hsetup setup rfl
        simp only [carryOutInside, Option.map_some, h.sharedInit]
        refine .bind ((sameWork_prepare h progress).mono id hnames) fun linking => ?_
        rw [Linker.linkShared_eq, Linker.linkShared_eq]
        refine .bind (.bind ?_ fun _ => ?_) fun path => .pure _
        · exact (Linker.sameWork_requireProduct halike _ _ _).mono id fun _ _ => .inl rfl
        · exact (Linker.sameWork_linkFound halike _ _).mono id hnames
  | executable =>
      cases setup with
      | none => exact .pure _
      | some setup =>
        obtain rfl := hsetup setup rfl
        simp only [carryOutInside, Option.map_some, h.driverProgram]
        refine .bind ((sameWork_prepare h progress).mono id hnames) fun linking => ?_
        rw [Linker.linkExecutable_eq, Linker.linkExecutable_eq]
        refine .bind (.bind ?_ fun _ => ?_) fun path => .pure _
        · exact (Linker.sameWork_requireProduct halike _ _ _).mono id fun _ _ => .inl rfl
        · exact (Linker.sameWork_linkDriver halike _ _).mono id hnames
  | removeTemp =>
      exact .bind ((Stager.sameWork_removeTemporary h.buildDir).mono id hnames) fun _ => .pure _
  | copyRuntimeLibs =>
      cases setup with
      | none => exact .pure _
      | some setup =>
        refine .bind (.mono ?_ id hnames) fun copied => .pure _
        exact Stager.sameWork_copyRuntimeLibraries h.buildDir _ _
  | copyUserFiles =>
      simp only [carryOutInside, h.copyFiles rfl]
      exact .bind ((Stager.sameWork_copyFiles h.buildDir _ _).mono id hnames) fun copied => .pure _

theorem sameWork_carryOut (h : resolved.AlikeFor which resolved')
    (setup : Option Setup) (hsetup : ∀ s ∈ setup, s.resolved = resolved) (progress : Progress) :
    SameWork which.runsCommands (FailsFor which) (carryOut resolved setup progress which)
      (carryOut resolved' (setup.map fun s => { s with resolved := resolved' }) progress which) := by
  have hnames : ∀ failure : Failure, failure.NamesCommand → FailsFor which failure := fun _ => .inr
  refine .ite (fun _ => ?_) fun _ => ?_
  · exact .bind (.discard ((Stager.sameWork_clean h.buildDir).mono id hnames)) fun _ => .pure _
  · refine .bind ((sameWork_enter h.buildDir progress).mono id hnames) fun entered => ?_
    exact sameWork_carryOutInside h setup hsetup entered

/-! ## Checks -/

theorem sameWork_requireInput {running : Bool} (path : Path) :
    SameWork running Failure.NamesCommand (requireInput path) (requireInput path) :=
  .bind (sameWork_isFile path) fun _ => .ite (fun _ => .pure _) fun _ => .throw trivial

theorem sameWork_announce {running : Bool} (text : String) :
    SameWork running Failure.NamesCommand (announce resolved text) (announce resolved' text) :=
  .sayIf _ _ _ _

theorem sameWork_checkInputs {running : Bool} (h : resolved.AlikeFor which resolved')
    (hstages : resolved'.stages = resolved.stages) :
    SameWork running Failure.NamesCommand (checkInputs resolved) (checkInputs resolved') := by
  have hscript : SameWork running Failure.NamesCommand (checkScript resolved)
      (checkScript resolved) := by
    unfold checkScript
    cases resolved.snoopFile with
    | none => exact .pure _
    | some script => exact .ite (fun _ => sameWork_requireInput _) fun _ => .pure _
  unfold checkInputs
  rw [h.program, h.driverProgram, h.snoopFile, hstages]
  refine .bind (sameWork_requireInput _) fun _ => .bind (sameWork_announce _) fun _ => ?_
  refine .ite (fun _ => ?_) fun _ => hscript
  exact .bind (sameWork_requireInput _) fun _ => .bind (sameWork_announce _) fun _ => hscript

theorem sameWork_checkCommand {running : Bool} (command : List String)
    (environment : Option Environment) :
    SameWork running Failure.NamesCommand (checkCommand command environment)
      (checkCommand command environment) := by
  refine .bind (.remember fun _ => rfl) fun _ => .bind .read fun host => .bind .files fun current => ?_
  split
  · exact .bind (.note _ _ _ _) fun _ => .pure _
  · exact .throw trivial
  · exact .pure _

theorem sameWork_checkCompiler {running : Bool} (compiler : Value)
    (environment : Option Environment) :
    SameWork running Failure.NamesCommand (checkCompiler compiler environment)
      (checkCompiler compiler environment) := by
  refine .bind (sameWork_requireProgram compiler) fun name => ?_
  refine .bind (sameWork_checkCommand _ _) fun runs => ?_
  exact .ite (fun _ => .pure _) fun _ => .throw trivial

theorem Runtime.ReportFault.namesCommand (fault : Runtime.ReportFault) :
    fault.failure.NamesCommand := by
  cases fault <;> trivial

theorem sameWork_askRuntime {running : Bool} (julia : Value) :
    SameWork running Failure.NamesCommand (askRuntime julia) (askRuntime julia) := by
  refine .bind (.note _ _ _ _) fun _ => .bind (sameWork_requireProgram julia) fun name => ?_
  refine .bind (.remember fun _ => rfl) fun _ => .bind .read fun host => .bind .files fun current => ?_
  split
  · exact .throw trivial
  · exact .throw trivial
  · refine .ite (fun _ => .throw trivial) fun _ => .ofExcept Runtime.ReportFault.namesCommand

theorem sameWork_checkTools {running : Bool} (h : resolved.AlikeFor which resolved')
    (hstages : resolved'.stages = resolved.stages) (rules : LinkRules) :
    SameWork running Failure.NamesCommand (checkTools resolved rules) (checkTools resolved' rules) := by
  have hruntime : SameWork running Failure.NamesCommand (checkRuntime resolved)
      (checkRuntime resolved) := by
    refine .ite (fun _ => .bind (sameWork_askRuntime _) fun runtime => ?_) fun _ => .pure _
    refine .ite (fun _ => ?_) fun _ => .pure _
    refine .bind (.ite (fun _ => .pure _) fun _ => .throw trivial) fun _ => .pure _
  unfold checkTools
  rw [hstages, h.julia, h.cc]
  refine .ite (fun _ => .bind .read fun host => ?_) fun _ => hruntime
  exact .bind (sameWork_checkCompiler _ _) fun _ => hruntime

end Build
end JuliaNative
