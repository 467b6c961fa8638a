import JuliaNative.Proofs.Build.SameStages
import JuliaNative.Proofs.Configuration.Expansion
import JuliaNative.Proofs.Printing

set_option autoImplicit false

/-! # What a build prints

Reports of the stages are asked for by verbosity alone, and announcements unless the build is quiet; what
the commands print is shown only where verbosity asks for it. So a build that is quiet and not verbose
prints nothing at all, whatever its stages do and whatever its commands print
(`Configuration.printsUnless_build`). It is shown along the text of each function. -/

namespace JuliaNative

open JuliaNative.Action

variable {hushed : Prop}

/-! ## Staging -/

namespace Stager

theorem printsUnless_removeTree (path : Path) (issue : SystemError → StagingIssue) :
    PrintsUnless hushed (removeTree path issue) := by
  refine .bind (.refuseNull path) fun _ => .bind .files fun current => .bind (.setFiles _) fun _ => ?_
  split
  · exact .pure _
  · exact .throw _

theorem printsUnless_removeEntry (path : Path) : PrintsUnless hushed (removeEntry path) := by
  refine .bind .files fun current => .ite (printsUnless_removeTree _ _) ?_
  split
  · exact .throw _
  · split
    · exact .setFiles _
    · exact .throw _

theorem printsUnless_entryNames (directory : Path) : PrintsUnless hushed (entryNames directory) := by
  refine .bind (.refuseNull directory) fun _ => .bind .files fun current => ?_
  refine .bind (.absolute directory) fun location => ?_
  split
  · exact .pure _
  · exact .throw _

theorem printsUnless_copyInto (source destination : Path) :
    PrintsUnless hushed (copyInto source destination) := by
  refine .bind (.refuseNull destination) fun _ => .bind .files fun current => ?_
  refine .bind (.absolute source) fun location => ?_
  split
  · exact .setFiles _
  · exact .throw _

theorem printsUnless_replaceBy (source destination : Path) :
    PrintsUnless hushed (replaceBy source destination) := by
  have hcopy : PrintsUnless hushed (copyInto source destination) := printsUnless_copyInto _ _
  refine .bind .files fun current => .ite ?_ hcopy
  split
  · exact .bind (.setFiles _) fun _ => hcopy
  · exact .bind (.throw _) fun _ => hcopy

theorem printsUnless_selectLibraries (rules : LinkRules) (directory : Path) :
    PrintsUnless hushed (selectLibraries rules directory) := by
  refine .bind (printsUnless_entryNames directory) fun names => ?_
  refine .bind (.filterM fun name => ?_) fun _ => .pure _
  exact .bind (.isFile _) fun found => .pure _

theorem printsUnless_runtimeDirectories (runtime : Runtime) :
    PrintsUnless hushed (runtimeDirectories runtime) :=
  .bind .files fun _ => .bind .read fun _ => .pure _

theorem printsUnless_writeText (stager : Stager) (name content : String) :
    PrintsUnless hushed (stager.writeText name content) := by
  refine .bind (.refuseNull _) fun _ => .bind .files fun current => ?_
  split
  · exact .bind (.setFiles _) fun _ => .pure _
  · exact .throw _

section

variable {stager : Stager} (hverbose : hushed → stager.verbose = false)
include hverbose

theorem printsUnless_report (text : String) : PrintsUnless hushed (stager.report text) :=
  .sayIf hverbose text

theorem printsUnless_reportNone (done : List String) :
    PrintsUnless hushed (stager.reportNone done) :=
  .ite (printsUnless_report hverbose _) (.pure _)

theorem printsUnless_clean : PrintsUnless hushed stager.clean := by
  refine .bind (.isDirectory _) fun found => .ite ?_ ?_
  · refine .bind (printsUnless_report hverbose _) fun _ => ?_
    exact .bind (printsUnless_removeTree _ _) fun _ => .pure _
  · exact .bind (printsUnless_report hverbose _) fun _ => .pure _

theorem printsUnless_ensureBuildDir : PrintsUnless hushed stager.ensureBuildDir := by
  refine .bind (.isDirectory _) fun found => .ite (.pure _) ?_
  refine .bind (printsUnless_report hverbose _) fun _ => .bind (.refuseNull _) fun _ => ?_
  refine .bind .files fun current => .bind (.setFiles _) fun _ => ?_
  split
  · exact .pure _
  · exact .throw _

theorem printsUnless_removeTemporary : PrintsUnless hushed stager.removeTemporary := by
  refine .bind (printsUnless_report hverbose _) fun _ => ?_
  refine .bind (printsUnless_entryNames _) fun names => .bind (.forM fun name => ?_) fun _ => ?_
  · exact .bind (printsUnless_report hverbose _) fun _ => printsUnless_removeEntry _
  · exact .bind (printsUnless_reportNone hverbose _) fun _ => .pure _

theorem printsUnless_copyFile (source : Path) : PrintsUnless hushed (stager.copyFile source) := by
  refine .bind (.isFile source) fun found => .ite ?_ (.throw _)
  refine .bind (.absolute source) fun location => .bind (.discard (.lookup _)) fun _ => ?_
  refine .bind .files fun current => .ite ?_ (.pure _)
  refine .bind (printsUnless_report hverbose _) fun _ => ?_
  exact .bind (printsUnless_replaceBy _ _) fun _ => .pure _

theorem printsUnless_copyFiles (sources : List Path) (heading : String) :
    PrintsUnless hushed (stager.copyFiles sources heading) := by
  refine .bind (printsUnless_report hverbose _) fun _ => ?_
  refine .bind (.filterM fun source => printsUnless_copyFile hverbose source) fun copied => ?_
  exact .bind (printsUnless_reportNone hverbose _) fun _ => .pure _

theorem printsUnless_copyRuntimeLibraries (rules : LinkRules) (runtime : Runtime) :
    PrintsUnless hushed (stager.copyRuntimeLibraries rules runtime) := by
  refine .bind (printsUnless_runtimeDirectories runtime) fun resolved => ?_
  refine .bind (.ofExcept _ _) fun directories => ?_
  refine .bind (.mapM fun directory => ?_) fun libraries => printsUnless_copyFiles hverbose _ _
  refine .bind (.isDirectory directory) fun found => ?_
  exact .ite (printsUnless_selectLibraries rules directory) (.throw _)

end

end Stager

/-! ## Commands -/

theorem printsUnless_noteTreeEvent (event : TreeEvent) :
    PrintsUnless hushed (noteTreeEvent event) := by
  unfold noteTreeEvent
  split
  · exact .note _ _
  · exact .note _ _
  · exact .pure _

theorem printsUnless_passInterrupt {α : Type} (process : Int) :
    PrintsUnless hushed (passInterrupt process : Action α) := by
  refine .bind (.discard (.bind .read fun host => .bind (.remember _) fun _ => ?_)) fun _ => ?_
  · exact .bind (.forM printsUnless_noteTreeEvent) fun _ => .ofExcept _ _
  · exact .bind (.remember _) fun _ => .throw _

theorem printsUnless_noteCommand (command : List String) (directory : Path)
    (environment : Option Environment) :
    PrintsUnless hushed (noteCommand command directory environment) := by
  refine .bind (.note _ _) fun _ => ?_
  split
  · exact .pure _
  · exact .note _ _

theorem printsUnless_requireProgram (value : Value) :
    PrintsUnless hushed (requireProgram value) := by
  unfold requireProgram
  split
  · exact .pure _
  · exact .pure _
  · exact .throw _

/-- Whatever a command prints is shown only if that is asked for. -/
theorem printsUnless_runCommand {showOutput : Bool} (hshow : hushed → showOutput = false)
    (task : Task) (description : String) (command : List String) (directory : Path)
    (environment : Option Environment) :
    PrintsUnless hushed
      (runCommand showOutput task description command directory environment) := by
  have hanswer : ∀ output : String, hushed → (showOutput && output ≠ "") = false :=
    fun output hhushed => by rw [hshow hhushed, Bool.false_and]
  refine .bind (printsUnless_noteCommand command directory environment) fun _ => ?_
  refine .bind (.remember _) fun _ => .bind .read fun host => .bind .files fun current => ?_
  split
  · exact .throw _
  · exact .bind (.setFiles _) fun _ => printsUnless_passInterrupt _
  · exact .bind (.setFiles _) fun _ => .throw _
  · refine .bind (.setFiles _) fun _ => .ite (.throw _) ?_
    refine .bind (.sayIf (hanswer _) _) fun _ => ?_
    exact .bind (.sayIf (hanswer _) _) fun _ => .pure _

theorem printsUnless_checkCommand (command : List String) (environment : Option Environment) :
    PrintsUnless hushed (checkCommand command environment) := by
  refine .bind (.remember _) fun _ => .bind .read fun host => .bind .files fun current => ?_
  split
  · exact .bind (.note _ _) fun _ => .pure _
  · exact .throw _
  · exact .pure _

theorem printsUnless_checkCompiler (compiler : Value) (environment : Option Environment) :
    PrintsUnless hushed (checkCompiler compiler environment) :=
  .bind (printsUnless_requireProgram compiler) fun _ =>
    .bind (printsUnless_checkCommand _ _) fun _ => .ite (.pure _) (.throw _)

theorem printsUnless_askRuntime (julia : Value) : PrintsUnless hushed (askRuntime julia) := by
  refine .bind (.note _ _) fun _ => .bind (printsUnless_requireProgram julia) fun name => ?_
  refine .bind (.remember _) fun _ => .bind .read fun host => .bind .files fun current => ?_
  split
  · exact .throw _
  · exact .throw _
  · exact .ite (.throw _) (.ofExcept _ _)

/-! ## Stages that run commands -/

/-- A workshop reports nothing and shows nothing of what its commands print. -/
structure Workshop.Silent (workshop : Workshop) : Prop where
  showOutput : workshop.showOutput = false
  verbose : workshop.verbose = false

namespace Workshop

variable {workshop : Workshop} (hsilent : hushed → workshop.Silent)
include hsilent

theorem printsUnless_perform (task : Task) (heading : String) (command : List String)
    (environment : Option Environment) (description : String) :
    PrintsUnless hushed (workshop.perform task heading command environment description) := by
  refine .bind (.sayIf (fun hhushed => (hsilent hhushed).verbose) _) fun _ => .discard ?_
  exact printsUnless_runCommand (fun hhushed => (hsilent hhushed).showOutput) _ _ _ _ _

theorem printsUnless_compileObject (base : BaseCommand) (runtime : Runtime) (program : Path)
    (objectFile : String) (request : CompileRequest) :
    PrintsUnless hushed (workshop.compileObject base runtime program objectFile request) := by
  refine .bind (.ofExcept _ _) fun command => .bind (.ofExcept _ _) fun archive => ?_
  exact .bind (printsUnless_perform hsilent _ _ _ _ _) fun _ => .pure _

theorem printsUnless_compile (runtime : Runtime) (program : Path) (objectFile : String)
    (request : CompileRequest) :
    PrintsUnless hushed (workshop.compile runtime program objectFile request) := by
  unfold compile
  split
  · next base _ =>
      have hobject := printsUnless_compileObject hsilent base runtime program objectFile request
      refine .bind (.ofExcept _ _) fun priming => ?_
      split
      · exact hobject
      · exact .bind (printsUnless_perform hsilent _ _ _ _ _) fun _ => hobject
  · exact .throw _

theorem printsUnless_prepareMain (julia : String) (script program : Path) :
    PrintsUnless hushed (workshop.prepareMain julia script program) := by
  have hread : ∀ command, PrintsUnless hushed (workshop.readTrace command) := by
    intro command
    refine .bind (.has _) fun found => .ite (.bind .files fun current => ?_) (.throw _)
    split
    · exact .bind (.ofExcept _ _) fun _ => .pure _
    · exact .throw _
  have htrace : PrintsUnless hushed (workshop.trace julia script) := by
    rw [trace_eq]
    exact .bind (printsUnless_perform hsilent _ _ _ _ _) fun _ => hread _
  exact .bind htrace fun trace => .bind .read fun host => Stager.printsUnless_writeText _ _ _

end Workshop

namespace Linker

variable {workshop : Workshop} (linker : Linker) (artifacts : Artifacts)

theorem printsUnless_requireProduct (what kind product : String) :
    PrintsUnless hushed (requireProduct workshop what kind product) :=
  .bind (.has _) fun _ => .ite (.pure _) (.throw _)

theorem printsUnless_environment : PrintsUnless hushed linker.environment :=
  .bind .read fun _ => .pure _

section

variable (hsilent : hushed → workshop.Silent)
include hsilent

theorem printsUnless_linkShared (flags : List String) (withInit : Bool) :
    PrintsUnless hushed (linker.linkShared workshop artifacts flags withInit) := by
  have hobject : ∀ initSource,
      PrintsUnless hushed (linker.linkObject workshop artifacts flags initSource) := by
    intro initSource
    refine .bind (.ofExcept _ _) fun command => .bind (linker.printsUnless_environment) fun _ => ?_
    exact .bind (Workshop.printsUnless_perform hsilent _ _ _ _ _) fun _ => .pure _
  rw [linkShared_eq]
  refine .bind (printsUnless_requireProduct _ _ _) fun _ => ?_
  cases withInit with
  | false => exact hobject none
  | true =>
      exact .bind (.discard (Stager.printsUnless_writeText _ _ _)) fun _ => hobject _

theorem printsUnless_linkExecutable (driver : Path) (flags : List String) :
    PrintsUnless hushed (linker.linkExecutable workshop artifacts driver flags) := by
  refine .bind (printsUnless_requireProduct _ _ _) fun _ => ?_
  refine .bind linker.printsUnless_environment fun environment => ?_
  exact .bind (Workshop.printsUnless_perform hsilent _ _ _ _ _) fun _ => .pure _

end

end Linker

/-! ## The build -/

/-- A build is told to print nothing. -/
structure ResolvedConfiguration.Silent (resolved : ResolvedConfiguration) : Prop where
  quiet : resolved.quiet = true
  verbose : resolved.verbose = false

namespace Build

theorem silent_workshop {resolved : ResolvedConfiguration} (h : resolved.Silent) :
    (workshop resolved).Silent :=
  ⟨h.verbose, h.verbose⟩

/-- A stage prints as its work does. -/
theorem printsUnless_stage {resolved : ResolvedConfiguration} {which : Stage}
    {run : BuildResult → Action BuildResult} (h : ∀ result, PrintsUnless hushed (run result))
    (result : BuildResult) : PrintsUnless hushed (stage resolved which run result) :=
  .ite (.bind (h result) fun _ => .pure _) (.pure _)

theorem printsUnless_requireInput (path : Path) : PrintsUnless hushed (requireInput path) :=
  .bind (.isFile path) fun _ => .ite (.pure _) (.throw _)

theorem printsUnless_checkTools (resolved : ResolvedConfiguration) (rules : LinkRules) :
    PrintsUnless hushed (checkTools resolved rules) := by
  have hruntime : PrintsUnless hushed (checkRuntime resolved) := by
    refine .ite (.bind (printsUnless_askRuntime _) fun runtime => ?_) (.pure _)
    exact .ite (.bind (.ite (.pure _) (.throw _)) fun _ => .pure _) (.pure _)
  refine .ite (.bind .read fun host => ?_) hruntime
  exact .bind (printsUnless_checkCompiler _ _) fun _ => hruntime

section

variable {resolved : ResolvedConfiguration} (hsilent : hushed → resolved.Silent)
include hsilent

theorem printsUnless_announce (text : String) : PrintsUnless hushed (announce resolved text) :=
  .sayIf (fun hhushed => by rw [(hsilent hhushed).quiet]; rfl) text

theorem printsUnless_checkInputs : PrintsUnless hushed (checkInputs resolved) := by
  have hscript : PrintsUnless hushed (checkScript resolved) := by
    unfold checkScript
    cases resolved.snoopFile with
    | none => exact .pure _
    | some script => exact .ite (printsUnless_requireInput _) (.pure _)
  refine .bind (printsUnless_requireInput _) fun _ => ?_
  refine .bind (printsUnless_announce hsilent _) fun _ => .ite ?_ hscript
  refine .bind (printsUnless_requireInput _) fun _ => ?_
  exact .bind (printsUnless_announce hsilent _) fun _ => hscript

theorem printsUnless_conclude (message : String) (start : Seconds) (result : BuildResult) :
    PrintsUnless hushed (conclude resolved message start result) :=
  .bind (printsUnless_announce hsilent _) fun _ => .bind .now fun _ => .pure _

theorem printsUnless_finish (rules : LinkRules) (runtime : Option Runtime) (result : BuildResult) :
    PrintsUnless hushed (finish resolved rules runtime result) := by
  have hverbose : hushed → (workshop resolved).stager.verbose = false :=
    fun hhushed => (hsilent hhushed).verbose
  refine .bind (printsUnless_stage (fun result => ?_) _) fun _ =>
    .bind (printsUnless_stage (fun result => ?_) _) fun _ =>
      printsUnless_stage (fun result => ?_) _
  · exact .bind (Stager.printsUnless_removeTemporary hverbose) fun _ => .pure _
  · cases runtime with
    | none => exact .pure _
    | some runtime =>
        exact .bind (Stager.printsUnless_copyRuntimeLibraries hverbose _ _) fun _ => .pure _
  · exact .bind (Stager.printsUnless_copyFiles hverbose _ _) fun _ => .pure _

end

section

variable {setup : Setup} (hsilent : hushed → setup.resolved.Silent)
include hsilent

theorem printsUnless_compileProgram : PrintsUnless hushed (compileProgram setup) := by
  have hworkshop : hushed → (workshop setup.resolved).Silent :=
    fun hhushed => silent_workshop (hsilent hhushed)
  have hcompile : ∀ program, PrintsUnless hushed ((workshop setup.resolved).compile setup.runtime
      program setup.artifacts.objectFile setup.resolved.request) :=
    fun program => Workshop.printsUnless_compile hworkshop _ _ _ _
  unfold compileProgram
  dsimp only
  split
  · exact .bind (.pure _) hcompile
  · refine .bind (printsUnless_requireProgram _) fun julia => ?_
    exact .bind (Workshop.printsUnless_prepareMain hworkshop _ _ _) hcompile

theorem printsUnless_link (result : BuildResult) : PrintsUnless hushed (link setup result) := by
  have hworkshop : hushed → (workshop setup.resolved).Silent :=
    fun hhushed => silent_workshop (hsilent hhushed)
  have hflags : PrintsUnless hushed (linkFlags setup) :=
    .bind (Stager.printsUnless_runtimeDirectories _) fun _ => .bind (.ofExcept _ _) fun _ => .pure _
  refine .ite (.bind hflags fun flags => .bind (printsUnless_requireProgram _) fun compiler => ?_)
    (.pure _)
  refine .bind (printsUnless_stage (fun result => ?_) _) fun _ =>
    printsUnless_stage (fun result => ?_) _
  · exact .bind (Linker.printsUnless_linkShared _ _ hworkshop _ _) fun _ => .pure _
  · exact .bind (Linker.printsUnless_linkExecutable _ _ hworkshop _ _) fun _ => .pure _

end

variable {resolved : ResolvedConfiguration} (hsilent : hushed → resolved.Silent)
include hsilent

theorem printsUnless_produce (rules : LinkRules) (runtime : Option Runtime) (result : BuildResult) :
    PrintsUnless hushed (produce resolved rules runtime result) := by
  cases runtime with
  | none => exact .pure _
  | some runtime =>
      refine .bind (.ofExcept _ _) fun artifacts => ?_
      refine .bind (printsUnless_stage (fun result => ?_) _) fun _ => printsUnless_link hsilent _
      exact .bind (printsUnless_compileProgram hsilent) fun _ => .pure _

theorem printsUnless_runStages (start : Seconds) :
    PrintsUnless hushed (runStages resolved start) := by
  have hverbose : hushed → (workshop resolved).stager.verbose = false :=
    fun hhushed => (hsilent hhushed).verbose
  refine .bind .read fun host => .bind (printsUnless_checkTools _ _) fun runtime => ?_
  refine .bind (printsUnless_stage (fun result => ?_) _) fun _ => .ite ?_ ?_
  · exact .bind (.discard (Stager.printsUnless_clean hverbose)) fun _ => .pure _
  · exact printsUnless_conclude hsilent _ _ _
  · refine .bind (.discard (Stager.printsUnless_ensureBuildDir hverbose)) fun _ => ?_
    refine .bind (printsUnless_produce hsilent _ _ _) fun _ => ?_
    exact .bind (printsUnless_finish hsilent _ _ _) fun _ => printsUnless_conclude hsilent _ _ _

theorem printsUnless_runResolved (start : Seconds) :
    PrintsUnless hushed (runResolved resolved start) := by
  refine .bind (printsUnless_checkInputs hsilent) fun _ => ?_
  refine .bind (printsUnless_announce hsilent _) fun _ => .ite ?_ ?_
  · exact .bind (printsUnless_announce hsilent _) fun _ => .pure _
  · exact printsUnless_runStages hsilent start

end Build

namespace Configuration

/-- A build is told to print nothing: it is to be quiet, and not to be verbose, which overrides that. -/
structure Silent (configuration : Configuration) : Prop where
  quiet : configuration.quiet = true
  verbose : configuration.verbose = false

variable {configuration : Configuration}

theorem silent_iff :
    configuration.Silent ↔ configuration.quiet = true ∧ configuration.verbose = false :=
  ⟨fun h => ⟨h.quiet, h.verbose⟩, fun h => ⟨h.1, h.2⟩⟩

theorem Silent.resolve (h : configuration.Silent) (workingDirectory bundledDriver : Path) :
    (configuration.resolve workingDirectory bundledDriver).Silent := by
  have hverbose : configuration.expand.verbose = false := by
    rw [expand_eq]
    exact h.verbose
  have hquiet : configuration.expand.quiet = true := by
    rw [expand_eq]
    exact h.quiet
  exact ⟨by rw [Configuration.resolve, hquiet, hverbose]; rfl, hverbose⟩

/-- A build only adds to what was printed, and prints nothing at all if it is told so, however it ends. -/
theorem printsUnless_build (configuration : Configuration) :
    PrintsUnless configuration.Silent configuration.build :=
  .bind .now fun start => .bind .read fun _ =>
    Build.printsUnless_runResolved (fun hsilent => hsilent.resolve _ _) start

end Configuration
end JuliaNative
