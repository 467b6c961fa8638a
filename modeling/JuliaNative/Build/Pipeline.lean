import JuliaNative.Build.Link
import JuliaNative.Configuration.Resolved
import JuliaNative.Stage

set_option autoImplicit false

/-! # The build

A build resolves its configuration, checks every input and every tool, and then runs the selected
stages in their fixed order. Nothing is written before the checks are done, so that a wrong
configuration or a missing tool leaves no half-made directory behind. The first stage that fails
ends the build, and what earlier stages produced stays. -/

namespace JuliaNative

open JuliaNative.Action

/-- What a completed build reports. -/
structure BuildResult where
  buildDir : Path
  stagesRun : List Stage := []
  objectFile : Option Path := none
  sharedLibrary : Option Path := none
  executable : Option Path := none
  removedFiles : List String := []
  copiedFiles : List String := []
  /-- How long the build took. -/
  duration : Seconds := .whole 0
  message : String := ""

namespace Build

/-! ## Checks -/

/-- Reports something unless the build is to be quiet. -/
def announce (resolved : ResolvedConfiguration) (text : String) : Action Unit :=
  sayIf (!resolved.quiet) text

/-- Fails if an input file is missing. -/
def requireInput (path : Path) : Action Unit := do
  if ← isFile path then pure () else fail (.missingInput path "file")

/-- Checks that every input file of the selected stages is there. -/
def checkInputs (resolved : ResolvedConfiguration) : Action Unit := do
  requireInput resolved.program
  announce resolved ("Julia program file:\n  \"" ++ resolved.program.toString ++ "\"")
  if resolved.stages.executable then
    requireInput resolved.driverProgram
    announce resolved ("C program file:\n  \"" ++ resolved.driverProgram.toString ++ "\"")
  match resolved.snoopFile with
  | none => pure ()
  | some script => if resolved.stages.object then requireInput script

/-- Fails if julia's own command does not have the shape that compiling needs. -/
def requireCommand (runtime : Runtime) : Action Unit :=
  if (BaseCommand.ofList? runtime.command).isSome then pure ()
  else fail (.incompatibleRuntime runtime.command)

/-- Checks the tools that the selected stages need; the result is the runtime, if it is needed. -/
def checkTools (resolved : ResolvedConfiguration) (rules : LinkRules) : Action (Option Runtime) := do
  if resolved.stages.needsCompiler then
    checkCompiler resolved.cc (rules.compilerEnvironment (← read).environment)
  if resolved.stages.needsRuntime then
    let runtime ← askRuntime resolved.julia
    if resolved.stages.object then requireCommand runtime
    return some runtime
  else return none

/-! ## Stages -/

/-- What the stages of a build work with. -/
structure Setup where
  resolved : ResolvedConfiguration
  rules : LinkRules
  runtime : Runtime
  artifacts : Artifacts

/-- Where the stages of a build work. -/
def workshop (resolved : ResolvedConfiguration) : Workshop where
  stager := ⟨resolved.buildDir, resolved.verbose⟩
  showOutput := resolved.verbose
  verbose := resolved.verbose

/-- Runs a stage if it is selected, and adds it to the stages that were run. -/
def stage (resolved : ResolvedConfiguration) (which : Stage)
    (run : BuildResult → Action BuildResult) (result : BuildResult) : Action BuildResult := do
  if resolved.stages.selects which then
    let result ← run result
    return { result with stagesRun := result.stagesRun ++ [which] }
  else return result

/-- Compiles the program, or the main script that wraps it if a script is to be traced. -/
def compileProgram (setup : Setup) : Action Path := do
  let resolved := setup.resolved
  let program ← match resolved.snoopFile with
    | none => pure resolved.program
    | some script => do
      let julia ← requireProgram resolved.julia
      (workshop resolved).prepareMain julia script resolved.program
  (workshop resolved).compile setup.runtime program setup.artifacts.objectFile resolved.request

/-- The flags for both links. -/
def linkFlags (setup : Setup) : Action (List String) := do
  let directories ← Stager.runtimeDirectories setup.runtime
  let base ← ofExcept .crash (setup.rules.baseFlags setup.runtime directories)
  return compilerFlags base (wordSizeFlag setup.runtime.wordSize setup.runtime.arch)
    setup.resolved.request.optimize setup.resolved.request.debug setup.resolved.ccFlags

/-- The stage that compiles the program. -/
def objectStage (setup : Setup) : BuildResult → Action BuildResult :=
  stage setup.resolved .object fun result => do
    return { result with objectFile := some (← compileProgram setup) }

/-- The stage that links the shared library. -/
def sharedStage (setup : Setup) (linker : Linker) (flags : List String) :
    BuildResult → Action BuildResult :=
  stage setup.resolved .shared fun result => do
    let path ← linker.linkShared (workshop setup.resolved) setup.artifacts flags
      setup.resolved.sharedInit
    return { result with sharedLibrary := some path }

/-- The stage that links the executable. -/
def executableStage (setup : Setup) (linker : Linker) (flags : List String) :
    BuildResult → Action BuildResult :=
  stage setup.resolved .executable fun result => do
    let path ← linker.linkExecutable (workshop setup.resolved) setup.artifacts
      setup.resolved.driverProgram flags
    return { result with executable := some path }

/-- Runs the selected links. -/
def link (setup : Setup) (result : BuildResult) : Action BuildResult := do
  if setup.resolved.stages.needsCompiler then
    let flags ← linkFlags setup
    let compiler ← requireProgram setup.resolved.cc
    let linker : Linker := ⟨compiler, setup.rules, setup.runtime⟩
    let result ← sharedStage setup linker flags result
    executableStage setup linker flags result
  else return result

/-- Runs the selected stages that need the runtime. -/
def produce (resolved : ResolvedConfiguration) (rules : LinkRules) (runtime : Option Runtime)
    (result : BuildResult) : Action BuildResult := do
  match runtime with
  | none => return result
  | some runtime =>
    let artifacts ← ofExcept VersionFault.failure
      (Artifacts.named resolved.outputName runtime rules)
    let setup : Setup := { resolved, rules, runtime, artifacts }
    let result ← objectStage setup result
    link setup result

/-- The stage that removes what is only needed while building. -/
def removeTempStage (resolved : ResolvedConfiguration) : BuildResult → Action BuildResult :=
  stage resolved .removeTemp fun result => do
    return { result with removedFiles := ← (workshop resolved).stager.removeTemporary }

/-- The stage that copies the libraries of the runtime. -/
def copyRuntimeLibsStage (resolved : ResolvedConfiguration) (rules : LinkRules)
    (runtime : Option Runtime) : BuildResult → Action BuildResult :=
  stage resolved .copyRuntimeLibs fun result => do
    match runtime with
    | none => return result
    | some runtime =>
      let copied ← (workshop resolved).stager.copyRuntimeLibraries rules runtime
      return { result with copiedFiles := result.copiedFiles ++ copied }

/-- The stage that copies the user's files. -/
def copyUserFilesStage (resolved : ResolvedConfiguration) : BuildResult → Action BuildResult :=
  stage resolved .copyUserFiles fun result => do
    let copied ← (workshop resolved).stager.copyFiles resolved.copyFiles
      "Copy user-specified files to build directory:"
    return { result with copiedFiles := result.copiedFiles ++ copied }

/-- Runs the selected stages that tidy up the build directory and fill it. -/
def finish (resolved : ResolvedConfiguration) (rules : LinkRules) (runtime : Option Runtime)
    (result : BuildResult) : Action BuildResult := do
  let result ← removeTempStage resolved result
  let result ← copyRuntimeLibsStage resolved rules runtime result
  copyUserFilesStage resolved result

/-- Ends a build with a message and the time that it took. -/
def conclude (resolved : ResolvedConfiguration) (message : String) (start : Seconds)
    (result : BuildResult) : Action BuildResult := do
  announce resolved message
  let stop ← now
  return { result with message, duration := stop.since start }

/-- The stage that removes the build directory. -/
def cleanStage (resolved : ResolvedConfiguration) : BuildResult → Action BuildResult :=
  stage resolved .clean fun result => do
    discard (workshop resolved).stager.clean
    return result

/-- Runs all selected stages after the checks. -/
def runStages (resolved : ResolvedConfiguration) (start : Seconds) : Action BuildResult := do
  let host ← read
  let rules : LinkRules := ⟨host.platform, resolved.toolchainRoot⟩
  let runtime ← checkTools resolved rules
  let result ← cleanStage resolved { buildDir := resolved.buildDir }
  if resolved.stages.onlyClean then
    conclude resolved "Clean completed" start result
  else
    discard (workshop resolved).stager.ensureBuildDir
    let result ← produce resolved rules runtime result
    let result ← finish resolved rules runtime result
    conclude resolved "All done" start result

/-- Runs a build for a resolved configuration. -/
def runResolved (resolved : ResolvedConfiguration) (start : Seconds) : Action BuildResult := do
  checkInputs resolved
  announce resolved ("Build directory:\n  \"" ++ resolved.buildDir.toString ++ "\"")
  if resolved.stages.nothingSelected then
    announce resolved "Nothing to do"
    return { buildDir := resolved.buildDir, message := "Nothing to do" }
  else runStages resolved start

end Build

/-- Runs a build. -/
def Configuration.build (configuration : Configuration) : Action BuildResult := do
  let start ← now
  let host ← read
  Build.runResolved (configuration.resolve host.workingDirectory host.bundledDriver) start

end JuliaNative
