import JuliaNative.Configuration.Basic
import JuliaNative.Julia.BaseCommand
import JuliaNative.Stage

set_option autoImplicit false

/-! # Resolving a configuration

Before a build starts its configuration is resolved once, in a fixed order: a full release selects
its stages and a release; automatic dependencies select the stages that the selected ones need; a
release sets the levels that were left open; and what the compiler is asked for gets its defaults.
Paths become absolute. No stage decides any of this again. -/

namespace JuliaNative

/-- The optimisation level of a release. -/
def releaseOptimize : Fin 4 := 3

/-- The debug level of a release. -/
def releaseDebug : Fin 3 := 0

namespace Configuration

/-- A full release selects the stages of a release build and everything they depend on. -/
def expandFullRelease (configuration : Configuration) : Configuration :=
  if configuration.fullRelease then
    { configuration with
      clean := true
      autoDeps := true
      executable := true
      removeTemp := true
      copyRuntimeLibs := true
      release := true }
  else configuration

/-- Automatic dependencies: an executable needs the shared library, and that needs the object
    file. -/
def expandDependencies (configuration : Configuration) : Configuration :=
  if configuration.autoDeps then
    { configuration with
      shared := configuration.shared || configuration.executable
      object := configuration.object || configuration.shared || configuration.executable }
  else configuration

/-- A release sets the levels that were not given. -/
def expandRelease (configuration : Configuration) : Configuration :=
  if configuration.release then
    { configuration with
      optimize := some (configuration.optimize.getD releaseOptimize)
      debug := some (configuration.debug.getD releaseDebug) }
  else configuration

/-- Applies the three rules in their order. -/
def expand (configuration : Configuration) : Configuration :=
  configuration.expandFullRelease.expandDependencies.expandRelease

/-- What is asked of the compiler. Precompiled code is not used for a given processor, and neither
    the cache of compiled modules nor the startup file is used unless asked for. -/
def compileRequest (configuration : Configuration) : CompileRequest where
  cpuTarget := configuration.cpuTarget
  sysimage := configuration.sysimage
  compile := configuration.compile.map (·.word)
  depwarn := configuration.depwarn.map (·.word)
  precompiled :=
    match configuration.precompiled with
    | some choice => some choice.word
    | none => configuration.cpuTarget.map fun _ => "no"
  compilecache := some ((configuration.compilecache.map (·.word)).getD "no")
  home := configuration.home
  startupFile := some ((configuration.startupFile.map (·.word)).getD "no")
  handleSignals := configuration.handleSignals.map (·.word)
  optimize := configuration.optimize.map fun level => level.val
  debug := configuration.debug.map fun level => level.val
  inlining := configuration.inlining.map (·.word)
  checkBounds := configuration.checkBounds.map (·.word)
  mathMode := configuration.mathMode.map (·.word)

end Configuration

/-- A configuration that leaves nothing open; every stage reads it and none changes it. -/
structure ResolvedConfiguration where
  program : Path
  driverProgram : Path
  buildDir : Path
  outputName : String
  snoopFile : Option Path
  stages : StageSelection
  sharedInit : Bool
  copyFiles : List Path
  request : CompileRequest
  julia : Value
  cc : Value
  ccFlags : List String
  toolchainRoot : Option Path
  verbose : Bool
  quiet : Bool
  release : Bool
deriving DecidableEq, Repr

/-- The build directory if none is given. -/
def defaultBuildDir : Path := Path.ofString "builddir"

/-- The text that stands for an option, or what takes its place if it is absent or empty. -/
def textOrElse (text : Option String) (otherwise : String) : String :=
  match text with
  | none => otherwise
  | some given => if given = "" then otherwise else given

/-- Resolves a configuration, seen from a working directory and with the driver program that is used
    if none is given. -/
def Configuration.resolve (configuration : Configuration) (workingDirectory bundledDriver : Path) :
    ResolvedConfiguration :=
  let expanded := configuration.expand
  let program := workingDirectory.join expanded.program
  { program := program
    driverProgram := workingDirectory.join (expanded.driverProgram.getD bundledDriver)
    buildDir := workingDirectory.join (expanded.buildDir.getD defaultBuildDir)
    outputName := textOrElse expanded.outputName program.stem
    snoopFile := expanded.snoopFile.map workingDirectory.join
    stages := {
      clean := expanded.clean
      object := expanded.object
      shared := expanded.shared
      executable := expanded.executable
      removeTemp := expanded.removeTemp
      copyRuntimeLibs := expanded.copyRuntimeLibs
      copyUserFiles := expanded.copyFiles.isSome }
    sharedInit := expanded.sharedInit
    copyFiles := (expanded.copyFiles.getD []).map workingDirectory.join
    request := expanded.compileRequest
    julia := expanded.julia
    cc := expanded.cc
    ccFlags := expanded.ccFlags
    toolchainRoot := expanded.toolchainRoot
    verbose := expanded.verbose
    quiet := expanded.quiet && !expanded.verbose
    release := expanded.release }

end JuliaNative
