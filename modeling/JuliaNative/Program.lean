import JuliaNative.Build.Pipeline
import JuliaNative.CommandLine.Help
import JuliaNative.CommandLine.Settings
import JuliaNative.Configuration.Source

set_option autoImplicit false

/-! # The program

The program reads its command line, gathers settings, runs the build and shows how it went. It ends
with a status: zero if the build succeeded or only the help or the version was asked for, one if
something failed, two if the command line was refused, and 130 after an interrupt. -/

namespace JuliaNative.Program

open JuliaNative.Action

/-! ## Messages -/

/-- The colours of messages. -/
inductive Colour
  | red
  | green
  | yellow
deriving DecidableEq, Repr

/-- The sequence that starts a colour on a terminal. -/
def Colour.start : Colour → String
  | .red => "\x1b[1;31m"
  | .green => "\x1b[1;32m"
  | .yellow => "\x1b[1;33m"

/-- A text in a colour. -/
def coloured (colour : Colour) (text : String) : String :=
  colour.start ++ text ++ "\x1b[0m"

/-- The mark of a failure. -/
def cross : String := "✗ "

/-- The mark of a success. -/
def tick : String := "✓ "

/-- Shows an error under a title. -/
def showError (title message : String) : Action Unit := do
  say ""
  say (coloured .red (cross ++ title))
  say ""
  say message
  say ""

/-! ## Statuses -/

/-- The status with which the program ends. -/
abbrev ExitStatus := Nat

/-- The status of success. -/
def succeeded : ExitStatus := 0

/-- The status after an error. -/
def failed : ExitStatus := 1

/-- The status of a command line that is refused. -/
def refused : ExitStatus := 2

/-- The status after an interrupt. -/
def wasInterrupted : ExitStatus := 130

/-- Shows an error that a build foresees and ends. -/
def showBuildError (error : BuildError) : Action ExitStatus := do
  showError error.title error.message
  return failed

/-- Shows any failure and ends. For a crash, where it happened is shown too if more output is
    asked for. -/
def showFailure (verbose : Bool) : Failure → Action ExitStatus
  | .error error => showBuildError error
  | .interrupted => do
    say ""
    say (coloured .yellow (cross ++ "Build interrupted"))
    return wasInterrupted
  | .crash cause => do
    showError "Unexpected error" (cause.kind ++ ": " ++ cause.message)
    sayIf verbose "Traceback:"
    return failed

/-! ## Building -/

/-- Shows where an artifact is, if it was made. -/
def showArtifact (label : String) : Option Path → Action Unit
  | none => pure ()
  | some path => say (label ++ ": " ++ path.toString)

/-- Shows what a build produced and how long it took; a build without stages shows nothing. -/
def showResult (result : BuildResult) : Action Unit := do
  if result.stagesRun ≠ [] then
    say ""
    say (coloured .green (tick ++ "Build successful!"))
    say ""
    showArtifact "Object" result.objectFile
    showArtifact "Shared library" result.sharedLibrary
    showArtifact "Executable" result.executable
    if !result.duration.isZero then
      say ("Build time: " ++ result.duration.text 2 ++ "s")

/-- Runs a build and shows how it went. Nothing is shown of a build that is to be quiet unless it
    fails; more output overrides less. -/
def build (configuration : Configuration) : Action ExitStatus := do
  let quiet := configuration.quiet && !configuration.verbose
  sayIf (!quiet) ("jlbuild v" ++ CommandLine.version)
  sayIf (!quiet) ""
  tryCatch
    (do
      let result ← configuration.build
      if quiet then return succeeded
      showResult result
      return succeeded)
    (showFailure configuration.verbose)

/-! ## Settings -/

/-- Shows that a named configuration file is of no use, and ends. -/
def refuseConfig (what : String) (path : Path) : Action (Option ExitStatus) := do
  say (coloured .red (cross ++ "Error: " ++ what ++ ": " ++ path.toString))
  return some refused

/-- The status with which the program ends if a named configuration file is of no use. -/
def checkConfig : Option Path → Action (Option ExitStatus)
  | none => return none
  | some path => do
    if ← has path then
      if ← isFile path then return none
      else refuseConfig "Path is not a file" path
    else refuseConfig "Path does not exist" path

/-- The path of the configuration file that the command line names. -/
def namedConfig (given : CommandLine.Arguments) : Action (Option Path) :=
  match given.value .config with
  | .absent => return none
  | .path path => return some path
  | _ => crash (.listUsed "exists")

/-- The profile that the command line names. -/
def namedProfile (given : CommandLine.Arguments) : Option String :=
  match given.value .profile with
  | .text name => some name
  | _ => none

/-- Gathers the settings of a build from the configuration file and the command line. -/
def gather (given : CommandLine.Arguments) (config : Option Path) : Action Configuration := do
  let file ← fileSettings config (namedProfile given) (← read).workingDirectory
  let commandLine ← ofExcept .crash given.settings
  ofExcept ConfigurationFault.failure (Configuration.ofSettings (file.merge commandLine))

/-- Sets the level of diagnostics. -/
def setLevel (given : CommandLine.Arguments) : Action Unit :=
  match given.logLevel with
  | .text name => modify fun world => { world with threshold := (Level.named? name).getD .warning }
  | _ => crash (.listUsed "upper")

/-! ## The whole program -/

/-- Gathers the settings, unless the named configuration file is of no use, and builds. -/
def runGiven (given : CommandLine.Arguments) : Action ExitStatus := do
  setLevel given
  let config ← namedConfig given
  match ← checkConfig config with
  | some status => return status
  | none =>
    let gathered : Except ExitStatus Configuration ← tryCatch
      (Except.ok <$> gather given config)
      fun
        | .error error => Except.error <$> showBuildError error
        | failure => throw failure
    match gathered with
    | .ok configuration => build configuration
    | .error status => return status

/-- Runs the program with the arguments of its command line. -/
def run (arguments : List String) : Action ExitStatus :=
  match CommandLine.parse arguments with
  | .error .help => do
    say CommandLine.help
    return succeeded
  | .error .version => do
    say CommandLine.versionText
    return succeeded
  | .error (.refused issue) => do
    complain
      (CommandLine.usage ++ CommandLine.programName ++ ": error: " ++ issue.message ++ "\n")
    return refused
  | .ok given => runGiven given

end JuliaNative.Program
