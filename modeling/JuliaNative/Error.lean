import JuliaNative.Configuration.Profile
import JuliaNative.Configuration.Basic
import JuliaNative.Julia.Report
import JuliaNative.Text.Blank

set_option autoImplicit false

/-! # Errors of a build

Every error that a build foresees says which part of the work failed: the configuration, the
environment, an external command, or the file system. Nothing is tried again. A build that fails in
a way that is not foreseen crashes, and a build can be interrupted; the three make up the ways in
which a build fails. -/

namespace JuliaNative

/-! ## Failed commands -/

/-- What an external command was run for. -/
inductive Task
  | other
  | compilation
  | linking
deriving DecidableEq, Repr

/-- The word for a task in a message. -/
def Task.label : Task → String
  | .other => "Stage"
  | .compilation => "Compilation"
  | .linking => "Linking"

/-- A command that could not be started or failed, or whose product is missing. -/
structure StageFailure where
  task : Task
  description : String
  command : List String := []
  status : Option Int := none
  stderr : String := ""
deriving DecidableEq, Repr

/-- The message for a failed command. -/
def StageFailure.message (failure : StageFailure) : String :=
  failure.task.label ++ " failed: " ++ failure.description
    ++ (failure.status.map fun status => " (exit status " ++ toString status ++ ")").getD ""
    ++ (if failure.command = [] then "" else "\ncommand: " ++ " ".intercalate failure.command)
    ++ (if failure.stderr = "" then "" else "\nstderr: " ++ Text.stripEnd failure.stderr)

/-! ## Refused files -/

/-- Why files could not be staged. -/
inductive StagingIssue
  | buildDirNotRemoved (directory : Path) (error : SystemError)
  | buildDirNotMade (directory : Path) (error : SystemError)
  | notWritten (path : Path) (error : SystemError)
  | notRemoved (path : Path) (error : SystemError)
  | sourceMissing (path : Path)
  | notCopied (source destination : Path) (error : SystemError)
  | libraryDirectoryMissing (directory : Path)
  | described (text : String)
deriving DecidableEq, Repr

/-- The message for files that could not be staged. -/
def StagingIssue.message : StagingIssue → String
  | .buildDirNotRemoved directory error =>
    "Failed to remove build directory " ++ directory.toString ++ ": " ++ error.message
  | .buildDirNotMade directory error =>
    "Failed to create build directory " ++ directory.toString ++ ": " ++ error.message
  | .notWritten path error => "Failed to write " ++ path.toString ++ ": " ++ error.message
  | .notRemoved path error => "Failed to remove " ++ path.toString ++ ": " ++ error.message
  | .sourceMissing path => "Cannot find file: \"" ++ path.toString ++ "\""
  | .notCopied source destination error =>
    "Failed to copy " ++ source.toString ++ " to " ++ destination.toString ++ ": " ++ error.message
  | .libraryDirectoryMissing directory => "Julia library directory not found: " ++ directory.toString
  | .described text => text

/-! ## All errors -/

/-- The errors that a build foresees. -/
inductive BuildError
  /-- An error of no category. -/
  | other (text : String)
  /-- Something about the environment keeps the build from running. -/
  | environment (text : String)
  /-- The C compiler does not run. -/
  | toolchainNotFound (compiler detail : String)
  /-- Julia does not report about itself as expected. -/
  | report (issue : ReportIssue)
  /-- The values of the settings make no configuration. -/
  | configuration (issue : ConfigurationIssue)
  /-- An input file is missing. -/
  | missingInput (path : Path) (what : String)
  /-- Julia's own command has an unexpected shape. -/
  | incompatibleRuntime (command : List String)
  /-- A configuration file gives no settings. -/
  | configFile (issue : ConfigFileIssue)
  /-- An external command failed. -/
  | stage (failure : StageFailure)
  /-- Files could not be staged. -/
  | staging (issue : StagingIssue)
deriving DecidableEq, Repr

namespace BuildError

/-- The part of the work that failed. -/
inductive Category
  | other
  | configuration
  | environment
  | command
  | fileSystem
deriving DecidableEq, Repr

/-- The category of an error. -/
def category : BuildError → Category
  | .other _ => .other
  | .environment _ | .toolchainNotFound _ _ | .report _ => .environment
  | .configuration _ | .missingInput _ _ | .incompatibleRuntime _ | .configFile _ => .configuration
  | .stage _ => .command
  | .staging _ => .fileSystem

/-- The title under which an error of a category is shown. -/
def Category.title : Category → String
  | .other => "Error"
  | .configuration => "Configuration error"
  | .environment => "Environment error"
  | .command => "Build failed!"
  | .fileSystem => "Filesystem error"

/-- The title under which an error is shown. -/
def title (error : BuildError) : String :=
  error.category.title

/-- The message of an error. -/
def message : BuildError → String
  | .other text | .environment text => text
  | .toolchainNotFound compiler detail =>
    "C compiler '" ++ compiler ++ "' wasn't found or is not runnable. "
      ++ "Make sure it is on the PATH or pass --cc."
      ++ (if detail = "" then "" else "\n" ++ detail)
  | .report issue => issue.message
  | .configuration issue => issue.message
  | .missingInput path what => "Cannot find " ++ what ++ ": \"" ++ path.toString ++ "\""
  | .incompatibleRuntime command =>
    "Unexpected format of \"Base.julia_cmd()\", you may be using an incompatible version of Julia: "
      ++ " ".intercalate command
  | .configFile issue => issue.message
  | .stage failure => failure.message
  | .staging issue => issue.message

end BuildError

/-! ## Failures -/

/-- The ways in which a run fails. -/
inductive Failure
  | error (error : BuildError)
  | crash (crash : Crash)
  | interrupted
deriving DecidableEq, Repr

/-- A version that cannot be read fails a run. -/
def VersionFault.failure : VersionFault → Failure
  | .unreadable text => .error (.report (.versionUnreadable text))
  | .tooLong digits => .crash (.numeralTooLong digits)

/-- A report that cannot be read fails a run. -/
def Runtime.ReportFault.failure : Runtime.ReportFault → Failure
  | .issue reason => .error (.report reason)
  | .versionTooLong digits => .crash (.numeralTooLong digits)

/-- Values that make no configuration fail a run. -/
def ConfigurationFault.failure : ConfigurationFault → Failure
  | .issue reason => .error (.configuration reason)
  | .crash cause => .crash cause

/-- A configuration file that gives no settings fails a run. -/
def ConfigFileFault.failure : ConfigFileFault → Failure
  | .issue reason => .error (.configFile reason)
  | .crash cause => .crash cause

end JuliaNative
