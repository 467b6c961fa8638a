import JuliaNative.Julia.Source
import JuliaNative.Staging
import JuliaNative.Text.Utf8
import JuliaNative.Tools

set_option autoImplicit false

/-! # Compiling a program

Julia compiles the program into an object file or an archive. Two runs may come before: one that
fills the cache of compiled modules, and one that traces a script of the user, whose precompile
statements are then compiled into the image together with the program. -/

namespace JuliaNative

open JuliaNative.Action

/-- The parts of a build that run commands: the build directory, whether what successful commands
    print is shown, and whether commands are reported before they run. -/
structure Workshop where
  stager : Stager
  showOutput : Bool := false
  verbose : Bool := false
deriving DecidableEq, Repr

namespace Workshop

/-- The build directory. -/
def buildDir (workshop : Workshop) : Path :=
  workshop.stager.buildDir

/-- Reports a command and runs it in the build directory. -/
def perform (workshop : Workshop) (task : Task) (heading : String) (command : List String)
    (environment : Option Environment) (description : String) : Action Unit := do
  sayIf workshop.verbose (heading ++ ":\n  " ++ " ".intercalate command)
  discard (runCommand workshop.showOutput task description command workshop.buildDir environment)

/-! ## Object files and archives -/

/-- What the compiler writes, in words. -/
def objectKind (archive : Bool) : String :=
  if archive then "static library" else "object file"

/-- Compiles a program into an object file or an archive. -/
def compile (workshop : Workshop) (runtime : Runtime) (program : Path) (objectFile : String)
    (request : CompileRequest) : Action Path := do
  let some base := BaseCommand.ofList? runtime.command
    | fail (.incompatibleRuntime runtime.command)
  let priming ← ofExcept VersionFault.failure
    (primingCommand? base runtime program.toString request)
  match priming with
  | none => pure ()
  | some command =>
    workshop.perform .compilation "Build \".ji\" local cache" command none "Build .ji local cache"
  let command ← ofExcept VersionFault.failure
    (compileCommand base runtime program.toString objectFile request)
  let archive ← ofExcept VersionFault.failure runtime.usesArchive
  let what := "Build " ++ objectKind archive ++ " \"" ++ objectFile ++ "\""
  workshop.perform .compilation what command none what
  return workshop.buildDir.child objectFile

/-! ## Traces -/

/-- Runs a script with tracing and gives the text of the trace. -/
def trace (workshop : Workshop) (julia : String) (script : Path) : Action String := do
  let command := traceCommand julia script.toString
  let what := "Snoop \"" ++ script.name ++ "\""
  workshop.perform .compilation what command none what
  let path := workshop.buildDir.entry traceName
  if ← has path then
    match (← files).read path with
    | .ok file =>
      let text ← ofExcept (fun fault => .crash (.undecodable fault)) (Text.decode file.content)
      return String.ofList (Text.unifyLineEnds text.toList)
    | .error refusal => crash (.system (.at refusal path))
  else
    fail (.stage {
      task := .compilation
      description := "Snoop run did not produce " ++ traceName
      command })

/-- Traces a script and writes the main script, which is compiled in place of the program. -/
def prepareMain (workshop : Workshop) (julia : String) (script program : Path) : Action Path := do
  let trace ← workshop.trace julia script
  let source := Path.relativeTo (← read).workingDirectory program workshop.buildDir
  workshop.stager.writeText mainScriptName (Julia.mainScript source trace)

end Workshop
end JuliaNative
