import JuliaNative.Program

set_option autoImplicit false

/-! # The command line

The outer layer of the program: it hands over the arguments, writes what the program printed and
ends with its status. The program runs on a machine that is held in memory: the project directory
holds nothing, the driver program is there, and no command can be started. Help, version and the
refusal of a command line are therefore complete, and a build stops at the first file or command
that it misses. -/

open JuliaNative

/-- A machine in memory on which a build starts in a project directory and can start no command. -/
def isolatedHost (environment : Environment) : Host :=
  let missing (command : List String) : SystemError := .refused .noEntry (command.headD "") none
  { platform := .linux
    environment
    workingDirectory := Path.ofString "/project"
    bundledDriver := Path.ofString "/assets/program.c"
    report := fun command _ => .error (.system (missing command))
    check := fun command _ _ => .error (.system (missing command))
    run := fun command _ _ _ => .notStarted (missing command)
    processes := fun _ => none }

/-- The files with which a build starts: an empty project directory and the driver program. -/
def isolatedFiles : FileSystem :=
  ((FileSystem.empty.insert ["project"] .directory).insert ["assets"] .directory).insert
    ["program.c", "assets"] (.file ⟨ByteArray.empty, .at 0⟩)

/-- The text in which a failure is shown that the program does not handle itself. -/
def failureText : Failure → String
  | .error error => error.title ++ ": " ++ error.message
  | .crash cause => cause.kind ++ ": " ++ cause.message
  | .interrupted => "Build interrupted"

/-- Runs the program with the given arguments and ends with its status. -/
def main (arguments : List String) : IO UInt32 := do
  let environment := [("PATH", (← IO.getEnv "PATH").getD "")]
  let (outcome, world) :=
    (Program.run arguments).runOn (isolatedHost environment) { files := isolatedFiles }
  for text in world.printed do
    IO.println text
  let time := toString (← IO.monoMsNow)
  for diagnostic in world.diagnostics do
    IO.eprint (diagnostic.render time)
  match outcome with
  | .ok status => return status.toUInt32
  | .error failure => do
    IO.eprintln (failureText failure)
    return Program.failed.toUInt32
