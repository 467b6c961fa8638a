import JuliaNative.Duration
import JuliaNative.Error
import JuliaNative.FileSystem.Edit
import JuliaNative.Link.Rules
import JuliaNative.ProcessTree

set_option autoImplicit false

/-! # The world of a build

A build acts on a world: it changes files, starts external commands, prints, and reads a clock. The
host tells how the commands behave, as functions of what they are given and of the files that they
find, so that a build can be followed step by step. What a build did stays in its world when it
fails. -/

namespace JuliaNative

/-! ## External commands -/

/-- What a finished command leaves behind. -/
structure Answer where
  status : Int := 0
  stdout : String := ""
  stderr : String := ""
deriving DecidableEq, Repr

/-- Why there is no talking to a tool: the system refuses, what the tool prints is no text, or an
    argument holds the null character. -/
inductive ToolFault
  | system (error : SystemError)
  | undecodable (fault : Text.DecodeFault)
  | nullInArgument
deriving DecidableEq, Repr

/-- The crash that a fault of a tool leads to where it is not expected. -/
def ToolFault.crash : ToolFault → Crash
  | .system error => .system error
  | .undecodable fault => .undecodable fault
  | .nullInArgument => .nullInPath

/-- How the run of a command ends. -/
inductive RunOutcome
  /-- The command cannot be started. -/
  | notStarted (error : SystemError)
  /-- The user interrupts the command, which has this process number. -/
  | interrupted (process : Int) (files : FileSystem)
  /-- The connection to the command breaks. -/
  | broken (fault : ToolFault) (files : FileSystem)
  /-- The command ends by itself. -/
  | finished (answer : Answer) (files : FileSystem)

/-- What a build finds and does not change: the kind of the host, its environment, the directory in
    which the build was started, the driver program that comes with the builder, and how external
    commands behave. -/
structure Host where
  platform : Platform
  environment : Environment
  workingDirectory : Path
  /-- A working directory is seen from the root. -/
  workingDirectory_isAbsolute : workingDirectory.isAbsolute = true := by rfl
  bundledDriver : Path
  /-- What julia answers when it is asked about itself. -/
  report : List String → FileSystem → Except ToolFault Answer
  /-- The status with which the check of a compiler ends. -/
  check : List String → Option Environment → FileSystem → Except ToolFault Int
  /-- How a command of a stage ends, given the directory and the environment in which it runs. -/
  run : List String → Path → Option Environment → FileSystem → RunOutcome
  /-- The processes that are there when a command is interrupted. -/
  processes : ProcessTable

/-! ## The world -/

/-- What a build asks of the machine. -/
inductive Event
  | reportAsked (command : List String)
  | compilerChecked (command : List String) (environment : Option Environment)
  | commandStarted (command : List String) (directory : Path) (environment : Option Environment)
  | treeTerminated (root : Int) (steps : List TreeEvent)
  | interruptRaised
deriving DecidableEq, Repr

/-- The importance of a diagnostic record. -/
inductive Level
  | debug
  | info
  | warning
  | error
deriving DecidableEq, Repr

namespace Level

/-- All levels, the least important first. -/
def all : List Level := [debug, info, warning, error]

/-- The name of a level. -/
def name : Level → String
  | debug => "DEBUG"
  | info => "INFO"
  | warning => "WARNING"
  | error => "ERROR"

/-- The place of a level among the others. -/
def rank (level : Level) : Nat :=
  all.idxOf level

/-- The level of a name. -/
def named? (name : String) : Option Level :=
  all.find? (·.name = name)

end Level

/-- What is written to the diagnostic output: a text as it stands, or a record with its level. -/
inductive Diagnostic
  | text (text : String)
  | record (level : Level) (text : String)
deriving DecidableEq, Repr

/-- A diagnostic as it is written at a time: a text stands for itself, and a record is a line that
    begins with the time and names the level. -/
def Diagnostic.render (time : String) : Diagnostic → String
  | .text written => written
  | .record level message => time ++ " - root - " ++ level.name ++ " - " ++ message ++ "\n"

/-- What a build acts on. -/
structure World where
  files : FileSystem
  /-- The times that the clock shows next; the last one repeats. -/
  clock : List Seconds := []
  /-- The printed texts, each on lines of its own. -/
  printed : List String := []
  diagnostics : List Diagnostic := []
  /-- Records below this level are dropped. -/
  threshold : Level := .warning
  events : List Event := []

/-! ## Actions -/

/-- A computation in the world, which can fail. -/
abbrev Action := ReaderT Host (ExceptT Failure (StateM World))

namespace Action

/-- Runs an action on a host, from a world. -/
def runOn {α : Type} (action : Action α) (host : Host) (world : World) :
    Except Failure α × World :=
  (action.run host).run world

/-- Fails with an error that the build foresees. -/
def fail {α : Type} (error : BuildError) : Action α :=
  throw (.error error)

/-- Fails in a way that the build does not foresee. -/
def crash {α : Type} (cause : Crash) : Action α :=
  throw (.crash cause)

/-- The value of a computation without effects; a fault of it fails the action. -/
def ofExcept {ε α : Type} (failure : ε → Failure) : Except ε α → Action α
  | .ok value => pure value
  | .error fault => throw (failure fault)

/-- The files as they are now. -/
def files : Action FileSystem := do
  return (← get).files

/-- Puts changed files in place of the files as they were. -/
def setFiles (files : FileSystem) : Action Unit :=
  modify fun world => { world with files }

/-- Prints a text and ends the line. -/
def say (text : String) : Action Unit :=
  modify fun world => { world with printed := world.printed ++ [text] }

/-- Prints a text if something asks for it. -/
def sayIf (wanted : Bool) (text : String) : Action Unit :=
  if wanted then say text else pure ()

/-- Writes a text to the diagnostic output. -/
def complain (text : String) : Action Unit :=
  modify fun world => { world with diagnostics := world.diagnostics ++ [.text text] }

/-- Makes a diagnostic record, if it is important enough. -/
def note (level : Level) (text : String) : Action Unit :=
  modify fun world =>
    if world.threshold.rank ≤ level.rank then
      { world with diagnostics := world.diagnostics ++ [.record level text] }
    else world

/-- Remembers what was asked of the machine. -/
def remember (event : Event) : Action Unit :=
  modify fun world => { world with events := world.events ++ [event] }

/-- Reads the clock. -/
def now : Action Seconds := do
  let world ← get
  match world.clock with
  | [] => return .whole 0
  | [time] => return time
  | time :: later =>
    set { world with clock := later }
    return time

/-- A path seen from the directory in which the build was started. -/
def absolute (path : Path) : Action Path := do
  return (← read).workingDirectory.join path

/-- The entry that a path leads to, if there is one. The system does not even look at a path that is
    too long, which no caller expects. -/
def lookup (path : Path) : Action (Option Entry) := do
  let location ← absolute path
  let current ← files
  if path.hasNull then return none
  else
    match current.locate location with
    | .error .nameTooLong => crash (.system (.at .nameTooLong path))
    | _ => return current.lookup? location

/-- Whether a path leads to an entry. -/
def has (path : Path) : Action Bool := do
  return (← lookup path).isSome

/-- Whether a path leads to a file. -/
def isFile (path : Path) : Action Bool := do
  return ((← lookup path).map Entry.isFile).getD false

/-- Whether a path leads to a directory. -/
def isDirectory (path : Path) : Action Bool := do
  return (← lookup path) == some .directory

/-- Fails if a path holds the null character, which no operation of the system takes. -/
def refuseNull (path : Path) : Action Unit :=
  if path.hasNull then crash .nullInPath else pure ()

end Action
end JuliaNative
