import JuliaNative.Commands
import JuliaNative.World

set_option autoImplicit false

/-! # Running tools

The three ways in which a build uses external tools: a compiler is checked, julia is asked about
itself, and the commands of the stages are run. The commands of the stages run in the build
directory and may take as long as they want; one that fails stops the build, and an interrupt stops
the command with everything that it started. -/

namespace JuliaNative

open JuliaNative.Action

/-! ## Commands of stages -/

/-- The name of the program that a command runs. -/
def programName (command : List String) : String :=
  (Path.ofString (command.headD "")).name

/-- Records what is about to run, and with which search path if it has an environment of its own. -/
def noteCommand (command : List String) (directory : Path) (environment : Option Environment) :
    Action Unit := do
  note .debug ("Running in " ++ directory.toString ++ ": " ++ " ".intercalate command)
  match environment with
  | none => pure ()
  | some overrides =>
    note .debug ("PATH override for " ++ programName command ++ ": "
      ++ (overrides.lookup "PATH").getD "")

/-- Records a step of terminating a tree. -/
def noteTreeEvent : TreeEvent → Action Unit
  | .terminate process true => note .debug ("Terminated process " ++ toString process)
  | .kill process true => note .warning ("Force killed stubborn process " ++ toString process)
  | _ => pure ()

/-- A process that has vanished unexpectedly fails a run. -/
def Vanished.failure (vanished : Vanished) : Failure :=
  .crash (.processVanished vanished.process)

/-- Terminates the tree of processes below a process. -/
def terminateTree (root : Int) : Action Nat := do
  let (outcome, steps) := (Requests.terminateTree root).runOn (← read).processes
  remember (.treeTerminated root steps)
  steps.forM noteTreeEvent
  ofExcept Vanished.failure outcome

/-- Passes an interrupt on, after its command was stopped with everything that it started. -/
def passInterrupt {α : Type} (process : Int) : Action α := do
  discard (terminateTree process)
  remember .interruptRaised
  throw .interrupted

/-- Runs a command and waits for it to end. A command without a description is described by the name
    of its program. What a successful command printed is shown if that is asked for. -/
def runCommand (showOutput : Bool) (task : Task) (description : String) (command : List String)
    (directory : Path) (environment : Option Environment) : Action Answer := do
  let description := if description = "" then programName command else description
  noteCommand command directory environment
  remember (.commandStarted command directory environment)
  match (← read).run command directory environment (← files) with
  | .notStarted error =>
    fail (.stage {
      task
      description :=
        description ++ ": cannot start " ++ command.headD "" ++ ": " ++ error.message
      command })
  | .interrupted process changed =>
    setFiles changed
    passInterrupt process
  | .broken fault changed =>
    setFiles changed
    crash fault.crash
  | .finished answer changed =>
    setFiles changed
    if answer.status ≠ 0 then
      fail (.stage {
        task, description, command, status := some answer.status, stderr := answer.stderr })
    else
      sayIf (showOutput && answer.stdout ≠ "") (Text.stripEnd answer.stdout)
      sayIf (showOutput && answer.stderr ≠ "") (Text.stripEnd answer.stderr)
      return answer

/-! ## Checks -/

/-- Whether a command runs and ends well. An error of the system means that it does not run. -/
def checkCommand (command : List String) (environment : Option Environment) : Action Bool := do
  remember (.compilerChecked command environment)
  match (← read).check command environment (← files) with
  | .error (.system error) =>
    note .debug (command.headD "" ++ " is not runnable: " ++ error.message)
    return false
  | .error fault => crash fault.crash
  | .ok status => return status = 0

/-- A program to be run, which has to be given as a text or a path. -/
def requireProgram : Value → Action String
  | .text name => pure name
  | .path path => pure path.toString
  | other => crash (.pathExpected other.kindName)

/-- Fails if a C compiler does not run. -/
def checkCompiler (compiler : Value) (environment : Option Environment) : Action Unit := do
  let name ← requireProgram compiler
  if ← checkCommand (compilerCheckCommand name) environment then pure ()
  else fail (.toolchainNotFound name "")

/-! ## Asking julia -/

/-- Asks julia about itself. -/
def askRuntime (julia : Value) : Action Runtime := do
  note .debug ("Probing julia runtime: " ++ julia.toText?.getD julia.shown)
  let name ← requireProgram julia
  remember (.reportAsked (reportCommand name))
  match (← read).report (reportCommand name) (← files) with
  | .error (.system error) => fail (.report (.cannotRun name error))
  | .error fault => crash fault.crash
  | .ok answer =>
    if answer.status ≠ 0 then fail (.report (.exited name answer.status answer.stderr))
    else ofExcept Runtime.ReportFault.failure (Runtime.ofReport answer.stdout)

/-- A julia that is asked about itself at most once: its program, and its answer if there is one
    already. -/
structure RuntimeInquiry where
  julia : Value
  answer : Option Runtime := none
deriving DecidableEq, Repr

/-- The runtime, and the inquiry with the answer remembered. -/
def RuntimeInquiry.runtime (inquiry : RuntimeInquiry) : Action (Runtime × RuntimeInquiry) :=
  match inquiry.answer with
  | some runtime => pure (runtime, inquiry)
  | none => do
    let runtime ← askRuntime inquiry.julia
    return (runtime, { inquiry with answer := some runtime })

end JuliaNative
