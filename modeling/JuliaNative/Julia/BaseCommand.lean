set_option autoImplicit false

/-! # The command that runs the compiler

Julia reports the command with which it was started: its own path and four options, for the
processor, the system image, the compilation mode and the deprecation warnings, always in this
order. A request for a compilation replaces some of these four and appends further options, each at
most once and in a fixed order. -/

namespace JuliaNative

/-- A julia command in the shape that julia reports: the program and four options, each with its
    prefix. -/
structure BaseCommand where
  program : String
  processor : String
  image : String
  compilation : String
  warnings : String
deriving DecidableEq, Repr

/-- What is asked of the compiler; what is absent is not mentioned on the command line. -/
structure CompileRequest where
  cpuTarget : Option String := none
  sysimage : Option String := none
  compile : Option String := none
  depwarn : Option String := none
  precompiled : Option String := none
  compilecache : Option String := none
  home : Option String := none
  startupFile : Option String := none
  handleSignals : Option String := none
  optimize : Option Int := none
  debug : Option Int := none
  inlining : Option String := none
  checkBounds : Option String := none
  mathMode : Option String := none
deriving DecidableEq, Repr

/-- Whether one text starts with another. -/
def startsWith (text start : String) : Bool :=
  start.toList.isPrefixOf text.toList

namespace BaseCommand

/-- Reads a command that has five elements, of which the last four are the expected options. -/
def ofList? : List String → Option BaseCommand
  | [program, processor, image, compilation, warnings] =>
    if startsWith processor "-C" && startsWith image "-J" && startsWith compilation "--compile"
        && startsWith warnings "--depwarn" then
      some ⟨program, processor, image, compilation, warnings⟩
    else none
  | _ => none

/-- The elements of a command. -/
def toList (command : BaseCommand) : List String :=
  [command.program, command.processor, command.image, command.compilation, command.warnings]

/-- A command whose options a request replaces. -/
def override (command : BaseCommand) (request : CompileRequest) : BaseCommand where
  program := command.program
  processor := (request.cpuTarget.map ("-C" ++ ·)).getD command.processor
  image := (request.sysimage.map ("-J" ++ ·)).getD command.image
  compilation := (request.compile.map ("--compile=" ++ ·)).getD command.compilation
  warnings := (request.depwarn.map ("--depwarn=" ++ ·)).getD command.warnings

end BaseCommand

namespace CompileRequest

/-- The options that a request appends, each with its start and its value, in their order. -/
def appended (request : CompileRequest) : List (String × Option String) :=
  [ ("--precompiled=", request.precompiled),
    ("--compilecache=", request.compilecache),
    ("-H=", request.home),
    ("--startup-file=", request.startupFile),
    ("--handle-signals=", request.handleSignals),
    ("-O", request.optimize.map toString),
    ("-g", request.debug.map toString),
    ("--inline=", request.inlining),
    ("--check-bounds=", request.checkBounds),
    ("--math-mode=", request.mathMode) ]

/-- The arguments that a request appends. -/
def appendedArguments (request : CompileRequest) : List String :=
  request.appended.filterMap fun option => option.2.map (option.1 ++ ·)

end CompileRequest

/-- The command for a request. -/
def BaseCommand.render (command : BaseCommand) (request : CompileRequest) : List String :=
  (command.override request).toList ++ request.appendedArguments

end JuliaNative
