import JuliaNative.Artifacts
import JuliaNative.Julia.Source
import JuliaNative.Link.Flags
import JuliaNative.Link.Rules
import JuliaNative.Julia.BaseCommand
import JuliaNative.Julia.Report

set_option autoImplicit false

/-! # Commands

The external commands of a build. All of them run in the build directory, so they name the artifacts
by their bare names; what one command is told to write is what the next one is told to read. -/

namespace JuliaNative

/-! ## Julia -/

/-- Whether the cache of compiled modules is filled first: if it is asked for and the runtime has
    use for it. -/
def primesCache (runtime : Runtime) (request : CompileRequest) : Except VersionFault Bool :=
  runtime.supportsCachePriming.map fun supported =>
    supported && request.compilecache = some "yes"

/-- The command that fills the cache of compiled modules, if it is to be filled. -/
def primingCommand? (command : BaseCommand) (runtime : Runtime) (program : String)
    (request : CompileRequest) : Except VersionFault (Option (List String)) := do
  if ← primesCache runtime request then
    let expression ← Julia.loadExpression program runtime
    pure (some (command.render request ++ ["-e", expression]))
  else pure none

/-- The command that compiles a program into an object file or an archive. -/
def compileCommand (command : BaseCommand) (runtime : Runtime) (program objectFile : String)
    (request : CompileRequest) : Except VersionFault (List String) :=
  (Julia.loadExpression program runtime).map fun expression =>
    command.render request ++ ["--output-o", objectFile, "-e", expression]

/-- The option that makes julia write the statements for what it compiles to a file. -/
def traceOption : String := "--trace-compile="

/-- The command that traces a script. -/
def traceCommand (julia script : String) : List String :=
  [julia, "--startup-file=no", traceOption ++ traceName, script]

/-! ## The C compiler -/

/-- The definition that tells C sources the name of the shared library. -/
def libraryDefinition (sharedLibrary : String) : String :=
  "-DJULIAC_PROGRAM_LIBNAME=\"" ++ sharedLibrary ++ "\""

/-- The arguments that link a compiled program: all members of an archive, or the object file. -/
def objectArguments (rules : LinkRules) (runtime : Runtime) (objectFile : String) :
    Except VersionFault (List String) :=
  runtime.usesArchive.map fun archive =>
    if archive then rules.wholeArchive objectFile else [objectFile]

/-- The command that links the shared library, together with the source of the start and stop
    functions if one is given. -/
def sharedCommand (compiler : String) (rules : LinkRules) (runtime : Runtime)
    (artifacts : Artifacts) (flags : List String) (initSource : Option String) :
    Except VersionFault (List String) :=
  (objectArguments rules runtime artifacts.objectFile).map fun object =>
    [compiler, "-shared", libraryDefinition artifacts.sharedLibrary, "-o", artifacts.sharedLibrary]
      ++ object
      ++ initSource.toList.filter (· ≠ "")
      ++ flags
      ++ rules.sharedFlags artifacts.sharedLibrary

/-- The flag that executables for 32-bit processors of the x86 family need. -/
def processorFlag (runtime : Runtime) : List String :=
  if runtime.is32BitX86 then ["-march=pentium4"] else []

/-- The command that links a driver program with the shared library into an executable. -/
def executableCommand (compiler : String) (rules : LinkRules) (runtime : Runtime)
    (artifacts : Artifacts) (driver : String) (flags : List String) : List String :=
  [compiler, libraryDefinition artifacts.sharedLibrary, "-o", artifacts.executable, driver,
      artifacts.sharedLibrary]
    ++ flags
    ++ rules.executableFlags
    ++ processorFlag runtime

/-- The command that checks whether a C compiler runs. -/
def compilerCheckCommand (compiler : String) : List String :=
  [compiler, "-v"]

/-- The command that makes julia report about itself. -/
def reportCommand (julia : String) : List String :=
  [julia, "-e", reportExpression]

end JuliaNative
