import JuliaNative.Configuration.Basic

set_option autoImplicit false

/-! # The options of the command line

The options that the command line understands, in the order in which the help lists them. An option
has one or two names, turns something on or takes a value, and is described by lines that fit beside
the names. Besides the settings of a build, the command line names the driver program, the
configuration file with a profile, and the level of diagnostics. -/

namespace JuliaNative.CommandLine

/-- What an argument of the command line is given for. -/
inductive Target
  | setting (which : Setting)
  | driver
  | config
  | profile
  | logLevel
deriving DecidableEq, Repr

/-- The name of a target. -/
def Target.name : Target → String
  | .setting which => which.name
  | .driver => "cprog"
  | .config => "config"
  | .profile => "profile"
  | .logLevel => "log_level"

/-- What the value of an option is read as. Texts and paths have a word that stands for them in the
    help; a level is a number below a bound. -/
inductive Reading
  | text (placeholder : String)
  | path (placeholder : String)
  | word (allowed : List String)
  | level (bound : Nat)
deriving DecidableEq, Repr

/-- What stands for a value in the help. -/
def Reading.placeholder : Reading → String
  | .text placeholder | .path placeholder => placeholder
  | .word allowed => "\x7b" ++ ",".intercalate allowed ++ "\x7d"
  | .level bound => "\x7b" ++ ",".intercalate ((List.range bound).map toString) ++ "\x7d"

/-- What an option does: show the help or the version, turn a setting on, set a value, or add a path
    to a list. -/
inductive Effect
  | showHelp
  | showVersion
  | turnOn (target : Target)
  | store (target : Target) (reading : Reading)
  | collect (target : Target) (placeholder : String)
deriving DecidableEq, Repr

/-- What stands for the value of an option in the help, if it takes one. -/
def Effect.placeholder? : Effect → Option String
  | .store _ reading => some reading.placeholder
  | .collect _ placeholder => some placeholder
  | _ => none

/-- Whether an option takes a value. -/
def Effect.takesValue (effect : Effect) : Bool :=
  effect.placeholder?.isSome

/-- The headings under which the help lists options. -/
inductive Group
  | general
  | julia
  | toolchain
  | configuration
deriving DecidableEq, Repr

/-- All headings in their order. -/
def Group.all : List Group := [.general, .julia, .toolchain, .configuration]

/-- The text of a heading. -/
def Group.title : Group → String
  | .general => "options"
  | .julia => "julia options"
  | .toolchain => "C toolchain options"
  | .configuration => "configuration"

/-- An option of the command line. -/
structure OptionSpec where
  group : Group
  names : List String
  effect : Effect
  help : List String
deriving DecidableEq, Repr

/-! ## The table -/

/-- An option that turns a setting on. -/
def switchSpec (names : List String) (setting : Setting) (help : List String) : OptionSpec :=
  ⟨.general, names, .turnOn (.setting setting), help⟩

/-- An option that sets a value. -/
def valueSpec (group : Group) (names : List String) (setting : Setting) (reading : Reading)
    (help : List String) : OptionSpec :=
  ⟨group, names, .store (.setting setting) reading, help⟩

/-- The options without a heading of their own. -/
def generalOptions : List OptionSpec :=
  [ ⟨.general, ["-h", "--help"], .showHelp, ["show this help message and exit"]⟩,
    ⟨.general, ["--version"], .showVersion, ["show program's version number and exit"]⟩,
    switchSpec ["-v", "--verbose"] .verbose ["increase verbosity"],
    switchSpec ["-q", "--quiet"] .quiet ["suppress non-error messages"],
    valueSpec .general ["-d", "--builddir"] .buildDir (.path "BUILD_DIR") ["build directory"],
    valueSpec .general ["-n", "--outname"] .outputName (.text "OUTPUT_NAME")
      ["output files basename"],
    valueSpec .general ["-p", "--snoopfile"] .snoopFile (.path "SNOOP_FILE")
      ["specify script calling functions to precompile"],
    switchSpec ["-c", "--clean"] .clean ["remove build directory"],
    switchSpec ["-a", "--auto-deps"] .autoDeps ["automatically build required dependencies"],
    switchSpec ["-o", "--object"] .object ["build object file"],
    switchSpec ["-s", "--shared"] .shared ["build shared library"],
    switchSpec ["-i", "--shared-init"] .sharedInit
      [ "shared library includes init_jl_runtime and",
        "exit_jl_runtime for julia runtime initialization" ],
    switchSpec ["-e", "--executable"] .executable ["build executable file"],
    switchSpec ["-t", "--remove-temp"] .removeTemp ["remove temporary build files"],
    switchSpec ["-j", "--copy-julialibs"] .copyRuntimeLibs
      ["copy Julia libraries to build directory"],
    switchSpec ["-r", "--release"] .release
      ["build in release mode, implies -O3 -g0 unless", "otherwise specified"],
    switchSpec ["-R", "--full-release"] .fullRelease
      ["perform a fully automated release build, equivalent to", "-caetjr"],
    ⟨.general, ["--copy-files"], .collect (.setting .copyFiles) "FILE",
      ["copy a user-specified file to build directory (repeat", "for more files)"]⟩ ]

/-- The options that are passed on to julia, and the one that names it. -/
def juliaOptions : List OptionSpec :=
  [ valueSpec .julia ["-J", "--sysimage"] .sysimage (.text "SYSIMAGE")
      ["start up with the given system image file"],
    valueSpec .julia ["--precompiled"] .precompiled (.word yesNo)
      ["use precompiled code from system image if available"],
    valueSpec .julia ["--compilecache"] .compilecache (.word yesNo)
      ["enable/disable incremental precompilation of modules"],
    valueSpec .julia ["-H", "--home"] .home (.text "HOME") ["set location of julia executable"],
    valueSpec .julia ["--startup-file"] .startupFile (.word yesNo) ["load ~/.juliarc.jl"],
    valueSpec .julia ["--handle-signals"] .handleSignals (.word yesNo)
      ["enable or disable Julia's default signal handlers"],
    valueSpec .julia ["--compile"] .compile (.word compileModes)
      ["enable or disable JIT compiler, or request exhaustive", "compilation"],
    valueSpec .julia ["-C", "--cpu-target"] .cpuTarget (.text "CPU_TARGET")
      ["limit usage of CPU features up to <target> (forces", "--precompiled=no)"],
    valueSpec .julia ["-O", "--optimize"] .optimize (.level 4) ["set the optimization level"],
    valueSpec .julia ["-g", "--debug"] .debug (.level 3)
      ["enable / set the level of debug info generation"],
    valueSpec .julia ["--inline"] .inlining (.word yesNo) ["control whether inlining is permitted"],
    valueSpec .julia ["--check-bounds"] .checkBounds (.word yesNo)
      ["emit bounds checks always or never"],
    valueSpec .julia ["--math-mode"] .mathMode (.word mathModes)
      ["disallow or enable unsafe floating point optimizations"],
    valueSpec .julia ["--depwarn"] .depwarn (.word warningModes)
      ["enable or disable syntax and method deprecation", "warnings"],
    valueSpec .julia ["--julia"] .julia (.text "JULIA")
      ["julia executable used to compile (default: julia)"] ]

/-- The options for the C compiler. -/
def toolchainOptions : List OptionSpec :=
  [ valueSpec .toolchain ["--cc"] .cc (.text "CC") ["system C compiler (default: gcc)"],
    valueSpec .toolchain ["--cc-flags"] .ccFlags (.text "CC_FLAGS")
      [ "pass custom flags to the system C compiler when",
        "building a shared library or executable (e.g. --cc-",
        "flags='-Wall -march=native')" ],
    valueSpec .toolchain ["--toolchain-root"] .toolchainRoot (.path "TOOLCHAIN_ROOT")
      ["MinGW sysroot whose bin/ and include/ directories are", "used on Windows"] ]

/-- The levels of diagnostics that can be asked for. -/
def logLevels : List String := ["DEBUG", "INFO", "WARNING", "ERROR"]

/-- The level of diagnostics if none is asked for. -/
def defaultLogLevel : String := "WARNING"

/-- The options for where settings come from, and the level of diagnostics. -/
def configurationOptions : List OptionSpec :=
  [ ⟨.configuration, ["--config"], .store .config (.path "CONFIG"),
      ["read defaults from this file (default: ./jlbuild.ini", "if present)"]⟩,
    ⟨.configuration, ["--profile"], .store .profile (.text "PROFILE"),
      ["apply a [profile:<name>] section of the config file"]⟩,
    ⟨.configuration, ["--log-level"], .store .logLevel (.word logLevels),
      ["diagnostic logging level (default: WARNING)"]⟩ ]

/-- All options in the order in which they are listed. -/
def options : List OptionSpec :=
  generalOptions ++ juliaOptions ++ toolchainOptions ++ configurationOptions

/-- The names of all options with the options that they name, in the order in which they are
    listed. -/
def optionNames : List (String × OptionSpec) :=
  options.flatMap fun spec => spec.names.map fun name => (name, spec)

/-- The option of a name. -/
def option? (name : String) : Option OptionSpec :=
  optionNames.lookup name

/-- The settings that the command line can give: the program and what the options set. -/
def targets : List Target :=
  .setting .program :: .driver :: options.filterMap fun spec =>
    match spec.effect with
    | .turnOn target | .store target _ | .collect target _ => some target
    | _ => none

end JuliaNative.CommandLine
