import JuliaNative.Decimal
import JuliaNative.Path.Basic
import JuliaNative.Table
import JuliaNative.Text.Numeral

set_option autoImplicit false

/-! # Settings

The options of a build, each with its name, and the values that are given for them: by a caller, by
a configuration file or on the command line. Values come in several kinds, since a caller may give
anything; whether a value fits its setting is decided when a configuration is made of them. -/

namespace JuliaNative

/-- The options of a build. -/
inductive Setting
  | program
  | driverProgram
  | buildDir
  | outputName
  | snoopFile
  | verbose
  | quiet
  | clean
  | autoDeps
  | object
  | shared
  | sharedInit
  | executable
  | removeTemp
  | copyRuntimeLibs
  | copyFiles
  | release
  | fullRelease
  | sysimage
  | precompiled
  | compilecache
  | home
  | startupFile
  | handleSignals
  | compile
  | cpuTarget
  | optimize
  | debug
  | inlining
  | checkBounds
  | mathMode
  | depwarn
  | julia
  | cc
  | ccFlags
  | toolchainRoot
deriving DecidableEq, Repr

namespace Setting

/-- All settings with their names, in the order in which they are listed. -/
def table : List (Setting × String) :=
  [ (program, "program"), (driverProgram, "driver_program"), (buildDir, "build_dir"),
    (outputName, "output_name"), (snoopFile, "snoop_file"), (verbose, "verbose"),
    (quiet, "quiet"), (clean, "clean"), (autoDeps, "auto_deps"), (object, "object"),
    (shared, "shared"), (sharedInit, "shared_init"), (executable, "executable"),
    (removeTemp, "remove_temp"), (copyRuntimeLibs, "copy_runtime_libs"),
    (copyFiles, "copy_files"), (release, "release"), (fullRelease, "full_release"),
    (sysimage, "sysimage"), (precompiled, "precompiled"), (compilecache, "compilecache"),
    (home, "home"), (startupFile, "startup_file"), (handleSignals, "handle_signals"),
    (compile, "compile"), (cpuTarget, "cpu_target"), (optimize, "optimize"), (debug, "debug"),
    (inlining, "inline"), (checkBounds, "check_bounds"), (mathMode, "math_mode"),
    (depwarn, "depwarn"), (julia, "julia"), (cc, "cc"), (ccFlags, "cc_flags"),
    (toolchainRoot, "toolchain_root") ]

/-- All settings in the order in which they are listed. -/
def all : List Setting :=
  table.map (·.1)

/-- The name of a setting. -/
def name (setting : Setting) : String :=
  (Table.get? setting table).getD ""

/-- The setting of a name. -/
def named? (name : String) : Option Setting :=
  (table.find? (·.2 = name)).map (·.1)

/-- Every setting is found by its name. -/
theorem named?_name (setting : Setting) : named? setting.name = some setting := by
  cases setting <;> decide +kernel

/-- What the values of a setting in a configuration file are read as. -/
inductive Kind
  | flag
  | level
  | words
  | text
deriving DecidableEq, Repr

/-- The kind of a setting in a configuration file. -/
def kind : Setting → Kind
  | verbose | quiet | clean | autoDeps | object | shared | sharedInit | executable | removeTemp
  | copyRuntimeLibs | release | fullRelease => .flag
  | optimize | debug => .level
  | ccFlags | copyFiles => .words
  | _ => .text

end Setting

/-! ## Values -/

/-- An element of a list that is given for a setting. Of an element that is neither a text nor a path
    only the kind and the form in messages matter. -/
inductive Item
  | text (value : String)
  | path (value : Path)
  | other (kind shown : String)
deriving DecidableEq, Repr

namespace Item

/-- An element as a message shows it. -/
def shown : Item → String
  | text value => Text.quote value
  | path value => value.quoted
  | other _ shown => shown

/-- The kind of an element as a message names it. -/
def kindName : Item → String
  | text _ => "str"
  | path _ => "PosixPath"
  | other kind _ => kind

/-- The element that is an empty list itself. -/
def emptyList : Item :=
  other "list" "[]"

end Item

/-- A value that is given for a setting. -/
inductive Value
  | absent
  | flag (value : Bool)
  | integer (value : Int)
  | decimal (value : Decimal)
  | text (value : String)
  | path (value : Path)
  | list (items : List Item)
deriving DecidableEq, Repr, Inhabited

namespace Value

/-- A list of texts. -/
def words (texts : List String) : Value :=
  list (texts.map Item.text)

/-- A list of paths. -/
def paths (paths : List Path) : Value :=
  list (paths.map Item.path)

/-- A value as a message shows it. -/
def shown : Value → String
  | absent => "None"
  | flag value => if value then "True" else "False"
  | integer value => toString value
  | decimal value => value.text
  | text value => Text.quote value
  | path value => value.quoted
  | list items => "[" ++ ", ".intercalate (items.map Item.shown) ++ "]"

/-- The kind of a value as a message names it. -/
def kindName : Value → String
  | absent => "NoneType"
  | flag _ => "bool"
  | integer _ => "int"
  | decimal _ => "float"
  | text _ => "str"
  | path _ => "PosixPath"
  | list _ => "list"

/-- The number that a value stands for: truth counts as one, fractions are cut off, and texts are
    read as numerals. -/
def toInteger? : Value → Option Int
  | flag value => some (if value then 1 else 0)
  | integer value => some value
  | decimal value => some value.truncate
  | text value => (Text.integer? value).toOption
  | _ => none

/-- Whether a value counts as true. -/
def isTrue : Value → Bool
  | absent => false
  | flag value => value
  | integer value => value ≠ 0
  | decimal value => value.coefficient ≠ 0
  | text value => value ≠ ""
  | path _ => true
  | list items => items ≠ []

/-- A value that stands for a text; absence stands for none. -/
def toText? : Value → Option String
  | absent => none
  | text value => some value
  | path value => some value.toString
  | other => some other.shown

/-- The name that a value stands for. Absence stands for none, and a value that counts as false for
    the empty name. -/
def toName? (value : Value) : Option String :=
  if value = absent ∨ value.isTrue then value.toText? else some ""

/-- Whether a value is given at all. -/
def isGiven (value : Value) : Bool :=
  value ≠ .absent

end Value

/-- Values for some settings, in the order in which they were first given. -/
abbrev Settings := Table Setting Value

/-- The value for a setting, absent if none is given. -/
def Settings.value (settings : Settings) (setting : Setting) : Value :=
  (settings.get? setting).getD .absent

/-- Puts the entries of a second table over those of a first one, except for those whose value does
    not count as given. -/
def overlayGiven {κ ν : Type} [DecidableEq κ] (isGiven : ν → Bool) (base upper : Table κ ν) :
    Table κ ν :=
  base.overlay (upper.filter fun entry => isGiven entry.2)

end JuliaNative
