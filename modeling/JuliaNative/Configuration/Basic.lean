import JuliaNative.Configuration.Setting
import JuliaNative.Crash

set_option autoImplicit false

/-! # The configuration of a build

A configuration holds a value for every setting, or the mark that none was given. Options with a
fixed choice hold one of the allowed words and levels a number in their range: the types say so, and
making a configuration out of given values checks it once. -/

namespace JuliaNative

/-- One of a few allowed words. -/
structure Choice (allowed : List String) where
  word : String
  isAllowed : word ∈ allowed
deriving DecidableEq, Repr

/-- The words for switching something on or off. -/
abbrev yesNo : List String := ["yes", "no"]

/-- The words for the compilation modes. -/
abbrev compileModes : List String := ["yes", "no", "all", "min"]

/-- The words for the treatment of floating-point operations. -/
abbrev mathModes : List String := ["ieee", "fast"]

/-- The words for the treatment of deprecations. -/
abbrev warningModes : List String := ["yes", "no", "error"]

/-- Why given values make no configuration. -/
inductive ConfigurationIssue
  | invalidChoice (setting : String) (value : Value) (allowed : List String)
  | invalidLevel (setting : String) (value : Value)
  | levelOutOfRange (setting : String) (value : Value) (largest : Nat)
  | profileWithoutFile (profile : String) (directory : Path)
  | described (text : String)
deriving DecidableEq, Repr

/-- The message for a value that is refused. -/
def ConfigurationIssue.message : ConfigurationIssue → String
  | .invalidChoice setting value allowed =>
    "Invalid value for " ++ setting ++ ": " ++ value.shown ++ " (expected one of "
      ++ ", ".intercalate allowed ++ ")"
  | .invalidLevel setting value => "Invalid value for " ++ setting ++ ": " ++ value.shown
  | .levelOutOfRange setting value largest =>
    "Invalid value for " ++ setting ++ ": " ++ value.shown ++ " (expected 0-" ++ toString largest
      ++ ")"
  | .profileWithoutFile profile directory =>
    "--profile " ++ profile ++ " given but no jlbuild.ini found in " ++ directory.toString
  | .described text => text

/-- What keeps values from becoming a configuration: a refused value, or one of a kind that cannot
    be used at all. -/
inductive ConfigurationFault
  | issue (issue : ConfigurationIssue)
  | crash (crash : Crash)
deriving DecidableEq, Repr

/-- Every option of a build. What is absent was not specified. The two commands have defaults and
    are otherwise kept as they were given, since only running them shows whether they can be run. -/
structure Configuration where
  program : Path
  driverProgram : Option Path := none
  buildDir : Option Path := none
  outputName : Option String := none
  snoopFile : Option Path := none
  verbose : Bool := false
  quiet : Bool := false
  clean : Bool := false
  autoDeps : Bool := false
  object : Bool := false
  shared : Bool := false
  sharedInit : Bool := false
  executable : Bool := false
  removeTemp : Bool := false
  copyRuntimeLibs : Bool := false
  copyFiles : Option (List Path) := none
  release : Bool := false
  fullRelease : Bool := false
  sysimage : Option String := none
  precompiled : Option (Choice yesNo) := none
  compilecache : Option (Choice yesNo) := none
  home : Option String := none
  startupFile : Option (Choice yesNo) := none
  handleSignals : Option (Choice yesNo) := none
  compile : Option (Choice compileModes) := none
  cpuTarget : Option String := none
  optimize : Option (Fin 4) := none
  debug : Option (Fin 3) := none
  inlining : Option (Choice yesNo) := none
  checkBounds : Option (Choice yesNo) := none
  mathMode : Option (Choice mathModes) := none
  depwarn : Option (Choice warningModes) := none
  julia : Value := .text "julia"
  cc : Value := .text "gcc"
  ccFlags : List String := []
  toolchainRoot : Option Path := none
deriving DecidableEq, Repr

/-! ## Reading values -/

/-- The path that an element stands for. -/
def Item.toPath : Item → Except Crash Path
  | .text value => .ok (Path.ofString value)
  | .path value => .ok value
  | .other kind _ => .error (.pathExpected kind)

/-- The text that an element stands for. -/
def Item.toText : Item → String
  | .text value => value
  | .path value => value.toString
  | .other _ shown => shown

namespace Value

/-- The path that a value stands for; absence stands for none. -/
def toPath? : Value → Except Crash (Option Path)
  | absent => .ok none
  | text value => .ok (some (Path.ofString value))
  | path value => .ok (some value)
  | other => .error (.pathExpected other.kindName)

/-- The elements of a value that can be gone through; a text consists of its characters. -/
def toItems : Value → Except Crash (List Item)
  | list items => .ok items
  | text value => .ok (value.toList.map fun c => .text (String.singleton c))
  | other => .error (.listExpected other.kindName)

/-- The paths that a value stands for; absence stands for none at all. -/
def toPaths? (value : Value) : Except Crash (Option (List Path)) :=
  if value = absent then .ok none
  else do
    let items ← value.toItems
    some <$> items.mapM Item.toPath

/-- The words that a value stands for; absence stands for none of these. -/
def toWords (value : Value) : Except Crash (List String) := do
  let items ← value.toItems
  return items.map Item.toText

/-- The choice that a value stands for; absence stands for none. -/
def toChoice? (setting : Setting) (allowed : List String) :
    Value → Except ConfigurationIssue (Option (Choice allowed))
  | absent => .ok none
  | text word =>
    if h : word ∈ allowed then .ok (some ⟨word, h⟩)
    else .error (.invalidChoice setting.name (.text word) allowed)
  | other => .error (.invalidChoice setting.name other allowed)

/-- The level below a bound that a value stands for; absence stands for none. -/
def toLevel? (setting : Setting) (bound : Nat) (value : Value) :
    Except ConfigurationIssue (Option (Fin bound)) :=
  if value = .absent then .ok none
  else
    match value.toInteger? with
    | none => .error (.invalidLevel setting.name value)
    | some (.ofNat level) =>
      if h : level < bound then .ok (some ⟨level, h⟩)
      else .error (.levelOutOfRange setting.name value (bound - 1))
    | some (.negSucc _) => .error (.levelOutOfRange setting.name value (bound - 1))

end Value

/-! ## Making a configuration -/

namespace Configuration

/-- Whether a switch is on. -/
def switch (settings : Settings) (setting : Setting) : Bool :=
  (settings.value setting).isTrue

/-- Reads the value of a setting as a path. -/
def readPath (settings : Settings) (setting : Setting) :
    Except ConfigurationFault (Option Path) :=
  (settings.value setting).toPath?.mapError .crash

/-- Reads the value of a setting as one of the allowed words. -/
def readChoice (settings : Settings) (setting : Setting) (allowed : List String) :
    Except ConfigurationFault (Option (Choice allowed)) :=
  ((settings.value setting).toChoice? setting allowed).mapError .issue

/-- Reads the value of a setting as a level. -/
def readLevel (settings : Settings) (setting : Setting) (bound : Nat) :
    Except ConfigurationFault (Option (Fin bound)) :=
  ((settings.value setting).toLevel? setting bound).mapError .issue

/-- Reads the value of a setting as words; a setting that is not mentioned has none. -/
def readWords (settings : Settings) (setting : Setting) :
    Except ConfigurationFault (List String) :=
  match settings.get? setting with
  | none => .ok []
  | some value => value.toWords.mapError .crash

/-- The value for a setting, or its default if the setting is not mentioned. -/
def valueOr (settings : Settings) (setting : Setting) (default : String) : Value :=
  (settings.get? setting).getD (.text default)

/-- Reads the value of the program, which has to be mentioned. -/
def readProgram (settings : Settings) : Except ConfigurationFault (Option Path) :=
  if settings.has .program then readPath settings .program else .error (.crash .programMissing)

/-- Makes a configuration of the given values. Of several refused values the first is reported,
    paths before choices and choices before levels; that the program is absent shows last. -/
def ofSettings (settings : Settings) : Except ConfigurationFault Configuration := do
  let program ← readProgram settings
  let driverProgram ← readPath settings .driverProgram
  let buildDir ← readPath settings .buildDir
  let snoopFile ← readPath settings .snoopFile
  let toolchainRoot ← readPath settings .toolchainRoot
  let copyFiles ← (settings.value .copyFiles).toPaths?.mapError .crash
  let ccFlags ← readWords settings .ccFlags
  let precompiled ← readChoice settings .precompiled yesNo
  let compilecache ← readChoice settings .compilecache yesNo
  let startupFile ← readChoice settings .startupFile yesNo
  let handleSignals ← readChoice settings .handleSignals yesNo
  let compile ← readChoice settings .compile compileModes
  let inlining ← readChoice settings .inlining yesNo
  let checkBounds ← readChoice settings .checkBounds yesNo
  let mathMode ← readChoice settings .mathMode mathModes
  let depwarn ← readChoice settings .depwarn warningModes
  let optimize ← readLevel settings .optimize 4
  let debug ← readLevel settings .debug 3
  let some program := program | throw (.crash .programAbsent)
  pure {
    program, driverProgram, buildDir, snoopFile, toolchainRoot, copyFiles, precompiled,
    compilecache, startupFile, handleSignals, compile, inlining, checkBounds, mathMode, depwarn,
    optimize, debug, ccFlags
    outputName := (settings.value .outputName).toName?
    verbose := switch settings .verbose
    quiet := switch settings .quiet
    clean := switch settings .clean
    autoDeps := switch settings .autoDeps
    object := switch settings .object
    shared := switch settings .shared
    sharedInit := switch settings .sharedInit
    executable := switch settings .executable
    removeTemp := switch settings .removeTemp
    copyRuntimeLibs := switch settings .copyRuntimeLibs
    release := switch settings .release
    fullRelease := switch settings .fullRelease
    sysimage := (settings.value .sysimage).toText?
    home := (settings.value .home).toText?
    cpuTarget := (settings.value .cpuTarget).toText?
    julia := valueOr settings .julia "julia"
    cc := valueOr settings .cc "gcc" }

/-- Makes a configuration of values that are given by the names of settings. A name that no setting
    has is reported before anything else. -/
def ofNamed (entries : List (String × Value)) : Except ConfigurationFault Configuration := do
  let settings ← entries.mapM fun (name, value) =>
    match Setting.named? name with
    | some setting => .ok (setting, value)
    | none => .error (.crash (.settingUnknown name))
  ofSettings settings

/-! ## The values of a configuration -/

/-- A path as a value. -/
def ofPath (path : Option Path) : Value :=
  (path.map Value.path).getD .absent

/-- A text as a value. -/
def ofText (text : Option String) : Value :=
  (text.map Value.text).getD .absent

/-- A choice as a value. -/
def ofChoice {allowed : List String} (choice : Option (Choice allowed)) : Value :=
  ofText (choice.map (·.word))

/-- A level as a value. -/
def ofLevel {bound : Nat} (level : Option (Fin bound)) : Value :=
  (level.map fun n => Value.integer n.val).getD .absent

/-- The value that a configuration holds for a setting. -/
def value (configuration : Configuration) : Setting → Value
  | .program => .path configuration.program
  | .driverProgram => ofPath configuration.driverProgram
  | .buildDir => ofPath configuration.buildDir
  | .outputName => ofText configuration.outputName
  | .snoopFile => ofPath configuration.snoopFile
  | .verbose => .flag configuration.verbose
  | .quiet => .flag configuration.quiet
  | .clean => .flag configuration.clean
  | .autoDeps => .flag configuration.autoDeps
  | .object => .flag configuration.object
  | .shared => .flag configuration.shared
  | .sharedInit => .flag configuration.sharedInit
  | .executable => .flag configuration.executable
  | .removeTemp => .flag configuration.removeTemp
  | .copyRuntimeLibs => .flag configuration.copyRuntimeLibs
  | .copyFiles => (configuration.copyFiles.map Value.paths).getD .absent
  | .release => .flag configuration.release
  | .fullRelease => .flag configuration.fullRelease
  | .sysimage => ofText configuration.sysimage
  | .precompiled => ofChoice configuration.precompiled
  | .compilecache => ofChoice configuration.compilecache
  | .home => ofText configuration.home
  | .startupFile => ofChoice configuration.startupFile
  | .handleSignals => ofChoice configuration.handleSignals
  | .compile => ofChoice configuration.compile
  | .cpuTarget => ofText configuration.cpuTarget
  | .optimize => ofLevel configuration.optimize
  | .debug => ofLevel configuration.debug
  | .inlining => ofChoice configuration.inlining
  | .checkBounds => ofChoice configuration.checkBounds
  | .mathMode => ofChoice configuration.mathMode
  | .depwarn => ofChoice configuration.depwarn
  | .julia => configuration.julia
  | .cc => configuration.cc
  | .ccFlags => .words configuration.ccFlags
  | .toolchainRoot => ofPath configuration.toolchainRoot

/-- The values of a configuration for all settings, in the order in which settings are listed. -/
def settings (configuration : Configuration) : Settings :=
  Setting.all.map fun setting => (setting, configuration.value setting)

end Configuration
end JuliaNative
