import JuliaNative.Configuration.Setting
import JuliaNative.Crash
import JuliaNative.Ini.Reference
import JuliaNative.Text.Utf8

set_option autoImplicit false

/-! # Settings from a configuration file

A configuration file gives settings in one base section and in the sections of profiles. A profile
is put over the base section. Every option has to be a known setting, and its text is read as the
setting's kind asks: a switch without a text is on, a list is cut at blanks, and an empty text
stands for no value. -/

namespace JuliaNative

/-- The section whose settings always apply. -/
def baseSection : String := "jlbuild"

/-- What the names of the sections of profiles start with. -/
def profilePrefix : String := "profile:"

/-- The name of the file that is looked for if none is given. -/
def configFileName : String := "jlbuild.ini"

/-- Why a configuration file gives no settings. -/
inductive ConfigFileIssue
  | notFound (path : Path)
  | malformed (path : Path) (fault : Ini.FormFault)
  | profileMissing (path : Path) (profile : String) (available : List String)
  | unknownOptions (path : Path) (names : List String)
  | sectionUnreadable (path : Path) (sectionName : String) (fault : Ini.ReferenceFault)
  | notBoolean (option text : String)
  | notInteger (option text : String)
  | described (text : String)
deriving DecidableEq, Repr

/-- The message for a configuration file that gives no settings. -/
def ConfigFileIssue.message : ConfigFileIssue → String
  | .notFound path => "Configuration file not found: " ++ path.toString
  | .malformed path fault => "Failed to parse " ++ path.toString ++ ": " ++ fault.message path
  | .profileMissing path profile available =>
    "Profile '" ++ profile ++ "' not found in " ++ path.toString ++ ". Available profiles: "
      ++ (if available = [] ∨ available = [""] then "none" else ", ".intercalate available)
  | .unknownOptions path names =>
    "Unknown option(s) in " ++ path.toString ++ ": " ++ ", ".intercalate names
  | .sectionUnreadable path sectionName fault =>
    "Failed to read [" ++ sectionName ++ "] in " ++ path.toString ++ ": " ++ fault.message
      ++ (if fault.isMalformed then " (write a literal $ as $$)" else "")
  | .notBoolean option text =>
    "Option '" ++ option ++ "' expects a boolean, got " ++ Text.quote text
  | .notInteger option text =>
    "Option '" ++ option ++ "' expects an integer, got " ++ Text.quote text
  | .described text => text

/-- What keeps a configuration file from giving settings: it is refused, or reading it crashes. -/
inductive ConfigFileFault
  | issue (issue : ConfigFileIssue)
  | crash (crash : Crash)
deriving DecidableEq, Repr

/-- A configuration file that was read, and the path it is named by in messages. -/
structure ConfigFile where
  path : Path
  document : Ini.Document
deriving DecidableEq, Repr

/-! ## Reading texts as values -/

/-- The words for truth values. -/
def truthWords : List (String × Bool) :=
  [ ("1", true), ("yes", true), ("true", true), ("on", true),
    ("0", false), ("no", false), ("false", false), ("off", false) ]

/-- Reads the text of a setting as its kind asks. -/
def Setting.read (setting : Setting) (text : Option String) : Except ConfigFileIssue Value :=
  let content := Text.strip (text.getD "")
  match setting.kind with
  | .flag =>
    if content = "" then .ok (.flag true)
    else
      match truthWords.lookup (Text.lower content) with
      | some value => .ok (.flag value)
      | none => .error (.notBoolean setting.name content)
  | .level =>
    match Text.integer? content with
    | .ok level => .ok (.integer level)
    | .error _ => .error (.notInteger setting.name content)
  | .words => .ok (.words (Text.words content))
  | .text => .ok (if content = "" then .absent else .text content)

namespace ConfigFile

/-! ## Reading a file -/

/-- The configuration file in some bytes. Lines before bytes that are no text are read first. -/
def ofBytes (path : Path) (bytes : ByteArray) : Except ConfigFileFault ConfigFile :=
  let refuse (fault : Ini.ReadingFault) : Except ConfigFileFault ConfigFile :=
    match fault with
    | .form fault => .error (.issue (.malformed path fault))
    | .valueContinued => .error (.crash .valueContinued)
  match Text.fileLines bytes with
  | (lines, none) =>
    match Ini.Document.ofLines lines with
    | .ok document => .ok ⟨path, document⟩
    | .error fault => refuse fault
  | (lines, some fault) =>
    match Ini.Reading.readLines {} 1 lines with
    | .ok _ => .error (.crash (.undecodable fault))
    | .error earlier => refuse earlier

/-- The names of all profiles in the order in which they were first written. -/
def profiles (file : ConfigFile) : List String :=
  file.document.sectionNames.filterMap fun name =>
    if profilePrefix.toList.isPrefixOf name.toList then
      some (String.ofList (name.toList.drop profilePrefix.toList.length))
    else none

/-! ## Settings -/

/-- An option of a section with its resolved value. -/
def optionText (file : ConfigFile) (sectionName option : String) :
    Except ConfigFileFault (String × Option String) :=
  match file.document.resolved sectionName option with
  | .ok value => .ok (option, value)
  | .error (.unwritten name) => .error (.crash (.optionUnwritten name))
  | .error .withoutValue => .error (.crash .valueReferenced)
  | .error fault => .error (.issue (.sectionUnreadable file.path sectionName fault))

/-- The options of a section with their resolved values. -/
def sectionTexts (file : ConfigFile) (sectionName : String) :
    Except ConfigFileFault (Table String (Option String)) :=
  (file.document.optionNames sectionName).mapM (file.optionText sectionName)

/-- The options of the base section, if there is one. -/
def baseTexts (file : ConfigFile) : Except ConfigFileFault (Table String (Option String)) :=
  if file.document.hasSection baseSection then file.sectionTexts baseSection else .ok []

/-- The options of the base section with those of a profile put over them. An empty name selects no
    profile. -/
def texts (file : ConfigFile) (profile : Option String) :
    Except ConfigFileFault (Table String (Option String)) := do
  let base ← file.baseTexts
  let name := profile.getD ""
  if name = "" then pure base
  else if file.document.hasSection (profilePrefix ++ name) then
    let own ← file.sectionTexts (profilePrefix ++ name)
    pure (base.overlay own)
  else throw (.issue (.profileMissing file.path name file.profiles))

/-- The options that are no settings. -/
def unknownNames (texts : Table String (Option String)) : List String :=
  texts.keys.filter fun name => (Setting.named? name).isNone

/-- The texts of the options that are settings. -/
def knownTexts (texts : Table String (Option String)) : Table Setting (Option String) :=
  texts.filterMap fun entry => (Setting.named? entry.1).map fun setting => (setting, entry.2)

/-- A setting with its text as it is read. -/
def readEntry (entry : Setting × Option String) : Except ConfigFileFault (Setting × Value) :=
  match entry.1.read entry.2 with
  | .ok value => .ok (entry.1, value)
  | .error issue => .error (.issue issue)

/-- The settings that a file gives for a profile. -/
def settings (file : ConfigFile) (profile : Option String) : Except ConfigFileFault Settings := do
  let texts ← file.texts profile
  if unknownNames texts ≠ [] then
    throw (.issue (.unknownOptions file.path ((unknownNames texts).mergeSort (· ≤ ·))))
  (knownTexts texts).mapM readEntry

end ConfigFile
end JuliaNative
