import JuliaNative.Path.Basic
import JuliaNative.Table
import JuliaNative.Text.Blank
import JuliaNative.Text.Lowercase

set_option autoImplicit false

/-! # Configuration files

A configuration file consists of sections, each headed by its name in brackets, and of options with
their values. An option's value may be missing, and it may go on in lines that are indented deeper
than the option. Lines that start with a number sign or a semicolon are comments. The options of the
default section belong to every other section that does not write them itself. Neither a section nor
an option of a section may be written twice, the header of the default section apart. -/

namespace JuliaNative.Ini

/-- The options of a section; an option without a value is different from one with an empty one. -/
abbrev Options := Table String (Option String)

/-- A configuration file as it was read. -/
structure Document where
  defaults : Options
  sections : Table String Options
deriving DecidableEq, Repr

/-- The name of the section whose options belong to all others. -/
def defaultSection : String := "DEFAULT"

/-- Why a file is refused. The lines that hold no option are reported together, in order. -/
inductive FormFault
  | noSectionHeader (line : Nat) (text : String)
  | duplicateSection (line : Nat) (name : String)
  | duplicateOption (line : Nat) (sectionName name : String)
  | badLines (lines : List (Nat × String))
deriving DecidableEq, Repr

/-- The number of a line, padded to two places. -/
def lineNumber (line : Nat) : String :=
  (if line < 10 then " " else "") ++ toString line

/-- The message for a refused file. -/
def FormFault.message (source : Path) : FormFault → String
  | .noSectionHeader line text =>
    "File contains no section headers.\nfile: " ++ source.quoted ++ ", line: " ++ toString line
      ++ "\n" ++ Text.quote text
  | .duplicateSection line name =>
    "While reading from " ++ source.quoted ++ " [line " ++ lineNumber line ++ "]: section "
      ++ Text.quote name ++ " already exists"
  | .duplicateOption line sectionName name =>
    "While reading from " ++ source.quoted ++ " [line " ++ lineNumber line ++ "]: option "
      ++ Text.quote name ++ " in section " ++ Text.quote sectionName ++ " already exists"
  | .badLines lines =>
    "Source contains parsing errors: " ++ source.quoted ++ String.join (lines.map fun entry =>
      "\n\t[line " ++ lineNumber entry.1 ++ "]: " ++ Text.quote entry.2)

/-! ## Lines -/

/-- What stands on a line, once blanks are cut off. An option is given by the text before its
    delimiter, in lower case, and by the text behind the delimiter if there is one. -/
inductive Line
  | blank
  | comment
  | header (name : String)
  | option (name : String) (value : Option String)
deriving DecidableEq, Repr

/-- Whether a character parts an option from its value. -/
def isDelimiter (c : Char) : Bool :=
  c = '=' || c = ':'

/-- The name in a header: everything between the first bracket and the last closing one. -/
def headerName? : List Char → Option (List Char)
  | '[' :: rest =>
    match (rest.reverse.dropWhile (· ≠ ']')).drop 1 with
    | [] => none
    | name => some name.reverse
  | _ => none

/-- The name and the value of an option's line. -/
def splitOption (cs : List Char) : String × Option String :=
  let name := Text.lower (String.ofList (Text.trimEnd (cs.takeWhile (!isDelimiter ·))))
  match cs.dropWhile (!isDelimiter ·) with
  | [] => (name, none)
  | _ :: value => (name, some (String.ofList (Text.trim value)))

/-- What stands on a line. -/
def classify (line : List Char) : Line :=
  let content := Text.trim line
  match content with
  | [] => .blank
  | first :: _ =>
    if first = '#' ∨ first = ';' then .comment
    else
      match headerName? content with
      | some name => .header (String.ofList name)
      | none => .option (splitOption content).1 (splitOption content).2

/-- How far a line is indented. -/
def indentation (line : List Char) : Nat :=
  (line.takeWhile Text.isBlank).length

/-! ## Reading -/

/-- The lines of the values that are being read, by section and option. -/
abbrev OpenOptions := Table String (Option (List String))

/-- How far a file has been read: the options so far, the section and the option that a deeper line
    belongs to, the indentation of the last line that was no deeper, and the lines without an
    option. -/
structure Reading where
  defaults : OpenOptions := []
  sections : Table String OpenOptions := []
  current : Option String := none
  option : Option String := none
  indent : Nat := 0
  badLines : List (Nat × String) := []
deriving Repr

/-- What ends a reading early: the file is refused, or a line continues an option without value. -/
inductive ReadingFault
  | form (fault : FormFault)
  | valueContinued
deriving DecidableEq, Repr

namespace Reading

/-- The options of a section so far. -/
def options (reading : Reading) (name : String) : OpenOptions :=
  if name = defaultSection then reading.defaults else (reading.sections.get? name).getD []

/-- Gives an option of a section its lines. -/
def putOption (reading : Reading) (name option : String) (value : Option (List String)) :
    Reading :=
  let options := Table.put option value (reading.options name)
  if name = defaultSection then { reading with defaults := options }
  else { reading with sections := Table.put name options reading.sections }

/-- The option that a line may continue, with its section and its lines. -/
def continued? (reading : Reading) : Option (String × String × Option (List String)) :=
  match reading.current, reading.option with
  | some name, some option =>
    if option = "" then none
    else (Table.get? option (reading.options name)).map fun value => (name, option, value)
  | _, _ => none

/-- Appends a line to the option that is being read. -/
def extend (reading : Reading) (name option : String) (lines : List String) (line : String) :
    Reading :=
  reading.putOption name option (some (lines ++ [line]))

/-- Reads the header of a section. -/
def readHeader (reading : Reading) (number : Nat) (name : String) : Except ReadingFault Reading :=
  let opened := { reading with current := some name, option := none }
  if name = defaultSection then .ok opened
  else if Table.has name reading.sections then .error (.form (.duplicateSection number name))
  else .ok { opened with sections := Table.put name [] reading.sections }

/-- Reads an option; a line without a name before its delimiter is noted. -/
def readOption (reading : Reading) (number : Nat) (line : List Char) (name : String)
    (value : Option String) : Except ReadingFault Reading :=
  match reading.current with
  | none => .error (.form (.noSectionHeader number (String.ofList line)))
  | some sectionName =>
    if Table.has name (reading.options sectionName) then
      .error (.form (.duplicateOption number sectionName name))
    else
      let noted :=
        if name = "" then reading.badLines ++ [(number, String.ofList line)] else reading.badLines
      .ok (putOption { reading with option := some name, badLines := noted } sectionName name
        (value.map fun text => [text]))

/-- Reads a header or an option; an unindented line of either kind starts a new value. -/
def readContent (reading : Reading) (number : Nat) (line : List Char) :
    Except ReadingFault Reading :=
  let reading := { reading with indent := indentation line }
  match classify line with
  | .header name => reading.readHeader number name
  | .option name value => reading.readOption number line name value
  | _ => .ok reading

/-- Reads one line. -/
def readLine (reading : Reading) (number : Nat) (line : List Char) : Except ReadingFault Reading :=
  match classify line with
  | .comment => .ok reading
  | .blank =>
    match reading.continued? with
    | some (name, option, some lines) => .ok (reading.extend name option lines "")
    | _ => .ok reading
  | _ =>
    match reading.continued? with
    | some (name, option, value) =>
      if reading.indent < indentation line then
        match value with
        | some lines =>
          .ok (reading.extend name option lines (String.ofList (Text.trim line)))
        | none => .error .valueContinued
      else reading.readContent number line
    | none => reading.readContent number line

/-- Reads lines, numbering them from the given number on. -/
def readLines (reading : Reading) : Nat → List (List Char) → Except ReadingFault Reading
  | _, [] => .ok reading
  | number, line :: rest =>
    match reading.readLine number line with
    | .ok next => readLines next (number + 1) rest
    | .error fault => .error fault

/-- The options with the lines of their values joined and the blanks at their ends cut off. -/
def close (options : OpenOptions) : Options :=
  options.map fun entry =>
    (entry.1, entry.2.map fun lines => Text.stripEnd ("\n".intercalate lines))

/-- The document that has been read. -/
def document (reading : Reading) : Document where
  defaults := close reading.defaults
  sections := reading.sections.map fun entry => (entry.1, close entry.2)

end Reading

namespace Document

/-- The document in the lines of a file. -/
def ofLines (lines : List (List Char)) : Except ReadingFault Document :=
  match Reading.readLines {} 1 lines with
  | .error fault => .error fault
  | .ok reading =>
    if reading.badLines = [] then .ok reading.document
    else .error (.form (.badLines reading.badLines))

/-- The names of the sections in the order in which they were first written. -/
def sectionNames (document : Document) : List String :=
  document.sections.keys

/-- Whether a section is written. -/
def hasSection (document : Document) (name : String) : Bool :=
  document.sections.has name

/-- The options that are written in a section; every file has a default section. -/
def written? (document : Document) (name : String) : Option Options :=
  match document.sections.get? name with
  | some options => some options
  | none => if name = defaultSection then some [] else none

/-- The value of an option in a section, the default section's value standing in for a missing one.
    There is no result if the section is not written or the option is in neither. -/
def value? (document : Document) (name option : String) : Option (Option String) :=
  match document.written? name with
  | none => none
  | some options =>
    match options.get? option with
    | some value => some value
    | none => document.defaults.get? option

/-- The options of a section: its own in their order, then those of the default section. -/
def optionNames (document : Document) (name : String) : List String :=
  let own := ((document.written? name).getD []).keys
  own ++ document.defaults.keys.filter (· ∉ own)

end Document
end JuliaNative.Ini
