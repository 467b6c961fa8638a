import JuliaNative.CommandLine.Option

set_option autoImplicit false

/-! # Help

The usage and the help of the program, written from the table of options. The usage is filled into
lines of at most `lineWidth` characters; in the help, descriptions start in one column, on the line
of the names if these are short enough. -/

namespace JuliaNative.CommandLine

/-- The name of the program. -/
def programName : String := "jlbuild"

/-- The version of the program. -/
def version : String := "0.1.0"

/-- The text that tells the version. -/
def versionText : String :=
  programName ++ " " ++ version

/-- What the program does. -/
def summary : String := "jlbuild - compile a Julia program into native artifacts"

/-- The most characters on a line. -/
def lineWidth : Nat := 78

/-- The column in which descriptions start. -/
def descriptionColumn : Nat := 24

/-- Some spaces. -/
def spaces (count : Nat) : String :=
  String.ofList (List.replicate count ' ')

/-! ## Usage -/

/-- Fills words into lines of at most `lineWidth` characters, each word after one blank. The lines
    start after `indent` characters; `used` characters of the first one are taken and hold `line`. A
    word that is too long for any line has one of its own. -/
def fill (indent : Nat) (line : List String) (used : Nat) : List String → List (List String)
  | [] => if line = [] then [] else [line]
  | word :: words =>
    if lineWidth < used + word.length ∧ line ≠ [] then
      line :: fill indent [word] (indent + word.length + 1) words
    else fill indent (line ++ [word]) (used + word.length + 1) words

/-- What the usage says about an option. -/
def optionUsage (spec : OptionSpec) : String :=
  "[" ++ spec.names.headD "" ++ ((spec.effect.placeholder?.map (" " ++ ·)).getD "") ++ "]"

/-- The start of the usage. -/
def usageStart : String := "usage: "

/-- How far lines of the usage are indented after the first one. -/
def usageIndent : Nat := usageStart.length + programName.length + 1

/-- The lines of the usage. -/
def usageLines : List String :=
  let optionLines :=
    fill usageIndent [] usageStart.length (programName :: options.map optionUsage)
  let positionalLines := fill usageIndent [] usageIndent ["program", "[cprog]"]
  let texts := (optionLines ++ positionalLines).map (" ".intercalate ·)
  match texts with
  | [] => []
  | first :: others => (usageStart ++ first) :: others.map (spaces usageIndent ++ ·)

/-- The usage, with a line end after each line. -/
def usage : String :=
  String.join (usageLines.map (· ++ "\n"))

/-! ## Help -/

/-- The names of an option with what stands for its value. -/
def invocation (spec : OptionSpec) : String :=
  ", ".intercalate
    (spec.names.map fun name => name ++ (spec.effect.placeholder?.map (" " ++ ·)).getD "")

/-- An entry of the help: its names, indented by two, and the lines of its description in their
    column. -/
def entryLines (names : String) (description : List String) : List String :=
  let gap := descriptionColumn - 2 - names.length
  let described := description.map (spaces descriptionColumn ++ ·)
  if names.length + 4 ≤ descriptionColumn then
    match description with
    | [] => ["  " ++ names]
    | first :: _ => ("  " ++ names ++ spaces gap ++ first) :: described.drop 1
  else ("  " ++ names) :: described

/-- A part of the help: a heading and its entries. -/
def sectionLines (title : String) (entries : List (String × List String)) : List String :=
  (title ++ ":") :: entries.flatMap fun entry => entryLines entry.1 entry.2

/-- The positional arguments and what they are. -/
def positionals : List (String × List String) :=
  [ ("program", ["Julia program to compile"]),
    ("cprog",
      [ "C program to compile (required only when building an",
        "executable; if not provided a minimal driver program",
        "is used)" ]) ]

/-- The parts of the help after the usage, each a list of lines. -/
def helpParts : List (List String) :=
  [summary] :: sectionLines "positional arguments" positionals
    :: Group.all.map fun group =>
      sectionLines group.title
        ((options.filter (·.group = group)).map fun spec => (invocation spec, spec.help))

/-- The help, with a line end after each line but the last; empty lines part its parts. -/
def help : String :=
  "\n\n".intercalate ((usageLines :: helpParts).map ("\n".intercalate ·))

end JuliaNative.CommandLine
