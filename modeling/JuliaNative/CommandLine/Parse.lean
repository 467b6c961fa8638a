import JuliaNative.CommandLine.Option
import JuliaNative.Text.Digit
import JuliaNative.Text.Numeral

set_option autoImplicit false

/-! # Reading the command line

Every argument is first classified by itself: as an option, with a value attached to it or not, as a
plain argument, or as the mark after which all arguments are plain. Then the arguments are read from
the left. Plain arguments give the program and the driver program, but only where plain arguments
stand first: once an option comes after them, further plain arguments are left over. -/

namespace JuliaNative.CommandLine

/-! ## Refusals -/

/-- What is wrong with the value of an option. -/
inductive ValueIssue
  /-- A value is attached to an option that takes none. -/
  | ignored (value : String)
  /-- The value is missing. -/
  | expected
  /-- The value is no number. -/
  | notInteger (value : String)
  /-- The value is none of the allowed ones. -/
  | notAllowed (value : Value) (allowed : List Value)
deriving DecidableEq, Repr

/-- Why the arguments are refused. -/
inductive UsageIssue
  /-- An abbreviation stands for several options. -/
  | ambiguous (argument : String) (names : List String)
  /-- An option has a wrong value. -/
  | value (spec : OptionSpec) (issue : ValueIssue)
  /-- No program is given. -/
  | programMissing
  /-- Arguments are left over. -/
  | unrecognized (arguments : List String)
deriving DecidableEq, Repr

/-- The message for a wrong value. -/
def ValueIssue.message : ValueIssue → String
  | .ignored value => "ignored explicit argument " ++ Text.quote value
  | .expected => "expected one argument"
  | .notInteger value => "invalid int value: " ++ Text.quote value
  | .notAllowed value allowed =>
    "invalid choice: " ++ value.shown ++ " (choose from "
      ++ ", ".intercalate (allowed.map Value.shown) ++ ")"

/-- The message for arguments that are refused. -/
def UsageIssue.message : UsageIssue → String
  | .ambiguous argument names =>
    "ambiguous option: " ++ argument ++ " could match " ++ ", ".intercalate names
  | .value spec issue => "argument " ++ "/".intercalate spec.names ++ ": " ++ issue.message
  | .programMissing => "the following arguments are required: program"
  | .unrecognized arguments => "unrecognized arguments: " ++ " ".intercalate arguments

/-- What comes of arguments that give no options: a request for the help or the version, or a
    refusal. -/
inductive Interruption
  | help
  | version
  | refused (issue : UsageIssue)
deriving DecidableEq, Repr

/-! ## Single arguments -/

/-- An argument as it is understood by itself. -/
inductive Token
  /-- An argument that is no option. -/
  | plain (text : String)
  /-- The mark after which all arguments are plain. -/
  | mark
  /-- An option, and the value that is attached to it. -/
  | option (spec : OptionSpec) (name : String) (attached : Option String)
  /-- An argument that looks like an option and is none. -/
  | unknown (text : String)
deriving DecidableEq, Repr

/-- Cuts an argument at its first equals sign. -/
def splitAssignment (argument : String) : String × Option String :=
  let cs := argument.toList
  let name := cs.takeWhile (· ≠ '=')
  match cs.drop name.length with
  | [] => (argument, none)
  | _ :: value => (String.ofList name, some (String.ofList value))

/-- Whether an argument starts with another text. -/
def beginsWith (argument start : String) : Bool :=
  start.toList.isPrefixOf argument.toList

/-- The options that an argument may stand for though it is no name: abbreviations of long names,
    or a short name with a value directly behind it. -/
def candidates (argument : String) : List (String × OptionSpec × Option String) :=
  if beginsWith argument "--" then
    let (start, value) := splitAssignment argument
    (optionNames.filter fun entry => beginsWith entry.1 start).map fun entry =>
      (entry.1, entry.2, value)
  else
    let short := String.ofList (argument.toList.take 2)
    (optionNames.filter fun entry => entry.1 = short).map fun entry =>
      (entry.1, entry.2, some (String.ofList (argument.toList.drop 2)))

/-- Whether an argument is a negative number: a minus sign with digits, or with a point that has
    digits behind it. One line feed at the end does not count. -/
def isNegativeNumber (argument : String) : Bool :=
  let cs := argument.toList
  let cs := if cs.getLast? = some '\n' then cs.dropLast else cs
  match cs with
  | '-' :: digits =>
    let fraction := digits.dropWhile Text.isDigit
    match fraction with
    | [] => digits ≠ []
    | '.' :: rest => rest ≠ [] && rest.all Text.isDigit
    | _ => false
  | _ => false

/-- The option that an argument names, as it is or up to its first equals sign. -/
def named? (argument : String) : Option Token :=
  match option? argument with
  | some spec => some (.option spec argument none)
  | none =>
    match splitAssignment argument with
    | (_, none) => none
    | (name, some value) => (option? name).map fun spec => .option spec name (some value)

/-- Classifies an argument that starts with a hyphen and has something behind it. -/
def classifyOption (argument : String) : Except UsageIssue Token :=
  match named? argument with
  | some token => .ok token
  | none =>
    match candidates argument with
    | [(name, spec, value)] => .ok (.option spec name value)
    | [] =>
      if isNegativeNumber argument || argument.toList.contains ' ' then .ok (.plain argument)
      else .ok (.unknown argument)
    | several => .error (.ambiguous argument (several.map (·.1)))

/-- Classifies an argument before the mark. -/
def classify (argument : String) : Except UsageIssue Token :=
  match argument.toList with
  | '-' :: _ :: _ => classifyOption argument
  | _ => .ok (.plain argument)

/-- Classifies all arguments. -/
def classifyAll : List String → Except UsageIssue (List Token)
  | [] => .ok []
  | argument :: rest =>
    if argument = "--" then .ok (.mark :: rest.map .plain)
    else do
      let token ← classify argument
      let tokens ← classifyAll rest
      pure (token :: tokens)

/-! ## Values -/

/-- What the command line gives, by target. -/
abbrev Arguments := Table Target Value

/-- Reads the value of an option. -/
def Reading.read (spec : OptionSpec) (reading : Reading) (text : String) :
    Except UsageIssue Value :=
  match reading with
  | .text _ => .ok (.text text)
  | .path _ => .ok (.path (Path.ofString text))
  | .word allowed =>
    if text ∈ allowed then .ok (.text text)
    else .error (.value spec (.notAllowed (.text text) (allowed.map .text)))
  | .level bound =>
    match Text.integer? text with
    | .error _ => .error (.value spec (.notInteger text))
    | .ok number =>
      if 0 ≤ number ∧ number < bound then .ok (.integer number)
      else
        .error (.value spec (.notAllowed (.integer number)
          ((List.range bound).map fun (n : Nat) => .integer n)))

/-- Adds an element to the list of a target. -/
def addItem (arguments : Arguments) (target : Target) (item : Item) : Arguments :=
  match arguments.get? target with
  | some (.list items) => arguments.put target (.list (items ++ [item]))
  | _ => arguments.put target (.list [item])

/-- Does what an option without a value does. -/
def applySwitch (arguments : Arguments) (spec : OptionSpec) : Except Interruption Arguments :=
  match spec.effect with
  | .showHelp => .error .help
  | .showVersion => .error .version
  | .turnOn target => .ok (arguments.put target (.flag true))
  | _ => .error (.refused (.value spec .expected))

/-- Does what an option with a value does. The mark is no value: in its place an empty list is
    given. -/
def applyValue (arguments : Arguments) (spec : OptionSpec) (text : String) :
    Except Interruption Arguments :=
  match spec.effect with
  | .store target reading =>
    if text = "--" then .ok (arguments.put target (.list []))
    else
      match reading.read spec text with
      | .ok value => .ok (arguments.put target value)
      | .error issue => .error (.refused issue)
  | .collect target _ =>
    let item := if text = "--" then .emptyList else .path (Path.ofString text)
    .ok (addItem arguments target item)
  | _ => .error (.refused (.value spec (.ignored text)))

/-! ## Attached values -/

/-- The options in one argument: those that stand first and take no value, and the last one with the
    value that is attached to it. -/
structure Cluster where
  switches : List OptionSpec
  last : OptionSpec
  value : Option String
deriving DecidableEq, Repr

/-- Whether a name is one of the short names. -/
def isShort (name : String) : Bool :=
  !beginsWith name "--"

/-- Reads what is attached to an option. The characters behind a short option that takes no value
    are short options themselves, up to the first that takes a value, which is the rest. -/
def clusterOf (spec : OptionSpec) (short : Bool) : List Char → Except UsageIssue Cluster
  | [] =>
    if spec.effect.takesValue then .ok ⟨[], spec, some ""⟩
    else .error (.value spec (.ignored ""))
  | c :: rest =>
    if spec.effect.takesValue then .ok ⟨[], spec, some (String.ofList (c :: rest))⟩
    else if short then
      match option? (String.ofList ['-', c]) with
      | none => .error (.value spec (.ignored (String.ofList (c :: rest))))
      | some next =>
        if rest = [] then .ok ⟨[spec], next, none⟩
        else (clusterOf next true rest).map fun cluster =>
          { cluster with switches := spec :: cluster.switches }
    else .error (.value spec (.ignored (String.ofList (c :: rest))))

/-- The options in an argument. -/
def Cluster.of (spec : OptionSpec) (name : String) : Option String → Except UsageIssue Cluster
  | none => .ok ⟨[], spec, none⟩
  | some attached => clusterOf spec (isShort name) attached.toList

/-! ## All arguments -/

/-- Which plain arguments were read: none yet, the program just now, both just now, or both with an
    option behind them. -/
inductive Phase
  | program
  | driver
  | filled
  | closed
deriving DecidableEq, Repr

/-- What was read so far. -/
structure Progress where
  arguments : Arguments := []
  phase : Phase := .program
  leftOver : List String := []
deriving DecidableEq, Repr

namespace Progress

/-- An option comes behind the plain arguments that were read. -/
def close (progress : Progress) : Progress :=
  match progress.phase with
  | .program => progress
  | _ => { progress with phase := .closed }

/-- Leaves an argument over. -/
def leave (progress : Progress) (text : String) : Progress :=
  { progress with leftOver := progress.leftOver ++ [text] }

/-- Reads a plain argument. -/
def plain (progress : Progress) (text : String) : Progress :=
  match progress.phase with
  | .program =>
    { progress with
      arguments := progress.arguments.put (.setting .program) (.path (Path.ofString text))
      phase := .driver }
  | .driver =>
    if text = "--" then { progress with phase := .filled }
    else
      { progress with
        arguments := progress.arguments.put .driver (.path (Path.ofString text))
        phase := .filled }
  | _ => { progress.leave text with phase := .closed }

/-- Reads the mark. -/
def mark (progress : Progress) : Progress :=
  match progress.phase with
  | .closed => progress.leave "--"
  | _ => progress

/-- Does what the options of a cluster do, given the value of the last one if it takes a value. -/
def apply (progress : Progress) (cluster : Cluster) (value : Option String) :
    Except Interruption Progress := do
  let arguments ← cluster.switches.foldlM applySwitch progress.arguments
  let arguments ← match value with
    | none => applySwitch arguments cluster.last
    | some text => applyValue arguments cluster.last text
  pure { progress.close with arguments }

end Progress

/-- Reads arguments from the left. An option that takes a value and has none attached takes the
    argument behind it, if that is plain. -/
def readTokens (progress : Progress) : List Token → Except Interruption Progress
  | [] => .ok progress
  | .plain text :: rest => readTokens (progress.plain text) rest
  | .mark :: rest => readTokens progress.mark rest
  | .unknown text :: rest => readTokens (progress.close.leave text) rest
  | .option spec name attached :: rest =>
    match Cluster.of spec name attached with
    | .error issue => .error (.refused issue)
    | .ok cluster =>
      if cluster.value = none ∧ cluster.last.effect.takesValue then
        match rest with
        | .plain text :: more =>
          match progress.apply cluster (some text) with
          | .ok next => readTokens next more
          | .error interruption => .error interruption
        | _ => .error (.refused (.value cluster.last .expected))
      else
        match progress.apply cluster cluster.value with
        | .ok next => readTokens next rest
        | .error interruption => .error interruption

/-- Reads a command line. -/
def parse (arguments : List String) : Except Interruption Arguments := do
  let tokens ← (classifyAll arguments).mapError .refused
  let progress ← readTokens {} tokens
  if progress.phase = .program then throw (.refused .programMissing)
  if progress.leftOver ≠ [] then throw (.refused (.unrecognized progress.leftOver))
  pure progress.arguments

end JuliaNative.CommandLine
