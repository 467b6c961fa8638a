import JuliaNative.Julia.Runtime
import JuliaNative.Text.Lowercase

set_option autoImplicit false

/-! # The report of julia

To learn about an installed julia, the build runs it once with an expression that prints one fact
per line, as a key, an equals sign and a value. This module holds the expression and reads the
answer. Lines of any other form are ignored, for a startup file may print too; a later line for a
key wins over an earlier one; the lines for the command's arguments are collected in order. -/

namespace JuliaNative

/-- The expression that makes julia report about itself. -/
def reportExpression : String :=
  "\nbindir = isdefined(Sys, :BINDIR) ? Sys.BINDIR : JULIA_HOME\n"
    ++ "dlext = isdefined(Base, :Libdl) ? Base.Libdl.dlext : Base.Libc.Libdl.dlext\n"
    ++ "threading = try ccall(:jl_threading_enabled, Cint, ()) != 0 catch; true end\n"
    ++ "println(\"version=\", VERSION)\n"
    ++ "println(\"bindir=\", bindir)\n"
    ++ "println(\"libdir=\", Base.LIBDIR)\n"
    ++ "println(\"private_libdir=\", Base.PRIVATE_LIBDIR)\n"
    ++ "println(\"includedir=\", Base.INCLUDEDIR)\n"
    ++ "println(\"dlext=\", dlext)\n"
    ++ "println(\"word_size=\", Sys.WORD_SIZE)\n"
    ++ "println(\"arch=\", Sys.ARCH)\n"
    ++ "println(\"threading=\", threading)\n"
    ++ "for arg in Base.julia_cmd().exec\n"
    ++ "    println(\"cmd=\", arg)\n"
    ++ "end\n"

/-- Why a report is refused, or why there is none. -/
inductive ReportIssue
  | keysMissing (keys : List String)
  | commandMissing
  | wordSizeInvalid (text : String)
  | versionUnreadable (text : String)
  | cannotRun (program : String) (error : SystemError)
  | exited (program : String) (status : Int) (stderr : String)
  | described (text : String)
deriving DecidableEq, Repr

/-- The message for a missing or refused report. -/
def ReportIssue.message : ReportIssue → String
  | .keysMissing keys => "julia runtime probe did not report: " ++ ", ".intercalate keys
  | .commandMissing => "julia runtime probe did not report Base.julia_cmd()"
  | .wordSizeInvalid text => "Invalid word size: " ++ Text.quote text
  | .versionUnreadable text => "Cannot parse julia version: " ++ Text.quote text
  | .cannotRun program error =>
    "Cannot run julia executable '" ++ program ++ "': " ++ error.message
  | .exited program status stderr =>
    "julia executable '" ++ program ++ "' exited with status " ++ toString status ++ "\nstderr: "
      ++ stderr
  | .described text => text

namespace Runtime

/-- The keys that a report has to hold, in the order in which missing ones are named. -/
def requiredKeys : List String :=
  ["version", "bindir", "libdir", "private_libdir", "includedir", "dlext", "word_size", "arch"]

/-- A line of a report: the key without blanks around it, and the value as it stands. A line without
    an equals sign reports nothing. -/
def splitLine (line : List Char) : Option (String × List Char) :=
  match line.dropWhile (· ≠ '=') with
  | [] => none
  | _ :: value => some (String.ofList (Text.trim (line.takeWhile (· ≠ '='))), value)

/-- The keys and values of all lines that report something. -/
def reportedFacts (report : String) : List (String × List Char) :=
  (Text.lines report.toList).filterMap splitLine

/-- The value that is reported last for a key, without blanks around it. -/
def lastFact? (facts : List (String × List Char)) (key : String) : Option String :=
  (facts.reverse.lookup key).map fun value => String.ofList (Text.trim value)

/-- The arguments of julia's command, each as it stands. -/
def reportedCommand (facts : List (String × List Char)) : List String :=
  facts.filterMap fun fact => if fact.1 = "cmd" then some (String.ofList fact.2) else none

/-- What can go wrong when a report is read: a fact is missing or unreadable, or a version has a
    number too long to be read. -/
inductive ReportFault
  | issue (issue : ReportIssue)
  | versionTooLong (digits : Nat)
deriving DecidableEq, Repr

/-- Reads the report of julia. -/
def ofReport (report : String) : Except ReportFault Runtime := do
  let facts := reportedFacts report
  let fact (key : String) : String := (lastFact? facts key).getD ""
  let missing := requiredKeys.filter fun key => (lastFact? facts key).isNone
  if missing ≠ [] then throw (.issue (.keysMissing missing))
  let command := reportedCommand facts
  if command = [] then throw (.issue .commandMissing)
  let wordSize ← match Text.integer? (fact "word_size") with
    | .ok size => pure size
    | .error _ => throw (.issue (.wordSizeInvalid (fact "word_size")))
  match Version.parse (fact "version") with
  | .error (.unreadable text) => throw (.issue (.versionUnreadable text))
  | .error (.tooLong digits) => throw (.versionTooLong digits)
  | .ok _ =>
    pure {
      version := fact "version"
      bindir := Path.ofString (fact "bindir")
      libdir := fact "libdir"
      privateLibdir := fact "private_libdir"
      includedir := fact "includedir"
      dlext := fact "dlext"
      wordSize := wordSize
      arch := fact "arch"
      command := command
      threading := Text.lower ((lastFact? facts "threading").getD "true") = "true" }

end Runtime
end JuliaNative
