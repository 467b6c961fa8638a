import JuliaNative.FileSystem.Walk
import JuliaNative.Text.Numeral
import JuliaNative.Text.Utf8

set_option autoImplicit false

/-! # Crashes

Failures that the build does not foresee: the operating system refuses an operation outside the
steps that expect it, bytes are not text, a value is missing where one is needed. A crash ends the
run; its kind and its message are shown to the user. -/

namespace JuliaNative

/-- An error that the operating system reports about one path or a pair of paths. -/
inductive SystemError
  | refused (refusal : Refusal) (path : String) (other : Option String)
  | linkedTree
deriving DecidableEq, Repr

/-- A refusal at one path. -/
def SystemError.at (refusal : Refusal) (path : Path) : SystemError :=
  .refused refusal path.toString none

/-- The number of a refusal and its text. -/
def Refusal.description : Refusal → Nat × String
  | .noEntry => (2, "No such file or directory")
  | .denied => (13, "Permission denied")
  | .exists => (17, "File exists")
  | .notDirectory => (20, "Not a directory")
  | .isDirectory => (21, "Is a directory")
  | .nameTooLong => (36, "File name too long")
  | .tooManyLinks => (40, "Too many levels of symbolic links")

/-- The message of an error of the operating system. -/
def SystemError.message : SystemError → String
  | .refused refusal path other =>
    "[Errno " ++ toString refusal.description.1 ++ "] " ++ refusal.description.2 ++ ": "
      ++ Text.quote path ++ (other.map fun text => " -> " ++ Text.quote text).getD ""
  | .linkedTree => "Cannot call rmtree on a symbolic link"

/-- The kind of an error of the operating system. -/
def SystemError.kind : SystemError → String
  | .refused .noEntry _ _ => "FileNotFoundError"
  | .refused .denied _ _ => "PermissionError"
  | .refused .exists _ _ => "FileExistsError"
  | .refused .notDirectory _ _ => "NotADirectoryError"
  | .refused .isDirectory _ _ => "IsADirectoryError"
  | .refused .nameTooLong _ _ | .refused .tooManyLinks _ _ | .linkedTree => "OSError"

/-- Failures that no step of the build expects. -/
inductive Crash
  /-- The operating system refuses an operation. -/
  | system (error : SystemError)
  /-- A file is not text. -/
  | undecodable (fault : Text.DecodeFault)
  /-- A version number is too long to be read. -/
  | numeralTooLong (digits : Nat)
  /-- A path holds the null character. -/
  | nullInPath
  /-- The links along a path never end. -/
  | linkLoop (path : Path)
  /-- There is no platform of this name. -/
  | unsupportedPlatform (name : String)
  /-- A path or an argument of a command is given by a value of this kind, which is none. -/
  | pathExpected (kind : String)
  /-- A list is given by a value of this kind, which is none. -/
  | listExpected (kind : String)
  /-- A value is given for a setting that there is not. -/
  | settingUnknown (name : String)
  /-- No program is given. -/
  | programMissing
  /-- The program is given as absent. -/
  | programAbsent
  /-- A line continues an option that has no value. -/
  | valueContinued
  /-- A reference leads to an option that has no value. -/
  | valueReferenced
  /-- An option of a configuration file is not found by its name. -/
  | optionUnwritten (name : String)
  /-- An option of the command line that has an empty list for its value is used as a text. -/
  | listUsed (member : String)
  /-- A process has vanished where one is needed. -/
  | processVanished (process : Int)
deriving DecidableEq, Repr

/-- The kind of a crash. -/
def Crash.kind : Crash → String
  | .system error => error.kind
  | .undecodable _ => "UnicodeDecodeError"
  | .numeralTooLong _ | .nullInPath | .unsupportedPlatform _ => "ValueError"
  | .linkLoop _ => "RuntimeError"
  | .pathExpected _ | .listExpected _ | .settingUnknown _ | .programMissing | .valueReferenced =>
    "TypeError"
  | .programAbsent | .valueContinued | .listUsed _ => "AttributeError"
  | .optionUnwritten _ => "KeyError"
  | .processVanished _ => "NoSuchProcess"

/-- The message of a crash. -/
def Crash.message : Crash → String
  | .system error => error.message
  | .undecodable fault => fault.message
  | .numeralTooLong digits =>
    "Exceeds the limit (" ++ toString Text.maximalDigits ++ " digits) for integer string conversion: "
      ++ "value has " ++ toString digits
      ++ " digits; use sys.set_int_max_str_digits() to increase the limit"
  | .nullInPath => "embedded null byte"
  | .linkLoop path => "Symlink loop from " ++ Text.quote path.toString
  | .unsupportedPlatform name => "Unsupported platform: " ++ name
  | .pathExpected kind => "expected str, bytes or os.PathLike object, not " ++ kind
  | .listExpected kind => "'" ++ kind ++ "' object is not iterable"
  | .settingUnknown name =>
    "BuildConfiguration.__init__() got an unexpected keyword argument '" ++ name ++ "'"
  | .programAbsent => "'NoneType' object has no attribute 'absolute'"
  | .programMissing =>
    "BuildConfiguration.__init__() missing 1 required positional argument: 'program'"
  | .valueContinued => "'NoneType' object has no attribute 'append'"
  | .valueReferenced => "argument of type 'NoneType' is not iterable"
  | .optionUnwritten name => Text.quote name
  | .listUsed member => "'list' object has no attribute " ++ Text.quote member
  | .processVanished process =>
    "process no longer exists (pid=" ++ toString process ++ ")"

end JuliaNative
