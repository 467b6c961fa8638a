import JuliaNative.Text.Numeral
import JuliaNative.Text.Quoted

set_option autoImplicit false

/-! # Versions of julia

A version is written as two or three numbers with dots between them, and whatever follows is
ignored: the parts for pre-releases and builds do not matter to the build. Versions are compared
number by number. -/

namespace JuliaNative

/-- The three numbers of a version. -/
structure Version where
  major : Nat
  minor : Nat
  patch : Nat
deriving DecidableEq, Repr

/-- Why a text is not read as a version. -/
inductive VersionFault
  | unreadable (text : String)
  | tooLong (digits : Nat)
deriving DecidableEq, Repr

namespace Version

/-- Reads one number at the start of a text; the digits are given with what follows them. -/
def splitDigits (cs : List Char) : List Char × List Char :=
  (cs.takeWhile Text.isDigit, cs.dropWhile Text.isDigit)

/-- The digits of the numbers at the start of a version's text: the third one may be missing. -/
def components? (cs : List Char) : Option (List Char × List Char × List Char) :=
  match splitDigits cs with
  | ([], _) => none
  | (major, '.' :: rest) =>
    match splitDigits rest with
    | ([], _) => none
    | (minor, '.' :: more) => some (major, minor, (splitDigits more).1)
    | (minor, _) => some (major, minor, [])
  | _ => none

/-- The number that a run of digits denotes; no digits denote zero. -/
def component (digits : List Char) : Except VersionFault Nat :=
  if digits = [] then .ok 0
  else
    let values := digits.filterMap Text.digitValue?
    if Text.maximalDigits < values.length then .error (.tooLong values.length)
    else .ok (Text.digitsToNat values)

/-- Reads a version from a text with blanks around it. -/
def parse (text : String) : Except VersionFault Version :=
  match components? (Text.trim text.toList) with
  | none => .error (.unreadable text)
  | some (major, minor, patch) =>
    match component major, component minor, component patch with
    | .ok major, .ok minor, .ok patch => .ok ⟨major, minor, patch⟩
    | .error fault, _, _ => .error fault
    | _, .error fault, _ => .error fault
    | _, _, .error fault => .error fault

/-- Whether one version is at least another one, comparing the numbers from the left. -/
def atLeast (version bound : Version) : Bool :=
  if version.major ≠ bound.major then bound.major < version.major
  else if version.minor ≠ bound.minor then bound.minor < version.minor
  else bound.patch ≤ version.patch

/-- The first version whose compiler writes a static archive in place of an object file. -/
def firstWithArchive : Version := ⟨0, 7, 0⟩

end Version
end JuliaNative
