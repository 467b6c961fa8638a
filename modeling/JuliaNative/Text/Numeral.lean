import JuliaNative.Text.Blank
import JuliaNative.Text.Digit

set_option autoImplicit false

/-! # Numerals

An integer may be written with blanks around it, one sign, digits of any script, and single
underscores between digits. A numeral of more than `maximalDigits` digits is refused, so that
reading stays cheap. -/

namespace JuliaNative.Text

/-- The longest numeral that is read. -/
def maximalDigits : Nat := 4300

/-- Why a text is not read as an integer. -/
inductive NumeralFault
  /-- The text is not of the form of a numeral. -/
  | malformed
  /-- The numeral has this many digits, which is more than `maximalDigits`. -/
  | tooLong (digits : Nat)
deriving DecidableEq, Repr

/-- The blanks that may surround a numeral: all but the information separators. -/
def isNumeralBlank (c : Char) : Bool :=
  isBlank c && !(0x1c ≤ c.toNat && c.toNat ≤ 0x1f)

/-- The values of digits that follow one another directly or after one underscore. -/
def digitValues : List Char → Option (List Nat)
  | [] => none
  | c :: rest =>
    match digitValue? c, rest with
    | none, _ => none
    | some d, [] => some [d]
    | some d, '_' :: more => (digitValues more).map (d :: ·)
    | some d, next :: more => (digitValues (next :: more)).map (d :: ·)

/-- The number that digits denote, the most significant digit first. -/
def digitsToNat (digits : List Nat) : Nat :=
  digits.foldl (fun number digit => 10 * number + digit) 0

/-- Reads an unsigned numeral without blanks around it. -/
def natural? (cs : List Char) : Except NumeralFault Nat :=
  match digitValues cs with
  | none => .error .malformed
  | some digits =>
    if maximalDigits < digits.length then .error (.tooLong digits.length)
    else .ok (digitsToNat digits)

/-- A text without the blanks that may surround a numeral. -/
def trimNumeral (cs : List Char) : List Char :=
  ((cs.dropWhile isNumeralBlank).reverse.dropWhile isNumeralBlank).reverse

/-- Reads an integer. -/
def integer? (text : String) : Except NumeralFault Int :=
  match trimNumeral text.toList with
  | '-' :: digits => (natural? digits).map fun n => -(n : Int)
  | '+' :: digits => (natural? digits).map Int.ofNat
  | digits => (natural? digits).map Int.ofNat

end JuliaNative.Text
