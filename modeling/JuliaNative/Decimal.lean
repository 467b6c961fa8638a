set_option autoImplicit false

/-! # Decimal numbers

A number with a decimal fraction may stand where a level or a choice is expected, and is shown in
the message that refuses it. It is shown with as few digits as it has, in positional notation for
magnitudes from a ten-thousandth up to ten to the sixteenth and with an exponent beyond. -/

namespace JuliaNative

/-- A decimal number: a sign, a coefficient, and the power of ten that it is multiplied with. -/
structure Decimal where
  negative : Bool
  coefficient : Nat
  exponent : Int
deriving DecidableEq, Repr

namespace Decimal

/-- An integer as a decimal number. -/
def ofInt (number : Int) : Decimal :=
  ⟨number < 0, number.natAbs, 0⟩

/-- The nearest double-precision float. -/
def toFloat (number : Decimal) : Float :=
  let magnitude :=
    Float.ofScientific number.coefficient (number.exponent < 0) number.exponent.natAbs
  if number.negative then -magnitude else magnitude

/-! ## Reading -/

/-- The number in a text of an optional minus sign, digits with at most one point among them, and
    an optional exponent behind the letter `e`, with an optional sign. -/
def ofText? (text : String) : Option Decimal :=
  let (negative, cs) := match text.toList with
    | '-' :: rest => (true, rest)
    | cs => (false, cs)
  let mantissa := cs.takeWhile fun c => c ≠ 'e' ∧ c ≠ 'E'
  let exponentText := (cs.drop (mantissa.length + 1)).dropWhile (· = '+')
  let whole := mantissa.takeWhile (· ≠ '.')
  let fraction := mantissa.drop (whole.length + 1)
  let coefficient? := (String.ofList (whole ++ fraction)).toNat?
  let exponent? := if exponentText = [] then some 0 else (String.ofList exponentText).toInt?
  match coefficient?, exponent? with
  | some coefficient, some exponent =>
    some ⟨negative, coefficient, exponent - fraction.length⟩
  | _, _ => none

/-! ## Writing -/

/-- The integer part of a number. -/
def truncate (number : Decimal) : Int :=
  let magnitude : Nat :=
    if 0 ≤ number.exponent then number.coefficient * Nat.pow 10 number.exponent.toNat
    else number.coefficient / Nat.pow 10 (-number.exponent).toNat
  if number.negative then -(magnitude : Int) else magnitude

/-- The significant digits of a number, and how many of them stand before the point. -/
def significant (number : Decimal) : List Char × Int :=
  let digits := Nat.toDigits 10 number.coefficient
  ((digits.reverse.dropWhile (· = '0')).reverse, digits.length + number.exponent)

/-- The exponent of a number as it is written after the letter: a sign and at least two digits. -/
def exponentText (exponent : Int) : List Char :=
  let digits := Nat.toDigits 10 exponent.natAbs
  (if exponent < 0 then '-' else '+') :: List.replicate (2 - digits.length) '0' ++ digits

/-- The text of the magnitude of a number. -/
def magnitudeText (number : Decimal) : List Char :=
  let (digits, point) := number.significant
  if digits = [] then ['0', '.', '0']
  else if point ≤ -4 ∨ 16 < point then
    digits.take 1 ++ (if digits.length = 1 then [] else '.' :: digits.drop 1)
      ++ 'e' :: exponentText (point - 1)
  else if point ≤ 0 then '0' :: '.' :: List.replicate (-point).toNat '0' ++ digits
  else
    let whole := digits.take point.toNat ++ List.replicate (point.toNat - digits.length) '0'
    let fraction := digits.drop point.toNat
    whole ++ '.' :: (if fraction = [] then ['0'] else fraction)

/-- The text of a number. -/
def text (number : Decimal) : String :=
  String.ofList ((if number.negative then ['-'] else []) ++ number.magnitudeText)

end Decimal
end JuliaNative
