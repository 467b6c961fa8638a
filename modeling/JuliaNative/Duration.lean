set_option autoImplicit false

/-! # Durations

A clock shows whole seconds, of any size, or a double-precision number of them. The time between two
whole readings is exact; between any others it is the rounded difference of two floats. A duration
is shown with a fixed number of decimal places. The text is the one nearest to the exact value of
the number; of two that are equally near, the one with an even last digit. -/

namespace JuliaNative

/-- A finite binary number: a sign, and a magnitude `significand * 2 ^ exponent`. -/
structure BinaryNumber where
  negative : Bool
  significand : Nat
  exponent : Int
deriving DecidableEq, Repr

namespace BinaryNumber

/-- The least significand of a normal number: the binary digits of a significand are fifty-three. -/
def leastNormal : Nat := Nat.pow 2 52

/-- The number that the bits of a double-precision float stand for, if it is finite. -/
def ofBits? (bits : Nat) : Option BinaryNumber :=
  let negative : Bool := bits / leastNormal / 2048 % 2 = 1
  let exponent : Nat := bits / leastNormal % 2048
  let fraction : Nat := bits % leastNormal
  if exponent = 2047 then none
  else if exponent = 0 then some ⟨negative, fraction, -1074⟩
  else some ⟨negative, leastNormal + fraction, (exponent : Int) - 1075⟩

/-- The quotient of two numbers, rounded to the nearest integer, a half to the even one. -/
def roundedQuotient (dividend divisor : Nat) : Nat :=
  let quotient := dividend / divisor
  let rest := 2 * (dividend % divisor)
  if rest < divisor then quotient
  else if divisor < rest then quotient + 1
  else quotient + quotient % 2

/-- The magnitude in units of the last of some decimal places, rounded. -/
def scaled (number : BinaryNumber) (places : Nat) : Nat :=
  let digits := number.significand * Nat.pow 10 places
  if 0 ≤ number.exponent then digits * Nat.pow 2 number.exponent.toNat
  else roundedQuotient digits (Nat.pow 2 (-number.exponent).toNat)

/-- The text with a fixed number of decimal places. -/
def fixedText (number : BinaryNumber) (places : Nat) : String :=
  let units := number.scaled places
  let whole := toString (units / Nat.pow 10 places)
  let fraction := Nat.toDigits 10 (units % Nat.pow 10 places)
  (if number.negative then "-" else "") ++ whole ++ "."
    ++ String.ofList (List.replicate (places - fraction.length) '0' ++ fraction)

/-- Rounding is off by at most half a unit. -/
theorem roundedQuotient_near (dividend divisor : Nat) (h : 0 < divisor) :
    2 * dividend ≤ 2 * (roundedQuotient dividend divisor * divisor) + divisor ∧
      2 * (roundedQuotient dividend divisor * divisor) ≤ 2 * dividend + divisor := by
  have hdiv := Nat.div_add_mod dividend divisor
  have hlt := Nat.mod_lt dividend h
  have hcomm : dividend / divisor * divisor = divisor * (dividend / divisor) := Nat.mul_comm ..
  have hpar := Nat.mod_two_eq_zero_or_one (dividend / divisor)
  unfold roundedQuotient
  simp only
  split
  · omega
  · split
    · rw [Nat.add_mul]; omega
    · rcases hpar with hp | hp <;> rw [hp, Nat.add_mul] <;> omega

end BinaryNumber

/-- A number of seconds with a fixed number of decimal places; one that is not finite is named. -/
def secondsText (places : Nat) (seconds : Float) : String :=
  match BinaryNumber.ofBits? seconds.toBits.toNat with
  | some number => number.fixedText places
  | none => if seconds.isNaN then "nan" else if seconds < 0 then "-inf" else "inf"

/-- A reading of a clock, or the time between two of them, in seconds. -/
inductive Seconds
  | whole (count : Int)
  | fraction (count : Float)

namespace Seconds

/-- The nearest double-precision number of seconds. -/
def toFloat : Seconds → Float
  | whole count => Float.ofInt count
  | fraction count => count

/-- The time from a start to a stop. -/
def since (stop start : Seconds) : Seconds :=
  match stop, start with
  | whole stop, whole start => whole (stop - start)
  | stop, start => fraction (stop.toFloat - start.toFloat)

/-- Whether no time passed at all. -/
def isZero : Seconds → Bool
  | whole count => count = 0
  | fraction count => count == 0

/-- The text with a fixed number of decimal places. -/
def text (places : Nat) (seconds : Seconds) : String :=
  secondsText places seconds.toFloat

/-- Between two whole readings nothing is lost, however large they are. -/
@[simp] theorem whole_since (stop start : Int) :
    (whole stop).since (whole start) = whole (stop - start) :=
  rfl

end Seconds
end JuliaNative
