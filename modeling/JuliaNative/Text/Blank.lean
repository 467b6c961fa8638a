set_option autoImplicit false

/-! # Blanks

Which characters count as white space, and the three things done with it: cutting it off at the
ends of a text, cutting it off at one end, and splitting a text into words at it. The class is
Unicode's white space together with the four information separators. -/

namespace JuliaNative.Text

/-- Whether a character is white space: the ASCII blanks, the information separators, the next-line
    character and Unicode's other spaces and separators. -/
def isBlank (c : Char) : Bool :=
  let n := c.toNat
  (0x09 ≤ n && n ≤ 0x0d) || (0x1c ≤ n && n ≤ 0x20) || n == 0x85 || n == 0xa0 || n == 0x1680 ||
    (0x2000 ≤ n && n ≤ 0x200a) || n == 0x2028 || n == 0x2029 || n == 0x202f || n == 0x205f ||
    n == 0x3000

/-- Whatever core calls white space is a blank here. -/
theorem isBlank_of_isWhitespace {c : Char} (h : c.isWhitespace = true) : isBlank c = true := by
  simp only [Char.isWhitespace, Bool.or_eq_true, decide_eq_true_eq] at h
  rcases h with ((rfl | rfl) | rfl) | rfl <;> decide

/-! ## Cutting blanks off -/

/-- A text without the blanks at its end. -/
def trimEnd (cs : List Char) : List Char :=
  (cs.reverse.dropWhile isBlank).reverse

/-- A text without the blanks at its two ends. -/
def trim (cs : List Char) : List Char :=
  trimEnd (cs.dropWhile isBlank)

/-- A string without the blanks at its end. -/
def stripEnd (text : String) : String :=
  String.ofList (trimEnd text.toList)

/-- A string without the blanks at its two ends. -/
def strip (text : String) : String :=
  String.ofList (trim text.toList)

/-! ## Words -/

/-- The maximal runs of characters that are not blank, in order. -/
def words (text : String) : List String :=
  ((text.toList.splitOnP isBlank).filter (!·.isEmpty)).map String.ofList

end JuliaNative.Text
