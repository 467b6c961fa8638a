set_option autoImplicit false

/-! # String literals of julia

A text stands in julia source between double quotes. A backslash, a double quote and a dollar sign
are written with a backslash before them, so that the text cannot end the literal or insert a value
into it. -/

namespace JuliaNative.Julia

/-- A character as it is written inside a literal. -/
def escapeChar (c : Char) : List Char :=
  if c = '\\' ∨ c = '"' ∨ c = '$' then ['\\', c] else [c]

/-- The literal for a text. -/
def literal (text : String) : String :=
  String.ofList ('"' :: text.toList.flatMap escapeChar ++ ['"'])

end JuliaNative.Julia
