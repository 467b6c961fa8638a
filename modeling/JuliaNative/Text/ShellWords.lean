import JuliaNative.Text.Blank

set_option autoImplicit false

/-! # Words of a shell

A text of flags is split into words as a shell does it. Blanks part words; single quotes keep
everything between them, double quotes everything but a backslash before a double quote or a
backslash; elsewhere a backslash keeps the next character. Quotes may stand inside a word, and a
pair of quotes with nothing between them is an empty word. Nothing is expanded, and there are no
comments. -/

namespace JuliaNative.Text

/-- Where a splitter stands: outside quotes, or inside the quotes of a kind. -/
inductive QuoteState
  | bare
  | single
  | double
deriving DecidableEq, Repr

/-- The blanks of a shell. -/
def isShellBlank (c : Char) : Bool :=
  c = ' ' || c = '\t' || c = '\r' || c = '\n'

/-- Splits the rest of a text, given where it stands and the characters of the word that has begun,
    last one first. There is no result if a quote is not closed or nothing follows a backslash. -/
def splitShell : QuoteState → Option (List Char) → List Char → Option (List (List Char))
  | .bare, none, [] => some []
  | .bare, some word, [] => some [word.reverse]
  | .bare, _, ['\\'] => none
  | .bare, word, '\\' :: c :: rest => splitShell .bare (some (c :: word.getD [])) rest
  | .bare, word, c :: rest =>
    if isShellBlank c then
      match word with
      | none => splitShell .bare none rest
      | some word => (splitShell .bare none rest).map (word.reverse :: ·)
    else if c = '\'' then splitShell .single (some (word.getD [])) rest
    else if c = '"' then splitShell .double (some (word.getD [])) rest
    else splitShell .bare (some (c :: word.getD [])) rest
  | .single, _, [] => none
  | .single, word, c :: rest =>
    if c = '\'' then splitShell .bare word rest
    else splitShell .single (some (c :: word.getD [])) rest
  | .double, _, [] => none
  | .double, _, ['\\'] => none
  | .double, word, '\\' :: c :: rest =>
    if c = '\\' ∨ c = '"' then splitShell .double (some (c :: word.getD [])) rest
    else splitShell .double (some (c :: '\\' :: word.getD [])) rest
  | .double, word, c :: rest =>
    if c = '"' then splitShell .bare word rest
    else splitShell .double (some (c :: word.getD [])) rest

/-- The words of a text, if its quotes are closed. -/
def shellWords? (text : String) : Option (List String) :=
  (splitShell .bare none text.toList).map (·.map String.ofList)

/-! ## Quoting -/

/-- A word between single quotes; a single quote in it stands between double quotes of its own. -/
def shellQuote (word : List Char) : List Char :=
  '\'' :: word.flatMap (fun c => if c = '\'' then ['\'', '"', '\'', '"', '\''] else [c]) ++ ['\'']

end JuliaNative.Text
