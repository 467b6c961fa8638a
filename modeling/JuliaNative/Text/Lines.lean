set_option autoImplicit false

/-! # Lines

Two ways to cut a text into lines. A report or a trace is cut at every Unicode line boundary, where
a carriage return followed by a line feed is one boundary. A file read as text is cut at line feeds
alone, after the three common line ends have been made one, and its lines keep their line feed. -/

namespace JuliaNative.Text

/-- Whether a character ends a line by itself: the ASCII vertical movements, the information
    separators apart from the last, and Unicode's next-line, line and paragraph separators. -/
def isLineEnd (c : Char) : Bool :=
  let n := c.toNat
  (0x0a ≤ n && n ≤ 0x0d) || (0x1c ≤ n && n ≤ 0x1e) || n == 0x85 || n == 0x2028 || n == 0x2029

/-- The lines of a text without their ends; a text that ends with a line end has no empty last
    line. -/
def lines : List Char → List (List Char)
  | [] => []
  | '\r' :: '\n' :: rest => [] :: lines rest
  | c :: rest =>
    if isLineEnd c then [] :: lines rest
    else
      match lines rest with
      | [] => [[c]]
      | line :: others => (c :: line) :: others

/-- The lines of a string, as strings. -/
def linesOf (text : String) : List String :=
  (lines text.toList).map String.ofList

/-! ## Lines of a file -/

/-- Makes every carriage return, alone or before a line feed, one line feed. -/
def unifyLineEnds : List Char → List Char
  | [] => []
  | '\r' :: '\n' :: rest => '\n' :: unifyLineEnds rest
  | c :: rest => (if c = '\r' then '\n' else c) :: unifyLineEnds rest

/-- Cuts after every line feed; the last line may lack one. -/
def splitAfterFeeds : List Char → List (List Char)
  | [] => []
  | c :: rest =>
    if c = '\n' then [c] :: splitAfterFeeds rest
    else
      match splitAfterFeeds rest with
      | [] => [[c]]
      | line :: others => (c :: line) :: others

/-- Joining the lines of a file gives the file back. -/
theorem flatten_splitAfterFeeds (cs : List Char) : (splitAfterFeeds cs).flatten = cs := by
  induction cs with
  | nil => rfl
  | cons c rest ih =>
    by_cases h : c = '\n'
    · simp [splitAfterFeeds, h, ih]
    · cases hrest : splitAfterFeeds rest with
      | nil => simp_all [splitAfterFeeds]
      | cons line others => simp_all [splitAfterFeeds]

end JuliaNative.Text
