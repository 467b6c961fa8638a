import JuliaNative.Julia.Source

set_option autoImplicit false

/-! # Reading julia source

A reader of julia source goes from character to character and is at each of them in the middle of code, a
comment or a string literal. A literal starts and ends with a double quote; a backslash in it takes the
next character as it is, and a dollar sign that no backslash takes inserts a value. Outside literals a
hash sign starts a comment, which ends with the line. Every other character stands for itself.

A text that is written as a literal is read back, whatever it holds and whatever follows it
(`spells_literal`). So the expression that loads a program always has the same shape: two literals, for
the cache directory and for the program, in code that is the same for all of them
(`scan_loadExpression`). -/

namespace JuliaNative.Julia

variable {cs : List Char}

/-! ## The reader -/

/-- What a reader of source is in the middle of: code, a comment, a literal, or a literal right behind a
    backslash. -/
inductive Inside
  | code
  | comment
  | literal
  | escape
deriving DecidableEq, Repr

/-- What a character of source is to its reader: a character of code or of a comment, the quote before or
    behind a literal, a character of a literal's value, or a dollar sign that inserts a value. The
    backslash of an escape is nothing by itself. -/
inductive Mark
  | code (c : Char)
  | comment (c : Char)
  | opening
  | content (c : Char)
  | insertion
  | closing
deriving DecidableEq, Repr

namespace Inside

/-- What the reader is in the middle of after a character. -/
def next : Inside → Char → Inside
  | .code, c => if c = '"' then .literal else if c = '#' then .comment else .code
  | .comment, c => if c = '\n' then .code else .comment
  | .literal, c => if c = '"' then .code else if c = '\\' then .escape else .literal
  | .escape, _ => .literal

/-- What a character is to a reader in the middle of something. -/
def marks : Inside → Char → List Mark
  | .code, c => if c = '"' then [.opening] else if c = '#' then [.comment c] else [.code c]
  | .comment, c => if c = '\n' then [.code c] else [.comment c]
  | .literal, c =>
    if c = '"' then [.closing]
    else if c = '\\' then []
    else if c = '$' then [.insertion]
    else [.content c]
  | .escape, c => [.content c]

/-- What the reader is in the middle of after some characters. -/
def after (inside : Inside) (cs : List Char) : Inside :=
  cs.foldl next inside

end Inside

/-- What the characters of a source are to a reader in the middle of something. -/
def scan : Inside → List Char → List Mark
  | _, [] => []
  | inside, c :: rest => inside.marks c ++ scan (inside.next c) rest

theorem Inside.after_append (inside : Inside) (first second : List Char) :
    inside.after (first ++ second) = (inside.after first).after second :=
  List.foldl_append

/-- Reading goes on where it stopped. -/
theorem scan_append (inside : Inside) (first second : List Char) :
    scan inside (first ++ second) = scan inside first ++ scan (inside.after first) second := by
  induction first generalizing inside with
  | nil => rfl
  | cons c first ih =>
      rw [List.cons_append, scan, scan, ih, List.append_assoc]
      rfl

/-! ## Code -/

/-- Characters that are nothing but code: no quote starts a literal and no hash sign a comment. -/
def IsCode (cs : List Char) : Prop :=
  ∀ c ∈ cs, c ≠ '"' ∧ c ≠ '#'

instance : DecidablePred IsCode :=
  fun cs => cs.decidableBAll fun c => c ≠ '"' ∧ c ≠ '#'

theorem scan_code (h : IsCode cs) (rest : List Char) :
    scan .code (cs ++ rest) = cs.map .code ++ scan .code rest := by
  induction cs with
  | nil => rfl
  | cons c cs ih =>
      obtain ⟨⟨hquote, hhash⟩, hcs⟩ := List.forall_mem_cons.1 h
      simp [scan, Inside.marks, Inside.next, hquote, hhash, ih hcs]

/-! ## Literals -/

/-- What a literal with a value is to a reader. -/
def literalMarks (value : List Char) : List Mark :=
  .opening :: (value.map .content ++ [.closing])

/-- Characters spell a literal with a value: a reader of code finds that literal and nothing else in them,
    and is back in code behind them. -/
def Spells (written value : List Char) : Prop :=
  ∀ rest, scan .code (written ++ rest) = literalMarks value ++ scan .code rest

/-- A character is written in a literal so that it is read as itself. -/
theorem scan_escapeChar (c : Char) (rest : List Char) :
    scan .literal (escapeChar c ++ rest) = .content c :: scan .literal rest := by
  unfold escapeChar
  split
  · simp [scan, Inside.marks, Inside.next]
  · next hplain =>
      obtain ⟨hbackslash, hquote, hdollar⟩ : c ≠ '\\' ∧ c ≠ '"' ∧ c ≠ '$' := by simpa using hplain
      simp [scan, Inside.marks, Inside.next, hbackslash, hquote, hdollar]

theorem scan_flatMap_escapeChar (cs rest : List Char) :
    scan .literal (cs.flatMap escapeChar ++ rest) = cs.map .content ++ scan .literal rest := by
  induction cs with
  | nil => rfl
  | cons c cs ih =>
      rw [List.flatMap_cons, List.append_assoc, scan_escapeChar, ih]
      rfl

/-- What is written for a text is a literal with that text as its value. -/
theorem spells_literal (text : String) : Spells (literal text).toList text.toList := by
  intro rest
  calc scan .code ((literal text).toList ++ rest)
      = .opening :: scan .literal (text.toList.flatMap escapeChar ++ '"' :: rest) := by
        simp [literal, scan, Inside.marks, Inside.next]
    _ = .opening :: (text.toList.map .content ++ .closing :: scan .code rest) := by
        rw [scan_flatMap_escapeChar]
        rfl
    _ = literalMarks text.toList ++ scan .code rest := by
        simp [literalMarks]

example : scan .code (literal "a\"$b\\").toList = literalMarks "a\"$b\\".toList := by decide

/-! ## The expression that loads a program -/

/-- The code of an expression that loads a program: what stands before the cache directory, between it and
    the program, and behind the program. -/
structure LoadCode where
  before : String
  between : String
  behind : String
deriving DecidableEq, Repr

/-- The code around the two literals, for compilers that write archives and for those before. -/
def loadCode (archive : Bool) : LoadCode :=
  if archive then
    { before := "\n  Base.__init__(); Sys.__init__()\n  pushfirst!(Base.DEPOT_PATH, "
      between := ")\n  include("
      behind := ")" }
  else
    { before := "\n  empty!(Base.LOAD_CACHE_PATH)\n  push!(Base.LOAD_CACHE_PATH, "
      between := ")\n  Sys.__init__(); Base.early_init();\n  include("
      behind := ")\n  empty!(Base.LOAD_CACHE_PATH)" }

namespace LoadCode

/-- Code with literals spelled at its two places. -/
def around (code : LoadCode) (directory program : List Char) : List Char :=
  code.before.toList ++ (directory ++ (code.between.toList ++ (program ++ code.behind.toList)))

/-- All of it is code. -/
structure Plain (code : LoadCode) : Prop where
  before : IsCode code.before.toList
  between : IsCode code.between.toList
  behind : IsCode code.behind.toList

/-- In code with two literals a reader finds just these. -/
theorem scan_around {code : LoadCode} (h : code.Plain) {directory program value other : List Char}
    (hdirectory : Spells directory value) (hprogram : Spells program other) :
    scan .code (code.around directory program) =
      code.before.toList.map .code ++ (literalMarks value ++ (code.between.toList.map .code ++
        (literalMarks other ++ code.behind.toList.map .code))) := by
  have hbehind : scan .code code.behind.toList = code.behind.toList.map .code := by
    simpa [scan] using scan_code h.behind []
  rw [around, scan_code h.before, hdirectory, scan_code h.between, hprogram, hbehind]

end LoadCode

theorem plain_loadCode (archive : Bool) : (loadCode archive).Plain := by
  cases archive with
  | false => exact ⟨by decide +kernel, by decide +kernel, by decide +kernel⟩
  | true => exact ⟨by decide +kernel, by decide +kernel, by decide +kernel⟩

theorem toList_loadStatements (archive : Bool) (directory program : String) :
    ("\n" ++ "\n".intercalate ((loadStatements archive directory program).map ("  " ++ ·))).toList =
      (loadCode archive).around (literal directory).toList (literal program).toList := by
  cases archive with
  | false => simp [loadStatements, includeStatement, loadCode, LoadCode.around]
  | true => simp [loadStatements, includeStatement, loadCode, LoadCode.around]

/-- An expression that loads a program, if there is one for the runtime, holds two literals, whose values
    are the cache directory and the program; nothing is inserted into them, and the code around them is
    fixed by the kind of file that the compiler writes. -/
theorem scan_loadExpression (program : String) (runtime : Runtime) :
    match runtime.usesArchive with
    | .error fault => loadExpression program runtime = .error fault
    | .ok archive => ∃ expression, loadExpression program runtime = .ok expression ∧
        scan .code expression.toList =
          (loadCode archive).before.toList.map .code ++ (literalMarks runtime.cacheDirectory.toList ++
            ((loadCode archive).between.toList.map .code ++ (literalMarks program.toList ++
              (loadCode archive).behind.toList.map .code))) := by
  unfold loadExpression
  cases runtime.usesArchive with
  | error fault => rfl
  | ok archive =>
      refine ⟨_, rfl, ?_⟩
      rw [toList_loadStatements]
      exact LoadCode.scan_around (plain_loadCode archive) (spells_literal _) (spells_literal _)

end JuliaNative.Julia
