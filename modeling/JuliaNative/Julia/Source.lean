import JuliaNative.Julia.Literal
import JuliaNative.Julia.Runtime
import JuliaNative.Text.Blank
import JuliaNative.Text.Lines

set_option autoImplicit false

/-! # Julia source

The pieces of julia source that the build writes: the expression that loads a program into an image,
and the main script that loads a program and replays the precompile statements of a trace. In both
the local cache directory or the program appears as a string literal. -/

namespace JuliaNative.Julia

/-- The statement that includes a file. -/
def includeStatement (file : String) : String :=
  "include(" ++ literal file ++ ")"

/-- The statements that load a program into an image. The cache directory is put first on julia's
    search path; before archives, the search path is emptied around the program. -/
def loadStatements (archive : Bool) (cacheDirectory program : String) : List String :=
  if archive then
    [ "Base.__init__(); Sys.__init__()",
      "pushfirst!(Base.DEPOT_PATH, " ++ literal cacheDirectory ++ ")",
      includeStatement program ]
  else
    [ "empty!(Base.LOAD_CACHE_PATH)",
      "push!(Base.LOAD_CACHE_PATH, " ++ literal cacheDirectory ++ ")",
      "Sys.__init__(); Base.early_init();",
      includeStatement program,
      "empty!(Base.LOAD_CACHE_PATH)" ]

/-- The expression that loads a program into an image: each statement on an indented line. -/
def loadExpression (program : String) (runtime : Runtime) : Except VersionFault String :=
  runtime.usesArchive.map fun archive =>
    "\n" ++ "\n".intercalate
      ((loadStatements archive runtime.cacheDirectory program).map ("  " ++ ·))

/-! ## The main script -/

/-- A statement that cannot abort the script it stands in. -/
def guarded (statement : List Char) : String :=
  "try; " ++ String.ofList statement ++ "; catch; end"

/-- Whether a line of a trace holds a statement: it is neither blank nor a comment. -/
def isStatement (line : List Char) : Bool :=
  line ≠ [] && line.head? ≠ some '#'

/-- The guarded statements of a trace, one for each line that holds one. -/
def guardedStatements (trace : String) : List String :=
  (((Text.lines trace.toList).map Text.trim).filter isStatement).map guarded

/-- The script that includes a program and then replays the statements of a trace. -/
def mainScript (program trace : String) : String :=
  "\n".intercalate (includeStatement program :: guardedStatements trace) ++ "\n"

end JuliaNative.Julia
