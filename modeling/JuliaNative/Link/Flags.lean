import JuliaNative.Text.ShellWords

set_option autoImplicit false

/-! # Flags of the C compiler

The flags for both links, in a fixed order: those that follow from the platform and the runtime, the
word size, the optimisation level, debug symbols, and the user's own flags last, so that they can
override all others. -/

namespace JuliaNative

/-- The flags in a text that the user gives: the words of a shell, or, if these are malformed, the
    words between blanks. -/
def flagsOfText (text : String) : List String :=
  (Text.shellWords? text).getD (Text.words text)

/-- The flag that selects the word size; only 32-bit builds need one, and 64-bit ARM has none. -/
def wordSizeFlag (wordSize : Int) (arch : String) : Option String :=
  if arch = "aarch64" then none
  else if wordSize = 32 then some "-m32"
  else none

/-- The debug level from which on the C compiler writes debug symbols. -/
def debugSymbolsLevel : Int := 2

/-- All flags of a link in their order. An empty word size flag counts as none. -/
def compilerFlags (base : List String) (wordSize : Option String) (optimize debug : Option Int)
    (extra : List String) : List String :=
  base
    ++ (wordSize.toList.filter (· ≠ ""))
    ++ (optimize.toList.map fun level => "-O" ++ toString level)
    ++ (if debug = some debugSymbolsLevel then ["-g"] else [])
    ++ extra

end JuliaNative
