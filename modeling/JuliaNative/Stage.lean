set_option autoImplicit false

/-! # Stages

A build is a sequence of stages that are selected one by one and always run in the same order. What
is selected decides which tools the build needs. -/

namespace JuliaNative

/-- A stage of a build; the order of the constructors is the order in which stages run. -/
inductive Stage
  | clean
  | object
  | shared
  | executable
  | removeTemp
  | copyRuntimeLibs
  | copyUserFiles
deriving DecidableEq, Repr

namespace Stage

/-- All stages in the order in which they run. -/
def all : List Stage :=
  [clean, object, shared, executable, removeTemp, copyRuntimeLibs, copyUserFiles]

/-- The name of a stage in a result. -/
def name : Stage → String
  | clean => "clean"
  | object => "object"
  | shared => "shared"
  | executable => "executable"
  | removeTemp => "remove_temp"
  | copyRuntimeLibs => "copy_runtime_libs"
  | copyUserFiles => "copy_user_files"

end Stage

/-- Which stages run. -/
structure StageSelection where
  clean : Bool := false
  object : Bool := false
  shared : Bool := false
  executable : Bool := false
  removeTemp : Bool := false
  copyRuntimeLibs : Bool := false
  copyUserFiles : Bool := false
deriving DecidableEq, Repr

namespace StageSelection

/-- Whether a stage is selected. -/
def selects (selection : StageSelection) : Stage → Bool
  | .clean => selection.clean
  | .object => selection.object
  | .shared => selection.shared
  | .executable => selection.executable
  | .removeTemp => selection.removeTemp
  | .copyRuntimeLibs => selection.copyRuntimeLibs
  | .copyUserFiles => selection.copyUserFiles

/-- The selected stages in the order in which they run. -/
def enabled (selection : StageSelection) : List Stage :=
  Stage.all.filter selection.selects

/-- Whether no stage is selected. -/
def nothingSelected (selection : StageSelection) : Bool :=
  selection.enabled.isEmpty

/-- Whether cleaning is the only selected stage. -/
def onlyClean (selection : StageSelection) : Bool :=
  selection.enabled = [.clean]

/-- Whether a selected stage needs to know the julia runtime. -/
def needsRuntime (selection : StageSelection) : Bool :=
  selection.object || selection.shared || selection.executable || selection.copyRuntimeLibs

/-- Whether a selected stage runs the C compiler. -/
def needsCompiler (selection : StageSelection) : Bool :=
  selection.shared || selection.executable

end StageSelection
end JuliaNative
