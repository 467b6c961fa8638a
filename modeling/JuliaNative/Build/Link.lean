import JuliaNative.Build.Compile

set_option autoImplicit false

/-! # Linking artifacts

The C compiler links the compiled program into a shared library, and a driver program with the
shared library into an executable. Each link first makes sure that what an earlier stage produces is
there, so that a missing stage is told apart from a failing compiler. -/

namespace JuliaNative

open JuliaNative.Action

/-- A C compiler with the rules and the runtime to link for. -/
structure Linker where
  compiler : String
  rules : LinkRules
  runtime : Runtime
deriving DecidableEq, Repr

namespace Linker

/-- Fails if the product of an earlier stage is not in the build directory. -/
def requireProduct (workshop : Workshop) (what kind product : String) : Action Unit := do
  if ← has (workshop.buildDir.child product) then pure ()
  else
    fail (.stage {
      task := .linking
      description :=
        what ++ ": " ++ kind ++ " \"" ++ product ++ "\" not found in "
          ++ workshop.buildDir.toString })

/-- The environment in which the compiler runs. -/
def environment (linker : Linker) : Action (Option Environment) := do
  return linker.rules.compilerEnvironment (← read).environment

/-- Links the shared library, with the source of the start and stop functions if that is asked
    for. -/
def linkShared (linker : Linker) (workshop : Workshop) (artifacts : Artifacts)
    (flags : List String) (withInit : Bool) : Action Path := do
  let what := "Build shared library \"" ++ artifacts.sharedLibrary ++ "\""
  requireProduct workshop what "object file" artifacts.objectFile
  if withInit then
    discard (workshop.stager.writeText artifacts.initSource initSource)
  let command ← ofExcept VersionFault.failure
    (sharedCommand linker.compiler linker.rules linker.runtime artifacts flags
      (if withInit then some artifacts.initSource else none))
  workshop.perform .linking what command (← linker.environment) what
  return workshop.buildDir.child artifacts.sharedLibrary

/-- Links a driver program with the shared library into an executable. -/
def linkExecutable (linker : Linker) (workshop : Workshop) (artifacts : Artifacts)
    (driver : Path) (flags : List String) : Action Path := do
  let what := "Build executable \"" ++ artifacts.executable ++ "\""
  requireProduct workshop what "shared library" artifacts.sharedLibrary
  let command :=
    executableCommand linker.compiler linker.rules linker.runtime artifacts driver.toString flags
  workshop.perform .linking what command (← linker.environment) what
  return workshop.buildDir.child artifacts.executable

end Linker
end JuliaNative
