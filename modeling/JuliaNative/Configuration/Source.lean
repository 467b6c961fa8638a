import JuliaNative.World

set_option autoImplicit false

/-! # Where settings come from

Settings come from a configuration file, which is named or looked for in a directory, and from the
command line, whose settings go over those of the file. A profile can only be asked for if there is
a file. -/

namespace JuliaNative

open JuliaNative.Action

/-- Reads a configuration file. One that is there but cannot be opened counts as empty. -/
def readConfigFile (path : Path) : Action ConfigFile := do
  if ← has path then
    let bytes := (((← files).read (← absolute path)).toOption.map (·.content)).getD ByteArray.empty
    ofExcept ConfigFileFault.failure (ConfigFile.ofBytes path bytes)
  else fail (.configFile (.notFound path))

/-- The configuration file in a directory, if there is one. -/
def findConfigFile (directory : Path) : Action (Option Path) := do
  let candidate := directory.child configFileName
  return if ← has candidate then some candidate else none

/-- The settings that a configuration file gives for a profile. A file that is not named is looked
    for in a directory; without any file there are no settings. -/
def fileSettings (named : Option Path) (profile : Option String) (directory : Path) :
    Action Settings := do
  let found ← match named with
    | some path => pure (some path)
    | none => findConfigFile directory
  match found with
  | some path =>
    let file ← readConfigFile path
    ofExcept ConfigFileFault.failure (file.settings profile)
  | none =>
    match profile with
    | none => return []
    | some name =>
      if name = "" then return []
      else fail (.configuration (.profileWithoutFile name directory))

/-- Settings of a file with the given ones of the command line over them. -/
def Settings.merge (file commandLine : Settings) : Settings :=
  overlayGiven Value.isGiven file commandLine

end JuliaNative
