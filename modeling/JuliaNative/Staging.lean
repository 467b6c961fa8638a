import JuliaNative.Artifacts
import JuliaNative.World

set_option autoImplicit false

/-! # Staging

Work on the build directory: removing and making it, writing generated files, removing what is only
needed while building, and copying the user's files and julia's libraries next to the artifacts. A
copy is skipped if the file in the build directory is up to date. A refusal of the operating system
fails the build, with one exception: a build directory that cannot be listed is not expected. -/

namespace JuliaNative

open JuliaNative.Action

/-- The build directory, and whether each file that is removed or copied is reported. -/
structure Stager where
  buildDir : Path
  verbose : Bool := false
deriving DecidableEq, Repr

/-- The error for a tree that is not removed. -/
def SystemError.ofTree (path : Path) : FileSystem.TreeRefusal → SystemError
  | .system refusal => .at refusal path
  | .isLink => .linkedTree

/-- The error for a file that is not copied. -/
def SystemError.ofCopy (source destination : Path) : FileSystem.CopyRefusal → SystemError
  | .source refusal => .at refusal source
  | .destination refusal => .at refusal destination
  | .link target refusal => .refused refusal target (some destination.toString)

namespace Stager

/-- Reports something if that is asked for. -/
def report (stager : Stager) (text : String) : Action Unit :=
  sayIf stager.verbose text

/-! ## The build directory -/

/-- Removes a directory with everything below it. -/
def removeTree (path : Path) (issue : SystemError → StagingIssue) : Action Unit := do
  refuseNull path
  let (changed, refusal) := (← files).removeTree path
  setFiles changed
  match refusal with
  | none => pure ()
  | some refusal => fail (.staging (issue (.ofTree path refusal)))

/-- Removes the build directory, if there is one, and tells whether there was. -/
def clean (stager : Stager) : Action Bool := do
  if ← isDirectory stager.buildDir then
    stager.report "Remove build directory"
    removeTree stager.buildDir (.buildDirNotRemoved stager.buildDir)
    return true
  else
    stager.report "Build directory does not exist"
    return false

/-- Makes the build directory with its parents, unless it is there, and tells whether it was made. -/
def ensureBuildDir (stager : Stager) : Action Bool := do
  if ← isDirectory stager.buildDir then return false
  else
    stager.report "Make build directory"
    refuseNull stager.buildDir
    let (changed, refusal) :=
      (← files).makeDirectories stager.buildDir.anchor stager.buildDir.parts.reverse
    setFiles changed
    match refusal with
    | none => return true
    | some (refusal, path) =>
      fail (.staging (.buildDirNotMade stager.buildDir (.at refusal path)))

/-- Writes a generated file into the build directory. -/
def writeText (stager : Stager) (name content : String) : Action Path := do
  let path := stager.buildDir.child name
  refuseNull path
  match (← files).write path ⟨content.toUTF8, .now⟩ with
  | .ok changed =>
    setFiles changed
    return path
  | .error refusal => fail (.staging (.notWritten path (.at refusal path)))

/-! ## Temporary files -/

/-- Removes an entry of the build directory. One that leads along a path that is too long is refused,
    since it is looked at first. -/
def removeEntry (path : Path) : Action Unit := do
  let current ← files
  if current.isDirectory path && !current.isLink path then removeTree path (.notRemoved path)
  else
    match current.locate path with
    | .error .nameTooLong => fail (.staging (.notRemoved path (.at .nameTooLong path)))
    | _ =>
      match current.remove path with
      | .ok changed => setFiles changed
      | .error refusal => fail (.staging (.notRemoved path (.at refusal path)))

/-- The names in a directory. -/
def entryNames (directory : Path) : Action (List String) := do
  refuseNull directory
  match (← files).list (← absolute directory) with
  | .ok names => return names
  | .error refusal => crash (.system (.at refusal directory))

/-- Reports that nothing was done. -/
def reportNone (stager : Stager) (done : List String) : Action Unit :=
  if done = [] then stager.report "  none" else pure ()

/-- Removes the entries of the build directory that are only needed while building, and tells their
    names. -/
def removeTemporary (stager : Stager) : Action (List String) := do
  stager.report "Remove temporary files:"
  let temporary := (← entryNames stager.buildDir).filter isTemporary
  temporary.forM fun name => do
    stager.report ("  " ++ name)
    removeEntry (stager.buildDir.entry name)
  stager.reportNone temporary
  return temporary

/-! ## Copies -/

/-- Puts a copy of a file in place of what stood at its destination. -/
def replaceBy (source destination : Path) : Action Unit := do
  let issue (error : SystemError) : BuildError :=
    .staging (.notCopied source destination error)
  let current ← files
  if current.has destination || current.isLink destination then
    match current.remove destination with
    | .ok changed => setFiles changed
    | .error refusal => fail (issue (.at refusal destination))
  refuseNull destination
  match (← files).copy (← absolute source) destination with
  | .ok changed => setFiles changed
  | .error refusal => fail (issue (.ofCopy source destination refusal))

/-- Copies a file into the build directory, unless the copy there is up to date, and tells whether
    it was copied. -/
def copyFile (stager : Stager) (source : Path) : Action Bool := do
  if ← isFile source then
    let location ← absolute source
    let destination := stager.buildDir.entry source.name
    discard (lookup destination)
    if (← files).needsCopy location destination then
      stager.report ("  " ++ source.name)
      replaceBy source destination
      return true
    else return false
  else fail (.staging (.sourceMissing source))

/-- Copies files into the build directory under a heading, and tells the names of the files that
    were copied. -/
def copyFiles (stager : Stager) (sources : List Path) (heading : String) :
    Action (List String) := do
  stager.report heading
  let copied ← sources.filterM stager.copyFile
  let names := copied.map (·.name)
  stager.reportNone names
  return names

/-! ## Runtime libraries -/

/-- Whether an entry of a directory is a shared library that is worth shipping. Every entry is looked
    at, whatever its name; a link counts as what it leads to. -/
def shipsEntry (rules : LinkRules) (directory : Path) (name : String) : Action Bool := do
  return (← isFile (directory.entry name)) && rules.isShipped name

/-- The shared libraries in a directory that are worth shipping, in the order of their names. -/
def selectLibraries (rules : LinkRules) (directory : Path) : Action (List Path) := do
  let names ← entryNames directory
  let shipped ← names.filterM (shipsEntry rules directory)
  return shipped.map directory.entry

/-- The directories of a runtime as they resolve now. -/
def runtimeDirectories (runtime : Runtime) : Action RuntimeDirectories := do
  return runtime.directories (← files) (← read).workingDirectory

/-- Copies the libraries that a program needs to run. -/
def copyRuntimeLibraries (stager : Stager) (rules : LinkRules) (runtime : Runtime) :
    Action (List String) := do
  let directories ← ofExcept .crash (rules.libraryDirectories runtime (← runtimeDirectories runtime))
  let libraries ← directories.mapM fun directory => do
    if ← isDirectory directory then selectLibraries rules directory
    else fail (.staging (.libraryDirectoryMissing directory))
  stager.copyFiles libraries.flatten "Copy Julia libraries to build directory:"

end Stager
end JuliaNative
