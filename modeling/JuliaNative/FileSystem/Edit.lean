import JuliaNative.FileSystem.Walk

set_option autoImplicit false

/-! # Operations on files

Reading and changing the file system through paths, as an operating system does it for an
administrator: an operation is refused only because of what is or is not there. Each operation
either gives the changed file system or the reason why it was refused; only making a directory with
its parents and removing a tree can change something before they are refused. -/

namespace JuliaNative.FileSystem

/-! ## Reading -/

/-- The content of the file that a path leads to. -/
def read (fs : FileSystem) (path : Path) : Except Refusal File :=
  match fs.locate path with
  | .error refusal => .error refusal
  | .ok (.vacant _ _) => .error .noEntry
  | .ok (.present location) =>
    match fs.find? location with
    | some (.file file) => .ok file
    | some .directory => .error .isDirectory
    | _ => .error .noEntry

/-- The names in the directory that a path leads to, in the order of their characters. -/
def list (fs : FileSystem) (path : Path) : Except Refusal (List String) :=
  match fs.locate path with
  | .error refusal => .error refusal
  | .ok (.vacant _ _) => .error .noEntry
  | .ok (.present location) =>
    match fs.find? location with
    | some .directory => .ok (fs.names location)
    | some _ => .error .notDirectory
    | none => .error .noEntry

/-! ## Writing -/

/-- Writes a file, following a link to where the file is or would be. -/
def write (fs : FileSystem) (path : Path) (file : File) : Except Refusal FileSystem :=
  match fs.locate path with
  | .error refusal => .error refusal
  | .ok (.vacant directory name) => .ok (fs.insert (name :: directory) (.file file))
  | .ok (.present location) =>
    match fs.find? location with
    | some .directory => .error .isDirectory
    | _ => .ok (fs.insert location (.file file))

/-- Makes a link at a path where nothing is. -/
def makeLink (fs : FileSystem) (path : Path) (target : String) : Except Refusal FileSystem :=
  match fs.locateLink path with
  | .error refusal => .error refusal
  | .ok (.vacant directory name) => .ok (fs.insert (name :: directory) (.link target))
  | .ok (.present _) => .error .exists

/-- Makes a directory at a path where nothing is. -/
def makeDirectory (fs : FileSystem) (path : Path) : Except Refusal FileSystem :=
  match fs.locateLink path with
  | .error refusal => .error refusal
  | .ok (.vacant directory name) => .ok (fs.insert (name :: directory) .directory)
  | .ok (.present _) => .error .exists

/-- Makes a directory, or leaves alone what is a directory already. -/
def ensureDirectory (fs : FileSystem) (path : Path) : Except Refusal FileSystem :=
  match fs.makeDirectory path with
  | .ok changed => .ok changed
  | .error refusal => if fs.isDirectory path then .ok fs else .error refusal

/-- Makes a directory and, where they are missing, its parents. The names are given innermost first,
    and what is a directory already is left alone. A refusal names the path at which it arose; the
    parents made before it stay. -/
def makeDirectories (fs : FileSystem) (anchor : Anchor) :
    List String → FileSystem × Option (Refusal × Path)
  | [] =>
    match fs.ensureDirectory ⟨anchor, []⟩ with
    | .ok changed => (changed, none)
    | .error refusal => (fs, some (refusal, ⟨anchor, []⟩))
  | name :: outer =>
    let path : Path := ⟨anchor, (name :: outer).reverse⟩
    match fs.ensureDirectory path with
    | .ok changed => (changed, none)
    | .error .noEntry =>
      match makeDirectories fs anchor outer with
      | (made, some failure) => (made, some failure)
      | (made, none) =>
        match made.ensureDirectory path with
        | .ok changed => (changed, none)
        | .error refusal => (made, some (refusal, path))
    | .error refusal => (fs, some (refusal, path))

/-! ## Removing -/

/-- Removes a file or a link. -/
def remove (fs : FileSystem) (path : Path) : Except Refusal FileSystem :=
  match fs.locateLink path with
  | .error refusal => .error refusal
  | .ok (.vacant _ _) => .error .noEntry
  | .ok (.present location) =>
    if fs.find? location = some .directory then .error .isDirectory else .ok (fs.erase location)

/-- Why a tree is not removed: the operating system refuses, or the path names a link. -/
inductive TreeRefusal
  | system (refusal : Refusal)
  | isLink
deriving DecidableEq, Repr

/-- Removes a directory with everything below it, without following links. The directory itself
    goes last, and by its path, which then has to lead there still. -/
def removeTree (fs : FileSystem) (path : Path) : FileSystem × Option TreeRefusal :=
  match fs.locateLink path with
  | .error refusal => (fs, some (.system refusal))
  | .ok (.vacant _ _) => (fs, some (.system .noEntry))
  | .ok (.present location) =>
    match fs.find? location with
    | some .directory =>
      let emptied := fs.eraseBelow location
      match emptied.locateLink path with
      | .ok (.present again) => (emptied.erase again, none)
      | .ok (.vacant _ _) => (emptied, some (.system .noEntry))
      | .error refusal => (emptied, some (.system refusal))
    | some (.link _) => (fs, some .isLink)
    | _ => (fs, some (.system .notDirectory))

/-! ## Copying -/

/-- Why a copy is refused: reading the source, writing the destination, or making there a link to
    the target of the source. -/
inductive CopyRefusal
  | source (refusal : Refusal)
  | destination (refusal : Refusal)
  | link (target : String) (refusal : Refusal)
deriving DecidableEq, Repr

/-- Copies a file with its content and time, or a link as a link. -/
def copy (fs : FileSystem) (source destination : Path) : Except CopyRefusal FileSystem :=
  match fs.lookupLink? source with
  | some (.link target) => (fs.makeLink destination target).mapError (.link target)
  | _ =>
    match fs.read source with
    | .error refusal => .error (.source refusal)
    | .ok file => (fs.write destination file).mapError .destination

/-! ## Staleness -/

/-- What is compared to tell whether a copy is up to date: the size, the time of the last write and
    the time of the last change of state. -/
structure FileStatus where
  size : Nat
  modified : Stamp
  changed : Stamp
deriving DecidableEq, Repr

/-- A copy is stale if it is missing, has another size than its source, or is older than it. -/
def isStale (source : FileStatus) : Option FileStatus → Bool
  | none => true
  | some copy =>
    source.size != copy.size || source.changed.isAfter copy.changed ||
      source.modified.isAfter copy.modified

/-- A file is never stale against itself. -/
theorem isStale_self (status : FileStatus) : isStale status (some status) = false := by
  simp [isStale]

/-- The status of a file, whose state changes when it is written. -/
def File.status (file : File) : FileStatus :=
  ⟨file.content.size, file.modified, file.modified⟩

/-- Whether the copy at a path has to be made anew. A path that leads to no file is never up to
    date. -/
def needsCopy (fs : FileSystem) (source destination : Path) : Bool :=
  match fs.lookup? source, fs.lookup? destination with
  | some (.file file), some (.file copy) => isStale (File.status file) (some (File.status copy))
  | _, _ => true

end JuliaNative.FileSystem
