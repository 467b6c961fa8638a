import JuliaNative.Path.Basic

set_option autoImplicit false

/-! # Lexical operations on paths

What can be said about paths without looking at any file: removing double dots together with the
names before them, and the shortest way from one directory to another path. Both are right where no
symbolic link stands before a double dot. -/

namespace JuliaNative.Path

/-- Removes each double dot together with the name before it, reading from a stack of the names so
    far, innermost first. At the root a double dot stays at the root; at the start of a relative
    path it is kept. -/
def collapse (absolute : Bool) : List String → List String → List String
  | stack, [] => stack.reverse
  | stack, part :: rest =>
    if part = ".." then
      match stack with
      | [] => if absolute then collapse absolute [] rest else collapse absolute [".."] rest
      | top :: below =>
        if top = ".." then collapse absolute (".." :: stack) rest else collapse absolute below rest
    else collapse absolute (part :: stack) rest

/-- The path with its double dots removed as far as its text allows. -/
def normalize (path : Path) : Path :=
  { path with parts := collapse path.isAbsolute [] path.parts }

/-- What is left of two lists of names without their common beginning. -/
def withoutCommon : List String → List String → List String × List String
  | [], target => ([], target)
  | start, [] => (start, [])
  | s :: start, t :: target => if s = t then withoutCommon start target else (s :: start, t :: target)

/-- The names that lead from a directory to a path: up to the last common directory, then down. -/
def route (start target : List String) : List String :=
  let (up, down) := withoutCommon start target
  up.map (fun _ => "..") ++ down

/-- The text of the way from a directory to a path, both seen from the working directory. -/
def relativeTo (workingDirectory path start : Path) : String :=
  let source := (workingDirectory.join start).normalize
  let target := (workingDirectory.join path).normalize
  Path.toString ⟨.current, route source.parts target.parts⟩

end JuliaNative.Path
