import JuliaNative.Text.Quoted

set_option autoImplicit false

/-! # Paths

A path is an anchor and a list of names. Reading a path from its text drops empty names and single
dots, so that two spellings of one path are one value; double dots stay, since what they mean
depends on the symbolic links before them. A path that starts with exactly two slashes has an
anchor of its own. -/

namespace JuliaNative

/-- Where a path starts: at the current directory, at the root, or at the root written with two
    slashes. -/
inductive Anchor
  | current
  | root
  | doubleRoot
deriving DecidableEq, Repr

/-- A path: an anchor and the names below it, outermost first. -/
structure Path where
  anchor : Anchor
  parts : List String
deriving DecidableEq, Repr

namespace Path

/-! ## Text -/

/-- The anchor that the slashes at the start of a text denote. -/
def anchorOf : List Char → Anchor
  | '/' :: '/' :: '/' :: _ => .root
  | '/' :: '/' :: _ => .doubleRoot
  | '/' :: _ => .root
  | _ => .current

/-- The pieces of a text between its slashes, empty ones and single dots included. -/
def pieces (text : String) : List String :=
  (text.toList.splitOn '/').map String.ofList

/-- Whether a piece of a path's text names something, rather than staying where it is. -/
def isName (piece : String) : Bool :=
  piece != "" && piece != "."

/-- The path that a text denotes. -/
def ofString (text : String) : Path :=
  ⟨anchorOf text.toList, (pieces text).filter isName⟩

/-- The text of an anchor. -/
def anchorText : Anchor → String
  | .current => ""
  | .root => "/"
  | .doubleRoot => "//"

/-- The text of a path; the empty relative path is a dot. -/
protected def toString (path : Path) : String :=
  match path.anchor, path.parts with
  | .current, [] => "."
  | anchor, parts => anchorText anchor ++ "/".intercalate parts

instance : ToString Path := ⟨Path.toString⟩

/-- A path as messages show the object that holds it. -/
def quoted (path : Path) : String :=
  "PosixPath(" ++ Text.quote path.toString ++ ")"

/-! ## Parts -/

/-- Whether a path starts at the root. -/
def isAbsolute (path : Path) : Bool :=
  path.anchor != .current

/-- The last name of a path, empty if there is none. -/
def name (path : Path) : String :=
  path.parts.getLast?.getD ""

/-- The name of a path up to its last dot, if the dot stands inside the name. -/
def stem (path : Path) : String :=
  let chars := path.name.toList
  let tail := chars.reverse.takeWhile (· ≠ '.')
  let base := chars.reverse.drop (tail.length + 1)
  if tail = [] ∨ base = [] then path.name else String.ofList base.reverse

/-- The path without its last name. -/
def parent (path : Path) : Path :=
  { path with parts := path.parts.dropLast }

/-- A path seen from another one: below it if relative, itself if absolute. -/
def join (base path : Path) : Path :=
  if path.isAbsolute then path else { base with parts := base.parts ++ path.parts }

/-- The path that a text denotes below a directory. -/
def child (base : Path) (text : String) : Path :=
  base.join (ofString text)

/-- The path of an entry of a directory. -/
def entry (directory : Path) (name : String) : Path :=
  { directory with parts := directory.parts ++ [name] }

/-- Whether a path holds the null character, which the names of files never hold. -/
def hasNull (path : Path) : Bool :=
  path.parts.any (·.toList.contains (Char.ofNat 0))

/-- A relative path goes below the path that it is seen from. -/
theorem parts_join_of_relative {base path : Path} (h : path.isAbsolute = false) :
    (base.join path).parts = base.parts ++ path.parts := by
  simp [join, h]

end Path
end JuliaNative
