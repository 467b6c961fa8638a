import JuliaNative.FileSystem.Basic
import JuliaNative.Path.Lexical

set_option autoImplicit false

/-! # Walking along paths

A path leads through directories and symbolic links to a place: an entry that is there, or a free
name in a directory. The walk goes along the names that remain; a link puts the names of its target
in front of them, and a walk over more than forty links is given up. Names and paths have a greatest
length, beyond which the system does not look for anything. All paths are read from the root here,
so callers make them absolute first. -/

namespace JuliaNative

/-- Why the operating system refuses an operation. -/
inductive Refusal
  | noEntry
  | exists
  | notDirectory
  | isDirectory
  | tooManyLinks
  | nameTooLong
  | denied
deriving DecidableEq, Repr

/-- Where a path leads: to an entry, or to a name that is free in a directory. -/
inductive Place
  | present (location : Location)
  | vacant (directory : Location) (name : String)
deriving DecidableEq, Repr

namespace FileSystem

/-! ## Along names -/

/-- How far a walk comes before it ends or meets a link. -/
inductive Advance
  | ended (place : Place)
  | refused (refusal : Refusal)
  | link (directory : Location) (target : String) (rest : List String)
deriving Repr

/-- The most bytes that a name may have. -/
def maximalName : Nat := 255

/-- Walks along names up to the first link. A link in the last place is an end like any other entry,
    unless it is to be followed. -/
def advance (fs : FileSystem) (followLast : Bool) (here : Location) : List String → Advance
  | [] => .ended (.present here)
  | part :: rest =>
    if part = "" ∨ part = "." then advance fs followLast here rest
    else if part = ".." then advance fs followLast here.tail rest
    else if maximalName < part.utf8ByteSize then .refused .nameTooLong
    else
      match fs.find? (part :: here) with
      | none => if rest = [] then .ended (.vacant here part) else .refused .noEntry
      | some (.file _) =>
        if rest = [] then .ended (.present (part :: here)) else .refused .notDirectory
      | some .directory => advance fs followLast (part :: here) rest
      | some (.link target) =>
        if rest = [] ∧ followLast = false then .ended (.present (part :: here))
        else .link here target rest

/-- Where the target of a link starts: at the root, or in the directory that holds the link. -/
def linkStart (directory : Location) (target : String) : Location :=
  if target.toList.head? = some '/' then [] else directory

/-- Walks along names and over at most `links` links. -/
def walk (fs : FileSystem) (followLast : Bool) : Nat → Location → List String →
    Except Refusal Place
  | links, here, parts =>
    match links, fs.advance followLast here parts with
    | _, .ended place => .ok place
    | _, .refused refusal => .error refusal
    | 0, .link _ _ _ => .error .tooManyLinks
    | links + 1, .link directory target rest =>
      walk fs followLast links (linkStart directory target) (Path.pieces target ++ rest)

/-- The most links that one walk follows. -/
def maximalLinks : Nat := 40

/-- The most bytes that the text of a path may have. -/
def maximalPath : Nat := 4095

/-- The place that a path leads to; `followLast` tells whether a link in the last place is followed or
    is the place itself. -/
def place (fs : FileSystem) (followLast : Bool) (path : Path) : Except Refusal Place :=
  if maximalPath < path.toString.utf8ByteSize then .error .nameTooLong
  else fs.walk followLast maximalLinks [] path.parts

/-- The place that a path leads to, a link in the last place being followed. -/
def locate (fs : FileSystem) (path : Path) : Except Refusal Place :=
  fs.place true path

/-- The place that a path leads to, a link in the last place being the place itself. -/
def locateLink (fs : FileSystem) (path : Path) : Except Refusal Place :=
  fs.place false path

/-! ## What a path leads to -/

/-- The entry that a path leads to. -/
def lookup? (fs : FileSystem) (path : Path) : Option Entry :=
  match fs.locate path with
  | .ok (.present location) => fs.find? location
  | _ => none

/-- The entry that a path names, which may be a link. -/
def lookupLink? (fs : FileSystem) (path : Path) : Option Entry :=
  match fs.locateLink path with
  | .ok (.present location) => fs.find? location
  | _ => none

/-- Whether a path leads to an entry. -/
def has (fs : FileSystem) (path : Path) : Bool :=
  (fs.lookup? path).isSome

/-- Whether a path leads to a file. -/
def isFile (fs : FileSystem) (path : Path) : Bool :=
  ((fs.lookup? path).map Entry.isFile).getD false

/-- Whether a path leads to a directory. -/
def isDirectory (fs : FileSystem) (path : Path) : Bool :=
  match fs.lookup? path with
  | some .directory => true
  | _ => false

/-- Whether a path names a link. -/
def isLink (fs : FileSystem) (path : Path) : Bool :=
  match fs.lookupLink? path with
  | some (.link _) => true
  | _ => false

/-! ## Resolving all links of a path -/

/-- Resolves names one after the other, where `expand` resolves a link. Names that lead to nothing
    stay as they are. A failure holds the names that could not be resolved, outermost first. -/
def resolveAlong (fs : FileSystem)
    (expand : Location → String → Except (List String) Location) :
    Location → List String → Except (List String) Location
  | here, [] => .ok here
  | here, part :: rest =>
    if part = "" ∨ part = "." then resolveAlong fs expand here rest
    else if part = ".." then resolveAlong fs expand here.tail rest
    else
      match fs.find? (part :: here) with
      | some (.link target) =>
        match expand (part :: here) target with
        | .ok there => resolveAlong fs expand there rest
        | .error stuck => .error (stuck ++ rest)
      | _ => resolveAlong fs expand (part :: here) rest

/-- Resolves the names from a location on, given the links that are being resolved already. A link
    that leads back to one of these cannot be resolved. -/
def resolveLinks (fs : FileSystem) : Nat → List Location → Location → List String →
    Except (List String) Location
  | 0, _, here, parts => .error (here.reverse ++ parts)
  | depth + 1, active, here, parts =>
    fs.resolveAlong (fun link target =>
      if link ∈ active then .error link.reverse
      else resolveLinks fs depth (link :: active) (linkStart link.tail target) (Path.pieces target))
      here parts

/-- The path without links, double dots and repeated slashes that leads where the given path leads.
    The error is a path along which the links never end. -/
def resolve (fs : FileSystem) (path : Path) : Except Path Path :=
  match fs.resolveLinks (fs.entries.size + 1) [] [] path.parts with
  | .ok location => .ok ⟨.root, location.reverse⟩
  | .error stuck =>
    let rest := Path.normalize ⟨.root, stuck⟩
    match fs.locate rest with
    | .error .tooManyLinks => .error rest
    | _ => .ok rest

end FileSystem
end JuliaNative
