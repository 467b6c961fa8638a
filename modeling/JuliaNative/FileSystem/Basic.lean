import Std.Data.ExtTreeMap

set_option autoImplicit false

/-! # The file system

A file system is a finite map from locations to entries: files with bytes and a time of change,
directories, and symbolic links. A location is the list of names that lead to it, innermost first,
so that the parent of a location is its tail and the root is the empty list. The map is extensional:
two file systems with the same entry at every location are equal. -/

namespace JuliaNative

/-- The names that lead from the root to an entry, innermost first. -/
abbrev Location := List String

/-- When a file was last written: at a tick of the file system's clock, or during the present run,
    which is later than every tick. -/
inductive Stamp
  | at (tick : Int)
  | now
deriving DecidableEq, Repr

/-- Whether one time lies after another; nothing lies after the present run. -/
def Stamp.isAfter : Stamp → Stamp → Bool
  | .at a, .at b => b < a
  | .now, .at _ => true
  | _, .now => false

/-- No time lies after itself. -/
@[simp] theorem Stamp.isAfter_self (time : Stamp) : time.isAfter time = false := by
  cases time <;> simp [isAfter]

/-- The content of a file and the time when it was written. -/
structure File where
  content : ByteArray
  modified : Stamp

/-- Files are compared by their bytes and their times. -/
instance : DecidableEq File := fun ⟨content, modified⟩ ⟨other, time⟩ =>
  decidable_of_iff (content.data = other.data ∧ modified = time)
    (by rw [File.mk.injEq, ByteArray.ext_iff])

/-- What a location holds. -/
inductive Entry
  | file (file : File)
  | directory
  | link (target : String)
deriving DecidableEq

/-- Whether an entry is a file. -/
def Entry.isFile : Entry → Bool
  | file _ => true
  | _ => false

/-- A finite map from locations to entries; the root is a directory whatever the map says. -/
structure FileSystem where
  entries : Std.ExtTreeMap Location Entry

namespace FileSystem

/-- The file system that holds only the root. -/
def empty : FileSystem := ⟨∅⟩

/-- The entry at a location. -/
def find? (fs : FileSystem) (location : Location) : Option Entry :=
  if location = [] then some .directory else fs.entries[location]?

/-- Puts an entry at a location, in place of any that stood there. -/
def insert (fs : FileSystem) (location : Location) (entry : Entry) : FileSystem :=
  ⟨fs.entries.insert location entry⟩

/-- Takes away the entry at one location. -/
def erase (fs : FileSystem) (location : Location) : FileSystem :=
  ⟨fs.entries.erase location⟩

/-- Takes away all entries strictly below a location. -/
def eraseBelow (fs : FileSystem) (location : Location) : FileSystem :=
  ⟨fs.entries.filter fun other _ => other == location || !location.isSuffixOf other⟩

/-- The names in a directory, in the order of their characters. -/
def names (fs : FileSystem) (directory : Location) : List String :=
  fs.entries.keys.filterMap fun
    | name :: parent => if parent = directory then some name else none
    | [] => none

/-! ## The entries after a change -/

theorem find?_insert (fs : FileSystem) (location other : Location) (entry : Entry)
    (h : location ≠ []) :
    (fs.insert location entry).find? other =
      if other = location then some entry else fs.find? other := by
  by_cases hother : other = []
  · subst hother
    simp [find?, Ne.symm h]
  · by_cases heq : other = location
    · subst heq
      simp [find?, insert, hother]
    · simp [find?, insert, hother, heq, Std.ExtTreeMap.getElem?_insert, Ne.symm heq]

theorem find?_erase (fs : FileSystem) (location other : Location) (h : location ≠ []) :
    (fs.erase location).find? other =
      if other = location then none else fs.find? other := by
  by_cases hother : other = []
  · subst hother
    simp [find?, Ne.symm h]
  · by_cases heq : other = location
    · subst heq
      simp [find?, erase, hother]
    · simp [find?, erase, hother, heq, Std.ExtTreeMap.getElem?_erase, Ne.symm heq]

/-- File systems with the same entry at every location but the root, which is a directory in both,
    are equal, provided that neither map mentions the root. -/
theorem ext_find? {fs other : FileSystem} (h : ∀ location, fs.find? location = other.find? location)
    (hfs : fs.entries[([] : Location)]? = none) (hother : other.entries[([] : Location)]? = none) :
    fs = other := by
  obtain ⟨entries⟩ := fs
  obtain ⟨others⟩ := other
  congr 1
  refine Std.ExtTreeMap.ext_getElem? fun location => ?_
  by_cases hl : location = []
  · subst hl
    exact hfs.trans hother.symm
  · simpa [find?, hl] using h location

end FileSystem
end JuliaNative
