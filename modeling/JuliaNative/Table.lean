set_option autoImplicit false

/-! # Tables

A table is a list of keys with their values in which a new key goes to the end and a known key keeps
its place. Sections of a configuration file and the options of a build are tables, so that keys come
out in the order in which they were first written. -/

namespace JuliaNative

/-- Keys with their values, in the order in which the keys were first put. -/
abbrev Table (κ ν : Type) := List (κ × ν)

namespace Table

variable {κ ν : Type} [DecidableEq κ]

/-- The value of a key. -/
def get? (key : κ) : Table κ ν → Option ν
  | [] => none
  | (other, value) :: rest => if other = key then some value else get? key rest

/-- Whether a key has a value. -/
def has (key : κ) (table : Table κ ν) : Bool :=
  (get? key table).isSome

/-- Gives a key a value. -/
def put (key : κ) (value : ν) : Table κ ν → Table κ ν
  | [] => [(key, value)]
  | (other, old) :: rest =>
    if other = key then (key, value) :: rest else (other, old) :: put key value rest

/-- Puts all entries of a second table over those of a first one. -/
def overlay (base upper : Table κ ν) : Table κ ν :=
  upper.foldl (fun table entry => put entry.1 entry.2 table) base

/-- The keys of a table. -/
def keys (table : Table κ ν) : List κ :=
  table.map (·.1)

/-! ## The values after a change -/

theorem get?_put (key other : κ) (value : ν) (table : Table κ ν) :
    get? other (put key value table) = if other = key then some value else get? other table := by
  induction table with
  | nil =>
    by_cases h : key = other
    · simp [put, get?, h]
    · simp [put, get?, h, Ne.symm h]
  | cons entry rest ih =>
    obtain ⟨k, v⟩ := entry
    by_cases hk : k = key
    · subst hk
      by_cases h : k = other
      · simp [put, get?, h]
      · simp [put, get?, h, Ne.symm h]
    · by_cases ho : k = other
      · subst ho
        simp [put, get?, hk]
      · simp [put, get?, hk, ho, ih]

end Table
end JuliaNative
