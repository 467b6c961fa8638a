import JuliaNative.Proofs.FileSystem.Frame

set_option autoImplicit false

/-! # What is left of a directory

A directory lists its entries by name, each once and in the order of the names (`FileSystem.mem_names`,
`FileSystem.names_pairwise`). Removing some of them leaves everything else exactly as it was, what is below
a removed directory excepted, which goes with it (`FileSystem.Removed`). -/

namespace JuliaNative.FileSystem

variable {fs before mid after : FileSystem} {path : Path} {name : String} {names : List String}
  {directory location : Location}

/-! ## The names in a directory -/

theorem mem_names : name ∈ fs.names directory ↔ fs.find? (name :: directory) ≠ none := by
  unfold names find?
  simp only [List.mem_filterMap, Std.ExtTreeMap.mem_keys, Std.ExtTreeMap.mem_iff_isSome_getElem?,
    reduceCtorEq, if_false, ← Option.isSome_iff_ne_none]
  constructor
  · intro h
    obtain ⟨key, hkey, hname⟩ := h
    cases key with
    | nil => cases hname
    | cons first parent =>
        by_cases hparent : parent = directory
        · simp only [hparent, if_true, Option.some.injEq] at hname
          rwa [← hname, ← hparent]
        · simp [hparent] at hname
  · intro h
    exact ⟨name :: directory, h, by simp⟩

theorem compare_cons_lt {first second : String} :
    compare (first :: directory) (second :: directory) = .lt ↔ first < second := by
  show List.compareLex compare (first :: directory) (second :: directory) = .lt ↔ _
  have hself : List.compareLex compare directory directory = .eq := Std.ReflCmp.compare_self
  rw [List.compareLex_cons_cons, hself, Ordering.then_eq]
  exact compareOfLessAndEq_eq_lt

/-- A directory lists its entries in the order of their names, each once. -/
theorem names_pairwise (fs : FileSystem) (directory : Location) :
    (fs.names directory).Pairwise (· < ·) := by
  unfold names
  refine List.Pairwise.filterMap _ ?_ Std.ExtTreeMap.ordered_keys
  intro first second hlt name hname other hother
  cases first with
  | nil => cases hname
  | cons one parent =>
      cases second with
      | nil => cases hother
      | cons two outer =>
          simp only [Option.ite_none_right_eq_some, Option.some.injEq] at hname hother
          obtain ⟨rfl, rfl⟩ := hname
          obtain ⟨rfl, rfl⟩ := hother
          exact compare_cons_lt.1 hlt

/-! ## Entries that are removed -/

/-- A location goes when an entry is removed: that of the entry itself and, if it is a directory, all that
    are below it. -/
def GoesWith (fs : FileSystem) (entry location : Location) : Prop :=
  location = entry ∨ fs.find? entry = some .directory ∧ entry <:+ location

/-- Entries of some names were removed from a directory: they are gone with what was below them, and
    everything else is as it was. -/
structure Removed (before after : FileSystem) (directory : Location) (names : List String) : Prop where
  gone : ∀ name ∈ names, ∀ location, before.GoesWith (name :: directory) location →
    after.find? location = none
  kept : ∀ location, (∀ name ∈ names, ¬ before.GoesWith (name :: directory) location) →
    after.find? location = before.find? location

theorem Removed.refl (fs : FileSystem) (directory : Location) : Removed fs fs directory [] :=
  ⟨nofun, fun _ _ => rfl⟩

/-- What is still there is as it was. -/
theorem Removed.eq_of_ne_none (h : Removed before after directory names)
    (hthere : after.find? location ≠ none) : after.find? location = before.find? location := by
  apply h.kept
  intro name hmem hgoes
  exact hthere (h.gone name hmem location hgoes)

theorem Removed.routesIn (h : Removed before after directory names) : after.RoutesIn before := by
  intro location entry hentry _
  rw [← h.eq_of_ne_none (by simp [hentry]), hentry]

/-- Removing an entry makes no difference to one of another name beside it. -/
theorem Removed.find?_beside {other : String} (h : Removed before after directory [name])
    (hne : other ≠ name) : after.find? (other :: directory) = before.find? (other :: directory) := by
  apply h.kept
  intro gone hmem hgoes
  rw [List.mem_singleton.1 hmem] at hgoes
  rcases hgoes with heq | ⟨-, hbelow⟩
  · exact hne (List.cons.inj heq).1
  · have heq := hbelow.eq_of_length (by simp)
    exact hne (List.cons.inj heq).1.symm

/-- Entries of more names are removed one after the other. -/
theorem Removed.cons (hone : Removed before mid directory [name])
    (hrest : Removed mid after directory names) (hname : name ∉ names) :
    Removed before after directory (name :: names) := by
  have hsame : ∀ other ∈ names, ∀ location,
      mid.GoesWith (other :: directory) location ↔ before.GoesWith (other :: directory) location := by
    intro other hmem location
    have hne : other ≠ name := fun heq => hname (heq ▸ hmem)
    unfold GoesWith
    rw [hone.find?_beside hne]
  constructor
  · intro other hmem location hgoes
    rcases List.mem_cons.1 hmem with rfl | hmem
    · have hnone := hone.gone other (List.mem_singleton.2 rfl) location hgoes
      by_cases hthere : after.find? location = none
      · exact hthere
      · rw [hrest.eq_of_ne_none hthere, hnone]
    · exact hrest.gone other hmem location ((hsame other hmem location).2 hgoes)
  · intro location hstays
    have hmid : mid.find? location = before.find? location := by
      apply hone.kept
      intro other hmem
      rw [List.mem_singleton.1 hmem]
      exact hstays name (List.mem_cons_self ..)
    rw [← hmid]
    apply hrest.kept
    intro other hmem
    rw [hsame other hmem]
    exact hstays other (List.mem_cons_of_mem _ hmem)

/-- A tree that is removed without a refusal is gone. -/
theorem removed_of_removeTree (hname : IsPlain name)
    (h : before.removeTree (path.entry name) = (after, none)) :
    ∃ directory, before.LeadsTo path directory ∧ Removed before after directory [name] := by
  unfold removeTree at h
  split at h
  · cases h
  · cases h
  · next top hlocate =>
      split at h
      · next htop =>
          simp only at h
          split at h
          · next again hagain =>
              cases h
              obtain rfl := eq_of_locateLink_eraseBelow hlocate hagain
              obtain ⟨directory, hleads, rfl⟩ := eq_of_locateLink_entry hname hlocate
              have hfind : ∀ location,
                  ((before.eraseBelow (name :: directory)).erase (name :: directory)).find? location =
                    if name :: directory <:+ location then none else before.find? location := by
                intro location
                rw [find?_erase _ _ _ (by simp), find?_eraseBelow]
                by_cases hsame : location = name :: directory
                · simp [hsame]
                · by_cases hbelow : name :: directory <:+ location <;> simp [hsame, hbelow]
              refine ⟨directory, hleads, ?_, ?_⟩
              · intro other hmem location hgoes
                rw [List.mem_singleton.1 hmem] at hgoes
                rw [hfind, if_pos]
                rcases hgoes with rfl | ⟨-, hbelow⟩
                · exact List.suffix_refl _
                · exact hbelow
              · intro location hstays
                rw [hfind, if_neg]
                intro hbelow
                exact hstays name (List.mem_singleton.2 rfl) (.inr ⟨htop, hbelow⟩)
          · cases h
          · cases h
      · cases h
      · cases h

/-- A file or a link that is removed is gone, and nothing else. -/
theorem removed_of_remove (hname : IsPlain name) (h : before.remove (path.entry name) = .ok after) :
    ∃ directory, before.LeadsTo path directory ∧ Removed before after directory [name] := by
  obtain ⟨directory, hleads, hentry, hfind⟩ := find?_remove_entry hname h
  refine ⟨directory, hleads, ?_, ?_⟩
  · intro other hmem location hgoes
    rw [List.mem_singleton.1 hmem] at hgoes
    rcases hgoes with rfl | ⟨hdirectory, -⟩
    · rw [hfind, if_pos rfl]
    · exact absurd hdirectory hentry
  · intro location hstays
    rw [hfind, if_neg]
    intro hsame
    exact hstays name (List.mem_singleton.2 rfl) (.inl hsame)

end JuliaNative.FileSystem
