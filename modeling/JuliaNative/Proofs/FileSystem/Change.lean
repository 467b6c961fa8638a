import JuliaNative.FileSystem.Edit
import JuliaNative.Proofs.FileSystem.Entry
import JuliaNative.Proofs.FileSystem.Routes

set_option autoImplicit false

/-! # What operations change

For each operation on files: the entries after it, as a function of the entries before it. Writing,
linking and removing one entry change one location; removing a tree clears a location and what is
below it; making directories fills free locations and nothing else. -/

namespace JuliaNative

namespace FileSystem

variable {fs changed : FileSystem} {location other : Location} {path : Path} {file : File}

theorem find?_eraseBelow (fs : FileSystem) (location other : Location) :
    (fs.eraseBelow location).find? other =
      if location <:+ other ∧ other ≠ location then none else fs.find? other := by
  unfold find? eraseBelow
  by_cases hroot : other = []
  · subst hroot
    by_cases hlocation : location = [] <;> simp [hlocation]
  · simp only [hroot, if_false, Std.ExtTreeMap.getElem?_filter']
    by_cases hbelow : location <:+ other ∧ other ≠ location
    · have hdrop : (other == location || !location.isSuffixOf other) = false := by
        simp [hbelow.1, hbelow.2]
      simp [hdrop, hbelow]
    · have hkeep : (other == location || !location.isSuffixOf other) = true := by
        by_cases hsame : other = location
        · simp [hsame]
        · have hnot : location.isSuffixOf other = false := by
            rw [← Bool.not_eq_true, List.isSuffixOf_iff_suffix]
            exact fun h => hbelow ⟨h, hsame⟩
          simp [hnot]
      simp only [hkeep, hbelow, if_false]
      cases fs.entries[other]? <;> rfl

/-! ## Directories of paths -/

/-- A path leads to a directory at a location. -/
def LeadsTo (fs : FileSystem) (path : Path) (directory : Location) : Prop :=
  fs.locate path = .ok (.present directory) ∧ fs.find? directory = some .directory

/-- A path names a directory at a location, itself and not by a link. -/
def Names (fs : FileSystem) (path : Path) (directory : Location) : Prop :=
  fs.locateLink path = .ok (.present directory) ∧ fs.find? directory = some .directory

/-- The location of a place at which there is a directory. -/
def directoryAt? (fs : FileSystem) : Except Refusal Place → Option Location
  | .ok (.present location) => if fs.find? location = some .directory then some location else none
  | _ => none

theorem directoryAt?_eq_some_iff {place : Except Refusal Place} :
    fs.directoryAt? place = some location ↔
      place = .ok (.present location) ∧ fs.find? location = some .directory := by
  unfold directoryAt?
  split
  · next there =>
      split
      · next hdirectory =>
          constructor
          · rintro ⟨⟩
            exact ⟨rfl, hdirectory⟩
          · rintro ⟨⟨⟩, -⟩
            rfl
      · next hdirectory =>
          refine ⟨nofun, ?_⟩
          rintro ⟨⟨⟩, h⟩
          exact absurd h hdirectory
  · next hplace =>
      refine ⟨nofun, ?_⟩
      rintro ⟨rfl, -⟩
      exact absurd rfl (hplace location)

/-- The directory to which a path leads. -/
def reached? (fs : FileSystem) (path : Path) : Option Location :=
  fs.directoryAt? (fs.locate path)

/-- The directory that a path names. -/
def named? (fs : FileSystem) (path : Path) : Option Location :=
  fs.directoryAt? (fs.locateLink path)

theorem reached?_eq_some_iff : fs.reached? path = some location ↔ fs.LeadsTo path location :=
  directoryAt?_eq_some_iff

theorem named?_eq_some_iff : fs.named? path = some location ↔ fs.Names path location :=
  directoryAt?_eq_some_iff

/-! ## Reading -/

theorem read_eq_ok_iff :
    fs.read path = .ok file ↔
      ∃ location, fs.locate path = .ok (.present location) ∧
        fs.find? location = some (.file file) := by
  unfold read
  constructor
  · intro h
    split at h
    · cases h
    · cases h
    · next location hlocate =>
        split at h
        · next heq => exact ⟨location, hlocate, by rw [heq, Except.ok.inj h]⟩
        · cases h
        · cases h
  · rintro ⟨location, hlocate, hfile⟩
    rw [hlocate]
    simp [hfile]

/-- A file is read as before if the entries on the way to it are as before. -/
theorem read_congr {other : FileSystem} (hread : fs.read path = .ok file)
    (h : ∀ location ∈ fs.way path, other.find? location = fs.find? location) :
    other.read path = .ok file := by
  obtain ⟨location, hlocate, hfile⟩ := read_eq_ok_iff.1 hread
  refine read_eq_ok_iff.2 ⟨location, ?_, ?_⟩
  · rw [locate_congr h, hlocate]
  · rw [h location (mem_way_of_locate hlocate), hfile]

theorem find?_ne_none_of_read (hread : fs.read path = .ok file) (hmem : location ∈ fs.way path) :
    fs.find? location ≠ none := by
  obtain ⟨_, hlocate, -⟩ := read_eq_ok_iff.1 hread
  exact find?_ne_none_of_mem_way hlocate hmem

theorem lookup?_eq_some_iff {entry : Entry} :
    fs.lookup? path = some entry ↔
      ∃ location, fs.locate path = .ok (.present location) ∧ fs.find? location = some entry := by
  unfold lookup?
  constructor
  · intro h
    split at h
    · next location hlocate => exact ⟨location, hlocate, h⟩
    · cases h
  · rintro ⟨location, hlocate, hentry⟩
    rw [hlocate]
    exact hentry

theorem list_eq_ok_iff {names : List String} :
    fs.list path = .ok names ↔ ∃ directory, fs.LeadsTo path directory ∧ fs.names directory = names := by
  unfold list LeadsTo
  constructor
  · intro h
    split at h
    · cases h
    · cases h
    · next location hlocate =>
        split at h
        · next hdirectory =>
            cases h
            exact ⟨location, ⟨hlocate, hdirectory⟩, rfl⟩
        · cases h
        · cases h
  · intro h
    obtain ⟨directory, ⟨hlocate, hdirectory⟩, rfl⟩ := h
    simp [hlocate, hdirectory]

theorem has_eq_false_iff :
    fs.has path = false ↔ ∀ location, fs.locate path ≠ .ok (.present location) := by
  unfold has lookup?
  constructor
  · intro h location hlocate
    rw [hlocate] at h
    exact find?_ne_none_of_place hlocate (by simpa using h)
  · intro h
    split
    · next location hlocate => exact absurd hlocate (h location)
    · rfl

/-! ## One entry -/

theorem find?_write (h : fs.write path file = .ok changed) :
    ∃ location, fs.target? path = some location ∧ ¬ fs.RouteAt location ∧
      ∀ other, changed.find? other =
        if other = location then some (.file file) else fs.find? other := by
  unfold write at h
  split at h
  · cases h
  · next directory name hlocate =>
      refine ⟨name :: directory, target?_of_locate hlocate, ?_, fun other => ?_⟩
      · rintro ⟨entry, hentry, -⟩
        rw [find?_of_vacant hlocate] at hentry
        cases hentry
      · rw [← Except.ok.inj h, find?_insert _ _ _ _ (by simp)]
  · next location hlocate =>
      split at h
      · cases h
      · next hdirectory =>
          refine ⟨location, target?_of_locate hlocate, ?_, fun other => ?_⟩
          · -- a link in the last place is followed, so what is written over is no route
            rintro ⟨entry, hentry, hroute⟩
            cases entry with
            | file file => cases hroute
            | directory => exact hdirectory hentry
            | link target => exact find?_ne_link_of_locate hlocate target hentry
          · have hne : location ≠ [] := by
              rintro rfl
              exact hdirectory rfl
            rw [← Except.ok.inj h, find?_insert _ _ _ _ hne]

/-- Writing a file changes no route. -/
theorem sameRoutes_write (h : fs.write path file = .ok changed) : fs.SameRoutes changed := by
  obtain ⟨location, -, hroute, hfind⟩ := find?_write h
  refine ⟨fun other entry hentry hother => ?_, fun other entry hentry hother => ?_⟩
  · rw [hfind, if_neg]
    · exact hentry
    · rintro rfl
      exact hroute ⟨entry, hentry, hother⟩
  · rw [hfind] at hentry
    split at hentry
    · cases hentry
      cases hother
    · exact hentry

/-- What was written at a path is read there. -/
theorem read_write (h : fs.write path file = .ok changed) : changed.read path = .ok file := by
  obtain ⟨location, htarget, -, hfind⟩ := find?_write h
  have hfile : changed.find? location = some (.file file) := by
    rw [hfind]
    exact if_pos rfl
  -- writing changes no route, so the path ends where it did, and now the file is there
  rw [← target?_congr (sameRoutes_write h)] at htarget
  obtain ⟨place, hlocate, rfl⟩ := exists_place_of_target? htarget
  cases place with
  | present location => exact read_eq_ok_iff.2 ⟨location, hlocate, hfile⟩
  | vacant directory name =>
      rw [show Place.location (.vacant directory name) = name :: directory from rfl,
        find?_of_vacant hlocate] at hfile
      cases hfile

theorem find?_makeLink {target : String} (h : fs.makeLink path target = .ok changed) :
    ∃ directory name, fs.locateLink path = .ok (.vacant directory name) ∧
      ∀ other, changed.find? other =
        if other = name :: directory then some (.link target) else fs.find? other := by
  unfold makeLink at h
  split at h
  · cases h
  · next directory name hlocate =>
      refine ⟨directory, name, hlocate, fun other => ?_⟩
      rw [← Except.ok.inj h, find?_insert _ _ _ _ (by simp)]
  · cases h

theorem find?_remove (h : fs.remove path = .ok changed) :
    ∃ location, fs.locateLink path = .ok (.present location) ∧
      fs.find? location ≠ some .directory ∧
      ∀ other, changed.find? other = if other = location then none else fs.find? other := by
  unfold remove at h
  split at h
  · cases h
  · cases h
  · next location hlocate =>
      split at h
      · cases h
      · next hdirectory =>
          refine ⟨location, hlocate, hdirectory, fun other => ?_⟩
          have hne : location ≠ [] := by
            rintro rfl
            exact hdirectory rfl
          rw [← Except.ok.inj h, find?_erase _ _ _ hne]

/-! ## Directories -/

/-- Making a directory fills one free location, if any. -/
theorem find?_ensureDirectory (h : fs.ensureDirectory path = .ok changed)
    (hother : fs.find? location ≠ none) : changed.find? location = fs.find? location := by
  unfold ensureDirectory makeDirectory at h
  split at h
  · next made hmade =>
      split at hmade
      · cases hmade
      · next directory name hlocate =>
          rw [← Except.ok.inj h, ← Except.ok.inj hmade, find?_insert _ _ _ _ (by simp)]
          refine if_neg ?_
          rintro rfl
          exact hother (find?_of_vacant hlocate)
      · cases hmade
  · split at h
    · rw [← Except.ok.inj h]
    · cases h

/-- Making a directory with its parents leaves alone what is there. -/
theorem find?_makeDirectories (anchor : Anchor) (names : List String)
    (hother : fs.find? location ≠ none) :
    (fs.makeDirectories anchor names).1.find? location = fs.find? location := by
  -- the names come from the inside out: a directory is tried before its parents, and again after them
  induction names with
  | nil =>
      unfold makeDirectories
      split
      · next heq => exact find?_ensureDirectory heq hother
      · rfl
  | cons name outer ih =>
      unfold makeDirectories
      simp only
      split
      · next heq => exact find?_ensureDirectory heq hother
      · split
        · next hmade => rw [hmade] at ih; exact ih
        · next hmade =>
            rw [hmade] at ih
            split
            · next heq =>
                rw [find?_ensureDirectory heq (by rw [ih]; exact hother)]
                exact ih
            · exact ih
      · rfl

/-! ## Trees -/

theorem routesIn_eraseBelow (fs : FileSystem) (location : Location) :
    (fs.eraseBelow location).RoutesIn fs := by
  intro other entry hentry _
  rw [find?_eraseBelow] at hentry
  split at hentry
  · cases hentry
  · exact hentry

theorem find?_erase_ne (h : (fs.erase location).find? other ≠ fs.find? other) :
    (fs.erase location).find? other = none ∧ other = location := by
  by_cases hroot : location = []
  · subst hroot
    refine absurd ?_ h
    unfold find? erase
    split
    · rfl
    · next hother => simp [Std.ExtTreeMap.getElem?_erase, Ne.symm hother]
  · rw [find?_erase _ _ _ hroot] at h ⊢
    split at h
    · next hsame => exact ⟨by simp [hsame], hsame⟩
    · exact absurd rfl h

/-- What a path names when a directory is emptied, it named before. -/
theorem eq_of_locateLink_eraseBelow {directory again : Location}
    (h : fs.locateLink path = .ok (.present directory))
    (hagain : (fs.eraseBelow directory).locateLink path = .ok (.present again)) :
    again = directory := by
  have hbefore : fs.locateLink path = .ok (.present again) := by
    refine place_of_routesIn (routesIn_eraseBelow fs directory) hagain ?_
    have hthere := find?_ne_none_of_place hagain
    rw [find?_eraseBelow] at hthere ⊢
    split at hthere
    · exact absurd rfl hthere
    · next hnot => rw [if_neg hnot]
  rw [h] at hbefore
  cases hbefore
  rfl

/-- Removing a tree clears locations at and below the directory that its path names. -/
theorem find?_removeTree (h : (fs.removeTree path).1.find? location ≠ fs.find? location) :
    (fs.removeTree path).1.find? location = none ∧
      ∃ directory, fs.Names path directory ∧ directory <:+ location := by
  have hemptied : ∀ directory, (fs.eraseBelow directory).find? location ≠ fs.find? location →
      (fs.eraseBelow directory).find? location = none ∧ directory <:+ location := by
    intro directory
    rw [find?_eraseBelow]
    split
    · next hbelow => exact fun _ => ⟨rfl, hbelow.1⟩
    · exact fun hne => absurd rfl hne
  unfold removeTree at h ⊢
  split at h
  · exact absurd rfl h
  · exact absurd rfl h
  · next directory hlocate =>
      split at h
      · next hdirectory =>
          simp only at h ⊢
          split at h
          · next again hagain =>
              obtain rfl := eq_of_locateLink_eraseBelow hlocate hagain
              by_cases herase :
                  ((fs.eraseBelow again).erase again).find? location =
                    (fs.eraseBelow again).find? location
              · rw [herase] at h ⊢
                exact ⟨(hemptied _ h).1, again, ⟨hlocate, hdirectory⟩, (hemptied _ h).2⟩
              · obtain ⟨hnone, rfl⟩ := find?_erase_ne herase
                exact ⟨hnone, location, ⟨hlocate, hdirectory⟩, List.suffix_refl _⟩
          · next heq =>
              exact ⟨(hemptied _ h).1, directory, ⟨hlocate, hdirectory⟩, (hemptied _ h).2⟩
          · next heq =>
              exact ⟨(hemptied _ h).1, directory, ⟨hlocate, hdirectory⟩, (hemptied _ h).2⟩
      · exact absurd rfl h
      · exact absurd rfl h

end FileSystem
end JuliaNative
