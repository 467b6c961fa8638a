import JuliaNative.Proofs.FileSystem.Change

set_option autoImplicit false

/-! # What stays when a directory is worked on

Two kinds of changes to the directory of a path: entries of some names are cleared together with what
is below them (`Cleared`), or they are replaced by others (`Replaced`). Everything else stays, and the
path leads to no other directory afterwards than before, so that the changes of a sequence of steps
add up. A copy puts an entry in place (`PutAt`), which is such a replacement. -/

namespace JuliaNative.FileSystem

variable {fs mid other : FileSystem} {path : Path} {names : List String} {directory location : Location}

theorem LeadsTo.unique {first second : Location} (hfirst : fs.LeadsTo path first)
    (hsecond : fs.LeadsTo path second) : first = second := by
  have h := hfirst.1.symm.trans hsecond.1
  cases h
  rfl

/-- A path leads to the same directory where there are more routes. -/
theorem LeadsTo.of_routesIn (hroutes : fs.RoutesIn other) (h : fs.LeadsTo path directory) :
    other.LeadsTo path directory := by
  have hthere := hroutes _ _ h.2 rfl
  exact ⟨place_of_routesIn hroutes h.1 (hthere.trans h.2.symm), hthere⟩

/-- The path of an entry leads into the directory of the path before it. -/
theorem leadsTo_of_place_entry {followLast : Bool} {name : String} {place : Place}
    (hname : IsPlain name) (h : fs.place followLast (path.entry name) = .ok place) :
    ∃ directory, fs.LeadsTo path directory ∧
      ((followLast = true → ∀ target, fs.find? (name :: directory) ≠ some (.link target)) →
        place = fs.slot directory name) := by
  obtain ⟨directory, hlocate, hrooted, hslot⟩ := locate_of_place_entry hname h
  exact ⟨directory, ⟨hlocate, hrooted.find?_eq⟩, hslot⟩

/-- If what is there stays, a path that leads to a directory still leads there. -/
theorem LeadsTo.of_filled (h : fs.LeadsTo path directory)
    (hfilled : ∀ location, fs.find? location ≠ none → other.find? location = fs.find? location) :
    other.LeadsTo path directory := by
  constructor
  · rw [locate_congr fun location hmem => hfilled location (find?_ne_none_of_mem_way h.1 hmem), h.1]
  · rw [hfilled directory (by simp [h.2]), h.2]

/-- The path of an entry names the entry of the directory to which the path before it leads. -/
theorem eq_of_locateLink_entry {name : String} {top : Location} (hname : IsPlain name)
    (h : fs.locateLink (path.entry name) = .ok (.present top)) :
    ∃ directory, fs.LeadsTo path directory ∧ top = name :: directory := by
  obtain ⟨directory, hleads, hslot⟩ := leadsTo_of_place_entry hname h
  have hplace := hslot (fun hlast => by cases hlast)
  unfold slot at hplace
  split at hplace
  · cases hplace
  · cases hplace
    exact ⟨directory, hleads, rfl⟩

/-- Neither the path of an entry nor the name of the entry is too long. -/
def Fits (path : Path) (name : String) : Prop :=
  (path.entry name).toString.utf8ByteSize ≤ maximalPath ∧ name.utf8ByteSize ≤ maximalName

/-- The path of an entry leads to the entry in the directory to which the path before it leads. -/
theorem place_entry {followLast : Bool} {name : String} (hname : IsPlain name)
    (hfits : Fits path name) (hleads : fs.LeadsTo path directory)
    (hlink : followLast = true → ∀ target, fs.find? (name :: directory) ≠ some (.link target)) :
    fs.place followLast (path.entry name) = .ok (fs.slot directory name) := by
  obtain ⟨left, hleft⟩ := exists_walk_append (walk_of_locate hleads.1) hleads.2
  unfold FileSystem.place
  rw [if_neg (Nat.not_lt.2 hfits.1)]
  exact (hleft followLast [name] (.inr (by simp))).trans (walk_name hname hfits.2 hlink)

theorem fits_of_place {followLast : Bool} {name : String} {place : Place} (hname : IsPlain name)
    (h : fs.place followLast (path.entry name) = .ok place) : Fits path name := by
  obtain ⟨directory, hleads, -⟩ := leadsTo_of_place_entry hname h
  obtain ⟨left, hleft⟩ := exists_walk_append (walk_of_locate hleads.1) hleads.2
  unfold FileSystem.place at h
  split at h
  · cases h
  · next hshort =>
      have hentry : fs.walk followLast left directory [name] = .ok place :=
        (hleft followLast [name] (.inr (by simp))).symm.trans h
      exact ⟨Nat.not_lt.1 hshort, size_le_of_walk_name hname hentry⟩

/-- The path of an entry is not followed if it or the name is too long. -/
theorem locate_entry_of_not_fits {name : String} (hname : IsPlain name) (hleads : fs.LeadsTo path directory)
    (hlong : ¬ Fits path name) : fs.locate (path.entry name) = .error .nameTooLong := by
  obtain ⟨left, hleft⟩ := exists_walk_append (walk_of_locate hleads.1) hleads.2
  unfold locate FileSystem.place
  split
  · rfl
  · next hshort =>
      have hsize : maximalName < name.utf8ByteSize :=
        Nat.not_le.1 fun hsize => hlong ⟨Nat.not_lt.1 hshort, hsize⟩
      exact (hleft true [name] (.inl rfl)).trans (walk_name_of_size_lt hname hsize)

/-- Whether there is a link at the path of an entry is told by the entry. -/
theorem isLink_entry {name : String} (hname : IsPlain name) (hfits : Fits path name)
    (hleads : fs.LeadsTo path directory) :
    fs.isLink (path.entry name) = false ↔ ∀ target, fs.find? (name :: directory) ≠ some (.link target) := by
  have hplace : fs.locateLink (path.entry name) = .ok (fs.slot directory name) :=
    place_entry hname hfits hleads (fun h => by cases h)
  unfold isLink lookupLink?
  rw [hplace, slot]
  cases hentry : fs.find? (name :: directory) with
  | none => simp
  | some entry => cases entry <;> simp [hentry]

theorem exists_link_of_isLink_entry {name : String} (h : fs.isLink (path.entry name) = true) :
    IsPlain name ∧ Fits path name ∧ ∃ directory target, fs.LeadsTo path directory ∧
      fs.find? (name :: directory) = some (.link target) := by
  unfold isLink lookupLink? at h
  cases hplace : fs.locateLink (path.entry name) with
  | error refusal => simp [hplace] at h
  | ok place =>
      have hname : IsPlain name := by
        refine Decidable.byContradiction fun hplain => ?_
        obtain ⟨location, rfl, hdirectory⟩ :=
          directory_of_not_isPlain (by rwa [Path.name_entry]) hplace
        simp [hplace, hdirectory] at h
      obtain ⟨directory, hleads, hslot⟩ := leadsTo_of_place_entry hname hplace
      refine ⟨hname, fits_of_place hname hplace, directory, ?_⟩
      rw [hplace, hslot (fun hlast => by cases hlast), slot] at h
      cases hentry : fs.find? (name :: directory) with
      | none => simp [hentry] at h
      | some entry =>
          cases entry with
          | link target => exact ⟨target, hleads, rfl⟩
          | file file => simp [hentry] at h
          | directory => simp [hentry] at h

/-- Where there is no link at the path of an entry, the path leads to the entry itself. -/
theorem place_entry_of_isLink_eq_false {followLast : Bool} {name : String} {place : Place}
    (hname : IsPlain name) (hlink : fs.isLink (path.entry name) = false)
    (h : fs.place followLast (path.entry name) = .ok place) :
    ∃ directory, fs.LeadsTo path directory ∧ place = fs.slot directory name := by
  obtain ⟨directory, hleads, hslot⟩ := leadsTo_of_place_entry hname h
  exact ⟨directory, hleads, hslot fun _ => (isLink_entry hname (fits_of_place hname h) hleads).1 hlink⟩

theorem find?_remove_entry {name : String} (hname : IsPlain name)
    (h : fs.remove (path.entry name) = .ok other) :
    ∃ directory, fs.LeadsTo path directory ∧ fs.find? (name :: directory) ≠ some .directory ∧
      ∀ location, other.find? location =
        if location = name :: directory then none else fs.find? location := by
  obtain ⟨top, hlocate, hdirectory, hfind⟩ := find?_remove h
  obtain ⟨directory, hleads, rfl⟩ := eq_of_locateLink_entry hname hlocate
  exact ⟨directory, hleads, hdirectory, hfind⟩

/-! ## Clearing -/

/-- Entries of some names were cleared from the directory of a path, and nothing else changed. -/
def Cleared (fs other : FileSystem) (path : Path) (names : List String) : Prop :=
  ∀ location, other.find? location ≠ fs.find? location →
    other.find? location = none ∧
      ∃ directory, fs.LeadsTo path directory ∧ ∃ name ∈ names, name :: directory <:+ location

theorem Cleared.refl (fs : FileSystem) (path : Path) (names : List String) :
    fs.Cleared fs path names :=
  fun _ h => absurd rfl h

theorem Cleared.routesIn (h : fs.Cleared other path names) : other.RoutesIn fs := by
  intro location entry hentry _
  refine Decidable.byContradiction fun hne => ?_
  have hnone := (h location (fun heq => hne (heq ▸ hentry))).1
  rw [hentry] at hnone
  cases hnone

theorem Cleared.trans (hfirst : fs.Cleared mid path names) (hsecond : mid.Cleared other path names) :
    fs.Cleared other path names := by
  intro location hne
  by_cases hmid : other.find? location = mid.find? location
  · rw [hmid] at hne ⊢
    exact hfirst location hne
  · -- the second step was led by the path as it is after the first one, which is no other way
    obtain ⟨hnone, directory, hleads, hname⟩ := hsecond location hmid
    exact ⟨hnone, directory, hleads.of_routesIn hfirst.routesIn, hname⟩

theorem Cleared.mono {more : List String} (h : fs.Cleared other path names)
    (hsub : ∀ name ∈ names, name ∈ more) : fs.Cleared other path more := by
  intro location hne
  obtain ⟨hnone, directory, hleads, name, hname, hbelow⟩ := h location hne
  exact ⟨hnone, directory, hleads, name, hsub name hname, hbelow⟩

/-- Removing the tree of an entry clears the entry. -/
theorem cleared_removeTree {name : String} (hname : IsPlain name) :
    fs.Cleared (fs.removeTree (path.entry name)).1 path [name] := by
  intro location hne
  obtain ⟨hnone, top, hnames, hbelow⟩ := find?_removeTree hne
  obtain ⟨directory, hleads, rfl⟩ := eq_of_locateLink_entry hname hnames.1
  exact ⟨hnone, directory, hleads, name, List.mem_singleton.2 rfl, hbelow⟩

/-- Removing an entry clears it. -/
theorem cleared_remove {name : String} (hname : IsPlain name)
    (h : fs.remove (path.entry name) = .ok other) : fs.Cleared other path [name] := by
  obtain ⟨directory, hleads, -, hfind⟩ := find?_remove_entry hname h
  intro location hne
  rw [hfind] at hne ⊢
  split at hne
  · next hsame =>
      subst hsame
      exact ⟨if_pos rfl, directory, hleads, name, List.mem_singleton.2 rfl, List.suffix_refl _⟩
  · exact absurd rfl hne

/-! ## Replacing -/

/-- Entries of some names in the directory of a path were replaced, removed or added: everything else
    stays, directories among it, and the path leads to no other directory. -/
structure Replaced (fs other : FileSystem) (path : Path) (names : List String) : Prop where
  leads : ∀ directory, other.LeadsTo path directory → fs.LeadsTo path directory
  replaced : ∀ location, other.find? location ≠ fs.find? location →
    fs.find? location ≠ some .directory ∧
      ∃ directory, fs.LeadsTo path directory ∧ ∃ name ∈ names, location = name :: directory

theorem Replaced.refl (fs : FileSystem) (path : Path) (names : List String) :
    fs.Replaced fs path names :=
  ⟨fun _ h => h, fun _ h => absurd rfl h⟩

theorem Replaced.trans (hfirst : fs.Replaced mid path names)
    (hsecond : mid.Replaced other path names) : fs.Replaced other path names := by
  refine ⟨fun directory h => hfirst.leads _ (hsecond.leads _ h), fun location hne => ?_⟩
  by_cases hmid : mid.find? location = fs.find? location
  · rw [← hmid] at hne
    obtain ⟨hdirectory, directory, hleads, hname⟩ := hsecond.replaced location hne
    exact ⟨hmid ▸ hdirectory, directory, hfirst.leads _ hleads, hname⟩
  · exact hfirst.replaced location hmid

theorem Replaced.mono {more : List String} (h : fs.Replaced other path names)
    (hsub : ∀ name ∈ names, name ∈ more) : fs.Replaced other path more := by
  refine ⟨h.leads, fun location hne => ?_⟩
  obtain ⟨hdirectory, directory, hleads, name, hname, heq⟩ := h.replaced location hne
  exact ⟨hdirectory, directory, hleads, name, hsub name hname, heq⟩

/-- Removing one entry takes it away and nothing else. -/
theorem replaced_remove {name : String} (hname : IsPlain name)
    (h : fs.remove (path.entry name) = .ok other) : fs.Replaced other path [name] := by
  refine ⟨fun _ hleads => hleads.of_routesIn (cleared_remove hname h).routesIn,
    fun location hne => ?_⟩
  obtain ⟨directory, hleads, hdirectory, hfind⟩ := find?_remove_entry hname h
  rw [hfind] at hne
  split at hne
  · next hsame =>
      subst hsame
      exact ⟨hdirectory, directory, hleads, name, List.mem_singleton.2 rfl, rfl⟩
  · exact absurd rfl hne

/-- An entry that was removed is not there, and neither is a link in its place. -/
theorem free_of_remove {name : String} (hname : IsPlain name)
    (h : fs.remove (path.entry name) = .ok other) :
    other.has (path.entry name) = false ∧ other.isLink (path.entry name) = false := by
  obtain ⟨directory, hleads, -, hfind⟩ := find?_remove_entry hname h
  have hnone : other.find? (name :: directory) = none := by
    rw [hfind]
    exact if_pos rfl
  -- the path leads into the same directory as before, where the name is free now
  have hvacant : ∀ followLast place, other.place followLast (path.entry name) = .ok place →
      place = .vacant directory name := by
    intro followLast place hplace
    obtain ⟨after, hafter, hslot⟩ := leadsTo_of_place_entry hname hplace
    obtain rfl := (hafter.of_routesIn (cleared_remove hname h).routesIn).unique hleads
    rw [hslot (fun _ target hlink => by rw [hnone] at hlink; cases hlink), slot, if_pos hnone]
  constructor
  · rw [has_eq_false_iff]
    intro location hlocate
    cases hvacant true _ hlocate
  · unfold isLink lookupLink?
    split
    · next heq =>
        split at heq
        · next hlocate => cases hvacant false _ hlocate
        · cases heq
    · rfl

/-- A copy to a path at which nothing is fills a free place, with the file that is read if the source is
    no link. -/
theorem find?_copy {source : Path} (hfree : fs.has path = false)
    (h : fs.copy source path = .ok other) :
    ∃ followLast directory name, fs.place followLast path = .ok (.vacant directory name) ∧
      (∀ location, location ≠ name :: directory → other.find? location = fs.find? location) ∧
      (fs.isLink source = false →
        ∃ file, fs.read source = .ok file ∧ other.find? (name :: directory) = some (.file file)) := by
  unfold copy at h
  split at h
  · next target hsource =>
      -- a link is copied as a link, whose place is the name itself and not what it leads to
      cases hmake : fs.makeLink path target with
      | error refusal =>
          rw [hmake] at h
          cases h
      | ok made =>
          rw [hmake] at h
          obtain rfl := Except.ok.inj h
          obtain ⟨directory, name, hlocate, hfind⟩ := find?_makeLink hmake
          refine ⟨false, directory, name, hlocate, fun location hne => by rw [hfind, if_neg hne],
            fun hlink => ?_⟩
          simp [isLink, hsource] at hlink
  · split at h
    · cases h
    · next file hread =>
        cases hwrite : fs.write path file with
        | error refusal =>
            rw [hwrite] at h
            cases h
        | ok written =>
            rw [hwrite] at h
            obtain rfl := Except.ok.inj h
            obtain ⟨target, htarget, -, hfind⟩ := find?_write hwrite
            obtain ⟨place, hlocate, rfl⟩ := exists_place_of_target? htarget
            cases place with
            | present location => exact absurd hlocate (has_eq_false_iff.1 hfree location)
            | vacant directory name =>
                exact ⟨true, directory, name, hlocate,
                  fun location hne => by rw [hfind]; exact if_neg hne,
                  fun _ => ⟨file, hread, by rw [hfind]; exact if_pos rfl⟩⟩

/-! ## Putting an entry in place -/

/-- An entry was put in the directory of a path under a name; everything else stays as it was, and the
    path leads to the directory as before. -/
structure PutAt (fs other : FileSystem) (path : Path) (name : String) (directory : Location) :
    Prop where
  led : fs.LeadsTo path directory
  leads : other.LeadsTo path directory
  elsewhere : ∀ location, location ≠ name :: directory → other.find? location = fs.find? location

/-- A copy to an entry that is not there puts it in place. -/
theorem putAt_copy {source : Path} {name : String} (hname : IsPlain name)
    (hfree : fs.has (path.entry name) = false) (hlink : fs.isLink (path.entry name) = false)
    (h : fs.copy source (path.entry name) = .ok other) :
    ∃ directory, fs.PutAt other path name directory ∧ fs.find? (name :: directory) = none ∧
      Fits path name ∧ (fs.isLink source = false →
        ∃ file, fs.read source = .ok file ∧ other.find? (name :: directory) = some (.file file)) := by
  obtain ⟨followLast, parent, free, hplace, hfind, hfile⟩ := find?_copy hfree h
  obtain ⟨directory, hleads, hslot⟩ := place_entry_of_isLink_eq_false hname hlink hplace
  have hnone : fs.find? (free :: parent) = none := find?_of_vacant hplace
  have hsame : free :: parent = name :: directory := by
    unfold slot at hslot
    split at hslot <;> cases hslot
    rfl
  rw [hsame] at hnone hfind hfile
  refine ⟨directory, ⟨hleads, hleads.of_filled fun location hthere => hfind location ?_, hfind⟩, hnone,
    fits_of_place hname hplace, hfile⟩
  rintro rfl
  exact hthere hnone

/-- Putting an entry in place replaces it, unless a directory stood there. -/
theorem PutAt.replaced {name : String} (h : fs.PutAt other path name directory)
    (hdirectory : fs.find? (name :: directory) ≠ some .directory) :
    fs.Replaced other path [name] := by
  constructor
  · intro after hafter
    obtain rfl := hafter.unique h.leads
    exact h.led
  · intro location hne
    obtain rfl : location = name :: directory :=
      Decidable.byContradiction fun hother => hne (h.elsewhere location hother)
    exact ⟨hdirectory, directory, h.led, name, List.mem_singleton.2 rfl, rfl⟩

/-- An entry that is put where one was removed is put in its place. -/
theorem PutAt.of_remove {name : String} (hname : IsPlain name)
    (hremove : fs.remove (path.entry name) = .ok mid) (h : mid.PutAt other path name directory) :
    fs.PutAt other path name directory := by
  obtain ⟨before, hleads, -, hfind⟩ := find?_remove_entry hname hremove
  have hled : fs.LeadsTo path directory := h.led.of_routesIn (cleared_remove hname hremove).routesIn
  obtain rfl := hled.unique hleads
  refine ⟨hled, h.leads, fun location hne => ?_⟩
  rw [h.elsewhere location hne, hfind, if_neg hne]

/-! ## Names that are not plain -/

/-- Nothing is removed at a path that does not end in a name. -/
theorem remove_of_not_isPlain (hname : ¬ IsPlain path.name) : fs.remove path ≠ .ok other := by
  intro h
  obtain ⟨location, hlocate, hdirectory, -⟩ := find?_remove h
  obtain ⟨_, hplace, hthere⟩ := directory_of_not_isPlain hname hlocate
  cases hplace
  exact hdirectory hthere

/-- Nothing is copied to a path that does not end in a name. -/
theorem copy_of_not_isPlain {source : Path} (hname : ¬ IsPlain path.name)
    (hfree : fs.has path = false) : fs.copy source path ≠ .ok other := by
  intro h
  obtain ⟨_, _, _, hplace, -⟩ := find?_copy hfree h
  obtain ⟨_, hvacant, -⟩ := directory_of_not_isPlain hname hplace
  cases hvacant

end JuliaNative.FileSystem
