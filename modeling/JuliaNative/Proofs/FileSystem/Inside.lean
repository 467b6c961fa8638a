import JuliaNative.Proofs.FileSystem.Frame
import JuliaNative.Proofs.FileSystem.Outside

set_option autoImplicit false

/-! # Changes inside a directory

A change stays inside the directory of a path (`FileSystem.StaysInside`) if it only concerns what is
below the directory to which the path leads, takes that directory itself away, or makes directories
that were missing along the path. Making directories with their parents stays inside
(`FileSystem.onPath_makeDirectories`). A path whose way does not go below its own directory leads to no
other directory after such changes (`FileSystem.SameAround.leadsTo_eq`), so that a sequence of them
changes nothing but this directory. -/

namespace JuliaNative.FileSystem

variable {fs other start : FileSystem} {here location directory : Location} {parts front : List String}
  {name : String} {path : Path} {followLast : Bool}

/-! ## Free places in a file system with more routes -/

theorem advance_slot_of_routesIn (hroutes : fs.RoutesIn other)
    (h : fs.advance followLast here parts = .ended (.vacant directory name))
    (hlink : ∀ target, other.find? (name :: directory) ≠ some (.link target)) :
    other.advance followLast here parts = .ended (other.slot directory name) := by
  fun_induction FileSystem.advance fs followLast here parts with
  | case2 here part rest hdot ih => simpa [advance, hdot] using ih h
  | case3 here rest hdot ih => simpa [advance] using ih h
  | case5 here part hdot hup hlong heq =>
      cases h
      simp only [advance, hdot, hup, hlong, if_false, if_true, true_and]
      unfold slot
      split <;> simp_all
  | case9 here part rest hdot hup hlong heq ih =>
      simpa [advance, hdot, hup, hlong, hroutes _ _ heq rfl] using ih h
  | _ => cases h

theorem walk_slot_of_routesIn {links : Nat} (hroutes : fs.RoutesIn other)
    (h : fs.walk followLast links here parts = .ok (.vacant directory name))
    (hlink : ∀ target, other.find? (name :: directory) ≠ some (.link target)) :
    other.walk followLast links here parts = .ok (other.slot directory name) := by
  rw [← walks_iff] at h ⊢
  induction h with
  | ended hadvance => exact .ended (advance_slot_of_routesIn hroutes hadvance hlink)
  | link hadvance _ ih => exact .link (advance_link_of_routesIn hroutes hadvance) ih

/-- Where there are more routes, a path that led to a free name leads to whatever is there, a link
    excepted. -/
theorem place_slot_of_routesIn (hroutes : fs.RoutesIn other)
    (h : fs.place followLast path = .ok (.vacant directory name))
    (hlink : ∀ target, other.find? (name :: directory) ≠ some (.link target)) :
    other.place followLast path = .ok (other.slot directory name) := by
  unfold place at h ⊢
  split at h
  · cases h
  · next hshort =>
      rw [if_neg hshort]
      exact walk_slot_of_routesIn hroutes h hlink

/-! ## Directories that are made -/

/-- Making a directory adds at most the directory at the free name to which its path leads. -/
theorem vacant_of_ensureDirectory (h : fs.ensureDirectory path = .ok other)
    (hne : other.find? location ≠ fs.find? location) :
    (∃ directory name, fs.locateLink path = .ok (.vacant directory name) ∧
      location = name :: directory) ∧
    other.find? location = some .directory := by
  unfold ensureDirectory makeDirectory at h
  split at h
  · next made hmade =>
      split at hmade
      · cases hmade
      · next directory name hlocate =>
          obtain rfl := Except.ok.inj h
          obtain rfl := Except.ok.inj hmade
          rw [find?_insert _ _ _ _ (by simp)] at hne ⊢
          split at hne
          · next hsame => exact ⟨⟨directory, name, hlocate, hsame⟩, if_pos hsame⟩
          · exact absurd rfl hne
      · cases hmade
  · split at h
    · obtain rfl := Except.ok.inj h
      exact absurd rfl hne
    · cases h

theorem routesIn_of_filled
    (h : ∀ location, fs.find? location ≠ none → other.find? location = fs.find? location) :
    fs.RoutesIn other := by
  intro location entry hentry _
  rw [h location (by simp [hentry]), hentry]

/-- The path of a directory that was made leads there. -/
theorem leadsTo_of_ensureDirectory (h : fs.ensureDirectory path = .ok other)
    (hne : other.find? location ≠ fs.find? location) : other.LeadsTo path location := by
  obtain ⟨⟨directory, name, hlocate, rfl⟩, hmade⟩ := vacant_of_ensureDirectory h hne
  have hroutes : fs.RoutesIn other := routesIn_of_filled fun _ => find?_ensureDirectory h
  have hplace := place_slot_of_routesIn hroutes hlocate (by simp [hmade])
  rw [slot, if_neg (by simp [hmade])] at hplace
  exact Names.leadsTo ⟨hplace, hmade⟩

/-- A location was free, and what is there now is a directory to which the path, or the path of one of
    its parents, leads. -/
def OnPath (path : Path) (before after : FileSystem) (location : Location) : Prop :=
  before.find? location = none ∧
    ∃ outer, outer <+: path.parts ∧ after.LeadsTo ⟨path.anchor, outer⟩ location

theorem onPath_of_ensureDirectory (h : fs.ensureDirectory path = .ok other)
    (hne : other.find? location ≠ fs.find? location) : OnPath path fs other location :=
  ⟨Decidable.byContradiction fun hthere => hne (find?_ensureDirectory h hthere),
    path.parts, List.prefix_refl _, leadsTo_of_ensureDirectory h hne⟩

/-- Making a directory with its parents adds directories along its path. -/
theorem onPath_makeDirectories (anchor : Anchor) (names : List String)
    (hne : (fs.makeDirectories anchor names).1.find? location ≠ fs.find? location) :
    OnPath ⟨anchor, names.reverse⟩ fs (fs.makeDirectories anchor names).1 location := by
  -- the names come from the inside out, and what was made for the outer ones stays
  induction names with
  | nil =>
      unfold makeDirectories at hne ⊢
      split at hne
      · next heq => exact onPath_of_ensureDirectory heq hne
      · exact absurd rfl hne
  | cons name outer ih =>
      have hprefix : outer.reverse <+: (name :: outer).reverse := by simp
      have hwider : ∀ {after : FileSystem}, OnPath ⟨anchor, outer.reverse⟩ fs after location →
          OnPath ⟨anchor, (name :: outer).reverse⟩ fs after location :=
        fun ⟨hfree, way, hway, hleads⟩ => ⟨hfree, way, hway.trans hprefix, hleads⟩
      unfold makeDirectories at hne ⊢
      simp only at hne ⊢
      split at hne
      · next heq => exact onPath_of_ensureDirectory heq hne
      · split at hne
        · next hmade =>
            rw [hmade] at ih
            exact hwider (ih hne)
        · next made hmade =>
            rw [hmade] at ih
            split at hne
            · next changed heq =>
                by_cases hlast : changed.find? location = made.find? location
                · rw [hlast] at hne
                  obtain ⟨hfree, way, hway, hleads⟩ := hwider (ih hne)
                  exact ⟨hfree, way, hway, hleads.of_filled fun _ => find?_ensureDirectory heq⟩
                · obtain ⟨hfree, way, hway, hleads⟩ := onPath_of_ensureDirectory heq hlast
                  have hbefore : fs.find? location = none := by
                    refine Decidable.byContradiction fun hthere => ?_
                    have hkept := find?_makeDirectories anchor outer hthere
                    rw [hmade] at hkept
                    rw [hfree] at hkept
                    exact hthere hkept.symm
                  exact ⟨hbefore, way, hway, hleads⟩
            · exact hwider (ih hne)
      · exact absurd rfl hne

/-! ## Staying inside -/

/-- A location is below a directory to which the path led, or is that directory itself and holds nothing
    any more. -/
def InDirectory (path : Path) (before after : FileSystem) (location : Location) : Prop :=
  ∃ directory, before.LeadsTo path directory ∧
    (IsBelow directory location ∨ location = directory ∧ after.find? location = none)

/-- Whatever was added, changed or taken away lies in the directory to which the path led. -/
def StaysInDirectory (path : Path) (before after : FileSystem) : Prop :=
  ∀ location, after.find? location ≠ before.find? location → InDirectory path before after location

/-- Whatever was added, changed or taken away lies in the directory to which the path led, or is a
    directory that was missing along the path. -/
def StaysInside (path : Path) (before after : FileSystem) : Prop :=
  ∀ location, after.find? location ≠ before.find? location →
    InDirectory path before after location ∨ OnPath path before after location

theorem isBelow_cons (name : String) (directory : Location) : IsBelow directory (name :: directory) :=
  ⟨List.suffix_cons .., by simp⟩

theorem IsBelow.of_suffix {outer : Location} (h : IsBelow directory outer) (hsuffix : outer <:+ location) :
    IsBelow directory location := by
  refine ⟨h.1.trans hsuffix, ?_⟩
  rintro rfl
  exact h.2 (hsuffix.eq_of_length (Nat.le_antisymm hsuffix.length_le h.1.length_le))

theorem StaysInDirectory.refl (path : Path) (fs : FileSystem) : StaysInDirectory path fs fs :=
  fun _ hne => absurd rfl hne

theorem Cleared.staysInDirectory {names : List String} (h : fs.Cleared other path names) :
    StaysInDirectory path fs other := by
  intro location hne
  obtain ⟨-, directory, hleads, name, -, hbelow⟩ := h location hne
  exact ⟨directory, hleads, .inl ((isBelow_cons name directory).of_suffix hbelow)⟩

theorem Replaced.staysInDirectory {names : List String} (h : fs.Replaced other path names) :
    StaysInDirectory path fs other := by
  intro location hne
  obtain ⟨-, directory, hleads, name, -, rfl⟩ := h.replaced location hne
  exact ⟨directory, hleads, .inl (isBelow_cons name directory)⟩

theorem staysInDirectory_removeTree (fs : FileSystem) (path : Path) :
    StaysInDirectory path fs (fs.removeTree path).1 := by
  intro location hne
  obtain ⟨hnone, directory, hnames, hbelow⟩ := find?_removeTree hne
  refine ⟨directory, hnames.leadsTo, ?_⟩
  by_cases hsame : location = directory
  · exact .inr ⟨hsame, hnone⟩
  · exact .inl ⟨hbelow, hsame⟩

/-! ## Around a directory -/

/-- Nothing but what is at and below a directory differs, and nothing else than a directory stands in
    its place. -/
structure SameAround (directory : Location) (start fs : FileSystem) : Prop where
  outside : ∀ location, ¬ directory <:+ location → fs.find? location = start.find? location
  directory : fs.find? directory = none ∨ fs.find? directory = some .directory

/-- With the directory put back in its place, the way to it is as it was. -/
theorem SameAround.exists_completed (h : SameAround directory start fs)
    (hstart : start.find? directory = some .directory) :
    ∃ full : FileSystem, fs.RoutesIn full ∧
      (∀ location, ¬ IsBelow directory location → full.find? location = start.find? location) ∧
      ∀ location, location ≠ directory → full.find? location = fs.find? location := by
  have hagree : ∀ full : FileSystem, full.find? directory = some .directory →
      (∀ location, location ≠ directory → full.find? location = fs.find? location) →
      ∀ location, ¬ IsBelow directory location → full.find? location = start.find? location := by
    intro full hdirectory hsame location hbelow
    by_cases heq : location = directory
    · rw [heq, hdirectory, hstart]
    · rw [hsame location heq, h.outside location fun hsuffix => hbelow ⟨hsuffix, heq⟩]
  rcases h.directory with hnone | hthere
  · have hne : directory ≠ [] := by
      rintro rfl
      cases hnone
    have hfind := fun location => find?_insert fs directory location .directory hne
    refine ⟨fs.insert directory .directory, routesIn_of_filled fun location hthere => ?_,
      hagree _ (by rw [hfind, if_pos rfl]) ?_, ?_⟩
    · rw [hfind, if_neg]
      rintro rfl
      exact hthere hnone
    · intro location heq
      rw [hfind, if_neg heq]
    · intro location heq
      rw [hfind, if_neg heq]
  · exact ⟨fs, RoutesIn.refl fs, hagree fs hthere fun _ _ => rfl, fun _ _ => rfl⟩

/-- A path whose way does not go below its directory leads to no other directory. -/
theorem SameAround.leadsTo_eq {there : Location} (h : SameAround directory start fs)
    (hstart : start.LeadsTo path directory) (hpath : StaysOutside directory start path)
    (hleads : fs.LeadsTo path there) : there = directory := by
  obtain ⟨full, hroutes, hagree, -⟩ := h.exists_completed hstart.2
  have hlocate : full.locate path = start.locate path :=
    locate_congr fun location hmem => hagree location (hpath location hmem)
  have hfull := (hleads.of_routesIn hroutes).1
  rw [hlocate, hstart.1] at hfull
  cases hfull
  rfl

/-- What is inside the directory of the path leaves all around it alone. -/
theorem SameAround.of_staysInDirectory (h : SameAround directory start fs)
    (hstart : start.LeadsTo path directory) (hpath : StaysOutside directory start path)
    (hinside : StaysInDirectory path fs other) : SameAround directory start other := by
  constructor
  · intro location houtside
    refine (Decidable.byContradiction fun hne => ?_ : other.find? location = fs.find? location).trans
      (h.outside location houtside)
    obtain ⟨there, hleads, hbelow⟩ := hinside location hne
    obtain rfl := h.leadsTo_eq hstart hpath hleads
    rcases hbelow with hbelow | ⟨rfl, -⟩
    · exact houtside hbelow.1
    · exact houtside (List.suffix_refl _)
  · by_cases hsame : other.find? directory = fs.find? directory
    · rw [hsame]
      exact h.directory
    · obtain ⟨there, hleads, hbelow⟩ := hinside directory hsame
      obtain rfl := h.leadsTo_eq hstart hpath hleads
      rcases hbelow with hbelow | ⟨-, hnone⟩
      · exact absurd rfl hbelow.2
      · exact .inl hnone

/-! ## Making a directory again -/

/-- No parent of a path that leads to a directory is a free name. -/
theorem LeadsTo.locateLink_ne_vacant {parent : Location} (h : fs.LeadsTo path directory)
    (hfront : front <+: path.parts) :
    fs.locateLink ⟨path.anchor, front⟩ ≠ .ok (.vacant parent name) := by
  intro hvacant
  obtain ⟨more, hmore⟩ := hfront
  have hwalk := walk_of_locate h.1
  unfold locateLink place at hvacant
  split at hvacant
  · cases hvacant
  · rw [← hmore, walk_append_of_vacant more (.inl rfl) hvacant] at hwalk
    split at hwalk <;> cases hwalk

/-- Making a parent of the path, or what the path itself names, adds nothing but the directory. -/
theorem SameAround.ensureDirectory (h : SameAround directory start fs)
    (hstart : start.LeadsTo path directory) (hpath : StaysOutside directory start path)
    (hfront : front <+: path.parts)
    (hmade : fs.ensureDirectory ⟨path.anchor, front⟩ = .ok other) :
    SameAround directory start other := by
  have hadded : ∀ location, other.find? location ≠ fs.find? location →
      location = directory ∧ other.find? location = some .directory := by
    intro location hne
    obtain ⟨⟨parent, name, hlocate, rfl⟩, hthere⟩ := vacant_of_ensureDirectory hmade hne
    refine ⟨Decidable.byContradiction fun hother => ?_, hthere⟩
    -- the name would have been free already when the path led to the directory
    obtain ⟨full, hroutes, hagree, hrest⟩ := h.exists_completed hstart.2
    have hfree : full.find? (name :: parent) = none := by
      rw [hrest _ hother]
      exact find?_of_vacant hlocate
    have hplace : full.locateLink ⟨path.anchor, front⟩ = .ok (full.slot parent name) :=
      place_slot_of_routesIn hroutes hlocate (by simp [hfree])
    rw [slot, if_pos hfree,
      locateLink_congr_of_prefix hfront fun location hmem => hagree location (hpath location hmem)]
      at hplace
    exact hstart.locateLink_ne_vacant hfront hplace
  constructor
  · intro location houtside
    refine (Decidable.byContradiction fun hne => ?_ : other.find? location = fs.find? location).trans
      (h.outside location houtside)
    obtain ⟨rfl, -⟩ := hadded location hne
    exact houtside (List.suffix_refl _)
  · by_cases hsame : other.find? directory = fs.find? directory
    · rw [hsame]
      exact h.directory
    · exact .inr (hadded directory hsame).2

/-- Making the directory again, with its parents, adds nothing else. -/
theorem SameAround.makeDirectories (names : List String) (h : SameAround directory start fs)
    (hstart : start.LeadsTo path directory) (hpath : StaysOutside directory start path)
    (hnames : names.reverse <+: path.parts) :
    SameAround directory start (fs.makeDirectories path.anchor names).1 := by
  induction names with
  | nil =>
      unfold FileSystem.makeDirectories
      split
      · next heq => exact h.ensureDirectory hstart hpath hnames heq
      · exact h
  | cons name outer ih =>
      have houter := ih ((by simp : outer.reverse <+: (name :: outer).reverse).trans hnames)
      unfold FileSystem.makeDirectories
      simp only
      split
      · next heq => exact h.ensureDirectory hstart hpath hnames heq
      · split
        · next hmade =>
            rw [hmade] at houter
            exact houter
        · next hmade =>
            rw [hmade] at houter
            split
            · next heq => exact houter.ensureDirectory hstart hpath hnames heq
            · exact houter
      · exact h

end JuliaNative.FileSystem
