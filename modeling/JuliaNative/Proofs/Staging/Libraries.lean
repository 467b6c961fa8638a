import JuliaNative.Proofs.Escapes
import JuliaNative.Proofs.FileSystem.Arrival
import JuliaNative.Proofs.Staging.Again
import JuliaNative.Proofs.Staging.Copies

set_option autoImplicit false

/-! # Shipped libraries

A library that is a link is shipped as a link, which may lead nowhere from the build directory. So a
shipped library is there afterwards, as a file or as a link (`Stager.Placed`), and it can be used if its
path leads to a file whatever comes to stand under the names of the shipped libraries: a file, a link that
one of them is, or one that stood there before. In a build directory in which nothing stood under these
names, that decides whether all libraries can be used (`Stager.copyRuntimeLibraries_usable`). -/

namespace JuliaNative

open JuliaNative.FileSystem JuliaNative.Action

namespace Stager

variable {host : Host} {world after : World} {stager : Stager} {rules : LinkRules} {runtime : Runtime}
  {folder library source : Path} {libraries copied rest : List Path} {names : List String}
  {name : String} {before mid : FileSystem} {directory location : Location}

/-! ## Selecting -/

/-- An entry that is no directory stands in the build directory under a name. -/
structure Placed (stager : Stager) (files : FileSystem) (name : String) : Prop where
  isPlain : IsPlain name
  fits : Fits stager.buildDir name
  there : ∃ directory entry, files.LeadsTo stager.buildDir directory ∧
    files.find? (name :: directory) = some entry ∧ entry ≠ .directory

theorem Placed.lookupLink? (h : stager.Placed before name) :
    ∃ entry, before.lookupLink? (stager.buildDir.entry name) = some entry ∧ entry ≠ .directory := by
  obtain ⟨directory, entry, hleads, hentry, hdirectory⟩ := h.there
  have hplace : before.locateLink (stager.buildDir.entry name) = .ok (before.slot directory name) :=
    place_entry h.isPlain h.fits hleads (fun h => by cases h)
  rw [slot, if_neg (by simp [hentry])] at hplace
  exact ⟨entry, lookupLink?_eq_some_iff.2 ⟨_, hplace, hentry⟩, hdirectory⟩

/-- What a path of an entry leads to, if it is a file, is the entry or behind a link there. -/
theorem placed_of_lookup? {file : File}
    (h : before.lookup? (stager.buildDir.entry name) = some (.file file)) :
    stager.Placed before name := by
  have hname : IsPlain name := by
    have hplain := isPlain_name h (by simp)
    rwa [Path.name_entry] at hplain
  obtain ⟨location, hlocate, hfile⟩ := lookup?_eq_some_iff.1 h
  obtain ⟨directory, hleads, hslot⟩ := leadsTo_of_place_entry hname hlocate
  refine ⟨hname, fits_of_place hname hlocate, directory, ?_⟩
  by_cases hlink : ∃ target, before.find? (name :: directory) = some (.link target)
  · obtain ⟨target, htarget⟩ := hlink
    exact ⟨.link target, hleads, htarget, by simp⟩
  · have hplace := hslot fun _ target htarget => hlink ⟨target, htarget⟩
    unfold slot at hplace
    split at hplace
    · cases hplace
    · cases hplace
      exact ⟨.file file, hleads, hfile, by simp⟩

/-- A source that is copied, or that is up to date, has an entry in its place. -/
theorem placed_of_refreshed (h : Refreshed host stager source before mid) :
    stager.Placed mid source.name := by
  unfold Refreshed at h
  split at h
  · obtain ⟨directory, entry, hcopy⟩ := h
    exact ⟨hcopy.isPlain, hcopy.fits, directory, entry, hcopy.put.leads, hcopy.there, hcopy.noDirectory⟩
  · next hcurrent =>
      subst h
      obtain ⟨_, _, -, hcopy, -⟩ := exists_of_needsCopy_eq_false (by simpa [isStale] using hcurrent)
      exact placed_of_lookup? hcopy

/-- Entries stay in their places when a source is copied, or give way to its entry. -/
theorem Placed.refreshed (h : stager.Placed before name)
    (hstep : Refreshed host stager source before mid) : stager.Placed mid name := by
  by_cases hsame : name = source.name
  · rw [hsame]
    exact placed_of_refreshed hstep
  · unfold Refreshed at hstep
    split at hstep
    · obtain ⟨directory, _, hcopy⟩ := hstep
      obtain ⟨there, entry, hleads, hentry, hdirectory⟩ := h.there
      obtain rfl := hleads.unique hcopy.put.led
      refine ⟨h.isPlain, h.fits, there, entry, hcopy.put.leads, ?_, hdirectory⟩
      rw [hcopy.put.elsewhere _ (by simpa using hsame), hentry]
    · subst hstep
      exact h

/-- The target of an entry, if that is a link. -/
def targetOf? : Option Entry → Option String
  | some (.link target) => some target
  | _ => none

/-- The places of libraries in a directory. -/
def places (libraries : List Path) (directory : Location) : List Location :=
  libraries.map fun library => library.name :: directory

/-- The targets of the links that may stand in a place once libraries are copied to a directory: of one that
    stands there already, and of those that libraries of this place are. -/
def mayStand (host : Host) (files : FileSystem) (libraries : List Path) (directory : Location)
    (place : Location) : List String :=
  (targetOf? (files.find? place)).toList ++
    (libraries.filter fun library => library.name :: directory = place).filterMap fun library =>
      targetOf? (files.lookupLink? (host.workingDirectory.join library))

/-- The places of libraries are open. -/
def openings (host : Host) (files : FileSystem) (libraries : List Path) (directory : Location) :
    Openings :=
  fun place => if (places libraries directory).contains place then
    some (mayStand host files libraries directory place) else none

/-- No library is selected from a directory whose way leads through a place of a library. -/
def SelectedApart (host : Host) (files : FileSystem) (libraries : List Path) (directory : Location) :
    Prop :=
  ∀ library ∈ libraries, ∀ place ∈ places libraries directory,
    place ∉ files.way (host.workingDirectory.join library.parent)

variable {start files : FileSystem} {place : Location} {target : String}

theorem mem_places : place ∈ places libraries directory ↔
    ∃ library ∈ libraries, library.name :: directory = place :=
  List.mem_map

/-- In the place of each library stands what stood there at the start, or what a library of that place was
    at the start. Elsewhere is what was there. -/
structure Filled (host : Host) (libraries : List Path) (directory : Location)
    (start files : FileSystem) : Prop where
  same : ∀ location, location ∉ places libraries directory →
    files.find? location = start.find? location
  filled : ∀ place ∈ places libraries directory, files.find? place = start.find? place ∨
    ∃ library ∈ libraries, library.name :: directory = place ∧ ∃ entry, entry ≠ .directory ∧
      start.lookupLink? (host.workingDirectory.join library) = some entry ∧
        files.find? place = some entry

theorem Filled.refl (host : Host) (libraries : List Path) (directory : Location)
    (start : FileSystem) : Filled host libraries directory start start :=
  ⟨fun _ _ => rfl, fun _ _ => .inl rfl⟩

theorem join_entry (base folder : Path) (name : String) :
    base.join (folder.entry name) = (base.join folder).entry name := by
  by_cases h : folder.anchor = .current <;> simp [Path.join, Path.isAbsolute, Path.entry, h]

/-- A copy that is put in the place of a library is what the library was at the start. -/
theorem lookupLink?_start {entry : Entry} (hbefore : Filled host libraries directory start before)
    (hapart : SelectedApart host start libraries directory) (hmem : library ∈ libraries)
    (hentry : library = library.parent.entry library.name)
    (hcopy : Duplicated (host.workingDirectory.join library) stager.buildDir library.name before mid
      directory entry) :
    start.lookupLink? (host.workingDirectory.join library) = some entry := by
  have hjoin : host.workingDirectory.join library =
      (host.workingDirectory.join library.parent).entry library.name := by
    rw [← join_entry, ← hentry]
  obtain ⟨location, hlocate, hthere, hne⟩ := hcopy.source
  rw [hjoin] at hlocate
  obtain ⟨folder, hleads, rfl⟩ := eq_of_locateLink_entry hcopy.isPlain hlocate
  have hother : library.name :: folder ∉ places libraries directory := by
    intro hplace
    obtain ⟨other, -, heq⟩ := mem_places.1 hplace
    exact hne (by rw [(List.cons.inj heq).2])
  have hfolder : ∀ location ∈ start.way (host.workingDirectory.join library.parent),
      before.find? location = start.find? location := by
    intro location hlocation
    apply hbefore.same
    intro hplace
    exact hapart library hmem location hplace hlocation
  have hfound : start.LeadsTo (host.workingDirectory.join library.parent) folder := by
    have hlocate := (locate_congr hfolder).symm.trans hleads.1
    exact ⟨hlocate, by rw [← hfolder folder (mem_way_of_locate hlocate), hleads.2]⟩
  have hname : start.locateLink ((host.workingDirectory.join library.parent).entry library.name) =
      .ok (start.slot folder library.name) :=
    place_entry hcopy.isPlain (fits_of_place hcopy.isPlain hlocate) hfound (fun h => by cases h)
  have hstays : start.find? (library.name :: folder) = some entry := by
    rw [← hbefore.same _ hother, hthere]
  rw [slot, if_neg (by simp [hstays])] at hname
  rw [hjoin]
  exact lookupLink?_eq_some_iff.2 ⟨_, hname, hstays⟩

theorem Filled.refreshed (h : Filled host libraries directory start before)
    (hapart : SelectedApart host start libraries directory) (hmem : library ∈ libraries)
    (hentry : library = library.parent.entry library.name)
    (hleads : before.LeadsTo stager.buildDir directory)
    (hstep : Refreshed host stager library before mid) :
    Filled host libraries directory start mid ∧ mid.LeadsTo stager.buildDir directory := by
  unfold Refreshed at hstep
  split at hstep
  · obtain ⟨there, entry, hcopy⟩ := hstep
    obtain rfl := hcopy.put.led.unique hleads
    have hplace : library.name :: there ∈ places libraries there := mem_places.2 ⟨library, hmem, rfl⟩
    refine ⟨⟨?_, ?_⟩, hcopy.put.leads⟩
    · intro location hclosed
      rw [hcopy.put.elsewhere location, h.same location hclosed]
      rintro rfl
      exact hclosed hplace
    · intro location hopen
      by_cases hsame : location = library.name :: there
      · subst hsame
        exact .inr ⟨library, hmem, rfl, entry, hcopy.noDirectory,
          lookupLink?_start h hapart hmem hentry hcopy, hcopy.there⟩
      · rw [hcopy.put.elsewhere location hsame]
        exact h.filled location hopen
  · subst hstep
    exact ⟨h, hleads⟩

end Stager
end JuliaNative
