import JuliaNative.Proofs.Outputs
import JuliaNative.Proofs.Staging

set_option autoImplicit false

/-! # Copying again

Files that were copied are up to date afterwards, so that copying them again copies nothing, unless one
of the copies does not stay what it was made of: a link is copied as a link, which leads somewhere else
from the build directory; a source may share its name with another one; and a copy may be put on the way
that leads to a source (`Stager.Undisturbed`). Copying again copies nothing exactly if every source is up
to date (`Stager.copyFiles_again`). -/

namespace JuliaNative

open JuliaNative.FileSystem JuliaNative.Action

namespace Stager

variable {host : Host} {world after : World} {stager : Stager} {sources : List Path}
  {names : List String} {files changed : FileSystem} {source : Path} {directory : Location}
  {file copy : File}

/-! ## Sources whose copies last -/

/-- Copying under some names does not disturb a source: neither it nor what stands at its place in the
    build directory is a link, no other source has its name, and its way leads through no entry of the
    build directory that is put in place. -/
structure Undisturbed (host : Host) (stager : Stager) (files : FileSystem) (sources : List Path)
    (names : List String) (source : Path) : Prop where
  noLink : files.isLink (host.workingDirectory.join source) = false
  noLinkThere : files.isLink (stager.buildDir.entry source.name) = false
  alone : ∀ other ∈ sources, other.name = source.name → other = source
  apart : ∀ directory, files.LeadsTo stager.buildDir directory → ∀ name ∈ names,
    name :: directory ∉ files.way (host.workingDirectory.join source)

/-- A file has a copy in the build directory that is not older and has the same size, and its way leads
    through no other entry that is put in place there. -/
structure HasCopy (host : Host) (stager : Stager) (names : List String) (source : Path)
    (files : FileSystem) (directory : Location) (file copy : File) : Prop where
  noNull : source.hasNull = false
  isPlain : IsPlain source.name
  fits : Fits stager.buildDir source.name
  leads : files.LeadsTo stager.buildDir directory
  found : files.lookup? (host.workingDirectory.join source) = some (.file file)
  copied : files.find? (source.name :: directory) = some (.file copy)
  current : isStale (File.status file) (some (File.status copy)) = false
  apart : ∀ name ∈ names, name ≠ source.name →
    name :: directory ∉ files.way (host.workingDirectory.join source)

theorem HasCopy.lookup?_copy (h : HasCopy host stager names source files directory file copy) :
    files.lookup? (stager.buildDir.entry source.name) = some (.file copy) := by
  have hplace : files.locate (stager.buildDir.entry source.name) = .ok (files.slot directory source.name) :=
    place_entry h.isPlain h.fits h.leads fun _ target hlink => by
      rw [h.copied] at hlink
      cases hlink
  rw [slot, if_neg (by simp [h.copied])] at hplace
  exact lookup?_eq_some_iff.2 ⟨_, hplace, h.copied⟩

theorem needsCopy_of_lookup? {first second : Path} (hfirst : files.lookup? first = some (.file file))
    (hsecond : files.lookup? second = some (.file copy)) :
    files.needsCopy first second = isStale (File.status file) (some (File.status copy)) := by
  simp [needsCopy, hfirst, hsecond]

theorem exists_of_needsCopy_eq_false {first second : Path} (h : files.needsCopy first second = false) :
    ∃ file copy, files.lookup? first = some (.file file) ∧ files.lookup? second = some (.file copy) ∧
      isStale (File.status file) (some (File.status copy)) = false := by
  unfold needsCopy at h
  split at h
  · next file copy hfirst hsecond => exact ⟨file, copy, hfirst, hsecond, h⟩
  · cases h

theorem HasCopy.upToDate (habsolute : stager.buildDir.isAbsolute = true)
    (h : HasCopy host stager names source files directory file copy) :
    stager.UpToDate host files source := by
  have hthere : host.workingDirectory.join (stager.buildDir.entry source.name) =
      stager.buildDir.entry source.name := by
    rw [Path.join, if_pos (by exact habsolute)]
  refine ⟨?_, ?_, ?_⟩
  · simp [Host.seesFile, Host.sees, h.noNull, h.found, Entry.isFile]
  · obtain ⟨location, hlocate, -⟩ := lookup?_eq_some_iff.1 h.lookup?_copy
    simp [Host.cannotSee, hthere, hlocate]
  · rw [needsCopy_of_lookup? h.found h.lookup?_copy, h.current]

/-! ## One more copy -/

/-- Another copy that is put in place leaves a file and its copy alone. -/
theorem HasCopy.putAt {other : String} {there : Location}
    (h : HasCopy host stager names source files directory file copy)
    (hput : files.PutAt changed stager.buildDir other there) (hmem : other ∈ names)
    (hother : other ≠ source.name) :
    HasCopy host stager names source changed directory file copy := by
  obtain rfl := hput.led.unique h.leads
  have hway : ∀ location ∈ files.way (host.workingDirectory.join source),
      changed.find? location = files.find? location := by
    intro location hlocation
    refine hput.elsewhere location ?_
    rintro rfl
    exact h.apart other hmem hother hlocation
  refine ⟨h.noNull, h.isPlain, h.fits, hput.leads, ?_, ?_, h.current, ?_⟩
  · rw [lookup?_congr hway, h.found]
  · rw [hput.elsewhere _ (by simpa using Ne.symm hother), h.copied]
  · rw [way_congr hway]
    exact h.apart

/-- A copy of another source disturbs no source that is not disturbed. -/
theorem Undisturbed.putAt {other : String} {there : Location}
    (h : Undisturbed host stager files sources names source)
    (hput : files.PutAt changed stager.buildDir other there) (hmem : other ∈ names)
    (hother : other ≠ source.name) : Undisturbed host stager changed sources names source := by
  have hway : ∀ location ∈ files.way (host.workingDirectory.join source),
      changed.find? location = files.find? location := by
    intro location hlocation
    refine hput.elsewhere location ?_
    rintro rfl
    exact h.apart there hput.led other hmem hlocation
  refine ⟨isLink_congr h.noLink hway, ?_, h.alone, fun directory hleads name hname => ?_⟩
  · rw [← Bool.not_eq_true]
    intro hlink
    obtain ⟨hname, hfits, directory, target, hleads, htarget⟩ := exists_link_of_isLink_entry hlink
    obtain rfl := hleads.unique hput.leads
    rw [hput.elsewhere _ (by simpa using Ne.symm hother)] at htarget
    exact (isLink_entry hname hfits hput.led).1 h.noLinkThere target htarget
  · obtain rfl := hleads.unique hput.leads
    rw [way_congr hway]
    exact h.apart directory hput.led name hname

/-- A source that is not disturbed has a copy once it was copied. -/
theorem Undisturbed.hasCopy_of_copiedTo (h : Undisturbed host stager files sources names source)
    (hsees : host.seesFile files source = true) (hmem : source.name ∈ names)
    (hcopied : CopiedTo (host.workingDirectory.join source) stager.buildDir source.name files changed
      directory) : ∃ file, HasCopy host stager names source changed directory file file := by
  obtain ⟨file, hlookup⟩ := Host.exists_file_of_seesFile hsees
  have haway := h.apart directory hcopied.put.led
  have hway : ∀ location ∈ files.way (host.workingDirectory.join source),
      changed.find? location = files.find? location := by
    intro location hlocation
    refine hcopied.put.elsewhere location ?_
    rintro rfl
    exact haway _ hmem hlocation
  have hread : files.read (host.workingDirectory.join source) = .ok file :=
    read_eq_ok_iff.2 (lookup?_eq_some_iff.1 hlookup)
  refine ⟨file, Host.hasNull_of_seesFile hsees, hcopied.isPlain, hcopied.fits, hcopied.put.leads, ?_,
    hcopied.content h.noLink (haway _ hmem) file hread, isStale_self _, ?_⟩
  · rw [lookup?_congr hway, hlookup]
  · rw [way_congr hway]
    exact fun name hname _ => haway name hname

/-- A source that is not disturbed has a copy if it is up to date. -/
theorem Undisturbed.hasCopy_of_upToDate (h : Undisturbed host stager files sources names source)
    (hcurrent : stager.UpToDate host files source) :
    ∃ directory file copy, HasCopy host stager names source files directory file copy := by
  obtain ⟨file, copy, hfound, hcopy, hstale⟩ := exists_of_needsCopy_eq_false hcurrent.current
  have hname : IsPlain source.name := by
    have hplain := isPlain_name hcopy (by simp)
    rwa [Path.name_entry] at hplain
  obtain ⟨location, hlocate, hentry⟩ := lookup?_eq_some_iff.1 hcopy
  obtain ⟨directory, hleads, hslot⟩ := place_entry_of_isLink_eq_false hname h.noLinkThere hlocate
  have hcopied : files.find? (source.name :: directory) = some (.file copy) := by
    unfold slot at hslot
    split at hslot <;> cases hslot
    exact hentry
  exact ⟨directory, file, copy, Host.hasNull_of_seesFile hcurrent.sees, hname,
    fits_of_place hname hlocate, hleads, hfound, hcopied, hstale,
    fun name hmem _ => h.apart directory hleads name hmem⟩

/-! ## One more source -/

theorem exists_hasCopy_step {other : Path} {wanted : Bool}
    (habsolute : stager.buildDir.isAbsolute = true)
    (h : ∃ directory file copy, HasCopy host stager names source world.files directory file copy)
    (halone : other.name = source.name → other = source)
    (hnames : wanted = true → other.name ∈ names)
    (hreturns : Returns host (stager.copyFile other) world wanted after) :
    ∃ directory file copy, HasCopy host stager names source after.files directory file copy := by
  obtain ⟨directory, file, copy, hcopy⟩ := h
  have hends := (ends_copyFile.of_returns hreturns).2
  cases wanted with
  | false =>
      obtain ⟨-, rfl⟩ := hends
      exact ⟨directory, file, copy, hcopy⟩
  | true =>
      obtain ⟨hstale, -, -, there, hcopied⟩ := hends
      refine ⟨directory, file, copy, hcopy.putAt hcopied.put (hnames rfl) fun hsame => ?_⟩
      obtain rfl := halone hsame
      exact hstale (hcopy.upToDate habsolute)

theorem Undisturbed.step {other : Path} {wanted : Bool}
    (h : Undisturbed host stager world.files sources names source) (hother : other.name ≠ source.name)
    (hnames : wanted = true → other.name ∈ names)
    (hreturns : Returns host (stager.copyFile other) world wanted after) :
    Undisturbed host stager after.files sources names source := by
  have hends := (ends_copyFile.of_returns hreturns).2
  cases wanted with
  | false =>
      obtain ⟨-, rfl⟩ := hends
      exact h
  | true =>
      obtain ⟨-, -, -, there, hcopied⟩ := hends
      exact h.putAt hcopied.put (hnames rfl) hother

theorem Undisturbed.arrive {wanted : Bool}
    (h : Undisturbed host stager world.files sources names source)
    (hnames : wanted = true → source.name ∈ names)
    (hreturns : Returns host (stager.copyFile source) world wanted after) :
    ∃ directory file copy, HasCopy host stager names source after.files directory file copy := by
  have hends := (ends_copyFile.of_returns hreturns).2
  cases wanted with
  | false =>
      obtain ⟨hcurrent, rfl⟩ := hends
      exact h.hasCopy_of_upToDate hcurrent
  | true =>
      obtain ⟨-, hsees, -, there, hcopied⟩ := hends
      obtain ⟨file, hcopy⟩ := h.hasCopy_of_copiedTo hsees (hnames rfl) hcopied
      exact ⟨there, file, file, hcopy⟩

/-! ## All sources -/

/-- A copy lasts while more files are copied. -/
theorem exists_hasCopy_filterM {rest copied : List Path}
    (habsolute : stager.buildDir.isAbsolute = true)
    (h : ∃ directory file copy, HasCopy host stager names source world.files directory file copy)
    (halone : ∀ other ∈ rest, other.name = source.name → other = source)
    (hnames : ∀ other ∈ copied, other.name ∈ names)
    (hreturns : Returns host (rest.filterM stager.copyFile) world copied after) :
    ∃ directory file copy, HasCopy host stager names source after.files directory file copy := by
  induction rest generalizing world copied with
  | nil =>
      obtain ⟨-, rfl⟩ := returns_filterM_nil.1 hreturns
      exact h
  | cons other later ih =>
      obtain ⟨wanted, mid, others, hone, hlater, rfl⟩ := returns_filterM_cons.1 hreturns
      refine ih (exists_hasCopy_step habsolute h (halone other (List.mem_cons_self ..)) ?_ hone)
        (fun more hmore => halone more (List.mem_cons_of_mem _ hmore)) (fun more hmore => ?_) hlater
      · rintro rfl
        exact hnames other (List.mem_cons_self ..)
      · refine hnames more ?_
        cases wanted with
        | false => exact hmore
        | true => exact List.mem_cons_of_mem _ hmore

/-- A source that is not disturbed has a copy in the end. -/
theorem Undisturbed.filterM {rest copied : List Path}
    (habsolute : stager.buildDir.isAbsolute = true)
    (h : Undisturbed host stager world.files sources names source) (hmem : source ∈ rest)
    (hrest : ∀ other ∈ rest, other ∈ sources) (hnames : ∀ other ∈ copied, other.name ∈ names)
    (hreturns : Returns host (rest.filterM stager.copyFile) world copied after) :
    ∃ directory file copy, HasCopy host stager names source after.files directory file copy := by
  induction rest generalizing world copied with
  | nil => cases hmem
  | cons other later ih =>
      obtain ⟨wanted, mid, others, hone, hlater, rfl⟩ := returns_filterM_cons.1 hreturns
      have hlaterSources : ∀ more ∈ later, more ∈ sources :=
        fun more hmore => hrest more (List.mem_cons_of_mem _ hmore)
      have hwanted : wanted = true → other.name ∈ names := by
        rintro rfl
        exact hnames other (List.mem_cons_self ..)
      have hothers : ∀ more ∈ others, more.name ∈ names := by
        intro more hmore
        refine hnames more ?_
        cases wanted with
        | false => exact hmore
        | true => exact List.mem_cons_of_mem _ hmore
      by_cases hsame : other = source
      · subst hsame
        exact exists_hasCopy_filterM habsolute (h.arrive hwanted hone)
          (fun more hmore => h.alone more (hlaterSources more hmore)) hothers hlater
      · have hdifferent : other.name ≠ source.name :=
          fun heq => hsame (h.alone other (hrest other (List.mem_cons_self ..)) heq)
        exact ih (h.step hdifferent hwanted hone)
          ((List.mem_cons.1 hmem).resolve_left (Ne.symm hsame)) hlaterSources hothers hlater

end Stager
end JuliaNative
