import JuliaNative.Proofs.FileSystem.Removal
import JuliaNative.Proofs.Link.LibraryNames
import JuliaNative.Proofs.Staging.Libraries

set_option autoImplicit false

/-! # Which libraries are selected

Of a directory that is found the libraries are selected that are files, or links whose paths lead to files,
and whose names are those of libraries without `debug` in them, each once and in the order of the names.
A line feed behind the name of a library does not keep a file from being selected. Only a name or a path
that is too long to be looked at does, and then nothing is selected at all
(`Stager.selectLibraries_exact`). -/

namespace JuliaNative

open JuliaNative.FileSystem JuliaNative.Action

/-- An entry of a directory is a file, or a link whose path leads to a file. -/
inductive FileSystem.HoldsFile (fs : FileSystem) (path : Path) (directory : Location) (name : String) : Prop
  | file {file : File} (h : fs.find? (name :: directory) = some (.file file)) :
    HoldsFile fs path directory name
  | link {target : String} {file : File} (hlink : fs.find? (name :: directory) = some (.link target))
    (hfile : fs.lookup? (path.entry name) = some (.file file)) : HoldsFile fs path directory name

theorem FileSystem.HoldsFile.there {fs : FileSystem} {path : Path} {directory : Location} {name : String}
    (h : fs.HoldsFile path directory name) : fs.find? (name :: directory) ≠ none := by
  cases h with
  | file h => simp [h]
  | link hlink _ => simp [hlink]

section Looking

variable {fs : FileSystem} {path : Path} {directory : Location} {name : String}

/-- The path of an entry that fits leads to a file if the entry is one or is a link to one. -/
theorem FileSystem.holdsFile_iff (hname : IsPlain name) (hfits : Fits path name)
    (hleads : fs.LeadsTo path directory) :
    fs.HoldsFile path directory name ↔ ∃ file, fs.lookup? (path.entry name) = some (.file file) := by
  constructor
  · intro h
    cases h with
    | @file file hfile =>
        have hlink := (isLink_entry hname hfits hleads).2 (by simp [hfile])
        exact ⟨file, by rw [lookup?_entry hname hfits hleads hlink, hfile]⟩
    | link _ hfile => exact ⟨_, hfile⟩
  · rintro ⟨file, hfile⟩
    by_cases hlink : fs.isLink (path.entry name) = true
    · obtain ⟨-, -, there, target, hthere, htarget⟩ := exists_link_of_isLink_entry hlink
      obtain rfl := hthere.unique hleads
      exact .link htarget hfile
    · rw [lookup?_entry hname hfits hleads (by simpa using hlink)] at hfile
      exact .file hfile

end Looking

namespace Stager

variable {host : Host} {world : World} {rules : LinkRules} {directory : Path} {location : Location}
  {names : List String} {name : String}

/-- A file is seen at the path of an entry that can be looked at if the entry is one or is a link to one. -/
theorem seesFile_entry_iff (hname : IsPlain name) (hnull : (directory.entry name).hasNull = false)
    (hleads : world.files.LeadsTo (host.workingDirectory.join directory) location)
    (hcan : host.cannotSee world.files (directory.entry name) = false) :
    host.seesFile world.files (directory.entry name) = true ↔
      world.files.HoldsFile (host.workingDirectory.join directory) location name := by
  -- a name that is too long would keep the entry from being looked at
  have hfits : Fits (host.workingDirectory.join directory) name := by
    by_contra hlong
    have hlocate := locate_entry_of_not_fits hname hleads hlong
    rw [← join_entry] at hlocate
    simp [Host.cannotSee, hnull, hlocate] at hcan
  rw [holdsFile_iff hname hfits hleads, ← join_entry]
  constructor
  · exact Host.exists_file_of_seesFile
  · rintro ⟨file, hfile⟩
    simp [Host.seesFile, Host.sees, hnull, hfile, Entry.isFile]

/-- Whether the entry of a name is selected, if it can be looked at. -/
def selects (host : Host) (rules : LinkRules) (files : FileSystem) (directory : Path) (name : String) :
    Bool :=
  host.seesFile files (directory.entry name) && rules.isShipped name

theorem returns_filterM_shipsEntry
    (hcan : ∀ name ∈ names, host.cannotSee world.files (directory.entry name) = false) :
    Returns host (names.filterM (shipsEntry rules directory)) world
      (names.filter (selects host rules world.files directory)) world := by
  induction names with
  | nil => exact returns_filterM_nil.2 ⟨rfl, rfl⟩
  | cons name rest ih =>
      obtain ⟨hname, hrest⟩ := List.forall_mem_cons.1 hcan
      refine returns_filterM_cons.2 ⟨_, world, _, returns_shipsEntry hname, ih hrest, ?_⟩
      rw [List.filter_cons]
      rfl

/-- Of a directory of which every entry can be looked at the selected entries are returned. -/
theorem returns_selectLibraries (hnull : directory.hasNull = false)
    (hlist : world.files.list (host.workingDirectory.join directory) = .ok names)
    (hcan : ∀ name ∈ names, host.cannotSee world.files (directory.entry name) = false) :
    Returns host (selectLibraries rules directory) world
      ((names.filter (selects host rules world.files directory)).map directory.entry) world := by
  unfold selectLibraries
  refine returns_bind.2 ⟨_, world, (returns_entryNames hnull).2 ⟨hlist, rfl⟩, ?_⟩
  exact returns_bind.2 ⟨_, world, returns_filterM_shipsEntry hcan, returns_pure.2 ⟨rfl, rfl⟩⟩

/-- A name that is taken for one of a library stands for an entry. -/
theorem isPlain_of_isShipped (hplatform : rules.platform = .linux) (h : rules.isShipped name = true) :
    IsPlain name := by
  have hhead : name.toList.head? = some 'l' := by
    obtain ⟨hlibrary | ⟨stem, heq, hlibrary⟩, -⟩ := (LinkRules.isShipped_iff hplatform).1 h
    · exact hlibrary.head?
    · rw [heq, List.head?_append, hlibrary.head?]
      rfl
  refine ⟨?_, ?_, ?_⟩ <;>
  · rintro rfl
    simp at hhead

/-- An entry that can be looked at is selected if it holds a file and is shipped by its name. -/
theorem selects_iff (hplatform : rules.platform = .linux) (hnull : (directory.entry name).hasNull = false)
    (hleads : world.files.LeadsTo (host.workingDirectory.join directory) location)
    (hcan : host.cannotSee world.files (directory.entry name) = false) :
    selects host rules world.files directory name = true ↔
      world.files.HoldsFile (host.workingDirectory.join directory) location name ∧
        rules.isShipped name = true := by
  rw [selects, Bool.and_eq_true]
  exact and_congr_left fun hshipped =>
    seesFile_entry_iff (isPlain_of_isShipped hplatform hshipped) hnull hleads hcan

/-- Selecting the libraries of a directory crashes exactly if one of its entries cannot be looked at.
    Otherwise the selected libraries are, in the order of their names and each once, the entries that are
    files or links to files, in whose names `debug` does not occur, and whose names are those of libraries
    or such names with one line feed behind them. -/
theorem selectLibraries_exact (hplatform : rules.platform = .linux) (hnull : directory.hasNull = false)
    (hleads : world.files.LeadsTo (host.workingDirectory.join directory) location)
    (hnames : ∀ name, world.files.find? (name :: location) ≠ none →
      name.toList.contains (Char.ofNat 0) = false) :
    (Crashes host (selectLibraries rules directory) world ↔
        ∃ name, world.files.find? (name :: location) ≠ none ∧
          host.cannotSee world.files (directory.entry name) = true) ∧
      ((∀ name, world.files.find? (name :: location) ≠ none →
          host.cannotSee world.files (directory.entry name) = false) →
        ∃ names : List String,
          Returns host (selectLibraries rules directory) world (names.map directory.entry) world ∧
            names.Pairwise (· < ·) ∧
            ∀ name, name ∈ names ↔
              world.files.HoldsFile (host.workingDirectory.join directory) location name ∧
                (LinkRules.IsLibraryName name.toList ∨
                  ∃ stem, name.toList = stem ++ ['\n'] ∧ LinkRules.IsLibraryName stem) ∧
                ¬ "debug".toList <:+: name.toList) := by
  have hlist : world.files.list (host.workingDirectory.join directory) = .ok (world.files.names location) :=
    list_eq_ok_iff.2 ⟨location, hleads, rfl⟩
  constructor
  · rw [crashes_selectLibraries hnull hlist]
    simp only [mem_names]
  · intro hcan
    refine ⟨_, returns_selectLibraries hnull hlist fun name hname => hcan name (mem_names.1 hname),
      (names_pairwise world.files location).filter _, fun name => ?_⟩
    rw [List.mem_filter, mem_names, ← LinkRules.isShipped_iff hplatform]
    have hselects : world.files.find? (name :: location) ≠ none →
        (selects host rules world.files directory name = true ↔
          world.files.HoldsFile (host.workingDirectory.join directory) location name ∧
            rules.isShipped name = true) := fun hthere =>
      selects_iff hplatform (by rw [Path.hasNull_entry, hnull, hnames name hthere, Bool.or_false]) hleads
        (hcan name hthere)
    -- what holds a file is an entry, so that the listing can be left out of the condition
    constructor
    · exact fun h => (hselects h.1).1 h.2
    · exact fun h => ⟨h.1.there, (hselects h.1.there).2 h⟩

/-- A file is selected although a line feed stands behind the name of a library. -/
theorem selectLibraries_line_feed :
    let host := Host.obedient Host.plainCommand fun _ => ByteArray.empty
    let rules : LinkRules := ⟨.linux, none⟩
    let file : Entry := .file ⟨ByteArray.empty, .at 0⟩
    let world : World :=
      { files := (((Host.projectFiles []).insert ["lib", "work"] .directory).insert
          ["libz.so\n", "lib", "work"] file).insert ["libz-debug.so", "lib", "work"] file }
    let directory := Path.ofString "lib"
    world.files.LeadsTo (host.workingDirectory.join directory) ["lib", "work"] ∧
      ∃ names : List String,
        Returns host (selectLibraries rules directory) world (names.map directory.entry) world ∧
          "libz.so\n" ∈ names ∧ "libz-debug.so" ∉ names := by
  intro host rules file world directory
  have hleads : world.files.LeadsTo (host.workingDirectory.join directory) ["lib", "work"] :=
    reached?_eq_some_iff.1 (by decide)
  have hplatform : rules.platform = .linux := rfl
  have hentries : ∀ name ∈ world.files.names ["lib", "work"],
      name.toList.contains (Char.ofNat 0) = false ∧
        host.cannotSee world.files (directory.entry name) = false := by
    decide
  obtain ⟨-, hselects⟩ := selectLibraries_exact hplatform (by decide) hleads
    fun name hname => (hentries name (mem_names.2 hname)).1
  obtain ⟨names, hreturns, -, hmem⟩ := hselects fun name hname => (hentries name (mem_names.2 hname)).2
  have hfile : world.files.find? ["libz.so\n", "lib", "work"] = some file := by decide
  have hlibrary : LinkRules.IsLibraryName "libz.so".toList :=
    ⟨['z'], [], by decide, by simp, by decide, [], rfl, List.forall_mem_nil _⟩
  refine ⟨hleads, names, hreturns, (hmem _).2 ⟨.file hfile, .inr ⟨_, ?_, hlibrary⟩, ?_⟩, fun h => ?_⟩
  · decide
  · decide
  · exact ((hmem _).1 h).2.2 (by decide)

end Stager

end JuliaNative
