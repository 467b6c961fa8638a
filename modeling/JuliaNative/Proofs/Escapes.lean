import JuliaNative.Proofs.Crashes
import JuliaNative.Proofs.Staging

set_option autoImplicit false

/-! # Where staging crashes

Refusals of the system are errors of the build almost everywhere in the work on the build directory.
They escape as crashes where a path is too long to be looked at, where the build directory cannot be
listed, and where the directories of the runtime cannot be resolved. Null characters are no matter once
the build directory is there, since its path holds none then. -/

namespace JuliaNative

open JuliaNative.FileSystem JuliaNative.Action

namespace Path

theorem hasNull_entry (directory : Path) (name : String) :
    (directory.entry name).hasNull = (directory.hasNull || name.toList.contains (Char.ofNat 0)) := by
  simp [hasNull, entry]

/-- A path without null characters has a name without one. -/
theorem contains_name_of_hasNull {path : Path} (h : path.hasNull = false) :
    path.name.toList.contains (Char.ofNat 0) = false := by
  unfold name
  cases hlast : path.parts.getLast? with
  | none => rfl
  | some name => exact Bool.eq_false_iff.2 (List.any_eq_false.1 h name (List.mem_of_getLast? hlast))

/-- A generated file has a name without null characters. -/
theorem hasNull_child_of_generated {directory : Path} (h : directory.hasNull = false) {name : String}
    (hname : name = mainScriptName ∨ name = initSourceName) :
    (directory.child name).hasNull = false := by
  have hparts : ofString name = ⟨.current, [name]⟩ ∧
      name.toList.contains (Char.ofNat 0) = false := by
    rcases hname with rfl | rfl
    · decide +kernel
    · decide +kernel
  rw [child, hparts.1]
  show (directory.entry name).hasNull = false
  rw [hasNull_entry, h, hparts.2]
  rfl

end Path

variable {host : Host} {world : World} {path : Path}

theorem Host.leadsTo_of_seesDirectory {files : FileSystem} (h : host.seesDirectory files path = true) :
    ∃ location, files.LeadsTo (host.workingDirectory.join path) location := by
  have hnull := Host.hasNull_of_seesDirectory h
  unfold seesDirectory sees at h
  rw [hnull] at h
  simp only [Bool.false_eq_true, if_false, beq_iff_eq] at h
  exact lookup?_eq_some_iff.1 h

/-- A directory that is seen can be listed. -/
theorem Host.list_of_seesDirectory {files : FileSystem} (h : host.seesDirectory files path = true) :
    ∃ names, files.list (host.workingDirectory.join path) = .ok names := by
  obtain ⟨location, hlocate, hdirectory⟩ := Host.leadsTo_of_seesDirectory h
  unfold list
  rw [hlocate]
  simp only [hdirectory]
  exact ⟨_, rfl⟩

/-- A directory that can be listed is seen. -/
theorem Host.seesDirectory_of_list {files : FileSystem} {names : List String}
    (hnull : path.hasNull = false)
    (h : files.list (host.workingDirectory.join path) = .ok names) :
    host.seesDirectory files path = true := by
  obtain ⟨location, hleads, -⟩ := list_eq_ok_iff.1 h
  simp [seesDirectory, sees, hnull, lookup?_eq_some_iff.2 ⟨location, hleads⟩]

/-- A path of an entry that cannot be looked at goes on from one without null characters. -/
theorem Host.hasNull_of_cannotSee_entry {files : FileSystem} {name : String}
    (h : host.cannotSee files (path.entry name) = true) : path.hasNull = false := by
  have hnull := (Bool.and_eq_true_iff.1 h).1
  rw [Path.hasNull_entry, Bool.not_eq_true', Bool.or_eq_false_iff] at hnull
  exact hnull.1

namespace Stager

variable {stager : Stager} {source destination directory : Path} {sources : List Path}

/-! ## The build directory -/

theorem crashes_clean :
    Crashes host stager.clean world ↔ host.cannotSee world.files stager.buildDir = true := by
  rw [crashes_iff_ends]
  unfold clean
  rw [ends_bind, ends_isDirectory]
  split
  · next hlong => simp [hlong]
  · next hlong =>
      refine iff_of_false ?_ hlong
      rw [ends_ite]
      split
      · next hdirectory =>
          unfold removeTree report
          simp only [ends_bind, ends_sayIf, ends_refuseNull, ends_files, ends_setFiles, ends_pure,
            Host.hasNull_of_seesDirectory hdirectory, Bool.false_eq_true, if_false]
          split <;> simp
      · simp [report]

theorem crashes_ensureBuildDir :
    Crashes host stager.ensureBuildDir world ↔
      host.cannotSee world.files stager.buildDir = true ∨ stager.buildDir.hasNull = true := by
  rw [crashes_iff_ends]
  unfold ensureBuildDir
  rw [ends_bind, ends_isDirectory]
  split
  · next hlong => simp [hlong]
  · next hlong =>
      rw [ends_ite]
      split
      · next hdirectory => simp [hlong, Host.hasNull_of_seesDirectory hdirectory]
      · simp only [report, ends_bind, ends_sayIf, ends_refuseNull, ends_files, ends_setFiles, hlong,
          false_or, Bool.false_eq_true]
        split
        · next hnull => simp [hnull]
        · next hnull =>
            simp only [hnull]
            split <;> simp

/-- The path of a build directory that is there holds no null character. -/
theorem hasNull_of_returns_ensureBuildDir {made : Bool} {after : World}
    (h : Returns host stager.ensureBuildDir world made after) : stager.buildDir.hasNull = false := by
  have hends : Ends host stager.ensureBuildDir world (fun _ _ => stager.buildDir.hasNull = false)
      (fun _ _ => True) := by
    unfold ensureBuildDir
    rw [ends_bind, ends_isDirectory]
    split
    · trivial
    · rw [ends_ite]
      split
      · next hdirectory => exact Host.hasNull_of_seesDirectory hdirectory
      · simp only [report, ends_bind, ends_sayIf, ends_refuseNull, ends_files, ends_setFiles]
        split
        · trivial
        · next hnull =>
            split
            · simpa using hnull
            · trivial
  exact hends.of_returns h

theorem not_crashes_writeText {name content : String}
    (h : (stager.buildDir.child name).hasNull = false) :
    ¬ Crashes host (stager.writeText name content) world := by
  rw [crashes_iff_ends]
  unfold writeText
  simp only [ends_bind, ends_refuseNull, h, Bool.false_eq_true, if_false, ends_files]
  split <;> simp

theorem returns_writeText {name content : String} {after : World}
    (hnull : (stager.buildDir.child name).hasNull = false) :
    Returns host (stager.writeText name content) world path after ↔
      ∃ changed, world.files.write (stager.buildDir.child name) ⟨content.toUTF8, .now⟩ = .ok changed ∧
        stager.buildDir.child name = path ∧ world.withFiles changed = after := by
  rw [returns_iff_ends]
  unfold writeText
  simp only [ends_bind, ends_refuseNull, hnull, Bool.false_eq_true, if_false, ends_files]
  split
  · next changed hwrite =>
      rw [hwrite]
      simp
  · next refusal hwrite =>
      rw [hwrite]
      simp

/-! ## Temporary files -/

theorem not_crashes_reportNone (done : List String) :
    ¬ Crashes host (stager.reportNone done) world := by
  unfold reportNone report
  split
  · exact not_crashes_sayIf _ _
  · exact not_crashes_pure _

/-- Only a directory whose name holds a null character cannot be asked to be removed. -/
theorem crashes_removeEntry :
    Crashes host (removeEntry path) world ↔
      (world.files.isDirectory path && !world.files.isLink path && path.hasNull) = true := by
  rw [crashes_iff_ends]
  unfold removeEntry
  rw [ends_bind, ends_files, ends_ite]
  split
  · next htree =>
      unfold removeTree
      simp only [ends_bind, ends_refuseNull, ends_files, ends_setFiles, htree, Bool.true_and]
      split
      · next hnull => simp [hnull]
      · next hnull =>
          simp only [hnull]
          split <;> simp
  · next htree =>
      simp only [Bool.and_eq_true] at htree ⊢
      refine iff_of_false ?_ fun h => htree h.1
      split
      · simp
      · split <;> simp

theorem crashes_entryNames (hnull : directory.hasNull = false) :
    Crashes host (entryNames directory) world ↔
      ∃ refusal, world.files.list (host.workingDirectory.join directory) = .error refusal := by
  rw [crashes_iff_ends]
  unfold entryNames
  simp only [ends_bind, ends_refuseNull, hnull, Bool.false_eq_true, if_false, ends_files,
    ends_absolute]
  split <;> next heq => simp [heq]

theorem returns_entryNames (hnull : directory.hasNull = false) {names : List String} {after : World} :
    Returns host (entryNames directory) world names after ↔
      world.files.list (host.workingDirectory.join directory) = .ok names ∧ world = after := by
  rw [returns_iff_ends]
  unfold entryNames
  simp only [ends_bind, ends_refuseNull, hnull, Bool.false_eq_true, if_false, ends_files,
    ends_absolute]
  split <;> next heq => simp [heq]

/-- Reports an entry of the build directory and removes it. -/
def removeReported (stager : Stager) (name : String) : Action Unit := do
  stager.report ("  " ++ name)
  removeEntry (stager.buildDir.entry name)

/-- A name in the build directory is one of a directory, and holds a null character. -/
def HoldsNull (stager : Stager) (name : String) (files : FileSystem) : Prop :=
  (files.isDirectory (stager.buildDir.entry name) && !files.isLink (stager.buildDir.entry name) &&
    (stager.buildDir.entry name).hasNull) = true

/-- Removing temporary files crashes: the build directory cannot be listed, or a name in it holds a null
    character. -/
inductive RemovalEscapes (host : Host) (stager : Stager) (world : World) : Prop
  | listing {refusal : Refusal}
    (h : world.files.list (host.workingDirectory.join stager.buildDir) = .error refusal) :
    RemovalEscapes host stager world
  | removing {names : List String}
    (hlist : world.files.list (host.workingDirectory.join stager.buildDir) = .ok names)
    (h : Meets host stager.removeReported (fun name mid => stager.HoldsNull name mid.files)
      (names.filter isTemporary) (world.saidIf stager.verbose "Remove temporary files:")) :
    RemovalEscapes host stager world

theorem crashes_removeTemporary (hnull : stager.buildDir.hasNull = false) :
    Crashes host stager.removeTemporary world ↔ RemovalEscapes host stager world := by
  have hloop : ∀ (names : List String) (mid : World), Crashes host (do
      names.forM stager.removeReported
      stager.reportNone names
      return names) mid ↔
      Meets host stager.removeReported (fun name mid => stager.HoldsNull name mid.files) names
        mid := by
    intro names mid
    rw [crashes_bind_left fun _ last => ?_]
    · refine crashes_forM fun name _ before => ?_
      unfold removeReported
      rw [report, crashes_bind_of_returns (returns_sayIf _ _), crashes_removeEntry, World.files_saidIf,
        HoldsNull]
    · rw [crashes_bind_left fun _ _ => not_crashes_pure _]
      exact not_crashes_reportNone _
  unfold removeTemporary
  rw [report, crashes_bind_of_returns (returns_sayIf _ _), crashes_bind, crashes_entryNames hnull]
  simp only [returns_entryNames hnull, World.files_saidIf]
  constructor
  · rintro (⟨refusal, h⟩ | ⟨names, mid, ⟨hlist, rfl⟩, h⟩)
    · exact .listing h
    · exact .removing hlist ((hloop _ _).1 h)
  · rintro (h | ⟨hlist, h⟩)
    · exact .inl ⟨_, h⟩
    · exact .inr ⟨_, _, ⟨hlist, rfl⟩, (hloop _ _).2 h⟩

/-! ## Copies -/

theorem not_crashes_replaceBy (h : destination.hasNull = false) :
    ¬ Crashes host (replaceBy source destination) world := by
  rw [crashes_iff_ends]
  unfold replaceBy
  simp only [ends_bind, ends_files, ends_ite, ends_refuseNull, ends_absolute, h, Bool.false_eq_true,
    if_false]
  split
  · split
    · simp only [ends_bind, ends_files, ends_setFiles, ends_refuseNull, ends_absolute, h,
        Bool.false_eq_true, if_false]
      split <;> simp
    · simp
  · split <;> simp

/-- The path of a file to be copied, or of its place in the build directory, is too long to be looked
    at. -/
def CannotCompare (host : Host) (stager : Stager) (source : Path) (files : FileSystem) : Prop :=
  host.cannotSee files source = true ∨
    (host.seesFile files source = true ∧
      host.cannotSee files (stager.buildDir.entry source.name) = true)

theorem crashes_copyFile (hnull : stager.buildDir.hasNull = false) :
    Crashes host (stager.copyFile source) world ↔
      stager.CannotCompare host source world.files := by
  rw [crashes_iff_ends]
  unfold copyFile CannotCompare
  rw [ends_bind, ends_isFile]
  split
  · next hlong => simp [hlong]
  · next hshort =>
      rw [ends_ite]
      split
      · next hfile =>
          -- the name of a file that is seen and the path of the directory hold no null character
          have hentry : (stager.buildDir.entry source.name).hasNull = false := by
            rw [Path.hasNull_entry, hnull,
              Path.contains_name_of_hasNull (Host.hasNull_of_seesFile hfile)]
            rfl
          simp only [ends_bind, ends_absolute, ends_discard, ends_lookup, ends_files, hshort, hfile]
          split
          · next hlong => simp [hlong]
          · next hlong =>
              refine iff_of_false ?_ (by simp [hlong])
              rw [ends_ite]
              split
              · simp only [report, ends_bind, ends_sayIf, ends_pure]
                exact fun h => not_crashes_replaceBy hentry (crashes_iff_ends.2 h)
              · exact id
      · next hfile => simp [hshort, hfile]

/-- Copying files crashes exactly where the two paths of one of them cannot be compared. -/
theorem crashes_copyFiles (hnull : stager.buildDir.hasNull = false) {heading : String} :
    Crashes host (stager.copyFiles sources heading) world ↔
      Meets host stager.copyFile (fun source mid => stager.CannotCompare host source mid.files)
        sources (world.saidIf stager.verbose heading) := by
  unfold copyFiles
  rw [report, crashes_bind_of_returns (returns_sayIf _ _), crashes_bind_left fun copied mid => ?_]
  · exact crashes_filterM fun source _ before => crashes_copyFile hnull
  · rw [crashes_bind_left fun _ _ => not_crashes_pure _]
    exact not_crashes_reportNone _

/-! ## Runtime libraries -/

/-- The libraries of a directory cannot be looked at, since its own path, or the path of one of its
    entries, leads along one that is too long. -/
inductive HidesLibraries (host : Host) (files : FileSystem) (directory : Path) : Prop
  | directory (h : host.cannotSee files directory = true) : HidesLibraries host files directory
  | entry {names : List String} {name : String}
    (hlist : files.list (host.workingDirectory.join directory) = .ok names) (hname : name ∈ names)
    (h : host.cannotSee files (directory.entry name) = true) : HidesLibraries host files directory

theorem returns_shipsEntry {rules : LinkRules} {name : String}
    (h : host.cannotSee world.files (directory.entry name) = false) :
    Returns host (shipsEntry rules directory name) world
      (host.seesFile world.files (directory.entry name) && rules.isShipped name) world := by
  rw [returns_iff_ends, ends_shipsEntry, h]
  exact ⟨rfl, rfl⟩

theorem crashes_shipsEntry {rules : LinkRules} {name : String} :
    Crashes host (shipsEntry rules directory name) world ↔
      host.cannotSee world.files (directory.entry name) = true := by
  rw [crashes_iff_ends, ends_shipsEntry]
  split <;> simp_all

/-- Looking for libraries in a directory that is listed crashes at an entry that cannot be looked at. -/
theorem crashes_selectLibraries {rules : LinkRules} {names : List String}
    (hnull : directory.hasNull = false)
    (hlist : world.files.list (host.workingDirectory.join directory) = .ok names) :
    Crashes host (selectLibraries rules directory) world ↔
      ∃ name ∈ names, host.cannotSee world.files (directory.entry name) = true := by
  unfold selectLibraries
  rw [crashes_bind_of_returns ((returns_entryNames hnull).2 ⟨hlist, rfl⟩), crashes_bind_pure,
    crashes_filterM fun name _ before => crashes_shipsEntry, meets_iff_exists]
  intro name _
  by_cases h : host.cannotSee world.files (directory.entry name) = true
  · exact .inl h
  · exact .inr ⟨_, returns_shipsEntry (by simpa using h)⟩

theorem crashes_librariesOf {rules : LinkRules} :
    Crashes host (librariesOf rules directory) world ↔
      HidesLibraries host world.files directory := by
  unfold librariesOf
  rw [crashes_iff_ends, ends_bind, ends_isDirectory]
  split
  · next hlong => exact iff_of_true ⟨_, rfl⟩ (.directory hlong)
  · next hshort =>
      rw [ends_ite, ← crashes_iff_ends]
      split
      · next hdirectory =>
          obtain ⟨names, hlist⟩ := Host.list_of_seesDirectory hdirectory
          rw [crashes_selectLibraries (Host.hasNull_of_seesDirectory hdirectory) hlist]
          constructor
          · rintro ⟨name, hname, h⟩
            exact .entry hlist hname h
          · rintro (h | ⟨hother, hname, h⟩)
            · exact absurd h hshort
            · cases hother.symm.trans hlist
              exact ⟨_, hname, h⟩
      · next hdirectory =>
          refine iff_of_false (by simp) ?_
          rintro (h | ⟨hlist, -, h⟩)
          · exact hshort h
          · exact hdirectory (Host.seesDirectory_of_list (Host.hasNull_of_cannotSee_entry h) hlist)

/-- Copying the libraries of a runtime crashes: their directories cannot be resolved, the libraries of one
    of these cannot be looked at, or the two paths of a library cannot be compared. -/
inductive LibrariesEscape (host : Host) (stager : Stager) (rules : LinkRules) (runtime : Runtime)
    (world : World) : Prop
  | resolving {cause : Crash}
    (h : rules.libraryDirectories runtime
      (runtime.directories world.files host.workingDirectory) = .error cause) :
    LibrariesEscape host stager rules runtime world
  | looking {directories : List Path}
    (hdirectories : rules.libraryDirectories runtime
      (runtime.directories world.files host.workingDirectory) = .ok directories)
    (h : Meets host (librariesOf rules)
      (fun directory mid => HidesLibraries host mid.files directory) directories world) :
    LibrariesEscape host stager rules runtime world
  | comparing {directories : List Path} {libraries : List (List Path)} {mid : World}
    (hdirectories : rules.libraryDirectories runtime
      (runtime.directories world.files host.workingDirectory) = .ok directories)
    (hlibraries : Returns host (directories.mapM (librariesOf rules)) world libraries mid)
    (h : Meets host stager.copyFile
      (fun source mid => stager.CannotCompare host source mid.files) libraries.flatten
      (mid.saidIf stager.verbose "Copy Julia libraries to build directory:")) :
    LibrariesEscape host stager rules runtime world

theorem crashes_copyRuntimeLibraries (hnull : stager.buildDir.hasNull = false) {rules : LinkRules}
    {runtime : Runtime} :
    Crashes host (stager.copyRuntimeLibraries rules runtime) world ↔
      LibrariesEscape host stager rules runtime world := by
  have hdirectories : Returns host (runtimeDirectories runtime) world
      (runtime.directories world.files host.workingDirectory) world := rfl
  unfold copyRuntimeLibraries
  rw [crashes_bind_of_returns hdirectories]
  cases hresolved : rules.libraryDirectories runtime
      (runtime.directories world.files host.workingDirectory) with
  | error cause => exact iff_of_true ⟨cause, world, rfl⟩ (.resolving hresolved)
  | ok directories =>
      have hloop : Crashes host (directories.mapM (librariesOf rules)) world ↔
          Meets host (librariesOf rules)
            (fun directory mid => HidesLibraries host mid.files directory) directories world :=
        crashes_mapM fun directory _ before => crashes_librariesOf
      rw [crashes_ofExcept_bind rfl]
      show Crashes host (directories.mapM (librariesOf rules) >>= fun libraries =>
        stager.copyFiles libraries.flatten "Copy Julia libraries to build directory:") world ↔ _
      rw [crashes_bind, hloop]
      simp only [crashes_copyFiles hnull]
      constructor
      · rintro (h | ⟨libraries, mid, hlibraries, h⟩)
        · exact .looking hresolved h
        · exact .comparing hresolved hlibraries h
      · rintro (h | ⟨h, hmeets⟩ | ⟨h, hlibraries, hmeets⟩)
        · cases hresolved.symm.trans h
        · cases hresolved.symm.trans h
          exact .inl hmeets
        · cases hresolved.symm.trans h
          exact .inr ⟨_, _, hlibraries, hmeets⟩

end Stager
end JuliaNative
