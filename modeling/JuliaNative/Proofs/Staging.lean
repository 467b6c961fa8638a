import JuliaNative.Proofs.FileSystem.Frame
import JuliaNative.Proofs.FileSystem.Outside
import JuliaNative.Proofs.Keeps
import JuliaNative.Staging

set_option autoImplicit false

/-! # What staging changes

Each operation on the build directory changes what it is about and nothing else, whether it succeeds
or fails: cleaning clears what is at and below the build directory, making the directory fills free
places, removing temporary files clears entries of temporary names, and copying replaces entries of
the names of its sources. None of them starts a command. -/

namespace JuliaNative

open JuliaNative.FileSystem JuliaNative.Action

/-- A temporary name is plain. -/
theorem isPlain_of_isTemporary {name : String} (h : isTemporary name = true) : IsPlain name := by
  refine ⟨?_, ?_, ?_⟩ <;>
    · rintro rfl
      revert h
      decide +kernel

namespace Action

/-- An action keeps a property of the files and starts no command. -/
def KeepsFiles {α : Type} (host : Host) (keeps : FileSystem → Prop) (action : Action α) : Prop :=
  ∀ commands, Keeps host (fun files started => started = commands ∧ keeps files) action

end Action

namespace Stager

variable {host : Host} {world : World} {stager : Stager} {fs : FileSystem} {path : Path}
  {names : List String} {name : String} {keeps : FileSystem → Prop}

theorem keeps_report {keeps : FileSystem → List (List String) → Prop} (text : String) :
    Keeps host keeps (stager.report text) :=
  Keeps.sayIf _ _

@[simp] theorem ends_reportNone {done : List String} {post : Unit → World → Prop}
    {failing : Failure → World → Prop} :
    Ends host (stager.reportNone done) world post failing ↔
      post () (world.saidIf (stager.verbose && done.isEmpty) "  none") := by
  unfold reportNone report
  cases done with
  | nil => simp
  | cons name more => simp [World.saidIf]

theorem keeps_reportNone {keeps : FileSystem → List (List String) → Prop} (done : List String) :
    Keeps host keeps (stager.reportNone done) :=
  Keeps.ite (fun _ => keeps_report _) (fun _ => Keeps.pure _)

/-! ## The build directory -/

theorem keepsFiles_removeTree {issue : SystemError → StagingIssue}
    (h : ∀ files, keeps files → keeps (files.removeTree path).1) :
    KeepsFiles host keeps (removeTree path issue) := by
  intro commands world hworld
  obtain ⟨hstarted, hkeeps⟩ := hworld
  unfold removeTree
  simp only [ends_bind, ends_refuseNull, ends_files, ends_setFiles]
  have hchanged : keeps (world.files.removeTree path).1 := h _ hkeeps
  split
  · exact ⟨trivial, hstarted, hkeeps⟩
  · split
    · exact ⟨hstarted, hchanged⟩
    · exact ⟨.inr rfl, hstarted, hchanged⟩

/-- The files after a stager cleaned: without the build directory, if there was one. -/
def cleaned (host : Host) (stager : Stager) (files : FileSystem) : FileSystem :=
  if host.seesDirectory files stager.buildDir then (files.removeTree stager.buildDir).1 else files

/-- The files after a stager made the build directory, unless it was there or its path is none that
    the system takes. -/
def withBuildDir (host : Host) (stager : Stager) (files : FileSystem) : FileSystem :=
  if host.cannotSee files stager.buildDir || host.seesDirectory files stager.buildDir
      || stager.buildDir.hasNull then files
  else (files.makeDirectories stager.buildDir.anchor stager.buildDir.parts.reverse).1

/-- Cleaning leaves the files without the build directory, also if it fails. -/
theorem ends_clean :
    Ends host stager.clean world
      (fun _ after => after.files = cleaned host stager world.files ∧ after.started = world.started)
      (fun failure after => failure.OfStage ∧ after.files = cleaned host stager world.files ∧
        after.started = world.started) := by
  unfold clean cleaned
  rw [ends_bind, ends_isDirectory]
  split
  · next hlong => simp [Host.seesDirectory_of_cannotSee hlong, Failure.OfStage]
  · rw [ends_ite]
    split
    · next hdirectory =>
        have hnull := Host.hasNull_of_seesDirectory hdirectory
        unfold removeTree
        simp only [ends_bind, report, ends_sayIf, ends_refuseNull, hnull, ends_files, ends_setFiles,
          Bool.false_eq_true, if_false, World.files_saidIf, ends_pure]
        split
        · simp
        · simp [Failure.OfStage, BuildError.category]
    · simp [report]

/-- Making the build directory leaves the files with it, or with what could be made of it. -/
theorem ends_ensureBuildDir :
    Ends host stager.ensureBuildDir world
      (fun _ after => after.files = withBuildDir host stager world.files ∧
        after.started = world.started)
      (fun failure after => failure.OfStage ∧ after.files = withBuildDir host stager world.files ∧
        after.started = world.started) := by
  unfold ensureBuildDir withBuildDir
  rw [ends_bind, ends_isDirectory]
  split
  · next hlong => simp [hlong, Failure.OfStage]
  · next hshort =>
      rw [ends_ite]
      split
      · next hdirectory => simp [hdirectory]
      · next hdirectory =>
        simp only [ends_bind, report, ends_sayIf, ends_refuseNull, ends_files, ends_setFiles,
          World.files_saidIf]
        split
        · next hnull => simp [hnull, Failure.OfStage]
        · next hnull =>
            simp only [hshort, hdirectory, hnull, Bool.or_self, Bool.false_eq_true, if_false]
            split
            · simp
            · simp [Failure.OfStage, BuildError.category]

/-- Writing a file keeps what the written file keeps. -/
theorem keeps_writeText {keeps : FileSystem → List (List String) → Prop} {content : String}
    (h : ∀ files started changed, keeps files started →
      files.write (stager.buildDir.child name) ⟨content.toUTF8, .now⟩ = .ok changed →
        keeps changed started) :
    Keeps host keeps (stager.writeText name content) := by
  intro world hworld
  unfold writeText
  simp only [ends_bind, ends_refuseNull, ends_files]
  split
  · exact ⟨trivial, hworld⟩
  · split
    · next changed hwrite => exact h _ _ changed hworld hwrite
    · exact ⟨.inr rfl, hworld⟩

/-! ## Temporary files -/

/-- A directory that can be found is listed. -/
theorem ends_entryNames :
    Ends host (entryNames path) world
      (fun listed after => after = world ∧ path.hasNull = false ∧
        ∃ directory, world.files.LeadsTo (host.workingDirectory.join path) directory ∧
          world.files.names directory = listed)
      (fun failure after => failure.OfStage ∧ after = world ∧ (path.hasNull = true ∨
        ∀ directory, ¬ world.files.LeadsTo (host.workingDirectory.join path) directory)) := by
  unfold entryNames
  simp only [ends_bind, ends_refuseNull, ends_files, ends_absolute]
  split
  · next hnull => exact ⟨trivial, trivial, .inl hnull⟩
  · next hnull =>
      split
      · next listed hlist => exact ⟨rfl, by simpa using hnull, list_eq_ok_iff.1 hlist⟩
      · next refusal hlist =>
          rw [ends_crash]
          refine ⟨trivial, rfl, .inr fun directory hleads => ?_⟩
          cases hlist.symm.trans (list_eq_ok_iff.2 ⟨directory, hleads, rfl⟩)

/-- Removing an entry clears it. -/
theorem keepsFiles_removeEntry (hname : IsPlain name) (hmem : name ∈ names) :
    KeepsFiles host (fun files => fs.Cleared files path names) (removeEntry (path.entry name)) := by
  have hone : ∀ other ∈ [name], other ∈ names := by simpa using hmem
  intro commands world hworld
  unfold removeEntry
  rw [ends_bind, ends_files, ends_ite]
  split
  · have htree : KeepsFiles host (fun files => fs.Cleared files path names)
        (removeTree (path.entry name) (.notRemoved (path.entry name))) :=
      keepsFiles_removeTree fun files hcleared =>
        hcleared.trans ((cleared_removeTree hname).mono hone)
    exact htree commands world hworld
  · split
    · exact ⟨.inr rfl, hworld⟩
    · split
      · next changed hremove =>
          exact ⟨hworld.1, hworld.2.trans ((cleared_remove hname hremove).mono hone)⟩
      · exact ⟨.inr rfl, hworld⟩

/-- Removing temporary files clears entries of temporary names. -/
theorem ends_removeTemporary :
    Ends host stager.removeTemporary world
      (fun names after => after.started = world.started ∧
        (∀ name ∈ names, isTemporary name = true) ∧
        world.files.Cleared after.files stager.buildDir names)
      (fun failure after => failure.OfStage ∧ after.started = world.started ∧
        ∃ names, (∀ name ∈ names, isTemporary name = true) ∧
          world.files.Cleared after.files stager.buildDir names) := by
  unfold removeTemporary entryNames
  simp only [ends_bind, report, ends_sayIf, ends_refuseNull, ends_files, ends_absolute,
    World.files_saidIf]
  split
  · exact ⟨trivial, by simp, [], List.forall_mem_nil _, by simpa using Cleared.refl _ _ _⟩
  · split
    · next listed _ =>
        have htemporary : ∀ name ∈ listed.filter isTemporary, isTemporary name = true :=
          fun name hmem => (List.mem_filter.1 hmem).2
        have hloop : KeepsFiles host
            (fun files => world.files.Cleared files stager.buildDir (listed.filter isTemporary))
            ((listed.filter isTemporary).forM fun name => do
              stager.report ("  " ++ name)
              removeEntry (stager.buildDir.entry name)) := fun commands =>
          Keeps.forM fun name hmem => (keeps_report _).bind fun _ =>
            keepsFiles_removeEntry (isPlain_of_isTemporary (htemporary name hmem)) hmem commands
        rw [ends_pure]
        refine (hloop world.started _ ⟨by simp, by simpa using Cleared.refl _ _ _⟩).imp
          (fun _ after hafter => ?_) (fun _ after hafter => ?_)
        · have hnone : KeepsFiles host
              (fun files => world.files.Cleared files stager.buildDir (listed.filter isTemporary))
              (stager.reportNone (listed.filter isTemporary)) := fun _ => keeps_reportNone _
          refine (hnone world.started after hafter).imp (fun _ last hlast => ?_)
            (fun _ last hlast => ?_)
          · exact ⟨hlast.1, htemporary, hlast.2⟩
          · exact ⟨hlast.1, hlast.2.1, _, htemporary, hlast.2.2⟩
        · exact ⟨hafter.1, hafter.2.1, _, htemporary, hafter.2.2⟩
    · exact ⟨trivial, by simp, [], List.forall_mem_nil _, by simpa using Cleared.refl _ _ _⟩

/-! ## Copies -/

/-- A copy was put in the directory of a path under a name, where no directory stood. Unless the source
    is a link, or its way leads through the entry, the copy is the file that is read at the source. -/
structure CopiedTo (source path : Path) (name : String) (before after : FileSystem)
    (directory : Location) : Prop where
  isPlain : IsPlain name
  fits : Fits path name
  put : before.PutAt after path name directory
  noDirectory : before.find? (name :: directory) ≠ some .directory
  content : before.isLink source = false → name :: directory ∉ before.way source →
    ∀ file, before.read source = .ok file → after.find? (name :: directory) = some (.file file)

/-- A copy to a free place is put there. -/
theorem copiedTo_of_copy {source : Path} {other : FileSystem}
    (hfree : fs.has (path.entry name) = false) (hlink : fs.isLink (path.entry name) = false)
    (h : fs.copy source (path.entry name) = .ok other) :
    ∃ directory, CopiedTo source path name fs other directory := by
  have hname : IsPlain name := Decidable.byContradiction fun hplain =>
    copy_of_not_isPlain (by rwa [Path.name_entry]) hfree h
  obtain ⟨directory, hput, hnone, hfits, hfile⟩ := putAt_copy hname hfree hlink h
  refine ⟨directory, hname, hfits, hput, by simp [hnone], fun hsource _ file hread => ?_⟩
  obtain ⟨found, hfound, hentry⟩ := hfile hsource
  rw [hread] at hfound
  rw [hentry, Except.ok.inj hfound]

/-- So is a copy to a place that was freed before. -/
theorem copiedTo_of_remove {source : Path} {mid other : FileSystem}
    (hremove : fs.remove (path.entry name) = .ok mid)
    (h : mid.copy source (path.entry name) = .ok other) :
    ∃ directory, CopiedTo source path name fs other directory := by
  have hname : IsPlain name := Decidable.byContradiction fun hplain =>
    remove_of_not_isPlain (by rwa [Path.name_entry]) hremove
  obtain ⟨hfree, hlink⟩ := free_of_remove hname hremove
  obtain ⟨directory, hcopied⟩ := copiedTo_of_copy hfree hlink h
  obtain ⟨top, hleads, hdirectory, hfind⟩ := find?_remove_entry hname hremove
  have hput := hcopied.put.of_remove hname hremove
  obtain rfl := hput.led.unique hleads
  refine ⟨directory, hname, hcopied.fits, hput, hdirectory, fun hsource haway file hread => ?_⟩
  -- the source is off the place that was freed, so it is read as before
  have hway : ∀ location ∈ fs.way source, mid.find? location = fs.find? location := by
    intro location hmem
    rw [hfind, if_neg]
    rintro rfl
    exact haway hmem
  have haway' : name :: directory ∉ mid.way source := by rwa [way_congr hway]
  exact hcopied.content (isLink_congr hsource hway) haway' file (read_congr hread hway)

/-- Putting a copy in place of an entry replaces nothing else, whether it succeeds or not. -/
theorem ends_replaceBy {source : Path} :
    Ends host (replaceBy source (path.entry name)) world
      (fun _ after => after.started = world.started ∧
        ∃ directory, CopiedTo (host.workingDirectory.join source) path name world.files after.files
          directory)
      (fun failure after => failure.OfStage ∧ after.started = world.started ∧
        world.files.Replaced after.files path [name]) := by
  unfold replaceBy
  simp only [ends_bind, ends_files, ends_ite, ends_refuseNull, ends_absolute]
  split
  · split
    · next changed hremove =>
        have hname : IsPlain name := Decidable.byContradiction fun hplain =>
          remove_of_not_isPlain (by rwa [Path.name_entry]) hremove
        have hremoved : world.files.Replaced changed path [name] := replaced_remove hname hremove
        simp only [ends_bind, ends_files, ends_setFiles, ends_refuseNull, ends_absolute]
        split
        · exact ⟨trivial, rfl, hremoved⟩
        · split
          · next copied hcopied => exact ⟨rfl, copiedTo_of_remove hremove hcopied⟩
          · exact ⟨.inr rfl, rfl, hremoved⟩
    · exact ⟨.inr rfl, rfl, .refl _ _ _⟩
  · next hnone =>
      simp only [Bool.or_eq_true, not_or, Bool.not_eq_true] at hnone
      split
      · exact ⟨trivial, trivial, .refl _ _ _⟩
      · split
        · next copied hcopied => exact ⟨rfl, copiedTo_of_copy hnone.1 hnone.2 hcopied⟩
        · exact ⟨.inr rfl, rfl, .refl _ _ _⟩

/-- Some of the files has a name and is not the very file of that name in the build directory. Such a
    file is never copied onto itself, since it is up to date. -/
def Brings (host : Host) (stager : Stager) (sources : List Path) (name : String) : Prop :=
  ∃ source ∈ sources, source.name = name ∧
    host.workingDirectory.join source ≠ stager.buildDir.entry name

theorem Brings.of_mem {source : Path} {sources : List Path} (hmem : source ∈ sources)
    (h : stager.Brings host [source] name) : stager.Brings host sources name := by
  obtain ⟨_, hsource, hname, hother⟩ := h
  obtain rfl := List.mem_singleton.1 hsource
  exact ⟨_, hmem, hname, hother⟩

/-- Entries of some names in the build directory were replaced, each the name of a file that is
    brought there. -/
structure Brought (host : Host) (stager : Stager) (sources : List Path) (before after : FileSystem)
    (names : List String) : Prop where
  brings : ∀ name ∈ names, stager.Brings host sources name
  replaced : before.Replaced after stager.buildDir names

theorem Brought.nothing {sources : List Path} : stager.Brought host sources fs fs [] :=
  ⟨List.forall_mem_nil _, .refl _ _ _⟩

/-- What one more file replaces comes on top of what was replaced before. -/
theorem Brought.more {source : Path} {sources : List Path} {mid other : FileSystem}
    {names more : List String} (h : stager.Brought host sources fs mid names)
    (hmem : source ∈ sources) (hone : stager.Brought host [source] mid other more) :
    stager.Brought host sources fs other (names ++ more) := by
  constructor
  · intro name hname
    rcases List.mem_append.1 hname with hname | hname
    · exact h.brings name hname
    · exact (hone.brings name hname).of_mem hmem
  · exact (h.replaced.mono fun _ => List.mem_append_left _).trans
      (hone.replaced.mono fun _ => List.mem_append_right _)

theorem needsCopy_self {file : File} (h : fs.lookup? path = some (.file file)) :
    fs.needsCopy path path = false := by
  unfold needsCopy
  rw [h]
  exact isStale_self _

/-- A source is up to date: it is a file, and the file of its name in the build directory can be looked
    at and need not be made anew. -/
structure UpToDate (host : Host) (stager : Stager) (files : FileSystem) (source : Path) : Prop where
  sees : host.seesFile files source = true
  reaches : host.cannotSee files (stager.buildDir.entry source.name) = false
  current : files.needsCopy (host.workingDirectory.join source) (stager.buildDir.entry source.name) =
    false

/-- A file is copied unless it is up to date. -/
theorem ends_copyFile {source : Path} :
    Ends host (stager.copyFile source) world
      (fun copied after => after.started = world.started ∧
        if copied then
          ¬ stager.UpToDate host world.files source ∧ host.seesFile world.files source = true ∧
            stager.Brings host [source] source.name ∧ ∃ directory,
              CopiedTo (host.workingDirectory.join source) stager.buildDir source.name world.files
                after.files directory
        else stager.UpToDate host world.files source ∧ after = world)
      (fun failure after => failure.OfStage ∧ after.started = world.started ∧
        ¬ stager.UpToDate host world.files source ∧
          ∃ names, stager.Brought host [source] world.files after.files names) := by
  unfold copyFile
  rw [ends_bind, ends_isFile]
  split
  · next hlong =>
      refine ⟨trivial, rfl, fun hcurrent => ?_, [], .nothing⟩
      rw [Host.cannotSee_of_seesFile hcurrent.sees] at hlong
      cases hlong
  · rw [ends_ite]
    split
    · next hfile =>
        obtain ⟨file, hlookup⟩ := Host.exists_file_of_seesFile hfile
        simp only [ends_bind, ends_absolute, ends_discard, ends_lookup, ends_files, ends_ite, report,
          ends_sayIf, ends_pure]
        split
        · next hlong =>
            refine ⟨trivial, trivial, fun hcurrent => ?_, [], .nothing⟩
            rw [hcurrent.reaches] at hlong
            cases hlong
        · next hshort =>
            split
            · next hstale =>
                have hneeds : ¬ stager.UpToDate host world.files source := by
                  intro hcurrent
                  rw [hcurrent.current] at hstale
                  cases hstale
                have hbrings : stager.Brings host [source] source.name := by
                  refine ⟨source, List.mem_singleton.2 rfl, rfl, fun hself => ?_⟩
                  rw [← hself, needsCopy_self hlookup] at hstale
                  cases hstale
                refine ends_replaceBy.imp ?_ ?_
                · rintro _ after ⟨hstarted, directory, hcopied⟩
                  exact ⟨by simpa using hstarted, hneeds, hfile, hbrings, directory,
                    by simpa using hcopied⟩
                · rintro failure after ⟨hfailure, hstarted, hreplaced⟩
                  exact ⟨hfailure, by simpa using hstarted, hneeds, [source.name],
                    List.forall_mem_singleton.2 hbrings, by simpa using hreplaced⟩
            · next hcurrent =>
                exact ⟨trivial, ⟨hfile, by simpa using hshort, by simpa using hcurrent⟩, trivial⟩
    · next hnone =>
        exact ⟨.inr rfl, rfl, fun hcurrent => hnone hcurrent.sees, [], .nothing⟩

/-- Copying files replaces entries of their names: of those that are copied, if all goes well. -/
theorem ends_copyFiles {sources : List Path} {heading : String} :
    Ends host (stager.copyFiles sources heading) world
      (fun names after => after.started = world.started ∧
        stager.Brought host sources world.files after.files names)
      (fun failure after => failure.OfStage ∧ after.started = world.started ∧
        ∃ names, stager.Brought host sources world.files after.files names) := by
  have hcopied : Ends host (sources.filterM stager.copyFile) (world.saidIf stager.verbose heading)
      (fun copied after => after.started = world.started ∧
        stager.Brought host sources world.files after.files (copied.map Path.name))
      (fun failure after => failure.OfStage ∧ after.started = world.started ∧
        ∃ names, stager.Brought host sources world.files after.files names) := by
    refine Ends.filterM
      (fun copied after => after.started = world.started ∧
        stager.Brought host sources world.files after.files (copied.map Path.name))
      ⟨by simp, by simpa using Brought.nothing⟩ ?_
    rintro source hmem copied before ⟨hstarted, hbrought⟩
    refine ends_copyFile.imp ?_ ?_
    · rintro wanted after ⟨hafter, hone⟩
      refine ⟨hafter.trans hstarted, ?_⟩
      cases wanted with
      | false =>
          obtain ⟨-, rfl⟩ := hone
          exact hbrought
      | true =>
          obtain ⟨-, -, hbrings, directory, hcopy⟩ := hone
          simpa using hbrought.more hmem ⟨List.forall_mem_singleton.2 hbrings,
            hcopy.put.replaced hcopy.noDirectory⟩
    · rintro failure after ⟨hfailure, hafter, -, names, hone⟩
      exact ⟨hfailure, hafter.trans hstarted, _, hbrought.more hmem hone⟩
  unfold copyFiles
  simp only [ends_bind, report, ends_sayIf]
  refine hcopied.imp ?_ (fun _ _ h => h)
  rintro copied after ⟨hstarted, hbrought⟩
  have hnone : KeepsFiles host
      (fun files => stager.Brought host sources world.files files (copied.map (·.name)))
      (stager.reportNone (copied.map (·.name))) := fun _ => keeps_reportNone _
  refine (hnone world.started after ⟨hstarted, hbrought⟩).imp (fun _ last hlast => hlast)
    (fun _ last hlast => ?_)
  exact ⟨hlast.1, hlast.2.1, _, hlast.2.2⟩

/-! ## Runtime libraries -/

theorem ends_shipsEntry {rules : LinkRules} {directory : Path} {post : Bool → World → Prop}
    {failing : Failure → World → Prop} :
    Ends host (shipsEntry rules directory name) world post failing ↔
      if host.cannotSee world.files (directory.entry name) then
        failing (.crash (.system (.at .nameTooLong (directory.entry name)))) world
      else post (host.seesFile world.files (directory.entry name) && rules.isShipped name) world := by
  unfold shipsEntry
  rw [ends_bind, ends_isFile]
  simp only [ends_pure]

theorem ends_selectLibraries {rules : LinkRules} {directory : Path} :
    Ends host (selectLibraries rules directory) world
      (fun sources after => after = world ∧ host.seesDirectory world.files directory = true ∧
        ∀ source ∈ sources, rules.isShipped source.name = true ∧ source = directory.entry source.name)
      (fun failure after => failure.OfStage ∧ after = world) := by
  unfold selectLibraries
  rw [ends_bind]
  refine ends_entryNames.imp ?_ (fun _ _ h => ⟨h.1, h.2.1⟩)
  intro listed after hlisted
  obtain ⟨rfl, hnull, there, hleads, -⟩ := hlisted
  have hlookup : after.files.lookup? (host.workingDirectory.join directory) = some .directory :=
    lookup?_eq_some_iff.2 ⟨there, hleads⟩
  let shipped (selected : List String) (last : World) : Prop :=
    last = after ∧ ∀ name ∈ selected, rules.isShipped name = true
  have hstep : ∀ name ∈ listed, ∀ selected before, shipped selected before →
      Ends host (shipsEntry rules directory name) before
        (fun wanted last => shipped (if wanted then selected ++ [name] else selected) last)
        (fun failure last => failure.OfStage ∧ last = after) := by
    intro name _ selected before hselected
    obtain ⟨rfl, hselected⟩ := hselected
    rw [ends_shipsEntry]
    split
    · exact ⟨trivial, rfl⟩
    · refine ⟨rfl, fun other hmem => ?_⟩
      split at hmem
      · next hwanted =>
          rcases List.mem_append.1 hmem with hmem | hmem
          · exact hselected other hmem
          · rw [List.mem_singleton.1 hmem]
            exact (Bool.and_eq_true_iff.1 hwanted).2
      · exact hselected other hmem
  refine (Ends.filterM shipped ⟨rfl, List.forall_mem_nil _⟩ hstep).bind fun selected last hselected => ?_
  obtain ⟨rfl, hselected⟩ := hselected
  rw [ends_pure]
  refine ⟨rfl, by simp [Host.seesDirectory, Host.sees, hnull, hlookup], fun source hmem => ?_⟩
  obtain ⟨name, hname, rfl⟩ := List.mem_map.1 hmem
  simpa using hselected name hname

/-- The libraries to ship from a directory, which has to be there. -/
def librariesOf (rules : LinkRules) (directory : Path) : Action (List Path) := do
  if ← isDirectory directory then selectLibraries rules directory
  else fail (.staging (.libraryDirectoryMissing directory))

theorem ends_librariesOf {rules : LinkRules} {directory : Path} :
    Ends host (librariesOf rules directory) world
      (fun sources after => after = world ∧
        ∀ source ∈ sources, rules.isShipped source.name = true)
      (fun failure after => failure.OfStage ∧ after = world) := by
  unfold librariesOf
  rw [ends_bind, ends_isDirectory]
  split
  · exact ⟨trivial, rfl⟩
  · rw [ends_ite]
    split
    · refine ends_selectLibraries.imp ?_ (fun _ _ h => h)
      intro sources after hsources
      exact ⟨hsources.1, fun source hmem => (hsources.2.2 source hmem).1⟩
    · exact ⟨.inr rfl, rfl⟩

/-- The libraries in directories are looked for without changing anything. -/
theorem ends_librariesOf_mapM {rules : LinkRules} {directories : List Path} :
    Ends host (directories.mapM (librariesOf rules)) world
      (fun selected after => after = world ∧
        ∀ sources ∈ selected, ∀ source ∈ sources, rules.isShipped source.name = true)
      (fun failure after => failure.OfStage ∧ after = world) := by
  let shipped (selected : List (List Path)) (after : World) : Prop :=
    after = world ∧
      ∀ sources ∈ selected, ∀ source ∈ sources, rules.isShipped source.name = true
  have hstep : ∀ directory ∈ directories, ∀ selected before, shipped selected before →
      Ends host (librariesOf rules directory) before
        (fun sources after => shipped (selected ++ [sources]) after)
        (fun failure after => failure.OfStage ∧ after = world) := by
    intro directory _ selected before hbefore
    obtain ⟨rfl, hselected⟩ := hbefore
    refine ends_librariesOf.imp (fun sources after hafter => ?_) (fun _ _ h => h)
    refine ⟨hafter.1, fun others hmem => ?_⟩
    rcases List.mem_append.1 hmem with hmem | hmem
    · exact hselected others hmem
    · rw [List.mem_singleton.1 hmem]
      exact hafter.2
  have hstart : shipped [] world := ⟨rfl, nofun⟩
  exact Ends.mapM shipped hstart hstep

/-- Copying the libraries of a runtime replaces entries of names that are worth shipping. -/
theorem ends_copyRuntimeLibraries {rules : LinkRules} {runtime : Runtime} :
    Ends host (stager.copyRuntimeLibraries rules runtime) world
      (fun names after => after.started = world.started ∧
        (∀ name ∈ names, rules.isShipped name = true) ∧
        world.files.Replaced after.files stager.buildDir names)
      (fun failure after => failure.OfStage ∧ after.started = world.started ∧
        ∃ names, (∀ name ∈ names, rules.isShipped name = true) ∧
          world.files.Replaced after.files stager.buildDir names) := by
  have hfailed : ∀ failure : Failure, failure.OfStage → failure.OfStage ∧
      world.started = world.started ∧ ∃ names : List String,
        (∀ name ∈ names, rules.isShipped name = true) ∧
          world.files.Replaced world.files stager.buildDir names :=
    fun _ hfailure => ⟨hfailure, rfl, [], List.forall_mem_nil _, Replaced.refl _ _ _⟩
  unfold copyRuntimeLibraries runtimeDirectories
  simp only [ends_bind, ends_files, ends_read, ends_pure]
  rw [ends_ofExcept]
  split
  · refine ends_librariesOf_mapM.imp ?_ ?_
    · rintro selected after ⟨rfl, hselected⟩
      have hshipped : ∀ source ∈ selected.flatten, rules.isShipped source.name = true := by
        intro source hmem
        obtain ⟨sources, hsources, hsource⟩ := List.mem_flatten.1 hmem
        exact hselected sources hsources source hsource
      have hnames : ∀ names : List String,
          (∀ name ∈ names, stager.Brings host selected.flatten name) →
          ∀ name ∈ names, rules.isShipped name = true := by
        intro names hbrings name hname
        obtain ⟨source, hmem, rfl, -⟩ := hbrings name hname
        exact hshipped source hmem
      refine ends_copyFiles.imp ?_ ?_
      · rintro names last ⟨hstarted, hbrought⟩
        exact ⟨hstarted, hnames names hbrought.brings, hbrought.replaced⟩
      · rintro failure last ⟨hfailure, hstarted, names, hbrought⟩
        exact ⟨hfailure, hstarted, names, hnames names hbrought.brings, hbrought.replaced⟩
    · rintro failure after ⟨hfailure, rfl⟩
      exact hfailed failure hfailure
  · exact hfailed _ trivial

end Stager
end JuliaNative
