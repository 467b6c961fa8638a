import JuliaNative.Proofs.FileSystem.Removal
import JuliaNative.Proofs.Outputs
import JuliaNative.Proofs.Staging

set_option autoImplicit false

/-! # Temporary files

Removing temporary files removes the entries of the build directory that have temporary names, with what
is below those that are directories, and nothing else: nothing of such a name deeper down, and nothing to
which a removed link leads. Doing it again does nothing, unless an entry that is gone was on the way of the
build directory's own path, so that the directory is not found any more (`Stager.removeTemporary_exact`). -/

namespace JuliaNative

open JuliaNative.FileSystem JuliaNative.Action

/-- A temporary name ends like an object file or an archive, or starts like a cache of compiled modules. -/
theorem isTemporary_iff {name : String} :
    isTemporary name = true ↔
      ".o".toList <:+ name.toList ∨ ".a".toList <:+ name.toList ∨
        "cache_ji_v".toList <+: name.toList := by
  simp [isTemporary, temporaryEndings, Runtime.cachePrefix, List.isSuffixOf_iff_suffix,
    List.isPrefixOf_iff_prefix, or_assoc]

namespace Stager

variable {host : Host} {world after : World} {stager : Stager} {path : Path} {name : String}
  {names : List String} {start : FileSystem} {directory : Location}

/-! ## Removing entries -/

theorem ends_removeEntry_removed (hname : IsPlain name) :
    Ends host (removeEntry (path.entry name)) world
      (fun _ after => ∃ directory, world.files.LeadsTo path directory ∧
        Removed world.files after.files directory [name])
      (fun _ _ => True) := by
  unfold removeEntry
  rw [ends_bind, ends_files, ends_ite]
  split
  · unfold removeTree
    simp only [ends_bind, ends_refuseNull, ends_files, ends_setFiles]
    split
    · trivial
    · split
      · next hnone => exact removed_of_removeTree hname (Prod.ext rfl hnone)
      · trivial
  · split
    · trivial
    · split
      · next changed hremove => exact removed_of_remove hname hremove
      · trivial

/-- Removing entries of the directory to which a path led at the start removes all of them. -/
theorem ends_removeEntries (hstart : start.LeadsTo path directory)
    (hroutes : world.files.RoutesIn start) (hnames : names.Nodup)
    (hplain : ∀ name ∈ names, IsPlain name) :
    Ends host
      (names.forM fun name => do
        stager.report ("  " ++ name)
        removeEntry (path.entry name))
      world (fun _ after => Removed world.files after.files directory names) (fun _ _ => True) := by
  induction names generalizing world with
  | nil => exact .refl world.files directory
  | cons name rest ih =>
      rw [List.nodup_cons] at hnames
      show Ends host (_ >>= fun _ => rest.forM _) world _ _
      simp only [ends_bind, report, ends_sayIf]
      refine (ends_removeEntry_removed (hplain name (List.mem_cons_self ..))).imp ?_ (fun _ _ h => h)
      intro _ mid hmid
      simp only [World.files_saidIf] at hmid
      obtain ⟨there, hleads, hone⟩ := hmid
      obtain rfl := (hleads.of_routesIn hroutes).unique hstart
      refine (ih (hone.routesIn.trans hroutes) hnames.2 ?_).imp ?_ (fun _ _ h => h)
      · intro other hmem
        exact hplain other (List.mem_cons_of_mem _ hmem)
      · intro _ after hrest
        exact hone.cons hrest hnames.1

/-! ## Temporary entries -/

/-- The names of the temporary entries of a directory. -/
def temporaryNames (files : FileSystem) (directory : Location) : List String :=
  (files.names directory).filter isTemporary

theorem mem_temporaryNames {files : FileSystem} :
    name ∈ temporaryNames files directory ↔
      files.find? (name :: directory) ≠ none ∧ isTemporary name = true := by
  rw [temporaryNames, List.mem_filter, mem_names]

theorem temporaryNames_pairwise (files : FileSystem) (directory : Location) :
    (temporaryNames files directory).Pairwise (· < ·) :=
  (names_pairwise files directory).filter _

/-- Removing temporary files removes the entries of temporary names, which it tells. -/
theorem ends_removeTemporary_removed (habsolute : stager.buildDir.isAbsolute = true) :
    Ends host stager.removeTemporary world
      (fun names after => ∃ directory, world.files.LeadsTo stager.buildDir directory ∧
        stager.buildDir.hasNull = false ∧ names = temporaryNames world.files directory ∧
          Removed world.files after.files directory names)
      (fun _ _ => True) := by
  have hthere : host.workingDirectory.join stager.buildDir = stager.buildDir := by
    rw [Path.join, if_pos habsolute]
  unfold removeTemporary
  simp only [ends_bind, report, ends_sayIf]
  refine ends_entryNames.imp ?_ (fun _ _ _ => trivial)
  intro listed before hlisted
  rw [hthere] at hlisted
  obtain ⟨rfl, hnull, directory, hleads, rfl⟩ := hlisted
  simp only [World.files_saidIf] at hleads ⊢
  have hplain : ∀ name ∈ temporaryNames world.files directory, IsPlain name :=
    fun name hmem => isPlain_of_isTemporary (mem_temporaryNames.1 hmem).2
  have hnodup : (temporaryNames world.files directory).Nodup := by
    refine (temporaryNames_pairwise world.files directory).imp ?_
    intro first second hlt heq
    exact String.lt_irrefl second (heq ▸ hlt)
  refine (ends_removeEntries hleads (by simpa using RoutesIn.refl world.files) hnodup hplain).imp ?_
    (fun _ _ h => h)
  intro _ after hremoved
  simp only [ends_reportNone, ends_pure, World.files_saidIf] at hremoved ⊢
  exact ⟨directory, hleads, hnull, rfl, hremoved⟩

/-! ## Once more -/

/-- Where there is no temporary entry, nothing is removed. -/
theorem ends_removeTemporary_nothing (habsolute : stager.buildDir.isAbsolute = true)
    (hnull : stager.buildDir.hasNull = false) (hleads : world.files.LeadsTo stager.buildDir directory)
    (hnone : temporaryNames world.files directory = []) :
    Ends host stager.removeTemporary world
      (fun names after => names = [] ∧ after.files = world.files) (fun _ _ => False) := by
  have hthere : host.workingDirectory.join stager.buildDir = stager.buildDir := by
    rw [Path.join, if_pos habsolute]
  unfold removeTemporary
  simp only [ends_bind, report, ends_sayIf]
  refine ends_entryNames.imp ?_ ?_
  · intro listed before hlisted
    rw [hthere] at hlisted
    obtain ⟨rfl, -, there, hthere, rfl⟩ := hlisted
    simp only [World.files_saidIf] at hthere ⊢
    obtain rfl := hthere.unique hleads
    rw [temporaryNames] at hnone
    rw [hnone]
    refine (ends_pure PUnit.unit).2 ?_
    simp
  · intro failure before hfails
    rw [hthere] at hfails
    simp only [World.files_saidIf] at hfails
    rcases hfails.2.2 with h | h
    · rw [hnull] at h
      cases h
    · exact h directory hleads

/-- Removing temporary files removes the entries of the build directory whose names end in `.o` or `.a`
    or start with `cache_ji_v`, and tells their names in order. These are gone with everything below them,
    and everything else is as it was. Doing it again removes nothing exactly if nothing is gone that was
    on the way of the build directory's path. -/
theorem removeTemporary_exact {names : List String} (habsolute : stager.buildDir.isAbsolute = true)
    (h : Returns host stager.removeTemporary world names after) :
    ∃ directory, world.files.LeadsTo stager.buildDir directory ∧
      names.Pairwise (· < ·) ∧
      (∀ name, name ∈ names ↔ world.files.find? (name :: directory) ≠ none ∧
        (".o".toList <:+ name.toList ∨ ".a".toList <:+ name.toList ∨
          "cache_ji_v".toList <+: name.toList)) ∧
      Removed world.files after.files directory names ∧
      ((∃ last, Returns host stager.removeTemporary after [] last ∧ last.files = after.files) ↔
        ∀ location ∈ world.files.way stager.buildDir, after.files.find? location ≠ none) := by
  obtain ⟨directory, hleads, hnull, rfl, hremoved⟩ :=
    (ends_removeTemporary_removed habsolute).of_returns h
  refine ⟨directory, hleads, temporaryNames_pairwise _ _, ?_, hremoved, ?_⟩
  · intro name
    rw [mem_temporaryNames, isTemporary_iff]
  · constructor
    · intro hagain location hmem
      obtain ⟨last, hreturns, -⟩ := hagain
      obtain ⟨there, hthere, -⟩ := (ends_removeTemporary_removed habsolute).of_returns hreturns
      -- the way that is left is the way that was, and what is on it is there
      have hway : world.files.way stager.buildDir = after.files.way stager.buildDir := by
        apply way_congr
        intro outer houter
        exact (hremoved.eq_of_ne_none (find?_ne_none_of_mem_way hthere.1 houter)).symm
      rw [hway] at hmem
      exact find?_ne_none_of_mem_way hthere.1 hmem
    · intro hway
      have hsame : ∀ location ∈ world.files.way stager.buildDir,
          after.files.find? location = world.files.find? location :=
        fun location hmem => hremoved.eq_of_ne_none (hway location hmem)
      have hafter : after.files.LeadsTo stager.buildDir directory := by
        constructor
        · rw [locate_congr hsame, hleads.1]
        · rw [hsame directory (mem_way_of_locate hleads.1), hleads.2]
      have hnone : temporaryNames after.files directory = [] := by
        rw [List.eq_nil_iff_forall_not_mem]
        intro name hmem
        obtain ⟨hthere, htemporary⟩ := mem_temporaryNames.1 hmem
        have hbefore := hremoved.eq_of_ne_none hthere
        refine hthere (hremoved.gone name (mem_temporaryNames.2 ⟨?_, htemporary⟩) _ (.inl rfl))
        rwa [← hbefore]
      have hends : Ends host stager.removeTemporary after _ _ :=
        ends_removeTemporary_nothing habsolute hnull hafter hnone
      obtain ⟨names, last, hreturns, hfiles⟩ :=
        (hends.imp (fun _ _ h => h.2) (fun _ _ h => h)).exists_returns
      obtain ⟨rfl, -⟩ := hends.of_returns hreturns
      exact ⟨last, hreturns, hfiles⟩

/-- An archive that is a link and a directory with an object file in it are removed. By the plain path of the
    build directory, nothing is removed again; by a path through the removed directory, the build directory
    is not found again. -/
theorem removeTemporary_exact_through_removed :
    let host := Host.obedient Host.plainCommand fun _ => ByteArray.empty
    let files := Host.projectFiles [(["data.txt"], "1"), (["y.o", "x.o", "builddir"], "2"),
      (["z.o", "kept", "builddir"], "3")]
    let world : World :=
      { files := ((files.insert ["x.o", "builddir", "work"] .directory).insert
          ["kept", "builddir", "work"] .directory).insert ["lib.a", "builddir", "work"]
            (.link "../data.txt") }
    let plain : Stager := ⟨⟨.root, ["work", "builddir"]⟩, false⟩
    let through : Stager := ⟨⟨.root, ["work", "builddir", "x.o", ".."]⟩, false⟩
    let after := (plain.removeTemporary.runOn host world).2
    let last := (through.removeTemporary.runOn host world).2
    Returns host plain.removeTemporary world ["lib.a", "x.o"] after ∧
      (∃ again, Returns host plain.removeTemporary after [] again ∧ again.files = after.files) ∧
      Returns host through.removeTemporary world ["lib.a", "x.o"] last ∧
      ¬ ∃ again, Returns host through.removeTemporary last [] again ∧ again.files = last.files := by
  intro host files world plain through after last
  have hplain : Returns host plain.removeTemporary world ["lib.a", "x.o"] after :=
    runOn_of_value? (by decide +kernel)
  have hthrough : Returns host through.removeTemporary world ["lib.a", "x.o"] last :=
    runOn_of_value? (by decide +kernel)
  obtain ⟨-, -, -, -, -, hagain⟩ := removeTemporary_exact rfl hplain
  obtain ⟨-, -, -, -, -, hfails⟩ := removeTemporary_exact rfl hthrough
  have hkept : ∀ location ∈ world.files.way plain.buildDir, after.files.find? location ≠ none := by
    decide +kernel
  have hgone : ¬ ∀ location ∈ world.files.way through.buildDir,
      last.files.find? location ≠ none := by decide +kernel
  exact ⟨hplain, hagain.2 hkept, hthrough, fun h => hgone (hfails.1 h)⟩

end Stager
end JuliaNative
