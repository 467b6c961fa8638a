import Mathlib.Data.List.Chain
import JuliaNative.Proofs.FileSystem.Inside
import JuliaNative.Proofs.Outputs
import JuliaNative.Proofs.Staging

set_option autoImplicit false

/-! # Staging stays inside the build directory

A stager works on what its path leads to when an operation begins, and acts on links there, never on
what they point to. So along any sequence of operations, each of which may fail, nothing changes
outside the build directory except the directories that are made along its path
(`Stager.staysInside_operations`). Where the path does not lead through the build directory itself, it is
one and the same directory throughout. -/

namespace JuliaNative

open JuliaNative.FileSystem JuliaNative.Action

namespace Stager

variable {host : Host} {world : World} {stager : Stager} {start : FileSystem}
  {directory location : Location}

/-- An operation on the build directory, with what it is given. -/
inductive Operation
  | clean
  | ensureBuildDir
  | removeTemporary
  | copyFiles (sources : List Path) (heading : String)
  | copyRuntimeLibraries (rules : LinkRules) (runtime : Runtime)

/-- Performs an operation; what it tells does not matter here. -/
def Operation.perform (stager : Stager) : Operation → Action Unit
  | clean => discard stager.clean
  | ensureBuildDir => discard stager.ensureBuildDir
  | removeTemporary => discard stager.removeTemporary
  | copyFiles sources heading => discard (stager.copyFiles sources heading)
  | copyRuntimeLibraries rules runtime => discard (stager.copyRuntimeLibraries rules runtime)

/-- The files before the first of some operations and after each of them. One that fails leaves what it
    has done, and the next one is performed all the same. -/
def filesAlong (host : Host) (stager : Stager) (world : World) : List Operation → List FileSystem
  | [] => [world.files]
  | operation :: later =>
    world.files :: filesAlong host stager ((operation.perform stager).runOn host world).2 later

theorem filesAlong_eq_cons (operations : List Operation) :
    ∃ later, filesAlong host stager world operations = world.files :: later := by
  cases operations with
  | nil => exact ⟨[], rfl⟩
  | cons operation later => exact ⟨_, rfl⟩

/-! ## One operation -/

theorem staysInDirectory_cleaned (files : FileSystem) :
    StaysInDirectory stager.buildDir files (cleaned host stager files) := by
  unfold cleaned
  split
  · exact staysInDirectory_removeTree files stager.buildDir
  · exact .refl _ _

theorem onPath_withBuildDir {files : FileSystem}
    (hne : (withBuildDir host stager files).find? location ≠ files.find? location) :
    OnPath stager.buildDir files (withBuildDir host stager files) location := by
  unfold withBuildDir at hne ⊢
  split
  · next heq =>
      rw [if_pos heq] at hne
      exact absurd rfl hne
  · next heq =>
      rw [if_neg heq] at hne
      have honPath := onPath_makeDirectories _ _ hne
      rwa [List.reverse_reverse] at honPath

/-- What an operation does to the files: it makes the build directory, or stays in it. -/
def Changes (host : Host) (stager : Stager) (before after : FileSystem) : Prop :=
  after = withBuildDir host stager before ∨ StaysInDirectory stager.buildDir before after

theorem ends_perform (operation : Operation) :
    Ends host (operation.perform stager) world
      (fun _ after => Changes host stager world.files after.files)
      (fun _ after => Changes host stager world.files after.files) := by
  cases operation with
  | clean =>
      have hcleaned : ∀ after : World, after.files = cleaned host stager world.files →
          Changes host stager world.files after.files :=
        fun after h => .inr (h ▸ staysInDirectory_cleaned world.files)
      unfold Operation.perform
      rw [ends_discard]
      exact ends_clean.imp (fun _ after h => hcleaned after h.1) (fun _ after h => hcleaned after h.2.1)
  | ensureBuildDir =>
      unfold Operation.perform
      rw [ends_discard]
      exact ends_ensureBuildDir.imp (fun _ _ h => .inl h.1) (fun _ _ h => .inl h.2.1)
  | removeTemporary =>
      unfold Operation.perform
      rw [ends_discard]
      refine ends_removeTemporary.imp ?_ ?_
      · rintro _ after ⟨-, -, hcleared⟩
        exact .inr hcleared.staysInDirectory
      · rintro _ after ⟨-, -, _, -, hcleared⟩
        exact .inr hcleared.staysInDirectory
  | copyFiles sources heading =>
      unfold Operation.perform
      rw [ends_discard]
      refine ends_copyFiles.imp ?_ ?_
      · rintro _ after ⟨-, hbrought⟩
        exact .inr hbrought.replaced.staysInDirectory
      · rintro _ after ⟨-, -, _, hbrought⟩
        exact .inr hbrought.replaced.staysInDirectory
  | copyRuntimeLibraries rules runtime =>
      unfold Operation.perform
      rw [ends_discard]
      refine ends_copyRuntimeLibraries.imp ?_ ?_
      · rintro _ after ⟨-, -, hreplaced⟩
        exact .inr hreplaced.staysInDirectory
      · rintro _ after ⟨-, -, _, -, hreplaced⟩
        exact .inr hreplaced.staysInDirectory

theorem changes_perform (operation : Operation) :
    Changes host stager world.files ((operation.perform stager).runOn host world).2.files :=
  Ends.after (P := fun after => Changes host stager world.files after.files) (ends_perform operation)

theorem Changes.staysInside {before after : FileSystem} (h : Changes host stager before after) :
    StaysInside stager.buildDir before after := by
  intro location hne
  rcases h with rfl | h
  · exact .inr (onPath_withBuildDir hne)
  · exact .inl (h location hne)

theorem Changes.sameAround {before after : FileSystem} (h : Changes host stager before after)
    (hbefore : SameAround directory start before)
    (hstart : start.LeadsTo stager.buildDir directory)
    (hpath : StaysOutside directory start stager.buildDir) : SameAround directory start after := by
  rcases h with rfl | h
  · unfold withBuildDir
    split
    · exact hbefore
    · exact hbefore.makeDirectories _ hstart hpath (by simp)
  · exact hbefore.of_staysInDirectory hstart hpath h

/-! ## Sequences of operations -/

theorem isChain_filesAlong (operations : List Operation) :
    (filesAlong host stager world operations).IsChain (StaysInside stager.buildDir) := by
  induction operations generalizing world with
  | nil => exact .singleton _
  | cons operation later ih =>
      have hfirst := (changes_perform operation : Changes host stager world.files _).staysInside
      have hlater : (filesAlong host stager ((operation.perform stager).runOn host world).2
          later).IsChain (StaysInside stager.buildDir) := ih
      obtain ⟨more, hmore⟩ : ∃ more, filesAlong host stager
          ((operation.perform stager).runOn host world).2 later = _ :: more :=
        filesAlong_eq_cons later
      rw [filesAlong]
      rw [hmore] at hlater ⊢
      exact hlater.cons_cons hfirst

theorem sameAround_of_mem_filesAlong (operations : List Operation)
    (hworld : SameAround directory start world.files)
    (hstart : start.LeadsTo stager.buildDir directory)
    (hpath : StaysOutside directory start stager.buildDir) :
    ∀ files ∈ filesAlong host stager world operations, SameAround directory start files := by
  induction operations generalizing world with
  | nil => simpa [filesAlong] using hworld
  | cons operation later ih =>
      rw [filesAlong]
      rintro files hmem
      rcases List.mem_cons.1 hmem with rfl | hmem
      · exact hworld
      · exact ih ((changes_perform operation).sameAround hworld hstart hpath) files hmem

/-- Along any sequence of operations on the build directory, whether they succeed or fail, each changes
    only what lies in the directory that the path leads to at that time, takes this directory away, or
    makes directories that are missing along the path. If the path does not lead through the directory
    itself, nothing outside the one to which it leads at the start is ever different. -/
theorem staysInside_operations (host : Host) (stager : Stager) (world : World)
    (operations : List Operation) :
    (filesAlong host stager world operations).IsChain (StaysInside stager.buildDir) ∧
      ∀ directory, world.files.LeadsTo stager.buildDir directory →
        StaysOutside directory world.files stager.buildDir →
        ∀ files ∈ filesAlong host stager world operations, ∀ location, ¬ directory <:+ location →
          files.find? location = world.files.find? location := by
  refine ⟨isChain_filesAlong operations, fun directory hleads hpath files hmem location houtside => ?_⟩
  have hworld : SameAround directory world.files world.files := ⟨fun _ _ => rfl, .inr hleads.2⟩
  exact (sameAround_of_mem_filesAlong operations hworld hleads hpath files hmem).outside
    location houtside

/-- Removing an object file that is a link, and then the build directory, leaves alone the file to which
    the link points. -/
theorem staysInside_operations_linked_object :
    let host := Host.obedient Host.plainCommand fun _ => ByteArray.empty
    let stager : Stager := ⟨⟨.root, ["work", "builddir"]⟩, false⟩
    let data : Location := ["data.txt", "work"]
    let world : World :=
      { files := (Host.projectFiles [(["data.txt"], "1")]).insert ["x.o", "builddir", "work"]
          (.link "../data.txt") }
    let along := filesAlong host stager world [.removeTemporary, .clean, .ensureBuildDir]
    world.files.LeadsTo stager.buildDir ["builddir", "work"] ∧
      StaysOutside ["builddir", "work"] world.files stager.buildDir ∧
      ¬ ["builddir", "work"] <:+ data ∧
      ∀ files ∈ along, files.find? data = some (.file ⟨"1".toUTF8, .at 0⟩) := by
  intro host stager data world along
  have hleads : world.files.LeadsTo stager.buildDir ["builddir", "work"] :=
    reached?_eq_some_iff.1 (by decide +kernel)
  have hpath : StaysOutside ["builddir", "work"] world.files stager.buildDir := by decide +kernel
  have houtside : ¬ ["builddir", "work"] <:+ data := by decide
  have hdata : world.files.find? data = some (.file ⟨"1".toUTF8, .at 0⟩) := by decide +kernel
  refine ⟨hleads, hpath, houtside, fun files hmem => ?_⟩
  have hsame := (staysInside_operations host stager world _).2 _ hleads hpath files hmem data houtside
  exact hsame.trans hdata

end Stager
end JuliaNative
