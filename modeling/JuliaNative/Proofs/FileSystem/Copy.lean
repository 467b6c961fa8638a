import JuliaNative.Proofs.FileSystem.Frame
import JuliaNative.Proofs.FileSystem.Outside

set_option autoImplicit false

/-! # What a copy puts in place

A copy that succeeds puts the entry that its source names in place (`FileSystem.Duplicated`): a file with
the same bytes and the same time, or a link with the same target. It does so whatever stands on the way
of the source, since an entry that was removed to make room for the copy cannot have been on that way, nor
on the way of the directory. Paths whose way does not lead through the place lead where they did. -/

namespace JuliaNative.FileSystem

variable {fs other mid : FileSystem} {here location directory : Location} {parts : List String}
  {name : String} {path source : Path} {entry : Entry}

/-! ## What a path names -/

theorem lookupLink?_eq_some_iff :
    fs.lookupLink? path = some entry ↔
      ∃ location, fs.locateLink path = .ok (.present location) ∧ fs.find? location = some entry := by
  unfold lookupLink?
  cases hlocate : fs.locateLink path with
  | error refusal => simp
  | ok place => cases place <;> simp

/-- A walk along names that ends at a link has looked at the link. -/
theorem mem_looked_of_link {target : String} (hroot : fs.Rooted here)
    (h : fs.advance false here parts = .ended (.present location))
    (hlink : fs.find? location = some (.link target)) : location ∈ fs.looked here parts := by
  fun_induction FileSystem.advance fs false here parts with
  | case1 here =>
      cases h
      cases hroot.find?_eq.symm.trans hlink
  | case2 here part rest hdot ih => simpa [looked, hdot] using ih hroot h
  | case3 here rest hdot ih => simpa [looked] using ih hroot.tail h
  | case7 here part hdot hup hlong file heq =>
      cases h
      cases heq.symm.trans hlink
  | case9 here part rest hdot hup hlong heq ih =>
      simpa [looked, hdot, hup, hlong, heq] using .inr (ih (hroot.cons heq) h)
  | case10 here part rest hdot hup hlong target heq hlast =>
      cases h
      simp [looked, hdot, hup, hlong, heq]
  | _ => cases h

theorem mem_walkLooked_of_link {links : Nat} {target : String} (hroot : fs.Rooted here)
    (h : fs.walk false links here parts = .ok (.present location))
    (hlink : fs.find? location = some (.link target)) :
    location ∈ fs.walkLooked false links here parts := by
  replace h := walks_iff.2 h
  induction h with
  | ended hadvance =>
      rw [walkLooked_of_ended hadvance]
      exact mem_looked_of_link hroot hadvance hlink
  | link hadvance _ ih =>
      rw [walkLooked, hadvance]
      exact List.mem_append_right _ (ih ((rooted_of_advance_link hroot hadvance).linkStart _))

/-- What a path names lies on its way, be it a link or not. -/
theorem mem_way_of_locateLink (h : fs.locateLink path = .ok (.present location)) :
    location ∈ fs.way path := by
  by_cases hlink : ∃ target, fs.find? location = some (.link target)
  · obtain ⟨target, htarget⟩ := hlink
    have hwalk : fs.walk false maximalLinks [] path.parts = .ok (.present location) := by
      unfold locateLink place at h
      split at h
      · cases h
      · exact h
    have hsub : fs.walkLooked false maximalLinks [] path.parts ⊆
        fs.walkLooked true maximalLinks [] (path.parts ++ []) :=
      walkLooked_subset_append maximalLinks (.inl rfl)
    rw [List.append_nil] at hsub
    exact List.mem_append_left _ (hsub (mem_walkLooked_of_link (rooted_nil fs) hwalk htarget))
  · exact mem_way_of_locate (locate_of_locateLink h fun target htarget => hlink ⟨target, htarget⟩)

/-- What a path names does not change with entries that are not on its way. -/
theorem lookupLink?_congr
    (h : ∀ location ∈ fs.way path, other.find? location = fs.find? location) :
    other.lookupLink? path = fs.lookupLink? path := by
  have hlocate : other.locateLink path = fs.locateLink path :=
    locateLink_congr_of_prefix (List.prefix_refl _) h
  unfold lookupLink?
  rw [hlocate]
  split
  · next location hplace => exact h location (mem_way_of_locateLink hplace)
  · rfl


/-! ## Copies -/

/-- The entry of a source that stood elsewhere stands in the directory of a path under a name: a file with
    the same bytes and the same time, or a link with the same target. Everything else is as before. -/
structure Duplicated (source path : Path) (name : String) (before after : FileSystem)
    (directory : Location) (entry : Entry) : Prop where
  isPlain : IsPlain name
  fits : Fits path name
  put : before.PutAt after path name directory
  source : ∃ location, before.locateLink source = .ok (.present location) ∧
    before.find? location = some entry ∧ location ≠ name :: directory
  noDirectory : entry ≠ .directory
  there : after.find? (name :: directory) = some entry

theorem Duplicated.lookupLink? {before after : FileSystem} {entry : Entry}
    (h : Duplicated source path name before after directory entry) :
    before.lookupLink? source = some entry := by
  obtain ⟨location, hlocate, hentry, -⟩ := h.source
  exact lookupLink?_eq_some_iff.2 ⟨location, hlocate, hentry⟩

/-- An entry that is put in place makes no difference to a path off its place. -/
theorem PutAt.eq_on_way {another : Path} (h : fs.PutAt other path name directory)
    (haway : name :: directory ∉ fs.way another) :
    ∀ location ∈ fs.way another, other.find? location = fs.find? location := by
  intro location hmem
  apply h.elsewhere
  rintro rfl
  exact haway hmem

/-- The path of an entry that is no link leads to what the directory holds under its name, unless it is
    too long. -/
theorem lookup?_entry (hname : IsPlain name) (hfits : Fits path name)
    (hleads : fs.LeadsTo path directory) (hlink : fs.isLink (path.entry name) = false) :
    fs.lookup? (path.entry name) = fs.find? (name :: directory) := by
  have hlocate : fs.locate (path.entry name) = .ok (fs.slot directory name) :=
    place_entry hname hfits hleads fun _ => (isLink_entry hname hfits hleads).1 hlink
  unfold lookup?
  rw [hlocate]
  by_cases hnone : fs.find? (name :: directory) = none
  · simp [slot, hnone]
  · simp [slot, hnone]

theorem lookup?_entry_of_not_fits (hname : IsPlain name) (hlong : ¬ Fits path name) :
    fs.lookup? (path.entry name) = none := by
  unfold lookup?
  split
  · next location hlocate => exact absurd (fits_of_place hname hlocate) hlong
  · rfl

/-- Nor to the path of another entry of the directory, if that is no link. -/
theorem PutAt.lookup?_entry {another : String} (h : fs.PutAt other path name directory)
    (hname : IsPlain another) (hne : another ≠ name)
    (hlink : fs.isLink (path.entry another) = false) :
    other.isLink (path.entry another) = false ∧
      other.lookup? (path.entry another) = fs.lookup? (path.entry another) := by
  have hsame : other.find? (another :: directory) = fs.find? (another :: directory) :=
    h.elsewhere _ (by simpa using hne)
  have hlink' : other.isLink (path.entry another) = false := by
    rw [← Bool.not_eq_true]
    intro hthere
    obtain ⟨-, hfits, there, target, hleads, htarget⟩ := exists_link_of_isLink_entry hthere
    rw [hleads.unique h.leads, hsame] at htarget
    exact (isLink_entry hname hfits h.led).1 hlink target htarget
  refine ⟨hlink', ?_⟩
  by_cases hfits : Fits path another
  · rw [FileSystem.lookup?_entry hname hfits h.leads hlink',
      FileSystem.lookup?_entry hname hfits h.led hlink, hsame]
  · rw [lookup?_entry_of_not_fits hname hfits, lookup?_entry_of_not_fits hname hfits]

end JuliaNative.FileSystem
