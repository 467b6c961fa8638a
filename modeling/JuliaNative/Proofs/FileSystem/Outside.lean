import JuliaNative.Proofs.FileSystem.Change

set_option autoImplicit false

/-! # Files that differ below a directory

Two file systems may differ in what is strictly below one directory (`FileSystem.SameOutside`). A path
whose way does not go below the directory leads to the same entry in both, and when the directory
is removed in both, the same files are left (`FileSystem.SameOutside.removeTree_eq`). -/

namespace JuliaNative

namespace FileSystem

variable {first second : FileSystem} {directory location : Location} {path : Path}

/-- A location is strictly below a directory. -/
def IsBelow (directory location : Location) : Prop :=
  directory <:+ location ∧ location ≠ directory

instance (directory location : Location) : Decidable (IsBelow directory location) :=
  inferInstanceAs (Decidable (_ ∧ _))

/-- Two file systems differ at most strictly below a directory. -/
def SameOutside (directory : Location) (first second : FileSystem) : Prop :=
  ∀ location, ¬ IsBelow directory location → second.entries[location]? = first.entries[location]?

/-- The way of a path does not go below a directory. -/
def StaysOutside (directory : Location) (fs : FileSystem) (path : Path) : Prop :=
  ∀ location ∈ fs.way path, ¬ IsBelow directory location

instance (directory : Location) (fs : FileSystem) (path : Path) :
    Decidable (StaysOutside directory fs path) :=
  inferInstanceAs (Decidable (∀ location ∈ _, _))

theorem sameOutside_insert {entry : Entry} (h : IsBelow directory location) (fs : FileSystem) :
    SameOutside directory fs (fs.insert location entry) := by
  intro other hother
  have hne : location ≠ other := fun heq => hother (heq ▸ h)
  simp [insert, Std.ExtTreeMap.getElem?_insert, hne]

theorem SameOutside.find?_eq (h : SameOutside directory first second)
    (hlocation : ¬ IsBelow directory location) : second.find? location = first.find? location := by
  unfold find?
  rw [h location hlocation]

theorem SameOutside.locate_eq (h : SameOutside directory first second)
    (hpath : StaysOutside directory first path) : second.locate path = first.locate path :=
  locate_congr fun location hmem => h.find?_eq (hpath location hmem)

theorem SameOutside.lookup?_eq (h : SameOutside directory first second)
    (hpath : StaysOutside directory first path) : second.lookup? path = first.lookup? path :=
  lookup?_congr fun location hmem => h.find?_eq (hpath location hmem)

/-- When the directory is emptied, the difference is gone. -/
theorem SameOutside.eraseBelow_eq (h : SameOutside directory first second) :
    second.eraseBelow directory = first.eraseBelow directory := by
  unfold eraseBelow
  congr 1
  refine Std.ExtTreeMap.ext_getElem? fun location => ?_
  rw [Std.ExtTreeMap.getElem?_filter', Std.ExtTreeMap.getElem?_filter']
  by_cases hbelow : IsBelow directory location
  · have hdrop : (location == directory || !directory.isSuffixOf location) = false := by
      simp [hbelow.1, hbelow.2]
    simp [hdrop]
  · rw [h location hbelow]

/-- Removing the directory leaves the same files, and is refused for the same reason if it is. -/
theorem SameOutside.removeTree_eq (h : SameOutside directory first second)
    (hfirst : first.Names path directory) (hsecond : second.Names path directory) :
    second.removeTree path = first.removeTree path := by
  unfold removeTree
  simp only [hfirst.1, hfirst.2, hsecond.1, hsecond.2, h.eraseBelow_eq]

/-- Following a link in the last place makes no difference where there is none. -/
theorem advance_follow {fs : FileSystem} {here : Location} {parts : List String}
    (h : ∀ location, fs.advance false here parts = .ended (.present location) →
      ∀ target, fs.find? location ≠ some (.link target)) :
    fs.advance true here parts = fs.advance false here parts := by
  -- both take the same step at each name, up to a link with no name after it
  fun_induction FileSystem.advance fs false here parts with
  | case1 => rfl
  | case2 here part rest hdot ih => simpa [advance, hdot] using ih h
  | case3 here rest hdot ih => simpa [advance] using ih h
  | case9 here part rest hdot hup hlong heq ih => simpa [advance, hdot, hup, hlong, heq] using ih h
  | case10 here part rest hdot hup hlong target heq hlast => exact absurd heq (h _ rfl target)
  | case11 here part rest hdot hup hlong target heq hlast =>
      have hrest : rest ≠ [] := fun hrest => hlast ⟨hrest, rfl⟩
      simp [advance, hdot, hup, hlong, heq, hrest]
  | _ => simp [advance, *]

/-- A walk that ends at no link goes the same way if it follows links to the end. -/
theorem walk_true_eq {fs : FileSystem} {links : Nat} {here : Location} {parts : List String}
    (h : ∀ location, fs.walk false links here parts = .ok (.present location) →
      ∀ target, fs.find? location ≠ some (.link target)) :
    fs.walk true links here parts = fs.walk false links here parts := by
  -- on the number of links that may still be followed
  induction links generalizing here parts with
  | zero =>
      rw [walk_zero] at h
      rw [walk_zero, walk_zero, advance_follow]
      intro found hfound target
      exact h found (by rw [hfound]) target
  | succ links ih =>
      rw [walk_succ] at h
      have hadvance : fs.advance true here parts = fs.advance false here parts := by
        apply advance_follow
        intro found hfound target
        exact h found (by rw [hfound]) target
      rw [walk_succ, walk_succ, hadvance]
      cases hstep : fs.advance false here parts with
      | ended place => rfl
      | refused refusal => rfl
      | link start target rest =>
          rw [hstep] at h
          exact ih h

theorem walk_follow {fs : FileSystem} {links : Nat} {here : Location} {parts : List String}
    (h : fs.walk false links here parts = .ok (.present location))
    (hlink : ∀ target, fs.find? location ≠ some (.link target)) :
    fs.walk true links here parts = .ok (.present location) := by
  rw [walk_true_eq, h]
  intro found hfound
  rw [h] at hfound
  cases hfound
  exact hlink

/-- What a path names, if it is no link, is what it leads to. -/
theorem locate_of_locateLink {fs : FileSystem} (h : fs.locateLink path = .ok (.present location))
    (hlink : ∀ target, fs.find? location ≠ some (.link target)) :
    fs.locate path = .ok (.present location) := by
  unfold locateLink place at h
  unfold locate place
  split at h
  · cases h
  · next hshort =>
      rw [if_neg hshort]
      exact walk_follow h hlink

/-- What the parents of a path name does not change with entries that are not on its way. -/
theorem locateLink_congr_of_prefix {fs other : FileSystem} {front : List String}
    (hfront : front <+: path.parts)
    (h : ∀ location ∈ fs.way path, other.find? location = fs.find? location) :
    other.locateLink ⟨path.anchor, front⟩ = fs.locateLink ⟨path.anchor, front⟩ := by
  obtain ⟨more, hmore⟩ := hfront
  have hlooked : fs.walkLooked false maximalLinks [] front ⊆
      fs.walkLooked true maximalLinks [] path.parts := by
    rw [← hmore]
    exact walkLooked_subset_append maximalLinks (.inl rfl)
  unfold locateLink place
  rw [walk_congr false maximalLinks
    (fun location hmem => h location (List.mem_append_left _ (hlooked hmem)))]

/-- A path that names no link does not name one because of changes that are not on its way. -/
theorem isLink_congr {fs other : FileSystem} (hlink : fs.isLink path = false)
    (h : ∀ location ∈ fs.way path, other.find? location = fs.find? location) :
    other.isLink path = false := by
  have hlocate : other.locateLink path = fs.locateLink path :=
    locateLink_congr_of_prefix (List.prefix_refl _) h
  unfold isLink lookupLink? at hlink ⊢
  rw [hlocate]
  cases hplace : fs.locateLink path with
  | error refusal => rfl
  | ok place =>
      cases place with
      | vacant directory name => rfl
      | present location =>
          rw [hplace] at hlink
          have hnone : ∀ target, fs.find? location ≠ some (.link target) := by
            intro target htarget
            simp [htarget] at hlink
          have hmem : location ∈ fs.way path :=
            mem_way_of_locate (locate_of_locateLink hplace hnone)
          simp only [h location hmem]

/-- A directory that a path names is what it leads to. -/
theorem Names.leadsTo {fs : FileSystem} (h : fs.Names path directory) :
    fs.LeadsTo path directory :=
  ⟨locate_of_locateLink h.1 (by simp [h.2]), h.2⟩

end FileSystem
end JuliaNative
