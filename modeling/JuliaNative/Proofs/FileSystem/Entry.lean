import JuliaNative.Proofs.FileSystem.Way

set_option autoImplicit false

/-! # Entries of a directory

A walk along more names goes on from the directory that it reached (`exists_walk_append`). A path that
goes on from another one by a plain name leads into the directory to which the other one leads: to the
entry of that name, or to the free name (`locate_of_place_entry`). A path whose last name is not plain
leads to a directory, so a path to a file ends in a plain name (`isPlain_name`). -/

namespace JuliaNative

/-- Whether a name stands for an entry of its directory, and not for a directory that is reached
    already. -/
def IsPlain (name : String) : Prop :=
  name ≠ "" ∧ name ≠ "." ∧ name ≠ ".."

instance (name : String) : Decidable (IsPlain name) :=
  inferInstanceAs (Decidable (_ ∧ _ ∧ _))

namespace Path

/-- A path is no longer than the path of an entry below it. -/
theorem utf8ByteSize_toString_le_entry (path : Path) {name : String} (hname : name ≠ "") :
    path.toString.utf8ByteSize ≤ (path.entry name).toString.utf8ByteSize := by
  obtain ⟨anchor, parts⟩ := path
  by_cases hparts : parts = []
  · have hpos : name.utf8ByteSize ≠ 0 := fun h => hname (String.utf8ByteSize_eq_zero_iff.1 h)
    subst hparts
    cases anchor with
    | current =>
        show ".".utf8ByteSize ≤ ("" ++ "/".intercalate [name]).utf8ByteSize
        have hdot : ".".utf8ByteSize = 1 := by decide
        simp only [String.utf8ByteSize_append, String.intercalate_singleton]
        omega
    | root =>
        show ("/" ++ "/".intercalate []).utf8ByteSize ≤ ("/" ++ "/".intercalate [name]).utf8ByteSize
        simp only [String.utf8ByteSize_append, String.intercalate_nil]
        have hempty : "".utf8ByteSize = 0 := by decide
        omega
    | doubleRoot =>
        show ("//" ++ "/".intercalate []).utf8ByteSize
          ≤ ("//" ++ "/".intercalate [name]).utf8ByteSize
        simp only [String.utf8ByteSize_append, String.intercalate_nil]
        have hempty : "".utf8ByteSize = 0 := by decide
        omega
  · have htext : ∀ names : List String, names ≠ [] →
        Path.toString ⟨anchor, names⟩ = anchorText anchor ++ "/".intercalate names := by
      intro names hnames
      unfold Path.toString
      split
      · next heq => exact absurd heq hnames
      · rfl
    rw [htext parts hparts, entry, htext _ (by simp),
      String.intercalate_append_of_ne_nil hparts (by simp)]
    simp only [String.utf8ByteSize_append]
    omega

@[simp] theorem name_entry (directory : Path) (name : String) : (directory.entry name).name = name := by
  simp [Path.name, entry]

end Path

namespace FileSystem

variable {fs : FileSystem} {here location : Location} {parts : List String} {name : String}
  {path : Path} {place : Place} {followLast : Bool}

/-! ## Going on by more names -/

/-- Where names lead to a link, the names after them come after those of the link. -/
theorem advance_append_of_link {follow : Bool} {directory : Location} {target : String}
    {rest more : List String} (hmore : follow = true ∨ more ≠ [])
    (h : fs.advance followLast here parts = .link directory target rest) :
    fs.advance follow here (parts ++ more) = .link directory target (rest ++ more) := by
  fun_induction FileSystem.advance fs followLast here parts with
  | case2 here part others hdot ih => simpa [advance, hdot] using ih h
  | case3 here others hdot ih => simpa [advance] using ih h
  | case9 here part others hdot hup hlong heq ih =>
      simpa [advance, hdot, hup, hlong, heq] using ih h
  | case11 here part others hdot hup hlong text heq hlast =>
      cases h
      have hgoes : ¬ ((rest = [] ∧ more = []) ∧ follow = false) := by
        rintro ⟨⟨-, hnil⟩, hnot⟩
        rcases hmore with hfollow | hmore
        · simp [hnot] at hfollow
        · exact hmore hnil
      simp [advance, hdot, hup, hlong, heq, hgoes]
  | _ => cases h

/-- Where names lead to a directory, the names after them lead on from it. -/
theorem advance_append_of_present {follow : Bool} {directory : Location} (more : List String)
    (h : fs.advance followLast here parts = .ended (.present directory))
    (hdirectory : fs.find? directory = some .directory) :
    fs.advance follow here (parts ++ more) = fs.advance follow directory more := by
  fun_induction FileSystem.advance fs followLast here parts with
  | case1 here =>
      cases h
      rfl
  | case2 here part rest hdot ih => simpa [advance, hdot] using ih h
  | case3 here rest hdot ih => simpa [advance] using ih h
  | case7 here part hdot hup hlong file heq =>
      cases h
      cases heq.symm.trans hdirectory
  | case9 here part rest hdot hup hlong heq ih =>
      simpa [advance, hdot, hup, hlong, heq] using ih h
  | case10 here part rest hdot hup hlong target heq hlast =>
      cases h
      cases heq.symm.trans hdirectory
  | _ => cases h

/-- Where names lead to a free name, the names after them lead nowhere. -/
theorem advance_append_of_vacant {follow : Bool} {directory : Location} (more : List String)
    (h : fs.advance followLast here parts = .ended (.vacant directory name)) :
    fs.advance follow here (parts ++ more) =
      if more = [] then .ended (.vacant directory name) else .refused .noEntry := by
  fun_induction FileSystem.advance fs followLast here parts with
  | case2 here part rest hdot ih => simpa [advance, hdot] using ih h
  | case3 here rest hdot ih => simpa [advance] using ih h
  | case5 here part hdot hup hlong heq =>
      cases h
      simp [advance, hdot, hup, hlong, heq]
  | case9 here part rest hdot hup hlong heq ih =>
      simpa [advance, hdot, hup, hlong, heq] using ih h
  | _ => cases h

/-- Where a walk leads to a directory, a longer walk goes on from there, with the links that are
    left. -/
theorem exists_walk_append {links : Nat} {directory : Location}
    (h : fs.walk followLast links here parts = .ok (.present directory))
    (hdirectory : fs.find? directory = some .directory) :
    ∃ left, ∀ follow more, follow = true ∨ more ≠ [] →
      fs.walk follow links here (parts ++ more) = fs.walk follow left directory more := by
  replace h := walks_iff.2 h
  induction h with
  | ended hadvance =>
      exact ⟨_, fun follow more _ =>
        walk_of_advance_eq (advance_append_of_present more hadvance hdirectory)⟩
  | link hadvance _ ih =>
      obtain ⟨left, hleft⟩ := ih
      refine ⟨left, fun follow more hmore => ?_⟩
      rw [walk_succ, advance_append_of_link hmore hadvance, ← hleft follow more hmore,
        List.append_assoc]

theorem walk_append_of_vacant {follow : Bool} {links : Nat} {directory : Location}
    (more : List String) (hmore : follow = true ∨ more ≠ [])
    (h : fs.walk followLast links here parts = .ok (.vacant directory name)) :
    fs.walk follow links here (parts ++ more) =
      if more = [] then .ok (.vacant directory name) else .error .noEntry := by
  replace h := walks_iff.2 h
  induction h with
  | @ended _ here parts hadvance =>
      have hagain : fs.advance follow here (parts ++ more) =
          if more = [] then .ended (.vacant directory name) else .refused .noEntry :=
        advance_append_of_vacant more hadvance
      by_cases hnil : more = []
      · rw [if_pos hnil] at hagain ⊢
        exact walk_of_ended hagain
      · rw [if_neg hnil] at hagain ⊢
        exact walk_of_refused hagain
  | link hadvance _ ih =>
      rw [walk_succ, advance_append_of_link hmore hadvance]
      simpa using ih

/-- A walk along more names looks at no fewer locations. -/
theorem looked_subset_append (fs : FileSystem) (here : Location) (parts more : List String) :
    fs.looked here parts ⊆ fs.looked here (parts ++ more) := by
  fun_induction FileSystem.looked fs here parts with
  | case1 => simp
  | case2 here part rest hdot ih => simpa [looked, hdot] using ih
  | case3 here rest hdot ih => simpa [looked] using ih
  | case4 here part rest hdot hup hlong => simp
  | case5 here part rest hdot hup hlong heq ih =>
      simpa [looked, hdot, hup, hlong, heq] using List.subset_cons_of_subset _ ih
  | case6 here part rest hdot hup hlong heq =>
      simp [looked, hdot, hup, hlong]

theorem walkLooked_subset_append {follow : Bool} {more : List String} (links : Nat)
    (hmore : follow = true ∨ more ≠ []) :
    fs.walkLooked followLast links here parts ⊆ fs.walkLooked follow links here (parts ++ more) := by
  induction links generalizing here parts with
  | zero => exact looked_subset_append fs here parts more
  | succ links ih =>
      rw [walkLooked, walkLooked]
      refine List.append_subset.2
        ⟨List.subset_append_of_subset_left _ (looked_subset_append fs here parts more),
          List.subset_append_of_subset_right _ ?_⟩
      split
      · next directory target rest hadvance =>
          rw [advance_append_of_link hmore hadvance]
          simp only [← List.append_assoc]
          exact ih
      · exact List.nil_subset _


/-! ## Going on by a plain name -/

/-- The place of a name in a directory. -/
def slot (fs : FileSystem) (directory : Location) (name : String) : Place :=
  if fs.find? (name :: directory) = none then .vacant directory name
  else .present (name :: directory)

theorem advance_append_ended (hname : IsPlain name) (hroot : fs.Rooted here)
    (h : fs.advance followLast here (parts ++ [name]) = .ended place) :
    ∃ directory, fs.advance true here parts = .ended (.present directory) ∧
      fs.Rooted directory ∧ place = fs.slot directory name := by
  fun_induction FileSystem.advance fs true here parts with
  | case1 here =>
      refine ⟨here, rfl, hroot, ?_⟩
      simp only [List.nil_append, advance, hname.1, hname.2.1, hname.2.2, or_self, if_false] at h
      unfold slot
      split at h
      · cases h
      · cases followLast <;> split at h <;> simp_all
  | case2 here part rest hdot ih => exact ih hroot (by simpa [advance, hdot] using h)
  | case3 here rest hdot ih => exact ih hroot.tail (by simpa [advance] using h)
  | case9 here part rest hdot hup hlong heq ih =>
      exact ih (hroot.cons heq) (by simpa [advance, hdot, hup, hlong, heq] using h)
  | case10 here part rest hdot hup hlong target heq hlast => cases hlast.2
  | _ => simp [advance, *] at h

theorem advance_append_link {directory : Location} {target : String} {rest : List String}
    (hname : IsPlain name) (hroot : fs.Rooted here)
    (h : fs.advance followLast here (parts ++ [name]) = .link directory target rest) :
    (followLast = true ∧ fs.advance true here parts = .ended (.present directory) ∧
      fs.Rooted directory ∧ fs.find? (name :: directory) = some (.link target)) ∨
    (∃ more, rest = more ++ [name] ∧ fs.advance true here parts = .link directory target more) := by
  fun_induction FileSystem.advance fs true here parts with
  | case1 here =>
      left
      simp only [List.nil_append, advance, hname.1, hname.2.1, hname.2.2, or_self, if_false] at h
      split at h
      · cases h
      · cases followLast <;> split at h <;> simp_all
  | case2 here part rest hdot ih => exact ih hroot (by simpa [advance, hdot] using h)
  | case3 here rest hdot ih => exact ih hroot.tail (by simpa [advance] using h)
  | case9 here part rest hdot hup hlong heq ih =>
      exact ih (hroot.cons heq) (by simpa [advance, hdot, hup, hlong, heq] using h)
  | case11 here part rest hdot hup hlong text heq hlast =>
      have hlonger : fs.advance followLast here (part :: rest ++ [name]) =
          .link here text (rest ++ [name]) := by
        simp [advance, hdot, hup, hlong, heq]
      cases hlonger.symm.trans h
      exact .inr ⟨rest, rfl, rfl⟩
  | case10 here part rest hdot hup hlong target heq hlast => cases hlast.2
  | _ => simp [advance, *] at h

/-- A walk that goes on by a plain name leads into the directory that it reached before, unless it
    follows a link of that name. -/
theorem walk_append {links : Nat} (hname : IsPlain name) (hroot : fs.Rooted here)
    (h : fs.walk followLast links here (parts ++ [name]) = .ok place) :
    ∃ directory, fs.walk true links here parts = .ok (.present directory) ∧ fs.Rooted directory ∧
      ((followLast = true → ∀ target, fs.find? (name :: directory) ≠ some (.link target)) →
        place = fs.slot directory name) := by
  generalize hparts : parts ++ [name] = all at h
  replace h := walks_iff.2 h
  induction h generalizing parts with
  | ended hadvance =>
      subst hparts
      obtain ⟨directory, hdirectory, hrooted, hslot⟩ := advance_append_ended hname hroot hadvance
      exact ⟨directory, walk_of_ended hdirectory, hrooted, fun _ => hslot⟩
  | link hadvance _ ih =>
      subst hparts
      rcases advance_append_link hname hroot hadvance with
        ⟨hfollow, hended, hrooted, hlink⟩ | ⟨more, rfl, hlink⟩
      · exact ⟨_, walk_of_ended hended, hrooted, fun hno => absurd hlink (hno hfollow _)⟩
      · obtain ⟨directory, hdirectory, hslot⟩ :=
          ih ((rooted_of_advance_link hroot hlink).linkStart _) (List.append_assoc ..)
        exact ⟨directory, by rw [walk_succ, hlink]; exact hdirectory, hslot⟩

/-- The path of an entry leads into the directory to which the path of the directory leads. -/
theorem locate_of_place_entry (hname : IsPlain name)
    (h : fs.place followLast (path.entry name) = .ok place) :
    ∃ directory, fs.locate path = .ok (.present directory) ∧ fs.Rooted directory ∧
      ((followLast = true → ∀ target, fs.find? (name :: directory) ≠ some (.link target)) →
        place = fs.slot directory name) := by
  unfold FileSystem.place at h
  split at h
  · cases h
  · next hshort =>
      obtain ⟨directory, hdirectory, hslot⟩ := walk_append hname (rooted_nil fs) h
      refine ⟨directory, ?_, hslot⟩
      have hsize := path.utf8ByteSize_toString_le_entry hname.1
      unfold locate FileSystem.place
      rw [if_neg (by omega)]
      exact hdirectory

theorem walk_name {links : Nat} (hname : IsPlain name) (hsize : name.utf8ByteSize ≤ maximalName)
    (hlink : followLast = true → ∀ target, fs.find? (name :: here) ≠ some (.link target)) :
    fs.walk followLast links here [name] = .ok (fs.slot here name) := by
  obtain ⟨hempty, hdot, hup⟩ := hname
  have hadvance : fs.advance followLast here [name] = .ended (fs.slot here name) := by
    simp only [advance, hempty, hdot, hup, Nat.not_lt.2 hsize, or_self, if_false, if_true, true_and]
    unfold slot
    split <;> simp_all
  cases links <;> simp [walk_zero, walk_succ, hadvance]

theorem walk_name_of_size_lt {links : Nat} (hname : IsPlain name)
    (hlong : maximalName < name.utf8ByteSize) :
    fs.walk followLast links here [name] = .error .nameTooLong := by
  obtain ⟨hempty, hdot, hup⟩ := hname
  cases links <;> simp [walk_zero, walk_succ, advance, hempty, hdot, hup, hlong]

theorem size_le_of_walk_name {links : Nat} (hname : IsPlain name)
    (h : fs.walk followLast links here [name] = .ok place) : name.utf8ByteSize ≤ maximalName := by
  refine Nat.not_lt.1 fun hlong => ?_
  rw [walk_name_of_size_lt hname hlong] at h
  cases h

/-! ## Names that are not plain -/

/-- Names of which the last one is not plain never end at a name, and a link among them is not the
    last one. -/
theorem advance_of_not_isPlain (hroot : fs.Rooted here)
    (hlast : ∀ name, parts.getLast? = some name → ¬ IsPlain name) :
    (∀ place, fs.advance followLast here parts = .ended place →
      ∃ location, place = .present location ∧ fs.find? location = some .directory) ∧
    (∀ directory target rest, fs.advance followLast here parts = .link directory target rest →
      rest ≠ [] ∧ ∀ name, rest.getLast? = some name → ¬ IsPlain name) := by
  induction parts generalizing here with
  | nil =>
      refine ⟨fun place h => ?_, by simp [advance]⟩
      cases h
      exact ⟨here, rfl, hroot.find?_eq⟩
  | cons part rest ih =>
      have hrest : ∀ name, rest.getLast? = some name → ¬ IsPlain name := by
        intro name hname
        refine hlast name ?_
        rw [List.getLast?_cons, hname]
        rfl
      simp only [advance]
      split
      · exact ih hroot hrest
      · next hdot =>
          split
          · exact ih hroot.tail hrest
          · next hup =>
              -- a plain name is not the last one
              have hne : rest ≠ [] := by
                rintro rfl
                exact hlast part rfl ⟨fun h => hdot (.inl h), fun h => hdot (.inr h), hup⟩
              simp only [hne, if_false, false_and]
              split
              · simp
              · split
                · simp
                · simp
                · next heq => exact ih (hroot.cons heq) hrest
                · refine ⟨by simp, fun _ _ _ h => ?_⟩
                  cases h
                  exact ⟨hne, hrest⟩

theorem walk_of_not_isPlain {links : Nat} (hroot : fs.Rooted here)
    (hlast : ∀ name, parts.getLast? = some name → ¬ IsPlain name)
    (h : fs.walk followLast links here parts = .ok place) :
    ∃ location, place = .present location ∧ fs.find? location = some .directory := by
  replace h := walks_iff.2 h
  induction h with
  | ended hadvance => exact (advance_of_not_isPlain hroot hlast).1 _ hadvance
  | link hadvance _ ih =>
      obtain ⟨hne, hrest⟩ := (advance_of_not_isPlain hroot hlast).2 _ _ _ hadvance
      refine ih ((rooted_of_advance_link hroot hadvance).linkStart _) fun name hname => ?_
      rw [List.getLast?_append, Option.or_of_isSome (by simpa using hne)] at hname
      exact hrest name hname

/-- A path whose last name is not plain leads to a directory, if anywhere. -/
theorem directory_of_not_isPlain (hname : ¬ IsPlain path.name)
    (h : fs.place followLast path = .ok place) :
    ∃ location, place = .present location ∧ fs.find? location = some .directory := by
  unfold FileSystem.place at h
  split at h
  · cases h
  · refine walk_of_not_isPlain (rooted_nil fs) (fun name hlast => ?_) h
    unfold Path.name at hname
    rwa [hlast] at hname

/-- A path to an entry that is no directory ends in a plain name. -/
theorem isPlain_name {entry : Entry} (hlookup : fs.lookup? path = some entry)
    (hentry : entry ≠ .directory) : IsPlain path.name := by
  unfold lookup? at hlookup
  split at hlookup
  · next location hlocate =>
      refine Decidable.byContradiction fun hplain => hentry ?_
      obtain ⟨_, hplace, hdirectory⟩ := directory_of_not_isPlain hplain hlocate
      cases hplace
      rw [hdirectory] at hlookup
      exact (Option.some.inj hlookup).symm
  · cases hlookup

end FileSystem
end JuliaNative
