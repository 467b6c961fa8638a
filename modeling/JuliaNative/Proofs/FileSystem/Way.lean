import JuliaNative.FileSystem.Walk

set_option autoImplicit false

/-! # The way of a path

A walk along a path looks at a list of locations, one after the other: the way of the path. Where a
path leads depends on the entries on its way and on nothing else (`locate_congr`), and all of them
are there if the path leads to an entry (`find?_ne_none_of_mem_way`), those before its end being
directories and links (`eq_or_routeAt_of_mem_way`). -/

namespace JuliaNative.FileSystem

variable {fs other : FileSystem} {here location : Location} {parts : List String} {path : Path}

/-! ## Steps of a walk -/

theorem walk_zero (fs : FileSystem) (followLast : Bool) (here : Location) (parts : List String) :
    fs.walk followLast 0 here parts =
      match fs.advance followLast here parts with
      | .ended place => .ok place
      | .refused refusal => .error refusal
      | .link _ _ _ => .error .tooManyLinks := by
  conv => lhs; unfold walk
  cases fs.advance followLast here parts <;> rfl

theorem walk_succ (fs : FileSystem) (followLast : Bool) (links : Nat) (here : Location)
    (parts : List String) :
    fs.walk followLast (links + 1) here parts =
      match fs.advance followLast here parts with
      | .ended place => .ok place
      | .refused refusal => .error refusal
      | .link directory target rest =>
        fs.walk followLast links (linkStart directory target) (Path.pieces target ++ rest) := by
  conv => lhs; unfold walk
  cases fs.advance followLast here parts <;> rfl

/-- How a walk goes on is decided by how far its names lead. -/
theorem walk_of_advance_eq {followLast : Bool} {links : Nat} {there : Location} {others : List String}
    (h : fs.advance followLast here parts = fs.advance followLast there others) :
    fs.walk followLast links here parts = fs.walk followLast links there others := by
  cases links <;> simp [walk_zero, walk_succ, h]

theorem walk_of_ended {followLast : Bool} {links : Nat} {place : Place}
    (h : fs.advance followLast here parts = .ended place) :
    fs.walk followLast links here parts = .ok place := by
  cases links <;> simp [walk_zero, walk_succ, h]

theorem walk_of_refused {followLast : Bool} {links : Nat} {refusal : Refusal}
    (h : fs.advance followLast here parts = .refused refusal) :
    fs.walk followLast links here parts = .error refusal := by
  cases links <;> simp [walk_zero, walk_succ, h]

/-- A walk over at most some number of links gets to a place: it ends there along its names, or meets a link
    and gets there along the target of that. -/
inductive Walks (fs : FileSystem) (followLast : Bool) (place : Place) :
    Nat → Location → List String → Prop
  | ended {links : Nat} {here : Location} {parts : List String}
    (hadvance : fs.advance followLast here parts = .ended place) :
    Walks fs followLast place links here parts
  | link {links : Nat} {here directory : Location} {parts rest : List String} {target : String}
    (hadvance : fs.advance followLast here parts = .link directory target rest)
    (hwalk : Walks fs followLast place links (linkStart directory target) (Path.pieces target ++ rest)) :
    Walks fs followLast place (links + 1) here parts

/-- The walks that get to a place, for inductions on their links. -/
theorem walks_iff {followLast : Bool} {links : Nat} {place : Place} :
    fs.Walks followLast place links here parts ↔ fs.walk followLast links here parts = .ok place := by
  constructor
  · intro h
    induction h with
    | ended hadvance => exact walk_of_ended hadvance
    | link hadvance _ ih =>
        rw [walk_succ, hadvance]
        exact ih
  · intro h
    induction links generalizing here parts with
    | zero =>
        rw [walk_zero] at h
        split at h
        · next hadvance => exact .ended (hadvance.trans (congrArg _ (Except.ok.inj h)))
        · cases h
        · cases h
    | succ links ih =>
        rw [walk_succ] at h
        split at h
        · next hadvance => exact .ended (hadvance.trans (congrArg _ (Except.ok.inj h)))
        · cases h
        · next hadvance => exact .link hadvance (ih h)

/-! ## Locations that a walk looks at -/

/-- The locations that a walk along names looks at, up to the first entry that is no directory. -/
def looked (fs : FileSystem) (here : Location) : List String → List Location
  | [] => []
  | part :: rest =>
    if part = "" ∨ part = "." then looked fs here rest
    else if part = ".." then looked fs here.tail rest
    else if maximalName < part.utf8ByteSize then []
    else
      match fs.find? (part :: here) with
      | some .directory => (part :: here) :: looked fs (part :: here) rest
      | _ => [part :: here]

/-- The locations that a walk over at most `links` links looks at. -/
def walkLooked (fs : FileSystem) (followLast : Bool) :
    Nat → Location → List String → List Location
  | 0, here, parts => fs.looked here parts
  | links + 1, here, parts =>
    fs.looked here parts ++
      match fs.advance followLast here parts with
      | .link directory target rest =>
        walkLooked fs followLast links (linkStart directory target) (Path.pieces target ++ rest)
      | _ => []

theorem walkLooked_of_ended {followLast : Bool} {links : Nat} {place : Place}
    (h : fs.advance followLast here parts = .ended place) :
    fs.walkLooked followLast links here parts = fs.looked here parts := by
  cases links <;> simp [walkLooked, h]

/-- The way of a path: the locations that a walk along it looks at, and the one to which it leads. -/
def way (fs : FileSystem) (path : Path) : List Location :=
  fs.walkLooked true maximalLinks [] path.parts ++
    match fs.locate path with
    | .ok (.present location) => [location]
    | _ => []

/-! ## Where a path leads depends on its way -/

theorem advance_congr (followLast : Bool)
    (h : ∀ location ∈ fs.looked here parts, other.find? location = fs.find? location) :
    other.advance followLast here parts = fs.advance followLast here parts := by
  induction parts generalizing here with
  | nil => rfl
  | cons part rest ih =>
      simp only [looked] at h
      simp only [advance]
      split
      · next hdot => rw [if_pos hdot] at h; exact ih h
      · next hdot =>
          rw [if_neg hdot] at h
          split
          · next hup => rw [if_pos hup] at h; exact ih h
          · next hup =>
              rw [if_neg hup] at h
              split
              · rfl
              · next hlong =>
                  rw [if_neg hlong] at h
                  -- the walk looks at this entry whatever it is, so both walks go on alike
                  have hhead : other.find? (part :: here) = fs.find? (part :: here) := by
                    apply h
                    split <;> exact List.mem_cons_self ..
                  rw [hhead]
                  split
                  · rfl
                  · rfl
                  · next heq =>
                      rw [heq] at h
                      exact ih (fun location hmem => h location (List.mem_cons_of_mem _ hmem))
                  · rfl

theorem walk_congr (followLast : Bool) (links : Nat)
    (h : ∀ location ∈ fs.walkLooked followLast links here parts,
      other.find? location = fs.find? location) :
    other.walk followLast links here parts = fs.walk followLast links here parts := by
  induction links generalizing here parts with
  | zero =>
      rw [walk_zero, walk_zero, advance_congr followLast h]
  | succ links ih =>
      rw [walkLooked] at h
      rw [walk_succ, walk_succ, advance_congr followLast
        (fun location hmem => h location (List.mem_append_left _ hmem))]
      split
      · rfl
      · rfl
      · next hadvance =>
          rw [hadvance] at h
          exact ih (fun location hmem => h location (List.mem_append_right _ hmem))

theorem looked_congr
    (h : ∀ location ∈ fs.looked here parts, other.find? location = fs.find? location) :
    other.looked here parts = fs.looked here parts := by
  fun_induction FileSystem.looked fs here parts with
  | case1 => rfl
  | case2 here part rest hdot ih => simpa [looked, hdot] using ih h
  | case3 here rest hdot ih => simpa [looked] using ih h
  | case4 here part rest hdot hup hlong => simp [looked, hdot, hup, hlong]
  | case5 here part rest hdot hup hlong heq ih =>
      have hhead : other.find? (part :: here) = some .directory :=
        (h _ (List.mem_cons_self ..)).trans heq
      simpa [looked, hdot, hup, hlong, hhead] using
        ih fun location hmem => h location (List.mem_cons_of_mem _ hmem)
  | case6 here part rest hdot hup hlong heq =>
      have hhead : other.find? (part :: here) ≠ some .directory := by
        rw [h _ (List.mem_cons_self ..)]
        exact heq
      simp [looked, hdot, hup, hlong]

theorem walkLooked_congr (followLast : Bool) (links : Nat)
    (h : ∀ location ∈ fs.walkLooked followLast links here parts,
      other.find? location = fs.find? location) :
    other.walkLooked followLast links here parts = fs.walkLooked followLast links here parts := by
  induction links generalizing here parts with
  | zero => exact looked_congr h
  | succ links ih =>
      rw [walkLooked] at h
      have hlooked : ∀ location ∈ fs.looked here parts, other.find? location = fs.find? location :=
        fun location hmem => h location (List.mem_append_left _ hmem)
      rw [walkLooked, walkLooked, looked_congr hlooked, advance_congr followLast hlooked]
      congr 1
      split
      · next hadvance =>
          rw [hadvance] at h
          exact ih fun location hmem => h location (List.mem_append_right _ hmem)
      · rfl

/-- Where a path leads does not change with entries that are not on its way. -/
theorem locate_congr (h : ∀ location ∈ fs.way path, other.find? location = fs.find? location) :
    other.locate path = fs.locate path := by
  unfold locate place
  rw [walk_congr true maximalLinks (fun location hmem => h location (List.mem_append_left _ hmem))]

/-- Neither does its way itself. -/
theorem way_congr (h : ∀ location ∈ fs.way path, other.find? location = fs.find? location) :
    other.way path = fs.way path := by
  unfold way
  rw [walkLooked_congr true maximalLinks
    (fun location hmem => h location (List.mem_append_left _ hmem)), locate_congr h]

/-! ## Directories that a walk reaches -/

/-- A location at and above which all locations hold directories. -/
def Rooted (fs : FileSystem) (location : Location) : Prop :=
  ∀ outer, outer <:+ location → fs.find? outer = some .directory

theorem Rooted.find?_eq (h : fs.Rooted location) : fs.find? location = some .directory :=
  h location (List.suffix_refl _)

theorem rooted_nil (fs : FileSystem) : fs.Rooted [] := by
  intro outer houter
  rw [List.suffix_nil.1 houter]
  simp [find?]

theorem Rooted.tail (h : fs.Rooted location) : fs.Rooted location.tail :=
  fun outer houter => h outer (houter.trans (List.tail_suffix _))

theorem Rooted.cons {name : String} (h : fs.Rooted location)
    (hname : fs.find? (name :: location) = some .directory) : fs.Rooted (name :: location) := by
  intro outer houter
  rcases List.suffix_cons_iff.1 houter with rfl | houter
  · exact hname
  · exact h outer houter

theorem Rooted.linkStart (h : fs.Rooted location) (target : String) :
    fs.Rooted (linkStart location target) := by
  unfold FileSystem.linkStart
  split
  · exact rooted_nil fs
  · exact h

/-- A place tells what a walk found there: an entry, which is no link if links are followed to the
    end, or nothing. -/
def Finds (fs : FileSystem) (followLast : Bool) : Place → Prop
  | .present location =>
    fs.find? location ≠ none ∧
      (followLast = true → ∀ target, fs.find? location ≠ some (.link target))
  | .vacant directory name => fs.find? (name :: directory) = none

theorem finds_of_advance {followLast : Bool} {place : Place} (hroot : fs.Rooted here)
    (h : fs.advance followLast here parts = .ended place) : fs.Finds followLast place := by
  fun_induction FileSystem.advance fs followLast here parts with
  | case1 here =>
      cases h
      simp [Finds, hroot.find?_eq]
  | case2 here part rest hdot ih => exact ih hroot h
  | case3 here rest hdot ih => exact ih hroot.tail h
  | case5 here part hdot hup hlong heq =>
      cases h
      exact heq
  | case7 here part hdot hup hlong file heq =>
      cases h
      simp [Finds, heq]
  | case9 here part rest hdot hup hlong heq ih => exact ih (hroot.cons heq) h
  | case10 here part rest hdot hup hlong target heq hlast =>
      cases h
      simp [Finds, heq, hlast.2]
  | _ => cases h

theorem rooted_of_advance_link {followLast : Bool} {directory : Location} {target : String}
    {rest : List String} (hroot : fs.Rooted here)
    (h : fs.advance followLast here parts = .link directory target rest) :
    fs.Rooted directory := by
  fun_induction FileSystem.advance fs followLast here parts with
  | case2 here part rest hdot ih => exact ih hroot h
  | case3 here rest hdot ih => exact ih hroot.tail h
  | case9 here part rest hdot hup hlong heq ih => exact ih (hroot.cons heq) h
  | case11 here part rest hdot hup hlong text heq hlast =>
      cases h
      exact hroot
  | _ => cases h

theorem finds_of_walk {followLast : Bool} {links : Nat} {place : Place} (hroot : fs.Rooted here)
    (h : fs.walk followLast links here parts = .ok place) : fs.Finds followLast place := by
  replace h := walks_iff.2 h
  induction h with
  | ended hadvance => exact finds_of_advance hroot hadvance
  -- a link is met in a directory, and its target starts in that one or at the root
  | link hadvance _ ih => exact ih ((rooted_of_advance_link hroot hadvance).linkStart _)

/-- What stands at the place to which a path leads. -/
theorem finds_of_place {followLast : Bool} {place : Place}
    (h : fs.place followLast path = .ok place) : fs.Finds followLast place := by
  unfold FileSystem.place at h
  split at h
  · cases h
  · exact finds_of_walk (rooted_nil fs) h

theorem find?_ne_none_of_place {followLast : Bool}
    (h : fs.place followLast path = .ok (.present location)) : fs.find? location ≠ none :=
  (finds_of_place h).1

theorem find?_of_vacant {followLast : Bool} {directory : Location} {name : String}
    (h : fs.place followLast path = .ok (.vacant directory name)) :
    fs.find? (name :: directory) = none :=
  finds_of_place h

theorem find?_ne_link_of_locate (h : fs.locate path = .ok (.present location))
    (target : String) : fs.find? location ≠ some (.link target) :=
  (finds_of_place h).2 rfl target

/-! ## The entries on a way -/

/-- The entry at a location is a directory or a link, so that paths can lead on from there. -/
def RouteAt (fs : FileSystem) (location : Location) : Prop :=
  ∃ entry, fs.find? location = some entry ∧ entry.isFile = false

instance (fs : FileSystem) (location : Location) : Decidable (fs.RouteAt location) :=
  inferInstanceAs (Decidable (∃ entry ∈ fs.find? location, entry.isFile = false))

theorem eq_or_routeAt_of_mem_looked (followLast : Bool) {target : Location}
    (hend : ∀ place, fs.advance followLast here parts = .ended place → place = .present target)
    (hrefused : ∀ refusal, fs.advance followLast here parts ≠ .refused refusal)
    (hmem : location ∈ fs.looked here parts) : location = target ∨ fs.RouteAt location := by
  fun_induction FileSystem.looked fs here parts with
  | case1 => cases hmem
  | case2 here part rest hdot ih =>
      exact ih (by simpa [advance, hdot] using hend) (by simpa [advance, hdot] using hrefused) hmem
  | case3 here rest hdot ih =>
      exact ih (by simpa [advance] using hend) (by simpa [advance] using hrefused) hmem
  | case4 here part rest hdot hup hlong => cases hmem
  | case5 here part rest hdot hup hlong heq ih =>
      rcases List.mem_cons.1 hmem with rfl | hmem
      · exact .inr ⟨_, heq, rfl⟩
      · exact ih (by simpa [advance, hdot, hup, hlong, heq] using hend)
          (by simpa [advance, hdot, hup, hlong, heq] using hrefused) hmem
  | case6 here part rest hdot hup hlong hdirectory =>
      obtain rfl := List.mem_singleton.1 hmem
      -- a walk does not end at a free name here, and passes no file
      cases hfind : fs.find? (part :: here) with
      | none =>
          by_cases hrest : rest = [] <;>
            simp [advance, hdot, hup, hlong, hfind, hrest] at hend hrefused
      | some entry =>
          cases entry with
          | file file =>
              by_cases hrest : rest = []
              · left
                simpa [advance, hdot, hup, hlong, hfind, hrest] using hend
              · simp [advance, hdot, hup, hlong, hfind, hrest] at hrefused
          | directory => exact absurd hfind hdirectory
          | link text => exact .inr ⟨_, hfind, rfl⟩

theorem eq_or_routeAt_of_mem_walkLooked {followLast : Bool} {links : Nat} {target : Location}
    (hwalk : fs.walk followLast links here parts = .ok (.present target))
    (hmem : location ∈ fs.walkLooked followLast links here parts) :
    location = target ∨ fs.RouteAt location := by
  replace hwalk := walks_iff.2 hwalk
  induction hwalk with
  | ended hadvance =>
      rw [walkLooked_of_ended hadvance] at hmem
      exact eq_or_routeAt_of_mem_looked followLast (by simp [hadvance]) (by simp [hadvance]) hmem
  | link hadvance _ ih =>
      rw [walkLooked, hadvance] at hmem
      rcases List.mem_append.1 hmem with hmem | hmem
      · exact eq_or_routeAt_of_mem_looked followLast (by simp [hadvance]) (by simp [hadvance]) hmem
      · exact ih hmem

/-- If a path leads to a place, walking along it gives that place. -/
theorem walk_of_locate {place : Place} (h : fs.locate path = .ok place) :
    fs.walk true maximalLinks [] path.parts = .ok place := by
  unfold locate FileSystem.place at h
  split at h
  · cases h
  · exact h

/-- On the way to an entry all entries before it are directories and links. -/
theorem eq_or_routeAt_of_mem_way {target : Location}
    (hlocate : fs.locate path = .ok (.present target)) (hmem : location ∈ fs.way path) :
    location = target ∨ fs.RouteAt location := by
  unfold way at hmem
  rw [hlocate] at hmem
  rcases List.mem_append.1 hmem with hmem | hmem
  · exact eq_or_routeAt_of_mem_walkLooked (walk_of_locate hlocate) hmem
  · exact .inl (List.mem_singleton.1 hmem)

/-- All entries on the way to an entry are there. -/
theorem find?_ne_none_of_mem_way {target : Location}
    (hlocate : fs.locate path = .ok (.present target)) (hmem : location ∈ fs.way path) :
    fs.find? location ≠ none := by
  rcases eq_or_routeAt_of_mem_way hlocate hmem with rfl | ⟨entry, hentry, -⟩
  · exact find?_ne_none_of_place hlocate
  · simp [hentry]

/-- A path leads to a location on its way. -/
theorem mem_way_of_locate (hlocate : fs.locate path = .ok (.present location)) :
    location ∈ fs.way path := by
  unfold way
  rw [hlocate]
  exact List.mem_append_right _ (List.mem_singleton.2 rfl)

/-- Nor does the entry to which a path leads change with entries that are not on its way. -/
theorem lookup?_congr (h : ∀ location ∈ fs.way path, other.find? location = fs.find? location) :
    other.lookup? path = fs.lookup? path := by
  unfold lookup?
  rw [locate_congr h]
  split
  · next location hlocate => exact h location (mem_way_of_locate hlocate)
  · rfl

end JuliaNative.FileSystem
