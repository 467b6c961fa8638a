import JuliaNative.Proofs.FileSystem.Way

set_option autoImplicit false

/-! # Where paths lead in two file systems

Paths go along directories and links, and files only matter where they end. So a walk carries over to
a file system with more routes: directories and links may be added there, and whatever stands
elsewhere may differ, without changing to which entry a path leads (`place_of_routesIn`). Between file
systems with the same routes, which differ by files only, the location at which a path ends is the
same, whether there is something or not (`target?_congr`). -/

namespace JuliaNative

/-- The location of a place, whether something is there or not. -/
def Place.location : Place → Location
  | .present location => location
  | .vacant directory name => name :: directory

namespace FileSystem

variable {fs other third : FileSystem} {here location : Location} {parts : List String} {path : Path}

/-! ## More routes -/

/-- Every directory and every link of one file system is one of another: the first leads nowhere
    where the second does not. -/
def RoutesIn (fs other : FileSystem) : Prop :=
  ∀ location entry, fs.find? location = some entry → entry.isFile = false →
    other.find? location = some entry

theorem RoutesIn.refl (fs : FileSystem) : fs.RoutesIn fs :=
  fun _ _ h _ => h

theorem RoutesIn.trans (hfirst : fs.RoutesIn other)
    (hsecond : other.RoutesIn third) : fs.RoutesIn third :=
  fun location entry h hroute => hsecond location entry (hfirst location entry h hroute) hroute

theorem advance_ended_of_routesIn {followLast : Bool} (hroutes : fs.RoutesIn other)
    (h : fs.advance followLast here parts = .ended (.present location))
    (hend : other.find? location = fs.find? location) :
    other.advance followLast here parts = .ended (.present location) := by
  fun_induction FileSystem.advance fs followLast here parts with
  | case1 here => exact h
  | case2 here part rest hdot ih => simpa [advance, hdot] using ih h
  | case3 here rest hdot ih => simpa [advance] using ih h
  | case7 here part hdot hup hlong file heq =>
      -- a walk comes to a file only at its end, where both agree
      cases h
      simp [advance, hdot, hup, hlong, hend, heq]
  | case9 here part rest hdot hup hlong heq ih =>
      simpa [advance, hdot, hup, hlong, hroutes _ _ heq rfl] using ih h
  | case10 here part rest hdot hup hlong target heq hlast =>
      cases h
      simp [advance, hdot, hup, hlong, hroutes _ _ heq rfl, hlast]
  | _ => cases h

theorem advance_link_of_routesIn {followLast : Bool} {directory : Location} {target : String}
    {rest : List String} (hroutes : fs.RoutesIn other)
    (h : fs.advance followLast here parts = .link directory target rest) :
    other.advance followLast here parts = .link directory target rest := by
  fun_induction FileSystem.advance fs followLast here parts with
  | case2 here part rest hdot ih => simpa [advance, hdot] using ih h
  | case3 here rest hdot ih => simpa [advance] using ih h
  | case9 here part rest hdot hup hlong heq ih =>
      simpa [advance, hdot, hup, hlong, hroutes _ _ heq rfl] using ih h
  | case11 here part rest hdot hup hlong text heq hlast =>
      cases h
      simp [advance, hdot, hup, hlong, hroutes _ _ heq rfl, hlast]
  | _ => cases h

theorem walk_of_routesIn {followLast : Bool} {links : Nat} (hroutes : fs.RoutesIn other)
    (h : fs.walk followLast links here parts = .ok (.present location))
    (hend : other.find? location = fs.find? location) :
    other.walk followLast links here parts = .ok (.present location) := by
  rw [← walks_iff] at h ⊢
  induction h with
  | ended hadvance => exact .ended (advance_ended_of_routesIn hroutes hadvance hend)
  | link hadvance _ ih => exact .link (advance_link_of_routesIn hroutes hadvance) ih

/-- A path that leads to an entry leads there too where there are more routes. -/
theorem place_of_routesIn {followLast : Bool} (hroutes : fs.RoutesIn other)
    (h : fs.place followLast path = .ok (.present location))
    (hend : other.find? location = fs.find? location) :
    other.place followLast path = .ok (.present location) := by
  unfold place at h ⊢
  split at h
  · cases h
  · next hshort =>
      rw [if_neg hshort]
      exact walk_of_routesIn hroutes h hend

/-! ## The same routes -/

/-- Two file systems have the same directories and links. -/
structure SameRoutes (fs other : FileSystem) : Prop where
  forth : fs.RoutesIn other
  back : other.RoutesIn fs

theorem SameRoutes.refl (fs : FileSystem) : fs.SameRoutes fs :=
  ⟨.refl fs, .refl fs⟩

theorem SameRoutes.trans (hfirst : fs.SameRoutes other) (hsecond : other.SameRoutes third) :
    fs.SameRoutes third :=
  ⟨hfirst.forth.trans hsecond.forth, hsecond.back.trans hfirst.back⟩

/-- Two walks come equally far: they end at the same location, are both refused, or meet the same
    link. -/
def Advance.Alike : Advance → Advance → Prop
  | .ended place, .ended other => place.location = other.location
  | .refused _, .refused _ => True
  | .link directory target rest, other => other = .link directory target rest
  | _, _ => False

theorem advance_alike (followLast : Bool) (here : Location) (parts : List String)
    (h : fs.SameRoutes other) :
    (fs.advance followLast here parts).Alike (other.advance followLast here parts) := by
  induction parts generalizing here with
  | nil => exact rfl
  | cons part rest ih =>
      simp only [advance]
      split
      · exact ih _
      · split
        · exact ih _
        · split
          · trivial
          · -- what is no route in one is none in the other, so both walks end or are refused
            have hback := h.back (part :: here)
            cases hfind : fs.find? (part :: here) with
            | none =>
                cases hother : other.find? (part :: here) with
                | none => by_cases hrest : rest = [] <;> simp [hrest, Advance.Alike]
                | some entry =>
                    cases entry with
                    | file file =>
                        by_cases hrest : rest = [] <;> simp [hrest, Advance.Alike, Place.location]
                    | directory => cases hfind.symm.trans (hback _ hother rfl)
                    | link target => cases hfind.symm.trans (hback _ hother rfl)
            | some entry =>
                cases entry with
                | file file =>
                    cases hother : other.find? (part :: here) with
                    | none =>
                        by_cases hrest : rest = [] <;> simp [hrest, Advance.Alike, Place.location]
                    | some entry =>
                        cases entry with
                        | file file => by_cases hrest : rest = [] <;> simp [hrest, Advance.Alike]
                        | directory => cases hfind.symm.trans (hback _ hother rfl)
                        | link target => cases hfind.symm.trans (hback _ hother rfl)
                | directory =>
                    rw [h.forth _ _ hfind rfl]
                    exact ih _
                | link target =>
                    rw [h.forth _ _ hfind rfl]
                    simp only
                    split <;> exact rfl

theorem walk_location_congr {followLast : Bool} {links : Nat} (h : fs.SameRoutes other) :
    (other.walk followLast links here parts).toOption.map Place.location =
      (fs.walk followLast links here parts).toOption.map Place.location := by
  induction links generalizing here parts with
  | zero =>
      have halike := advance_alike followLast here parts h
      rw [walk_zero, walk_zero]
      revert halike
      cases fs.advance followLast here parts <;> cases other.advance followLast here parts <;>
        intro halike <;> simp_all [Advance.Alike, Except.toOption]
  | succ links ih =>
      have halike := advance_alike followLast here parts h
      rw [walk_succ, walk_succ]
      revert halike
      cases fs.advance followLast here parts <;> cases other.advance followLast here parts <;>
        intro halike <;> simp_all [Advance.Alike, Except.toOption]

/-- The location where a file is or would be that is written at a path. -/
def target? (fs : FileSystem) (path : Path) : Option Location :=
  (fs.locate path).toOption.map Place.location

theorem target?_of_locate {place : Place} (h : fs.locate path = .ok place) :
    fs.target? path = some place.location := by
  simp [target?, h, Except.toOption]

theorem exists_place_of_target? (h : fs.target? path = some location) :
    ∃ place, fs.locate path = .ok place ∧ place.location = location := by
  unfold target? at h
  cases hlocate : fs.locate path with
  | error refusal =>
      rw [hlocate] at h
      cases h
  | ok place =>
      rw [hlocate] at h
      exact ⟨place, rfl, Option.some.inj h⟩

/-- Files do not change where paths end. -/
theorem target?_congr (h : fs.SameRoutes other) : other.target? path = fs.target? path := by
  unfold target? locate place
  split
  · rfl
  · exact walk_location_congr h

/-- What is no route on the way to an entry is its end. -/
theorem target?_of_mem_way {target : Location} (hlocate : fs.locate path = .ok (.present target))
    (hmem : location ∈ fs.way path) (hroute : ¬ fs.RouteAt location) :
    fs.target? path = some location := by
  rcases eq_or_routeAt_of_mem_way hlocate hmem with rfl | h
  · exact target?_of_locate hlocate
  · exact absurd h hroute

end FileSystem
end JuliaNative
