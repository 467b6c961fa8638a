import JuliaNative.Proofs.Action

set_option autoImplicit false

/-! # What actions print

Printing only adds: whatever an action does and whichever way it ends, what was printed before stays.
`PrintsUnless hushed action` says so, and that the action adds nothing if it is hushed: each of its
texts is asked for, and then none is. Sequences, choices and loops print only as their parts do, so it
is shown along the text of an action. Diagnostics are another output and do not count. -/

namespace JuliaNative

/-! ## Worlds -/

/-- What a run did to the printed texts: those that were there stay, and no other comes after them if it
    was hushed. -/
structure World.PrintedUnless (hushed : Prop) (world after : World) : Prop where
  stays : world.printed <+: after.printed
  nothing : hushed → after.printed = world.printed

namespace World

@[simp] theorem printed_saidIf (world : World) (wanted : Bool) (text : String) :
    (world.saidIf wanted text).printed =
      world.printed ++ (if wanted then [text] else []) := by
  unfold saidIf; split <;> simp

@[simp] theorem printed_noted (world : World) (level : Level) (text : String) :
    (world.noted level text).printed = world.printed := by
  unfold noted; split <;> rfl

@[simp] theorem printed_remembered (world : World) (event : Event) :
    (world.remembered event).printed = world.printed := rfl

@[simp] theorem printed_withFiles (world : World) (files : FileSystem) :
    (world.withFiles files).printed = world.printed := rfl

@[simp] theorem printed_ticked (world : World) : world.ticked.printed = world.printed := by
  unfold ticked; split <;> rfl

namespace PrintedUnless

variable {hushed : Prop} {world after last : World}

theorem of_eq (h : after.printed = world.printed) : world.PrintedUnless hushed after :=
  ⟨h ▸ List.prefix_refl _, fun _ => h⟩

theorem trans (h : world.PrintedUnless hushed after) (hlast : after.PrintedUnless hushed last) :
    world.PrintedUnless hushed last :=
  ⟨h.stays.trans hlast.stays, fun hhushed => (hlast.nothing hhushed).trans (h.nothing hhushed)⟩

theorem saidIf {wanted : Bool} (h : hushed → wanted = false) (text : String) :
    world.PrintedUnless hushed (world.saidIf wanted text) where
  stays := by simp
  nothing hhushed := by simp [h hhushed]

end PrintedUnless
end World

namespace Action

variable {α β ε : Type} {hushed : Prop}

/-- An action only adds to what was printed, and prints nothing if it is hushed. -/
def PrintsUnless (hushed : Prop) (action : Action α) : Prop :=
  ∀ host world, Ends host action world (fun _ after => world.PrintedUnless hushed after)
    (fun _ after => world.PrintedUnless hushed after)

namespace PrintsUnless

/-! ## Building blocks -/

theorem pure (value : α) : PrintsUnless hushed (pure value : Action α) :=
  fun _ _ => .of_eq rfl

theorem throw (failure : Failure) : PrintsUnless hushed (throw failure : Action α) :=
  fun _ _ => .of_eq rfl

theorem read : PrintsUnless hushed read :=
  fun _ _ => .of_eq rfl

theorem files : PrintsUnless hushed Action.files :=
  fun _ _ => .of_eq rfl

theorem setFiles (files : FileSystem) : PrintsUnless hushed (setFiles files) :=
  fun _ world => (ends_setFiles files).2 (.of_eq (world.printed_withFiles files))

theorem remember (event : Event) : PrintsUnless hushed (remember event) :=
  fun _ world => (ends_remember event).2 (.of_eq (world.printed_remembered event))

theorem note (level : Level) (text : String) : PrintsUnless hushed (note level text) :=
  fun _ world => (ends_note level text).2 (.of_eq (world.printed_noted level text))

theorem now : PrintsUnless hushed now :=
  fun _ world => ends_now.2 (.of_eq world.printed_ticked)

theorem sayIf {wanted : Bool} (h : hushed → wanted = false) (text : String) :
    PrintsUnless hushed (sayIf wanted text) :=
  fun _ _ => (ends_sayIf wanted text).2 (.saidIf h text)

theorem say (h : ¬ hushed) (text : String) : PrintsUnless hushed (say text) :=
  fun _ _ => (ends_say text).2 (.saidIf (fun hhushed => absurd hhushed h) text)

theorem bind {action : Action β} {next : β → Action α} (h : PrintsUnless hushed action)
    (hnext : ∀ value, PrintsUnless hushed (next value)) : PrintsUnless hushed (action >>= next) := by
  intro host world
  rw [ends_bind]
  refine (h host world).imp (fun value mid hmid => ?_) fun _ _ hfailing => hfailing
  exact (hnext value host mid).imp (fun _ _ => hmid.trans) fun _ _ => hmid.trans

theorem ite {wanted : Prop} [Decidable wanted] {first second : Action α}
    (hfirst : PrintsUnless hushed first) (hsecond : PrintsUnless hushed second) :
    PrintsUnless hushed (if wanted then first else second) := by
  split
  · exact hfirst
  · exact hsecond

theorem discard {action : Action β} (h : PrintsUnless hushed action) :
    PrintsUnless hushed (discard action) :=
  fun host world => (ends_discard action).2 (h host world)

theorem ofExcept (failure : ε → Failure) (value : Except ε α) :
    PrintsUnless hushed (ofExcept failure value) := by
  cases value with
  | ok result => exact .pure result
  | error fault => exact .throw (failure fault)

/-! ## Loops -/

variable {elements : List β}

theorem forM {body : β → Action PUnit} (h : ∀ element, PrintsUnless hushed (body element)) :
    PrintsUnless hushed (elements.forM body) := by
  induction elements with
  | nil => exact .pure _
  | cons element rest ih => exact (h element).bind fun _ => ih

theorem mapM {body : β → Action α} (h : ∀ element, PrintsUnless hushed (body element)) :
    PrintsUnless hushed (elements.mapM body) := by
  induction elements with
  | nil => exact .pure _
  | cons element rest ih =>
      rw [List.mapM_cons]
      exact (h element).bind fun _ => ih.bind fun _ => .pure _

theorem filterM {test : β → Action Bool} (h : ∀ element, PrintsUnless hushed (test element)) :
    PrintsUnless hushed (elements.filterM test) := by
  suffices hgen : ∀ selected, PrintsUnless hushed (elements.filterAuxM test selected) from
    (hgen []).bind fun _ => .pure _
  induction elements with
  | nil => exact fun selected => .pure selected
  | cons element rest ih =>
      intro selected
      rw [List.filterAuxM]
      exact (h element).bind fun _ => ih _

/-! ## Looking at files -/

theorem absolute (path : Path) : PrintsUnless hushed (absolute path) :=
  .bind .read fun _ => .pure _

theorem lookup (path : Path) : PrintsUnless hushed (lookup path) := by
  refine .bind (.absolute path) fun location => .bind .files fun current => .ite (.pure _) ?_
  split
  · exact .throw _
  · exact .pure _

theorem has (path : Path) : PrintsUnless hushed (has path) :=
  .bind (.lookup path) fun _ => .pure _

theorem isFile (path : Path) : PrintsUnless hushed (isFile path) :=
  .bind (.lookup path) fun _ => .pure _

theorem isDirectory (path : Path) : PrintsUnless hushed (isDirectory path) :=
  .bind (.lookup path) fun _ => .pure _

theorem refuseNull (path : Path) : PrintsUnless hushed (refuseNull path) :=
  .ite (.throw _) (.pure _)

end PrintsUnless

end Action
end JuliaNative
