import JuliaNative.Proofs.Launches

set_option autoImplicit false

/-! # Actions that do the same work

`Matches` relates the ends of two runs: either both return, or both fail in the same way. It is shown
along the texts of both actions at once. What an action does depends on the files alone, and not on
what was printed, noted or asked before, on what the clock shows, or on whether it reports its steps:
this is said once, for all actions that are built from the same steps (`SameWork`), by induction on how
they are built. So from worlds with the same files they end in the same way, with the same files and
after the same events (`SameWork.matches`), they fail only as their steps do, and if none of their steps
runs a command they start none (`SameWork.ends`). -/

namespace JuliaNative

/-! ## Worlds in two runs -/

/-- Two runs that began in given worlds have come equally far: to the same files and by the same
    events. Neither has read the clock. -/
structure World.AlikeSince (start start' world world' : World) : Prop where
  files : world.files = world'.files
  events : ∃ more, world.events = start.events ++ more ∧ world'.events = start'.events ++ more
  clock : world.clock = start.clock ∧ world'.clock = start'.clock

namespace World

@[simp] theorem clock_saidIf (world : World) (wanted : Bool) (text : String) :
    (world.saidIf wanted text).clock = world.clock := by
  unfold saidIf; split <;> rfl

@[simp] theorem clock_noted (world : World) (level : Level) (text : String) :
    (world.noted level text).clock = world.clock := by
  unfold noted; split <;> rfl

@[simp] theorem clock_remembered (world : World) (event : Event) :
    (world.remembered event).clock = world.clock := rfl

@[simp] theorem clock_withFiles (world : World) (files : FileSystem) :
    (world.withFiles files).clock = world.clock := rfl

namespace AlikeSince

variable {start start' world world' : World}

theorem refl {world world' : World} (h : world.files = world'.files) :
    world.AlikeSince world' world world' :=
  ⟨h, ⟨[], by simp⟩, rfl, rfl⟩

theorem said (h : start.AlikeSince start' world world') (wanted wanted' : Bool)
    (text text' : String) :
    start.AlikeSince start' (world.saidIf wanted text) (world'.saidIf wanted' text') :=
  ⟨by simpa using h.files, by simpa using h.events, by simpa using h.clock⟩

theorem noted (h : start.AlikeSince start' world world') (level level' : Level)
    (text text' : String) :
    start.AlikeSince start' (world.noted level text) (world'.noted level' text') :=
  ⟨by simpa using h.files, by simpa using h.events, by simpa using h.clock⟩

theorem remembered (h : start.AlikeSince start' world world') (event : Event) :
    start.AlikeSince start' (world.remembered event) (world'.remembered event) := by
  obtain ⟨hfiles, ⟨more, hevents, hevents'⟩, hclock⟩ := h
  exact ⟨hfiles, ⟨more ++ [event], by simp [hevents], by simp [hevents']⟩, hclock⟩

theorem withFiles (h : start.AlikeSince start' world world') (files : FileSystem) :
    start.AlikeSince start' (world.withFiles files) (world'.withFiles files) :=
  ⟨rfl, by simpa using h.events, by simpa using h.clock⟩

end AlikeSince
end World

namespace Action

variable {α β γ δ ε : Type} {host : Host}

/-! ## Two runs at once -/

/-- Two actions that are run from related worlds end in the same way: both return, or both fail, and
    with the same failure. -/
def Matches (host : Host) (before : World → World → Prop) (post : α → β → World → World → Prop)
    (failing : Failure → World → World → Prop) (first : Action α) (second : Action β) : Prop :=
  ∀ world world', before world world' →
    match first.runOn host world, second.runOn host world' with
    | (.ok value, after), (.ok value', after') => post value value' after after'
    | (.error failure, after), (.error failure', after') =>
      failure' = failure ∧ failing failure after after'
    | _, _ => False

variable {before : World → World → Prop} {failing : Failure → World → World → Prop}

/-- Two runs match if the second ends as the end of the first asks for. -/
theorem matches_of_ends {first : Action α} {second : Action β} {post : α → β → World → World → Prop}
    (h : ∀ world world', before world world' →
      Ends host first world
        (fun value after => Ends host second world'
          (fun value' after' => post value value' after after') (fun _ _ => False))
        (fun failure after => Ends host second world' (fun _ _ => False)
          (fun failure' after' => failure' = failure ∧ failing failure after after'))) :
    Matches host before post failing first second := by
  intro world world' hbefore
  have hends := h world world' hbefore
  unfold Ends at hends
  split at hends
  · next heq =>
      split at hends
      · next heq' => rw [heq, heq']; exact hends
      · exact hends.elim
  · next heq =>
      split at hends
      · exact hends.elim
      · next heq' => rw [heq, heq']; exact hends

theorem matches_pure {value : α} {value' : β} {post : α → β → World → World → Prop}
    (h : ∀ world world', before world world' → post value value' world world') :
    Matches host before post failing (pure value) (pure value') :=
  fun _ _ hbefore => h _ _ hbefore

theorem Matches.bind {first : Action α} {second : Action β} {next : α → Action γ}
    {next' : β → Action δ} {mid : α → β → World → World → Prop}
    {post : γ → δ → World → World → Prop} (hfirst : Matches host before mid failing first second)
    (hnext : ∀ value value', Matches host (mid value value') post failing (next value) (next' value')) :
    Matches host before post failing (first >>= next) (second >>= next') := by
  intro world world' hbefore
  have hmatch := hfirst world world' hbefore
  rw [runOn_bind, runOn_bind]
  split at hmatch
  · next heq heq' =>
      rw [heq, heq']
      exact hnext _ _ _ _ hmatch
  · next heq heq' =>
      rw [heq, heq']
      exact hmatch
  · exact hmatch.elim

theorem Matches.imp {first : Action α} {second : Action β} {before' : World → World → Prop}
    {post post' : α → β → World → World → Prop} {failing' : Failure → World → World → Prop}
    (h : Matches host before post failing first second)
    (hbefore : ∀ world world', before' world world' → before world world')
    (hpost : ∀ value value' after after', post value value' after after' →
      post' value value' after after')
    (hfailing : ∀ failure after after', failing failure after after' →
      failing' failure after after') :
    Matches host before' post' failing' first second := by
  intro world world' hworlds
  have hmatch := h world world' (hbefore _ _ hworlds)
  split at hmatch
  · exact hpost _ _ _ _ hmatch
  · exact ⟨hmatch.1, hfailing _ _ _ hmatch.2⟩
  · exact hmatch.elim

/-- Runs match whose values are mapped, if they match for what the values are mapped to. -/
theorem Matches.of_map {first : Action α} {second : Action β} {f : α → γ} {g : β → δ}
    {post : γ → δ → World → World → Prop}
    (h : Matches host before post failing (f <$> first) (g <$> second)) :
    Matches host before (fun value value' after after' => post (f value) (g value') after after')
      failing first second := by
  intro world world' hworlds
  have hmatch := h world world' hworlds
  rw [map_eq_pure_bind, map_eq_pure_bind, runOn_bind, runOn_bind] at hmatch
  revert hmatch
  rcases first.runOn host world with ⟨_ | _, _⟩ <;>
    rcases second.runOn host world' with ⟨_ | _, _⟩ <;> exact id

/-- What is known of the first of two runs that match, is known of both. -/
theorem Matches.and_ends {first : Action α} {second : Action β} {post : α → β → World → World → Prop}
    {known : α → World → Prop} {knownOfFailure : Failure → World → Prop}
    (h : Matches host before post failing first second)
    (hends : ∀ world world', before world world' → Ends host first world known knownOfFailure) :
    Matches host before (fun value value' after after' => post value value' after after' ∧ known value after)
      (fun failure after after' => failing failure after after' ∧ knownOfFailure failure after)
      first second := by
  intro world world' hworlds
  have hmatch := h world world' hworlds
  have hknown := hends world world' hworlds
  unfold Ends at hknown
  split at hmatch
  · next heq heq' =>
      rw [heq] at hknown
      exact ⟨hmatch, hknown⟩
  · next heq heq' =>
      rw [heq] at hknown
      exact ⟨hmatch.1, hmatch.2, hknown⟩
  · exact hmatch.elim

/-- If the first of two runs that match returns, so does the second. -/
theorem Matches.returns {first : Action α} {second : Action β} {world world' after : World}
    {value : α} {post : α → β → World → World → Prop}
    (h : Matches host before post failing first second) (hbefore : before world world')
    (hreturns : Returns host first world value after) :
    ∃ value' after', Returns host second world' value' after' ∧ post value value' after after' := by
  have hmatch := h world world' hbefore
  rw [hreturns] at hmatch
  split at hmatch
  · next heq heq' =>
      cases heq
      exact ⟨_, _, heq', hmatch⟩
  · next heq _ => cases heq
  · exact hmatch.elim

/-! ## The same steps -/

/-- Two actions do the same work: they are built alike from the same steps, which may differ in what
    they print and note. `running` tells whether commands of stages may be started, and `fails` how the
    steps may fail. -/
inductive SameWork (running : Bool) (fails : Failure → Prop) :
    {α : Type} → Action α → Action α → Prop
  | pure {α : Type} (value : α) : SameWork running fails (pure value) (pure value)
  | throw {α : Type} {failure : Failure} (h : fails failure) :
    SameWork running fails (throw failure : Action α) (throw failure)
  | read : SameWork running fails read read
  | files : SameWork running fails Action.files Action.files
  | setFiles (files : FileSystem) : SameWork running fails (setFiles files) (setFiles files)
  | sayIf (wanted wanted' : Bool) (text text' : String) :
    SameWork running fails (sayIf wanted text) (sayIf wanted' text')
  | note (level level' : Level) (text text' : String) :
    SameWork running fails (note level text) (note level' text')
  | remember {event : Event} (h : running = false → event.launch? = none) :
    SameWork running fails (remember event) (remember event)
  | bind {α β : Type} {first second : Action β} {next next' : β → Action α}
    (h : SameWork running fails first second)
    (hnext : ∀ value, SameWork running fails (next value) (next' value)) :
    SameWork running fails (first >>= next) (second >>= next')

variable {running : Bool} {fails : Failure → Prop} {first second : Action α}

/-- From worlds with the same files two actions that do the same work end in the same way, with the
    same files and after the same events. -/
theorem SameWork.matches (h : SameWork running fails first second) (start start' : World) :
    Matches host (start.AlikeSince start')
      (fun value value' after after' => value' = value ∧ start.AlikeSince start' after after')
      (fun _ => start.AlikeSince start') first second := by
  induction h with
  | pure value => exact matches_pure fun _ _ halike => ⟨rfl, halike⟩
  | throw _ => exact fun _ _ halike => ⟨rfl, halike⟩
  | read => exact fun _ _ halike => ⟨rfl, halike⟩
  | files => exact fun _ _ halike => ⟨halike.files.symm, halike⟩
  | setFiles files => exact fun _ _ halike => ⟨rfl, halike.withFiles files⟩
  | sayIf wanted wanted' text text' =>
      refine matches_of_ends fun world world' halike => ?_
      simpa using halike.said wanted wanted' text text'
  | note level level' text text' => exact fun _ _ halike => ⟨rfl, halike.noted level level' text text'⟩
  | remember _ => exact fun _ _ halike => ⟨rfl, halike.remembered _⟩
  | bind _ _ ih ihnext =>
      refine ih.bind fun value value' => ?_
      rintro world world' ⟨rfl, halike⟩
      exact ihnext _ world world' halike

/-- An action fails only as its steps do, and makes no launch if none of its steps does. -/
theorem SameWork.ends (h : SameWork running fails first second) (world : World) :
    Ends host first world (fun _ after => running = false → after.launches = world.launches)
      (fun failure after => fails failure ∧ (running = false → after.launches = world.launches)) := by
  induction h generalizing world with
  | pure value => exact fun _ => rfl
  | throw hfails => exact ⟨hfails, fun _ => rfl⟩
  | read => exact fun _ => rfl
  | files => exact fun _ => rfl
  | setFiles files => exact fun _ => rfl
  | sayIf wanted wanted' text text' => simp
  | note level level' text text' => simp
  | remember hevent =>
      simp only [ends_remember, World.launches_remembered]
      intro hrunning
      simp [hevent hrunning]
  | bind _ _ ih ihnext =>
      refine (ih world).bind fun value mid hmid => ?_
      refine (ihnext value mid).imp (fun _ _ hafter hrunning => ?_) (fun _ _ hafter => ?_)
      · rw [hafter hrunning, hmid hrunning]
      · exact ⟨hafter.1, fun hrunning => by rw [hafter.2 hrunning, hmid hrunning]⟩

/-- An action none of whose steps starts a command makes no launch. -/
theorem SameWork.starts (h : SameWork false fails first second) :
    Starts host first [] (fun _ => True) := by
  intro world
  refine (h.ends world).imp ?_ ?_
  · intro value after hafter
    exact ⟨trivial, by rw [hafter rfl, List.append_nil]⟩
  · intro failure after hafter
    exact ⟨[], List.prefix_refl _, by rw [hafter.2 rfl, List.append_nil]⟩

/-! ## Building blocks -/

namespace SameWork

/-- What starts no command may stand where commands are started, and what fails in few ways where there
    are more. -/
theorem mono {running' : Bool} {fails' : Failure → Prop} {first second : Action α}
    (h : SameWork running fails first second) (hrunning : running' = false → running = false)
    (hfails : ∀ failure, fails failure → fails' failure) : SameWork running' fails' first second := by
  induction h with
  | pure value => exact .pure value
  | throw h => exact .throw (hfails _ h)
  | read => exact .read
  | files => exact .files
  | setFiles files => exact .setFiles files
  | sayIf wanted wanted' text text' => exact .sayIf wanted wanted' text text'
  | note level level' text text' => exact .note level level' text text'
  | remember h => exact .remember fun hrun => h (hrunning hrun)
  | bind _ _ ih ihnext => exact .bind ih ihnext

theorem ite {wanted : Prop} [Decidable wanted] {first first' second second' : Action α}
    (hfirst : wanted → SameWork running fails first first')
    (hsecond : ¬ wanted → SameWork running fails second second') :
    SameWork running fails (if wanted then first else second)
      (if wanted then first' else second') := by
  split
  · next h => exact hfirst h
  · next h => exact hsecond h

theorem map {first second : Action β} (f : β → α) (h : SameWork running fails first second) :
    SameWork running fails (f <$> first) (f <$> second) := by
  rw [map_eq_pure_bind, map_eq_pure_bind]
  exact h.bind fun value => .pure (f value)

theorem discard {first second : Action β} (h : SameWork running fails first second) :
    SameWork running fails (discard first) (discard second) :=
  h.map _

theorem ofExcept {failure : ε → Failure} {value : Except ε α}
    (h : ∀ fault, fails (failure fault)) :
    SameWork running fails (ofExcept failure value) (ofExcept failure value) := by
  cases value with
  | ok result => exact .pure result
  | error fault => exact .throw (h fault)

/-- What comes after a computation without effects only has to be looked at for the value that it has. -/
theorem ofExcept_bind {failure : ε → Failure} {value : Except ε β} {next next' : β → Action α}
    (h : ∀ fault, fails (failure fault))
    (hnext : ∀ result, value = .ok result → SameWork running fails (next result) (next' result)) :
    SameWork running fails (Action.ofExcept failure value >>= next)
      (Action.ofExcept failure value >>= next') := by
  cases value with
  | ok result => exact hnext result rfl
  | error fault => exact .throw (h fault)

/-! ### Loops -/

variable {elements : List β}

theorem forM {body body' : β → Action PUnit}
    (h : ∀ element, SameWork running fails (body element) (body' element)) :
    SameWork running fails (elements.forM body) (elements.forM body') := by
  induction elements with
  | nil => exact .pure _
  | cons element rest ih => exact (h element).bind fun _ => ih

theorem mapM {body body' : β → Action α}
    (h : ∀ element, SameWork running fails (body element) (body' element)) :
    SameWork running fails (elements.mapM body) (elements.mapM body') := by
  induction elements with
  | nil => exact .pure _
  | cons element rest ih =>
      rw [List.mapM_cons, List.mapM_cons]
      exact (h element).bind fun _ => ih.bind fun _ => .pure _

theorem filterM {test test' : β → Action Bool}
    (h : ∀ element, SameWork running fails (test element) (test' element)) :
    SameWork running fails (elements.filterM test) (elements.filterM test') := by
  suffices hgen : ∀ selected,
      SameWork running fails (elements.filterAuxM test selected)
        (elements.filterAuxM test' selected) from
    (hgen []).bind fun _ => .pure _
  induction elements with
  | nil => exact fun selected => .pure selected
  | cons element rest ih =>
      intro selected
      rw [List.filterAuxM, List.filterAuxM]
      exact (h element).bind fun wanted => ih _

end SameWork

end Action
end JuliaNative
