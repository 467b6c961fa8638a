import JuliaNative.World

set_option autoImplicit false

/-! # How actions end

`Ends host action world post failing` says how an action ends that is run on a host from a world: with
a value and a world that satisfy `post`, or with a failure and a world that satisfy `failing`. For
each building block of actions there is an equivalence that computes `Ends`, so that the end of an
action is found by rewriting along its text. Loops take an invariant. -/

namespace JuliaNative

/-! ## Worlds after a step -/

/-- The command that an event started, if it is one of a stage. -/
def Event.command? : Event → Option (List String)
  | .commandStarted command _ _ => some command
  | _ => none

namespace World

/-- The world after a text was printed, if that was wanted. -/
def saidIf (world : World) (wanted : Bool) (text : String) : World :=
  if wanted then { world with printed := world.printed ++ [text] } else world

/-- The world after a diagnostic record was made. -/
def noted (world : World) (level : Level) (text : String) : World :=
  if world.threshold.rank ≤ level.rank then
    { world with diagnostics := world.diagnostics ++ [.record level text] }
  else world

/-- The world after an event. -/
def remembered (world : World) (event : Event) : World :=
  { world with events := world.events ++ [event] }

/-- The world with changed files. -/
def withFiles (world : World) (files : FileSystem) : World :=
  { world with files }

/-- The world after the clock was read. -/
def ticked (world : World) : World :=
  match world.clock with
  | _ :: second :: later => { world with clock := second :: later }
  | _ => world

/-- What the clock of a world shows. -/
def time (world : World) : Seconds :=
  world.clock.headD (.whole 0)

/-- The commands of stages that were started so far. -/
def started (world : World) : List (List String) :=
  world.events.filterMap Event.command?

@[simp] theorem files_saidIf (world : World) (wanted : Bool) (text : String) :
    (world.saidIf wanted text).files = world.files := by
  unfold saidIf; split <;> rfl

@[simp] theorem events_saidIf (world : World) (wanted : Bool) (text : String) :
    (world.saidIf wanted text).events = world.events := by
  unfold saidIf; split <;> rfl

@[simp] theorem files_noted (world : World) (level : Level) (text : String) :
    (world.noted level text).files = world.files := by
  unfold noted; split <;> rfl

@[simp] theorem events_noted (world : World) (level : Level) (text : String) :
    (world.noted level text).events = world.events := by
  unfold noted; split <;> rfl

@[simp] theorem files_remembered (world : World) (event : Event) :
    (world.remembered event).files = world.files := rfl

@[simp] theorem events_remembered (world : World) (event : Event) :
    (world.remembered event).events = world.events ++ [event] := rfl

@[simp] theorem files_withFiles (world : World) (files : FileSystem) :
    (world.withFiles files).files = files := rfl

@[simp] theorem events_withFiles (world : World) (files : FileSystem) :
    (world.withFiles files).events = world.events := rfl

@[simp] theorem files_ticked (world : World) : world.ticked.files = world.files := by
  unfold ticked; split <;> rfl

@[simp] theorem events_ticked (world : World) : world.ticked.events = world.events := by
  unfold ticked; split <;> rfl

@[simp] theorem started_saidIf (world : World) (wanted : Bool) (text : String) :
    (world.saidIf wanted text).started = world.started := by
  simp [started]

@[simp] theorem started_noted (world : World) (level : Level) (text : String) :
    (world.noted level text).started = world.started := by
  simp [started]

@[simp] theorem started_remembered (world : World) (event : Event) :
    (world.remembered event).started = world.started ++ event.command?.toList := by
  simp only [started, events_remembered, List.filterMap_append]
  cases event <;> rfl

@[simp] theorem started_withFiles (world : World) (files : FileSystem) :
    (world.withFiles files).started = world.started := rfl

@[simp] theorem started_ticked (world : World) : world.ticked.started = world.started := by
  simp [started]

end World

namespace Action

variable {α β ε : Type} {host : Host} {world : World}

/-- How an action ends that is run on a host from a world. -/
def Ends (host : Host) (action : Action α) (world : World) (post : α → World → Prop)
    (failing : Failure → World → Prop) : Prop :=
  match action.runOn host world with
  | (.ok value, after) => post value after
  | (.error failure, after) => failing failure after

variable {post : α → World → Prop} {failing : Failure → World → Prop}

theorem Ends.imp {action : Action α} {post' : α → World → Prop} {failing' : Failure → World → Prop}
    (h : Ends host action world post failing)
    (hpost : ∀ value after, post value after → post' value after)
    (hfailing : ∀ failure after, failing failure after → failing' failure after) :
    Ends host action world post' failing' := by
  unfold Ends at h ⊢
  split
  · next heq => rw [heq] at h; exact hpost _ _ h
  · next heq => rw [heq] at h; exact hfailing _ _ h

theorem Ends.trivial (host : Host) (action : Action α) (world : World) :
    Ends host action world (fun _ _ => True) (fun _ _ => True) := by
  unfold Ends
  split <;> exact .intro

/-- Two facts about the end of an action hold together. -/
theorem Ends.and {action : Action α} {post' : α → World → Prop} {failing' : Failure → World → Prop}
    (h : Ends host action world post failing) (h' : Ends host action world post' failing') :
    Ends host action world (fun value after => post value after ∧ post' value after)
      (fun failure after => failing failure after ∧ failing' failure after) := by
  unfold Ends at h h' ⊢
  split <;> next heq => rw [heq] at h h'; exact ⟨h, h'⟩

/-- Facts about the end of an action, one for each of some things, hold together. -/
theorem Ends.all {ι : Sort _} {action : Action α} {post : ι → α → World → Prop}
    {failing : ι → Failure → World → Prop}
    (h : ∀ i, Ends host action world (post i) (failing i)) :
    Ends host action world (fun value after => ∀ i, post i value after)
      (fun failure after => ∀ i, failing i failure after) := by
  unfold Ends at h ⊢
  split <;> next heq => exact fun i => by have hi := h i; rwa [heq] at hi

/-- What holds of the end of an action holds of the world that it leaves. -/
theorem Ends.after {action : Action α} {P : World → Prop}
    (h : Ends host action world (fun _ after => P after) (fun _ after => P after)) :
    P (action.runOn host world).2 := by
  unfold Ends at h
  split at h <;> next heq => rw [heq]; exact h

theorem Ends.of_ok {action : Action α} {value : α} {after : World}
    (h : Ends host action world post failing)
    (hrun : action.runOn host world = (.ok value, after)) : post value after := by
  unfold Ends at h; rwa [hrun] at h

theorem Ends.of_error {action : Action α} {failure : Failure} {after : World}
    (h : Ends host action world post failing)
    (hrun : action.runOn host world = (.error failure, after)) : failing failure after := by
  unfold Ends at h; rwa [hrun] at h

/-- The value with which an action returns that is run on a host from a world, if it returns. -/
def value? (action : Action α) (host : Host) (world : World) : Option α :=
  match action.runOn host world with
  | (.ok value, _) => some value
  | (.error _, _) => none

theorem runOn_of_value? {action : Action α} {value : α}
    (h : action.value? host world = some value) :
    action.runOn host world = (.ok value, (action.runOn host world).2) := by
  unfold value? at h
  split at h
  · next heq =>
      obtain rfl := Option.some.inj h
      rw [heq]
  · cases h

/-- The failure with which an action ends that is run on a host from a world, if it fails. -/
def failure? (action : Action α) (host : Host) (world : World) : Option Failure :=
  match action.runOn host world with
  | (.ok _, _) => none
  | (.error failure, _) => some failure

theorem runOn_of_failure? {action : Action α} {failure : Failure}
    (h : action.failure? host world = some failure) :
    action.runOn host world = (.error failure, (action.runOn host world).2) := by
  unfold failure? at h
  split at h
  · cases h
  · next heq =>
      obtain rfl := Option.some.inj h
      rw [heq]

theorem failure?_eq_some_iff_ends {action : Action α} {failure : Failure} :
    action.failure? host world = some failure ↔
      Ends host action world (fun _ _ => False) (fun other _ => other = failure) := by
  unfold failure? Ends
  split <;> simp

/-- An action fails in one way exactly under a condition if that decides how it ends. -/
theorem failure?_eq_some_iff_of_ends {action : Action α} {failure : Failure} {condition : Prop}
    (h : Ends host action world (fun _ _ => ¬ condition)
      (fun other _ => other = failure ↔ condition)) :
    action.failure? host world = some failure ↔ condition := by
  unfold failure?
  unfold Ends at h
  split at h
  · exact iff_of_false nofun h
  · exact Option.some_inj.trans h

/-! ## Building blocks -/

@[simp] theorem ends_pure (value : α) :
    Ends host (pure value) world post failing ↔ post value world := Iff.rfl

theorem runOn_bind (action : Action β) (next : β → Action α) :
    (action >>= next).runOn host world =
      match action.runOn host world with
      | (.ok value, after) => (next value).runOn host after
      | (.error failure, after) => (.error failure, after) := by
  simp only [runOn, ReaderT.run_bind, ExceptT.run_bind]
  show StateT.bind (m := Id) _ _ world = _
  unfold StateT.bind
  rcases (action.run host).run world with ⟨_ | _, _⟩ <;> rfl

@[simp] theorem ends_bind (action : Action β) (next : β → Action α) :
    Ends host (action >>= next) world post failing ↔
      Ends host action world (fun value after => Ends host (next value) after post failing)
        failing := by
  unfold Ends
  rw [runOn_bind]
  rcases action.runOn host world with ⟨_ | _, _⟩ <;> rfl

/-- A sequence ends as its rest does, from where its first step ends. -/
theorem Ends.bind {action : Action β} {next : β → Action α} {mid : β → World → Prop}
    (h : Ends host action world mid failing)
    (hnext : ∀ value after, mid value after → Ends host (next value) after post failing) :
    Ends host (action >>= next) world post failing := by
  rw [ends_bind]
  exact h.imp hnext (fun _ _ hfailing => hfailing)

@[simp] theorem ends_map (f : β → α) (action : Action β) :
    Ends host (f <$> action) world post failing ↔
      Ends host action world (fun value after => post (f value) after) failing := by
  rw [map_eq_pure_bind, ends_bind]
  rfl

@[simp] theorem ends_discard (action : Action β) {post : PUnit → World → Prop} :
    Ends host (discard action) world post failing ↔
      Ends host action world (fun _ after => post ⟨⟩ after) failing := by
  unfold discard
  exact ends_map _ _

@[simp] theorem ends_throw (failure : Failure) :
    Ends host (throw failure) world post failing ↔ failing failure world := Iff.rfl

@[simp] theorem ends_fail (error : BuildError) :
    Ends host (fail error) world post failing ↔ failing (.error error) world := Iff.rfl

@[simp] theorem ends_crash (cause : Crash) :
    Ends host (crash cause) world post failing ↔ failing (.crash cause) world := Iff.rfl

/-- What an action fails with is handled where it fails. -/
theorem ends_tryCatch (action : Action α) (handler : Failure → Action α) :
    Ends host (tryCatch action handler) world post failing ↔
      Ends host action world post
        (fun failure after => Ends host (handler failure) after post failing) := by
  have hrun : (tryCatch action handler).runOn host world =
      match action.runOn host world with
      | (.ok value, after) => (.ok value, after)
      | (.error failure, after) => (handler failure).runOn host after := by
    simp only [runOn, tryCatch, tryCatchThe, MonadExceptOf.tryCatch, ReaderT.run, ExceptT.run,
      ExceptT.tryCatch, ExceptT.mk]
    show StateT.bind (m := Id) _ _ world = _
    unfold StateT.bind
    rcases action host world with ⟨_ | _, _⟩ <;> rfl
  unfold Ends
  rw [hrun]
  rcases action.runOn host world with ⟨_ | _, _⟩ <;> rfl

@[simp] theorem ends_read {post : Host → World → Prop} :
    Ends host read world post failing ↔ post host world := Iff.rfl

@[simp] theorem ends_ite (wanted : Prop) [Decidable wanted] (first second : Action α) :
    Ends host (if wanted then first else second) world post failing ↔
      if wanted then Ends host first world post failing
      else Ends host second world post failing := by
  split <;> rfl

theorem ends_ofExcept (failure : ε → Failure) (value : Except ε α) :
    Ends host (ofExcept failure value) world post failing ↔
      match value with
      | .ok result => post result world
      | .error fault => failing (failure fault) world := by
  cases value <;> rfl

@[simp] theorem ends_ofExcept_ok (failure : ε → Failure) (value : α) :
    Ends host (ofExcept failure (.ok value)) world post failing ↔ post value world := Iff.rfl

section Unit

variable {post : Unit → World → Prop}

@[simp] theorem ends_setFiles (files : FileSystem) :
    Ends host (setFiles files) world post failing ↔ post () (world.withFiles files) := Iff.rfl

@[simp] theorem ends_say (text : String) :
    Ends host (say text) world post failing ↔ post () (world.saidIf true text) := Iff.rfl

@[simp] theorem ends_sayIf (wanted : Bool) (text : String) :
    Ends host (sayIf wanted text) world post failing ↔ post () (world.saidIf wanted text) := by
  cases wanted <;> exact Iff.rfl

@[simp] theorem ends_note (level : Level) (text : String) :
    Ends host (note level text) world post failing ↔ post () (world.noted level text) := Iff.rfl

@[simp] theorem ends_remember (event : Event) :
    Ends host (remember event) world post failing ↔ post () (world.remembered event) := Iff.rfl

@[simp] theorem ends_refuseNull (path : Path) :
    Ends host (refuseNull path) world post failing ↔
      if path.hasNull then failing (.crash .nullInPath) world else post () world := by
  unfold refuseNull
  rw [ends_ite, ends_crash, ends_pure]

end Unit

@[simp] theorem ends_files {post : FileSystem → World → Prop} :
    Ends host files world post failing ↔ post world.files world := Iff.rfl

@[simp] theorem ends_now {post : Seconds → World → Prop} :
    Ends host now world post failing ↔ post world.time world.ticked := by
  unfold Ends now World.time World.ticked
  rcases world with ⟨files, _ | ⟨first, _ | ⟨second, later⟩⟩, _, _, _, _⟩ <;> exact Iff.rfl

@[simp] theorem ends_absolute (path : Path) {post : Path → World → Prop} :
    Ends host (absolute path) world post failing ↔
      post (host.workingDirectory.join path) world := Iff.rfl

end Action

/-! ## Actions that return -/

namespace Action

variable {α β ε : Type} {host : Host} {world after : World} {value : α}

/-- An action that is run on a host from a world returns a value and leaves another world. -/
def Returns (host : Host) (action : Action α) (world : World) (value : α) (after : World) : Prop :=
  action.runOn host world = (.ok value, after)

theorem Ends.of_returns {action : Action α} {post : α → World → Prop}
    {failing : Failure → World → Prop} (h : Ends host action world post failing)
    (hreturns : Returns host action world value after) : post value after :=
  h.of_ok hreturns

/-- An action returns in one way only. -/
theorem Returns.unique {action : Action α} {other : α} {last : World}
    (h : Returns host action world value after) (hother : Returns host action world other last) :
    other = value ∧ last = after := by
  have heq : ((.ok other, last) : Except Failure α × World) = (.ok value, after) :=
    hother.symm.trans h
  cases heq
  exact ⟨rfl, rfl⟩

/-- An action ends as its run does. -/
theorem Ends.self (host : Host) (action : Action α) (world : World) :
    Ends host action world (fun value after => Returns host action world value after)
      (fun failure after => action.runOn host world = (.error failure, after)) := by
  unfold Ends Returns
  split <;> assumption

/-- An action that never fails returns. -/
theorem Ends.exists_returns {action : Action α} {post : α → World → Prop}
    (h : Ends host action world post (fun _ _ => False)) :
    ∃ value after, Returns host action world value after ∧ post value after := by
  unfold Ends at h
  split at h
  · next value after heq => exact ⟨value, after, heq, h⟩
  · exact h.elim

theorem returns_iff_ends {action : Action α} :
    Returns host action world value after ↔
      Ends host action world (fun result last => result = value ∧ last = after)
        (fun _ _ => False) := by
  unfold Returns Ends
  split
  · next heq => simp [heq]
  · next heq => simp [heq]

theorem returns_bind {action : Action β} {next : β → Action α} :
    Returns host (action >>= next) world value after ↔
      ∃ first mid, Returns host action world first mid ∧ Returns host (next first) mid value after := by
  unfold Returns
  rw [runOn_bind]
  constructor
  · intro h
    split at h
    · next first mid heq => exact ⟨first, mid, heq, h⟩
    · cases h
  · rintro ⟨first, mid, hfirst, hnext⟩
    rw [hfirst]
    exact hnext

theorem returns_pure {result : α} :
    Returns host (pure result) world value after ↔ result = value ∧ world = after := by
  rw [returns_iff_ends, ends_pure]

theorem returns_ofExcept {failure : ε → Failure} {result : Except ε α} :
    Returns host (ofExcept failure result) world value after ↔ result = .ok value ∧ world = after := by
  rw [returns_iff_ends, ends_ofExcept]
  cases result <;> simp

theorem returns_discard {action : Action β} {nothing : PUnit} :
    Returns host (discard action) world nothing after ↔
      ∃ first, Returns host action world first after := by
  rw [returns_iff_ends, ends_discard]
  unfold Returns Ends
  split
  · next heq => simp [heq]
  · next heq => simp [heq]

end Action

/-! ## Looking at files -/

/-- The entry that a build on a host finds at a path. -/
def Host.sees (host : Host) (files : FileSystem) (path : Path) : Option Entry :=
  if path.hasNull then none else files.lookup? (host.workingDirectory.join path)

/-- Whether a build on a host finds a file at a path. -/
def Host.seesFile (host : Host) (files : FileSystem) (path : Path) : Bool :=
  ((host.sees files path).map Entry.isFile).getD false

/-- Whether a build on a host finds a directory at a path. -/
def Host.seesDirectory (host : Host) (files : FileSystem) (path : Path) : Bool :=
  host.sees files path == some .directory

theorem Host.exists_file_of_seesFile {host : Host} {files : FileSystem} {path : Path}
    (h : host.seesFile files path = true) :
    ∃ file, files.lookup? (host.workingDirectory.join path) = some (.file file) := by
  unfold seesFile sees at h
  split at h
  · cases h
  · cases hlookup : files.lookup? (host.workingDirectory.join path) with
    | none =>
        rw [hlookup] at h
        cases h
    | some entry =>
        rw [hlookup] at h
        cases entry with
        | file file => exact ⟨file, rfl⟩
        | directory => cases h
        | link target => cases h

/-- Whether a path is too long for the system to look at it. -/
def Host.cannotSee (host : Host) (files : FileSystem) (path : Path) : Bool :=
  !path.hasNull &&
    match files.locate (host.workingDirectory.join path) with
    | .error .nameTooLong => true
    | _ => false

/-- There is nothing to be seen at a path that is too long to be looked at. -/
theorem Host.sees_of_cannotSee {host : Host} {files : FileSystem} {path : Path}
    (h : host.cannotSee files path = true) : host.sees files path = none := by
  unfold cannotSee at h
  unfold sees FileSystem.lookup?
  simp only [Bool.and_eq_true, Bool.not_eq_true'] at h
  obtain ⟨hnull, hlong⟩ := h
  split at hlong
  · next heq => simp [hnull, heq]
  · cases hlong

/-- There is no directory to be seen at a path that is too long to be looked at. -/
theorem Host.seesDirectory_of_cannotSee {host : Host} {files : FileSystem} {path : Path}
    (h : host.cannotSee files path = true) : host.seesDirectory files path = false := by
  rw [seesDirectory, sees_of_cannotSee h]
  rfl

/-- A path at which something is seen can be looked at. -/
theorem Host.cannotSee_of_sees {host : Host} {files : FileSystem} {path : Path} {entry : Entry}
    (h : host.sees files path = some entry) : host.cannotSee files path = false := by
  rw [← Bool.not_eq_true]
  intro hlong
  rw [sees_of_cannotSee hlong] at h
  cases h

theorem Host.cannotSee_of_seesDirectory {host : Host} {files : FileSystem} {path : Path}
    (h : host.seesDirectory files path = true) : host.cannotSee files path = false :=
  cannotSee_of_sees (eq_of_beq h)

theorem Host.cannotSee_of_seesFile {host : Host} {files : FileSystem} {path : Path}
    (h : host.seesFile files path = true) : host.cannotSee files path = false := by
  cases hsees : host.sees files path with
  | none =>
      rw [seesFile, hsees] at h
      cases h
  | some entry => exact cannotSee_of_sees hsees

/-- A path at which a directory is seen holds no null character. -/
theorem Host.hasNull_of_seesDirectory {host : Host} {files : FileSystem} {path : Path}
    (h : host.seesDirectory files path = true) : path.hasNull = false := by
  unfold seesDirectory sees at h
  split at h
  · cases h
  · next hnull => simpa using hnull

/-- A path at which a file is seen holds no null character. -/
theorem Host.hasNull_of_seesFile {host : Host} {files : FileSystem} {path : Path}
    (h : host.seesFile files path = true) : path.hasNull = false := by
  unfold seesFile sees at h
  split at h
  · cases h
  · next hnull => simpa using hnull

namespace Action

variable {α β : Type} {host : Host} {world : World} {failing : Failure → World → Prop}

theorem ends_lookup (path : Path) {post : Option Entry → World → Prop} :
    Ends host (lookup path) world post failing ↔
      if host.cannotSee world.files path then
        failing (.crash (.system (.at .nameTooLong path))) world
      else post (host.sees world.files path) world := by
  unfold lookup Host.cannotSee Host.sees
  simp only [ends_bind, ends_absolute, ends_files, ends_ite, ends_pure]
  cases hnull : path.hasNull with
  | true => simp
  | false =>
      simp only [Bool.false_eq_true, if_false, Bool.not_false, Bool.true_and]
      cases world.files.locate (host.workingDirectory.join path) with
      | error refusal => cases refusal <;> simp
      | ok place => simp

theorem ends_has (path : Path) {post : Bool → World → Prop} :
    Ends host (has path) world post failing ↔
      if host.cannotSee world.files path then
        failing (.crash (.system (.at .nameTooLong path))) world
      else post (host.sees world.files path).isSome world := by
  unfold has
  rw [ends_bind, ends_lookup]
  simp only [ends_pure]

theorem ends_isFile (path : Path) {post : Bool → World → Prop} :
    Ends host (isFile path) world post failing ↔
      if host.cannotSee world.files path then
        failing (.crash (.system (.at .nameTooLong path))) world
      else post (host.seesFile world.files path) world := by
  unfold isFile Host.seesFile
  rw [ends_bind, ends_lookup]
  simp only [ends_pure]

theorem ends_isDirectory (path : Path) {post : Bool → World → Prop} :
    Ends host (isDirectory path) world post failing ↔
      if host.cannotSee world.files path then
        failing (.crash (.system (.at .nameTooLong path))) world
      else post (host.seesDirectory world.files path) world := by
  unfold isDirectory Host.seesDirectory
  rw [ends_bind, ends_lookup]
  simp only [ends_pure]

/-! ## Loops -/

/-- A loop keeps what each of its steps keeps. -/
theorem Ends.forM {elements : List β} {body : β → Action PUnit} (keeps : World → Prop)
    (hstart : keeps world)
    (hstep : ∀ element ∈ elements, ∀ before, keeps before →
      Ends host (body element) before (fun _ after => keeps after) failing) :
    Ends host (elements.forM body) world (fun _ after => keeps after) failing := by
  induction elements generalizing world with
  | nil => exact hstart
  | cons element rest ih =>
      rw [show (element :: rest).forM body = body element >>= fun _ => rest.forM body from rfl]
      refine (hstep element (List.mem_cons_self ..) world hstart).bind fun _ after hafter => ?_
      exact ih hafter (fun other hother => hstep other (List.mem_cons_of_mem _ hother))

/-- A loop that collects results keeps what each of its steps keeps of the results so far. -/
theorem Ends.mapM {elements : List β} {body : β → Action α} (keeps : List α → World → Prop)
    (hstart : keeps [] world)
    (hstep : ∀ element ∈ elements, ∀ results before, keeps results before →
      Ends host (body element) before (fun result after => keeps (results ++ [result]) after)
        failing) :
    Ends host (elements.mapM body) world keeps failing := by
  suffices hgen : ∀ results, keeps results world →
      Ends host (elements.mapM body) world (fun more after => keeps (results ++ more) after)
        failing by
    simpa using hgen [] hstart
  clear hstart
  induction elements generalizing world with
  | nil =>
      intro results hresults
      simpa using hresults
  | cons element rest ih =>
      intro results hresults
      rw [List.mapM_cons]
      refine (hstep element (List.mem_cons_self ..) results world hresults).bind
        fun result after hafter => ?_
      refine (ih (fun other hother => hstep other (List.mem_cons_of_mem _ hother)) _ hafter).bind
        fun more last hlast => ?_
      simpa using hlast

/-- A loop that selects elements keeps what each of its steps keeps of the elements selected so
    far. -/
theorem Ends.filterM {elements : List β} {test : β → Action Bool} (keeps : List β → World → Prop)
    (hstart : keeps [] world)
    (hstep : ∀ element ∈ elements, ∀ selected before, keeps selected before →
      Ends host (test element) before
        (fun wanted after => keeps (if wanted then selected ++ [element] else selected) after)
        failing) :
    Ends host (elements.filterM test) world keeps failing := by
  suffices hgen : ∀ selected, keeps selected.reverse world →
      Ends host (elements.filterAuxM test selected) world
        (fun all after => keeps all.reverse after) failing by
    unfold List.filterM
    simpa using hgen [] hstart
  clear hstart
  induction elements generalizing world with
  | nil =>
      intro selected hselected
      exact hselected
  | cons element rest ih =>
      intro selected hselected
      rw [List.filterAuxM]
      refine (hstep element (List.mem_cons_self ..) _ world hselected).bind
        fun wanted after hafter => ?_
      refine ih (fun other hother => hstep other (List.mem_cons_of_mem _ hother)) _ ?_
      cases wanted <;> simpa using hafter

theorem returns_filterM_nil {test : β → Action Bool} {selected : List β} {after : World} :
    Returns host (([] : List β).filterM test) world selected after ↔ [] = selected ∧ world = after :=
  returns_pure

theorem returns_filterM {test : β → Action Bool} {elements selected : List β} {after : World} :
    Returns host (elements.filterM test) world selected after ↔
      Returns host (elements.filterAuxM test []) world selected.reverse after := by
  unfold List.filterM
  rw [returns_bind]
  constructor
  · rintro ⟨all, mid, hall, hreverse⟩
    obtain ⟨rfl, rfl⟩ := returns_pure.1 hreverse
    rwa [List.reverse_reverse]
  · intro h
    exact ⟨_, _, h, returns_pure.2 ⟨List.reverse_reverse _, rfl⟩⟩

theorem returns_filterAuxM {test : β → Action Bool} {elements earlier all : List β} {after : World} :
    Returns host (elements.filterAuxM test earlier) world all after ↔
      ∃ later, Returns host (elements.filterAuxM test []) world later after ∧
        all = later ++ earlier := by
  induction elements generalizing world earlier all with
  | nil =>
      show Returns host (pure earlier) world all after ↔
        ∃ later, Returns host (pure []) world later after ∧ all = later ++ earlier
      simp only [returns_pure]
      constructor
      · rintro ⟨rfl, rfl⟩
        exact ⟨[], ⟨rfl, rfl⟩, rfl⟩
      · rintro ⟨_, ⟨rfl, rfl⟩, rfl⟩
        exact ⟨rfl, rfl⟩
  | cons element rest ih =>
      simp only [List.filterAuxM, returns_bind]
      constructor
      · rintro ⟨wanted, mid, htest, hrest⟩
        obtain ⟨later, hlater, rfl⟩ := ih.1 hrest
        refine ⟨later ++ (if wanted then [element] else []), ⟨wanted, mid, htest, ih.2 ⟨later, hlater, ?_⟩⟩, ?_⟩
        · cases wanted <;> rfl
        · cases wanted <;> simp
      · rintro ⟨_, ⟨wanted, mid, htest, hrest⟩, rfl⟩
        obtain ⟨later, hlater, rfl⟩ := ih.1 hrest
        refine ⟨wanted, mid, htest, ih.2 ⟨later, hlater, ?_⟩⟩
        cases wanted <;> simp

/-- A loop that selects elements goes from one to the next. -/
theorem returns_filterM_cons {test : β → Action Bool} {element : β} {rest selected : List β}
    {after : World} :
    Returns host ((element :: rest).filterM test) world selected after ↔
      ∃ wanted mid others, Returns host (test element) world wanted mid ∧
        Returns host (rest.filterM test) mid others after ∧
        selected = if wanted then element :: others else others := by
  simp only [returns_filterM, List.filterAuxM, returns_bind]
  constructor
  · rintro ⟨wanted, mid, htest, hrest⟩
    obtain ⟨later, hlater, hall⟩ := returns_filterAuxM.1 hrest
    refine ⟨wanted, mid, later.reverse, htest, by rwa [List.reverse_reverse], ?_⟩
    rw [← List.reverse_reverse selected, hall]
    cases wanted <;> simp
  · rintro ⟨wanted, mid, others, htest, hothers, rfl⟩
    refine ⟨wanted, mid, htest, returns_filterAuxM.2 ⟨_, hothers, ?_⟩⟩
    cases wanted <;> simp

/-- A loop over a state keeps what each of its steps keeps of the elements so far. A step is taken
    where the loop over the elements before it has come to. -/
theorem Ends.foldlM {σ : Type} {elements : List β} {step : σ → β → Action σ} {start : σ}
    (keeps : List β → σ → World → Prop) (hstart : keeps [] start world)
    (hstep : ∀ earlier element later, elements = earlier ++ element :: later →
      ∀ state before, Returns host (earlier.foldlM step start) world state before →
      keeps earlier state before →
      Ends host (step state element) before (keeps (earlier ++ [element])) failing) :
    Ends host (elements.foldlM step start) world (keeps elements) failing := by
  suffices hgen : ∀ rest earlier state before, elements = earlier ++ rest →
      Returns host (earlier.foldlM step start) world state before → keeps earlier state before →
      Ends host (rest.foldlM step state) before (keeps elements) failing from
    hgen elements [] start world rfl rfl hstart
  intro rest
  induction rest with
  | nil =>
      rintro earlier state before rfl - hkeeps
      simpa using hkeeps
  | cons element later ih =>
      intro earlier state before helements hreturns hkeeps
      have hends := hstep earlier element later helements state before hreturns hkeeps
      rw [List.foldlM_cons, ends_bind]
      -- what the step returns, the loop over one more element returns
      unfold Ends at hends ⊢
      split at hends
      · next value after heq =>
          refine ih (earlier ++ [element]) value after (by simp [helements]) ?_ hends
          rw [List.foldlM_append]
          refine returns_bind.2 ⟨state, before, hreturns, ?_⟩
          rw [List.foldlM_cons]
          exact returns_bind.2 ⟨value, after, heq, rfl⟩
      · exact hends

end Action
end JuliaNative
