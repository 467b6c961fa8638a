import JuliaNative.Proofs.Tools

set_option autoImplicit false

/-! # The commands that actions start

A launch is the start of a command of a stage, with the directory and the environment in which the
command runs. An action that runs commands starts them in a fixed order, and if it fails it has started
the first ones of them and no other (`Action.Starts`). Sequences of actions start the launches of their
parts one after the other (`Action.Starts.bind`). -/

namespace JuliaNative

/-- The start of a command of a stage. -/
structure Launch where
  command : List String
  directory : Path
  environment : Option Environment
deriving DecidableEq, Repr

/-- The launch that an event is, if it is one. -/
def Event.launch? : Event → Option Launch
  | .commandStarted command directory environment => some ⟨command, directory, environment⟩
  | _ => none

namespace World

/-- The launches so far. -/
def launches (world : World) : List Launch :=
  world.events.filterMap Event.launch?

@[simp] theorem launches_saidIf (world : World) (wanted : Bool) (text : String) :
    (world.saidIf wanted text).launches = world.launches := by
  simp [launches]

@[simp] theorem launches_noted (world : World) (level : Level) (text : String) :
    (world.noted level text).launches = world.launches := by
  simp [launches]

@[simp] theorem launches_remembered (world : World) (event : Event) :
    (world.remembered event).launches = world.launches ++ event.launch?.toList := by
  simp only [launches, events_remembered, List.filterMap_append]
  cases event <;> rfl

@[simp] theorem launches_withFiles (world : World) (files : FileSystem) :
    (world.withFiles files).launches = world.launches := rfl

@[simp] theorem launches_ticked (world : World) : world.ticked.launches = world.launches := by
  simp [launches]

@[simp] theorem launches_launched (world : World) (command : List String) (directory : Path)
    (environment : Option Environment) :
    (world.launched command directory environment).launches =
      world.launches ++ [⟨command, directory, environment⟩] := by
  cases environment <;> simp [launched, Event.launch?]

end World

namespace Action

variable {α β : Type} {host : Host} {expected : List Launch} {gives : α → Prop}

/-- An action that returns gives a value of some kind and has made the expected launches, in their order;
    one that fails has made the first ones of them. -/
def Starts (host : Host) (action : Action α) (expected : List Launch) (gives : α → Prop) : Prop :=
  ∀ world, Ends host action world
    (fun value after => gives value ∧ after.launches = world.launches ++ expected)
    (fun _ after => ∃ part, part <+: expected ∧ after.launches = world.launches ++ part)

theorem Starts.pure {value : α} (h : gives value) : Starts host (pure value) [] gives :=
  fun _ => ⟨h, (List.append_nil _).symm⟩

/-- A sequence makes the launches of its first action, and then those of its second. -/
theorem Starts.bind {first : Action β} {next : β → Action α} {more : List Launch}
    {through : β → Prop} (hfirst : Starts host first expected through)
    (hnext : ∀ value, through value → Starts host (next value) more gives) :
    Starts host (first >>= next) (expected ++ more) gives := by
  intro world
  rw [ends_bind]
  refine (hfirst world).imp ?_ ?_
  · rintro value mid ⟨hvalue, hmid⟩
    refine (hnext value hvalue mid).imp ?_ ?_
    · rintro result after ⟨hresult, hafter⟩
      exact ⟨hresult, by rw [hafter, hmid, List.append_assoc]⟩
    · rintro _ after ⟨part, hpart, hafter⟩
      refine ⟨expected ++ part, (List.prefix_append_right_inj expected).2 hpart, ?_⟩
      rw [hafter, hmid, List.append_assoc]
  · rintro _ after ⟨part, hpart, hafter⟩
    exact ⟨part, hpart.trans (List.prefix_append expected more), hafter⟩

/-- An action that makes no launch can go before or after one that makes some. -/
theorem Starts.quiet_bind {first : Action β} {next : β → Action α} {through : β → Prop}
    (hfirst : Starts host first [] through)
    (hnext : ∀ value, through value → Starts host (next value) expected gives) :
    Starts host (first >>= next) expected gives :=
  hfirst.bind hnext

theorem Starts.bind_quiet {first : Action β} {next : β → Action α} {through : β → Prop}
    (hfirst : Starts host first expected through)
    (hnext : ∀ value, through value → Starts host (next value) [] gives) :
    Starts host (first >>= next) expected gives := by
  have h := hfirst.bind hnext
  rwa [List.append_nil] at h

/-- However an action ends that makes no launch, the launches are as before. -/
theorem Starts.quiet {action : Action α} (h : Starts host action [] gives) (world : World) :
    Ends host action world (fun value after => gives value ∧ after.launches = world.launches)
      (fun _ after => after.launches = world.launches) := by
  refine (h world).imp ?_ ?_
  · rintro value after ⟨hvalue, hafter⟩
    exact ⟨hvalue, by rw [hafter, List.append_nil]⟩
  · rintro _ after ⟨part, hpart, hafter⟩
    rw [hafter, List.prefix_nil.1 hpart, List.append_nil]

end Action
end JuliaNative
