import JuliaNative.Proofs.Action

set_option autoImplicit false

/-! # What actions keep

`Keeps host keeps action` says that an action keeps a property of the files and of the commands
started so far, whichever way it ends, and that it fails only as a stage does: not with an error of the
configuration or of the environment. Sequences, choices and loops keep what their parts keep, so it
is shown along the text of an action, and what printing and asking change does not count. -/

namespace JuliaNative

/-- Whether a failure is one that stages end with: a command that failed, files that could not be
    staged, an interrupt or a crash. -/
def Failure.OfStage : Failure → Prop
  | .error issue => issue.category = .command ∨ issue.category = .fileSystem
  | .crash _ => True
  | .interrupted => True

namespace Action

variable {α β ε : Type} {host : Host} {keeps : FileSystem → List (List String) → Prop}

/-- An action keeps a property of the files and of the commands started so far, whichever way it
    ends, and fails only as a stage does. -/
def Keeps (host : Host) (keeps : FileSystem → List (List String) → Prop) (action : Action α) : Prop :=
  ∀ world, keeps world.files world.started →
    Ends host action world (fun _ after => keeps after.files after.started)
      (fun failure after => failure.OfStage ∧ keeps after.files after.started)

theorem Keeps.bind {action : Action β} {next : β → Action α} (hfirst : Keeps host keeps action)
    (hnext : ∀ value, Keeps host keeps (next value)) : Keeps host keeps (action >>= next) := by
  intro world hworld
  exact (hfirst world hworld).bind fun value after hafter => hnext value after hafter

theorem Keeps.pure (value : α) : Keeps host keeps (pure value : Action α) :=
  fun _ hworld => hworld

theorem Keeps.discard {action : Action β} (h : Keeps host keeps action) :
    Keeps host keeps (discard action) := by
  intro world hworld
  rw [ends_discard]
  exact h world hworld

theorem Keeps.ite {wanted : Prop} [Decidable wanted] {first second : Action α}
    (hfirst : wanted → Keeps host keeps first) (hsecond : ¬ wanted → Keeps host keeps second) :
    Keeps host keeps (if wanted then first else second) := by
  split
  · next h => exact hfirst h
  · next h => exact hsecond h

theorem Keeps.sayIf (wanted : Bool) (text : String) : Keeps host keeps (sayIf wanted text) := by
  intro world hworld
  simpa using hworld

theorem Keeps.lookup (path : Path) : Keeps host keeps (lookup path) := by
  intro world hworld
  rw [ends_lookup]
  split
  · exact ⟨trivial, hworld⟩
  · exact hworld

theorem Keeps.has (path : Path) : Keeps host keeps (has path) :=
  (Keeps.lookup path).bind fun _ => Keeps.pure _

theorem Keeps.ofExcept_bind {failure : ε → Failure} {value : Except ε β} {result : β}
    {next : β → Action α} (h : value = .ok result) (hnext : Keeps host keeps (next result)) :
    Keeps host keeps (ofExcept failure value >>= next) := by
  subst h
  exact hnext

theorem Keeps.ofExcept_crash (value : Except Crash α) :
    Keeps host keeps (ofExcept .crash value) := by
  intro world hworld
  rw [ends_ofExcept]
  split
  · exact hworld
  · exact ⟨trivial, hworld⟩

/-! ## Loops -/

theorem Keeps.forM {elements : List β} {body : β → Action PUnit}
    (h : ∀ element ∈ elements, Keeps host keeps (body element)) :
    Keeps host keeps (elements.forM body) := by
  intro world hworld
  exact Ends.forM (fun after => keeps after.files after.started) hworld
    (fun element hmem before hbefore => h element hmem before hbefore)

end Action
end JuliaNative
