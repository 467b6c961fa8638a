import JuliaNative.Proofs.Tools

set_option autoImplicit false

/-! # Where actions crash

An action crashes if it ends in a failure that the build does not foresee. A sequence crashes if its
first step does, or its rest does after the first step has returned (`crashes_bind`); a loop crashes if
it comes to an element at which its body does (`crashes_forM`, `crashes_mapM`, `crashes_filterM`). So the
exact condition for a crash is found along the text of an action. -/

namespace JuliaNative.Action

variable {α β ε : Type} {host : Host} {world : World}

/-- An action that is run on a host from a world ends in a failure that the build does not foresee:
    neither with a value, nor with an error of the build, nor by an interrupt. -/
def Crashes (host : Host) (action : Action α) (world : World) : Prop :=
  ∃ cause after, action.runOn host world = (.error (.crash cause), after)

theorem crashes_iff_ends {action : Action α} :
    Crashes host action world ↔
      Ends host action world (fun _ _ => False) (fun failure _ => ∃ cause, failure = .crash cause) := by
  unfold Crashes Ends
  rcases action.runOn host world with ⟨failure | value, after⟩
  · simp
  · simp

theorem Ends.not_crashes {action : Action α} {post : α → World → Prop}
    {failing : Failure → World → Prop} (h : Ends host action world post failing)
    (hfailing : ∀ cause after, ¬ failing (.crash cause) after) : ¬ Crashes host action world := by
  rintro ⟨cause, after, hrun⟩
  exact hfailing cause after (h.of_error hrun)

/-! ## Building blocks -/

theorem crashes_bind {action : Action β} {next : β → Action α} :
    Crashes host (action >>= next) world ↔
      Crashes host action world ∨
        ∃ value mid, Returns host action world value mid ∧ Crashes host (next value) mid := by
  unfold Crashes Returns
  rw [runOn_bind]
  rcases action.runOn host world with ⟨failure | value, mid⟩
  · simp
  · constructor
    · exact fun h => .inr ⟨value, mid, rfl, h⟩
    · rintro (⟨_, _, h⟩ | ⟨_, _, hreturns, h⟩)
      · cases h
      · cases hreturns
        exact h

theorem crashes_bind_of_returns {action : Action β} {next : β → Action α} {value : β} {mid : World}
    (h : Returns host action world value mid) :
    Crashes host (action >>= next) world ↔ Crashes host (next value) mid := by
  unfold Crashes
  rw [runOn_bind, h]

/-- A rest that never crashes does not count. -/
theorem crashes_bind_left {action : Action β} {next : β → Action α}
    (h : ∀ value mid, ¬ Crashes host (next value) mid) :
    Crashes host (action >>= next) world ↔ Crashes host action world := by
  rw [crashes_bind]
  simp [h]

@[simp] theorem not_crashes_pure (value : α) : ¬ Crashes host (pure value) world := by
  rw [crashes_iff_ends, ends_pure]
  exact id

@[simp] theorem not_crashes_fail (error : BuildError) :
    ¬ Crashes host (fail error : Action α) world := by
  rw [crashes_iff_ends, ends_fail]
  simp

@[simp] theorem crashes_ite (wanted : Prop) [Decidable wanted] (first second : Action α) :
    Crashes host (if wanted then first else second) world ↔
      if wanted then Crashes host first world else Crashes host second world := by
  split <;> rfl

@[simp] theorem crashes_map (f : β → α) (action : Action β) :
    Crashes host (f <$> action) world ↔ Crashes host action world := by
  rw [crashes_iff_ends, crashes_iff_ends, ends_map]

@[simp] theorem crashes_discard (action : Action β) :
    Crashes host (discard action) world ↔ Crashes host action world := by
  rw [crashes_iff_ends, crashes_iff_ends, ends_discard]

/-- What follows an action without a value or an effect of its own decides on a crash. -/
theorem crashes_bind_pure {action : Action β} {f : β → α} :
    Crashes host (action >>= fun value => pure (f value)) world ↔ Crashes host action world := by
  rw [← map_eq_pure_bind, crashes_map]

theorem crashes_ofExcept_crash (value : Except Crash α) :
    Crashes host (ofExcept .crash value) world ↔ ∃ cause, value = .error cause := by
  rw [crashes_iff_ends, ends_ofExcept]
  cases value <;> simp

theorem crashes_ofExcept_bind {failure : ε → Failure} {value : Except ε β} {result : β}
    {next : β → Action α} (h : value = .ok result) :
    Crashes host (ofExcept failure value >>= next) world ↔ Crashes host (next result) world := by
  subst h
  rfl

theorem returns_read (world : World) : Returns host read world host world := rfl

theorem returns_sayIf (wanted : Bool) (text : String) :
    Returns host (sayIf wanted text) world () (world.saidIf wanted text) := by
  rw [returns_iff_ends, ends_sayIf]
  exact ⟨rfl, rfl⟩

@[simp] theorem not_crashes_sayIf (wanted : Bool) (text : String) :
    ¬ Crashes host (sayIf wanted text) world := by
  rw [crashes_iff_ends, ends_sayIf]
  exact id

/-! ## Loops -/

/-- A loop comes to an element at which a condition holds: the body has returned for all elements
    before it. -/
inductive Meets (host : Host) (body : β → Action α) (condition : β → World → Prop) :
    List β → World → Prop
  | here {element : β} {rest : List β} {world : World} (h : condition element world) :
    Meets host body condition (element :: rest) world
  | later {element : β} {rest : List β} {world mid : World} {value : α}
    (hbody : Returns host (body element) world value mid) (h : Meets host body condition rest mid) :
    Meets host body condition (element :: rest) world

variable {condition : β → World → Prop} {elements rest : List β} {element : β}

theorem not_meets_nil {body : β → Action α} : ¬ Meets host body condition [] world := nofun

theorem meets_cons {body : β → Action α} :
    Meets host body condition (element :: rest) world ↔
      condition element world ∨
        ∃ value mid, Returns host (body element) world value mid ∧
          Meets host body condition rest mid := by
  constructor
  · rintro (h | ⟨hbody, h⟩)
    · exact .inl h
    · exact .inr ⟨_, _, hbody, h⟩
  · rintro (h | ⟨value, mid, hbody, h⟩)
    · exact .here h
    · exact .later hbody h

/-- A loop whose body leaves the world alone, where it does not meet a condition, comes to every element. -/
theorem meets_iff_exists {body : β → Action α}
    (hbody : ∀ element ∈ elements, condition element world ∨
      ∃ value, Returns host (body element) world value world) :
    Meets host body condition elements world ↔ ∃ element ∈ elements, condition element world := by
  induction elements with
  | nil => simp [not_meets_nil]
  | cons element rest ih =>
      obtain ⟨hfirst, hrest⟩ := List.forall_mem_cons.1 hbody
      rw [meets_cons]
      simp only [List.mem_cons, exists_eq_or_imp]
      by_cases hmeets : condition element world
      · exact iff_of_true (.inl hmeets) (.inl hmeets)
      obtain ⟨value, hreturns⟩ := hfirst.resolve_left hmeets
      rw [← ih hrest]
      constructor
      · rintro (h | ⟨_, mid, hmid, h⟩)
        · exact .inl h
        · obtain ⟨-, rfl⟩ := hmid.unique hreturns
          exact .inr h
      · rintro (h | h)
        · exact .inl h
        · exact .inr ⟨value, world, hreturns, h⟩

theorem crashes_forM {body : β → Action PUnit}
    (hbody : ∀ element ∈ elements, ∀ world,
      Crashes host (body element) world ↔ condition element world) :
    Crashes host (elements.forM body) world ↔ Meets host body condition elements world := by
  induction elements generalizing world with
  | nil =>
      rw [show ([] : List β).forM body = pure ⟨⟩ from rfl]
      exact iff_of_false (not_crashes_pure _) not_meets_nil
  | cons element rest ih =>
      rw [show (element :: rest).forM body = body element >>= fun _ => rest.forM body from rfl,
        crashes_bind, meets_cons, hbody element (List.mem_cons_self ..)]
      simp only [ih fun other hother => hbody other (List.mem_cons_of_mem _ hother)]

theorem crashes_mapM {body : β → Action α}
    (hbody : ∀ element ∈ elements, ∀ world,
      Crashes host (body element) world ↔ condition element world) :
    Crashes host (elements.mapM body) world ↔ Meets host body condition elements world := by
  induction elements generalizing world with
  | nil =>
      rw [List.mapM_nil]
      exact iff_of_false (not_crashes_pure _) not_meets_nil
  | cons element rest ih =>
      rw [List.mapM_cons, crashes_bind, meets_cons, hbody element (List.mem_cons_self ..)]
      simp only [crashes_bind_pure,
        ih fun other hother => hbody other (List.mem_cons_of_mem _ hother)]

theorem crashes_filterM {test : β → Action Bool}
    (htest : ∀ element ∈ elements, ∀ world,
      Crashes host (test element) world ↔ condition element world) :
    Crashes host (elements.filterM test) world ↔ Meets host test condition elements world := by
  -- which elements were selected so far does not matter for where the loop crashes
  suffices hgen : ∀ selected, Crashes host (elements.filterAuxM test selected) world ↔
      Meets host test condition elements world by
    unfold List.filterM
    rw [crashes_bind_pure]
    exact hgen []
  induction elements generalizing world with
  | nil => exact fun selected => iff_of_false (not_crashes_pure _) not_meets_nil
  | cons element rest ih =>
      intro selected
      rw [List.filterAuxM, crashes_bind, meets_cons, htest element (List.mem_cons_self ..)]
      simp only [ih fun other hother => htest other (List.mem_cons_of_mem _ hother)]

end JuliaNative.Action
