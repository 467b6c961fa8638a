import JuliaNative.ProcessTree

set_option autoImplicit false

/-! # How requests to processes come out

`ComesTo table requests outcome steps` says that requests to the processes of a table come to an outcome, a
value or a process that has vanished, after taking some steps. It is shown along the text of a computation:
the steps of a sequence are those of its parts, up to the part that fails, and a handler goes on from where
the request failed. A loop whose requests are handled goes on to the last process (`comesTo_filterM`,
`comesTo_forM`). So terminating a tree comes to a number whichever processes have vanished, and the steps
that it takes are known (`comesTo_terminateTree`). -/

namespace JuliaNative.Requests

variable {α β : Type} {table : ProcessTable} {value : α} {outcome : Except Vanished α}
  {steps later : List TreeEvent}

/-- Requests to the processes of a table come to an outcome after some steps, whatever was done
    before. -/
def ComesTo (table : ProcessTable) (requests : Requests α) (outcome : Except Vanished α)
    (steps : List TreeEvent) : Prop :=
  ∀ earlier, (requests.run table).run earlier = (outcome, earlier ++ steps)

theorem ComesTo.runOn_eq {requests : Requests α} (h : ComesTo table requests outcome steps) :
    requests.runOn table = (outcome, steps) :=
  h []

/-! ## Building blocks -/

theorem comesTo_pure (value : α) : ComesTo table (pure value) (.ok value) [] :=
  fun earlier => by rw [List.append_nil]; rfl

theorem comesTo_throw (vanished : Vanished) :
    ComesTo table (throw vanished : Requests α) (.error vanished) [] :=
  fun earlier => by rw [List.append_nil]; rfl

theorem comesTo_read : ComesTo table read (.ok table) [] :=
  fun earlier => by rw [List.append_nil]; rfl

theorem comesTo_take (step : TreeEvent) : ComesTo table (take step) (.ok ()) [step] :=
  fun _ => rfl

theorem run_bind {first : Requests β} {next : β → Requests α} {earlier : List TreeEvent} :
    ((first >>= next).run table).run earlier =
      match (first.run table).run earlier with
      | (.ok value, after) => ((next value).run table).run after
      | (.error vanished, after) => (.error vanished, after) := by
  simp only [ReaderT.run_bind, ExceptT.run_bind]
  show StateT.bind (m := Id) _ _ earlier = _
  unfold StateT.bind
  rcases (first.run table).run earlier with ⟨_ | _, _⟩ <;> rfl

theorem ComesTo.bind {first : Requests β} {next : β → Requests α} {middle : β}
    (hfirst : ComesTo table first (.ok middle) steps)
    (hnext : ComesTo table (next middle) outcome later) :
    ComesTo table (first >>= next) outcome (steps ++ later) := by
  intro earlier
  rw [run_bind, hfirst earlier]
  simpa using hnext (earlier ++ steps)

theorem ComesTo.bind_error {first : Requests β} {next : β → Requests α} {vanished : Vanished}
    (hfirst : ComesTo table first (.error vanished) steps) :
    ComesTo table (first >>= next) (.error vanished) steps := by
  intro earlier
  rw [run_bind, hfirst earlier]

/-- Reading the table takes no step. -/
theorem ComesTo.after_read {next : ProcessTable → Requests α}
    (h : ComesTo table (next table) outcome steps) :
    ComesTo table (do next (← read)) outcome steps :=
  comesTo_read.bind h

theorem ComesTo.map {requests : Requests β} {value : β} (f : β → α)
    (h : ComesTo table requests (.ok value) steps) :
    ComesTo table (f <$> requests) (.ok (f value)) steps := by
  rw [map_eq_pure_bind, ← List.append_nil steps]
  exact ComesTo.bind h (comesTo_pure (f value))

theorem ComesTo.map_error {requests : Requests β} {vanished : Vanished} (f : β → α)
    (h : ComesTo table requests (.error vanished) steps) :
    ComesTo table (f <$> requests) (.error vanished) steps := by
  rw [map_eq_pure_bind]
  exact h.bind_error

/-! ## Handlers -/

theorem run_tryCatch {requests : Requests α} {handler : Vanished → Requests α}
    {earlier : List TreeEvent} :
    ((tryCatch requests handler).run table).run earlier =
      match (requests.run table).run earlier with
      | (.ok value, after) => (.ok value, after)
      | (.error vanished, after) => ((handler vanished).run table).run after := by
  simp only [tryCatch, tryCatchThe, MonadExceptOf.tryCatch, ReaderT.run, ExceptT.run,
    ExceptT.tryCatch, ExceptT.mk]
  show StateT.bind (m := Id) _ _ earlier = _
  unfold StateT.bind
  rcases requests table earlier with ⟨_ | _, _⟩ <;> rfl

theorem ComesTo.unhandled {requests : Requests α} {handler : Vanished → Requests α}
    (h : ComesTo table requests (.ok value) steps) :
    ComesTo table (tryCatch requests handler) (.ok value) steps := by
  intro earlier
  rw [run_tryCatch, h earlier]

/-- A handler goes on from where a request failed. -/
theorem ComesTo.handled {requests : Requests α} {handler : Vanished → Requests α}
    {vanished : Vanished} (h : ComesTo table requests (.error vanished) steps)
    (hhandler : ComesTo table (handler vanished) outcome later) :
    ComesTo table (tryCatch requests handler) outcome (steps ++ later) := by
  intro earlier
  rw [run_tryCatch, h earlier]
  simpa using hhandler (earlier ++ steps)

/-! ## Loops -/

/-- Going through elements to select some of them takes the step of each element, one after the other, if
    no test fails. -/
theorem comesTo_filterM {test : β → Requests Bool} {passes : β → Bool} {step : β → TreeEvent}
    (h : ∀ element, ComesTo table (test element) (.ok (passes element)) [step element])
    (elements : List β) :
    ComesTo table (elements.filterM test) (.ok (elements.filter passes)) (elements.map step) := by
  suffices hgen : ∀ selected, ComesTo table (elements.filterAuxM test selected)
      (.ok ((elements.filter passes).reverse ++ selected)) (elements.map step) by
    unfold List.filterM
    simpa using (hgen []).map List.reverse
  induction elements with
  | nil => exact fun selected => comesTo_pure selected
  | cons element rest ih =>
      intro selected
      rw [List.filterAuxM]
      refine ComesTo.bind (h element) ?_
      have hrest := ih (if passes element then element :: selected else selected)
      cases hpasses : passes element <;> simpa [hpasses] using hrest

theorem comesTo_forM {body : β → Requests PUnit} {step : β → TreeEvent}
    (h : ∀ element, ComesTo table (body element) (.ok ⟨⟩) [step element]) (elements : List β) :
    ComesTo table (elements.forM body) (.ok ⟨⟩) (elements.map step) := by
  induction elements with
  | nil => exact comesTo_pure _
  | cons element rest ih =>
      exact (h element).bind ih

/-! ## Requests to one process -/

section Single

variable (table : ProcessTable)

theorem comesTo_find (number : Int) :
    ComesTo table (find number)
      (match table number with
        | some process => .ok process
        | none => .error ⟨number⟩) [] := by
  refine ComesTo.after_read ?_
  cases table number with
  | some process => exact comesTo_pure process
  | none => exact comesTo_throw _

theorem comesTo_list (number : Int) (process : ProcessState) :
    ComesTo table (list number process)
      (match table.descendants? process with
        | some listed => .ok listed
        | none => .error ⟨number⟩)
      [.listed number process.descendants.isSome] := by
  refine (comesTo_take _).bind (ComesTo.after_read ?_)
  cases table.descendants? process with
  | some listed => exact comesTo_pure listed
  | none => exact comesTo_throw _

theorem comesTo_request (step : Int → Bool → TreeEvent) (takes : ProcessTable → Int → Bool)
    (number : Int) :
    ComesTo table (request step takes number)
      (if takes table number then .ok () else .error ⟨number⟩) [step number (takes table number)] := by
  refine ComesTo.after_read ((comesTo_take _).bind ?_)
  cases takes table number with
  | true => exact comesTo_pure ()
  | false => exact comesTo_throw _

/-- Whether a request reaches its process is told, and is no failure. -/
theorem comesTo_reaches (step : Int → Bool → TreeEvent) (takes : ProcessTable → Int → Bool)
    (number : Int) :
    ComesTo table (reaches (request step takes number)) (.ok (takes table number))
      [step number (takes table number)] := by
  have hrequest := comesTo_request table step takes number
  unfold reaches
  cases htakes : takes table number with
  | true =>
      rw [htakes] at hrequest
      exact (hrequest.bind (comesTo_pure true)).unhandled
  | false =>
      rw [htakes] at hrequest
      exact hrequest.bind_error.handled (comesTo_pure false)

theorem comesTo_wait (numbers : List Int) :
    ComesTo table (wait numbers) (.ok (numbers.filter table.survives)) [.awaited numbers] :=
  (comesTo_take _).bind (ComesTo.after_read (comesTo_pure _))

/-- Looking for a process never fails where its absence is handled. -/
theorem comesTo_seek (number : Int) :
    ComesTo table (tryCatch (some <$> find number) fun _ => pure none) (.ok (table number)) [] := by
  have hfind := comesTo_find table number
  cases hnumber : table number with
  | some process =>
      rw [hnumber] at hfind
      exact (hfind.map some).unhandled
  | none =>
      rw [hnumber] at hfind
      exact (hfind.map_error some).handled (comesTo_pure none)

/-- Where the descendants cannot be listed there are none to go through. -/
theorem comesTo_listed (number : Int) (process : ProcessState) :
    ComesTo table (tryCatch (list number process) fun _ => pure [])
      (.ok ((table.descendants? process).getD []))
      [.listed number process.descendants.isSome] := by
  have hlist := comesTo_list table number process
  cases hdescendants : table.descendants? process with
  | some listed =>
      rw [hdescendants] at hlist
      exact hlist.unhandled
  | none =>
      rw [hdescendants] at hlist
      exact hlist.handled (comesTo_pure [])

/-- Each of some processes is killed, if it has not vanished. -/
theorem comesTo_killAll (numbers : List Int) :
    ComesTo table (numbers.forM fun number => discard (reaches (kill number))) (.ok ⟨⟩)
      (numbers.map fun number => .kill number (table.kills number)) :=
  comesTo_forM (fun number => (comesTo_reaches table _ _ number).map _) numbers

end Single

/-! ## Terminating a tree -/

variable {root : Int} {process : ProcessState}

theorem comesTo_terminateTree_of_none (h : table root = none) :
    ComesTo table (terminateTree root) (.ok 0) [] := by
  refine ComesTo.bind (comesTo_seek table root) ?_
  rw [h]
  exact comesTo_pure 0

/-- The descendants are asked to terminate as they are listed, and then the process itself, which is the
    only one if the listing fails. The processes that could be asked are waited for, and those that are
    still alive then are killed. -/
theorem comesTo_terminateTree (h : table root = some process) :
    let targets := (table.descendants? process).getD [] ++ [root]
    let reached := targets.filter table.terminates
    ComesTo table (terminateTree root) (.ok reached.length)
      (.listed root process.descendants.isSome ::
        targets.map (fun number => .terminate number (table.terminates number)) ++
        .awaited reached ::
          (reached.filter table.survives).map fun number => .kill number (table.kills number)) := by
  intro targets reached
  -- the steps part by part, as the computation takes them
  show ComesTo table _ _ ([] ++ ([_] ++ (_ ++ ([_] ++ _))))
  refine ComesTo.bind (comesTo_seek table root) ?_
  rw [h]
  refine ComesTo.bind (comesTo_listed table root process) ?_
  refine ComesTo.bind (comesTo_filterM (comesTo_reaches table _ _) targets) ?_
  refine ComesTo.bind (comesTo_wait table reached) ?_
  rw [← List.append_nil (List.map _ _)]
  exact ComesTo.bind (comesTo_killAll table (reached.filter table.survives)) (comesTo_pure reached.length)

/-- Terminating a tree never fails, whichever processes have vanished. -/
theorem exists_comesTo_terminateTree (table : ProcessTable) (root : Int) :
    ∃ count steps, ComesTo table (terminateTree root) (.ok count) steps := by
  cases h : table root with
  | none => exact ⟨0, [], comesTo_terminateTree_of_none h⟩
  | some process => exact ⟨_, _, comesTo_terminateTree h⟩

end JuliaNative.Requests
