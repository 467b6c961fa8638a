import JuliaNative.Proofs.Tools
import Mathlib.Data.List.Nodup

set_option autoImplicit false

/-! # Which processes are terminated, and in which order

Terminating a tree accounts for every process of it, whichever of them have vanished
(`terminateTree_accounts`). Its order is the order in which the descendants are listed, with the process
itself at the end. Descendants are listed in the order of their descent, a process before those that it has
started. So only the process at the root is terminated after its descendants, and every other process before
its own (`Requests.terminateTree_order`). -/

namespace JuliaNative

open JuliaNative.Action
open scoped List

/-! ## Accounting for a tree -/

/-- Terminating a tree never fails. A process that is not there takes no step and counts as none. Otherwise
    the descendants are asked to terminate as they are listed and then the process itself, each of them
    once; if the listing fails, the process alone is asked. The ones that the request reaches are waited for,
    all at once, those of them that are still alive then are killed, and no other. The number of processes
    that were reached is returned. -/
theorem terminateTree_accounts (host : Host) (world : World) (root : Int) :
    ∃ count after steps, Returns host (terminateTree root) world count after ∧
      after.events = world.events ++ [.treeTerminated root steps] ∧ after.files = world.files ∧
      match host.processes root with
      | none => count = 0 ∧ steps = []
      | some process =>
        let targets := (host.processes.descendants? process).getD [] ++ [root]
        let reached := targets.filter host.processes.terminates
        count = reached.length ∧
          steps = .listed root process.descendants.isSome ::
            targets.map (fun number => .terminate number (host.processes.terminates number)) ++
            .awaited reached :: (reached.filter host.processes.survives).map fun number =>
              .kill number (host.processes.kills number) := by
  have hreturns : ∀ {count steps},
      Requests.ComesTo host.processes (Requests.terminateTree root) (.ok count) steps →
      ∃ after, Returns host (terminateTree root) world count after ∧
        after.events = world.events ++ [.treeTerminated root steps] ∧ after.files = world.files := by
    intro count steps hrequests
    have hends : Ends host (terminateTree root) world (fun value after => value = count ∧
        after.events = world.events ++ [.treeTerminated root steps] ∧ after.files = world.files)
        (fun _ _ => False) :=
      ends_terminateTree _ hrequests ⟨rfl, rfl⟩ fun before level text hbefore => by
        simpa using hbefore
    obtain ⟨value, after, hreturns, rfl, hafter⟩ := hends.exists_returns
    exact ⟨after, hreturns, hafter⟩
  cases hroot : host.processes root with
  | none =>
      obtain ⟨after, hafter, hevents, hfiles⟩ :=
        hreturns (Requests.comesTo_terminateTree_of_none hroot)
      exact ⟨0, after, [], hafter, hevents, hfiles, rfl, rfl⟩
  | some process =>
      obtain ⟨after, hafter, hevents, hfiles⟩ := hreturns (Requests.comesTo_terminateTree hroot)
      exact ⟨_, after, _, hafter, hevents, hfiles, rfl, rfl⟩

/-! ## Trees of processes -/

/-- A process with the processes that it has started. -/
inductive ProcessTree
  | node (process : Int) (started : List ProcessTree)

namespace ProcessTree

mutual

/-- The processes of a tree, each before those that it has started. -/
def processes : ProcessTree → List Int
  | .node process started => process :: allProcesses started

/-- The processes of some trees. -/
def allProcesses : List ProcessTree → List Int
  | [] => []
  | tree :: rest => tree.processes ++ allProcesses rest

end

mutual

/-- Every process of a tree with each of its descendants. -/
def descents : ProcessTree → List (Int × Int)
  | .node process started => (allProcesses started).map (process, ·) ++ allDescents started

/-- Every process of some trees with each of its descendants. -/
def allDescents : List ProcessTree → List (Int × Int)
  | [] => []
  | tree :: rest => tree.descents ++ allDescents rest

end

/-- The process at the root of a tree. -/
def root : ProcessTree → Int
  | .node process _ => process

/-- The descendants of the process at the root. -/
def descendants : ProcessTree → List Int
  | .node _ started => allProcesses started

/-- One process is an ancestor of another one. -/
def IsAncestor (tree : ProcessTree) (ancestor process : Int) : Prop :=
  (ancestor, process) ∈ tree.descents

variable {tree : ProcessTree} {listed : List Int} {ancestor process : Int}

/-- The descendants of a tree are listed in the order of their descent: each of them once, and a process
    before its own descendants. -/
structure Lists (tree : ProcessTree) (listed : List Int) : Prop where
  perm : listed.Perm tree.descendants
  order : ∀ pair ∈ tree.descents, pair.1 ∈ listed → [pair.1, pair.2] <+ listed

mutual

theorem mem_of_mem_descents : ∀ {tree : ProcessTree}, (ancestor, process) ∈ tree.descents →
    ancestor ∈ tree.processes ∧ process ∈ tree.descendants
  | .node number started, h => by
      rw [descents, List.mem_append, List.mem_map] at h
      rw [processes, descendants]
      rcases h with ⟨other, hother, heq⟩ | h
      · cases heq
        exact ⟨List.mem_cons_self .., hother⟩
      · obtain ⟨hancestor, hprocess⟩ := mem_of_mem_allDescents h
        exact ⟨List.mem_cons_of_mem _ hancestor, hprocess⟩

theorem mem_of_mem_allDescents : ∀ {trees : List ProcessTree}, (ancestor, process) ∈ allDescents trees →
    ancestor ∈ allProcesses trees ∧ process ∈ allProcesses trees
  | tree :: rest, h => by
      rw [allDescents, List.mem_append] at h
      rw [allProcesses, List.mem_append, List.mem_append]
      rcases h with h | h
      · obtain ⟨hancestor, hprocess⟩ := mem_of_mem_descents h
        refine ⟨.inl hancestor, .inl ?_⟩
        cases tree
        exact List.mem_cons_of_mem _ hprocess
      · obtain ⟨hancestor, hprocess⟩ := mem_of_mem_allDescents h
        exact ⟨.inr hancestor, .inr hprocess⟩

end

/-- An ancestor is the process at the root or one of its descendants, and so is below the root what it is an
    ancestor of. -/
theorem IsAncestor.cases (h : tree.IsAncestor ancestor process) :
    (ancestor = tree.root ∨ ancestor ∈ tree.descendants) ∧ process ∈ tree.descendants := by
  obtain ⟨hancestor, hprocess⟩ := mem_of_mem_descents h
  refine ⟨?_, hprocess⟩
  cases tree with
  | node number started => exact List.mem_cons.1 hancestor

end ProcessTree

/-- A tree of processes runs on a machine. The process at its root lists the descendants, and none of them
    vanishes before it is asked to terminate. -/
structure ProcessTable.Runs (table : ProcessTable) (tree : ProcessTree) (listed : List Int) : Prop where
  lists : ∃ process, table tree.root = some process ∧ process.descendants = some listed
  reachable : ∀ number ∈ tree.root :: listed, table.terminates number = true

/-- The process that is asked to terminate in a step, if one is. -/
def TreeEvent.terminated? : TreeEvent → Option Int
  | .terminate process _ => some process
  | _ => none

/-! ## The order of termination -/

/-- Of two elements of a list without repetitions one stands before the other. -/
theorem not_sublist_of_nodup {α : Type} {elements : List α} {first second : α}
    (hdistinct : elements.Nodup) (h : [first, second] <+ elements) : ¬ [second, first] <+ elements := by
  induction elements with
  | nil => cases h
  | cons element rest ih =>
      obtain ⟨helement, hrest⟩ := List.nodup_cons.1 hdistinct
      rw [List.cons_sublist_cons'] at h
      rw [List.cons_sublist_cons']
      rintro (hback | ⟨rfl, hback⟩)
      · rcases h with h | ⟨rfl, -⟩
        · exact ih hrest h hback
        · exact helement (hback.subset (by simp))
      · rcases h with h | ⟨rfl, h⟩
        · exact helement (h.subset (by simp))
        · exact helement (h.subset (by simp))

theorem ProcessTable.Runs.descendants?_eq {table : ProcessTable} {tree : ProcessTree}
    {listed : List Int} {process : ProcessState} (hruns : table.Runs tree listed)
    (hprocess : process.descendants = some listed) : table.descendants? process = some listed := by
  have hall : (listed.all fun number => (table number).isSome) = true := by
    rw [List.all_eq_true]
    intro number hnumber
    have hreached := hruns.reachable number (List.mem_cons_of_mem _ hnumber)
    unfold terminates at hreached
    cases hfound : table number with
    | none => simp [hfound] at hreached
    | some found => rfl
  rw [descendants?, hprocess, Option.bind_some, if_pos hall]

namespace Requests

variable {table : ProcessTable} {tree : ProcessTree} {listed : List Int} {ancestor process : Int}

/-- The processes of a tree that runs are asked to terminate in the order in which they are listed, with
    the root behind them. -/
theorem sublist_terminateTree_iff (hruns : table.Runs tree listed) {first second : Int} :
    [.terminate first true, .terminate second true] <+ ((terminateTree tree.root).runOn table).2 ↔
      [first, second] <+ listed ++ [tree.root] := by
  obtain ⟨state, hroot, hstate⟩ := hruns.lists
  have hreached : (listed ++ [tree.root]).map
      (fun number => TreeEvent.terminate number (table.terminates number)) =
        (listed ++ [tree.root]).map fun number => TreeEvent.terminate number true := by
    refine List.map_congr_left fun number hnumber => ?_
    rw [hruns.reachable number (by simpa [or_comm] using hnumber)]
  rw [(comesTo_terminateTree hroot).runOn_eq, hruns.descendants?_eq hstate, Option.getD_some, hreached]
  constructor
  · intro h
    have hasked := h.filterMap TreeEvent.terminated?
    simp only [List.cons_append, List.filterMap_cons, List.filterMap_append, List.filterMap_map,
      List.filterMap_nil, TreeEvent.terminated?, Function.comp_def] at hasked
    simpa using hasked
  · intro h
    refine (h.map fun number => TreeEvent.terminate number true).trans ?_
    exact (List.sublist_append_left _ _).trans (List.sublist_cons_self ..)

/-- The order in which a tree that runs is terminated. Its descendants being listed in the order of their
    descent, a process is asked to terminate before an ancestor of it exactly if that ancestor is the
    root. Every other ancestor is asked before it. -/
theorem terminateTree_order (hdistinct : tree.processes.Nodup) (hlisted : tree.Lists listed)
    (hruns : table.Runs tree listed) (h : tree.IsAncestor ancestor process) :
    let steps := ((terminateTree tree.root).runOn table).2
    ([.terminate process true, .terminate ancestor true] <+ steps ↔ ancestor = tree.root) ∧
      ([.terminate ancestor true, .terminate process true] <+ steps ↔ ancestor ≠ tree.root) := by
  intro steps
  have hall : (listed ++ [tree.root]).Nodup := by
    refine ((hlisted.perm.append_right _).trans (List.perm_append_singleton ..)).nodup_iff.2 ?_
    cases tree with
    | node number started => exact hdistinct
  obtain ⟨hancestor, hprocess⟩ := h.cases
  have hprocess : process ∈ listed := hlisted.perm.mem_iff.2 hprocess
  rw [sublist_terminateTree_iff hruns, sublist_terminateTree_iff hruns]
  by_cases hroot : ancestor = tree.root
  · -- the root is the last to be asked
    have hlast : [process, ancestor] <+ listed ++ [tree.root] := by
      rw [hroot]
      exact (List.singleton_sublist.2 hprocess).append_right [tree.root]
    exact ⟨iff_of_true hlast hroot,
      iff_of_false (not_sublist_of_nodup hall hlast) (not_not.2 hroot)⟩
  · -- any other ancestor is listed before the process
    have hmem : ancestor ∈ listed := hlisted.perm.mem_iff.2 (hancestor.resolve_left hroot)
    have hbefore : [ancestor, process] <+ listed ++ [tree.root] :=
      (hlisted.order _ h hmem).trans (List.sublist_append_left ..)
    exact ⟨iff_of_false (not_sublist_of_nodup hall hbefore) hroot, iff_of_true hbefore hroot⟩

/-- A process 1 has started 2, 5 and 6; process 2 has started 3, and that has started 4. They are
    listed in this order of descent, so 2 is asked to terminate before 4. -/
theorem terminateTree_order_grandchild :
    let tree : ProcessTree := .node 1 [.node 2 [.node 3 [.node 4 []]], .node 5 [], .node 6 []]
    let table : ProcessTable := fun number =>
      if number = 1 then some { descendants := some [2, 3, 4, 5, 6] }
      else if number ∈ [2, 3, 4, 5, 6] then some {}
      else none
    let steps := ((terminateTree tree.root).runOn table).2
    tree.processes.Nodup ∧ tree.Lists [2, 3, 4, 5, 6] ∧ table.Runs tree [2, 3, 4, 5, 6] ∧
      tree.IsAncestor 2 4 ∧ [.terminate 2 true, .terminate 4 true] <+ steps ∧
      ¬ [.terminate 4 true, .terminate 2 true] <+ steps := by
  intro tree table steps
  have hdistinct : tree.processes.Nodup := by decide
  have hlisted : tree.Lists [2, 3, 4, 5, 6] := ⟨by decide, by decide⟩
  have hruns : table.Runs tree [2, 3, 4, 5, 6] := ⟨⟨_, rfl, rfl⟩, by decide⟩
  have hancestor : tree.IsAncestor 2 4 := by
    unfold ProcessTree.IsAncestor
    decide
  obtain ⟨hback, hforth⟩ := terminateTree_order hdistinct hlisted hruns hancestor
  exact ⟨hdistinct, hlisted, hruns, hancestor, hforth.2 (by decide), mt hback.1 (by decide)⟩

end Requests

end JuliaNative
