import JuliaNative.Decimal

set_option autoImplicit false

/-! # Terminating process trees

A tool may start processes of its own. To stop it, every descendant is asked to terminate and then
the tool itself; those that are still alive after a while are killed. Any process may vanish before
a request reaches it. The request then fails, and whoever terminates the tree goes on without that
process. -/

namespace JuliaNative

/-- How a process takes the requests that are made to it: the descendants that it lists, unless it
    vanishes before, whether the requests to terminate and to kill reach it, and whether it stays
    alive when asked to terminate. -/
structure ProcessState where
  descendants : Option (List Int) := some []
  takesTerminate : Bool := true
  takesKill : Bool := true
  isStubborn : Bool := false
deriving DecidableEq, Repr

/-- The processes of a machine by their numbers. -/
abbrev ProcessTable := Int → Option ProcessState

/-- A step in terminating a tree. The flag says whether the process was still there. -/
inductive TreeEvent
  | listed (process : Int) (present : Bool)
  | terminate (process : Int) (present : Bool)
  | awaited (processes : List Int)
  | kill (process : Int) (present : Bool)
deriving DecidableEq, Repr

/-- How long processes may take to terminate before they are killed, in seconds. -/
def gracePeriod : Decimal := ⟨false, 30, -1⟩

namespace ProcessTable

/-- The descendants of a process, if all of them are there when they are listed. -/
def descendants? (table : ProcessTable) (process : ProcessState) : Option (List Int) :=
  process.descendants.bind fun listed =>
    if listed.all fun number => (table number).isSome then some listed else none

/-- Whether a request to terminate reaches a process. -/
def terminates (table : ProcessTable) (number : Int) : Bool :=
  ((table number).map (·.takesTerminate)).getD false

/-- Whether a request to kill reaches a process. -/
def kills (table : ProcessTable) (number : Int) : Bool :=
  ((table number).map (·.takesKill)).getD false

/-- Whether a process stays alive when asked to terminate. -/
def survives (table : ProcessTable) (number : Int) : Bool :=
  ((table number).map (·.isStubborn)).getD false

end ProcessTable

/-! ## Requests -/

/-- A process has vanished before a request could reach it. -/
structure Vanished where
  process : Int
deriving DecidableEq, Repr

/-- Computations that make requests to the processes of a machine. They keep the steps that were
    taken, and fail at a process that has vanished. -/
abbrev Requests := ReaderT ProcessTable (ExceptT Vanished (StateM (List TreeEvent)))

namespace Requests

/-- Makes requests to the processes of a table: how that ends, and the steps that were taken. -/
def runOn {α : Type} (requests : Requests α) (table : ProcessTable) :
    Except Vanished α × List TreeEvent :=
  (requests.run table).run []

/-- Takes a step. -/
def take (step : TreeEvent) : Requests Unit :=
  modify (· ++ [step])

/-- Finds a process by its number. -/
def find (number : Int) : Requests ProcessState := do
  match (← read) number with
  | some process => pure process
  | none => throw ⟨number⟩

/-- Lists the descendants of a process, all of which have to be there. -/
def list (number : Int) (process : ProcessState) : Requests (List Int) := do
  take (.listed number process.descendants.isSome)
  match (← read).descendants? process with
  | some listed => pure listed
  | none => throw ⟨number⟩

/-- Makes a request to a process. -/
def request (step : Int → Bool → TreeEvent) (takes : ProcessTable → Int → Bool) (number : Int) :
    Requests Unit := do
  let present := takes (← read) number
  take (step number present)
  if present then pure () else throw ⟨number⟩

/-- Asks a process to terminate. -/
def terminate (number : Int) : Requests Unit :=
  request .terminate ProcessTable.terminates number

/-- Kills a process. -/
def kill (number : Int) : Requests Unit :=
  request .kill ProcessTable.kills number

/-- Waits for processes to end, and tells which of them are still alive after a while. -/
def wait (numbers : List Int) : Requests (List Int) := do
  take (.awaited numbers)
  return numbers.filter (← read).survives

/-- Whether a request reaches its process. -/
def reaches (request : Requests Unit) : Requests Bool :=
  tryCatch (do request; return true) fun _ => return false

/-- Terminates the tree of processes below a process, the process itself last, and tells how many
    of them were reached. Where the descendants cannot be listed only the process itself is
    terminated. -/
def terminateTree (root : Int) : Requests Nat := do
  match ← tryCatch (some <$> find root) fun _ => return none with
  | none => return 0
  | some process =>
    let listed ← tryCatch (list root process) fun _ => return []
    let reached ← (listed ++ [root]).filterM fun number => reaches (terminate number)
    let alive ← wait reached
    alive.forM fun number => discard (reaches (kill number))
    return reached.length

end Requests
end JuliaNative
