import JuliaNative.Proofs.Keeps
import JuliaNative.Proofs.Requests
import JuliaNative.Tools

set_option autoImplicit false

/-! # How tools end

A command of a stage is started once, and then one of four things happens: it cannot be started, it
is interrupted, the connection to it breaks, or it finishes with a status (`ends_runCommand`). What
a command leaves of the files is all that its run changes of them (`Keeps.runCommand`). Checking a
compiler and asking julia change no file and start no command of a stage. -/

namespace JuliaNative

/-- The world after a command of a stage was started. -/
def World.launched (world : World) (command : List String) (directory : Path)
    (environment : Option Environment) : World :=
  let noted := world.noted .debug
    ("Running in " ++ directory.toString ++ ": " ++ " ".intercalate command)
  let noted := match environment with
    | none => noted
    | some overrides =>
      noted.noted .debug ("PATH override for " ++ programName command ++ ": "
        ++ (overrides.lookup "PATH").getD "")
  noted.remembered (.commandStarted command directory environment)

@[simp] theorem World.files_launched (world : World) (command : List String) (directory : Path)
    (environment : Option Environment) :
    (world.launched command directory environment).files = world.files := by
  cases environment <;> simp [launched]

@[simp] theorem World.started_launched (world : World) (command : List String) (directory : Path)
    (environment : Option Environment) :
    (world.launched command directory environment).started = world.started ++ [command] := by
  cases environment <;> simp [launched, Event.command?]

/-- The files that the run of a command leaves, if it was started. -/
def RunOutcome.files? : RunOutcome → Option FileSystem
  | .notStarted _ => none
  | .interrupted _ changed => some changed
  | .broken _ changed => some changed
  | .finished _ changed => some changed

namespace Action

variable {host : Host} {world : World} {keeps : FileSystem → List (List String) → Prop}
  {failing : Failure → World → Prop} {command : List String} {directory : Path}
  {environment : Option Environment}

/-! ## Commands of stages -/

/-- Terminating a tree never fails. Besides the steps that are remembered it only makes notes. -/
theorem ends_terminateTree {root : Int} {count : Nat} {steps : List TreeEvent} (stays : World → Prop)
    (hrequests : Requests.ComesTo host.processes (Requests.terminateTree root) (.ok count) steps)
    (hstart : stays (world.remembered (.treeTerminated root steps)))
    (hnoted : ∀ before level text, stays before → stays (before.noted level text)) :
    Ends host (terminateTree root) world (fun value after => value = count ∧ stays after)
      failing := by
  have hnote : ∀ event ∈ steps, ∀ before, stays before →
      Ends host (noteTreeEvent event) before (fun _ after => stays after) failing := by
    intro event _ before hbefore
    unfold noteTreeEvent
    split
    · exact hnoted _ _ _ hbefore
    · exact hnoted _ _ _ hbefore
    · exact hbefore
  unfold terminateTree
  rw [ends_bind, ends_read, hrequests.runOn_eq, ends_bind, ends_remember]
  exact (Ends.forM stays hstart hnote).bind fun _ after hafter => ⟨rfl, hafter⟩

theorem Keeps.passInterrupt {α : Type} (process : Int) :
    Keeps host keeps (passInterrupt process : Action α) := by
  intro world hworld
  obtain ⟨count, steps, hrequests⟩ :=
    Requests.exists_comesTo_terminateTree host.processes process
  unfold JuliaNative.passInterrupt
  simp only [ends_bind, ends_discard, ends_remember, ends_throw]
  refine (ends_terminateTree (fun after => keeps after.files after.started) hrequests ?_ ?_).imp
    (fun _ after hafter => ⟨trivial, by simpa [Event.command?] using hafter.2⟩) (fun _ _ h => h)
  · simpa [Event.command?] using hworld
  · exact fun before level text hbefore => by simpa using hbefore

/-- The four ways in which the run of a command ends. -/
theorem ends_runCommand {showOutput : Bool} {task : Task} {description : String}
    {post : Answer → World → Prop} :
    Ends host (runCommand showOutput task description command directory environment) world post
        failing ↔
      match host.run command directory environment world.files with
      | .notStarted error =>
        failing (.error (.stage {
          task
          description :=
            (if description = "" then programName command else description) ++ ": cannot start "
              ++ command.headD "" ++ ": " ++ error.message
          command })) (world.launched command directory environment)
      | .interrupted process changed =>
        Ends host (JuliaNative.passInterrupt process)
          ((world.launched command directory environment).withFiles changed) post failing
      | .broken fault changed =>
        failing (.crash fault.crash)
          ((world.launched command directory environment).withFiles changed)
      | .finished answer changed =>
        if answer.status ≠ 0 then
          failing (.error (.stage {
            task
            description := if description = "" then programName command else description
            command
            status := some answer.status
            stderr := answer.stderr }))
            ((world.launched command directory environment).withFiles changed)
        else
          post answer ((((world.launched command directory environment).withFiles changed).saidIf
            (showOutput && answer.stdout ≠ "") (Text.stripEnd answer.stdout)).saidIf
            (showOutput && answer.stderr ≠ "") (Text.stripEnd answer.stderr)) := by
  have hfiles : (world.launched command directory environment).files = world.files := by simp
  have hlaunch : ∀ next : Action Answer,
      Ends host (noteCommand command directory environment >>= fun _ =>
          remember (.commandStarted command directory environment) >>= fun _ => next) world post
          failing ↔
        Ends host next (world.launched command directory environment) post failing := by
    intro next
    cases environment <;> simp [noteCommand, World.launched]
  unfold runCommand
  rw [hlaunch]
  simp only [ends_bind, ends_read, ends_files, hfiles]
  cases host.run command directory environment world.files <;> simp

/-- Running a command keeps what its start and its run keep. -/
theorem Keeps.runCommand {showOutput : Bool} {task : Task} {description : String}
    (hstart : ∀ files started, keeps files started → keeps files (started ++ [command]))
    (hrun : ∀ files started changed, keeps files started →
      (host.run command directory environment files).files? = some changed →
      keeps changed (started ++ [command])) :
    Keeps host keeps
      (runCommand showOutput task description command directory environment) := by
  intro world hworld
  rw [ends_runCommand]
  have hchanged := hrun world.files world.started
  split
  · exact ⟨.inl rfl, by simpa using hstart _ _ hworld⟩
  · next process changed heq =>
      refine Keeps.passInterrupt process _ ?_
      simpa using hchanged changed hworld (by rw [heq]; rfl)
  · next fault changed heq =>
      exact ⟨trivial, by simpa using hchanged changed hworld (by rw [heq]; rfl)⟩
  · next answer changed heq =>
      have hafter := hchanged changed hworld (by rw [heq]; rfl)
      split
      · exact ⟨.inl rfl, by simpa using hafter⟩
      · simpa using hafter

/-! ## Checks -/

/-- Checking a command changes no file and starts no command of a stage. -/
theorem ends_checkCommand {post : Bool → World → Prop} :
    Ends host (checkCommand command environment) world post failing ↔
      match host.check command environment world.files with
      | .error (.system error) =>
        post false ((world.remembered (.compilerChecked command environment)).noted .debug
          (command.headD "" ++ " is not runnable: " ++ error.message))
      | .error fault =>
        failing (.crash fault.crash) (world.remembered (.compilerChecked command environment))
      | .ok status =>
        post (status = 0) (world.remembered (.compilerChecked command environment)) := by
  unfold checkCommand
  simp only [ends_bind, ends_remember, ends_read, ends_files, World.files_remembered]
  rcases host.check command environment world.files with (_ | _ | _) | _ <;> simp

end Action
end JuliaNative
