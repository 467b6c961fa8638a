import JuliaNative.Build.Pipeline
import JuliaNative.Proofs.Readable
import JuliaNative.Proofs.Tools

set_option autoImplicit false

/-! # The checks before a build

Before its first stage a build checks its inputs and its tools. The checks change no file and start no
command of a stage, whether they succeed or fail, and what they come to is a function of the files
(`Build.inputFault?`, `Build.toolCheck`). A runtime that passes them is one that the stages can work
with (`Build.Suits`). -/

namespace JuliaNative

open JuliaNative.Action

/-- No file was changed and no command of a stage was started. -/
structure World.Untouched (before after : World) : Prop where
  files : after.files = before.files
  started : after.started = before.started

theorem World.Untouched.trans {first second third : World} (hfirst : first.Untouched second)
    (hsecond : second.Untouched third) : first.Untouched third :=
  ⟨hsecond.files.trans hfirst.files, hsecond.started.trans hfirst.started⟩

theorem World.Untouched.said {first second : World} (h : first.Untouched second) (wanted : Bool)
    (text : String) : first.Untouched (second.saidIf wanted text) :=
  ⟨by simpa using h.files, by simpa using h.started⟩

theorem World.Untouched.remembered {first second : World} (h : first.Untouched second)
    (event : Event) (hevent : event.command? = none) : first.Untouched (second.remembered event) :=
  ⟨by simpa using h.files, by simpa [hevent] using h.started⟩

theorem World.Untouched.noted {first second : World} (h : first.Untouched second) (level : Level)
    (text : String) : first.Untouched (second.noted level text) :=
  ⟨by simpa using h.files, by simpa using h.started⟩

/-- The input files of the selected stages, in the order in which they are checked. -/
def ResolvedConfiguration.inputs (resolved : ResolvedConfiguration) : List Path :=
  resolved.program ::
    ((if resolved.stages.executable then [resolved.driverProgram] else [])
      ++ (if resolved.stages.object then resolved.snoopFile.toList else []))

namespace Build

variable {host : Host} {world : World} {resolved : ResolvedConfiguration} {rules : LinkRules}
  {failing : Failure → World → Prop}

/-- The runtime is there if the selected stages need it, its version can be read, and if a program is
    to be compiled its command has the expected shape. -/
def Suits (resolved : ResolvedConfiguration) : Option Runtime → Prop
  | none => resolved.stages.needsRuntime = false
  | some runtime =>
    runtime.Readable ∧
      (resolved.stages.object = true → (BaseCommand.ofList? runtime.command).isSome = true)

/-! ## Inputs -/

theorem ends_requireInput (path : Path) {post : Unit → World → Prop} :
    Ends host (requireInput path) world post failing ↔
      if host.cannotSee world.files path then
        failing (.crash (.system (.at .nameTooLong path))) world
      else if host.seesFile world.files path then post () world
      else failing (.error (.missingInput path "file")) world := by
  unfold requireInput
  rw [ends_bind, ends_isFile]
  simp only [ends_ite, ends_pure, ends_fail]

/-- How the check of input files fails, if one of them is too long a path to be looked at or leads to
    no file. The first such file counts. -/
def inputFault? (host : Host) (files : FileSystem) : List Path → Option Failure
  | [] => none
  | path :: rest =>
    if host.cannotSee files path then some (.crash (.system (.at .nameTooLong path)))
    else if host.seesFile files path then inputFault? host files rest
    else some (.error (.missingInput path "file"))

theorem ends_requireInput_bind {before : World} {path : Path} {rest : List Path}
    {next : Unit → Action Unit} (hbefore : world.Untouched before)
    (hnext : Ends host (next ()) before
      (fun _ after => world.Untouched after ∧ inputFault? host world.files rest = none)
      (fun failure after => world.Untouched after ∧
        inputFault? host world.files rest = some failure)) :
    Ends host (requireInput path >>= next) before
      (fun _ after => world.Untouched after ∧ inputFault? host world.files (path :: rest) = none)
      (fun failure after => world.Untouched after ∧
        inputFault? host world.files (path :: rest) = some failure) := by
  rw [ends_bind, ends_requireInput, hbefore.files]
  unfold inputFault?
  split
  · exact ⟨hbefore, rfl⟩
  · split
    · exact hnext
    · exact ⟨hbefore, rfl⟩

/-- The last check of the inputs: that the script to trace is there, if a program is compiled. -/
def checkScript (resolved : ResolvedConfiguration) : Action Unit :=
  match resolved.snoopFile with
  | none => pure ()
  | some script => if resolved.stages.object then requireInput script else pure ()

/-- Checking the inputs fails exactly at the first faulty one, and changes nothing. -/
theorem ends_checkInputs :
    Ends host (checkInputs resolved) world
      (fun _ after => world.Untouched after ∧
        inputFault? host world.files resolved.inputs = none)
      (fun failure after => world.Untouched after ∧
        inputFault? host world.files resolved.inputs = some failure) := by
  have hscript : ∀ before, world.Untouched before →
      Ends host (checkScript resolved) before
        (fun _ after => world.Untouched after ∧ inputFault? host world.files
          (if resolved.stages.object then resolved.snoopFile.toList else []) = none)
        (fun failure after => world.Untouched after ∧ inputFault? host world.files
          (if resolved.stages.object then resolved.snoopFile.toList else []) = some failure) := by
    intro before hbefore
    unfold checkScript
    cases resolved.snoopFile with
    | none => simpa [inputFault?] using hbefore
    | some script =>
        rw [ends_ite]
        split
        · rw [← bind_pure (requireInput script)]
          exact ends_requireInput_bind hbefore ⟨hbefore, rfl⟩
        · exact ⟨hbefore, rfl⟩
  have hsame : world.Untouched world := ⟨rfl, rfl⟩
  unfold checkInputs ResolvedConfiguration.inputs
  refine ends_requireInput_bind hsame ?_
  rw [ends_bind, announce, ends_sayIf, ends_ite]
  split
  · refine ends_requireInput_bind (hsame.said _ _) ?_
    rw [ends_bind, announce, ends_sayIf]
    exact hscript _ ((hsame.said _ _).said _ _)
  · exact hscript _ (hsame.said _ _)

/-! ## Tools -/

/-- The program that a value names, if it is a text or a path. -/
def programOf : Value → Except Failure String
  | .text name => .ok name
  | .path path => .ok path.toString
  | other => .error (.crash (.pathExpected other.kindName))

theorem ends_requireProgram {value : Value} {post : String → World → Prop} :
    Ends host (requireProgram value) world post failing ↔
      match programOf value with
      | .ok name => post name world
      | .error failure => failing failure world := by
  cases value <;> exact Iff.rfl

/-- What the check of a compiler means for the build. -/
def compilerVerdict (name : String) : Except ToolFault Int → Except Failure Unit
  | .error (.system _) => .error (.error (.toolchainNotFound name ""))
  | .error fault => .error (.crash fault.crash)
  | .ok status => if status = 0 then .ok () else .error (.error (.toolchainNotFound name ""))

/-- What julia's answer about itself means for the build. -/
def reportVerdict (name : String) : Except ToolFault Answer → Except Failure Runtime
  | .error (.system error) => .error (.error (.report (.cannotRun name error)))
  | .error fault => .error (.crash fault.crash)
  | .ok answer =>
    if answer.status ≠ 0 then .error (.error (.report (.exited name answer.status answer.stderr)))
    else (Runtime.ofReport answer.stdout).mapError Runtime.ReportFault.failure

/-- What the check of the compiler comes to. -/
def compilerCheck (host : Host) (resolved : ResolvedConfiguration) (rules : LinkRules)
    (files : FileSystem) : Except Failure Unit :=
  if resolved.stages.needsCompiler then
    match programOf resolved.cc with
    | .error failure => .error failure
    | .ok name =>
      compilerVerdict name
        (host.check (compilerCheckCommand name) (rules.compilerEnvironment host.environment) files)
  else .ok ()

/-- What asking julia about itself comes to. -/
def runtimeReport (host : Host) (julia : Value) (files : FileSystem) : Except Failure Runtime :=
  match programOf julia with
  | .error failure => .error failure
  | .ok name => reportVerdict name (host.report (reportCommand name) files)

/-- What the check of the runtime comes to. -/
def runtimeCheck (host : Host) (resolved : ResolvedConfiguration) (files : FileSystem) :
    Except Failure (Option Runtime) :=
  if resolved.stages.needsRuntime then
    match runtimeReport host resolved.julia files with
    | .error failure => .error failure
    | .ok runtime =>
      if resolved.stages.object = true ∧ (BaseCommand.ofList? runtime.command).isSome = false then
        .error (.error (.incompatibleRuntime runtime.command))
      else .ok (some runtime)
  else .ok none

/-- What the checks of the tools come to. -/
def toolCheck (host : Host) (resolved : ResolvedConfiguration) (rules : LinkRules)
    (files : FileSystem) : Except Failure (Option Runtime) :=
  match compilerCheck host resolved rules files with
  | .error failure => .error failure
  | .ok _ => runtimeCheck host resolved files

theorem ends_checkCompiler (hneeds : resolved.stages.needsCompiler = true) :
    Ends host (checkCompiler resolved.cc (rules.compilerEnvironment host.environment)) world
      (fun _ after => world.Untouched after ∧
        compilerCheck host resolved rules world.files = .ok ())
      (fun failure after => world.Untouched after ∧
        compilerCheck host resolved rules world.files = .error failure) := by
  have hsame : world.Untouched world := ⟨rfl, rfl⟩
  unfold checkCompiler compilerCheck
  rw [ends_bind, ends_requireProgram, if_pos hneeds]
  cases programOf resolved.cc with
  | error failure => exact ⟨hsame, rfl⟩
  | ok name =>
      have hasked := hsame.remembered (.compilerChecked (compilerCheckCommand name)
        (rules.compilerEnvironment host.environment)) rfl
      simp only [ends_bind, ends_checkCommand, ends_ite, ends_pure, ends_fail]
      cases host.check (compilerCheckCommand name) (rules.compilerEnvironment host.environment)
          world.files with
      | error fault =>
          cases fault with
          | system error => exact ⟨hasked.noted _ _, rfl⟩
          | undecodable fault => exact ⟨hasked, rfl⟩
          | nullInArgument => exact ⟨hasked, rfl⟩
      | ok status =>
          simp only [compilerVerdict]
          by_cases hstatus : status = 0
          · simpa [hstatus] using hasked
          · simpa [hstatus] using hasked

theorem ends_askRuntime {before : World} (hbefore : world.Untouched before) {julia : Value} :
    Ends host (askRuntime julia) before
      (fun runtime after => world.Untouched after ∧
        runtimeReport host julia world.files = .ok runtime)
      (fun failure after => world.Untouched after ∧
        runtimeReport host julia world.files = .error failure) := by
  unfold askRuntime runtimeReport
  simp only [ends_bind, ends_note, ends_requireProgram]
  have hnoted := hbefore.noted .debug ("Probing julia runtime: " ++ julia.toText?.getD julia.shown)
  cases programOf julia with
  | error failure => exact ⟨hnoted, rfl⟩
  | ok name =>
      have hasked := hnoted.remembered (.reportAsked (reportCommand name)) rfl
      simp only [ends_remember, ends_read, ends_files, hasked.files]
      cases host.report (reportCommand name) world.files with
      | error fault =>
          cases fault with
          | system error => exact ⟨hasked, rfl⟩
          | undecodable fault => exact ⟨hasked, rfl⟩
          | nullInArgument => exact ⟨hasked, rfl⟩
      | ok answer =>
          simp only [ends_ite, ends_fail, ends_ofExcept, reportVerdict]
          by_cases hstatus : answer.status ≠ 0
          · simpa [hstatus] using hasked
          · simp only [hstatus, if_false]
            cases Runtime.ofReport answer.stdout with
            | error fault => exact ⟨hasked, rfl⟩
            | ok runtime => exact ⟨hasked, rfl⟩

/-- The check of the runtime: julia is asked about itself if a stage needs it, and then its command has to
    have the shape that compiling needs if the program is to be compiled. -/
def checkRuntime (resolved : ResolvedConfiguration) : Action (Option Runtime) := do
  if resolved.stages.needsRuntime then
    let runtime ← askRuntime resolved.julia
    if resolved.stages.object then requireCommand runtime
    return some runtime
  else return none

/-- Julia is only asked when the compiler has passed its check. -/
theorem checkTools_eq (resolved : ResolvedConfiguration) (rules : LinkRules) :
    checkTools resolved rules = (do
      if resolved.stages.needsCompiler then
        checkCompiler resolved.cc (rules.compilerEnvironment (← read).environment)
      checkRuntime resolved) := rfl

theorem ends_checkRuntime {start : World} (hworld : start.Untouched world) :
    Ends host (checkRuntime resolved) world
      (fun runtime after => start.Untouched after ∧
        runtimeCheck host resolved start.files = .ok runtime)
      (fun failure after => start.Untouched after ∧
        runtimeCheck host resolved start.files = .error failure) := by
  unfold checkRuntime runtimeCheck
  simp only [ends_ite, ends_bind, ends_pure]
  split
  · refine (ends_askRuntime hworld).imp ?_ ?_
    · rintro runtime after ⟨hafter, hreport⟩
      rw [hreport]
      unfold requireCommand
      simp only [ends_ite, ends_pure, ends_fail]
      split
      · next hobject =>
          split
          · next hsome => simpa [hobject, hsome] using hafter
          · next hsome => simpa [hobject, hsome] using hafter
      · next hobject => simpa [hobject] using hafter
    · rintro failure after ⟨hafter, hreport⟩
      exact ⟨hafter, by rw [hreport]⟩
  · exact ⟨hworld, rfl⟩

/-- Checking the tools changes nothing. -/
theorem ends_checkTools :
    Ends host (checkTools resolved rules) world
      (fun runtime after => world.Untouched after ∧
        toolCheck host resolved rules world.files = .ok runtime)
      (fun failure after => world.Untouched after ∧
        toolCheck host resolved rules world.files = .error failure) := by
  have hruntime : ∀ before, world.Untouched before →
      compilerCheck host resolved rules world.files = .ok () →
      Ends host (checkRuntime resolved) before
        (fun runtime after => world.Untouched after ∧
          toolCheck host resolved rules world.files = .ok runtime)
        (fun failure after => world.Untouched after ∧
          toolCheck host resolved rules world.files = .error failure) := by
    intro before hbefore hcompiler
    unfold toolCheck
    rw [hcompiler]
    exact ends_checkRuntime hbefore
  rw [checkTools_eq]
  simp only [ends_ite, ends_bind, ends_read]
  split
  · next hneeds =>
      refine (ends_checkCompiler hneeds).imp ?_ ?_
      · rintro _ after ⟨hafter, hcompiler⟩
        exact hruntime after hafter hcompiler
      · rintro failure after ⟨hafter, hcompiler⟩
        exact ⟨hafter, by simp [toolCheck, hcompiler]⟩
  · next hneeds => exact hruntime world ⟨rfl, rfl⟩ (by simp [compilerCheck, hneeds])

theorem readable_of_runtimeReport {files : FileSystem} {julia : Value} {runtime : Runtime}
    (h : runtimeReport host julia files = .ok runtime) : runtime.Readable := by
  unfold runtimeReport at h
  split at h
  · cases h
  · unfold reportVerdict at h
    split at h
    · cases h
    · cases h
    · split at h
      · cases h
      · next answer _ _ =>
          cases hreport : Runtime.ofReport answer.stdout with
          | error fault =>
              rw [hreport] at h
              cases h
          | ok reported =>
              rw [hreport] at h
              obtain rfl := Except.ok.inj h
              exact Runtime.readable_of_ofReport hreport

/-- A runtime that passes the checks suits the selected stages. -/
theorem suits_of_toolCheck {files : FileSystem} {runtime : Option Runtime}
    (h : toolCheck host resolved rules files = .ok runtime) : Suits resolved runtime := by
  unfold toolCheck runtimeCheck at h
  split at h
  · cases h
  · split at h
    · next hneeds =>
        split at h
        · cases h
        · next reported hreport =>
            split at h
            · cases h
            · next hshape =>
                obtain rfl := Except.ok.inj h
                refine ⟨?_, fun hobject => ?_⟩
                · exact readable_of_runtimeReport hreport
                · exact (Bool.eq_false_or_eq_true _).resolve_right fun hnone =>
                    hshape ⟨hobject, hnone⟩
    · next hneeds =>
        obtain rfl := Except.ok.inj h
        simpa [Suits] using hneeds

end Build
end JuliaNative
