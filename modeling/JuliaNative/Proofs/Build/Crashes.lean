import JuliaNative.Proofs.Build.Escapes
import Mathlib.Control.Monad.Basic

set_option autoImplicit false

/-! # Which builds crash

Every failure of a build should be one of the errors that it foresees, apart from an interrupt. Some are
not: refusals of the system and bytes that are no text escape from steps that do not expect them. The
build crashes exactly then (`Configuration.build_crashes_iff_escapes`); a trace that is no text is enough
(`Configuration.build_crashes_on_undecodable_trace`). -/

namespace JuliaNative

open JuliaNative.FileSystem JuliaNative.Action

/-- Whether a fault of a tool is one that the checks of the tools expect. -/
def ToolFault.isExpected : ToolFault → Bool
  | .system _ => true
  | .undecodable _ => false
  | .nullInArgument => false

namespace Build

variable {host : Host} {world : World} {resolved : ResolvedConfiguration} {rules : LinkRules}
  {runtime : Option Runtime} {result : BuildResult} {files : FileSystem}

/-! ## Checks -/

/-- Checking the inputs crashes: one of them has a path too long to be looked at, and those before it are
    files. -/
def InputsEscape (host : Host) (inputs : List Path) (files : FileSystem) : Prop :=
  ∃ earlier path later, inputs = earlier ++ path :: later ∧
    (∀ other ∈ earlier, host.seesFile files other = true) ∧ host.cannotSee files path = true

theorem crash_of_inputFault_iff {inputs : List Path} :
    (∃ cause, inputFault? host files inputs = some (.crash cause)) ↔
      InputsEscape host inputs files := by
  induction inputs with
  | nil => simp [inputFault?, InputsEscape]
  | cons path rest ih =>
      unfold inputFault?
      split
      · next hlong => exact iff_of_true ⟨_, rfl⟩ ⟨[], path, rest, rfl, List.forall_mem_nil _, hlong⟩
      · next hshort =>
          split
          · next hfile =>
              rw [ih]
              constructor
              · rintro ⟨earlier, other, later, rfl, hearlier, hlong⟩
                exact ⟨path :: earlier, other, later, rfl, by simpa [hfile] using hearlier, hlong⟩
              · rintro ⟨_ | ⟨_, earlier⟩, other, later, heq, hearlier, hlong⟩
                · cases heq
                  exact absurd hlong hshort
                · cases heq
                  exact ⟨earlier, other, later, rfl, fun another hmem =>
                    hearlier another (List.mem_cons_of_mem _ hmem), hlong⟩
          · next hnone =>
              refine iff_of_false (by simp) ?_
              rintro ⟨_ | ⟨_, earlier⟩, other, later, heq, hearlier, hlong⟩
              · cases heq
                exact hshort hlong
              · cases heq
                exact hnone (hearlier _ (List.mem_cons_self ..))

/-- An action whose end tells which failure it ends with crashes exactly if that is a crash. -/
theorem crashes_iff_of_ends {α : Type} {action : Action α} {fails : Failure → Prop}
    (h : Ends host action world (fun _ _ => ∀ failure, ¬ fails failure)
      (fun failure _ => ∀ other, fails other ↔ other = failure)) :
    Crashes host action world ↔ ∃ cause, fails (.crash cause) := by
  rw [crashes_iff_ends]
  unfold Ends at h ⊢
  split
  · next heq =>
      rw [heq] at h
      simp [h]
  · next heq =>
      rw [heq] at h
      simp only [h, eq_comm]

theorem crashes_checkInputs :
    Crashes host (checkInputs resolved) world ↔
      InputsEscape host resolved.inputs world.files := by
  have hends : Ends host (checkInputs resolved) world
      (fun _ _ => ∀ failure, ¬ inputFault? host world.files resolved.inputs = some failure)
      (fun failure _ => ∀ other,
        inputFault? host world.files resolved.inputs = some other ↔ other = failure) := by
    refine ends_checkInputs.imp ?_ ?_
    · rintro _ after ⟨-, hnone⟩ failure
      simp [hnone]
    · rintro failure after ⟨-, hsome⟩ other
      simp [hsome, eq_comm]
  rw [← crash_of_inputFault_iff]
  exact crashes_iff_of_ends hends

/-- Checking the compiler crashes: it is given by a value that names no program, or its check ends with a
    fault that is not expected. -/
inductive CompilerEscapes (host : Host) (resolved : ResolvedConfiguration) (rules : LinkRules)
    (files : FileSystem) : Prop
  | unnamed {failure : Failure} (hneeds : resolved.stages.needsCompiler = true)
    (h : programOf resolved.cc = .error failure) : CompilerEscapes host resolved rules files
  | unexpected {name : String} {fault : ToolFault} (hneeds : resolved.stages.needsCompiler = true)
    (hname : programOf resolved.cc = .ok name)
    (hcheck : host.check (compilerCheckCommand name) (rules.compilerEnvironment host.environment)
      files = .error fault)
    (h : fault.isExpected = false) : CompilerEscapes host resolved rules files

/-- Asking julia about itself crashes: it is given by a value that names no program, its answer does not
    come for a fault that is not expected, or it reports a version with a number too long to be read. -/
inductive ReportEscapes (host : Host) (resolved : ResolvedConfiguration) (files : FileSystem) : Prop
  | unnamed {failure : Failure} (hneeds : resolved.stages.needsRuntime = true)
    (h : programOf resolved.julia = .error failure) : ReportEscapes host resolved files
  | unexpected {name : String} {fault : ToolFault} (hneeds : resolved.stages.needsRuntime = true)
    (hname : programOf resolved.julia = .ok name)
    (hreport : host.report (reportCommand name) files = .error fault)
    (h : fault.isExpected = false) : ReportEscapes host resolved files
  | versionTooLong {name : String} {answer : Answer} {digits : Nat}
    (hneeds : resolved.stages.needsRuntime = true) (hname : programOf resolved.julia = .ok name)
    (hreport : host.report (reportCommand name) files = .ok answer) (hstatus : answer.status = 0)
    (h : Runtime.ofReport answer.stdout = .error (.versionTooLong digits)) :
    ReportEscapes host resolved files

theorem crash_of_programOf {value : Value} {failure : Failure} (h : programOf value = .error failure) :
    ∃ cause, failure = .crash cause := by
  cases value <;> cases h <;> exact ⟨_, rfl⟩

theorem crash_of_compilerVerdict_iff {name : String} {checked : Except ToolFault Int} :
    (∃ cause, compilerVerdict name checked = .error (.crash cause)) ↔
      ∃ fault, checked = .error fault ∧ fault.isExpected = false := by
  rcases checked with (_ | _ | _) | status
  · simp [compilerVerdict, ToolFault.isExpected]
  · simp [compilerVerdict, ToolFault.isExpected]
  · simp [compilerVerdict, ToolFault.isExpected]
  · by_cases hstatus : status = 0 <;> simp [compilerVerdict, hstatus]

theorem crash_of_compilerCheck_iff :
    (∃ cause, compilerCheck host resolved rules files = .error (.crash cause)) ↔
      CompilerEscapes host resolved rules files := by
  unfold compilerCheck
  split
  · next hneeds =>
      cases hname : programOf resolved.cc with
      | error failure =>
          obtain ⟨cause, rfl⟩ := crash_of_programOf hname
          exact iff_of_true ⟨cause, rfl⟩ (.unnamed hneeds hname)
      | ok name =>
          simp only [crash_of_compilerVerdict_iff]
          constructor
          · rintro ⟨fault, hcheck, h⟩
            exact .unexpected hneeds hname hcheck h
          · rintro (⟨-, h⟩ | ⟨-, hname', hcheck, h⟩)
            · cases hname.symm.trans h
            · cases hname.symm.trans hname'
              exact ⟨_, hcheck, h⟩
  · next hneeds =>
      refine iff_of_false (by simp) ?_
      rintro (⟨h, -⟩ | ⟨h, -, -, -⟩)
      · exact hneeds h
      · exact hneeds h

theorem crash_of_reportVerdict_iff {name : String} {report : Except ToolFault Answer} :
    (∃ cause, reportVerdict name report = .error (.crash cause)) ↔
      (∃ fault, report = .error fault ∧ fault.isExpected = false) ∨
        ∃ answer digits, report = .ok answer ∧ answer.status = 0 ∧
          Runtime.ofReport answer.stdout = .error (.versionTooLong digits) := by
  rcases report with (_ | _ | _) | answer
  · simp [reportVerdict, ToolFault.isExpected]
  · simp [reportVerdict, ToolFault.isExpected]
  · simp [reportVerdict, ToolFault.isExpected]
  · by_cases hstatus : answer.status = 0
    · simp only [reportVerdict, hstatus, ne_eq, not_true, if_false]
      rcases hreport : Runtime.ofReport answer.stdout with (issue | digits) | reported
      · simp [Except.mapError, Runtime.ReportFault.failure, hreport]
      · simp [Except.mapError, Runtime.ReportFault.failure, hreport, hstatus]
      · simp [Except.mapError, hreport]
    · simp [reportVerdict, hstatus]

theorem crash_of_runtimeCheck_iff :
    (∃ cause, runtimeCheck host resolved files = .error (.crash cause)) ↔
      ReportEscapes host resolved files := by
  unfold runtimeCheck
  split
  · next hneeds =>
      have hreport : (∃ cause, runtimeReport host resolved.julia files = .error (.crash cause)) ↔
          ReportEscapes host resolved files := by
        unfold runtimeReport
        cases hname : programOf resolved.julia with
        | error failure =>
            obtain ⟨cause, rfl⟩ := crash_of_programOf hname
            exact iff_of_true ⟨cause, rfl⟩ (.unnamed hneeds hname)
        | ok name =>
            simp only [crash_of_reportVerdict_iff]
            constructor
            · rintro (⟨fault, hreport, h⟩ | ⟨answer, digits, hreport, hstatus, h⟩)
              · exact .unexpected hneeds hname hreport h
              · exact .versionTooLong hneeds hname hreport hstatus h
            · rintro (⟨-, h⟩ | ⟨-, hname', hreport, h⟩ | ⟨-, hname', hreport, hstatus, h⟩)
              · cases hname.symm.trans h
              · cases hname.symm.trans hname'
                exact .inl ⟨_, hreport, h⟩
              · cases hname.symm.trans hname'
                exact .inr ⟨_, _, hreport, hstatus, h⟩
      rw [← hreport]
      cases runtimeReport host resolved.julia files with
      | error failure => simp
      | ok reported =>
          simp only
          split <;> simp
  · next hneeds =>
      refine iff_of_false (by simp) ?_
      rintro (⟨h, -⟩ | ⟨h, -, -, -⟩ | ⟨h, -, -, -, -⟩)
      · exact hneeds h
      · exact hneeds h
      · exact hneeds h

/-- Checking the tools crashes: in the check of the compiler, or after it in the report of julia. -/
inductive ToolsEscape (host : Host) (resolved : ResolvedConfiguration) (rules : LinkRules)
    (files : FileSystem) : Prop
  | compiler (h : CompilerEscapes host resolved rules files) : ToolsEscape host resolved rules files
  | report (hcompiler : compilerCheck host resolved rules files = .ok ())
    (h : ReportEscapes host resolved files) : ToolsEscape host resolved rules files

theorem crash_of_toolCheck_iff :
    (∃ cause, toolCheck host resolved rules files = .error (.crash cause)) ↔
      ToolsEscape host resolved rules files := by
  unfold toolCheck
  cases hcompiler : compilerCheck host resolved rules files with
  | error failure =>
      simp only [Except.error.injEq]
      constructor
      · rintro ⟨cause, rfl⟩
        exact .compiler (crash_of_compilerCheck_iff.1 ⟨cause, hcompiler⟩)
      · rintro (h | ⟨hok, -⟩)
        · obtain ⟨cause, hcause⟩ := crash_of_compilerCheck_iff.2 h
          cases hcompiler.symm.trans hcause
          exact ⟨cause, rfl⟩
        · cases hcompiler.symm.trans hok
  | ok _ =>
      rw [crash_of_runtimeCheck_iff]
      constructor
      · exact .report hcompiler
      · rintro (h | ⟨-, h⟩)
        · obtain ⟨cause, hcause⟩ := crash_of_compilerCheck_iff.2 h
          cases hcompiler.symm.trans hcause
        · exact h

theorem crashes_checkTools :
    Crashes host (checkTools resolved rules) world ↔
      ToolsEscape host resolved rules world.files := by
  have hends : Ends host (checkTools resolved rules) world
      (fun _ _ => ∀ failure, ¬ toolCheck host resolved rules world.files = .error failure)
      (fun failure _ => ∀ other,
        toolCheck host resolved rules world.files = .error other ↔ other = failure) := by
    refine ends_checkTools.imp ?_ ?_
    · rintro runtime after ⟨-, hok⟩ failure
      simp [hok]
    · rintro failure after ⟨-, herror⟩ other
      simp [herror, eq_comm]
  rw [← crash_of_toolCheck_iff]
  exact crashes_iff_of_ends hends

/-- The programs that were asked when the tools were checked are named. -/
theorem namesPrograms_of_toolCheck (h : toolCheck host resolved rules files = .ok runtime)
    (hruntime : runtime.isSome = true) : NamesPrograms resolved := by
  unfold toolCheck compilerCheck runtimeCheck runtimeReport at h
  refine ⟨?_, fun hneeds => ?_⟩
  · cases hjulia : programOf resolved.julia with
    | ok name => exact ⟨name, rfl⟩
    | error failure =>
        simp only [hjulia] at h
        split at h
        · cases h
        · split at h
          · cases h
          · cases h
            cases hruntime
  · cases hcompiler : programOf resolved.cc with
    | ok name => exact ⟨name, rfl⟩
    | error failure =>
        simp only [hcompiler, if_pos hneeds] at h
        cases h

/-! ## The stages after the links -/

/-- The stages after the links crash: removing temporary files, or one of the two copies. -/
inductive FinishEscapes (host : Host) (resolved : ResolvedConfiguration) (rules : LinkRules)
    (runtime : Option Runtime) (result : BuildResult) (world : World) : Prop
  | removing (hselected : resolved.stages.removeTemp = true)
    (h : (workshop resolved).stager.RemovalEscapes host world) :
    FinishEscapes host resolved rules runtime result world
  | copyingLibraries {reported : Runtime} {removed : BuildResult} {mid : World}
    (hremoved : Returns host (removeTempStage resolved result) world removed mid)
    (hselected : resolved.stages.copyRuntimeLibs = true) (hruntime : runtime = some reported)
    (h : (workshop resolved).stager.LibrariesEscape host rules reported mid) :
    FinishEscapes host resolved rules runtime result world
  | copyingFiles {removed copied : BuildResult} {mid last : World}
    (hremoved : Returns host (removeTempStage resolved result) world removed mid)
    (hcopied : Returns host (copyRuntimeLibsStage resolved rules runtime removed) mid copied last)
    (hselected : resolved.stages.copyUserFiles = true)
    (h : Meets host (workshop resolved).stager.copyFile
      (fun source mid => (workshop resolved).stager.CannotCompare host source mid.files)
      resolved.copyFiles (last.saidIf resolved.verbose "Copy user-specified files to build directory:")) :
    FinishEscapes host resolved rules runtime result world

theorem crashes_removeTempStage (hnull : resolved.buildDir.hasNull = false) :
    Crashes host (removeTempStage resolved result) world ↔
      resolved.stages.removeTemp = true ∧
        (workshop resolved).stager.RemovalEscapes host world := by
  unfold removeTempStage
  rw [crashes_stage, crashes_bind_pure, Stager.crashes_removeTemporary hnull]
  rfl

theorem crashes_copyRuntimeLibsStage (hnull : resolved.buildDir.hasNull = false) :
    Crashes host (copyRuntimeLibsStage resolved rules runtime result) world ↔
      resolved.stages.copyRuntimeLibs = true ∧ ∃ reported, runtime = some reported ∧
        (workshop resolved).stager.LibrariesEscape host rules reported world := by
  unfold copyRuntimeLibsStage
  rw [crashes_stage]
  refine and_congr Iff.rfl ?_
  cases runtime with
  | none => simp
  | some reported =>
      simp only [crashes_bind_pure]
      rw [Stager.crashes_copyRuntimeLibraries hnull]
      simp

theorem crashes_copyUserFilesStage (hnull : resolved.buildDir.hasNull = false) :
    Crashes host (copyUserFilesStage resolved result) world ↔
      resolved.stages.copyUserFiles = true ∧
        Meets host (workshop resolved).stager.copyFile
          (fun source mid => (workshop resolved).stager.CannotCompare host source mid.files)
          resolved.copyFiles
          (world.saidIf resolved.verbose "Copy user-specified files to build directory:") := by
  unfold copyUserFilesStage
  rw [crashes_stage, crashes_bind_pure, Stager.crashes_copyFiles hnull]
  rfl

theorem crashes_finish (hnull : resolved.buildDir.hasNull = false) :
    Crashes host (finish resolved rules runtime result) world ↔
      FinishEscapes host resolved rules runtime result world := by
  unfold finish
  simp only [crashes_bind, crashes_removeTempStage hnull, crashes_copyRuntimeLibsStage hnull,
    crashes_copyUserFilesStage hnull]
  constructor
  · rintro (⟨hselected, h⟩ | ⟨removed, mid, hremoved, ⟨hselected, reported, hruntime, h⟩ |
      ⟨copied, last, hcopied, hselected, h⟩⟩)
    · exact .removing hselected h
    · exact .copyingLibraries hremoved hselected hruntime h
    · exact .copyingFiles hremoved hcopied hselected h
  · rintro (⟨hselected, h⟩ | ⟨hremoved, hselected, hruntime, h⟩ | ⟨hremoved, hcopied, hselected, h⟩)
    · exact .inl ⟨hselected, h⟩
    · exact .inr ⟨_, _, hremoved, .inl ⟨hselected, _, hruntime, h⟩⟩
    · exact .inr ⟨_, _, hremoved, .inr ⟨_, _, hcopied, hselected, h⟩⟩

/-! ## The whole build -/

/-- The build directory was cleaned, if that was selected, and there is more to do. -/
def GetsCleaned (host : Host) (resolved : ResolvedConfiguration) (checked : World)
    (begun : BuildResult) (cleaned : World) : Prop :=
  resolved.stages.onlyClean = false ∧
    Returns host (cleanStage resolved { buildDir := resolved.buildDir }) checked begun cleaned

/-- The build directory was made after that. -/
def GetsReady (host : Host) (resolved : ResolvedConfiguration) (checked : World)
    (begun : BuildResult) (ready : World) : Prop :=
  ∃ cleaned made, GetsCleaned host resolved checked begun cleaned ∧
    Returns host (workshop resolved).stager.ensureBuildDir cleaned made ready

/-- The work after the checks crashes: where the path of the build directory is none that the system
    takes, in the stages that compile and link, or in those after the links. -/
inductive WorkEscapes (host : Host) (resolved : ResolvedConfiguration) (rules : LinkRules)
    (runtime : Option Runtime) (checked : World) : Prop
  | cleaning (hselected : resolved.stages.clean = true)
    (h : host.cannotSee checked.files resolved.buildDir = true) :
    WorkEscapes host resolved rules runtime checked
  | making {begun : BuildResult} {cleaned : World}
    (hcleaned : GetsCleaned host resolved checked begun cleaned)
    (h : host.cannotSee cleaned.files resolved.buildDir = true ∨ resolved.buildDir.hasNull = true) :
    WorkEscapes host resolved rules runtime checked
  | producing {begun : BuildResult} {ready : World}
    (hready : GetsReady host resolved checked begun ready)
    (h : ProduceEscapes host resolved rules runtime begun ready) :
    WorkEscapes host resolved rules runtime checked
  | finishing {begun produced : BuildResult} {ready linked : World}
    (hready : GetsReady host resolved checked begun ready)
    (hproduced : Returns host (produce resolved rules runtime begun) ready produced linked)
    (h : FinishEscapes host resolved rules runtime produced linked) :
    WorkEscapes host resolved rules runtime checked

theorem crashes_cleanStage :
    Crashes host (cleanStage resolved result) world ↔
      resolved.stages.clean = true ∧ host.cannotSee world.files resolved.buildDir = true := by
  unfold cleanStage
  rw [crashes_stage, crashes_bind_left fun _ _ => not_crashes_pure _, crashes_discard,
    Stager.crashes_clean]
  rfl

theorem not_crashes_conclude {message : String} {start : Seconds} :
    ¬ Crashes host (conclude resolved message start result) world := by
  have hends : Ends host (conclude resolved message start result) world (fun _ _ => True)
      (fun _ _ => False) := ends_conclude fun _ _ _ _ => trivial
  exact hends.not_crashes fun _ _ => id

/-- In a build directory that is there, the work crashes in the stages that compile and link, or in those
    after the links. -/
theorem crashes_inside {start : Seconds} {begun : BuildResult} {ready : World}
    (htools : toolCheck host resolved rules files = .ok runtime)
    (hnull : resolved.buildDir.hasNull = false) :
    Crashes host (do
      let result ← produce resolved rules runtime begun
      let result ← finish resolved rules runtime result
      conclude resolved "All done" start result) ready ↔
      ProduceEscapes host resolved rules runtime begun ready ∨
        ∃ produced linked, Returns host (produce resolved rules runtime begun) ready produced linked ∧
          FinishEscapes host resolved rules runtime produced linked := by
  rw [crashes_bind, crashes_produce (suits_of_toolCheck htools)
    (namesPrograms_of_toolCheck htools) hnull]
  simp only [crashes_bind_left fun _ _ => not_crashes_conclude, crashes_finish hnull]

/-- After cleaning, the work crashes in making the build directory, or inside of it. -/
theorem crashes_afterCleaning {start : Seconds} {begun : BuildResult} {cleaned : World}
    (htools : toolCheck host resolved rules files = .ok runtime) :
    Crashes host (do
      discard (workshop resolved).stager.ensureBuildDir
      let result ← produce resolved rules runtime begun
      let result ← finish resolved rules runtime result
      conclude resolved "All done" start result) cleaned ↔
      (host.cannotSee cleaned.files resolved.buildDir = true ∨ resolved.buildDir.hasNull = true) ∨
        ∃ made ready, Returns host (workshop resolved).stager.ensureBuildDir cleaned made ready ∧
          (ProduceEscapes host resolved rules runtime begun ready ∨
            ∃ produced linked,
              Returns host (produce resolved rules runtime begun) ready produced linked ∧
                FinishEscapes host resolved rules runtime produced linked) := by
  rw [crashes_bind, crashes_discard, Stager.crashes_ensureBuildDir]
  refine or_congr Iff.rfl ?_
  constructor
  · rintro ⟨_, ready, hready, h⟩
    obtain ⟨made, hmade⟩ := returns_discard.1 hready
    -- the directory that was made has no null character in its path, so the stages cannot meet one
    have hnull := Stager.hasNull_of_returns_ensureBuildDir hmade
    exact ⟨made, ready, hmade, (crashes_inside htools hnull).1 h⟩
  · rintro ⟨made, ready, hmade, h⟩
    have hnull := Stager.hasNull_of_returns_ensureBuildDir hmade
    exact ⟨⟨⟩, ready, returns_discard.2 ⟨made, hmade⟩, (crashes_inside htools hnull).2 h⟩

theorem crashes_work {start : Seconds} {checked : World}
    (htools : toolCheck host resolved rules files = .ok runtime) :
    Crashes host (work resolved rules runtime start) checked ↔
      WorkEscapes host resolved rules runtime checked := by
  unfold work
  rw [crashes_bind, crashes_cleanStage]
  cases honly : resolved.stages.onlyClean with
  | true =>
      -- there is nothing more to do than to clean
      simp only [if_true, not_crashes_conclude, and_false, exists_false, or_false]
      constructor
      · exact fun ⟨hselected, h⟩ => .cleaning hselected h
      · rintro (⟨hselected, h⟩ | ⟨⟨h, -⟩, -⟩ | ⟨⟨-, -, ⟨h, -⟩, -⟩, -⟩ | ⟨⟨-, -, ⟨h, -⟩, -⟩, -, -⟩)
        · exact ⟨hselected, h⟩
        · cases honly.symm.trans h
        · cases honly.symm.trans h
        · cases honly.symm.trans h
  | false =>
      simp only [Bool.false_eq_true, if_false]
      constructor
      · rintro (⟨hselected, h⟩ | ⟨begun, cleaned, hclean, h⟩)
        · exact .cleaning hselected h
        · obtain h | ⟨made, ready, hmade, h⟩ := (crashes_afterCleaning htools).1 h
          · exact .making ⟨honly, hclean⟩ h
          · have hready : GetsReady host resolved checked begun ready :=
              ⟨cleaned, made, ⟨honly, hclean⟩, hmade⟩
            obtain h | ⟨produced, linked, hproduced, h⟩ := h
            · exact .producing hready h
            · exact .finishing hready hproduced h
      · rintro (⟨hselected, h⟩ | ⟨⟨-, hclean⟩, h⟩ | ⟨hready, h⟩ | ⟨hready, hproduced, h⟩)
        · exact .inl ⟨hselected, h⟩
        · exact .inr ⟨_, _, hclean, (crashes_afterCleaning htools).2 (.inl h)⟩
        · obtain ⟨cleaned, made, ⟨-, hclean⟩, hmade⟩ := hready
          refine .inr ⟨_, _, hclean, (crashes_afterCleaning htools).2 (.inr ?_)⟩
          exact ⟨made, _, hmade, .inl h⟩
        · obtain ⟨cleaned, made, ⟨-, hclean⟩, hmade⟩ := hready
          refine .inr ⟨_, _, hclean, (crashes_afterCleaning htools).2 (.inr ?_)⟩
          exact ⟨made, _, hmade, .inr ⟨_, _, hproduced, h⟩⟩

/-- A run after the checks of the inputs crashes: in the checks of the tools, or in the work after
    them. -/
inductive StagesEscape (host : Host) (resolved : ResolvedConfiguration) (world : World) : Prop
  | tools (h : ToolsEscape host resolved (rulesOn host resolved) world.files) :
    StagesEscape host resolved world
  | work {runtime : Option Runtime} {checked : World}
    (htools : Returns host (checkTools resolved (rulesOn host resolved)) world runtime checked)
    (h : WorkEscapes host resolved (rulesOn host resolved) runtime checked) :
    StagesEscape host resolved world

theorem crashes_runStages {start : Seconds} :
    Crashes host (runStages resolved start) world ↔ StagesEscape host resolved world := by
  have hwork : ∀ runtime checked,
      Returns host (checkTools resolved (rulesOn host resolved)) world runtime checked →
      (Crashes host (work resolved (rulesOn host resolved) runtime start) checked ↔
        WorkEscapes host resolved (rulesOn host resolved) runtime checked) :=
    fun runtime checked h => crashes_work (ends_checkTools.of_returns h).2
  have hruns : Crashes host (runStages resolved start) world ↔
      Crashes host (do
        let runtime ← checkTools resolved (rulesOn host resolved)
        work resolved (rulesOn host resolved) runtime start) world := by
    unfold runStages
    rw [crashes_bind_of_returns (returns_read world)]
    rfl
  rw [hruns, crashes_bind, crashes_checkTools]
  constructor
  · rintro (h | ⟨runtime, checked, htools, h⟩)
    · exact .tools h
    · exact .work htools ((hwork _ _ htools).1 h)
  · rintro (h | ⟨htools, h⟩)
    · exact .inl h
    · exact .inr ⟨_, _, htools, (hwork _ _ htools).2 h⟩

/-- A build crashes: in the checks of its inputs, or in the work after them. -/
inductive Escapes (host : Host) (resolved : ResolvedConfiguration) (world : World) : Prop
  | inputs (h : InputsEscape host resolved.inputs world.files) : Escapes host resolved world
  | stages {checked : World} (hinputs : Returns host (checkInputs resolved) world () checked)
    (hselected : resolved.stages.nothingSelected = false)
    (h : StagesEscape host resolved (checked.saidIf (!resolved.quiet)
      ("Build directory:\n  \"" ++ resolved.buildDir.toString ++ "\""))) :
    Escapes host resolved world

theorem crashes_runResolved {start : Seconds} :
    Crashes host (runResolved resolved start) world ↔ Escapes host resolved world := by
  unfold runResolved
  rw [crashes_bind, crashes_checkInputs]
  have hrest : ∀ checked : World, Crashes host (do
      announce resolved ("Build directory:\n  \"" ++ resolved.buildDir.toString ++ "\"")
      if resolved.stages.nothingSelected then
        announce resolved "Nothing to do"
        return { buildDir := resolved.buildDir, message := "Nothing to do" }
      else runStages resolved start) checked ↔
      resolved.stages.nothingSelected = false ∧
        StagesEscape host resolved (checked.saidIf (!resolved.quiet)
          ("Build directory:\n  \"" ++ resolved.buildDir.toString ++ "\"")) := by
    intro checked
    unfold announce
    rw [crashes_bind_of_returns (returns_sayIf _ _), crashes_ite]
    split
    · next hnothing =>
        rw [crashes_bind_left fun _ _ => not_crashes_pure _]
        exact iff_of_false (not_crashes_sayIf _ _) (by simp [hnothing])
    · next hsomething => simp [crashes_runStages, hsomething]
  simp only [hrest]
  constructor
  · rintro (h | ⟨_, checked, hinputs, hselected, h⟩)
    · exact .inputs h
    · exact .stages hinputs hselected h
  · rintro (h | ⟨hinputs, hselected, h⟩)
    · exact .inl h
    · exact .inr ⟨_, _, hinputs, hselected, h⟩

end Build

namespace Configuration

variable {configuration : Configuration} {host : Host} {world : World}

/-- A build ends with a result, with an error that it foresees or by an interrupt, except exactly where
    the system or a tool does something that one of its steps does not expect. -/
theorem build_crashes_iff_escapes :
    Crashes host configuration.build world ↔
      Build.Escapes host (configuration.on host) world.ticked := by
  have hbuild : Crashes host configuration.build world ↔
      Crashes host (Build.runResolved (configuration.on host) world.time) world.ticked := by
    have hnow : Returns host now world world.time world.ticked := by
      rw [returns_iff_ends, ends_now]
      exact ⟨rfl, rfl⟩
    unfold build
    rw [crashes_bind_of_returns hnow,
      crashes_bind_of_returns (returns_read world.ticked)]
    rfl
  rw [hbuild, Build.crashes_runResolved]

/-- A trace that is no text makes a build crash. -/
theorem build_crashes_on_undecodable_trace :
    let configuration : Configuration :=
      { program := Path.ofString "app.jl", snoopFile := some (Path.ofString "snoop.jl"), object := true }
    let host := Host.obedient Host.plainCommand fun _ => ⟨#[0xff]⟩
    let world : World := { files := Host.projectFiles [(["app.jl"], "println(1)"), (["snoop.jl"], "1")] }
    configuration.build.failure? host world =
        some (.crash (.undecodable ⟨0, 1, 0xff, .invalidStart⟩)) ∧
      Build.Escapes host (configuration.on host) world.ticked := by
  intro configuration host world
  have hfailure : configuration.build.failure? host world =
      some (.crash (.undecodable ⟨0, 1, 0xff, .invalidStart⟩)) := by decide +kernel
  exact ⟨hfailure, build_crashes_iff_escapes.1 ⟨_, _, runOn_of_failure? hfailure⟩⟩

end Configuration
end JuliaNative
