import JuliaNative.Proofs.Build.Run

set_option autoImplicit false

/-! # The work of a build as a sequence of stages

The pipeline groups its stages by what they need. Seen as a whole its work is simpler: the selected
stages are carried out one after the other, each by a step of its own (`Build.carryOut`), from a state
that says how far the build has come (`Build.Progress`). That both are the same program is
`Build.work_eq_carryOutAll`; it holds when the runtime suits the selection, which the checks see to. -/

namespace JuliaNative

open JuliaNative.Action

/-! ## Selected stages -/

/-- Whether a stage works with what julia reports. -/
def Stage.needsRuntime : Stage → Bool
  | .object | .shared | .executable | .copyRuntimeLibs => true
  | _ => false

namespace StageSelection

variable {selection : StageSelection}

theorem mem_enabled {which : Stage} :
    which ∈ selection.enabled ↔ selection.selects which = true := by
  have hall : which ∈ Stage.all := by cases which <;> decide
  simp [enabled, hall]

theorem needsRuntime_iff :
    selection.needsRuntime = true ↔
      ∃ which, selection.selects which = true ∧ which.needsRuntime = true := by
  simp only [needsRuntime, Bool.or_eq_true]
  constructor
  · rintro (((h | h) | h) | h)
    · exact ⟨.object, h, rfl⟩
    · exact ⟨.shared, h, rfl⟩
    · exact ⟨.executable, h, rfl⟩
    · exact ⟨.copyRuntimeLibs, h, rfl⟩
  · rintro ⟨which, h, hneeds⟩
    cases which with
    | object => exact .inl (.inl (.inl h))
    | shared => exact .inl (.inl (.inr h))
    | executable => exact .inl (.inr h)
    | copyRuntimeLibs => exact .inr h
    | _ => cases hneeds

end StageSelection

/-! ## Steps -/

namespace Build

/-- What both links work with: the compiler, and the flags. -/
structure Linking where
  linker : Linker
  flags : List String

/-- How far a build has come: whether the build directory was made, what the links work with once the
    first of them has found that out, and what the build reports so far. -/
structure Progress where
  entered : Bool := false
  linking : Option Linking := none
  result : BuildResult

/-- A stage is done, and the build reports it. -/
def Progress.passed (progress : Progress) (which : Stage) (result : BuildResult) : Progress :=
  { progress with result := { result with stagesRun := result.stagesRun ++ [which] } }

/-- Makes the build directory before the first stage that works in it. -/
def enter (resolved : ResolvedConfiguration) (progress : Progress) : Action Progress := do
  if progress.entered then return progress
  else
    discard (workshop resolved).stager.ensureBuildDir
    return { progress with entered := true }

/-- Finds out before the first link what both links work with. -/
def prepare (setup : Setup) (progress : Progress) : Action Linking := do
  match progress.linking with
  | some linking => return linking
  | none =>
    let flags ← linkFlags setup
    let compiler ← requireProgram setup.resolved.cc
    return ⟨⟨compiler, setup.rules, setup.runtime⟩, flags⟩

/-- Carries out a stage in the build directory. -/
def carryOutInside (resolved : ResolvedConfiguration) (setup : Option Setup) (progress : Progress) :
    Stage → Action Progress
  | .clean => return progress
  | .object => do
    let some setup := setup | return progress
    let path ← compileProgram setup
    return progress.passed .object { progress.result with objectFile := some path }
  | .shared => do
    let some setup := setup | return progress
    let linking ← prepare setup progress
    let path ← linking.linker.linkShared (workshop resolved) setup.artifacts linking.flags
      resolved.sharedInit
    return { progress with linking := some linking }.passed .shared
      { progress.result with sharedLibrary := some path }
  | .executable => do
    let some setup := setup | return progress
    let linking ← prepare setup progress
    let path ← linking.linker.linkExecutable (workshop resolved) setup.artifacts
      resolved.driverProgram linking.flags
    return { progress with linking := some linking }.passed .executable
      { progress.result with executable := some path }
  | .removeTemp => do
    let removed ← (workshop resolved).stager.removeTemporary
    return progress.passed .removeTemp { progress.result with removedFiles := removed }
  | .copyRuntimeLibs => do
    let some setup := setup | return progress
    let copied ← (workshop resolved).stager.copyRuntimeLibraries setup.rules setup.runtime
    return progress.passed .copyRuntimeLibs
      { progress.result with copiedFiles := progress.result.copiedFiles ++ copied }
  | .copyUserFiles => do
    let copied ← (workshop resolved).stager.copyFiles resolved.copyFiles
      "Copy user-specified files to build directory:"
    return progress.passed .copyUserFiles
      { progress.result with copiedFiles := progress.result.copiedFiles ++ copied }

/-- Carries out a stage. -/
def carryOut (resolved : ResolvedConfiguration) (setup : Option Setup) (progress : Progress)
    (which : Stage) : Action Progress := do
  if which = .clean then
    discard (workshop resolved).stager.clean
    return progress.passed .clean progress.result
  else
    let progress ← enter resolved progress
    carryOutInside resolved setup progress which

/-- Carries out stages one after the other. -/
def carryOutAll (resolved : ResolvedConfiguration) (setup : Option Setup) (stages : List Stage)
    (progress : Progress) : Action Progress :=
  stages.foldlM (carryOut resolved setup) progress

/-- What the stages work with that need the runtime, if it was asked for. -/
def equipment (resolved : ResolvedConfiguration) (rules : LinkRules) (runtime : Option Runtime) :
    Option Setup :=
  runtime.bind fun runtime =>
    (Artifacts.named resolved.outputName runtime rules).toOption.map fun artifacts =>
      { resolved, rules, runtime, artifacts }

theorem resolved_of_mem_equipment {resolved : ResolvedConfiguration} {rules : LinkRules}
    {runtime : Option Runtime} {setup : Setup} (h : setup ∈ equipment resolved rules runtime) :
    setup.resolved = resolved := by
  obtain ⟨runtime, -, hsetup⟩ := Option.bind_eq_some_iff.1 h
  obtain ⟨artifacts, -, rfl⟩ := Option.map_eq_some_iff.1 hsetup
  rfl

/-- The message with which the work ends. -/
def finalMessage (resolved : ResolvedConfiguration) : String :=
  if resolved.stages.onlyClean then "Clean completed" else "All done"

variable {resolved : ResolvedConfiguration} {rules : LinkRules} {runtime : Option Runtime}
  {setup : Setup} {progress : Progress} {result : BuildResult} {start : Seconds}

/-- The stages that work in the build directory, in their order. -/
def insideStages : List Stage :=
  [.object, .shared, .executable, .removeTemp, .copyRuntimeLibs, .copyUserFiles]

theorem enabled_eq (selection : StageSelection) :
    selection.enabled =
      (if selection.clean then [.clean] else []) ++ insideStages.filter selection.selects := by
  unfold StageSelection.enabled Stage.all
  rw [List.filter_cons]
  split <;> next h => simp_all [StageSelection.selects, insideStages]

theorem carryOutAll_filter (resolved : ResolvedConfiguration) (setup : Option Setup)
    (selected : Stage → Bool) (stages : List Stage) (progress : Progress) :
    carryOutAll resolved setup (stages.filter selected) progress =
      stages.foldlM (fun progress which =>
        if selected which then carryOut resolved setup progress which else pure progress) progress :=
  List.foldlM_filter

/-- The first stage that works in the build directory makes it. -/
theorem carryOutAll_of_not_entered {stages : List Stage} (setup : Option Setup) (hstages : stages ≠ [])
    (hclean : .clean ∉ stages) (hentered : progress.entered = false) :
    carryOutAll resolved setup stages progress = (do
      discard (workshop resolved).stager.ensureBuildDir
      carryOutAll resolved setup stages { progress with entered := true }) := by
  obtain ⟨which, rest, rfl⟩ := List.exists_cons_of_ne_nil hstages
  have hwhich : which ≠ .clean := fun h => hclean (h ▸ List.mem_cons_self ..)
  simp [carryOutAll, carryOut, hwhich, enter, hentered]

theorem equipment_of_named {runtime : Runtime} {artifacts : Artifacts}
    (h : Artifacts.named resolved.outputName runtime rules = .ok artifacts) :
    equipment resolved rules (some runtime) = some { resolved, rules, runtime, artifacts } := by
  simp [equipment, h, Except.toOption]

/-- What the stages work with is there if the selected ones need it, and it is what was asked for. -/
structure Equipped (resolved : ResolvedConfiguration) (rules : LinkRules) (setup : Option Setup) :
    Prop where
  needed : setup = none → resolved.stages.needsRuntime = false
  resolved_eq : ∀ s ∈ setup, s.resolved = resolved
  rules_eq : ∀ s ∈ setup, s.rules = rules
  readable : ∀ s ∈ setup, s.runtime.Readable
  named : ∀ s ∈ setup, Artifacts.named resolved.outputName s.runtime rules = .ok s.artifacts

theorem Equipped.exists_setup {setup : Option Setup} (h : Equipped resolved rules setup)
    (hneeds : resolved.stages.needsRuntime = true) : ∃ s, setup = some s := by
  cases setup with
  | none => rw [h.needed rfl] at hneeds; cases hneeds
  | some s => exact ⟨s, rfl⟩

/-- What the stages work with is there for a selected stage that needs it. -/
theorem Equipped.exists_setup_of_selected {setup : Option Setup} {which : Stage}
    (h : Equipped resolved rules setup) (hselected : resolved.stages.selects which = true)
    (hneeds : which.needsRuntime = true) : ∃ s, setup = some s :=
  h.exists_setup (StageSelection.needsRuntime_iff.2 ⟨which, hselected, hneeds⟩)

theorem equipped_of_suits (rules : LinkRules) (hsuits : Suits resolved runtime) :
    Equipped resolved rules (equipment resolved rules runtime) := by
  cases runtime with
  | none =>
      refine ⟨fun _ => hsuits, ?_, ?_, ?_, ?_⟩
      all_goals exact fun setup hmem => absurd hmem (Option.not_mem_none setup)
  | some runtime =>
      obtain ⟨artifacts, hartifacts⟩ := hsuits.1.artifacts resolved.outputName rules
      rw [equipment_of_named hartifacts]
      refine ⟨nofun, ?_, ?_, ?_, ?_⟩
      all_goals
        intro setup hmem
        obtain rfl := Option.some.inj hmem
      · rfl
      · rfl
      · exact hsuits.1
      · exact hartifacts

/-- Carries out a stage if it is selected. -/
def carryOutIf (resolved : ResolvedConfiguration) (setup : Option Setup) (progress : Progress)
    (which : Stage) : Action Progress :=
  if resolved.stages.selects which then carryOut resolved setup progress which else pure progress

theorem objectStage_eq (hresolved : setup.resolved = resolved) (hentered : progress.entered = true) :
    carryOutIf resolved (some setup) progress .object =
      (fun result => { progress with result }) <$> objectStage setup progress.result := by
  subst hresolved
  unfold carryOutIf objectStage stage
  split
  · simp [carryOut, enter, hentered, carryOutInside, Progress.passed]
  · simp

theorem link_eq {α : Type} {rest : Progress → Action α} {next : BuildResult → Action α}
    (hresolved : setup.resolved = resolved) (hentered : progress.entered = true)
    (hlinking : progress.linking = none)
    (hrest : ∀ progress, progress.entered = true → rest progress = next progress.result) :
    (do
      let progress ← carryOutIf resolved (some setup) progress .shared
      let progress ← carryOutIf resolved (some setup) progress .executable
      rest progress) = link setup progress.result >>= next := by
  subst hresolved
  unfold link sharedStage executableStage stage carryOutIf StageSelection.needsCompiler
  cases hshared : setup.resolved.stages.shared <;> cases hexecutable : setup.resolved.stages.executable <;>
    simp [StageSelection.selects, hshared, hexecutable, carryOut, enter, hentered, carryOutInside,
      Progress.passed, prepare, hlinking, hrest]

theorem removeTempStage_eq (setup : Option Setup) (hentered : progress.entered = true) :
    carryOutIf resolved setup progress .removeTemp =
      (fun result => { progress with result }) <$> removeTempStage resolved progress.result := by
  unfold carryOutIf removeTempStage stage
  split
  · simp [carryOut, enter, hentered, carryOutInside, Progress.passed]
  · simp

theorem copyUserFilesStage_eq (setup : Option Setup) (hentered : progress.entered = true) :
    carryOutIf resolved setup progress .copyUserFiles =
      (fun result => { progress with result }) <$> copyUserFilesStage resolved progress.result := by
  unfold carryOutIf copyUserFilesStage stage
  split
  · simp [carryOut, enter, hentered, carryOutInside, Progress.passed]
  · simp

theorem copyRuntimeLibsStage_eq (hrules : setup.rules = rules) (hentered : progress.entered = true) :
    carryOutIf resolved (some setup) progress .copyRuntimeLibs =
      (fun result => { progress with result }) <$>
        copyRuntimeLibsStage resolved rules (some setup.runtime) progress.result := by
  subst hrules
  unfold carryOutIf copyRuntimeLibsStage stage
  split
  · simp [carryOut, enter, hentered, carryOutInside, Progress.passed]
  · simp

theorem finish_some (hrules : setup.rules = rules) (hentered : progress.entered = true) :
    (do
      let progress ← carryOutIf resolved (some setup) progress .removeTemp
      let progress ← carryOutIf resolved (some setup) progress .copyRuntimeLibs
      let progress ← carryOutIf resolved (some setup) progress .copyUserFiles
      return progress.result) = finish resolved rules (some setup.runtime) progress.result := by
  simp [finish, removeTempStage_eq, copyRuntimeLibsStage_eq hrules, copyUserFilesStage_eq, hentered]

theorem carryOutIf_of_not_selected {which : Stage} (setup : Option Setup)
    (h : resolved.stages.selects which = false) :
    carryOutIf resolved setup progress which = pure progress := by
  simp [carryOutIf, h]

/-- In a build directory that was made the stages compile, link and tidy up, in this order. -/
theorem produce_finish_eq (rules : LinkRules) (hsuits : Suits resolved runtime)
    (result : BuildResult) :
    (do
      let result ← produce resolved rules runtime result
      finish resolved rules runtime result) =
    (do
      let progress ← carryOutAll resolved (equipment resolved rules runtime)
        (insideStages.filter resolved.stages.selects) { entered := true, result }
      return progress.result) := by
  rw [carryOutAll_filter]
  change _ = (do
    let progress ← insideStages.foldlM (carryOutIf resolved (equipment resolved rules runtime))
      { entered := true, result }
    return progress.result)
  simp only [insideStages, List.foldlM_cons, List.foldlM_nil, bind_assoc, pure_bind]
  cases runtime with
  | none =>
      -- without a runtime none of the stages that need it is selected
      simp only [Suits, StageSelection.needsRuntime, Bool.or_eq_false_iff] at hsuits
      obtain ⟨⟨⟨hobject, hshared⟩, hexecutable⟩, hlibraries⟩ := hsuits
      simp [carryOutIf_of_not_selected, StageSelection.selects, hobject, hshared, hexecutable,
        hlibraries, produce, finish, removeTempStage_eq, copyUserFilesStage_eq, copyRuntimeLibsStage,
        stage]
  | some runtime =>
      obtain ⟨artifacts, hartifacts⟩ := hsuits.1.artifacts resolved.outputName rules
      rw [equipment_of_named hartifacts]
      let setup : Setup := { resolved, rules, runtime, artifacts }
      have hfinish : ∀ progress : Progress, progress.entered = true →
          (do
            let progress ← carryOutIf resolved (some setup) progress .removeTemp
            let progress ← carryOutIf resolved (some setup) progress .copyRuntimeLibs
            let progress ← carryOutIf resolved (some setup) progress .copyUserFiles
            return progress.result) = finish resolved rules (some runtime) progress.result :=
        fun _ => finish_some rfl
      have hobject : carryOutIf resolved (some setup) { entered := true, result } .object =
          (fun compiled => { entered := true, result := compiled }) <$> objectStage setup result :=
        objectStage_eq rfl rfl
      rw [show ({ resolved, rules, runtime, artifacts } : Setup) = setup from rfl, hobject]
      simp only [produce, hartifacts, bind_map_left, bind_assoc, Action.ofExcept, pure_bind]
      have hlink : ∀ compiled : BuildResult,
          (do
            let progress ← carryOutIf resolved (some setup)
              { entered := true, result := compiled } .shared
            let progress ← carryOutIf resolved (some setup) progress .executable
            let progress ← carryOutIf resolved (some setup) progress .removeTemp
            let progress ← carryOutIf resolved (some setup) progress .copyRuntimeLibs
            let progress ← carryOutIf resolved (some setup) progress .copyUserFiles
            return progress.result) = link setup compiled >>= finish resolved rules (some runtime) :=
        fun compiled => link_eq rfl rfl rfl hfinish
      simp only [hlink]
      rfl

theorem cleanStage_eq (setup : Option Setup) (selected : resolved.stages.clean = true)
    (progress : Progress) :
    carryOut resolved setup progress .clean =
      (fun result => { progress with result }) <$> cleanStage resolved progress.result := by
  simp [carryOut, cleanStage, stage, StageSelection.selects, selected, Progress.passed]

theorem clean_not_mem_filter (selected : Stage → Bool) :
    .clean ∉ insideStages.filter selected := fun h => by
  simpa [insideStages] using (List.mem_filter.1 h).1

/-- Cleaning is all that is selected if no stage inside the build directory is selected as well. -/
theorem onlyClean_iff (selection : StageSelection) :
    selection.onlyClean = true ↔
      selection.clean = true ∧ insideStages.filter selection.selects = [] := by
  have hclean := clean_not_mem_filter selection.selects
  unfold StageSelection.onlyClean
  rw [enabled_eq, decide_eq_true_iff]
  cases selection.clean with
  | true => simp
  | false =>
      refine iff_of_false (fun h => hclean ?_) nofun
      rw [show insideStages.filter selection.selects = [.clean] from h]
      exact List.mem_singleton_self _

/-- The stages inside the build directory, if there are any, begin with making it. -/
theorem inside_eq (hsuits : Suits resolved runtime) {α : Type} (next : BuildResult → Action α)
    (hinside : insideStages.filter resolved.stages.selects ≠ []) (result : BuildResult) :
    (do
      discard (workshop resolved).stager.ensureBuildDir
      let result ← produce resolved rules runtime result
      let result ← finish resolved rules runtime result
      next result) =
    (do
      let progress ← carryOutAll resolved (equipment resolved rules runtime)
        (insideStages.filter resolved.stages.selects) { result }
      next progress.result) := by
  rw [carryOutAll_of_not_entered _ hinside (clean_not_mem_filter _) rfl]
  have hall := produce_finish_eq rules hsuits result
  simp only [bind_assoc]
  congr 1
  funext _
  calc
    _ = (do
          let result ← produce resolved rules runtime result
          finish resolved rules runtime result) >>= next := by rw [bind_assoc]
    _ = _ := by rw [hall]; simp

/-- The work after the checks carries out the selected stages, one after the other. -/
theorem work_eq_carryOutAll (hsuits : Suits resolved runtime)
    (hsome : resolved.stages.nothingSelected = false) (start : Seconds) :
    work resolved rules runtime start = (do
      let progress ← carryOutAll resolved (equipment resolved rules runtime) resolved.stages.enabled
        { result := { buildDir := resolved.buildDir } }
      conclude resolved (finalMessage resolved) start progress.result) := by
  have honly := onlyClean_iff resolved.stages
  unfold work finalMessage
  rw [enabled_eq]
  by_cases hinside : insideStages.filter resolved.stages.selects = []
  · -- if nothing is done inside the build directory, the build is to be cleaned and that is all
    have hclean : resolved.stages.clean = true := by
      simpa [StageSelection.nothingSelected, enabled_eq, hinside] using hsome
    rw [hinside, if_pos (honly.2 ⟨hclean, hinside⟩)]
    simp only [hclean, if_pos, List.append_nil, carryOutAll, List.foldlM_cons, List.foldlM_nil]
    simp [cleanStage_eq, hclean, honly.2 ⟨hclean, hinside⟩]
  · have hmore : resolved.stages.onlyClean = false :=
      Bool.eq_false_iff.2 fun h => hinside (honly.1 h).2
    simp only [hmore, Bool.false_eq_true, if_false, inside_eq hsuits _ hinside]
    cases hclean : resolved.stages.clean with
    | true =>
        simp [carryOutAll, cleanStage_eq, hclean]
    | false =>
        simp [cleanStage, stage, StageSelection.selects, hclean]

end Build
end JuliaNative
