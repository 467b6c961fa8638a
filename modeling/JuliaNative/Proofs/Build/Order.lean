import JuliaNative.Proofs.Build.Launches

set_option autoImplicit false

/-! # The order of the stages

A build carries out the stages that are selected, each once and in their fixed order, and makes their
launches in this order (`Configuration.build_carries_out_selected_stages`). One step of it is a stage
(`Build.ends_carryOut_launches`): if it fails, it has made the first ones of its launches. By induction on
the stages (`Build.ends_carryOutAll_launches`) a build that is stopped has carried out the stages before the
one that failed, and nothing of the ones after it. -/

namespace JuliaNative

open JuliaNative.Action

/-- No file was changed and nothing was launched. -/
structure World.Still (before after : World) : Prop where
  files : after.files = before.files
  launches : after.launches = before.launches

theorem World.Still.trans {first second third : World} (hfirst : first.Still second)
    (hsecond : second.Still third) : first.Still third :=
  ⟨hsecond.files.trans hfirst.files, hsecond.launches.trans hfirst.launches⟩

theorem World.Still.symm {first second : World} (h : first.Still second) : second.Still first :=
  ⟨h.files.symm, h.launches.symm⟩

theorem World.Still.said {first second : World} (h : first.Still second) (wanted : Bool)
    (text : String) : first.Still (second.saidIf wanted text) :=
  ⟨by simpa using h.files, by simpa using h.launches⟩

theorem World.Still.ticked (world : World) : world.Still world.ticked :=
  ⟨by simp, by simp⟩

namespace Build

variable {host : Host} {resolved : ResolvedConfiguration} {rules : LinkRules}
  {equipped : Option Setup} {setup : Setup} {flags : List String} {commands : StageCommands}
  {which : Stage} {progress : Progress} {world : World}

/-! ## The sequence of stages -/

/-- What the links work with, if it was found out, is for a setup: its compiler, its rules and its
    runtime. -/
structure Linking.IsFor (linking : Linking) (setup : Setup) : Prop where
  compiler : programOf setup.resolved.cc = .ok linking.linker.compiler
  rules : linking.linker.rules = setup.rules
  runtime : linking.linker.runtime = setup.runtime

/-- What the links work with, if it was found out, has given flags. -/
def Progress.HasFlags (progress : Progress) (flags : List String) : Prop :=
  ∀ linking ∈ progress.linking, linking.flags = flags

theorem Progress.exists_hasFlags (progress : Progress) : ∃ flags, progress.HasFlags flags := by
  unfold HasFlags
  cases progress.linking with
  | none => exact ⟨[], fun linking hmem => absurd hmem (Option.not_mem_none linking)⟩
  | some linking => exact ⟨linking.flags, fun _ hmem => by cases hmem; rfl⟩

/-- Before the first link it is found out what both links work with, and then it stays. -/
theorem ends_prepare (hlinked : ∀ linking ∈ progress.linking, linking.IsFor setup) :
    Ends host (prepare setup progress) world
      (fun linking after => (linking.IsFor setup ∧ ∀ known ∈ progress.linking, known = linking) ∧
        after.launches = world.launches)
      (fun _ after => after.launches = world.launches) := by
  unfold prepare
  cases hlinking : progress.linking with
  | some linking => exact ⟨⟨hlinked linking hlinking, fun _ hknown => by cases hknown; rfl⟩, rfl⟩
  | none =>
      have hflags : Starts host (linkFlags setup) [] (fun _ => True) :=
        (sameWork_linkFlags (.refl .shared setup.resolved)).starts
      refine (hflags.quiet world).bind ?_
      rintro flags mid ⟨-, hmid⟩
      rw [ends_bind, ends_requireProgram]
      cases hcompiler : programOf setup.resolved.cc with
      | error failure => exact hmid
      | ok compiler =>
          refine ⟨⟨⟨hcompiler, rfl, rfl⟩, fun known hknown => ?_⟩, hmid⟩
          exact absurd hknown (Option.not_mem_none known)

theorem starts_enter (progress : Progress) :
    Starts host (enter resolved progress) []
      (fun ready => ready.linking = progress.linking ∧ ready.result = progress.result) := by
  unfold enter
  split
  · exact .pure ⟨rfl, rfl⟩
  · have hmake : Starts host (discard (workshop resolved).stager.ensureBuildDir) []
        (fun _ => True) := (SameWork.discard (Stager.sameWork_ensureBuildDir rfl)).starts
    exact hmake.quiet_bind fun _ _ => .pure ⟨rfl, rfl⟩

/-- A stage that does not link makes its launches, and reports that it was run. -/
theorem starts_carryOutInside (hequipped : Equipped resolved rules equipped)
    (hclean : which ≠ .clean) (hlinks : which.links = false)
    (hselected : resolved.stages.selects which = true)
    (hsuit : ∀ setup ∈ equipped, commands.Suit setup flags) :
    Starts host (carryOutInside resolved equipped progress which)
      (commands.launches host resolved which)
      (fun passed => passed.linking = progress.linking ∧
        passed.result.stagesRun = progress.result.stagesRun ++ [which]) := by
  cases which with
  | clean => exact absurd rfl hclean
  | shared => cases hlinks
  | executable => cases hlinks
  | object =>
      have hobject : resolved.stages.object = true := hselected
      obtain ⟨setup, rfl⟩ := hequipped.exists_setup_of_selected hselected rfl
      obtain rfl := hequipped.resolved_eq setup rfl
      have hcompile : Starts host (compileProgram setup)
          (commands.launches host setup.resolved .object) (fun _ => True) :=
        starts_compileProgram (hequipped.readable setup rfl) hobject (hsuit setup rfl)
      exact hcompile.bind_quiet fun _ _ => .pure ⟨rfl, rfl⟩
  | removeTemp =>
      have hremove : Starts host (workshop resolved).stager.removeTemporary [] (fun _ => True) :=
        (Stager.sameWork_removeTemporary rfl).starts
      exact hremove.quiet_bind fun _ _ => .pure ⟨rfl, rfl⟩
  | copyRuntimeLibs =>
      obtain ⟨setup, rfl⟩ := hequipped.exists_setup_of_selected hselected rfl
      have hcopy : Starts host
          ((workshop resolved).stager.copyRuntimeLibraries setup.rules setup.runtime) []
          (fun _ => True) := (Stager.sameWork_copyRuntimeLibraries rfl _ _).starts
      exact hcopy.quiet_bind fun _ _ => .pure ⟨rfl, rfl⟩
  | copyUserFiles =>
      have hcopy : Starts host ((workshop resolved).stager.copyFiles resolved.copyFiles
          "Copy user-specified files to build directory:") [] (fun _ => True) :=
        (Stager.sameWork_copyFiles rfl _ _).starts
      exact hcopy.quiet_bind fun _ _ => .pure ⟨rfl, rfl⟩

/-- The link of the shared library makes the one launch of its stage. -/
theorem starts_sharedLink {linking : Linking} (hfor : linking.IsFor setup)
    (hrules : setup.rules = rulesOn host setup.resolved)
    (hshared : setup.resolved.stages.shared = true) (hsuit : commands.Suit setup linking.flags) :
    Starts host (linking.linker.linkShared (workshop setup.resolved) setup.artifacts linking.flags
      setup.resolved.sharedInit) (commands.launches host setup.resolved .shared) (fun _ => True) := by
  obtain ⟨compiler, hcompiler, hcommand⟩ := hsuit.linkingLibrary hshared
  obtain rfl := Except.ok.inj (hcompiler.symm.trans hfor.compiler)
  rw [← hfor.rules, ← hfor.runtime] at hcommand
  rw [StageCommands.launches, ← hrules, ← hfor.rules]
  exact Linker.starts_linkShared hcommand

/-- The link of the executable makes the one launch of its stage. -/
theorem starts_executableLink {linking : Linking} (hfor : linking.IsFor setup)
    (hrules : setup.rules = rulesOn host setup.resolved)
    (hexecutable : setup.resolved.stages.executable = true)
    (hsuit : commands.Suit setup linking.flags) :
    Starts host (linking.linker.linkExecutable (workshop setup.resolved) setup.artifacts
      setup.resolved.driverProgram linking.flags)
      (commands.launches host setup.resolved .executable) (fun _ => True) := by
  obtain ⟨compiler, hcompiler, hcommand⟩ := hsuit.linkingProgram hexecutable
  obtain rfl := Except.ok.inj (hcompiler.symm.trans hfor.compiler)
  rw [StageCommands.launches, ← hrules, ← hfor.rules, hcommand, ← hfor.rules, ← hfor.runtime]
  exact Linker.starts_linkExecutable

/-- Some stages were passed, one after the other: they are reported in their order, and for whatever
    flags the links turn out to have, the launches of the stages were made in this order. -/
structure Passes (host : Host) (resolved : ResolvedConfiguration) (equipped : Option Setup)
    (stages : List Stage) (progress passed : Progress) (world after : World) : Prop where
  stagesRun : passed.result.stagesRun = progress.result.stagesRun ++ stages
  linked : ∀ linking ∈ passed.linking, ∀ setup ∈ equipped, linking.IsFor setup
  launches : ∀ flags, passed.HasFlags flags → progress.HasFlags flags ∧
    ∀ commands : StageCommands, (∀ setup ∈ equipped, commands.Suit setup flags) →
      after.launches = world.launches ++ stages.flatMap (commands.launches host resolved)

theorem Passes.trans {first second : List Stage} {progress mid passed : Progress}
    {world between after : World} (hfirst : Passes host resolved equipped first progress mid world between)
    (hsecond : Passes host resolved equipped second mid passed between after) :
    Passes host resolved equipped (first ++ second) progress passed world after := by
  refine ⟨?_, hsecond.linked, fun flags hflags => ?_⟩
  · rw [hsecond.stagesRun, hfirst.stagesRun, List.append_assoc]
  · obtain ⟨hmid, hafter⟩ := hsecond.launches flags hflags
    obtain ⟨hprogress, hbetween⟩ := hfirst.launches flags hmid
    refine ⟨hprogress, fun commands hsuit => ?_⟩
    rw [hafter commands hsuit, hbetween commands hsuit, List.flatMap_append, List.append_assoc]

/-- What is known after a stage failed: it made the first ones of its launches. -/
def FailedStage (host : Host) (resolved : ResolvedConfiguration) (equipped : Option Setup)
    (which : Stage) (progress : Progress) (world after : World) : Prop :=
  ∃ flags, progress.HasFlags flags ∧
    ∀ commands : StageCommands, (∀ setup ∈ equipped, commands.Suit setup flags) →
      ∃ part, part <+: commands.launches host resolved which ∧
        after.launches = world.launches ++ part

/-- A stage that fails before it makes a launch. -/
theorem failedStage_of_eq {after : World} (h : after.launches = world.launches) :
    FailedStage host resolved equipped which progress world after := by
  obtain ⟨flags, hflags⟩ := progress.exists_hasFlags
  exact ⟨flags, hflags, fun commands _ => ⟨[], List.nil_prefix, by rw [h, List.append_nil]⟩⟩

/-- A stage that links finds out what to link with, and then makes its launch. -/
theorem ends_preparedLink {run : Linking → Action Path} {report : Path → BuildResult}
    (hlinked : ∀ linking ∈ progress.linking, linking.IsFor setup)
    (hreport : ∀ path, (report path).stagesRun = progress.result.stagesRun)
    (hrun : ∀ linking : Linking, linking.IsFor setup →
      ∀ commands : StageCommands, commands.Suit setup linking.flags →
        Starts host (run linking) (commands.launches host resolved which) (fun _ => True)) :
    Ends host (do
      let linking ← prepare setup progress
      let path ← run linking
      return ({ progress with linking := some linking } : Progress).passed which (report path)) world
      (fun passed after => Passes host resolved (some setup) [which] progress passed world after)
      (fun _ after => FailedStage host resolved (some setup) which progress world after) := by
  rw [ends_bind]
  refine (ends_prepare hlinked).imp ?_ ?_
  · rintro linking mid ⟨⟨hfor, hknown⟩, hmid⟩
    have hflags : progress.HasFlags linking.flags := fun known hmem => by rw [hknown known hmem]
    -- the flags are settled, so all commands that suit make the same launch
    have hlaunch : ∀ suitable : { commands : StageCommands // commands.Suit setup linking.flags },
        Ends host (run linking) mid
          (fun _ after => True ∧ after.launches = mid.launches ++
            suitable.val.launches host resolved which)
          (fun _ after => ∃ part, part <+: suitable.val.launches host resolved which ∧
            after.launches = mid.launches ++ part) :=
      fun suitable => hrun linking hfor suitable.val suitable.property mid
    rw [hmid] at hlaunch
    rw [ends_bind]
    refine (Ends.all hlaunch).imp ?_ ?_
    · intro path after hafter
      refine ⟨?_, ?_, ?_⟩
      · simp [Progress.passed, hreport]
      · rintro _ hlinking _ hsetup
        cases hlinking
        cases hsetup
        exact hfor
      · intro flags hpassed
        obtain rfl : linking.flags = flags := hpassed linking rfl
        refine ⟨hflags, fun commands hsuit => ?_⟩
        rw [List.flatMap_singleton]
        exact (hafter ⟨commands, hsuit setup rfl⟩).2
    · intro _ after hafter
      exact ⟨linking.flags, hflags, fun commands hsuit => hafter ⟨commands, hsuit setup rfl⟩⟩
  · exact fun _ after hafter => failedStage_of_eq hafter

/-- A stage in the build directory makes its launches, and if it fails the first ones of them. -/
theorem ends_carryOutInside_launches (hequipped : Equipped resolved (rulesOn host resolved) equipped)
    (hexists : ∀ flags, ∃ commands : StageCommands, ∀ setup ∈ equipped, commands.Suit setup flags)
    (hclean : which ≠ .clean) (hselected : resolved.stages.selects which = true)
    (hlinked : ∀ linking ∈ progress.linking, ∀ setup ∈ equipped, linking.IsFor setup) :
    Ends host (carryOutInside resolved equipped progress which) world
      (fun passed after => Passes host resolved equipped [which] progress passed world after)
      (fun _ after => FailedStage host resolved equipped which progress world after) := by
  cases hlinks : which.links with
  | false =>
      -- the stage does not ask for flags, so it makes the launches of all commands that suit any flags
      have hstarts : ∀ suitable : { suitable : List String × StageCommands //
          ∀ setup ∈ equipped, suitable.2.Suit setup suitable.1 },
          Ends host (carryOutInside resolved equipped progress which) world
            (fun passed after => (passed.linking = progress.linking ∧
              passed.result.stagesRun = progress.result.stagesRun ++ [which]) ∧
              after.launches = world.launches ++ suitable.val.2.launches host resolved which)
            (fun _ after => ∃ part, part <+: suitable.val.2.launches host resolved which ∧
              after.launches = world.launches ++ part) :=
        fun suitable =>
          starts_carryOutInside hequipped hclean hlinks hselected suitable.property world
      obtain ⟨flags, hflags⟩ := progress.exists_hasFlags
      obtain ⟨commands, hsuit⟩ := hexists flags
      refine (Ends.all hstarts).imp ?_ ?_
      · intro passed after hafter
        obtain ⟨⟨hlinking, hstages⟩, -⟩ := hafter ⟨(flags, commands), hsuit⟩
        refine ⟨hstages, by rwa [hlinking], fun flags hpassed => ⟨?_, fun commands hsuit => ?_⟩⟩
        · rwa [Progress.HasFlags, hlinking] at hpassed
        · rw [List.flatMap_singleton]
          exact (hafter ⟨(flags, commands), hsuit⟩).2
      · intro _ after hafter
        exact ⟨flags, hflags, fun commands hsuit => hafter ⟨(flags, commands), hsuit⟩⟩
  | true =>
      have hneeds : which.needsRuntime = true := Stage.needsRuntime_of_links hlinks
      obtain ⟨setup, rfl⟩ := hequipped.exists_setup_of_selected hselected hneeds
      obtain rfl := hequipped.resolved_eq setup rfl
      have hrules := hequipped.rules_eq setup rfl
      have hlinked' : ∀ linking ∈ progress.linking, linking.IsFor setup :=
        fun linking hmem => hlinked linking hmem setup rfl
      cases which with
      | shared =>
          exact ends_preparedLink hlinked' (fun _ => rfl) fun linking hfor commands hsuit =>
            starts_sharedLink hfor hrules hselected hsuit
      | executable =>
          exact ends_preparedLink hlinked' (fun _ => rfl) fun linking hfor commands hsuit =>
            starts_executableLink hfor hrules hselected hsuit
      | _ => cases hlinks

/-- A stage makes its launches, and if it fails the first ones of them. -/
theorem ends_carryOut_launches (hequipped : Equipped resolved (rulesOn host resolved) equipped)
    (hexists : ∀ flags, ∃ commands : StageCommands, ∀ setup ∈ equipped, commands.Suit setup flags)
    (hselected : resolved.stages.selects which = true)
    (hlinked : ∀ linking ∈ progress.linking, ∀ setup ∈ equipped, linking.IsFor setup) :
    Ends host (carryOut resolved equipped progress which) world
      (fun passed after => Passes host resolved equipped [which] progress passed world after)
      (fun _ after => FailedStage host resolved equipped which progress world after) := by
  unfold carryOut
  rw [ends_ite]
  split
  · next hclean =>
      subst hclean
      have hremove : Starts host (discard (workshop resolved).stager.clean) [] (fun _ => True) :=
        (SameWork.discard (Stager.sameWork_clean rfl)).starts
      refine Ends.bind ((hremove.quiet world).imp (fun _ _ h => h) fun _ _ => failedStage_of_eq) ?_
      rintro _ after ⟨-, hafter⟩
      refine ⟨rfl, hlinked, fun flags hflags => ⟨hflags, fun commands _ => ?_⟩⟩
      simp [hafter, StageCommands.launches]
  · next hclean =>
      refine Ends.bind (((starts_enter progress).quiet world).imp (fun _ _ h => h)
        fun _ _ => failedStage_of_eq) ?_
      rintro ready mid ⟨⟨hlinking, hresult⟩, hmid⟩
      have hready : ∀ flags, ready.HasFlags flags ↔ progress.HasFlags flags := by
        intro flags
        rw [Progress.HasFlags, Progress.HasFlags, hlinking]
      refine (ends_carryOutInside_launches hequipped hexists hclean hselected ?_).imp ?_ ?_
      · rwa [hlinking]
      · rintro passed after ⟨hstages, hfor, hlaunches⟩
        rw [hresult] at hstages
        refine ⟨hstages, hfor, fun flags hflags => ?_⟩
        rw [← hready, ← hmid]
        exact hlaunches flags hflags
      · rintro _ after ⟨flags, hflags, hlaunches⟩
        rw [hmid] at hlaunches
        exact ⟨flags, (hready flags).1 hflags, hlaunches⟩

/-- Carrying out stages makes their launches in the order of the stages. If it fails, the stages before
    one of them were passed, and that one has made the first ones of its launches. -/
theorem ends_carryOutAll_launches {stages : List Stage} {start : BuildResult}
    (hequipped : Equipped resolved (rulesOn host resolved) equipped)
    (hexists : ∀ flags, ∃ commands : StageCommands, ∀ setup ∈ equipped, commands.Suit setup flags)
    (hselected : ∀ which ∈ stages, resolved.stages.selects which = true) :
    Ends host (carryOutAll resolved equipped stages { result := start }) world
      (fun passed after => passed.result.stagesRun = start.stagesRun ++ stages ∧
        ∃ commands : StageCommands, (∃ flags, ∀ setup ∈ equipped, commands.Suit setup flags) ∧
          after.launches = world.launches ++ stages.flatMap (commands.launches host resolved))
      (fun failure after => ∃ earlier which later progress mid,
        stages = earlier ++ which :: later ∧
        Returns host (carryOutAll resolved equipped earlier { result := start }) world progress mid ∧
        (carryOut resolved equipped progress which).runOn host mid = (.error failure, after) ∧
        ∃ commands : StageCommands, (∃ flags, ∀ setup ∈ equipped, commands.Suit setup flags) ∧
          ∃ part, part <+: commands.launches host resolved which ∧
            after.launches = world.launches ++ earlier.flatMap (commands.launches host resolved) ++
              part) := by
  refine (Ends.foldlM (fun earlier progress before =>
    Passes host resolved equipped earlier { result := start } progress world before) ?_ ?_).imp
    ?_ (fun _ _ h => h)
  · have hnone : ∀ linking : Linking, linking ∉ (none : Option Linking) := Option.not_mem_none
    refine ⟨(List.append_nil _).symm, fun linking hmem => absurd hmem (hnone linking), ?_⟩
    intro flags _
    refine ⟨fun linking hmem => absurd hmem (hnone linking), fun commands _ => ?_⟩
    rw [List.flatMap_nil, List.append_nil]
  · -- a stage that fails adds the first ones of its launches to those of the stages that were passed
    rintro earlier which later rfl progress before hreturns hpasses
    have hstage : Ends host (carryOut resolved equipped progress which) before
        (fun passed after => Passes host resolved equipped [which] progress passed before after)
        (fun _ after => FailedStage host resolved equipped which progress before after) :=
      ends_carryOut_launches hequipped hexists (hselected which (by simp)) hpasses.linked
    refine (hstage.and (Ends.self ..)).imp ?_ ?_
    · rintro passed after ⟨hafter, -⟩
      exact hpasses.trans hafter
    · rintro failure after ⟨⟨flags, hflags, hfailed⟩, hrun⟩
      obtain ⟨commands, hsuit⟩ := hexists flags
      obtain ⟨part, hpart, hafter⟩ := hfailed commands hsuit
      refine ⟨earlier, which, later, progress, before, rfl, hreturns, hrun, commands,
        ⟨flags, hsuit⟩, part, hpart, ?_⟩
      rw [hafter, (hpasses.launches flags hflags).2 commands hsuit]
  · -- without a link any flags are as good as others
    intro passed after hpasses
    obtain ⟨flags, hflags⟩ := passed.exists_hasFlags
    obtain ⟨commands, hsuit⟩ := hexists flags
    exact ⟨hpasses.stagesRun, commands, ⟨flags, hsuit⟩,
      (hpasses.launches flags hflags).2 commands hsuit⟩

/-! ## The whole build -/

/-- What the stages of a build work with, as the checks find it out. -/
def equipmentFound (host : Host) (resolved : ResolvedConfiguration) (files : FileSystem) :
    Option Setup :=
  (toolCheck host resolved (rulesOn host resolved) files).toOption.bind
    (equipment resolved (rulesOn host resolved))

/-- The checks passed, and then some stages were carried out one after the other. -/
structure CarriedOut (host : Host) (resolved : ResolvedConfiguration) (stages : List Stage)
    (start : World) (progress : Progress) (mid : World) : Prop where
  inputs : inputFault? host start.files resolved.inputs = none
  tools : ∃ runtime, toolCheck host resolved (rulesOn host resolved) start.files = .ok runtime
  stages : ∃ checked, start.Still checked ∧
    Returns host (carryOutAll resolved (equipmentFound host resolved start.files) stages
      { result := { buildDir := resolved.buildDir } }) checked progress mid

/-- The commands are the ones that a build composes, with some flags for both links. -/
def StageCommands.Serve (commands : StageCommands) (host : Host) (resolved : ResolvedConfiguration)
    (files : FileSystem) : Prop :=
  ∃ flags, ∀ setup ∈ equipmentFound host resolved files, commands.Suit setup flags

/-- All selected stages of a build were carried out, and they made their launches. -/
def Completed (host : Host) (resolved : ResolvedConfiguration) (start : World) (result : BuildResult)
    (after : World) : Prop :=
  result.stagesRun = resolved.stages.enabled ∧
  (∃ commands : StageCommands, commands.Serve host resolved start.files ∧
    after.launches =
      start.launches ++ resolved.stages.enabled.flatMap (commands.launches host resolved)) ∧
  ∃ progress mid, CarriedOut host resolved resolved.stages.enabled start progress mid ∧
    mid.Still after ∧
    result = { progress.result with message := result.message, duration := result.duration }

/-- A build was stopped by a failure: in its checks, and then nothing was changed or launched, or in one of
    its stages. Then the stages before it were carried out, it has made the first ones of its launches,
    and nothing happened after it. -/
def Stopped (host : Host) (resolved : ResolvedConfiguration) (start : World) (failure : Failure)
    (after : World) : Prop :=
  (start.Still after ∧
    (inputFault? host start.files resolved.inputs = some failure ∨
      toolCheck host resolved (rulesOn host resolved) start.files = .error failure)) ∨
  ∃ earlier which later progress mid, resolved.stages.enabled = earlier ++ which :: later ∧
    CarriedOut host resolved earlier start progress mid ∧
    (carryOut resolved (equipmentFound host resolved start.files) progress which).runOn host mid =
      (.error failure, after) ∧
    ∃ commands : StageCommands, commands.Serve host resolved start.files ∧
      ∃ part, part <+: commands.launches host resolved which ∧
        earlier.flatMap (commands.launches host resolved) ++ part <+:
          resolved.stages.enabled.flatMap (commands.launches host resolved) ∧
        after.launches =
          start.launches ++ (earlier.flatMap (commands.launches host resolved) ++ part)

variable {start checked : World} {runtime : Option Runtime}

theorem equipmentFound_of_toolCheck {files : FileSystem}
    (h : toolCheck host resolved (rulesOn host resolved) files = .ok runtime) :
    equipmentFound host resolved files = equipment resolved (rulesOn host resolved) runtime := by
  simp [equipmentFound, h, Except.toOption]

theorem toolCheck_of_nothingSelected {files : FileSystem}
    (h : resolved.stages.nothingSelected = true) :
    toolCheck host resolved rules files = .ok none := by
  have hnone : ∀ which, resolved.stages.selects which = false := by
    intro which
    rw [← Bool.not_eq_true, ← StageSelection.mem_enabled, List.isEmpty_iff.1 h]
    exact List.not_mem_nil
  have hobject : resolved.stages.object = false := hnone .object
  have hshared : resolved.stages.shared = false := hnone .shared
  have hexecutable : resolved.stages.executable = false := hnone .executable
  have hlibs : resolved.stages.copyRuntimeLibs = false := hnone .copyRuntimeLibs
  simp [toolCheck, compilerCheck, runtimeCheck, StageSelection.needsCompiler,
    StageSelection.needsRuntime, hobject, hshared, hexecutable, hlibs]

/-- A build of which nothing is selected has completed all its stages after the check of its inputs. -/
theorem completed_of_nothingSelected {after : World} (h : resolved.stages.nothingSelected = true)
    (hstill : start.Still after)
    (hinputs : inputFault? host start.files resolved.inputs = none) {message : String} :
    Completed host resolved start { buildDir := resolved.buildDir, message } after := by
  have htools : toolCheck host resolved (rulesOn host resolved) start.files = .ok none :=
    toolCheck_of_nothingSelected h
  have hnone : equipmentFound host resolved start.files = none := equipmentFound_of_toolCheck htools
  have henabled : resolved.stages.enabled = [] := List.isEmpty_iff.1 h
  rw [Completed, henabled]
  refine ⟨rfl, ⟨⟨none, none, [], [], []⟩, ⟨[], ?_⟩, ?_⟩, _, after, ⟨hinputs, ⟨none, htools⟩, after,
    hstill, returns_pure.2 ⟨rfl, rfl⟩⟩, ⟨rfl, rfl⟩, rfl⟩
  · rw [hnone]
    exact fun setup hmem => absurd hmem (Option.not_mem_none setup)
  · rw [hstill.launches, List.flatMap_nil, List.append_nil]

theorem ends_checkInputs_still :
    Ends host (checkInputs resolved) world
      (fun _ after => world.Still after ∧ inputFault? host world.files resolved.inputs = none)
      (fun failure after => world.Still after ∧
        inputFault? host world.files resolved.inputs = some failure) := by
  have hstarts : Starts host (checkInputs resolved) [] (fun _ => True) :=
    (sameWork_checkInputs (.refl .clean resolved) rfl).starts
  refine (ends_checkInputs.and (hstarts.quiet world)).imp ?_ ?_
  · rintro _ after ⟨⟨huntouched, hfault⟩, -, hlaunches⟩
    exact ⟨⟨huntouched.files, hlaunches⟩, hfault⟩
  · rintro _ after ⟨⟨huntouched, hfault⟩, hlaunches⟩
    exact ⟨⟨huntouched.files, hlaunches⟩, hfault⟩

theorem ends_checkTools_still :
    Ends host (checkTools resolved rules) world
      (fun runtime after => world.Still after ∧
        toolCheck host resolved rules world.files = .ok runtime)
      (fun failure after => world.Still after ∧
        toolCheck host resolved rules world.files = .error failure) := by
  have hstarts : Starts host (checkTools resolved rules) [] (fun _ => True) :=
    (sameWork_checkTools (.refl .clean resolved) rfl rules).starts
  refine (ends_checkTools.and (hstarts.quiet world)).imp ?_ ?_
  · rintro _ after ⟨⟨huntouched, htools⟩, -, hlaunches⟩
    exact ⟨⟨huntouched.files, hlaunches⟩, htools⟩
  · rintro _ after ⟨⟨huntouched, htools⟩, hlaunches⟩
    exact ⟨⟨huntouched.files, hlaunches⟩, htools⟩

theorem ends_conclude_still {message : String} {start : Seconds} {result : BuildResult}
    {failing : Failure → World → Prop} :
    Ends host (conclude resolved message start result) world
      (fun final after => world.Still after ∧
        final = { result with message := final.message, duration := final.duration }) failing := by
  unfold conclude announce
  simp only [ends_bind, ends_sayIf, ends_now, ends_pure]
  exact ⟨⟨by simp, by simp⟩, trivial⟩

/-- After the checks passed, a build completes its selected stages or is stopped in one of them. -/
theorem ends_work_completed {time : Seconds} (hstill : start.Still checked)
    (hinputs : inputFault? host start.files resolved.inputs = none)
    (htools : toolCheck host resolved (rulesOn host resolved) start.files = .ok runtime)
    (hsome : resolved.stages.nothingSelected = false) :
    Ends host (work resolved (rulesOn host resolved) runtime time) checked
      (fun result after => Completed host resolved start result after)
      (fun failure after => Stopped host resolved start failure after) := by
  have hequipment := equipmentFound_of_toolCheck htools
  have hequipped : Equipped resolved (rulesOn host resolved)
      (equipmentFound host resolved start.files) := by
    rw [hequipment]
    exact equipped_of_suits _ (suits_of_toolCheck htools)
  have hexists : ∀ flags, ∃ commands : StageCommands,
      ∀ setup ∈ equipmentFound host resolved start.files, commands.Suit setup flags := by
    rw [hequipment]
    exact exists_suit htools
  have hcarried : ∀ {stages progress mid},
      Returns host (carryOutAll resolved (equipmentFound host resolved start.files) stages
        { result := { buildDir := resolved.buildDir } }) checked progress mid →
      CarriedOut host resolved stages start progress mid :=
    fun hreturns => ⟨hinputs, ⟨runtime, htools⟩, checked, hstill, hreturns⟩
  rw [work_eq_carryOutAll (suits_of_toolCheck htools) hsome, ← hequipment, ends_bind]
  refine ((ends_carryOutAll_launches hequipped hexists fun _ => StageSelection.mem_enabled.1).and
    (Ends.self ..)).imp ?_ ?_
  · rintro progress mid ⟨⟨hstages, commands, hserve, hlaunches⟩, hreturns⟩
    refine ends_conclude_still.imp ?_ (fun _ _ h => h)
    rintro result after ⟨hafter, hresult⟩
    refine ⟨?_, ⟨commands, hserve, ?_⟩, progress, mid, hcarried hreturns, hafter, hresult⟩
    · rw [hresult]
      exact hstages
    · rw [hafter.launches, hlaunches, hstill.launches]
  · rintro failure after ⟨⟨earlier, which, later, progress, mid, henabled, hreturns, hrun, commands,
      hserve, part, hpart, hlaunches⟩, -⟩
    refine .inr ⟨earlier, which, later, progress, mid, henabled, hcarried hreturns, hrun, commands,
      hserve, part, hpart, ?_, ?_⟩
    · rw [henabled, List.flatMap_append, List.flatMap_cons]
      exact (List.prefix_append_right_inj _).2 (hpart.trans (List.prefix_append _ _))
    · rw [hlaunches, hstill.launches, List.append_assoc]

/-- The stages of a run are the check of the tools, and then the work. -/
theorem runOn_runStages {world : World} {time : Seconds} :
    (runStages resolved time).runOn host world =
      (checkTools resolved (rulesOn host resolved) >>= fun runtime =>
        work resolved (rulesOn host resolved) runtime time).runOn host world := by
  have hread : (read : Action Host).runOn host world = (.ok host, world) := returns_read world
  unfold runStages work
  rw [runOn_bind, hread]
  rfl

/-- A run completes its selected stages, or it is stopped in its checks or in one of the stages. -/
theorem ends_runResolved_completed {time : Seconds} {begun : World} (hbegun : start.Still begun) :
    Ends host (runResolved resolved time) begun
      (fun result after => Completed host resolved start result after)
      (fun failure after => Stopped host resolved start failure after) := by
  unfold runResolved
  rw [ends_bind]
  refine ends_checkInputs_still.imp ?_ ?_
  · rintro _ checked ⟨hchecked, hinputs⟩
    rw [hbegun.files] at hinputs
    have hstill := (hbegun.trans hchecked).said (!resolved.quiet)
      ("Build directory:\n  \"" ++ resolved.buildDir.toString ++ "\"")
    rw [ends_bind, announce, ends_sayIf, ends_ite]
    split
    · next hnothing =>
        rw [ends_bind, announce, ends_sayIf, ends_pure]
        exact completed_of_nothingSelected hnothing (hstill.said _ _) hinputs
    · next hsome =>
        unfold runStages
        rw [ends_bind, ends_read, ends_bind]
        refine ends_checkTools_still.imp ?_ ?_
        · rintro runtime asked ⟨hasked, htools⟩
          rw [hstill.files] at htools
          exact ends_work_completed (hstill.trans hasked) hinputs htools (Bool.eq_false_iff.2 hsome)
        · rintro failure after ⟨hafter, hfault⟩
          rw [hstill.files] at hfault
          exact .inl ⟨hstill.trans hafter, .inr hfault⟩
  · rintro failure after ⟨hafter, hfault⟩
    rw [hbegun.files] at hfault
    exact .inl ⟨hbegun.trans hafter, .inl hfault⟩

end Build

namespace Configuration

/-- A build runs what its configuration resolves to, from where the clock was read. -/
theorem runOn_build {configuration : Configuration} {host : Host} {world : World} :
    configuration.build.runOn host world =
      (Build.runResolved (configuration.on host) world.time).runOn host world.ticked := by
  have hnow : now.runOn host world = (.ok world.time, world.ticked) :=
    returns_iff_ends.2 (ends_now.2 ⟨rfl, rfl⟩)
  have hread : (read : Action Host).runOn host world.ticked = (.ok host, world.ticked) :=
    returns_read world.ticked
  unfold build
  simp only [runOn_bind, hnow, hread]
  rfl

/-- A build whose tools do not pass their check ends in its checks: nothing is changed or launched. -/
theorem ends_build_of_toolCheck {configuration : Configuration} {host : Host} {world : World}
    {fault : Failure}
    (h : Build.toolCheck host (configuration.on host) (Build.rulesOn host (configuration.on host))
      world.files = .error fault) :
    Ends host configuration.build world (fun _ _ => False)
      (fun failure after => world.Still after ∧
        (Build.inputFault? host world.files (configuration.on host).inputs = some failure ∨
          failure = fault)) := by
  -- a build that has carried out a stage has passed the check
  have hnone : ∀ {stages progress mid},
      ¬ Build.CarriedOut host (configuration.on host) stages world progress mid := by
    rintro stages progress mid ⟨-, ⟨runtime, htools⟩, -⟩
    cases h.symm.trans htools
  unfold build
  rw [ends_bind, ends_now, ends_bind, ends_read]
  refine (Build.ends_runResolved_completed (.ticked world)).imp ?_ ?_
  · rintro result after ⟨-, -, progress, mid, hcarried, -⟩
    exact hnone hcarried
  · rintro failure after (⟨hstill, hinputs | htools⟩ | ⟨_, _, _, _, _, -, hcarried, -⟩)
    · exact ⟨hstill, .inl hinputs⟩
    · cases h.symm.trans htools
      exact ⟨hstill, .inr rfl⟩
    · exact absurd hcarried hnone

/-- The stages of a build happen in their fixed order and are the selected ones. A build that returns has
    carried out all of them, one after the other, with their launches in this order and no other; one
    that fails has done so up to the stage that failed, and with it everything ends. -/
theorem build_carries_out_selected_stages (configuration : Configuration) (host : Host)
    (world : World) :
    Ends host configuration.build world
      (fun result after => Build.Completed host (configuration.on host) world result after)
      (fun failure after => Build.Stopped host (configuration.on host) world failure after) := by
  unfold build
  rw [ends_bind, ends_now, ends_bind, ends_read]
  exact Build.ends_runResolved_completed (.ticked world)

end Configuration
end JuliaNative
