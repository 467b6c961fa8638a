import JuliaNative.Proofs.Build.Comparison

set_option autoImplicit false

/-! # Parts of a build

The selected stages can be cut into two parts, the first ones and the others
(`ResolvedConfiguration.restrict`). Since they stand in a fixed order, each part selects what it is to
select, and two links are only cut apart between the shared library and the executable. Tools that answer
steadily let a build pass if they let both parts pass, and then all three know the same runtime
(`Build.toolCheck_of_cut`). -/

namespace JuliaNative

open JuliaNative.Action

/-! ## Parts of a selection -/

/-- The place of a stage in the order in which stages run. -/
def Stage.rank (which : Stage) : Nat :=
  Stage.all.idxOf which

namespace StageSelection

variable {selection : StageSelection} {first second : List Stage}

/-- Of the selected stages only the ones among given stages. -/
def restrict (selection : StageSelection) (stages : List Stage) : StageSelection where
  clean := selection.clean && decide (.clean ∈ stages)
  object := selection.object && decide (.object ∈ stages)
  shared := selection.shared && decide (.shared ∈ stages)
  executable := selection.executable && decide (.executable ∈ stages)
  removeTemp := selection.removeTemp && decide (.removeTemp ∈ stages)
  copyRuntimeLibs := selection.copyRuntimeLibs && decide (.copyRuntimeLibs ∈ stages)
  copyUserFiles := selection.copyUserFiles && decide (.copyUserFiles ∈ stages)

theorem selects_restrict (selection : StageSelection) (stages : List Stage) (which : Stage) :
    (selection.restrict stages).selects which =
      (selection.selects which && decide (which ∈ stages)) := by
  cases which <;> rfl

theorem enabled_restrict (selection : StageSelection) (stages : List Stage) :
    (selection.restrict stages).enabled = selection.enabled.filter (· ∈ stages) := by
  unfold enabled
  rw [List.filter_filter]
  refine List.filter_congr fun which _ => ?_
  rw [selects_restrict, Bool.and_comm]

/-- The selected stages stand in the order of all stages. -/
theorem pairwise_enabled (selection : StageSelection) :
    selection.enabled.Pairwise (fun earlier later => earlier.rank < later.rank) := by
  have hall : Stage.all.Pairwise (fun earlier later => earlier.rank < later.rank) := by decide
  exact hall.filter _

theorem needsRuntime_restrict {which : Stage} {stages : List Stage}
    (hselected : selection.selects which = true) (hmem : which ∈ stages)
    (hneeds : which.needsRuntime = true) : (selection.restrict stages).needsRuntime = true := by
  refine needsRuntime_iff.2 ⟨which, ?_, hneeds⟩
  rw [selects_restrict, hselected]
  simpa using hmem

theorem needsRuntime_of_restrict {stages : List Stage}
    (h : (selection.restrict stages).needsRuntime = true) : selection.needsRuntime = true := by
  obtain ⟨which, hselected, hneeds⟩ := needsRuntime_iff.1 h
  rw [selects_restrict, Bool.and_eq_true] at hselected
  exact needsRuntime_iff.2 ⟨which, hselected.1, hneeds⟩

section Cut

variable (hcut : selection.enabled = first ++ second)
include hcut

/-- Where the selected stages are cut, all stages of the first part stand before all of the second. -/
theorem rank_lt_of_cut {which other : Stage} (hfirst : which ∈ first) (hsecond : other ∈ second) :
    which.rank < other.rank := by
  have hpairs := selection.pairwise_enabled
  rw [hcut, List.pairwise_append] at hpairs
  exact hpairs.2.2 which hfirst other hsecond

theorem not_mem_both {which : Stage} (hfirst : which ∈ first) : which ∉ second := fun hsecond =>
  Nat.lt_irrefl _ (rank_lt_of_cut hcut hfirst hsecond)

theorem enabled_restrict_first : (selection.restrict first).enabled = first := by
  rw [enabled_restrict, hcut, List.filter_append]
  have hnone : second.filter (· ∈ first) = [] := by
    simp only [List.filter_eq_nil_iff, decide_eq_true_eq]
    exact fun which hsecond hfirst => not_mem_both hcut hfirst hsecond
  rw [hnone, List.append_nil, List.filter_eq_self]
  simp

theorem enabled_restrict_second : (selection.restrict second).enabled = second := by
  rw [enabled_restrict, hcut, List.filter_append]
  have hnone : first.filter (· ∈ second) = [] := by
    simp only [List.filter_eq_nil_iff, decide_eq_true_eq]
    exact fun which hfirst => not_mem_both hcut hfirst
  rw [hnone, List.nil_append, List.filter_eq_self]
  simp

/-- A stage is selected if one of the parts selects it. -/
theorem selects_of_cut (which : Stage) :
    selection.selects which =
      ((selection.restrict first).selects which || (selection.restrict second).selects which) := by
  rw [Bool.eq_iff_iff, Bool.or_eq_true, ← mem_enabled, ← mem_enabled, ← mem_enabled,
    enabled_restrict_first hcut, enabled_restrict_second hcut, hcut, List.mem_append]

theorem needsCompiler_of_cut (hneeds : selection.needsCompiler = true) :
    (selection.restrict first).needsCompiler = true ∨
      (selection.restrict second).needsCompiler = true := by
  have hshared : selection.shared = _ := selects_of_cut hcut .shared
  have hexecutable : selection.executable = _ := selects_of_cut hcut .executable
  simp only [needsCompiler, hshared, hexecutable, selects, Bool.or_eq_true] at hneeds ⊢
  exact or_or_or_comm.1 hneeds

theorem needsRuntime_of_cut (hneeds : selection.needsRuntime = true) :
    (selection.restrict first).needsRuntime = true ∨
      (selection.restrict second).needsRuntime = true := by
  obtain ⟨which, hselected, hwhich⟩ := needsRuntime_iff.1 hneeds
  rw [selects_of_cut hcut, Bool.or_eq_true] at hselected
  exact hselected.imp (fun h => needsRuntime_iff.2 ⟨which, h, hwhich⟩)
    fun h => needsRuntime_iff.2 ⟨which, h, hwhich⟩

/-- If both parts link, the first links the shared library and the second begins with the executable. -/
theorem eq_executable_of_cut {which link other : Stage} {later : List Stage}
    (hsecond : second = other :: later) (hwhich : which ∈ first ∧ which.links = true)
    (hlink : link ∈ second ∧ link.links = true) : which = .shared ∧ other = .executable := by
  have hbefore := rank_lt_of_cut hcut hwhich.1 hlink.1
  obtain ⟨rfl, rfl⟩ : which = .shared ∧ link = .executable := by
    have hlinks : ∀ stage : Stage, stage.links = true → stage = .shared ∨ stage = .executable := by
      intro stage h
      cases stage with
      | shared => exact .inl rfl
      | executable => exact .inr rfl
      | _ => cases h
    rcases hlinks which hwhich.2 with rfl | rfl <;> rcases hlinks link hlink.2 with rfl | rfl
    · exact absurd hbefore (by decide)
    · exact ⟨rfl, rfl⟩
    · exact absurd hbefore (by decide)
    · exact absurd hbefore (by decide)
  refine ⟨rfl, ?_⟩
  -- between the two links there is no other stage
  have hpairs := selection.pairwise_enabled
  rw [hcut, hsecond, List.pairwise_append, List.pairwise_cons] at hpairs
  have hafter : Stage.shared.rank < other.rank :=
    hpairs.2.2 .shared hwhich.1 other (List.mem_cons_self ..)
  rw [hsecond, List.mem_cons] at hlink
  rcases hlink.1 with rfl | hmem
  · rfl
  · have hbetween := hpairs.2.1.1 .executable hmem
    have hshared : Stage.shared.rank = 2 := rfl
    have hexecutable : Stage.executable.rank = 3 := rfl
    omega

end Cut
end StageSelection

/-! ## Parts of a build -/

/-- A resolved configuration of which only some of the selected stages are left. -/
def ResolvedConfiguration.restrict (resolved : ResolvedConfiguration) (stages : List Stage) :
    ResolvedConfiguration :=
  { resolved with
    stages := resolved.stages.restrict stages
    copyFiles := if .copyUserFiles ∈ stages then resolved.copyFiles else [] }

/-- The tools answer in the same way whatever the files are. -/
structure Host.SteadyTools (host : Host) : Prop where
  check : ∀ command environment files files',
    host.check command environment files = host.check command environment files'
  report : ∀ command files files', host.report command files = host.report command files'

namespace Build

variable {host : Host} {resolved : ResolvedConfiguration} {rules : LinkRules}
  {first second : List Stage} {files files' files'' : FileSystem}

theorem alikeFor_restrict {which : Stage} {stages : List Stage} (h : which ∈ stages) :
    (resolved.restrict stages).AlikeFor which resolved := by
  refine ⟨rfl, rfl, rfl, rfl, rfl, rfl, fun hcopies => ?_, rfl, rfl, rfl, rfl⟩
  subst hcopies
  exact (if_pos h).symm

theorem inputFault?_eq_none {inputs : List Path}
    (h : ∀ input ∈ inputs, host.seesFile files input = true) :
    inputFault? host files inputs = none := by
  induction inputs with
  | nil => rfl
  | cons input rest ih =>
      have hsees := h input (List.mem_cons_self ..)
      unfold inputFault?
      rw [Host.cannotSee_of_seesFile hsees, if_neg Bool.false_ne_true, if_pos hsees]
      exact ih fun other hother => h other (List.mem_cons_of_mem _ hother)

theorem compilerCheck_eq_ok_iff :
    compilerCheck host resolved rules files = .ok () ↔
      (resolved.stages.needsCompiler = true → ∃ name, programOf resolved.cc = .ok name ∧
        compilerVerdict name (host.check (compilerCheckCommand name)
          (rules.compilerEnvironment host.environment) files) = .ok ()) := by
  unfold compilerCheck
  split
  · next hneeds => cases programOf resolved.cc <;> simp [hneeds]
  · next hneeds => simp [hneeds]

theorem runtimeCheck_eq_ok_iff {runtime : Option Runtime} :
    runtimeCheck host resolved files = .ok runtime ↔
      if resolved.stages.needsRuntime then
        ∃ known, runtimeReport host resolved.julia files = .ok known ∧ runtime = some known ∧
          (resolved.stages.object = true → (BaseCommand.ofList? known.command).isSome = true)
      else runtime = none := by
  unfold runtimeCheck
  split
  · next hneeds =>
      cases runtimeReport host resolved.julia files with
      | error failure => simp
      | ok known =>
          dsimp only
          cases resolved.stages.object <;> cases hshape : BaseCommand.ofList? known.command <;>
            simp [hshape, @eq_comm _ runtime]
  · rw [Except.ok.injEq, eq_comm]

theorem runtimeReport_congr (hsteady : host.SteadyTools) (julia : Value) :
    runtimeReport host julia files = runtimeReport host julia files' := by
  unfold runtimeReport
  simp only [hsteady.report _ files files']

theorem toolCheck_eq_ok_iff {runtime : Option Runtime} :
    toolCheck host resolved rules files = .ok runtime ↔
      compilerCheck host resolved rules files = .ok () ∧
        runtimeCheck host resolved files = .ok runtime := by
  unfold toolCheck
  cases compilerCheck host resolved rules files <;> simp

/-- What the checks let a part of a build work with. -/
theorem exists_runtime_of_part (hsteady : host.SteadyTools) {stages : List Stage}
    {runtime : Option Runtime} (files : FileSystem)
    (hneeds : (resolved.restrict stages).stages.needsRuntime = true)
    (h : toolCheck host (resolved.restrict stages) rules files' = .ok runtime) :
    ∃ known, runtimeReport host resolved.julia files = .ok known ∧ runtime = some known ∧
      ((resolved.restrict stages).stages.object = true →
        (BaseCommand.ofList? known.command).isSome = true) := by
  have hruntime := (toolCheck_eq_ok_iff.1 h).2
  rw [runtimeCheck_eq_ok_iff, if_pos hneeds] at hruntime
  obtain ⟨known, hreport, hknown⟩ := hruntime
  exact ⟨known, (runtimeReport_congr hsteady _).trans hreport, hknown⟩

/-- If the compiler is found for both parts of a build it is found for the whole. -/
theorem compilerCheck_of_cut (hsteady : host.SteadyTools) (files : FileSystem)
    (hcut : resolved.stages.enabled = first ++ second)
    (hfirst : compilerCheck host (resolved.restrict first) rules files' = .ok ())
    (hsecond : compilerCheck host (resolved.restrict second) rules files'' = .ok ()) :
    compilerCheck host resolved rules files = .ok () := by
  rw [compilerCheck_eq_ok_iff]
  intro hneeds
  rcases StageSelection.needsCompiler_of_cut hcut hneeds with hpart | hpart
  · obtain ⟨name, hname, hruns⟩ := compilerCheck_eq_ok_iff.1 hfirst hpart
    exact ⟨name, hname, by rwa [hsteady.check _ _ files files']⟩
  · obtain ⟨name, hname, hruns⟩ := compilerCheck_eq_ok_iff.1 hsecond hpart
    exact ⟨name, hname, by rwa [hsteady.check _ _ files files'']⟩

/-- If the checks let both parts of a build pass they let the whole pass, with the same runtime. -/
theorem toolCheck_of_cut (hsteady : host.SteadyTools) (files : FileSystem)
    (hcut : resolved.stages.enabled = first ++ second) {runtime runtime' : Option Runtime}
    (hfirst : toolCheck host (resolved.restrict first) rules files' = .ok runtime)
    (hsecond : toolCheck host (resolved.restrict second) rules files'' = .ok runtime') :
    ∃ known, toolCheck host resolved rules files = .ok known ∧
      ((resolved.restrict first).stages.needsRuntime = true → runtime = known) ∧
      ((resolved.restrict second).stages.needsRuntime = true → runtime' = known) := by
  have hcompiler : compilerCheck host resolved rules files = .ok () :=
    compilerCheck_of_cut hsteady files hcut (toolCheck_eq_ok_iff.1 hfirst).1
      (toolCheck_eq_ok_iff.1 hsecond).1
  have hof : ∀ {stages : List Stage}, (resolved.restrict stages).stages.needsRuntime = true →
      resolved.stages.needsRuntime = true := StageSelection.needsRuntime_of_restrict
  simp only [toolCheck_eq_ok_iff, runtimeCheck_eq_ok_iff, hcompiler, true_and]
  by_cases hneeds : resolved.stages.needsRuntime = true
  · obtain ⟨known, hreport⟩ : ∃ known, runtimeReport host resolved.julia files = .ok known := by
      rcases StageSelection.needsRuntime_of_cut hcut hneeds with hpart | hpart
      · obtain ⟨known, hreport, -⟩ := exists_runtime_of_part hsteady files hpart hfirst
        exact ⟨known, hreport⟩
      · obtain ⟨known, hreport, -⟩ := exists_runtime_of_part hsteady files hpart hsecond
        exact ⟨known, hreport⟩
    -- both parts that need the runtime have come to know the same one
    have hpart : ∀ {stages : List Stage} {runtime : Option Runtime} {start : FileSystem},
        toolCheck host (resolved.restrict stages) rules start = .ok runtime →
        (resolved.restrict stages).stages.needsRuntime = true → runtime = some known ∧
          ((resolved.restrict stages).stages.object = true →
            (BaseCommand.ofList? known.command).isSome = true) := by
      intro stages runtime start hcheck hpart
      obtain ⟨other, hother, hruntime, hshape⟩ := exists_runtime_of_part hsteady files hpart hcheck
      obtain rfl := Except.ok.inj (hother.symm.trans hreport)
      exact ⟨hruntime, hshape⟩
    refine ⟨some known, ?_, fun h => (hpart hfirst h).1, fun h => (hpart hsecond h).1⟩
    rw [if_pos hneeds]
    refine ⟨known, hreport, rfl, fun hobject => ?_⟩
    have hselected : resolved.stages.selects .object = true := hobject
    rw [StageSelection.selects_of_cut hcut, Bool.or_eq_true] at hselected
    rcases hselected with h | h
    · exact (hpart hfirst (StageSelection.needsRuntime_iff.2 ⟨.object, h, rfl⟩)).2 h
    · exact (hpart hsecond (StageSelection.needsRuntime_iff.2 ⟨.object, h, rfl⟩)).2 h
  · exact ⟨none, by rw [if_neg hneeds], fun h => absurd (hof h) hneeds,
      fun h => absurd (hof h) hneeds⟩

/-! ## What the parts work with -/

section

variable {resolved' : ResolvedConfiguration} {runtime : Option Runtime} {stages : List Stage}

theorem equipment_eq_map (hname : resolved'.outputName = resolved.outputName) :
    equipment resolved' rules runtime =
      (equipment resolved rules runtime).map fun setup => { setup with resolved := resolved' } := by
  unfold equipment
  rw [hname]
  cases runtime with
  | none => rfl
  | some known => rw [Option.bind_some, Option.bind_some, Option.map_map]; rfl

/-- In its stages a part of a build works alike with the whole, if both know the same runtime. -/
theorem alikeIn_restrict {known : Option Runtime}
    (hselected : ∀ which ∈ stages, resolved.stages.selects which = true)
    (hknown : (resolved.restrict stages).stages.needsRuntime = true → runtime = known) :
    AlikeIn stages (resolved.restrict stages) resolved
      (equipment (resolved.restrict stages) rules runtime) (equipment resolved rules known) := by
  refine ⟨fun which => alikeFor_restrict, fun _ => resolved_of_mem_equipment, ?_⟩
  intro which hmem hneeds
  obtain rfl := hknown (StageSelection.needsRuntime_restrict (hselected which hmem) hmem hneeds)
  exact equipment_eq_map rfl

/-- What the first part of a build links with is for the setup of the second part as well. -/
theorem exists_setup_of_second {linking : Linking} {runtime' known : Option Runtime}
    (hcut : resolved.stages.enabled = first ++ second) (hshared : .shared ∈ first)
    (hexecutable : .executable ∈ second) (hsuits : Suits (resolved.restrict first) runtime)
    (hknown : (resolved.restrict first).stages.needsRuntime = true → runtime = known)
    (hknown' : (resolved.restrict second).stages.needsRuntime = true → runtime' = known)
    (hlinking : ∀ setup ∈ equipment (resolved.restrict first) rules runtime,
      linking.IsFor setup ∧ flagsFor host setup files = .ok linking.flags) :
    ∃ setup, equipment (resolved.restrict second) rules runtime' = some setup ∧
      linking.IsFor setup ∧ flagsFor host setup files = .ok linking.flags := by
  have hneeds : (resolved.restrict first).stages.needsRuntime = true :=
    StageSelection.needsRuntime_iff.2 ⟨.shared, StageSelection.mem_enabled.1
      ((StageSelection.enabled_restrict_first hcut).symm ▸ hshared), rfl⟩
  have hneeds' : (resolved.restrict second).stages.needsRuntime = true :=
    StageSelection.needsRuntime_iff.2 ⟨.executable, StageSelection.mem_enabled.1
      ((StageSelection.enabled_restrict_second hcut).symm ▸ hexecutable), rfl⟩
  rw [hknown hneeds] at hsuits hlinking
  rw [hknown' hneeds']
  obtain ⟨setup, hsetup⟩ := (equipped_of_suits rules hsuits).exists_setup hneeds
  obtain ⟨hfor, hflags⟩ := hlinking setup hsetup
  have hown : setup.resolved = resolved.restrict first := resolved_of_mem_equipment hsetup
  have hother : equipment (resolved.restrict second) rules known =
      some { setup with resolved := resolved.restrict second } := by
    have hmap : equipment (resolved.restrict second) rules known =
        (equipment (resolved.restrict first) rules known).map _ := equipment_eq_map rfl
    rw [hmap, hsetup]
    rfl
  refine ⟨_, hother, ⟨?_, hfor.rules, hfor.runtime⟩, ?_⟩
  · have hcompiler := hfor.compiler
    rwa [hown] at hcompiler
  · unfold flagsFor at hflags ⊢
    rwa [hown] at hflags

end

end Build
end JuliaNative
