import JuliaNative.Proofs.Build.Parts
import JuliaNative.Proofs.Configuration.Expansion
import JuliaNative.Proofs.Outputs

set_option autoImplicit false

/-! # Builds in two parts

A build can be cut into two: the first carries out the first ones of the selected stages, and the second
all others. If both return, the single build returns as well, with the same files and the same launches
(`Configuration.build_of_split`). The second part finds out anew what the single build still knows: whether
the build directory is there, and the flags for linking. So the build directory has to stay where it
was seen, and if the cut is between the two links, the flags have to stay the same. Without that the
parts may do more than the single build, or something else (`Configuration.split_builds_that_differ`). -/

namespace JuliaNative

open JuliaNative.Action

namespace Build

variable {host : Host} {resolved : ResolvedConfiguration} {first second stages : List Stage}
  {start : World} {progress : Progress}

/-! ## Carrying out both parts -/

/-- What the links of a build work with, if it links and its stages can be carried out. -/
def linkedWith (host : Host) (resolved : ResolvedConfiguration) (world : World) : Option Linking :=
  ((carryOutAll resolved (equipmentFound host resolved world.files) resolved.stages.enabled
    { result := { buildDir := resolved.buildDir } }).value? host world).bind Progress.linking

/-- The flags for linking that follow from some files are those with which a build linked. -/
def KeepsFlags (host : Host) (resolved : ResolvedConfiguration) (world : World)
    (files : FileSystem) : Prop :=
  ∀ setup ∈ equipmentFound host resolved world.files, ∀ linking ∈ linkedWith host resolved world,
    flagsFor host setup files = .ok linking.flags

instance (host : Host) (resolved : ResolvedConfiguration) (world : World) (files : FileSystem) :
    Decidable (KeepsFlags host resolved world files) :=
  inferInstanceAs (Decidable (∀ setup ∈ _, ∀ linking ∈ _, _))

theorem linkedWith_of_carriedOut {carried : World} (henabled : resolved.stages.enabled = stages)
    (h : CarriedOut host resolved stages start progress carried) :
    linkedWith host resolved start = progress.linking := by
  subst henabled
  obtain ⟨checked, hchecked, hreturns⟩ := h.stages
  obtain ⟨passed', after', hreturns', hlinking, -⟩ := carryOutAll_of_still hchecked.symm hreturns
  unfold linkedWith value?
  rw [hreturns']
  exact hlinking

/-- The second part of a build begins as the whole would go on: where the first part made the build directory
    it is there, and what the first part linked with is found out again. -/
theorem second_resumes (resolved : ResolvedConfiguration) {selection : StageSelection}
    {which : Stage} {later : List Stage} {equipped equipped' : Option Setup} (result : BuildResult)
    (hcut : selection.enabled = first ++ which :: later) (hafter : progress.After equipped first)
    (hsees : (∃ earlier ∈ first, earlier ≠ .clean) →
      host.seesDirectory start.files resolved.buildDir = true)
    (hflags : ∀ linking ∈ progress.linking, .shared ∈ first → which = .executable →
      ∃ setup, equipped' = some setup ∧ linking.IsFor setup ∧
        flagsFor host setup start.files = .ok linking.flags) :
    ∃ links given, (∀ other ∈ which :: later, other.links = true → links = true) ∧
      progress.view links = Progress.view links given ∧
      (carryOutAll resolved equipped' (which :: later) { result }).runOn host start =
        (carryOutAll resolved equipped' (which :: later) given).runOn host start := by
  by_cases hinside : ∃ earlier ∈ first, earlier ≠ .clean
  · have hwhich : which ≠ .clean := by
      rintro rfl
      obtain ⟨earlier, hmem, -⟩ := hinside
      exact Nat.not_lt_zero _
        (StageSelection.rank_lt_of_cut hcut hmem (List.mem_cons_self : Stage.clean ∈ _))
    have hentered : progress.entered = true := hafter.entered.2 hinside
    have hfrom : (carryOutAll resolved equipped' (which :: later) { result }).runOn host start =
        (carryOutAll resolved equipped' (which :: later) { result, entered := true }).runOn host
          start := runOn_carryOutAll_entered hwhich (hsees hinside)
    cases hlinking : progress.linking with
    | none =>
        refine ⟨true, { result, entered := true }, fun _ _ _ => rfl, ?_, hfrom⟩
        exact Progress.view_eq_iff.2 ⟨hentered, fun _ => hlinking⟩
    | some linking =>
        by_cases hlinks : ∃ link ∈ which :: later, link.links = true
        · obtain ⟨earlier, hearlier⟩ := hafter.linked linking hlinking
          obtain ⟨link, hlink⟩ := hlinks
          obtain ⟨rfl, rfl⟩ := StageSelection.eq_executable_of_cut hcut rfl hearlier hlink
          obtain ⟨setup, rfl, hfor, hsame⟩ := hflags linking hlinking hearlier.1 rfl
          refine ⟨true, { result, entered := true, linking := some linking }, fun _ _ _ => rfl, ?_, ?_⟩
          · exact Progress.view_eq_iff.2 ⟨hentered, fun _ => hlinking⟩
          · exact hfrom.trans (runOn_carryOutAll_linked (returns_prepare hfor hsame rfl) rfl)
        · refine ⟨false, { result, entered := true }, fun other hother hlink => ?_, ?_, hfrom⟩
          · exact absurd ⟨other, hother, hlink⟩ hlinks
          · exact Progress.view_eq_iff.2 ⟨hentered, nofun⟩
  · -- nothing but cleaning was carried out, and so the build is as at its start
    refine ⟨true, { result }, fun _ _ _ => rfl, Progress.view_eq_iff.2 ⟨?_, fun _ => ?_⟩, rfl⟩
    · rw [← Bool.not_eq_true, hafter.entered]
      exact hinside
    · rw [Option.eq_none_iff_forall_not_mem]
      intro linking hmem
      obtain ⟨link, hlink, hlinks⟩ := hafter.linked linking hmem
      refine hinside ⟨link, hlink, ?_⟩
      rintro rfl
      cases hlinks

/-- Where the whole has come as far as the first part, it carries out the stages of the second part as the
    second part did. -/
theorem second_carriesOut (resolved' : ResolvedConfiguration) {equipped equipped' whole : Option Setup}
    {reached last : World} {passed later : Progress} {result : BuildResult}
    (hcut : resolved.stages.enabled = first ++ second) (hafter : progress.After equipped first)
    (hsees : (∃ which ∈ first, which ≠ .clean) → second ≠ [] →
      host.seesDirectory start.files resolved'.buildDir = true)
    (hflags : ∀ linking ∈ progress.linking, .shared ∈ first → .executable ∈ second →
      ∃ setup, equipped' = some setup ∧ linking.IsFor setup ∧
        flagsFor host setup start.files = .ok linking.flags)
    (halike : AlikeIn second resolved' resolved equipped' whole)
    (hview : passed.view true = progress.view true) (hstill : start.Still reached)
    (hruns : Returns host (carryOutAll resolved' equipped' second { result }) start later last) :
    ∃ final after, Returns host (carryOutAll resolved whole second passed) reached final after ∧
      last.Still after := by
  cases second with
  | nil =>
      obtain ⟨-, rfl⟩ := returns_pure.1 hruns
      exact ⟨passed, reached, returns_pure.2 ⟨rfl, rfl⟩, hstill⟩
  | cons which rest =>
      obtain ⟨links, given, hlinks, hgiven, heq⟩ := second_resumes resolved' result hcut hafter
        (fun hinside => hsees hinside (List.cons_ne_nil _ _))
        (fun linking hmem hshared hwhich =>
          hflags linking hmem hshared (hwhich ▸ List.mem_cons_self ..))
      have hgoes : Returns host (carryOutAll resolved' equipped' (which :: rest) given) start later
          last := heq.symm.trans hruns
      have hseen : passed.view links = given.view links := by
        obtain ⟨hentered, hlinking⟩ := Progress.view_eq_iff.1 hview
        exact (Progress.view_eq_iff.2 ⟨hentered, fun _ => hlinking rfl⟩).trans hgiven
      obtain ⟨final, after, hfinal, -, hlast⟩ :=
        carriesOut_of_alikeIn links halike hlinks hseen hstill hgoes
      exact ⟨final, after, hfinal, hlast⟩

/-- If both parts of a build carry out their stages, the whole can carry out all of them. -/
theorem carriedOut_of_cut {between mid last : World} {later : Progress}
    (hsteady : host.SteadyTools) (hcut : resolved.stages.enabled = first ++ second)
    (hinputs : inputFault? host start.files resolved.inputs = none)
    (hfirst : CarriedOut host (resolved.restrict first) first start progress between)
    (hmid : between.Still mid)
    (hsecond : CarriedOut host (resolved.restrict second) second mid later last)
    (hsees : (∃ which ∈ first, which ≠ .clean) → second ≠ [] →
      host.seesDirectory mid.files resolved.buildDir = true)
    (hflags : .shared ∈ first → .executable ∈ second →
      KeepsFlags host (resolved.restrict first) start mid.files) :
    ∃ passed after, CarriedOut host resolved resolved.stages.enabled start passed after ∧
      last.Still after := by
  have hlinked : linkedWith host (resolved.restrict first) start = progress.linking :=
    linkedWith_of_carriedOut (StageSelection.enabled_restrict_first hcut) hfirst
  have hselected : ∀ which ∈ first ++ second, resolved.stages.selects which = true := by
    rw [← hcut]
    exact fun _ => StageSelection.mem_enabled.1
  obtain ⟨runtime, htools⟩ := hfirst.tools
  obtain ⟨runtime', htools'⟩ := hsecond.tools
  have hequipment : equipmentFound host (resolved.restrict first) start.files =
      equipment (resolved.restrict first) (rulesOn host resolved) runtime :=
    equipmentFound_of_toolCheck htools
  have hequipment' : equipmentFound host (resolved.restrict second) mid.files =
      equipment (resolved.restrict second) (rulesOn host resolved) runtime' :=
    equipmentFound_of_toolCheck htools'
  obtain ⟨checked, hchecked, hrun⟩ := hfirst.stages
  obtain ⟨checked', hchecked', hrun'⟩ := hsecond.stages
  obtain ⟨known, hknown, hsame, hsame'⟩ := toolCheck_of_cut hsteady start.files hcut htools htools'
  rw [KeepsFlags, hlinked, hequipment] at hflags
  rw [hequipment] at hrun
  rw [hequipment'] at hrun'
  rw [← hchecked'.files] at hsees hflags
  have hafter : progress.After _ first := ends_carryOutAll_after.of_returns hrun
  -- the first part has done what the whole does first, and the second what it does then
  obtain ⟨passed, reached, hreached, hview, hstill⟩ := carriesOut_of_alikeIn true
    (alikeIn_restrict (fun _ hmem => hselected _ (List.mem_append_left _ hmem)) hsame)
    (fun _ _ _ => rfl) rfl hchecked.symm hrun
  obtain ⟨final, after, hfinal, hlast⟩ := second_carriesOut (resolved.restrict second) hcut hafter hsees
    (fun linking hmem hshared hexecutable => exists_setup_of_second hcut hshared hexecutable
      (suits_of_toolCheck htools) hsame hsame' fun setup hsetup =>
        ⟨hafter.isFor linking hmem setup hsetup, hflags hshared hexecutable setup hsetup linking hmem⟩)
    (alikeIn_restrict (fun _ hmem => hselected _ (List.mem_append_right _ hmem)) hsame') hview
    ((hmid.trans hchecked').symm.trans hstill) hrun'
  refine ⟨final, after, ⟨hinputs, ⟨known, hknown⟩, start, ⟨rfl, rfl⟩, ?_⟩, hlast⟩
  rw [hcut, equipmentFound_of_toolCheck hknown, carryOutAll, List.foldlM_append]
  exact returns_bind.2 ⟨passed, reached, hreached, hfinal⟩

end Build

/-! ## The whole build -/

namespace Configuration

variable {configuration : Configuration} {host : Host} {world mid last : World}
  {first second : List Stage} {result result' : BuildResult}

/-- A configuration of which only some of the selected stages are left, and with all other options as they
    are. -/
def keep (configuration : Configuration) (stages : List Stage) : Configuration :=
  { configuration with
    clean := configuration.clean && decide (.clean ∈ stages)
    object := configuration.object && decide (.object ∈ stages)
    shared := configuration.shared && decide (.shared ∈ stages)
    executable := configuration.executable && decide (.executable ∈ stages)
    removeTemp := configuration.removeTemp && decide (.removeTemp ∈ stages)
    copyRuntimeLibs := configuration.copyRuntimeLibs && decide (.copyRuntimeLibs ∈ stages)
    copyFiles := if .copyUserFiles ∈ stages then configuration.copyFiles else none }

theorem expand_keep (hauto : configuration.autoDeps = false)
    (hfull : configuration.fullRelease = false) (stages : List Stage) :
    (configuration.keep stages).expand = configuration.expand.keep stages := by
  rw [expand_eq, expand_eq]
  simp only [keep, hauto, hfull, Bool.or_false, Bool.false_and]

/-- Where no stage is selected for the sake of others, what is left of a configuration is what is left of
    the resolved one. -/
theorem on_keep (hauto : configuration.autoDeps = false) (hfull : configuration.fullRelease = false)
    (stages : List Stage) :
    (configuration.keep stages).on host = (configuration.on host).restrict stages := by
  unfold on resolve
  rw [expand_keep hauto hfull]
  by_cases hcopied : Stage.copyUserFiles ∈ stages
  · simp [keep, ResolvedConfiguration.restrict, StageSelection.restrict, hcopied]
    rfl
  · simp [keep, ResolvedConfiguration.restrict, StageSelection.restrict, hcopied]
    rfl

theorem completed_of_returns (h : Returns host configuration.build world result last) :
    Build.Completed host (configuration.on host) world result last := by
  rw [Returns, runOn_build] at h
  exact (Build.ends_runResolved_completed (.ticked world)).of_returns h

/-- A build from a world returns, and comes to the files and to the launches of another world. -/
def BuildsTo (configuration : Configuration) (host : Host) (world last : World) : Prop :=
  ∃ result after, Returns host configuration.build world result after ∧
    after.files = last.files ∧ after.launches = last.launches

/-- Splitting a build is the same as doing it at once: if a build with the first ones of the selected stages
    and then one with the others return, the single build returns, with the same files and the launches
    of both. The tools answer alike each time; the build directory stays where the second part sees it; and
    if the cut is between the two links, the flags for linking stay the same. -/
theorem build_of_split (hauto : configuration.autoDeps = false)
    (hfull : configuration.fullRelease = false) (hsteady : host.SteadyTools)
    (hcut : (configuration.on host).stages.enabled = first ++ second)
    (hinputs : ∀ input ∈ (configuration.on host).inputs, host.seesFile world.files input = true)
    (hfirst : Returns host (configuration.keep first).build world result mid)
    (hsecond : Returns host (configuration.keep second).build mid result' last)
    (hsees : (∃ which ∈ first, which ≠ .clean) → second ≠ [] →
      host.seesDirectory mid.files (configuration.on host).buildDir = true)
    (hflags : .shared ∈ first → .executable ∈ second →
      Build.KeepsFlags host ((configuration.keep first).on host) world mid.files) :
    configuration.BuildsTo host world last := by
  obtain ⟨-, -, progress, between, hcarried, hmid, -⟩ := completed_of_returns hfirst
  obtain ⟨-, -, progress', beyond, hcarried', hlast, -⟩ := completed_of_returns hsecond
  rw [on_keep hauto hfull] at hcarried hcarried' hflags
  have henabled : ((configuration.on host).restrict first).stages.enabled = first :=
    StageSelection.enabled_restrict_first hcut
  have henabled' : ((configuration.on host).restrict second).stages.enabled = second :=
    StageSelection.enabled_restrict_second hcut
  rw [henabled] at hcarried
  rw [henabled'] at hcarried'
  obtain ⟨passed, carried, hwhole, hstill⟩ := Build.carriedOut_of_cut hsteady hcut
    (Build.inputFault?_eq_none hinputs) hcarried hmid hcarried' hsees hflags
  obtain ⟨whole, after, hreturns, hafter⟩ := Build.returns_of_carriedOut (.ticked world) hwhole
  have hsame : last.Still after := hlast.symm.trans (hstill.trans hafter)
  refine ⟨whole, after, ?_, hsame.files, hsame.launches⟩
  rw [Returns, runOn_build]
  exact hreturns

/-- A library and the executable that is linked with it can be built one after the other. -/
theorem split_build_of_app :
    let configuration : Configuration :=
      { program := Path.ofString "app.jl", shared := true, executable := true }
    let host := Host.obedient Host.plainCommand fun _ => "built".toUTF8
    let world : World :=
      { files := Host.projectFiles [(["app.jl"], "println(1)"), (["app.a", "builddir"], "object")] }
    let mid := ((configuration.keep [.shared]).build.runOn host world).2
    let last := ((configuration.keep [.executable]).build.runOn host mid).2
    (configuration.on host).stages.enabled = [.shared] ++ [.executable] ∧
      last.launches.length = 2 ∧ configuration.BuildsTo host world last := by
  intro configuration host world mid last
  have hsteady : host.SteadyTools := ⟨fun _ _ _ _ => rfl, fun _ _ _ => rfl⟩
  have hruns : (∀ input ∈ (configuration.on host).inputs, host.seesFile world.files input = true) ∧
      ((configuration.keep [.shared]).build.value? host world).isSome = true ∧
      ((configuration.keep [.executable]).build.value? host mid).isSome = true ∧
      host.seesDirectory mid.files (configuration.on host).buildDir = true ∧
      Build.KeepsFlags host ((configuration.keep [.shared]).on host) world mid.files ∧
      last.launches.length = 2 := by decide +kernel
  obtain ⟨hinputs, hfirst, hsecond, hsees, hflags, hlength⟩ := hruns
  obtain ⟨result, hresult⟩ := Option.isSome_iff_exists.1 hfirst
  obtain ⟨result', hresult'⟩ := Option.isSome_iff_exists.1 hsecond
  refine ⟨rfl, hlength, ?_⟩
  exact build_of_split rfl rfl hsteady rfl hinputs (runOn_of_value? hresult)
    (runOn_of_value? hresult') (fun _ _ => hsees) fun _ _ => hflags

/-- Both parts of a build return, but the whole does not do the same. -/
def DiffersFromParts (configuration : Configuration) (host : Host) (world : World)
    (first second : List Stage) : Prop :=
  let mid := ((configuration.keep first).build.runOn host world).2
  let last := ((configuration.keep second).build.runOn host mid).2
  configuration.autoDeps = false ∧ configuration.fullRelease = false ∧ host.SteadyTools ∧
    (configuration.on host).stages.enabled = first ++ second ∧
    (∀ input ∈ (configuration.on host).inputs, host.seesFile world.files input = true) ∧
    ((configuration.keep first).build.value? host world).isSome = true ∧
    ((configuration.keep second).build.value? host mid).isSome = true ∧
    ¬ configuration.BuildsTo host world last

theorem not_buildsTo (h : (configuration.build.value? host world).isSome = false ∨
    (configuration.build.runOn host world).2.launches ≠ last.launches) :
    ¬ configuration.BuildsTo host world last := by
  rintro ⟨result, after, hreturns, -, hlaunches⟩
  rw [value?, hreturns] at h
  rcases h with h | h
  · cases h
  · exact h hlaunches

/-- A host on which the link of a shared library also turns the directory of julia's libraries into a
    link. -/
def relinkingHost : Host :=
  let obedient := Host.obedient Host.plainCommand fun _ => "built".toUTF8
  { obedient with
    run := fun command directory environment files =>
      match obedient.run command directory environment files with
      | .finished answer changed =>
        .finished answer
          (if "-shared" ∈ command then changed.insert ["lib"] (.link "/moved") else changed)
      | outcome => outcome }

/-- The parts of a build can do more than the whole, by making again the build directory that the first part
    cut off when it removed a directory on the way to it; and they can do something else, with the flags that
    follow from where julia's libraries are when the executable is linked. -/
theorem split_builds_that_differ :
    DiffersFromParts
      { program := Path.ofString "app.jl", buildDir := some (Path.ofString "b/x.o/..")
        removeTemp := true, copyFiles := some [Path.ofString "data.txt"] }
      (Host.obedient Host.plainCommand fun _ => "built".toUTF8)
      { files := ((Host.projectFiles [(["app.jl"], "println(1)"), (["data.txt"], "d")]).insert
          ["b", "work"] .directory).insert ["x.o", "b", "work"] .directory }
      [.removeTemp] [.copyUserFiles] ∧
    DiffersFromParts
      { program := Path.ofString "app.jl", shared := true, executable := true } relinkingHost
      { files := Host.projectFiles [(["app.jl"], "println(1)"), (["app.a", "builddir"], "object")] }
      [.shared] [.executable] := by
  constructor
  · refine ⟨rfl, rfl, ⟨fun _ _ _ _ => rfl, fun _ _ _ => rfl⟩, rfl, ?_⟩
    refine And.imp_right (And.imp_right (And.imp_right not_buildsTo)) ?_
    decide +kernel
  · refine ⟨rfl, rfl, ⟨fun _ _ _ _ => rfl, fun _ _ _ => rfl⟩, rfl, ?_⟩
    refine And.imp_right (And.imp_right (And.imp_right not_buildsTo)) ?_
    decide +kernel

end Configuration
end JuliaNative
