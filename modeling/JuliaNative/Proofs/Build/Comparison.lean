import JuliaNative.Proofs.Build.Order

set_option autoImplicit false

/-! # Carrying out stages in two builds

Two builds that ask the same of some stages carry them out in the same way, from worlds with the same
files and the same launches (`Build.matches_carryOutAll`). What the stages see of how far a build has
come is little (`Build.Progress.view`): whether the build directory was made, and what the links work
with. Both can be made up for when a build begins in the middle: a build directory that is there need
not be made, and flags that are found out anew may be the ones that were used before. -/

namespace JuliaNative

open JuliaNative.Action

/-! ## The same files and launches -/

/-- Two runs that came equally far in alike ways have the same files and the same launches, if their
    starts do. -/
theorem World.AlikeSince.still {start start' world world' : World} (hstart : start.Still start')
    (h : start.AlikeSince start' world world') : world.Still world' := by
  obtain ⟨more, hevents, hevents'⟩ := h.events
  refine ⟨h.files.symm, ?_⟩
  rw [World.launches, World.launches, hevents, hevents', List.filterMap_append, List.filterMap_append]
  exact congrArg (· ++ _) hstart.launches

namespace Action

variable {α : Type} {host : Host} {running : Bool} {fails : Failure → Prop}

/-- From worlds with the same files and the same launches, two actions that do the same work end in the same
    way, with the same files and the same launches. -/
theorem SameWork.matches_still {first second : Action α} (h : SameWork running fails first second) :
    Matches host World.Still (fun value value' after after' => value' = value ∧ after.Still after')
      (fun _ => World.Still) first second := by
  intro world world' hstill
  have hmatches : Matches host (world.AlikeSince world') _ _ first second := h.matches world world'
  have hmatch := hmatches world world' (.refl hstill.files.symm)
  split at hmatch
  · exact ⟨hmatch.1, hmatch.2.still hstill⟩
  · exact ⟨hmatch.1, hmatch.2.still hstill⟩
  · exact hmatch.elim

end Action

namespace Build

variable {host : Host} {resolved resolved' : ResolvedConfiguration} {rules : LinkRules}
  {equipped equipped' : Option Setup} {setup : Setup} {which : Stage} {progress progress' : Progress}
  {stages : List Stage} {world : World} {links : Bool}

/-- What the stages that are still to come see of how far a build has come: whether the build directory
    was made, and, if some of them link, what the links work with. -/
def Progress.view (links : Bool) (progress : Progress) : Bool × Option Linking :=
  (progress.entered, if links then progress.linking else none)

theorem Progress.view_eq_iff :
    progress'.view links = progress.view links ↔
      progress'.entered = progress.entered ∧ (links = true → progress'.linking = progress.linking) := by
  cases links <;> simp [view]

@[simp] theorem Progress.view_passed (result : BuildResult) :
    (progress.passed which result).view links = progress.view links := rfl

/-! ## One stage -/

theorem carryOut_of_not_needsRuntime (h : which.needsRuntime = false)
    (equipped equipped' : Option Setup) :
    carryOut resolved equipped progress which = carryOut resolved equipped' progress which := by
  cases which with
  | clean => rfl
  | removeTemp => rfl
  | copyUserFiles => rfl
  | _ => cases h

theorem prepare_congr (hlinking : progress'.linking = progress.linking) :
    prepare setup progress' = prepare setup progress := by
  unfold prepare
  rw [hlinking]

/-- A stage sees of the progress no more than what it is to see. -/
theorem view_carryOutInside (hlinks : which.links = true → links = true)
    (hview : progress'.view links = progress.view links) :
    Progress.view links <$> carryOutInside resolved equipped progress' which =
      Progress.view links <$> carryOutInside resolved equipped progress which := by
  cases which with
  | clean => simp [carryOutInside, hview]
  | object => cases equipped <;> simp [carryOutInside, hview]
  | shared =>
      obtain ⟨hentered, hlinking⟩ := Progress.view_eq_iff.1 hview
      cases equipped with
      | none => simp [carryOutInside, hview]
      | some setup =>
          simp [carryOutInside, prepare_congr (hlinking (hlinks rfl)), Progress.view, Progress.passed,
            hentered]
  | executable =>
      obtain ⟨hentered, hlinking⟩ := Progress.view_eq_iff.1 hview
      cases equipped with
      | none => simp [carryOutInside, hview]
      | some setup =>
          simp [carryOutInside, prepare_congr (hlinking (hlinks rfl)), Progress.view, Progress.passed,
            hentered]
  | removeTemp => simp [carryOutInside, hview]
  | copyRuntimeLibs => cases equipped <;> simp [carryOutInside, hview]
  | copyUserFiles => simp [carryOutInside, hview]

theorem view_carryOut (hlinks : which.links = true → links = true)
    (hview : progress'.view links = progress.view links) :
    Progress.view links <$> carryOut resolved equipped progress' which =
      Progress.view links <$> carryOut resolved equipped progress which := by
  obtain ⟨hentered, hlinking⟩ := Progress.view_eq_iff.1 hview
  unfold carryOut enter
  rw [hentered]
  split
  · simp [hview]
  · split
    · simpa using view_carryOutInside hlinks hview
    · simp only [bind_assoc, pure_bind, map_bind]
      congr 1
      funext _
      exact view_carryOutInside hlinks (Progress.view_eq_iff.2 ⟨rfl, hlinking⟩)

/-- Two builds work alike in some stages: they ask the same of them, and where one of them needs the
    runtime they work with the same. -/
structure AlikeIn (stages : List Stage) (resolved resolved' : ResolvedConfiguration)
    (equipped equipped' : Option Setup) : Prop where
  asked : ∀ which ∈ stages, resolved.AlikeFor which resolved'
  own : ∀ setup ∈ equipped, setup.resolved = resolved
  equipped : ∀ which ∈ stages, which.needsRuntime = true →
    equipped' = equipped.map fun setup => { setup with resolved := resolved' }

/-- A build works alike with itself. -/
theorem AlikeIn.refl (stages : List Stage) (hown : ∀ setup ∈ equipped, setup.resolved = resolved) :
    AlikeIn stages resolved resolved equipped equipped := by
  refine ⟨fun which _ => .refl which resolved, hown, fun _ _ _ => ?_⟩
  cases equipped with
  | none => rfl
  | some setup =>
      obtain rfl := hown setup rfl
      rfl

/-- A stage in which two builds work alike does the same work in both. -/
theorem sameWork_view_carryOut (halike : AlikeIn stages resolved resolved' equipped equipped')
    (hmem : which ∈ stages) (hlinks : which.links = true → links = true)
    (hview : progress'.view links = progress.view links) :
    SameWork which.runsCommands (FailsFor which)
      (Progress.view links <$> carryOut resolved equipped progress which)
      (Progress.view links <$> carryOut resolved' equipped' progress' which) := by
  have hequipped : carryOut resolved' equipped' progress which =
      carryOut resolved' (equipped.map fun setup => { setup with resolved := resolved' }) progress
        which := by
    cases hneeds : which.needsRuntime with
    | true => rw [halike.equipped which hmem hneeds]
    | false => exact carryOut_of_not_needsRuntime hneeds _ _
  rw [view_carryOut hlinks hview, hequipped]
  exact (sameWork_carryOut (halike.asked which hmem) equipped halike.own progress).map _

/-! ## Several stages -/

/-- Stages in which two builds work alike end in the same way in both, with the same files and the same
    launches. -/
theorem matches_carryOutAll (halike : AlikeIn stages resolved resolved' equipped equipped')
    (hlinks : ∀ which ∈ stages, which.links = true → links = true)
    (hview : progress'.view links = progress.view links) :
    Matches host World.Still
      (fun passed passed' after after' =>
        passed'.view links = passed.view links ∧ after.Still after')
      (fun _ => World.Still) (carryOutAll resolved equipped stages progress)
      (carryOutAll resolved' equipped' stages progress') := by
  -- what both builds see of their progress goes from stage to stage, and so do the files and launches
  induction stages generalizing progress progress' with
  | nil => exact matches_pure fun _ _ hstill => ⟨hview, hstill⟩
  | cons which later ih =>
      have hmem : which ∈ which :: later := List.mem_cons_self ..
      have hlater : AlikeIn later resolved resolved' equipped equipped' :=
        ⟨fun other hother => halike.asked other (List.mem_cons_of_mem _ hother), halike.own,
          fun other hother => halike.equipped other (List.mem_cons_of_mem _ hother)⟩
      refine (Matches.of_map (sameWork_view_carryOut halike hmem (hlinks which hmem)
        hview).matches_still).bind fun passed passed' => ?_
      rintro world world' ⟨hpassed, hstill⟩
      exact ih hlater (fun other hother => hlinks other (List.mem_cons_of_mem _ hother)) hpassed world
        world' hstill

/-- If one of two builds that work alike in some stages carries them out, so does the other, from each world
    with the same files and the same launches. -/
theorem carriesOut_of_alikeIn (links : Bool) {world' after : World} {passed : Progress}
    (halike : AlikeIn stages resolved resolved' equipped equipped')
    (hlinks : ∀ which ∈ stages, which.links = true → links = true)
    (hview : progress'.view links = progress.view links) (hstill : world.Still world')
    (hreturns : Returns host (carryOutAll resolved equipped stages progress) world passed after) :
    ∃ passed' after',
      Returns host (carryOutAll resolved' equipped' stages progress') world' passed' after' ∧
        passed'.view links = passed.view links ∧ after.Still after' :=
  (matches_carryOutAll halike hlinks hview).returns hstill hreturns

/-- What is known of how far a build has come after some stages. -/
structure Progress.After (equipped : Option Setup) (stages : List Stage) (progress : Progress) :
    Prop where
  entered : progress.entered = true ↔ ∃ which ∈ stages, which ≠ .clean
  linked : ∀ linking ∈ progress.linking, ∃ which ∈ stages, which.links = true
  isFor : ∀ linking ∈ progress.linking, ∀ setup ∈ equipped, linking.IsFor setup

theorem ends_enter :
    Ends host (enter resolved progress) world
      (fun ready _ => ready.entered = true ∧ ready.linking = progress.linking) (fun _ _ => True) := by
  unfold enter
  rw [ends_ite]
  split
  · next hentered => exact ⟨hentered, rfl⟩
  · exact (Ends.trivial ..).bind fun _ _ _ => ⟨rfl, rfl⟩

/-- A stage that links finds out what the links work with, for what the build works with. -/
theorem ends_prepare_bind {next : Linking → Action Progress}
    (hlinked : ∀ linking ∈ progress.linking, linking.IsFor setup)
    (hnext : ∀ linking mid, Ends host (next linking) mid
      (fun passed _ => passed.entered = progress.entered ∧ passed.linking = some linking)
      (fun _ _ => True)) :
    Ends host (prepare setup progress >>= next) world
      (fun passed _ => passed.entered = progress.entered ∧
        ∀ linking ∈ passed.linking, ∀ equipment ∈ some setup, linking.IsFor equipment)
      (fun _ _ => True) := by
  rw [ends_bind]
  refine (ends_prepare hlinked).imp ?_ (fun _ _ _ => trivial)
  rintro linking mid ⟨⟨hfor, -⟩, -⟩
  refine (hnext linking mid).imp ?_ (fun _ _ _ => trivial)
  rintro passed _ ⟨hentered, hlinking⟩
  rw [hlinking]
  refine ⟨hentered, fun known hknown equipment hequipment => ?_⟩
  cases hknown
  cases hequipment
  exact hfor

/-- Only a stage that links finds out what the links work with. -/
theorem ends_carryOutInside_linking
    (hlinked : ∀ linking ∈ progress.linking, ∀ setup ∈ equipped, linking.IsFor setup) :
    Ends host (carryOutInside resolved equipped progress which) world
      (fun passed _ => passed.entered = progress.entered ∧
        (passed.linking = progress.linking ∨ (which.links = true ∧
          ∀ linking ∈ passed.linking, ∀ setup ∈ equipped, linking.IsFor setup)))
      (fun _ _ => True) := by
  cases which with
  | clean => exact ⟨rfl, .inl rfl⟩
  | object =>
      cases equipped with
      -- without a setup the stage does nothing
      | none => exact ⟨rfl, .inl rfl⟩
      | some setup => exact (Ends.trivial ..).bind fun _ _ _ => ⟨rfl, .inl rfl⟩
  | shared =>
      cases equipped with
      | none => exact ⟨rfl, .inl rfl⟩
      | some setup =>
          refine (ends_prepare_bind (fun linking hmem => hlinked linking hmem setup rfl)
            fun linking mid => ?_).imp (fun _ _ h => ⟨h.1, .inr ⟨rfl, h.2⟩⟩) (fun _ _ h => h)
          exact (Ends.trivial ..).bind fun _ _ _ => ⟨rfl, rfl⟩
  | executable =>
      cases equipped with
      | none => exact ⟨rfl, .inl rfl⟩
      | some setup =>
          refine (ends_prepare_bind (fun linking hmem => hlinked linking hmem setup rfl)
            fun linking mid => ?_).imp (fun _ _ h => ⟨h.1, .inr ⟨rfl, h.2⟩⟩) (fun _ _ h => h)
          exact (Ends.trivial ..).bind fun _ _ _ => ⟨rfl, rfl⟩
  | removeTemp => exact (Ends.trivial ..).bind fun _ _ _ => ⟨rfl, .inl rfl⟩
  | copyRuntimeLibs =>
      cases equipped with
      | none => exact ⟨rfl, .inl rfl⟩
      | some setup => exact (Ends.trivial ..).bind fun _ _ _ => ⟨rfl, .inl rfl⟩
  | copyUserFiles => exact (Ends.trivial ..).bind fun _ _ _ => ⟨rfl, .inl rfl⟩

/-- After each stage it is known how far the build has come. -/
theorem ends_carryOut_after {earlier : List Stage} (h : progress.After equipped earlier) :
    Ends host (carryOut resolved equipped progress which) world
      (fun passed _ => passed.After equipped (earlier ++ [which])) (fun _ _ => True) := by
  unfold carryOut
  rw [ends_ite]
  split
  · next hclean =>
      refine (Ends.trivial ..).bind fun _ _ _ => ⟨?_, fun linking hmem => ?_, h.isFor⟩
      · simpa [Progress.passed, hclean] using h.entered
      · obtain ⟨other, hother, hlinks⟩ := h.linked linking hmem
        exact ⟨other, List.mem_append_left _ hother, hlinks⟩
  · next hclean =>
      refine Ends.bind ends_enter ?_
      rintro ready mid ⟨hentered, hready⟩
      refine (ends_carryOutInside_linking (by rw [hready]; exact h.isFor)).imp ?_ (fun _ _ h => h)
      rintro passed _ ⟨hpassed, hlinking⟩
      rw [hentered] at hpassed
      rw [hready] at hlinking
      have hthere : which ∈ earlier ++ [which] := by simp
      refine ⟨iff_of_true hpassed ⟨which, hthere, hclean⟩, fun linking hmem => ?_, ?_⟩
      · rcases hlinking with hsame | ⟨hlinks, -⟩
        · rw [hsame] at hmem
          obtain ⟨other, hother, hlinks⟩ := h.linked linking hmem
          exact ⟨other, List.mem_append_left _ hother, hlinks⟩
        · exact ⟨which, hthere, hlinks⟩
      · rcases hlinking with hsame | ⟨-, hfor⟩
        · rw [hsame]
          exact h.isFor
        · exact hfor

theorem ends_carryOutAll_after {result : BuildResult} :
    Ends host (carryOutAll resolved equipped stages { result }) world
      (fun progress _ => progress.After equipped stages) (fun _ _ => True) := by
  refine Ends.foldlM (fun earlier (progress : Progress) _ => progress.After equipped earlier) ?_ ?_
  · have hnone : ∀ linking : Linking, linking ∉ (none : Option Linking) := Option.not_mem_none
    exact ⟨by simp, fun linking hmem => absurd hmem (hnone linking),
      fun linking hmem => absurd hmem (hnone linking)⟩
  · intro earlier which later _ progress before _ hafter
    exact ends_carryOut_after hafter

/-! ## Beginning in the middle -/

/-- The flags for linking, as they follow from files. -/
def flagsFor (host : Host) (setup : Setup) (files : FileSystem) : Except Crash (List String) :=
  (setup.rules.baseFlags setup.runtime
    (setup.runtime.directories files host.workingDirectory)).map fun base =>
      compilerFlags base (wordSizeFlag setup.runtime.wordSize setup.runtime.arch)
        setup.resolved.request.optimize setup.resolved.request.debug setup.resolved.ccFlags

theorem returns_linkFlags {flags : List String} (h : flagsFor host setup world.files = .ok flags) :
    Returns host (linkFlags setup) world flags world := by
  unfold flagsFor at h
  rw [returns_iff_ends]
  unfold linkFlags Stager.runtimeDirectories
  simp only [ends_bind, ends_files, ends_read, ends_pure]
  cases hbase : setup.rules.baseFlags setup.runtime
      (setup.runtime.directories world.files host.workingDirectory) with
  | error cause =>
      rw [hbase] at h
      cases h
  | ok base =>
      rw [hbase] at h
      obtain rfl := Except.ok.inj h
      exact ⟨rfl, rfl⟩

/-- A link that begins a build finds out what to link with, and that may be what is known already. -/
theorem returns_prepare {linking : Linking} (hfor : linking.IsFor setup)
    (hflags : flagsFor host setup world.files = .ok linking.flags)
    (hprogress : progress.linking = none) :
    Returns host (prepare setup progress) world linking world := by
  obtain ⟨⟨compiler, rules, runtime⟩, flags⟩ := linking
  obtain ⟨hcompiler, rfl, rfl⟩ := hfor
  unfold prepare
  rw [hprogress]
  refine returns_bind.2 ⟨flags, world, returns_linkFlags hflags, ?_⟩
  rw [returns_iff_ends, ends_bind, ends_requireProgram, hcompiler]
  exact ⟨rfl, rfl⟩

/-- Where the build directory is seen it need not be made. -/
theorem returns_enter (hsees : host.seesDirectory world.files resolved.buildDir = true) :
    Returns host (enter resolved progress) world { progress with entered := true } world := by
  have hshort := Host.cannotSee_of_seesDirectory hsees
  rw [returns_iff_ends]
  unfold enter
  rw [ends_ite]
  split
  · next hentered => exact ⟨by rw [← hentered], rfl⟩
  · unfold Stager.ensureBuildDir
    rw [ends_bind, ends_discard, ends_bind, ends_isDirectory]
    simp only [workshop, hshort, hsees]
    simp

/-- A build that begins in a build directory that is there is as one that made it. -/
theorem runOn_carryOutAll_entered {later : List Stage} (hclean : which ≠ .clean)
    (hsees : host.seesDirectory world.files resolved.buildDir = true) :
    (carryOutAll resolved equipped (which :: later) progress).runOn host world =
      (carryOutAll resolved equipped (which :: later)
        { progress with entered := true }).runOn host world := by
  have hstep : ∀ given : Progress, (carryOut resolved equipped given which).runOn host world =
      (carryOutInside resolved equipped { given with entered := true } which).runOn host world := by
    intro given
    unfold carryOut
    rw [if_neg hclean, runOn_bind, returns_enter hsees]
  simp only [carryOutAll, List.foldlM_cons, runOn_bind, hstep]

/-- A build that begins with a link that finds out what is known already is as one that knew it. -/
theorem runOn_carryOutAll_linked {later : List Stage} {linking : Linking}
    (hprepare : Returns host (prepare setup progress) world linking world)
    (hentered : progress.entered = true) :
    (carryOutAll resolved (some setup) (.executable :: later) progress).runOn host world =
      (carryOutAll resolved (some setup) (.executable :: later)
        { progress with linking := some linking }).runOn host world := by
  have hknown : Returns host (prepare setup { progress with linking := some linking }) world linking
      world := returns_pure.2 ⟨rfl, rfl⟩
  have hinside : ∀ given : Progress, given.entered = true →
      carryOut resolved (some setup) given .executable =
        carryOutInside resolved (some setup) given .executable := by
    intro given hgiven
    simp [carryOut, enter, hgiven]
  have hstep : (carryOut resolved (some setup) progress .executable).runOn host world =
      (carryOut resolved (some setup) { progress with linking := some linking } .executable).runOn
        host world := by
    rw [hinside progress hentered, hinside { progress with linking := some linking } hentered]
    unfold carryOutInside
    simp only [runOn_bind]
    rw [hprepare, hknown]
  simp only [carryOutAll, List.foldlM_cons, runOn_bind, hstep]

/-! ## The same build in other worlds -/

section

variable {runtime : Option Runtime} {files : FileSystem} {start begun : World} {passed : Progress}

theorem resolved_of_mem_equipmentFound {setup : Setup}
    (h : setup ∈ equipmentFound host resolved files) : setup.resolved = resolved := by
  obtain ⟨known, -, hsetup⟩ := Option.bind_eq_some_iff.1 h
  exact resolved_of_mem_equipment hsetup

/-- What was carried out from one world is carried out from each with the same files and launches. -/
theorem carryOutAll_of_still {after : World} (hstill : begun.Still start)
    (hreturns : Returns host (carryOutAll resolved (equipmentFound host resolved files) stages progress)
      begun passed after) :
    ∃ passed' after', Returns host
      (carryOutAll resolved (equipmentFound host resolved files) stages progress) start passed' after' ∧
      passed'.linking = passed.linking ∧ after.Still after' := by
  have halike : AlikeIn stages resolved resolved (equipmentFound host resolved files)
      (equipmentFound host resolved files) := .refl stages fun _ => resolved_of_mem_equipmentFound
  obtain ⟨passed', after', hreturns', hview, hafter⟩ :=
    carriesOut_of_alikeIn true halike (fun _ _ _ => rfl) rfl hstill hreturns
  exact ⟨passed', after', hreturns', (Progress.view_eq_iff.1 hview).2 rfl, hafter⟩

/-- A build whose checks pass and whose stages can be carried out returns. -/
theorem returns_of_carriedOut {time : Seconds} {carried : World} (hbegun : start.Still begun)
    (h : CarriedOut host resolved resolved.stages.enabled start passed carried) :
    ∃ result after, Returns host (runResolved resolved time) begun result after ∧
      carried.Still after := by
  obtain ⟨checked, hchecked, hreturns⟩ := h.stages
  have hfrom : ∀ {stages : List Stage} {other : World}, start.Still other →
      resolved.stages.enabled = stages → ∃ passed' after',
        Returns host (carryOutAll resolved (equipmentFound host resolved start.files) stages
          { result := { buildDir := resolved.buildDir } }) other passed' after' ∧
          carried.Still after' := by
    rintro _ other hother rfl
    obtain ⟨passed', after', hreturns', -, hafter⟩ :=
      carryOutAll_of_still (hchecked.symm.trans hother) hreturns
    exact ⟨passed', after', hreturns', hafter⟩
  refine Ends.exists_returns ((ends_runResolved_completed hbegun).imp ?_ ?_)
  · rintro result after ⟨-, -, progress, mid, ⟨-, -, other, hother, hmid⟩, hstill, -⟩
    obtain ⟨passed', after', hreturns', hafter⟩ := hfrom hother rfl
    obtain ⟨-, rfl⟩ := hreturns'.unique hmid
    exact hafter.trans hstill
  · rintro failure after (⟨-, hfault | hfault⟩ | ⟨earlier, which, later, progress, mid, henabled,
      ⟨-, -, other, hother, hmid⟩, hfailed, -⟩)
    · cases hfault.symm.trans h.inputs
    · obtain ⟨runtime, htools⟩ := h.tools
      cases hfault.symm.trans htools
    · -- the stages were carried out before, and so the one that failed was as well
      obtain ⟨passed', after', hreturns', -⟩ := hfrom hother henabled
      rw [carryOutAll, List.foldlM_append] at hreturns'
      obtain ⟨reached, between, hearlier, hlater⟩ := returns_bind.1 hreturns'
      obtain ⟨rfl, rfl⟩ := hmid.unique hearlier
      rw [List.foldlM_cons] at hlater
      obtain ⟨next, beyond, hnext, -⟩ := returns_bind.1 hlater
      cases hfailed.symm.trans hnext

end

end Build
end JuliaNative
