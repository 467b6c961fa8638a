import JuliaNative.Proofs.Build.Stages

set_option autoImplicit false

/-! # The states of a run

However a build ends, it ends in a state of one of five kinds (`Build.Reached`): nothing was changed yet,
the build directory was cleaned, it was made, something was compiled or linked, or the build directory
was tidied up. An error of the configuration or of the environment is only met in the first kind of
state (`Build.ends_runResolved`). -/

namespace JuliaNative

open JuliaNative.Action

namespace Build

variable {host : Host} {world : World} {resolved : ResolvedConfiguration}
  {keeps : FileSystem → List (List String) → Prop} {result : BuildResult} {start : Seconds}

/-- The rules for linking on a host. -/
def rulesOn (host : Host) (resolved : ResolvedConfiguration) : LinkRules :=
  ⟨host.platform, resolved.toolchainRoot⟩

/-- The files after the selected cleaning. -/
def cleaned (host : Host) (resolved : ResolvedConfiguration) (files : FileSystem) : FileSystem :=
  if resolved.stages.clean then Stager.cleaned host (workshop resolved).stager files else files

/-- The files with which the stages after cleaning begin. -/
def prepared (host : Host) (resolved : ResolvedConfiguration) (files : FileSystem) : FileSystem :=
  Stager.withBuildDir host (workshop resolved).stager (cleaned host resolved files)

/-- The work after the checks. -/
def work (resolved : ResolvedConfiguration) (rules : LinkRules) (runtime : Option Runtime)
    (start : Seconds) : Action BuildResult := do
  let result ← cleanStage resolved { buildDir := resolved.buildDir }
  if resolved.stages.onlyClean then
    conclude resolved "Clean completed" start result
  else
    discard (workshop resolved).stager.ensureBuildDir
    let result ← produce resolved rules runtime result
    let result ← finish resolved rules runtime result
    conclude resolved "All done" start result

/-- The states in which a build ends, seen from the world in which it began, when commands and
    generated files keep a property. -/
inductive Reached (host : Host) (resolved : ResolvedConfiguration)
    (keeps : FileSystem → List (List String) → Prop) (before : World) : World → Prop
  | untouched {after : World} (h : before.Untouched after) : Reached host resolved keeps before after
  | cleaned {after : World} (hfiles : after.files = cleaned host resolved before.files)
    (hstarted : after.started = before.started) : Reached host resolved keeps before after
  | prepared {after : World} (hfiles : after.files = prepared host resolved before.files)
    (hstarted : after.started = before.started) : Reached host resolved keeps before after
  | produced {after : World} (h : keeps after.files after.started) :
    Reached host resolved keeps before after
  | tidied {mid after : World} {removed copied : List String} (h : keeps mid.files mid.started)
    (hstarted : after.started = mid.started)
    (htidied : Tidied resolved (rulesOn host resolved) mid.files after.files removed copied) :
    Reached host resolved keeps before after

theorem ends_cleanStage :
    Ends host (cleanStage resolved result) world
      (fun final after => after.files = cleaned host resolved world.files ∧
        after.started = world.started ∧ SameProducts result final ∧
        final.removedFiles = result.removedFiles ∧ final.copiedFiles = result.copiedFiles)
      (fun failure after => failure.OfStage ∧ after.files = cleaned host resolved world.files ∧
        after.started = world.started) := by
  unfold cleanStage cleaned
  rw [ends_stage]
  split
  · next hselected =>
      have hclean : resolved.stages.clean = true := hselected
      rw [ends_bind, ends_discard, if_pos hclean]
      refine Stager.ends_clean.imp ?_ (fun _ _ h => h)
      rintro _ after ⟨hfiles, hstarted⟩
      exact ⟨hfiles, hstarted, ⟨rfl, rfl, by simp, by simp⟩, rfl, rfl⟩
  · next hselected =>
      have hclean : ¬ resolved.stages.clean = true := hselected
      rw [if_neg hclean]
      exact ⟨rfl, rfl, ⟨rfl, rfl, Iff.rfl, Iff.rfl⟩, rfl, rfl⟩

theorem ends_conclude {message : String} {failing : Failure → World → Prop}
    {post : BuildResult → World → Prop}
    (h : ∀ duration after, after.files = world.files → after.started = world.started →
      post { result with message, duration } after) :
    Ends host (conclude resolved message start result) world post failing := by
  unfold conclude announce
  simp only [ends_bind, ends_sayIf, ends_now, ends_pure]
  exact h _ _ (by simp) (by simp)

/-- After the checks a run ends in one of the states that are reached, and fails only as stages do. -/
theorem ends_runStages
    (hcommands : KeptByCommands host resolved.buildDir keeps)
    (hwrite : ∀ name ∈ generated resolved, ∀ content,
      Keeps host keeps ((workshop resolved).stager.writeText name content))
    (habsolute : ∀ source ∈ resolved.copyFiles, source.isAbsolute = true)
    (hprepared : keeps (prepared host resolved world.files) world.started) {before : World}
    (hbefore : world.Untouched before) :
    Ends host (runStages resolved start) before
      (fun _ after => Reached host resolved keeps world after)
      (fun failure after => (world.Untouched after ∨ failure.OfStage) ∧
        Reached host resolved keeps world after) := by
  unfold runStages
  rw [ends_bind, ends_read, ends_bind]
  refine ends_checkTools.imp ?_ ?_
  · -- the checks change nothing, and the runtime that they let pass suits all stages
    rintro runtime checked ⟨hchecked, htools⟩
    have hsuits := suits_of_toolCheck htools
    have huntouched := hbefore.trans hchecked
    rw [ends_bind]
    refine ends_cleanStage.imp ?_ ?_
    · rintro result clean ⟨hfiles, hstarted, -, hremoved, hcopied⟩
      rw [huntouched.files] at hfiles
      rw [huntouched.started] at hstarted
      rw [ends_ite]
      split
      · refine ends_conclude fun _ after hsame hcommands => .cleaned ?_ ?_
        · rw [hsame, hfiles]
        · rw [hcommands, hstarted]
      · rw [ends_bind, ends_discard]
        refine Stager.ends_ensureBuildDir.imp ?_ ?_
        · rintro _ ready ⟨hready, hreadyStarted⟩
          rw [hfiles] at hready
          rw [hstarted] at hreadyStarted
          have hkeeps : keeps ready.files ready.started := by
            rw [hready, hreadyStarted]
            exact hprepared
          rw [ends_bind]
          refine ((keeps_produce hcommands hwrite hsuits result ready hkeeps).and
            ends_produce_sameLists).imp ?_ ?_
          · rintro produced mid ⟨hmid, hlists⟩
            rw [ends_bind]
            refine (ends_finish habsolute (hlists.1.trans hremoved) (hlists.2.trans hcopied)).imp
              ?_ ?_
            · rintro final tidy ⟨htidyStarted, -, htidied⟩
              exact ends_conclude fun _ after hsame hcommands =>
                .tidied hmid (hcommands.trans htidyStarted) (hsame.symm ▸ htidied)
            · rintro failure after ⟨hfailure, htidyStarted, removed, copied, htidied⟩
              exact ⟨.inr hfailure, .tidied hmid htidyStarted htidied⟩
          · rintro failure after ⟨⟨hfailure, hafter⟩, -⟩
            exact ⟨.inr hfailure, .produced hafter⟩
        · rintro failure after ⟨hfailure, hafter, hafterStarted⟩
          rw [hfiles] at hafter
          exact ⟨.inr hfailure, .prepared hafter (hafterStarted.trans hstarted)⟩
    · rintro failure after ⟨hfailure, hafter, hstarted⟩
      rw [huntouched.files] at hafter
      exact ⟨.inr hfailure, .cleaned hafter (hstarted.trans huntouched.started)⟩
  · rintro failure after ⟨hafter, -⟩
    exact ⟨.inl (hbefore.trans hafter), .untouched (hbefore.trans hafter)⟩

/-- However a run ends, it ends in one of the states that are reached, and it does not fail but with
    everything untouched or as a stage does. -/
theorem ends_runResolved
    (hcommands : KeptByCommands host resolved.buildDir keeps)
    (hwrite : ∀ name ∈ generated resolved, ∀ content,
      Keeps host keeps ((workshop resolved).stager.writeText name content))
    (habsolute : ∀ source ∈ resolved.copyFiles, source.isAbsolute = true)
    (hprepared : keeps (prepared host resolved world.files) world.started) {before : World}
    (hbefore : world.Untouched before) :
    Ends host (runResolved resolved start) before
      (fun _ after => Reached host resolved keeps world after)
      (fun failure after => (world.Untouched after ∨ failure.OfStage) ∧
        Reached host resolved keeps world after) := by
  unfold runResolved
  rw [ends_bind]
  refine ends_checkInputs.imp ?_ ?_
  · rintro _ checked ⟨hchecked, -⟩
    have huntouched := (hbefore.trans hchecked).said (!resolved.quiet)
      ("Build directory:\n  \"" ++ resolved.buildDir.toString ++ "\"")
    rw [ends_bind, announce, ends_sayIf, ends_ite]
    split
    · rw [ends_bind, announce, ends_sayIf, ends_pure]
      exact .untouched (huntouched.said _ _)
    · exact ends_runStages hcommands hwrite habsolute hprepared huntouched
  · rintro failure after ⟨hafter, -⟩
    exact ⟨.inl (hbefore.trans hafter), .untouched (hbefore.trans hafter)⟩

end Build

/-! ## The whole build -/

theorem Path.isAbsolute_join {base : Path} (h : base.isAbsolute = true) (path : Path) :
    (base.join path).isAbsolute = true := by
  unfold join
  split
  · next hpath => exact hpath
  · exact h

/-- A path that is seen from the root is the same from everywhere. -/
theorem Path.join_of_isAbsolute {base path : Path} (h : path.isAbsolute = true) :
    base.join path = path :=
  if_pos h

namespace Configuration

variable {configuration : Configuration} {host : Host} {world : World}
  {keeps : FileSystem → List (List String) → Prop}

/-- What a configuration resolves to on a host. -/
def on (configuration : Configuration) (host : Host) : ResolvedConfiguration :=
  configuration.resolve host.workingDirectory host.bundledDriver

theorem isAbsolute_of_mem_copyFiles {source : Path}
    (h : source ∈ (configuration.on host).copyFiles) : source.isAbsolute = true := by
  obtain ⟨given, -, rfl⟩ := List.mem_map.1 h
  exact Path.isAbsolute_join host.workingDirectory_isAbsolute given

/-- However a build ends, it ends in one of the states that are reached, and it does not fail but with
    everything untouched or as a stage does. -/
theorem ends_build
    (hcommands : KeptByCommands host (configuration.on host).buildDir keeps)
    (hwrite : ∀ name ∈ Build.generated (configuration.on host), ∀ content,
      Keeps host keeps ((Build.workshop (configuration.on host)).stager.writeText name content))
    (hprepared :
      keeps (Build.prepared host (configuration.on host) world.files) world.started) :
    Ends host configuration.build world
      (fun _ after => Build.Reached host (configuration.on host) keeps world after)
      (fun failure after => (world.Untouched after ∨ failure.OfStage) ∧
        Build.Reached host (configuration.on host) keeps world after) := by
  unfold build
  rw [ends_bind, ends_now, ends_bind, ends_read]
  have hticked : world.Untouched world.ticked := ⟨by simp, by simp⟩
  exact Build.ends_runResolved hcommands hwrite (fun _ => isAbsolute_of_mem_copyFiles) hprepared
    hticked

end Configuration
end JuliaNative
