import JuliaNative.Proofs.Build.Run
import JuliaNative.Proofs.Outputs

set_option autoImplicit false

/-! # Errors that leave everything as it was

A build finds out about a wrong configuration and about missing tools before it changes anything. Each
error of the configuration or of the environment comes from the checks, although the stages meet the
same conditions again: a runtime that passed the checks has a version that can be read and a command
of the expected shape, so no stage is left to complain about either. -/

namespace JuliaNative

open JuliaNative.Action

namespace Configuration

variable {configuration : Configuration} {host : Host} {world after : World} {error : BuildError}

theorem not_ofStage_of_early (h : error.category = .configuration ∨ error.category = .environment) :
    ¬ (Failure.error error).OfStage := by
  rintro (hstage | hstage) <;>
    · rw [hstage] at h
      rcases h with h | h <;> cases h

/-- A build that fails with an error of the configuration or of the environment changed no file and
    started no command of a stage. -/
theorem build_untouched_of_early_error
    (hrun : configuration.build.runOn host world = (.error (.error error), after))
    (hearly : error.category = .configuration ∨ error.category = .environment) :
    after.files = world.files ∧ after.started = world.started := by
  -- the tools may do anything, so all that is kept is the property that always holds
  have hcommands : KeptByCommands host (configuration.on host).buildDir fun _ _ => True :=
    ⟨fun _ _ _ _ => trivial, fun _ _ _ _ _ _ _ => trivial⟩
  have hwrite : ∀ name ∈ Build.generated (configuration.on host), ∀ content,
      Keeps host (fun _ _ => True)
        ((Build.workshop (configuration.on host)).stager.writeText name content) :=
    fun _ _ _ => Stager.keeps_writeText fun _ _ _ _ _ => trivial
  obtain ⟨huntouched | hstage, -⟩ := (ends_build hcommands hwrite trivial).of_error hrun
  · exact ⟨huntouched.files, huntouched.started⟩
  · exact absurd hstage (not_ofStage_of_early hearly)

/-- A build directory is not even cleaned if julia turns out to be of the wrong kind. -/
theorem build_untouched_by_unknown_julia :
    let build := ({ program := Path.ofString "app.jl", clean := true, object := true } :
      Configuration).build
    let host := Host.obedient ["julia"] fun _ => "built".toUTF8
    let world : World :=
      { files := Host.projectFiles [(["app.jl"], "1"), (["old.so", "builddir"], "2")] }
    build.failure? host world = some (.error (.incompatibleRuntime ["julia"])) ∧
      (build.runOn host world).2.files = world.files ∧
      (build.runOn host world).2.started = world.started := by
  intro build host world
  have hfailure : build.failure? host world = some (.error (.incompatibleRuntime ["julia"])) := by
    decide +kernel
  exact ⟨hfailure, build_untouched_of_early_error (runOn_of_failure? hfailure) (.inl rfl)⟩

end Configuration
end JuliaNative
