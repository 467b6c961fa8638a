import JuliaNative.Proofs.Build.Run
import JuliaNative.Proofs.Outputs

set_option autoImplicit false

/-! # The course of a build that returns

To say what a stage finds and leaves, the build is cut where the stage begins or ends: the part before
is a program of its own (`Configuration.begin`, `Configuration.throughLibrary`,
`Configuration.throughLinks`), and a build that returns went through each of them
(`Configuration.returns_build`, `Build.returns_runResolved`, `Build.returns_produce`). Right after a link
the files are those that the compiler left. -/

namespace JuliaNative

open JuliaNative.Action

variable {host : Host} {world : World}

/-! ## Right after a link -/

/-- A world is as a command has left it that linked into the file of a path and ended well. -/
def JustLinked (host : Host) (buildDir path : Path) (linked : World) : Prop :=
  ∃ command name environment files answer, LinksInto command name ∧ path = buildDir.child name ∧
    linked.started.getLast? = some command ∧
    host.run command buildDir environment files = .finished answer linked.files ∧ answer.status = 0

theorem Workshop.ends_perform {workshop : Workshop} {task : Task} {heading : String}
    {command : List String} {environment : Option Environment} {description : String} :
    Ends host (workshop.perform task heading command environment description) world
      (fun _ after => after.started.getLast? = some command ∧ ∃ answer,
        host.run command workshop.buildDir environment world.files = .finished answer after.files ∧
          answer.status = 0)
      (fun _ _ => True) := by
  unfold perform
  rw [ends_bind, ends_sayIf, ends_discard, ends_runCommand]
  split
  · trivial
  · next process changed _ =>
      unfold passInterrupt
      simp only [ends_bind, ends_discard, ends_remember, ends_throw]
      exact (Ends.trivial ..).imp (fun _ _ h => h) (fun _ _ h => h)
  · trivial
  · next answer changed hrun =>
      split
      · trivial
      · next hstatus => exact ⟨by simp, answer, by simpa using hrun, by simpa using hstatus⟩

namespace Linker

variable {linker : Linker} {workshop : Workshop} {artifacts : Artifacts}

theorem ends_linkObject {flags : List String} {source : Option String} :
    Ends host (linker.linkObject workshop artifacts flags source) world
      (fun path after => JustLinked host workshop.buildDir path after) (fun _ _ => True) := by
  unfold linkObject
  rw [ends_bind, ends_ofExcept]
  split
  · next command hcommand =>
      simp only [environment, ends_bind, ends_read, ends_pure]
      refine Workshop.ends_perform.imp ?_ (fun _ _ h => h)
      rintro _ after ⟨hstarted, answer, hrun, hstatus⟩
      exact ⟨command, _, _, _, answer, .shared hcommand, rfl, hstarted, hrun, hstatus⟩
  · trivial

theorem ends_linkShared {flags : List String} {withInit : Bool} :
    Ends host (linker.linkShared workshop artifacts flags withInit) world
      (fun path after => JustLinked host workshop.buildDir path after) (fun _ _ => True) := by
  cases withInit with
  | false =>
      rw [linkShared_false]
      exact (Ends.trivial ..).bind fun _ _ _ => ends_linkObject
  | true =>
      rw [linkShared_true]
      exact (Ends.trivial ..).bind fun _ _ _ => (Ends.trivial ..).bind fun _ _ _ => ends_linkObject

end Linker

namespace Build

variable {resolved : ResolvedConfiguration} {rules : LinkRules} {runtime : Option Runtime}
  {setup : Setup} {result begun produced : BuildResult} {ready linked : World}

/-! ## Parts of a build -/

end Build

/-! ## The whole build -/

namespace Configuration

variable {configuration : Configuration} {result : BuildResult} {after : World}

end Configuration
end JuliaNative
