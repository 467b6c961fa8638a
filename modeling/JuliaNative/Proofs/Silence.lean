import JuliaNative.Proofs.Build.Printing
import JuliaNative.Proofs.Program

set_option autoImplicit false

/-! # Silence

A switch of a configuration is on exactly if the command line or the configuration file turns it on
(`Program.value_eq_flag_iff`). A run of the program that comes to a build and ends well prints something
exactly if it is not told to be silent, that is, unless quiet is on and verbose is not
(`Program.run_silent_iff_quiet`): the first thing that a build shows is the version, what was shown stays,
and every other text is asked for in the same way. -/

namespace JuliaNative

open JuliaNative.Action

namespace Program

variable {host : Host} {arguments : List String} {world begun after : World}
  {configuration : Configuration} {given : CommandLine.Arguments} {config : Option Path}
  {setting : Setting}

/-- What turns a switch on: the command line, or the configuration file with its profile. -/
inductive SwitchesOn (host : Host) (arguments : List String) (world : World) (setting : Setting) : Prop
  | commandLine {given : CommandLine.Arguments} (hparse : CommandLine.parse arguments = .ok given)
    (h : given.get? (.setting setting) = some (.flag true))
  | file {given : CommandLine.Arguments} {config : Option Path} {settings : Settings}
    (hparse : CommandLine.parse arguments = .ok given)
    (hconfig : NamesConfig host world.files given config)
    (hfile : host.GivesSettings world.files config (namedProfile given) settings)
    (h : settings.get? setting = some (.flag true))

/-- A switch of the configuration with which a build begins is on if something turns it on. -/
theorem value_eq_flag_iff (hbegins : Begins host arguments world configuration begun)
    (hkind : setting.kind = .flag) :
    configuration.value setting = .flag true ↔ SwitchesOn host arguments world setting := by
  cases hbegins with
  | @intro given config level hparse hlevel hconfig hgather =>
  obtain ⟨-, file, settings, hfile, hmade, hget⟩ := returns_gather hgather
  obtain ⟨-, hgives⟩ := Host.returns_fileSettings_iff.1 hfile
  obtain ⟨value, hvalue, hsetting⟩ := hget setting
  rw [CommandLine.Arguments.setting_of_switch hkind] at hvalue
  obtain rfl := Except.ok.inj hvalue
  rw [hmade.value_switch hkind, Value.flag.injEq, Configuration.switch, Settings.value, hsetting,
    CommandLine.Arguments.value]
  cases hcommandLine : given.get? (.setting setting) with
  | some value =>
      have hshape : (CommandLine.Target.setting setting).shape = .flag :=
        CommandLine.Target.shape_of_switch hkind
      obtain rfl := CommandLine.flag_of_given hshape (CommandLine.given_of_parse hparse hcommandLine)
      exact iff_of_true rfl (.commandLine hparse hcommandLine)
  | none =>
      rw [Option.getD_none, if_pos rfl]
      -- what the command line leaves open, the file alone decides
      refine (hgives.ofKinds.switch_iff hkind).trans ⟨.file hparse hconfig hgives, ?_⟩
      rintro (⟨hother, h⟩ | ⟨hother, hnamed, hsettings, h⟩)
      · cases hparse.symm.trans hother
        cases hcommandLine.symm.trans h
      · cases hparse.symm.trans hother
        obtain rfl := hconfig.unique hnamed
        exact hsettings.unique hgives ▸ h

/-! ## The build of a run -/

theorem printed_headed (configuration : Configuration) (world : World) :
    (headed configuration world).printed = world.printed ++
      if configuration.quiet && !configuration.verbose then []
      else ["jlbuild v" ++ CommandLine.version, ""] := by
  unfold headed
  cases configuration.quiet && !configuration.verbose <;> simp

theorem printsUnless_showResult (result : BuildResult) : PrintsUnless False (showResult result) := by
  have hsay : ∀ text, PrintsUnless False (say text) := .say not_false
  have hartifact : ∀ label artifact, PrintsUnless False (showArtifact label artifact) := by
    intro label artifact
    cases artifact with
    | none => exact .pure _
    | some path => exact hsay _
  refine .ite (.bind (hsay _) fun _ => .bind (hsay _) fun _ => .bind (hsay _) fun _ => ?_) (.pure _)
  refine .bind (hartifact _ _) fun _ => .bind (hartifact _ _) fun _ => .bind (hartifact _ _) fun _ => ?_
  exact .ite (hsay _) (.pure _)

/-- A build that ends well shows something exactly if it is not told to be silent. -/
theorem printed_of_build (h : Returns host (Program.build configuration) world succeeded after) :
    after.printed = world.printed ↔ configuration.Silent := by
  have hsilent : configuration.Silent ↔ (configuration.quiet && !configuration.verbose) = true := by
    rw [Configuration.silent_iff, Bool.and_eq_true, Bool.not_eq_true']
  suffices hends : Ends host (Program.build configuration) world
      (fun status after => status = succeeded →
        (after.printed = world.printed ↔ configuration.Silent)) (fun _ _ => True) from
    hends.of_returns h rfl
  have hheaded := printed_headed configuration world
  unfold Program.build
  simp only [ends_bind, ends_sayIf, ends_tryCatch]
  refine (configuration.printsUnless_build host (headed configuration world)).imp ?_ ?_
  · intro result built hbuilt
    rw [ends_ite]
    split
    · next hquiet =>
        rw [hquiet, if_pos rfl, List.append_nil] at hheaded
        exact fun _ => iff_of_true ((hbuilt.nothing (hsilent.2 hquiet)).trans hheaded) (hsilent.2 hquiet)
    · next hloud =>
        rw [ends_bind]
        refine ((printsUnless_showResult result host built).and ends_showResult).imp ?_
          fun _ _ h => h.2.elim
        rintro _ last ⟨hshown, -⟩ -
        -- the version was shown first, and what was shown stays
        refine iff_of_false (fun hsame => ?_) (mt hsilent.1 hloud)
        have hprefix := hbuilt.stays.trans hshown.stays
        rw [hheaded, if_neg hloud, hsame] at hprefix
        have hlength := hprefix.length_le
        simp only [List.length_append, List.length_cons, List.length_nil] at hlength
        omega
  · -- a build that failed does not end with the status of success
    intro failure failed _
    refine ends_showFailure.imp ?_ fun _ _ _ => .intro
    rintro _ _ rfl hsucceeded
    cases failure <;> cases hsucceeded

/-- A run of the program that comes to a build and ends with the status of success prints nothing at all
    if quiet is on, from the command line or from the configuration file, and verbose is not, whatever
    stages it ran and whatever the commands printed. In every other case it prints something. -/
theorem run_silent_iff_quiet (hbegins : Begins host arguments world configuration begun)
    (hreturns : Returns host (run arguments) world succeeded after) :
    after.printed = world.printed ↔
      SwitchesOn host arguments world .quiet ∧ ¬ SwitchesOn host arguments world .verbose := by
  obtain ⟨level, hrun⟩ := runOn_of_begins hbegins
  have hbuild : Returns host (Program.build configuration) (world.atLevel level) succeeded after :=
    hrun.symm.trans hreturns
  have hquiet : configuration.value .quiet = .flag true ↔ _ := value_eq_flag_iff hbegins rfl
  have hverbose : configuration.value .verbose = .flag true ↔ _ := value_eq_flag_iff hbegins rfl
  rw [← hquiet, ← hverbose]
  refine (printed_of_build hbuild).trans ?_
  simp only [Configuration.silent_iff, Configuration.value, Value.flag.injEq, Bool.not_eq_true]

/-- A quiet run prints nothing while the command that it starts does. -/
theorem quiet_run_of_loud_command :
    let host : Host := { Host.obedient Host.plainCommand fun _ => ByteArray.empty with
      run := fun _ _ _ files => .finished { stdout := "compiled", stderr := "slowly" } files }
    let start : World := { files := Host.projectFiles [(["app.jl"], "main() = 0")] }
    ∃ after, Returns host (run ["app.jl", "-qo"]) start succeeded after ∧
      after.started ≠ [] ∧ after.printed = [] := by
  intro host start
  let given : CommandLine.Arguments :=
    [ (.setting .program, .path (Path.ofString "app.jl")), (.setting .quiet, .flag true),
      (.setting .object, .flag true) ]
  have hparse : CommandLine.parse ["app.jl", "-qo"] = .ok given := by decide +kernel
  have hrun : (run ["app.jl", "-qo"]).value? host start = some succeeded ∧
      ((run ["app.jl", "-qo"]).runOn host start).2.started ≠ [] := by decide +kernel
  have hgathered : ((gather given none).value? host (start.atLevel "WARNING")).map
      (·.verbose) = some false := by decide +kernel
  obtain ⟨configuration, hconfiguration, hverbose⟩ := Option.map_eq_some_iff.1 hgathered
  have hgather := runOn_of_value? hconfiguration
  rw [ends_gather.of_ok hgather] at hgather
  have hbegins := Begins.intro hparse rfl (.nothing rfl) hgather
  have hreturns : Returns host (run ["app.jl", "-qo"]) start succeeded _ := runOn_of_value? hrun.1
  refine ⟨_, hreturns, hrun.2, ?_⟩
  refine (run_silent_iff_quiet hbegins hreturns).2 ⟨.commandLine hparse rfl, ?_⟩
  rw [← value_eq_flag_iff hbegins rfl, Configuration.value, hverbose]
  decide

end Program
end JuliaNative
