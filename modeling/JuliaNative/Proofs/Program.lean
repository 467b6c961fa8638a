import JuliaNative.Proofs.Configuration.Making
import JuliaNative.Proofs.Crashes

set_option autoImplicit false

/-! # How the program ends

Whatever its arguments are, whatever the configuration file holds and however commands behave, the program
ends with one of four statuses, each for reasons of its own (`Program.EndsWith`), or it crashes. A build
that was begun always ends with a status (`Program.ends_build`). What can crash comes before the build:
reading the level of diagnostics, looking at the configuration file, and gathering the settings from it and
from the command line; `Program.Escapes` says exactly where (`Program.run_ends_with_status`). -/

namespace JuliaNative

open JuliaNative.Action

/-! ## Settings of the configuration file -/

namespace Host

variable {host : Host} {world after : World} {files : FileSystem} {named : Option Path}
  {profile : Option String} {settings : Settings}

/-- What keeps the configuration file from giving settings without there being a message: its path cannot
    even be looked at, or its bytes escape. -/
inductive ConfigEscapes (host : Host) (files : FileSystem) (named : Option Path)
    (profile : Option String) : Prop
  | unseen (h : host.cannotSee files (named.getD (host.workingDirectory.child configFileName)) = true)
  | bytes {path : Path} {cause : Crash} (hreads : host.ReadsConfig files named host.workingDirectory path)
    (h : ConfigFile.Escapes (host.configBytes files path) profile cause)

/-- The settings with which the command line is put together: those of the configuration file, or none if
    there is no file and no profile is asked for. -/
inductive GivesSettings (host : Host) (files : FileSystem) (named : Option Path)
    (profile : Option String) : Settings → Prop
  | file {path : Path} {settings : Settings}
    (hreads : host.ReadsConfig files named host.workingDirectory path)
    (h : ConfigFile.settingsOf path (host.configBytes files path) profile = .ok settings) :
    GivesSettings host files named profile settings
  | nothing (hnamed : named = none)
    (hsees : host.sees files (host.workingDirectory.child configFileName) = none)
    (hcan : host.cannotSee files (host.workingDirectory.child configFileName) = false)
    (hprofile : profile.getD "" = "") : GivesSettings host files named profile []

theorem GivesSettings.ofKinds (h : host.GivesSettings files named profile settings) :
    settings.OfKinds := by
  cases h with
  | nothing => exact .nil
  | file hreads h =>
      obtain ⟨file, -, hsettings⟩ := Checked.bind_eq_ok.1 h
      exact fun _ _ => ConfigFile.admits_of_settings hsettings

/-- Reading settings returns exactly what the configuration file gives. -/
theorem returns_fileSettings_iff :
    Returns host (fileSettings named profile host.workingDirectory) world settings after ↔
      after = world ∧ host.GivesSettings world.files named profile settings := by
  rw [returns_iff_ends, ends_fileSettings]
  constructor
  · intro h
    split at h
    · exact h.elim
    split at h
    · next hsees =>
        rw [← returns_iff_ends, returns_ofExcept] at h
        exact ⟨h.2.symm, .file ⟨rfl, hsees⟩ h.1⟩
    · next hcan hsees =>
        cases named with
        | some path => exact h.elim
        | none =>
            dsimp only at h
            split at h
            · next hprofile =>
                obtain ⟨rfl, rfl⟩ := h
                refine ⟨rfl, .nothing rfl ?_ ?_ hprofile⟩
                · exact Option.not_isSome_iff_eq_none.1 hsees
                · exact Bool.eq_false_iff.2 hcan
            · exact h.elim
  · rintro ⟨rfl, h⟩
    cases h with
    | file hreads h =>
        obtain ⟨rfl, hsees⟩ := hreads
        obtain ⟨entry, hentry⟩ := Option.isSome_iff_exists.1 hsees
        rw [cannotSee_of_sees hentry, if_neg Bool.false_ne_true, if_pos hsees, ← returns_iff_ends,
          returns_ofExcept]
        exact ⟨h, rfl⟩
    | nothing hnamed hsees hcan hprofile =>
        subst hnamed
        simp [hsees, hcan, hprofile]

theorem GivesSettings.unique {other : Settings} (h : host.GivesSettings files named profile settings)
    (hother : host.GivesSettings files named profile other) : other = settings :=
  have hreturns : Returns host (fileSettings named profile host.workingDirectory) { files } settings
      { files } := returns_fileSettings_iff.2 ⟨rfl, h⟩
  (hreturns.unique (returns_fileSettings_iff.2 ⟨rfl, hother⟩)).1

theorem crashes_fileSettings :
    Crashes host (fileSettings named profile host.workingDirectory) world ↔
      host.ConfigEscapes world.files named profile := by
  rw [crashes_iff_ends, ends_fileSettings]
  constructor
  · intro h
    split at h
    · next hcannot => exact .unseen hcannot
    split at h
    · next hsees =>
        rw [ends_ofExcept] at h
        split at h
        · exact h.elim
        · next fault hfault =>
            cases fault with
            | issue reason => exact absurd h nofun
            | crash cause => exact .bytes ⟨rfl, hsees⟩ ((ConfigFile.settingsOf_eq_crash _).1 hfault)
    · cases named with
      | some path => exact absurd h nofun
      | none =>
          dsimp only at h
          split at h
          · exact h.elim
          · exact absurd h nofun
  · intro h
    cases h with
    | unseen hcannot =>
        rw [if_pos hcannot]
        exact ⟨_, rfl⟩
    | bytes hreads h =>
        obtain ⟨rfl, hsees⟩ := hreads
        obtain ⟨entry, hentry⟩ := Option.isSome_iff_exists.1 hsees
        rw [cannotSee_of_sees hentry, if_neg Bool.false_ne_true, if_pos hsees,
          (ConfigFile.settingsOf_eq_crash _).2 h]
        exact ⟨_, rfl⟩

end Host

/-! ## Gathering the settings -/

/-- The world with the level of diagnostics of a name. -/
def World.atLevel (world : World) (level : String) : World :=
  { world with threshold := (Level.named? level).getD .warning }

namespace Program

variable {host : Host} {world : World} {files : FileSystem} {arguments : List String}
  {given : CommandLine.Arguments} {config : Option Path}

/-- What keeps the settings from being gathered without there being a message: the configuration file
    escapes, or it gives settings but the mark stands in the place of a value of the command line. -/
inductive GatheringEscapes (host : Host) (files : FileSystem) (given : CommandLine.Arguments)
    (config : Option Path) : Prop
  | file (h : host.ConfigEscapes files config (namedProfile given))
  | values {settings : Settings} (hfile : host.GivesSettings files config (namedProfile given) settings)
    (h : given.MarksValue)

theorem crashes_gather (hparse : CommandLine.parse arguments = .ok given) :
    Crashes host (gather given config) world ↔ GatheringEscapes host world.files given config := by
  have hrest : ∀ file after, host.GivesSettings world.files config (namedProfile given) file →
      (Crashes host (do
        let commandLine ← ofExcept .crash given.settings
        ofExcept ConfigurationFault.failure (Configuration.ofSettings (file.merge commandLine))) after ↔
      given.MarksValue) := by
    intro file after hfile
    cases hsettings : given.settings with
    | error cause =>
        refine iff_of_true ⟨cause, after, rfl⟩ (.flags ?_)
        by_contra hmark
        obtain ⟨commandLine, hok⟩ := (CommandLine.Arguments.exists_settings_iff hparse).2 hmark
        cases hok.symm.trans hsettings
    | ok commandLine =>
        rw [← CommandLine.Arguments.crashes_ofSettings_merge hparse hfile.ofKinds hsettings,
          crashes_ofExcept_bind rfl, crashes_iff_ends, ends_ofExcept, Configuration.Crashes]
        cases Configuration.ofSettings (file.merge commandLine) with
        | ok configuration => simp
        | error fault => cases fault <;> simp [ConfigurationFault.failure]
  unfold gather
  rw [crashes_bind_of_returns (returns_read world), crashes_bind, Host.crashes_fileSettings]
  constructor
  · rintro (h | ⟨file, mid, hreturns, h⟩)
    · exact .file h
    · obtain ⟨rfl, hfile⟩ := Host.returns_fileSettings_iff.1 hreturns
      exact .values hfile ((hrest file mid hfile).1 h)
  · rintro (h | ⟨hfile, h⟩)
    · exact .inl h
    · exact .inr ⟨_, _, Host.returns_fileSettings_iff.2 ⟨rfl, hfile⟩, (hrest _ _ hfile).2 h⟩

/-- A checked value fails a run as its faults do. -/
theorem ends_ofExcept_of_faults {ε α : Type} {failure : ε → Failure} {value : Except ε α}
    {failing : Failure → World → Prop} (h : ∀ fault, failing (failure fault) world) :
    Ends host (ofExcept failure value) world (fun _ after => after = world) failing := by
  rw [ends_ofExcept]
  cases value with
  | ok result => rfl
  | error fault => exact h fault

/-- Gathering the settings is not interrupted and changes nothing. -/
theorem ends_gather :
    Ends host (gather given config) world (fun _ after => after = world)
      (fun failure after => after = world ∧ failure ≠ .interrupted) := by
  have hfile : Ends host (fileSettings config (namedProfile given) host.workingDirectory) world
      (fun _ after => after = world) (fun failure after => after = world ∧ failure ≠ .interrupted) := by
    rw [ends_fileSettings]
    split
    · exact ⟨rfl, nofun⟩
    split
    · exact ends_ofExcept_of_faults fun fault => ⟨rfl, by cases fault <;> exact nofun⟩
    · cases config with
      | some path => exact ⟨rfl, nofun⟩
      | none =>
          dsimp only
          split
          · rfl
          · exact ⟨rfl, nofun⟩
  unfold gather
  rw [ends_bind, ends_read]
  refine hfile.bind ?_
  rintro file _ rfl
  refine (ends_ofExcept_of_faults fun cause => ⟨rfl, nofun⟩).bind ?_
  rintro commandLine _ rfl
  exact ends_ofExcept_of_faults fun fault => ⟨rfl, by cases fault <;> exact nofun⟩

/-! ## Building -/

/-- The world in which the program begins a build, after it has shown its version. -/
def headed (configuration : Configuration) (world : World) : World :=
  let shown := !(configuration.quiet && !configuration.verbose)
  (world.saidIf shown ("jlbuild v" ++ CommandLine.version)).saidIf shown ""

/-- The status after a build that failed. -/
def statusOf : Failure → ExitStatus
  | .interrupted => wasInterrupted
  | _ => failed

theorem ends_showBuildError {error : BuildError} :
    Ends host (showBuildError error) world (fun status _ => status = failed) (fun _ _ => False) := by
  simp [showBuildError, showError]

theorem ends_showFailure {verbose : Bool} {failure : Failure} :
    Ends host (showFailure verbose failure) world (fun status _ => status = statusOf failure)
      (fun _ _ => False) := by
  cases failure with
  | error error => exact ends_showBuildError
  | crash cause => simp [showFailure, showError, statusOf]
  | interrupted => simp [showFailure, statusOf]

theorem ends_showResult {result : BuildResult} :
    Ends host (showResult result) world (fun _ _ => True) (fun _ _ => False) := by
  have hartifact : ∀ label artifact before, Ends host (showArtifact label artifact) before
      (fun _ _ => True) (fun _ _ => False) := by
    intro label artifact before
    cases artifact <;> simp [showArtifact]
  unfold showResult
  rw [ends_ite]
  split
  · simp only [ends_bind, ends_say]
    refine (hartifact _ _ _).imp (fun _ _ _ => ?_) fun _ _ h => h
    refine (hartifact _ _ _).imp (fun _ _ _ => ?_) fun _ _ h => h
    refine (hartifact _ _ _).imp (fun _ _ _ => ?_) fun _ _ h => h
    simp
  · trivial

/-- A build always ends with a status: zero if it returned, and what its failure asks for if it failed. -/
theorem ends_build {configuration : Configuration} :
    Ends host (Program.build configuration) world
      (fun status _ =>
        (∃ result after, Returns host configuration.build (headed configuration world) result after ∧
          status = succeeded) ∨
        ∃ failure after, configuration.build.runOn host (headed configuration world) =
          (.error failure, after) ∧ status = statusOf failure)
      (fun _ _ => False) := by
  unfold Program.build
  simp only [ends_bind, ends_sayIf, ends_tryCatch]
  refine (Ends.self ..).imp ?_ ?_
  · intro result after hreturns
    rw [ends_ite]
    split
    · exact .inl ⟨result, after, hreturns, rfl⟩
    · rw [ends_bind]
      refine ends_showResult.imp (fun _ _ _ => ?_) fun _ _ h => h.elim
      exact .inl ⟨result, after, hreturns, rfl⟩
  · intro failure after hfails
    refine ends_showFailure.imp (fun status _ hstatus => ?_) fun _ _ h => h
    exact .inr ⟨failure, after, hfails, hstatus⟩

/-! ## The whole program -/

/-- The configuration file that a command line names, if it names one that is a file. -/
inductive NamesConfig (host : Host) (files : FileSystem) (given : CommandLine.Arguments) :
    Option Path → Prop
  | nothing (h : given.get? .config = none) : NamesConfig host files given none
  | file {path : Path} (h : given.get? .config = some (.path path))
    (hfile : host.seesFile files path = true) : NamesConfig host files given (some path)

/-- The program begins a build: its command line was read, the level of diagnostics was set, the named
    configuration file is one, and the settings made a configuration. -/
inductive Begins (host : Host) (arguments : List String) (world : World)
    (configuration : Configuration) : World → Prop
  | intro {given : CommandLine.Arguments} {config : Option Path} {level : String}
    (hparse : CommandLine.parse arguments = .ok given) (hlevel : given.logLevel = .text level)
    (hconfig : NamesConfig host world.files given config)
    (hgather : Returns host (gather given config) (world.atLevel level) configuration
      (world.atLevel level)) :
    Begins host arguments world configuration (headed configuration (world.atLevel level))

/-- The reasons for which the program ends with a status. -/
inductive EndsWith (host : Host) (arguments : List String) (world : World) : ExitStatus → Prop
  /-- The help was asked for. -/
  | help (h : CommandLine.parse arguments = .error .help) : EndsWith host arguments world succeeded
  /-- The version was asked for. -/
  | version (h : CommandLine.parse arguments = .error .version) :
    EndsWith host arguments world succeeded
  /-- A build returned. -/
  | built {configuration : Configuration} {begun after : World} {result : BuildResult}
    (hbegins : Begins host arguments world configuration begun)
    (h : Returns host configuration.build begun result after) : EndsWith host arguments world succeeded
  /-- A build failed, and it was not interrupted. -/
  | failedBuild {configuration : Configuration} {begun after : World} {failure : Failure}
    (hbegins : Begins host arguments world configuration begun)
    (h : configuration.build.runOn host begun = (.error failure, after))
    (hfailure : failure ≠ .interrupted) : EndsWith host arguments world failed
  /-- The settings are refused with a message. -/
  | misconfigured {given : CommandLine.Arguments} {config : Option Path} {level : String}
    {error : BuildError} (hparse : CommandLine.parse arguments = .ok given)
    (hlevel : given.logLevel = .text level) (hconfig : NamesConfig host world.files given config)
    (hgather : (gather given config).runOn host (world.atLevel level) =
      (.error (.error error), world.atLevel level)) : EndsWith host arguments world failed
  /-- The command line is refused. -/
  | refusedArguments {issue : CommandLine.UsageIssue}
    (h : CommandLine.parse arguments = .error (.refused issue)) : EndsWith host arguments world refused
  /-- The named configuration file is not one. -/
  | refusedConfig {given : CommandLine.Arguments} {path : Path}
    (hparse : CommandLine.parse arguments = .ok given) (hpath : given.get? .config = some (.path path))
    (hfile : host.seesFile world.files path = false) : EndsWith host arguments world refused
  /-- A build was interrupted. -/
  | interruptedBuild {configuration : Configuration} {begun after : World}
    (hbegins : Begins host arguments world configuration begun)
    (h : configuration.build.runOn host begun = (.error .interrupted, after)) :
    EndsWith host arguments world wasInterrupted

/-- Where the program crashes: the mark stands in the place of the level of diagnostics or of the
    configuration file, the path of the named configuration file cannot be looked at, or the settings
    cannot be gathered. -/
inductive Escapes (host : Host) (files : FileSystem) (given : CommandLine.Arguments) : Prop
  | level (h : given.get? .logLevel = some (.list []))
  | config (h : given.get? .config = some (.list []))
  | unseen {path : Path} (h : given.get? .config = some (.path path))
    (hcannot : host.cannotSee files path = true)
  | gathering {config : Option Path} (hconfig : NamesConfig host files given config)
    (h : GatheringEscapes host files given config)

theorem logLevel_of_parse (hparse : CommandLine.parse arguments = .ok given) :
    (∃ level, given.logLevel = .text level ∧ given.get? .logLevel ≠ some (.list [])) ∨
      given.get? .logLevel = some (.list []) ∧ given.logLevel = .list [] := by
  unfold CommandLine.Arguments.logLevel
  cases hget : given.get? .logLevel with
  | none => exact .inl ⟨_, rfl, nofun⟩
  | some value =>
      have hgiven := CommandLine.given_of_parse hparse hget
      rcases CommandLine.text_or_mark_of_given rfl hgiven with ⟨text, rfl⟩ | rfl
      · exact .inl ⟨text, rfl, by simp⟩
      · exact .inr ⟨rfl, rfl⟩

theorem returns_setLevel {level : String} (h : given.logLevel = .text level) :
    Returns host (setLevel given) world () (world.atLevel level) := by
  unfold setLevel
  rw [h]
  rfl

theorem config_of_parse (hparse : CommandLine.parse arguments = .ok given) :
    given.get? .config = none ∨ (∃ path, given.get? .config = some (.path path)) ∨
      given.get? .config = some (.list []) := by
  cases hget : given.get? .config with
  | none => exact .inl rfl
  | some value =>
      have hgiven := CommandLine.given_of_parse hparse hget
      rcases CommandLine.path_or_mark_of_given rfl hgiven with ⟨path, rfl⟩ | rfl
      · exact .inr (.inl ⟨path, rfl⟩)
      · exact .inr (.inr rfl)

/-- Gathers the settings and builds. -/
def gatherAndBuild (given : CommandLine.Arguments) (config : Option Path) : Action ExitStatus := do
  let gathered : Except ExitStatus Configuration ← tryCatch
    (Except.ok <$> gather given config)
    fun
      | .error error => Except.error <$> showBuildError error
      | failure => throw failure
  match gathered with
  | .ok configuration => build configuration
  | .error status => return status

/-- Gathers the settings and builds, unless the named configuration file is of no use. -/
def checkAndBuild (given : CommandLine.Arguments) (config : Option Path) : Action ExitStatus := do
  match ← checkConfig config with
  | some status => return status
  | none => gatherAndBuild given config

theorem runGiven_eq : runGiven given = (do
    setLevel given
    let config ← namedConfig given
    checkAndBuild given config) := rfl

theorem ends_gatherAndBuild {level : String} (hparse : CommandLine.parse arguments = .ok given)
    (hlevel : given.logLevel = .text level) (hconfig : NamesConfig host world.files given config) :
    Ends host (gatherAndBuild given config) (world.atLevel level)
      (fun status _ => EndsWith host arguments world status)
      (fun failure _ => ∃ cause, failure = .crash cause) := by
  unfold gatherAndBuild
  rw [ends_bind, ends_tryCatch, ends_map]
  refine ((Ends.self ..).and ends_gather).imp ?_ ?_
  · rintro configuration after ⟨hgather, rfl⟩
    have hbegins := Begins.intro hparse hlevel hconfig hgather
    refine ends_build.imp ?_ fun _ _ h => h.elim
    rintro status _ (⟨result, after, hreturns, rfl⟩ | ⟨failure, after, hfails, rfl⟩)
    · exact .built hbegins hreturns
    · cases failure with
      | interrupted => exact .interruptedBuild hbegins hfails
      | error error => exact .failedBuild hbegins hfails nofun
      | crash cause => exact .failedBuild hbegins hfails nofun
  · rintro failure after ⟨hgather, rfl, hfailure⟩
    cases failure with
    | interrupted => exact absurd rfl hfailure
    | crash cause => exact ⟨cause, rfl⟩
    | error error =>
        rw [ends_map]
        refine ends_showBuildError.imp ?_ fun _ _ h => h.elim
        rintro _ _ rfl
        exact .misconfigured hparse hlevel hconfig hgather

theorem crashes_gatherAndBuild :
    Crashes host (gatherAndBuild given config) world ↔ Crashes host (gather given config) world := by
  have hbuild : ∀ configuration before, ¬ Crashes host (Program.build configuration) before :=
    fun _ _ => ends_build.not_crashes fun _ _ h => h
  unfold gatherAndBuild
  rw [crashes_bind_left, crashes_iff_ends, crashes_iff_ends, ends_tryCatch, ends_map]
  · constructor
    · refine fun h => h.imp (fun _ _ h => h) fun failure after h => ?_
      cases failure with
      | crash cause => exact ⟨cause, rfl⟩
      | interrupted => exact h
      | error error =>
          rw [ends_map] at h
          have hnever : ¬ Crashes host (showBuildError error) after :=
            ends_showBuildError.not_crashes fun _ _ h => h
          exact absurd (crashes_iff_ends.2 h) hnever
    · refine fun h => h.imp (fun _ _ h => h) fun failure after h => ?_
      obtain ⟨cause, rfl⟩ := h
      exact ⟨cause, rfl⟩
  · intro gathered mid
    cases gathered with
    | ok configuration => exact hbuild configuration mid
    | error status => exact not_crashes_pure status

theorem runOn_gatherAndBuild {configuration : Configuration} {after : World}
    (hgather : Returns host (gather given config) world configuration after) :
    (gatherAndBuild given config).runOn host world =
      (Program.build configuration).runOn host after := by
  have hgathered : ∀ handler : Failure → Action (Except ExitStatus Configuration),
      Returns host (tryCatch (Except.ok <$> gather given config) handler) world
        (.ok configuration) after := by
    intro handler
    rw [returns_iff_ends, ends_tryCatch, ends_map]
    unfold Ends
    rw [hgather]
    exact ⟨rfl, rfl⟩
  unfold gatherAndBuild
  rw [runOn_bind, hgathered]

/-- How the program begins once its command line was read. -/
inductive Start (host : Host) (world : World) (given : CommandLine.Arguments) : Prop
  | crashes (hescapes : Escapes host world.files given) (h : Crashes host (runGiven given) world)
  | refuses {path : Path} {after : World} (hpath : given.get? .config = some (.path path))
    (hlevel : given.get? .logLevel ≠ some (.list [])) (hcan : host.cannotSee world.files path = false)
    (hfile : host.seesFile world.files path = false)
    (h : Returns host (runGiven given) world refused after)
  | gathers {level : String} {config : Option Path} (hlevel : given.logLevel = .text level)
    (hmark : given.get? .logLevel ≠ some (.list []))
    (hconfig : NamesConfig host world.files given config)
    (h : (runGiven given).runOn host world =
      (gatherAndBuild given config).runOn host (world.atLevel level))

theorem runOn_runGiven {level : String} (hlevel : given.logLevel = .text level)
    (hnamed : namedConfig given = pure config) :
    (runGiven given).runOn host world =
      (checkAndBuild given config).runOn host (world.atLevel level) := by
  have hset : (setLevel given).runOn host world = (.ok (), world.atLevel level) :=
    returns_setLevel hlevel
  rw [runGiven_eq, runOn_bind, hset, hnamed, pure_bind]

theorem namedConfig_of_get? {path : Path} (h : given.get? .config = some (.path path)) :
    namedConfig given = pure (some path) := by
  unfold namedConfig CommandLine.Arguments.value
  rw [h]
  rfl

/-- A named configuration file is looked at, and it is of no use if it is no file. -/
theorem ends_checkConfig {path : Path} :
    Ends host (checkConfig (some path)) world
      (fun refusal after => host.cannotSee world.files path = false ∧
        (host.seesFile world.files path = true ∧ refusal = none ∧ after = world ∨
          host.seesFile world.files path = false ∧ refusal = some refused))
      (fun failure _ => host.cannotSee world.files path = true ∧ ∃ cause, failure = .crash cause) := by
  unfold checkConfig refuseConfig
  rw [ends_bind, ends_has]
  split
  · next hcannot => exact ⟨hcannot, _, rfl⟩
  · next hcan =>
      have hcan := Bool.eq_false_iff.2 hcan
      rw [ends_ite]
      split
      · rw [ends_bind, ends_isFile, hcan, if_neg Bool.false_ne_true, ends_ite]
        split
        · next hfile => exact ⟨rfl, .inl ⟨hfile, rfl, rfl⟩⟩
        · next hfile =>
            rw [ends_bind, ends_say, ends_pure]
            exact ⟨rfl, .inr ⟨Bool.eq_false_iff.2 hfile, rfl⟩⟩
      · next hmissing =>
          have hfile : host.seesFile world.files path = false := by
            rw [Host.seesFile, Option.not_isSome_iff_eq_none.1 hmissing]
            rfl
          rw [ends_bind, ends_say, ends_pure]
          exact ⟨hcan, .inr ⟨hfile, rfl⟩⟩

theorem start_of_parse (hparse : CommandLine.parse arguments = .ok given) : Start host world given := by
  rcases logLevel_of_parse hparse with ⟨level, hlevel, hmark⟩ | ⟨hmark, hlevel⟩
  · rcases config_of_parse hparse with hconfig | ⟨path, hconfig⟩ | hconfig
    · have hnamed : namedConfig given = pure none := by
        unfold namedConfig CommandLine.Arguments.value
        rw [hconfig]
        rfl
      exact .gathers hlevel hmark (.nothing hconfig) (runOn_runGiven hlevel hnamed)
    · have hrun : (runGiven given).runOn host world =
          (checkAndBuild given (some path)).runOn host (world.atLevel level) :=
        runOn_runGiven hlevel (namedConfig_of_get? hconfig)
      rw [checkAndBuild, runOn_bind] at hrun
      have hcheck : Ends host (checkConfig (some path)) (world.atLevel level) _ _ := ends_checkConfig
      unfold Ends at hcheck
      split at hcheck
      · next refusal after heq =>
          rw [heq] at hrun
          obtain ⟨hcan, ⟨hfile, rfl, rfl⟩ | ⟨hfile, rfl⟩⟩ := hcheck
          · exact .gathers hlevel hmark (.file hconfig hfile) hrun
          · exact .refuses hconfig hmark hcan hfile hrun
      · next failure after heq =>
          rw [heq] at hrun
          obtain ⟨hcannot, cause, rfl⟩ := hcheck
          exact .crashes (.unseen hconfig hcannot) ⟨cause, after, hrun⟩
    · refine .crashes (.config hconfig) ⟨.listUsed "exists", world.atLevel level, ?_⟩
      have hset : (setLevel given).runOn host world = (.ok (), world.atLevel level) :=
        returns_setLevel hlevel
      rw [runGiven_eq, runOn_bind, hset]
      unfold namedConfig CommandLine.Arguments.value
      rw [hconfig]
      rfl
  · refine .crashes (.level hmark) ⟨.listUsed "upper", world, ?_⟩
    unfold runGiven setLevel
    rw [hlevel]
    rfl

theorem NamesConfig.unique {other : Option Path} (h : NamesConfig host files given config)
    (hother : NamesConfig host files given other) : other = config := by
  cases h with
  | nothing h =>
      cases hother with
      | nothing => rfl
      | file hpath => cases h.symm.trans hpath
  | file h =>
      cases hother with
      | nothing hnone => cases h.symm.trans hnone
      | file hpath =>
          cases h.symm.trans hpath
          rfl

/-- A file that can be used does not escape, nor does the level, so only the settings do. -/
theorem escapes_iff_gathering (hmark : given.get? .logLevel ≠ some (.list []))
    (hconfig : NamesConfig host files given config) :
    Escapes host files given ↔ GatheringEscapes host files given config := by
  refine ⟨fun h => ?_, .gathering hconfig⟩
  cases h with
  | level h => exact absurd h hmark
  | gathering hother h => exact hconfig.unique hother ▸ h
  | config h =>
      cases hconfig with
      | nothing hnone => cases h.symm.trans hnone
      | file hpath => cases h.symm.trans hpath
  | unseen h hcannot =>
      cases hconfig with
      | nothing hnone => cases h.symm.trans hnone
      | file hpath hfile =>
          cases h.symm.trans hpath
          cases hcannot.symm.trans (Host.cannotSee_of_seesFile hfile)

/-- What named no file does not escape: it was refused. -/
theorem not_escapes_of_refused {path : Path} (hmark : given.get? .logLevel ≠ some (.list []))
    (hpath : given.get? .config = some (.path path)) (hcan : host.cannotSee files path = false)
    (hfile : host.seesFile files path = false) : ¬ Escapes host files given := by
  intro h
  cases h with
  | level h => exact hmark h
  | config h => cases h.symm.trans hpath
  | unseen h hcannot =>
      cases h.symm.trans hpath
      cases hcannot.symm.trans hcan
  | gathering hconfig _ =>
      cases hconfig with
      | nothing hnone => cases hnone.symm.trans hpath
      | file h hsees =>
          cases h.symm.trans hpath
          cases hsees.symm.trans hfile

/-- A run that begins a build is the run of that build, at the level of diagnostics that was asked for. -/
theorem runOn_of_begins {configuration : Configuration} {begun : World}
    (hbegins : Begins host arguments world configuration begun) :
    ∃ level, (run arguments).runOn host world =
      (Program.build configuration).runOn host (world.atLevel level) := by
  cases hbegins with
  | @intro given config level hparse hlevel hconfig hgather =>
  refine ⟨level, ?_⟩
  have hmark : given.get? .logLevel ≠ some (.list []) := by
    intro hmark
    unfold CommandLine.Arguments.logLevel at hlevel
    rw [hmark] at hlevel
    cases hlevel
  have hrun : (run arguments).runOn host world = (runGiven given).runOn host world := by
    unfold run
    rw [hparse]
  rw [hrun]
  -- a run that crashes or is refused before its build gathers no settings
  cases start_of_parse hparse with
  | crashes hescapes _ =>
      obtain ⟨cause, last, hcrash⟩ : Crashes host (gather given config) (world.atLevel level) :=
        (crashes_gather hparse).2 ((escapes_iff_gathering hmark hconfig).1 hescapes)
      cases hgather.symm.trans hcrash
  | refuses hpath _ _ hfile _ =>
      cases hconfig with
      | nothing hnone => cases hpath.symm.trans hnone
      | file hother hsees =>
          cases hpath.symm.trans hother
          cases hfile.symm.trans hsees
  | gathers hother _ hnamed h =>
      cases hlevel.symm.trans hother
      obtain rfl := hconfig.unique hnamed
      rw [h, runOn_gatherAndBuild hgather]

theorem EndsWith.mem_statuses {status : ExitStatus} (h : EndsWith host arguments world status) :
    status ∈ [succeeded, failed, refused, wasInterrupted] := by
  cases h <;> decide

theorem ends_runGiven (hparse : CommandLine.parse arguments = .ok given) :
    Ends host (runGiven given) world (fun status _ => EndsWith host arguments world status)
      (fun failure _ => ∃ cause, failure = .crash cause) := by
  unfold Ends
  cases start_of_parse hparse with
  | crashes _ h =>
      obtain ⟨cause, after, h⟩ := h
      rw [h]
      exact ⟨cause, rfl⟩
  | refuses hpath _ _ hfile h =>
      rw [h]
      exact .refusedConfig hparse hpath hfile
  | gathers hlevel _ hconfig h =>
      rw [h]
      exact ends_gatherAndBuild hparse hlevel hconfig

theorem crashes_runGiven (hparse : CommandLine.parse arguments = .ok given) :
    Crashes host (runGiven given) world ↔ Escapes host world.files given := by
  cases start_of_parse hparse with
  | crashes hescapes h => exact iff_of_true h hescapes
  | refuses hpath hmark hcan hfile h =>
      refine iff_of_false ?_ (not_escapes_of_refused hmark hpath hcan hfile)
      rintro ⟨cause, after, hcrash⟩
      cases h.symm.trans hcrash
  | gathers hlevel hmark hconfig h =>
      rw [escapes_iff_gathering hmark hconfig, Crashes, h]
      exact crashes_gatherAndBuild.trans (crashes_gather hparse)

/-- However it is run, the program ends with the status of success, of failure, of a refusal or of an
    interrupt, or it crashes. It ends with success only if the help or the version was asked for or a build
    returned, with a refusal only if its arguments are refused or the named configuration file is none, and
    as interrupted only if a build was. It crashes exactly where reading what comes before a build
    escapes. -/
theorem run_ends_with_status (arguments : List String) (host : Host) (world : World) :
    Ends host (run arguments) world
        (fun status _ => status ∈ [succeeded, failed, refused, wasInterrupted] ∧
          EndsWith host arguments world status)
        (fun failure _ => ∃ cause, failure = .crash cause) ∧
      (Crashes host (run arguments) world ↔
        ∃ given, CommandLine.parse arguments = .ok given ∧ Escapes host world.files given) := by
  have hstatus : ∀ {status : ExitStatus}, EndsWith host arguments world status →
      status ∈ [succeeded, failed, refused, wasInterrupted] ∧ EndsWith host arguments world status :=
    fun h => ⟨h.mem_statuses, h⟩
  unfold run
  cases hparse : CommandLine.parse arguments with
  | ok given =>
      refine ⟨(ends_runGiven hparse).imp (fun _ _ => hstatus) fun _ _ h => h, ?_⟩
      rw [crashes_runGiven hparse]
      simp
  | error interruption =>
      cases interruption with
      | help => exact ⟨hstatus (.help hparse), iff_of_false nofun nofun⟩
      | version => exact ⟨hstatus (.version hparse), iff_of_false nofun nofun⟩
      | refused issue => exact ⟨hstatus (.refusedArguments hparse), iff_of_false nofun nofun⟩

/-- A configuration file that is no text crashes the program. -/
theorem run_crashes_on_stray_byte :
    let host := Host.obedient Host.plainCommand fun _ => ByteArray.empty
    let file : File := ⟨⟨#[0xff]⟩, .at 0⟩
    let files := (Host.projectFiles []).insert [configFileName, "work"] (.file file)
    Crashes host (run ["app.jl"]) { files } := by
  intro host file files
  have hsees : (host.sees files (host.workingDirectory.child configFileName)).isSome = true := by
    decide +kernel
  have hbytes : Text.fileLines
      (host.configBytes files (host.workingDirectory.child configFileName)) =
        ([], some ⟨0, 1, 0xff, .invalidStart⟩) := by decide +kernel
  have hescapes : host.ConfigEscapes files none none := .bytes ⟨rfl, hsees⟩ (.undecodable hbytes rfl)
  have hparse : CommandLine.parse ["app.jl"] =
      .ok [(.setting .program, .path (Path.ofString "app.jl"))] := by decide +kernel
  exact (run_ends_with_status ["app.jl"] host { files }).2.2
    ⟨_, hparse, .gathering (.nothing rfl) (.file hescapes)⟩

end Program

end JuliaNative
