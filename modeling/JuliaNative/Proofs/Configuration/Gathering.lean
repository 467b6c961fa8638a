import JuliaNative.Program
import JuliaNative.Proofs.CommandLine.Values
import JuliaNative.Proofs.Configuration.Remaking
import JuliaNative.Proofs.Configuration.Source

set_option autoImplicit false

/-! # How a configuration is gathered

A configuration is made of the settings of the configuration file with those of the command line over
them (`Program.returns_gather`). What the settings leave absent is left open by the configuration,
apart from the two commands (`Configuration.MadeOf.value_of_absent`). -/

namespace JuliaNative

open JuliaNative.Action

/-! ## Making a configuration -/

namespace Configuration

variable {settings : Settings} {configuration : Configuration} {setting : Setting}

/-- A configuration is made of settings: every value is read as its setting asks, and none of them is
    refused. -/
structure MadeOf (settings : Settings) (configuration : Configuration) : Prop where
  program : readProgram settings = .ok (some configuration.program)
  driverProgram : readPath settings .driverProgram = .ok configuration.driverProgram
  buildDir : readPath settings .buildDir = .ok configuration.buildDir
  snoopFile : readPath settings .snoopFile = .ok configuration.snoopFile
  toolchainRoot : readPath settings .toolchainRoot = .ok configuration.toolchainRoot
  copyFiles : (settings.value .copyFiles).toPaths?.mapError .crash =
    (.ok configuration.copyFiles : Except ConfigurationFault _)
  ccFlags : readWords settings .ccFlags = .ok configuration.ccFlags
  precompiled : readChoice settings .precompiled yesNo = .ok configuration.precompiled
  compilecache : readChoice settings .compilecache yesNo = .ok configuration.compilecache
  startupFile : readChoice settings .startupFile yesNo = .ok configuration.startupFile
  handleSignals : readChoice settings .handleSignals yesNo = .ok configuration.handleSignals
  compile : readChoice settings .compile compileModes = .ok configuration.compile
  inlining : readChoice settings .inlining yesNo = .ok configuration.inlining
  checkBounds : readChoice settings .checkBounds yesNo = .ok configuration.checkBounds
  mathMode : readChoice settings .mathMode mathModes = .ok configuration.mathMode
  depwarn : readChoice settings .depwarn warningModes = .ok configuration.depwarn
  optimize : readLevel settings .optimize 4 = .ok configuration.optimize
  debug : readLevel settings .debug 3 = .ok configuration.debug
  outputName : configuration.outputName = (settings.value .outputName).toName?
  verbose : configuration.verbose = switch settings .verbose
  quiet : configuration.quiet = switch settings .quiet
  clean : configuration.clean = switch settings .clean
  autoDeps : configuration.autoDeps = switch settings .autoDeps
  object : configuration.object = switch settings .object
  shared : configuration.shared = switch settings .shared
  sharedInit : configuration.sharedInit = switch settings .sharedInit
  executable : configuration.executable = switch settings .executable
  removeTemp : configuration.removeTemp = switch settings .removeTemp
  copyRuntimeLibs : configuration.copyRuntimeLibs = switch settings .copyRuntimeLibs
  release : configuration.release = switch settings .release
  fullRelease : configuration.fullRelease = switch settings .fullRelease
  sysimage : configuration.sysimage = (settings.value .sysimage).toText?
  home : configuration.home = (settings.value .home).toText?
  cpuTarget : configuration.cpuTarget = (settings.value .cpuTarget).toText?
  julia : configuration.julia = valueOr settings .julia "julia"
  cc : configuration.cc = valueOr settings .cc "gcc"

theorem madeOf_of_ofSettings (h : ofSettings settings = .ok configuration) :
    MadeOf settings configuration := by
  simp only [ofSettings, Checked.bind_eq_ok] at h
  obtain ⟨program, hprogram, driverProgram, hdriverProgram, buildDir, hbuildDir, snoopFile,
    hsnoopFile, toolchainRoot, htoolchainRoot, copyFiles, hcopyFiles, ccFlags, hccFlags, precompiled,
    hprecompiled, compilecache, hcompilecache, startupFile, hstartupFile, handleSignals,
    hhandleSignals, compile, hcompile, inlining, hinlining, checkBounds, hcheckBounds, mathMode,
    hmathMode, depwarn, hdepwarn, optimize, hoptimize, debug, hdebug, h⟩ := h
  cases program with
  | none => cases h
  | some program =>
      cases h
      constructor <;> first | assumption | rfl

theorem readPath_of_absent {path : Option Path} (habsent : settings.value setting = .absent)
    (h : readPath settings setting = .ok path) : path = none := by
  rw [readPath, habsent] at h
  cases h
  rfl

theorem readChoice_of_absent {allowed : List String} {choice : Option (Choice allowed)}
    (habsent : settings.value setting = .absent)
    (h : readChoice settings setting allowed = .ok choice) : choice = none := by
  rw [readChoice, habsent] at h
  cases h
  rfl

/-- What the settings leave absent is left open: an absent text, path or choice is none. -/
theorem MadeOf.value_of_absent (h : MadeOf settings configuration) (hkind : setting.kind = .text)
    (hprogram : setting ≠ .program) (htool : ¬ setting.IsCommand)
    (habsent : settings.value setting = .absent) : configuration.value setting = .absent := by
  have hpath : ∀ {path : Option Path}, readPath settings setting = .ok path → ofPath path = .absent :=
    fun hread => by rw [readPath_of_absent habsent hread]; rfl
  have hchoice : ∀ {allowed} {choice : Option (Choice allowed)},
      readChoice settings setting allowed = .ok choice → ofChoice choice = .absent :=
    fun hread => by rw [readChoice_of_absent habsent hread]; rfl
  cases setting with
  | program => exact absurd rfl hprogram
  | julia => exact absurd (Or.inl rfl) htool
  | cc => exact absurd (Or.inr rfl) htool
  | driverProgram => exact hpath h.driverProgram
  | buildDir => exact hpath h.buildDir
  | snoopFile => exact hpath h.snoopFile
  | toolchainRoot => exact hpath h.toolchainRoot
  | precompiled => exact hchoice h.precompiled
  | compilecache => exact hchoice h.compilecache
  | startupFile => exact hchoice h.startupFile
  | handleSignals => exact hchoice h.handleSignals
  | compile => exact hchoice h.compile
  | inlining => exact hchoice h.inlining
  | checkBounds => exact hchoice h.checkBounds
  | mathMode => exact hchoice h.mathMode
  | depwarn => exact hchoice h.depwarn
  | outputName => rw [value, h.outputName, habsent]; rfl
  | sysimage => rw [value, h.sysimage, habsent]; rfl
  | home => rw [value, h.home, habsent]; rfl
  | cpuTarget => rw [value, h.cpuTarget, habsent]; rfl
  | _ => cases hkind

/-- A switch holds whether the settings turn it on. -/
theorem MadeOf.value_switch (h : MadeOf settings configuration) (hkind : setting.kind = .flag) :
    configuration.value setting = .flag (switch settings setting) := by
  cases setting with
  | verbose => rw [value, h.verbose]
  | quiet => rw [value, h.quiet]
  | clean => rw [value, h.clean]
  | autoDeps => rw [value, h.autoDeps]
  | object => rw [value, h.object]
  | shared => rw [value, h.shared]
  | sharedInit => rw [value, h.sharedInit]
  | executable => rw [value, h.executable]
  | removeTemp => rw [value, h.removeTemp]
  | copyRuntimeLibs => rw [value, h.copyRuntimeLibs]
  | release => rw [value, h.release]
  | fullRelease => rw [value, h.fullRelease]
  | _ => cases hkind

end Configuration

/-! ## The command line over the file -/

namespace CommandLine.Arguments

variable {given : Arguments} {commandLine : Settings}

/-- The settings of the command line are what it gives for each setting. -/
theorem settings_eq_ok :
    given.settings = .ok commandLine ↔
      Table.Lists (fun setting value => given.setting setting = .ok value) Setting.all commandLine := by
  refine Table.mapM_eq_ok_iff_lists fun setting entry => ?_
  rw [Checked.map_eq_ok]
  constructor
  · rintro ⟨value, hvalue, rfl⟩
    exact ⟨rfl, hvalue⟩
  · rintro ⟨rfl, hvalue⟩
    exact ⟨entry.2, hvalue, rfl⟩

theorem nodup_settings (h : given.settings = .ok commandLine) : commandLine.keys.Nodup := by
  rw [(settings_eq_ok.1 h).keys_eq]
  decide +kernel

theorem get?_settings (h : given.settings = .ok commandLine) (setting : Setting) :
    ∃ value, given.setting setting = .ok value ∧ commandLine.get? setting = some value  :=
  (settings_eq_ok.1 h).exists_get? setting.mem_all

theorem setting_of_switch {setting : Setting} (hkind : setting.kind = .flag) :
    given.setting setting = .ok (given.value (.setting setting)) := by
  cases setting with
  | driverProgram | ccFlags => cases hkind
  | _ => rfl

end CommandLine.Arguments

theorem Settings.get?_merge {file commandLine : Settings} {setting : Setting} {value : Value}
    (hdistinct : commandLine.keys.Nodup) (hvalue : commandLine.get? setting = some value) :
    (file.merge commandLine).get? setting =
      if value = .absent then file.get? setting else some value := by
  rw [merge, overlayGiven, Table.get?_overlay (Table.nodup_filter hdistinct _),
    Table.get?_filter hdistinct, hvalue, Option.filter_some]
  by_cases habsent : value = .absent <;> simp [habsent, Value.isGiven]

/-! ## Gathering -/

namespace Program

variable {host : Host} {world after : World} {given : CommandLine.Arguments} {config : Option Path}
  {configuration : Configuration}

/-- A configuration that was gathered is made of the settings of the file with those of the command
    line over them: what the command line gives counts, and for what it leaves absent the file
    decides. -/
theorem returns_gather (h : Returns host (gather given config) world configuration after) :
    after = world ∧ ∃ file settings,
      Returns host (fileSettings config (namedProfile given) host.workingDirectory) world file world ∧
      Configuration.MadeOf settings configuration ∧
      ∀ setting, ∃ value, given.setting setting = .ok value ∧
        settings.get? setting = if value = .absent then file.get? setting else some value := by
  unfold gather at h
  obtain ⟨_, _, hhost, hread⟩ := returns_bind.1 h
  cases hhost
  obtain ⟨file, mid, hfile, hgiven⟩ := returns_bind.1 hread
  obtain ⟨rfl, -⟩ := returns_fileSettings hfile
  obtain ⟨commandLine, _, hcommandLine, hmake⟩ := returns_bind.1 hgiven
  obtain ⟨hsettings, rfl⟩ := returns_ofExcept.1 hcommandLine
  obtain ⟨hmade, rfl⟩ := returns_ofExcept.1 hmake
  refine ⟨rfl, file, file.merge commandLine, hfile, Configuration.madeOf_of_ofSettings hmade, ?_⟩
  intro setting
  obtain ⟨value, hvalue, hget⟩ := CommandLine.Arguments.get?_settings hsettings setting
  exact ⟨value, hvalue, Settings.get?_merge (CommandLine.Arguments.nodup_settings hsettings) hget⟩

end Program

end JuliaNative
