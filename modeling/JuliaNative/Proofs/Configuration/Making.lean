import JuliaNative.Proofs.Configuration.Gathering
import JuliaNative.Proofs.Configuration.Refusals

set_option autoImplicit false

/-! # Values of which no configuration is made

Choices and levels that do not fit are refused with a message. A value that is used as a path, as paths or
as words and cannot be crashes, and it does so before any choice is looked at
(`Configuration.crashes_ofSettings`). -/

namespace JuliaNative

namespace Configuration

variable {α β : Type} {settings : Settings} {setting : Setting} {program : Path}

/-- Making a configuration fails without a message. -/
def Crashes (made : Except ConfigurationFault α) : Prop :=
  ∃ cause, made = .error (.crash cause)

@[simp] theorem not_crashes_pure (value : α) :
    ¬ Crashes (pure value : Except ConfigurationFault α) := by
  rintro ⟨cause, h⟩
  cases h

/-- What fails without a message, or not at all, crashes with what comes next unless it gives a value with
    which that does not. -/
theorem crashes_mapError_crash_bind {first : Except Crash α}
    {next : α → Except ConfigurationFault β} :
    Crashes (first.mapError .crash >>= next) ↔ ∀ value, first = .ok value → Crashes (next value) := by
  cases first with
  | ok value => simp [Except.mapError, bind, Except.bind]
  | error cause => simp [Except.mapError, bind, Except.bind, Crashes]

/-- What is refused with a message only crashes with what comes next. -/
theorem crashes_mapError_issue_bind {first : Except ConfigurationIssue α}
    {next : α → Except ConfigurationFault β} :
    Crashes (first.mapError .issue >>= next) ↔ ∃ value, first = .ok value ∧ Crashes (next value) := by
  cases first with
  | ok value => simp [Except.mapError, bind, Except.bind]
  | error issue => simp [Except.mapError, bind, Except.bind, Crashes]

/-- The words that a setting stands for; one that is not mentioned has none. -/
def wordsOf (settings : Settings) (setting : Setting) : Except Crash (List String) :=
  match settings.get? setting with
  | none => .ok []
  | some value => value.toWords

theorem readWords_eq :
    readWords settings setting = (wordsOf settings setting).mapError .crash := by
  unfold readWords wordsOf
  cases settings.get? setting <;> rfl

theorem crashes_ofSettings (hprogram : readProgram settings = .ok (some program)) :
    Crashes (ofSettings settings) ↔
      ¬ ((∀ setting ∈ [.driverProgram, .buildDir, .snoopFile, .toolchainRoot],
            ∃ path, (settings.value setting).toPath? = .ok path) ∧
          (∃ paths, (settings.value .copyFiles).toPaths? = .ok paths) ∧
          ∃ words, wordsOf settings .ccFlags = .ok words) := by
  unfold ofSettings
  rw [hprogram, show ∀ next : Option Path → Except ConfigurationFault Configuration,
    (Except.ok (some program) >>= next) = next (some program) from fun _ => rfl]
  simp only [readPath, readWords_eq, readChoice, readLevel, crashes_mapError_crash_bind,
    crashes_mapError_issue_bind, not_crashes_pure, and_false, exists_false, List.mem_cons,
    List.not_mem_nil, or_false, forall_eq_or_imp, forall_eq]
  constructor
  · rintro h ⟨⟨⟨driver, hdriver⟩, ⟨buildDir, hbuildDir⟩, ⟨snoop, hsnoop⟩, root, hroot⟩, ⟨paths, hpaths⟩,
      words, hwords⟩
    exact h driver hdriver buildDir hbuildDir snoop hsnoop root hroot paths hpaths words hwords
  · intro h driver hdriver buildDir hbuildDir snoop hsnoop root hroot paths hpaths words hwords
    exact h ⟨⟨⟨driver, hdriver⟩, ⟨buildDir, hbuildDir⟩, ⟨snoop, hsnoop⟩, root, hroot⟩, ⟨paths, hpaths⟩,
      words, hwords⟩

end Configuration

/-! ## Settings of a file -/

/-- Every value is of the kind of its setting. -/
def Settings.OfKinds (settings : Settings) : Prop :=
  ∀ setting value, settings.get? setting = some value → setting.kind.Admits value

namespace Settings.OfKinds

variable {file : Settings} {setting : Setting}

theorem nil : OfKinds [] := nofun

theorem switch_iff (h : file.OfKinds) (hkind : setting.kind = .flag) :
    Configuration.switch file setting = true ↔ file.get? setting = some (.flag true) := by
  unfold Configuration.switch Settings.value
  cases hvalue : file.get? setting with
  | none => exact iff_of_false nofun nofun
  | some value =>
      have hadmits := h setting value hvalue
      rw [hkind] at hadmits
      cases hadmits with
      | flag on => cases on <;> decide

theorem exists_path (h : file.OfKinds) (hkind : setting.kind = .text) :
    ∃ path, (file.value setting).toPath? = .ok path := by
  unfold Settings.value
  cases hvalue : file.get? setting with
  | none => exact ⟨none, rfl⟩
  | some value =>
      have hadmits := h setting value hvalue
      rw [hkind] at hadmits
      cases hadmits with
      | text text => exact ⟨_, rfl⟩
      | absent => exact ⟨_, rfl⟩

theorem exists_words (h : file.OfKinds) : ∃ words, Configuration.wordsOf file .ccFlags = .ok words := by
  unfold Configuration.wordsOf
  cases hvalue : file.get? .ccFlags with
  | none => exact ⟨[], rfl⟩
  | some value =>
      cases h .ccFlags value hvalue
      exact ⟨_, rfl⟩

end Settings.OfKinds

/-- A list can be used as paths if all its elements are texts or paths. -/
theorem Value.exists_toPaths?_list {items : List Item} :
    (∃ paths, (list items).toPaths? = .ok paths) ↔ ∀ kind shown, Item.other kind shown ∉ items := by
  have hpaths : (list items).toPaths? = (items.mapM Item.toPath).map some := rfl
  simp only [hpaths, Checked.map_eq_ok, exists_comm (α := Option (List Path)), exists_eq_right']
  rw [Checked.exists_mapM_eq_ok]
  constructor
  · rintro h kind shown hmem
    obtain ⟨path, hpath⟩ := h _ hmem
    cases hpath
  · intro h item hmem
    cases item with
    | text text => exact ⟨_, rfl⟩
    | path path => exact ⟨_, rfl⟩
    | other kind shown => exact absurd hmem (h kind shown)

theorem Settings.OfKinds.exists_paths {file : Settings} (h : file.OfKinds) :
    ∃ paths, (file.value .copyFiles).toPaths? = .ok paths := by
  unfold Settings.value
  cases hvalue : file.get? .copyFiles with
  | none => exact ⟨none, rfl⟩
  | some value =>
      cases h .copyFiles value hvalue with
      | words texts => exact Value.exists_toPaths?_list.2 (by simp)

/-! ## The command line over the file -/

open CommandLine in
/-- On a command line the mark stands in the place of a value that is used as a path or as flags. -/
inductive CommandLine.Arguments.MarksValue (given : Arguments) : Prop
  | flags (h : given.get? (.setting .ccFlags) = some (.list []))
  | place {setting : Setting} (hplace : setting ∈ placeSettings)
    (h : given.get? (.setting setting) = some (.list []))
  | copies {items : List Item} {kind shown : String}
    (h : given.get? (.setting .copyFiles) = some (.list items)) (hitem : .other kind shown ∈ items)

namespace CommandLine.Arguments

variable {given : Arguments} {arguments : List String} {commandLine file : Settings}
  {setting : Setting} {value : Value}

theorem value_merge (hsettings : given.settings = .ok commandLine)
    (hvalue : given.setting setting = .ok value) :
    (file.merge commandLine).value setting = if value = .absent then file.value setting else value := by
  obtain ⟨other, hother, hget⟩ := get?_settings hsettings setting
  obtain rfl := Except.ok.inj (hother.symm.trans hvalue)
  rw [Settings.value, Settings.get?_merge (nodup_settings hsettings) hget, Settings.value]
  split <;> rfl

/-- What the command line gives is refused only if the mark stands in the place of the flags. -/
theorem exists_settings_iff (hparse : parse arguments = .ok given) :
    (∃ commandLine, given.settings = .ok commandLine) ↔
      given.get? (.setting .ccFlags) ≠ some (.list []) := by
  unfold settings
  rw [Checked.exists_mapM_eq_ok]
  simp only [Checked.map_eq_ok]
  constructor
  · intro h hmark
    obtain ⟨entry, value, hvalue, -⟩ := h .ccFlags (by decide +kernel)
    simp [setting, Arguments.value, hmark] at hvalue
  · intro hmark which _
    suffices h : ∃ value, given.setting which = .ok value from
      h.elim fun value hvalue => ⟨_, value, hvalue, rfl⟩
    by_cases hwhich : which = .ccFlags
    · subst hwhich
      cases hget : given.get? (.setting .ccFlags) with
      | none => exact ⟨.absent, by simp [setting, Arguments.value, hget]⟩
      | some value =>
          rcases text_or_mark_of_given rfl (given_of_parse hparse hget) with ⟨text, rfl⟩ | rfl
          · exact ⟨.words (flagsOfText text), by simp [setting, Arguments.value, hget]⟩
          · exact absurd hget hmark
    · unfold setting
      split <;> first | exact ⟨_, rfl⟩ | contradiction

theorem setting_place (hplace : setting ∈ placeSettings) :
    given.setting setting = .ok (given.value (.setting setting)) := by
  unfold Arguments.setting
  split
  · exact absurd hplace (by decide)
  · exact absurd hplace (by decide)
  · rfl

/-- A place is read, unless the mark stands there. -/
theorem exists_place_merge (hparse : parse arguments = .ok given) (hfile : file.OfKinds)
    (hsettings : given.settings = .ok commandLine) (hplace : setting ∈ placeSettings) :
    (∃ path, ((file.merge commandLine).value setting).toPath? = .ok path) ↔
      given.get? (.setting setting) ≠ some (.list []) := by
  have hkind : ∀ other ∈ placeSettings, other.kind = .text := by decide
  have hshape : ∀ other ∈ placeSettings, (Target.setting other).shape = .path := by decide
  rw [value_merge hsettings (setting_place hplace), Arguments.value]
  cases hget : given.get? (.setting setting) with
  | none => simpa using hfile.exists_path (hkind setting hplace)
  | some value =>
      have hgiven := given_of_parse hparse hget
      rcases path_or_mark_of_given (hshape setting hplace) hgiven with ⟨path, rfl⟩ | rfl
      · simp [Value.toPath?]
      · simp [Value.toPath?]

theorem exists_driver_merge (hparse : parse arguments = .ok given) (hfile : file.OfKinds)
    (hsettings : given.settings = .ok commandLine) :
    ∃ path, ((file.merge commandLine).value .driverProgram).toPath? = .ok path := by
  have hdriver : given.setting .driverProgram = .ok (given.value .driver) := rfl
  rw [value_merge hsettings hdriver, Arguments.value]
  cases hget : given.get? .driver with
  | none => simpa using hfile.exists_path rfl
  | some value =>
      obtain ⟨path, rfl⟩ := driver_of_given (given_of_parse hparse hget)
      exact ⟨some path, rfl⟩

theorem exists_paths_merge (hparse : parse arguments = .ok given) (hfile : file.OfKinds)
    (hsettings : given.settings = .ok commandLine) :
    (∃ paths, ((file.merge commandLine).value .copyFiles).toPaths? = .ok paths) ↔
      ∀ items kind shown, given.get? (.setting .copyFiles) = some (.list items) →
        .other kind shown ∉ items := by
  have hcopies : given.setting .copyFiles = .ok (given.value (.setting .copyFiles)) := rfl
  rw [value_merge hsettings hcopies, Arguments.value]
  cases hget : given.get? (.setting .copyFiles) with
  | none => simpa using hfile.exists_paths
  | some value =>
      obtain ⟨items, rfl⟩ := list_of_given rfl (given_of_parse hparse hget)
      rw [Option.getD_some, if_neg (by simp), Value.exists_toPaths?_list]
      constructor
      · rintro h _ kind shown ⟨⟩
        exact h kind shown
      · exact fun h kind shown => h items kind shown rfl

theorem exists_words_merge (hparse : parse arguments = .ok given) (hfile : file.OfKinds)
    (hsettings : given.settings = .ok commandLine) :
    ∃ words, Configuration.wordsOf (file.merge commandLine) .ccFlags = .ok words := by
  obtain ⟨value, hvalue, hget⟩ := get?_settings hsettings .ccFlags
  rw [Configuration.wordsOf, Settings.get?_merge (nodup_settings hsettings) hget]
  by_cases habsent : value = .absent
  · rw [if_pos habsent]
    exact hfile.exists_words
  · rw [if_neg habsent]
    unfold Arguments.setting Arguments.value at hvalue
    cases hflags : given.get? (.setting .ccFlags) with
    | none =>
        rw [hflags] at hvalue
        cases hvalue
        exact absurd rfl habsent
    | some flags =>
        rw [hflags] at hvalue
        rcases text_or_mark_of_given rfl (given_of_parse hparse hflags) with ⟨text, rfl⟩ | rfl
        · cases hvalue
          exact ⟨_, rfl⟩
        · cases hvalue

theorem exists_program_merge (file : Settings) (hparse : parse arguments = .ok given)
    (hsettings : given.settings = .ok commandLine) :
    ∃ path, Configuration.readProgram (file.merge commandLine) = .ok (some path) := by
  obtain ⟨path, hpath⟩ := exists_program_of_parse hparse
  have hprogram : given.setting .program = .ok (.path path) := by
    rw [show given.setting .program = .ok (given.value (.setting .program)) from rfl, Arguments.value,
      hpath]
    rfl
  obtain ⟨other, hother, hget⟩ := get?_settings hsettings .program
  obtain rfl := Except.ok.inj (hother.symm.trans hprogram)
  have hmerged : (file.merge commandLine).get? .program = some (.path path) := by
    rw [Settings.get?_merge (nodup_settings hsettings) hget, if_neg nofun]
  refine ⟨path, ?_⟩
  rw [Configuration.readProgram, if_pos (by rw [Table.has, hmerged]; rfl), Configuration.readPath,
    Settings.value, hmerged]
  rfl

/-- Settings of a command line over those of a file make no configuration, without there being a message,
    exactly if the mark stands in the place of a value. -/
theorem crashes_ofSettings_merge (hparse : parse arguments = .ok given) (hfile : file.OfKinds)
    (hsettings : given.settings = .ok commandLine) :
    Configuration.Crashes (Configuration.ofSettings (file.merge commandLine)) ↔ given.MarksValue := by
  have hflags := (exists_settings_iff hparse).1 ⟨commandLine, hsettings⟩
  have hplace : ∀ setting ∈ placeSettings,
      (∃ path, ((file.merge commandLine).value setting).toPath? = .ok path) ↔
        given.get? (.setting setting) ≠ some (.list []) :=
    fun setting hmem => exists_place_merge hparse hfile hsettings hmem
  obtain ⟨path, hprogram⟩ := exists_program_merge file hparse hsettings
  rw [Configuration.crashes_ofSettings hprogram, exists_paths_merge hparse hfile hsettings,
    List.forall_mem_cons]
  constructor
  · intro h
    by_contra hmarks
    refine h ⟨⟨exists_driver_merge hparse hfile hsettings, fun setting hmem => ?_⟩,
      fun items kind shown hcopies hmem => hmarks (.copies hcopies hmem),
      exists_words_merge hparse hfile hsettings⟩
    exact (hplace setting hmem).2 fun hmark => hmarks (.place hmem hmark)
  · rintro hmarks ⟨⟨-, hplaces⟩, hcopies, -⟩
    cases hmarks with
    | flags h => exact hflags h
    | place hmem h => exact (hplace _ hmem).1 (hplaces _ hmem) h
    | copies h hitem => exact hcopies _ _ _ h hitem

end CommandLine.Arguments

end JuliaNative
