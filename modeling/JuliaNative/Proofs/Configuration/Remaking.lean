import JuliaNative.Proofs.Checked
import JuliaNative.Proofs.Table
import JuliaNative.Configuration.Basic

set_option autoImplicit false

/-! # Making a configuration of its own values

What a configuration holds for its settings is accepted when a configuration is made of it, and gives the
same configuration (`Configuration.ofSettings_of_values`). So a configuration can be changed by making it
anew with other values for some settings (`Configuration.replace_eq_ok`). -/

namespace JuliaNative

theorem Setting.mem_all (setting : Setting) : setting ∈ Setting.all := by
  cases setting <;> decide +kernel

namespace Configuration

variable {settings : Settings} {setting : Setting} {configuration changed : Configuration}

theorem get?_settings (configuration : Configuration) (setting : Setting) :
    configuration.settings.get? setting = some (configuration.value setting) :=
  Table.get?_map_of_mem _ setting.mem_all

/-! ## Reading values back -/

theorem toPath?_ofPath (path : Option Path) : (ofPath path).toPath? = .ok path := by
  cases path <;> rfl

theorem toText?_ofText (text : Option String) : (ofText text).toText? = text := by
  cases text <;> rfl

theorem toName?_ofText (text : Option String) : (ofText text).toName? = text := by
  cases text with
  | none => rfl
  | some text => by_cases h : text = "" <;> simp [ofText, Value.toName?, Value.isTrue, Value.toText?, h]

theorem toChoice?_ofChoice {allowed : List String} (choice : Option (Choice allowed)) :
    (ofChoice choice).toChoice? setting allowed = .ok choice := by
  cases choice with
  | none => rfl
  | some choice => simp [ofChoice, ofText, Value.toChoice?, choice.isAllowed]

theorem toLevel?_ofLevel {bound : Nat} (level : Option (Fin bound)) :
    (ofLevel level).toLevel? setting bound = .ok level := by
  cases level with
  | none => rfl
  | some level => simp [ofLevel, Value.toLevel?, Value.toInteger?]

theorem toPaths?_ofPaths (paths : Option (List Path)) :
    ((paths.map Value.paths).getD .absent).toPaths? = .ok paths := by
  cases paths with
  | none => rfl
  | some paths =>
      have hitems : (paths.map Item.path).mapM Item.toPath = .ok paths := by
        rw [Checked.mapM_eq_ok, List.forall₂_map_left_iff, List.forall₂_same]
        exact fun _ _ => rfl
      have hpaths : (Value.paths paths).toPaths? =
          ((paths.map Item.path).mapM Item.toPath).map some := rfl
      rw [Option.map_some, Option.getD_some, hpaths, hitems]
      rfl

theorem toWords_words (texts : List String) : (Value.words texts).toWords = .ok texts := by
  have hwords : (Value.words texts).toWords = .ok ((texts.map Item.text).map Item.toText) := rfl
  rw [hwords, List.map_map]
  exact congrArg Except.ok (List.map_id texts)

/-! ## Reading settings -/

theorem value_of_get? {value : Value} (h : settings.get? setting = some value) :
    settings.value setting = value := by
  rw [Settings.value, h, Option.getD_some]

theorem readPath_of_get? {path : Option Path} (h : settings.get? setting = some (ofPath path)) :
    readPath settings setting = .ok path := by
  rw [readPath, value_of_get? h, toPath?_ofPath]
  rfl

theorem readChoice_of_get? {allowed : List String} {choice : Option (Choice allowed)}
    (h : settings.get? setting = some (ofChoice choice)) :
    readChoice settings setting allowed = .ok choice := by
  rw [readChoice, value_of_get? h, toChoice?_ofChoice]
  rfl

theorem readLevel_of_get? {bound : Nat} {level : Option (Fin bound)}
    (h : settings.get? setting = some (ofLevel level)) :
    readLevel settings setting bound = .ok level := by
  rw [readLevel, value_of_get? h, toLevel?_ofLevel]
  rfl

theorem readWords_of_get? {texts : List String} (h : settings.get? setting = some (.words texts)) :
    readWords settings setting = .ok texts := by
  rw [readWords, h]
  simp only [toWords_words]
  rfl

theorem switch_of_get? {flag : Bool} (h : settings.get? setting = some (.flag flag)) :
    switch settings setting = flag := by
  rw [switch, value_of_get? h]
  rfl

theorem valueOr_of_get? {value : Value} (h : settings.get? setting = some value) (default : String) :
    valueOr settings setting default = value := by
  rw [valueOr, h, Option.getD_some]

/-- Settings that hold the values of a configuration make this configuration. -/
theorem ofSettings_of_values
    (h : ∀ setting, settings.get? setting = some (configuration.value setting)) :
    ofSettings settings = .ok configuration := by
  have hprogram : readProgram settings = .ok (some configuration.program) := by
    rw [readProgram, if_pos (by rw [Table.has, h]; rfl)]
    exact readPath_of_get? (h .program)
  have hcopyFiles := congrArg Value.toPaths? (value_of_get? (h .copyFiles))
  rw [show configuration.value .copyFiles = (configuration.copyFiles.map Value.paths).getD .absent
    from rfl, toPaths?_ofPaths] at hcopyFiles
  rw [ofSettings, hprogram, hcopyFiles, readPath_of_get? (h .driverProgram),
    readPath_of_get? (h .buildDir), readPath_of_get? (h .snoopFile),
    readPath_of_get? (h .toolchainRoot), readWords_of_get? (h .ccFlags),
    readChoice_of_get? (h .precompiled), readChoice_of_get? (h .compilecache),
    readChoice_of_get? (h .startupFile), readChoice_of_get? (h .handleSignals),
    readChoice_of_get? (h .compile), readChoice_of_get? (h .inlining),
    readChoice_of_get? (h .checkBounds), readChoice_of_get? (h .mathMode),
    readChoice_of_get? (h .depwarn), readLevel_of_get? (h .optimize), readLevel_of_get? (h .debug)]
  simp only [switch_of_get? (h .verbose), switch_of_get? (h .quiet), switch_of_get? (h .clean),
    switch_of_get? (h .autoDeps), switch_of_get? (h .object), switch_of_get? (h .shared),
    switch_of_get? (h .sharedInit), switch_of_get? (h .executable), switch_of_get? (h .removeTemp),
    switch_of_get? (h .copyRuntimeLibs), switch_of_get? (h .release),
    switch_of_get? (h .fullRelease), value_of_get? (h .outputName), value_of_get? (h .sysimage),
    value_of_get? (h .home), value_of_get? (h .cpuTarget), valueOr_of_get? (h .julia),
    valueOr_of_get? (h .cc), value, toName?_ofText, toText?_ofText]
  rfl

/-- Every configuration is made of its own values. -/
theorem ofSettings_settings (configuration : Configuration) :
    ofSettings configuration.settings = .ok configuration :=
  ofSettings_of_values (get?_settings configuration)

/-- Configurations that hold the same values are the same. -/
theorem eq_of_values (h : ∀ setting, changed.value setting = configuration.value setting) :
    changed = configuration := by
  have hvalues : ∀ setting, configuration.settings.get? setting = some (changed.value setting) :=
    fun setting => by rw [get?_settings, h]
  exact Except.ok.inj ((ofSettings_of_values hvalues).symm.trans (ofSettings_settings configuration))

/-! ## Changing settings -/

/-- Makes a configuration anew with other values for some settings. -/
def replace (configuration : Configuration) (changes : Settings) :
    Except ConfigurationFault Configuration :=
  ofSettings (configuration.settings.overlay changes)

/-- What comes of a change holds the changed values, and the old ones elsewhere. -/
theorem replace_eq_ok {changes : Settings} (hdistinct : changes.keys.Nodup)
    (hvalues : ∀ setting, changed.value setting =
      (changes.get? setting).getD (configuration.value setting)) :
    configuration.replace changes = .ok changed := by
  refine ofSettings_of_values fun setting => ?_
  rw [Table.get?_overlay hdistinct, get?_settings, hvalues]
  cases changes.get? setting <;> rfl

end Configuration
end JuliaNative
