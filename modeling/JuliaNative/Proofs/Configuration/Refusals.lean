import JuliaNative.Proofs.Configuration.Source
import JuliaNative.Proofs.Outputs

set_option autoImplicit false

/-! # What a configuration file gives

Whatever bytes a file holds, it gives settings whose values are of the kinds of their settings
(`admits_of_settings`), or it is refused with a message, or reading it crashes. It crashes in three ways
only (`Escapes`): its bytes are no text, a line goes on with the value of an option that has none, or
an option comes to an option without a value through references. No other step of the reading fails
without a message (`settingsOf_eq_crash`). -/

namespace JuliaNative

/-! ## Kinds of values -/

/-- The values that a setting of a kind can have in a configuration file. -/
inductive Setting.Kind.Admits : Setting.Kind → Value → Prop
  | flag (value : Bool) : Admits .flag (.flag value)
  | level (value : Int) : Admits .level (.integer value)
  | words (texts : List String) : Admits .words (.words texts)
  | text (value : String) : Admits .text (.text value)
  | absent : Admits .text .absent

/-- What is read for a setting is of its kind. -/
theorem Setting.admits_of_read {setting : Setting} {text : Option String} {value : Value}
    (h : setting.read text = .ok value) : setting.kind.Admits value := by
  unfold Setting.read at h
  dsimp only at h
  generalize setting.kind = kind at h ⊢
  cases kind with
  | flag =>
      dsimp only at h
      split at h
      · cases h
        exact .flag true
      · split at h
        · cases h
          exact .flag _
        · cases h
  | level =>
      dsimp only at h
      split at h
      · cases h
        exact .level _
      · cases h
  | words =>
      cases h
      exact .words _
  | text =>
      cases h
      split
      · exact .absent
      · exact .text _

namespace ConfigFile

variable {file : ConfigFile} {path : Path} {bytes : ByteArray} {document : Ini.Document}
  {sectionName option : String} {profile : Option String} {settings : Settings} {cause : Crash}

/-- Every value of a setting is of the setting's kind. -/
theorem admits_of_settings (h : file.settings profile = .ok settings) {setting : Setting}
    {value : Value} (hvalue : settings.get? setting = some value) : setting.kind.Admits value := by
  obtain ⟨texts, -, hreads⟩ := settings_eq_ok.1 h
  obtain ⟨text, -, hread⟩ := exists_text_of_value hreads hvalue
  exact Setting.admits_of_read hread

/-! ## Crashes in a section -/

section Listed

variable {options : Ini.Options}

theorem optionText_eq_crash (hnamed : file.document.WellNamed)
    (hwritten : file.document.written? sectionName = some options)
    (hoption : option ∈ file.document.optionNames sectionName) :
    file.optionText sectionName option = .error (.crash cause) ↔
      cause = .valueReferenced ∧ file.document.OptionComesToNothing sectionName option := by
  rw [← Ini.Document.resolved_eq_withoutValue hnamed hwritten hoption, optionText]
  have hfound := Ini.Document.resolved_ne_unwritten hnamed hwritten hoption
  cases hresolved : file.document.resolved sectionName option with
  | ok value => simp
  | error fault =>
      cases fault with
      | unwritten name => exact absurd hresolved (hfound name)
      | withoutValue => simp [eq_comm]
      | _ => simp

/-- Reading a section crashes exactly if one of its options comes to an option without a value. -/
theorem sectionTexts_eq_crash (hnamed : file.document.WellNamed)
    (hwritten : file.document.written? sectionName = some options) :
    file.sectionTexts sectionName = .error (.crash cause) ↔
      cause = .valueReferenced ∧ file.document.SectionComesToNothing sectionName := by
  rw [sectionTexts, Checked.mapM_eq_error, Ini.Document.SectionComesToNothing]
  have hresolved : ∀ option, (∃ entry, file.optionText sectionName option = .ok entry) ↔
      ∃ value, file.document.resolved sectionName option = .ok value := by
    simp [optionText_eq_ok]
  simp only [hresolved]
  constructor
  · rintro ⟨earlier, option, later, hsplit, hearlier, hcrash⟩
    rw [optionText_eq_crash hnamed hwritten (by simp [hsplit])] at hcrash
    exact ⟨hcrash.1, earlier, option, later, hsplit, hearlier, hcrash.2⟩
  · rintro ⟨hcause, earlier, option, later, hsplit, hearlier, hnothing⟩
    refine ⟨earlier, option, later, hsplit, hearlier, ?_⟩
    exact (optionText_eq_crash hnamed hwritten (by simp [hsplit])).2 ⟨hcause, hnothing⟩

end Listed

/-- Every option of a section has a value, or none, once its references are resolved. -/
def Resolves (document : Ini.Document) (sectionName : String) : Prop :=
  ∀ option ∈ document.optionNames sectionName, ∃ value,
    document.resolved sectionName option = .ok value

theorem exists_baseTexts :
    (∃ texts, file.baseTexts = .ok texts) ↔
      (file.document.hasSection baseSection = true → Resolves file.document baseSection) := by
  unfold baseTexts
  split
  · next hsection =>
      rw [sectionTexts, Checked.exists_mapM_eq_ok]
      simp [optionText_eq_ok, hsection, Resolves]
  · next hsection => exact iff_of_true ⟨_, rfl⟩ fun h => absurd h hsection

theorem baseTexts_eq_crash (hnamed : file.document.WellNamed) :
    file.baseTexts = .error (.crash cause) ↔
      cause = .valueReferenced ∧ file.document.hasSection baseSection = true ∧
        file.document.SectionComesToNothing baseSection := by
  unfold baseTexts
  split
  · next hsection =>
      obtain ⟨options, hwritten⟩ := Ini.Document.exists_written?_of_hasSection hsection
      rw [sectionTexts_eq_crash hnamed hwritten]
      simp [hsection]
  · next hsection => simp [hsection]

theorem texts_eq_crash (hnamed : file.document.WellNamed) :
    file.texts profile = .error (.crash cause) ↔
      file.baseTexts = .error (.crash cause) ∨
        (∃ base, file.baseTexts = .ok base) ∧ ∃ name, profile = some name ∧ name ≠ "" ∧
          cause = .valueReferenced ∧ file.document.hasSection (profilePrefix ++ name) = true ∧
            file.document.SectionComesToNothing (profilePrefix ++ name) := by
  cases profile with
  | none => simp [texts_none]
  | some name =>
      by_cases hname : name = ""
      · rw [texts_of_empty_name (show (some name).getD "" = "" from hname)]
        simp [hname]
      simp only [ConfigFile.texts, Option.getD_some, if_neg hname, Checked.bind_eq_error]
      by_cases hsection : file.document.hasSection (profilePrefix ++ name) = true
      · obtain ⟨options, hwritten⟩ := Ini.Document.exists_written?_of_hasSection hsection
        simp only [if_pos hsection, Checked.bind_eq_error, sectionTexts_eq_crash hnamed hwritten,
          Checked.pure_ne_error, and_false, exists_false, or_false]
        simp [hsection, hname]
      · simp [hsection]

theorem readEntry_ne_crash (entry : Setting × Option String) :
    readEntry entry ≠ .error (.crash cause) := by
  unfold readEntry
  split <;> simp

/-- Reading texts never crashes. -/
theorem settings_eq_crash :
    file.settings profile = .error (.crash cause) ↔ file.texts profile = .error (.crash cause) := by
  simp only [ConfigFile.settings, Checked.bind_eq_error, or_iff_left_iff_imp]
  rintro ⟨texts, -, h⟩
  split at h
  · simp [Checked.bind_eq_error] at h
  · obtain ⟨_, entry, _, _, _, hentry⟩ := Checked.mapM_eq_error.1 h
    exact absurd hentry (readEntry_ne_crash entry)

/-! ## Crashes of a whole file -/

/-- What keeps the bytes of a file from giving settings for a profile without there being a message. -/
inductive Escapes (bytes : ByteArray) (profile : Option String) : Crash → Prop
  /-- The bytes are no text, and nothing in the lines in front of the fault is refused. -/
  | undecodable {lines : List (List Char)} {fault : Text.DecodeFault} {reading : Ini.Reading}
    (hbytes : Text.fileLines bytes = (lines, some fault))
    (hlines : Ini.Reading.readLines {} 1 lines = .ok reading) :
    Escapes bytes profile (.undecodable fault)
  /-- A line goes on with the value of an option that has none. -/
  | continued (h : Ini.ContinuesNothing (Text.fileLines bytes).1) :
    Escapes bytes profile .valueContinued
  /-- An option of the base section comes to an option without a value. -/
  | inBase {document : Ini.Document} (hdocument : Holds bytes document)
    (hsection : document.hasSection baseSection = true)
    (h : document.SectionComesToNothing baseSection) :
    Escapes bytes profile .valueReferenced
  /-- An option of the profile comes to an option without a value. -/
  | inProfile {document : Ini.Document} {name : String} (hdocument : Holds bytes document)
    (hbase : document.hasSection baseSection = true → Resolves document baseSection)
    (hprofile : profile = some name) (hname : name ≠ "")
    (hsection : document.hasSection (profilePrefix ++ name) = true)
    (h : document.SectionComesToNothing (profilePrefix ++ name)) :
    Escapes bytes profile .valueReferenced

theorem ofLines_eq_valueContinued {lines : List (List Char)} :
    Ini.Document.ofLines lines = .error .valueContinued ↔ Ini.ContinuesNothing lines := by
  rw [← Ini.readLines_eq_valueContinued, Ini.Document.ofLines]
  cases Ini.Reading.readLines {} 1 lines with
  | error fault => simp
  | ok reading =>
      dsimp only
      split <;> simp

theorem ofBytes_eq_crash :
    ConfigFile.ofBytes path bytes = .error (.crash cause) ↔
      (∃ lines fault reading, Text.fileLines bytes = (lines, some fault) ∧
          Ini.Reading.readLines {} 1 lines = .ok reading ∧ cause = .undecodable fault) ∨
        Ini.ContinuesNothing (Text.fileLines bytes).1 ∧ cause = .valueContinued := by
  unfold ConfigFile.ofBytes
  rcases Text.fileLines bytes with ⟨lines, _ | fault⟩ <;> dsimp only
  · rw [← ofLines_eq_valueContinued]
    cases hdocument : Ini.Document.ofLines lines with
    | ok document => simp
    | error fault => cases fault <;> simp [eq_comm]
  · rw [← Ini.readLines_eq_valueContinued]
    cases hlines : Ini.Reading.readLines {} 1 lines with
    | ok reading => simp [hlines, eq_comm]
    | error fault => cases fault <;> simp [hlines, eq_comm]

/-- A file gives neither settings nor a message exactly if one of its faults has none. -/
theorem settingsOf_eq_crash (path : Path) :
    settingsOf path bytes profile = .error (.crash cause) ↔ Escapes bytes profile cause := by
  rw [settingsOf, Checked.bind_eq_error, ofBytes_eq_crash]
  constructor
  · rintro ((⟨lines, fault, reading, hbytes, hlines, rfl⟩ | ⟨h, rfl⟩) | ⟨file, hfile, h⟩)
    · exact .undecodable hbytes hlines
    · exact .continued h
    · obtain ⟨document, hdocument, rfl⟩ := ofBytes_eq_ok.1 hfile
      have hnamed := hdocument.wellNamed
      rw [settings_eq_crash, texts_eq_crash hnamed, baseTexts_eq_crash hnamed, exists_baseTexts] at h
      rcases h with ⟨rfl, hsection, hnothing⟩ | ⟨hbase, name, rfl, hname, rfl, hsection, hnothing⟩
      · exact .inBase hdocument hsection hnothing
      · exact .inProfile hdocument hbase rfl hname hsection hnothing
  · intro h
    cases h with
    | undecodable hbytes hlines => exact .inl (.inl ⟨_, _, _, hbytes, hlines, rfl⟩)
    | continued h => exact .inl (.inr ⟨h, rfl⟩)
    | inBase hdocument hsection hnothing =>
        refine .inr ⟨_, ofBytes_eq_ok.2 ⟨_, hdocument, rfl⟩, ?_⟩
        rw [settings_eq_crash, texts_eq_crash hdocument.wellNamed,
          baseTexts_eq_crash hdocument.wellNamed]
        exact .inl ⟨rfl, hsection, hnothing⟩
    | inProfile hdocument hbase hprofile hname hsection hnothing =>
        refine .inr ⟨_, ofBytes_eq_ok.2 ⟨_, hdocument, rfl⟩, ?_⟩
        rw [settings_eq_crash, texts_eq_crash hdocument.wellNamed, exists_baseTexts]
        exact .inr ⟨hbase, _, hprofile, hname, rfl, hsection, hnothing⟩

end ConfigFile

/-! ## Reading settings -/

variable {host : Host} {world : World} {path directory : Path} {profile : Option String}

open JuliaNative.Action

/-- Reading the settings of a configuration file that is there leaves the world as it is. It gives
    values of the kinds of their settings, each setting once, or fails with a message of the file, or
    crashes; and it crashes exactly as the bytes of the file escape. -/
theorem fileSettings_of_bytes (hsees : (host.sees world.files path).isSome = true) :
    Ends host (fileSettings (some path) profile directory) world
        (fun settings after => after = world ∧ settings.keys.Nodup ∧
          ∀ setting value, settings.get? setting = some value → setting.kind.Admits value)
        (fun failure after => after = world ∧
          ((∃ issue, failure = .error (.configFile issue)) ∨ ∃ cause, failure = .crash cause ∧
            ConfigFile.Escapes (host.configBytes world.files path) profile cause)) ∧
      ∀ cause, (fileSettings (some path) profile directory).failure? host world
          = some (.crash cause) ↔
        ConfigFile.Escapes (host.configBytes world.files path) profile cause := by
  simp only [failure?_eq_some_iff_ends, ends_fileSettings_named hsees, ends_ofExcept,
    ← ConfigFile.settingsOf_eq_crash path]
  cases hsettings : ConfigFile.settingsOf path (host.configBytes world.files path) profile with
  | ok settings =>
      obtain ⟨file, hfile, h⟩ := Checked.bind_eq_ok.1 hsettings
      refine ⟨⟨.intro, ?_, fun _ _ => ConfigFile.admits_of_settings h⟩, by simp⟩
      exact ConfigFile.nodup_settings (ConfigFile.wellNamed_of_ofBytes hfile) h
  | error fault => cases fault <;> simp [ConfigFileFault.failure]

/-- A configuration file that is no text has no message. -/
theorem fileSettings_of_stray_byte :
    let host := Host.obedient Host.plainCommand fun _ => ByteArray.empty
    let file : File := ⟨⟨#[0xff]⟩, .at 0⟩
    let world : World :=
      { files := (Host.projectFiles []).insert [configFileName, "work"] (.file file) }
    let path := Path.ofString configFileName
    (host.sees world.files path).isSome = true ∧
      (fileSettings (some path) none host.workingDirectory).failure? host world =
        some (.crash (.undecodable ⟨0, 1, 0xff, .invalidStart⟩)) := by
  intro host file world path
  have hsees : (host.sees world.files path).isSome = true := by decide +kernel
  have hbytes : Text.fileLines (host.configBytes world.files path) =
      ([], some ⟨0, 1, 0xff, .invalidStart⟩) := by decide +kernel
  exact ⟨hsees, (((fileSettings_of_bytes hsees).2 _).2 (.undecodable hbytes rfl))⟩

end JuliaNative
