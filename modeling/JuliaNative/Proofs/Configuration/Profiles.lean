import JuliaNative.Configuration.Profile
import JuliaNative.Proofs.Ini.Reference

set_option autoImplicit false

/-! # Base section and profiles

The settings that a file gives are the texts of its sections, each read as its setting asks
(`settings_eq_ok`), and the texts of a profile lie over those of the base section
(`texts_profile_eq_ok`). What a section lists includes the options of the default section, in a profile
as in the base section. So a setting that the base section writes and a profile does not is the same
with the profile as without it only if the default section does not write it either
(`settings_of_unwritten`). -/

namespace JuliaNative

namespace Setting

theorem name_of_mem_table : ∀ entry ∈ table, entry.1.name = entry.2 := by
  decide +kernel

/-- A setting is found by its own name only. -/
theorem named?_eq_some_iff {setting : Setting} {name : String} :
    named? name = some setting ↔ setting.name = name := by
  constructor
  · intro h
    obtain ⟨entry, hfind, rfl⟩ := Option.map_eq_some_iff.1 h
    have hname : entry.2 = name := by simpa using List.find?_some hfind
    rw [name_of_mem_table entry (List.mem_of_find?_eq_some hfind), hname]
  · rintro rfl
    exact named?_name setting

theorem name_injective : Function.Injective name := fun first _ h =>
  Option.some_inj.1 ((named?_name first).symm.trans (named?_eq_some_iff.2 h.symm))

end Setting

namespace ConfigFile

variable {file : ConfigFile} {sectionName option name : String} {profile : Option String}
  {texts : Table String (Option String)} {settings : Settings}

/-! ## One section -/

theorem optionText_eq_ok {entry : String × Option String} :
    file.optionText sectionName option = .ok entry ↔
      entry.1 = option ∧ file.document.resolved sectionName option = .ok entry.2 := by
  obtain ⟨other, text⟩ := entry
  unfold optionText
  rcases file.document.resolved sectionName option with fault | value
  · cases fault <;> simp
  · simp [eq_comm]

/-- The texts of a section are its options, each with its resolved value. -/
theorem sectionTexts_eq_ok :
    file.sectionTexts sectionName = .ok texts ↔
      Table.Lists (fun option text => file.document.resolved sectionName option = .ok text)
        (file.document.optionNames sectionName) texts :=
  Table.mapM_eq_ok_iff_lists fun _ _ => optionText_eq_ok

theorem keys_of_sectionTexts (h : file.sectionTexts sectionName = .ok texts) :
    texts.keys = file.document.optionNames sectionName :=
  (sectionTexts_eq_ok.1 h).keys_eq

/-- The text of an option is its resolved value. -/
theorem get?_sectionTexts (h : file.sectionTexts sectionName = .ok texts)
    (hoption : option ∈ file.document.optionNames sectionName) :
    ∃ value, file.document.resolved sectionName option = .ok value ∧
      texts.get? option = some value :=
  (sectionTexts_eq_ok.1 h).exists_get? hoption

/-! ## Base section and profile -/

theorem texts_of_empty_name (hname : profile.getD "" = "") : file.texts profile = file.baseTexts := by
  unfold ConfigFile.texts
  simp only [hname, if_true, bind_pure]

theorem texts_none : file.texts none = file.baseTexts := texts_of_empty_name rfl

theorem texts_profile_eq_ok (hname : name ≠ "") :
    file.texts (some name) = .ok texts ↔
      file.document.hasSection (profilePrefix ++ name) = true ∧ ∃ base own,
        file.baseTexts = .ok base ∧ file.sectionTexts (profilePrefix ++ name) = .ok own ∧
          texts = base.overlay own := by
  simp only [ConfigFile.texts, Option.getD_some, if_neg hname, Checked.bind_eq_ok]
  cases file.document.hasSection (profilePrefix ++ name) with
  | true =>
      simp only [if_true, true_and, Checked.bind_eq_ok, Checked.pure_eq_ok, exists_and_left,
        @eq_comm _ _ texts]
  | false => simp

/-! ## Settings -/

/-- An option with its text gives a setting with its value. -/
def Reads (entry : String × Option String) (result : Setting × Value) : Prop :=
  Setting.named? entry.1 = some result.1 ∧ result.1.read entry.2 = .ok result.2

theorem readEntry_eq_ok {setting : Setting} {text : Option String} {result : Setting × Value} :
    readEntry (setting, text) = .ok result ↔
      setting = result.1 ∧ result.1.read text = .ok result.2 := by
  obtain ⟨other, value⟩ := result
  unfold readEntry
  constructor
  · cases hread : setting.read text with
    | error issue => simp
    | ok found =>
        simp only [Except.ok.injEq, Prod.mk.injEq]
        rintro ⟨rfl, rfl⟩
        exact ⟨rfl, hread⟩
  · rintro ⟨rfl, hread⟩
    simp [hread]

theorem unknownNames_eq_nil_iff :
    unknownNames texts = [] ↔
      ∀ entry ∈ texts, ∃ setting, Setting.named? entry.1 = some setting := by
  simp [unknownNames, Table.keys, Option.ne_none_iff_exists']

/-- Texts that are all of settings are read in turn. -/
theorem mapM_readEntry_eq_ok (hknown : unknownNames texts = []) :
    (knownTexts texts).mapM readEntry = .ok settings ↔ List.Forall₂ Reads texts settings := by
  rw [Checked.mapM_eq_ok]
  rw [unknownNames_eq_nil_iff] at hknown
  induction texts generalizing settings with
  | nil => simp [knownTexts]
  | cons entry rest ih =>
      obtain ⟨⟨setting, hsetting⟩, hrest⟩ := List.forall_mem_cons.1 hknown
      have hcons : knownTexts (entry :: rest) = (setting, entry.2) :: knownTexts rest := by
        simp [knownTexts, hsetting]
      rw [hcons]
      cases settings with
      | nil => simp
      | cons result results =>
          rw [List.forall₂_cons, List.forall₂_cons, ih hrest, readEntry_eq_ok, Reads, hsetting,
            Option.some_inj]

theorem unknownNames_of_reads (h : List.Forall₂ Reads texts settings) : unknownNames texts = [] := by
  rw [unknownNames_eq_nil_iff]
  induction h with
  | nil => simp
  | cons hentry _ ih => exact List.forall_mem_cons.2 ⟨⟨_, hentry.1⟩, ih⟩

/-- The settings of a file are its texts, all of which are options, as they are read. -/
theorem settings_eq_ok :
    file.settings profile = .ok settings ↔
      ∃ texts, file.texts profile = .ok texts ∧ List.Forall₂ Reads texts settings := by
  simp only [ConfigFile.settings, Checked.bind_eq_ok]
  refine exists_congr fun texts => and_congr_right fun _ => ?_
  split
  · next hunknown =>
      exact iff_of_false (by simp [Checked.bind_eq_ok])
        fun hreads => hunknown (unknownNames_of_reads hreads)
  · next hknown => exact mapM_readEntry_eq_ok (not_not.1 hknown)

theorem settings_of_empty_name (hname : profile.getD "" = "") :
    file.settings profile = file.settings none := by
  simp only [ConfigFile.settings, texts_of_empty_name hname, texts_none]

/-- The value of a setting is its text as it is read; a setting without a text has no value. -/
theorem rel_of_reads (h : List.Forall₂ Reads texts settings) (setting : Setting) :
    Option.Rel (fun text value => setting.read text = .ok value) (texts.get? setting.name)
      (settings.get? setting) := by
  induction h with
  | nil => exact .none
  | @cons entry result _ _ hentry _ ih =>
      obtain ⟨hname, hread⟩ := hentry
      rw [Setting.named?_eq_some_iff] at hname
      unfold Table.get?
      by_cases heq : result.1 = setting
      · subst heq
        rw [if_pos hname.symm, if_pos rfl]
        exact .some hread
      · rw [if_neg fun hsame => heq (Setting.name_injective (hname.trans hsame)), if_neg heq]
        exact ih

theorem exists_value_of_text (h : List.Forall₂ Reads texts settings) {setting : Setting}
    {text : Option String} (htext : texts.get? setting.name = some text) :
    ∃ value, setting.read text = .ok value ∧ settings.get? setting = some value := by
  have hrel := rel_of_reads h setting
  rw [htext] at hrel
  generalize settings.get? setting = found at hrel
  cases hrel with
  | some hread => exact ⟨_, hread, rfl⟩

theorem exists_text_of_value (h : List.Forall₂ Reads texts settings) {setting : Setting}
    {value : Value} (hvalue : settings.get? setting = some value) :
    ∃ text, texts.get? setting.name = some text ∧ setting.read text = .ok value := by
  have hrel := rel_of_reads h setting
  rw [hvalue] at hrel
  generalize texts.get? setting.name = found at hrel
  cases hrel with
  | some hread => exact ⟨_, rfl, hread⟩

theorem named_of_reads (h : List.Forall₂ Reads texts settings) (hoption : option ∈ texts.keys) :
    ∃ setting, Setting.named? option = some setting := by
  obtain ⟨entry, hentry, rfl⟩ := List.mem_map.1 hoption
  exact unknownNames_eq_nil_iff.1 (unknownNames_of_reads h) entry hentry

theorem map_name_keys (h : List.Forall₂ Reads texts settings) :
    settings.keys.map Setting.name = texts.keys := by
  induction h with
  | nil => rfl
  | cons hentry _ ih =>
      rw [Table.keys_cons, Table.keys_cons, List.map_cons, ih,
        Setting.named?_eq_some_iff.1 hentry.1]

/-! ## Files that were read -/

/-- The settings that a file of some bytes gives for a profile. -/
def settingsOf (path : Path) (bytes : ByteArray) (profile : Option String) :
    Except ConfigFileFault Settings :=
  ConfigFile.ofBytes path bytes >>= fun file => file.settings profile

/-- Some bytes hold a document. -/
def Holds (bytes : ByteArray) (document : Ini.Document) : Prop :=
  ∃ lines, Text.fileLines bytes = (lines, none) ∧ Ini.Document.ofLines lines = .ok document

theorem ofBytes_eq_ok {path : Path} {bytes : ByteArray} :
    ConfigFile.ofBytes path bytes = .ok file ↔
      ∃ document, Holds bytes document ∧ file = ⟨path, document⟩ := by
  unfold ConfigFile.ofBytes Holds
  rcases Text.fileLines bytes with ⟨lines, _ | fault⟩ <;> dsimp only
  · cases hdocument : Ini.Document.ofLines lines with
    | ok document => simp [hdocument, @eq_comm _ _ file]
    | error fault => cases fault <;> simp [hdocument]
  · cases Ini.Reading.readLines {} 1 lines with
    | ok reading => simp
    | error fault => cases fault <;> simp

theorem Holds.wellNamed {bytes : ByteArray} {document : Ini.Document} (h : Holds bytes document) :
    document.WellNamed := by
  obtain ⟨lines, -, hdocument⟩ := h
  exact Ini.Document.wellNamed_of_ofLines hdocument

theorem wellNamed_of_ofBytes {path : Path} {bytes : ByteArray}
    (h : ConfigFile.ofBytes path bytes = .ok file) : file.document.WellNamed := by
  obtain ⟨document, hholds, rfl⟩ := ofBytes_eq_ok.1 h
  exact hholds.wellNamed

theorem nodup_baseTexts (hnamed : file.document.WellNamed) (h : file.baseTexts = .ok texts) :
    texts.keys.Nodup := by
  unfold baseTexts at h
  split at h
  · exact keys_of_sectionTexts h ▸ hnamed.nodup_optionNames
  · cases h
    exact List.nodup_nil

theorem nodup_texts (hnamed : file.document.WellNamed) (h : file.texts profile = .ok texts) :
    texts.keys.Nodup := by
  by_cases hname : profile.getD "" = ""
  · exact nodup_baseTexts hnamed (texts_of_empty_name hname ▸ h)
  · cases profile with
    | none => exact absurd rfl hname
    | some name =>
        obtain ⟨-, base, own, hbase, -, rfl⟩ := (texts_profile_eq_ok hname).1 h
        exact Table.nodup_overlay (nodup_baseTexts hnamed hbase)

theorem nodup_settings (hnamed : file.document.WellNamed) (h : file.settings profile = .ok settings) :
    settings.keys.Nodup := by
  obtain ⟨texts, htexts, hreads⟩ := settings_eq_ok.1 h
  exact List.Nodup.of_map _ (map_name_keys hreads ▸ nodup_texts hnamed htexts)

/-! ## What a profile inherits -/

variable {options baseOptions : Ini.Options}

/-- What the base section writes has a text. -/
theorem exists_text_of_written (hbase : file.document.sections.get? baseSection = some baseOptions)
    (hwritten : option ∈ baseOptions.keys) (h : file.baseTexts = .ok texts) :
    ∃ text, texts.get? option = some text := by
  have hsection : file.document.hasSection baseSection = true := by
    rw [Ini.Document.hasSection, Table.has, hbase]
    rfl
  rw [baseTexts, if_pos hsection] at h
  have hlisted : option ∈ file.document.optionNames baseSection :=
    (Ini.Document.mem_optionNames (Ini.Document.written?_of_get? hbase)).2 (.inl hwritten)
  obtain ⟨text, -, htext⟩ := get?_sectionTexts h hlisted
  exact ⟨text, htext⟩

/-- Texts of a profile lie over those of the base section. -/
theorem get?_texts_profile (hnamed : file.document.WellNamed) (hname : name ≠ "")
    {base : Table String (Option String)} (hbase : file.baseTexts = .ok base)
    (h : file.texts (some name) = .ok texts) :
    ∃ own, file.sectionTexts (profilePrefix ++ name) = .ok own ∧
      ∀ option, texts.get? option = (own.get? option).or (base.get? option) := by
  obtain ⟨-, base', own, hbase', hown, rfl⟩ := (texts_profile_eq_ok hname).1 h
  cases hbase.symm.trans hbase'
  refine ⟨own, hown, fun option => Table.get?_overlay ?_⟩
  exact keys_of_sectionTexts hown ▸ hnamed.nodup_optionNames

/-- Settings of the base section in a profile that does not write them. They are the same with the
    profile as without it, unless the default section writes them as well: then the profile gives them
    what the default section writes. A profile with an empty name does not count. -/
theorem settings_of_unwritten {path : Path} {bytes : ByteArray} {base own : Settings}
    (hfile : ConfigFile.ofBytes path bytes = .ok file)
    (hprofile : file.document.sections.get? (profilePrefix ++ name) = some options)
    (hunwritten : option ∉ options.keys)
    (hsection : file.document.sections.get? baseSection = some baseOptions)
    (hwritten : option ∈ baseOptions.keys)
    (hbase : file.settings none = .ok base) (hown : file.settings (some name) = .ok own) :
    ∃ setting value, Setting.named? option = some setting ∧ base.get? setting = some value ∧
      if name = "" ∨ option ∉ file.document.defaults.keys then own.get? setting = some value
      else ∃ text inherited,
        file.document.value? (profilePrefix ++ name) option = file.document.defaults.get? option ∧
        file.document.resolved (profilePrefix ++ name) option = .ok text ∧
          setting.read text = .ok inherited ∧ own.get? setting = some inherited := by
  have hnamed := wellNamed_of_ofBytes hfile
  have hlisted := Ini.Document.written?_of_get? hprofile
  obtain ⟨baseTexts, hbaseTexts, hbaseReads⟩ := settings_eq_ok.1 hbase
  rw [texts_none] at hbaseTexts
  obtain ⟨text, htext⟩ := exists_text_of_written hsection hwritten hbaseTexts
  obtain ⟨setting, hsetting⟩ := named_of_reads hbaseReads (Table.mem_keys_of_get? htext)
  obtain rfl := Setting.named?_eq_some_iff.1 hsetting
  obtain ⟨value, hread, hvalue⟩ := exists_value_of_text hbaseReads htext
  refine ⟨setting, value, hsetting, hvalue, ?_⟩
  by_cases hname : name = ""
  · rw [settings_of_empty_name (show (some name).getD "" = "" from hname), hbase] at hown
    cases hown
    rwa [if_pos (.inl hname)]
  obtain ⟨texts, htexts, hreads⟩ := settings_eq_ok.1 hown
  obtain ⟨ownTexts, hownTexts, hover⟩ := get?_texts_profile hnamed hname hbaseTexts htexts
  by_cases hdefault : setting.name ∈ file.document.defaults.keys
  · rw [if_neg (by simp [hname, hdefault])]
    obtain ⟨inheritedText, hresolved, hownText⟩ := get?_sectionTexts hownTexts
      ((Ini.Document.mem_optionNames hlisted).2 (.inr hdefault))
    obtain ⟨inherited, hinherited, hget⟩ := exists_value_of_text hreads
      ((hover setting.name).trans (by rw [hownText, Option.some_or]))
    refine ⟨inheritedText, inherited, ?_, hresolved, hinherited, hget⟩
    simp only [Ini.Document.value?, hlisted, Table.get?_eq_none_iff.2 hunwritten]
  · rw [if_pos (.inr hdefault)]
    have hmissing : ownTexts.get? setting.name = none := by
      rw [Table.get?_eq_none_iff, keys_of_sectionTexts hownTexts,
        Ini.Document.mem_optionNames hlisted]
      exact not_or.2 ⟨hunwritten, hdefault⟩
    obtain ⟨same, hsame, hget⟩ := exists_value_of_text hreads
      ((hover setting.name).trans (by rw [hmissing, Option.none_or, htext]))
    cases hread.symm.trans hsame
    exact hget

/-- The default section, the base section and a profile, of which the first two write the compiler. -/
def compilerOfDefaults : ConfigFile where
  path := Path.ofString configFileName
  document :=
    { defaults := [("cc", some "clang")]
      sections := [("jlbuild", [("cc", some "gcc")]), ("profile:dev", [])] }

/-- A profile that writes nothing has the compiler of the default section in place of that of the base
    section. -/
theorem settings_of_unwritten_compiler :
    ConfigFile.ofBytes (Path.ofString configFileName)
        "[DEFAULT]\ncc = clang\n[jlbuild]\ncc = gcc\n[profile:dev]\n".toUTF8
          = .ok compilerOfDefaults ∧
      ∃ base own, compilerOfDefaults.settings none = .ok base ∧
        compilerOfDefaults.settings (some "dev") = .ok own ∧
          base.get? .cc = some (.text "gcc") ∧ own.get? .cc = some (.text "clang") := by
  have hfile : ConfigFile.ofBytes (Path.ofString configFileName)
      "[DEFAULT]\ncc = clang\n[jlbuild]\ncc = gcc\n[profile:dev]\n".toUTF8
        = .ok compilerOfDefaults := by
    simp only [ConfigFile.ofBytes, Text.fileLines_toUTF8]
    decide +kernel
  have hbase : compilerOfDefaults.settings none = .ok [(.cc, .text "gcc")] := by decide +kernel
  have hown : compilerOfDefaults.settings (some "dev") = .ok [(.cc, .text "clang")] := by
    decide +kernel
  obtain ⟨setting, value, hsetting, hvalue, hinherited⟩ :=
    settings_of_unwritten hfile rfl (show "cc" ∉ Table.keys [] by decide) rfl
      (show "cc" ∈ Table.keys [("cc", some "gcc")] by decide) hbase hown
  cases hsetting.symm.trans (Setting.named?_name .cc)
  rw [if_neg (by decide)] at hinherited
  obtain ⟨text, inherited, -, hresolved, hread, hvalue'⟩ := hinherited
  cases hresolved.symm.trans (show _ = .ok (some "clang") by decide +kernel)
  cases hread.symm.trans (show _ = .ok (.text "clang") by decide +kernel)
  exact ⟨hfile, _, _, hbase, hown, rfl, hvalue'⟩

end ConfigFile
end JuliaNative
