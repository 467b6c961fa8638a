import JuliaNative.Configuration.Basic
import JuliaNative.Proofs.Configuration.Profiles
import JuliaNative.Proofs.Ini.Writing

set_option autoImplicit false

/-! # Settings that are written and read back

Settings are written as a file with a base section and a profile: switches by words, numbers by their
digits, lists with spaces between their elements, texts as they are. Reading the file gives the same
settings, and for the profile its settings over those of the base section (`settings_of_written`). -/

namespace JuliaNative

/-! ## Texts for values -/

/-- The text for a value. A value that is not read from configuration files has none. -/
def Value.written : Value → String
  | .flag value => if value then "yes" else "no"
  | .integer value => toString value
  | .list items => " ".intercalate (items.map Item.toText)
  | .text value => value
  | _ => ""

/-- The values of a kind that can be written: numbers that are not too long, lists of words, and texts
    of one line without blanks at its ends. -/
inductive Setting.Kind.Writable : Setting.Kind → Value → Prop
  | flag (value : Bool) : Writable .flag (.flag value)
  | level (value : Int) (hdigits : value.natAbs < 10 ^ Text.maximalDigits) :
    Writable .level (.integer value)
  | words (texts : List String) (hwords : ∀ text ∈ texts, Text.IsWord text) :
    Writable .words (.words texts)
  | text (value : String) (hne : value ≠ "") (hline : Text.IsLine value)
    (hunpadded : Text.Unpadded value.toList) : Writable .text (.text value)

theorem written_words (texts : List String) : (Value.words texts).written = " ".intercalate texts := by
  rw [Value.words, Value.written, List.map_map]
  exact congrArg _ (List.map_id _)

namespace Setting

variable {kind : Kind} {value : Value}

theorem Kind.Writable.isOptionValue (h : kind.Writable value) : Ini.IsOptionValue value.written := by
  cases h with
  | flag value => cases value <;> exact ⟨⟨by decide, by decide⟩, .of_ends rfl⟩
  | level value hdigits => exact ⟨Text.isLine_toString value, Text.unpadded_toString value⟩
  | words texts hwords =>
      rw [written_words]
      exact ⟨Text.isLine_intercalate hwords, Text.unpadded_intercalate hwords⟩
  | text value hne hline hunpadded => exact ⟨hline, hunpadded⟩

/-- A written value is read back. -/
theorem read_written {setting : Setting} (h : setting.kind.Writable value) :
    setting.read (some value.written) = .ok value := by
  have hstrip := Text.strip_of_unpadded h.isOptionValue.unpadded
  unfold Setting.read
  rw [Option.getD_some, hstrip]
  generalize setting.kind = kind at h ⊢
  cases h with
  | flag value =>
      have hne : (Value.flag value).written ≠ "" := by cases value <;> decide
      have hword : truthWords.lookup (Text.lower (Value.flag value).written) = some value := by
        cases value <;> decide +kernel
      simp only [if_neg hne, hword]
  | level value hdigits => simp only [Value.written, Text.integer?_toString hdigits]
  | words texts hwords => simp only [written_words, Text.words_intercalate hwords]
  | text value hne hline hunpadded => exact congrArg Except.ok (if_neg hne)

theorem isOptionName_of_mem_table : ∀ entry ∈ table, Ini.IsOptionName entry.2 := by
  have hletters : ∀ entry ∈ table, entry.2 ≠ "" ∧
      entry.2.toList.all (fun c => ('a' ≤ c ∧ c ≤ 'z') ∨ c = '_') = true := by
    decide +kernel
  exact fun entry hentry =>
    ⟨(hletters entry hentry).1, by simpa using (hletters entry hentry).2⟩

theorem isOptionName_name (setting : Setting) : Ini.IsOptionName setting.name := by
  obtain ⟨entry, hfind, -⟩ := Option.map_eq_some_iff.1 (named?_name setting)
  have hname : entry.2 = setting.name := by simpa using List.find?_some hfind
  exact hname ▸ isOptionName_of_mem_table entry (List.mem_of_find?_eq_some hfind)

end Setting

/-! ## Files -/

/-- Settings that can be written: each setting once, with a value of its kind. -/
structure Settings.Writable (settings : Settings) : Prop where
  distinct : settings.keys.Nodup
  kinds : ∀ entry ∈ settings, entry.1.kind.Writable entry.2

/-- The texts of settings. -/
def Settings.texts (settings : Settings) : Table String String :=
  settings.map fun entry => (entry.1.name, entry.2.written)

/-- The sections of a file with settings in the base section and in a profile. -/
def writtenSections (base : Settings) (name : String) (own : Settings) :
    Table String (Table String String) :=
  [(baseSection, base.texts), (profilePrefix ++ name, own.texts)]

namespace ConfigFile

variable {base own settings : Settings} {name : String}

theorem keys_texts (settings : Settings) : settings.texts.keys = settings.keys.map Setting.name := by
  simp [Settings.texts, Table.keys, Function.comp_def]

theorem nodup_keys_texts (h : settings.Writable) : settings.texts.keys.Nodup := by
  rw [keys_texts]
  exact h.distinct.map Setting.name_injective

theorem options_texts (h : settings.Writable) :
    ∀ option ∈ settings.texts, Ini.IsOptionName option.1 ∧ Ini.IsOptionValue option.2 := by
  intro option hoption
  obtain ⟨entry, hentry, rfl⟩ := List.mem_map.1 hoption
  exact ⟨Setting.isOptionName_name entry.1, (h.kinds entry hentry).isOptionValue⟩

theorem map_texts (settings : Settings) :
    (settings.texts.map fun entry => (entry.1, some entry.2)) =
      settings.map fun entry => (entry.1.name, some entry.2.written) := by
  rw [Settings.texts, List.map_map]
  rfl

/-- The texts of settings are read back as these settings. -/
theorem reads_texts (h : ∀ entry ∈ settings, entry.1.kind.Writable entry.2) :
    List.Forall₂ Reads (settings.texts.map fun entry => (entry.1, some entry.2)) settings := by
  rw [map_texts, List.forall₂_map_left_iff, List.forall₂_same]
  exact fun entry hentry => ⟨Setting.named?_name entry.1, Setting.read_written (h entry hentry)⟩

/-- A section that was written has the texts that were written. -/
theorem sectionTexts_written {sections : Table String (Table String String)}
    {options : Table String String} {sectionName : String}
    (hsection : sections.get? sectionName = some options) (hdistinct : options.keys.Nodup)
    (hoptions : ∀ option ∈ options, Ini.IsOptionName option.1 ∧ Ini.IsOptionValue option.2)
    (path : Path) :
    (⟨path, Ini.writtenDocument sections⟩ : ConfigFile).sectionTexts sectionName =
      .ok (options.map fun entry => (entry.1, some entry.2)) := by
  rw [sectionTexts_eq_ok, Table.Lists]
  dsimp only
  rw [Ini.Document.optionNames_writtenDocument hsection, Table.keys, List.forall₂_map_left_iff,
    List.forall₂_map_right_iff, List.forall₂_same]
  exact fun option hoption =>
    ⟨rfl, Ini.Document.resolved_writtenDocument hsection hdistinct (hoptions option hoption).1 hoption⟩

/-! ## Reading them back -/

theorem head?_profileSection (name : String) : (profilePrefix ++ name).toList.head? = some 'p' := by
  simp [profilePrefix]

theorem profileSection_ne_of_head? {other : String} (h : other.toList.head? ≠ some 'p') :
    profilePrefix ++ name ≠ other := by
  rintro rfl
  exact h (head?_profileSection name)

theorem isSection_writtenSections (hbase : base.Writable) (hown : own.Writable)
    (hline : Text.IsLine name) : ∀ entry ∈ writtenSections base name own, Ini.IsSection entry := by
  have hbaseName : Ini.IsHeaderName baseSection :=
    ⟨by decide, ⟨by decide, by decide⟩, by decide⟩
  have hprofileName : Ini.IsHeaderName (profilePrefix ++ name) := by
    refine ⟨profileSection_ne_of_head? (by decide), ?_, profileSection_ne_of_head? (by decide)⟩
    obtain ⟨hfeed, hreturn⟩ := hline
    constructor
    · rw [String.toList_append, List.mem_append]
      exact not_or.2 ⟨by decide, hfeed⟩
    · rw [String.toList_append, List.mem_append]
      exact not_or.2 ⟨by decide, hreturn⟩
  refine List.forall_mem_cons.2 ⟨?_, List.forall_mem_cons.2 ⟨?_, List.forall_mem_nil _⟩⟩
  · exact ⟨hbaseName, nodup_keys_texts hbase, options_texts hbase⟩
  · exact ⟨hprofileName, nodup_keys_texts hown, options_texts hown⟩

theorem nodup_writtenSections : (writtenSections base name own).keys.Nodup := by
  have hne : baseSection ≠ profilePrefix ++ name :=
    (profileSection_ne_of_head? (by decide)).symm
  simpa [writtenSections, Table.keys] using hne

/-- Settings that were written are read back: those of the base section as they are, and for the profile
    those of the profile over them. -/
theorem settings_of_written (hbase : base.Writable) (hown : own.Writable) (hname : name ≠ "")
    (hline : Text.IsLine name) (path : Path) :
    ∃ file, ConfigFile.ofBytes path
        (Ini.writtenText (writtenSections base name own)).toUTF8 = .ok file ∧
      file.settings none = .ok base ∧ file.settings (some name) = .ok (base.overlay own) := by
  have hsections := isSection_writtenSections hbase hown hline
  have hholds : Holds (Ini.writtenText (writtenSections base name own)).toUTF8
      (Ini.writtenDocument (writtenSections base name own)) :=
    ⟨_, Ini.fileLines_writtenText hsections, Ini.ofLines_writtenText hsections nodup_writtenSections⟩
  have hbaseSection : Table.get? baseSection (writtenSections base name own) = some base.texts := rfl
  have hownSection : Table.get? (profilePrefix ++ name) (writtenSections base name own) =
      some own.texts := by
    have hne : baseSection ≠ profilePrefix ++ name :=
      (profileSection_ne_of_head? (by decide)).symm
    simp [writtenSections, Table.get?, hne]
  have hbaseTexts : (⟨path, Ini.writtenDocument (writtenSections base name own)⟩ : ConfigFile).baseTexts
      = .ok (base.texts.map fun entry => (entry.1, some entry.2)) := by
    rw [baseTexts, if_pos (Ini.Document.hasSection_writtenDocument hbaseSection)]
    exact sectionTexts_written hbaseSection (nodup_keys_texts hbase) (options_texts hbase) path
  have hownTexts := sectionTexts_written hownSection (nodup_keys_texts hown) (options_texts hown) path
  refine ⟨_, ofBytes_eq_ok.2 ⟨_, hholds, rfl⟩, settings_eq_ok.2 ⟨_, ?_, reads_texts hbase.kinds⟩,
    settings_eq_ok.2 ⟨_, ?_, reads_texts fun entry hentry => ?_⟩⟩
  · rw [texts_none, hbaseTexts]
  · refine (texts_profile_eq_ok hname).2 ⟨Ini.Document.hasSection_writtenDocument hownSection, _, _,
      hbaseTexts, hownTexts, ?_⟩
    rw [map_texts, map_texts, map_texts]
    exact Table.map_overlay (fun value : Value => some value.written) Setting.name_injective
  · exact (Table.mem_overlay hentry).elim (hbase.kinds entry) (hown.kinds entry)

/-- Flags with a dollar sign and a list of files without elements, and a profile that overrides the
    level and names its build directory with brackets and marks of comments. -/
theorem settings_of_written_flags :
    let base : Settings :=
      [ (.ccFlags, .words ["-Wl,-rpath,$ORIGIN/lib", "-DX=#1"]), (.copyFiles, .words []),
        (.optimize, .integer 2) ]
    let own : Settings :=
      [(.optimize, .integer (-3)), (.buildDir, .text "out = [a]: ;b"), (.clean, .flag false)]
    ∃ file, ConfigFile.ofBytes (Path.ofString configFileName)
        (Ini.writtenText (writtenSections base "fast [2]" own)).toUTF8 = .ok file ∧
      file.settings none = .ok base ∧
        file.settings (some "fast [2]") = .ok
          [ (.ccFlags, .words ["-Wl,-rpath,$ORIGIN/lib", "-DX=#1"]), (.copyFiles, .words []),
            (.optimize, .integer (-3)), (.buildDir, .text "out = [a]: ;b"), (.clean, .flag false) ] := by
  intro base own
  have hbase : base.Writable := by
    refine ⟨by decide, List.forall_mem_cons.2 ⟨.words _ ?_, List.forall_mem_cons.2 ⟨.words [] ?_,
      List.forall_mem_cons.2 ⟨.level 2 (by decide +kernel), List.forall_mem_nil _⟩⟩⟩⟩
    · exact List.forall_mem_cons.2 ⟨.of_all (by decide) rfl,
        List.forall_mem_cons.2 ⟨.of_all (by decide) rfl, List.forall_mem_nil _⟩⟩
    · exact List.forall_mem_nil _
  have hown : own.Writable := by
    refine ⟨by decide, List.forall_mem_cons.2 ⟨.level (-3) (by decide +kernel),
      List.forall_mem_cons.2 ⟨.text _ (by decide) ⟨by decide, by decide⟩ (.of_ends rfl),
        List.forall_mem_cons.2 ⟨.flag false, List.forall_mem_nil _⟩⟩⟩⟩
  exact settings_of_written hbase hown (by decide) ⟨by decide, by decide⟩ _

end ConfigFile
end JuliaNative
