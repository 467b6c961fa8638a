import JuliaNative.Ini.Document
import JuliaNative.Proofs.Table
import JuliaNative.Proofs.Text.Lowercase

set_option autoImplicit false

/-! # How a configuration file is read

A line does one of five things to a reading: nothing, going on with a value, opening the default
section, opening a new section, or starting an option (`Reading.Step`). So the names of options in a
document are in lower case and stand once in their section (`Document.wellNamed_of_ofLines`), what a
section lists is found in it (`Document.exists_value?_of_mem_optionNames`), and reading breaks down
exactly at a line that goes on with the value of an option without one
(`readLines_eq_valueContinued`). -/

namespace JuliaNative.Ini

/-- Options as they are read: every name is in lower case and stands once. -/
structure WellNamed {ν : Type} (options : Table String ν) : Prop where
  distinct : options.keys.Nodup
  isLower : ∀ name ∈ options.keys, Text.lower name = name

theorem WellNamed.nil {ν : Type} : WellNamed ([] : Table String ν) :=
  ⟨List.nodup_nil, List.forall_mem_nil _⟩

theorem WellNamed.put {ν : Type} {options : Table String ν} (h : WellNamed options) {name : String}
    (hname : Text.lower name = name) (value : ν) : WellNamed (Table.put name value options) where
  distinct := Table.nodup_put h.distinct
  isLower other hother := by
    rcases Table.mem_keys_put.1 hother with rfl | hmem
    · exact hname
    · exact h.isLower other hmem

theorem WellNamed.mapValues {ν μ : Type} {options : Table String ν} (h : WellNamed options)
    (change : ν → μ) :
    WellNamed (options.map fun entry => (entry.1, change entry.2)) where
  distinct := (Table.keys_mapValues change options).symm ▸ h.distinct
  isLower := (Table.keys_mapValues change options).symm ▸ h.isLower

theorem lower_of_classify {line : List Char} {name : String} {value : Option String}
    (h : classify line = .option name value) : Text.lower name = name := by
  unfold classify at h
  dsimp only at h
  split at h
  · cases h
  · split at h
    · cases h
    · split at h
      · cases h
      · cases h
        unfold splitOption
        split <;> exact Text.lower_lower _

namespace Reading

variable {reading next : Reading} {number : Nat} {line : List Char} {lines : List (List Char)}

/-! ## One line -/

/-- What a line does to a reading that it does not end. -/
inductive Step (reading : Reading) : Reading → Prop
  /-- A comment, or a blank line that belongs to no value. -/
  | skipped : Step reading reading
  /-- A blank line, or one that is indented deeper, goes on with the value of an option. -/
  | continued {name option : String} {lines : List String} (added : String)
    (h : reading.continued? = some (name, option, some lines)) :
    Step reading (reading.extend name option lines added)
  /-- The header of the default section. -/
  | openedDefault (indent : Nat) :
    Step reading { reading with indent, current := some defaultSection, option := none }
  /-- The header of a section that was not written before. -/
  | opened (indent : Nat) {name : String} (hname : name ≠ defaultSection)
    (hnew : Table.has name reading.sections = false) :
    Step reading { reading with
      indent
      current := some name
      option := none
      sections := Table.put name [] reading.sections }
  /-- An option that its section does not have yet. -/
  | started (indent : Nat) {sectionName name : String} (value : Option (List String))
    (badLines : List (Nat × String)) (hcurrent : reading.current = some sectionName)
    (hnew : Table.has name (reading.options sectionName) = false)
    (hlower : Text.lower name = name) :
    Step reading
      (putOption { reading with indent, option := some name, badLines } sectionName name value)

theorem step_of_readHeader {name : String} {indent : Nat}
    (h : { reading with indent }.readHeader number name = .ok next) : Step reading next := by
  unfold readHeader at h
  split at h
  · next hdefault =>
      cases h
      exact hdefault ▸ .openedDefault indent
  · next hname =>
      split at h
      · cases h
      · next hnew =>
          cases h
          exact .opened indent hname (by simpa using hnew)

theorem step_of_readOption {name : String} {value : Option String} {indent : Nat}
    (hlower : Text.lower name = name)
    (h : { reading with indent }.readOption number line name value = .ok next) :
    Step reading next := by
  unfold readOption at h
  split at h
  · cases h
  · next sectionName hcurrent =>
      split at h
      · cases h
      · next hnew =>
          cases h
          exact .started indent _ _ hcurrent (Bool.eq_false_iff.2 hnew) hlower

theorem step_of_readContent (hblank : classify line ≠ .blank) (hcomment : classify line ≠ .comment)
    (h : reading.readContent number line = .ok next) : Step reading next := by
  unfold readContent at h
  cases hline : classify line with
  | blank => exact absurd hline hblank
  | comment => exact absurd hline hcomment
  | header name => exact step_of_readHeader (by simpa only [hline] using h)
  | option name value =>
      exact step_of_readOption (lower_of_classify hline) (by simpa only [hline] using h)

theorem step_of_readLine (h : reading.readLine number line = .ok next) : Step reading next := by
  unfold readLine at h
  split at h
  · cases h
    exact .skipped
  · split at h
    · next hcontinued =>
        cases h
        exact .continued _ hcontinued
    · cases h
      exact .skipped
  · next hcomment hblank =>
      split at h
      · next name option value hcontinued =>
          split at h
          · split at h
            · cases h
              exact .continued _ hcontinued
            · cases h
          · exact step_of_readContent hblank hcomment h
      · exact step_of_readContent hblank hcomment h

/-! ## Names -/

/-- A reading in which all options so far are well named. -/
structure WellNamed (reading : Reading) : Prop where
  defaults : Ini.WellNamed reading.defaults
  sections : ∀ name options, reading.sections.get? name = some options → Ini.WellNamed options

theorem WellNamed.options (h : reading.WellNamed) (name : String) :
    Ini.WellNamed (reading.options name) := by
  unfold Reading.options
  split
  · exact h.defaults
  · cases hfound : reading.sections.get? name with
    | none => exact .nil
    | some options => exact h.sections name options hfound

theorem WellNamed.putOption (h : reading.WellNamed) (name : String) {option : String}
    (hoption : Text.lower option = option) (value : Option (List String)) :
    (reading.putOption name option value).WellNamed := by
  have hput := (h.options name).put hoption value
  unfold Reading.putOption
  split
  · exact ⟨hput, h.sections⟩
  · refine ⟨h.defaults, fun other options hother => ?_⟩
    rw [Table.get?_put] at hother
    split at hother
    · cases hother
      exact hput
    · exact h.sections other options hother

theorem mem_keys_of_continued {name option : String} {value : Option (List String)}
    (h : reading.continued? = some (name, option, value)) :
    option ∈ (reading.options name).keys := by
  unfold continued? at h
  split at h
  · next current option' _ _ =>
      split at h
      · cases h
      · obtain ⟨found, hfound, heq⟩ := Option.map_eq_some_iff.1 h
        cases heq
        exact Table.mem_keys_of_get? hfound
  · cases h

/-- A line keeps options well named. -/
theorem WellNamed.step (h : reading.WellNamed) (hstep : Step reading next) : next.WellNamed := by
  cases hstep with
  | skipped => exact h
  | continued added hcontinued =>
      exact h.putOption _ ((h.options _).isLower _ (mem_keys_of_continued hcontinued)) _
  | openedDefault indent => exact ⟨h.defaults, h.sections⟩
  | opened indent hname hnew =>
      refine ⟨h.defaults, fun other options hother => ?_⟩
      rw [Table.get?_put] at hother
      split at hother
      · cases hother
        exact .nil
      · exact h.sections other options hother
  | @started indent _ name value badLines hcurrent hnew hlower =>
      have hnoted : WellNamed { reading with indent, option := some name, badLines } :=
        ⟨h.defaults, h.sections⟩
      exact hnoted.putOption _ hlower _

/-- Reading any lines keeps options well named. -/
theorem WellNamed.readLines (h : reading.WellNamed)
    (hread : reading.readLines number lines = .ok next) : next.WellNamed := by
  induction lines generalizing reading number with
  | nil =>
      cases hread
      exact h
  | cons line rest ih =>
      unfold Reading.readLines at hread
      split at hread
      · next mid hline => exact ih (h.step (step_of_readLine hline)) hread
      · cases hread

/-! ## Lines that go on with no value -/

/-- A line goes on with the value of an option that has none: it holds something, it is indented deeper
    than the option, and the option is a bare name. -/
def ContinuesNothing (reading : Reading) (line : List Char) : Prop :=
  classify line ≠ .blank ∧ classify line ≠ .comment ∧ reading.indent < indentation line ∧
    ∃ name option, reading.continued? = some (name, option, none)

theorem readHeader_ne_valueContinued {name : String} :
    reading.readHeader number name ≠ .error .valueContinued := by
  unfold readHeader
  simp only []
  split
  · simp
  · split <;> simp

theorem readOption_ne_valueContinued {name : String} {value : Option String} :
    reading.readOption number line name value ≠ .error .valueContinued := by
  unfold readOption
  split
  · simp
  · split <;> simp

theorem readContent_ne_valueContinued :
    reading.readContent number line ≠ .error .valueContinued := by
  unfold readContent
  simp only []
  split
  · exact readHeader_ne_valueContinued
  · exact readOption_ne_valueContinued
  · simp

/-- A line that holds something goes on with a value, or else starts something. -/
theorem readLine_of_content (hblank : classify line ≠ .blank) (hcomment : classify line ≠ .comment) :
    reading.readLine number line =
      match reading.continued? with
      | some (name, option, value) =>
        if reading.indent < indentation line then
          match value with
          | some lines => .ok (reading.extend name option lines (String.ofList (Text.trim line)))
          | none => .error .valueContinued
        else reading.readContent number line
      | none => reading.readContent number line := by
  unfold readLine
  cases hline : classify line with
  | blank => exact absurd hline hblank
  | comment => exact absurd hline hcomment
  | header name => rfl
  | option name value => rfl

/-- Reading a line breaks down exactly if the line goes on with no value. -/
theorem readLine_eq_valueContinued :
    reading.readLine number line = .error .valueContinued ↔ reading.ContinuesNothing line := by
  by_cases hblank : classify line = .blank
  · refine iff_of_false ?_ fun h => h.1 hblank
    unfold readLine
    rw [hblank]
    simp only []
    split <;> simp
  by_cases hcomment : classify line = .comment
  · refine iff_of_false ?_ fun h => h.2.1 hcomment
    unfold readLine
    rw [hcomment]
    simp
  rw [readLine_of_content hblank hcomment]
  unfold ContinuesNothing
  cases hcontinued : reading.continued? with
  | none => simp [readContent_ne_valueContinued]
  | some found =>
      obtain ⟨name, option, _ | lines⟩ := found
      · by_cases hdeeper : reading.indent < indentation line
        · simp [hdeeper, hblank, hcomment]
        · simp [hdeeper, readContent_ne_valueContinued]
      · by_cases hdeeper : reading.indent < indentation line
        · simp [hdeeper]
        · simp [hdeeper, readContent_ne_valueContinued]

/-- Reading lines fails at the first line that does, from where the lines before it lead. -/
theorem readLines_eq_error {fault : ReadingFault} :
    reading.readLines number lines = .error fault ↔ ∃ earlier line later mid,
      lines = earlier ++ line :: later ∧ reading.readLines number earlier = .ok mid ∧
        mid.readLine (number + earlier.length) line = .error fault := by
  induction lines generalizing reading number with
  | nil => simp [Reading.readLines]
  | cons first rest ih =>
      cases hfirst : reading.readLine number first with
      | error other =>
          simp only [Reading.readLines, hfirst]
          constructor
          · intro h
            cases h
            exact ⟨[], first, rest, reading, rfl, rfl, hfirst⟩
          · rintro ⟨_ | ⟨_, earlier⟩, line, later, mid, heq, hearlier, hline⟩
            · cases heq
              cases hearlier
              exact hfirst.symm.trans hline
            · cases heq
              simp [Reading.readLines, hfirst] at hearlier
      | ok next =>
          simp only [Reading.readLines, hfirst, ih]
          constructor
          · rintro ⟨earlier, line, later, mid, rfl, hearlier, hline⟩
            refine ⟨first :: earlier, line, later, mid, rfl, ?_, ?_⟩
            · simpa only [Reading.readLines, hfirst] using hearlier
            · simpa [Nat.add_assoc, Nat.add_comm 1] using hline
          · rintro ⟨_ | ⟨_, earlier⟩, line, later, mid, heq, hearlier, hline⟩
            · cases heq
              cases hearlier
              cases hfirst.symm.trans hline
            · cases heq
              refine ⟨earlier, line, later, mid, rfl, ?_, ?_⟩
              · simpa only [Reading.readLines, hfirst] using hearlier
              · simpa [Nat.add_assoc, Nat.add_comm 1] using hline

end Reading

/-- Reading some lines comes to one that goes on with no value. -/
def ContinuesNothing (lines : List (List Char)) : Prop :=
  ∃ earlier line later reading, lines = earlier ++ line :: later ∧
    Reading.readLines {} 1 earlier = .ok reading ∧ reading.ContinuesNothing line

theorem readLines_eq_valueContinued {lines : List (List Char)} :
    Reading.readLines {} 1 lines = .error .valueContinued ↔ ContinuesNothing lines := by
  simp only [Reading.readLines_eq_error, Reading.readLine_eq_valueContinued, ContinuesNothing]

/-! ## The document -/

namespace Document

/-- A document in which all options are well named. -/
structure WellNamed (document : Document) : Prop where
  defaults : Ini.WellNamed document.defaults
  sections : ∀ name options, document.sections.get? name = some options → Ini.WellNamed options

/-- A document that was read is well named. -/
theorem wellNamed_of_ofLines {lines : List (List Char)} {document : Document}
    (h : ofLines lines = .ok document) : document.WellNamed := by
  unfold ofLines at h
  split at h
  · cases h
  · next reading hread =>
      split at h
      · cases h
        have hnamed : reading.WellNamed := by
          refine Reading.WellNamed.readLines ?_ hread
          exact ⟨.nil, nofun⟩
        refine ⟨hnamed.defaults.mapValues _, fun name options hoptions => ?_⟩
        unfold Reading.document at hoptions
        rw [Table.get?_mapValues] at hoptions
        obtain ⟨unjoined, hunjoined, rfl⟩ := Option.map_eq_some_iff.1 hoptions
        exact (hnamed.sections name unjoined hunjoined).mapValues _
      · cases h

variable {document : Document} {sectionName option : String}

theorem WellNamed.written (h : document.WellNamed) {options : Options}
    (hwritten : document.written? sectionName = some options) : Ini.WellNamed options := by
  unfold written? at hwritten
  split at hwritten
  · next found hfound =>
      cases hwritten
      exact h.sections sectionName _ hfound
  · split at hwritten
    · cases hwritten
      exact .nil
    · cases hwritten

/-- Options of a section that is there are written in it or inherited. -/
theorem mem_optionNames {options : Options} (hwritten : document.written? sectionName = some options) :
    option ∈ document.optionNames sectionName ↔
      option ∈ options.keys ∨ option ∈ document.defaults.keys := by
  unfold optionNames
  rw [hwritten, Option.getD_some, List.mem_append, List.mem_filter, decide_eq_true_eq]
  tauto

theorem WellNamed.nodup_optionNames (h : document.WellNamed) :
    (document.optionNames sectionName).Nodup := by
  have hown : Ini.WellNamed ((document.written? sectionName).getD []) := by
    cases hwritten : document.written? sectionName with
    | none => exact .nil
    | some options => exact h.written hwritten
  refine hown.distinct.append (h.defaults.distinct.filter _) ?_
  intro option hmem hinherited
  simp [hmem] at hinherited

theorem WellNamed.isLower_of_mem_optionNames (h : document.WellNamed) {options : Options}
    (hwritten : document.written? sectionName = some options)
    (hoption : option ∈ document.optionNames sectionName) : Text.lower option = option := by
  rcases (mem_optionNames hwritten).1 hoption with hown | hinherited
  · exact (h.written hwritten).isLower _ hown
  · exact h.defaults.isLower _ hinherited

/-- What a section that is there lists as an option has a value or is written without one. -/
theorem exists_value?_of_mem_optionNames {options : Options}
    (hwritten : document.written? sectionName = some options)
    (hoption : option ∈ document.optionNames sectionName) :
    ∃ value, document.value? sectionName option = some value := by
  simp only [value?, hwritten]
  cases hfound : options.get? option with
  | some value => exact ⟨value, rfl⟩
  | none =>
      rcases (mem_optionNames hwritten).1 hoption with hown | hinherited
      · exact absurd hown (Table.get?_eq_none_iff.1 hfound)
      · exact Table.exists_get?_of_mem_keys hinherited

theorem written?_of_get? {options : Options}
    (h : document.sections.get? sectionName = some options) :
    document.written? sectionName = some options := by
  rw [written?, h]

theorem exists_written?_of_hasSection (h : document.hasSection sectionName = true) :
    ∃ options, document.written? sectionName = some options := by
  obtain ⟨options, hoptions⟩ := Option.isSome_iff_exists.1 h
  exact ⟨options, written?_of_get? hoptions⟩

end Document
end JuliaNative.Ini
