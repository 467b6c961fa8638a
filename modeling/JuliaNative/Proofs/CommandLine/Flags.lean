import JuliaNative.Configuration.Profile
import JuliaNative.Proofs.CommandLine.Placement
import JuliaNative.Proofs.Text.ShellWords

set_option autoImplicit false

/-! # Flags on the command line

A value stands attached to its option or behind it, and is read in the same way (`parse_value`). Any
arguments can be passed to the C compiler as one value: each is quoted, and they are joined by spaces
(`parse_quoted_flags`). Flags without quotes are split on the command line and in a configuration file
alike (`flags_alike`). -/

namespace JuliaNative.CommandLine

variable {name value program text : String} {spec : OptionSpec} {target : Target} {reading : Reading}
  {arguments given : Arguments}

/-! ## Options with a value -/

theorem Cluster.of_attached (htakes : spec.effect.takesValue = true) (name value : String) :
    Cluster.of spec name (some value) = .ok ⟨[], spec, some value⟩ := by
  have hvalue := String.ofList_toList (s := value)
  unfold Cluster.of
  dsimp only
  cases hcs : value.toList with
  | nil =>
      rw [hcs] at hvalue
      simp [clusterOf, htakes, ← hvalue]
  | cons c cs =>
      rw [hcs] at hvalue
      simp [clusterOf, htakes, hvalue]

/-- A value is read where it is attached to its option. -/
theorem ReadAs.attached (h : (name, spec) ∈ optionNames) (htakes : spec.effect.takesValue = true)
    (value : String) :
    ReadAs [[name ++ "=" ++ value]] [.option spec name (some value)]
      fun arguments => applyValue arguments spec value := by
  refine .single (classify_assignment h value) (.applyValue (mem_options_of_mem_optionNames h) value) ?_
  intro progress rest
  have hact : Cluster.act ⟨[], spec, some value⟩ (some value) progress.arguments =
      applyValue progress.arguments spec value := rfl
  simp only [readTokens, Cluster.of_attached htakes, Progress.apply_eq, hact]
  cases applyValue progress.arguments spec value <;> simp [Except.map, bind, Except.bind]

/-- A value that does not look like an option is read as well where it stands behind its option. -/
theorem ReadAs.behind (h : (name, spec) ∈ optionNames) (htakes : spec.effect.takesValue = true)
    (hvalue : classify value = .ok (.plain value)) :
    ReadAs [[name, value]] [.option spec name none, .plain value]
      fun arguments => applyValue arguments spec value where
  understood rest := by
    show classifyAll (name :: value :: rest) = _
    rw [classifyAll_cons (classify_name h), classifyAll_cons hvalue]
    cases classifyAll rest <;> rfl
  minds := .applyValue (mem_options_of_mem_optionNames h) value
  run progress rest := by
    show readTokens progress (.option spec name none :: .plain value :: rest) = _
    have hact : Cluster.act ⟨[], spec, none⟩ (some value) progress.arguments =
        applyValue progress.arguments spec value := rfl
    simp only [readTokens, Cluster.of, htakes, and_self, if_true, Progress.apply_eq, hact]
    cases applyValue progress.arguments spec value <;> rfl

/-- Behind the program an option gives its value, whether this is attached to it or stands behind it. -/
theorem parse_value (hprogram : beginsWith program "-" = false) (h : (name, spec) ∈ optionNames)
    (heffect : spec.effect = .store target reading) (hmark : value ≠ "--") {read : Value}
    (hread : reading.read spec value = .ok read) :
    parse [program, name ++ "=" ++ value] = .ok ((giveProgram program []).put target read) ∧
      (beginsWith value "-" = false →
        parse [program, name, value] = .ok ((giveProgram program []).put target read)) := by
  have htakes : spec.effect.takesValue = true := by rw [heffect]; rfl
  have hgives : applyValue (giveProgram program []) spec value =
      .ok ((giveProgram program []).put target read) := by
    simp [applyValue, heffect, hmark, hread]
  refine ⟨(parse_program hprogram .nil (.attached h htakes value)).trans hgives, fun hvalue => ?_⟩
  exact (parse_program hprogram .nil (.behind h htakes (classify_of_beginsWith hvalue))).trans hgives

/-! ## Flags -/

/-- The option for flags of the C compiler keeps its value as it is. -/
theorem parse_flags (hprogram : beginsWith program "-" = false) (hmark : text ≠ "--") :
    let given := (giveProgram program []).put (.setting .ccFlags) (.text text)
    parse [program, "--cc-flags=" ++ text] = .ok given ∧
      (beginsWith text "-" = false → parse [program, "--cc-flags", text] = .ok given) := by
  obtain ⟨⟨_, spec⟩, hspec, rfl, heffect⟩ : ∃ entry ∈ optionNames, entry.1 = "--cc-flags" ∧
      entry.2.effect = .store (.setting .ccFlags) (.text "CC_FLAGS") := by
    decide
  exact parse_value hprogram hspec heffect hmark rfl

theorem setting_flags (hgiven : arguments.get? (.setting .ccFlags) = some (.text text)) :
    arguments.setting .ccFlags = .ok (.words (flagsOfText text)) := by
  simp [Arguments.setting, Arguments.value, hgiven]

theorem setting_put_flags (program text : String) :
    Arguments.setting ((giveProgram program []).put (.setting .ccFlags) (.text text)) .ccFlags =
      .ok (.words (flagsOfText text)) :=
  setting_flags (by rw [Table.get?_put, if_pos rfl])

theorem beginsWith_shellJoin (words : List String) : beginsWith (Text.shellJoin words) "-" = false := by
  cases words with
  | nil => decide
  | cons word rest =>
      obtain ⟨cs, hquote⟩ := Text.exists_toList_shellJoin word rest
      rw [beginsWith, hquote]
      rfl

/-- Any arguments can be passed to the C compiler: where each is quoted and they are joined by spaces, the
    quotes are closed and the words are these arguments, also by way of the command line. -/
theorem parse_quoted_flags (hprogram : beginsWith program "-" = false) (flags : List String) :
    let text := Text.shellJoin flags
    Text.shellWords? text = some flags ∧ flagsOfText text = flags ∧
      ∀ line ∈ [[program, "--cc-flags", text], [program, "--cc-flags=" ++ text]],
        ∃ given, parse line = .ok given ∧ given.setting .ccFlags = .ok (.words flags) := by
  intro text
  have hwords : Text.shellWords? text = some flags := Text.shellWords?_shellJoin flags
  have hflags : flagsOfText text = flags := by rw [flagsOfText, hwords, Option.getD_some]
  have hhyphen : beginsWith text "-" = false := beginsWith_shellJoin flags
  have hmark : text ≠ "--" := by
    intro hmark
    rw [hmark] at hhyphen
    revert hhyphen
    decide
  obtain ⟨hattached, hbehind⟩ := parse_flags hprogram hmark
  have hsetting := setting_put_flags program text
  rw [hflags] at hsetting
  simp only [List.forall_mem_cons]
  exact ⟨hwords, hflags, ⟨_, hbehind hhyphen, hsetting⟩, ⟨_, hattached, hsetting⟩, List.forall_mem_nil _⟩

/-- Quotes, backslashes, blanks, dollar signs and hashes pass, and so do empty arguments. -/
theorem parse_quoted_flags_special :
    let flags := ["", "-DA=\"b\\'$HOME'\"", "# \t\n", "--"]
    ∃ given, parse ["app.jl", "--cc-flags", Text.shellJoin flags] = .ok given ∧
      given.setting .ccFlags = .ok (.words flags) := by
  intro flags
  have hprogram : beginsWith "app.jl" "-" = false := by decide
  exact (parse_quoted_flags hprogram flags).2.2 _ (by simp)

/-- Flags without quotes and backslashes, whose blanks are all blanks of a shell, are split on the command
    line as in a configuration file: into the words between blanks. -/
theorem flags_alike (hunquoted : Text.Unquoted text.toList)
    (hgiven : arguments.get? (.setting .ccFlags) = some (.text text)) :
    arguments.setting .ccFlags = .ok (.words (Text.words text)) ∧
      Setting.ccFlags.read (some text) = .ok (.words (Text.words text)) := by
  constructor
  · rw [setting_flags hgiven, flagsOfText, Text.shellWords?_of_unquoted hunquoted, Option.getD_some]
  · rw [← Text.words_strip text]
    rfl

/-- Neither hashes nor dollar signs are special, wherever they stand. -/
theorem flags_alike_special :
    let text := " \t#-DA=$X  -O2\r\n\n-g# "
    ∃ given, parse ["app.jl", "--cc-flags=" ++ text] = .ok given ∧
      given.setting .ccFlags = .ok (.words ["#-DA=$X", "-O2", "-g#"]) ∧
      Setting.ccFlags.read (some text) = .ok (.words ["#-DA=$X", "-O2", "-g#"]) := by
  intro text
  have hprogram : beginsWith "app.jl" "-" = false := by decide
  have hmark : text ≠ "--" := by decide
  have hunquoted : Text.Unquoted text.toList := by decide
  let given : Arguments := (giveProgram "app.jl" []).put (.setting .ccFlags) (.text text)
  have hgiven : given.get? (.setting .ccFlags) = some (.text text) := by rw [Table.get?_put, if_pos rfl]
  have hwords : Text.words text = ["#-DA=$X", "-O2", "-g#"] := by decide
  have halike := flags_alike hunquoted hgiven
  rw [hwords] at halike
  exact ⟨given, (parse_flags hprogram hmark).1, halike⟩

end JuliaNative.CommandLine
