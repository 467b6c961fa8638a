import JuliaNative.Proofs.Build.Order
import JuliaNative.Proofs.Configuration.Expansion
import JuliaNative.Proofs.Configuration.Gathering
import JuliaNative.Proofs.Configuration.Refusals

set_option autoImplicit false

/-! # Options that are left empty

An option of a configuration file that has no text, or only blanks for its text, stands for a setting
that is absent (`leavesEmpty_iff`). An absent setting is left open by the configuration, as if nothing
had mentioned it, but the two commands have defaults that absence does not bring back: julia or the C
compiler is then no program at all, and a build that needs it ends in its checks
(`gather_of_empty_options`). -/

namespace JuliaNative

open JuliaNative.Action

/-- The configuration file leaves an option empty: what counts for a profile is no text, or blanks
    only. -/
def Host.LeavesEmpty (host : Host) (files : FileSystem) (named : Option Path)
    (profile : Option String) (directory : Path) (setting : Setting) : Prop :=
  ∃ path file texts text, host.ReadsConfig files named directory path ∧
    ConfigFile.ofBytes path (host.configBytes files path) = .ok file ∧
    file.texts profile = .ok texts ∧ texts.get? setting.name = some text ∧
    Text.strip (text.getD "") = ""

variable {host : Host} {world after : World} {setting tool : Setting} {settings : Settings}
  {configuration : Configuration}

/-! ## The settings of the file -/

theorem Setting.read_text {text : Option String} (hkind : setting.kind = .text) :
    setting.read text = .ok (if Text.strip (text.getD "") = "" then .absent
      else .text (Text.strip (text.getD ""))) := by
  unfold Setting.read
  rw [hkind]

section File

variable {named : Option Path} {profile : Option String} {directory : Path}

/-- A text is absent from the settings of a file exactly if its option is left empty. -/
theorem leavesEmpty_iff (h : Returns host (fileSettings named profile directory) world settings after)
    (hkind : setting.kind = .text) :
    host.LeavesEmpty world.files named profile directory setting ↔
      settings.get? setting = some .absent := by
  obtain ⟨-, ⟨path, hpath, hsettings⟩ | ⟨rfl, hnone⟩⟩ := returns_fileSettings h
  · obtain ⟨file, hfile, hsettings⟩ := Checked.bind_eq_ok.1 hsettings
    obtain ⟨texts, htexts, hreads⟩ := ConfigFile.settings_eq_ok.1 hsettings
    constructor
    · rintro ⟨other, file', texts', text, hother, hfile', htexts', htext, hempty⟩
      obtain rfl := hpath.path_eq.trans hother.path_eq.symm
      cases hfile.symm.trans hfile'
      cases htexts.symm.trans htexts'
      obtain ⟨value, hread, hvalue⟩ := ConfigFile.exists_value_of_text hreads htext
      rw [Setting.read_text hkind, if_pos hempty] at hread
      cases hread
      exact hvalue
    · intro habsent
      obtain ⟨text, htext, hread⟩ := ConfigFile.exists_text_of_value hreads habsent
      rw [Setting.read_text hkind] at hread
      refine ⟨path, file, texts, text, hpath, hfile, htexts, htext, ?_⟩
      by_contra hsome
      rw [if_neg hsome] at hread
      cases hread
  · refine iff_of_false ?_ nofun
    rintro ⟨path, -, -, -, hpath, -⟩
    exact hnone path hpath

/-- The settings of a file hold a text or nothing where texts are read. -/
theorem text_or_absent_of_fileSettings {value : Value}
    (h : Returns host (fileSettings named profile directory) world settings after)
    (hkind : setting.kind = .text) (hvalue : settings.get? setting = some value) :
    (∃ text, value = .text text) ∨ value = .absent := by
  obtain ⟨-, ⟨path, -, hsettings⟩ | ⟨rfl, -⟩⟩ := returns_fileSettings h
  · obtain ⟨file, -, hsettings⟩ := Checked.bind_eq_ok.1 hsettings
    have hadmits := ConfigFile.admits_of_settings hsettings hvalue
    rw [hkind] at hadmits
    cases hadmits with
    | text text => exact .inl ⟨text, rfl⟩
    | absent => exact .inr rfl
  · cases hvalue

end File

/-! ## The two commands -/

theorem Setting.kind_command (htool : tool.IsCommand) : tool.kind = .text := by
  rcases htool with rfl | rfl <;> rfl

variable {given : CommandLine.Arguments} {arguments : List String} {value : Value}

theorem Configuration.MadeOf.value_command (h : configuration.MadeOf settings)
    (htool : tool.IsCommand) :
    configuration.value tool =
      valueOr settings tool (if tool = .julia then "julia" else "gcc") := by
  rcases htool with rfl | rfl
  · exact h.julia
  · exact h.cc

/-- The command line gives a text for a command, or nothing, or the mark stands in the text's place. -/
theorem CommandLine.Arguments.setting_command (hparse : CommandLine.parse arguments = .ok given)
    (htool : tool.IsCommand) (h : given.setting tool = .ok value) :
    (∃ text, value = .text text) ∨ value = .list [] ∨ value = .absent := by
  have hvalue : (given.get? (.setting tool)).getD .absent = value := by
    rcases htool with rfl | rfl <;> exact Except.ok.inj h
  cases hgiven : given.get? (.setting tool) with
  | none => exact .inr (.inr (hvalue.symm.trans (by rw [hgiven]; rfl)))
  | some found =>
      rw [hgiven] at hvalue
      obtain rfl : found = value := hvalue
      have hshape : (CommandLine.Target.setting tool).shape = .text := by
        rcases htool with rfl | rfl <;> rfl
      exact (text_or_mark_of_given hshape (given_of_parse hparse hgiven)).imp_right .inl

/-- Whether the selected stages use the command that a setting names. -/
def StageSelection.uses (selection : StageSelection) : Setting → Bool
  | .julia => selection.needsRuntime
  | .cc => selection.needsCompiler
  | _ => false

namespace Build

variable {resolved : ResolvedConfiguration} {rules : LinkRules} {files : FileSystem} {failure : Failure}

theorem toolCheck_of_no_compiler (hneeds : resolved.stages.needsCompiler = true)
    (h : programOf resolved.cc = .error failure) :
    toolCheck host resolved rules files = .error failure := by
  unfold toolCheck compilerCheck
  rw [if_pos hneeds, h]

/-- Julia is only asked after the compiler has passed its check. -/
theorem toolCheck_of_no_julia (hneeds : resolved.stages.needsRuntime = true)
    (h : programOf resolved.julia = .error failure) :
    ∃ fault, toolCheck host resolved rules files = .error fault ∧
      (compilerCheck host resolved rules files = .error fault ∨ fault = failure) := by
  unfold toolCheck
  cases hcompiler : compilerCheck host resolved rules files with
  | error fault => exact ⟨fault, rfl, .inl rfl⟩
  | ok _ =>
      refine ⟨failure, ?_, .inr rfl⟩
      unfold runtimeCheck runtimeReport
      rw [if_pos hneeds, h]

end Build

namespace Configuration

variable (configuration host)

/-- The commands are not changed when a configuration is resolved. -/
theorem commands_on :
    (configuration.on host).julia = configuration.julia ∧
      (configuration.on host).cc = configuration.cc := by
  unfold on resolve
  rw [expand_eq]
  exact ⟨rfl, rfl⟩

/-- Every build with a configuration ends in its checks: an input fails its check, or the compiler
    does, or there is another cause. -/
def EndsInChecks (cause : Failure) : Prop :=
  ∀ world, Ends host configuration.build world (fun _ _ => False)
    (fun failure after => world.Still after ∧
      (Build.inputFault? host world.files (configuration.on host).inputs = some failure ∨
        Build.compilerCheck host (configuration.on host)
          (Build.rulesOn host (configuration.on host)) world.files = .error failure ∨
        failure = cause))

variable {configuration host}

/-- A build that uses a command that is no program ends in its checks. -/
theorem endsInChecks_of_programOf (htool : tool.IsCommand)
    (huses : (configuration.on host).stages.uses tool = true) {cause : Failure}
    (hcommand : Build.programOf (configuration.value tool) = .error cause) :
    configuration.EndsInChecks host cause := by
  intro world
  obtain ⟨hjulia, hcc⟩ := configuration.commands_on host
  obtain ⟨fault, hfault, hcause⟩ : ∃ fault, Build.toolCheck host (configuration.on host)
      (Build.rulesOn host (configuration.on host)) world.files = .error fault ∧
      (Build.compilerCheck host (configuration.on host)
        (Build.rulesOn host (configuration.on host)) world.files = .error fault ∨ fault = cause) := by
    rcases htool with rfl | rfl
    · exact Build.toolCheck_of_no_julia huses (hjulia.symm ▸ hcommand)
    · exact ⟨cause, Build.toolCheck_of_no_compiler huses (hcc.symm ▸ hcommand), .inr rfl⟩
  refine (ends_build_of_toolCheck hfault).imp (fun _ _ h => h) ?_
  rintro failure after ⟨hstill, hinputs | rfl⟩
  · exact ⟨hstill, .inl hinputs⟩
  · exact ⟨hstill, .inr hcause⟩

end Configuration

/-! ## Gathering -/

/-- A text that is not mentioned is absent, unless it is a command. -/
theorem Configuration.value_default (program : Path) (hkind : setting.kind = .text)
    (hprogram : setting ≠ .program) (htool : ¬ setting.IsCommand) :
    ({ program } : Configuration).value setting = .absent := by
  have hmade : MadeOf [(.program, .path program)] { program } := madeOf_of_ofSettings rfl
  refine hmade.value_of_absent hkind hprogram htool ?_
  simp [Settings.value, Table.get?, Ne.symm hprogram]

/-- An absent text is the same as one that is not mentioned, unless it is a command. -/
theorem Configuration.MadeOf.value_of_get?_absent (h : configuration.MadeOf settings)
    (hkind : setting.kind = .text) (habsent : settings.get? setting = some .absent) :
    configuration.value setting =
      if setting.IsCommand then .absent
      else ({ program := configuration.program } : Configuration).value setting := by
  split
  · next htool => rw [h.value_command htool, valueOr, habsent, Option.getD_some]
  · next htool =>
      by_cases hprogram : setting = .program
      · subst hprogram
        rfl
      · rw [value_default _ hkind hprogram htool]
        refine h.value_of_absent hkind hprogram htool ?_
        rw [Settings.value, habsent, Option.getD_some]

section Commands

variable {config : Option Path} {file : Settings}

/-- A command is a text, unless the file leaves it empty or the mark stands in its place. -/
theorem command_cases (hparse : CommandLine.parse arguments = .ok given)
    (hfile : Returns host
      (fileSettings config (Program.namedProfile given) host.workingDirectory) world file after)
    (hmade : configuration.MadeOf settings) (htool : tool.IsCommand)
    (hgiven : given.setting tool = .ok value)
    (hget : settings.get? tool = if value = .absent then file.get? tool else some value) :
    (∃ text, configuration.value tool = .text text) ∨
      (configuration.value tool = .absent ∧ given.setting tool = .ok .absent ∧
        host.LeavesEmpty world.files config (Program.namedProfile given) host.workingDirectory
          tool) ∨
      (configuration.value tool = .list [] ∧ given.setting tool = .ok (.list [])) := by
  rw [hmade.value_command htool, Configuration.valueOr, hget]
  rcases CommandLine.Arguments.setting_command hparse htool hgiven with ⟨text, rfl⟩ | rfl | rfl
  · exact .inl ⟨text, rfl⟩
  · exact .inr (.inr ⟨rfl, hgiven⟩)
  · have hkind := Setting.kind_command htool
    rw [if_pos rfl]
    cases hfound : file.get? tool with
    | none => exact .inl ⟨_, rfl⟩
    | some found =>
        rcases text_or_absent_of_fileSettings hfile hkind hfound with ⟨text, rfl⟩ | rfl
        · exact .inl ⟨text, rfl⟩
        · exact .inr (.inl ⟨rfl, hgiven, (leavesEmpty_iff hfile hkind).2 hfound⟩)

/-- What the options that a configuration file leaves empty do to a configuration that is gathered.
    Each text that the command line does not give either is left open as if nothing had mentioned it,
    apart from the two commands: these become absent. A command is a text unless it is absent for this
    reason or the mark stands in its place on the command line; and if it is no text, every build that
    uses it ends in its checks, by a crash unless another check fails first. -/
theorem gather_of_empty_options (hparse : CommandLine.parse arguments = .ok given)
    (hgather : Returns host (Program.gather given config) world configuration after) :
    (∀ setting, setting.kind = .text →
      host.LeavesEmpty world.files config (Program.namedProfile given) host.workingDirectory setting →
      given.setting setting = .ok .absent →
      configuration.value setting =
        if setting.IsCommand then .absent
        else ({ program := configuration.program } : Configuration).value setting) ∧
    ∀ tool : Setting, tool.IsCommand →
      ((∃ text, configuration.value tool = .text text) ∨
        (configuration.value tool = .absent ∧ given.setting tool = .ok .absent ∧
          host.LeavesEmpty world.files config (Program.namedProfile given) host.workingDirectory
            tool) ∨
        (configuration.value tool = .list [] ∧ given.setting tool = .ok (.list []))) ∧
      ((∀ text, configuration.value tool ≠ .text text) →
        (configuration.on host).stages.uses tool = true →
        configuration.EndsInChecks host
          (.crash (.pathExpected (configuration.value tool).kindName))) := by
  obtain ⟨-, file, settings, hfile, hmade, hsettings⟩ := Program.returns_gather hgather
  constructor
  · intro setting hkind hempty habsent
    obtain ⟨value, hgiven, hget⟩ := hsettings setting
    cases habsent.symm.trans hgiven
    rw [if_pos rfl, (leavesEmpty_iff hfile hkind).1 hempty] at hget
    exact hmade.value_of_get?_absent hkind hget
  · intro tool htool
    obtain ⟨value, hgiven, hget⟩ := hsettings tool
    have hcases := command_cases hparse hfile hmade htool hgiven hget
    refine ⟨hcases, fun hnone huses => Configuration.endsInChecks_of_programOf htool huses ?_⟩
    rcases hcases with ⟨text, htext⟩ | ⟨habsent, -⟩ | ⟨hmark, -⟩
    · exact absurd htext (hnone text)
    · rw [habsent]
      rfl
    · rw [hmark]
      rfl

end Commands

/-- A C compiler that is left empty is none, and the build that should run it ends in its checks. -/
theorem gather_of_empty_compiler :
    let host := Host.obedient Host.plainCommand fun _ => "built".toUTF8
    let world : World :=
      { files := Host.projectFiles [(["app.jl"], "1"), ([configFileName], "[jlbuild]\ncc =\n")] }
    ∃ given configuration, CommandLine.parse ["app.jl", "-aes"] = .ok given ∧
      (Program.gather given none).value? host world = some configuration ∧
      configuration.cc = .absent ∧
      configuration.EndsInChecks host (.crash (.pathExpected "NoneType")) := by
  intro host world
  let given : CommandLine.Arguments :=
    [ (.setting .program, .path (Path.ofString "app.jl")), (.setting .autoDeps, .flag true),
      (.setting .executable, .flag true), (.setting .shared, .flag true) ]
  let configuration : Configuration :=
    { program := Path.ofString "app.jl", autoDeps := true, executable := true, shared := true,
      cc := .absent }
  have hparse : CommandLine.parse ["app.jl", "-aes"] = .ok given := by decide +kernel
  have hgather : (Program.gather given none).value? host world = some configuration := by
    decide +kernel
  have hfile : (fileSettings none none host.workingDirectory).value? host world =
      some [(.cc, .absent)] := by decide +kernel
  obtain ⟨hempty, hcommand⟩ := gather_of_empty_options hparse (runOn_of_value? hgather)
  have hcc : configuration.value .cc = .absent :=
    hempty .cc rfl ((leavesEmpty_iff (runOn_of_value? hfile) rfl).2 rfl) rfl
  refine ⟨given, configuration, hparse, hgather, hcc, ?_⟩
  exact (hcommand .cc (Or.inr rfl)).2 (by simp [hcc]) (by decide +kernel)

end JuliaNative
