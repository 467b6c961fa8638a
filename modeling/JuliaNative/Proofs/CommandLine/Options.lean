import JuliaNative.Proofs.CommandLine.Values

set_option autoImplicit false

/-! # What options are and what they do

An option stands in one argument, or in two if its value is behind it (`IsOption`); each name in the
table is one (`IsOption.of_switch`, `IsOption.of_value`). What an option does is decided by what options
gave before it, and it leaves the program and the driver program as they are (`MindsOptions`). -/

namespace JuliaNative.CommandLine

/-! ## Readings that come to the same -/

/-- The same interruption, or arguments that are the same in some way. -/
inductive SameUpTo (Same : Arguments → Arguments → Prop) :
    Except Interruption Arguments → Except Interruption Arguments → Prop
  | interrupted (interruption : Interruption) :
    SameUpTo Same (.error interruption) (.error interruption)
  | given {first second : Arguments} (h : Same first second) :
    SameUpTo Same (.ok first) (.ok second)

/-- Arguments that give the same for some targets. -/
def Arguments.AgreeOn (targets : Target → Prop) (first second : Arguments) : Prop :=
  ∀ target, targets target → first.get? target = second.get? target

/-- Arguments that give the same for all targets, and so the same settings. -/
structure Arguments.Same (first second : Arguments) : Prop where
  targets : ∀ target, first.get? target = second.get? target
  settings : first.settings = second.settings

section SameUpTo

variable {Same Next : Arguments → Arguments → Prop} {x y : Except Interruption Arguments}

theorem SameUpTo.mono (h : SameUpTo Same x y)
    (himp : ∀ first second, Same first second → Next first second) : SameUpTo Next x y := by
  cases h with
  | interrupted interruption => exact .interrupted interruption
  | given h => exact .given (himp _ _ h)

theorem SameUpTo.bind {f g : Arguments → Except Interruption Arguments} (h : SameUpTo Same x y)
    (hnext : ∀ first second, Same first second → SameUpTo Next (f first) (g second)) :
    SameUpTo Next (x >>= f) (y >>= g) := by
  cases h with
  | interrupted interruption => exact .interrupted interruption
  | given h => exact hnext _ _ h

theorem SameUpTo.eq_error {interruption : Interruption} (h : SameUpTo Same (.error interruption) y) :
    y = .error interruption := by
  cases h
  rfl

end SameUpTo

/-- The settings are made from what is given for each target. -/
theorem Arguments.Same.of_get? {first second : Arguments}
    (h : ∀ target, first.get? target = second.get? target) : first.Same second := by
  have hvalue : ∀ target, first.value target = second.value target := fun target => by
    simp only [Arguments.value, h]
  have hsetting : ∀ which, first.setting which = second.setting which := fun which => by
    unfold Arguments.setting
    split <;> simp only [hvalue]
  exact ⟨h, by simp only [Arguments.settings, hsetting]⟩

/-! ## What options do -/

/-- The targets that are given by a position on the command line. -/
def Target.IsOperand (target : Target) : Prop :=
  target = .setting .program ∨ target = .driver

/-- The list of a target with an element more. -/
def withItem (item : Item) : Option Value → Value
  | some (.list items) => .list (items ++ [item])
  | _ => .list [item]

/-- Something is done to arguments which is decided by what options gave, and which leaves what was
    given by position. -/
def MindsOptions (deed : Arguments → Except Interruption Arguments) : Prop :=
  ∀ first second : Arguments, first.AgreeOn (¬ ·.IsOperand) second →
    SameUpTo
      (fun first' second' => first'.AgreeOn (¬ ·.IsOperand) second' ∧
        first.AgreeOn (·.IsOperand) first' ∧ second.AgreeOn (·.IsOperand) second')
      (deed first) (deed second)

namespace MindsOptions

variable {deed next : Arguments → Except Interruption Arguments} {target : Target}
  {spec : OptionSpec}

theorem nothing : MindsOptions .ok :=
  fun _ _ h => .given ⟨h, fun _ _ => rfl, fun _ _ => rfl⟩

theorem interrupt (interruption : Interruption) : MindsOptions fun _ => .error interruption :=
  fun _ _ _ => .interrupted interruption

theorem andThen (hdeed : MindsOptions deed) (hnext : MindsOptions next) :
    MindsOptions fun arguments => deed arguments >>= next := by
  intro first second h
  refine (hdeed _ _ h).bind fun first' second' ⟨hsame, hfirst, hsecond⟩ => ?_
  refine (hnext _ _ hsame).mono fun first'' second'' ⟨hsame, hfirst', hsecond'⟩ => ?_
  exact ⟨hsame, fun target ht => (hfirst target ht).trans (hfirst' target ht),
    fun target ht => (hsecond target ht).trans (hsecond' target ht)⟩

/-- Giving a target a value that depends on what was given for it. -/
theorem put (htarget : ¬ target.IsOperand) (value : Option Value → Value) :
    MindsOptions fun arguments =>
      .ok (Table.put target (value (arguments.get? target)) arguments) := by
  intro first second h
  have hkeeps : ∀ (arguments : Arguments) (given : Value),
      arguments.AgreeOn (·.IsOperand) (Table.put target given arguments) := by
    intro arguments given other hother
    rw [Table.get?_put, if_neg]
    rintro rfl
    exact htarget hother
  refine .given ⟨fun other hother => ?_, hkeeps first _, hkeeps second _⟩
  simp only [Table.get?_put, h target htarget, h other hother]

theorem addItem (htarget : ¬ target.IsOperand) (item : Item) :
    MindsOptions fun arguments => .ok (addItem arguments target item) := by
  have hput : ∀ arguments : Arguments, CommandLine.addItem arguments target item =
      Table.put target (withItem item (arguments.get? target)) arguments := by
    intro arguments
    unfold CommandLine.addItem
    cases arguments.get? target with
    | none => rfl
    | some given => cases given <;> rfl
  simp only [hput]
  exact put htarget (withItem item)

theorem not_isOperand {shape : Shape} (hspec : spec ∈ options)
    (htarget : spec.effect.target? = some (target, shape)) : ¬ target.IsOperand :=
  not_or.2 (lawful_options spec hspec _ htarget).2

theorem applySwitch (hspec : spec ∈ options) :
    MindsOptions fun arguments => applySwitch arguments spec := by
  unfold CommandLine.applySwitch
  cases heffect : spec.effect with
  | showHelp | showVersion | store | collect => exact interrupt _
  | turnOn target =>
      exact put (not_isOperand hspec (by rw [heffect]; rfl)) fun _ => .flag true

theorem applyValue (hspec : spec ∈ options) (text : String) :
    MindsOptions fun arguments => applyValue arguments spec text := by
  unfold CommandLine.applyValue
  cases heffect : spec.effect with
  | showHelp | showVersion | turnOn => exact interrupt _
  | store target reading =>
      have htarget := not_isOperand hspec (by rw [heffect]; rfl)
      by_cases hmark : text = "--"
      · simp only [hmark, if_true]
        exact put htarget fun _ => .list []
      · simp only [hmark, if_false]
        cases reading.read spec text with
        | ok value => exact put htarget fun _ => value
        | error issue => exact interrupt _
  | collect target placeholder =>
      exact addItem (not_isOperand hspec (by rw [heffect]; rfl)) _

theorem foldlM_applySwitch {specs : List OptionSpec} (hspecs : ∀ spec ∈ specs, spec ∈ options) :
    MindsOptions fun arguments => specs.foldlM CommandLine.applySwitch arguments := by
  induction specs with
  | nil => exact nothing
  | cons spec rest ih =>
      obtain ⟨hspec, hrest⟩ := List.forall_mem_cons.1 hspecs
      simp only [List.foldlM_cons]
      exact (applySwitch hspec).andThen (ih hrest)

end MindsOptions

/-- What the options of a cluster do to arguments. -/
def Cluster.act (cluster : Cluster) (value : Option String) (arguments : Arguments) :
    Except Interruption Arguments := do
  let arguments ← cluster.switches.foldlM applySwitch arguments
  match value with
  | none => applySwitch arguments cluster.last
  | some text => applyValue arguments cluster.last text

theorem Cluster.Known.mindsOptions_act {cluster : Cluster} (h : cluster.Known)
    (value : Option String) : MindsOptions (cluster.act value) := by
  refine (MindsOptions.foldlM_applySwitch h.switches).andThen ?_
  cases value with
  | none => exact .applySwitch h.last
  | some text => exact .applyValue h.last text

theorem Progress.apply_eq (progress : Progress) (cluster : Cluster) (value : Option String) :
    progress.apply cluster value =
      (cluster.act value progress.arguments).map fun arguments =>
        { progress.close with arguments } := by
  unfold Progress.apply Cluster.act
  cases cluster.switches.foldlM applySwitch progress.arguments with
  | error interruption => rfl
  | ok arguments => cases value <;> rfl

/-! ## The arguments of an option -/

/-- Whether the last option of an argument takes the argument behind it as its value. -/
def awaitsValue (spec : OptionSpec) (name : String) (attached : Option String) : Bool :=
  match Cluster.of spec name attached with
  | .ok cluster => cluster.value = none && cluster.last.effect.takesValue
  | .error _ => false

theorem exists_cluster_of_awaitsValue {spec : OptionSpec} {name : String} {attached : Option String}
    (h : awaitsValue spec name attached = true) :
    ∃ cluster, Cluster.of spec name attached = .ok cluster ∧ cluster.value = none ∧
      cluster.last.effect.takesValue = true := by
  unfold awaitsValue at h
  split at h
  · next cluster hcluster => exact ⟨cluster, hcluster, by simpa using h⟩
  · cases h

/-- The arguments of an option: one that needs none behind it, or one with its value behind it. Short
    options in one argument are one option here. -/
inductive IsOption : List String → Prop
  | single {argument : String} {spec : OptionSpec} {name : String} {attached : Option String}
    (hoption : classify argument = .ok (.option spec name attached))
    (hvalue : awaitsValue spec name attached = false) : IsOption [argument]
  | withValue {argument : String} {spec : OptionSpec} {name : String} {attached : Option String}
    {value : String} (hoption : classify argument = .ok (.option spec name attached))
    (hawaits : awaitsValue spec name attached = true)
    (hvalue : classify value = .ok (.plain value)) : IsOption [argument, value]

/-- Whether arguments are those of an option. -/
def isOption : List String → Bool
  | [argument] =>
    match classify argument with
    | .ok (.option spec name attached) => !awaitsValue spec name attached
    | _ => false
  | [argument, value] =>
    match classify argument with
    | .ok (.option spec name attached) =>
      awaitsValue spec name attached && classify value = .ok (.plain value)
    | _ => false
  | _ => false

theorem isOption_iff (arguments : List String) : isOption arguments = true ↔ IsOption arguments := by
  constructor
  · intro h
    unfold isOption at h
    split at h
    · split at h
      · next hoption => exact .single hoption (by simpa using h)
      · cases h
    · split at h
      · next hoption =>
          obtain ⟨hawaits, hvalue⟩ := Bool.and_eq_true_iff.1 h
          exact .withValue hoption hawaits (of_decide_eq_true hvalue)
      · cases h
    · cases h
  · rintro (⟨hoption, hvalue⟩ | ⟨hoption, hawaits, hvalue⟩)
    · simp [isOption, hoption, hvalue]
    · simp [isOption, hoption, hawaits, hvalue]

instance : DecidablePred IsOption := fun arguments =>
  decidable_of_iff (isOption arguments = true) (isOption_iff arguments)

/-! ## The names of options -/

variable {name : String} {spec : OptionSpec}

/-- No name stands for two options, and no name contains an equals sign. -/
theorem lawful_optionNames :
    ∀ entry ∈ optionNames, option? entry.1 = some entry.2 ∧ beginsWith entry.1 "-" = true ∧
      1 < entry.1.toList.length ∧ '=' ∉ entry.1.toList := by
  decide +kernel

theorem toList_assignment (name value : String) :
    (name ++ "=" ++ value).toList = name.toList ++ '=' :: value.toList := by
  simp [String.toList_append]

theorem splitAssignment_assignment (h : '=' ∉ name.toList) (value : String) :
    splitAssignment (name ++ "=" ++ value) = (name, some value) := by
  have hname : ∀ c ∈ name.toList, decide (c ≠ '=') = true := fun c hc =>
    decide_eq_true fun heq => h (heq ▸ hc)
  simp only [splitAssignment, toList_assignment, List.takeWhile_append_of_pos hname,
    List.takeWhile_cons, ne_eq, not_true, decide_false, Bool.false_eq_true, if_false,
    List.append_nil, List.drop_left, String.ofList_toList]

theorem option?_assignment (name value : String) : option? (name ++ "=" ++ value) = none := by
  cases hoption : option? (name ++ "=" ++ value) with
  | none => rfl
  | some spec =>
      obtain ⟨before, after, heq, -⟩ := List.lookup_eq_some_iff.1 hoption
      have hmem : (name ++ "=" ++ value, spec) ∈ optionNames := heq ▸ List.mem_append_cons_self
      have hequals := (lawful_optionNames _ hmem).2.2.2
      rw [toList_assignment] at hequals
      exact absurd (List.mem_append_cons_self) hequals

theorem classify_of_named? {argument : String} {token : Token} {c : Char} {cs : List Char}
    (hargument : argument.toList = '-' :: c :: cs) (h : named? argument = some token) :
    classify argument = .ok token := by
  simp only [classify, hargument, classifyOption, h]

theorem exists_toList_of_mem_optionNames (h : (name, spec) ∈ optionNames) :
    ∃ c cs, name.toList = '-' :: c :: cs := by
  obtain ⟨-, hhyphen, hlength, -⟩ := lawful_optionNames _ h
  unfold beginsWith at hhyphen
  match hname : name.toList with
  | [] | [_] => simp [hname] at hlength
  | first :: c :: cs =>
      have hfirst : '-' = first := by simpa [hname] using hhyphen
      exact ⟨c, cs, hfirst ▸ rfl⟩

theorem classify_name (h : (name, spec) ∈ optionNames) :
    classify name = .ok (.option spec name none) := by
  obtain ⟨c, cs, hname⟩ := exists_toList_of_mem_optionNames h
  refine classify_of_named? hname ?_
  simp only [named?, (lawful_optionNames _ h).1]

theorem classify_assignment (h : (name, spec) ∈ optionNames) (value : String) :
    classify (name ++ "=" ++ value) = .ok (.option spec name (some value)) := by
  obtain ⟨hoption, -, -, hequals⟩ := lawful_optionNames _ h
  obtain ⟨c, cs, hname⟩ := exists_toList_of_mem_optionNames h
  have hargument : (name ++ "=" ++ value).toList = '-' :: c :: (cs ++ '=' :: value.toList) := by
    rw [toList_assignment, hname]
    rfl
  refine classify_of_named? hargument ?_
  simp only [named?, option?_assignment, splitAssignment_assignment hequals, hoption,
    Option.map_some]

/-- An option that takes no value is given by each of its names. -/
theorem IsOption.of_switch (h : (name, spec) ∈ optionNames) (hvalue : spec.effect.takesValue = false) :
    IsOption [name] :=
  .single (classify_name h) (by simp [awaitsValue, Cluster.of, hvalue])

/-- An option that takes a value is given by each of its names with the value attached or behind it,
    where a value that looks like an option must be attached. -/
theorem IsOption.of_value (h : (name, spec) ∈ optionNames) (htakes : spec.effect.takesValue = true)
    (value : String) :
    IsOption [name ++ "=" ++ value] ∧
      (classify value = .ok (.plain value) → IsOption [name, value]) := by
  refine ⟨.single (classify_assignment h value) ?_, fun hvalue => ?_⟩
  · simp only [awaitsValue, Cluster.of]
    cases value.toList <;> simp [clusterOf, htakes]
  · exact .withValue (classify_name h) (by simp [awaitsValue, Cluster.of, htakes]) hvalue

/-- The mark is no argument of an option: it is the start of all long names. -/
theorem classify_mark_ne_ok (token : Token) : classify "--" ≠ .ok token := by
  have hfault : (classify "--").toBool = false := by decide +kernel
  intro h
  rw [h] at hfault
  cases hfault

theorem classifyAll_cons {argument : String} {token : Token} (h : classify argument = .ok token)
    (rest : List String) :
    classifyAll (argument :: rest) = (classifyAll rest).map (token :: ·) := by
  have hmark : argument ≠ "--" := by
    rintro rfl
    exact classify_mark_ne_ok token h
  rw [classifyAll, if_neg hmark, h]
  cases classifyAll rest <;> rfl

end JuliaNative.CommandLine
