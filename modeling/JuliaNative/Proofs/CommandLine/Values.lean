import JuliaNative.CommandLine.Settings
import JuliaNative.Proofs.Checked
import JuliaNative.Proofs.Table

set_option autoImplicit false

/-! # What the command line gives

Whatever the command line gives for a target is what one of the options for this target gives, or it is
the program or the driver program (`given_of_parse`). An option gives a value as it reads it, with one
exception: if the mark stands in the place of the value, it gives an empty list. So each target has a
value of its own shape or an empty list (`holds_or_mark_of_given`). The program is named by its position,
so the mark never stands in its place, and a command line that is not refused names it
(`exists_program_of_parse`). -/

namespace JuliaNative

/-- A setting that names a command which a build runs. -/
def Setting.IsCommand (setting : Setting) : Prop :=
  setting = .julia ∨ setting = .cc

instance : DecidablePred Setting.IsCommand := fun setting =>
  inferInstanceAs (Decidable (setting = .julia ∨ setting = .cc))

namespace CommandLine

/-! ## What options give -/

/-- The values that an option's value is read as. -/
inductive Reading.Gives : Reading → Value → Prop
  | text (placeholder text : String) : Gives (.text placeholder) (.text text)
  | path (placeholder : String) (path : Path) : Gives (.path placeholder) (.path path)
  | word {allowed : List String} {text : String} (h : text ∈ allowed) :
    Gives (.word allowed) (.text text)
  | level (bound : Nat) (number : Int) : Gives (.level bound) (.integer number)

/-- The values that an option gives to its target. -/
inductive Effect.Gives : Effect → Target → Value → Prop
  | turnOn (target : Target) : Gives (.turnOn target) target (.flag true)
  | store {target : Target} {reading : Reading} {value : Value} (h : reading.Gives value) :
    Gives (.store target reading) target value
  /-- The mark stands in the place of the value. -/
  | mark (target : Target) (reading : Reading) : Gives (.store target reading) target (.list [])
  | collect (target : Target) (placeholder : String) (items : List Item) :
    Gives (.collect target placeholder) target (.list items)

/-- The values that can be given for a target. -/
inductive Given : Target → Value → Prop
  | program (path : Path) : Given (.setting .program) (.path path)
  | driver (path : Path) : Given .driver (.path path)
  | option {spec : OptionSpec} {target : Target} {value : Value} (hspec : spec ∈ options)
    (h : spec.effect.Gives target value) : Given target value

variable {spec : OptionSpec} {arguments next : Arguments} {target : Target} {value : Value}

theorem Reading.gives_of_read {reading : Reading} {text : String}
    (h : reading.read spec text = .ok value) : reading.Gives value := by
  cases reading with
  | text placeholder =>
      cases h
      exact .text placeholder text
  | path placeholder =>
      cases h
      exact .path placeholder _
  | word allowed =>
      simp only [Reading.read] at h
      split at h
      · next hallowed =>
          cases h
          exact .word hallowed
      · cases h
  | level bound =>
      simp only [Reading.read] at h
      split at h
      · cases h
      · split at h
        · cases h
          exact .level bound _
        · cases h

/-! ## Arguments -/

/-- Arguments that hold for each target what can be given for it. -/
def Arguments.Lawful (arguments : Arguments) : Prop :=
  ∀ target value, arguments.get? target = some value → Given target value

theorem Arguments.Lawful.nil : Arguments.Lawful [] := by
  intro target value h
  cases h

theorem Arguments.Lawful.put (h : arguments.Lawful) (hgiven : Given target value) :
    Arguments.Lawful (Table.put target value arguments) := by
  intro other found hfound
  rw [Table.get?_put] at hfound
  split at hfound
  · next heq =>
      cases hfound
      exact heq ▸ hgiven
  · exact h other found hfound

theorem Arguments.Lawful.addItem (h : arguments.Lawful) {placeholder : String} {item : Item}
    (hspec : spec ∈ options) (heffect : spec.effect = .collect target placeholder) :
    (addItem arguments target item).Lawful := by
  have hitems : ∀ items, Given target (.list items) := fun items =>
    .option hspec (heffect ▸ .collect target placeholder items)
  unfold CommandLine.addItem
  split <;> exact h.put (hitems _)

theorem Arguments.Lawful.applySwitch (h : arguments.Lawful) (hspec : spec ∈ options)
    (happly : applySwitch arguments spec = .ok next) : next.Lawful := by
  unfold CommandLine.applySwitch at happly
  split at happly
  · cases happly
  · cases happly
  · next target heffect =>
      cases happly
      exact h.put (.option hspec (heffect ▸ .turnOn target))
  · cases happly

theorem Arguments.Lawful.applyValue (h : arguments.Lawful) (hspec : spec ∈ options) {text : String}
    (happly : applyValue arguments spec text = .ok next) : next.Lawful := by
  unfold CommandLine.applyValue at happly
  split at happly
  · next target reading heffect =>
      split at happly
      · cases happly
        exact h.put (.option hspec (heffect ▸ .mark target reading))
      · split at happly
        · next hread =>
            cases happly
            exact h.put (.option hspec (heffect ▸ .store (Reading.gives_of_read hread)))
        · cases happly
  · next target placeholder heffect =>
      cases happly
      exact h.addItem hspec heffect
  · cases happly

/-! ## Tokens -/

theorem mem_options_of_mem_optionNames {entry : String × OptionSpec} (h : entry ∈ optionNames) :
    entry.2 ∈ options := by
  obtain ⟨spec, hspec, hentry⟩ := List.mem_flatMap.1 h
  obtain ⟨name, -, rfl⟩ := List.mem_map.1 hentry
  exact hspec

theorem mem_options_of_option? {name : String} (h : option? name = some spec) : spec ∈ options := by
  obtain ⟨before, after, heq, -⟩ := List.lookup_eq_some_iff.1 h
  have hmem : (name, spec) ∈ optionNames := heq ▸ List.mem_append_right _ (List.mem_cons_self ..)
  exact mem_options_of_mem_optionNames hmem

/-- A token whose option, if it is one, is an option of the command line. -/
def Token.Known : Token → Prop
  | .option spec _ _ => spec ∈ options
  | _ => True

theorem Token.known_of_named? {argument : String} {token : Token} (h : named? argument = some token) :
    token.Known := by
  unfold named? at h
  split at h
  · next hoption =>
      cases h
      exact mem_options_of_option? hoption
  · split at h
    · cases h
    · obtain ⟨spec, hoption, rfl⟩ := Option.map_eq_some_iff.1 h
      exact mem_options_of_option? hoption

theorem mem_options_of_mem_candidates {argument : String}
    {candidate : String × OptionSpec × Option String} (h : candidate ∈ candidates argument) :
    candidate.2.1 ∈ options := by
  have hfilter : ∀ (test : String × OptionSpec → Bool) (value : Option String),
      candidate ∈ (optionNames.filter test).map (fun entry => (entry.1, entry.2, value)) →
      candidate.2.1 ∈ options := by
    intro test value hmem
    obtain ⟨entry, hentry, rfl⟩ := List.mem_map.1 hmem
    exact mem_options_of_mem_optionNames (List.mem_filter.1 hentry).1
  unfold candidates at h
  split at h <;> exact hfilter _ _ h

theorem Token.known_of_classify {argument : String} {token : Token}
    (h : classify argument = .ok token) : token.Known := by
  unfold classify at h
  split at h
  · unfold classifyOption at h
    split at h
    · next hnamed =>
        cases h
        exact known_of_named? hnamed
    · split at h
      · next hcandidates =>
          cases h
          exact mem_options_of_mem_candidates (hcandidates ▸ List.mem_singleton_self _)
      · split at h <;> cases h <;> trivial
      · cases h
  · cases h
    trivial

theorem known_of_classifyAll {strings : List String} {tokens : List Token}
    (h : classifyAll strings = .ok tokens) : ∀ token ∈ tokens, token.Known := by
  induction strings generalizing tokens with
  | nil =>
      cases h
      exact List.forall_mem_nil _
  | cons argument rest ih =>
      unfold classifyAll at h
      split at h
      · cases h
        simp [Token.Known]
      · obtain ⟨token, htoken, h⟩ := Checked.bind_eq_ok.1 h
        obtain ⟨others, hothers, h⟩ := Checked.bind_eq_ok.1 h
        cases h
        exact List.forall_mem_cons.2 ⟨Token.known_of_classify htoken, ih hothers⟩

/-- A cluster of options of the command line. -/
structure Cluster.Known (cluster : Cluster) : Prop where
  switches : ∀ spec ∈ cluster.switches, spec ∈ options
  last : cluster.last ∈ options

theorem Cluster.Known.single (h : spec ∈ options) (value : Option String) :
    Cluster.Known ⟨[], spec, value⟩ :=
  ⟨List.forall_mem_nil _, h⟩

theorem Cluster.known_of_clusterOf {short : Bool} {cs : List Char} {cluster : Cluster}
    (hspec : spec ∈ options) (h : clusterOf spec short cs = .ok cluster) : cluster.Known := by
  induction cs generalizing spec short cluster with
  | nil =>
      unfold clusterOf at h
      split at h
      · cases h
        exact .single hspec _
      · cases h
  | cons c rest ih =>
      unfold clusterOf at h
      split at h
      · cases h
        exact .single hspec _
      split at h
      · split at h
        · cases h
        · next next hnext =>
            have hnext := mem_options_of_option? hnext
            split at h
            · cases h
              exact ⟨List.forall_mem_singleton.2 hspec, hnext⟩
            · obtain ⟨others, hothers, rfl⟩ := Checked.map_eq_ok.1 h
              have hothers := ih hnext hothers
              exact ⟨List.forall_mem_cons.2 ⟨hspec, hothers.switches⟩, hothers.last⟩
      · cases h

theorem Cluster.known_of {name : String} {attached : Option String} {cluster : Cluster}
    (hspec : spec ∈ options) (h : Cluster.of spec name attached = .ok cluster) : cluster.Known := by
  cases attached with
  | none =>
      cases h
      exact .single hspec _
  | some text => exact known_of_clusterOf hspec h

/-! ## The whole command line -/

theorem Arguments.Lawful.foldlM_applySwitch {specs : List OptionSpec} (h : arguments.Lawful)
    (hspecs : ∀ spec ∈ specs, spec ∈ options)
    (happly : specs.foldlM CommandLine.applySwitch arguments = .ok next) : next.Lawful := by
  induction specs generalizing arguments with
  | nil =>
      cases happly
      exact h
  | cons spec rest ih =>
      obtain ⟨hspec, hrest⟩ := List.forall_mem_cons.1 hspecs
      rw [List.foldlM_cons] at happly
      obtain ⟨mid, hmid, happly⟩ := Checked.bind_eq_ok.1 happly
      exact ih (h.applySwitch hspec hmid) hrest happly

theorem Progress.lawful_apply {progress after : Progress} {cluster : Cluster} {value : Option String}
    (h : progress.arguments.Lawful) (hcluster : cluster.Known)
    (happly : progress.apply cluster value = .ok after) : after.arguments.Lawful := by
  unfold Progress.apply at happly
  obtain ⟨mid, hmid, happly⟩ := Checked.bind_eq_ok.1 happly
  have hmid := h.foldlM_applySwitch hcluster.switches hmid
  cases value with
  | none =>
      obtain ⟨last, hlast, happly⟩ := Checked.bind_eq_ok.1 happly
      cases happly
      exact hmid.applySwitch hcluster.last hlast
  | some text =>
      obtain ⟨last, hlast, happly⟩ := Checked.bind_eq_ok.1 happly
      cases happly
      exact hmid.applyValue hcluster.last hlast

@[simp] theorem Progress.arguments_close (progress : Progress) :
    progress.close.arguments = progress.arguments := by
  unfold Progress.close
  split <;> rfl

@[simp] theorem Progress.arguments_leave (progress : Progress) (text : String) :
    (progress.leave text).arguments = progress.arguments := rfl

@[simp] theorem Progress.arguments_mark (progress : Progress) :
    progress.mark.arguments = progress.arguments := by
  unfold Progress.mark
  split <;> rfl

theorem Progress.lawful_plain {progress : Progress} (h : progress.arguments.Lawful) (text : String) :
    (progress.plain text).arguments.Lawful := by
  unfold Progress.plain
  split
  · exact h.put (.program _)
  · split
    · exact h
    · exact h.put (.driver _)
  · exact h

/-- Reading arguments keeps them lawful: each step is a plain argument, the mark, or the options of an
    argument. -/
theorem lawful_readTokens {progress after : Progress} {tokens : List Token}
    (h : progress.arguments.Lawful) (htokens : ∀ token ∈ tokens, token.Known)
    (hread : readTokens progress tokens = .ok after) : after.arguments.Lawful := by
  fun_induction readTokens progress tokens with
  | case1 progress =>
      cases hread
      exact h
  | case2 progress text rest ih =>
      exact ih (Progress.lawful_plain h text) (List.forall_mem_cons.1 htokens).2 hread
  | case3 progress rest ih =>
      exact ih (by simpa using h) (List.forall_mem_cons.1 htokens).2 hread
  | case4 progress text rest ih =>
      exact ih (by simpa using h) (List.forall_mem_cons.1 htokens).2 hread
  | case6 progress spec name attached cluster hcluster _ text rest next happly ih =>
      obtain ⟨hspec, hrest⟩ := List.forall_mem_cons.1 htokens
      have hnext := Progress.lawful_apply h (Cluster.known_of hspec hcluster) happly
      exact ih hnext (List.forall_mem_cons.1 hrest).2 hread
  | case9 progress spec name attached rest cluster hcluster _ next happly ih =>
      obtain ⟨hspec, hrest⟩ := List.forall_mem_cons.1 htokens
      exact ih (Progress.lawful_apply h (Cluster.known_of hspec hcluster) happly) hrest hread
  | case5 | case7 | case8 | case10 => cases hread

/-! ## The program -/

/-- What was given for a target stays given for it, by a value that may be another one. -/
def Arguments.GoesOn (before after : Arguments) : Prop :=
  ∀ target, (before.get? target).isSome → (after.get? target).isSome

namespace Arguments.GoesOn

variable {first second third : Arguments}

theorem refl (arguments : Arguments) : arguments.GoesOn arguments :=
  fun _ h => h

theorem trans (hfirst : first.GoesOn second) (hsecond : second.GoesOn third) : first.GoesOn third :=
  fun target h => hsecond target (hfirst target h)

theorem put (arguments : Arguments) (target : Target) (value : Value) :
    arguments.GoesOn (Table.put target value arguments) := by
  intro other h
  rw [Table.get?_put]
  split
  · rfl
  · exact h

theorem addItem (arguments : Arguments) (target : Target) (item : Item) :
    arguments.GoesOn (addItem arguments target item) := by
  unfold CommandLine.addItem
  split <;> exact put _ _ _

theorem applySwitch (h : applySwitch arguments spec = .ok next) : arguments.GoesOn next := by
  unfold CommandLine.applySwitch at h
  split at h
  · cases h
  · cases h
  · cases h
    exact put _ _ _
  · cases h

theorem applyValue {text : String} (h : applyValue arguments spec text = .ok next) :
    arguments.GoesOn next := by
  unfold CommandLine.applyValue at h
  split at h
  · split at h
    · cases h
      exact put _ _ _
    · split at h
      · cases h
        exact put _ _ _
      · cases h
  · cases h
    exact addItem _ _ _
  · cases h

theorem foldlM_applySwitch {specs : List OptionSpec}
    (h : specs.foldlM CommandLine.applySwitch arguments = .ok next) : arguments.GoesOn next := by
  induction specs generalizing arguments with
  | nil =>
      cases h
      exact refl _
  | cons spec rest ih =>
      rw [List.foldlM_cons] at h
      obtain ⟨mid, hmid, h⟩ := Checked.bind_eq_ok.1 h
      exact (applySwitch hmid).trans (ih h)

end Arguments.GoesOn

/-- Once a plain argument was read, there is a program. -/
def Progress.HasProgram (progress : Progress) : Prop :=
  progress.phase ≠ .program → (progress.arguments.get? (.setting .program)).isSome

namespace Progress.HasProgram

variable {progress after : Progress}

theorem close (h : progress.HasProgram) : progress.close.HasProgram := by
  unfold Progress.close
  split
  · exact h
  · next hphase => exact fun _ => h hphase

theorem leave (h : progress.HasProgram) (text : String) : (progress.leave text).HasProgram := h

theorem mark (h : progress.HasProgram) : progress.mark.HasProgram := by
  unfold Progress.mark
  split
  · exact h.leave "--"
  · exact h

theorem plain (h : progress.HasProgram) (text : String) : (progress.plain text).HasProgram := by
  unfold Progress.plain
  split
  · intro _
    simp [Table.get?_put]
  · next hphase =>
      have hprogram := h (by simp [hphase])
      split
      · exact fun _ => hprogram
      · exact fun _ => Arguments.GoesOn.put _ _ _ _ hprogram
  · next hphase _ => exact fun _ => h hphase

theorem apply {cluster : Cluster} {value : Option String} (h : progress.HasProgram)
    (happly : progress.apply cluster value = .ok after) : after.HasProgram := by
  unfold Progress.apply at happly
  obtain ⟨mid, hmid, happly⟩ := Checked.bind_eq_ok.1 happly
  have hmid := Arguments.GoesOn.foldlM_applySwitch hmid
  have hafter : ∀ last, Arguments.GoesOn mid last →
      Progress.HasProgram { progress.close with arguments := last } := fun last hlast hphase =>
    hmid.trans hlast _ (by simpa using h.close hphase)
  cases value with
  | none =>
      obtain ⟨last, hlast, happly⟩ := Checked.bind_eq_ok.1 happly
      cases happly
      exact hafter last (.applySwitch hlast)
  | some text =>
      obtain ⟨last, hlast, happly⟩ := Checked.bind_eq_ok.1 happly
      cases happly
      exact hafter last (.applyValue hlast)

/-- Reading arguments reads the program first. -/
theorem readTokens {tokens : List Token} (h : progress.HasProgram)
    (hread : readTokens progress tokens = .ok after) : after.HasProgram := by
  fun_induction CommandLine.readTokens progress tokens with
  | case1 progress =>
      cases hread
      exact h
  | case2 progress text rest ih => exact ih (h.plain text) hread
  | case3 progress rest ih => exact ih h.mark hread
  | case4 progress text rest ih => exact ih (h.close.leave text) hread
  | case6 progress spec name attached cluster hcluster _ text rest next happly ih =>
      exact ih (h.apply happly) hread
  | case9 progress spec name attached rest cluster hcluster _ next happly ih =>
      exact ih (h.apply happly) hread
  | case5 | case7 | case8 | case10 => cases hread

end Progress.HasProgram

/-- A command line that is not refused was read to its end. -/
theorem exists_readTokens_of_parse {strings : List String} (h : parse strings = .ok arguments) :
    ∃ tokens progress, classifyAll strings = .ok tokens ∧ readTokens {} tokens = .ok progress ∧
      progress.phase ≠ .program ∧ progress.arguments = arguments := by
  unfold parse at h
  obtain ⟨tokens, htokens, h⟩ := Checked.bind_eq_ok.1 h
  obtain ⟨progress, hprogress, h⟩ := Checked.bind_eq_ok.1 h
  have hclassify : classifyAll strings = .ok tokens := by
    cases hclassify : classifyAll strings with
    | ok found =>
        rw [hclassify] at htokens
        cases htokens
        rfl
    | error issue =>
        rw [hclassify] at htokens
        cases htokens
  by_cases hphase : progress.phase = .program
  · simp only [hphase, if_true] at h
    cases h
  · by_cases hleft : progress.leftOver = []
    · exact ⟨tokens, progress, hclassify, hprogress, hphase, by simpa [hphase, hleft] using h⟩
    · simp only [hphase, hleft, if_false, ne_eq, not_false_eq_true, if_true] at h
      cases h

/-- What a command line gives for a target can be given for it. -/
theorem given_of_parse {strings : List String} (h : parse strings = .ok arguments)
    (hvalue : arguments.get? target = some value) : Given target value := by
  obtain ⟨tokens, progress, htokens, hprogress, -, rfl⟩ := exists_readTokens_of_parse h
  exact lawful_readTokens .nil (known_of_classifyAll htokens) hprogress target value hvalue

/-! ## The shapes of values -/

/-- What a value is. -/
inductive Shape
  | flag
  | number
  | text
  | path
  | list
deriving DecidableEq, Repr

/-- The values of a shape. -/
inductive Shape.Holds : Shape → Value → Prop
  | flag (flag : Bool) : Holds .flag (.flag flag)
  | number (number : Int) : Holds .number (.integer number)
  | text (text : String) : Holds .text (.text text)
  | path (path : Path) : Holds .path (.path path)
  | list (items : List Item) : Holds .list (.list items)

/-- The settings that one option gives as a path. -/
def placeSettings : List Setting := [.buildDir, .snoopFile, .toolchainRoot]

/-- What is given for a target, the mark apart. The flags of the C compiler are one text. -/
def Target.shape : Target → Shape
  | .setting .copyFiles => .list
  | .setting .program | .setting .driverProgram | .driver | .config => .path
  | .setting which =>
    if which ∈ placeSettings then .path
    else match which.kind with
      | .flag => .flag
      | .level => .number
      | .words | .text => .text
  | .profile | .logLevel => .text

/-- What a value of an option is read as. -/
def Reading.shape : Reading → Shape
  | .text _ | .word _ => .text
  | .path _ => .path
  | .level _ => .number

/-- The target that an option gives a value to, and what the value is. -/
def Effect.target? : Effect → Option (Target × Shape)
  | .turnOn target => some (target, .flag)
  | .store target reading => some (target, reading.shape)
  | .collect target _ => some (target, .list)
  | .showHelp | .showVersion => none

/-- Each option gives what its target asks for, and none gives the program or the driver program. -/
theorem lawful_options :
    ∀ spec ∈ options, ∀ entry ∈ spec.effect.target?,
      entry.2 = entry.1.shape ∧ entry.1 ≠ .setting .program ∧ entry.1 ≠ .driver := by
  decide +kernel

theorem Reading.Gives.holds {reading : Reading} (h : reading.Gives value) :
    reading.shape.Holds value := by
  cases h with
  | text | word => exact .text _
  | path => exact .path _
  | level => exact .number _

theorem Effect.Gives.exists_target? {effect : Effect} (h : effect.Gives target value) :
    ∃ shape, effect.target? = some (target, shape) ∧ (shape.Holds value ∨ value = .list []) := by
  cases h with
  | turnOn => exact ⟨.flag, rfl, .inl (.flag true)⟩
  | store h => exact ⟨_, rfl, .inl h.holds⟩
  | mark => exact ⟨_, rfl, .inr rfl⟩
  | collect _ _ items => exact ⟨.list, rfl, .inl (.list items)⟩

theorem not_operand_of_gives (hspec : spec ∈ options) (h : spec.effect.Gives target value) :
    target ≠ .setting .program ∧ target ≠ .driver := by
  obtain ⟨shape, htarget, -⟩ := h.exists_target?
  exact (lawful_options spec hspec _ htarget).2

/-- What a command line gives for a target is what the target asks for, or an empty list if the mark
    stands in the place of the value. -/
theorem holds_or_mark_of_given (h : Given target value) :
    target.shape.Holds value ∨ value = .list [] := by
  cases h with
  | program path => exact .inl (.path path)
  | driver path => exact .inl (.path path)
  | option hspec hgives =>
      obtain ⟨shape, htarget, hvalue⟩ := hgives.exists_target?
      rw [← (lawful_options _ hspec _ htarget).1]
      exact hvalue

theorem path_or_mark_of_given (hshape : target.shape = .path) (h : Given target value) :
    (∃ path, value = .path path) ∨ value = .list [] := by
  refine (holds_or_mark_of_given h).imp_left fun hholds => ?_
  rw [hshape] at hholds
  cases hholds
  exact ⟨_, rfl⟩

theorem text_or_mark_of_given (hshape : target.shape = .text) (h : Given target value) :
    (∃ text, value = .text text) ∨ value = .list [] := by
  refine (holds_or_mark_of_given h).imp_left fun hholds => ?_
  rw [hshape] at hholds
  cases hholds
  exact ⟨_, rfl⟩

theorem list_of_given (hshape : target.shape = .list) (h : Given target value) :
    ∃ items, value = .list items := by
  obtain hholds | rfl := holds_or_mark_of_given h
  · rw [hshape] at hholds
    cases hholds
    exact ⟨_, rfl⟩
  · exact ⟨[], rfl⟩

theorem Target.shape_of_switch {setting : Setting} (hkind : setting.kind = .flag) :
    (Target.setting setting).shape = .flag := by
  cases setting <;> first | rfl | cases hkind

/-- A switch can only be turned on: the mark does not stand in the place of a value that no option takes. -/
theorem flag_of_given (hshape : target.shape = .flag) (h : Given target value) :
    value = .flag true := by
  cases h with
  | program path => cases hshape
  | driver path => cases hshape
  | @option spec _ _ hspec hgives =>
      obtain ⟨shape, htarget, -⟩ := hgives.exists_target?
      have hflag : shape = .flag := (lawful_options spec hspec _ htarget).1.trans hshape
      have hreading : ∀ reading : Reading, reading.shape ≠ .flag := by
        rintro (_ | _ | _ | _) <;> exact nofun
      generalize spec.effect = effect at htarget hgives
      cases hgives with
      | turnOn => rfl
      | store h =>
          cases htarget
          exact absurd hflag (hreading _)
      | mark =>
          cases htarget
          exact absurd hflag (hreading _)
      | collect =>
          cases htarget
          cases hflag

/-! ## The two programs -/

/-- No option gives the driver program, so the mark never stands in its place. -/
theorem driver_of_given (h : Given .driver value) : ∃ path, value = .path path := by
  cases h with
  | driver path => exact ⟨path, rfl⟩
  | option hspec h => exact absurd rfl (not_operand_of_gives hspec h).2

/-- No option gives the program, so a command line that is not refused gives it as a path. -/
theorem exists_program_of_parse {strings : List String} (h : parse strings = .ok arguments) :
    ∃ path, arguments.get? (.setting .program) = some (.path path) := by
  obtain ⟨tokens, progress, htokens, hprogress, hphase, rfl⟩ := exists_readTokens_of_parse h
  have hstart : Progress.HasProgram {} := fun hphase => absurd rfl hphase
  obtain ⟨value, hvalue⟩ := Option.isSome_iff_exists.1 (hstart.readTokens hprogress hphase)
  cases given_of_parse h hvalue with
  | program path => exact ⟨path, hvalue⟩
  | option hspec hgives => exact absurd rfl (not_operand_of_gives hspec hgives).1

end CommandLine
end JuliaNative
