import JuliaNative.Proofs.CommandLine.Options

set_option autoImplicit false

/-! # Where options stand

Options and plain arguments can change places where the plain arguments are read the same, for what
options do is not decided by plain arguments. So all options can stand before or behind the program and
the driver program. An option between the two closes the plain arguments, and the driver program is
left over (`parse_interleaved`). -/

namespace JuliaNative.CommandLine

/-! ## Reading options -/

/-- The progress behind some options. -/
def Progress.past (progress : Progress) : List (List String) → Progress
  | [] => progress
  | _ :: _ => progress.close

/-- Options behind options close the plain arguments no more than once. -/
theorem Progress.past_past (progress : Progress) (first next : Arguments)
    (options others : List (List String)) :
    { Progress.past { progress.past options with arguments := first } others with
        arguments := next } =
      { progress.past (options ++ others) with arguments := next } := by
  cases options <;> cases others <;> cases hphase : progress.phase <;> simp [past, close, hphase]

@[simp] theorem Progress.leftOver_past (progress : Progress) (options : List (List String)) :
    (progress.past options).leftOver = progress.leftOver := by
  cases options with
  | nil => rfl
  | cons => cases hphase : progress.phase <;> simp [past, close, hphase]

theorem Progress.phase_past_ne {progress : Progress} (h : progress.phase ≠ .program)
    (options : List (List String)) : (progress.past options).phase ≠ .program := by
  cases options with
  | nil => exact h
  | cons => cases hphase : progress.phase <;> simp_all [past, close]

/-- Before the program there are no plain arguments to close. -/
theorem Progress.past_of_program {progress : Progress} (h : progress.phase = .program)
    (options : List (List String)) : progress.past options = progress := by
  cases options with
  | nil => rfl
  | cons => simp [past, close, h]

/-- How options are read, whatever stands before and behind them: as which tokens, and what these do
    to the arguments. -/
structure ReadAs (options : List (List String)) (tokens : List Token)
    (deed : Arguments → Except Interruption Arguments) : Prop where
  understood : ∀ rest, classifyAll (options.flatten ++ rest) =
    (classifyAll rest).map (tokens ++ ·)
  minds : MindsOptions deed
  run : ∀ progress rest, readTokens progress (tokens ++ rest) =
    deed progress.arguments >>= fun arguments =>
      readTokens { progress.past options with arguments } rest

namespace ReadAs

variable {given others : List (List String)} {option : List String} {tokens first : List Token}
  {deed does : Arguments → Except Interruption Arguments}

theorem nil : ReadAs [] [] .ok where
  understood rest := by
    show classifyAll rest = (classifyAll rest).map id
    cases classifyAll rest <;> rfl
  minds := .nothing
  run _ _ := rfl

theorem append (hgiven : ReadAs given first does) (hothers : ReadAs others tokens deed) :
    ReadAs (given ++ others) (first ++ tokens) fun arguments => does arguments >>= deed where
  understood rest := by
    rw [List.flatten_append, List.append_assoc, hgiven.understood, hothers.understood]
    cases classifyAll rest <;> simp [Except.map]
  minds := hgiven.minds.andThen hothers.minds
  run progress rest := by
    rw [List.append_assoc, hgiven.run]
    cases does progress.arguments with
    | error interruption => rfl
    | ok arguments =>
        refine (hothers.run _ rest).trans ?_
        simp only [Progress.past_past]
        rfl

/-- How options are understood at the end of a command line. -/
theorem classifyAll_eq (h : ReadAs given tokens deed) : classifyAll given.flatten = .ok tokens := by
  rw [← List.append_nil given.flatten, h.understood, classifyAll, Except.map, List.append_nil]

variable {spec : OptionSpec} {argument value name : String} {attached : Option String}

/-- An option that is read by itself. -/
theorem single (hoption : classify argument = .ok (.option spec name attached))
    (hminds : MindsOptions does)
    (hrun : ∀ progress rest, readTokens progress (.option spec name attached :: rest) =
      does progress.arguments >>= fun arguments =>
        readTokens { progress.close with arguments } rest) :
    ReadAs [[argument]] [.option spec name attached] does where
  understood := classifyAll_cons hoption
  minds := hminds
  run := hrun

theorem exists_of_isOption (h : IsOption option) :
    ∃ tokens deed, ReadAs [option] tokens deed := by
  cases h with
  | @single argument spec name attached hoption hvalue =>
      refine ⟨[.option spec name attached], ?_⟩
      -- an argument whose characters name no options is refused whatever was given
      cases hcluster : Cluster.of spec name attached with
      | error issue =>
          refine ⟨fun _ => .error (.refused issue), single hoption (.interrupt _) ?_⟩
          intro progress rest
          simp only [readTokens, hcluster]
          rfl
      | ok cluster =>
          have hknown := Cluster.known_of (Token.known_of_classify hoption) hcluster
          have hcomplete : ¬ (cluster.value = none ∧ cluster.last.effect.takesValue) := by
            simpa [awaitsValue, hcluster] using hvalue
          refine ⟨cluster.act cluster.value, single hoption (hknown.mindsOptions_act _) ?_⟩
          intro progress rest
          simp only [readTokens, hcluster, if_neg hcomplete, Progress.apply_eq]
          cases cluster.act cluster.value progress.arguments <;> rfl
  | @withValue argument spec name attached value hoption hawaits hvalue =>
      obtain ⟨cluster, hcluster, hnone, htakes⟩ := exists_cluster_of_awaitsValue hawaits
      have hknown := Cluster.known_of (Token.known_of_classify hoption) hcluster
      refine ⟨[.option spec name attached, .plain value], cluster.act (some value),
        fun rest => ?_, hknown.mindsOptions_act _, fun progress rest => ?_⟩
      · show classifyAll (argument :: value :: rest) = _
        rw [classifyAll_cons hoption, classifyAll_cons hvalue]
        cases classifyAll rest <;> rfl
      · show readTokens progress (.option spec name attached :: .plain value :: rest) = _
        simp only [readTokens, hcluster, hnone, htakes, and_self, if_true, Progress.apply_eq]
        cases cluster.act (some value) progress.arguments <;> rfl

/-- By induction on the options: each is read behind the ones before it. -/
theorem exists_of_options (h : ∀ option ∈ given, IsOption option) :
    ∃ tokens deed, ReadAs given tokens deed := by
  induction given with
  | nil => exact ⟨[], .ok, nil⟩
  | cons option rest ih =>
      obtain ⟨hoption, hrest⟩ := List.forall_mem_cons.1 h
      obtain ⟨first, does, hfirst⟩ := exists_of_isOption hoption
      obtain ⟨tokens, deed, hrest⟩ := ih hrest
      exact ⟨_, _, hfirst.append hrest⟩

end ReadAs

/-! ## The program and the driver program -/

/-- The operands are given something, whatever options gave. -/
structure GivesOperands (give : Arguments → Arguments) : Prop where
  leaves : ∀ arguments, (give arguments).AgreeOn (¬ ·.IsOperand) arguments
  gives : ∀ first second, first.AgreeOn (·.IsOperand) second →
    (give first).AgreeOn (·.IsOperand) (give second)

theorem GivesOperands.put {target : Target} (h : target.IsOperand) (value : Value) :
    GivesOperands fun arguments => Table.put target value arguments where
  leaves arguments other hother := by
    rw [Table.get?_put, if_neg]
    rintro rfl
    exact hother h
  gives first second hsame other hother := by
    simp only [Table.get?_put, hsame other hother]

theorem GivesOperands.comp {give also : Arguments → Arguments} (hgive : GivesOperands give)
    (halso : GivesOperands also) : GivesOperands fun arguments => also (give arguments) where
  leaves arguments target ht :=
    (halso.leaves _ target ht).trans (hgive.leaves arguments target ht)
  gives first second h := halso.gives _ _ (hgive.gives first second h)

/-- Operands are given between options or before all of them. What options give is the same, and the
    operands are what was given to each. -/
theorem MindsOptions.behind {first last : Arguments → Except Interruption Arguments}
    {give also : Arguments → Arguments} (hfirst : MindsOptions first) (hlast : MindsOptions last)
    (hgive : GivesOperands give) (halso : GivesOperands also) (arguments : Arguments) :
    SameUpTo
      (fun result other => result.AgreeOn (¬ ·.IsOperand) other ∧
        (give arguments).AgreeOn (·.IsOperand) result ∧
        (also arguments).AgreeOn (·.IsOperand) other)
      (first arguments >>= fun found => last (give found)) (first (also arguments) >>= last) := by
  have hstart : arguments.AgreeOn (¬ ·.IsOperand) (also arguments) := fun target ht =>
    (halso.leaves arguments target ht).symm
  refine (hfirst _ _ hstart).bind fun found found' ⟨hsame, hfound, hfound'⟩ => ?_
  have hmid : (give found).AgreeOn (¬ ·.IsOperand) found' := fun target ht =>
    (hgive.leaves found target ht).trans (hsame target ht)
  refine (hlast _ _ hmid).mono fun result other ⟨hsame, hresult, hother⟩ => ?_
  exact ⟨hsame,
    fun target ht => (hgive.gives _ _ hfound target ht).trans (hresult target ht),
    fun target ht => (hfound' target ht).trans (hother target ht)⟩

/-- Options do the same before and behind operands. -/
theorem MindsOptions.give_behind {first last : Arguments → Except Interruption Arguments}
    {give : Arguments → Arguments} (hfirst : MindsOptions first) (hlast : MindsOptions last)
    (hgive : GivesOperands give) (arguments : Arguments) :
    SameUpTo Arguments.Same (first arguments >>= fun found => last (give found))
      (first (give arguments) >>= last) := by
  refine (hfirst.behind hlast hgive hgive arguments).mono fun result other h => ?_
  obtain ⟨hsame, hresult, hother⟩ := h
  refine .of_get? fun target => ?_
  by_cases ht : target.IsOperand
  · exact (hresult target ht).symm.trans (hother target ht)
  · exact hsame target ht

/-- The program is given. -/
def giveProgram (program : String) (arguments : Arguments) : Arguments :=
  arguments.put (.setting .program) (.path (Path.ofString program))

/-- The program and the driver program are given. -/
def giveOperands (program driver : String) (arguments : Arguments) : Arguments :=
  (giveProgram program arguments).put .driver (.path (Path.ofString driver))

theorem givesOperands_giveProgram (program : String) : GivesOperands (giveProgram program) :=
  .put (.inl rfl) _

theorem givesOperands_giveOperands (program driver : String) :
    GivesOperands (giveOperands program driver) :=
  (givesOperands_giveProgram program).comp (.put (.inr rfl) _)

theorem classify_of_beginsWith {text : String} (h : beginsWith text "-" = false) :
    classify text = .ok (.plain text) := by
  unfold classify
  split
  · next heq => simp [beginsWith, heq] at h
  · rfl

/-- What comes of a command line that was read to its end. -/
def Progress.finish (progress : Progress) : Except Interruption Arguments := do
  if progress.phase = .program then throw (.refused .programMissing)
  if progress.leftOver ≠ [] then throw (.refused (.unrecognized progress.leftOver))
  pure progress.arguments

theorem parse_eq {strings : List String} {tokens : List Token}
    (h : classifyAll strings = .ok tokens) : parse strings = readTokens {} tokens >>= Progress.finish := by
  unfold parse
  rw [h]
  rfl

theorem Progress.finish_of_nil (progress : Progress) (hphase : progress.phase ≠ .program)
    (hleft : progress.leftOver = []) : progress.finish = .ok progress.arguments := by
  unfold finish
  rw [if_neg hphase, if_neg (not_not.2 hleft)]
  rfl

theorem Progress.finish_of_leftOver (progress : Progress) (hphase : progress.phase ≠ .program)
    (hleft : progress.leftOver ≠ []) :
    progress.finish = .error (.refused (.unrecognized progress.leftOver)) := by
  unfold finish
  rw [if_neg hphase, if_pos hleft]
  rfl

namespace ReadAs

variable {given : List (List String)} {tokens : List Token}
  {deed : Arguments → Except Interruption Arguments}

/-- What comes of options at the end of a command line. -/
theorem ends (h : ReadAs given tokens deed) (progress : Progress) :
    readTokens progress tokens >>= Progress.finish =
      deed progress.arguments >>= fun arguments =>
        Progress.finish { progress.past given with arguments } := by
  have hrun := h.run progress []
  rw [List.append_nil] at hrun
  rw [hrun]
  cases deed progress.arguments <;> rfl

/-- If nothing is left over before them, it is what they do. -/
theorem ends_of_nil (h : ReadAs given tokens deed) {progress : Progress}
    (hphase : progress.phase ≠ .program) (hleft : progress.leftOver = []) :
    readTokens progress tokens >>= Progress.finish = deed progress.arguments := by
  rw [h.ends]
  cases deed progress.arguments with
  | error interruption => rfl
  | ok arguments =>
      exact Progress.finish_of_nil _ (Progress.phase_past_ne hphase given) (by simpa using hleft)

/-- What was left over before them is refused behind what they do. -/
theorem ends_of_leftOver (h : ReadAs given tokens deed) {progress : Progress}
    (hphase : progress.phase ≠ .program) (hleft : progress.leftOver ≠ []) :
    readTokens progress tokens >>= Progress.finish =
      deed progress.arguments >>= fun _ => .error (.refused (.unrecognized progress.leftOver)) := by
  rw [h.ends]
  cases deed progress.arguments with
  | error interruption => rfl
  | ok arguments =>
      refine (Progress.finish_of_leftOver { progress.past given with arguments }
        (Progress.phase_past_ne hphase given) (by simpa using hleft)).trans ?_
      simp only [Progress.leftOver_past]
      rfl

end ReadAs

section WholeLine

variable {program driver : String} {before between after : List (List String)}
  {tokens mid last : List Token} {first next rest : Arguments → Except Interruption Arguments}

theorem Progress.plain_driver (h : beginsWith driver "-" = false) (arguments : Arguments) :
    Progress.plain ⟨giveProgram program arguments, .driver, []⟩ driver =
      ⟨giveOperands program driver arguments, .filled, []⟩ := by
  have hmark : driver ≠ "--" := by
    rintro rfl
    revert h
    decide
  simp [plain, hmark, giveOperands]

theorem parse_program (hprogram : beginsWith program "-" = false)
    (hbefore : ReadAs before tokens first) (hafter : ReadAs after last rest) :
    parse (before.flatten ++ program :: after.flatten) =
      first [] >>= fun arguments => rest (giveProgram program arguments) := by
  have htokens : classifyAll (before.flatten ++ program :: after.flatten) =
      .ok (tokens ++ .plain program :: last) := by
    rw [hbefore.understood, classifyAll_cons (classify_of_beginsWith hprogram),
      hafter.classifyAll_eq]
    rfl
  rw [parse_eq htokens, hbefore.run, Progress.past_of_program rfl]
  cases first [] with
  | error interruption => rfl
  | ok arguments =>
      show readTokens ⟨giveProgram program arguments, .driver, []⟩ last >>= Progress.finish = _
      exact hafter.ends_of_nil (by simp) rfl

theorem parse_operands (hprogram : beginsWith program "-" = false)
    (hdriver : beginsWith driver "-" = false)
    (hbefore : ReadAs before tokens first) (hafter : ReadAs after last rest) :
    parse (before.flatten ++ program :: driver :: after.flatten) =
      first [] >>= fun arguments => rest (giveOperands program driver arguments) := by
  have htokens : classifyAll (before.flatten ++ program :: driver :: after.flatten) =
      .ok (tokens ++ .plain program :: .plain driver :: last) := by
    rw [hbefore.understood, classifyAll_cons (classify_of_beginsWith hprogram),
      classifyAll_cons (classify_of_beginsWith hdriver), hafter.classifyAll_eq]
    rfl
  rw [parse_eq htokens, hbefore.run, Progress.past_of_program rfl]
  cases first [] with
  | error interruption => rfl
  | ok arguments =>
      show readTokens (Progress.plain ⟨giveProgram program arguments, .driver, []⟩ driver) last >>=
        Progress.finish = _
      rw [Progress.plain_driver hdriver]
      exact hafter.ends_of_nil (by simp) rfl

/-- Options between the program and the driver program leave the driver program over. -/
theorem parse_apart (hprogram : beginsWith program "-" = false)
    (hdriver : beginsWith driver "-" = false) (hsome : between ≠ [])
    (hbefore : ReadAs before tokens first) (hbetween : ReadAs between mid next)
    (hafter : ReadAs after last rest) :
    parse (before.flatten ++ program :: (between.flatten ++ driver :: after.flatten)) =
      (first [] >>= fun arguments => next (giveProgram program arguments) >>= rest) >>= fun _ =>
        .error (.refused (.unrecognized [driver])) := by
  have htokens :
      classifyAll (before.flatten ++ program :: (between.flatten ++ driver :: after.flatten)) =
        .ok (tokens ++ .plain program :: (mid ++ .plain driver :: last)) := by
    rw [hbefore.understood, classifyAll_cons (classify_of_beginsWith hprogram),
      hbetween.understood, classifyAll_cons (classify_of_beginsWith hdriver),
      hafter.classifyAll_eq]
    rfl
  rw [parse_eq htokens, hbefore.run, Progress.past_of_program rfl]
  cases first [] with
  | error interruption => rfl
  | ok arguments =>
      show readTokens ⟨giveProgram program arguments, .driver, []⟩ (mid ++ .plain driver :: last) >>=
        Progress.finish = (next (giveProgram program arguments) >>= rest) >>= _
      rw [hbetween.run]
      cases next (giveProgram program arguments) with
      | error interruption => rfl
      | ok arguments =>
          -- an option has closed the plain arguments, so that the driver program is left over
          obtain ⟨option, others, rfl⟩ := List.exists_cons_of_ne_nil hsome
          show readTokens ⟨arguments, .closed, [driver]⟩ last >>= Progress.finish = _
          exact hafter.ends_of_leftOver (by simp) (by simp)

end WholeLine

/-- Options can stand before and behind the program and the driver program, but not between them:
    there the driver program is left over, if no option ends the reading before. A program alone can
    stand anywhere. -/
theorem parse_interleaved {program driver : String} {before between after : List (List String)}
    (hprogram : beginsWith program "-" = false) (hdriver : beginsWith driver "-" = false)
    (hoptions : ∀ option ∈ before ++ between ++ after, IsOption option) :
    SameUpTo Arguments.Same
      (parse (before.flatten ++ program :: (between.flatten ++ driver :: after.flatten)))
      (if between = [] then parse (program :: driver :: (before ++ after).flatten)
        else do
          let _ ← parse (program :: driver :: (before ++ between ++ after).flatten)
          throw (.refused (.unrecognized [driver]))) ∧
    SameUpTo Arguments.Same (parse (before.flatten ++ program :: after.flatten))
      (parse (program :: (before ++ after).flatten)) := by
  obtain ⟨hoptions, hafter⟩ := List.forall_mem_append.1 hoptions
  obtain ⟨hbefore, hbetween⟩ := List.forall_mem_append.1 hoptions
  obtain ⟨tokens, first, hbefore⟩ := ReadAs.exists_of_options hbefore
  obtain ⟨mid, next, hbetween⟩ := ReadAs.exists_of_options hbetween
  obtain ⟨last, rest, hafter⟩ := ReadAs.exists_of_options hafter
  refine ⟨?_, ?_⟩
  · split
    · next hnone =>
        have hfirst : parse (program :: driver :: (before ++ after).flatten) =
            first (giveOperands program driver []) >>= rest :=
          parse_operands hprogram hdriver .nil (hbefore.append hafter)
        rw [hfirst, hnone, List.flatten_nil, List.nil_append,
          parse_operands hprogram hdriver hbefore hafter]
        exact hbefore.minds.give_behind hafter.minds (givesOperands_giveOperands program driver) []
    · next hsome =>
        have hbehind := hbetween.append hafter
        have hfirst : parse (program :: driver :: (before ++ (between ++ after)).flatten) =
            first (giveOperands program driver []) >>= fun arguments => next arguments >>= rest :=
          parse_operands hprogram hdriver .nil (hbefore.append hbehind)
        rw [List.append_assoc, hfirst, parse_apart hprogram hdriver hsome hbefore hbetween hafter]
        refine (hbefore.minds.behind hbehind.minds (givesOperands_giveProgram program)
          (givesOperands_giveOperands program driver) []).bind fun _ _ _ => ?_
        exact .interrupted (.refused (.unrecognized [driver]))
  · have hfirst : parse (program :: (before ++ after).flatten) =
        first (giveProgram program []) >>= rest :=
      parse_program hprogram .nil (hbefore.append hafter)
    rw [hfirst, parse_program hprogram hbefore hafter]
    exact hbefore.minds.give_behind hafter.minds (givesOperands_giveProgram program) []

/-- Options around the two programs, with short options in one argument and values of both kinds, and
    an option between them. Without that, the command line is read. -/
theorem parse_interleaved_hello :
    (beginsWith "hello.jl" "-" = false ∧ beginsWith "main.c" "-" = false ∧
      ∀ option ∈ [["-d", "out"], ["--cc-flags=-Wall -O2"], ["-aes"], ["-O3"]], IsOption option) ∧
      SameUpTo Arguments.Same
        (parse ["-d", "out", "--cc-flags=-Wall -O2", "hello.jl", "main.c", "-aes", "-O3"])
        (parse ["hello.jl", "main.c", "-d", "out", "--cc-flags=-Wall -O2", "-aes", "-O3"]) ∧
      (parse ["hello.jl", "main.c", "-d", "out", "--cc-flags=-Wall -O2", "-aes", "-O3"]).toBool ∧
      SameUpTo Arguments.Same (parse ["-d", "out", "hello.jl", "-aes", "main.c", "-O3"]) (do
        let _ ← parse ["hello.jl", "main.c", "-d", "out", "-aes", "-O3"]
        throw (.refused (.unrecognized ["main.c"]))) := by
  have hprogram : beginsWith "hello.jl" "-" = false := by decide
  have hdriver : beginsWith "main.c" "-" = false := by decide
  have hoptions : ∀ option ∈ [["-d", "out"], ["--cc-flags=-Wall -O2"], ["-aes"], ["-O3"]],
      IsOption option := by
    decide +kernel
  have haround : ∀ option ∈ [["-d", "out"], ["--cc-flags=-Wall -O2"]] ++ [] ++ [["-aes"], ["-O3"]],
      IsOption option := hoptions
  have hbetween : ∀ option ∈ [["-d", "out"]] ++ [["-aes"]] ++ [["-O3"]], IsOption option :=
    fun option h => hoptions option (by revert h; simp; tauto)
  have hsame := (parse_interleaved hprogram hdriver haround).1
  have hrefused := (parse_interleaved hprogram hdriver hbetween).1
  rw [if_pos rfl] at hsame
  rw [if_neg (List.cons_ne_nil _ _)] at hrefused
  exact ⟨⟨hprogram, hdriver, hoptions⟩, hsame, by decide +kernel, hrefused⟩

/-- An option between the two programs leaves the driver program over, which is read where it stands
    right behind the program. -/
theorem option_between_operands :
    beginsWith "app.jl" "-" = false ∧ beginsWith "main.c" "-" = false ∧ IsOption ["-v"] ∧
      ¬ SameUpTo Arguments.Same (parse ["app.jl", "-v", "main.c"])
        (parse ["app.jl", "main.c", "-v"]) := by
  have hrefused : parse ["app.jl", "-v", "main.c"] = .error (.refused (.unrecognized ["main.c"])) := by
    decide +kernel
  have hread : (parse ["app.jl", "main.c", "-v"]).toBool = true := by decide +kernel
  refine ⟨by decide, by decide, by decide +kernel, fun hsame => ?_⟩
  rw [hrefused] at hsame
  rw [hsame.eq_error] at hread
  cases hread

end JuliaNative.CommandLine
