import JuliaNative.Julia.Report
import JuliaNative.Proofs.Readable
import JuliaNative.Proofs.Table
import JuliaNative.Proofs.Text.Lines
import JuliaNative.Proofs.Text.Written

set_option autoImplicit false

/-! # Reading what julia printed

What comes of a report depends on the facts in it: if nothing is missing, on the version alone
(`ofReport_of_complete`), and else it is refused (`ofReport_of_not_complete`).

julia prints one line for each fact about itself and one for each argument of its command; a startup file
may print other lines anywhere between them. Whatever the order, the runtime that is read from the report is
the one that julia printed (`ofReport_printed`): the values of facts are cut out of their lines at the first
equals sign, an argument is kept with its blanks and its equals signs, and a line with none of the keys in
front of its first equals sign changes nothing. -/

namespace JuliaNative.Runtime

/-! ## Lines and facts -/

section Facts

variable {before : List Char} {told : List (String × List Char)} {key : String} {value : List Char}

theorem ne_sign_of_not_mem (h : '=' ∉ before) : ∀ c ∈ before, decide (c ≠ '=') = true :=
  fun _ hc => decide_eq_true fun heq => h (heq ▸ hc)

theorem splitLine_of_not_mem (h : '=' ∉ before) : splitLine before = none := by
  have hdrop : before.dropWhile (· ≠ '=') = [] := List.dropWhile_eq_nil_iff.2 (ne_sign_of_not_mem h)
  rw [splitLine, hdrop]

/-- A line is cut at its first equals sign. -/
theorem splitLine_append (h : '=' ∉ before) (behind : List Char) :
    splitLine (before ++ '=' :: behind) = some (String.ofList (Text.trim before), behind) := by
  rw [splitLine, List.dropWhile_append_of_pos (ne_sign_of_not_mem h),
    List.takeWhile_append_of_pos (ne_sign_of_not_mem h)]
  simp

/-- A value that a key is told with, and no other one, is what is looked up. -/
theorem lookup_eq_some (hmem : (key, value) ∈ told) (honly : ∀ other, (key, other) ∈ told → other = value) :
    told.lookup key = some value := by
  induction told with
  | nil => cases hmem
  | cons fact rest ih =>
      obtain ⟨name, found⟩ := fact
      by_cases heq : key = name
      · subst heq
        rw [List.lookup_cons_self, honly found (List.mem_cons_self ..)]
      · have hrest : (key, value) ∈ rest := by simpa [heq] using hmem
        rw [List.lookup_cons, beq_eq_false_iff_ne.2 heq]
        exact ih hrest fun other hother => honly other (List.mem_cons_of_mem _ hother)

theorem lastFact?_eq_some (hmem : (key, value) ∈ told)
    (honly : ∀ other, (key, other) ∈ told → other = value) :
    lastFact? told key = some (String.ofList (Text.trim value)) := by
  have hlookup : told.reverse.lookup key = some value :=
    lookup_eq_some (List.mem_reverse.2 hmem) fun other hother => honly other (List.mem_reverse.1 hother)
  rw [lastFact?, hlookup]
  rfl

end Facts

/-! ## Complete reports -/

/-- The value of a key in a report. -/
def factOf (report key : String) : String :=
  (lastFact? (reportedFacts report) key).getD ""

/-- The required keys without a value in a report. -/
def missingKeys (report : String) : List String :=
  requiredKeys.filter fun key => (lastFact? (reportedFacts report) key).isNone

theorem missingKeys_eq_nil_iff {report : String} :
    missingKeys report = [] ↔
      ∀ key ∈ requiredKeys, (lastFact? (reportedFacts report) key).isSome = true := by
  simp [missingKeys, Option.isSome_iff_ne_none]

/-- A report with a value for every key that is required, an argument of the command, and a word size that
    can be read. -/
structure Complete (report : String) (wordSize : Int) : Prop where
  keys : ∀ key ∈ requiredKeys, (lastFact? (reportedFacts report) key).isSome = true
  command : reportedCommand (reportedFacts report) ≠ []
  wordSize : Text.integer? (factOf report "word_size") = .ok wordSize

/-- The runtime that a complete report tells. -/
def told (report : String) (wordSize : Int) : Runtime where
  version := factOf report "version"
  bindir := Path.ofString (factOf report "bindir")
  libdir := factOf report "libdir"
  privateLibdir := factOf report "private_libdir"
  includedir := factOf report "includedir"
  dlext := factOf report "dlext"
  wordSize := wordSize
  arch := factOf report "arch"
  command := reportedCommand (reportedFacts report)
  threading := Text.lower ((lastFact? (reportedFacts report) "threading").getD "true") = "true"

/-- With a complete report everything depends on its version. -/
theorem ofReport_of_complete {report : String} {wordSize : Int} (h : Complete report wordSize) :
    Runtime.ofReport report =
      match Version.parse (factOf report "version") with
      | .error (.unreadable text) => .error (.issue (.versionUnreadable text))
      | .error (.tooLong digits) => .error (.versionTooLong digits)
      | .ok _ => .ok (told report wordSize) := by
  have hmissing := missingKeys_eq_nil_iff.2 h.keys
  have hsize := h.wordSize
  unfold missingKeys at hmissing
  unfold factOf at hsize ⊢
  unfold Runtime.ofReport
  simp only [hmissing, if_neg h.command, hsize, ne_eq, not_true_eq_false, if_false, pure_bind]
  cases Version.parse ((lastFact? (reportedFacts report) "version").getD "") with
  | ok version => rfl
  | error fault =>
      cases fault with
      | unreadable text => rfl
      | tooLong digits => rfl

/-- A report that is not complete is refused with an issue. -/
theorem ofReport_of_not_complete {report : String} (h : ∀ wordSize, ¬ Complete report wordSize) :
    ∃ issue, Runtime.ofReport report = .error (.issue issue) := by
  unfold Runtime.ofReport
  by_cases hmissing : missingKeys report = []
  · by_cases hcommand : reportedCommand (reportedFacts report) = []
    · refine ⟨.commandMissing, ?_⟩
      unfold missingKeys at hmissing
      simp only [hmissing, hcommand]
      rfl
    · cases hsize : Text.integer? (factOf report "word_size") with
      | ok wordSize => exact absurd ⟨missingKeys_eq_nil_iff.1 hmissing, hcommand, hsize⟩ (h wordSize)
      | error fault =>
          refine ⟨.wordSizeInvalid (factOf report "word_size"), ?_⟩
          unfold missingKeys at hmissing
          unfold factOf at hsize ⊢
          simp only [hmissing, if_neg hcommand, hsize, ne_eq, not_true_eq_false, if_false]
          rfl
  · refine ⟨.keysMissing (missingKeys report), ?_⟩
    unfold missingKeys at hmissing ⊢
    simp only [if_pos hmissing]
    rfl

/-! ## What julia prints -/

/-- A line of what julia prints: a fact, an argument of its command, or anything else. -/
inductive Printed
  | fact (key value : String)
  | argument (value : String)
  | noise (text : String)
deriving DecidableEq, Repr

namespace Printed

/-- The characters of a line. -/
def text : Printed → String
  | .fact key value => key ++ "=" ++ value
  | .argument value => "cmd" ++ "=" ++ value
  | .noise text => text

/-- The fact that a line tells. -/
def fact? : Printed → Option (String × String)
  | .fact key value => some (key, value)
  | _ => none

/-- The argument that a line tells. -/
def argument? : Printed → Option String
  | .argument value => some value
  | _ => none

end Printed

/-- The text that is printed with a line feed behind every line. -/
def printedText (printed : List Printed) : String :=
  String.join (printed.map (·.text ++ "\n"))

/-- The keys that facts are told with. -/
def factKeys : List String :=
  requiredKeys ++ ["threading"]

/-- The keys with a meaning in a report: those of facts, and the one for arguments. -/
def knownKeys : List String :=
  factKeys ++ ["cmd"]

/-- A line that means nothing: what stands in front of its first equals sign, if it has one, is no key. -/
def IsNoise (line : List Char) : Prop :=
  ∀ before behind, line = before ++ '=' :: behind → '=' ∉ before →
    String.ofList (Text.trim before) ∉ knownKeys

/-- A line means nothing exactly if no key with a meaning is read from it. -/
theorem isNoise_iff {line : List Char} : IsNoise line ↔ ∀ fact ∈ splitLine line, fact.1 ∉ knownKeys := by
  constructor
  · intro h fact hfact
    by_cases hsign : '=' ∈ line
    · obtain ⟨before, behind, heq, hbefore⟩ := List.eq_append_cons_of_mem hsign
      rw [heq, splitLine_append hbefore] at hfact
      cases hfact
      exact h before behind heq hbefore
    · rw [splitLine_of_not_mem hsign] at hfact
      cases hfact
  · intro h before behind heq hbefore
    rw [heq, splitLine_append hbefore] at h
    exact h _ rfl

instance (line : List Char) : Decidable (IsNoise line) :=
  decidable_of_iff _ isNoise_iff.symm

/-- The facts that julia prints about a runtime, with the text that names its directory of programs. -/
def facts (runtime : Runtime) (directory : String) : Table String String :=
  [("version", runtime.version), ("bindir", directory), ("libdir", runtime.libdir),
    ("private_libdir", runtime.privateLibdir), ("includedir", runtime.includedir),
    ("dlext", runtime.dlext), ("word_size", toString runtime.wordSize), ("arch", runtime.arch),
    ("threading", toString runtime.threading)]

/-- A text that julia prints as the value of a fact: it has no character that ends lines, and no blanks at
    its ends. -/
def IsValue (text : String) : Prop :=
  Text.IsPlain text.toList ∧ Text.Unpadded text.toList

instance (text : String) : Decidable (IsValue text) :=
  inferInstanceAs (Decidable (Text.IsPlain text.toList ∧ Text.Unpadded text.toList))

/-- A runtime about which julia can print a line for each fact and each argument: the texts are values, the
    arguments have no characters that end lines, and the word size has no more digits than numbers that
    are read. -/
structure Printable (runtime : Runtime) (directory : String) : Prop where
  bindir : runtime.bindir = Path.ofString directory
  texts : ∀ text ∈ [runtime.version, directory, runtime.libdir, runtime.privateLibdir,
    runtime.includedir, runtime.dlext, runtime.arch], IsValue text
  wordSize : runtime.wordSize.natAbs < 10 ^ Text.maximalDigits
  command : runtime.command ≠ []
  arguments : ∀ argument ∈ runtime.command, Text.IsPlain argument.toList

/-- Lines that tell all about a runtime: every fact has its line, in whatever order, the arguments of the
    command have theirs in their order, and all other lines mean nothing. -/
structure Tells (printed : List Printed) (runtime : Runtime) (directory : String) : Prop where
  facts : (printed.filterMap Printed.fact?).Perm (runtime.facts directory)
  command : printed.filterMap Printed.argument? = runtime.command
  noise : ∀ text, Printed.noise text ∈ printed → Text.IsPlain text.toList ∧ IsNoise text.toList

section Telling

variable {runtime : Runtime} {directory report : String} {printed : List Printed} {line : Printed}
  {fact : String × String}

theorem keys_facts (runtime : Runtime) (directory : String) :
    (runtime.facts directory).keys = factKeys :=
  rfl

theorem mem_factKeys (h : fact ∈ runtime.facts directory) : fact.1 ∈ factKeys :=
  Table.mem_keys_of_mem h

theorem mem_knownKeys (h : fact ∈ runtime.facts directory) : fact.1 ∈ knownKeys :=
  List.mem_append_left _ (mem_factKeys h)

theorem ne_command (h : fact ∈ runtime.facts directory) : fact.1 ≠ "cmd" := by
  have hcommand : "cmd" ∉ factKeys := by decide
  exact fun heq => hcommand (heq ▸ mem_factKeys h)

/-- A key is told one value. -/
theorem eq_of_mem_facts {key value other : String} (h : (key, value) ∈ runtime.facts directory)
    (hother : (key, other) ∈ runtime.facts directory) : other = value := by
  have hnodup : (runtime.facts directory).keys.Nodup := by
    rw [keys_facts]
    decide
  rw [← Table.get?_eq_some_iff hnodup] at h hother
  exact Option.some.inj (hother.symm.trans h)

theorem isPlain_of_mem_knownKeys {key : String} (h : key ∈ knownKeys) : Text.IsPlain key.toList := by
  revert key
  decide +kernel

/-- All values of facts can be printed. -/
theorem Printable.isValue (h : runtime.Printable directory) (hfact : fact ∈ runtime.facts directory) :
    IsValue fact.2 := by
  have hwordSize : IsValue (toString runtime.wordSize) :=
    ⟨fun _ hc => Text.isLineEnd_of_isBlank (Text.isBlank_of_mem_toString hc), Text.unpadded_toString _⟩
  have hthreading : ∀ threading : Bool, IsValue (toString threading) := by
    decide +kernel
  have htexts := h.texts
  simp only [List.forall_mem_cons] at htexts
  obtain ⟨hversion, hdirectory, hlibdir, hprivate, hinclude, hdlext, harch, hnone⟩ := htexts
  have hfacts : ∀ fact ∈ runtime.facts directory, IsValue fact.2 := by
    simp only [facts, List.forall_mem_cons]
    exact ⟨hversion, hdirectory, hlibdir, hprivate, hinclude, hdlext, hwordSize, harch, hthreading _,
      List.forall_mem_nil _⟩
  exact hfacts fact hfact

/-- A key stands in front of the first equals sign of its line. -/
theorem splitLine_known {key : String} (hkey : key ∈ knownKeys) (value : String) :
    splitLine (key ++ "=" ++ value).toList = some (key, value.toList) := by
  have hkeys : ∀ key ∈ knownKeys, '=' ∉ key.toList ∧ Text.Unpadded key.toList := by
    decide +kernel
  obtain ⟨hsign, hunpadded⟩ := hkeys key hkey
  have hchars : (key ++ "=" ++ value).toList = key.toList ++ '=' :: value.toList := by
    simp
  rw [hchars, splitLine_append hsign, Text.trim_of_unpadded hunpadded, String.ofList_toList]

theorem splitLine_argument (value : String) :
    splitLine ("cmd" ++ "=" ++ value).toList = some ("cmd", value.toList) :=
  splitLine_known (by decide) value

/-- The lines of a report, as they are read. -/
theorem reportedFacts_eq (hreport : Text.ConsistsOf (printed.map (·.text.toList)) report.toList) :
    reportedFacts report = printed.filterMap fun line => splitLine line.text.toList := by
  rw [reportedFacts, Text.lines_eq_iff.2 hreport, List.filterMap_map]
  rfl

namespace Tells

theorem mem_facts (h : Tells printed runtime directory) {key value : String} :
    Printed.fact key value ∈ printed ↔ (key, value) ∈ runtime.facts directory := by
  rw [← h.facts.mem_iff, List.mem_filterMap]
  constructor
  · exact fun hmem => ⟨_, hmem, rfl⟩
  · rintro ⟨line, hline, hfact⟩
    cases line with
    | fact other found =>
        obtain ⟨rfl, rfl⟩ := Prod.mk.inj (Option.some.inj hfact)
        exact hline
    | argument _ => cases hfact
    | noise _ => cases hfact

/-- With the key of a fact, only the value of the fact is read. -/
theorem eq_of_splitLine (h : Tells printed runtime directory) (hline : line ∈ printed)
    {key value : String} {found : List Char} (hfact : (key, value) ∈ runtime.facts directory)
    (hsplit : splitLine line.text.toList = some (key, found)) : found = value.toList := by
  cases line with
  | fact name other =>
      have hother := h.mem_facts.1 hline
      rw [Printed.text, splitLine_known (mem_knownKeys hother)] at hsplit
      obtain ⟨rfl, rfl⟩ := Prod.mk.inj (Option.some.inj hsplit)
      rw [eq_of_mem_facts hfact hother]
  | argument argument =>
      rw [Printed.text, splitLine_argument] at hsplit
      exact absurd (Prod.mk.inj (Option.some.inj hsplit)).1.symm (ne_command hfact)
  | noise text =>
      exact absurd (mem_knownKeys hfact) (isNoise_iff.1 (h.noise text hline).2 _ hsplit)

/-- A fact is found under its key. -/
theorem lastFact?_eq (h : Tells printed runtime directory) {key value : String}
    (hfact : (key, value) ∈ runtime.facts directory) (hvalue : Text.Unpadded value.toList) :
    lastFact? (printed.filterMap fun line => splitLine line.text.toList) key = some value := by
  have htold : (key, value.toList) ∈ printed.filterMap fun line => splitLine line.text.toList :=
    List.mem_filterMap.2 ⟨_, h.mem_facts.2 hfact, splitLine_known (mem_knownKeys hfact) value⟩
  have honly : ∀ found, (key, found) ∈ (printed.filterMap fun line => splitLine line.text.toList) →
      found = value.toList := by
    intro found hfound
    obtain ⟨line, hline, hsplit⟩ := List.mem_filterMap.1 hfound
    exact h.eq_of_splitLine hline hfact hsplit
  rw [lastFact?_eq_some htold honly, Text.trim_of_unpadded hvalue, String.ofList_toList]

/-- The arguments of the command are the lines for them. -/
theorem reportedCommand_eq (h : Tells printed runtime directory) :
    reportedCommand (printed.filterMap fun line => splitLine line.text.toList) = runtime.command := by
  rw [← h.command, reportedCommand, List.filterMap_filterMap]
  refine List.filterMap_congr fun line hline => ?_
  cases line with
  | fact key value =>
      have hfact := h.mem_facts.1 hline
      rw [Printed.text, splitLine_known (mem_knownKeys hfact)]
      exact if_neg (ne_command hfact)
  | argument value =>
      rw [Printed.text, splitLine_argument]
      exact congrArg some String.ofList_toList
  | noise text =>
      cases hsplit : splitLine (Printed.noise text).text.toList with
      | none => rfl
      | some found =>
          have hunknown := isNoise_iff.1 (h.noise text hline).2 _ hsplit
          exact if_neg fun heq : found.1 = "cmd" => hunknown (heq ▸ by decide)

variable (hruntime : runtime.Printable directory)
  (hreport : reportedFacts report = printed.filterMap fun line => splitLine line.text.toList)

include hruntime hreport in
theorem factOf_eq (h : Tells printed runtime directory) {key value : String}
    (hfact : (key, value) ∈ runtime.facts directory) : factOf report key = value := by
  rw [factOf, hreport, h.lastFact?_eq hfact (hruntime.isValue hfact).2, Option.getD_some]

include hruntime hreport in
/-- Nothing is missing from the report. -/
theorem complete (h : Tells printed runtime directory) : Complete report runtime.wordSize where
  keys key hkey := by
    have hfactKey : key ∈ (runtime.facts directory).keys := List.mem_append_left _ hkey
    obtain ⟨fact, hfact, rfl⟩ := List.mem_map.1 hfactKey
    rw [hreport, h.lastFact?_eq hfact (hruntime.isValue hfact).2]
    rfl
  command := by
    rw [hreport, h.reportedCommand_eq]
    exact hruntime.command
  wordSize := by
    have hsize : factOf report "word_size" = toString runtime.wordSize :=
      h.factOf_eq hruntime hreport (by simp [Runtime.facts])
    rw [hsize, Text.integer?_toString hruntime.wordSize]

include hruntime hreport in
/-- The report tells the runtime. -/
theorem told_eq (h : Tells printed runtime directory) : told report runtime.wordSize = runtime := by
  have hfacts : ∀ fact ∈ runtime.facts directory, factOf report fact.1 = fact.2 :=
    fun _ hfact => h.factOf_eq hruntime hreport hfact
  simp only [Runtime.facts, List.forall_mem_cons] at hfacts
  obtain ⟨hversion, hbindir, hlibdir, hprivate, hinclude, hdlext, -, harch, -⟩ := hfacts
  have hthreading : lastFact? (reportedFacts report) "threading" = some (toString runtime.threading) := by
    have hfact : ("threading", toString runtime.threading) ∈ runtime.facts directory := by
      simp [Runtime.facts]
    rw [hreport, h.lastFact?_eq hfact (hruntime.isValue hfact).2]
  have hread : ∀ threading : Bool, decide (Text.lower (toString threading) = "true") = threading := by
    decide +kernel
  rw [told, hversion, hbindir, ← hruntime.bindir, hlibdir, hprivate, hinclude, hdlext, harch, hthreading,
    Option.getD_some, hread, hreport, h.reportedCommand_eq]

/-- No line has a character that ends lines. -/
theorem isPlain (h : Tells printed runtime directory) (hruntime : runtime.Printable directory)
    (hline : line ∈ printed) : Text.IsPlain line.text.toList := by
  have happend : ∀ {first second : String}, Text.IsPlain first.toList → Text.IsPlain second.toList →
      Text.IsPlain (first ++ second).toList := by
    intro first second hfirst hsecond
    rw [String.toList_append]
    exact List.forall_mem_append.2 ⟨hfirst, hsecond⟩
  cases line with
  | fact key value =>
      have hfact := h.mem_facts.1 hline
      exact happend (happend (isPlain_of_mem_knownKeys (mem_knownKeys hfact)) (by decide))
        (hruntime.isValue hfact).1
  | argument value =>
      have hargument : value ∈ runtime.command := by
        rw [← h.command]
        exact List.mem_filterMap.2 ⟨_, hline, rfl⟩
      exact happend (by decide) (hruntime.arguments value hargument)
  | noise text => exact (h.noise text hline).1

theorem consistsOf_printedText (h : Tells printed runtime directory)
    (hruntime : runtime.Printable directory) :
    Text.ConsistsOf (printed.map (·.text.toList)) (printedText printed).toList := by
  have hplain : ∀ line ∈ printed.map (·.text.toList), Text.IsPlain line := by
    intro line hline
    obtain ⟨line, hmem, rfl⟩ := List.mem_map.1 hline
    exact h.isPlain hruntime hmem
  have hchars : (printedText printed).toList = (printed.map (·.text.toList)).flatMap (· ++ ['\n']) := by
    simp [printedText, List.flatMap_map]
  rw [hchars]
  exact .of_printed hplain

end Tells

/-- The lines that the expression for the report prints, with nothing in between. -/
def inOrder (runtime : Runtime) (directory : String) : List Printed :=
  (runtime.facts directory).map (fun fact => .fact fact.1 fact.2) ++ runtime.command.map .argument

theorem tells_inOrder (runtime : Runtime) (directory : String) :
    Tells (inOrder runtime directory) runtime directory where
  facts := by simp [inOrder, List.filterMap_map, Function.comp_def, Printed.fact?]
  command := by simp [inOrder, List.filterMap_map, Function.comp_def, Printed.argument?]
  noise text h := by simp [inOrder] at h

/-- From a report with a line for every fact about a runtime and for every argument of its command, each
    fact where it likes and the arguments in their order, and with any lines in between that mean nothing,
    exactly that runtime is read if its version can be. It does not matter which of the line ends the report
    has. -/
theorem ofReport_printed (hversion : runtime.Readable) (hruntime : runtime.Printable directory)
    (hprinted : Tells printed runtime directory) :
    Runtime.ofReport (printedText printed) = .ok runtime ∧
      ∀ report, Text.ConsistsOf (printed.map (·.text.toList)) report.toList →
        Runtime.ofReport report = .ok runtime := by
  have hread : ∀ report, Text.ConsistsOf (printed.map (·.text.toList)) report.toList →
      Runtime.ofReport report = .ok runtime := by
    intro report hreport
    obtain ⟨version, hversion⟩ := hversion
    have hfacts := reportedFacts_eq hreport
    have hread : factOf report "version" = runtime.version :=
      hprinted.factOf_eq hruntime hfacts (by simp [facts])
    rw [ofReport_of_complete (hprinted.complete hruntime hfacts), hread, hversion,
      hprinted.told_eq hruntime hfacts]
  exact ⟨hread _ (hprinted.consistsOf_printedText hruntime), hread⟩

/-- Facts in an order of their own among the output of a startup file, and arguments with blanks and equals
    signs. -/
theorem ofReport_printed_noisy :
    let report := "Activating project\narch=x86_64\ncmd=julia\n version number = 2\nthreading=false\n"
      ++ "bindir=/opt/julia 1/bin\nlibdir=../lib\ncmd= -C=native \n=\nprivate_libdir=../lib/julia\n"
      ++ "includedir=../include\ndlext=so\nword_size=64\nversion=1.10.0-rc1\n"
    let runtime : Runtime := {
      version := "1.10.0-rc1", bindir := Path.ofString "/opt/julia 1/bin", libdir := "../lib",
      privateLibdir := "../lib/julia", includedir := "../include", dlext := "so", wordSize := 64,
      arch := "x86_64", command := ["julia", " -C=native "], threading := false }
    Runtime.ofReport report = .ok runtime := by
  intro report runtime
  let printed : List Printed := [.noise "Activating project", .fact "arch" "x86_64", .argument "julia",
    .noise " version number = 2", .fact "threading" "false", .fact "bindir" "/opt/julia 1/bin",
    .fact "libdir" "../lib", .argument " -C=native ", .noise "=", .fact "private_libdir" "../lib/julia",
    .fact "includedir" "../include", .fact "dlext" "so", .fact "word_size" "64",
    .fact "version" "1.10.0-rc1"]
  have hversion : runtime.Readable := ⟨⟨1, 10, 0⟩, by decide +kernel⟩
  have hruntime : runtime.Printable "/opt/julia 1/bin" := {
    bindir := rfl
    texts := by decide +kernel
    wordSize := Text.lt_pow_maximalDigits (by decide)
    command := by decide
    arguments := by decide +kernel }
  have hnoise : ∀ text ∈ ["Activating project", " version number = 2", "="],
      Text.IsPlain text.toList ∧ IsNoise text.toList := by
    decide +kernel
  have hprinted : Tells printed runtime "/opt/julia 1/bin" := {
    facts := by decide +kernel
    command := by decide +kernel
    noise := fun text htext => hnoise text (by simpa [printed] using htext) }
  have hreport : printedText printed = report := by decide +kernel
  exact hreport ▸ (ofReport_printed hversion hruntime hprinted).1

end Telling

end JuliaNative.Runtime
