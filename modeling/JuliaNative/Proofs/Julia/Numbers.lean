import JuliaNative.Error
import JuliaNative.Proofs.Julia.Reporting

set_option autoImplicit false

/-! # Versions that are too long

A version begins with two or three numbers, each a run of digits that ends where no digit follows
(`Numbers`); nothing else of its text matters. It can be read unless there are no such numbers, or one of
them has too many digits (`parse_eq_tooLong_iff`). The former is an issue of the report, as every other
fault of a report is; the latter is not, and nothing else escapes from reading a report
(`ofReport_verdict`). -/

namespace JuliaNative

namespace Version

/-! ## The numbers of a version -/

variable {cs digits rest behind major minor patch : List Char}

/-- Digits, at least one, that no digit follows. -/
structure IsRun (digits rest : List Char) : Prop where
  filled : digits ≠ []
  inside : ∀ c ∈ digits, Text.isDigit c = true
  stops : ∀ c, rest.head? = some c → Text.isDigit c = false

/-- What stands behind the second number: a dot and a third number, or else no third number. -/
inductive Third : List Char → List Char → Prop
  | present {patch rest : List Char} (h : IsRun patch rest) : Third ('.' :: (patch ++ rest)) patch
  | absent {behind : List Char} (h : ∀ c rest, behind = '.' :: c :: rest → Text.isDigit c = false) :
      Third behind []

/-- The numbers at the start of a text, each by its digits, and the third one by none if it is missing. -/
inductive Numbers : List Char → List Char → List Char → List Char → Prop
  | mk {major minor patch behind : List Char} (hmajor : IsRun major ('.' :: (minor ++ behind)))
      (hminor : IsRun minor behind) (hthird : Third behind patch) :
      Numbers (major ++ '.' :: (minor ++ behind)) major minor patch

theorem splitDigits_append (h : IsRun digits rest) : splitDigits (digits ++ rest) = (digits, rest) := by
  have hrest : rest.takeWhile Text.isDigit = [] ∧ rest.dropWhile Text.isDigit = rest := by
    cases rest with
    | nil => exact ⟨rfl, rfl⟩
    | cons c more => simp [h.stops c rfl]
  rw [splitDigits, List.takeWhile_append_of_pos h.inside, List.dropWhile_append_of_pos h.inside, hrest.1,
    hrest.2, List.append_nil]

theorem isRun_of_splitDigits (h : splitDigits cs = (digits, rest)) (hfilled : digits ≠ []) :
    cs = digits ++ rest ∧ IsRun digits rest := by
  obtain ⟨rfl, rfl⟩ := Prod.mk.inj h
  exact ⟨(List.takeWhile_append_dropWhile ..).symm, hfilled, fun c hc => List.mem_takeWhile_imp hc,
    fun c hc => Text.not_of_head?_dropWhile hc⟩

/-- The third number is the digits behind a dot. -/
theorem third_cons_iff : Third ('.' :: behind) patch ↔ patch = (splitDigits behind).1 := by
  constructor
  · generalize hdot : '.' :: behind = all
    intro h
    cases h with
    | present h =>
        cases hdot
        rw [splitDigits_append h]
    | absent h =>
        cases behind with
        | nil => rfl
        | cons c rest => simp [splitDigits, h c rest hdot.symm]
  · rintro rfl
    by_cases hnone : (splitDigits behind).1 = []
    · rw [hnone]
      refine .absent ?_
      rintro c rest heq
      cases heq
      simpa [splitDigits, List.takeWhile_cons] using hnone
    · obtain ⟨heq, hrun⟩ : behind = _ ∧ _ := isRun_of_splitDigits rfl hnone
      have hpresent := Third.present hrun
      rwa [← heq] at hpresent

theorem third_iff_of_head? (h : behind.head? ≠ some '.') : Third behind patch ↔ patch = [] := by
  constructor
  · intro hthird
    cases hthird with
    | present _ => exact absurd rfl h
    | absent _ => rfl
  · rintro rfl
    exact .absent fun _ _ heq => absurd (congrArg List.head? heq) h

/-- The digits of a version are read exactly as its numbers. -/
theorem components?_eq_some_iff :
    components? cs = some (major, minor, patch) ↔ Numbers cs major minor patch := by
  constructor
  · intro h
    unfold components? at h
    split at h
    · cases h
    · next first behind hfilled hfirst =>
        obtain ⟨rfl, hmajor⟩ := isRun_of_splitDigits hfirst hfilled
        split at h
        · cases h
        · next second more hfilled hsecond =>
            obtain ⟨rfl, hminor⟩ := isRun_of_splitDigits hsecond hfilled
            cases h
            exact .mk hmajor hminor (third_cons_iff.2 rfl)
        · next second more hfilled hdot hsecond =>
            obtain ⟨rfl, hminor⟩ := isRun_of_splitDigits hsecond hfilled
            cases h
            have hhead : more.head? ≠ some '.' := by
              intro hhead
              obtain ⟨others, rfl⟩ := List.head?_eq_some_iff.1 hhead
              exact hdot _ rfl
            exact .mk hmajor hminor ((third_iff_of_head? hhead).2 rfl)
    · cases h
  · rintro @⟨major, minor, patch, behind, hmajor, hminor, hthird⟩
    unfold components?
    rw [splitDigits_append hmajor]
    obtain ⟨c, more, rfl⟩ := List.exists_cons_of_ne_nil hmajor.filled
    simp only [splitDigits_append hminor]
    obtain ⟨d, next, rfl⟩ := List.exists_cons_of_ne_nil hminor.filled
    cases behind with
    | nil => simp [(third_iff_of_head? (by simp)).1 hthird]
    | cons e others =>
        by_cases hdot : e = '.'
        · subst hdot
          simp [third_cons_iff.1 hthird]
        · rw [(third_iff_of_head? (by simpa using hdot)).1 hthird]
          split
          · next heq => cases heq
          · next heq => exact absurd (List.cons.inj (Prod.mk.inj heq).2).1 hdot
          · next heq => rw [(Prod.mk.inj heq).1]

/-! ## Reading the numbers -/

/-- A number is read from its digits unless there are too many of them. -/
theorem component_eq (h : ∀ c ∈ digits, Text.isDigit c = true) :
    component digits =
      if Text.maximalDigits < digits.length then .error (.tooLong digits.length)
      else .ok (Text.digitsToNat (digits.filterMap Text.digitValue?)) := by
  have hlength : (digits.filterMap Text.digitValue?).length = digits.length :=
    List.filterMap_length_eq_length.2 h
  cases digits with
  | nil => rfl
  | cons c rest =>
      rw [component, if_neg (List.cons_ne_nil c rest)]
      simp only [hlength]

theorem Third.inside (h : Third behind patch) : ∀ c ∈ patch, Text.isDigit c = true := by
  cases h with
  | present hrun => exact hrun.inside
  | absent _ => exact List.forall_mem_nil _

theorem Numbers.inside (h : Numbers cs major minor patch) :
    (∀ c ∈ major, Text.isDigit c = true) ∧ (∀ c ∈ minor, Text.isDigit c = true) ∧
      ∀ c ∈ patch, Text.isDigit c = true := by
  cases h with
  | mk hmajor hminor hthird => exact ⟨hmajor.inside, hminor.inside, hthird.inside⟩

/-- A version with a number that is too long is not read; the first such number is to blame. -/
theorem parse_eq_tooLong_iff {text : String} {length : Nat} :
    parse text = .error (.tooLong length) ↔
      ∃ major minor patch, Numbers (Text.trim text.toList) major minor patch ∧
        [major.length, minor.length, patch.length].find? (Text.maximalDigits < ·) = some length := by
  unfold parse
  cases hnumbers : components? (Text.trim text.toList) with
  | none =>
      refine iff_of_false (by simp) ?_
      rintro ⟨major, minor, patch, h, -⟩
      rw [← components?_eq_some_iff, hnumbers] at h
      cases h
  | some numbers =>
      obtain ⟨major, minor, patch⟩ := numbers
      have honly : (∃ first second third, Numbers (Text.trim text.toList) first second third ∧
          [first.length, second.length, third.length].find? (Text.maximalDigits < ·) = some length) ↔
          [major.length, minor.length, patch.length].find? (Text.maximalDigits < ·) = some length := by
        simp [← components?_eq_some_iff, hnumbers]
      obtain ⟨hmajor, hminor, hpatch⟩ := (components?_eq_some_iff.1 hnumbers).inside
      rw [honly]
      simp only [component_eq hmajor, component_eq hminor, component_eq hpatch, List.find?_cons]
      by_cases hfirst : Text.maximalDigits < major.length
      · simp [hfirst]
      · by_cases hsecond : Text.maximalDigits < minor.length
        · simp [hfirst, hsecond]
        · by_cases hthird : Text.maximalDigits < patch.length
          · simp [hfirst, hsecond, hthird]
          · simp [hfirst, hsecond, hthird]

end Version

namespace Runtime

/-! ## What escapes from reading a report -/

/-- A report that is complete but for its version, in which a number is too long; the first such number has
    a length. -/
structure HasLongVersion (report : String) (length : Nat) : Prop where
  complete : ∃ wordSize, Complete report wordSize
  version : ∃ major minor patch, Version.Numbers (factOf report "version").toList major minor patch ∧
    [major.length, minor.length, patch.length].find? (Text.maximalDigits < ·) = some length

theorem unpadded_factOf (report key : String) : Text.Unpadded (factOf report key).toList := by
  unfold factOf lastFact?
  cases (reportedFacts report).reverse.lookup key with
  | none => decide
  | some value =>
      rw [Option.map_some, Option.getD_some, String.toList_ofList]
      exact Text.unpadded_trim value

theorem ofReport_eq_versionTooLong_iff {report : String} {length : Nat} :
    Runtime.ofReport report = .error (.versionTooLong length) ↔ HasLongVersion report length := by
  have hparse := @Version.parse_eq_tooLong_iff (factOf report "version") length
  rw [Text.trim_of_unpadded (unpadded_factOf report "version")] at hparse
  by_cases hcomplete : ∃ wordSize, Complete report wordSize
  · have hlong : HasLongVersion report length ↔
        Version.parse (factOf report "version") = .error (.tooLong length) :=
      ⟨fun h => hparse.2 h.version, fun h => ⟨hcomplete, hparse.1 h⟩⟩
    obtain ⟨wordSize, hcomplete⟩ := hcomplete
    rw [hlong, ofReport_of_complete hcomplete]
    cases Version.parse (factOf report "version") with
    | ok version => simp
    | error fault => cases fault <;> simp
  · obtain ⟨issue, hissue⟩ := ofReport_of_not_complete (not_exists.1 hcomplete)
    rw [hissue]
    exact iff_of_false (by simp) fun h => hcomplete h.complete

/-- What julia prints about a runtime with a number in its version that is too long is such a report. -/
theorem Tells.hasLongVersion {runtime : Runtime} {directory : String} {printed : List Printed}
    {major minor patch : List Char} {length : Nat} (h : Tells printed runtime directory)
    (hruntime : runtime.Printable directory)
    (hnumbers : Version.Numbers runtime.version.toList major minor patch)
    (hlong : [major.length, minor.length, patch.length].find? (Text.maximalDigits < ·) = some length) :
    HasLongVersion (printedText printed) length := by
  have hfacts := reportedFacts_eq (h.consistsOf_printedText hruntime)
  have hversion : factOf (printedText printed) "version" = runtime.version :=
    h.factOf_eq hruntime hfacts (by simp [Runtime.facts])
  refine ⟨⟨runtime.wordSize, h.complete hruntime hfacts⟩, ?_⟩
  rw [hversion]
  exact ⟨major, minor, patch, hnumbers, hlong⟩

/-- What comes of reading a report, whatever its text. A runtime has a version that can be read, and so does
    all that depends on it. Otherwise there is an issue of the report, except for the number that is too
    long: with a version like that, and only then, reading crashes. -/
theorem ofReport_verdict (report : String) :
    (∀ runtime, Runtime.ofReport report = .ok runtime →
      ∃ version archive, Version.parse runtime.version = .ok version ∧
        runtime.usesArchive = .ok archive ∧ runtime.supportsCachePriming = .ok !archive ∧
        runtime.objectExtension = .ok (if archive then ".a" else ".o")) ∧
    (∀ fault, Runtime.ofReport report = .error fault →
      (∃ issue, fault.failure = .error (.report issue)) ∨ ∃ cause, fault.failure = .crash cause) ∧
    ∀ cause, (∃ fault, Runtime.ofReport report = .error fault ∧ fault.failure = .crash cause) ↔
      ∃ length, cause = .numeralTooLong length ∧ HasLongVersion report length := by
  refine ⟨?_, ?_, ?_⟩
  · intro runtime h
    obtain ⟨version, hversion⟩ := readable_of_ofReport h
    refine ⟨version, version.atLeast Version.firstWithArchive, hversion, ?_, ?_, ?_⟩
    · simp [usesArchive, hversion, Except.map]
    · simp [supportsCachePriming, usesArchive, hversion, Except.map]
    · simp [objectExtension, usesArchive, hversion, Except.map]
  · rintro (issue | length) -
    · exact .inl ⟨issue, rfl⟩
    · exact .inr ⟨_, rfl⟩
  · intro cause
    constructor
    · rintro ⟨issue | length, hread, hfailure⟩
      · cases hfailure
      · cases hfailure
        exact ⟨length, rfl, ofReport_eq_versionTooLong_iff.1 hread⟩
    · rintro ⟨length, rfl, hlong⟩
      exact ⟨_, ofReport_eq_versionTooLong_iff.2 hlong, rfl⟩

/-- Everything is reported, but the first number of the version has one digit too many: a crash. -/
theorem ofReport_verdict_long :
    let version := String.ofList (List.replicate 4301 '1' ++ ['.', '0', '.', '0'])
    let report := printedText [.fact "version" version, .fact "bindir" "/opt/julia/bin",
      .fact "libdir" "../lib", .fact "private_libdir" "../lib/julia", .fact "includedir" "../include",
      .fact "dlext" "so", .fact "word_size" "64", .fact "arch" "x86_64", .fact "threading" "true",
      .argument "julia"]
    ∃ fault, Runtime.ofReport report = .error fault ∧ fault.failure = .crash (.numeralTooLong 4301) := by
  have hones : ∀ c ∈ List.replicate 4301 '1', c = '1' := fun _ hc => List.eq_of_mem_replicate hc
  have hlength : (List.replicate 4301 '1').length = 4301 := List.length_replicate
  -- the digits stay closed, so that nothing is computed with all of them
  generalize List.replicate 4301 '1' = ones at hones hlength
  intro version report
  have hfilled : ones ≠ [] := by
    rintro rfl
    cases hlength
  have hversion : IsValue version := by
    have hunpadded : Text.Unpadded ones :=
      ⟨fun c hc => by rw [hones c (List.mem_of_head? hc)]; rfl,
        fun c hc => by rw [hones c (List.mem_of_getLast? hc)]; rfl⟩
    unfold IsValue
    rw [String.toList_ofList]
    exact ⟨List.forall_mem_append.2 ⟨fun c hc => by rw [hones c hc]; rfl,
        (by decide : Text.IsPlain ['.', '0', '.', '0'])⟩,
      hunpadded.append hfilled (by decide : Text.Unpadded ['0']) (by decide) ['.', '0', '.']⟩
  have hnumbers : Version.Numbers version.toList ones ['0'] ['0'] := by
    have hmajor : Version.IsRun ones ('.' :: (['0'] ++ ('.' :: (['0'] ++ [])))) :=
      ⟨hfilled, fun c hc => by rw [hones c hc]; rfl, by rintro c ⟨⟩; rfl⟩
    have hminor : Version.IsRun ['0'] ('.' :: (['0'] ++ [])) :=
      ⟨by decide, List.forall_mem_singleton.2 rfl, by rintro c ⟨⟩; rfl⟩
    have hpatch : Version.IsRun ['0'] [] := ⟨by decide, List.forall_mem_singleton.2 rfl, by rintro c ⟨⟩⟩
    rw [String.toList_ofList]
    exact .mk hmajor hminor (.present hpatch)
  let runtime : Runtime := {
    version := version, bindir := Path.ofString "/opt/julia/bin", libdir := "../lib",
    privateLibdir := "../lib/julia", includedir := "../include", dlext := "so", wordSize := 64,
    arch := "x86_64", command := ["julia"], threading := true }
  have hothers : ∀ text ∈ ["/opt/julia/bin", "../lib", "../lib/julia", "../include", "so", "x86_64"],
      IsValue text := by
    decide +kernel
  have harguments : ∀ argument ∈ ["julia"], Text.IsPlain argument.toList := by decide +kernel
  have hruntime : runtime.Printable "/opt/julia/bin" := {
    bindir := rfl
    texts := List.forall_mem_cons.2 ⟨hversion, hothers⟩
    wordSize := Text.lt_pow_maximalDigits (by decide : 64 < 10 ^ 2)
    command := List.cons_ne_nil "julia" []
    arguments := harguments }
  have hlong : HasLongVersion report 4301 :=
    (tells_inOrder runtime "/opt/julia/bin").hasLongVersion hruntime hnumbers
      (by simp [hlength, Text.maximalDigits])
  exact ((ofReport_verdict report).2.2 _).2 ⟨4301, rfl, hlong⟩

end Runtime
end JuliaNative
