import JuliaNative.Proofs.Julia.Numbers
import Mathlib.Data.Prod.Lex

set_option autoImplicit false

/-! # How versions are read and compared

A version is written as two or three numbers in decimal digits, with dots between them and a suffix with
which no number goes on (`Version.Written`). These numbers are read whatever the suffix is and whatever
blanks stand around, and they are compared as numbers from the left, so that the kind of file that julia
writes hangs on them alone (`Version.parse_of_written`). -/

namespace JuliaNative.Version

variable {text before behind : String} {version bound : Version} {suffix : List Char} {n : Nat}

/-! ## Reading -/

/-- A version is read exactly from the texts that begin with its numbers. -/
theorem parse_eq_ok_iff :
    parse text = .ok version ↔
      ∃ major minor patch, Numbers (Text.trim text.toList) major minor patch ∧
        component major = .ok version.major ∧ component minor = .ok version.minor ∧
        component patch = .ok version.patch := by
  simp only [← components?_eq_some_iff]
  unfold parse
  cases components? (Text.trim text.toList) with
  | none => simp
  | some numbers =>
      obtain ⟨major, minor, patch⟩ := numbers
      simp only [Option.some.injEq, Prod.mk.injEq]
      constructor
      · intro h
        refine ⟨major, minor, patch, ⟨rfl, rfl, rfl⟩, ?_⟩
        split at h
        · next hmajor hminor hpatch =>
            cases h
            exact ⟨hmajor, hminor, hpatch⟩
        · cases h
        · cases h
        · cases h
      · rintro ⟨_, _, _, ⟨rfl, rfl, rfl⟩, hmajor, hminor, hpatch⟩
        rw [hmajor, hminor, hpatch]

/-! ## Numbers in decimal digits -/

theorem isDigit_of_mem_toDigits {c : Char} (h : c ∈ Nat.toDigits 10 n) : Text.isDigit c = true := by
  rw [Text.isDigit, Text.digitValue?_of_isDigit (Text.isDigit_of_mem_toDigits h)]
  rfl

theorem component_toDigits (h : n < 10 ^ Text.maximalDigits) :
    component (Nat.toDigits 10 n) = .ok n := by
  have hvalues : (Nat.toDigits 10 n).filterMap Text.digitValue? =
      (Nat.toDigits 10 n).map fun c => c.toNat - '0'.toNat := by
    rw [← List.filterMap_eq_map]
    exact List.filterMap_congr fun c hc =>
      Text.digitValue?_of_isDigit (Text.isDigit_of_mem_toDigits hc)
  rw [component_eq fun c hc => isDigit_of_mem_toDigits hc,
    if_neg (Nat.not_lt_of_le (Text.length_toDigits_le h)), hvalues, Text.digitsToNat_toDigits]

theorem isRun_toDigits (n : Nat) (h : ∀ c, [c] <+: suffix → Text.isDigit c = false) :
    IsRun (Nat.toDigits 10 n) suffix where
  filled := Nat.toDigits_ne_nil
  inside _ hc := isDigit_of_mem_toDigits hc
  stops c hc := by
    obtain ⟨rest, rfl⟩ := List.head?_eq_some_iff.1 hc
    exact h c (List.prefix_append [c] rest)

theorem isRun_toDigits_dot (n : Nat) : IsRun (Nat.toDigits 10 n) ('.' :: suffix) := by
  refine isRun_toDigits n fun c hc => ?_
  obtain rfl := (List.cons_prefix_cons.1 hc).1
  decide

/-! ## Comparing -/

/-- The numbers of a version, ordered from the left. -/
def key (version : Version) : ℕ ×ₗ ℕ ×ₗ ℕ :=
  toLex (version.major, toLex (version.minor, version.patch))

theorem atLeast_iff_key_le : version.atLeast bound = true ↔ bound.key ≤ version.key := by
  unfold atLeast key
  simp only [Prod.Lex.toLex_le_toLex]
  split
  · simp; omega
  · split
    · simp; omega
    · simp; omega

/-! ## Writing -/

/-- A text writes a version: with its three numbers, or without the last one if it is zero. None of the
    numbers is too long, and the suffix does not begin with what would be read as more of them. -/
inductive Written : String → Version → Prop
  | full {major minor patch : Nat} {suffix : String} (hmajor : major < 10 ^ Text.maximalDigits)
    (hminor : minor < 10 ^ Text.maximalDigits) (hpatch : patch < 10 ^ Text.maximalDigits)
    (hsuffix : ∀ c, [c] <+: suffix.toList → Text.isDigit c = false) :
    Written (toString major ++ "." ++ toString minor ++ "." ++ toString patch ++ suffix)
      ⟨major, minor, patch⟩
  | short {major minor : Nat} {suffix : String} (hmajor : major < 10 ^ Text.maximalDigits)
    (hminor : minor < 10 ^ Text.maximalDigits)
    (hsuffix : ∀ c, [c] <+: suffix.toList → Text.isDigit c = false)
    (hdot : ∀ c, ['.', c] <+: suffix.toList → Text.isDigit c = false) :
    Written (toString major ++ "." ++ toString minor ++ suffix) ⟨major, minor, 0⟩

/-- A text that writes a version begins with its numbers. -/
theorem Written.exists_numbers (h : Written text version) :
    ∃ major minor patch, Numbers text.toList major minor patch ∧
      component major = .ok version.major ∧ component minor = .ok version.minor ∧
      component patch = .ok version.patch := by
  cases h with
  | @full major minor patch suffix hmajor hminor hpatch hsuffix =>
      refine ⟨_, _, Nat.toDigits 10 patch, ?_, component_toDigits hmajor, component_toDigits hminor,
        component_toDigits hpatch⟩
      have hthird := Third.present (isRun_toDigits patch hsuffix)
      simpa [toString] using
        Numbers.mk (isRun_toDigits_dot major) (isRun_toDigits_dot minor) hthird
  | @short major minor suffix hmajor hminor hsuffix hdot =>
      refine ⟨_, _, [], ?_, component_toDigits hmajor, component_toDigits hminor, rfl⟩
      have hthird : Third suffix.toList [] := by
        refine .absent fun c rest hrest => hdot c ?_
        rw [hrest]
        exact List.prefix_append ['.', c] rest
      simpa [toString] using
        Numbers.mk (isRun_toDigits_dot major) (isRun_toDigits minor hsuffix) hthird

/-- A text that writes a version still writes it if less of its suffix is there. -/
theorem Written.exists_suffix (h : Written text version) :
    ∃ numerals suffix : String, text = numerals ++ suffix ∧ numerals.toList ≠ [] ∧
      (∀ c ∈ numerals.toList, Text.isBlank c = false) ∧
      ∀ less : String, less.toList <+: suffix.toList → Written (numerals ++ less) version := by
  have hdigits : ∀ {n : Nat} {c}, c ∈ (toString n).toList → Text.isBlank c = false := by
    intro n c hc
    rw [Nat.toString_eq_repr, Nat.toList_repr] at hc
    exact Text.isBlank_of_isDigit (Text.isDigit_of_mem_toDigits hc)
  have hdot : ∀ c ∈ ".".toList, Text.isBlank c = false := by simp [Text.isBlank]
  cases h with
  | @full major minor patch suffix hmajor hminor hpatch hsuffix =>
      refine ⟨_, suffix, rfl, by simp, ?_, fun less hless => ?_⟩
      · simp only [String.toList_append, List.forall_mem_append]
        exact ⟨⟨⟨⟨fun _ => hdigits, hdot⟩, fun _ => hdigits⟩, hdot⟩, fun _ => hdigits⟩
      · exact .full hmajor hminor hpatch fun c hc => hsuffix c (hc.trans hless)
  | @short major minor suffix hmajor hminor hsuffix hdotted =>
      refine ⟨_, suffix, rfl, by simp, ?_, fun less hless => ?_⟩
      · simp only [String.toList_append, List.forall_mem_append]
        exact ⟨⟨fun _ => hdigits, hdot⟩, fun _ => hdigits⟩
      · exact .short hmajor hminor (fun c hc => hsuffix c (hc.trans hless)) fun c hc =>
          hdotted c (hc.trans hless)

/-- Without the blanks around it a text still writes its version. -/
theorem Written.exists_trim (h : Written text version)
    (hbefore : ∀ c ∈ before.toList, Text.isBlank c = true)
    (hbehind : ∀ c ∈ behind.toList, Text.isBlank c = true) :
    ∃ left : String, Text.trim (before ++ text ++ behind).toList = left.toList ∧
      Written left version := by
  obtain ⟨numerals, suffix, rfl, hfilled, hnone, hless⟩ := h.exists_suffix
  refine ⟨numerals ++ String.ofList (Text.trimEnd suffix.toList), ?_, hless _ ?_⟩
  · simp only [String.toList_append, String.toList_ofList]
    exact Text.trim_append_of_forall hbefore hbehind hfilled hnone suffix.toList
  · rw [String.toList_ofList]
    exact Text.trimEnd_prefix suffix.toList

/-! ## Written versions -/

/-- A version is read from every text that writes it, with any blanks around it, and a runtime that reports
    such a text writes archives exactly if the numbers of the version, compared from the left, are at least
    those of version 0.7.0. -/
theorem parse_of_written (hwritten : Written text version)
    (hbefore : ∀ c ∈ before.toList, Text.isBlank c = true)
    (hbehind : ∀ c ∈ behind.toList, Text.isBlank c = true) :
    parse (before ++ text ++ behind) = .ok version ∧
      ∀ runtime : Runtime, runtime.version = before ++ text ++ behind →
        ∃ archive, runtime.usesArchive = .ok archive ∧
          (archive = true ↔ (⟨0, 7, 0⟩ : Version).key ≤ version.key) := by
  have hparse : parse (before ++ text ++ behind) = .ok version := by
    obtain ⟨left, hleft, hwritten⟩ := hwritten.exists_trim hbefore hbehind
    rw [parse_eq_ok_iff, hleft]
    exact hwritten.exists_numbers
  refine ⟨hparse, fun runtime hruntime => ⟨version.atLeast firstWithArchive, ?_, atLeast_iff_key_le⟩⟩
  rw [Runtime.usesArchive, hruntime, hparse]
  rfl

/-- The numbers are compared and not their texts: version 0.10.0 comes after version 0.7.0. -/
theorem parse_of_written_prerelease :
    let text := "0.10.0-rc1+7.2"
    Written text ⟨0, 10, 0⟩ ∧ parse ("\t" ++ text ++ " \n") = .ok ⟨0, 10, 0⟩ ∧
      ∀ runtime : Runtime, runtime.version = "\t" ++ text ++ " \n" →
        runtime.usesArchive = .ok true := by
  intro text
  have hsmall : ∀ n ≤ 10, n < 10 ^ Text.maximalDigits := fun n hn =>
    Text.lt_pow_maximalDigits (by omega)
  have hwritten : Written text ⟨0, 10, 0⟩ := by
    have htext : text =
        toString 0 ++ "." ++ toString 10 ++ "." ++ toString 0 ++ "-rc1+7.2" := by decide +kernel
    have hsuffix : "-rc1+7.2".toList = '-' :: "rc1+7.2".toList := by decide +kernel
    rw [htext]
    refine .full (hsmall 0 (by decide)) (hsmall 10 (by decide)) (hsmall 0 (by decide)) fun c hc => ?_
    rw [hsuffix] at hc
    obtain rfl := (List.cons_prefix_cons.1 hc).1
    decide
  have htab : ∀ c ∈ "\t".toList, Text.isBlank c = true := List.all_eq_true.1 (by decide +kernel)
  have hfeed : ∀ c ∈ " \n".toList, Text.isBlank c = true := List.all_eq_true.1 (by decide +kernel)
  obtain ⟨hparse, huses⟩ := parse_of_written hwritten htab hfeed
  refine ⟨hwritten, hparse, fun runtime hruntime => ?_⟩
  obtain ⟨archive, harchive, hkey⟩ := huses runtime hruntime
  rw [harchive, hkey.2 (by decide)]

end JuliaNative.Version
