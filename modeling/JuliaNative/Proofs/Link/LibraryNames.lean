import JuliaNative.Link.Rules
import JuliaNative.Proofs.Text.Numerals

set_option autoImplicit false

/-! # The language of library names

On Linux a library has a name of a form (`IsLibraryName`): `lib`, some characters that are no line feeds,
`.so` and a version, which is any number of groups of a dot and digits. The extension may occur in the
other characters as well, and is found wherever only a version follows it. What is taken for a library by
its name are the names of this form, and those that have one line feed behind it
(`isUnixLibrary_iff`). -/

namespace JuliaNative.LinkRules

variable {cs stem word : List Char} {groups : List (List Char)} {name : String}

/-! ## Versions -/

/-- Any number of groups, each a dot and one or more digits of any script. -/
def IsVersion (cs : List Char) : Prop :=
  ∃ groups : List (List Char), cs = groups.flatMap ('.' :: ·) ∧
    ∀ group ∈ groups, group ≠ [] ∧ ∀ c ∈ group, Text.isDigit c = true

theorem intercalate_nil_cons (groups : List (List Char)) :
    ['.'].intercalate ([] :: groups) = groups.flatMap ('.' :: ·) := by
  suffices h : ∀ first : List Char,
      ['.'].intercalate (first :: groups) = first ++ groups.flatMap ('.' :: ·) from h []
  induction groups with
  | nil => simp
  | cons group rest ih =>
      intro first
      rw [List.intercalate_cons_cons, ih group]
      simp

theorem splitOn_flatMap (h : ∀ group ∈ groups, '.' ∉ group) :
    (groups.flatMap ('.' :: ·)).splitOn '.' = [] :: groups := by
  rw [← intercalate_nil_cons]
  exact List.splitOn_intercalate _ (by simpa using h) (List.cons_ne_nil _ _)

theorem isVersionTail_iff : isVersionTail cs = true ↔ IsVersion cs := by
  unfold isVersionTail
  constructor
  · intro h
    split at h
    · next groups hsplit =>
        refine ⟨groups, ?_, by simpa using h⟩
        rw [← intercalate_nil_cons, ← hsplit, List.intercalate_splitOn]
    · cases h
  · rintro ⟨groups, rfl, h⟩
    have hdot : ∀ group ∈ groups, '.' ∉ group := fun group hgroup hmem =>
      absurd ((h group hgroup).2 '.' hmem) (by decide)
    rw [splitOn_flatMap hdot]
    simpa using h

theorem IsVersion.not_mem_feed (h : IsVersion cs) : '\n' ∉ cs := by
  obtain ⟨groups, rfl, h⟩ := h
  simp only [List.mem_flatMap, List.mem_cons, not_exists, not_and, not_or]
  intro group hgroup
  exact ⟨by decide, fun hmem => absurd ((h group hgroup).2 '\n' hmem) (by decide)⟩

/-! ## Names -/

/-- The extension of shared libraries with its dot. -/
def extension : List Char :=
  ['.', 's', 'o']

/-- The name of a library: `lib`, one or more characters other than line feeds, `.so` and a version. -/
def IsLibraryName (cs : List Char) : Prop :=
  ∃ stem version, cs = ['l', 'i', 'b'] ++ (stem ++ (extension ++ version)) ∧ stem ≠ [] ∧ '\n' ∉ stem ∧
    IsVersion version

theorem hasVersionedExtension_iff :
    hasVersionedExtension cs = true ↔
      ∃ stem version, cs = stem ++ (extension ++ version) ∧ '\n' ∉ stem ∧ IsVersion version := by
  induction cs with
  | nil => simp [hasVersionedExtension, extension]
  | cons c rest ih =>
      rw [hasVersionedExtension, Bool.or_eq_true, Bool.and_eq_true, Bool.and_eq_true, ih,
        isVersionTail_iff, List.isPrefixOf_iff_prefix, decide_eq_true_eq]
      constructor
      -- the extension stands at the beginning, or further behind a character that is no line feed
      · rintro (⟨⟨version, hversion⟩, h⟩ | ⟨hc, stem, version, rfl, hstem, h⟩)
        · obtain ⟨rfl, rfl⟩ := List.cons.inj hversion
          exact ⟨[], version, rfl, by simp, h⟩
        · exact ⟨c :: stem, version, rfl, by simpa [eq_comm] using ⟨hc, hstem⟩, h⟩
      · rintro ⟨_ | ⟨first, stem⟩, version, heq, hstem, h⟩
        · cases heq
          exact .inl ⟨⟨version, rfl⟩, h⟩
        · cases heq
          obtain ⟨hfirst, hstem⟩ := not_or.1 (mt List.mem_cons.2 hstem)
          exact .inr ⟨Ne.symm hfirst, stem, version, rfl, hstem, h⟩

/-- Characters are cut into the beginning `lib`, one more character and the rest. -/
theorem isLibraryName_iff :
    IsLibraryName cs ↔ ∃ c rest, cs = 'l' :: 'i' :: 'b' :: c :: rest ∧ c ≠ '\n' ∧
      hasVersionedExtension rest = true := by
  simp only [hasVersionedExtension_iff]
  constructor
  · rintro ⟨_ | ⟨c, stem⟩, version, rfl, hfilled, hstem, h⟩
    · exact absurd rfl hfilled
    · obtain ⟨hc, hstem⟩ := not_or.1 (mt List.mem_cons.2 hstem)
      exact ⟨c, _, rfl, Ne.symm hc, stem, version, rfl, hstem, h⟩
  · rintro ⟨c, _, rfl, hc, stem, version, rfl, hstem, h⟩
    exact ⟨c :: stem, version, rfl, by simp, by simpa [eq_comm] using ⟨hc, hstem⟩, h⟩

theorem isUnixLibrary_iff_withoutLastFeed :
    isUnixLibrary name = true ↔ IsLibraryName (withoutLastFeed name.toList) := by
  rw [isLibraryName_iff, isUnixLibrary]
  constructor
  · intro h
    split at h
    · next c rest heq =>
        rw [Bool.and_eq_true, decide_eq_true_eq] at h
        exact ⟨c, rest, heq, h.1, h.2⟩
    · cases h
  · rintro ⟨c, rest, heq, hc, h⟩
    rw [heq]
    simpa using ⟨hc, h⟩

theorem IsLibraryName.head? (h : IsLibraryName cs) : cs.head? = some 'l' := by
  obtain ⟨stem, version, rfl, -⟩ := h
  rfl

/-- No line feed stands at the end of the name of a library. -/
theorem IsLibraryName.getLast?_ne_feed (h : IsLibraryName cs) : cs.getLast? ≠ some '\n' := by
  obtain ⟨stem, version, rfl, -, -, h⟩ := h
  intro hlast
  rw [← List.append_assoc, List.getLast?_append_of_ne_nil _ (by simp [extension])] at hlast
  rcases List.mem_append.1 (List.mem_of_getLast? hlast) with hmem | hmem
  · exact absurd hmem (by decide)
  · exact h.not_mem_feed hmem

/-- A name is taken for that of a library if it is one, or is one with a line feed behind it. -/
theorem isUnixLibrary_iff :
    isUnixLibrary name = true ↔
      IsLibraryName name.toList ∨ ∃ stem, name.toList = stem ++ ['\n'] ∧ IsLibraryName stem := by
  rw [isUnixLibrary_iff_withoutLastFeed, withoutLastFeed]
  split
  · next hlast =>
      obtain ⟨stem, hstem⟩ := List.getLast?_eq_some_iff.1 hlast
      rw [hstem, List.dropLast_concat]
      constructor
      · intro h
        exact .inr ⟨stem, rfl, h⟩
      · rintro (h | ⟨other, heq, h⟩)
        · exact absurd (List.getLast?_concat ..) h.getLast?_ne_feed
        · obtain ⟨rfl, -⟩ := List.append_inj' heq rfl
          exact h
  · next hlast =>
      constructor
      · exact .inl
      · rintro (h | ⟨stem, heq, h⟩)
        · exact h
        · exact absurd (by simp [heq]) hlast

/-! ## Words in names -/

theorem occursIn_iff_infix : occursIn word cs = true ↔ word <:+: cs := by
  induction cs with
  | nil => simp [occursIn]
  | cons c rest ih => rw [occursIn, Bool.or_eq_true, List.isPrefixOf_iff_prefix, ih, List.infix_cons_iff]

/-- On Linux a library is shipped if its name is one of a library, perhaps with a line feed behind it, in
    which `debug` does not occur. -/
theorem isShipped_iff {rules : LinkRules} (hplatform : rules.platform = .linux) :
    rules.isShipped name = true ↔
      (IsLibraryName name.toList ∨ ∃ stem, name.toList = stem ++ ['\n'] ∧ IsLibraryName stem) ∧
        ¬ "debug".toList <:+: name.toList := by
  have hword : "debug".toList = ['d', 'e', 'b', 'u', 'g'] := by decide
  rw [isShipped, isRuntimeLibrary, hplatform, hword, Bool.and_eq_true, isUnixLibrary_iff,
    Bool.not_eq_true', ← Bool.not_eq_true, occursIn_iff_infix]

end JuliaNative.LinkRules
