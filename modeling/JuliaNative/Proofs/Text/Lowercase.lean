import JuliaNative.Text.Lowercase

set_option autoImplicit false

/-! # Laws of lower case

Lower case is reached in one step: a text in lower case is its own lower case (`lower_lower`). For the
table of characters this means that no lower-case partner has a partner itself. -/

namespace JuliaNative.Text

/-! ## The table -/

namespace CaseRun

/-- Whether a code point is one of a run. -/
def holds (run : CaseRun) (n : Nat) : Bool :=
  run.first ≤ n && n ≤ run.last && (n - run.first) % run.step == 0

/-- The code point of the partner of one of a run. -/
def partner (run : CaseRun) (n : Nat) : Nat :=
  ((n : Int) + run.distance).toNat

/-- Whether the code points from `low` to `high`, or every second one of them if there are gaps, lie
    outside a run: below it, above it, or in its own gaps. -/
def isAvoidedBy (run : CaseRun) (low high : Nat) (gaps : Bool) : Bool :=
  high.blt run.first || run.last.blt low ||
    (gaps && run.step == 2 && (low + run.first) % 2 == 1)

/-- Whether the partners of a run lie outside all of some runs. -/
def partnersAvoid (run : CaseRun) (others : List CaseRun) : Bool :=
  decide (0 ≤ run.first + run.distance) &&
    others.all fun other => other.isAvoidedBy (run.partner run.first) (run.partner run.last)
      (run.step == 2 || run.first == run.last)

theorem not_holds_partner {run : CaseRun} {others : List CaseRun}
    (havoid : run.partnersAvoid others = true) {other : CaseRun} (hother : other ∈ others) {n : Nat}
    (hn : run.holds n = true) : other.holds (run.partner n) = false := by
  obtain ⟨hpositive, hall⟩ := Bool.and_eq_true_iff.1 havoid
  have h := List.all_eq_true.1 hall other hother
  clear hall havoid hother
  obtain ⟨first, last, step, distance⟩ := run
  obtain ⟨start, stop, stride, _⟩ := other
  simp only [decide_eq_true_eq] at hpositive
  simp only [isAvoidedBy, partner, Bool.or_eq_true, Bool.and_eq_true, Nat.blt_eq, beq_iff_eq] at h
  simp only [holds, Bool.and_eq_true, decide_eq_true_eq, beq_iff_eq] at hn
  obtain ⟨⟨hfirst, hlast⟩, hstep⟩ := hn
  refine Bool.eq_false_iff.2 fun hheld => ?_
  simp only [holds, Bool.and_eq_true, decide_eq_true_eq, beq_iff_eq] at hheld
  simp only [partner] at hheld
  obtain (h | h) | ⟨⟨rfl | rfl, rfl⟩, hodd⟩ := h
  · omega
  · omega
  · omega
  · omega

end CaseRun

/-- The characters that lower case changes: the dotted capital I, the capital sigma, and those with a
    partner. -/
def changedRuns : List CaseRun :=
  ⟨0x130, 0x130, 1, 0⟩ :: ⟨0x3a3, 0x3a3, 1, 0⟩ :: lowercaseRuns

theorem partnersAvoid_changedRuns :
    lowercaseRuns.all (fun run => run.partnersAvoid changedRuns) = true := by
  decide +kernel

/-! ## Characters in lower case -/

/-- A character that lower case leaves alone wherever it stands. -/
def IsLower (c : Char) : Prop :=
  lowerChar c = [c] ∧ c ≠ 'Σ'

/-- An ASCII character that is no capital is in lower case. -/
theorem isLower_of_ascii {c : Char} (hascii : c.toNat < 0x80) (h : ¬ ('A' ≤ c ∧ c ≤ 'Z')) :
    IsLower c := by
  constructor
  · unfold lowerChar
    rw [if_pos hascii, if_neg h]
  · rintro rfl
    exact absurd hascii (by decide)

/-- A character outside all runs is in lower case. -/
theorem isLower_of_not_holds {c : Char} (h : ∀ run ∈ changedRuns, run.holds c.toNat = false) :
    IsLower c := by
  simp only [changedRuns, List.forall_mem_cons] at h
  obtain ⟨hdotted, hsigma, hruns⟩ := h
  have hcapital : CaseRun.holds ⟨0x41, 0x5a, 1, 32⟩ c.toNat = false :=
    hruns _ (List.mem_cons_self ..)
  constructor
  · unfold lowerChar
    split
    · rw [if_neg]
      rintro ⟨hlow, hhigh⟩
      refine Bool.eq_false_iff.1 hcapital ?_
      have hfirst : 0x41 ≤ c.toNat := hlow
      have hlast : c.toNat ≤ 0x5a := hhigh
      simp [CaseRun.holds, hfirst, hlast, Nat.mod_one]
    · rw [if_neg fun heq => by simp [heq, CaseRun.holds] at hdotted]
      have hnone : lowercaseRuns.find? (fun run => run.first ≤ c.toNat && c.toNat ≤ run.last &&
          (c.toNat - run.first) % run.step == 0) = none :=
        List.find?_eq_none.2 fun run hrun => Bool.eq_false_iff.1 (hruns run hrun)
      rw [hnone]
  · rintro rfl
    exact absurd hsigma (by decide)

theorem toNat_ofNat_of_valid {n : Nat} (h : n.isValidChar) : (Char.ofNat n).toNat = n := by
  unfold Char.ofNat
  rw [dif_pos h]
  rfl

/-- The lower case of one character is in lower case. -/
theorem isLower_of_mem_lowerChar {c d : Char} (hc : c ≠ 'Σ') (h : d ∈ lowerChar c) : IsLower d := by
  unfold lowerChar at h
  split at h
  · next hascii =>
      obtain rfl := List.mem_singleton.1 h
      split
      · next hcapital =>
          have hlow : 0x41 ≤ c.toNat := hcapital.1
          have hhigh : c.toNat ≤ 0x5a := hcapital.2
          have hnat := toNat_ofNat_of_valid (n := c.toNat + 32) (.inl (by omega))
          refine isLower_of_ascii (by omega) ?_
          rintro ⟨-, h⟩
          have hbound : (Char.ofNat (c.toNat + 32)).toNat ≤ 0x5a := h
          omega
      · next hsmall => exact isLower_of_ascii hascii hsmall
  · split at h
    · simp only [List.mem_cons, List.not_mem_nil, or_false] at h
      rcases h with rfl | rfl
      · exact isLower_of_ascii (by decide) (by decide)
      · exact isLower_of_not_holds (by decide +kernel)
    · next hascii hdotted =>
        split at h
        · next run hfind =>
            obtain rfl := List.mem_singleton.1 h
            have havoid := List.all_eq_true.1 partnersAvoid_changedRuns run
              (List.mem_of_find?_eq_some hfind)
            have hheld : run.holds c.toNat = true := by
              simpa only [CaseRun.holds] using List.find?_some hfind
            by_cases hvalid : (run.partner c.toNat).isValidChar
            · exact isLower_of_not_holds fun other hother =>
                (toNat_ofNat_of_valid hvalid).symm ▸ CaseRun.not_holds_partner havoid hother hheld
            · have hnull : Char.ofNat (run.partner c.toNat) = Char.ofNat 0 := by
                unfold Char.ofNat
                rw [dif_neg hvalid]
                rfl
              exact hnull.symm ▸ isLower_of_ascii (by decide) (by decide)
        · next hfind =>
            obtain rfl := List.mem_singleton.1 h
            refine ⟨?_, hc⟩
            unfold lowerChar
            rw [if_neg hascii, if_neg hdotted, hfind]

/-! ## Texts in lower case -/

theorem isLower_of_mem_lowerAfter {before cs : List Char} :
    ∀ c ∈ lowerAfter before cs, IsLower c := by
  induction cs generalizing before with
  | nil => simp [lowerAfter]
  | cons c rest ih =>
      intro d hd
      unfold lowerAfter at hd
      rcases List.mem_append.1 hd with h | h
      · split at h
        · obtain rfl := List.mem_singleton.1 h
          split
          · exact isLower_of_not_holds (by decide +kernel)
          · exact isLower_of_not_holds (by decide +kernel)
        · next hc => exact isLower_of_mem_lowerChar hc h
      · exact ih d h

theorem lowerAfter_of_isLower {before cs : List Char} (h : ∀ c ∈ cs, IsLower c) :
    lowerAfter before cs = cs := by
  induction cs generalizing before with
  | nil => rfl
  | cons c rest ih =>
      obtain ⟨⟨hsame, hsigma⟩, hrest⟩ := List.forall_mem_cons.1 h
      unfold lowerAfter
      rw [if_neg hsigma, hsame, ih hrest]
      rfl

/-- A text of which every character is in lower case is its own lower case. -/
theorem lower_of_isLower {text : String} (h : ∀ c ∈ text.toList, IsLower c) : lower text = text := by
  rw [lower, lowerAfter_of_isLower h, String.ofList_toList]

/-- Lower case is reached in one step. -/
theorem lower_lower (text : String) : lower (lower text) = lower text := by
  refine lower_of_isLower ?_
  rw [lower, String.toList_ofList]
  exact isLower_of_mem_lowerAfter

end JuliaNative.Text
