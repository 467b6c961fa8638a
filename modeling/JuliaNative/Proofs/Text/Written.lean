import JuliaNative.Proofs.Text.Lines
import JuliaNative.Text.Numeral
import JuliaNative.Text.Utf8
import Mathlib.Algebra.Group.Nat.Defs
import Mathlib.Data.List.Infix

set_option autoImplicit false

/-! # Reading back what was written

Cutting blanks off leaves a text alone that has none at its ends (`trim_of_unpadded`). Words joined by
spaces are found again (`words_intercalate`), so is a number in its digits (`integer?_toString`), and
so are lines that are joined into a file (`fileLines_of_lines`). -/

namespace JuliaNative.Text

variable {cs before after : List Char} {c : Char}

/-! ## Blanks at the ends -/

/-- Characters that neither begin nor end with a blank. -/
structure Unpadded (cs : List Char) : Prop where
  head : ∀ c, cs.head? = some c → isBlank c = false
  last : ∀ c, cs.getLast? = some c → isBlank c = false

theorem unpadded_iff :
    Unpadded cs ↔ (cs.head?.toList ++ cs.getLast?.toList).all (!isBlank ·) = true := by
  simp only [List.all_eq_true, List.mem_append, Option.mem_toList, Bool.not_eq_true']
  constructor
  · rintro ⟨hhead, hlast⟩ c (hc | hc)
    · exact hhead c hc
    · exact hlast c hc
  · exact fun h => ⟨fun c hc => h c (.inl hc), fun c hc => h c (.inr hc)⟩

instance (cs : List Char) : Decidable (Unpadded cs) :=
  decidable_of_iff _ unpadded_iff.symm

theorem Unpadded.of_ends (h : (cs.head?.toList ++ cs.getLast?.toList).all (!isBlank ·) = true) :
    Unpadded cs :=
  unpadded_iff.2 h

theorem Unpadded.nil : Unpadded [] := .of_ends rfl

theorem dropWhile_of_head {p : Char → Bool} (h : ∀ c, cs.head? = some c → p c = false) :
    cs.dropWhile p = cs := by
  cases cs with
  | nil => rfl
  | cons c rest => rw [List.dropWhile_cons_of_neg (by simp [h c rfl])]

section Cutting

variable {p : Char → Bool}

theorem cutEnd_append (hafter : ∀ c ∈ after, p c = true)
    (h : ∀ c, cs.getLast? = some c → p c = false) :
    ((cs ++ after).reverse.dropWhile p).reverse = cs := by
  rw [List.reverse_append,
    List.dropWhile_append_of_pos fun c hc => hafter c (List.mem_reverse.1 hc),
    dropWhile_of_head (by simpa using h), List.reverse_reverse]

/-- Cutting off at both ends takes what was put around characters that do not begin or end so. -/
theorem cut_append (hbefore : ∀ c ∈ before, p c = true) (hafter : ∀ c ∈ after, p c = true)
    (hhead : ∀ c, cs.head? = some c → p c = false) (hlast : ∀ c, cs.getLast? = some c → p c = false) :
    (((before ++ (cs ++ after)).dropWhile p).reverse.dropWhile p).reverse = cs := by
  rw [List.dropWhile_append_of_pos hbefore]
  cases cs with
  | nil =>
      have hdrop : (after ++ []).dropWhile p = [].dropWhile p := List.dropWhile_append_of_pos hafter
      rw [List.nil_append, ← List.append_nil after, hdrop]
      rfl
  | cons c rest =>
      have hkept : (c :: rest ++ after).dropWhile p = c :: rest ++ after :=
        dropWhile_of_head (by simpa using hhead c rfl)
      rw [hkept]
      exact cutEnd_append hafter hlast

end Cutting

theorem trimEnd_append (hafter : ∀ c ∈ after, isBlank c = true)
    (h : ∀ c, cs.getLast? = some c → isBlank c = false) : trimEnd (cs ++ after) = cs :=
  cutEnd_append hafter h

/-- Blanks around characters are cut off. -/
theorem trim_append (hbefore : ∀ c ∈ before, isBlank c = true)
    (hafter : ∀ c ∈ after, isBlank c = true) (h : Unpadded cs) :
    trim (before ++ (cs ++ after)) = cs :=
  cut_append hbefore hafter h.head h.last

theorem trim_of_unpadded (h : Unpadded cs) : trim cs = cs := by
  simpa using trim_append (List.forall_mem_nil _) (List.forall_mem_nil _) h

/-- Once blanks are cut off there are none at the ends. -/
theorem unpadded_trim (cs : List Char) : Unpadded (trim cs) where
  head c hc := by
    rw [head?_trim] at hc
    exact not_of_head?_dropWhile hc
  last c hc := by
    rw [trim, trimEnd, List.getLast?_reverse] at hc
    exact not_of_head?_dropWhile hc

/-- Characters of which none is blank stay where blanks are cut off behind them. -/
theorem trimEnd_append_of_forall (h : ∀ c ∈ cs, isBlank c = false) (rest : List Char) :
    trimEnd (cs ++ rest) = cs ++ trimEnd rest := by
  induction cs with
  | nil => rfl
  | cons c others ih =>
      obtain ⟨hc, hothers⟩ := List.forall_mem_cons.1 h
      rw [List.cons_append, trimEnd_cons hc, ih hothers, List.cons_append]

theorem trimEnd_append_blanks (hafter : ∀ c ∈ after, isBlank c = true) :
    trimEnd (cs ++ after) = trimEnd cs := by
  rw [trimEnd, List.reverse_append,
    List.dropWhile_append_of_pos fun c hc => hafter c (List.mem_reverse.1 hc), trimEnd]

theorem trimEnd_prefix (cs : List Char) : trimEnd cs <+: cs := by
  rw [trimEnd, ← List.reverse_suffix, List.reverse_reverse]
  exact List.dropWhile_suffix isBlank

/-- Of a text that goes on behind characters without blanks only the end is cut off. -/
theorem trim_append_of_forall (hbefore : ∀ c ∈ before, isBlank c = true)
    (hafter : ∀ c ∈ after, isBlank c = true) (hfilled : cs ≠ []) (h : ∀ c ∈ cs, isBlank c = false)
    (rest : List Char) : trim (before ++ (cs ++ rest) ++ after) = cs ++ trimEnd rest := by
  obtain ⟨c, others, rfl⟩ := List.exists_cons_of_ne_nil hfilled
  have hdrop : (before ++ (c :: others ++ rest) ++ after).dropWhile isBlank =
      c :: others ++ rest ++ after := by
    rw [List.append_assoc, List.dropWhile_append_of_pos hbefore]
    exact dropWhile_of_head (by simpa using h c (List.mem_cons_self ..))
  rw [trim, hdrop, trimEnd_append_blanks hafter, trimEnd_append_of_forall h]

theorem strip_of_unpadded {text : String} (h : Unpadded text.toList) : strip text = text := by
  rw [strip, trim_of_unpadded h, String.ofList_toList]

theorem stripEnd_of_unpadded {text : String} (h : Unpadded text.toList) : stripEnd text = text := by
  have htrim := trimEnd_append (List.forall_mem_nil _) h.last
  rw [List.append_nil] at htrim
  rw [stripEnd, htrim, String.ofList_toList]

theorem Unpadded.append {first second : List Char} (hfirst : Unpadded first) (hfilled : first ≠ [])
    (hsecond : Unpadded second) (hfilled' : second ≠ []) (between : List Char) :
    Unpadded (first ++ (between ++ second)) where
  head c hc := hfirst.head c (by rwa [List.head?_append_of_ne_nil _ hfilled] at hc)
  last c hc := by
    rw [← List.append_assoc, List.getLast?_append_of_ne_nil _ hfilled'] at hc
    exact hsecond.last c hc

/-! ## Words -/

/-- A text that is one word. -/
structure IsWord (word : String) : Prop where
  ne_empty : word ≠ ""
  isBlank : ∀ c ∈ word.toList, isBlank c = false

theorem IsWord.of_all {word : String} (hne : word ≠ "")
    (h : word.toList.all (!Text.isBlank ·) = true) : IsWord word :=
  ⟨hne, by simpa using h⟩

theorem IsWord.unpadded {word : String} (h : IsWord word) : Unpadded word.toList where
  head c hc := h.isBlank c (List.mem_of_head? hc)
  last c hc := h.isBlank c (List.mem_of_getLast? hc)

theorem toList_intercalate_cons {word next : String} {rest : List String} :
    (" ".intercalate (word :: next :: rest)).toList =
      word.toList ++ ' ' :: (" ".intercalate (next :: rest)).toList := by
  simp [String.intercalate_cons_cons]

theorem words_intercalate {ws : List String} (h : ∀ word ∈ ws, IsWord word) :
    words (" ".intercalate ws) = ws := by
  unfold words
  induction ws with
  | nil => simp
  | cons word rest ih =>
      obtain ⟨hword, hrest⟩ := List.forall_mem_cons.1 h
      have hfilled : word.toList.isEmpty = false := by simpa using hword.ne_empty
      cases rest with
      | nil => simp [List.splitOnP_eq_singleton hword.isBlank, hfilled]
      | cons next rest =>
          rw [toList_intercalate_cons,
            List.splitOnP_append_cons_of_forall_mem hword.isBlank _ (by decide),
            List.filter_cons_of_pos (by simp [hfilled]), List.map_cons, ih hrest,
            String.ofList_toList]

theorem unpadded_intercalate {ws : List String} (h : ∀ word ∈ ws, IsWord word) :
    Unpadded (" ".intercalate ws).toList := by
  -- the last character is one of the last word, which is not empty
  suffices hgen : Unpadded (" ".intercalate ws).toList ∧
      (ws ≠ [] → (" ".intercalate ws).toList ≠ []) from hgen.1
  induction ws with
  | nil => exact ⟨by simpa using Unpadded.nil, by simp⟩
  | cons word rest ih =>
      obtain ⟨hword, hrest⟩ := List.forall_mem_cons.1 h
      have hfilled : word.toList ≠ [] := by simpa using hword.ne_empty
      cases rest with
      | nil => simpa using ⟨hword.unpadded, hword.ne_empty⟩
      | cons next rest =>
          obtain ⟨htail, htailFilled⟩ := ih hrest
          rw [toList_intercalate_cons]
          exact ⟨hword.unpadded.append hfilled htail (htailFilled (by simp)) [' '], by simp⟩

/-! ## Numbers -/

theorem isBlank_of_isDigit (h : c.isDigit = true) : isBlank c = false := by
  obtain ⟨hlow, hhigh⟩ := Char.isDigit_iff_toNat.1 h
  have hlow : 48 ≤ c.toNat := hlow
  have hhigh : c.toNat ≤ 57 := hhigh
  refine Bool.eq_false_iff.2 fun hblank => ?_
  simp only [isBlank, Bool.or_eq_true, Bool.and_eq_true, decide_eq_true_eq, beq_iff_eq] at hblank
  omega

theorem digitValue?_of_isDigit (h : c.isDigit = true) :
    digitValue? c = some (c.toNat - '0'.toNat) := by
  obtain ⟨hlow, hhigh⟩ := Char.isDigit_iff_toNat.1 h
  have hzero : (decide (0x30 ≤ c.toNat) && decide (c.toNat < 0x30 + 10)) = true := by
    simpa [Nat.lt_succ_iff] using ⟨hlow, hhigh⟩
  have hzeros : digitZeros = 0x30 :: digitZeros.tail := rfl
  rw [digitValue?, hzeros, List.find?_cons, hzero]
  rfl

theorem digitValues_of_isDigit (hne : cs ≠ []) (h : ∀ c ∈ cs, c.isDigit = true) :
    digitValues cs = some (cs.map fun c => c.toNat - '0'.toNat) := by
  induction cs with
  | nil => exact absurd rfl hne
  | cons c rest ih =>
      obtain ⟨hc, hrest⟩ := List.forall_mem_cons.1 h
      cases rest with
      | nil => simp [digitValues, digitValue?_of_isDigit hc]
      | cons next more =>
          -- so the digit that follows is not an underscore between digits
          have hnext : next ≠ '_' := by
            rintro rfl
            exact absurd (hrest '_' (List.mem_cons_self ..)) (by decide)
          have hmore := ih (by simp) hrest
          simp [digitValues, digitValue?_of_isDigit hc, hmore]

theorem lt_pow_maximalDigits {n : Nat} (h : n < 10 ^ 2) : n < 10 ^ maximalDigits :=
  Nat.lt_of_lt_of_le h (Nat.pow_le_pow_right (by decide) (by decide))

theorem isDigit_of_mem_toDigits {n : Nat} (h : c ∈ Nat.toDigits 10 n) : c.isDigit = true :=
  Nat.isDigit_of_mem_toDigits (by decide) (by decide) h

theorem length_toDigits_le {n : Nat} (h : n < 10 ^ maximalDigits) :
    (Nat.toDigits 10 n).length ≤ maximalDigits :=
  (Nat.length_toDigits_le_iff (by decide) (by decide)).2 h

/-- The digits of a number denote it. -/
theorem digitsToNat_toDigits (n : Nat) :
    digitsToNat ((Nat.toDigits 10 n).map fun c => c.toNat - '0'.toNat) = n := by
  rw [digitsToNat, List.foldl_map, ← Nat.ofDigitChars_eq_foldl, Nat.ofDigitChars_ten_toDigits]

theorem natural?_toDigits {n : Nat} (h : n < 10 ^ maximalDigits) :
    natural? (Nat.toDigits 10 n) = .ok n := by
  rw [natural?, digitValues_of_isDigit Nat.toDigits_ne_nil fun c hc => isDigit_of_mem_toDigits hc]
  simp only [List.length_map, if_neg (Nat.not_lt_of_le (length_toDigits_le h)), digitsToNat_toDigits]

/-- The digits of a number, behind a hyphen if it is negative. -/
theorem toList_toString_int (n : Int) :
    (toString n).toList =
      if n < 0 then '-' :: Nat.toDigits 10 n.natAbs else Nat.toDigits 10 n.natAbs := by
  cases n with
  | ofNat m => simp [toString, Int.repr]
  | negSucc m => simp [toString, Int.repr, Int.negSucc_lt_zero]

theorem isBlank_of_mem_toString {n : Int} (h : c ∈ (toString n).toList) : isBlank c = false := by
  have hdigit : c ∈ Nat.toDigits 10 n.natAbs → isBlank c = false := fun hc =>
    isBlank_of_isDigit (isDigit_of_mem_toDigits hc)
  rw [toList_toString_int] at h
  split at h
  · rcases List.mem_cons.1 h with rfl | hc
    · rfl
    · exact hdigit hc
  · exact hdigit h

theorem unpadded_toString (n : Int) : Unpadded (toString n).toList where
  head _ hc := isBlank_of_mem_toString (List.mem_of_head? hc)
  last _ hc := isBlank_of_mem_toString (List.mem_of_getLast? hc)

theorem trimNumeral_toString (n : Int) : trimNumeral (toString n).toList = (toString n).toList := by
  have hnone : ∀ c ∈ (toString n).toList, isNumeralBlank c = false := fun c hc => by
    rw [isNumeralBlank, isBlank_of_mem_toString hc, Bool.false_and]
  rw [trimNumeral, dropWhile_of_head fun c hc => hnone c (List.mem_of_head? hc),
    dropWhile_of_head fun c hc => hnone c (List.mem_reverse.1 (List.mem_of_head? hc)),
    List.reverse_reverse]

/-- A number of not too many digits is read from its digits. -/
theorem integer?_toString {n : Int} (h : n.natAbs < 10 ^ maximalDigits) :
    integer? (toString n) = .ok n := by
  have hdigit : ∀ c ∈ Nat.toDigits 10 n.natAbs, c.isDigit = true := fun c hc =>
    isDigit_of_mem_toDigits hc
  have hread := natural?_toDigits h
  rw [integer?, trimNumeral_toString, toList_toString_int]
  by_cases hnegative : n < 0
  · rw [if_pos hnegative]
    have hn : -(n.natAbs : Int) = n := by omega
    simp only [hread]
    exact congrArg Except.ok hn
  · rw [if_neg hnegative]
    split
    · next heq => exact absurd (hdigit '-' (by simp [heq])) (by decide)
    · next heq => exact absurd (hdigit '+' (by simp [heq])) (by decide)
    · have hn : Int.ofNat n.natAbs = n := Int.natAbs_of_nonneg (Int.not_lt.1 hnegative)
      simp only [hread]
      exact congrArg Except.ok hn

/-! ## Lines -/

theorem unifyLineEnds_of_not_mem (h : '\r' ∉ cs) : unifyLineEnds cs = cs := by
  induction cs with
  | nil => rfl
  | cons c rest ih =>
      obtain ⟨hc, hrest⟩ := not_or.1 (mt List.mem_cons.2 h)
      rw [unifyLineEnds, if_neg (Ne.symm hc), ih hrest]
      exact fun _ heq => absurd heq.symm hc

theorem splitAfterFeeds_append (h : '\n' ∉ cs) (rest : List Char) :
    splitAfterFeeds (cs ++ '\n' :: rest) = (cs ++ ['\n']) :: splitAfterFeeds rest := by
  induction cs with
  | nil => rfl
  | cons c more ih =>
      obtain ⟨hc, hmore⟩ := not_or.1 (mt List.mem_cons.2 h)
      rw [List.cons_append, splitAfterFeeds, if_neg (Ne.symm hc), ih hmore]
      rfl

/-- A text that is one line of a file. -/
def IsLine (line : String) : Prop :=
  '\n' ∉ line.toList ∧ '\r' ∉ line.toList

/-- A text without blanks other than spaces is one line. -/
theorem isLine_of_spaces {text : String} (h : ∀ c ∈ text.toList, c = ' ' ∨ isBlank c = false) :
    IsLine text := by
  constructor
  · intro hmem
    rcases h _ hmem with heq | hblank
    · cases heq
    · cases hblank
  · intro hmem
    rcases h _ hmem with heq | hblank
    · cases heq
    · cases hblank

theorem isLine_intercalate {ws : List String} (h : ∀ word ∈ ws, IsWord word) :
    IsLine (" ".intercalate ws) := by
  refine isLine_of_spaces ?_
  induction ws with
  | nil => simp
  | cons word rest ih =>
      obtain ⟨hword, hrest⟩ := List.forall_mem_cons.1 h
      cases rest with
      | nil => simpa using fun c hc => .inr (hword.isBlank c hc)
      | cons next rest =>
          rw [toList_intercalate_cons]
          intro c hc
          rcases List.mem_append.1 hc with hc | hc
          · exact .inr (hword.isBlank c hc)
          · rcases List.mem_cons.1 hc with rfl | hc
            · exact .inl rfl
            · exact ih hrest c hc

theorem isLine_toString (n : Int) : IsLine (toString n) :=
  isLine_of_spaces fun _ hc => .inr (isBlank_of_mem_toString hc)

/-- The lines of a file into which lines were written are these lines. -/
theorem fileLines_of_lines {written : List String} (h : ∀ line ∈ written, IsLine line) :
    fileLines (String.join (written.map (· ++ "\n"))).toUTF8 =
      (written.map fun line => line.toList ++ ['\n'], none) := by
  have hjoin : (String.join (written.map (· ++ "\n"))).toList =
      (written.map fun line => line.toList ++ ['\n']).flatten := by
    simp [List.flatMap_def, Function.comp_def]
  have hreturn : '\r' ∉ (written.map fun line => line.toList ++ ['\n']).flatten := by
    simp only [List.mem_flatten, List.mem_map, not_exists, not_and]
    rintro _ ⟨line, hline, rfl⟩
    simp [(h line hline).2]
  rw [fileLines_toUTF8, hjoin, unifyLineEnds_of_not_mem hreturn]
  congr 1
  clear hjoin hreturn
  induction written with
  | nil => rfl
  | cons line rest ih =>
      obtain ⟨hline, hrest⟩ := List.forall_mem_cons.1 h
      rw [List.map_cons, List.flatten_cons, List.append_assoc, List.singleton_append,
        splitAfterFeeds_append hline.1, ih hrest]

end JuliaNative.Text
