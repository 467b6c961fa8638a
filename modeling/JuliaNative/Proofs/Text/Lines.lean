import JuliaNative.Text.Blank
import JuliaNative.Text.Lines
import Mathlib.Data.List.TakeWhile

set_option autoImplicit false

/-! # Lines and their blanks

A text consists of lines with their ends, in one way only (`lines_eq_iff`), and no line holds a character
that ends lines (`isLineEnd_of_mem_lines`). Cutting blanks off takes them from the two ends of a line and
nothing else (`exists_blanks_trim`), and what then comes first is the first character that is not blank
(`head?_trim`). -/

namespace JuliaNative.Text

variable {cs line : List Char} {c : Char} {written : List (List Char)}

/-! ## The lines of a text -/

/-- Characters of which none ends a line. -/
def IsPlain (line : List Char) : Prop :=
  ∀ c ∈ line, isLineEnd c = false

instance (line : List Char) : Decidable (IsPlain line) :=
  List.decidableBAll (fun c => isLineEnd c = false) line

/-- What ends a line before the rest of a text: a carriage return with a line feed, or any other character
    that ends lines. A carriage return is not an end of its own if the rest begins with a line feed. -/
inductive EndsLine : List Char → List Char → Prop
  | both {rest : List Char} : EndsLine ['\r', '\n'] rest
  | single {c : Char} {rest : List Char} (hend : isLineEnd c = true)
      (hboth : ¬ (c = '\r' ∧ rest.head? = some '\n')) : EndsLine [c] rest

/-- A text consists of lines: each has its end behind it, which only a last line that is not empty may
    lack. -/
inductive ConsistsOf : List (List Char) → List Char → Prop
  | nil : ConsistsOf [] []
  | unended {line : List Char} (hplain : IsPlain line) (hfilled : line ≠ []) : ConsistsOf [line] line
  | ended {line ending rest : List Char} {others : List (List Char)} (hplain : IsPlain line)
      (hending : EndsLine ending rest) (hrest : ConsistsOf others rest) :
      ConsistsOf (line :: others) (line ++ (ending ++ rest))

/-- Lines with a character put in front of the first one. -/
def inFront (c : Char) : List (List Char) → List (List Char)
  | [] => [[c]]
  | line :: others => (c :: line) :: others

theorem lines_cons_of_plain (h : isLineEnd c = false) (rest : List Char) :
    lines (c :: rest) = inFront c (lines rest) := by
  have hreturn : ∀ more, c = '\r' → rest = '\n' :: more → False := by
    rintro _ rfl -
    cases h
  rw [lines.eq_3 c rest hreturn, if_neg (by simp [h])]
  cases lines rest <;> rfl

theorem lines_of_endsLine {ending rest : List Char} (h : EndsLine ending rest) :
    lines (ending ++ rest) = [] :: lines rest := by
  cases h with
  | both => exact lines.eq_2 rest
  | @single c _ hend hboth =>
      have hreturn : ∀ more, c = '\r' → rest = '\n' :: more → False := by
        rintro more rfl rfl
        exact hboth ⟨rfl, rfl⟩
      rw [List.singleton_append, lines.eq_3 c rest hreturn, if_pos hend]

/-- The line before an end is cut off, and what follows is cut by itself. -/
theorem lines_append_ending {ending rest : List Char} (hplain : IsPlain line)
    (hending : EndsLine ending rest) :
    lines (line ++ (ending ++ rest)) = line :: lines rest := by
  induction line with
  | nil => exact lines_of_endsLine hending
  | cons c more ih =>
      obtain ⟨hc, hmore⟩ := List.forall_mem_cons.1 hplain
      rw [List.cons_append, lines_cons_of_plain hc, ih hmore]
      rfl

theorem lines_of_isPlain (hplain : IsPlain line) (hfilled : line ≠ []) : lines line = [line] := by
  induction line with
  | nil => exact absurd rfl hfilled
  | cons c more ih =>
      obtain ⟨hc, hmore⟩ := List.forall_mem_cons.1 hplain
      rw [lines_cons_of_plain hc]
      cases more with
      | nil => rfl
      | cons next rest =>
          rw [ih hmore (List.cons_ne_nil next rest)]
          rfl

/-- A character in front of a text is in front of its first line. -/
theorem ConsistsOf.cons (h : ConsistsOf written cs) (hc : isLineEnd c = false) :
    ConsistsOf (inFront c written) (c :: cs) := by
  have hfront : ∀ {line : List Char}, IsPlain line → IsPlain (c :: line) :=
    fun hplain => List.forall_mem_cons.2 ⟨hc, hplain⟩
  cases h with
  | nil => exact .unended (hfront (List.forall_mem_nil _)) (List.cons_ne_nil c [])
  | unended hplain _ => exact .unended (hfront hplain) (List.cons_ne_nil c _)
  | ended hplain hending hrest => exact .ended (hfront hplain) hending hrest

theorem consistsOf_lines (cs : List Char) : ConsistsOf (lines cs) cs := by
  fun_induction lines cs with
  | case1 => exact .nil
  | case2 rest ih => exact .ended (List.forall_mem_nil _) .both ih
  | case3 c rest hreturn hend ih =>
      have hending : EndsLine [c] rest := by
        refine .single hend ?_
        rintro ⟨hc, hhead⟩
        obtain ⟨more, rfl⟩ := List.head?_eq_some_iff.1 hhead
        exact hreturn more hc rfl
      exact .ended (List.forall_mem_nil _) hending ih
  | case4 c rest _ hend hlines ih =>
      rw [hlines] at ih
      exact ih.cons (by simpa using hend)
  | case5 c rest _ hend first others hlines ih =>
      rw [hlines] at ih
      exact ih.cons (by simpa using hend)

/-- The lines of a text are those that it consists of. -/
theorem lines_eq_iff : lines cs = written ↔ ConsistsOf written cs := by
  constructor
  · rintro rfl
    exact consistsOf_lines cs
  · intro h
    induction h with
    | nil => rfl
    | unended hplain hfilled => exact lines_of_isPlain hplain hfilled
    | ended hplain hending _ ih => rw [lines_append_ending hplain hending, ih]

/-- Lines that are printed one after another make up a text. -/
theorem ConsistsOf.of_printed (h : ∀ line ∈ written, IsPlain line) :
    ConsistsOf written (written.flatMap (· ++ ['\n'])) := by
  induction written with
  | nil => exact .nil
  | cons line others ih =>
      obtain ⟨hline, hothers⟩ := List.forall_mem_cons.1 h
      rw [List.flatMap_cons, List.append_assoc]
      exact .ended hline (.single (by decide) (by simp)) (ih hothers)

theorem ConsistsOf.isPlain (h : ConsistsOf written cs) : ∀ line ∈ written, IsPlain line := by
  induction h with
  | nil => exact List.forall_mem_nil _
  | unended hplain _ => exact List.forall_mem_cons.2 ⟨hplain, List.forall_mem_nil _⟩
  | ended hplain _ _ ih => exact List.forall_mem_cons.2 ⟨hplain, ih⟩

theorem isLineEnd_of_mem_lines (h : line ∈ lines cs) : ∀ c ∈ line, isLineEnd c = false :=
  (consistsOf_lines cs).isPlain line h

/-- Every character that ends lines is a blank. -/
theorem isLineEnd_of_isBlank (h : isBlank c = false) : isLineEnd c = false := by
  refine Bool.eq_false_iff.2 fun hend => Bool.eq_false_iff.1 h ?_
  simp only [isLineEnd, isBlank, Bool.or_eq_true, Bool.and_eq_true, decide_eq_true_eq,
    beq_iff_eq] at hend ⊢
  omega

/-! ## Blanks at the ends -/

/-- Characters are what is left of them once some are cut off at both ends, with these around that. -/
theorem exists_ends_cut (p : Char → Bool) (cs : List Char) :
    ∃ before behind, cs = before ++ (((cs.dropWhile p).reverse.dropWhile p).reverse ++ behind) ∧
      (∀ c ∈ before, p c = true) ∧ ∀ c ∈ behind, p c = true := by
  let body := (cs.dropWhile p).reverse
  refine ⟨cs.takeWhile p, (body.takeWhile p).reverse, ?_, ?_, ?_⟩
  · have hbody : (body.dropWhile p).reverse ++ (body.takeWhile p).reverse = cs.dropWhile p := by
      rw [← List.reverse_append, List.takeWhile_append_dropWhile, List.reverse_reverse]
    rw [hbody, List.takeWhile_append_dropWhile]
  · intro c hc
    exact List.mem_takeWhile_imp hc
  · intro c hc
    exact List.mem_takeWhile_imp (List.mem_reverse.1 hc)

/-- A line is what is left of it without blanks, with blanks around that. -/
theorem exists_blanks_trim (cs : List Char) :
    ∃ before behind, cs = before ++ (trim cs ++ behind) ∧ (∀ c ∈ before, isBlank c = true) ∧
      ∀ c ∈ behind, isBlank c = true :=
  exists_ends_cut isBlank cs

theorem trimEnd_cons (h : isBlank c = false) (rest : List Char) :
    trimEnd (c :: rest) = c :: trimEnd rest := by
  have hlast : [c].dropWhile isBlank = [c] := List.dropWhile_cons_of_neg (by simp [h])
  unfold trimEnd
  rw [List.reverse_cons, List.dropWhile_append, hlast]
  cases hrest : rest.reverse.dropWhile isBlank with
  | nil => rfl
  | cons last others => simp

theorem not_of_head?_dropWhile {p : Char → Bool} (h : (cs.dropWhile p).head? = some c) :
    p c = false := by
  have hhead := List.head?_dropWhile_not p cs
  rwa [h] at hhead

/-- What is left without blanks starts with the first character that is not blank. -/
theorem head?_trim (cs : List Char) : (trim cs).head? = (cs.dropWhile isBlank).head? := by
  unfold trim
  cases hrest : cs.dropWhile isBlank with
  | nil => rfl
  | cons c rest =>
      have hfilled : cs.dropWhile isBlank ≠ [] := by simp [hrest]
      have hhead : isBlank c = false := by
        simpa [hrest] using List.head_dropWhile_not isBlank hfilled
      rw [trimEnd_cons hhead]
      rfl

end JuliaNative.Text
