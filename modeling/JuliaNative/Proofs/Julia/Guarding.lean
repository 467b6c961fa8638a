import JuliaNative.Proofs.Julia.Reading
import JuliaNative.Proofs.Text.Lines

set_option autoImplicit false

/-! # Guarded statements

Every line of a trace that holds a statement is written between `try; ` and `; catch; end`, so that a
statement that fails does not stop the script. That works only if the end of the guard is read as code.
It is exactly for the lines behind which a reader is in code again; behind a statement with a comment the
guard is swallowed by the comment (`guardedStatements_close`). -/

namespace JuliaNative.Julia

variable {cs line statement : List Char} {inside : Inside}

/-! ## Characters without a meaning -/

namespace Inside

/-- What a character without a meaning of its own is to a reader in the middle of something. -/
def plainMark : Inside → Char → Mark
  | .code => .code
  | .comment => .comment
  | .literal => .content
  | .escape => .content

theorem plainMark_eq_code_iff : inside.plainMark = Mark.code ↔ inside = .code := by
  constructor
  · intro h
    have happlied : inside.plainMark 'x' = Mark.code 'x' := congrFun h 'x'
    cases inside with
    | code => rfl
    | comment => cases happlied
    | literal => cases happlied
    | escape => cases happlied
  · intro h
    rw [h]
    rfl

end Inside

/-- Characters without a meaning of their own: wherever they stand, a reader goes on in the middle of what
    it was in. -/
def IsInert (cs : List Char) : Prop :=
  ∀ c ∈ cs, c ≠ '"' ∧ c ≠ '#' ∧ c ≠ '\\' ∧ c ≠ '$' ∧ c ≠ '\n'

instance : DecidablePred IsInert :=
  fun cs => cs.decidableBAll fun c => c ≠ '"' ∧ c ≠ '#' ∧ c ≠ '\\' ∧ c ≠ '$' ∧ c ≠ '\n'

/-- Blanks on a line have no meaning of their own. -/
theorem isInert_of_blanks (hblank : ∀ c ∈ cs, Text.isBlank c = true)
    (hend : ∀ c ∈ cs, Text.isLineEnd c = false) : IsInert cs := by
  intro c hc
  have hb := hblank c hc
  have he := hend c hc
  refine ⟨?_, ?_, ?_, ?_, ?_⟩ <;> rintro rfl
  · exact absurd hb (by decide)
  · exact absurd hb (by decide)
  · exact absurd hb (by decide)
  · exact absurd hb (by decide)
  · exact absurd he (by decide)

/-- One character without a meaning is marked by what the reader is in the middle of, and leaves it
    there. -/
theorem marks_of_inert {c : Char} (h : c ≠ '"' ∧ c ≠ '#' ∧ c ≠ '\\' ∧ c ≠ '$' ∧ c ≠ '\n')
    (inside : Inside) :
    inside.marks c = [inside.plainMark c] ∧ (inside.next c).plainMark = inside.plainMark := by
  obtain ⟨hquote, hhash, hbackslash, hdollar, hfeed⟩ := h
  cases inside with
  | code => simp [Inside.marks, Inside.next, Inside.plainMark, hquote, hhash]
  | comment => simp [Inside.marks, Inside.next, Inside.plainMark, hfeed]
  | literal => simp [Inside.marks, Inside.next, Inside.plainMark, hquote, hbackslash, hdollar]
  | escape => simp [Inside.marks, Inside.next, Inside.plainMark]

theorem scan_inert (h : IsInert cs) (inside : Inside) : scan inside cs = cs.map inside.plainMark := by
  induction cs generalizing inside with
  | nil => rfl
  | cons c cs ih =>
      obtain ⟨hc, hcs⟩ := List.forall_mem_cons.1 h
      obtain ⟨hmarks, hnext⟩ := marks_of_inert hc inside
      rw [scan, hmarks, ih hcs, hnext]
      rfl

theorem plainMark_after_inert (h : IsInert cs) (inside : Inside) :
    (inside.after cs).plainMark = inside.plainMark := by
  induction cs generalizing inside with
  | nil => rfl
  | cons c cs ih =>
      obtain ⟨hc, hcs⟩ := List.forall_mem_cons.1 h
      calc ((inside.next c).after cs).plainMark
          = (inside.next c).plainMark := ih hcs _
        _ = inside.plainMark := (marks_of_inert hc inside).2

/-- In a comment a reader stays to the end of the line. -/
theorem after_comment (h : ∀ c ∈ cs, c ≠ '\n') : Inside.comment.after cs = .comment := by
  induction cs with
  | nil => rfl
  | cons c cs ih =>
      obtain ⟨hc, hcs⟩ := List.forall_mem_cons.1 h
      have hnext : Inside.comment.next c = .comment := by simp [Inside.next, hc]
      calc (Inside.comment.next c).after cs
          = Inside.comment.after cs := by rw [hnext]
        _ = .comment := ih hcs

/-! ## Lines with statements -/

/-- Nothing stands on a line. -/
def IsBlankLine (line : List Char) : Prop :=
  ∀ c ∈ line, Text.isBlank c = true

/-- A line is a comment: it starts with a hash sign, perhaps behind blanks. -/
def IsCommentLine (line : List Char) : Prop :=
  (line.dropWhile Text.isBlank).head? = some '#'

instance : DecidablePred IsBlankLine :=
  fun line => line.decidableBAll fun c => Text.isBlank c = true

instance : DecidablePred IsCommentLine :=
  fun line => inferInstanceAs (Decidable ((line.dropWhile Text.isBlank).head? = some '#'))

/-- The lines of a trace that are neither blank nor comments. -/
def statementLines (trace : String) : List (List Char) :=
  (Text.lines trace.toList).filter fun line => ¬ IsBlankLine line ∧ ¬ IsCommentLine line

theorem isStatement_trim (line : List Char) :
    isStatement (Text.trim line) = decide (¬ IsBlankLine line ∧ ¬ IsCommentLine line) := by
  have hnone : Text.trim line = [] ↔ IsBlankLine line := by
    rw [← List.head?_eq_none_iff, Text.head?_trim, List.head?_eq_none_iff, List.dropWhile_eq_nil_iff]
    rfl
  have hcomment : (Text.trim line).head? = some '#' ↔ IsCommentLine line := by
    rw [Text.head?_trim]
    rfl
  simp [isStatement, hnone, hcomment]

/-- What is written for a trace: one guarded statement for each line with one, in order. -/
theorem guardedStatements_eq (trace : String) :
    guardedStatements trace =
      (statementLines trace).map fun line => guarded (Text.trim line) := by
  unfold guardedStatements statementLines
  rw [List.filter_map, List.map_map]
  congr 2
  funext line
  exact isStatement_trim line

/-- Cutting blanks off a line does not change what a reader is in the middle of behind it. -/
theorem plainMark_after_trim (h : ∀ c ∈ line, Text.isLineEnd c = false) :
    (Inside.code.after (Text.trim line)).plainMark = (Inside.code.after line).plainMark := by
  obtain ⟨before, behind, heq, hbefore, hbehind⟩ := Text.exists_blanks_trim line
  have hmem : ∀ c, c ∈ before ∨ c ∈ behind → Text.isLineEnd c = false := by
    intro c hc
    refine h c ?_
    rw [heq]
    rcases hc with hc | hc
    · simp [hc]
    · simp [hc]
  have hstart : Inside.code.after before = .code := by
    have hinert : IsInert before := isInert_of_blanks hbefore fun c hc => hmem c (.inl hc)
    exact Inside.plainMark_eq_code_iff.1 (plainMark_after_inert hinert .code)
  have hinert : IsInert behind := isInert_of_blanks hbehind fun c hc => hmem c (.inr hc)
  calc (Inside.code.after (Text.trim line)).plainMark
      = ((Inside.code.after (Text.trim line)).after behind).plainMark :=
        (plainMark_after_inert hinert _).symm
    _ = (Inside.code.after (before ++ (Text.trim line ++ behind))).plainMark := by
        rw [Inside.after_append, hstart, Inside.after_append]
    _ = (Inside.code.after line).plainMark := by
        rw [← heq]

/-! ## The end of a guard -/

/-- What ends the guard of a statement. -/
def guardEnd : String := "; catch; end"

/-- The end of a guarded statement is code. -/
def ClosesAsCode (written : String) : Prop :=
  guardEnd.toList.map .code <:+ scan .code written.toList

/-- The end of a guarded statement is a part of a comment. -/
def ClosesAsComment (written : String) : Prop :=
  guardEnd.toList.map .comment <:+ scan .code written.toList

/-- The end of a guard is to a reader what plain characters behind the statement are. -/
theorem suffix_scan_guarded_iff {mark : Char → Mark} :
    guardEnd.toList.map mark <:+ scan .code (guarded statement).toList ↔
      guardEnd.toList.map mark = guardEnd.toList.map (Inside.code.after statement).plainMark := by
  have hstart : Inside.code.after "try; ".toList = .code := by decide +kernel
  have hinert : IsInert guardEnd.toList := by decide +kernel
  have htext : (guarded statement).toList = "try; ".toList ++ statement ++ guardEnd.toList := by
    simp [guarded, guardEnd]
  have hscan : scan .code (guarded statement).toList =
      scan .code ("try; ".toList ++ statement) ++
        guardEnd.toList.map (Inside.code.after statement).plainMark := by
    rw [htext, scan_append, Inside.after_append, hstart, scan_inert hinert]
  rw [hscan]
  constructor
  · intro h
    refine List.IsSuffix.eq_of_length ?_ (by simp)
    exact List.suffix_of_suffix_length_le h (List.suffix_append ..) (by simp)
  · intro h
    rw [h]
    exact List.suffix_append ..

theorem closesAsCode_guarded_iff :
    ClosesAsCode (guarded statement) ↔ Inside.code.after statement = .code := by
  unfold ClosesAsCode
  rw [suffix_scan_guarded_iff]
  cases Inside.code.after statement with
  | code => exact iff_of_true rfl rfl
  | comment => exact iff_of_false (by decide +kernel) (by decide)
  | literal => exact iff_of_false (by decide +kernel) (by decide)
  | escape => exact iff_of_false (by decide +kernel) (by decide)

/-- A statement that is complete: behind it a reader is in code again. -/
def IsComplete (statement : List Char) : Prop :=
  Inside.code.after statement = .code

instance : DecidablePred IsComplete :=
  fun statement => inferInstanceAs (Decidable (Inside.code.after statement = .code))

/-- What is written for a trace is one line for each line of the trace that is neither blank nor a comment,
    in order. The end of its guard is code exactly if a reader is in code again behind the line of the
    trace; where that line is a complete statement, perhaps with a comment behind it, exactly if there is
    no comment, and otherwise the end of the guard belongs to the comment. -/
theorem guardedStatements_close (trace : String) :
    guardedStatements trace = (statementLines trace).map (fun line => guarded (Text.trim line)) ∧
      ∀ line ∈ statementLines trace,
        (ClosesAsCode (guarded (Text.trim line)) ↔ IsComplete line) ∧
          ∀ statement comment, line = statement ++ comment → IsComplete statement →
            (comment = [] ∨ comment.head? = some '#') →
              (ClosesAsCode (guarded (Text.trim line)) ↔ comment = []) ∧
                (comment ≠ [] → ClosesAsComment (guarded (Text.trim line))) := by
  refine ⟨guardedStatements_eq trace, ?_⟩
  intro line hline
  have hends : ∀ c ∈ line, Text.isLineEnd c = false :=
    Text.isLineEnd_of_mem_lines (List.mem_filter.1 hline).1
  have hmark := plainMark_after_trim hends
  have hcloses : ClosesAsCode (guarded (Text.trim line)) ↔ IsComplete line := by
    rw [closesAsCode_guarded_iff, ← Inside.plainMark_eq_code_iff, hmark,
      Inside.plainMark_eq_code_iff]
    rfl
  refine ⟨hcloses, ?_⟩
  rintro statement comment rfl hcomplete hcomment
  cases comment with
  | nil =>
      rw [List.append_nil] at hcloses ⊢
      exact ⟨iff_of_true (hcloses.2 hcomplete) rfl, fun h => absurd rfl h⟩
  | cons c rest =>
      obtain rfl : c = '#' := by simpa using hcomment
      have hrest : ∀ c ∈ rest, c ≠ '\n' := by
        rintro c hc rfl
        have hfeed := hends '\n' (by simp [hc])
        exact absurd hfeed (by decide)
      have hafter : Inside.code.after (statement ++ '#' :: rest) = .comment := by
        rw [Inside.after_append, hcomplete]
        exact after_comment hrest
      constructor
      · rw [hcloses]
        unfold IsComplete
        rw [hafter]
        exact iff_of_false (by decide) (by simp)
      · intro _
        unfold ClosesAsComment
        rw [suffix_scan_guarded_iff, hmark, hafter]
        rfl

/-- Behind a statement without a comment a guard ends in code; a comment behind a statement takes the end
    of the guard with it. -/
theorem guardedStatements_close_commented :
    let trace := "precompile(f)\n\n# traced\n  precompile(g) # recompile\n"
    let plain := "try; precompile(f); catch; end"
    let commented := "try; precompile(g) # recompile; catch; end"
    guardedStatements trace = [plain, commented] ∧ ClosesAsCode plain ∧
      ¬ ClosesAsCode commented ∧ ClosesAsComment commented := by
  intro trace plain commented
  obtain ⟨hwritten, hclose⟩ := guardedStatements_close trace
  have hfirst : "precompile(f)".toList ∈ statementLines trace := by decide +kernel
  have hsecond : "  precompile(g) # recompile".toList ∈ statementLines trace := by decide +kernel
  obtain ⟨hplain, -⟩ := (hclose _ hfirst).2 "precompile(f)".toList [] (List.append_nil _).symm
    (by decide +kernel) (.inl rfl)
  obtain ⟨hcode, hcomment⟩ := (hclose _ hsecond).2 "  precompile(g) ".toList "# recompile".toList
    (by decide +kernel) (by decide +kernel) (.inr rfl)
  have hcommented : "# recompile".toList ≠ [] := by decide +kernel
  exact ⟨hwritten.trans (by decide +kernel), hplain.2 rfl, fun h => hcommented (hcode.1 h),
    hcomment hcommented⟩

end JuliaNative.Julia
