import JuliaNative.Proofs.Text.Written
import JuliaNative.Text.ShellWords

set_option autoImplicit false

/-! # Words that were quoted, and words that need no quotes

A splitter that meets a quoted word adds the characters of this word to the word that has begun, whatever
they are (`splitShell_shellQuote`), so quoted words that are joined by spaces are found again
(`shellWords?_shellJoin`). In a text without quotes and backslashes, whose blanks are all blanks of a shell,
the words are those between blanks (`shellWords?_of_unquoted`). -/

namespace JuliaNative.Text

variable {cs rest : List Char} {word : Option (List Char)} {c : Char} {text : String}

/-! ## Steps of a splitter -/

theorem isBlank_of_isShellBlank (h : isShellBlank c = true) : isBlank c = true := by
  simp only [isShellBlank, Bool.or_eq_true, decide_eq_true_eq] at h
  rcases h with ((rfl | rfl) | rfl) | rfl <;> decide

theorem splitShell_nil : splitShell .bare word [] = some (word.map List.reverse).toList := by
  cases word <;> rfl

/-- A character that is no backslash, outside quotes: a blank ends the word that has begun, if one has, a
    quote opens, and any other character stands for itself. -/
theorem splitShell_bare_cons (h : c ≠ '\\') :
    splitShell .bare word (c :: rest) =
      if isShellBlank c then (splitShell .bare none rest).map ((word.map List.reverse).toList ++ ·)
      else if c = '\'' then splitShell .single (some (word.getD [])) rest
      else if c = '"' then splitShell .double (some (word.getD [])) rest
      else splitShell .bare (some (c :: word.getD [])) rest := by
  cases word <;> simp [splitShell, h]

theorem splitShell_blank (h : isShellBlank c = true) :
    splitShell .bare word (c :: rest) =
      (splitShell .bare none rest).map ((word.map List.reverse).toList ++ ·) := by
  have hc : c ≠ '\\' := by
    rintro rfl
    cases h
  rw [splitShell_bare_cons hc, if_pos h]

/-- A character that is no blank, no quote and no backslash stands for itself outside quotes. -/
theorem splitShell_plain (hblank : isShellBlank c = false) (h : c ∉ ['\'', '"', '\\']) :
    splitShell .bare word (c :: rest) = splitShell .bare (some (c :: word.getD [])) rest := by
  simp only [List.mem_cons, List.not_mem_nil, or_false, not_or] at h
  obtain ⟨hsingle, hdouble, hc⟩ := h
  rw [splitShell_bare_cons hc, hblank, if_neg Bool.false_ne_true, if_neg hsingle, if_neg hdouble]

theorem splitShell_single_quote :
    splitShell .bare word ('\'' :: rest) = splitShell .single (some (word.getD [])) rest := by
  cases word <;> rfl

theorem splitShell_double_quote :
    splitShell .bare word ('"' :: rest) = splitShell .double (some (word.getD [])) rest := by
  cases word <;> rfl

theorem splitShell_single_close :
    splitShell .single word ('\'' :: rest) = splitShell .bare word rest := rfl

theorem splitShell_single_cons (h : c ≠ '\'') :
    splitShell .single word (c :: rest) = splitShell .single (some (c :: word.getD [])) rest :=
  if_neg h

/-! ## Quoted words -/

/-- A single quote that was quoted is one character more. -/
theorem splitShell_quoted_quote (word : List Char) :
    splitShell .single (some word) ('\'' :: '"' :: '\'' :: '"' :: '\'' :: rest) =
      splitShell .single (some ('\'' :: word)) rest := by
  rw [splitShell_single_close, splitShell_double_quote]
  rfl

/-- Behind an opening quote the characters of a quoted word are taken as they are, up to the closing one. -/
theorem splitShell_quoted_body (cs rest word : List Char) :
    splitShell .single (some word)
        (cs.flatMap (fun c => if c = '\'' then ['\'', '"', '\'', '"', '\''] else [c]) ++ rest) =
      splitShell .single (some (cs.reverse ++ word)) rest := by
  induction cs generalizing word with
  | nil => rfl
  | cons c more ih =>
      rw [List.flatMap_cons, List.append_assoc, List.reverse_cons, List.append_assoc,
        List.singleton_append]
      by_cases hc : c = '\''
      -- the quotes around the word are closed and opened again, and what was gathered stays
      · subst hc
        rw [if_pos rfl]
        exact (splitShell_quoted_quote word).trans (ih _)
      · rw [if_neg hc]
        exact (splitShell_single_cons hc).trans (ih _)

/-- A quoted word adds its characters to the word that has begun, or begins one. -/
theorem splitShell_shellQuote (cs rest : List Char) (word : Option (List Char)) :
    splitShell .bare word (shellQuote cs ++ rest) =
      splitShell .bare (some (cs.reverse ++ word.getD [])) rest := by
  rw [shellQuote, List.cons_append, List.cons_append, splitShell_single_quote, List.append_assoc,
    splitShell_quoted_body, List.singleton_append, splitShell_single_close]

/-- Words, each quoted, with spaces between them. -/
def shellJoin (words : List String) : String :=
  " ".intercalate (words.map fun word => String.ofList (shellQuote word.toList))

theorem splitShell_shellJoin (words : List String) :
    splitShell .bare none (shellJoin words).toList = some (words.map String.toList) := by
  unfold shellJoin
  induction words with
  | nil => rfl
  | cons word rest ih =>
      cases rest with
      | nil =>
          rw [List.map_singleton, String.intercalate_singleton, String.toList_ofList,
            ← List.append_nil (shellQuote _), splitShell_shellQuote, splitShell_nil]
          simp
      | cons next others =>
          rw [List.map_cons] at ih
          rw [List.map_cons, List.map_cons, toList_intercalate_cons, String.toList_ofList,
            splitShell_shellQuote, splitShell_blank (by decide), ih]
          simp

theorem exists_toList_shellJoin (word : String) (rest : List String) :
    ∃ cs, (shellJoin (word :: rest)).toList = '\'' :: cs := by
  unfold shellJoin
  rw [List.map_cons]
  cases rest with
  | nil => exact ⟨_, by rw [List.map_nil, String.intercalate_singleton, String.toList_ofList]; rfl⟩
  | cons next others =>
      rw [List.map_cons, toList_intercalate_cons, String.toList_ofList]
      exact ⟨_, rfl⟩

/-- Words of any characters are found again. -/
theorem shellWords?_shellJoin (words : List String) : shellWords? (shellJoin words) = some words := by
  simp [shellWords?, splitShell_shellJoin, Function.comp_def]

example : shellJoin ["a'b", ""] = "'a'\"'\"'b' ''" := by decide

/-! ## Words between blanks -/

/-- The runs of characters between blanks. -/
def runs (cs : List Char) : List (List Char) :=
  (cs.splitOnP isBlank).filter (!·.isEmpty)

theorem words_eq_map_runs (text : String) : words text = (runs text.toList).map String.ofList := rfl

@[simp] theorem runs_nil : runs [] = [] := by
  simp [runs]

theorem runs_of_word (hne : cs ≠ []) (h : ∀ c ∈ cs, isBlank c = false) : runs cs = [cs] := by
  simp [runs, List.splitOnP_eq_singleton h, hne]

/-- A blank parts the runs before it from those behind it. -/
theorem runs_append_cons (hc : isBlank c = true) (cs rest : List Char) :
    runs (cs ++ c :: rest) = runs cs ++ runs rest := by
  rw [runs, List.splitOnP_append_cons cs rest hc, List.filter_append]
  rfl

theorem runs_append_blanks (h : ∀ c ∈ rest, isBlank c = true) : runs (cs ++ rest) = runs cs := by
  induction rest generalizing cs with
  | nil => rw [List.append_nil]
  | cons c more ih =>
      obtain ⟨hc, hmore⟩ := List.forall_mem_cons.1 h
      have hnone : runs more = [] := by rw [← List.nil_append more, ih hmore, runs_nil]
      rw [runs_append_cons hc, hnone, List.append_nil]

theorem runs_blanks_append (h : ∀ c ∈ cs, isBlank c = true) : runs (cs ++ rest) = runs rest := by
  induction cs with
  | nil => rfl
  | cons c more ih =>
      obtain ⟨hc, hmore⟩ := List.forall_mem_cons.1 h
      rw [List.cons_append, ← ih hmore]
      exact runs_append_cons hc [] _

/-- Blanks at the ends of a text are in no word. -/
theorem words_strip (text : String) : words (strip text) = words text := by
  obtain ⟨before, behind, heq, hbefore, hbehind⟩ := exists_blanks_trim text.toList
  have hruns : runs (trim text.toList) = runs text.toList := by
    conv_rhs => rw [heq, runs_blanks_append hbefore, runs_append_blanks hbehind]
  rw [words_eq_map_runs, words_eq_map_runs, strip, String.toList_ofList, hruns]

/-! ## Words that need no quotes -/

/-- Characters without quotes and backslashes, of which the blanks are all blanks of a shell. -/
def Unquoted (cs : List Char) : Prop :=
  ∀ c ∈ cs, c ∉ ['\'', '"', '\\'] ∧ (isBlank c = true → isShellBlank c = true)

instance (cs : List Char) : Decidable (Unquoted cs) :=
  List.decidableBAll (fun c => c ∉ ['\'', '"', '\\'] ∧ (isBlank c = true → isShellBlank c = true)) cs

/-- What has begun of a word, if anything, is some characters that are no blanks. -/
def IsBegun (word : Option (List Char)) : Prop :=
  ∀ begun, word = some begun → begun ≠ [] ∧ ∀ c ∈ begun, isBlank c = false

theorem IsBegun.none : IsBegun none := nofun

theorem IsBegun.cons (h : IsBegun word) (hc : isBlank c = false) : IsBegun (some (c :: word.getD [])) := by
  rintro _ ⟨⟩
  refine ⟨by simp, List.forall_mem_cons.2 ⟨hc, ?_⟩⟩
  cases word with
  | none => simp
  | some begun => exact (h begun rfl).2

theorem IsBegun.runs (h : IsBegun word) :
    runs (word.getD []).reverse = (word.map List.reverse).toList := by
  cases word with
  | none => exact runs_nil
  | some begun =>
      obtain ⟨hne, hbegun⟩ := h begun rfl
      exact runs_of_word (by simpa using hne) (by simpa using hbegun)

/-- By induction on the characters: what has begun of a word stands before the rest. -/
theorem splitShell_of_unquoted (h : Unquoted cs) (hword : IsBegun word) :
    splitShell .bare word cs = some (runs ((word.getD []).reverse ++ cs)) := by
  induction cs generalizing word with
  | nil =>
      rw [List.append_nil, hword.runs, splitShell_nil]
  | cons c rest ih =>
      obtain ⟨⟨hplain, hshell⟩, hrest⟩ := List.forall_mem_cons.1 h
      by_cases hblank : isBlank c = true
      · rw [splitShell_blank (hshell hblank), runs_append_cons hblank, hword.runs, ih hrest .none]
        rfl
      · have hc : isShellBlank c = false := by
          by_contra hne
          exact hblank (isBlank_of_isShellBlank (by simpa using hne))
        rw [splitShell_plain hc hplain, ih hrest (hword.cons (by simpa using hblank))]
        simp

/-- The words of a text without quotes are those between blanks. -/
theorem shellWords?_of_unquoted (h : Unquoted text.toList) : shellWords? text = some (words text) := by
  rw [shellWords?, splitShell_of_unquoted h .none, words_eq_map_runs]
  rfl

end JuliaNative.Text
