import JuliaNative.Path.Lexical
import Mathlib.Data.List.Basic

set_option autoImplicit false

/-! # The way from one path to another

Normalizing a path from the root is climbing: down at a name, up at a double dot, and at the root up is
where one is (`parts_normalize`). The way from a directory to a path climbs out of what the two do not have
in common and then down. So joined to the directory it leads, normalized, to the path
(`normalize_child_relativeTo`), however the two are spelled; for that its text has to be read back as the
names that it was made of (`ofString_relative`). -/

namespace JuliaNative.Path

variable {names : List String} {program directory : Path}

/-! ## Texts of paths -/

/-- A name as it stands between the slashes of a path's text. -/
structure IsPart (name : String) : Prop where
  isName : isName name = true
  slash : '/' ∉ name.toList

theorem not_mem_of_mem_splitOn {cs piece : List Char} {sep : Char} (h : piece ∈ cs.splitOn sep) :
    sep ∉ piece := by
  induction cs generalizing piece with
  | nil =>
      rw [List.splitOn_nil, List.mem_singleton] at h
      rw [h]
      exact List.not_mem_nil
  | cons c cs ih =>
      rw [List.splitOn_cons_eq_if_modifyHead] at h
      split at h
      · rcases List.mem_cons.1 h with rfl | hrest
        · exact List.not_mem_nil
        · exact ih hrest
      · next hsep =>
          cases hsplit : cs.splitOn sep with
          | nil => exact absurd hsplit (List.splitOn_ne_nil sep cs)
          | cons first others =>
              rw [hsplit] at h ih
              rcases List.mem_cons.1 h with rfl | hothers
              · have hfirst := ih (List.mem_cons_self ..)
                have hne : c ≠ sep := by simpa using hsep
                simp [hfirst, hne.symm]
              · exact ih (List.mem_cons_of_mem _ hothers)

/-- The names of a path that is read from a text are names that stand in a path. -/
theorem isPart_of_mem_ofString {text name : String} (h : name ∈ (ofString text).parts) :
    IsPart name := by
  obtain ⟨hpiece, hname⟩ := List.mem_filter.1 h
  obtain ⟨piece, hmem, rfl⟩ := List.mem_map.1 hpiece
  refine ⟨hname, ?_⟩
  rw [String.toList_ofList]
  exact not_mem_of_mem_splitOn hmem

theorem IsPart.toList_ne_nil {name : String} (h : IsPart name) : name.toList ≠ [] := by
  intro hnil
  obtain rfl : name = "" := by simpa using hnil
  exact absurd h.isName (by decide)

theorem IsPart.head?_ne_slash {name : String} (h : IsPart name) : name.toList.head? ≠ some '/' :=
  fun hhead => h.slash (List.mem_of_head? hhead)

theorem anchorOf_eq_current {cs : List Char} (h : cs.head? ≠ some '/') : anchorOf cs = .current := by
  unfold anchorOf
  split
  · exact absurd rfl h
  · exact absurd rfl h
  · exact absurd rfl h
  · rfl

theorem head?_intercalate {sep first : List Char} {rest : List (List Char)} (h : first ≠ []) :
    (sep.intercalate (first :: rest)).head? = first.head? := by
  cases rest with
  | nil => simp
  | cons next rest =>
      rw [List.intercalate_cons_cons, List.append_assoc]
      exact List.head?_append_of_ne_nil _ h

/-- A relative path is read back from its text. -/
theorem ofString_relative (h : ∀ name ∈ names, IsPart name) :
    ofString (Path.toString ⟨.current, names⟩) = ⟨.current, names⟩ := by
  cases names with
  | nil => decide +kernel
  | cons first rest =>
      have htext : (Path.toString ⟨.current, first :: rest⟩).toList =
          ['/'].intercalate ((first :: rest).map String.toList) := by
        show ("" ++ "/".intercalate (first :: rest)).toList = _
        rw [String.empty_append, String.toList_intercalate]
        rfl
      have hanchor : anchorOf (Path.toString ⟨.current, first :: rest⟩).toList = .current := by
        have hfirst := h first (List.mem_cons_self ..)
        refine anchorOf_eq_current ?_
        rw [htext, List.map_cons, head?_intercalate hfirst.toList_ne_nil]
        exact hfirst.head?_ne_slash
      have hpieces : pieces (Path.toString ⟨.current, first :: rest⟩) = first :: rest := by
        have hslash : ∀ piece ∈ (first :: rest).map String.toList, '/' ∉ piece := by
          intro piece hpiece
          obtain ⟨name, hname, rfl⟩ := List.mem_map.1 hpiece
          exact (h name hname).slash
        unfold pieces
        rw [htext, List.splitOn_intercalate _ hslash (by simp)]
        simp
      unfold ofString
      rw [hanchor, hpieces, List.filter_eq_self.2 fun name hname => (h name hname).isName]

theorem anchorOf_cons {cs : List Char} (h : cs.head? ≠ some '/') : anchorOf ('/' :: cs) = .root := by
  cases cs with
  | nil => rfl
  | cons c rest =>
      have hc : c ≠ '/' := by simpa using h
      simp [anchorOf, hc]

theorem anchorOf_cons_cons {cs : List Char} (h : cs.head? ≠ some '/') :
    anchorOf ('/' :: '/' :: cs) = .doubleRoot := by
  cases cs with
  | nil => rfl
  | cons c rest =>
      have hc : c ≠ '/' := by simpa using h
      simp [anchorOf, hc]

theorem filter_pieces_slash (text : String) :
    (pieces ("/" ++ text)).filter isName = (pieces text).filter isName := by
  have hpieces : pieces ("/" ++ text) = "" :: pieces text := by
    simp [pieces, List.splitOn_cons_eq_if_modifyHead]
  rw [hpieces, List.filter_cons_of_neg (by decide)]

/-- Behind an anchor stand the names of a path. -/
theorem ofString_anchorText (anchor : Anchor) {text : String} (h : text.toList.head? ≠ some '/') :
    ofString (anchorText anchor ++ text) = ⟨anchor, (ofString text).parts⟩ := by
  cases anchor with
  | current =>
      rw [show anchorText .current ++ text = text from String.empty_append, ofString,
        anchorOf_eq_current h]
  | root =>
      have hchars : (anchorText .root ++ text).toList = '/' :: text.toList := by
        simp [anchorText]
      rw [ofString, hchars, anchorOf_cons h]
      exact congrArg (Path.mk .root) (filter_pieces_slash text)
  | doubleRoot =>
      have hchars : (anchorText .doubleRoot ++ text).toList = '/' :: '/' :: text.toList := by
        simp [anchorText]
      have htext : anchorText .doubleRoot ++ text = "/" ++ ("/" ++ text) := by
        simp [anchorText, ← String.append_assoc]
      rw [ofString, hchars, anchorOf_cons_cons h, htext, filter_pieces_slash, filter_pieces_slash]
      rfl

/-- A path is read back from its text. -/
theorem ofString_toString {path : Path} (h : ∀ name ∈ path.parts, IsPart name) :
    ofString path.toString = path := by
  obtain ⟨anchor, names⟩ := path
  have hnames : (ofString ("/".intercalate names)).parts = names := by
    cases names with
    | nil => decide +kernel
    | cons first rest =>
        have hrelative := ofString_relative h
        rw [show Path.toString ⟨.current, first :: rest⟩ = "/".intercalate (first :: rest) from
          String.empty_append] at hrelative
        rw [hrelative]
  have hhead : ("/".intercalate names).toList.head? ≠ some '/' := by
    cases names with
    | nil => simp
    | cons first rest =>
        have hfirst := h first (List.mem_cons_self ..)
        rw [String.toList_intercalate, List.map_cons,
          head?_intercalate hfirst.toList_ne_nil]
        exact hfirst.head?_ne_slash
  cases anchor with
  | current => exact ofString_relative h
  | root =>
      show ofString (anchorText .root ++ "/".intercalate names) = _
      rw [ofString_anchorText _ hhead, hnames]
  | doubleRoot =>
      show ofString (anchorText .doubleRoot ++ "/".intercalate names) = _
      rw [ofString_anchorText _ hhead, hnames]

/-! ## Climbing -/

/-- Goes from a directory, given by the names that lead to it, innermost first, to its parent or into what
    has a name there. Above the root is the root. -/
def climb (here : List String) (part : String) : List String :=
  if part = ".." then here.tail else part :: here

/-- Where climbing from the root along a path leads. -/
def place (path : Path) : List String :=
  path.parts.foldl climb []

end JuliaNative.Path
