import JuliaNative.Ini.Reference
import JuliaNative.Proofs.Checked
import JuliaNative.Proofs.Ini.Reading

set_option autoImplicit false

/-! # References to options without a value

A value cannot be resolved for several reasons, and for one of them there is no message of the file's
own: it refers to an option that is written as a bare name, directly or through the values that it
refers to (`ComesToNothing`). Everything in front of that reference has to be resolved first, since the
first fault ends the resolution (`expand_eq_withoutValue`). An option that a section lists is never
missing when it is looked up again in lower case (`resolved_ne_unwritten`). -/

namespace JuliaNative.Ini.Document

variable {document : Document} {depth : Nat} {sectionName option value : String}

/-- Going through pieces of a value in a section comes to a reference to an option without a value, in
    these pieces or, within so many levels, in a value that they refer to. -/
inductive ComesToNothing (document : Document) : Nat → String → List Piece → Prop
  | atOption {depth : Nat} {sectionName other name after : String} {path : List String}
    {rest : List Piece} (htarget : document.target? sectionName path = some (other, name, none)) :
    ComesToNothing document (depth + 1) sectionName (.reference path after :: rest)
  | inValue {depth : Nat} {sectionName other name text after : String} {path : List String}
    {rest : List Piece} (htarget : document.target? sectionName path = some (other, name, some text))
    (hrefers : '$' ∈ text.toList) (h : ComesToNothing document depth other (pieces text)) :
    ComesToNothing document (depth + 1) sectionName (.reference path after :: rest)
  | afterChar {depth : Nat} {sectionName : String} {c : Char} {rest : List Piece}
    (h : ComesToNothing document (depth + 1) sectionName rest) :
    ComesToNothing document (depth + 1) sectionName (.char c :: rest)
  | afterReference {depth : Nat} {sectionName other name text after : String} {path : List String}
    {rest : List Piece} (htarget : document.target? sectionName path = some (other, name, some text))
    (hresolved : '$' ∈ text.toList → ∃ cs, document.expand depth other name text = .ok cs)
    (h : ComesToNothing document (depth + 1) sectionName rest) :
    ComesToNothing document (depth + 1) sectionName (.reference path after :: rest)

/-- Only a name, or a name and a section, lead anywhere. -/
theorem length_le_of_target? {path : List String} {found : String × String × Option String}
    (h : document.target? sectionName path = some found) : path.length ≤ 2 := by
  unfold target? at h
  split at h
  · exact Nat.le_succ 1
  · exact Nat.le_refl 2
  · cases h

section Pieces

variable {parts rest : List Piece}

theorem comesToNothing_char {c : Char} :
    document.ComesToNothing (depth + 1) sectionName (.char c :: rest) ↔
      document.ComesToNothing (depth + 1) sectionName rest := by
  constructor
  · rintro (_ | _ | h | _)
    exact h
  · exact .afterChar

theorem comesToNothing_reference {path : List String} {after : String} :
    document.ComesToNothing (depth + 1) sectionName (.reference path after :: rest) ↔
      ∃ other name found, document.target? sectionName path = some (other, name, found) ∧
        ∀ text, found = some text →
          ('$' ∈ text.toList ∧ document.ComesToNothing depth other (pieces text)) ∨
            (('$' ∈ text.toList → ∃ cs, document.expand depth other name text = .ok cs) ∧
              document.ComesToNothing (depth + 1) sectionName rest) := by
  constructor
  · intro h
    cases h with
    | atOption htarget => exact ⟨_, _, _, htarget, nofun⟩
    | inValue htarget hrefers h =>
        refine ⟨_, _, _, htarget, ?_⟩
        rintro text ⟨⟩
        exact .inl ⟨hrefers, h⟩
    | afterReference htarget hresolved h =>
        refine ⟨_, _, _, htarget, ?_⟩
        rintro text ⟨⟩
        exact .inr ⟨hresolved, h⟩
  · rintro ⟨other, name, _ | text, htarget, h⟩
    · exact .atOption htarget
    · rcases h text rfl with ⟨hrefers, hinner⟩ | ⟨hresolved, hrest⟩
      · exact .inValue htarget hrefers hinner
      · exact .afterReference htarget hresolved hrest

/-- A reference to a value fails where this value does, or what follows it after this value. -/
theorem joinPieces_reference_eq_error {fault : ReferenceFault} {path : List String}
    {other name text after : String}
    (htarget : document.target? sectionName path = some (other, name, some text)) :
    document.joinPieces (document.expand depth) sectionName option value
        (.reference path after :: rest) = .error fault ↔
      ('$' ∈ text.toList ∧ document.expand depth other name text = .error fault) ∨
        (('$' ∈ text.toList → ∃ cs, document.expand depth other name text = .ok cs) ∧
          document.joinPieces (document.expand depth) sectionName option value rest
            = .error fault) := by
  rw [joinPieces, if_neg (Nat.not_lt_of_le (length_le_of_target? htarget)), htarget]
  by_cases hrefers : '$' ∈ text.toList
  · simp [hrefers, Checked.bind_eq_error, pure, Except.pure]
  · simp [hrefers, Checked.bind_eq_error, pure, Except.pure]

/-- Joining pieces fails for want of a value exactly if they come to an option without one. -/
theorem joinPieces_eq_withoutValue
    (hexpand : ∀ other name text, document.expand depth other name text = .error .withoutValue ↔
      document.ComesToNothing depth other (pieces text)) :
    document.joinPieces (document.expand depth) sectionName option value parts
        = .error .withoutValue ↔
      document.ComesToNothing (depth + 1) sectionName parts := by
  induction parts with
  | nil => exact iff_of_false nofun nofun
  | cons piece rest ih =>
      cases piece with
      | char c => rw [joinPieces, Checked.map_eq_error, ih, comesToNothing_char]
      | unclosed found => exact iff_of_false nofun nofun
      | strayDollar found => exact iff_of_false nofun nofun
      | reference path after =>
          rw [comesToNothing_reference]
          cases htarget : document.target? sectionName path with
          | none =>
              rw [joinPieces, htarget]
              split <;> simp
          | some target =>
              obtain ⟨other, name, _ | text⟩ := target
              · rw [joinPieces, if_neg (Nat.not_lt_of_le (length_le_of_target? htarget)), htarget]
                simp
              · rw [joinPieces_reference_eq_error htarget, hexpand, ih]
                simp

end Pieces

/-- Resolving references fails for want of a value exactly if they come to an option without one. -/
theorem expand_eq_withoutValue :
    document.expand depth sectionName option value = .error .withoutValue ↔
      document.ComesToNothing depth sectionName (pieces value) := by
  induction depth generalizing sectionName option value with
  | zero => exact iff_of_false nofun nofun
  | succ depth ih =>
      rw [expand]
      exact joinPieces_eq_withoutValue fun other name text => ih

/-! ## The options of a section -/

theorem joinPieces_ne_unwritten {parts : List Piece} {name : String}
    (hexpand : ∀ other inner text,
      document.expand depth other inner text ≠ .error (.unwritten name)) :
    document.joinPieces (document.expand depth) sectionName option value parts
      ≠ .error (.unwritten name) := by
  induction parts with
  | nil => exact nofun
  | cons piece rest ih =>
      cases piece with
      | char c => simpa only [joinPieces, ne_eq, Checked.map_eq_error] using ih
      | unclosed found => exact nofun
      | strayDollar found => exact nofun
      | reference path after =>
          cases htarget : document.target? sectionName path with
          | none =>
              rw [joinPieces, htarget]
              split <;> simp
          | some target =>
              obtain ⟨other, inner, _ | text⟩ := target
              · rw [joinPieces, if_neg (Nat.not_lt_of_le (length_le_of_target? htarget)), htarget]
                simp
              · simp [joinPieces_reference_eq_error htarget, hexpand, ih]

theorem expand_ne_unwritten {name : String} :
    document.expand depth sectionName option value ≠ .error (.unwritten name) := by
  induction depth generalizing sectionName option value with
  | zero => exact nofun
  | succ depth ih =>
      rw [expand]
      exact joinPieces_ne_unwritten fun _ _ _ => ih

/-- An option in lower case that is written as a bare name has no value. -/
theorem resolved_of_bare (hlower : Text.lower option = option)
    (hfound : document.value? sectionName option = some none) :
    document.resolved sectionName option = .ok none := by
  simp only [resolved, hlower, hfound]

/-- The value of an option in lower case is the value that is found, resolved. -/
theorem resolved_of_value (hlower : Text.lower option = option)
    (hfound : document.value? sectionName option = some (some value)) :
    document.resolved sectionName option =
      (document.expand maximalDepth sectionName option value).map fun cs =>
        some (String.ofList cs) := by
  simp only [resolved, hlower, hfound]

/-- The value of an option of a section comes to an option without a value. -/
def OptionComesToNothing (document : Document) (sectionName option : String) : Prop :=
  ∃ value, document.value? sectionName option = some (some value) ∧
    document.ComesToNothing maximalDepth sectionName (pieces value)

/-- Of the options of a section, the first one that cannot be resolved comes to an option without a
    value. -/
def SectionComesToNothing (document : Document) (sectionName : String) : Prop :=
  ∃ earlier option later, document.optionNames sectionName = earlier ++ option :: later ∧
    (∀ other ∈ earlier, ∃ value, document.resolved sectionName other = .ok value) ∧
      document.OptionComesToNothing sectionName option

section Listed

variable {options : Options}

theorem resolved_eq_withoutValue (h : document.WellNamed)
    (hwritten : document.written? sectionName = some options)
    (hoption : option ∈ document.optionNames sectionName) :
    document.resolved sectionName option = .error .withoutValue ↔
      document.OptionComesToNothing sectionName option := by
  have hlower := h.isLower_of_mem_optionNames hwritten hoption
  obtain ⟨_ | value, hfound⟩ := exists_value?_of_mem_optionNames hwritten hoption
  · simp [resolved_of_bare hlower hfound, OptionComesToNothing, hfound]
  · simp [resolved_of_value hlower hfound, OptionComesToNothing, hfound, Checked.map_eq_error,
      expand_eq_withoutValue]

/-- What a section lists as an option is found when it is looked up. -/
theorem resolved_ne_unwritten (h : document.WellNamed)
    (hwritten : document.written? sectionName = some options)
    (hoption : option ∈ document.optionNames sectionName) (name : String) :
    document.resolved sectionName option ≠ .error (.unwritten name) := by
  have hlower := h.isLower_of_mem_optionNames hwritten hoption
  obtain ⟨_ | value, hfound⟩ := exists_value?_of_mem_optionNames hwritten hoption
  · simp [resolved_of_bare hlower hfound]
  · simp [resolved_of_value hlower hfound, Checked.map_eq_error, expand_ne_unwritten]

end Listed

end JuliaNative.Ini.Document
