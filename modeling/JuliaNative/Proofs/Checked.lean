import Mathlib.Data.List.Forall2

set_option autoImplicit false

/-! # Computations that can be refused

A sequence of computations is refused where its first part is, or its second part after the first has
given its value. Going through a list gives a value for every element, or the fault of the first
element that has one. -/

namespace JuliaNative.Checked

variable {ε α β : Type} {fault : ε}

section Steps

variable {value result : α}

@[simp] theorem pure_eq_ok : (pure value : Except ε α) = .ok result ↔ value = result := by
  simp [pure, Except.pure]

@[simp] theorem pure_ne_error : (pure value : Except ε α) ≠ .error fault := by
  simp [pure, Except.pure]

@[simp] theorem throw_ne_ok : (throw fault : Except ε α) ≠ .ok result := by
  simp [throw, throwThe, MonadExceptOf.throw]

@[simp] theorem throw_eq_error {other : ε} :
    (throw other : Except ε α) = .error fault ↔ other = fault := by
  simp [throw, throwThe, MonadExceptOf.throw]

end Steps

theorem bind_eq_ok {first : Except ε α} {next : α → Except ε β} {result : β} :
    first >>= next = .ok result ↔ ∃ value, first = .ok value ∧ next value = .ok result := by
  cases first <;> simp [bind, Except.bind]

theorem bind_eq_error {first : Except ε α} {next : α → Except ε β} :
    first >>= next = .error fault ↔
      first = .error fault ∨ ∃ value, first = .ok value ∧ next value = .error fault := by
  cases first <;> simp [bind, Except.bind]

theorem map_eq_ok {first : Except ε α} {f : α → β} {result : β} :
    first.map f = .ok result ↔ ∃ value, first = .ok value ∧ f value = result := by
  cases first <;> simp [Except.map]

theorem map_eq_error {first : Except ε α} {f : α → β} :
    first.map f = .error fault ↔ first = .error fault := by
  cases first <;> simp [Except.map]

variable {f : α → Except ε β} {elements : List α} {values : List β}

theorem mapM_eq_ok :
    elements.mapM f = .ok values ↔ List.Forall₂ (fun x y => f x = .ok y) elements values := by
  induction elements generalizing values with
  | nil => simp [pure, Except.pure, eq_comm]
  | cons element rest ih =>
      rw [List.mapM_cons, bind_eq_ok, List.forall₂_cons_left_iff]
      simp only [bind_eq_ok, ih, pure, Except.pure, Except.ok.injEq, exists_and_left]
      simp only [eq_comm]

theorem exists_mapM_eq_ok :
    (∃ values, elements.mapM f = .ok values) ↔ ∀ element ∈ elements, ∃ value, f element = .ok value := by
  induction elements with
  | nil => simp
  | cons element rest ih =>
      rw [List.forall_mem_cons, ← ih]
      simp only [List.mapM_cons, bind_eq_ok, pure_eq_ok]
      constructor
      · rintro ⟨_, value, hvalue, values, hvalues, -⟩
        exact ⟨⟨value, hvalue⟩, values, hvalues⟩
      · rintro ⟨⟨value, hvalue⟩, values, hvalues⟩
        exact ⟨_, value, hvalue, values, hvalues, rfl⟩

/-- Going through a list is refused at the first element that is. -/
theorem mapM_eq_error :
    elements.mapM f = .error fault ↔ ∃ earlier element later,
      elements = earlier ++ element :: later ∧ (∀ other ∈ earlier, ∃ value, f other = .ok value) ∧
        f element = .error fault := by
  induction elements with
  | nil => simp [pure, Except.pure]
  | cons first rest ih =>
      rw [List.mapM_cons, bind_eq_error]
      constructor
      · rintro (h | ⟨value, hvalue, h⟩)
        · exact ⟨[], first, rest, rfl, by simp, h⟩
        · rcases bind_eq_error.1 h with h | ⟨_, -, h⟩
          · obtain ⟨earlier, element, later, rfl, hearlier, hfault⟩ := ih.1 h
            exact ⟨first :: earlier, element, later, rfl,
              List.forall_mem_cons.2 ⟨⟨value, hvalue⟩, hearlier⟩, hfault⟩
          · cases h
      · rintro ⟨_ | ⟨_, earlier⟩, element, later, heq, hearlier, hfault⟩
        · cases heq
          exact .inl hfault
        · cases heq
          obtain ⟨⟨value, hvalue⟩, hrest⟩ := List.forall_mem_cons.1 hearlier
          exact .inr ⟨value, hvalue,
            bind_eq_error.2 (.inl (ih.2 ⟨earlier, element, later, rfl, hrest, hfault⟩))⟩

end JuliaNative.Checked
