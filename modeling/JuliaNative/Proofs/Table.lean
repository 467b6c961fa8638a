import JuliaNative.Proofs.Checked
import JuliaNative.Table
import Mathlib.Data.List.Nodup

set_option autoImplicit false

/-! # Laws of tables

In a table whose keys stand once, the entry of a key is the value that is found for it. Changing the
values keeps the keys (`keys_mapValues`). Putting keeps keys apart, and so does putting a table over
another (`nodup_overlay`), where the upper table decides about its keys (`get?_overlay`). -/

namespace JuliaNative.Table

variable {κ ν μ : Type} {key : κ} {value : ν} {table base upper : Table κ ν}

/-! ## Keys and values -/

@[simp] theorem keys_nil : keys ([] : Table κ ν) = [] := rfl

@[simp] theorem keys_cons (entry : κ × ν) (rest : Table κ ν) :
    keys (entry :: rest) = entry.1 :: keys rest := rfl

theorem mem_keys_of_mem (h : (key, value) ∈ table) : key ∈ table.keys :=
  List.mem_map_of_mem h

theorem keys_append (table rest : Table κ ν) : keys (table ++ rest) = table.keys ++ rest.keys :=
  List.map_append ..

theorem keys_mapValues (change : ν → μ) (table : Table κ ν) :
    keys (table.map fun entry => (entry.1, change entry.2)) = table.keys := by
  simp [keys]

/-! ## A value for each key -/

theorem nodup_filter (h : table.keys.Nodup) (test : κ × ν → Bool) :
    (keys (table.filter test)).Nodup :=
  List.Nodup.sublist (List.filter_sublist.map _) h

section Lists

variable {keys : List κ} {P : κ → ν → Prop}

/-- A table lists some keys in their order, each with a value of which something holds. -/
def Lists (P : κ → ν → Prop) (keys : List κ) (table : Table κ ν) : Prop :=
  List.Forall₂ (fun key entry => entry.1 = key ∧ P key entry.2) keys table

/-- Going through keys gives a table if it gives each key its value. -/
theorem mapM_eq_ok_iff_lists {ε : Type} {f : κ → Except ε (κ × ν)}
    (h : ∀ key entry, f key = .ok entry ↔ entry.1 = key ∧ P key entry.2) :
    keys.mapM f = .ok table ↔ Lists P keys table := by
  simp only [Checked.mapM_eq_ok, h, Lists]

theorem Lists.keys_eq (h : Lists P keys table) : table.keys = keys := by
  induction h with
  | nil => rfl
  | cons hentry _ ih => rw [keys_cons, hentry.1, ih]

theorem Lists.exists_get? [DecidableEq κ] (h : Lists P keys table) (hkey : key ∈ keys) :
    ∃ value, P key value ∧ get? key table = some value := by
  induction h with
  | nil => cases hkey
  | @cons first entry _ _ hentry _ ih =>
      obtain ⟨rfl, hvalue⟩ := hentry
      by_cases heq : entry.1 = key
      · subst heq
        exact ⟨entry.2, hvalue, by simp [get?]⟩
      · obtain ⟨value, hfound, hget⟩ :=
          ih ((List.mem_cons.1 hkey).resolve_left fun hsame => heq hsame.symm)
        exact ⟨value, hfound, by simpa [get?, heq] using hget⟩

end Lists

variable [DecidableEq κ]

theorem get?_mapValues (change : ν → μ) (table : Table κ ν) :
    get? key (table.map fun entry => (entry.1, change entry.2)) = (get? key table).map change := by
  induction table with
  | nil => rfl
  | cons entry rest ih =>
      by_cases h : entry.1 = key
      · simp [get?, h]
      · simpa [get?, h] using ih

theorem get?_map_of_mem {keys : List κ} (f : κ → ν) (h : key ∈ keys) :
    get? key (keys.map fun other => (other, f other)) = some (f key) := by
  induction keys with
  | nil => cases h
  | cons first rest ih =>
      by_cases heq : first = key
      · simp [get?, heq]
      · simpa [get?, heq] using ih ((List.mem_cons.1 h).resolve_left (Ne.symm heq))

theorem get?_eq_none_iff : get? key table = none ↔ key ∉ table.keys := by
  induction table with
  | nil => simp [get?]
  | cons entry rest ih =>
      obtain ⟨other, found⟩ := entry
      by_cases h : other = key
      · simp [get?, h]
      · simpa [get?, h, Ne.symm h] using ih

theorem has_eq_true_iff : has key table = true ↔ key ∈ table.keys := by
  rw [has, Option.isSome_iff_ne_none, Ne, get?_eq_none_iff, not_not]

theorem has_eq_false_iff : has key table = false ↔ key ∉ table.keys := by
  rw [← Bool.not_eq_true, has_eq_true_iff]

/-- A key of a table has a value. -/
theorem exists_get?_of_mem_keys (h : key ∈ table.keys) : ∃ value, get? key table = some value :=
  Option.isSome_iff_exists.1 (has_eq_true_iff.2 h)

theorem mem_of_get? (h : get? key table = some value) : (key, value) ∈ table := by
  induction table with
  | nil => cases h
  | cons entry rest ih =>
      obtain ⟨other, found⟩ := entry
      unfold get? at h
      split at h
      · next heq =>
          cases h
          exact heq ▸ List.mem_cons_self ..
      · exact List.mem_cons_of_mem _ (ih h)

theorem mem_keys_of_get? (h : get? key table = some value) : key ∈ table.keys :=
  mem_keys_of_mem (mem_of_get? h)

/-- Where keys stand once, an entry is what is found for its key. -/
theorem get?_eq_some_iff (hdistinct : table.keys.Nodup) :
    get? key table = some value ↔ (key, value) ∈ table := by
  refine ⟨mem_of_get?, fun h => ?_⟩
  induction table with
  | nil => cases h
  | cons entry rest ih =>
      obtain ⟨other, found⟩ := entry
      obtain ⟨hother, hrest⟩ := List.nodup_cons.1 hdistinct
      rcases List.mem_cons.1 h with heq | hmem
      · cases heq
        simp [get?]
      · have hne : other ≠ key := by
          rintro rfl
          exact hother (mem_keys_of_mem hmem)
        simpa [get?, hne] using ih hrest hmem

/-! ## Leaving entries out -/

theorem get?_filter (h : table.keys.Nodup) (test : ν → Bool) :
    get? key (table.filter fun entry => test entry.2) = (get? key table).filter test := by
  induction table with
  | nil => rfl
  | cons entry rest ih =>
      obtain ⟨hentry, hrest⟩ := List.nodup_cons.1 h
      have ih := ih hrest
      by_cases heq : entry.1 = key
      · subst heq
        -- an entry that is left out is the only one of its key
        have hnone : get? entry.1 rest = none := get?_eq_none_iff.2 hentry
        rw [hnone] at ih
        cases htest : test entry.2 <;> simp [get?, htest, ih, Option.filter]
      · cases htest : test entry.2 <;> simp [get?, htest, heq, ih]

/-! ## Putting -/

theorem put_of_not_mem (h : key ∉ table.keys) : put key value table = table ++ [(key, value)] := by
  induction table with
  | nil => rfl
  | cons entry rest ih =>
      obtain ⟨hne, hrest⟩ := not_or.1 (mt List.mem_cons.2 h)
      simp [put, Ne.symm hne, ih hrest]

theorem keys_put :
    (put key value table).keys = if key ∈ table.keys then table.keys else table.keys ++ [key] := by
  induction table with
  | nil => rfl
  | cons entry rest ih =>
      obtain ⟨other, found⟩ := entry
      by_cases h : other = key
      · simp [put, h]
      · simp only [put, h, if_false, keys_cons, ih, List.mem_cons, Ne.symm h, false_or]
        split <;> rfl

theorem mem_keys_put {other : κ} :
    other ∈ (put key value table).keys ↔ other = key ∨ other ∈ table.keys := by
  rw [keys_put]
  split
  · next hmem => exact ⟨.inr, fun h => h.elim (· ▸ hmem) id⟩
  · simp [or_comm]

theorem nodup_put (h : table.keys.Nodup) : (put key value table).keys.Nodup := by
  rw [keys_put]
  split
  · exact h
  · next hnew => exact h.append (List.nodup_singleton key) (by simpa using hnew)

/-! ## The last entry -/

theorem get?_append_of_not_mem (h : key ∉ table.keys) (value : ν) :
    get? key (table ++ [(key, value)]) = some value := by
  rw [← put_of_not_mem h, get?_put, if_pos rfl]

theorem put_append_of_not_mem (h : key ∉ table.keys) (old : ν) :
    put key value (table ++ [(key, old)]) = table ++ [(key, value)] := by
  induction table with
  | nil => simp [put]
  | cons entry rest ih =>
      obtain ⟨hne, hrest⟩ := not_or.1 (mt List.mem_cons.2 h)
      simp [put, Ne.symm hne, ih hrest]

/-! ## Putting a table over another -/

theorem nodup_overlay (h : base.keys.Nodup) : (overlay base upper).keys.Nodup := by
  unfold overlay
  induction upper generalizing base with
  | nil => exact h
  | cons entry rest ih => exact ih (nodup_put h)

theorem get?_overlay (hupper : upper.keys.Nodup) :
    get? key (overlay base upper) = (get? key upper).or (get? key base) := by
  unfold overlay
  induction upper generalizing base with
  | nil => rfl
  | cons entry rest ih =>
      obtain ⟨other, found⟩ := entry
      obtain ⟨hother, hrest⟩ := List.nodup_cons.1 hupper
      rw [List.foldl_cons, ih hrest, get?_put]
      by_cases h : other = key
      · subst h
        simp [get?, get?_eq_none_iff.2 hother]
      · simp [get?, h, Ne.symm h]

theorem mem_put {entry : κ × ν} (h : entry ∈ put key value table) :
    entry = (key, value) ∨ entry ∈ table := by
  induction table with
  | nil => exact .inl (List.mem_singleton.1 h)
  | cons first rest ih =>
      unfold put at h
      split at h
      · exact (List.mem_cons.1 h).imp id (List.mem_cons_of_mem _)
      · rcases List.mem_cons.1 h with rfl | hmem
        · exact .inr (List.mem_cons_self ..)
        · exact (ih hmem).imp id (List.mem_cons_of_mem _)

/-- An entry of an overlaid table is one of the two tables. -/
theorem mem_overlay {entry : κ × ν} (h : entry ∈ overlay base upper) :
    entry ∈ base ∨ entry ∈ upper := by
  unfold overlay at h
  induction upper generalizing base with
  | nil => exact .inl h
  | cons first rest ih =>
      rcases ih h with hbase | hrest
      · rcases mem_put hbase with rfl | hbase
        · exact .inr (List.mem_cons_self ..)
        · exact .inl hbase
      · exact .inr (List.mem_cons_of_mem _ hrest)

section Renaming

variable {ι : Type} [DecidableEq ι] {rename : κ → ι} (change : ν → μ)

theorem map_put (hrename : Function.Injective rename) :
    (put key value table).map (fun entry => (rename entry.1, change entry.2)) =
      put (rename key) (change value)
        (table.map fun entry => (rename entry.1, change entry.2)) := by
  induction table with
  | nil => rfl
  | cons entry rest ih =>
      by_cases h : entry.1 = key
      · simp [put, h]
      · simp [put, h, hrename.ne h, ih]

/-- Changing keys and values goes along with putting a table over another, if keys stay apart. -/
theorem map_overlay (hrename : Function.Injective rename) :
    (overlay base upper).map (fun entry => (rename entry.1, change entry.2)) =
      overlay (base.map fun entry => (rename entry.1, change entry.2))
        (upper.map fun entry => (rename entry.1, change entry.2)) := by
  unfold overlay
  induction upper generalizing base with
  | nil => rfl
  | cons entry rest ih =>
      rw [List.foldl_cons, ih, map_put change hrename]
      rfl

end Renaming

end JuliaNative.Table
