import JuliaNative.Configuration.Resolved
import JuliaNative.Proofs.Configuration.Remaking

set_option autoImplicit false

/-! # What the rules of a configuration do

A full release, automatic dependencies and a release each come to one change of a configuration
(`expand_eq`), which is the change that making the configuration anew accepts (`expandMacros_eq_ok`). What
is selected stays selected and given levels stay as they are, so that the rules do nothing the second time,
and a full release is the stages that it selects (`expand_closes`). -/

namespace JuliaNative.Configuration

variable {configuration : Configuration} {setting : Setting}

/-! ## The rules as changes -/

theorem expandFullRelease_eq (configuration : Configuration) :
    configuration.expandFullRelease =
      { configuration with
        clean := configuration.clean || configuration.fullRelease
        autoDeps := configuration.autoDeps || configuration.fullRelease
        executable := configuration.executable || configuration.fullRelease
        removeTemp := configuration.removeTemp || configuration.fullRelease
        copyRuntimeLibs := configuration.copyRuntimeLibs || configuration.fullRelease
        release := configuration.release || configuration.fullRelease } := by
  unfold expandFullRelease
  split
  · next hon =>
      have hor : ∀ switch : Bool, (switch || configuration.fullRelease) = true := by simp [hon]
      simp only [hor]
  · next hoff =>
      have hor : ∀ switch : Bool, (switch || configuration.fullRelease) = switch := by simp [hoff]
      simp only [hor]

theorem expandDependencies_eq (configuration : Configuration) :
    configuration.expandDependencies =
      { configuration with
        shared := configuration.shared || configuration.autoDeps && configuration.executable
        object := configuration.object ||
          configuration.autoDeps && (configuration.shared || configuration.executable) } := by
  unfold expandDependencies
  split
  · next hon =>
      have hand : ∀ switch : Bool, (configuration.autoDeps && switch) = switch := by simp [hon]
      simp only [hand, Bool.or_assoc]
  · next hoff =>
      have hand : ∀ switch : Bool, (configuration.autoDeps && switch) = false := by simp [hoff]
      simp only [hand, Bool.or_false]

theorem expandRelease_eq (configuration : Configuration) :
    configuration.expandRelease =
      { configuration with
        optimize := if configuration.release then some (configuration.optimize.getD releaseOptimize)
          else configuration.optimize
        debug := if configuration.release then some (configuration.debug.getD releaseDebug)
          else configuration.debug } := by
  unfold expandRelease
  split <;> rfl

/-- All that the rules change. -/
theorem expand_eq (configuration : Configuration) :
    configuration.expand =
      { configuration with
        clean := configuration.clean || configuration.fullRelease
        autoDeps := configuration.autoDeps || configuration.fullRelease
        executable := configuration.executable || configuration.fullRelease
        removeTemp := configuration.removeTemp || configuration.fullRelease
        copyRuntimeLibs := configuration.copyRuntimeLibs || configuration.fullRelease
        release := configuration.release || configuration.fullRelease
        shared := configuration.shared || (configuration.autoDeps || configuration.fullRelease) &&
          (configuration.executable || configuration.fullRelease)
        object := configuration.object || (configuration.autoDeps || configuration.fullRelease) &&
          (configuration.shared || (configuration.executable || configuration.fullRelease))
        optimize :=
          if configuration.release || configuration.fullRelease then
            some (configuration.optimize.getD releaseOptimize)
          else configuration.optimize
        debug :=
          if configuration.release || configuration.fullRelease then
            some (configuration.debug.getD releaseDebug)
          else configuration.debug } := by
  rw [expand, expandRelease_eq, expandDependencies_eq, expandFullRelease_eq]

/-! ## The rules as configurations made anew -/

/-- The values that a full release sets. -/
def fullReleaseChanges : Settings :=
  [ (.clean, .flag true), (.autoDeps, .flag true), (.executable, .flag true),
    (.removeTemp, .flag true), (.copyRuntimeLibs, .flag true), (.release, .flag true) ]

/-- The values that automatic dependencies set. -/
def dependencyChanges (configuration : Configuration) : Settings :=
  let shared := configuration.shared || configuration.executable
  [(.shared, .flag shared), (.object, .flag (configuration.object || shared))]

/-- The values that a release sets. -/
def levelChanges (configuration : Configuration) : Settings :=
  [ (.optimize, ofLevel (some (configuration.optimize.getD releaseOptimize))),
    (.debug, ofLevel (some (configuration.debug.getD releaseDebug))) ]

/-- Makes a configuration anew if a rule applies. -/
def replaceIf (configuration : Configuration) (applies : Bool) (changes : Settings) :
    Except ConfigurationFault Configuration :=
  if applies then configuration.replace changes else pure configuration

/-- Applies the three rules in their order, where each rule that applies makes the configuration anew
    and so has all its values checked again. -/
def expandMacros (configuration : Configuration) : Except ConfigurationFault Configuration := do
  let configuration ← configuration.replaceIf configuration.fullRelease fullReleaseChanges
  let configuration ← configuration.replaceIf configuration.autoDeps configuration.dependencyChanges
  configuration.replaceIf configuration.release configuration.levelChanges

theorem replaceIf_fullRelease (configuration : Configuration) :
    configuration.replaceIf configuration.fullRelease fullReleaseChanges =
      .ok configuration.expandFullRelease := by
  unfold replaceIf expandFullRelease
  split
  · refine replace_eq_ok (by decide) fun setting => ?_
    cases setting <;> rfl
  · rfl

theorem replaceIf_autoDeps (configuration : Configuration) :
    configuration.replaceIf configuration.autoDeps configuration.dependencyChanges =
      .ok configuration.expandDependencies := by
  unfold replaceIf expandDependencies
  split
  · rw [Bool.or_assoc]
    refine replace_eq_ok (by simp [dependencyChanges]) fun setting => ?_
    cases setting <;> rfl
  · rfl

theorem replaceIf_release (configuration : Configuration) :
    configuration.replaceIf configuration.release configuration.levelChanges =
      .ok configuration.expandRelease := by
  unfold replaceIf expandRelease
  split
  · refine replace_eq_ok (by simp [levelChanges]) fun setting => ?_
    cases setting <;> rfl
  · rfl

/-- Applying the rules is never refused. -/
theorem expandMacros_eq_ok (configuration : Configuration) :
    configuration.expandMacros = .ok configuration.expand := by
  unfold expandMacros
  refine Checked.bind_eq_ok.2 ⟨_, replaceIf_fullRelease _, ?_⟩
  exact Checked.bind_eq_ok.2 ⟨_, replaceIf_autoDeps _, replaceIf_release _⟩

/-! ## A closure -/

/-- The settings that the rules can change. -/
def expandedSettings : List Setting :=
  [ .clean, .object, .shared, .executable, .removeTemp, .copyRuntimeLibs, .autoDeps, .release,
    .optimize, .debug ]

theorem value_expand (h : setting ∉ expandedSettings) :
    configuration.expand.value setting = configuration.value setting := by
  rw [expand_eq]
  cases setting <;> first | rfl | exact absurd (by decide) h

theorem ofLevel_ne_flag {bound : Nat} (level : Option (Fin bound)) (flag : Bool) :
    ofLevel level ≠ .flag flag := by
  cases level <;> nofun

/-- What is on stays on. -/
theorem value_expand_of_flag (h : configuration.value setting = .flag true) :
    configuration.expand.value setting = .flag true := by
  rw [expand_eq]
  cases setting with
  | clean | autoDeps | object | shared | executable | removeTemp | copyRuntimeLibs | release =>
      have hon := Value.flag.inj h
      simp [value, hon]
  | optimize | debug => exact absurd h (ofLevel_ne_flag _ _)
  | _ => exact h

/-- A level that a release closes is not open the second time. -/
theorem closed_level {α : Type} (closes : Bool) (level : Option α) (default : α) :
    (if closes then some ((if closes then some (level.getD default) else level).getD default)
      else if closes then some (level.getD default) else level) =
      if closes then some (level.getD default) else level := by
  cases closes <;> rfl

/-- The rules do nothing the second time. -/
theorem expand_expand (configuration : Configuration) :
    configuration.expand.expand = configuration.expand := by
  simp only [expand_eq, mk.injEq, true_and, and_true, Bool.or_assoc, Bool.or_self]
  refine ⟨?_, closed_level _ _ _, closed_level _ _ _⟩
  -- the object file is selected by the shared library, which was selected itself only now
  cases configuration.autoDeps || configuration.fullRelease
  · rfl
  · simp only [Bool.true_and, Bool.or_self]

/-- A full release is the stages that it selects, since only the first rule looks at it. -/
theorem resolve_fullRelease (configuration : Configuration) (workingDirectory bundledDriver : Path) :
    { configuration with fullRelease := true }.resolve workingDirectory bundledDriver =
      { configuration with
        fullRelease := false
        clean := true
        autoDeps := true
        executable := true
        removeTemp := true
        copyRuntimeLibs := true
        release := true }.resolve workingDirectory bundledDriver := rfl

/-- Applying the rules is never refused and is a closure: the second time nothing changes, nothing that
    is on goes off, a level that is given stays, and other settings stay as they are. A full release is
    resolved as the stages that it selects. -/
theorem expand_closes (configuration : Configuration) :
    configuration.expandMacros = .ok configuration.expand ∧
      configuration.expand.expand = configuration.expand ∧
      (∀ setting, configuration.value setting = .flag true →
        configuration.expand.value setting = .flag true) ∧
      (∀ level, configuration.optimize = some level →
        configuration.expand.optimize = some level) ∧
      (∀ level, configuration.debug = some level → configuration.expand.debug = some level) ∧
      (∀ setting ∉ expandedSettings,
        configuration.expand.value setting = configuration.value setting) ∧
      ∀ workingDirectory bundledDriver : Path,
        { configuration with fullRelease := true }.resolve workingDirectory bundledDriver =
          { configuration with
            fullRelease := false
            clean := true
            autoDeps := true
            executable := true
            removeTemp := true
            copyRuntimeLibs := true
            release := true }.resolve workingDirectory bundledDriver := by
  refine ⟨expandMacros_eq_ok configuration, expand_expand configuration,
    fun _ => value_expand_of_flag, fun level hlevel => ?_, fun level hlevel => ?_,
    fun _ => value_expand, resolve_fullRelease configuration⟩
  · simp [expand_eq, hlevel]
  · simp [expand_eq, hlevel]

/-- A full release with a level of its own. -/
theorem expand_closes_full_release :
    let configuration : Configuration :=
      { program := Path.ofString "app.jl", fullRelease := true, sharedInit := true, optimize := some 1 }
    configuration.expand.optimize = some 1 ∧
      configuration.expand.value .sharedInit = .flag true ∧
      configuration.expand.value .buildDir = configuration.value .buildDir := by
  intro configuration
  obtain ⟨-, -, hflags, hoptimize, -, hframe, -⟩ := expand_closes configuration
  exact ⟨hoptimize 1 rfl, hflags .sharedInit rfl, hframe .buildDir (by decide)⟩

end JuliaNative.Configuration
