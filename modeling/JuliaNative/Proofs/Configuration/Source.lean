import JuliaNative.Configuration.Source
import JuliaNative.Proofs.Action
import JuliaNative.Proofs.Configuration.Profiles
import JuliaNative.Proofs.FileSystem.Change

set_option autoImplicit false

/-! # Where settings are read from

Reading settings leaves the world as it is. What the settings are is decided by the bytes of the
configuration file alone, which is the named one or the one that is found; without a file there are none,
and asking for a profile then is refused (`ends_fileSettings`). -/

namespace JuliaNative

variable {host : Host} {world after : World} {path directory : Path} {named : Option Path}
  {profile : Option String} {settings : Settings}

/-- The bytes that a configuration file is read from. What is there but cannot be opened as a file
    counts as empty. -/
def Host.configBytes (host : Host) (files : FileSystem) (path : Path) : ByteArray :=
  (((files.read (host.workingDirectory.join path)).toOption).map (·.content)).getD ByteArray.empty

theorem Host.configBytes_of_file {files : FileSystem} {file : File}
    (h : host.sees files path = some (.file file)) : host.configBytes files path = file.content := by
  have hread : files.read (host.workingDirectory.join path) = .ok file := by
    unfold sees at h
    split at h
    · cases h
    · unfold FileSystem.lookup? at h
      split at h
      · next location hlocate => exact FileSystem.read_eq_ok_iff.2 ⟨location, hlocate, h⟩
      · cases h
  rw [configBytes, hread]
  rfl

/-- The configuration file that settings are read from: the named one, or the one in a directory. -/
structure Host.ReadsConfig (host : Host) (files : FileSystem) (named : Option Path)
    (directory path : Path) : Prop where
  path_eq : path = named.getD (directory.child configFileName)
  sees : (host.sees files path).isSome = true

namespace Action

variable {failing : Failure → World → Prop}

theorem ends_readConfigFile {post : ConfigFile → World → Prop} :
    Ends host (readConfigFile path) world post failing ↔
      if host.cannotSee world.files path then
        failing (.crash (.system (.at .nameTooLong path))) world
      else if (host.sees world.files path).isSome then
        Ends host (ofExcept ConfigFileFault.failure
          (ConfigFile.ofBytes path (host.configBytes world.files path))) world post failing
      else failing (.error (.configFile (.notFound path))) world := by
  unfold readConfigFile Host.configBytes
  rw [ends_bind, ends_has]
  simp only [ends_ite, ends_bind, ends_files, ends_absolute, ends_fail]

/-- The settings of a file that is there are those of its bytes. -/
theorem ends_fileSettings_named {post : Settings → World → Prop}
    (hsees : (host.sees world.files path).isSome = true) :
    Ends host (fileSettings (some path) profile directory) world post failing ↔
      Ends host (ofExcept ConfigFileFault.failure
        (ConfigFile.settingsOf path (host.configBytes world.files path) profile)) world post
        failing := by
  obtain ⟨entry, hentry⟩ := Option.isSome_iff_exists.1 hsees
  unfold fileSettings ConfigFile.settingsOf
  simp only [ends_bind, ends_pure, ends_readConfigFile, Host.cannotSee_of_sees hentry, hsees,
    Bool.false_eq_true, if_false, if_true]
  cases ConfigFile.ofBytes path (host.configBytes world.files path) <;> rfl

theorem ends_findConfigFile {post : Option Path → World → Prop} :
    Ends host (findConfigFile directory) world post failing ↔
      if host.cannotSee world.files (directory.child configFileName) then
        failing (.crash (.system (.at .nameTooLong (directory.child configFileName)))) world
      else if (host.sees world.files (directory.child configFileName)).isSome then
        post (some (directory.child configFileName)) world
      else post none world := by
  unfold findConfigFile
  rw [ends_bind, ends_has]
  simp only [ends_pure]
  split
  · rfl
  · split <;> rfl

/-- What decides on the settings of a configuration file: whether its path can be looked at, whether
    something is there, the bytes that it holds, and without a file whether a profile is asked for. -/
theorem ends_fileSettings {post : Settings → World → Prop} :
    Ends host (fileSettings named profile directory) world post failing ↔
      if host.cannotSee world.files (named.getD (directory.child configFileName)) then
        failing (.crash (.system (.at .nameTooLong (named.getD (directory.child configFileName))))) world
      else if (host.sees world.files (named.getD (directory.child configFileName))).isSome then
        Ends host (ofExcept ConfigFileFault.failure
          (ConfigFile.settingsOf (named.getD (directory.child configFileName))
            (host.configBytes world.files (named.getD (directory.child configFileName))) profile))
          world post failing
      else
        match named with
        | some path => failing (.error (.configFile (.notFound path))) world
        | none =>
          if profile.getD "" = "" then post [] world
          else failing (.error (.configuration (.profileWithoutFile (profile.getD "") directory)))
            world := by
  cases named with
  | some path =>
      rw [Option.getD_some]
      by_cases hsees : (host.sees world.files path).isSome = true
      · obtain ⟨entry, hentry⟩ := Option.isSome_iff_exists.1 hsees
        rw [Host.cannotSee_of_sees hentry, if_neg Bool.false_ne_true, if_pos hsees,
          ends_fileSettings_named hsees]
      · unfold fileSettings
        simp [ends_readConfigFile, hsees]
  | none =>
      rw [Option.getD_none]
      unfold fileSettings
      rw [ends_bind, ends_findConfigFile]
      split
      · rfl
      split
      · next hsees =>
          -- from here on the file that was found is read as one that is named
          have hnamed : Ends host (fileSettings (some (directory.child configFileName)) profile
              directory) world post failing ↔ _ := ends_fileSettings_named hsees
          exact hnamed
      · cases profile with
        | none => rfl
        | some name => simp

/-- Settings that were read from a file are those of its bytes, and without a file there are none. -/
theorem returns_fileSettings
    (h : Returns host (fileSettings named profile directory) world settings after) :
    after = world ∧
      ((∃ path, host.ReadsConfig world.files named directory path ∧
          ConfigFile.settingsOf path (host.configBytes world.files path) profile = .ok settings) ∨
        (settings = [] ∧ ∀ path, ¬ host.ReadsConfig world.files named directory path)) := by
  rw [returns_iff_ends, ends_fileSettings] at h
  split at h
  · exact h.elim
  split at h
  · next hsees =>
      rw [← returns_iff_ends, returns_ofExcept] at h
      exact ⟨h.2.symm, .inl ⟨_, ⟨rfl, hsees⟩, h.1⟩⟩
  · next hmissing =>
      have hnone : ∀ path, ¬ host.ReadsConfig world.files named directory path := by
        rintro _ ⟨rfl, hsees⟩
        exact hmissing hsees
      cases named with
      | some path => exact h.elim
      | none =>
          dsimp only at h
          split at h
          · obtain ⟨rfl, rfl⟩ := h
            exact ⟨rfl, .inr ⟨rfl, hnone⟩⟩
          · exact h.elim

end Action

end JuliaNative
