import JuliaNative.Commands

set_option autoImplicit false

/-! # Readable runtimes

What depends on the version of a runtime fails if the version cannot be read. A report is only
accepted with a version that can be read (`readable_of_ofReport`), so for a runtime that julia
reported the names of the artifacts and the commands of the stages are always there. -/

namespace JuliaNative

/-- The version of a runtime can be read. -/
def Runtime.Readable (runtime : Runtime) : Prop :=
  ∃ version, Version.parse runtime.version = .ok version

variable {runtime : Runtime}

/-- A report is accepted only if its version can be read. -/
theorem Runtime.readable_of_ofReport {report : String}
    (h : Runtime.ofReport report = .ok runtime) : runtime.Readable := by
  unfold Runtime.ofReport at h
  simp only [bind, Except.bind, pure, Except.pure, throw, throwThe, MonadExceptOf.throw] at h
  split at h
  · cases h
  · split at h
    · cases h
    · split at h
      · split at h
        · cases h
        · cases h
        · next version hversion =>
            obtain rfl := Except.ok.inj h
            exact ⟨version, hversion⟩
      · cases h

theorem Runtime.Readable.usesArchive (h : runtime.Readable) :
    ∃ archive, runtime.usesArchive = .ok archive := by
  obtain ⟨version, hversion⟩ := h
  exact ⟨version.atLeast Version.firstWithArchive, by simp [Runtime.usesArchive, hversion, Except.map]⟩

theorem Runtime.Readable.artifacts (h : runtime.Readable) (output : String) (rules : LinkRules) :
    ∃ artifacts, Artifacts.named output runtime rules = .ok artifacts := by
  obtain ⟨archive, harchive⟩ := h.usesArchive
  simp [Artifacts.named, Runtime.objectExtension, harchive, Except.map]

theorem Artifacts.initSource_of_named {output : String} {rules : LinkRules} {artifacts : Artifacts}
    (h : Artifacts.named output runtime rules = .ok artifacts) :
    artifacts.initSource = initSourceName := by
  unfold Artifacts.named at h
  cases hextension : runtime.objectExtension with
  | error fault =>
      rw [hextension] at h
      cases h
  | ok extension =>
      rw [hextension] at h
      obtain rfl := Except.ok.inj h
      rfl

theorem Runtime.Readable.primingCommand? (h : runtime.Readable) (base : BaseCommand)
    (program : String) (request : CompileRequest) :
    ∃ command, primingCommand? base runtime program request = .ok command := by
  obtain ⟨archive, harchive⟩ := h.usesArchive
  unfold JuliaNative.primingCommand?
  simp only [primesCache, Runtime.supportsCachePriming, Julia.loadExpression, harchive, Except.map,
    bind, Except.bind, pure, Except.pure]
  split <;> exact ⟨_, rfl⟩

theorem Runtime.Readable.compileCommand (h : runtime.Readable) (base : BaseCommand)
    (program objectFile : String) (request : CompileRequest) :
    ∃ command, compileCommand base runtime program objectFile request = .ok command := by
  obtain ⟨archive, harchive⟩ := h.usesArchive
  simp [JuliaNative.compileCommand, Julia.loadExpression, harchive, Except.map]

theorem Runtime.Readable.sharedCommand (h : runtime.Readable) (compiler : String) (rules : LinkRules)
    (artifacts : Artifacts) (flags : List String) (initSource : Option String) :
    ∃ command, sharedCommand compiler rules runtime artifacts flags initSource = .ok command := by
  obtain ⟨archive, harchive⟩ := h.usesArchive
  simp [JuliaNative.sharedCommand, objectArguments, harchive, Except.map]

end JuliaNative
