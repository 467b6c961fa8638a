import JuliaNative.Proofs.Build.Crashes
import JuliaNative.Proofs.Build.SameStages

set_option autoImplicit false

/-! # The launches of the stages

Which commands a stage starts is settled before it begins, but for the flags of the links: from what the
checks found out the stages compose their commands (`Build.StageCommands.Suit`), and there are such
commands for whatever flags (`Build.exists_suit`). Each part of a stage makes exactly the launches of its
commands, in the build directory. -/

namespace JuliaNative

open JuliaNative.Action

variable {host : Host}

/-! ## Launches of the parts of a stage -/

/-- Running a command is one launch, whichever way the command ends. -/
theorem starts_runCommand {showOutput : Bool} {task : Task} {description : String}
    {command : List String} {directory : Path} {environment : Option Environment} :
    Starts host (runCommand showOutput task description command directory environment)
      [⟨command, directory, environment⟩] (fun _ => True) := by
  intro world
  have hmade : ∀ after : World,
      after.launches = world.launches ++ [⟨command, directory, environment⟩] →
      ∃ part, part <+: [⟨command, directory, environment⟩] ∧
        after.launches = world.launches ++ part :=
    fun _ hafter => ⟨_, List.prefix_refl _, hafter⟩
  have hpass : ∀ process, SameWork false Failure.NamesCommand (passInterrupt process : Action Answer)
      (passInterrupt process) := sameWork_passInterrupt
  rw [ends_runCommand]
  split
  · exact hmade _ (by simp)
  · next process changed _ =>
      refine ((hpass process).ends _).imp ?_ ?_
      · intro _ after hafter
        exact ⟨trivial, by rw [hafter rfl]; simp⟩
      · intro _ after hafter
        exact hmade after (by rw [hafter.2 rfl]; simp)
  · exact hmade _ (by simp)
  · split
    · exact hmade _ (by simp)
    · simp

theorem starts_ofExcept {ε α : Type} {failure : ε → Failure} {value : Except ε α} {result : α}
    (h : value = .ok result) : Starts host (ofExcept failure value) [] (· = result) := by
  intro world
  rw [ends_ofExcept, h]
  exact ⟨rfl, by simp⟩

theorem starts_requireProgram {value : Value} {name : String}
    (h : Build.programOf value = .ok name) : Starts host (requireProgram value) [] (· = name) := by
  intro world
  rw [Build.ends_requireProgram, h]
  exact ⟨rfl, by simp⟩

theorem Stager.starts_writeText (stager : Stager) (name content : String) :
    Starts host (stager.writeText name content) [] (· = stager.buildDir.child name) := by
  intro world
  unfold writeText
  simp only [ends_bind, ends_refuseNull, ends_files]
  split
  · exact ⟨[], List.prefix_refl _, by simp⟩
  · split
    · simp only [ends_bind, ends_setFiles, ends_pure]
      exact ⟨trivial, by simp⟩
    · exact ⟨[], List.prefix_refl _, by simp⟩

namespace Workshop

variable {workshop : Workshop}

theorem starts_perform (task : Task) (heading : String) (command : List String)
    (environment : Option Environment) (description : String) :
    Starts host (workshop.perform task heading command environment description)
      [⟨command, workshop.buildDir, environment⟩] (fun _ => True) := by
  have hsay : SameWork false (fun _ => True)
      (sayIf workshop.verbose (heading ++ ":\n  " ++ " ".intercalate command))
      (sayIf workshop.verbose (heading ++ ":\n  " ++ " ".intercalate command)) := .sayIf _ _ _ _
  refine hsay.starts.quiet_bind fun _ _ => ?_
  exact starts_runCommand.bind_quiet fun _ _ => .pure trivial

/-- Compiling is one launch, or two if the cache of compiled modules is filled first. -/
theorem starts_compile {runtime : Runtime} {base : BaseCommand} {program : Path}
    {objectFile : String} {request : CompileRequest} {priming : Option (List String)}
    {command : List String} (hreadable : runtime.Readable)
    (hbase : BaseCommand.ofList? runtime.command = some base)
    (hpriming : primingCommand? base runtime program.toString request = .ok priming)
    (hcommand : compileCommand base runtime program.toString objectFile request = .ok command) :
    Starts host (workshop.compile runtime program objectFile request)
      ((priming.toList ++ [command]).map fun command => ⟨command, workshop.buildDir, none⟩)
      (fun _ => True) := by
  obtain ⟨archive, harchive⟩ := hreadable.usesArchive
  have hobject : Starts host (workshop.compileObject base runtime program objectFile request)
      [⟨command, workshop.buildDir, none⟩] (fun _ => True) := by
    refine (starts_ofExcept hcommand).quiet_bind ?_
    rintro command rfl
    refine (starts_ofExcept harchive).quiet_bind ?_
    rintro archive rfl
    exact Starts.bind_quiet (starts_perform _ _ _ _ _) fun _ _ => .pure trivial
  unfold compile
  rw [hbase]
  refine (starts_ofExcept hpriming).quiet_bind ?_
  rintro priming rfl
  cases priming with
  | none => exact hobject
  | some first => exact Starts.bind (starts_perform _ _ _ _ _) fun _ _ => hobject

/-- Tracing a script is one launch, and the main script is written into the build directory. -/
theorem starts_prepareMain (julia : String) (script program : Path) :
    Starts host (workshop.prepareMain julia script program)
      [⟨traceCommand julia script.toString, workshop.buildDir, none⟩]
      (· = workshop.buildDir.child mainScriptName) := by
  have hcommand : traceCommand julia script.toString ≠ [] := List.cons_ne_nil _ _
  have hread : Starts host (workshop.readTrace (traceCommand julia script.toString)) []
      (fun _ => True) := (sameWork_readTrace rfl hcommand).starts
  have htrace : Starts host (workshop.trace julia script)
      [⟨traceCommand julia script.toString, workshop.buildDir, none⟩] (fun _ => True) := by
    rw [trace_eq]
    exact Starts.bind_quiet (starts_perform _ _ _ _ _) fun _ _ => hread
  refine htrace.bind_quiet fun text _ => ?_
  intro world
  rw [ends_bind, ends_read]
  exact Stager.starts_writeText workshop.stager _ _ world

end Workshop

namespace Linker

variable {linker : Linker} {workshop : Workshop} {artifacts : Artifacts} {flags : List String}

theorem starts_requireProduct (what kind product : String) :
    Starts host (requireProduct workshop what kind product) [] (fun _ => True) :=
  (sameWork_requireProduct rfl what kind product).starts

theorem starts_linkObject {source : Option String} {command : List String}
    (h : sharedCommand linker.compiler linker.rules linker.runtime artifacts flags source =
      .ok command) :
    Starts host (linker.linkObject workshop artifacts flags source)
      [⟨command, workshop.buildDir, linker.rules.compilerEnvironment host.environment⟩]
      (fun _ => True) := by
  refine (starts_ofExcept h).quiet_bind ?_
  rintro command rfl
  intro world
  rw [ends_bind, environment, ends_bind, ends_read, ends_pure]
  exact Starts.bind_quiet (Workshop.starts_perform _ _ _ _ _) (fun _ _ => .pure trivial) world

theorem starts_linkShared {withInit : Bool} {command : List String}
    (h : sharedCommand linker.compiler linker.rules linker.runtime artifacts flags
      (if withInit then some artifacts.initSource else none) = .ok command) :
    Starts host (linker.linkShared workshop artifacts flags withInit)
      [⟨command, workshop.buildDir, linker.rules.compilerEnvironment host.environment⟩]
      (fun _ => True) := by
  rw [linkShared_eq]
  refine (starts_requireProduct _ _ _).quiet_bind fun _ _ => ?_
  cases withInit with
  | false => exact starts_linkObject h
  | true =>
      have hwrite : SameWork false Failure.NamesCommand
          (discard (workshop.stager.writeText artifacts.initSource initSource))
          (discard (workshop.stager.writeText artifacts.initSource initSource)) :=
        .discard (Stager.sameWork_writeText rfl _ _)
      exact hwrite.starts.quiet_bind fun _ _ => starts_linkObject h

theorem starts_linkExecutable {driver : Path} :
    Starts host (linker.linkExecutable workshop artifacts driver flags)
      [⟨executableCommand linker.compiler linker.rules linker.runtime artifacts driver.toString flags,
        workshop.buildDir, linker.rules.compilerEnvironment host.environment⟩]
      (fun _ => True) := by
  rw [linkExecutable_eq]
  refine (starts_requireProduct _ _ _).quiet_bind fun _ _ => ?_
  intro world
  unfold linkDriver
  rw [ends_bind, environment, ends_bind, ends_read, ends_pure]
  exact Starts.bind_quiet (Workshop.starts_perform _ _ _ _ _) (fun _ _ => .pure trivial) world

end Linker

/-! ## Launches of the stages -/

namespace Build

/-- The commands of the stages of a build. -/
structure StageCommands where
  tracing : Option (List String)
  priming : Option (List String)
  compiling : List String
  linkingLibrary : List String
  linkingProgram : List String

/-- The launches of a stage: all commands run in the build directory, those of julia in the environment
    of the build and those of the compiler in the one that the rules for linking give it. -/
def StageCommands.launches (commands : StageCommands) (host : Host)
    (resolved : ResolvedConfiguration) : Stage → List Launch
  | .object =>
    (commands.tracing.toList ++ commands.priming.toList ++ [commands.compiling]).map fun command =>
      ⟨command, resolved.buildDir, none⟩
  | .shared =>
    [⟨commands.linkingLibrary, resolved.buildDir,
      (rulesOn host resolved).compilerEnvironment host.environment⟩]
  | .executable =>
    [⟨commands.linkingProgram, resolved.buildDir,
      (rulesOn host resolved).compilerEnvironment host.environment⟩]
  | _ => []

/-- The program that is compiled: the main script if a script is to be traced. -/
def compiledProgram (resolved : ResolvedConfiguration) : Path :=
  match resolved.snoopFile with
  | none => resolved.program
  | some _ => resolved.buildDir.child mainScriptName

/-- The commands are the ones that the selected stages compose from what they work with and from the
    flags of the links. -/
structure StageCommands.Suit (setup : Setup) (flags : List String) (commands : StageCommands) :
    Prop where
  /-- The script is traced if one is given. -/
  tracing : setup.resolved.stages.object = true → ∃ julia,
    programOf setup.resolved.julia = .ok julia ∧
    commands.tracing = setup.resolved.snoopFile.map fun script => traceCommand julia script.toString
  /-- The cache is filled for versions before 0.7.0, if that is asked for. -/
  primed : setup.resolved.stages.object = true → ∃ version,
    Version.parse setup.runtime.version = .ok version ∧
    (commands.priming.isSome = true ↔
      version.atLeast ⟨0, 7, 0⟩ = false ∧ setup.resolved.request.compilecache = some "yes")
  compiling : setup.resolved.stages.object = true → ∃ base,
    BaseCommand.ofList? setup.runtime.command = some base ∧
    primingCommand? base setup.runtime (compiledProgram setup.resolved).toString
      setup.resolved.request = .ok commands.priming ∧
    compileCommand base setup.runtime (compiledProgram setup.resolved).toString
      setup.artifacts.objectFile setup.resolved.request = .ok commands.compiling
  linkingLibrary : setup.resolved.stages.shared = true → ∃ compiler,
    programOf setup.resolved.cc = .ok compiler ∧
    sharedCommand compiler setup.rules setup.runtime setup.artifacts flags
      (if setup.resolved.sharedInit then some setup.artifacts.initSource else none) =
        .ok commands.linkingLibrary
  linkingProgram : setup.resolved.stages.executable = true → ∃ compiler,
    programOf setup.resolved.cc = .ok compiler ∧
    commands.linkingProgram = executableCommand compiler setup.rules setup.runtime setup.artifacts
      setup.resolved.driverProgram.toString flags

variable {resolved : ResolvedConfiguration} {setup : Setup} {flags : List String}
  {commands : StageCommands} {which : Stage} {progress : Progress}

theorem starts_sourceProgram {julia : String} (hjulia : programOf setup.resolved.julia = .ok julia) :
    Starts host (sourceProgram setup)
      ((setup.resolved.snoopFile.map fun script => traceCommand julia script.toString).toList.map
        fun command => ⟨command, setup.resolved.buildDir, none⟩)
      (· = compiledProgram setup.resolved) := by
  unfold sourceProgram compiledProgram
  cases setup.resolved.snoopFile with
  | none => exact .pure rfl
  | some script =>
      refine (starts_requireProgram hjulia).quiet_bind ?_
      rintro julia rfl
      exact Workshop.starts_prepareMain julia script setup.resolved.program

theorem starts_compileProgram (hreadable : setup.runtime.Readable)
    (hobject : setup.resolved.stages.object = true) (hsuit : commands.Suit setup flags) :
    Starts host (compileProgram setup) (commands.launches host setup.resolved .object)
      (fun _ => True) := by
  obtain ⟨julia, hjulia, htracing⟩ := hsuit.tracing hobject
  obtain ⟨base, hbase, hpriming, hcompiling⟩ := hsuit.compiling hobject
  rw [compileProgram_eq, StageCommands.launches, htracing, List.append_assoc, List.map_append]
  refine (starts_sourceProgram hjulia).bind ?_
  rintro program rfl
  exact Workshop.starts_compile hreadable hbase hpriming hcompiling

theorem isSome_primingCommand? {base : BaseCommand} {runtime : Runtime} {program : String}
    {request : CompileRequest} {priming : Option (List String)} {version : Version}
    (hversion : Version.parse runtime.version = .ok version)
    (h : primingCommand? base runtime program request = .ok priming) :
    priming.isSome = true ↔
      version.atLeast Version.firstWithArchive = false ∧ request.compilecache = some "yes" := by
  have harchive : runtime.usesArchive = .ok (version.atLeast Version.firstWithArchive) := by
    rw [Runtime.usesArchive, hversion]
    rfl
  unfold primingCommand? primesCache Runtime.supportsCachePriming Julia.loadExpression at h
  rw [harchive] at h
  simp only [Except.map, bind, Except.bind, pure, Except.pure, Bool.and_eq_true,
    Bool.not_eq_true', decide_eq_true_eq] at h
  split at h
  · next hprimes =>
      obtain rfl := Except.ok.inj h
      exact iff_of_true rfl hprimes
  · next hskips =>
      obtain rfl := Except.ok.inj h
      exact iff_of_false Bool.false_ne_true hskips

/-- Whatever flags the links turn out to have, there are commands that suit them. -/
theorem exists_suit {runtime : Option Runtime} {files : FileSystem} {rules : LinkRules}
    (h : toolCheck host resolved rules files = .ok runtime) (flags : List String) :
    ∃ commands : StageCommands, ∀ setup ∈ equipment resolved rules runtime,
      commands.Suit setup flags := by
  have hsuits := suits_of_toolCheck h
  cases runtime with
  | none => exact ⟨⟨none, none, [], [], []⟩, fun _ hmem => by cases hmem⟩
  | some runtime =>
      obtain ⟨hreadable, hshape⟩ := hsuits
      obtain ⟨⟨julia, hjulia⟩, hnamed⟩ := namesPrograms_of_toolCheck h rfl
      obtain ⟨artifacts, hartifacts⟩ := hreadable.artifacts resolved.outputName rules
      obtain ⟨version, hversion⟩ := id hreadable
      have hbase : ∃ base, resolved.stages.object = true →
          BaseCommand.ofList? runtime.command = some base := by
        cases hcommand : BaseCommand.ofList? runtime.command with
        | some base => exact ⟨base, fun _ => rfl⟩
        | none =>
            -- nothing is compiled with it, so any command will do
            rw [hcommand] at hshape
            exact ⟨⟨"", "", "", "", ""⟩, fun hobject => absurd (hshape hobject) nofun⟩
      have hcompiler : ∃ compiler, resolved.stages.needsCompiler = true →
          programOf resolved.cc = .ok compiler := by
        cases hneeds : resolved.stages.needsCompiler with
        | true => exact (hnamed hneeds).imp fun _ hname _ => hname
        | false => exact ⟨"", nofun⟩
      obtain ⟨base, hbase⟩ := hbase
      obtain ⟨compiler, hcompiler⟩ := hcompiler
      obtain ⟨priming, hpriming⟩ :=
        hreadable.primingCommand? base (compiledProgram resolved).toString resolved.request
      obtain ⟨compiling, hcompiling⟩ := hreadable.compileCommand base
        (compiledProgram resolved).toString artifacts.objectFile resolved.request
      obtain ⟨linking, hlinking⟩ := hreadable.sharedCommand compiler rules artifacts flags
        (if resolved.sharedInit then some artifacts.initSource else none)
      rw [equipment_of_named hartifacts]
      refine ⟨⟨resolved.snoopFile.map fun script => traceCommand julia script.toString, priming,
        compiling, linking, executableCommand compiler rules runtime artifacts
          resolved.driverProgram.toString flags⟩, ?_⟩
      rintro setup hmem
      obtain rfl := Option.some.inj hmem
      exact {
        tracing := fun _ => ⟨julia, hjulia, rfl⟩
        primed := fun _ => ⟨version, hversion, isSome_primingCommand? hversion hpriming⟩
        compiling := fun hobject => ⟨base, hbase hobject, hpriming, hcompiling⟩
        linkingLibrary := fun hshared =>
          ⟨compiler, hcompiler (Bool.or_eq_true_iff.2 (.inl hshared)), hlinking⟩
        linkingProgram := fun hexecutable =>
          ⟨compiler, hcompiler (Bool.or_eq_true_iff.2 (.inr hexecutable)), rfl⟩ }

end Build
end JuliaNative
