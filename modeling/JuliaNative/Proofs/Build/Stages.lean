import JuliaNative.Proofs.Build.Checks
import JuliaNative.Proofs.Staging

set_option autoImplicit false

/-! # What the stages keep

The stages that compile and link change files in two ways only: they run commands in the build
directory, and they write generated files there. A property that both keep is kept by all these
stages (`Build.keeps_produce`). The stages after them clear and replace entries of the build directory
(`Build.ends_finish`). All stages fail only as stages do, never with an error of the configuration or
of the environment, since the runtime was checked before. -/

namespace JuliaNative

open JuliaNative.Action

variable {host : Host} {world : World} {keeps : FileSystem → List (List String) → Prop}

/-! ## Commands -/

/-- Starting and running commands in a directory keeps a property of the files and of the commands
    started so far. -/
structure KeptByCommands (host : Host) (directory : Path)
    (keeps : FileSystem → List (List String) → Prop) : Prop where
  start : ∀ files started command, keeps files started → keeps files (started ++ [command])
  run : ∀ files started command environment changed, keeps files started →
    (host.run command directory environment files).files? = some changed →
    keeps changed (started ++ [command])

namespace Workshop

variable {workshop : Workshop}

theorem keeps_perform (hcommands : KeptByCommands host workshop.buildDir keeps) (task : Task)
    (heading : String) (command : List String) (environment : Option Environment)
    (description : String) :
    Keeps host keeps (workshop.perform task heading command environment description) :=
  (Keeps.sayIf _ _).bind fun _ => (Keeps.runCommand
    (fun files started => hcommands.start files started command)
    (fun files started changed => hcommands.run files started command environment changed)).discard

theorem keeps_trace (hcommands : KeptByCommands host workshop.buildDir keeps) (julia : String)
    (script : Path) : Keeps host keeps (workshop.trace julia script) := by
  unfold trace
  refine (keeps_perform hcommands _ _ _ _ _).bind fun _ => (Keeps.has _).bind fun _ =>
    Keeps.ite (fun _ => ?_) (fun _ => ?_)
  · intro world hworld
    rw [ends_bind, ends_files]
    split
    · rw [ends_bind, ends_ofExcept]
      split
      · exact hworld
      · exact ⟨trivial, hworld⟩
    · exact ⟨trivial, hworld⟩
  · exact fun world hworld => ⟨.inl rfl, hworld⟩

theorem keeps_prepareMain (hcommands : KeptByCommands host workshop.buildDir keeps)
    (hwrite : ∀ content, Keeps host keeps (workshop.stager.writeText mainScriptName content))
    (julia : String) (script program : Path) :
    Keeps host keeps (workshop.prepareMain julia script program) := by
  unfold prepareMain
  refine (keeps_trace hcommands julia script).bind fun text => ?_
  intro world hworld
  rw [ends_bind, ends_read]
  exact hwrite _ world hworld

/-- The end of a compilation: the run of the compiler. -/
def compileObject (workshop : Workshop) (base : BaseCommand) (runtime : Runtime) (program : Path)
    (objectFile : String) (request : CompileRequest) : Action Path := do
  let command ← ofExcept VersionFault.failure
    (compileCommand base runtime program.toString objectFile request)
  let archive ← ofExcept VersionFault.failure runtime.usesArchive
  let what := "Build " ++ objectKind archive ++ " \"" ++ objectFile ++ "\""
  workshop.perform .compilation what command none what
  return workshop.buildDir.child objectFile

theorem keeps_compileObject (hcommands : KeptByCommands host workshop.buildDir keeps)
    {runtime : Runtime} (hreadable : runtime.Readable) (base : BaseCommand) (program : Path)
    (objectFile : String) (request : CompileRequest) :
    Keeps host keeps (workshop.compileObject base runtime program objectFile request) := by
  obtain ⟨command, hcommand⟩ := hreadable.compileCommand base program.toString objectFile request
  obtain ⟨archive, harchive⟩ := hreadable.usesArchive
  exact Keeps.ofExcept_bind hcommand (Keeps.ofExcept_bind harchive
    ((keeps_perform hcommands _ _ _ _ _).bind fun _ => Keeps.pure _))

theorem keeps_compile (hcommands : KeptByCommands host workshop.buildDir keeps) {runtime : Runtime}
    (hreadable : runtime.Readable) (hshape : (BaseCommand.ofList? runtime.command).isSome = true)
    (program : Path) (objectFile : String) (request : CompileRequest) :
    Keeps host keeps (workshop.compile runtime program objectFile request) := by
  obtain ⟨base, hbase⟩ := Option.isSome_iff_exists.1 hshape
  obtain ⟨priming, hpriming⟩ := hreadable.primingCommand? base program.toString request
  have hobject := keeps_compileObject hcommands hreadable base program objectFile request
  unfold compile
  rw [hbase]
  refine Keeps.ofExcept_bind hpriming ?_
  cases priming with
  | none => exact hobject
  | some command => exact (keeps_perform hcommands _ _ _ _ _).bind fun _ => hobject

end Workshop

namespace Linker

variable {workshop : Workshop} {linker : Linker} {artifacts : Artifacts}

theorem keeps_requireProduct (what kind product : String) :
    Keeps host keeps (requireProduct workshop what kind product) :=
  (Keeps.has _).bind fun _ =>
    Keeps.ite (fun _ => Keeps.pure _) (fun _ _ hworld => ⟨.inl rfl, hworld⟩)

theorem keeps_environment : Keeps host keeps linker.environment :=
  fun _ hworld => hworld

/-- The end of the link of the shared library: the run of the compiler, with the source of the start and
    stop functions if one is given. -/
def linkObject (linker : Linker) (workshop : Workshop) (artifacts : Artifacts) (flags : List String)
    (source : Option String) : Action Path := do
  let what := "Build shared library \"" ++ artifacts.sharedLibrary ++ "\""
  let command ← ofExcept VersionFault.failure
    (sharedCommand linker.compiler linker.rules linker.runtime artifacts flags source)
  workshop.perform .linking what command (← linker.environment) what
  return workshop.buildDir.child artifacts.sharedLibrary

theorem linkShared_false (linker : Linker) (workshop : Workshop) (artifacts : Artifacts)
    (flags : List String) :
    linker.linkShared workshop artifacts flags false = (do
      requireProduct workshop ("Build shared library \"" ++ artifacts.sharedLibrary ++ "\"")
        "object file" artifacts.objectFile
      linker.linkObject workshop artifacts flags none) := rfl

theorem linkShared_true (linker : Linker) (workshop : Workshop) (artifacts : Artifacts)
    (flags : List String) :
    linker.linkShared workshop artifacts flags true = (do
      requireProduct workshop ("Build shared library \"" ++ artifacts.sharedLibrary ++ "\"")
        "object file" artifacts.objectFile
      discard (workshop.stager.writeText artifacts.initSource initSource)
      linker.linkObject workshop artifacts flags (some artifacts.initSource)) := rfl

theorem keeps_linkObject (hcommands : KeptByCommands host workshop.buildDir keeps)
    (hreadable : linker.runtime.Readable) (flags : List String) (source : Option String) :
    Keeps host keeps (linker.linkObject workshop artifacts flags source) := by
  obtain ⟨command, hcommand⟩ :=
    hreadable.sharedCommand linker.compiler linker.rules artifacts flags source
  exact Keeps.ofExcept_bind hcommand (keeps_environment.bind fun _ =>
    (Workshop.keeps_perform hcommands _ _ _ _ _).bind fun _ => Keeps.pure _)

theorem keeps_linkShared (hcommands : KeptByCommands host workshop.buildDir keeps)
    (hreadable : linker.runtime.Readable) {withInit : Bool}
    (hwrite : withInit = true → ∀ content,
      Keeps host keeps (workshop.stager.writeText artifacts.initSource content))
    (flags : List String) :
    Keeps host keeps (linker.linkShared workshop artifacts flags withInit) := by
  cases withInit with
  | false =>
      rw [linkShared_false]
      exact (keeps_requireProduct _ _ _).bind fun _ => keeps_linkObject hcommands hreadable _ _
  | true =>
      rw [linkShared_true]
      exact (keeps_requireProduct _ _ _).bind fun _ => (hwrite rfl _).discard.bind fun _ =>
        keeps_linkObject hcommands hreadable _ _

theorem keeps_linkExecutable (hcommands : KeptByCommands host workshop.buildDir keeps)
    (driver : Path) (flags : List String) :
    Keeps host keeps (linker.linkExecutable workshop artifacts driver flags) :=
  (keeps_requireProduct _ _ _).bind fun _ => keeps_environment.bind fun _ =>
    (Workshop.keeps_perform hcommands _ _ _ _ _).bind fun _ => Keeps.pure _

end Linker

namespace Build

variable {resolved : ResolvedConfiguration} {rules : LinkRules} {setup : Setup}

/-! ## Compiling and linking -/

theorem ends_stage {which : Stage} {run : BuildResult → Action BuildResult} {result : BuildResult}
    {post : BuildResult → World → Prop} {failing : Failure → World → Prop} :
    Ends host (stage resolved which run result) world post failing ↔
      if resolved.stages.selects which then
        Ends host (run result) world
          (fun result after => post { result with stagesRun := result.stagesRun ++ [which] } after)
          failing
      else post result world := by
  unfold stage
  simp only [ends_ite, ends_bind, ends_pure]

/-- The names of the files that the stages write into the build directory themselves. -/
def generated (resolved : ResolvedConfiguration) : List String :=
  (if resolved.stages.object && resolved.snoopFile.isSome then [mainScriptName] else [])
    ++ (if resolved.stages.shared && resolved.sharedInit then [initSourceName] else [])

theorem keeps_requireProgram (value : Value) : Keeps host keeps (requireProgram value) := by
  intro world hworld
  rw [ends_requireProgram]
  cases value <;> first | exact hworld | exact ⟨trivial, hworld⟩

theorem keeps_stage {which : Stage} {run : BuildResult → Action BuildResult} {result : BuildResult}
    (h : resolved.stages.selects which = true → ∀ result, Keeps host keeps (run result)) :
    Keeps host keeps (stage resolved which run result) :=
  Keeps.ite (fun hselected => (h hselected result).bind fun _ => Keeps.pure _)
    (fun _ => Keeps.pure _)

theorem keeps_linkFlags : Keeps host keeps (linkFlags setup) := by
  intro world hworld
  unfold linkFlags Stager.runtimeDirectories
  simp only [ends_bind, ends_files, ends_read, ends_pure]
  exact Keeps.ofExcept_crash _ world hworld

theorem keeps_compileProgram
    (hcommands : KeptByCommands host setup.resolved.buildDir keeps)
    (hwrite : ∀ name ∈ generated setup.resolved, ∀ content,
      Keeps host keeps ((workshop setup.resolved).stager.writeText name content))
    (hobject : setup.resolved.stages.object = true) (hreadable : setup.runtime.Readable)
    (hshape : (BaseCommand.ofList? setup.runtime.command).isSome = true) :
    Keeps host keeps (compileProgram setup) := by
  unfold compileProgram
  have hcompile : ∀ program, Keeps host keeps ((workshop setup.resolved).compile setup.runtime
      program setup.artifacts.objectFile setup.resolved.request) :=
    fun program => Workshop.keeps_compile hcommands hreadable hshape _ _ _
  cases hscript : setup.resolved.snoopFile with
  | none =>
      simp only [hscript]
      exact (Keeps.pure _).bind hcompile
  | some script =>
      simp only [hscript]
      have hmain : mainScriptName ∈ generated setup.resolved := by
        simp [generated, hobject, hscript]
      exact (keeps_requireProgram _).bind fun julia =>
        (Workshop.keeps_prepareMain hcommands (hwrite _ hmain) _ _ _).bind hcompile

theorem keeps_objectStage (setup : Setup)
    (hcommands : KeptByCommands host setup.resolved.buildDir keeps)
    (hwrite : ∀ name ∈ generated setup.resolved, ∀ content,
      Keeps host keeps ((workshop setup.resolved).stager.writeText name content))
    (hsuits : Suits setup.resolved (some setup.runtime)) (result : BuildResult) :
    Keeps host keeps (objectStage setup result) :=
  keeps_stage fun hselected _ =>
    (keeps_compileProgram hcommands hwrite hselected hsuits.1 (hsuits.2 hselected)).bind
      fun _ => Keeps.pure _

theorem keeps_sharedStage (setup : Setup) (linker : Linker) (flags : List String)
    (hcommands : KeptByCommands host setup.resolved.buildDir keeps)
    (hwrite : ∀ name ∈ generated setup.resolved, ∀ content,
      Keeps host keeps ((workshop setup.resolved).stager.writeText name content))
    (hreadable : linker.runtime.Readable) (hinit : setup.artifacts.initSource = initSourceName)
    (result : BuildResult) : Keeps host keeps (sharedStage setup linker flags result) := by
  refine keeps_stage fun hselected _ =>
    (Linker.keeps_linkShared hcommands hreadable (fun hwith content => ?_) flags).bind
      fun _ => Keeps.pure _
  rw [hinit]
  refine hwrite _ ?_ content
  have hshared : setup.resolved.stages.shared = true := hselected
  simp [generated, hshared, hwith]

theorem keeps_executableStage (setup : Setup) (linker : Linker) (flags : List String)
    (hcommands : KeptByCommands host setup.resolved.buildDir keeps) (result : BuildResult) :
    Keeps host keeps (executableStage setup linker flags result) :=
  keeps_stage fun _ _ =>
    (Linker.keeps_linkExecutable hcommands _ _).bind fun _ => Keeps.pure _

theorem keeps_link (setup : Setup) (hcommands : KeptByCommands host setup.resolved.buildDir keeps)
    (hwrite : ∀ name ∈ generated setup.resolved, ∀ content,
      Keeps host keeps ((workshop setup.resolved).stager.writeText name content))
    (hreadable : setup.runtime.Readable) (hinit : setup.artifacts.initSource = initSourceName)
    (result : BuildResult) : Keeps host keeps (link setup result) := by
  unfold link
  refine Keeps.ite (fun _ => ?_) (fun _ => Keeps.pure _)
  refine keeps_linkFlags.bind fun flags => (keeps_requireProgram _).bind fun compiler => ?_
  let linker : Linker := ⟨compiler, setup.rules, setup.runtime⟩
  exact (keeps_sharedStage setup linker flags hcommands hwrite hreadable hinit result).bind fun _ =>
    keeps_executableStage setup linker flags hcommands _

/-- What commands and generated files keep is kept by the stages that compile and link. -/
theorem keeps_produce {runtime : Option Runtime}
    (hcommands : KeptByCommands host resolved.buildDir keeps)
    (hwrite : ∀ name ∈ generated resolved, ∀ content,
      Keeps host keeps ((workshop resolved).stager.writeText name content))
    (hsuits : Suits resolved runtime) (result : BuildResult) :
    Keeps host keeps (produce resolved rules runtime result) := by
  unfold produce
  cases runtime with
  | none => exact Keeps.pure _
  | some runtime =>
      obtain ⟨artifacts, hartifacts⟩ := hsuits.1.artifacts resolved.outputName rules
      have hinit := Artifacts.initSource_of_named hartifacts
      let setup : Setup := { resolved, rules, runtime, artifacts }
      exact Keeps.ofExcept_bind hartifacts
        ((keeps_objectStage setup hcommands hwrite hsuits result).bind fun _ =>
          keeps_link setup hcommands hwrite hsuits.1 hinit _)

/-- Nothing more was reported as removed or copied. -/
def SameLists (before after : BuildResult) : Prop :=
  after.removedFiles = before.removedFiles ∧ after.copiedFiles = before.copiedFiles

theorem SameLists.trans {first second third : BuildResult} (hfirst : SameLists first second)
    (hsecond : SameLists second third) : SameLists first third :=
  ⟨hsecond.1.trans hfirst.1, hsecond.2.trans hfirst.2⟩

theorem ends_stage_sameLists {which : Stage} {run : BuildResult → Action BuildResult}
    {result : BuildResult}
    (hrun : Ends host (run result) world (fun final _ => SameLists result final)
      (fun _ _ => True)) :
    Ends host (stage resolved which run result) world (fun final _ => SameLists result final)
      (fun _ _ => True) := by
  rw [ends_stage]
  split
  · exact hrun
  · exact ⟨rfl, rfl⟩

theorem ends_objectStage_sameLists {result : BuildResult} :
    Ends host (objectStage setup result) world (fun final _ => SameLists result final)
      (fun _ _ => True) :=
  ends_stage_sameLists ((Ends.trivial ..).bind fun _ _ _ => ⟨rfl, rfl⟩)

theorem ends_sharedStage_sameLists {linker : Linker} {flags : List String} {result : BuildResult} :
    Ends host (sharedStage setup linker flags result) world (fun final _ => SameLists result final)
      (fun _ _ => True) :=
  ends_stage_sameLists ((Ends.trivial ..).bind fun _ _ _ => ⟨rfl, rfl⟩)

theorem ends_executableStage_sameLists {linker : Linker} {flags : List String}
    {result : BuildResult} :
    Ends host (executableStage setup linker flags result) world
      (fun final _ => SameLists result final) (fun _ _ => True) :=
  ends_stage_sameLists ((Ends.trivial ..).bind fun _ _ _ => ⟨rfl, rfl⟩)

/-- The links report nothing as removed or copied. -/
theorem ends_link_sameLists {result : BuildResult} :
    Ends host (link setup result) world (fun final _ => SameLists result final)
      (fun _ _ => True) := by
  unfold link
  rw [ends_ite]
  split
  · refine (Ends.trivial ..).bind fun flags _ _ => ?_
    refine (Ends.trivial ..).bind fun compiler _ _ => ?_
    refine ends_sharedStage_sameLists.bind fun shared _ hshared => ?_
    exact ends_executableStage_sameLists.imp
      (fun _ _ hexecutable => hshared.trans hexecutable) (fun _ _ h => h)
  · exact ⟨rfl, rfl⟩

/-- The stages that compile and link report nothing as removed or copied. -/
theorem ends_produce_sameLists {runtime : Option Runtime} {result : BuildResult} :
    Ends host (produce resolved rules runtime result) world (fun final _ => SameLists result final)
      (fun _ _ => True) := by
  unfold produce
  cases runtime with
  | none => exact ⟨rfl, rfl⟩
  | some runtime =>
      refine (Ends.trivial ..).bind fun artifacts _ _ => ?_
      refine ends_objectStage_sameLists.bind fun object _ hobject => ?_
      exact ends_link_sameLists.imp (fun _ _ hlink => hobject.trans hlink) (fun _ _ h => h)

/-! ## Tidying up and filling the build directory -/

/-- The name is one of a library to ship, or of one of the user's files that is not in the build
    directory already. -/
def Supplies (resolved : ResolvedConfiguration) (rules : LinkRules) (name : String) : Prop :=
  (resolved.stages.copyRuntimeLibs = true ∧ rules.isShipped name = true) ∨
    (resolved.stages.copyUserFiles = true ∧
      ∃ source ∈ resolved.copyFiles, source.name = name ∧ source ≠ resolved.buildDir.entry name)

instance (resolved : ResolvedConfiguration) (rules : LinkRules) (name : String) :
    Decidable (Supplies resolved rules name) :=
  inferInstanceAs (Decidable (_ ∧ _ ∨ _ ∧ ∃ source ∈ resolved.copyFiles, _ ∧ _))

/-- What the stages after the links do to the files: entries of the names that are removed are cleared
    from the build directory, and entries of the names that are copied are replaced. What is removed
    has a temporary name, and what is copied is a library to ship or one of the user's files. -/
structure Tidied (resolved : ResolvedConfiguration) (rules : LinkRules) (before after : FileSystem)
    (removed copied : List String) : Prop where
  temporary : ∀ name ∈ removed, resolved.stages.removeTemp = true ∧ isTemporary name = true
  supplied : ∀ name ∈ copied, Supplies resolved rules name
  leads : ∀ directory, after.LeadsTo resolved.buildDir directory →
    before.LeadsTo resolved.buildDir directory
  kept : ∀ location, before.find? location ≠ none → after.find? location ≠ before.find? location →
    ∃ directory, before.LeadsTo resolved.buildDir directory ∧
      ((∃ name ∈ removed, name :: directory <:+ location) ∨
        (before.find? location ≠ some .directory ∧ ∃ name ∈ copied, location = name :: directory))

variable {before mid after : FileSystem} {removed copied names : List String}

theorem Tidied.refl : Tidied resolved rules before before [] [] :=
  ⟨nofun, nofun, fun _ h => h, fun _ _ h => absurd rfl h⟩

theorem Tidied.of_cleared (hselected : resolved.stages.removeTemp = true)
    (hnames : ∀ name ∈ names, isTemporary name = true)
    (h : before.Cleared after resolved.buildDir names) :
    Tidied resolved rules before after names [] := by
  refine ⟨fun name hname => ⟨hselected, hnames name hname⟩, nofun,
    fun directory hleads => hleads.of_routesIn h.routesIn, fun location _ hne => ?_⟩
  obtain ⟨-, directory, hleads, name, hname, hbelow⟩ := h location hne
  exact ⟨directory, hleads, .inl ⟨name, hname, hbelow⟩⟩

theorem Tidied.replaced (h : Tidied resolved rules before mid removed copied)
    (hnames : ∀ name ∈ names, Supplies resolved rules name)
    (hreplaced : mid.Replaced after resolved.buildDir names) :
    Tidied resolved rules before after removed (copied ++ names) := by
  refine ⟨h.temporary, fun name hname => ?_, fun directory hleads => h.leads _ (hreplaced.leads _ hleads),
    fun location hthere hne => ?_⟩
  · rcases List.mem_append.1 hname with hname | hname
    · exact h.supplied name hname
    · exact hnames name hname
  · -- the entry was changed by the last step, or by one before it
    by_cases hmid : mid.find? location = before.find? location
    · rw [← hmid] at hne
      obtain ⟨hdirectory, directory, hleads, name, hname, heq⟩ := hreplaced.replaced location hne
      exact ⟨directory, h.leads _ hleads,
        .inr ⟨hmid ▸ hdirectory, name, List.mem_append_right _ hname, heq⟩⟩
    · obtain ⟨directory, hleads, hremoved | ⟨hdirectory, name, hname, heq⟩⟩ :=
        h.kept location hthere hmid
      · exact ⟨directory, hleads, .inl hremoved⟩
      · exact ⟨directory, hleads, .inr ⟨hdirectory, name, List.mem_append_left _ hname, heq⟩⟩

/-- The reported products are the same. -/
structure SameProducts (before after : BuildResult) : Prop where
  sharedLibrary : after.sharedLibrary = before.sharedLibrary
  executable : after.executable = before.executable
  shared_mem : .shared ∈ after.stagesRun ↔ .shared ∈ before.stagesRun
  executable_mem : .executable ∈ after.stagesRun ↔ .executable ∈ before.stagesRun

/-- What the stages after the links have done so far, seen from the world in which they began. -/
def TidiedSoFar (resolved : ResolvedConfiguration) (rules : LinkRules) (start : World)
    (begun result : BuildResult) (after : World) : Prop :=
  after.started = start.started ∧ SameProducts begun result ∧
    Tidied resolved rules start.files after.files result.removedFiles result.copiedFiles

/-- How a stage after the links fails, seen from the world in which they began. -/
def TidiedInVain (resolved : ResolvedConfiguration) (rules : LinkRules) (start : World)
    (failure : Failure) (after : World) : Prop :=
  failure.OfStage ∧ after.started = start.started ∧
    ∃ removed copied, Tidied resolved rules start.files after.files removed copied

variable {runtime : Option Runtime} {begun result : BuildResult} {start : World}

theorem ends_removeTempStage (hremoved : result.removedFiles = [])
    (hcopied : result.copiedFiles = []) :
    Ends host (removeTempStage resolved result) world (TidiedSoFar resolved rules world result)
      (TidiedInVain resolved rules world) := by
  unfold removeTempStage
  rw [ends_stage]
  split
  · next hselected =>
      rw [ends_bind]
      refine Stager.ends_removeTemporary.imp ?_ ?_
      · rintro names after ⟨hstarted, hnames, hcleared⟩
        refine ⟨hstarted, ⟨rfl, rfl, by simp, by simp⟩, ?_⟩
        rw [hcopied]
        exact .of_cleared hselected hnames hcleared
      · rintro failure after ⟨hfailure, hstarted, names, hnames, hcleared⟩
        exact ⟨hfailure, hstarted, names, [], .of_cleared hselected hnames hcleared⟩
  · refine ⟨rfl, ⟨rfl, rfl, Iff.rfl, Iff.rfl⟩, ?_⟩
    rw [hcopied, hremoved]
    exact .refl

/-- A stage that copies adds to what was done before it. -/
theorem ends_copy {copy : Action (List String)} (which : Stage)
    (hwhich : which ≠ .shared ∧ which ≠ .executable)
    (hsofar : TidiedSoFar resolved rules start begun result world)
    (hcopy : Ends host copy world
      (fun names after => after.started = world.started ∧
        (∀ name ∈ names, Supplies resolved rules name) ∧
        world.files.Replaced after.files resolved.buildDir names)
      (fun failure after => failure.OfStage ∧ after.started = world.started ∧
        ∃ names, (∀ name ∈ names, Supplies resolved rules name) ∧
          world.files.Replaced after.files resolved.buildDir names)) :
    Ends host copy world
      (fun names after => TidiedSoFar resolved rules start begun
        { result with
          copiedFiles := result.copiedFiles ++ names
          stagesRun := result.stagesRun ++ [which] } after)
      (TidiedInVain resolved rules start) := by
  obtain ⟨hstart, hsame, htidied⟩ := hsofar
  refine hcopy.imp ?_ ?_
  · rintro names after ⟨hstarted, hnames, hreplaced⟩
    refine ⟨hstarted.trans hstart, ⟨hsame.sharedLibrary, hsame.executable, ?_, ?_⟩,
      htidied.replaced hnames hreplaced⟩
    · simpa [Ne.symm hwhich.1] using hsame.shared_mem
    · simpa [Ne.symm hwhich.2] using hsame.executable_mem
  · rintro failure after ⟨hfailure, hstarted, names, hnames, hreplaced⟩
    exact ⟨hfailure, hstarted.trans hstart, _, _, htidied.replaced hnames hreplaced⟩

theorem ends_copyRuntimeLibsStage (hsofar : TidiedSoFar resolved rules start begun result world) :
    Ends host (copyRuntimeLibsStage resolved rules runtime result) world
      (TidiedSoFar resolved rules start begun) (TidiedInVain resolved rules start) := by
  unfold copyRuntimeLibsStage
  rw [ends_stage]
  split
  · next hselected =>
      cases runtime with
      | none =>
          obtain ⟨hstart, hsame, htidied⟩ := hsofar
          exact ⟨hstart, ⟨hsame.sharedLibrary, hsame.executable, by simpa using hsame.shared_mem,
            by simpa using hsame.executable_mem⟩, htidied⟩
      | some runtime =>
          rw [ends_bind]
          refine ends_copy .copyRuntimeLibs (by decide) hsofar
            (Stager.ends_copyRuntimeLibraries.imp ?_ ?_)
          · rintro names after ⟨hstarted, hnames, hreplaced⟩
            exact ⟨hstarted, fun name hname => .inl ⟨hselected, hnames name hname⟩, hreplaced⟩
          · rintro failure after ⟨hfailure, hstarted, names, hnames, hreplaced⟩
            exact ⟨hfailure, hstarted, names,
              fun name hname => .inl ⟨hselected, hnames name hname⟩, hreplaced⟩
  · exact hsofar

theorem ends_copyUserFilesStage (habsolute : ∀ source ∈ resolved.copyFiles, source.isAbsolute = true)
    (hsofar : TidiedSoFar resolved rules start begun result world) :
    Ends host (copyUserFilesStage resolved result) world
      (TidiedSoFar resolved rules start begun) (TidiedInVain resolved rules start) := by
  unfold copyUserFilesStage
  rw [ends_stage]
  split
  · next hselected =>
      rw [ends_bind]
      have hnames : ∀ names : List String,
          (∀ name ∈ names, (workshop resolved).stager.Brings host resolved.copyFiles name) →
          ∀ name ∈ names, Supplies resolved rules name := by
        intro names hbrings name hname
        obtain ⟨source, hmem, hsame, hother⟩ := hbrings name hname
        rw [Path.join, if_pos (habsolute source hmem)] at hother
        exact .inr ⟨hselected, source, hmem, hsame, hother⟩
      refine ends_copy .copyUserFiles (by decide) hsofar
        (Stager.ends_copyFiles.imp ?_ ?_)
      · rintro names after ⟨hstarted, hbrought⟩
        exact ⟨hstarted, hnames names hbrought.brings, hbrought.replaced⟩
      · rintro failure after ⟨hfailure, hstarted, names, hbrought⟩
        exact ⟨hfailure, hstarted, names, hnames names hbrought.brings, hbrought.replaced⟩
  · exact hsofar

/-- The stages after the links tidy up, tell what they removed and copied, and leave the reported
    products alone. -/
theorem ends_finish (habsolute : ∀ source ∈ resolved.copyFiles, source.isAbsolute = true)
    (hremoved : result.removedFiles = []) (hcopied : result.copiedFiles = []) :
    Ends host (finish resolved rules runtime result) world
      (TidiedSoFar resolved rules world result) (TidiedInVain resolved rules world) := by
  unfold finish
  refine (ends_removeTempStage hremoved hcopied).bind fun _ _ hsofar => ?_
  refine (ends_copyRuntimeLibsStage hsofar).bind fun _ _ hsofar => ?_
  exact ends_copyUserFilesStage habsolute hsofar

end Build
end JuliaNative
