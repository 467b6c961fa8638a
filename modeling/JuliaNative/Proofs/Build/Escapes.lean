import JuliaNative.Proofs.Build.Course
import JuliaNative.Proofs.Escapes

set_option autoImplicit false

/-! # Where compiling and linking crash

The stages that compile and link crash where the connection to a command breaks, where a trace cannot be
read as text, where the path of a product is too long to be looked at, and where the directories of the
runtime cannot be resolved. For each part of these stages the exact condition is a proposition of its
own; which commands run, and on which files, is part of it. -/

namespace JuliaNative

open JuliaNative.FileSystem JuliaNative.Action

variable {host : Host} {world : World}

/-! ## Commands -/

/-- The connection to a command breaks. -/
def Host.Breaks (host : Host) (command : List String) (directory : Path)
    (environment : Option Environment) (files : FileSystem) : Prop :=
  ∃ fault changed, host.run command directory environment files = .broken fault changed

/-- A command ends well and leaves changed files. -/
def Host.Finishes (host : Host) (command : List String) (directory : Path)
    (environment : Option Environment) (files changed : FileSystem) : Prop :=
  ∃ answer, host.run command directory environment files = .finished answer changed ∧
    answer.status = 0

theorem not_crashes_passInterrupt {α : Type} (process : Int) :
    ¬ Crashes host (passInterrupt process : Action α) world := by
  obtain ⟨count, steps, hrequests⟩ :=
    Requests.exists_comesTo_terminateTree host.processes process
  have hends : Ends host (passInterrupt process : Action α) world (fun _ _ => True)
      (fun failure _ => failure = .interrupted) := by
    unfold passInterrupt
    simp only [ends_bind, ends_discard, ends_remember, ends_throw]
    exact (ends_terminateTree (fun _ => True) hrequests trivial fun _ _ _ _ => trivial).imp
      (fun _ _ _ => trivial) (fun _ _ h => h)
  exact hends.not_crashes fun cause _ h => by cases h

namespace Workshop

variable {workshop : Workshop} {task : Task} {heading description : String} {command : List String}
  {environment : Option Environment}

theorem crashes_perform :
    Crashes host (workshop.perform task heading command environment description) world ↔
      host.Breaks command workshop.buildDir environment world.files := by
  unfold perform Host.Breaks
  rw [crashes_bind_of_returns (returns_sayIf _ _), crashes_discard, crashes_iff_ends, ends_runCommand,
    World.files_saidIf]
  cases hrun : host.run command workshop.buildDir environment world.files with
  | notStarted error => simp
  | interrupted process changed =>
      refine iff_of_false (fun h => ?_) (by simp)
      exact not_crashes_passInterrupt process (crashes_iff_ends.2 h)
  | broken fault changed => simp
  | finished answer changed =>
      simp only [reduceCtorEq, exists_false, iff_false]
      split <;> simp

theorem finishes_of_returns_perform {mid : World}
    (h : Returns host (workshop.perform task heading command environment description) world () mid) :
    host.Finishes command workshop.buildDir environment world.files mid.files :=
  (ends_perform.of_returns h).2

theorem exists_returns_perform {changed : FileSystem}
    (h : host.Finishes command workshop.buildDir environment world.files changed) :
    ∃ mid, Returns host (workshop.perform task heading command environment description) world () mid ∧
      mid.files = changed := by
  obtain ⟨answer, hrun, hstatus⟩ := h
  have hends : Ends host (workshop.perform task heading command environment description) world
      (fun _ after => after.files = changed) (fun _ _ => False) := by
    unfold perform
    rw [ends_bind, ends_sayIf, ends_discard, ends_runCommand, World.files_saidIf, hrun]
    simp [hstatus]
  obtain ⟨_, mid, hmid⟩ := hends.exists_returns
  exact ⟨mid, hmid⟩

/-- A step that runs a command crashes where the connection breaks, or where what follows crashes on the
    files that the command leaves. -/
theorem crashes_perform_bind {α : Type} {next : Unit → Action α} {condition : FileSystem → Prop}
    (hnext : ∀ mid, Crashes host (next ()) mid ↔ condition mid.files) :
    Crashes host (workshop.perform task heading command environment description >>= next) world ↔
      host.Breaks command workshop.buildDir environment world.files ∨
        ∃ changed, host.Finishes command workshop.buildDir environment world.files changed ∧
          condition changed := by
  rw [crashes_bind, crashes_perform]
  refine or_congr Iff.rfl ?_
  constructor
  · rintro ⟨_, mid, hperform, h⟩
    exact ⟨mid.files, finishes_of_returns_perform hperform, (hnext mid).1 h⟩
  · rintro ⟨changed, hfinishes, h⟩
    obtain ⟨mid, hperform, rfl⟩ := exists_returns_perform hfinishes
    exact ⟨(), mid, hperform, (hnext mid).2 h⟩

/-! ## Traces -/

/-- A trace is none that can be read: its path is too long to be looked at, what is there is no file, or
    the file is no text. -/
inductive TraceUnreadable (host : Host) (files : FileSystem) (path : Path) : Prop
  | tooLong (h : host.cannotSee files path = true) : TraceUnreadable host files path
  | refused {refusal : Refusal} (hsees : (host.sees files path).isSome = true)
    (h : files.read path = .error refusal) : TraceUnreadable host files path
  | undecodable {file : File} {fault : Text.DecodeFault}
    (hsees : (host.sees files path).isSome = true) (hread : files.read path = .ok file)
    (h : Text.decode file.content = .error fault) : TraceUnreadable host files path

/-- Tracing a script crashes. -/
inductive TraceEscapes (host : Host) (workshop : Workshop) (julia : String) (script : Path)
    (files : FileSystem) : Prop
  | broken (h : host.Breaks (traceCommand julia script.toString) workshop.buildDir none files) :
    TraceEscapes host workshop julia script files
  | unreadable {traced : FileSystem}
    (hrun : host.Finishes (traceCommand julia script.toString) workshop.buildDir none files traced)
    (h : TraceUnreadable host traced (workshop.buildDir.entry traceName)) :
    TraceEscapes host workshop julia script files

theorem crashes_trace {julia : String} {script : Path} :
    Crashes host (workshop.trace julia script) world ↔
      TraceEscapes host workshop julia script world.files := by
  unfold trace
  rw [crashes_perform_bind (fun mid => ?_)]
  · constructor
    · rintro (h | ⟨traced, hrun, h⟩)
      · exact .broken h
      · exact .unreadable hrun h
    · rintro (h | ⟨hrun, h⟩)
      · exact .inl h
      · exact .inr ⟨_, hrun, h⟩
  · rw [crashes_iff_ends]
    simp only [ends_bind, ends_has]
    split
    · next hlong => exact iff_of_true ⟨_, rfl⟩ (.tooLong hlong)
    · next hshort =>
        rw [ends_ite]
        split
        · next hsees =>
            rw [ends_bind, ends_files]
            split
            · next file hread =>
                rw [ends_bind, ends_ofExcept]
                split
                · next text hdecode =>
                    refine iff_of_false id ?_
                    rintro (hlong | ⟨-, hrefused⟩ | ⟨-, hread', hfault⟩)
                    · exact hshort hlong
                    · cases hread.symm.trans hrefused
                    · cases hread.symm.trans hread'
                      cases hdecode.symm.trans hfault
                · next fault hdecode => exact iff_of_true ⟨_, rfl⟩ (.undecodable hsees hread hdecode)
            · next refusal hread => exact iff_of_true ⟨_, rfl⟩ (.refused hsees hread)
        · next hsees =>
            refine iff_of_false (by simp) ?_
            rintro (hlong | ⟨h, -⟩ | ⟨h, -, -⟩)
            · exact hshort hlong
            · exact hsees h
            · exact hsees h

theorem crashes_prepareMain {julia : String} {script program : Path}
    (hnull : workshop.buildDir.hasNull = false) :
    Crashes host (workshop.prepareMain julia script program) world ↔
      TraceEscapes host workshop julia script world.files := by
  unfold prepareMain
  rw [crashes_bind_left fun trace mid => ?_, crashes_trace]
  rw [crashes_bind_of_returns (returns_read mid)]
  exact Stager.not_crashes_writeText (Path.hasNull_child_of_generated hnull (.inl rfl))

/-! ## Compiling -/

/-- The run that fills the cache of compiled modules is over, if there is one. -/
inductive Primed (host : Host) (workshop : Workshop) (base : BaseCommand) (runtime : Runtime)
    (program : Path) (request : CompileRequest) (files : FileSystem) : FileSystem → Prop
  | skipped (h : primingCommand? base runtime program.toString request = .ok none) :
    Primed host workshop base runtime program request files files
  | filled {command : List String} {changed : FileSystem}
    (h : primingCommand? base runtime program.toString request = .ok (some command))
    (hrun : host.Finishes command workshop.buildDir none files changed) :
    Primed host workshop base runtime program request files changed

/-- Compiling crashes: the connection to one of its two commands breaks. -/
inductive CompileEscapes (host : Host) (workshop : Workshop) (runtime : Runtime) (program : Path)
    (objectFile : String) (request : CompileRequest) (files : FileSystem) : Prop
  | priming {base : BaseCommand} {command : List String}
    (hbase : BaseCommand.ofList? runtime.command = some base)
    (hcommand : primingCommand? base runtime program.toString request = .ok (some command))
    (h : host.Breaks command workshop.buildDir none files) :
    CompileEscapes host workshop runtime program objectFile request files
  | compiling {base : BaseCommand} {command : List String} {primed : FileSystem}
    (hbase : BaseCommand.ofList? runtime.command = some base)
    (hprimed : Primed host workshop base runtime program request files primed)
    (hcommand : compileCommand base runtime program.toString objectFile request = .ok command)
    (h : host.Breaks command workshop.buildDir none primed) :
    CompileEscapes host workshop runtime program objectFile request files

variable {base : BaseCommand} {runtime : Runtime} {program : Path} {objectFile : String}
  {request : CompileRequest} {files changed : FileSystem}

theorem primed_iff_of_none (h : primingCommand? base runtime program.toString request = .ok none) :
    Primed host workshop base runtime program request files changed ↔ changed = files := by
  constructor
  · rintro (_ | ⟨hsome, -⟩)
    · rfl
    · cases h.symm.trans hsome
  · rintro rfl
    exact .skipped h

theorem primed_iff_of_some {first : List String}
    (h : primingCommand? base runtime program.toString request = .ok (some first)) :
    Primed host workshop base runtime program request files changed ↔
      host.Finishes first workshop.buildDir none files changed := by
  constructor
  · rintro (hnone | ⟨hsome, hrun⟩)
    · cases h.symm.trans hnone
    · cases h.symm.trans hsome
      exact hrun
  · exact .filled h

/-- With the commands at hand, compiling crashes at the first run or after it. -/
theorem compileEscapes_iff {priming : Option (List String)} {command : List String}
    (hbase : BaseCommand.ofList? runtime.command = some base)
    (hpriming : primingCommand? base runtime program.toString request = .ok priming)
    (hcommand : compileCommand base runtime program.toString objectFile request = .ok command) :
    CompileEscapes host workshop runtime program objectFile request files ↔
      (∃ first, priming = some first ∧ host.Breaks first workshop.buildDir none files) ∨
        ∃ primed, Primed host workshop base runtime program request files primed ∧
          host.Breaks command workshop.buildDir none primed := by
  constructor
  · rintro (⟨hbase', hfirst, h⟩ | ⟨hbase', hprimed, hcommand', h⟩)
    · cases hbase.symm.trans hbase'
      cases hpriming.symm.trans hfirst
      exact .inl ⟨_, rfl, h⟩
    · cases hbase.symm.trans hbase'
      cases hcommand.symm.trans hcommand'
      exact .inr ⟨_, hprimed, h⟩
  · rintro (⟨first, rfl, h⟩ | ⟨primed, hprimed, h⟩)
    · exact .priming hbase hpriming h
    · exact .compiling hbase hprimed hcommand h

theorem crashes_compileObject (hreadable : runtime.Readable) {command : List String}
    (hcommand : compileCommand base runtime program.toString objectFile request = .ok command) :
    Crashes host (workshop.compileObject base runtime program objectFile request) world ↔
      host.Breaks command workshop.buildDir none world.files := by
  obtain ⟨archive, harchive⟩ := hreadable.usesArchive
  unfold compileObject
  rw [crashes_ofExcept_bind hcommand, crashes_ofExcept_bind harchive,
    crashes_bind_left fun _ _ => not_crashes_pure _, crashes_perform]

theorem crashes_compile (hreadable : runtime.Readable) :
    Crashes host (workshop.compile runtime program objectFile request) world ↔
      CompileEscapes host workshop runtime program objectFile request world.files := by
  unfold compile
  cases hbase : BaseCommand.ofList? runtime.command with
  | none =>
      refine iff_of_false (not_crashes_fail _) ?_
      rintro (⟨h, -, -⟩ | ⟨h, -, -, -⟩)
      · cases hbase.symm.trans h
      · cases hbase.symm.trans h
  | some base =>
      obtain ⟨priming, hpriming⟩ := hreadable.primingCommand? base program.toString request
      obtain ⟨command, hcommand⟩ :=
        hreadable.compileCommand base program.toString objectFile request
      have hobject : ∀ mid, Crashes host
          (workshop.compileObject base runtime program objectFile request) mid ↔
          host.Breaks command workshop.buildDir none mid.files :=
        fun mid => crashes_compileObject hreadable hcommand
      simp only
      rw [crashes_ofExcept_bind hpriming, compileEscapes_iff hbase hpriming hcommand]
      cases priming with
      | none =>
          refine (hobject world).trans ?_
          simp [primed_iff_of_none hpriming]
      | some first =>
          refine (crashes_perform_bind hobject).trans ?_
          simp [primed_iff_of_some hpriming]

end Workshop

/-! ## Linking -/

namespace Linker

variable {linker : Linker} {workshop : Workshop} {artifacts : Artifacts} {flags : List String}

/-- A link that needs a product crashes where the path of the product is too long to be looked at, or
    where what follows crashes while the product is there. -/
theorem crashes_requireProduct_bind {α : Type} {what kind product : String}
    {next : Unit → Action α} :
    Crashes host (requireProduct workshop what kind product >>= next) world ↔
      host.cannotSee world.files (workshop.buildDir.child product) = true ∨
        ((host.sees world.files (workshop.buildDir.child product)).isSome = true ∧
          Crashes host (next ()) world) := by
  simp only [crashes_iff_ends]
  unfold requireProduct
  simp only [ends_bind, ends_has]
  split
  · next hlong => simp [hlong]
  · next hshort =>
      simp only [hshort, false_or, Bool.false_eq_true]
      rw [ends_ite]
      split
      · next hsees => simp [hsees]
      · next hsees => simp [hsees]

/-- Linking the shared library crashes: the path of the object file is too long to be looked at, or the
    connection to the compiler breaks. -/
inductive SharedEscapes (host : Host) (linker : Linker) (workshop : Workshop) (artifacts : Artifacts)
    (flags : List String) (withInit : Bool) (files : FileSystem) : Prop
  | tooLong (h : host.cannotSee files (workshop.buildDir.child artifacts.objectFile) = true) :
    SharedEscapes host linker workshop artifacts flags withInit files
  | broken {written : FileSystem} {command : List String}
    (hproduct : (host.sees files (workshop.buildDir.child artifacts.objectFile)).isSome = true)
    (hwritten : if withInit then
        files.write (workshop.buildDir.child artifacts.initSource) ⟨initSource.toUTF8, .now⟩ =
          .ok written
      else written = files)
    (hcommand : sharedCommand linker.compiler linker.rules linker.runtime artifacts flags
      (if withInit then some artifacts.initSource else none) = .ok command)
    (h : host.Breaks command workshop.buildDir
      (linker.rules.compilerEnvironment host.environment) written) :
    SharedEscapes host linker workshop artifacts flags withInit files

theorem returns_environment :
    Returns host linker.environment world (linker.rules.compilerEnvironment host.environment) world :=
  rfl

theorem crashes_linkObject {source : Option String} {command : List String}
    (hcommand : sharedCommand linker.compiler linker.rules linker.runtime artifacts flags source =
      .ok command) :
    Crashes host (linker.linkObject workshop artifacts flags source) world ↔
      host.Breaks command workshop.buildDir (linker.rules.compilerEnvironment host.environment)
        world.files := by
  unfold linkObject
  rw [crashes_ofExcept_bind hcommand, crashes_bind_of_returns returns_environment,
    crashes_bind_left fun _ _ => not_crashes_pure _, Workshop.crashes_perform]

theorem crashes_linkShared (hreadable : linker.runtime.Readable)
    (hnull : workshop.buildDir.hasNull = false) (hinit : artifacts.initSource = initSourceName)
    {withInit : Bool} :
    Crashes host (linker.linkShared workshop artifacts flags withInit) world ↔
      SharedEscapes host linker workshop artifacts flags withInit world.files := by
  cases withInit with
  | false =>
      obtain ⟨command, hcommand⟩ :=
        hreadable.sharedCommand linker.compiler linker.rules artifacts flags none
      rw [linkShared_false, crashes_requireProduct_bind, crashes_linkObject hcommand]
      constructor
      · rintro (hlong | ⟨hproduct, h⟩)
        · exact .tooLong hlong
        · exact .broken hproduct rfl hcommand h
      · rintro (hlong | ⟨hproduct, hwritten, hcommand', h⟩)
        · exact .inl hlong
        · cases hcommand.symm.trans hcommand'
          cases hwritten
          exact .inr ⟨hproduct, h⟩
  | true =>
      obtain ⟨command, hcommand⟩ :=
        hreadable.sharedCommand linker.compiler linker.rules artifacts flags
          (some artifacts.initSource)
      -- the generated source has a fixed name, so it can only be refused by the system
      have hsource : (workshop.stager.buildDir.child artifacts.initSource).hasNull = false :=
        Path.hasNull_child_of_generated hnull (.inr hinit)
      rw [linkShared_true, crashes_requireProduct_bind, crashes_bind, crashes_discard]
      simp only [crashes_linkObject hcommand, Stager.not_crashes_writeText hsource, false_or]
      constructor
      · rintro (hlong | ⟨hproduct, _, mid, hwrite, h⟩)
        · exact .tooLong hlong
        · obtain ⟨path, hwrite⟩ := returns_discard.1 hwrite
          obtain ⟨written, hwritten, -, rfl⟩ := (Stager.returns_writeText hsource).1 hwrite
          exact .broken hproduct hwritten hcommand h
      · rintro (hlong | ⟨hproduct, hwritten, hcommand', h⟩)
        · exact .inl hlong
        · cases hcommand.symm.trans hcommand'
          have hwrite : Returns host (workshop.stager.writeText artifacts.initSource initSource) world
              _ _ := (Stager.returns_writeText hsource).2 ⟨_, hwritten, rfl, rfl⟩
          exact .inr ⟨hproduct, ⟨⟩, _, returns_discard.2 ⟨_, hwrite⟩, h⟩

/-- Linking the executable crashes: the path of the shared library is too long to be looked at, or the
    connection to the compiler breaks. -/
inductive ExecutableEscapes (host : Host) (linker : Linker) (workshop : Workshop)
    (artifacts : Artifacts) (driver : Path) (flags : List String) (files : FileSystem) : Prop
  | tooLong (h : host.cannotSee files (workshop.buildDir.child artifacts.sharedLibrary) = true) :
    ExecutableEscapes host linker workshop artifacts driver flags files
  | broken
    (hproduct : (host.sees files (workshop.buildDir.child artifacts.sharedLibrary)).isSome = true)
    (h : host.Breaks
      (executableCommand linker.compiler linker.rules linker.runtime artifacts driver.toString flags)
      workshop.buildDir (linker.rules.compilerEnvironment host.environment) files) :
    ExecutableEscapes host linker workshop artifacts driver flags files

theorem crashes_linkExecutable {driver : Path} :
    Crashes host (linker.linkExecutable workshop artifacts driver flags) world ↔
      ExecutableEscapes host linker workshop artifacts driver flags world.files := by
  unfold linkExecutable
  rw [crashes_requireProduct_bind, crashes_bind_of_returns returns_environment,
    crashes_bind_left fun _ _ => not_crashes_pure _, Workshop.crashes_perform]
  constructor
  · rintro (hlong | ⟨hproduct, h⟩)
    · exact .tooLong hlong
    · exact .broken hproduct h
  · rintro (hlong | ⟨hproduct, h⟩)
    · exact .inl hlong
    · exact .inr ⟨hproduct, h⟩

end Linker

/-! ## The stages that compile and link -/

namespace Build

variable {resolved : ResolvedConfiguration} {rules : LinkRules} {runtime : Option Runtime}
  {setup : Setup} {result : BuildResult}

theorem hasNull_workshop (hnull : resolved.buildDir.hasNull = false) :
    (workshop resolved).buildDir.hasNull = false := hnull

theorem crashes_stage {which : Stage} {run : BuildResult → Action BuildResult} :
    Crashes host (stage resolved which run result) world ↔
      resolved.stages.selects which = true ∧ Crashes host (run result) world := by
  unfold stage
  rw [crashes_ite]
  split
  · next hselected => simp [hselected]
  · next hselected => simp [hselected]

/-- The programs that a configuration names are texts or paths, where they are needed. -/
structure NamesPrograms (resolved : ResolvedConfiguration) : Prop where
  julia : ∃ name, programOf resolved.julia = .ok name
  compiler : resolved.stages.needsCompiler = true → ∃ name, programOf resolved.cc = .ok name

theorem returns_requireProgram {value : Value} {name : String} (h : programOf value = .ok name) :
    Returns host (requireProgram value) world name world := by
  rw [returns_iff_ends, ends_requireProgram, h]
  exact ⟨rfl, rfl⟩

/-- The program to be compiled: the given one, or the main script that wraps it. -/
def sourceProgram (setup : Setup) : Action Path :=
  match setup.resolved.snoopFile with
  | none => pure setup.resolved.program
  | some script => do
    let julia ← requireProgram setup.resolved.julia
    (workshop setup.resolved).prepareMain julia script setup.resolved.program

theorem compileProgram_eq : compileProgram setup = (do
    let program ← sourceProgram setup
    (workshop setup.resolved).compile setup.runtime program setup.artifacts.objectFile
      setup.resolved.request) := by
  unfold compileProgram sourceProgram
  cases hscript : setup.resolved.snoopFile with
  | none => simp only [hscript]
  | some script => simp only [hscript, bind_assoc]

/-- Compiling a program crashes: in the trace of a script, or in the compiler. -/
inductive ObjectEscapes (host : Host) (setup : Setup) (world : World) : Prop
  | tracing {script : Path} {julia : String} (hscript : setup.resolved.snoopFile = some script)
    (hjulia : programOf setup.resolved.julia = .ok julia)
    (h : (workshop setup.resolved).TraceEscapes host julia script world.files) :
    ObjectEscapes host setup world
  | compiling {program : Path} {mid : World}
    (hprogram : Returns host (sourceProgram setup) world program mid)
    (h : (workshop setup.resolved).CompileEscapes host setup.runtime program
      setup.artifacts.objectFile setup.resolved.request mid.files) :
    ObjectEscapes host setup world

theorem crashes_compileProgram (hnames : NamesPrograms setup.resolved)
    (hreadable : setup.runtime.Readable) (hnull : setup.resolved.buildDir.hasNull = false) :
    Crashes host (compileProgram setup) world ↔ ObjectEscapes host setup world := by
  have hsource : Crashes host (sourceProgram setup) world ↔
      ∃ script julia, setup.resolved.snoopFile = some script ∧
        programOf setup.resolved.julia = .ok julia ∧
        (workshop setup.resolved).TraceEscapes host julia script world.files := by
    obtain ⟨julia, hjulia⟩ := hnames.julia
    unfold sourceProgram
    cases hscript : setup.resolved.snoopFile with
    | none => simp
    | some script =>
        simp only [crashes_bind_of_returns (returns_requireProgram hjulia)]
        rw [Workshop.crashes_prepareMain (hasNull_workshop hnull), hjulia]
        simp
  rw [compileProgram_eq, crashes_bind, hsource]
  simp only [Workshop.crashes_compile hreadable]
  constructor
  · rintro (⟨script, julia, hscript, hjulia, h⟩ | ⟨program, mid, hprogram, h⟩)
    · exact .tracing hscript hjulia h
    · exact .compiling hprogram h
  · rintro (⟨hscript, hjulia, h⟩ | ⟨hprogram, h⟩)
    · exact .inl ⟨_, _, hscript, hjulia, h⟩
    · exact .inr ⟨_, _, hprogram, h⟩

theorem crashes_objectStage (hnames : NamesPrograms setup.resolved)
    (hreadable : setup.runtime.Readable) (hnull : setup.resolved.buildDir.hasNull = false) :
    Crashes host (objectStage setup result) world ↔
      setup.resolved.stages.object = true ∧ ObjectEscapes host setup world := by
  unfold objectStage
  rw [crashes_stage, crashes_bind_pure, crashes_compileProgram hnames hreadable hnull]
  rfl

/-- Linking crashes: the directories of the runtime cannot be resolved, or one of the links crashes. -/
inductive LinkEscapes (host : Host) (setup : Setup) (result : BuildResult) (world : World) : Prop
  | resolving {cause : Crash} (hneeds : setup.resolved.stages.needsCompiler = true)
    (h : setup.rules.baseFlags setup.runtime
      (setup.runtime.directories world.files host.workingDirectory) = .error cause) :
    LinkEscapes host setup result world
  | shared {flags : List String} {compiler : String}
    (hflags : Returns host (linkFlags setup) world flags world)
    (hcompiler : programOf setup.resolved.cc = .ok compiler)
    (hselected : setup.resolved.stages.shared = true)
    (h : Linker.SharedEscapes host ⟨compiler, setup.rules, setup.runtime⟩ (workshop setup.resolved)
      setup.artifacts flags setup.resolved.sharedInit world.files) :
    LinkEscapes host setup result world
  | executable {flags : List String} {compiler : String} {library : BuildResult} {mid : World}
    (hflags : Returns host (linkFlags setup) world flags world)
    (hcompiler : programOf setup.resolved.cc = .ok compiler)
    (hshared : Returns host (sharedStage setup ⟨compiler, setup.rules, setup.runtime⟩ flags result)
      world library mid)
    (hselected : setup.resolved.stages.executable = true)
    (h : Linker.ExecutableEscapes host ⟨compiler, setup.rules, setup.runtime⟩
      (workshop setup.resolved) setup.artifacts setup.resolved.driverProgram flags mid.files) :
    LinkEscapes host setup result world

theorem crashes_linkFlags :
    Crashes host (linkFlags setup) world ↔
      ∃ cause, setup.rules.baseFlags setup.runtime
        (setup.runtime.directories world.files host.workingDirectory) = .error cause := by
  have hdirectories : Returns host (Stager.runtimeDirectories setup.runtime) world
      (setup.runtime.directories world.files host.workingDirectory) world := rfl
  unfold linkFlags
  rw [crashes_bind_of_returns hdirectories, crashes_bind_left fun _ _ => not_crashes_pure _,
    crashes_ofExcept_crash]

theorem eq_of_returns_linkFlags {flags : List String} {mid : World}
    (h : Returns host (linkFlags setup) world flags mid) : world = mid := by
  have hends : Ends host (linkFlags setup) world (fun _ after => world = after)
      (fun _ _ => True) := by
    unfold linkFlags Stager.runtimeDirectories
    simp only [ends_bind, ends_files, ends_read, ends_pure, ends_ofExcept]
    split <;> trivial
  exact hends.of_returns h

theorem crashes_sharedStage {linker : Linker} {flags : List String}
    (hreadable : linker.runtime.Readable) (hnull : setup.resolved.buildDir.hasNull = false)
    (hinit : setup.artifacts.initSource = initSourceName) :
    Crashes host (sharedStage setup linker flags result) world ↔
      setup.resolved.stages.shared = true ∧
        linker.SharedEscapes host (workshop setup.resolved) setup.artifacts flags
          setup.resolved.sharedInit world.files := by
  unfold sharedStage
  rw [crashes_stage, crashes_bind_pure, Linker.crashes_linkShared hreadable (hasNull_workshop hnull) hinit]
  rfl

theorem crashes_executableStage {linker : Linker} {flags : List String} :
    Crashes host (executableStage setup linker flags result) world ↔
      setup.resolved.stages.executable = true ∧
        linker.ExecutableEscapes host (workshop setup.resolved) setup.artifacts
          setup.resolved.driverProgram flags world.files := by
  unfold executableStage
  rw [crashes_stage, crashes_bind_pure, Linker.crashes_linkExecutable]
  rfl

theorem crashes_link (hnames : NamesPrograms setup.resolved) (hreadable : setup.runtime.Readable)
    (hnull : setup.resolved.buildDir.hasNull = false)
    (hinit : setup.artifacts.initSource = initSourceName) :
    Crashes host (link setup result) world ↔ LinkEscapes host setup result world := by
  unfold link
  rw [crashes_ite]
  split
  · next hneeds =>
      obtain ⟨compiler, hcompiler⟩ := hnames.compiler hneeds
      let linker : Linker := ⟨compiler, setup.rules, setup.runtime⟩
      have hshared : ∀ flags, Crashes host (sharedStage setup linker flags result) world ↔
          setup.resolved.stages.shared = true ∧
            linker.SharedEscapes host (workshop setup.resolved) setup.artifacts flags
              setup.resolved.sharedInit world.files :=
        fun flags => crashes_sharedStage hreadable hnull hinit
      have hlinks : ∀ flags, Crashes host (do
          let compiler ← requireProgram setup.resolved.cc
          let linker : Linker := ⟨compiler, setup.rules, setup.runtime⟩
          let result ← sharedStage setup linker flags result
          executableStage setup linker flags result) world ↔
          Crashes host (sharedStage setup linker flags result) world ∨
            ∃ library mid, Returns host (sharedStage setup linker flags result) world library mid ∧
              Crashes host (executableStage setup linker flags library) mid := by
        intro flags
        rw [crashes_bind_of_returns (returns_requireProgram hcompiler), crashes_bind]
      rw [crashes_bind, crashes_linkFlags]
      constructor
      · rintro (⟨cause, h⟩ | ⟨flags, mid, hflags, h⟩)
        · exact .resolving hneeds h
        · obtain rfl := eq_of_returns_linkFlags hflags
          obtain h | ⟨library, mid, hlibrary, h⟩ := (hlinks flags).1 h
          · obtain ⟨hselected, h⟩ := (hshared flags).1 h
            exact .shared hflags hcompiler hselected h
          · obtain ⟨hselected, h⟩ := crashes_executableStage.1 h
            exact .executable hflags hcompiler hlibrary hselected h
      · rintro (⟨-, h⟩ | ⟨hflags, hcompiler', hselected, h⟩ |
          ⟨hflags, hcompiler', hlibrary, hselected, h⟩)
        · exact .inl ⟨_, h⟩
        · cases hcompiler.symm.trans hcompiler'
          exact .inr ⟨_, _, hflags, (hlinks _).2 (.inl ((hshared _).2 ⟨hselected, h⟩))⟩
        · cases hcompiler.symm.trans hcompiler'
          refine .inr ⟨_, _, hflags, (hlinks _).2 (.inr ⟨_, _, hlibrary, ?_⟩)⟩
          exact crashes_executableStage.2 ⟨hselected, h⟩
  · next hneeds =>
      have hneither : setup.resolved.stages.shared ≠ true ∧ setup.resolved.stages.executable ≠ true := by
        simpa [StageSelection.needsCompiler] using hneeds
      refine iff_of_false (not_crashes_pure _) ?_
      rintro (⟨h, -⟩ | ⟨-, -, hselected, -⟩ | ⟨-, -, -, hselected, -⟩)
      · exact hneeds h
      · exact hneither.1 hselected
      · exact hneither.2 hselected

/-- The stages that compile and link crash. -/
inductive ProduceEscapes (host : Host) (resolved : ResolvedConfiguration) (rules : LinkRules)
    (runtime : Option Runtime) (result : BuildResult) (world : World) : Prop
  | compiling {reported : Runtime} {artifacts : Artifacts} (hruntime : runtime = some reported)
    (hnamed : Artifacts.named resolved.outputName reported rules = .ok artifacts)
    (hselected : resolved.stages.object = true)
    (h : ObjectEscapes host ⟨resolved, rules, reported, artifacts⟩ world) :
    ProduceEscapes host resolved rules runtime result world
  | linking {reported : Runtime} {artifacts : Artifacts} {compiled : BuildResult} {mid : World}
    (hruntime : runtime = some reported)
    (hnamed : Artifacts.named resolved.outputName reported rules = .ok artifacts)
    (hobject : Returns host (objectStage ⟨resolved, rules, reported, artifacts⟩ result) world compiled
      mid)
    (h : LinkEscapes host ⟨resolved, rules, reported, artifacts⟩ compiled mid) :
    ProduceEscapes host resolved rules runtime result world

theorem crashes_produce (hsuits : Suits resolved runtime)
    (hnames : runtime.isSome = true → NamesPrograms resolved)
    (hnull : resolved.buildDir.hasNull = false) :
    Crashes host (produce resolved rules runtime result) world ↔
      ProduceEscapes host resolved rules runtime result world := by
  unfold produce
  cases runtime with
  | none =>
      refine iff_of_false (not_crashes_pure _) ?_
      rintro (⟨h, -⟩ | ⟨h, -⟩) <;> cases h
  | some runtime =>
      obtain ⟨artifacts, hnamed⟩ := hsuits.1.artifacts resolved.outputName rules
      have hinit := Artifacts.initSource_of_named hnamed
      let setup : Setup := ⟨resolved, rules, runtime, artifacts⟩
      have hlink : ∀ compiled mid,
          Crashes host (link setup compiled) mid ↔ LinkEscapes host setup compiled mid :=
        fun compiled mid => crashes_link (hnames rfl) hsuits.1 hnull hinit
      have hobject : Crashes host (objectStage setup result) world ↔
          resolved.stages.object = true ∧ ObjectEscapes host setup world :=
        crashes_objectStage (hnames rfl) hsuits.1 hnull
      simp only
      rw [crashes_ofExcept_bind hnamed, crashes_bind, hobject]
      constructor
      · rintro (⟨hselected, h⟩ | ⟨compiled, mid, hcompiled, h⟩)
        · exact .compiling rfl hnamed hselected h
        · exact .linking rfl hnamed hcompiled ((hlink _ _).1 h)
      · rintro (⟨hruntime, hnamed', hselected, h⟩ | ⟨hruntime, hnamed', hcompiled, h⟩)
        · cases hruntime
          cases hnamed.symm.trans hnamed'
          exact .inl ⟨hselected, h⟩
        · cases hruntime
          cases hnamed.symm.trans hnamed'
          exact .inr ⟨_, _, hcompiled, (hlink _ _).2 h⟩

end Build
end JuliaNative
