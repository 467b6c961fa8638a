import JuliaNative.Proofs.Build.Dependencies
import JuliaNative.Proofs.Build.Parts
import JuliaNative.Proofs.Path.Lexical
import Mathlib.Data.List.Forall2
import Mathlib.Data.Option.Defs

set_option autoImplicit false

/-! # One path, two directories

The checks of a build run in the directory in which the build was asked for, the commands of its stages in
the build directory. A path that both are to understand alike has to be settled: absolute, and the given
one seen from the first of the two directories (`Path.Settles`). Resolving settles the paths of a
configuration, but leaves the toolchain as it was given. So a link whose toolchain is relative looks for its
headers and programs in another place than the check of the compiler did, unless the build directory is
the directory of the check (`Configuration.build_settles_all_but_toolchain`). -/

namespace JuliaNative

open JuliaNative.Action

namespace Path

variable {start given path first second : Path}

/-- A path is settled: it is absolute, and seen from wherever it is the given one seen from the start. -/
structure Settles (start given settled : Path) : Prop where
  isAbsolute : settled.isAbsolute = true
  same : ∀ directory : Path, directory.join settled = start.join given

theorem settles_join (h : start.isAbsolute = true) (given : Path) :
    Settles start given (start.join given) where
  isAbsolute := isAbsolute_join h given
  same _ := join_of_isAbsolute (isAbsolute_join h given)

/-- A path that is left as it was given is settled only if it was given as an absolute one. -/
theorem settles_self_iff : Settles start given given ↔ given.isAbsolute = true :=
  ⟨fun h => h.isAbsolute, fun h => ⟨h, fun _ => by rw [join_of_isAbsolute h, join_of_isAbsolute h]⟩⟩

/-- A path is the same from two directories only if it does not depend on them. -/
theorem join_eq_join_iff :
    first.join path = second.join path ↔ path.isAbsolute = true ∨ first = second := by
  unfold join
  split
  · next h => simp [h]
  · next h =>
      obtain ⟨anchor, names⟩ := first
      obtain ⟨anchor', names'⟩ := second
      simp [h]

/-- The text of a path below a directory is understood as that path. -/
theorem child_toString_child (directory : Path) (text name : String) :
    directory.child ((ofString text).child name).toString = directory.join ((ofString text).child name) := by
  have hparts : ∀ part ∈ ((ofString text).child name).parts, IsPart part := by
    intro part hpart
    unfold child join at hpart
    split at hpart
    · exact isPart_of_mem_ofString hpart
    · exact (List.mem_append.1 hpart).elim isPart_of_mem_ofString isPart_of_mem_ofString
  rw [child, ofString_toString hparts]

theorem isAbsolute_child {name : String} (h : (ofString name).isAbsolute = false) (base : Path) :
    (base.child name).isAbsolute = base.isAbsolute := by
  rw [child, join, if_neg (by simp [h])]
  rfl

end Path

/-! ## Texts for the compiler -/

/-- A variable that was set has the value it was set to. -/
theorem Environment.lookup_set (environment : Environment) (name value : String) :
    (environment.set name value).lookup name = some value := by
  unfold Environment.set
  split
  · next hset =>
      induction environment with
      | nil => cases hset
      | cons entry rest ih =>
          rw [List.map_cons]
          split
          · exact List.lookup_cons_self
          · next hne =>
              have hrest : rest.any (·.1 = name) = true := by simpa [hne] using hset
              rw [List.lookup_cons, beq_eq_false_iff_ne.2 (Ne.symm hne)]
              exact ih hrest
  · next hunset =>
      induction environment with
      | nil => exact List.lookup_cons_self
      | cons entry rest ih =>
          obtain ⟨hne, hrest⟩ : entry.1 ≠ name ∧ ¬ rest.any (·.1 = name) = true := by
            simpa using hunset
          rw [List.cons_append, List.lookup_cons, beq_eq_false_iff_ne.2 hne.symm]
          exact ih hrest

/-- The texts by which the directories of a toolchain are named to the compiler: the one of the headers as a
    flag, the one of the programs at the end of the search path. -/
structure LinkRules.Names (rules : LinkRules) (environment : Environment) (headers programs : String) :
    Prop where
  flag : rules.toolchainInclude = ["-I" ++ headers]
  searchPath : ∃ altered before, rules.compilerEnvironment environment = some altered ∧
    altered.lookup "PATH" = some (before ++ programs) ∧
    (before = "" ∨ ∃ earlier, before = earlier ++ ";")

/-- A Windows toolchain is named by the paths below its root. -/
theorem LinkRules.names_toolchain (root : Path) (environment : Environment) :
    LinkRules.Names ⟨.windows, some root⟩ environment (root.child "include").toString
      (root.child "bin").toString where
  flag := rfl
  searchPath := by
    by_cases hempty : (environment.lookup "PATH").getD "" = ""
    · exact ⟨_, "", rfl, by rw [Environment.lookup_set, if_pos hempty, String.empty_append], .inl rfl⟩
    · exact ⟨_, (environment.lookup "PATH").getD "" ++ ";", rfl,
        by rw [Environment.lookup_set, if_neg hempty], .inr ⟨_, rfl⟩⟩

/-! ## Commands of a build -/

namespace Build

variable {host : Host} {resolved : ResolvedConfiguration} {files : FileSystem}
  {commands : StageCommands} {setup : Setup} {flags : List String} {which : Stage} {launch : Launch}
  {start after : World}

/-- A command of the C compiler in a build: the compiler has passed its check, in the directory of the
    check, and now runs in the same environment, with the headers of a Windows toolchain as a flag. -/
structure IsLink (host : Host) (resolved : ResolvedConfiguration) (files : FileSystem)
    (launch : Launch) : Prop where
  environment : launch.environment = (rulesOn host resolved).compilerEnvironment host.environment
  checked : ∃ name, programOf resolved.cc = .ok name ∧ launch.command.head? = some name ∧
    host.check (compilerCheckCommand name) launch.environment files = .ok 0
  headers : host.platform = .windows → (rulesOn host resolved).toolchainInclude <:+: launch.command

/-- A command runs in the build directory, and in the environment of the build or else as the C compiler. -/
def RunsInside (host : Host) (resolved : ResolvedConfiguration) (files : FileSystem)
    (launch : Launch) : Prop :=
  launch.directory = resolved.buildDir ∧
    (launch.environment = none ∨ IsLink host resolved files launch)

theorem compilerVerdict_eq_ok_iff {name : String} {status : Except ToolFault Int} :
    compilerVerdict name status = .ok () ↔ status = .ok 0 := by
  unfold compilerVerdict
  split
  · simp
  · simp
  · simp

theorem compilerCheck_of_toolCheck {rules : LinkRules} {runtime : Option Runtime}
    (h : toolCheck host resolved rules files = .ok runtime) :
    compilerCheck host resolved rules files = .ok () := by
  unfold toolCheck at h
  cases hcheck : compilerCheck host resolved rules files with
  | error failure =>
      rw [hcheck] at h
      cases h
  | ok _ => rfl

/-- A command of the C compiler: it begins with the compiler, and on Windows has the flag for headers of the
    toolchain. -/
def IsOfCompiler (rules : LinkRules) (compiler : String) (command : List String) : Prop :=
  command.head? = some compiler ∧ (rules.platform = .windows → rules.toolchainInclude <:+: command)

theorem isOfCompiler_sharedCommand {compiler : String} {rules : LinkRules} {runtime : Runtime}
    {artifacts : Artifacts} {source : Option String} {command : List String}
    (h : sharedCommand compiler rules runtime artifacts flags source = .ok command) :
    IsOfCompiler rules compiler command := by
  unfold sharedCommand at h
  cases hobject : objectArguments rules runtime artifacts.objectFile with
  | error fault =>
      rw [hobject] at h
      cases h
  | ok object =>
      rw [hobject] at h
      obtain rfl := Except.ok.inj h
      refine ⟨rfl, fun hwindows => ?_⟩
      have hflags : rules.sharedFlags artifacts.sharedLibrary =
          rules.toolchainInclude ++ ["-Wl,--export-all-symbols"] := by
        rw [LinkRules.sharedFlags, hwindows]
      rw [hflags]
      exact List.infix_append' ..

theorem isOfCompiler_executableCommand (compiler : String) (rules : LinkRules) (runtime : Runtime)
    (artifacts : Artifacts) (driver : String) (flags : List String) :
    IsOfCompiler rules compiler (executableCommand compiler rules runtime artifacts driver flags) := by
  refine ⟨rfl, fun hwindows => ?_⟩
  have hflags : rules.executableFlags = rules.toolchainInclude := by
    rw [LinkRules.executableFlags, hwindows]
  rw [executableCommand, hflags]
  exact List.infix_append ..

/-- A link with a command of the compiler that was named for the build runs as it was checked. -/
theorem isLink_of_isOfCompiler {compiler : String} {command : List String}
    (hneeds : resolved.stages.needsCompiler = true)
    (hcheck : compilerCheck host resolved (rulesOn host resolved) files = .ok ())
    (hcompiler : programOf resolved.cc = .ok compiler)
    (hcommand : IsOfCompiler (rulesOn host resolved) compiler command) :
    IsLink host resolved files
      ⟨command, resolved.buildDir, (rulesOn host resolved).compilerEnvironment host.environment⟩ := by
  obtain ⟨name, hname, hverdict⟩ := compilerCheck_eq_ok_iff.1 hcheck hneeds
  cases hname.symm.trans hcompiler
  exact ⟨rfl, ⟨compiler, hcompiler, hcommand.1, compilerVerdict_eq_ok_iff.1 hverdict⟩, hcommand.2⟩

/-- All launches of a selected stage run in the build directory. -/
theorem runsInside_of_mem_launches
    (hcheck : compilerCheck host resolved (rulesOn host resolved) files = .ok ())
    (hresolved : setup.resolved = resolved) (hrules : setup.rules = rulesOn host resolved)
    (hsuit : commands.Suit setup flags) (hselected : resolved.stages.selects which = true)
    (h : launch ∈ commands.launches host resolved which) : RunsInside host resolved files launch := by
  subst hresolved
  cases which with
  | object =>
      obtain ⟨command, -, rfl⟩ := List.mem_map.1 h
      exact ⟨rfl, .inl rfl⟩
  | shared =>
      obtain rfl := List.mem_singleton.1 h
      have hneeds : setup.resolved.stages.needsCompiler = true := Bool.or_eq_true_iff.2 (.inl hselected)
      obtain ⟨compiler, hcompiler, hcommand⟩ := hsuit.linkingLibrary hselected
      rw [hrules] at hcommand
      exact ⟨rfl, .inr (isLink_of_isOfCompiler hneeds hcheck hcompiler
        (isOfCompiler_sharedCommand hcommand))⟩
  | executable =>
      obtain rfl := List.mem_singleton.1 h
      have hneeds : setup.resolved.stages.needsCompiler = true := Bool.or_eq_true_iff.2 (.inr hselected)
      obtain ⟨compiler, hcompiler, hcommand⟩ := hsuit.linkingProgram hselected
      rw [hrules] at hcommand
      rw [hcommand]
      exact ⟨rfl, .inr (isLink_of_isOfCompiler hneeds hcheck hcompiler
        (isOfCompiler_executableCommand ..))⟩
  | _ => cases h

/-- What a build launched runs in its build directory. -/
def LaunchesInside (host : Host) (resolved : ResolvedConfiguration) (start after : World) : Prop :=
  ∃ made, after.launches = start.launches ++ made ∧
    ∀ launch ∈ made, RunsInside host resolved start.files launch

/-- Once the checks have passed, all launches of the selected stages run in the build directory. -/
theorem launchesInside_of_toolCheck {runtime : Option Runtime} {made : List Launch}
    (htools : toolCheck host resolved (rulesOn host resolved) start.files = .ok runtime)
    (hserve : commands.Serve host resolved start.files)
    (hmade : made <+: resolved.stages.enabled.flatMap (commands.launches host resolved))
    (hafter : after.launches = start.launches ++ made) : LaunchesInside host resolved start after := by
  refine ⟨made, hafter, fun launch hlaunch => ?_⟩
  obtain ⟨which, henabled, hwhich⟩ := List.mem_flatMap.1 (hmade.subset hlaunch)
  have hselected : resolved.stages.selects which = true := StageSelection.mem_enabled.1 henabled
  have hneeds : which.needsRuntime = true := by
    cases which with
    | object => rfl
    | shared => rfl
    | executable => rfl
    | _ => cases hwhich
  obtain ⟨flags, hsuit⟩ := hserve
  rw [equipmentFound_of_toolCheck htools] at hsuit
  have hequipped := equipped_of_suits (rulesOn host resolved) (suits_of_toolCheck htools)
  obtain ⟨setup, hsetup⟩ := hequipped.exists_setup_of_selected hselected hneeds
  exact runsInside_of_mem_launches (compilerCheck_of_toolCheck htools)
    (hequipped.resolved_eq setup hsetup) (hequipped.rules_eq setup hsetup) (hsuit setup hsetup)
    hselected hwhich

theorem launchesInside_of_completed {result : BuildResult}
    (h : Completed host resolved start result after) : LaunchesInside host resolved start after := by
  obtain ⟨-, ⟨commands, hserve, hlaunches⟩, progress, mid, hcarried, -⟩ := h
  obtain ⟨runtime, htools⟩ := hcarried.tools
  exact launchesInside_of_toolCheck htools hserve (List.prefix_refl _) hlaunches

theorem launchesInside_of_stopped {failure : Failure}
    (h : Stopped host resolved start failure after) : LaunchesInside host resolved start after := by
  rcases h with ⟨hstill, -⟩ | ⟨_, _, _, _, _, -, hcarried, -, commands, hserve, _, -, hprefix, hlaunches⟩
  · exact ⟨[], by rw [hstill.launches, List.append_nil], List.forall_mem_nil _⟩
  · obtain ⟨runtime, htools⟩ := hcarried.tools
    exact launchesInside_of_toolCheck htools hserve hprefix hlaunches

end Build

/-! ## Resolved paths -/

namespace Configuration

/-- The paths of a configuration as they were given. -/
def givenPaths (configuration : Configuration) :=
  (configuration.program, configuration.driverProgram, configuration.buildDir, configuration.snoopFile,
    configuration.copyFiles, configuration.toolchainRoot)

/-- Expanding a configuration leaves its paths alone. -/
theorem givenPaths_expand (configuration : Configuration) :
    configuration.expand.givenPaths = configuration.givenPaths := by
  have hfull : configuration.expandFullRelease.givenPaths = configuration.givenPaths := by
    unfold expandFullRelease
    split <;> rfl
  have hdependencies : ∀ start : Configuration, start.expandDependencies.givenPaths = start.givenPaths := by
    intro start
    unfold expandDependencies
    split <;> rfl
  have hrelease : ∀ start : Configuration, start.expandRelease.givenPaths = start.givenPaths := by
    intro start
    unfold expandRelease
    split <;> rfl
  rw [expand, hrelease, hdependencies, hfull]

/-- The paths of a configuration that is resolved, each as it comes of the given one: all are settled but the
    toolchain, which stays as it is. -/
structure Settled (configuration : Configuration) (here bundledDriver : Path)
    (resolved : ResolvedConfiguration) : Prop where
  program : here.Settles configuration.program resolved.program
  driverProgram : here.Settles (configuration.driverProgram.getD bundledDriver) resolved.driverProgram
  buildDir : here.Settles (configuration.buildDir.getD defaultBuildDir) resolved.buildDir
  snoopFile : Option.Rel here.Settles configuration.snoopFile resolved.snoopFile
  copyFiles : List.Forall₂ here.Settles (configuration.copyFiles.getD []) resolved.copyFiles
  toolchainRoot : resolved.toolchainRoot = configuration.toolchainRoot

theorem settled_resolve {here : Path} (habsolute : here.isAbsolute = true)
    (configuration : Configuration) (bundledDriver : Path) :
    configuration.Settled here bundledDriver (configuration.resolve here bundledDriver) := by
  have hpaths := configuration.givenPaths_expand
  simp only [givenPaths, Prod.mk.injEq] at hpaths
  obtain ⟨hprogram, hdriver, hbuildDir, hscript, hcopies, htoolchain⟩ := hpaths
  have hsettles := Path.settles_join habsolute
  unfold resolve
  simp only [hprogram, hdriver, hbuildDir, hscript, hcopies, htoolchain]
  refine ⟨hsettles _, hsettles _, hsettles _, ?_, ?_, rfl⟩
  · cases configuration.snoopFile with
    | none => exact .none
    | some script => exact .some (hsettles script)
  · exact List.forall₂_map_right_iff.2 (List.forall₂_same.2 fun source _ => hsettles source)

/-- Where a Windows toolchain is found by what a build runs. -/
structure FindsToolchain (here buildDir root : Path) (headers programs : String) : Prop where
  includes : ∀ directory : Path, directory.child headers = directory.join (root.child "include")
  searches : ∀ directory : Path, directory.child programs = directory.join (root.child "bin")
  same : ∀ named ∈ [headers, programs],
    here.child named = buildDir.child named ↔ root.isAbsolute = true ∨ here = buildDir

theorem findsToolchain_ofString (here buildDir : Path) (text : String) :
    FindsToolchain here buildDir (Path.ofString text) ((Path.ofString text).child "include").toString
      ((Path.ofString text).child "bin").toString where
  includes directory := Path.child_toString_child directory text "include"
  searches directory := Path.child_toString_child directory text "bin"
  same := by
    have hsame : ∀ name, (Path.ofString name).isAbsolute = false →
        (here.child ((Path.ofString text).child name).toString =
          buildDir.child ((Path.ofString text).child name).toString ↔
            (Path.ofString text).isAbsolute = true ∨ here = buildDir) := by
      intro name hrelative
      rw [Path.child_toString_child, Path.child_toString_child, Path.join_eq_join_iff,
        Path.isAbsolute_child hrelative]
    simp only [List.forall_mem_cons]
    exact ⟨hsame "include" (by decide +kernel), hsame "bin" (by decide +kernel), List.forall_mem_nil _⟩

/-- However a build ends, its commands run in the build directory. -/
theorem ends_build_launchesInside (configuration : Configuration) (host : Host) (world : World) :
    Ends host configuration.build world
      (fun _ after => Build.LaunchesInside host (configuration.on host) world after)
      (fun _ after => Build.LaunchesInside host (configuration.on host) world after) := by
  unfold build
  rw [ends_bind, ends_now, ends_bind, ends_read]
  exact (Build.ends_runResolved_completed (.ticked world)).imp
    (fun _ _ => Build.launchesInside_of_completed) fun _ _ => Build.launchesInside_of_stopped

/-- A build understands all paths of its configuration from the directory in which it was asked for,
    wherever its commands run, but for the toolchain. All its commands run in the build directory, and links
    run the compiler that has passed the check in the environment that it passed it with. On Windows they
    name the toolchain by texts that are the same in both directories. These are understood alike exactly if
    the toolchain was given as an absolute path, or the build directory is the one of the check. -/
theorem build_settles_all_but_toolchain (configuration : Configuration) (host : Host) (world : World) :
    configuration.Settled host.workingDirectory host.bundledDriver (configuration.on host) ∧
    Ends host configuration.build world
      (fun _ after => Build.LaunchesInside host (configuration.on host) world after)
      (fun _ after => Build.LaunchesInside host (configuration.on host) world after) ∧
    ∀ text, configuration.toolchainRoot = some (Path.ofString text) → host.platform = .windows →
      (host.workingDirectory.Settles (Path.ofString text) (Path.ofString text) ↔
        (Path.ofString text).isAbsolute = true) ∧
      ∃ headers programs,
        (Build.rulesOn host (configuration.on host)).Names host.environment headers programs ∧
        FindsToolchain host.workingDirectory (configuration.on host).buildDir (Path.ofString text) headers
          programs := by
  have hsettled := configuration.settled_resolve host.workingDirectory_isAbsolute host.bundledDriver
  refine ⟨hsettled, configuration.ends_build_launchesInside host world, ?_⟩
  intro text htoolchain hwindows
  have hrules : Build.rulesOn host (configuration.on host) = ⟨.windows, some (Path.ofString text)⟩ := by
    have hroot : (configuration.on host).toolchainRoot = some (Path.ofString text) :=
      hsettled.toolchainRoot.trans htoolchain
    rw [Build.rulesOn, hwindows, hroot]
  rw [hrules]
  exact ⟨Path.settles_self_iff, _, _, LinkRules.names_toolchain _ _, findsToolchain_ofString _ _ text⟩

/-- A relative toolchain: the compiler is checked with the programs of one directory, and links with those
    of another one. -/
theorem build_settles_all_but_toolchain_relative :
    let configuration : Configuration :=
      { program := Path.ofString "app.jl", shared := true,
        toolchainRoot := some (Path.ofString "mingw") }
    let host : Host :=
      { Host.faithful Host.plainCommand fun _ => "built".toUTF8 with
        platform := .windows, environment := [("PATH", "/bin")] }
    let world : World :=
      { files := Host.projectFiles [(["app.jl"], "println(1)"), (["app.a", "builddir"], "compiled")] }
    (configuration.build.value? host world).map (·.stagesRun) = some [.shared] ∧
      Build.LaunchesInside host (configuration.on host) world (configuration.build.runOn host world).2 ∧
      ¬ host.workingDirectory.Settles (Path.ofString "mingw") (Path.ofString "mingw") ∧
      ∃ headers programs,
        (Build.rulesOn host (configuration.on host)).Names host.environment headers programs ∧
        host.workingDirectory.child programs = Path.ofString "/work/mingw/bin" ∧
        (configuration.on host).buildDir.child programs = Path.ofString "/work/builddir/mingw/bin" ∧
        host.workingDirectory.child programs ≠ (configuration.on host).buildDir.child programs := by
  intro configuration host world
  have hvalue : (configuration.build.value? host world).map (·.stagesRun) = some [.shared] := by
    decide +kernel
  obtain ⟨result, hresult, -⟩ := Option.map_eq_some_iff.1 hvalue
  have hinside : Build.LaunchesInside host (configuration.on host) world
      (configuration.build.runOn host world).2 :=
    (ends_build_launchesInside configuration host _).of_ok (runOn_of_value? hresult)
  obtain ⟨-, -, hwindows⟩ := build_settles_all_but_toolchain configuration host world
  obtain ⟨hsettles, headers, programs, hnames, hfinds⟩ := hwindows "mingw" rfl rfl
  have hrelative : ¬ (Path.ofString "mingw").isAbsolute = true := by decide +kernel
  have happart : host.workingDirectory ≠ (configuration.on host).buildDir := by decide +kernel
  refine ⟨hvalue, hinside, hrelative ∘ hsettles.1, headers, programs, hnames, ?_, ?_, ?_⟩
  · rw [hfinds.searches]
    decide +kernel
  · rw [hfinds.searches]
    decide +kernel
  · rw [Ne, hfinds.same programs (by simp)]
    exact fun h => h.elim hrelative happart

end Configuration

end JuliaNative
