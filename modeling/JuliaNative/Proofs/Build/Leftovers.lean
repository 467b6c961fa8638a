import JuliaNative.Proofs.Build.Order
import JuliaNative.Proofs.FileSystem.Outside
import JuliaNative.Proofs.Outputs

set_option autoImplicit false

/-! # A clean build forgets what was left over

A build that cleans empties its build directory before any stage looks into it. Two builds that begin with
different leftovers there are followed side by side: while the checks go on, their worlds differ in the
leftovers alone (`World.Beside`), and after the directory was removed they are one and the same world,
so that everything after it is the same as well. Only a build that fails in its checks leaves both
as they were (`Configuration.build_forgets_leftovers`). -/

namespace JuliaNative

open JuliaNative.Action

/-! ## Two runs side by side -/

namespace World

variable {world : World}

theorem withFiles_saidIf (wanted : Bool) (text : String) (files : FileSystem) :
    (world.saidIf wanted text).withFiles files = (world.withFiles files).saidIf wanted text := by
  unfold saidIf
  split <;> rfl

theorem withFiles_noted (level : Level) (text : String) (files : FileSystem) :
    (world.noted level text).withFiles files = (world.withFiles files).noted level text := by
  unfold noted withFiles
  split <;> rfl

theorem withFiles_ticked (files : FileSystem) :
    world.ticked.withFiles files = (world.withFiles files).ticked := by
  obtain ⟨_, clock, _, _, _, _⟩ := world
  unfold ticked withFiles
  rcases clock with _ | ⟨_, _ | ⟨_, _⟩⟩ <;> rfl

theorem time_withFiles (files : FileSystem) : (world.withFiles files).time = world.time := rfl

theorem Still.noted {first second : World} (h : first.Still second) (level : Level) (text : String) :
    first.Still (second.noted level text) :=
  ⟨by simpa using h.files, by simpa using h.launches⟩

theorem Still.remembered {first second : World} (h : first.Still second) {event : Event}
    (hevent : event.launch? = none) : first.Still (second.remembered event) :=
  ⟨by simpa using h.files, by simpa [hevent] using h.launches⟩

/-- Two runs have come equally far, and differ in their files alone: the first has changed none and
    launched nothing since its start, and the second has other files. -/
def Beside (start : World) (files : FileSystem) (world world' : World) : Prop :=
  start.Still world ∧ world' = world.withFiles files

end World

namespace Action

variable {α β : Type} {host : Host} {start : World} {files : FileSystem}

/-- An action ends alike in both of two runs that differ in their files alone, and they still differ in
    their files alone. -/
def Blind (host : Host) (start : World) (files : FileSystem) (action : Action α) : Prop :=
  Matches host (start.Beside files)
    (fun value value' after after' => value' = value ∧ start.Beside files after after')
    (fun _ => start.Beside files) action action

theorem Blind.pure (value : α) : Blind host start files (pure value) :=
  matches_pure fun _ _ hbeside => ⟨rfl, hbeside⟩

theorem blind_throw (failure : Failure) : Blind host start files (throw failure : Action α) :=
  fun _ _ hbeside => ⟨rfl, hbeside⟩

theorem Blind.bind {action : Action β} {next : β → Action α} (h : Blind host start files action)
    (hnext : ∀ value, Blind host start files (next value)) :
    Blind host start files (action >>= next) := by
  refine Matches.bind h fun value value' => ?_
  rintro world world' ⟨rfl, hbeside⟩
  exact hnext _ world world' hbeside

theorem Blind.ite {wanted : Prop} [Decidable wanted] {first second : Action α}
    (hfirst : wanted → Blind host start files first)
    (hsecond : ¬ wanted → Blind host start files second) :
    Blind host start files (if wanted then first else second) := by
  split
  · next h => exact hfirst h
  · next h => exact hsecond h

/-- What is done with the host is done with the same host in both runs. -/
theorem blind_read_bind {next : Host → Action α} (h : Blind host start files (next host)) :
    Blind host start files (read >>= next) := h

/-- What is done with the files has to be the same for the files of both runs. -/
theorem blind_files_bind {next : FileSystem → Action α} (hsame : next files = next start.files)
    (h : Blind host start files (next start.files)) :
    Blind host start files (Action.files >>= next) := by
  rintro world world' ⟨hstill, rfl⟩
  have hmatch := h world _ ⟨hstill, rfl⟩
  have hfirst : (Action.files >>= next).runOn host world = (next start.files).runOn host world := by
    rw [← hstill.files]
    rfl
  have hsecond : (Action.files >>= next).runOn host (world.withFiles files) =
      (next start.files).runOn host (world.withFiles files) := by
    rw [← hsame]
    rfl
  rwa [hfirst, hsecond]

theorem blind_sayIf (wanted : Bool) (text : String) :
    Blind host start files (sayIf wanted text) := by
  refine matches_of_ends ?_
  rintro world _ ⟨hstill, rfl⟩
  rw [ends_sayIf, ends_sayIf]
  exact ⟨rfl, hstill.said _ _, (World.withFiles_saidIf _ _ _).symm⟩

theorem blind_note (level : Level) (text : String) :
    Blind host start files (note level text) := by
  rintro world _ ⟨hstill, rfl⟩
  exact ⟨rfl, hstill.noted _ _, (World.withFiles_noted _ _ _).symm⟩

theorem blind_remember {event : Event} (hevent : event.launch? = none) :
    Blind host start files (remember event) := by
  rintro world _ ⟨hstill, rfl⟩
  exact ⟨rfl, hstill.remembered hevent, rfl⟩

theorem blind_ofExcept {ε : Type} {failure : ε → Failure} (value : Except ε α) :
    Blind host start files (ofExcept failure value) := by
  cases value with
  | ok result => exact .pure result
  | error fault => exact blind_throw _

theorem blind_isFile {path : Path} (hcannot : host.cannotSee files path = host.cannotSee start.files path)
    (hsees : host.sees files path = host.sees start.files path) :
    Blind host start files (isFile path) := by
  refine matches_of_ends ?_
  rintro world _ ⟨hstill, rfl⟩
  simp only [ends_isFile, World.files_withFiles, hcannot, Host.seesFile, hsees, hstill.files]
  split
  · exact ⟨trivial, hstill, rfl⟩
  · exact ⟨trivial, hstill, rfl⟩

end Action

/-! ## The checks -/

/-- The files of a world and other files are the same to the checks of a build: its inputs are seen alike,
    and the tools answer alike. -/
structure ChecksAlike (host : Host) (resolved : ResolvedConfiguration) (first second : FileSystem) :
    Prop where
  cannotSee : ∀ input ∈ resolved.inputs, host.cannotSee second input = host.cannotSee first input
  sees : ∀ input ∈ resolved.inputs, host.sees second input = host.sees first input
  check : ∀ command environment,
    host.check command environment second = host.check command environment first
  report : ∀ command, host.report command second = host.report command first

namespace Build

variable {host : Host} {resolved : ResolvedConfiguration} {rules : LinkRules} {start : World}
  {files : FileSystem}

theorem blind_requireInput {path : Path} (hmem : path ∈ resolved.inputs)
    (halike : ChecksAlike host resolved start.files files) :
    Blind host start files (requireInput path) :=
  (blind_isFile (halike.cannotSee path hmem) (halike.sees path hmem)).bind fun _ =>
    .ite (fun _ => .pure _) fun _ => blind_throw _

theorem blind_checkInputs (halike : ChecksAlike host resolved start.files files) :
    Blind host start files (checkInputs resolved) := by
  have hscript : Blind host start files (checkScript resolved) := by
    unfold checkScript
    cases hsnoop : resolved.snoopFile with
    | none => exact .pure _
    | some script =>
        refine .ite (fun hobject => blind_requireInput ?_ halike) fun _ => .pure _
        simp [ResolvedConfiguration.inputs, hsnoop, hobject]
  unfold checkInputs announce
  refine (blind_requireInput (by simp [ResolvedConfiguration.inputs]) halike).bind fun _ => ?_
  refine (blind_sayIf _ _).bind fun _ => .ite (fun hexecutable => ?_) fun _ => hscript
  refine (blind_requireInput (by simp [ResolvedConfiguration.inputs, hexecutable]) halike).bind
    fun _ => ?_
  exact (blind_sayIf _ _).bind fun _ => hscript

theorem blind_requireProgram (value : Value) : Blind host start files (requireProgram value) := by
  cases value with
  | text name => exact .pure _
  | path path => exact .pure _
  | _ => exact blind_throw _

theorem blind_checkCompiler (halike : ChecksAlike host resolved start.files files)
    (compiler : Value) (environment : Option Environment) :
    Blind host start files (checkCompiler compiler environment) := by
  refine (blind_requireProgram compiler).bind fun name => ?_
  refine Blind.bind ?_ fun runs => .ite (fun _ => .pure _) fun _ => blind_throw _
  refine (blind_remember rfl).bind fun _ => blind_read_bind (blind_files_bind ?_ ?_)
  · simp only [halike.check]
  · split
    · exact (blind_note _ _).bind fun _ => .pure _
    · exact blind_throw _
    · exact .pure _

theorem blind_askRuntime (halike : ChecksAlike host resolved start.files files) (julia : Value) :
    Blind host start files (askRuntime julia) := by
  refine (blind_note _ _).bind fun _ => (blind_requireProgram julia).bind fun name => ?_
  refine (blind_remember rfl).bind fun _ => blind_read_bind (blind_files_bind ?_ ?_)
  · simp only [halike.report]
  · split
    · exact blind_throw _
    · exact blind_throw _
    · exact .ite (fun _ => blind_throw _) fun _ => blind_ofExcept _

theorem blind_checkTools (halike : ChecksAlike host resolved start.files files) :
    Blind host start files (checkTools resolved rules) := by
  have hruntime : Blind host start files (checkRuntime resolved) := by
    refine .ite (fun _ => (blind_askRuntime halike _).bind fun runtime => ?_) fun _ => .pure _
    refine .ite (fun _ => ?_) fun _ => .pure _
    refine Blind.bind (.ite (fun _ => .pure _) fun _ => blind_throw _) fun _ => .pure _
  refine .ite (fun _ => blind_read_bind ?_) fun _ => hruntime
  exact (blind_checkCompiler halike _ _).bind fun _ => hruntime

/-- The checks of a build fail, and so does the build. -/
def FailsChecks (host : Host) (resolved : ResolvedConfiguration) (files : FileSystem)
    (failure : Failure) : Prop :=
  inputFault? host files resolved.inputs = some failure ∨
    toolCheck host resolved (rulesOn host resolved) files = .error failure

/-! ## Cleaning -/

/-- Runs that come to the same world are the same from then on. -/
theorem matches_same {α : Type} {before : World → World → Prop} {action : Action α}
    (h : ∀ world world', before world world' →
      action.runOn host world' = action.runOn host world) :
    Matches host before (fun value value' after after' => value' = value ∧ after' = after)
      (fun _ after after' => after' = after) action action := by
  intro world world' hworlds
  rw [h world world' hworlds]
  rcases action.runOn host world with ⟨_ | _, _⟩ <;> exact ⟨rfl, rfl⟩

theorem runOn_removeTree_withFiles {world : World} {path : Path} {issue : SystemError → StagingIssue}
    (hnull : path.hasNull = false) (htree : files.removeTree path = world.files.removeTree path) :
    (Stager.removeTree path issue).runOn host (world.withFiles files) =
      (Stager.removeTree path issue).runOn host world := by
  have hread : ∀ (next : FileSystem → Action Unit) (current : World),
      (do refuseNull path; next (← Action.files)).runOn host current =
        (next current.files).runOn host current := by
    intro next current
    unfold refuseNull
    rw [hnull]
    rfl
  unfold Stager.removeTree
  rw [hread, hread, World.files_withFiles, htree]
  rfl

/-- When a build directory was removed that both runs see, their worlds are the same. -/
theorem matches_clean {stager : Stager}
    (hfirst : host.seesDirectory start.files stager.buildDir = true)
    (hsecond : host.seesDirectory files stager.buildDir = true)
    (htree : files.removeTree stager.buildDir = start.files.removeTree stager.buildDir) :
    Matches host (start.Beside files)
      (fun value value' after after' => value' = value ∧ after' = after)
      (fun _ after after' => after' = after) stager.clean stager.clean := by
  have hclean : ∀ current : World, host.seesDirectory current.files stager.buildDir = true →
      stager.clean.runOn host current = (do
        Stager.removeTree stager.buildDir (.buildDirNotRemoved stager.buildDir)
        return true).runOn host (current.saidIf stager.verbose "Remove build directory") := by
    intro current hsees
    have hseen : Returns host (isDirectory stager.buildDir) current true current := by
      rw [returns_iff_ends, ends_isDirectory, Host.cannotSee_of_seesDirectory hsees, hsees]
      exact ⟨rfl, rfl⟩
    unfold Stager.clean Stager.report
    rw [runOn_bind, hseen]
    simp only [if_true]
    rw [runOn_bind, returns_sayIf]
  refine matches_same ?_
  rintro world _ ⟨hstill, rfl⟩
  -- the trees that are left are the same, and from there on so are the worlds
  have hworld : (world.saidIf stager.verbose "Remove build directory").files = start.files := by
    simpa using hstill.files
  have hremove : (Stager.removeTree stager.buildDir (.buildDirNotRemoved stager.buildDir)).runOn host
      ((world.saidIf stager.verbose "Remove build directory").withFiles files) = _ :=
    runOn_removeTree_withFiles (Host.hasNull_of_seesDirectory hfirst) (by rw [htree, hworld])
  rw [hclean world (by rwa [hstill.files]), hclean (world.withFiles files) hsecond,
    ← World.withFiles_saidIf, runOn_bind, runOn_bind, hremove]

/-! ## The run -/

/-- Both runs of a build end in the same world, or they fail in its checks. -/
def AlikeOrUnchecked (host : Host) (resolved : ResolvedConfiguration) (start : World)
    (files : FileSystem) (failure : Failure) (after after' : World) : Prop :=
  after' = after ∨ (FailsChecks host resolved start.files failure ∧ start.Beside files after after')

/-- A check whose failures are those of the checks lets both runs go on side by side. -/
theorem matches_of_blind {α : Type} {action : Action α} (h : Blind host start files action)
    (hfails : ∀ world, start.Still world → Ends host action world (fun _ _ => True)
      (fun failure _ => FailsChecks host resolved start.files failure)) :
    Matches host (start.Beside files)
      (fun value value' after after' => value' = value ∧ start.Beside files after after')
      (AlikeOrUnchecked host resolved start files) action action := by
  refine (Matches.and_ends h fun world _ hbeside => hfails world hbeside.1).imp (fun _ _ h => h)
    (fun _ _ _ _ h => h.1) ?_
  rintro failure after after' ⟨hbeside, hfault⟩
  exact .inr ⟨hfault, hbeside⟩

theorem matches_checkInputs (halike : ChecksAlike host resolved start.files files) :
    Matches host (start.Beside files)
      (fun value value' after after' => value' = value ∧ start.Beside files after after')
      (AlikeOrUnchecked host resolved start files) (checkInputs resolved) (checkInputs resolved) := by
  refine matches_of_blind (blind_checkInputs halike) fun world hstill => ?_
  refine ends_checkInputs.imp (fun _ _ _ => trivial) ?_
  rintro failure _ ⟨-, hfault⟩
  rw [hstill.files] at hfault
  exact .inl hfault

theorem matches_checkTools (halike : ChecksAlike host resolved start.files files) :
    Matches host (start.Beside files)
      (fun value value' after after' => value' = value ∧ start.Beside files after after')
      (AlikeOrUnchecked host resolved start files) (checkTools resolved (rulesOn host resolved))
      (checkTools resolved (rulesOn host resolved)) := by
  refine matches_of_blind (blind_checkTools halike) fun world hstill => ?_
  refine ends_checkTools.imp (fun _ _ _ => trivial) ?_
  rintro failure _ ⟨-, hfault⟩
  rw [hstill.files] at hfault
  exact .inr hfault

theorem matches_announce (text : String) :
    Matches host (start.Beside files)
      (fun value value' after after' => value' = value ∧ start.Beside files after after')
      (AlikeOrUnchecked host resolved start files) (announce resolved text)
      (announce resolved text) := by
  refine matches_of_blind (blind_sayIf _ _) fun world _ => ?_
  rw [announce, ends_sayIf]
  trivial

/-- The work of a build that cleans begins with removing the build directory. -/
theorem work_of_clean {runtime : Option Runtime} {time : Seconds}
    (hselected : resolved.stages.clean = true) :
    ∃ rest : Action BuildResult,
      work resolved rules runtime time = (workshop resolved).stager.clean >>= fun _ => rest := by
  unfold work cleanStage stage
  rw [StageSelection.selects, hselected, if_pos rfl]
  simp only [discard, map_const, Function.comp_apply, bind_map_left, bind_assoc, pure_bind]
  exact ⟨_, rfl⟩

/-- Where both runs see the build directory, the work of a build that cleans it ends in the same world. -/
theorem matches_work {runtime : Option Runtime} {time : Seconds}
    (hselected : resolved.stages.clean = true)
    (hfirst : host.seesDirectory start.files resolved.buildDir = true)
    (hsecond : host.seesDirectory files resolved.buildDir = true)
    (htree : files.removeTree resolved.buildDir = start.files.removeTree resolved.buildDir) :
    Matches host (start.Beside files)
      (fun result result' after after' => result' = result ∧ after' = after)
      (fun _ after after' => after' = after) (work resolved rules runtime time)
      (work resolved rules runtime time) := by
  obtain ⟨rest, hwork⟩ := work_of_clean hselected
  rw [hwork]
  refine (matches_clean hfirst hsecond htree).bind fun _ _ => matches_same fun world world' hsame => ?_
  rw [hsame.2]

theorem matches_runStages {time : Seconds} (hselected : resolved.stages.clean = true)
    (halike : ChecksAlike host resolved start.files files)
    (hfirst : host.seesDirectory start.files resolved.buildDir = true)
    (hsecond : host.seesDirectory files resolved.buildDir = true)
    (htree : files.removeTree resolved.buildDir = start.files.removeTree resolved.buildDir) :
    Matches host (start.Beside files)
      (fun result result' after after' => result' = result ∧ after' = after)
      (AlikeOrUnchecked host resolved start files)
      (runStages resolved time) (runStages resolved time) := by
  have hwork : ∀ runtime runtime' : Option Runtime, Matches host
      (fun after after' => runtime' = runtime ∧ start.Beside files after after')
      (fun result result' after after' => result' = result ∧ after' = after)
      (AlikeOrUnchecked host resolved start files)
      (work resolved (rulesOn host resolved) runtime time)
      (work resolved (rulesOn host resolved) runtime' time) := by
    rintro runtime runtime' world world' ⟨rfl, hbeside⟩
    exact ((matches_work hselected hfirst hsecond htree).imp (fun _ _ h => h)
      (fun _ _ _ _ h => h) fun _ _ _ hsame => .inl hsame) world world' hbeside
  intro world world' hbeside
  rw [runOn_runStages, runOn_runStages]
  exact ((matches_checkTools halike).bind hwork) world world' hbeside

/-- Where both runs see the build directory, a build that cleans it ends in the same world, unless it
    fails in its checks. -/
theorem matches_runResolved {time : Seconds} (hselected : resolved.stages.clean = true)
    (halike : ChecksAlike host resolved start.files files)
    (hfirst : host.seesDirectory start.files resolved.buildDir = true)
    (hsecond : host.seesDirectory files resolved.buildDir = true)
    (htree : files.removeTree resolved.buildDir = start.files.removeTree resolved.buildDir) :
    Matches host (start.Beside files)
      (fun result result' after after' => result' = result ∧ after' = after)
      (AlikeOrUnchecked host resolved start files)
      (runResolved resolved time) (runResolved resolved time) := by
  have hsome : ¬ resolved.stages.nothingSelected = true := by
    simp [StageSelection.nothingSelected, enabled_eq, hselected]
  unfold runResolved
  rw [if_neg hsome]
  refine (matches_checkInputs halike).bind ?_
  rintro _ _ world world' ⟨-, hbeside⟩
  refine (matches_announce _).bind ?_ world world' hbeside
  rintro _ _ world world' ⟨-, hbeside⟩
  exact matches_runStages hselected halike hfirst hsecond htree world world' hbeside

end Build

/-! ## The whole build -/

namespace Configuration

open JuliaNative.FileSystem

variable {configuration : Configuration} {host : Host} {directory : Location}
  {first second : FileSystem}

theorem isAbsolute_of_mem_inputs {input : Path} (h : input ∈ (configuration.on host).inputs) :
    input.isAbsolute = true := by
  have hjoin : ∀ path, (host.workingDirectory.join path).isAbsolute = true :=
    Path.isAbsolute_join host.workingDirectory_isAbsolute
  simp only [ResolvedConfiguration.inputs, List.mem_cons, List.mem_append] at h
  rcases h with rfl | h | h
  · exact hjoin _
  · split at h
    · rw [List.mem_singleton] at h
      exact h ▸ hjoin _
    · cases h
  · split at h
    · obtain ⟨given, -, rfl⟩ := Option.map_eq_some_iff.1 (Option.mem_toList.1 h)
      exact hjoin _
    · cases h

theorem seesDirectory_of_names {path : Path} (habsolute : path.isAbsolute = true)
    (hnull : path.hasNull = false) (h : first.Names path directory) :
    host.seesDirectory first path = true := by
  obtain ⟨hlocate, hdirectory⟩ := h.leadsTo
  have hlookup : first.lookup? path = some .directory :=
    lookup?_eq_some_iff.2 ⟨directory, hlocate, hdirectory⟩
  simp [Host.seesDirectory, Host.sees, hnull, Path.join_of_isAbsolute habsolute, hlookup]

theorem checksAlike_of_sameOutside (hsame : SameOutside directory first second)
    (hinputs : ∀ input ∈ (configuration.on host).inputs, StaysOutside directory first input)
    (hcheck : ∀ command environment,
      host.check command environment second = host.check command environment first)
    (hreport : ∀ command, host.report command second = host.report command first) :
    ChecksAlike host (configuration.on host) first second := by
  refine ⟨fun input hmem => ?_, fun input hmem => ?_, hcheck, hreport⟩
  · have hlocate := hsame.locate_eq (hinputs input hmem)
    simp only [Host.cannotSee, Path.join_of_isAbsolute (isAbsolute_of_mem_inputs hmem), hlocate]
  · have hlookup := hsame.lookup?_eq (hinputs input hmem)
    simp only [Host.sees, Path.join_of_isAbsolute (isAbsolute_of_mem_inputs hmem), hlookup]

/-- A build that cleans a directory ends in the same way and in the same world, whatever was left over in
    the directory, or it fails in its checks and leaves all files as they were. No input lies below
    the directory, and the checks of the tools do not depend on what is there. -/
theorem build_forgets_leftovers (world : World)
    (hclean : (configuration.on host).stages.clean = true)
    (hsame : SameOutside directory first second)
    (hfirst : first.Names (configuration.on host).buildDir directory)
    (hsecond : second.Names (configuration.on host).buildDir directory)
    (hnull : (configuration.on host).buildDir.hasNull = false)
    (hinputs : ∀ input ∈ (configuration.on host).inputs, StaysOutside directory first input)
    (hcheck : ∀ command environment,
      host.check command environment second = host.check command environment first)
    (hreport : ∀ command, host.report command second = host.report command first) :
    configuration.build.runOn host (world.withFiles second) =
        configuration.build.runOn host (world.withFiles first) ∨
      ∃ (failure : Failure) (after : World), Build.FailsChecks host (configuration.on host) first failure ∧
        after.launches = world.launches ∧
        configuration.build.runOn host (world.withFiles first) =
          (.error failure, after.withFiles first) ∧
        configuration.build.runOn host (world.withFiles second) =
          (.error failure, after.withFiles second) := by
  have habsolute : (configuration.on host).buildDir.isAbsolute = true :=
    Path.isAbsolute_join host.workingDirectory_isAbsolute _
  have hbeside : (world.ticked.withFiles first).Beside second (world.ticked.withFiles first)
      (world.ticked.withFiles second) := ⟨⟨rfl, rfl⟩, rfl⟩
  have hmatches : Matches host ((world.ticked.withFiles first).Beside second)
      (fun result result' after after' => result' = result ∧ after' = after)
      (Build.AlikeOrUnchecked host (configuration.on host) (world.ticked.withFiles first) second)
      (Build.runResolved (configuration.on host) world.time)
      (Build.runResolved (configuration.on host) world.time) :=
    Build.matches_runResolved hclean (checksAlike_of_sameOutside hsame hinputs hcheck hreport)
      (seesDirectory_of_names habsolute hnull hfirst)
      (seesDirectory_of_names habsolute hnull hsecond) (hsame.removeTree_eq hfirst hsecond)
  have hmatch := hmatches _ _ hbeside
  rw [runOn_build, runOn_build, ← World.withFiles_ticked, ← World.withFiles_ticked,
    World.time_withFiles, World.time_withFiles]
  -- both runs return, or both fail; that only one of them fails does not match
  split at hmatch
  · next heq heq' =>
      obtain ⟨rfl, rfl⟩ := hmatch
      exact .inl (heq'.trans heq.symm)
  · next failure after _ after' heq heq' =>
      obtain ⟨rfl, rfl | ⟨hfails, ⟨hfiles, hlaunches⟩, rfl⟩⟩ := hmatch
      · exact .inl (heq'.trans heq.symm)
      · refine .inr ⟨_, after, hfails, by simpa using hlaunches, ?_, heq'⟩
        rw [heq, ← show after.files = first from hfiles]
        rfl
  · exact hmatch.elim

/-- What was left over in the build directory does not show after a clean build. -/
theorem clean_build_forgets_old_object :
    let configuration : Configuration :=
      { program := Path.ofString "app.jl", clean := true, object := true, removeTemp := true }
    let host := Host.obedient Host.plainCommand fun _ => "built".toUTF8
    let first := Host.projectFiles [(["app.jl"], "println(1)")]
    let second := first.insert ["old.o", "builddir", "work"] (.file ⟨"old".toUTF8, .at 0⟩)
    (configuration.build.value? host { files := first }).map (·.removedFiles) = some ["app.a"] ∧
      configuration.build.runOn host { files := second } =
        configuration.build.runOn host { files := first } := by
  intro configuration host first second
  have hvalue : (configuration.build.value? host { files := first }).map (·.removedFiles) =
      some ["app.a"] := by decide +kernel
  obtain ⟨result, hresult, -⟩ := Option.map_eq_some_iff.1 hvalue
  have hfirst : first.Names (configuration.on host).buildDir ["builddir", "work"] :=
    named?_eq_some_iff.1 (by decide +kernel)
  have hsecond : second.Names (configuration.on host).buildDir ["builddir", "work"] :=
    named?_eq_some_iff.1 (by decide +kernel)
  have hsame : SameOutside ["builddir", "work"] first second := sameOutside_insert (by decide) first
  have hinputs : ∀ input ∈ (configuration.on host).inputs,
      StaysOutside ["builddir", "work"] first input := by decide +kernel
  rcases build_forgets_leftovers { files := first } rfl hsame hfirst hsecond
    (by decide +kernel) hinputs (fun _ _ => rfl) (fun _ => rfl) with heq | ⟨failure, after, -, -, heq, -⟩
  · exact ⟨hvalue, heq⟩
  · exact absurd ((runOn_of_value? hresult).symm.trans heq) nofun

/-- A build that fails in its checks keeps what was left over in the build directory that it was to
    clean. -/
theorem leftovers_kept_by_failed_checks :
    let configuration : Configuration := { program := Path.ofString "app.jl", clean := true }
    let host := Host.obedient Host.plainCommand fun _ => "built".toUTF8
    let first := Host.projectFiles []
    let second := first.insert ["old.txt", "builddir", "work"] (.file ⟨"old".toUTF8, .at 0⟩)
    SameOutside ["builddir", "work"] first second ∧
      first.Names (configuration.on host).buildDir ["builddir", "work"] ∧
      second.Names (configuration.on host).buildDir ["builddir", "work"] ∧
      (∀ input ∈ (configuration.on host).inputs, StaysOutside ["builddir", "work"] first input) ∧
      (configuration.build.runOn host { files := second }).2.files ≠
        (configuration.build.runOn host { files := first }).2.files := by
  intro configuration host first second
  refine ⟨sameOutside_insert (by decide) first, named?_eq_some_iff.1 (by decide +kernel),
    named?_eq_some_iff.1 (by decide +kernel), by decide +kernel, fun heq => ?_⟩
  have hfound : (configuration.build.runOn host { files := second }).2.files.find?
      ["old.txt", "builddir", "work"] ≠ none := by decide +kernel
  rw [heq] at hfound
  revert hfound
  decide +kernel

end Configuration
end JuliaNative
