import JuliaNative.Proofs.Build.Order
import JuliaNative.Proofs.Configuration.Expansion
import JuliaNative.Proofs.Outputs
import Mathlib.Data.List.Basic

set_option autoImplicit false

/-! # Stages find the products of earlier stages

A stage that links looks for the product of the stage before it. If the selection holds that stage as
well (`StageSelection.IsClosed`), it was carried out right before, and its last command has written the
product: so a build with automatic dependencies never misses one (`Configuration.build_finds_products`).
It rests on both stages meaning the same file, and this is said of the commands themselves
(`Build.NamesAgree`): what one is told to write is what the next stage looks for and what its command
is told to link. -/

namespace JuliaNative

open JuliaNative.Action

/-! ## Selections -/

/-- The stage whose product a stage looks for. -/
def Stage.needed? : Stage → Option Stage
  | .shared => some .object
  | .executable => some .shared
  | _ => none

/-- A selection holds with each stage the one whose product it looks for. -/
def StageSelection.IsClosed (selection : StageSelection) : Prop :=
  ∀ which, selection.selects which = true →
    ∀ needed ∈ which.needed?, selection.selects needed = true

variable {selection : StageSelection} {which : Stage}

/-- What a stage needs comes right before it in the order of all stages. -/
theorem Stage.all_eq_of_needed {needed : Stage} (h : needed ∈ which.needed?) :
    ∃ before after, Stage.all = before ++ needed :: which :: after := by
  cases which with
  | shared =>
      cases h
      exact ⟨[.clean], [.executable, .removeTemp, .copyRuntimeLibs, .copyUserFiles], rfl⟩
  | executable =>
      cases h
      exact ⟨[.clean, .object], [.removeTemp, .copyRuntimeLibs, .copyUserFiles], rfl⟩
  | _ => cases h

/-- In a closed selection the stage carried out right before another is the one that it needs. -/
theorem getLast?_of_enabled {earlier later : List Stage} (hclosed : selection.IsClosed)
    (henabled : selection.enabled = earlier ++ which :: later) :
    ∀ needed ∈ which.needed?, earlier.getLast? = some needed := by
  intro needed hneeded
  obtain ⟨before, after, hall⟩ := Stage.all_eq_of_needed hneeded
  have hselected : selection.selects which = true :=
    StageSelection.mem_enabled.1 (by simp [henabled])
  -- no stage stands twice in the list of all, so the selected one is found in one place only
  have honce : which ∉ before ++ [needed] ∧ which ∉ after := by
    have hnodup : Stage.all.Nodup := by decide
    rw [hall, List.append_cons, List.nodup_append, List.nodup_cons] at hnodup
    exact ⟨fun hmem => hnodup.2.2 which hmem which (List.mem_cons_self ..) rfl, hnodup.2.1.1⟩
  rw [StageSelection.enabled, hall, List.append_cons, List.filter_append,
    List.filter_cons_of_pos hselected] at henabled
  obtain ⟨rfl, -, -⟩ := (List.append_cons_inj_of_notMem
    (fun hmem => honce.1 (List.mem_of_mem_filter hmem))
    (fun hmem => honce.2 (List.mem_of_mem_filter hmem))).1 henabled
  rw [List.filter_append, List.filter_cons_of_pos (hclosed which hselected needed hneeded)]
  exact List.getLast?_concat

/-- Automatic dependencies, and with them a full release, select what the selected stages need. -/
theorem Configuration.isClosed_stages {configuration : Configuration} (host : Host)
    (h : configuration.autoDeps = true ∨ configuration.fullRelease = true) :
    (configuration.on host).stages.IsClosed := by
  have hauto : (configuration.autoDeps || configuration.fullRelease) = true := by simpa using h
  have hneeds : (configuration.expand.executable = true → configuration.expand.shared = true) ∧
      (configuration.expand.shared = true → configuration.expand.object = true) := by
    rw [Configuration.expand_eq]
    simp only [hauto, Bool.true_and, Bool.or_eq_true]
    exact ⟨.inr, .inr⟩
  intro which hselected needed hneeded
  cases which with
  | shared =>
      cases hneeded
      exact hneeds.2 hselected
  | executable =>
      cases hneeded
      exact hneeds.1 hselected
  | _ => cases hneeded

/-! ## Looking for a product -/

/-- The name of the file that a stage produces, if its product is a file. -/
def Artifacts.product? (artifacts : Artifacts) : Stage → Option String
  | .object => some artifacts.objectFile
  | .shared => some artifacts.sharedLibrary
  | .executable => some artifacts.executable
  | _ => none

namespace Build

variable {host : Host} {resolved : ResolvedConfiguration} {rules : LinkRules}
  {equipped : Option Setup} {setup : Setup} {progress : Progress} {commands : StageCommands}
  {world : World}

/-- The failure of a link that does not find the product of an earlier stage in the build directory. -/
def missingProduct (resolved : ResolvedConfiguration) (what kind product : String) : Failure :=
  .error (.stage {
    task := .linking
    description :=
      what ++ ": " ++ kind ++ " \"" ++ product ++ "\" not found in " ++ resolved.buildDir.toString })

/-- A path can be looked at, and nothing is there. -/
def Misses (host : Host) (files : FileSystem) (path : Path) : Prop :=
  host.cannotSee files path = false ∧ host.sees files path = none

instance (host : Host) (files : FileSystem) (path : Path) : Decidable (Misses host files path) :=
  inferInstanceAs (Decidable (_ ∧ _))

theorem ne_missingProduct_of_namesCommand {failure : Failure} (h : failure.NamesCommand)
    (what kind product : String) : failure ≠ missingProduct resolved what kind product := by
  rintro rfl
  exact h rfl

/-- An action looks for a product of an earlier stage: if it is not there, the action fails by missing
    it, and else it fails, if at all, by naming what failed. -/
def LooksFor (host : Host) (resolved : ResolvedConfiguration) (what kind product : String)
    (action : Action Path) : Prop :=
  ∀ world, Ends host action world
    (fun _ _ => ¬ Misses host world.files (resolved.buildDir.child product))
    (fun failure _ =>
      if Misses host world.files (resolved.buildDir.child product) then
        failure = missingProduct resolved what kind product
      else failure.NamesCommand)

theorem ends_requireProduct (what kind product : String) :
    Ends host (Linker.requireProduct (workshop resolved) what kind product) world
      (fun _ _ => ¬ Misses host world.files (resolved.buildDir.child product))
      (fun failure _ =>
        if Misses host world.files (resolved.buildDir.child product) then
          failure = missingProduct resolved what kind product
        else failure.NamesCommand) := by
  have hbuildDir : (workshop resolved).buildDir = resolved.buildDir := rfl
  unfold Linker.requireProduct
  rw [ends_bind, ends_has, hbuildDir]
  split
  · next hlong =>
      rw [if_neg]
      · trivial
      · exact fun hmisses => by simp [hmisses.1] at hlong
  · next hshort =>
      rw [ends_ite, ends_pure, ends_fail]
      split
      · next hfound => exact fun hmisses => by simp [hmisses.2] at hfound
      · next hmissing =>
          rw [if_pos]
          · rfl
          · exact ⟨by simpa using hshort, by simpa using hmissing⟩

/-- What begins with requiring a product, and otherwise names the command that failed, looks for it. -/
theorem looksFor_of_sameWork {running : Bool} {what kind product : String} {rest : Action Path}
    (hrest : SameWork running Failure.NamesCommand rest rest) :
    LooksFor host resolved what kind product (do
      Linker.requireProduct (workshop resolved) what kind product
      rest) := by
  intro world
  refine (ends_requireProduct what kind product).bind fun _ mid hthere => ?_
  refine (hrest.ends mid).imp (fun _ _ _ => hthere) fun failure _ hfailure => ?_
  rw [if_neg hthere]
  exact hfailure.1

theorem looksFor_linkShared (linker : Linker) (artifacts : Artifacts) (flags : List String)
    (withInit : Bool) :
    LooksFor host resolved ("Build shared library \"" ++ artifacts.sharedLibrary ++ "\"")
      "object file" artifacts.objectFile
      (linker.linkShared (workshop resolved) artifacts flags withInit) := by
  rw [Linker.linkShared_eq]
  exact looksFor_of_sameWork (Linker.sameWork_linkFound rfl flags withInit)

theorem looksFor_linkExecutable (linker : Linker) (artifacts : Artifacts) (driver : Path)
    (flags : List String) :
    LooksFor host resolved ("Build executable \"" ++ artifacts.executable ++ "\"")
      "shared library" artifacts.sharedLibrary
      (linker.linkExecutable (workshop resolved) artifacts driver flags) := by
  rw [Linker.linkExecutable_eq]
  exact looksFor_of_sameWork (Linker.sameWork_linkDriver rfl driver flags)

/-! ## The products of the stages -/

/-- A world is as a command has left it that compiled into the file of a path and ended well. -/
def JustCompiled (host : Host) (buildDir path : Path) (compiled : World) : Prop :=
  ∃ command name environment files answer, CompilesInto command name ∧ path = buildDir.child name ∧
    host.run command buildDir environment files = .finished answer compiled.files ∧ answer.status = 0

theorem ends_compileObject {workshop : Workshop} {reported : List String} {base : BaseCommand}
    {runtime : Runtime} {program : Path} {objectFile : String} {request : CompileRequest}
    (hbase : BaseCommand.ofList? reported = some base) :
    Ends host (workshop.compileObject base runtime program objectFile request) world
      (fun _ after => JustCompiled host workshop.buildDir (workshop.buildDir.child objectFile) after)
      (fun _ _ => True) := by
  unfold Workshop.compileObject
  rw [ends_bind, ends_ofExcept]
  split
  · next command hcommand =>
      refine (Ends.trivial ..).bind fun _ _ _ => ?_
      rw [ends_bind]
      refine Workshop.ends_perform.imp ?_ (fun _ _ h => h)
      rintro _ after ⟨-, answer, hrun, hstatus⟩
      exact ⟨command, objectFile, _, _, answer, .intro hbase hcommand, rfl, hrun, hstatus⟩
  · trivial

theorem ends_compileProgram :
    Ends host (compileProgram setup) world
      (fun _ after => JustCompiled host setup.resolved.buildDir
        (setup.resolved.buildDir.child setup.artifacts.objectFile) after)
      (fun _ _ => True) := by
  rw [compileProgram_eq]
  refine (Ends.trivial ..).bind fun program ready _ => ?_
  unfold Workshop.compile
  split
  · next base hbase =>
      refine (Ends.trivial ..).bind fun priming asked _ => ?_
      split
      · exact ends_compileObject hbase
      · exact (Ends.trivial ..).bind fun _ _ _ => ends_compileObject hbase
  · trivial

/-- What a link returns is the path of the library in the build directory. -/
theorem ends_linkShared_path {linker : Linker} {artifacts : Artifacts} {flags : List String}
    {withInit : Bool} :
    Ends host (linker.linkShared (workshop resolved) artifacts flags withInit) world
      (fun path _ => path = resolved.buildDir.child artifacts.sharedLibrary) (fun _ _ => True) := by
  have hobject : ∀ source before,
      Ends host (linker.linkObject (workshop resolved) artifacts flags source) before
        (fun path _ => path = resolved.buildDir.child artifacts.sharedLibrary) (fun _ _ => True) := by
    intro source before
    unfold Linker.linkObject
    refine (Ends.trivial ..).bind fun _ _ _ => (Ends.trivial ..).bind fun _ _ _ => ?_
    exact (Ends.trivial ..).bind fun _ _ _ => rfl
  rw [Linker.linkShared_eq]
  refine (Ends.trivial ..).bind fun _ _ _ => ?_
  cases withInit with
  | false => exact hobject _ _
  | true => exact (Ends.trivial ..).bind fun _ _ _ => hobject _ _

/-- What a command was told to write in the build directory is not missed right after it. -/
theorem not_misses_of_created (hcreates : host.CreatesOutputs)
    (habsolute : resolved.buildDir.isAbsolute = true) {command : List String} {name : String}
    (hnames : CompilesInto command name ∨ LinksInto command name) {environment : Option Environment}
    {files changed : FileSystem} {answer : Answer}
    (hrun : host.run command resolved.buildDir environment files = .finished answer changed)
    (hstatus : answer.status = 0) : ¬ Misses host changed (resolved.buildDir.child name) := by
  obtain ⟨hnull, file, hread⟩ := hcreates command name hnames _ _ _ _ _ hrun hstatus
  obtain ⟨location, hlocate, hfile⟩ := FileSystem.read_eq_ok_iff.1 hread
  have hjoin : host.workingDirectory.join (resolved.buildDir.child name) =
      resolved.buildDir.child name :=
    Path.join_of_isAbsolute (Path.isAbsolute_join habsolute _)
  have hsees : host.sees changed (resolved.buildDir.child name) = some (.file file) := by
    rw [Host.sees, hnull, hjoin]
    exact FileSystem.lookup?_eq_some_iff.2 ⟨location, hlocate, hfile⟩
  rintro ⟨-, hnone⟩
  rw [hnone] at hsees
  cases hsees

/-- The product of a stage, if the next one looks for it, is in the build directory, which was made. -/
structure Delivered (host : Host) (resolved : ResolvedConfiguration) (equipped : Option Setup)
    (which : Stage) (progress : Progress) (world : World) : Prop where
  entered : progress.entered = true
  found : ∀ setup ∈ equipped, ∀ name ∈ setup.artifacts.product? which,
    ¬ Misses host world.files (resolved.buildDir.child name)

theorem entered_of_returns_enter {ready : Progress} {mid : World}
    (h : Returns host (enter resolved progress) world ready mid) : ready.entered = true := by
  unfold enter at h
  split at h
  · next hentered =>
      obtain ⟨rfl, -⟩ := returns_pure.1 h
      exact hentered
  · obtain ⟨_, _, -, h⟩ := returns_bind.1 h
    obtain ⟨rfl, -⟩ := returns_pure.1 h
    rfl

/-- A stage whose product another one looks for delivers it. -/
theorem ends_carryOut_delivered {needed : Stage} (hcreates : host.CreatesOutputs)
    (habsolute : resolved.buildDir.isAbsolute = true)
    (hequipped : Equipped resolved rules equipped) (hneeded : needed ∈ which.needed?) :
    Ends host (carryOut resolved equipped progress needed) world
      (fun passed after => Delivered host resolved equipped needed passed after)
      (fun _ _ => True) := by
  have hclean : needed ≠ .clean := by
    rintro rfl
    cases which <;> cases hneeded
  unfold carryOut
  rw [if_neg hclean]
  refine ((Ends.self ..).imp (fun _ _ h => h) fun _ _ _ => trivial).bind fun ready mid hready => ?_
  have hentered := entered_of_returns_enter hready
  -- only the links look for a product: for what compiling writes, and for the shared library
  cases which with
  | shared =>
      cases hneeded
      unfold carryOutInside
      cases equipped with
      | none => exact ⟨hentered, fun setup hmem => absurd hmem (Option.not_mem_none setup)⟩
      | some setup =>
          obtain rfl := hequipped.resolved_eq setup rfl
          rw [ends_bind]
          refine ends_compileProgram.imp ?_ fun _ _ h => h
          rintro path after ⟨command, name, _, _, _, hcompiles, hpath, hrun, hstatus⟩
          refine ⟨hentered, fun _ hsetup product hproduct => ?_⟩
          cases hsetup
          cases hproduct
          rw [hpath]
          exact not_misses_of_created hcreates habsolute (.inl hcompiles) hrun hstatus
  | executable =>
      cases hneeded
      unfold carryOutInside
      cases equipped with
      | none => exact ⟨hentered, fun setup hmem => absurd hmem (Option.not_mem_none setup)⟩
      | some setup =>
          refine (Ends.trivial ..).bind fun linking prepared _ => ?_
          rw [ends_bind]
          refine (Linker.ends_linkShared.and ends_linkShared_path).imp ?_ fun _ _ _ => trivial
          rintro path after ⟨⟨command, name, _, _, _, hlinks, hname, -, hrun, hstatus⟩, hpath⟩
          refine ⟨hentered, fun _ hsetup product hproduct => ?_⟩
          cases hsetup
          cases hproduct
          rw [← hpath, hname]
          exact not_misses_of_created hcreates habsolute (.inr hlinks) hrun hstatus
  | _ => cases hneeded

/-! ## No product is missed -/

/-- Finding out what to link with changes no file. -/
theorem ends_prepare_files :
    Ends host (prepare setup progress) world (fun _ after => after.files = world.files)
      (fun failure _ => failure.NamesCommand) := by
  have hkeeps : Keeps host (fun files _ => files = world.files) (prepare setup progress) := by
    unfold prepare
    split
    · exact .pure _
    · exact keeps_linkFlags.bind fun _ => (keeps_requireProgram _).bind fun _ => .pure _
  have hwork : SameWork false Failure.NamesCommand (prepare setup progress)
      (prepare setup progress) := sameWork_prepare (.refl .shared setup.resolved) progress
  exact ((hkeeps world rfl).and (hwork.ends world)).imp (fun _ _ h => h.1) fun _ _ h => h.2.1

/-- A link that finds what it looks for fails, if it does, by naming what failed. -/
theorem ends_preparedLink_namesCommand {what kind product : String} {run : Linking → Action Path}
    {report : Linking → Path → Progress}
    (hrun : ∀ linking, LooksFor host resolved what kind product (run linking))
    (hfound : ¬ Misses host world.files (resolved.buildDir.child product)) :
    Ends host (do
      let linking ← prepare setup progress
      let path ← run linking
      return report linking path) world
      (fun _ _ => True) (fun failure _ => failure.NamesCommand) := by
  refine ends_prepare_files.bind fun linking mid hfiles => ?_
  rw [← hfiles] at hfound
  rw [ends_bind]
  refine (hrun linking mid).imp (fun _ _ _ => trivial) fun failure _ h => ?_
  rwa [if_neg hfound] at h

/-- A stage that finds what it looks for fails, if it does, by naming what failed. -/
theorem ends_carryOut_namesCommand (hequipped : Equipped resolved rules equipped)
    (hdelivered : ∀ needed ∈ which.needed?,
      Delivered host resolved equipped needed progress world) :
    Ends host (carryOut resolved equipped progress which) world (fun _ _ => True)
      (fun failure _ => failure.NamesCommand) := by
  have hinside : ∀ needed ∈ which.needed?, which ≠ .clean →
      carryOut resolved equipped progress which = carryOutInside resolved equipped progress which := by
    intro needed hneeded hclean
    simp [carryOut, hclean, enter, (hdelivered needed hneeded).entered]
  cases which with
  | shared =>
      rw [hinside .object rfl (by decide)]
      cases equipped with
      | none => trivial
      | some setup =>
          exact ends_preparedLink_namesCommand (fun _ => looksFor_linkShared _ _ _ _)
            ((hdelivered .object rfl).found setup rfl _ rfl)
  | executable =>
      rw [hinside .shared rfl (by decide)]
      cases equipped with
      | none => trivial
      | some setup =>
          exact ends_preparedLink_namesCommand (fun _ => looksFor_linkExecutable _ _ _ _)
            ((hdelivered .shared rfl).found setup rfl _ rfl)
  | clean | object | removeTemp | copyRuntimeLibs | copyUserFiles =>
      refine (SameWork.ends (sameWork_carryOut (.refl _ resolved) equipped hequipped.resolved_eq
        progress) world).imp (fun _ _ _ => trivial) fun failure _ hfailure => ?_
      exact hfailure.1.resolve_left (by decide)

theorem namesCommand_of_inputFault? {files : FileSystem} {inputs : List Path} {failure : Failure}
    (h : inputFault? host files inputs = some failure) : failure.NamesCommand := by
  induction inputs with
  | nil => cases h
  | cons path rest ih =>
      unfold inputFault? at h
      split at h
      · cases h
        trivial
      · split at h
        · exact ih h
        · cases h
          trivial

theorem namesCommand_of_toolCheck {files : FileSystem} {failure : Failure}
    (h : toolCheck host resolved rules files = .error failure) : failure.NamesCommand := by
  have hwork : SameWork false Failure.NamesCommand (checkTools resolved rules)
      (checkTools resolved rules) := sameWork_checkTools (.refl .clean resolved) rfl rules
  have hends : Ends host (checkTools resolved rules) { files } (fun _ _ => failure.NamesCommand)
      (fun _ _ => failure.NamesCommand) := by
    refine (ends_checkTools.and (hwork.ends _)).imp ?_ ?_
    · rintro runtime _ ⟨⟨-, htools⟩, -⟩
      rw [h] at htools
      cases htools
    · rintro other _ ⟨⟨-, htools⟩, hnames, -⟩
      rw [h] at htools
      cases htools
      exact hnames
  unfold Ends at hends
  split at hends <;> exact hends

/-- A build whose selection is closed is not stopped for a missing product. -/
theorem namesCommand_of_stopped {failure : Failure} {after : World}
    (hclosed : resolved.stages.IsClosed) (habsolute : resolved.buildDir.isAbsolute = true)
    (hcreates : host.CreatesOutputs) (h : Stopped host resolved world failure after) :
    failure.NamesCommand := by
  rcases h with ⟨-, hinputs | htools⟩ | ⟨earlier, which, later, progress, mid, henabled, hcarried, hrun, -⟩
  · exact namesCommand_of_inputFault? hinputs
  · exact namesCommand_of_toolCheck htools
  · obtain ⟨-, ⟨runtime, htools⟩, checked, -, hreturns⟩ := hcarried
    have hequipped : Equipped resolved (rulesOn host resolved)
        (equipmentFound host resolved world.files) := by
      rw [equipmentFound_of_toolCheck htools]
      exact equipped_of_suits _ (suits_of_toolCheck htools)
    refine (ends_carryOut_namesCommand hequipped fun needed hneeded => ?_).of_error hrun
    -- the stage that is needed was the last one carried out
    obtain ⟨begun, rfl⟩ := List.getLast?_eq_some_iff.1
      (getLast?_of_enabled hclosed henabled needed hneeded)
    unfold carryOutAll at hreturns
    rw [List.foldlM_append] at hreturns
    obtain ⟨_, _, -, hreturns⟩ := returns_bind.1 hreturns
    obtain ⟨_, _, hlast, hnil⟩ := returns_bind.1 hreturns
    obtain ⟨rfl, rfl⟩ := returns_pure.1 hnil
    exact (ends_carryOut_delivered hcreates habsolute hequipped hneeded).of_returns hlast

/-! ## The names of the products -/

/-- What the commands of a build are told to write is what the next stage looks for and its command
    links, and both links tell the program the name of the library that is linked. -/
structure NamesAgree (host : Host) (setup : Setup) (commands : StageCommands) : Prop where
  /-- Julia is told to write the object file. -/
  compiled : setup.resolved.stages.object = true →
    ["--output-o", setup.artifacts.objectFile] <:+: commands.compiling
  /-- The stage of the shared library looks for it. -/
  objectLookedFor : ∀ linker flags, LooksFor host setup.resolved
    ("Build shared library \"" ++ setup.artifacts.sharedLibrary ++ "\"") "object file"
    setup.artifacts.objectFile
    (Linker.linkShared linker (workshop setup.resolved) setup.artifacts flags
      setup.resolved.sharedInit)
  /-- The compiler links it: all of it if it is an archive. -/
  objectLinked : setup.resolved.stages.shared = true → ∃ object,
    objectArguments setup.rules setup.runtime setup.artifacts.objectFile = .ok object ∧
    setup.artifacts.objectFile ∈ object ∧ object <:+: commands.linkingLibrary
  /-- The compiler is told to write the shared library. -/
  libraryWritten : setup.resolved.stages.shared = true →
    ["-o", setup.artifacts.sharedLibrary] <:+: commands.linkingLibrary
  /-- The stage of the executable looks for it. -/
  libraryLookedFor : ∀ linker flags, LooksFor host setup.resolved
    ("Build executable \"" ++ setup.artifacts.executable ++ "\"") "shared library"
    setup.artifacts.sharedLibrary
    (Linker.linkExecutable linker (workshop setup.resolved) setup.artifacts
      setup.resolved.driverProgram flags)
  /-- The compiler links it with the driver program. -/
  libraryLinked : setup.resolved.stages.executable = true →
    [setup.resolved.driverProgram.toString, setup.artifacts.sharedLibrary] <:+: commands.linkingProgram
  /-- Both links define its name. -/
  libraryDefined :
    (setup.resolved.stages.shared = true →
      libraryDefinition setup.artifacts.sharedLibrary ∈ commands.linkingLibrary) ∧
    (setup.resolved.stages.executable = true →
      libraryDefinition setup.artifacts.sharedLibrary ∈ commands.linkingProgram)

/-- The arguments that link a compiled program hold its object file. -/
theorem mem_objectArguments {runtime : Runtime} {objectFile : String} {object : List String}
    (h : objectArguments rules runtime objectFile = .ok object) : objectFile ∈ object := by
  unfold objectArguments at h
  cases harchive : runtime.usesArchive with
  | error fault =>
      rw [harchive] at h
      cases h
  | ok archive =>
      rw [harchive] at h
      obtain rfl := Except.ok.inj h
      cases archive with
      | false => exact List.mem_singleton_self _
      | true =>
          show objectFile ∈ rules.wholeArchive objectFile
          unfold LinkRules.wholeArchive
          split <;> simp

theorem infix_compileCommand {base : BaseCommand} {runtime : Runtime}
    {program objectFile : String} {request : CompileRequest} {command : List String}
    (h : compileCommand base runtime program objectFile request = .ok command) :
    ["--output-o", objectFile] <:+: command := by
  unfold compileCommand at h
  cases hexpression : Julia.loadExpression program runtime with
  | error fault =>
      rw [hexpression] at h
      cases h
  | ok expression =>
      rw [hexpression] at h
      obtain rfl := Except.ok.inj h
      exact ⟨base.render request, ["-e", expression], by simp⟩

/-- The link of the shared library takes the object file and writes the library, whose name it
    defines. -/
theorem infix_sharedCommand {compiler : String} {runtime : Runtime} {artifacts : Artifacts}
    {flags : List String} {source : Option String} {command : List String}
    (h : sharedCommand compiler rules runtime artifacts flags source = .ok command) :
    (∃ object, objectArguments rules runtime artifacts.objectFile = .ok object ∧
      object <:+: command) ∧
    ["-o", artifacts.sharedLibrary] <:+: command ∧
    libraryDefinition artifacts.sharedLibrary ∈ command := by
  unfold sharedCommand at h
  cases hobject : objectArguments rules runtime artifacts.objectFile with
  | error fault =>
      rw [hobject] at h
      cases h
  | ok object =>
      rw [hobject] at h
      obtain rfl := Except.ok.inj h
      refine ⟨⟨object, rfl, ?_⟩, ?_, by simp⟩
      · simp only [List.append_assoc]
        exact List.infix_append' ..
      · exact ⟨[compiler, "-shared", libraryDefinition artifacts.sharedLibrary],
          object ++ (source.toList.filter (· ≠ "") ++ (flags ++
            rules.sharedFlags artifacts.sharedLibrary)), by simp⟩

/-- Commands that suit agree on the names of the products. -/
theorem namesAgree_of_suit {flags : List String} (hsuit : commands.Suit setup flags) :
    NamesAgree host setup commands := by
  refine ⟨fun hobject => ?_, fun _ _ => looksFor_linkShared _ _ _ _, fun hshared => ?_,
    fun hshared => ?_, fun _ _ => looksFor_linkExecutable _ _ _ _, fun hexecutable => ?_,
    fun hshared => ?_, fun hexecutable => ?_⟩
  · obtain ⟨base, -, -, hcommand⟩ := hsuit.compiling hobject
    exact infix_compileCommand hcommand
  · obtain ⟨compiler, -, hcommand⟩ := hsuit.linkingLibrary hshared
    obtain ⟨⟨object, hobject, hinfix⟩, -, -⟩ := infix_sharedCommand hcommand
    exact ⟨object, hobject, mem_objectArguments hobject, hinfix⟩
  · obtain ⟨compiler, -, hcommand⟩ := hsuit.linkingLibrary hshared
    exact (infix_sharedCommand hcommand).2.1
  · obtain ⟨compiler, -, hcommand⟩ := hsuit.linkingProgram hexecutable
    rw [hcommand]
    exact ⟨[compiler, libraryDefinition setup.artifacts.sharedLibrary, "-o",
      setup.artifacts.executable], flags ++ (setup.rules.executableFlags ++
        processorFlag setup.runtime), by simp [executableCommand]⟩
  · obtain ⟨compiler, -, hcommand⟩ := hsuit.linkingLibrary hshared
    exact (infix_sharedCommand hcommand).2.2
  · obtain ⟨compiler, -, hcommand⟩ := hsuit.linkingProgram hexecutable
    rw [hcommand]
    simp [executableCommand]

/-- What a build launched are the first ones of the launches of its stages, by commands that agree on the
    names of the products. -/
def LaunchesAgree (host : Host) (resolved : ResolvedConfiguration) (start after : World) : Prop :=
  ∃ commands : StageCommands, commands.Serve host resolved start.files ∧
    (∀ setup ∈ equipmentFound host resolved start.files, NamesAgree host setup commands) ∧
    ∃ part, part <+: resolved.stages.enabled.flatMap (commands.launches host resolved) ∧
      after.launches = start.launches ++ part

theorem launchesAgree_of_serve {start after : World} {part : List Launch}
    (hserve : commands.Serve host resolved start.files)
    (hpart : part <+: resolved.stages.enabled.flatMap (commands.launches host resolved))
    (hafter : after.launches = start.launches ++ part) : LaunchesAgree host resolved start after := by
  obtain ⟨flags, hsuit⟩ := id hserve
  exact ⟨commands, hserve, fun setup hsetup => namesAgree_of_suit (hsuit setup hsetup), part, hpart,
    hafter⟩

/-- There always are commands that serve a build. -/
theorem exists_serve (files : FileSystem) :
    ∃ commands : StageCommands, commands.Serve host resolved files := by
  cases htools : toolCheck host resolved (rulesOn host resolved) files with
  | error failure =>
      refine ⟨⟨none, none, [], [], []⟩, [], fun setup hsetup => ?_⟩
      simp [equipmentFound, htools, Except.toOption] at hsetup
  | ok runtime =>
      obtain ⟨commands, hsuit⟩ := exists_suit htools []
      refine ⟨commands, [], ?_⟩
      rwa [equipmentFound_of_toolCheck htools]

theorem launchesAgree_of_completed {start after : World} {result : BuildResult}
    (h : Completed host resolved start result after) : LaunchesAgree host resolved start after := by
  obtain ⟨-, ⟨commands, hserve, hlaunches⟩, -⟩ := h
  exact launchesAgree_of_serve hserve (List.prefix_refl _) hlaunches

theorem launchesAgree_of_stopped {start after : World} {failure : Failure}
    (h : Stopped host resolved start failure after) : LaunchesAgree host resolved start after := by
  rcases h with ⟨hstill, -⟩ | ⟨_, _, _, _, _, -, -, -, commands, hserve, _, -, hprefix, hlaunches⟩
  · obtain ⟨commands, hserve⟩ := exists_serve start.files
    exact launchesAgree_of_serve hserve List.nil_prefix (by simp [hstill.launches])
  · exact launchesAgree_of_serve hserve hprefix hlaunches

end Build

namespace Configuration

/-- With automatic dependencies or a full release no build fails by missing the object file or the
    shared library, provided that commands create what they are told to write: the commands that it
    launches agree on the names of these files with what its stages look for. -/
theorem build_finds_products (configuration : Configuration) (host : Host) (world : World)
    (hdepends : configuration.autoDeps = true ∨ configuration.fullRelease = true)
    (hcreates : host.CreatesOutputs) :
    Ends host configuration.build world
      (fun _ after => Build.LaunchesAgree host (configuration.on host) world after)
      (fun failure after =>
        (∀ what kind product,
          failure ≠ Build.missingProduct (configuration.on host) what kind product) ∧
        Build.LaunchesAgree host (configuration.on host) world after) := by
  unfold build
  rw [ends_bind, ends_now, ends_bind, ends_read]
  refine (Build.ends_runResolved_completed (.ticked world)).imp ?_ ?_
  · exact fun _ _ hcompleted => Build.launchesAgree_of_completed hcompleted
  · intro failure after hstopped
    have hnames : failure.NamesCommand := Build.namesCommand_of_stopped (isClosed_stages host hdepends)
      (Path.isAbsolute_join host.workingDirectory_isAbsolute _) hcreates hstopped
    exact ⟨Build.ne_missingProduct_of_namesCommand hnames, Build.launchesAgree_of_stopped hstopped⟩

/-- An executable is built with everything that it depends on. -/
theorem build_finds_products_of_app :
    let configuration : Configuration :=
      { program := Path.ofString "app.jl", executable := true, autoDeps := true }
    let host := Host.faithful Host.plainCommand fun _ => "built".toUTF8
    let world : World := { files := Host.projectFiles [(["app.jl"], "println(1)")] }
    host.CreatesOutputs ∧
      (configuration.build.value? host world).map (·.stagesRun) =
        some [.object, .shared, .executable] ∧
      Build.LaunchesAgree host (configuration.on host) world
        (configuration.build.runOn host world).2 := by
  intro configuration host world
  have hvalue : (configuration.build.value? host world).map (·.stagesRun) =
      some [.object, .shared, .executable] := by decide +kernel
  obtain ⟨result, hresult, -⟩ := Option.map_eq_some_iff.1 hvalue
  have hcreates : host.CreatesOutputs := Host.createsOutputs_faithful
  have hdepends : configuration.autoDeps = true ∨ configuration.fullRelease = true := .inl rfl
  have hagree : Build.LaunchesAgree host (configuration.on host) world
      (configuration.build.runOn host world).2 :=
    (build_finds_products configuration host _ hdepends hcreates).of_ok (runOn_of_value? hresult)
  exact ⟨hcreates, hvalue, hagree⟩

end Configuration
end JuliaNative
