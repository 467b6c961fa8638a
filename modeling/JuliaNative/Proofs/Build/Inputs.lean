import JuliaNative.Proofs.Build.Run
import JuliaNative.Proofs.Outputs
import Mathlib.Data.List.Infix

set_option autoImplicit false

/-! # What becomes of input files

Whether an input file survives a build is a matter of where it lies: nothing compares the build
directory, or the names of what is made there, with the inputs. A build takes an entry that was there
in one of four ways (`Build.Takes`): it cleans the build directory, writes a generated file, removes a
temporary entry or replaces an entry by a copy. Everything else that was there stays, as long as
commands write only what they are told to, and so do the inputs to which no such entry leads
(`Configuration.build_keeps_inputs`). -/

namespace JuliaNative

open JuliaNative.FileSystem JuliaNative.Action

/-- The commands of stages that were started from one world on to another. -/
def World.startedSince (before after : World) : List (List String) :=
  after.started.drop before.started.length

namespace Build

variable {host : Host} {resolved : ResolvedConfiguration} {before files changed : FileSystem}
  {commands more : List (List String)} {location : Location}

/-! ## Compiling and linking -/

/-- An entry is at the end of the path of a file that a command is told to write. -/
def IsOutput (resolved : ResolvedConfiguration) (files : FileSystem)
    (commands : List (List String)) (location : Location) : Prop :=
  ∃ command ∈ commands, ∃ name ∈ namedOutputs command.tail,
    files.target? (resolved.buildDir.child name) = some location

/-- An entry is at the end of the path of a file that the build generates. -/
def IsGenerated (resolved : ResolvedConfiguration) (files : FileSystem) (location : Location) :
    Prop :=
  ∃ name ∈ generated resolved, files.target? (resolved.buildDir.child name) = some location

instance : Decidable (IsOutput resolved files commands location) :=
  inferInstanceAs (Decidable (∃ command ∈ commands, ∃ name ∈ namedOutputs command.tail, _ = _))

instance : Decidable (IsGenerated resolved files location) :=
  inferInstanceAs (Decidable (∃ name ∈ generated resolved, _ = _))

/-- What compiling and linking has changed: outputs of the commands and generated files, but no
    directory and no link. -/
structure Written (resolved : ResolvedConfiguration) (before after : FileSystem)
    (commands : List (List String)) : Prop where
  routes : before.SameRoutes after
  changed : ∀ location, after.find? location ≠ before.find? location →
    IsOutput resolved before commands location ∨ IsGenerated resolved before location

theorem Written.refl : Written resolved before before [] :=
  ⟨.refl _, fun _ hne => absurd rfl hne⟩

theorem IsOutput.append (h : IsOutput resolved files commands location)
    (more : List (List String)) : IsOutput resolved files (commands ++ more) location := by
  obtain ⟨command, hcommand, hname⟩ := h
  exact ⟨command, List.mem_append_left _ hcommand, hname⟩

theorem Written.append (h : Written resolved before files commands) (more : List (List String)) :
    Written resolved before files (commands ++ more) :=
  ⟨h.routes, fun location hne => (h.changed location hne).imp_left (·.append more)⟩

/-- Running a command adds its outputs. -/
theorem Written.run (hwrites : host.WritesOnlyOutputs)
    (h : Written resolved before files commands) {command : List String}
    {environment : Option Environment}
    (hrun : (host.run command resolved.buildDir environment files).files? = some changed) :
    Written resolved before changed (commands ++ [command]) := by
  obtain ⟨hroutes, houtputs⟩ := hwrites _ _ _ _ _ hrun
  refine ⟨h.routes.trans hroutes, fun location hne => ?_⟩
  by_cases hsame : changed.find? location = files.find? location
  · rw [hsame] at hne
    exact (h.changed location hne).imp_left (·.append _)
  · obtain ⟨name, hname, htarget⟩ := houtputs location hsame
    -- no route has changed so far, so the output ends where it would have at the beginning
    rw [target?_congr h.routes] at htarget
    exact .inl ⟨command, List.mem_append_right _ (List.mem_singleton.2 rfl), name, hname, htarget⟩

/-- Writing a generated file adds it. -/
theorem Written.write (h : Written resolved before files commands) {name : String}
    (hname : name ∈ generated resolved) {file : File}
    (hwrite : files.write (resolved.buildDir.child name) file = .ok changed) :
    Written resolved before changed commands := by
  obtain ⟨target, htarget, -, hfind⟩ := find?_write hwrite
  refine ⟨h.routes.trans (sameRoutes_write hwrite), fun location hne => ?_⟩
  rw [hfind] at hne
  split at hne
  · next hsame =>
      rw [target?_congr h.routes] at htarget
      exact .inr ⟨name, hname, hsame ▸ htarget⟩
  · exact h.changed location hne

/-- What compiling and linking does not change: directories and links. -/
theorem Written.not_routeAt (h : Written resolved before files commands)
    (hne : files.find? location ≠ before.find? location) : ¬ before.RouteAt location := by
  rintro ⟨entry, hentry, hroute⟩
  exact hne ((h.routes.forth location entry hentry hroute).trans hentry.symm)

/-! ## Entries that a build takes -/

/-- A build takes an entry that was there when it began. -/
inductive Takes (host : Host) (resolved : ResolvedConfiguration) (files : FileSystem)
    (location : Location) : Prop
  /-- The build directory is removed with everything in it. -/
  | cleaned {directory : Location} (hselected : resolved.stages.clean = true)
    (hnames : files.Names resolved.buildDir directory) (hbelow : directory <:+ location)
  /-- A generated file is written over a file. -/
  | generated (hfile : ¬ files.RouteAt location)
    (hgenerated : IsGenerated resolved (prepared host resolved files) location)
  /-- An entry of the build directory is removed with everything in it for its temporary name. -/
  | removed {directory : Location} {name : String} (hselected : resolved.stages.removeTemp = true)
    (hname : isTemporary name = true)
    (hleads : (prepared host resolved files).LeadsTo resolved.buildDir directory)
    (hbelow : name :: directory <:+ location)
  /-- An entry of the build directory is replaced by a copy of a file of the same name. -/
  | replaced {directory : Location} {name : String}
    (hname : Supplies resolved (rulesOn host resolved) name)
    (hleads : (prepared host resolved files).LeadsTo resolved.buildDir directory)
    (hentry : files.find? location ≠ some .directory) (heq : location = name :: directory)

/-- Whether a build takes an entry can be computed: all directories that matter are those to which
    the path of the build directory leads. -/
instance : Decidable (Takes host resolved files location) :=
  decidable_of_iff
    ((resolved.stages.clean = true ∧
        ∃ directory ∈ files.named? resolved.buildDir, directory <:+ location) ∨
      (¬ files.RouteAt location ∧ IsGenerated resolved (prepared host resolved files) location) ∨
      (resolved.stages.removeTemp = true ∧
        ∃ directory ∈ (prepared host resolved files).reached? resolved.buildDir,
          ∃ outer ∈ location.tails, outer.tail = directory ∧
            ∃ name ∈ outer.head?, isTemporary name = true) ∨
      (files.find? location ≠ some .directory ∧
        ∃ directory ∈ (prepared host resolved files).reached? resolved.buildDir,
          location.tail = directory ∧
            ∃ name ∈ location.head?, Supplies resolved (rulesOn host resolved) name)) <| by
    constructor
    · rintro (⟨hselected, directory, hnames, hbelow⟩ | ⟨hfile, hgenerated⟩ |
        ⟨hselected, directory, hleads, outer, houter, rfl, name, hhead, hname⟩ |
        ⟨hentry, directory, hleads, rfl, name, hhead, hname⟩)
      · exact .cleaned hselected (named?_eq_some_iff.1 hnames) hbelow
      · exact .generated hfile hgenerated
      · refine .removed hselected hname (reached?_eq_some_iff.1 hleads) ?_
        rw [List.cons_head?_tail hhead]
        exact (List.mem_tails _ _).1 houter
      · exact .replaced hname (reached?_eq_some_iff.1 hleads) hentry (List.cons_head?_tail hhead).symm
    · rintro (⟨hselected, hnames, hbelow⟩ | ⟨hfile, hgenerated⟩ |
        ⟨hselected, hname, hleads, hbelow⟩ | ⟨hname, hleads, hentry, rfl⟩)
      · exact .inl ⟨hselected, _, named?_eq_some_iff.2 hnames, hbelow⟩
      · exact .inr (.inl ⟨hfile, hgenerated⟩)
      · exact .inr (.inr (.inl ⟨hselected, _, reached?_eq_some_iff.2 hleads, _,
          (List.mem_tails _ _).2 hbelow, rfl, _, rfl, hname⟩))
      · exact .inr (.inr (.inr ⟨hentry, _, reached?_eq_some_iff.2 hleads, rfl, _, rfl, hname⟩))

theorem takes_of_cleaned (hne : (cleaned host resolved files).find? location ≠ files.find? location) :
    Takes host resolved files location := by
  unfold cleaned Stager.cleaned at hne
  split at hne
  · next hselected =>
      split at hne
      · obtain ⟨-, directory, hnames, hbelow⟩ := find?_removeTree hne
        exact .cleaned hselected hnames hbelow
      · exact absurd rfl hne
  · exact absurd rfl hne

/-- Making the build directory takes nothing. -/
theorem takes_of_prepared (hthere : files.find? location ≠ none)
    (hne : (prepared host resolved files).find? location ≠ files.find? location) :
    Takes host resolved files location := by
  by_cases hclean : (cleaned host resolved files).find? location = files.find? location
  · refine absurd ?_ hne
    unfold prepared Stager.withBuildDir
    split
    · exact hclean
    · rw [find?_makeDirectories _ _ (hclean ▸ hthere), hclean]
  · exact takes_of_cleaned hclean

theorem takes_of_written (hthere : files.find? location ≠ none)
    (hwritten : Written resolved (prepared host resolved files) changed commands)
    (hne : changed.find? location ≠ files.find? location) :
    Takes host resolved files location ∨
      (¬ files.RouteAt location ∧
        IsOutput resolved (prepared host resolved files) commands location) := by
  by_cases hsame : (prepared host resolved files).find? location = files.find? location
  · rw [← hsame] at hne
    have hfile : ¬ files.RouteAt location := by
      have hroute := hwritten.not_routeAt hne
      unfold RouteAt at hroute ⊢
      rwa [hsame] at hroute
    rcases hwritten.changed location hne with houtput | hgenerated
    · exact .inr ⟨hfile, houtput⟩
    · exact .inl (.generated hfile hgenerated)
  · exact .inl (takes_of_prepared hthere hsame)

/-- The files and the commands that compiling and linking leads to. -/
def WrittenSince (host : Host) (resolved : ResolvedConfiguration) (world : World)
    (files : FileSystem) (started : List (List String)) : Prop :=
  ∃ commands, started = world.started ++ commands ∧
    Written resolved (prepared host resolved world.files) files commands

/-- Whatever entry that was there is changed when a build ends, the build took it, or a command wrote
    it. -/
theorem takes_of_reached {world after : World}
    (h : Reached host resolved (WrittenSince host resolved world) world after)
    (hthere : world.files.find? location ≠ none)
    (hne : after.files.find? location ≠ world.files.find? location) :
    Takes host resolved world.files location ∨
      (¬ world.files.RouteAt location ∧
        IsOutput resolved (prepared host resolved world.files) (world.startedSince after) location) := by
  have hsince : ∀ {commands}, after.started = world.started ++ commands →
      world.startedSince after = commands := by
    intro commands heq
    simp [World.startedSince, heq]
  cases h with
  | untouched h => exact absurd (by rw [h.files]) hne
  | cleaned hfiles _ => exact .inl (takes_of_cleaned (hfiles ▸ hne))
  | prepared hfiles _ => exact .inl (takes_of_prepared hthere (hfiles ▸ hne))
  | produced h =>
      obtain ⟨commands, hstarted, hwritten⟩ := h
      rw [hsince hstarted]
      exact takes_of_written hthere hwritten hne
  | tidied h hafter htidied =>
      next mid removed copied =>
      obtain ⟨commands, hstarted, hwritten⟩ := h
      rw [hsince (hafter.trans hstarted)]
      by_cases hmid : mid.files.find? location = world.files.find? location
      · rw [← hmid] at hthere hne
        obtain ⟨directory, hleads, hcase⟩ := htidied.kept location hthere hne
        have hbefore := hleads.of_routesIn hwritten.routes.back
        rcases hcase with ⟨name, hname, hbelow⟩ | ⟨hentry, name, hname, heq⟩
        · obtain ⟨hselected, htemporary⟩ := htidied.temporary name hname
          exact .inl (.removed hselected htemporary hbefore hbelow)
        · exact .inl (.replaced (htidied.supplied name hname) hbefore (hmid ▸ hentry) heq)
      · exact takes_of_written hthere hwritten hmid

end Build

/-! ## The inputs of a build -/

namespace Configuration

variable {configuration : Configuration} {host : Host} {world : World}

/-- Where commands write only what they are told to, what compiling and linking changes are outputs
    and generated files. -/
theorem reached_of_writesOnlyOutputs (configuration : Configuration) (world : World)
    (hwrites : host.WritesOnlyOutputs) :
    Build.Reached host (configuration.on host)
      (Build.WrittenSince host (configuration.on host) world) world
      (configuration.build.runOn host world).2 := by
  have hcommands : KeptByCommands host (configuration.on host).buildDir
      (Build.WrittenSince host (configuration.on host) world) := by
    refine ⟨?_, ?_⟩
    · rintro files _ command ⟨commands, rfl, hwritten⟩
      exact ⟨commands ++ [command], List.append_assoc .., hwritten.append _⟩
    · rintro files _ command environment changed ⟨commands, rfl, hwritten⟩ hrun
      exact ⟨commands ++ [command], List.append_assoc .., hwritten.run hwrites hrun⟩
  have hgenerated : ∀ name ∈ Build.generated (configuration.on host), ∀ content,
      Keeps host (Build.WrittenSince host (configuration.on host) world)
        ((Build.workshop (configuration.on host)).stager.writeText name content) := by
    intro name hname content
    refine Stager.keeps_writeText ?_
    rintro files _ changed ⟨commands, rfl, hwritten⟩ hwrite
    exact ⟨commands, rfl, hwritten.write hname hwrite⟩
  exact ((ends_build hcommands hgenerated ⟨[], by simp, .refl⟩).imp (fun _ _ h => h)
    (fun _ _ h => h.2)).after

/-- Where commands write only what they are told to, and that is not an input, an input file is still
    there with its content when the build ends, unless the build takes its entry; and its path still
    leads to it, unless the build takes an entry on the way. -/
theorem build_keeps_inputs (hwrites : host.WritesOnlyOutputs) :
    ∀ input ∈ (configuration.on host).inputs, ∀ file, world.files.read input = .ok file →
      (∀ location, world.files.target? input = some location →
        ¬ Build.IsOutput (configuration.on host)
          (Build.prepared host (configuration.on host) world.files)
          (world.startedSince (configuration.build.runOn host world).2) location) →
      (∀ location, world.files.target? input = some location →
        ¬ Build.Takes host (configuration.on host) world.files location →
        (configuration.build.runOn host world).2.files.find? location = some (.file file)) ∧
      ((∀ location ∈ world.files.way input,
          ¬ Build.Takes host (configuration.on host) world.files location) →
        (configuration.build.runOn host world).2.files.read input = .ok file) := by
  intro input _ file hread hnamed
  obtain ⟨target, hlocate, hfile⟩ := read_eq_ok_iff.1 hread
  have hreached := reached_of_writesOnlyOutputs configuration world hwrites
  have hkept : ∀ location ∈ world.files.way input,
      ¬ Build.Takes host (configuration.on host) world.files location →
      (configuration.build.runOn host world).2.files.find? location =
        world.files.find? location := by
    intro location hmem hfree
    -- an entry on the way that is no longer the same was taken, or is an output: the input itself
    refine Decidable.byContradiction fun hne => ?_
    rcases Build.takes_of_reached hreached (find?_ne_none_of_read hread hmem) hne with
      htaken | ⟨hroute, houtput⟩
    · exact hfree htaken
    · exact hnamed location (target?_of_mem_way hlocate hmem hroute) houtput
  refine ⟨fun location htarget hfree => ?_, fun hfree => ?_⟩
  · obtain rfl : target = location := Option.some.inj ((target?_of_locate hlocate).symm.trans htarget)
    rw [hkept target (mem_way_of_locate hlocate) hfree, hfile]
  · exact read_congr hread fun location hmem => hkept location hmem (hfree location hmem)

/-- A project that is built in its own directory, with every kind of stage but cleaning, keeps its
    program. -/
theorem build_keeps_program_of_project :
    ((({ program := Path.ofString "app.jl", buildDir := some (Path.ofString "."), executable := true,
          autoDeps := true, sharedInit := true, removeTemp := true,
          copyFiles := some [Path.ofString "app.jl"] } : Configuration).build.runOn
        (Host.obedient Host.plainCommand fun _ => "built".toUTF8)
        { files := Host.projectFiles [(["app.jl"], "println(1)")] }).2.files.read
        (Path.ofString "/work/app.jl")) = .ok ⟨"println(1)".toUTF8, .at 0⟩ :=
  (build_keeps_inputs Host.writesOnlyOutputs_obedient (Path.ofString "/work/app.jl")
    (by decide +kernel) ⟨"println(1)".toUTF8, .at 0⟩ (by decide +kernel) (by decide +kernel)).2
    (by decide +kernel)

/-- A build loses an input, although no command is told to write it: the input was a file when the
    build began, and is none or another one when it ends. -/
def LosesInput (configuration : Configuration) (host : Host) (files : FileSystem) (input : Path) :
    Prop :=
  let after := (configuration.build.runOn host { files }).2
  input ∈ (configuration.on host).inputs ∧ files.isFile input = true ∧
    after.files.lookup? input ≠ files.lookup? input ∧
    ∀ location ∈ files.target? input, ¬ Build.IsOutput (configuration.on host)
      (Build.prepared host (configuration.on host) files)
      (World.startedSince { files } after) location

instance (configuration : Configuration) (host : Host) (files : FileSystem) (input : Path) :
    Decidable (configuration.LosesInput host files input) :=
  inferInstanceAs (Decidable (_ ∧ _ ∧ _ ∧ _))

/-- Inputs in the build directory are lost in each of the four ways: to cleaning, to both generated
    files, to the removal of temporary files, and to a copy of the same name. -/
theorem inputs_lost_in_build_directory :
    let host := Host.obedient Host.plainCommand fun _ => "built".toUTF8
    host.WritesOnlyOutputs ∧
    ({ program := Path.ofString "builddir/app.jl", clean := true } : Configuration).LosesInput host
      (Host.projectFiles [(["app.jl", "builddir"], "println(1)")])
      (Path.ofString "/work/builddir/app.jl") ∧
    ({ program := Path.ofString "builddir/julia_main.jl", snoopFile := some (Path.ofString "app.jl"),
       object := true } : Configuration).LosesInput host
      (Host.projectFiles [(["julia_main.jl", "builddir"], "println(1)"), (["app.jl"], "1")])
      (Path.ofString "/work/builddir/julia_main.jl") ∧
    ({ program := Path.ofString "app.jl", driverProgram := some (Path.ofString "builddir/lib_init.c"),
       executable := true, autoDeps := true, sharedInit := true } : Configuration).LosesInput host
      (Host.projectFiles [(["lib_init.c", "builddir"], "int main(void);"), (["app.jl"], "1")])
      (Path.ofString "/work/builddir/lib_init.c") ∧
    ({ program := Path.ofString "builddir/app.o", removeTemp := true } : Configuration).LosesInput
      host (Host.projectFiles [(["app.o", "builddir"], "println(1)")])
      (Path.ofString "/work/builddir/app.o") ∧
    ({ program := Path.ofString "builddir/app.jl", copyFiles := some [Path.ofString "app.jl"] } :
        Configuration).LosesInput host
      (Host.projectFiles [(["app.jl", "builddir"], "println(1)"), (["app.jl"], "1")])
      (Path.ofString "/work/builddir/app.jl") :=
  ⟨Host.writesOnlyOutputs_obedient, by decide +kernel⟩

end Configuration
end JuliaNative
