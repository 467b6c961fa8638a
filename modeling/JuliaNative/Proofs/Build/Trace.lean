import JuliaNative.Proofs.Build.Escapes
import JuliaNative.Proofs.Build.SameStages
import JuliaNative.Proofs.Outputs

set_option autoImplicit false

/-! # Which trace is used

The main script replays what stands at the path of the trace when the command that traces the script has
ended, whoever wrote it. So the build stops for want of a trace exactly if nothing stands there by then,
and the script holds the statements of the file that does (`Workshop.ends_prepareMain`). A command that
ends well without touching that path leaves the decision to an earlier run: what that one left behind is
taken for the trace (`Build.objectStage_after_trace`). -/

namespace JuliaNative

open JuliaNative.FileSystem JuliaNative.Action

variable {host : Host} {world : World} {files changed : FileSystem}

namespace Workshop

variable {workshop : Workshop} {julia : String} {script program : Path} {command : List String}

/-! ## Traces in files -/

/-- The failure of a build that finds no trace after the command that was to write one. -/
def noTrace (command : List String) : Failure :=
  .error (.stage {
    task := .compilation
    description := "Snoop run did not produce " ++ traceName
    command })

/-- Nothing stands where a trace is expected. -/
def LacksTrace (host : Host) (workshop : Workshop) (files : FileSystem) : Prop :=
  host.cannotSee files (workshop.buildDir.entry traceName) = false ∧
    host.sees files (workshop.buildDir.entry traceName) = none

/-- The text that stands where a trace is expected. -/
def traceIn? (workshop : Workshop) (files : FileSystem) : Option String :=
  match files.read (workshop.buildDir.entry traceName) with
  | .error _ => none
  | .ok file =>
    match Text.decode file.content with
    | .error _ => none
    | .ok text => some (String.ofList (Text.unifyLineEnds text.toList))

/-- The file that is written for a trace: the script that includes a program and replays the trace. -/
def mainFile (host : Host) (workshop : Workshop) (program : Path) (trace : String) : File :=
  let source := Path.relativeTo host.workingDirectory program workshop.buildDir
  ⟨(Julia.mainScript source trace).toUTF8, .now⟩

/-- What stands where a trace is expected does not change with entries that are not on the way there. -/
theorem trace_congr (habsolute : workshop.buildDir.isAbsolute = true)
    (h : ∀ location ∈ files.way (workshop.buildDir.entry traceName),
      changed.find? location = files.find? location) :
    (workshop.LacksTrace host changed ↔ workshop.LacksTrace host files) ∧
      workshop.traceIn? changed = workshop.traceIn? files := by
  have hthere : host.workingDirectory.join (workshop.buildDir.entry traceName) =
      workshop.buildDir.entry traceName := by
    rw [Path.join, if_pos (by exact habsolute)]
  have hlocate : changed.locate (workshop.buildDir.entry traceName) =
      files.locate (workshop.buildDir.entry traceName) := locate_congr h
  constructor
  · unfold LacksTrace Host.cannotSee Host.sees
    rw [hthere, hlocate, lookup?_congr h]
  · have hread : changed.read (workshop.buildDir.entry traceName) =
        files.read (workshop.buildDir.entry traceName) := by
      unfold FileSystem.read
      rw [hlocate]
      split
      · rfl
      · rfl
      · next location hplace => rw [h location (mem_way_of_locate hplace)]
    unfold traceIn?
    rw [hread]

/-! ## Reading the trace -/

/-- Reading the trace fails for want of one exactly if nothing stands there. -/
theorem ends_readTrace :
    Ends host (workshop.readTrace command) world
      (fun trace after => after = world ∧ ¬ workshop.LacksTrace host world.files ∧
        workshop.traceIn? world.files = some trace)
      (fun failure _ => failure = noTrace command ↔ workshop.LacksTrace host world.files) := by
  unfold readTrace LacksTrace traceIn?
  rw [ends_bind, ends_has]
  split
  · next hlong => simp [noTrace, hlong]
  · next hshort =>
      rw [ends_ite]
      split
      · next hsees =>
          have hthere : host.sees world.files (workshop.buildDir.entry traceName) ≠ none := by
            intro hnone
            simp [hnone] at hsees
          rw [ends_bind, ends_files]
          split
          · next file hread =>
              rw [ends_bind, ends_ofExcept]
              split
              · next text hdecode =>
                  exact ⟨rfl, fun hlacks => hthere hlacks.2, by rw [hread]; simp [hdecode]⟩
              · simp [noTrace, hthere]
          · simp [noTrace, hthere]
      · next hnone =>
          rw [ends_fail]
          exact iff_of_true rfl ⟨by simpa using hshort, by simpa using hnone⟩

/-- Once the command that traces a script has ended well, the main script is made of what it leaves at the
    path of the trace; that nothing is there is the one reason to fail for want of a trace. -/
theorem ends_prepareMain
    (hfinishes : host.Finishes (traceCommand julia script.toString) workshop.buildDir none world.files
      changed) :
    Ends host (workshop.prepareMain julia script program) world
      (fun main after => ¬ workshop.LacksTrace host changed ∧
        ∃ trace, workshop.traceIn? changed = some trace ∧
          after.files.read main = .ok (workshop.mainFile host program trace))
      (fun failure _ => failure = noTrace (traceCommand julia script.toString) ↔
        workshop.LacksTrace host changed) := by
  let what := "Snoop \"" ++ script.name ++ "\""
  have hruns : ∃ mid, Returns host (workshop.perform .compilation what
      (traceCommand julia script.toString) none what) world () mid ∧ mid.files = changed :=
    exists_returns_perform hfinishes
  obtain ⟨mid, hperform, rfl⟩ := hruns
  unfold prepareMain
  rw [trace_eq, ends_bind, ends_bind]
  refine (returns_iff_ends.1 hperform).imp ?_ (fun _ _ h => h.elim)
  intro _ after hafter
  obtain ⟨-, rfl⟩ := hafter
  refine ends_readTrace.imp ?_ (fun _ _ h => h)
  intro trace last hlast
  obtain ⟨rfl, hthere, htrace⟩ := hlast
  unfold Stager.writeText
  simp only [ends_bind, ends_read, ends_refuseNull, ends_files]
  split
  · simp [noTrace, hthere]
  · split
    · next written hwrite => exact ⟨hthere, trace, htrace, read_write hwrite⟩
    · simp [noTrace, hthere]

end Workshop

/-! ## The object stage -/

namespace Build

open Workshop

variable {setup : Setup} {julia : String} {script : Path}

/-- The object stage of a build traces a script with julia before it compiles. -/
structure Traces (setup : Setup) (julia : String) (script : Path) : Prop where
  selected : setup.resolved.stages.object = true
  script : setup.resolved.snoopFile = some script
  julia : programOf setup.resolved.julia = .ok julia

/-- The object stage fails as preparing the main script does. -/
theorem Traces.failure?_objectStage {failure : Failure} {result : BuildResult}
    (h : Traces setup julia script)
    (hfails : ((workshop setup.resolved).prepareMain julia script setup.resolved.program).failure? host
      world = some failure) :
    (objectStage setup result).failure? host world = some failure := by
  rw [failure?_eq_some_iff_ends] at hfails ⊢
  have hsource : Ends host (sourceProgram setup) world (fun _ _ => False)
      (fun other _ => other = failure) := by
    unfold sourceProgram
    rw [h.script]
    simp only [ends_bind]
    refine (returns_iff_ends.1 (returns_requireProgram h.julia)).imp ?_ (fun _ _ h => h.elim)
    intro name after hafter
    obtain ⟨rfl, rfl⟩ := hafter
    exact hfails
  have hselected : setup.resolved.stages.selects .object = true := h.selected
  unfold objectStage stage
  rw [if_pos hselected]
  simp only [ends_bind, compileProgram_eq]
  exact hsource.imp (fun _ _ h => h.elim) (fun _ _ h => h)

/-- When the command that traces the script has ended well, preparing the main script, and with it the
    object stage, fails for want of a trace if nothing stands at the path of the trace; otherwise the
    script is made of the file there. If the command left alone what is on the way to that path, this is
    what stood there before it was started. -/
theorem objectStage_after_trace (result : BuildResult) (htraces : Traces setup julia script)
    (habsolute : setup.resolved.buildDir.isAbsolute = true)
    (hfinishes : host.Finishes (traceCommand julia script.toString) setup.resolved.buildDir none
      world.files changed) :
    let here := workshop setup.resolved
    let prepare := here.prepareMain julia script setup.resolved.program
    let failure := noTrace (traceCommand julia script.toString)
    (prepare.failure? host world = some failure ↔ here.LacksTrace host changed) ∧
      (here.LacksTrace host changed →
        (objectStage setup result).failure? host world = some failure) ∧
      (∀ main after, Returns host prepare world main after →
        ∃ trace, here.traceIn? changed = some trace ∧
          after.files.read main = .ok (here.mainFile host setup.resolved.program trace)) ∧
      ((∀ location ∈ world.files.way (setup.resolved.buildDir.entry traceName),
          changed.find? location = world.files.find? location) →
        (here.LacksTrace host changed ↔ here.LacksTrace host world.files) ∧
          here.traceIn? changed = here.traceIn? world.files) := by
  intro here prepare failure
  have hends : Ends host prepare world _ _ := ends_prepareMain hfinishes
  have hfails : prepare.failure? host world = some failure ↔ here.LacksTrace host changed :=
    failure?_eq_some_iff_of_ends (hends.imp (fun _ _ h => h.1) (fun _ _ h => h))
  refine ⟨hfails, ?_, ?_, ?_⟩
  · intro hlacks
    exact htraces.failure?_objectStage (hfails.2 hlacks)
  · intro main after hreturns
    exact (hends.of_returns hreturns).2
  · intro hway
    have hbuildDir : here.buildDir.isAbsolute = true := habsolute
    exact trace_congr hbuildDir hway

/-- A trace that an earlier build left is used where the command ends well and writes none: the main script
    replays its statement. -/
theorem objectStage_after_trace_left_over :
    let host : Host :=
      { Host.obedient Host.plainCommand fun _ => ByteArray.empty with
        run := fun _ _ _ files => .finished {} files }
    let world : World :=
      { files := Host.projectFiles [(["app.jl"], "1"), (["snoop.jl"], "1"),
          (["precompiled.jl", "builddir"], "precompile(old)\n")] }
    let configuration : Configuration :=
      { program := ⟨.current, ["app.jl"]⟩, snoopFile := some ⟨.current, ["snoop.jl"]⟩, object := true }
    let resolved := configuration.resolve host.workingDirectory host.bundledDriver
    let main : Path := ⟨.root, ["work", "builddir", "julia_main.jl"]⟩
    let prepare := (workshop resolved).prepareMain "julia" ⟨.root, ["work", "snoop.jl"]⟩ resolved.program
    let statements := "include(\"../app.jl\")\ntry; precompile(old); catch; end\n"
    host.Finishes (traceCommand "julia" "/work/snoop.jl") resolved.buildDir none world.files world.files ∧
      ∃ after, Returns host prepare world main after ∧
        after.files.read main = .ok ⟨statements.toUTF8, .now⟩ := by
  intro host world configuration resolved main prepare statements
  let setup : Setup :=
    { resolved, rules := ⟨.linux, none⟩, runtime := Host.plainRuntime,
      artifacts := ⟨"app.a", "app.so", "app", initSourceName⟩ }
  have htraces : Traces setup "julia" ⟨.root, ["work", "snoop.jl"]⟩ :=
    ⟨by decide +kernel, by decide +kernel, rfl⟩
  have hfinishes : host.Finishes (traceCommand "julia" "/work/snoop.jl") resolved.buildDir none
      world.files world.files := ⟨{}, rfl, rfl⟩
  have hreturns : Returns host prepare world main _ := runOn_of_value? (by decide +kernel)
  obtain ⟨trace, htrace, hread⟩ := (objectStage_after_trace { buildDir := resolved.buildDir } htraces
    (by decide +kernel) hfinishes).2.2.1 main _ hreturns
  have hleft : (workshop resolved).traceIn? world.files = some "precompile(old)\n" := by decide +kernel
  cases htrace.symm.trans hleft
  exact ⟨hfinishes, _, hreturns, hread.trans (congrArg Except.ok (by decide +kernel))⟩

end Build
end JuliaNative
