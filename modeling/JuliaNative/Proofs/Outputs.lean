import JuliaNative.Commands
import JuliaNative.Proofs.FileSystem.Change
import JuliaNative.Proofs.Tools

set_option autoImplicit false

/-! # What commands write

The commands of a build are told on their command lines which files to write. Assumptions about the
commands of a host come from that: they write nothing else (`Host.WritesOnlyOutputs`), a compiler that
links and succeeds has written what it was told to (`Host.WritesLinked`), and so has julia when it
compiles (`Host.CreatesOutputs`). They hold on hosts that follow their command lines to the letter
(`Host.obedient`, `Host.faithful`). -/

namespace JuliaNative

open JuliaNative.FileSystem

/-! ## Named outputs -/

/-- The name that an argument gives to a trace, if it asks for one. -/
def tracedNames (argument : String) : List String :=
  if startsWith argument traceOption then
    [String.ofList (argument.toList.drop traceOption.toList.length)]
  else []

/-- The names of the files that the arguments of a command tell it to write. -/
def namedOutputs : List String → List String
  | [] => []
  | argument :: rest =>
    (if argument = "-o" ∨ argument = "--output-o" then rest.head?.toList
      else tracedNames argument) ++ namedOutputs rest

/-- A command that links, and the name of the file that it is told to write. -/
inductive LinksInto : List String → String → Prop
  | shared {compiler : String} {rules : LinkRules} {runtime : Runtime} {artifacts : Artifacts}
    {flags : List String} {initSource : Option String} {command : List String}
    (h : sharedCommand compiler rules runtime artifacts flags initSource = .ok command) :
    LinksInto command artifacts.sharedLibrary
  | executable (compiler : String) (rules : LinkRules) (runtime : Runtime) (artifacts : Artifacts)
    (driver : String) (flags : List String) :
    LinksInto (executableCommand compiler rules runtime artifacts driver flags) artifacts.executable

/-- A command that compiles, and the name of the file that it is told to write. -/
inductive CompilesInto : List String → String → Prop
  | intro {reported : List String} {base : BaseCommand} {runtime : Runtime}
    {program objectFile : String} {request : CompileRequest} {command : List String}
    (hbase : BaseCommand.ofList? reported = some base)
    (h : compileCommand base runtime program objectFile request = .ok command) :
    CompilesInto command objectFile

/-- The definition of the library's name tells a compiler to write nothing. -/
theorem namedOutputs_libraryDefinition (library : String) (rest : List String) :
    namedOutputs (libraryDefinition library :: rest) = namedOutputs rest := by
  -- the second character tells it apart from every option that names a file
  have hsecond : (libraryDefinition library).toList[1]? = some 'D' := by
    unfold libraryDefinition
    rw [String.append_assoc, String.toList_append]
    rw [List.getElem?_append_left (by decide +kernel)]
    decide +kernel
  have hother : ∀ text : String, text.toList[1]? ≠ some 'D' → libraryDefinition library ≠ text := by
    rintro _ htext rfl
    exact htext hsecond
  have htrace : startsWith (libraryDefinition library) traceOption = false := by
    rw [startsWith, ← Bool.not_eq_true, List.isPrefixOf_iff_prefix]
    rintro ⟨more, hmore⟩
    rw [← hmore, List.getElem?_append_left (by decide +kernel)] at hsecond
    revert hsecond
    decide +kernel
  rw [namedOutputs, if_neg, tracedNames, htrace]
  · rfl
  · rintro (h | h)
    · exact hother "-o" (by decide +kernel) h
    · exact hother "--output-o" (by decide +kernel) h

/-- The first file that a command is told to write is the one into which it links. -/
theorem head_namedOutputs_of_linksInto {command : List String} {name : String}
    (h : LinksInto command name) : (namedOutputs command.tail).head? = some name := by
  cases h with
  | @shared compiler rules runtime artifacts flags initSource _ h =>
      unfold sharedCommand at h
      cases hobject : objectArguments rules runtime artifacts.objectFile with
      | error fault =>
          rw [hobject] at h
          cases h
      | ok object =>
          rw [hobject] at h
          obtain rfl := Except.ok.inj h
          have hshared : ∀ rest, namedOutputs ("-shared" :: rest) = namedOutputs rest :=
            fun rest => rfl
          simp only [List.cons_append, List.tail_cons, hshared, namedOutputs_libraryDefinition]
          rfl
  | executable compiler rules runtime artifacts driver flags =>
      simp only [executableCommand, List.cons_append, List.tail_cons,
        namedOutputs_libraryDefinition]
      rfl

/-- The start of an argument tells it apart from the options that name files. -/
def NamesNoFile (start : String) : Prop :=
  ¬ start.toList <+: "-o".toList ∧ ¬ start.toList <+: "--output-o".toList ∧
    ¬ start.toList <+: traceOption.toList ∧ ¬ traceOption.toList <+: start.toList

instance (start : String) : Decidable (NamesNoFile start) :=
  inferInstanceAs (Decidable (_ ∧ _))

/-- Arguments that start otherwise than the options that name files tell a command to write nothing. -/
theorem namedOutputs_append {arguments : List String} (rest : List String)
    (h : ∀ argument ∈ arguments, ∃ start, NamesNoFile start ∧
      start.toList <+: argument.toList) : namedOutputs (arguments ++ rest) = namedOutputs rest := by
  induction arguments with
  | nil => rfl
  | cons argument more ih =>
      obtain ⟨start, ⟨hshort, hlong, htrace, hstart⟩, hprefix⟩ := h argument (List.mem_cons_self ..)
      have hnone : tracedNames argument = [] := by
        have hother : startsWith argument traceOption = false := by
          rw [startsWith, ← Bool.not_eq_true, List.isPrefixOf_iff_prefix]
          intro hargument
          rcases List.prefix_or_prefix_of_prefix hprefix hargument with hsame | hsame
          · exact htrace hsame
          · exact hstart hsame
        rw [tracedNames, hother]
        rfl
      rw [List.cons_append, namedOutputs, if_neg, hnone, List.nil_append]
      · exact ih fun other hother => h other (List.mem_cons_of_mem _ hother)
      · rintro (rfl | rfl)
        · exact hshort hprefix
        · exact hlong hprefix

theorem namesNoFile_of_appended {request : CompileRequest} {option : String × Option String}
    (hmem : option ∈ request.appended) : NamesNoFile option.1 := by
  have hall : ∀ start ∈ request.appended.map Prod.fst, NamesNoFile start := by
    rw [show request.appended.map Prod.fst = ["--precompiled=", "--compilecache=", "-H=",
      "--startup-file=", "--handle-signals=", "-O", "-g", "--inline=", "--check-bounds=",
      "--math-mode="] from rfl]
    decide +kernel
  exact hall option.1 (List.mem_map_of_mem hmem)

/-- What a command of julia's own shape is asked to do, it is asked without naming a file to write. -/
theorem exists_start_of_render {reported : List String} {base : BaseCommand}
    {request : CompileRequest} (hbase : BaseCommand.ofList? reported = some base) :
    ∀ argument ∈ (base.render request).tail, ∃ start, NamesNoFile start ∧
      start.toList <+: argument.toList := by
  have hslot : ∀ (start written : String) (choice : Option String) (given : String),
      start.toList <+: written.toList → startsWith given start = true →
      start.toList <+: ((choice.map (written ++ ·)).getD given).toList := by
    intro start written choice given hwritten hgiven
    cases choice with
    | none => exact List.isPrefixOf_iff_prefix.1 hgiven
    | some value =>
        rw [Option.map_some, Option.getD_some, String.toList_append]
        exact hwritten.trans (List.prefix_append _ _)
  unfold BaseCommand.ofList? at hbase
  split at hbase
  · split at hbase
    · next hshape =>
        obtain rfl := Option.some.inj hbase
        simp only [Bool.and_eq_true] at hshape
        obtain ⟨⟨⟨hprocessor, himage⟩, hcompilation⟩, hwarnings⟩ := hshape
        intro argument hmem
        simp only [BaseCommand.render, BaseCommand.toList, BaseCommand.override, List.cons_append,
          List.tail_cons, List.nil_append, List.mem_cons] at hmem
        rcases hmem with rfl | rfl | rfl | rfl | hmem
        · exact ⟨"-C", by decide +kernel, hslot _ _ _ _ (by decide +kernel) hprocessor⟩
        · exact ⟨"-J", by decide +kernel, hslot _ _ _ _ (by decide +kernel) himage⟩
        · exact ⟨"--compile", by decide +kernel, hslot _ _ _ _ (by decide +kernel) hcompilation⟩
        · exact ⟨"--depwarn", by decide +kernel, hslot _ _ _ _ (by decide +kernel) hwarnings⟩
        · obtain ⟨option, hoption, hargument⟩ := List.mem_filterMap.1 hmem
          obtain ⟨value, -, rfl⟩ := Option.map_eq_some_iff.1 hargument
          refine ⟨option.1, namesNoFile_of_appended hoption, ?_⟩
          rw [String.toList_append]
          exact List.prefix_append _ _
    · cases hbase
  · cases hbase

/-- The first file that a command is told to write is the one into which it compiles. -/
theorem head_namedOutputs_of_compilesInto {command : List String} {name : String}
    (h : CompilesInto command name) : (namedOutputs command.tail).head? = some name := by
  cases h with
  | @intro _ base runtime program _ request _ hbase h =>
      unfold compileCommand at h
      cases hexpression : Julia.loadExpression program runtime with
      | error fault =>
          rw [hexpression] at h
          cases h
      | ok expression =>
          rw [hexpression] at h
          obtain rfl := Except.ok.inj h
          have htail : (base.render request ++ ["--output-o", name, "-e", expression]).tail =
              (base.render request).tail ++ ["--output-o", name, "-e", expression] := rfl
          rw [htail, namedOutputs_append _ (exists_start_of_render hbase)]
          rfl

/-! ## Assumptions about commands -/

namespace Host

/-- Commands change no more than the files that they are told to write, seen from the directory in
    which they run: whatever entry differs is at the end of such a path, and no directory and no link
    comes or goes. -/
def WritesOnlyOutputs (host : Host) : Prop :=
  ∀ command directory environment files changed,
    (host.run command directory environment files).files? = some changed →
    files.SameRoutes changed ∧
      ∀ location, changed.find? location ≠ files.find? location →
        ∃ name ∈ namedOutputs command.tail, files.target? (directory.child name) = some location

/-- A command that compiles or links has created the file that it was told to write, if it ends well, at a
    path without null characters, as all paths of files are. -/
def CreatesOutputs (host : Host) : Prop :=
  ∀ command name, CompilesInto command name ∨ LinksInto command name →
    ∀ directory environment files answer changed,
      host.run command directory environment files = .finished answer changed → answer.status = 0 →
      (directory.child name).hasNull = false ∧ ∃ file, changed.read (directory.child name) = .ok file

/-! ## A host that follows its command lines -/

/-- A command of julia in the shape that compiling needs. -/
def plainCommand : List String :=
  ["julia", "-C", "-J", "--compile", "--depwarn"]

/-- What a julia reports that is started with a given command. -/
def plainReport (command : List String) : String :=
  "version=1.0.0\nbindir=/\nlibdir=lib\nprivate_libdir=lib\nincludedir=inc\ndlext=so\nword_size=64\n"
    ++ "arch=x86\n" ++ String.join (command.map fun word => "cmd=" ++ word ++ "\n")

/-- The runtime that is reported like that by a julia of the plain command. -/
def plainRuntime : Runtime where
  version := "1.0.0"
  bindir := ⟨.root, []⟩
  libdir := "lib"
  privateLibdir := "lib"
  includedir := "inc"
  dlext := "so"
  wordSize := 64
  arch := "x86"
  command := plainCommand
  threading := false

/-- A host on which julia reports a given command, the compiler runs, and a command writes its bytes
    into the first file that it is told to write, or fails if it cannot. -/
def obedient (reported : List String) (written : List String → ByteArray) : Host where
  platform := .linux
  environment := []
  workingDirectory := ⟨.root, ["work"]⟩
  bundledDriver := ⟨.root, ["program.c"]⟩
  report _ _ := .ok { stdout := plainReport reported }
  check _ _ _ := .ok 0
  run command directory _ files :=
    match (namedOutputs command.tail).head? with
    | none => .finished {} files
    | some name =>
      match files.write (directory.child name) ⟨written command, .now⟩ with
      | .ok changed => .finished {} changed
      | .error _ => .finished { status := 1 } files
  processes _ := none

/-- A host that follows its command lines to the letter, and refuses to write to paths with null
    characters. -/
def faithful (reported : List String) (written : List String → ByteArray) : Host :=
  { obedient reported written with
    run := fun command directory environment files =>
      if (namedOutputs command.tail).any fun name => (directory.child name).hasNull then
        .broken .nullInArgument files
      else (obedient reported written).run command directory environment files }

/-- The files of a host on which some files of the working directory are there, each with its names from
    the inside out and its text, besides the driver program. -/
def projectFiles (texts : List (List String × String)) : FileSystem :=
  let put (files : FileSystem) (names : List String) (text : String) : FileSystem :=
    files.insert (names ++ ["work"]) (.file ⟨text.toUTF8, .at 0⟩)
  let bare := ((empty.insert ["work"] .directory).insert ["builddir", "work"] .directory).insert
    ["program.c"] (.file ⟨"int main(void);".toUTF8, .at 0⟩)
  texts.foldl (fun files (names, text) => put files names text) bare

variable {reported : List String} {written : List String → ByteArray}

theorem writesOnlyOutputs_obedient : (obedient reported written).WritesOnlyOutputs := by
  intro command directory environment files changed h
  simp only [obedient] at h
  split at h
  · cases h
    exact ⟨.refl _, fun _ hne => absurd rfl hne⟩
  · next name hname =>
      split at h
      · next made hwrite =>
          cases h
          refine ⟨sameRoutes_write hwrite, fun location hne => ?_⟩
          obtain ⟨target, htarget, -, hfind⟩ := find?_write hwrite
          rw [hfind] at hne
          split at hne
          · next hsame => exact ⟨name, List.mem_of_mem_head? hname, hsame ▸ htarget⟩
          · exact absurd rfl hne
      · cases h
        exact ⟨.refl _, fun _ hne => absurd rfl hne⟩

theorem createsOutputs_faithful :
    (faithful reported written).CreatesOutputs := by
  intro command name hnames directory environment files answer changed h hstatus
  have hhead : (namedOutputs command.tail).head? = some name :=
    hnames.elim head_namedOutputs_of_compilesInto head_namedOutputs_of_linksInto
  simp only [faithful] at h
  split at h
  · cases h
  · next hnull =>
      have hname : (directory.child name).hasNull = false := by
        rw [← Bool.not_eq_true]
        exact fun hhas => hnull (List.any_eq_true.2 ⟨name, List.mem_of_mem_head? hhead, hhas⟩)
      refine ⟨hname, ?_⟩
      simp only [obedient, hhead] at h
      split at h
      · next hwrite =>
          cases h
          exact ⟨_, read_write hwrite⟩
      · cases h
        cases hstatus

end Host
end JuliaNative
