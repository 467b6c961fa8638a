import JuliaNative.Platform
import JuliaNative.Julia.Runtime
import JuliaNative.Text.Digit

set_option autoImplicit false

/-! # Rules for linking

How a program is compiled and linked against julia's library on each platform: the flags that
follow from the runtime, the flags of the two kinds of links, the environment of the C compiler, and
which files in a library directory are shared libraries to ship. On Windows a toolchain may be
given, whose include directory and programs the compiler is to find. -/

namespace JuliaNative

/-- The variables of an environment and their values. -/
abbrev Environment := List (String × String)

/-- An environment with one variable set. -/
def Environment.set (environment : Environment) (name value : String) : Environment :=
  if environment.any (·.1 = name) then
    environment.map fun entry => if entry.1 = name then (name, value) else entry
  else environment ++ [(name, value)]

/-- The platform to link for, and where its toolchain is if that is given. -/
structure LinkRules where
  platform : Platform
  toolchain : Option Path
deriving DecidableEq, Repr

/-- The directories of a runtime, as far as they can be resolved. -/
structure RuntimeDirectories where
  headers : Except Crash Path
  libraries : Except Crash Path
  privateLibraries : Except Crash Path

/-- The directories of a runtime in a file system. -/
def Runtime.directories (runtime : Runtime) (fs : FileSystem) (workingDirectory : Path) :
    RuntimeDirectories where
  headers := runtime.includeDirectory fs workingDirectory
  libraries := runtime.libraryDirectory fs workingDirectory
  privateLibraries := runtime.privateLibraryDirectory fs workingDirectory

namespace LinkRules

/-- The extension of shared libraries. -/
def libraryExtension (rules : LinkRules) : String :=
  match rules.platform with
  | .linux => "so"
  | .darwin => "dylib"
  | .windows => "dll"

/-- What is appended to the name of an executable. -/
def executableExtension (rules : LinkRules) : String :=
  match rules.platform with
  | .windows => ".exe"
  | _ => ""

/-! ## Flags that follow from the runtime -/

/-- The flags for compiling C against julia's headers. -/
def compileFlags (rules : LinkRules) (runtime : Runtime) (directories : RuntimeDirectories) :
    Except Crash (List String) :=
  directories.headers.map fun headers =>
    ["-std=gnu99", "-I" ++ headers.toString]
      ++ (if runtime.threading then ["-DJULIA_ENABLE_THREADING=1"] else [])
      ++ (if rules.platform = .windows then [] else ["-fPIC"])

/-- The directory in which the linker finds julia's library. -/
def linkDirectory (rules : LinkRules) (runtime : Runtime) (directories : RuntimeDirectories) :
    Except Crash Path :=
  if rules.platform = .windows then .ok runtime.bindir else directories.libraries

/-- The flags that tell the linker where to look and how to link. -/
def linkFlags (rules : LinkRules) (runtime : Runtime) (directories : RuntimeDirectories) :
    Except Crash (List String) :=
  (rules.linkDirectory runtime directories).map fun directory =>
    ("-L" ++ directory.toString) ::
      match rules.platform with
      | .linux => ["-Wl,--export-dynamic"]
      | .darwin => []
      | .windows => ["-Wl,--stack,8388608"]

/-- The libraries to link with, and where they are found when a program runs. -/
def linkLibraries (rules : LinkRules) (runtime : Runtime) (directories : RuntimeDirectories) :
    Except Crash (List String) :=
  if rules.platform = .windows then .ok ["-ljulia", "-lopenlibm"]
  else do
    let directory ← rules.linkDirectory runtime directories
    let privateLibraries ← directories.privateLibraries
    pure ["-Wl,-rpath," ++ directory.toString, "-Wl,-rpath," ++ privateLibraries.toString,
      "-ljulia"]

/-- All flags that follow from the runtime: for compiling, for linking, and the libraries. -/
def baseFlags (rules : LinkRules) (runtime : Runtime) (directories : RuntimeDirectories) :
    Except Crash (List String) := do
  let compile ← rules.compileFlags runtime directories
  let link ← rules.linkFlags runtime directories
  let libraries ← rules.linkLibraries runtime directories
  pure (compile ++ link ++ libraries)

/-! ## Flags of the two links -/

/-- The arguments that link every member of an archive, whether it is used or not. -/
def wholeArchive (rules : LinkRules) (archive : String) : List String :=
  match rules.platform with
  | .darwin => ["-Wl,-all_load", archive]
  | _ => ["-Wl,--whole-archive", archive, "-Wl,--no-whole-archive"]

/-- The include directory of the toolchain as a flag. -/
def toolchainInclude (rules : LinkRules) : List String :=
  match rules.toolchain with
  | none => []
  | some root => ["-I" ++ (root.child "include").toString]

/-- The flags for linking the shared library of the given name. -/
def sharedFlags (rules : LinkRules) (sharedLibrary : String) : List String :=
  match rules.platform with
  | .linux => []
  | .darwin => ["-Wl,-install_name,@rpath/" ++ sharedLibrary]
  | .windows => rules.toolchainInclude ++ ["-Wl,--export-all-symbols"]

/-- The flags for linking an executable. -/
def executableFlags (rules : LinkRules) : List String :=
  match rules.platform with
  | .linux => ["-Wl,-rpath,$ORIGIN"]
  | .darwin => ["-Wl,-rpath,@executable_path"]
  | .windows => rules.toolchainInclude

/-- The environment of the C compiler, if it differs from the one of the build: a Windows toolchain
    puts its programs at the end of the search path. -/
def compilerEnvironment (rules : LinkRules) (environment : Environment) : Option Environment :=
  match rules.platform, rules.toolchain with
  | .windows, some root =>
    let programs := (root.child "bin").toString
    let current := (environment.lookup "PATH").getD ""
    some (environment.set "PATH" (if current = "" then programs else current ++ ";" ++ programs))
  | _, _ => none

/-! ## Runtime libraries -/

/-- The directories that hold the libraries to ship. -/
def libraryDirectories (rules : LinkRules) (runtime : Runtime) (directories : RuntimeDirectories) :
    Except Crash (List Path) := do
  let directory ← rules.linkDirectory runtime directories
  let privateLibraries ← directories.privateLibraries
  pure [directory, privateLibraries]

/-- Whether characters are nothing but groups of a dot and digits. -/
def isVersionTail (cs : List Char) : Bool :=
  match cs.splitOn '.' with
  | [] :: groups => groups.all fun group => group ≠ [] && group.all Text.isDigit
  | _ => false

/-- Whether characters other than line feeds lead to an extension `.so` that is followed by nothing
    but a version. -/
def hasVersionedExtension : List Char → Bool
  | [] => false
  | c :: rest =>
    ['.', 's', 'o'].isPrefixOf (c :: rest) && isVersionTail (rest.drop 2)
      || c ≠ '\n' && hasVersionedExtension rest

/-- A name without one line feed at its end. -/
def withoutLastFeed (cs : List Char) : List Char :=
  if cs.getLast? = some '\n' then cs.dropLast else cs

/-- Whether a name is one of a Unix shared library: `lib`, at least one more character, `.so`, and
    perhaps a version. One line feed at the end does not count. -/
def isUnixLibrary (name : String) : Bool :=
  match withoutLastFeed name.toList with
  | 'l' :: 'i' :: 'b' :: c :: rest => c ≠ '\n' && hasVersionedExtension rest
  | _ => false

/-- Whether a file of this name is a shared library to ship; system images are none. -/
def isRuntimeLibrary (rules : LinkRules) (name : String) : Bool :=
  match rules.platform with
  | .linux => isUnixLibrary name
  | _ => ('.' :: rules.libraryExtension.toList).isSuffixOf name.toList
      && !(['s', 'y', 's'].isPrefixOf name.toList)

/-- Whether some characters stand next to one another somewhere in others. -/
def occursIn (word : List Char) : List Char → Bool
  | [] => word.isEmpty
  | c :: rest => word.isPrefixOf (c :: rest) || occursIn word rest

/-- Whether a library is worth shipping: it is a shared library to ship and no debug build. -/
def isShipped (rules : LinkRules) (name : String) : Bool :=
  rules.isRuntimeLibrary name && !occursIn ['d', 'e', 'b', 'u', 'g'] name.toList

end LinkRules
end JuliaNative
