import JuliaNative.Crash
import JuliaNative.FileSystem.Walk
import JuliaNative.Julia.Version

set_option autoImplicit false

/-! # The julia runtime

What the build needs to know about an installed julia, as julia itself reports it, and what follows
from it: the kind of file that the compiler writes, the name of the cache directory and the resolved
library and include directories. The version is kept as reported, since it names the cache
directory; what depends on it fails if it cannot be read. -/

namespace JuliaNative

/-- What julia reports about itself. The library and include directories are seen from `bindir`. -/
structure Runtime where
  version : String
  bindir : Path
  libdir : String
  privateLibdir : String
  includedir : String
  dlext : String
  wordSize : Int
  arch : String
  command : List String
  threading : Bool
deriving DecidableEq, Repr

namespace Runtime

/-- Whether the compiler writes a static archive, as it does from version 0.7 on. -/
def usesArchive (runtime : Runtime) : Except VersionFault Bool :=
  (Version.parse runtime.version).map (·.atLeast Version.firstWithArchive)

/-- Whether a first run can fill a cache of compiled modules, as it can before version 0.7. -/
def supportsCachePriming (runtime : Runtime) : Except VersionFault Bool :=
  runtime.usesArchive.map (!·)

/-- The extension of the file that the compiler writes. -/
def objectExtension (runtime : Runtime) : Except VersionFault String :=
  runtime.usesArchive.map fun archive => if archive then ".a" else ".o"

/-- The start of the name of every cache directory. -/
def cachePrefix : String := "cache_ji_v"

/-- The name of the directory for compiled modules. -/
def cacheDirectory (runtime : Runtime) : String :=
  cachePrefix ++ runtime.version

/-- Whether the runtime is for 32-bit processors of the x86 family. -/
def is32BitX86 (runtime : Runtime) : Bool :=
  runtime.wordSize = 32 && ["i686", "i386", "x86"].contains runtime.arch

/-! ## Directories -/

/-- Resolves a path in a file system, seen from the working directory. -/
def resolveIn (fs : FileSystem) (workingDirectory path : Path) : Except Crash Path :=
  if path.hasNull then .error .nullInPath
  else (fs.resolve (workingDirectory.join path)).mapError .linkLoop

/-- The directory of julia's library. -/
def libraryDirectory (runtime : Runtime) (fs : FileSystem) (workingDirectory : Path) :
    Except Crash Path :=
  resolveIn fs workingDirectory (runtime.bindir.child runtime.libdir)

/-- The directory of the libraries that come with julia. -/
def privateLibraryDirectory (runtime : Runtime) (fs : FileSystem) (workingDirectory : Path) :
    Except Crash Path :=
  resolveIn fs workingDirectory (runtime.bindir.child runtime.privateLibdir)

/-- The directory of julia's headers. -/
def includeDirectory (runtime : Runtime) (fs : FileSystem) (workingDirectory : Path) :
    Except Crash Path :=
  resolveIn fs workingDirectory ((runtime.bindir.child runtime.includedir).child "julia")

end Runtime
end JuliaNative
