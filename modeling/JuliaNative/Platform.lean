import JuliaNative.Crash
import JuliaNative.Text.Lowercase

set_option autoImplicit false

/-! # Platforms

The three families of platforms that artifacts are built on. Linux stands for every other system of
the Unix kind too. -/

namespace JuliaNative

/-- A family of platforms. -/
inductive Platform
  | linux
  | darwin
  | windows
deriving DecidableEq, Repr

namespace Platform

/-- The name of a platform. -/
def name : Platform → String
  | .linux => "linux"
  | .darwin => "darwin"
  | .windows => "windows"

/-- The platform of a name. -/
def named (name : String) : Except Crash Platform :=
  match [linux, darwin, windows].find? (·.name = name) with
  | some platform => .ok platform
  | none => .error (.unsupportedPlatform name)

/-- The platform that is asked for by its name; an empty name asks for the platform of the host. -/
def chosen (host : Platform) (name : String) : Except Crash Platform :=
  if name = "" then .ok host else named name

/-- Names of build environments that run on Windows. -/
def windowsEnvironments : List String := ["win32", "cygwin", "msys"]

/-- The platform of a host, from the name of its system and of its build environment. -/
def detect (system environment : String) : Platform :=
  let system := Text.lower system
  if system = "windows"
      || windowsEnvironments.any (fun start => start.toList.isPrefixOf environment.toList) then
    .windows
  else if system = "darwin" then .darwin
  else .linux

/-- Whether a host has more than 32-bit words, from the largest index that it supports. -/
def is64Bit (largestIndex : Nat) : Bool :=
  Nat.pow 2 32 < largestIndex

/-- Reading the name of a platform gives the platform back. -/
theorem named_name (platform : Platform) : named platform.name = .ok platform := by
  cases platform <;> rfl

end Platform
end JuliaNative
