import JuliaNative.CommandLine.Parse
import JuliaNative.Link.Flags

set_option autoImplicit false

/-! # Settings from the command line

What the command line gives becomes settings: the driver program is a setting under a name of its
own, and the flags for the C compiler are split as a shell splits them. Settings that the command
line does not give are absent, so that they can come from a configuration file. -/

namespace JuliaNative.CommandLine

/-- What the command line gives for a target. -/
def Arguments.value (arguments : Arguments) (target : Target) : Value :=
  (arguments.get? target).getD .absent

/-- The level of diagnostics. -/
def Arguments.logLevel (arguments : Arguments) : Value :=
  (arguments.get? .logLevel).getD (.text defaultLogLevel)

/-- What the command line gives for a setting. -/
def Arguments.setting (arguments : Arguments) : Setting → Except Crash Value
  | .driverProgram => .ok (arguments.value .driver)
  | .ccFlags =>
    match arguments.value (.setting .ccFlags) with
    | .text flags => .ok (.words (flagsOfText flags))
    | .absent => .ok .absent
    | _ => .error (.listUsed "read")
  | which => .ok (arguments.value (.setting which))

/-- What the command line gives for all settings. -/
def Arguments.settings (arguments : Arguments) : Except Crash Settings :=
  Setting.all.mapM fun which => (arguments.setting which).map fun value => (which, value)

end JuliaNative.CommandLine
