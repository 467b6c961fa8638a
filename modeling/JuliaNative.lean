import JuliaNative.Artifacts
import JuliaNative.Build.Compile
import JuliaNative.Build.Link
import JuliaNative.Build.Pipeline
import JuliaNative.CommandLine.Help
import JuliaNative.CommandLine.Option
import JuliaNative.CommandLine.Parse
import JuliaNative.CommandLine.Settings
import JuliaNative.Commands
import JuliaNative.Configuration.Basic
import JuliaNative.Configuration.Profile
import JuliaNative.Configuration.Resolved
import JuliaNative.Configuration.Setting
import JuliaNative.Configuration.Source
import JuliaNative.Crash
import JuliaNative.Decimal
import JuliaNative.Duration
import JuliaNative.Error
import JuliaNative.FileSystem.Basic
import JuliaNative.FileSystem.Edit
import JuliaNative.FileSystem.Walk
import JuliaNative.Ini.Document
import JuliaNative.Ini.Reference
import JuliaNative.Julia.BaseCommand
import JuliaNative.Julia.Literal
import JuliaNative.Julia.Report
import JuliaNative.Julia.Runtime
import JuliaNative.Julia.Source
import JuliaNative.Julia.Version
import JuliaNative.Link.Flags
import JuliaNative.Link.Rules
import JuliaNative.Main
import JuliaNative.Path.Basic
import JuliaNative.Path.Lexical
import JuliaNative.Platform
import JuliaNative.ProcessTree
import JuliaNative.Program
import JuliaNative.Proofs.Action
import JuliaNative.Proofs.Build.Checks
import JuliaNative.Proofs.Build.Course
import JuliaNative.Proofs.Build.Crashes
import JuliaNative.Proofs.Build.Escapes
import JuliaNative.Proofs.Build.Inputs
import JuliaNative.Proofs.Build.Products
import JuliaNative.Proofs.Build.Run
import JuliaNative.Proofs.Build.Stages
import JuliaNative.Proofs.Build.Untouched
import JuliaNative.Proofs.Crashes
import JuliaNative.Proofs.Escapes
import JuliaNative.Proofs.FileSystem.Change
import JuliaNative.Proofs.FileSystem.Entry
import JuliaNative.Proofs.FileSystem.Frame
import JuliaNative.Proofs.Keeps
import JuliaNative.Proofs.Readable
import JuliaNative.Proofs.Staging
import JuliaNative.Proofs.Tools
import JuliaNative.Stage
import JuliaNative.Staging
import JuliaNative.Table
import JuliaNative.Text.Blank
import JuliaNative.Text.Digit
import JuliaNative.Text.Lines
import JuliaNative.Text.Lowercase
import JuliaNative.Text.Numeral
import JuliaNative.Text.Printable
import JuliaNative.Text.Quoted
import JuliaNative.Text.ShellWords
import JuliaNative.Text.Utf8
import JuliaNative.Tools
import JuliaNative.World
import JuliaNative.Proofs.Build.Sequence
import JuliaNative.Proofs.SameWork
import JuliaNative.Proofs.Build.SameStages
import JuliaNative.Proofs.Build.Launches
import JuliaNative.Proofs.Build.Order
import JuliaNative.Proofs.Build.Dependencies
import JuliaNative.Proofs.Build.Leftovers
import JuliaNative.Proofs.Build.Comparison
import JuliaNative.Proofs.Build.Split
import JuliaNative.Proofs.Configuration.Refusals
import JuliaNative.Proofs.Configuration.Writing
import JuliaNative.Proofs.Configuration.EmptyOptions
import JuliaNative.Proofs.Build.Verbosity
import JuliaNative.Proofs.Program
import JuliaNative.Proofs.Staging.Again
import JuliaNative.Proofs.Staging.Inside
import JuliaNative.Proofs.Build.Trace
import JuliaNative.Proofs.FileSystem.Copy
import JuliaNative.Proofs.FileSystem.Removal
import JuliaNative.Proofs.Staging.Copies
import JuliaNative.Proofs.Staging.Temporary
import JuliaNative.Proofs.FileSystem.Arrival
import JuliaNative.Proofs.Staging.Libraries
import JuliaNative.Proofs.Build.MainScript
import JuliaNative.Proofs.Link.Definition
import JuliaNative.Proofs.Julia.Options
import JuliaNative.Proofs.Julia.Numbers
import JuliaNative.Proofs.Build.Directories
import JuliaNative.Proofs.ProcessTree
import JuliaNative.Proofs.CommandLine.Placement
import JuliaNative.Proofs.Configuration.Expansion
import JuliaNative.Proofs.Text.Numerals
import JuliaNative.Proofs.Configuration.NormalForm
import JuliaNative.Proofs.Link.LibraryNames
import JuliaNative.Proofs.Staging.Selection
import JuliaNative.Proofs.Text.ShellWords
import JuliaNative.Proofs.CommandLine.Flags
import JuliaNative.Proofs.Julia.Versions
import JuliaNative.Proofs.Build.Printing
import JuliaNative.Proofs.Silence
