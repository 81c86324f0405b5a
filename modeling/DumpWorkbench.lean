import DumpWorkbench.ByteCount
import DumpWorkbench.Console
import DumpWorkbench.Decimal.Binary64
import DumpWorkbench.Decimal.Quick
import DumpWorkbench.Decimal.Shortest
import DumpWorkbench.DumpName
import DumpWorkbench.Duration
import DumpWorkbench.Fault
import DumpWorkbench.Host
import DumpWorkbench.IoFault
import DumpWorkbench.Json.Basic
import DumpWorkbench.Json.Fault
import DumpWorkbench.Json.Reader
import DumpWorkbench.Json.Writer
import DumpWorkbench.Live
import DumpWorkbench.Log
import DumpWorkbench.Log.Expression
import DumpWorkbench.Log.Expression.Reader
import DumpWorkbench.Log.File
import DumpWorkbench.Log.Filter
import DumpWorkbench.Main
import DumpWorkbench.Number
import DumpWorkbench.Operation
import DumpWorkbench.Options
import DumpWorkbench.Options.Help
import DumpWorkbench.Options.Key
import DumpWorkbench.Options.Reader
import DumpWorkbench.Path
import DumpWorkbench.Program
import DumpWorkbench.Progress
import DumpWorkbench.Proofs.ByteCount
import DumpWorkbench.Proofs.Console.Statements
import DumpWorkbench.Proofs.Decimal.Greatest
import DumpWorkbench.Proofs.Decimal.Nearest
import DumpWorkbench.Proofs.Decimal.Quick
import DumpWorkbench.Proofs.Decimal.Range
import DumpWorkbench.Proofs.Decimal.Rounding
import DumpWorkbench.Proofs.Decimal.Shortest
import DumpWorkbench.Proofs.DumpName
import DumpWorkbench.Proofs.DumpName.Admission
import DumpWorkbench.Proofs.Duration
import DumpWorkbench.Proofs.Json.Characters
import DumpWorkbench.Proofs.Json.Digits
import DumpWorkbench.Proofs.Json.Document
import DumpWorkbench.Proofs.Json.FirstDigits
import DumpWorkbench.Proofs.Json.Grammar
import DumpWorkbench.Proofs.Json.Listed
import DumpWorkbench.Proofs.Json.Number
import DumpWorkbench.Proofs.Json.Numeral
import DumpWorkbench.Proofs.Json.Pretty
import DumpWorkbench.Proofs.Json.Reread
import DumpWorkbench.Proofs.Json.RoundTrip
import DumpWorkbench.Proofs.Json.Sorted
import DumpWorkbench.Proofs.Json.Stream
import DumpWorkbench.Proofs.Json.String
import DumpWorkbench.Proofs.Log.Opening
import DumpWorkbench.Proofs.Operation
import DumpWorkbench.Proofs.Options.Mention
import DumpWorkbench.Proofs.Options.Required
import DumpWorkbench.Proofs.Options.Spelling
import DumpWorkbench.Proofs.Outcome
import DumpWorkbench.Proofs.Path.Canonical
import DumpWorkbench.Proofs.Path.Normal
import DumpWorkbench.Proofs.Path.Segments
import DumpWorkbench.Proofs.Path.Spelled
import DumpWorkbench.Proofs.Path.Steps
import DumpWorkbench.Proofs.Program.DryRun
import DumpWorkbench.Proofs.Program.Rejection
import DumpWorkbench.Proofs.Program.Start
import DumpWorkbench.Proofs.Report.Decode
import DumpWorkbench.Proofs.Report.Total
import DumpWorkbench.Proofs.Run.Execution
import DumpWorkbench.Proofs.Run.Exits
import DumpWorkbench.Proofs.Run.FirstExtraction
import DumpWorkbench.Proofs.Run.Independence
import DumpWorkbench.Proofs.Run.Layout
import DumpWorkbench.Proofs.Run.MapExtraction
import DumpWorkbench.Proofs.Run.Sift
import DumpWorkbench.Proofs.Run.Stages
import DumpWorkbench.Proofs.SectionMap.Canonical
import DumpWorkbench.Proofs.SectionMap.Decode
import DumpWorkbench.Proofs.SectionMap.RoundTrip
import DumpWorkbench.Proofs.Settings.Admission
import DumpWorkbench.Proofs.Settings.Extension
import DumpWorkbench.Proofs.Settings.Layers
import DumpWorkbench.Proofs.Settings.Saved
import DumpWorkbench.Proofs.Shell.CommandName
import DumpWorkbench.Proofs.Shell.Fields
import DumpWorkbench.Proofs.Shell.Quote
import DumpWorkbench.Proofs.Shell.Tokens
import DumpWorkbench.Proofs.SiftPlan.Announcement
import DumpWorkbench.Proofs.Text.Cut
import DumpWorkbench.Proofs.Text.Utf8
import DumpWorkbench.Proofs.Tool.LifeCycle
import DumpWorkbench.Proofs.Tree.Changes
import DumpWorkbench.Proofs.Tree.Directories
import DumpWorkbench.Proofs.Tree.Files
import DumpWorkbench.Proofs.Tree.Growth
import DumpWorkbench.Proofs.Workspace.Containment
import DumpWorkbench.Proofs.Workspace.DumpFile
import DumpWorkbench.Proofs.Workspace.Layout
import DumpWorkbench.Proofs.Workspace.Resolution
import DumpWorkbench.Proofs.Workspace.Session
import DumpWorkbench.Proofs.World.Actions
import DumpWorkbench.Proofs.World.Comparison
import DumpWorkbench.Proofs.World.Effects
import DumpWorkbench.Proofs.World.Warnings
import DumpWorkbench.RawPath
import DumpWorkbench.Report
import DumpWorkbench.Run
import DumpWorkbench.SectionMap
import DumpWorkbench.SectionMap.Store
import DumpWorkbench.Settings
import DumpWorkbench.Settings.File
import DumpWorkbench.Settings.Load
import DumpWorkbench.Severity
import DumpWorkbench.Shell.Calculation
import DumpWorkbench.Shell.Expansion
import DumpWorkbench.Shell.Launcher
import DumpWorkbench.Shell.Launcher.Builtin
import DumpWorkbench.Shell.Launcher.Condition
import DumpWorkbench.Shell.Launcher.Format
import DumpWorkbench.Shell.Launcher.Launch
import DumpWorkbench.Shell.Launcher.Process
import DumpWorkbench.Shell.Launcher.Regex
import DumpWorkbench.Shell.Launcher.Run
import DumpWorkbench.Shell.Launcher.Utility.Columns
import DumpWorkbench.Shell.Launcher.Utility.Directory
import DumpWorkbench.Shell.Launcher.Utility.Editing
import DumpWorkbench.Shell.Launcher.Utility.Excerpt
import DumpWorkbench.Shell.Launcher.Utility.Options
import DumpWorkbench.Shell.Launcher.Utility.Order
import DumpWorkbench.Shell.Launcher.Utility.Programs
import DumpWorkbench.Shell.Launcher.Utility.Search
import DumpWorkbench.Shell.Launcher.Utility.Words
import DumpWorkbench.Shell.Octets
import DumpWorkbench.Shell.Pattern
import DumpWorkbench.Shell.Quote
import DumpWorkbench.Shell.Script
import DumpWorkbench.Shell.State
import DumpWorkbench.Shell.Word
import DumpWorkbench.SiftPlan
import DumpWorkbench.SiftPlan.Prepare
import DumpWorkbench.Text.Blank
import DumpWorkbench.Text.Control
import DumpWorkbench.Text.Letter
import DumpWorkbench.Text.Printable
import DumpWorkbench.Text.Quoted
import DumpWorkbench.Text.Ranges
import DumpWorkbench.Text.Utf8
import DumpWorkbench.Timestamp
import DumpWorkbench.Toml.Basic
import DumpWorkbench.Toml.Reader
import DumpWorkbench.Toml.Scalar
import DumpWorkbench.Toml.Writer
import DumpWorkbench.Tool
import DumpWorkbench.Tool.Run
import DumpWorkbench.Tree
import DumpWorkbench.Tree.Calls
import DumpWorkbench.Workspace
import DumpWorkbench.Workspace.Disk
import DumpWorkbench.World
