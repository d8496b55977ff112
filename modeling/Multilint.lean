import Multilint.Catalog.Commands
import Multilint.Catalog.Tools
import Multilint.Command.Basic
import Multilint.Command.Host
import Multilint.CommandLine.Basic
import Multilint.CommandLine.Execution
import Multilint.CommandLine.Reader
import Multilint.Decimal.Binary64
import Multilint.Decimal.Leading
import Multilint.Decimal.Notation
import Multilint.Decimal.Reading
import Multilint.Decimal.Shortest
import Multilint.Failure
import Multilint.FileTree
import Multilint.Finding
import Multilint.Findings.Blocks
import Multilint.Findings.Json
import Multilint.Findings.Lines
import Multilint.Format.Basic
import Multilint.Format.Boxed
import Multilint.Format.Document
import Multilint.Format.Markup
import Multilint.Format.Paint
import Multilint.Format.Reading
import Multilint.Format.Render
import Multilint.Format.Report
import Multilint.Format.Workflow
import Multilint.Glob.Basic
import Multilint.Json.Basic
import Multilint.Json.Fault
import Multilint.Json.Printer
import Multilint.Json.Reader
import Multilint.Json.Shape
import Multilint.Keyed
import Multilint.Machine.Condition
import Multilint.Machine.Flow
import Multilint.Machine.Formatted
import Multilint.Machine.Host
import Multilint.Machine.Program
import Multilint.Machine.Snapshot
import Multilint.Main
import Multilint.Path
import Multilint.Proofs.FileTree.Resolution
import Multilint.Proofs.FileTree.Walk
import Multilint.Proofs.FileTree.WellFormed
import Multilint.Proofs.Glob.Matching
import Multilint.Proofs.Path.Normal
import Multilint.Proofs.Path.Resolving
import Multilint.Proofs.Run.FixAccounting
import Multilint.Proofs.Run.Isolation
import Multilint.Proofs.Run.Units
import Multilint.Proofs.Scope.Discovery
import Multilint.Proofs.Scope.Exclusion
import Multilint.Proofs.Scope.IgnoreFile
import Multilint.Proofs.Scope.Pruning
import Multilint.Proofs.Sequence
import Multilint.Proofs.Text.Pieces
import Multilint.Proofs.Text.Trim
import Multilint.Regex.Basic
import Multilint.Regex.Class
import Multilint.Regex.Meaning
import Multilint.Regex.Program
import Multilint.Regex.Reader
import Multilint.Regex.Search
import Multilint.Regex.Size
import Multilint.Regex.Written
import Multilint.Result.Basic
import Multilint.Run.Basic
import Multilint.Run.Execution
import Multilint.Run.Preparation
import Multilint.Run.Report
import Multilint.Schedule
import Multilint.Scope.Discovery
import Multilint.Scope.Exclusion
import Multilint.Scope.IgnoreFile
import Multilint.Scope.Location
import Multilint.Scope.Rules
import Multilint.Settings.File
import Multilint.Settings.Resolution
import Multilint.Settings.Source
import Multilint.Severity
import Multilint.Shell.Arithmetic
import Multilint.Shell.Builtin
import Multilint.Shell.Builtin.Basic
import Multilint.Shell.Builtin.Processes
import Multilint.Shell.Builtin.Variables
import Multilint.Shell.Course
import Multilint.Shell.Execution
import Multilint.Shell.Expansion
import Multilint.Shell.Identity
import Multilint.Shell.Lookup
import Multilint.Shell.Options
import Multilint.Shell.Pattern
import Multilint.Shell.Reader
import Multilint.Shell.Redirect
import Multilint.Shell.Script
import Multilint.Shell.Signal
import Multilint.Shell.Start
import Multilint.Shell.State
import Multilint.Shell.Token
import Multilint.Table.Column
import Multilint.Text.Basic
import Multilint.Text.CharSet
import Multilint.Text.Classes
import Multilint.Text.Numeral
import Multilint.Text.PrintableTable
import Multilint.Text.Scan
import Multilint.Text.Utf8
import Multilint.Text.Width
import Multilint.Text.WidthTable
import Multilint.Toml.Moment
import Multilint.Toml.Reader
import Multilint.Toml.Value
import Multilint.Tool.Basic
import Multilint.Tool.Options
import Multilint.Tool.Toolbox
import Multilint.Unicode.Age
import Multilint.Unicode.Boundary
import Multilint.Unicode.Category
import Multilint.Unicode.Folding
import Multilint.Unicode.Lookup
import Multilint.Unicode.Property
import Multilint.Unicode.PropertyTable
import Multilint.Unicode.Script
import Multilint.Unicode.Values
import Multilint.Version.Basic
import Multilint.Version.Extraction
import Multilint.Version.Gate
import Multilint.Yaml.Node
import Multilint.Yaml.Scalar
import Multilint.Yaml.Schema
import Multilint.Yaml.Token
import Multilint.Yaml.Tokens
import Multilint.Proofs.Schedule.Rank
import Multilint.Proofs.Schedule.Kernel
import Multilint.Proofs.Run.Dialogue
import Multilint.Proofs.Run.Answers
import Multilint.Proofs.Run.Serving
import Multilint.Proofs.Run.Plan
import Multilint.Proofs.Run.Results
import Multilint.Proofs.Run.Protocol
import Multilint.Proofs.Run.ExitCode
import Multilint.Proofs.Text.Classes
import Multilint.Proofs.Version.Comparison
import Multilint.Proofs.Version.Numbers
import Multilint.Proofs.Version.Extraction
import Multilint.Proofs.Version.Token
import Multilint.Proofs.Version.Gate
import Multilint.Proofs.Scope.Composition
import Multilint.Proofs.Settings.Listed
import Multilint.Proofs.Run.Mistakes
import Multilint.Proofs.Run.Strictness
import Multilint.Proofs.Run.Independence
import Multilint.Proofs.Settings.SwitchedOff
import Multilint.Proofs.Scope.Relocation
import Multilint.Proofs.Format.Records
import Multilint.Proofs.Format.FindingsTable
import Multilint.Proofs.Format.Commands
import Multilint.Proofs.Format.Annotations
import Multilint.Proofs.Json.Members
import Multilint.Proofs.Json.Stability
import Multilint.Proofs.Json.Values
import Multilint.Proofs.Json.Shapes
import Multilint.Proofs.Findings.Streams
import Multilint.Proofs.Format.Objects
import Multilint.Proofs.Format.Totals
import Multilint.Proofs.Format.Levels
import Multilint.Proofs.Format.Markup
import Multilint.Proofs.Format.Page
import Multilint.Proofs.Path.Written
import Multilint.Proofs.Path.Relative
import Multilint.Proofs.FileTree.Entries
import Multilint.Proofs.Scope.PlainPatterns
import Multilint.Proofs.Scope.Verdict
import Multilint.Proofs.Run.RelativeNames
import Multilint.Proofs.Run.Arguments
import Multilint.Proofs.Schedule.Spellings
import Multilint.Proofs.Run.Ineffective
import Multilint.Proofs.Version.Preorder
import Multilint.Proofs.Keyed
import Multilint.Proofs.Tool.Options
import Multilint.Proofs.Text.Scan
import Multilint.Proofs.Format.Bars
import Multilint.Proofs.Format.Elements
import Multilint.Proofs.Findings.Lines
import Multilint.Proofs.Findings.CompilerLines
import Multilint.Proofs.Findings.LevelLines
import Multilint.Proofs.Findings.Blocks
import Multilint.Proofs.Findings.LineByLine
import Multilint.Proofs.Path.CommonParent
import Multilint.Proofs.Tool.Registration
