import WasmCoverage.Artifact.Marker
import WasmCoverage.Artifact.Name
import WasmCoverage.Cargo.Command
import WasmCoverage.Cargo.Messages
import WasmCoverage.Clock
import WasmCoverage.CommandLine.Execution
import WasmCoverage.CommandLine.Options
import WasmCoverage.CommandLine.Program
import WasmCoverage.CommandLine.Request
import WasmCoverage.Discovery
import WasmCoverage.Disk.Basic
import WasmCoverage.Disk.Error
import WasmCoverage.Disk.Listing
import WasmCoverage.Disk.Operations
import WasmCoverage.Fault
import WasmCoverage.InstrumentedBuild
import WasmCoverage.Ir.File
import WasmCoverage.Ir.Line
import WasmCoverage.Ir.Neutralize
import WasmCoverage.Json.Basic
import WasmCoverage.Json.Display
import WasmCoverage.Json.Key
import WasmCoverage.Json.Reader
import WasmCoverage.Json.Writer
import WasmCoverage.Lexeme
import WasmCoverage.Main
import WasmCoverage.Moment
import WasmCoverage.Number.Double
import WasmCoverage.Number.Numeral
import WasmCoverage.Number.Size
import WasmCoverage.Override.Basic
import WasmCoverage.Override.Function
import WasmCoverage.Override.Lexeme
import WasmCoverage.Override.Operand
import WasmCoverage.Override.Value
import WasmCoverage.Path.Basic
import WasmCoverage.Path.Relative
import WasmCoverage.Path.Search
import WasmCoverage.Payload.Pairs
import WasmCoverage.Payload.Reading
import WasmCoverage.Payload.Record
import WasmCoverage.Pipeline
import WasmCoverage.Program.Basic
import WasmCoverage.Program.Image
import WasmCoverage.Program.Utility
import WasmCoverage.Proofs.Artifact.Cleaning
import WasmCoverage.Proofs.Artifact.Key
import WasmCoverage.Proofs.Artifact.Marker
import WasmCoverage.Proofs.Artifact.Name
import WasmCoverage.Proofs.Cargo.Messages
import WasmCoverage.Proofs.CommandLine.PassingOn
import WasmCoverage.Proofs.Course
import WasmCoverage.Proofs.Discovery
import WasmCoverage.Proofs.Discovery.Again
import WasmCoverage.Proofs.Discovery.Exact
import WasmCoverage.Proofs.Discovery.Order
import WasmCoverage.Proofs.Disk.Agreeing
import WasmCoverage.Proofs.Disk.Contents
import WasmCoverage.Proofs.Disk.Directories
import WasmCoverage.Proofs.Disk.Effects
import WasmCoverage.Proofs.Disk.Entries
import WasmCoverage.Proofs.Disk.Level
import WasmCoverage.Proofs.Disk.Limits
import WasmCoverage.Proofs.Disk.Links
import WasmCoverage.Proofs.Disk.Listing
import WasmCoverage.Proofs.Disk.RealPath
import WasmCoverage.Proofs.Disk.Refusals
import WasmCoverage.Proofs.Disk.Removal
import WasmCoverage.Proofs.Disk.Reordered
import WasmCoverage.Proofs.Disk.Tree
import WasmCoverage.Proofs.Disk.Walk
import WasmCoverage.Proofs.InstrumentedBuild.Clearing
import WasmCoverage.Proofs.InstrumentedBuild.Course
import WasmCoverage.Proofs.InstrumentedBuild.Rebuild
import WasmCoverage.Proofs.Ir.Bodiless
import WasmCoverage.Proofs.Ir.Braces
import WasmCoverage.Proofs.Ir.File
import WasmCoverage.Proofs.Ir.HeaderLine
import WasmCoverage.Proofs.Ir.Layout
import WasmCoverage.Proofs.Ir.Lines
import WasmCoverage.Proofs.Ir.Repetition
import WasmCoverage.Proofs.Json.Bounds
import WasmCoverage.Proofs.Json.Grammar
import WasmCoverage.Proofs.Json.Layout
import WasmCoverage.Proofs.Json.Strings
import WasmCoverage.Proofs.Number.Length
import WasmCoverage.Proofs.Paired
import WasmCoverage.Proofs.Path.Names
import WasmCoverage.Proofs.Payload.Reading
import WasmCoverage.Proofs.Payload.Sections
import WasmCoverage.Proofs.Pipeline.Alongside
import WasmCoverage.Proofs.Pipeline.Calls
import WasmCoverage.Proofs.Pipeline.Cleaning
import WasmCoverage.Proofs.Pipeline.Containment
import WasmCoverage.Proofs.Pipeline.Finalize
import WasmCoverage.Proofs.Pipeline.Frames
import WasmCoverage.Proofs.Pipeline.History
import WasmCoverage.Proofs.Pipeline.Lookup
import WasmCoverage.Proofs.Pipeline.Merge
import WasmCoverage.Proofs.Pipeline.ObjectLookup
import WasmCoverage.Proofs.Pipeline.Order
import WasmCoverage.Proofs.Pipeline.Phases
import WasmCoverage.Proofs.Pipeline.Quiet
import WasmCoverage.Proofs.Pipeline.Record
import WasmCoverage.Proofs.Pipeline.Rediscovery
import WasmCoverage.Proofs.Pipeline.Rendering
import WasmCoverage.Proofs.Pipeline.Report
import WasmCoverage.Proofs.Pipeline.Reproduction
import WasmCoverage.Proofs.Pipeline.Settled
import WasmCoverage.Proofs.Pipeline.Staging
import WasmCoverage.Proofs.Pipeline.Steps
import WasmCoverage.Proofs.Records
import WasmCoverage.Proofs.Runs
import WasmCoverage.Proofs.Settings.Normal
import WasmCoverage.Proofs.Summary.RoundTrip
import WasmCoverage.Proofs.Summary.TableShape
import WasmCoverage.Proofs.Table
import WasmCoverage.Proofs.Text.Lines
import WasmCoverage.Proofs.Text.Utf8
import WasmCoverage.Proofs.Tool.Compiler
import WasmCoverage.Proofs.Tool.Merger
import WasmCoverage.Proofs.Tool.Neat
import WasmCoverage.Proofs.Tool.Renderer
import WasmCoverage.Proofs.Toolchain.Probe
import WasmCoverage.Proofs.Toolchain.Version
import WasmCoverage.Proofs.Workspace
import WasmCoverage.Proofs.Workspace.Resetting
import WasmCoverage.Proofs.Workspace.Samples
import WasmCoverage.Proofs.Workspace.Tidy
import WasmCoverage.Records
import WasmCoverage.Settings.Basic
import WasmCoverage.Settings.Choice
import WasmCoverage.Settings.Composition
import WasmCoverage.Settings.Decoding
import WasmCoverage.Settings.Document
import WasmCoverage.Settings.Group
import WasmCoverage.Settings.Refusal
import WasmCoverage.Settings.Shape
import WasmCoverage.Settings.Tree
import WasmCoverage.Shell.Arithmetic
import WasmCoverage.Shell.Builtin
import WasmCoverage.Shell.Condition
import WasmCoverage.Shell.Evaluation
import WasmCoverage.Shell.Fields
import WasmCoverage.Shell.Format
import WasmCoverage.Shell.Number
import WasmCoverage.Shell.Opening
import WasmCoverage.Shell.Pattern
import WasmCoverage.Shell.Reader
import WasmCoverage.Shell.Signal
import WasmCoverage.Shell.State
import WasmCoverage.Shell.Syntax
import WasmCoverage.Shell.Token
import WasmCoverage.Summary.Basic
import WasmCoverage.Summary.Decoding
import WasmCoverage.Summary.Encoding
import WasmCoverage.Summary.Markdown
import WasmCoverage.Table
import WasmCoverage.Template.Outline
import WasmCoverage.Template.Reader
import WasmCoverage.Template.Resolution
import WasmCoverage.Template.Syntax
import WasmCoverage.Text.Blank
import WasmCoverage.Text.CodeRanges
import WasmCoverage.Text.DecimalDigit
import WasmCoverage.Text.Hex
import WasmCoverage.Text.Loose
import WasmCoverage.Text.Occurrence
import WasmCoverage.Text.Printable
import WasmCoverage.Text.Quoted
import WasmCoverage.Text.Split
import WasmCoverage.Text.Trim
import WasmCoverage.Text.UpperCase
import WasmCoverage.Text.Utf8
import WasmCoverage.Text.WordChar
import WasmCoverage.Tool.Adapter
import WasmCoverage.Tool.Command
import WasmCoverage.Tool.Failure
import WasmCoverage.Tool.Words
import WasmCoverage.Toolchain.Probe
import WasmCoverage.Toolchain.Version
import WasmCoverage.Workspace
import WasmCoverage.World
import WasmCoverage.Yaml.Document
import WasmCoverage.Yaml.Resolution
import WasmCoverage.Yaml.Scalar
