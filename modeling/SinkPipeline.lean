import SinkPipeline.Base64
import SinkPipeline.CommandLine.Arguments
import SinkPipeline.CommandLine.Play
import SinkPipeline.CommandLine.Program
import SinkPipeline.CommandLine.Request
import SinkPipeline.DirectoryWalk
import SinkPipeline.Discovery
import SinkPipeline.Exchange
import SinkPipeline.Fault.Basic
import SinkPipeline.Fault.Context
import SinkPipeline.Fault.Kind
import SinkPipeline.FileTree.Access
import SinkPipeline.FileTree.Basic
import SinkPipeline.FileTree.Resolve
import SinkPipeline.Json.Basic
import SinkPipeline.Json.Literal
import SinkPipeline.Json.Reader
import SinkPipeline.Json.Token
import SinkPipeline.Json.Writer
import SinkPipeline.Log.Context
import SinkPipeline.Log.Diary
import SinkPipeline.Log.Level
import SinkPipeline.Log.Output
import SinkPipeline.Log.Timing
import SinkPipeline.Main
import SinkPipeline.Number.Binary
import SinkPipeline.Number.Format
import SinkPipeline.Number.Reading
import SinkPipeline.Number.Shortest
import SinkPipeline.Orchestrator
import SinkPipeline.Output.AtomicWrite
import SinkPipeline.Output.Materialize
import SinkPipeline.Output.Record
import SinkPipeline.Pass
import SinkPipeline.Path
import SinkPipeline.Pattern.CharSet
import SinkPipeline.Pattern.Expression
import SinkPipeline.Pattern.Glob
import SinkPipeline.Pattern.Reader
import SinkPipeline.Pipeline
import SinkPipeline.Process.Env
import SinkPipeline.Process.Machine
import SinkPipeline.Process.Projection
import SinkPipeline.Process.Resolution
import SinkPipeline.Process.Script
import SinkPipeline.Process.Stage
import SinkPipeline.Process.Stream
import SinkPipeline.Proofs.Base64
import SinkPipeline.Proofs.Base64.Leniency
import SinkPipeline.Proofs.DirectoryWalk.Gathering
import SinkPipeline.Proofs.DirectoryWalk.Listing
import SinkPipeline.Proofs.DirectoryWalk.Order
import SinkPipeline.Proofs.DirectoryWalk.Reaching
import SinkPipeline.Proofs.DirectoryWalk.Refusing
import SinkPipeline.Proofs.DirectoryWalk.Roots
import SinkPipeline.Proofs.DirectoryWalk.Universal
import SinkPipeline.Proofs.Discovery.Finding
import SinkPipeline.Proofs.Discovery.Gathering
import SinkPipeline.Proofs.Discovery.Listing
import SinkPipeline.Proofs.Discovery.Stepping
import SinkPipeline.Proofs.Discovery.Tidy
import SinkPipeline.Proofs.Ending
import SinkPipeline.Proofs.Execution
import SinkPipeline.Proofs.Fault.Keeping
import SinkPipeline.Proofs.FileTree.Advancing
import SinkPipeline.Proofs.FileTree.Alike
import SinkPipeline.Proofs.FileTree.Changing
import SinkPipeline.Proofs.FileTree.Descending
import SinkPipeline.Proofs.FileTree.Following
import SinkPipeline.Proofs.FileTree.Making
import SinkPipeline.Proofs.FileTree.OnTheWay
import SinkPipeline.Proofs.FileTree.Reordering
import SinkPipeline.Proofs.Json.Fields
import SinkPipeline.Proofs.Json.Limits
import SinkPipeline.Proofs.Json.Spelling
import SinkPipeline.Proofs.Json.Writing
import SinkPipeline.Proofs.Log.Filtering
import SinkPipeline.Proofs.Log.Spans
import SinkPipeline.Proofs.Log.Tokens
import SinkPipeline.Proofs.Orchestration
import SinkPipeline.Proofs.Orchestration.Laziness
import SinkPipeline.Proofs.Outcome
import SinkPipeline.Proofs.Output.AllOrNothing
import SinkPipeline.Proofs.Output.Atomicity
import SinkPipeline.Proofs.Output.Containment
import SinkPipeline.Proofs.Output.Corruption
import SinkPipeline.Proofs.Output.Failing
import SinkPipeline.Proofs.Output.Faults
import SinkPipeline.Proofs.Output.Filling
import SinkPipeline.Proofs.Output.ManyFiles
import SinkPipeline.Proofs.Output.Records
import SinkPipeline.Proofs.Output.Replacing
import SinkPipeline.Proofs.Output.RoundTrip
import SinkPipeline.Proofs.Output.Successive
import SinkPipeline.Proofs.Passing.Leaving
import SinkPipeline.Proofs.Passing.Meaning
import SinkPipeline.Proofs.Passing.Rehearsing
import SinkPipeline.Proofs.Passing.Stepping
import SinkPipeline.Proofs.Passing.Telling
import SinkPipeline.Proofs.Passing.Whole
import SinkPipeline.Proofs.Path
import SinkPipeline.Proofs.Path.Display
import SinkPipeline.Proofs.Pattern.Derivation
import SinkPipeline.Proofs.Pattern.Meaning
import SinkPipeline.Proofs.Pattern.Segments
import SinkPipeline.Proofs.Pattern.Spelling
import SinkPipeline.Proofs.Pattern.Syntax
import SinkPipeline.Proofs.Pattern.Unclosed
import SinkPipeline.Proofs.Planning
import SinkPipeline.Proofs.Preparing
import SinkPipeline.Proofs.Process.Closing
import SinkPipeline.Proofs.Process.Composition
import SinkPipeline.Proofs.Process.Draining
import SinkPipeline.Proofs.Process.Environment
import SinkPipeline.Proofs.Process.Handing
import SinkPipeline.Proofs.Process.Independence
import SinkPipeline.Proofs.Process.Reading
import SinkPipeline.Proofs.Process.Refusing
import SinkPipeline.Proofs.Report.Codes
import SinkPipeline.Proofs.Report.Lines
import SinkPipeline.Proofs.Report.Naming
import SinkPipeline.Proofs.Report.Printing
import SinkPipeline.Proofs.Report.Scanning
import SinkPipeline.Proofs.Report.Tags
import SinkPipeline.Proofs.Resolution.Agreement
import SinkPipeline.Proofs.Resolution.Choice
import SinkPipeline.Proofs.Running
import SinkPipeline.Proofs.SinkName
import SinkPipeline.Proofs.SinkName.Grammar
import SinkPipeline.Proofs.SinkName.Stages
import SinkPipeline.Proofs.Taking
import SinkPipeline.Proofs.Text.Chunking
import SinkPipeline.Proofs.Text.Decoding
import SinkPipeline.Proofs.Text.Hex
import SinkPipeline.Proofs.Text.Lines
import SinkPipeline.Proofs.Text.Runs
import SinkPipeline.Proofs.Text.Utf8
import SinkPipeline.Proofs.Walking.Absent
import SinkPipeline.Proofs.Walking.Law
import SinkPipeline.Proofs.Walking.Whole
import SinkPipeline.Proofs.Watching.Law
import SinkPipeline.Proofs.Watching.Quiet
import SinkPipeline.Proofs.Watching.Seeing
import SinkPipeline.Proofs.Watching.Snapshots
import SinkPipeline.Report.Emoji
import SinkPipeline.Report.EmojiTable
import SinkPipeline.Report.Look
import SinkPipeline.Report.Markup
import SinkPipeline.Report.Summary
import SinkPipeline.Settings.Basic
import SinkPipeline.Settings.DotEnv
import SinkPipeline.SinkName
import SinkPipeline.Site
import SinkPipeline.Source
import SinkPipeline.Text.Blank
import SinkPipeline.Text.Case
import SinkPipeline.Text.CharacterName
import SinkPipeline.Text.CharacterTable
import SinkPipeline.Text.CodePoint
import SinkPipeline.Text.Cut
import SinkPipeline.Text.Flaw
import SinkPipeline.Text.Hex
import SinkPipeline.Text.Lines
import SinkPipeline.Text.Printable
import SinkPipeline.Text.Quoted
import SinkPipeline.Text.Ranges
import SinkPipeline.Text.Sigma
import SinkPipeline.Text.Utf8
import SinkPipeline.Text.Width
import SinkPipeline.Text.Word
import SinkPipeline.Walk
import SinkPipeline.Watch
import SinkPipeline.Workspace
