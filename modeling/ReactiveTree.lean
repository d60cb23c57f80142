import ReactiveTree.CommandLine.Help
import ReactiveTree.CommandLine.Request
import ReactiveTree.CommandLine.Response
import ReactiveTree.Decimal.Dyadic
import ReactiveTree.Decimal.Layout
import ReactiveTree.Decimal.Reading
import ReactiveTree.Decimal.Shortest
import ReactiveTree.Graph.Adjacency
import ReactiveTree.Graph.Basic
import ReactiveTree.Graph.Components
import ReactiveTree.Graph.Cycles
import ReactiveTree.Graph.Dependencies
import ReactiveTree.Graph.Levels
import ReactiveTree.Graph.Loop
import ReactiveTree.Json.Basic
import ReactiveTree.Json.Form
import ReactiveTree.Json.Reading
import ReactiveTree.Json.Writing
import ReactiveTree.Main
import ReactiveTree.Node.Access
import ReactiveTree.Node.Basic
import ReactiveTree.Node.Document
import ReactiveTree.Node.Listing
import ReactiveTree.Node.Plain
import ReactiveTree.Path
import ReactiveTree.Pattern.Ages
import ReactiveTree.Pattern.Basic
import ReactiveTree.Pattern.Breaks
import ReactiveTree.Pattern.Categories
import ReactiveTree.Pattern.Classes
import ReactiveTree.Pattern.Escapes
import ReactiveTree.Pattern.Folding
import ReactiveTree.Pattern.Listing
import ReactiveTree.Pattern.Properties
import ReactiveTree.Pattern.ReadState
import ReactiveTree.Pattern.Reading
import ReactiveTree.Pattern.Scripts
import ReactiveTree.Pattern.Sets
import ReactiveTree.Pattern.Size
import ReactiveTree.Reaction.Expressions
import ReactiveTree.Reaction.Pipeline
import ReactiveTree.Reaction.Snapshot
import ReactiveTree.Reaction.Validation
import ReactiveTree.Reaction.Watchers
import ReactiveTree.Scalar
import ReactiveTree.Settings
import ReactiveTree.Settings.Document
import ReactiveTree.Signal.Bus
import ReactiveTree.Signal.Event
import ReactiveTree.Signal.Telemetry
import ReactiveTree.Snippet.Access
import ReactiveTree.Snippet.Calls
import ReactiveTree.Snippet.Datum
import ReactiveTree.Snippet.Engine
import ReactiveTree.Snippet.Library.Basic
import ReactiveTree.Snippet.Library.Bits
import ReactiveTree.Snippet.Library.Blobs
import ReactiveTree.Snippet.Library.Callbacks
import ReactiveTree.Snippet.Library.Collections
import ReactiveTree.Snippet.Library.Numbers
import ReactiveTree.Snippet.Library.Texts
import ReactiveTree.Snippet.Library.Values
import ReactiveTree.Snippet.Limits
import ReactiveTree.Snippet.Machine
import ReactiveTree.Snippet.Operators
import ReactiveTree.Snippet.Parser
import ReactiveTree.Snippet.Parts
import ReactiveTree.Snippet.Position
import ReactiveTree.Snippet.Purity
import ReactiveTree.Snippet.Run
import ReactiveTree.Snippet.RunError
import ReactiveTree.Snippet.Simplify
import ReactiveTree.Snippet.Source
import ReactiveTree.Snippet.Syntax
import ReactiveTree.Snippet.Template
import ReactiveTree.Snippet.Token
import ReactiveTree.Text.Blank
import ReactiveTree.Text.Case
import ReactiveTree.Text.CaseRun
import ReactiveTree.Text.CharSet
import ReactiveTree.Text.Letters
import ReactiveTree.Text.Quoted
import ReactiveTree.Text.Utf8
import ReactiveTree.Text.Words
import ReactiveTree.Timestamp
import ReactiveTree.Toml.Basic
import ReactiveTree.Toml.Reading
import ReactiveTree.Tree.Basic
import ReactiveTree.Tree.Binding
import ReactiveTree.Tree.Call
import ReactiveTree.Tree.Container
import ReactiveTree.Tree.Export
import ReactiveTree.Tree.FlatMap
import ReactiveTree.Tree.Mutation
import ReactiveTree.Word64
import ReactiveTree.Proofs.Children
import ReactiveTree.Proofs.Listing
import ReactiveTree.Proofs.Resolution
import ReactiveTree.Proofs.Rules
import ReactiveTree.Proofs.Layout
import ReactiveTree.Proofs.Writes
import ReactiveTree.Proofs.Calls
import ReactiveTree.Proofs.Admission
import ReactiveTree.Proofs.Placement
import ReactiveTree.Proofs.Removal
import ReactiveTree.Proofs.Reordering
import ReactiveTree.Proofs.Snippet.Templates
import ReactiveTree.Proofs.Graph.Walks
import ReactiveTree.Proofs.Graph.Closing
import ReactiveTree.Proofs.Graph.Lifting
import ReactiveTree.Proofs.Graph.Levels
import ReactiveTree.Proofs.Graph.Longest
import ReactiveTree.Proofs.Graph.Growth
import ReactiveTree.Proofs.Graph.Reads
import ReactiveTree.Proofs.Graph.Representation
import ReactiveTree.Proofs.Graph.Scan
import ReactiveTree.Proofs.Graph.Lookups
import ReactiveTree.Proofs.Graph.Stack
import ReactiveTree.Proofs.Graph.Cutting
import ReactiveTree.Proofs.Graph.Components
import ReactiveTree.Proofs.Graph.Verdicts
import ReactiveTree.Proofs.Sameness
import ReactiveTree.Proofs.Reaction.Outcome
import ReactiveTree.Proofs.Reaction.Tasks
import ReactiveTree.Proofs.Reaction.Turns
import ReactiveTree.Proofs.Reaction.Passes
import ReactiveTree.Proofs.Reaction.Evaluation
import ReactiveTree.Proofs.Alike
import ReactiveTree.Proofs.Reaction.Settling
import ReactiveTree.Proofs.Reaction.Inputs
import ReactiveTree.Proofs.Reaction.Mirror
import ReactiveTree.Proofs.Reaction.Frame
import ReactiveTree.Proofs.Reaction.Checking
import ReactiveTree.Proofs.Reaction.Watching
import ReactiveTree.Proofs.Reaction.Quiescence
import ReactiveTree.Proofs.Reaction.Circular
import ReactiveTree.Proofs.Reaction.Reporting
import ReactiveTree.Proofs.Reaction.Jobs
import ReactiveTree.Proofs.Reaction.Histories
import ReactiveTree.Proofs.Reaction.Telemetry
import ReactiveTree.Proofs.Reaction.Readiness
import ReactiveTree.Proofs.Reaction.Causes
import ReactiveTree.Proofs.Documents.Snapshots
import ReactiveTree.Proofs.CommandLine.Reruns
import ReactiveTree.Proofs.Snippet.Keeping
import ReactiveTree.Proofs.Snippet.Failures
import ReactiveTree.Proofs.Snippet.Segments
import ReactiveTree.Proofs.Snippet.Normalization
import ReactiveTree.Proofs.Snippet.Scanning
import ReactiveTree.Proofs.Snippet.Structure
import ReactiveTree.Proofs.Snippet.Quoting
import ReactiveTree.Proofs.Snippet.Clear
import ReactiveTree.Proofs.Snippet.Skipping
import ReactiveTree.Proofs.Snippet.Numerals
import ReactiveTree.Proofs.Snippet.Lexing
import ReactiveTree.Proofs.Snippet.Bans
import ReactiveTree.Proofs.Reachable
import ReactiveTree.Proofs.Decimal.Doubles
import ReactiveTree.Proofs.Decimal.Rounding
import ReactiveTree.Proofs.Decimal.Nearest
import ReactiveTree.Proofs.Decimal.Shortest
import ReactiveTree.Proofs.Decimal.Whole
import ReactiveTree.Proofs.Json.Numerals
import ReactiveTree.Proofs.Json.Strings
import ReactiveTree.Proofs.Json.Sorting
import ReactiveTree.Proofs.Json.Texts
import ReactiveTree.Proofs.Json.Records
import ReactiveTree.Proofs.KeyOrder
import ReactiveTree.Proofs.Documents.Traits
import ReactiveTree.Proofs.Documents.Nodes
import ReactiveTree.Proofs.Documents.Saving
import ReactiveTree.Proofs.Plain
import ReactiveTree.Proofs.FlatMaps
import ReactiveTree.Proofs.Documents.Importing
import ReactiveTree.Proofs.Signal.Registry
import ReactiveTree.Proofs.Signal.Delivery
import ReactiveTree.Proofs.Reaction.Earliest
import ReactiveTree.Proofs.Syncing
import ReactiveTree.Proofs.Snippet.Views
import ReactiveTree.Proofs.Snippet.Assigning
