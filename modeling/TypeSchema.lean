import TypeSchema.Classification
import TypeSchema.CommandLine.Arguments
import TypeSchema.CommandLine.Execution
import TypeSchema.Config.Basic
import TypeSchema.Config.Environment
import TypeSchema.Config.File
import TypeSchema.Diagnostic.Event
import TypeSchema.Diagnostic.Identifier
import TypeSchema.Digest
import TypeSchema.Generation.Document
import TypeSchema.Generation.Traversal
import TypeSchema.Graph.Collection
import TypeSchema.Graph.Constraint
import TypeSchema.Graph.Enumeration
import TypeSchema.Graph.Scalar
import TypeSchema.Graph.Shape
import TypeSchema.Graph.TypeGraph
import TypeSchema.GraphFile.Build
import TypeSchema.GraphFile.Decoder
import TypeSchema.GraphFile.Entry
import TypeSchema.GraphFile.JsonFormat
import TypeSchema.GraphFile.YamlFormat
import TypeSchema.Guard
import TypeSchema.Json.Numeral
import TypeSchema.Json.Printer
import TypeSchema.Json.Text
import TypeSchema.Json.Value
import TypeSchema.Main
import TypeSchema.Number.Binary64
import TypeSchema.Number.Bounds
import TypeSchema.Number.Nearest
import TypeSchema.Number.Shortest
import TypeSchema.Pattern.Parser
import TypeSchema.Pattern.Property
import TypeSchema.Pattern.Syntax
import TypeSchema.Pattern.Validity
import TypeSchema.Registry
import TypeSchema.Schema.Annotation
import TypeSchema.Schema.EnumEncoding
import TypeSchema.Schema.Example
import TypeSchema.Schema.Node
import TypeSchema.Schema.Nullability
import TypeSchema.Schema.Render
import TypeSchema.Schema.ScalarMapping
import TypeSchema.SortedMap
import TypeSchema.Text.Alphabetic
import TypeSchema.Text.Alphanumeric
import TypeSchema.Text.Blank
import TypeSchema.Text.CharTable
import TypeSchema.Text.LetterCase
import TypeSchema.Text.Numeral
import TypeSchema.Text.Sanitized
import TypeSchema.Text.Words
import TypeSchema.Toml.Text
import TypeSchema.Toml.Value
import TypeSchema.TypeExpr.Basic
import TypeSchema.TypeExpr.Parser
import TypeSchema.Yaml.Cursor
import TypeSchema.Yaml.Parser
import TypeSchema.Yaml.Scalars
import TypeSchema.Yaml.Scanner
import TypeSchema.Yaml.Token
import TypeSchema.Yaml.Value
import TypeSchema.Yaml.Writer
import TypeSchema.Proofs.Generation.Step
import TypeSchema.Proofs.Registry
import TypeSchema.Proofs.Schema.Arena
import TypeSchema.Proofs.Generation.Growth
import TypeSchema.Proofs.Generation.Links
import TypeSchema.Proofs.Generation.Run
import TypeSchema.Proofs.Generation.Resolution
import TypeSchema.Proofs.Graph.Built
import TypeSchema.Proofs.Generation.Ends
import TypeSchema.Proofs.Generation.Termination
import TypeSchema.Proofs.Graph.Relabelling
import TypeSchema.Proofs.Generation.Lockstep
import TypeSchema.Proofs.Generation.Determinism
import TypeSchema.Proofs.Generation.Described
import TypeSchema.Proofs.Generation.Existence
import TypeSchema.Proofs.Generation.Preservation
import TypeSchema.Proofs.Registry.History
import TypeSchema.Proofs.Graph.Founded
import TypeSchema.Proofs.GraphFile.Loaded
import TypeSchema.Proofs.Graph.Bases
import TypeSchema.Proofs.Generation.Faults
import TypeSchema.Proofs.Meaning.Keywords
import TypeSchema.Proofs.Generation.Recorded
import TypeSchema.Proofs.Generation.Keywords
import TypeSchema.Proofs.Generation.Actions
import TypeSchema.Proofs.Schema.Path
import TypeSchema.Proofs.Generation.Nodes
import TypeSchema.Proofs.Generation.DepthBound
import TypeSchema.Proofs.Generation.Once
import TypeSchema.Proofs.Generation.Identifiers
import TypeSchema.Proofs.Generation.Coverage
import TypeSchema.Proofs.Generation.Depths
import TypeSchema.Proofs.Generation.Frame
import TypeSchema.Proofs.Generation.Pushes
import TypeSchema.Proofs.Schema.Grounded
import TypeSchema.Proofs.Generation.Grounding
import TypeSchema.Proofs.Schema.Nullable
import TypeSchema.Proofs.Generation.Nullability
import TypeSchema.Proofs.Generation.Reports
import TypeSchema.Proofs.Generation.Assembly
import TypeSchema.Proofs.Generation.Repetition
import TypeSchema.Proofs.SortedMap.Related
import TypeSchema.Proofs.SortedMap.Rekeyed
import TypeSchema.Proofs.Generation.Views
import TypeSchema.Proofs.Generation.Examples
import TypeSchema.Proofs.Schema.Renaming
import TypeSchema.Proofs.Parallel
import TypeSchema.Proofs.Registry.Coupled
import TypeSchema.Proofs.Generation.Independence
import TypeSchema.Proofs.Schema.Fitting
import TypeSchema.Proofs.Generation.Sampling
import TypeSchema.Proofs.Schema.Sampled
import TypeSchema.Proofs.Generation.Versions
import TypeSchema.Proofs.Schema.Counts
import TypeSchema.Proofs.Generation.Placeholders
import TypeSchema.Proofs.Generation.Accounts
import TypeSchema.Proofs.Generation.Targets
import TypeSchema.Proofs.Graph.Interning
import TypeSchema.Proofs.RelatedLists
import TypeSchema.Proofs.GraphFile.Readings
import TypeSchema.Proofs.GraphFile.Names
import TypeSchema.Proofs.GraphFile.Declaring
import TypeSchema.Proofs.GraphFile.Definitions
import TypeSchema.Proofs.TypeExpr.Parser
import TypeSchema.Proofs.GraphFile.Entries
import TypeSchema.Proofs.GraphFile.Alike
import TypeSchema.Proofs.GraphFile.Settled
import TypeSchema.Proofs.GraphFile.AnyOrder
import TypeSchema.Proofs.GraphFile.Order
import TypeSchema.Proofs.TypeExpr.Grammar
import TypeSchema.Proofs.GraphFile.Fields
import TypeSchema.Proofs.GraphFile.Scoping
import TypeSchema.Proofs.GraphFile.Shapes
import TypeSchema.Proofs.GraphFile.Congruence
import TypeSchema.Proofs.TypeExpr.Spelling
import TypeSchema.Proofs.Guard
import TypeSchema.Proofs.Schema.Enumerations
import TypeSchema.Proofs.Registry.Slots
import TypeSchema.Proofs.Schema.Annotation
import TypeSchema.Proofs.Generation.Objects
import TypeSchema.Proofs.Generation.Members
import TypeSchema.Proofs.Meaning.Lengths
import TypeSchema.Proofs.Schema.Sequences
import TypeSchema.Proofs.Generation.Bounds
import TypeSchema.Proofs.Graph.Operations
import TypeSchema.Proofs.Schema.AdmittingNull
import TypeSchema.Proofs.Schema.Exampled
import TypeSchema.Proofs.Generation.FieldExamples
import TypeSchema.Proofs.Generation.Visited
import TypeSchema.Proofs.Generation.Shadows
import TypeSchema.Proofs.Generation.Overrides
import TypeSchema.Proofs.Generation.Ignored
import TypeSchema.Proofs.GraphFile.Requests
import TypeSchema.Proofs.GraphFile.Lookup
import TypeSchema.Proofs.Text.Sanitized
import TypeSchema.Proofs.Meaning.Numbers
import TypeSchema.Proofs.Schema.Walk
import TypeSchema.Proofs.Graph.Index
import TypeSchema.Proofs.Generation.Clock
