import HealthRules.Command.Machine
import HealthRules.Command.Report
import HealthRules.Comparison
import HealthRules.Config.Basic
import HealthRules.Config.Decode
import HealthRules.Config.Loading
import HealthRules.Config.Overlay
import HealthRules.Engine.Basic
import HealthRules.Engine.Building
import HealthRules.Engine.Evaluating
import HealthRules.Engine.Host
import HealthRules.Engine.Outcome
import HealthRules.Engine.Reading
import HealthRules.Evaluation
import HealthRules.Event
import HealthRules.History.Calendar
import HealthRules.History.Keeping
import HealthRules.History.Record
import HealthRules.Main
import HealthRules.Number.Binary64
import HealthRules.Number.NumberStyle
import HealthRules.Number.Numeral
import HealthRules.Number.Powers
import HealthRules.Number.Rounding
import HealthRules.Number.Shortest
import HealthRules.Pattern.ByteRuns
import HealthRules.Pattern.Cache
import HealthRules.Pattern.ClassParser
import HealthRules.Pattern.Depth
import HealthRules.Pattern.Escape
import HealthRules.Pattern.Expr
import HealthRules.Pattern.Fault
import HealthRules.Pattern.Footprint
import HealthRules.Pattern.Layout
import HealthRules.Pattern.Meaning
import HealthRules.Pattern.Parser
import HealthRules.Pattern.Reader
import HealthRules.Pattern.Regex
import HealthRules.Pattern.SlotTable
import HealthRules.Pattern.Syntax
import HealthRules.Pattern.Tally
import HealthRules.Pattern.Walk
import HealthRules.Pattern.WordTree
import HealthRules.Pattern.Words
import HealthRules.PatternTest
import HealthRules.Provider.Attribute
import HealthRules.Provider.Basic
import HealthRules.Provider.Builder
import HealthRules.Provider.Environment
import HealthRules.Provider.Evaluator
import HealthRules.Provider.Surroundings
import HealthRules.Provider.World
import HealthRules.Registry
import HealthRules.Rule.Basic
import HealthRules.Rule.Batch
import HealthRules.Rule.Definition
import HealthRules.Rule.Line
import HealthRules.Session
import HealthRules.Session.Registries
import HealthRules.Setup
import HealthRules.Status
import HealthRules.Storage
import HealthRules.Text.Blank
import HealthRules.Text.JsonText
import HealthRules.Text.Lines
import HealthRules.Text.Quoted
import HealthRules.Text.Utf8
import HealthRules.Toml.Document
import HealthRules.Toml.Reader
import HealthRules.Toml.Scalar
import HealthRules.Toml.Text
import HealthRules.Toml.Value
import HealthRules.Unicode.Additions
import HealthRules.Unicode.Age
import HealthRules.Unicode.CaseFold
import HealthRules.Unicode.Category
import HealthRules.Unicode.CharSet
import HealthRules.Unicode.Property
import HealthRules.Unicode.Query
import HealthRules.Unicode.Script
import HealthRules.Unicode.Segmentation
import HealthRules.Value
import HealthRules.Proofs.Command.Reporting
import HealthRules.Proofs.Config.Acceptance
import HealthRules.Proofs.Config.Confinement
import HealthRules.Proofs.Config.LineIndependence
import HealthRules.Proofs.Config.Merging
import HealthRules.Proofs.Config.Mirroring
import HealthRules.Proofs.Config.NormalForm
import HealthRules.Proofs.Config.ProviderOrder
import HealthRules.Proofs.Config.Reapplying
import HealthRules.Proofs.Config.Registration
import HealthRules.Proofs.Engine.Accounting
import HealthRules.Proofs.Engine.Calls
import HealthRules.Proofs.Engine.Choosing
import HealthRules.Proofs.Engine.Extension
import HealthRules.Proofs.Engine.Histories
import HealthRules.Proofs.Engine.Isolation
import HealthRules.Proofs.Engine.Judging
import HealthRules.Proofs.Engine.Passes
import HealthRules.Proofs.Engine.Registrations
import HealthRules.Proofs.Engine.RuleList
import HealthRules.Proofs.Engine.Steady
import HealthRules.Proofs.History.Appending
import HealthRules.Proofs.History.Chronology
import HealthRules.Proofs.History.Columns
import HealthRules.Proofs.History.Gregorian
import HealthRules.Proofs.History.Opening
import HealthRules.Proofs.History.Timestamps
import HealthRules.Proofs.Number.CanonicalTexts
import HealthRules.Proofs.Number.Nearest
import HealthRules.Proofs.Number.Numerals
import HealthRules.Proofs.Number.Operators
import HealthRules.Proofs.Number.Overflow
import HealthRules.Proofs.Number.ReadBack
import HealthRules.Proofs.Pattern.Caching
import HealthRules.Proofs.Pattern.Keeping
import HealthRules.Proofs.Provider.Answers
import HealthRules.Proofs.Provider.CanonicalValues
import HealthRules.Proofs.Provider.Comparisons
import HealthRules.Proofs.Provider.Complements
import HealthRules.Proofs.Provider.Counters
import HealthRules.Proofs.Provider.Disjointness
import HealthRules.Proofs.Provider.Effects
import HealthRules.Proofs.Provider.IntegerComparisons
import HealthRules.Proofs.Provider.Memory
import HealthRules.Proofs.Provider.PatternUses
import HealthRules.Proofs.Provider.SingleReading
import HealthRules.Proofs.Provider.Strictness
import HealthRules.Proofs.Provider.Variables
import HealthRules.Proofs.Rule.Batches
import HealthRules.Proofs.Rule.ByteLines
import HealthRules.Proofs.Rule.Composition
import HealthRules.Proofs.Rule.Fields
import HealthRules.Proofs.Rule.Grammar
import HealthRules.Proofs.Rule.LineEndings
import HealthRules.Proofs.Rule.Rendering
import HealthRules.Proofs.Rule.RoundTrip
import HealthRules.Proofs.Rule.SourceText
import HealthRules.Proofs.Session.Ownership
import HealthRules.Proofs.Session.References
import HealthRules.Proofs.Text.EncodedText
import HealthRules.Proofs.Text.JsonReading
import HealthRules.Proofs.Text.LineBreaks
import HealthRules.Proofs.Text.Trimming
import HealthRules.Proofs.Text.Utf8Coding
import HealthRules.Proofs.Text.Words
