import YamlOrder.Batch
import YamlOrder.BuildInfo
import YamlOrder.Collation.Collator
import YamlOrder.Collation.Element
import YamlOrder.Collation.Han.Jis
import YamlOrder.Collation.Han.Pinyin
import YamlOrder.Collation.Han.Reading
import YamlOrder.Collation.Han.Stroke
import YamlOrder.Collation.Root.Compound
import YamlOrder.Collation.Root.Forms
import YamlOrder.Collation.Root.Order
import YamlOrder.Collation.Root.Spelling
import YamlOrder.Collation.Rules
import YamlOrder.Collation.Rules.Japanese
import YamlOrder.Collation.Rules.Syllabic
import YamlOrder.Collation.Segment
import YamlOrder.Collation.Table
import YamlOrder.Collation.Tailoring
import YamlOrder.Command.Completion
import YamlOrder.Command.Dispatch
import YamlOrder.Command.Flag
import YamlOrder.Command.Menu
import YamlOrder.Comment.Basic
import YamlOrder.Config.Decode
import YamlOrder.Config.Double
import YamlOrder.Config.Dump
import YamlOrder.Config.Literal
import YamlOrder.Config.Loader
import YamlOrder.Config.Reading
import YamlOrder.Config.Scalar
import YamlOrder.Config.Value
import YamlOrder.Document
import YamlOrder.Error
import YamlOrder.FileTree
import YamlOrder.Json.Basic
import YamlOrder.Language.Subtag
import YamlOrder.Language.Tag
import YamlOrder.Layout.Basic
import YamlOrder.LineRange
import YamlOrder.Log.Basic
import YamlOrder.Log.Line
import YamlOrder.Log.Terminal
import YamlOrder.Main
import YamlOrder.Order.Keys
import YamlOrder.Profile
import YamlOrder.Program
import YamlOrder.Proofs.Batch.Isolation
import YamlOrder.Proofs.Batch.Overwrite
import YamlOrder.Proofs.Command.Typed
import YamlOrder.Proofs.Comment.Apply
import YamlOrder.Proofs.Comment.Extend
import YamlOrder.Proofs.Comment.Kept
import YamlOrder.Proofs.Comment.RoundTrip
import YamlOrder.Proofs.Comment.Travel
import YamlOrder.Proofs.Comment.Weave
import YamlOrder.Proofs.Config.Fields
import YamlOrder.Proofs.Config.Keywords
import YamlOrder.Proofs.Config.Priority
import YamlOrder.Proofs.Document.Lines
import YamlOrder.Proofs.Document.Normal
import YamlOrder.Proofs.Document.Parts
import YamlOrder.Proofs.Document.Rejoin
import YamlOrder.Proofs.Event.Control
import YamlOrder.Proofs.Event.Outline
import YamlOrder.Proofs.Folding.BlockScalar
import YamlOrder.Proofs.Folding.Fetch
import YamlOrder.Proofs.Folding.Fork
import YamlOrder.Proofs.Folding.Line
import YamlOrder.Proofs.Folding.Place
import YamlOrder.Proofs.Folding.Run
import YamlOrder.Proofs.Folding.Scanner
import YamlOrder.Proofs.Folding.Trace
import YamlOrder.Proofs.Folding.Wrap
import YamlOrder.Proofs.Layout.BlankLine
import YamlOrder.Proofs.Layout.Break
import YamlOrder.Proofs.Layout.Cut
import YamlOrder.Proofs.Layout.Greedy
import YamlOrder.Proofs.Layout.Transparent
import YamlOrder.Proofs.Layout.Wrapped
import YamlOrder.Proofs.LineRange.Selection
import YamlOrder.Proofs.Notes.BlockScalar
import YamlOrder.Proofs.Notes.Crossing
import YamlOrder.Proofs.Notes.Gap
import YamlOrder.Proofs.Notes.Run
import YamlOrder.Proofs.Notes.Text
import YamlOrder.Proofs.Order.Total
import YamlOrder.Proofs.Printer.Node
import YamlOrder.Proofs.Printer.Respelled
import YamlOrder.Proofs.Printer.Scalar
import YamlOrder.Proofs.Scalar.Reading
import YamlOrder.Proofs.Scalar.Verbatim
import YamlOrder.Proofs.Scalar.Writing
import YamlOrder.Proofs.Shield.Counter
import YamlOrder.Proofs.Shield.Hide
import YamlOrder.Proofs.Shield.InPlace
import YamlOrder.Proofs.Shield.Intact
import YamlOrder.Proofs.Shield.LineEnd
import YamlOrder.Proofs.Shield.Lost
import YamlOrder.Proofs.Shield.Match
import YamlOrder.Proofs.Shield.Moved
import YamlOrder.Proofs.Shield.Octal
import YamlOrder.Proofs.Shield.Piece
import YamlOrder.Proofs.Shield.Quoting
import YamlOrder.Proofs.Shield.Renumber
import YamlOrder.Proofs.Shield.Restore
import YamlOrder.Proofs.Shield.Reworded
import YamlOrder.Proofs.Shield.RoundTrip
import YamlOrder.Proofs.Shield.SpeltOut
import YamlOrder.Proofs.Shield.Template
import YamlOrder.Proofs.Shield.Token
import YamlOrder.Proofs.Shield.Turn
import YamlOrder.Proofs.Sorter.Again
import YamlOrder.Proofs.Sorter.Idempotent
import YamlOrder.Proofs.Sorter.Meaning
import YamlOrder.Proofs.Sorter.Outcome
import YamlOrder.Proofs.Sorter.Pipeline
import YamlOrder.Proofs.Sorter.Rerun
import YamlOrder.Proofs.Sorter.Templates
import YamlOrder.Proofs.Sorter.Transparency
import YamlOrder.Proofs.Spacing.Basic
import YamlOrder.Proofs.Spacing.BlockScalar
import YamlOrder.Proofs.Spacing.Comment
import YamlOrder.Proofs.Spacing.Cursor
import YamlOrder.Proofs.Spacing.Fetch
import YamlOrder.Proofs.Spacing.FlowScalar
import YamlOrder.Proofs.Spacing.Name
import YamlOrder.Proofs.Spacing.Parser
import YamlOrder.Proofs.Spacing.Scanner
import YamlOrder.Proofs.Spacing.Source
import YamlOrder.Proofs.Spacing.Tree
import YamlOrder.Proofs.Spacing.Value
import YamlOrder.Proofs.Text.Blank
import YamlOrder.Proofs.Text.Lines
import YamlOrder.Proofs.Text.Numeral
import YamlOrder.Proofs.Text.Search
import YamlOrder.Proofs.Text.Utf8
import YamlOrder.Proofs.Tree.Arrange
import YamlOrder.Proofs.Tree.Bare
import YamlOrder.Proofs.Tree.Canonical
import YamlOrder.Proofs.Tree.Children
import YamlOrder.Proofs.Tree.Extract
import YamlOrder.Proofs.Tree.Hierarchy
import YamlOrder.Proofs.Tree.KeyOrder
import YamlOrder.Proofs.Tree.Linked
import YamlOrder.Proofs.Tree.Live
import YamlOrder.Proofs.Tree.Mention
import YamlOrder.Proofs.Tree.Parsed
import YamlOrder.Proofs.Tree.Rename
import YamlOrder.Proofs.Tree.Reorder
import YamlOrder.Proofs.Tree.Repair
import YamlOrder.Proofs.Tree.Scope
import YamlOrder.Proofs.Tree.Settle
import YamlOrder.Proofs.Tree.Step
import YamlOrder.Proofs.Tree.Styled
import YamlOrder.Proofs.Tree.Verdict
import YamlOrder.Proofs.Tree.Walk
import YamlOrder.Schema
import YamlOrder.Settings
import YamlOrder.Settings.Field
import YamlOrder.Settings.JsonSchema
import YamlOrder.Shield.Pattern
import YamlOrder.Shield.Substitution
import YamlOrder.Sorter
import YamlOrder.Sorter.Trace
import YamlOrder.Text.Base64
import YamlOrder.Text.Basic
import YamlOrder.Text.Csv
import YamlOrder.Text.Dedent
import YamlOrder.Text.Integer
import YamlOrder.Text.Lower
import YamlOrder.Text.Quoted
import YamlOrder.Text.Utf8
import YamlOrder.Tree.Arrange
import YamlOrder.Tree.Check
import YamlOrder.Tree.Style
import YamlOrder.Yaml.CharClass
import YamlOrder.Yaml.Cursor
import YamlOrder.Yaml.Event.Parser
import YamlOrder.Yaml.Fault
import YamlOrder.Yaml.Node
import YamlOrder.Yaml.Node.Compose
import YamlOrder.Yaml.Node.Render
import YamlOrder.Yaml.Printer
import YamlOrder.Yaml.Scalar.Analysis
import YamlOrder.Yaml.Scalar.Number
import YamlOrder.Yaml.Scalar.Timestamp
import YamlOrder.Yaml.Source
import YamlOrder.Yaml.Strict
import YamlOrder.Yaml.Strict.Cluster
import YamlOrder.Yaml.Strict.Indicator
import YamlOrder.Yaml.Strict.Lexer
import YamlOrder.Yaml.Strict.Scalar
import YamlOrder.Yaml.Tag
import YamlOrder.Yaml.Token
import YamlOrder.Yaml.Token.Comment
import YamlOrder.Yaml.Token.Name
import YamlOrder.Yaml.Token.Scalar
import YamlOrder.Yaml.Token.Scanner
