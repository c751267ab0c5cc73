import Phrasebook.Bundle.Assembly
import Phrasebook.Bundle.Basic
import Phrasebook.Bundle.Definition
import Phrasebook.Bundle.Error
import Phrasebook.Bundle.Loading
import Phrasebook.Bundle.Resolver
import Phrasebook.Bundle.Validation
import Phrasebook.Catalog
import Phrasebook.CommandLine.Arguments
import Phrasebook.CommandLine.Run
import Phrasebook.Completion.Basic
import Phrasebook.Completion.Join
import Phrasebook.Config.Basic
import Phrasebook.Config.Loading
import Phrasebook.Decimal.Binary64
import Phrasebook.Decimal.Reading
import Phrasebook.Decimal.Shortest
import Phrasebook.Dictionary
import Phrasebook.Document.Basic
import Phrasebook.Document.Format
import Phrasebook.Document.Nesting
import Phrasebook.Document.Printer
import Phrasebook.Document.Record
import Phrasebook.Engine.Basic
import Phrasebook.Engine.Evaluation
import Phrasebook.Engine.Render
import Phrasebook.Error
import Phrasebook.Expression.Basic
import Phrasebook.Expression.Document
import Phrasebook.Expression.Parser
import Phrasebook.Files
import Phrasebook.Instance
import Phrasebook.Journal
import Phrasebook.Json.Basic
import Phrasebook.Json.Number
import Phrasebook.Json.Printer
import Phrasebook.Json.Reader
import Phrasebook.Key
import Phrasebook.Main
import Phrasebook.Mapper
import Phrasebook.Memo
import Phrasebook.Proofs.BuiltIn.Index
import Phrasebook.Proofs.BuiltIn.Order
import Phrasebook.Proofs.BuiltIn.Render
import Phrasebook.Proofs.Bundle.Acceptance
import Phrasebook.Proofs.Bundle.Addition
import Phrasebook.Proofs.Bundle.Assembly
import Phrasebook.Proofs.Bundle.MessagesFile
import Phrasebook.Proofs.Bundle.Outline
import Phrasebook.Proofs.Bundle.Registration
import Phrasebook.Proofs.Bundle.Representation
import Phrasebook.Proofs.Callback.Firing
import Phrasebook.Proofs.Callback.Quiet
import Phrasebook.Proofs.Callback.Session
import Phrasebook.Proofs.CommandLine.Arguments
import Phrasebook.Proofs.CommandLine.Render
import Phrasebook.Proofs.Comparison.Evaluation
import Phrasebook.Proofs.Comparison.Message
import Phrasebook.Proofs.Comparison.Renaming
import Phrasebook.Proofs.Comparison.Render
import Phrasebook.Proofs.Completion.Commitment
import Phrasebook.Proofs.Completion.Conduct
import Phrasebook.Proofs.Completion.Drive
import Phrasebook.Proofs.Completion.Ends
import Phrasebook.Proofs.Completion.InStep
import Phrasebook.Proofs.Completion.Keeping
import Phrasebook.Proofs.Completion.Round
import Phrasebook.Proofs.Completion.Vouching
import Phrasebook.Proofs.Decimal.Rounding
import Phrasebook.Proofs.Dictionary
import Phrasebook.Proofs.Document.Expression
import Phrasebook.Proofs.Document.Value
import Phrasebook.Proofs.Evaluation.Discipline
import Phrasebook.Proofs.Flattening.Layer
import Phrasebook.Proofs.Flattening.Visit
import Phrasebook.Proofs.Foreign.Answer
import Phrasebook.Proofs.Foreign.Evaluation
import Phrasebook.Proofs.Foreign.Render
import Phrasebook.Proofs.Foreign.Watching
import Phrasebook.Proofs.Grammar.Acceptance
import Phrasebook.Proofs.Grammar.Boundary
import Phrasebook.Proofs.Grammar.Completeness
import Phrasebook.Proofs.Grammar.Integer
import Phrasebook.Proofs.Grammar.Natural
import Phrasebook.Proofs.Grammar.Numeral
import Phrasebook.Proofs.Grammar.Printing
import Phrasebook.Proofs.Grammar.Reading
import Phrasebook.Proofs.Grammar.Soundness
import Phrasebook.Proofs.Grammar.Tree
import Phrasebook.Proofs.Grammar.Unambiguity
import Phrasebook.Proofs.Joining.All
import Phrasebook.Proofs.Locale.Assembly
import Phrasebook.Proofs.Locale.Call
import Phrasebook.Proofs.Locale.Definition
import Phrasebook.Proofs.Locale.Propagation
import Phrasebook.Proofs.Locale.Registration
import Phrasebook.Proofs.Memoization.Board
import Phrasebook.Proofs.Memoization.Interleaving
import Phrasebook.Proofs.Message.Call
import Phrasebook.Proofs.Message.Catalog
import Phrasebook.Proofs.Message.Shortcut
import Phrasebook.Proofs.Message.Source
import Phrasebook.Proofs.Nesting.Depth
import Phrasebook.Proofs.Nesting.Evaluation
import Phrasebook.Proofs.Nesting.Outcome
import Phrasebook.Proofs.Nesting.Services
import Phrasebook.Proofs.Progress.Answer
import Phrasebook.Proofs.Progress.Course
import Phrasebook.Proofs.Progress.Lookup
import Phrasebook.Proofs.Progress.Nesting
import Phrasebook.Proofs.Progress.Render
import Phrasebook.Proofs.Progress.Standing
import Phrasebook.Proofs.Provenance.Answer
import Phrasebook.Proofs.Provenance.Blame
import Phrasebook.Proofs.Provenance.Evaluation
import Phrasebook.Proofs.Provenance.Render
import Phrasebook.Proofs.Registry
import Phrasebook.Proofs.Registry.Desk
import Phrasebook.Proofs.Registry.History
import Phrasebook.Proofs.Rerender.Stability
import Phrasebook.Proofs.Roster
import Phrasebook.Proofs.Scoping.Level
import Phrasebook.Proofs.Scoping.Weakening
import Phrasebook.Proofs.Sequential.Refinement
import Phrasebook.Proofs.Sharing.Course
import Phrasebook.Proofs.Sharing.Place
import Phrasebook.Proofs.Slicing.Cursor
import Phrasebook.Proofs.Slicing.Expression
import Phrasebook.Proofs.Slicing.Template
import Phrasebook.Proofs.Strictness.Render
import Phrasebook.Proofs.Template.Closing
import Phrasebook.Proofs.Template.Content
import Phrasebook.Proofs.Template.Embedding
import Phrasebook.Proofs.Template.Printing
import Phrasebook.Proofs.Template.Reading
import Phrasebook.Proofs.Template.Segmentation
import Phrasebook.Proofs.Text.Cutting
import Phrasebook.Proofs.Transparency.Lookup
import Phrasebook.Proofs.Transparency.Meaning
import Phrasebook.Proofs.Transparency.Render
import Phrasebook.Proofs.Turns.Order
import Phrasebook.Proofs.Validation.Confinement
import Phrasebook.Proofs.Validation.Namespace
import Phrasebook.Proofs.Validation.Parameter
import Phrasebook.Registry
import Phrasebook.Resolver.Basic
import Phrasebook.Resolver.BuiltIn
import Phrasebook.Result
import Phrasebook.Roster
import Phrasebook.Scene
import Phrasebook.Template.Basic
import Phrasebook.Template.Parser
import Phrasebook.Text.Case
import Phrasebook.Text.CaseTables
import Phrasebook.Text.Cutting
import Phrasebook.Text.Digit
import Phrasebook.Text.Letter
import Phrasebook.Text.LetterTables
import Phrasebook.Text.Quoted
import Phrasebook.Text.Remainder
import Phrasebook.Text.UnprintableTable
import Phrasebook.Yaml.BlockScalar
import Phrasebook.Yaml.Character
import Phrasebook.Yaml.Layout
import Phrasebook.Yaml.Node
import Phrasebook.Yaml.PlainScalar
import Phrasebook.Yaml.QuotedScalar
import Phrasebook.Yaml.Reader
import Phrasebook.Yaml.Token
