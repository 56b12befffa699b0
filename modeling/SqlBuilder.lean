import SqlBuilder.Binding.BindText
import SqlBuilder.Binding.Lexeme
import SqlBuilder.Binding.Named
import SqlBuilder.Builder.Basic
import SqlBuilder.Builder.Change
import SqlBuilder.Builder.Conditions
import SqlBuilder.Builder.Request
import SqlBuilder.Engine.Blueprint
import SqlBuilder.Engine.EngineAdapter
import SqlBuilder.Engine.Host
import SqlBuilder.Engine.Owner
import SqlBuilder.Failure
import SqlBuilder.Number.Binary64
import SqlBuilder.Number.Decimal
import SqlBuilder.Number.Digits
import SqlBuilder.Number.FloatText
import SqlBuilder.Number.Shortest
import SqlBuilder.Proofs.Binding.Agreement
import SqlBuilder.Proofs.Binding.Handwritten
import SqlBuilder.Proofs.Binding.Lexing
import SqlBuilder.Proofs.Binding.Pattern
import SqlBuilder.Proofs.Binding.Quoting
import SqlBuilder.Proofs.Binding.Scanning
import SqlBuilder.Proofs.Binding.Stretches
import SqlBuilder.Proofs.Binding.Verbatim
import SqlBuilder.Proofs.Builder.DataValues
import SqlBuilder.Proofs.Builder.Failures
import SqlBuilder.Proofs.Builder.Filtering
import SqlBuilder.Proofs.Builder.KeyOrder
import SqlBuilder.Proofs.Builder.Overriding
import SqlBuilder.Proofs.Builder.Reachable
import SqlBuilder.Proofs.Builder.RefusedWrites
import SqlBuilder.Proofs.Builder.Reordering
import SqlBuilder.Proofs.Builder.Returning
import SqlBuilder.Proofs.Builder.Splitting
import SqlBuilder.Proofs.Builder.Steps
import SqlBuilder.Proofs.Builder.Words
import SqlBuilder.Proofs.Engine.Block
import SqlBuilder.Proofs.Engine.Cleanup
import SqlBuilder.Proofs.Engine.Disposal
import SqlBuilder.Proofs.Engine.DryRun
import SqlBuilder.Proofs.Engine.Lending
import SqlBuilder.Proofs.Engine.Owner
import SqlBuilder.Proofs.Engine.Ownership
import SqlBuilder.Proofs.Engine.Pool
import SqlBuilder.Proofs.Engine.Preparing
import SqlBuilder.Proofs.Engine.Sharing
import SqlBuilder.Proofs.Engine.Trace
import SqlBuilder.Proofs.Engine.Transaction
import SqlBuilder.Proofs.Engine.Willing
import SqlBuilder.Proofs.Engine.World
import SqlBuilder.Proofs.Number.Digits
import SqlBuilder.Proofs.Number.Written
import SqlBuilder.Proofs.Schema.AllowedDefaults
import SqlBuilder.Proofs.Schema.DefaultFailures
import SqlBuilder.Proofs.Schema.JsonDefaults
import SqlBuilder.Proofs.Schema.LiteralGrammar
import SqlBuilder.Proofs.Schema.LiteralText
import SqlBuilder.Proofs.Schema.Options
import SqlBuilder.Proofs.Schema.Supported
import SqlBuilder.Proofs.Schema.TableReading
import SqlBuilder.Proofs.Schema.Unquoted
import SqlBuilder.Proofs.Session.Creating
import SqlBuilder.Proofs.Session.DataValues
import SqlBuilder.Proofs.Session.Demand
import SqlBuilder.Proofs.Session.Recording
import SqlBuilder.Proofs.Session.Sending
import SqlBuilder.Proofs.Session.Simulation
import SqlBuilder.Proofs.Session.WithoutRows
import SqlBuilder.Proofs.Statement.Composition
import SqlBuilder.Proofs.Statement.DataValues
import SqlBuilder.Proofs.Statement.Name
import SqlBuilder.Proofs.Statement.NameReading
import SqlBuilder.Proofs.Statement.Numbering
import SqlBuilder.Proofs.Statement.PartsReadBack
import SqlBuilder.Proofs.Statement.ReadBack
import SqlBuilder.Proofs.Statement.Reading
import SqlBuilder.Proofs.Statement.Refusals
import SqlBuilder.Proofs.Statement.Regular
import SqlBuilder.Proofs.Statement.Rows
import SqlBuilder.Proofs.Statement.Segments
import SqlBuilder.Proofs.Statement.Spelling
import SqlBuilder.Proofs.Statement.UnderWay
import SqlBuilder.Proofs.Statement.Unquoted
import SqlBuilder.Proofs.Statement.WordReading
import SqlBuilder.Proofs.Text.JsonString
import SqlBuilder.Proofs.Text.Nesting
import SqlBuilder.Proofs.Text.Sections
import SqlBuilder.Proofs.Url.Scheme
import SqlBuilder.Proofs.Value.Fields
import SqlBuilder.Proofs.Value.JsonReading
import SqlBuilder.Proofs.Value.JsonText
import SqlBuilder.Proofs.Value.Sorting
import SqlBuilder.Rejection
import SqlBuilder.Schema.Column
import SqlBuilder.Schema.ColumnDefinition
import SqlBuilder.Schema.ColumnType
import SqlBuilder.Schema.Literal
import SqlBuilder.Schema.Registry
import SqlBuilder.Session.Adapter
import SqlBuilder.Session.Conversation
import SqlBuilder.Session.Program
import SqlBuilder.Session.Recorder
import SqlBuilder.Statement.Basic
import SqlBuilder.Statement.Compiled
import SqlBuilder.Statement.Condition
import SqlBuilder.Statement.Draft
import SqlBuilder.Statement.Identifier
import SqlBuilder.Text.Characters
import SqlBuilder.Text.Quoted
import SqlBuilder.Url.Basic
import SqlBuilder.Url.Percent
import SqlBuilder.Url.Resolved
import SqlBuilder.Validation.Checked
import SqlBuilder.Validation.Fields
import SqlBuilder.Validation.Issue
import SqlBuilder.Validation.Record
import SqlBuilder.Validation.Scalar
import SqlBuilder.Validation.Schema
import SqlBuilder.Validation.Statement
import SqlBuilder.Value.Basic
import SqlBuilder.Value.Calendar
import SqlBuilder.Value.Equality
import SqlBuilder.Value.Fields
import SqlBuilder.Value.Json
import SqlBuilder.Value.Ordering
import SqlBuilder.Value.Shown
import SqlBuilder.Vocabulary
