import SchemaSql.Artifact.Basic
import SchemaSql.Artifact.FileTree
import SchemaSql.Artifact.Write
import SchemaSql.Binary64.Basic
import SchemaSql.Binary64.Layout
import SchemaSql.Binary64.Reader
import SchemaSql.Binary64.Shortest
import SchemaSql.DataSource.Registry
import SchemaSql.Database.Exchange
import SchemaSql.Database.Operation
import SchemaSql.Database.Reply
import SchemaSql.Database.Sqlite
import SchemaSql.Database.Value
import SchemaSql.Decimal.Integer
import SchemaSql.Decimal.Numeral
import SchemaSql.Declaration.Basic
import SchemaSql.Declaration.Fields
import SchemaSql.Declaration.HostType
import SchemaSql.Dialect.Basic
import SchemaSql.Dialect.Types
import SchemaSql.Engine.DataSource
import SchemaSql.Engine.Sqlite
import SchemaSql.Error
import SchemaSql.Fallible
import SchemaSql.Field.Basic
import SchemaSql.Field.Fingerprint
import SchemaSql.Identifier
import SchemaSql.Instant.Basic
import SchemaSql.Instant.Date
import SchemaSql.Instant.Parser
import SchemaSql.Instant.Printer
import SchemaSql.Json.Basic
import SchemaSql.Json.Number
import SchemaSql.Json.Parser
import SchemaSql.Json.Printer
import SchemaSql.Json.Read
import SchemaSql.Json.Record
import SchemaSql.Json.Written
import SchemaSql.Keyed
import SchemaSql.Predicate.Basic
import SchemaSql.Predicate.Join
import SchemaSql.Proofs.Artifact.Constants
import SchemaSql.Proofs.Artifact.Links
import SchemaSql.Proofs.Artifact.Literals
import SchemaSql.Proofs.Artifact.Location
import SchemaSql.Proofs.Artifact.Mixing
import SchemaSql.Proofs.Artifact.Run
import SchemaSql.Proofs.Artifact.Tree
import SchemaSql.Proofs.Binary64.Range
import SchemaSql.Proofs.Condition.Reader
import SchemaSql.Proofs.Condition.Token
import SchemaSql.Proofs.Condition.Truth
import SchemaSql.Proofs.DataSource.FirstWins
import SchemaSql.Proofs.Database.Attribution
import SchemaSql.Proofs.Database.JoinedRows
import SchemaSql.Proofs.Database.Session
import SchemaSql.Proofs.Database.Storage
import SchemaSql.Proofs.Declaration.Declared
import SchemaSql.Proofs.Declaration.Directive
import SchemaSql.Proofs.Declaration.Flattening
import SchemaSql.Proofs.Declaration.Grammar
import SchemaSql.Proofs.Declaration.Visit
import SchemaSql.Proofs.Declaration.Written
import SchemaSql.Proofs.Field.Framing
import SchemaSql.Proofs.Field.Order
import SchemaSql.Proofs.Instant.Calendar
import SchemaSql.Proofs.Instant.Parts
import SchemaSql.Proofs.Instant.RoundTrip
import SchemaSql.Proofs.Instant.Spelling
import SchemaSql.Proofs.Json.Literal
import SchemaSql.Proofs.Json.Reading
import SchemaSql.Proofs.Predicate.Gathering
import SchemaSql.Proofs.Predicate.Layout
import SchemaSql.Proofs.Predicate.Occurrence
import SchemaSql.Proofs.Predicate.Proper
import SchemaSql.Proofs.Predicate.Reading
import SchemaSql.Proofs.Scalar.Canonical
import SchemaSql.Proofs.Scalar.Integer
import SchemaSql.Proofs.Schema.Acceptance
import SchemaSql.Proofs.Schema.Fingerprint
import SchemaSql.Proofs.Schema.Label
import SchemaSql.Proofs.Schema.Made
import SchemaSql.Proofs.Schema.Revalidation
import SchemaSql.Proofs.Statement.Assembly
import SchemaSql.Proofs.Statement.Binding
import SchemaSql.Proofs.Statement.ColumnLists
import SchemaSql.Proofs.Statement.Emptiness
import SchemaSql.Proofs.Statement.IndexName
import SchemaSql.Proofs.Statement.Inlining
import SchemaSql.Proofs.Statement.Placeholder
import SchemaSql.Proofs.Statement.Quoting
import SchemaSql.Proofs.Statement.Request
import SchemaSql.Proofs.Statement.Separation
import SchemaSql.Proofs.Statement.Shape
import SchemaSql.Proofs.Statement.Spelling
import SchemaSql.Proofs.Statement.TableDefinition
import SchemaSql.Proofs.Statement.Text
import SchemaSql.Proofs.Statement.Uniqueness
import SchemaSql.Proofs.Statement.Writing
import SchemaSql.Proofs.Steps
import SchemaSql.Proofs.Text.ByteOrder
import SchemaSql.Proofs.Text.Case
import SchemaSql.Proofs.Text.LiteralReading
import SchemaSql.Proofs.Text.SnakeCase
import SchemaSql.Proofs.Text.Trimming
import SchemaSql.Proofs.Transcript
import SchemaSql.RecordValue
import SchemaSql.Scalar.Basic
import SchemaSql.Scalar.Coerce
import SchemaSql.Schema.Basic
import SchemaSql.Schema.Row
import SchemaSql.Schema.Validate
import SchemaSql.Sha256
import SchemaSql.SnakeCase
import SchemaSql.Statement.Assembly
import SchemaSql.Statement.Build
import SchemaSql.Statement.Fragment
import SchemaSql.Statement.TableScript
import SchemaSql.Tag
import SchemaSql.Text.Blank
import SchemaSql.Text.CaseMap
import SchemaSql.Text.CaseTable
import SchemaSql.Text.CasedTable
import SchemaSql.Text.Cluster
import SchemaSql.Text.ClusterTable
import SchemaSql.Text.Doubled
import SchemaSql.Text.ExtendTable
import SchemaSql.Text.Literal
import SchemaSql.Text.Split
import SchemaSql.Text.UnprintableTable
import SchemaSql.Text.Utf8
