import RowMap.Bookshelf.Books
import RowMap.Bookshelf.Exchange
import RowMap.Bookshelf.Models
import RowMap.Bookshelf.Plans
import RowMap.Bookshelf.Service
import RowMap.Calendar.Date
import RowMap.Calendar.Instant
import RowMap.Calendar.Text
import RowMap.Connection.Address
import RowMap.Connection.Basic
import RowMap.Connection.KeyValue
import RowMap.Connection.Options
import RowMap.Connection.Uri
import RowMap.Decimal.Binary
import RowMap.Decimal.Layout
import RowMap.Decimal.Reading
import RowMap.Decimal.Shortest
import RowMap.Declaration.Attribute
import RowMap.Declaration.AttributeReader
import RowMap.Declaration.Basic
import RowMap.Declaration.Phrase
import RowMap.Declaration.Token
import RowMap.Declaration.TokenReader
import RowMap.Declaration.TypeExpr
import RowMap.Declaration.TypeReader
import RowMap.Document.Connection
import RowMap.Document.Declaration
import RowMap.Document.Failure
import RowMap.Document.Paging
import RowMap.Document.Record
import RowMap.Document.Settings
import RowMap.Document.Shape
import RowMap.Document.Statement
import RowMap.Document.Value
import RowMap.Document.Vocabulary
import RowMap.Document.Wire
import RowMap.Error
import RowMap.Json.Basic
import RowMap.Json.Parts
import RowMap.Json.Printer
import RowMap.Json.Reader
import RowMap.Paging.Filters
import RowMap.Paging.Query
import RowMap.Proofs.Statement.Marked
import RowMap.Proofs.Statement.Marker
import RowMap.Proofs.Statement.Template
import RowMap.Record.Columns
import RowMap.Record.Convert
import RowMap.Record.Mapped
import RowMap.Record.Meta
import RowMap.Record.Scan
import RowMap.Record.Shape
import RowMap.Record.Tree
import RowMap.Row
import RowMap.Session
import RowMap.Session.Script
import RowMap.Settings.Basic
import RowMap.Settings.Tree
import RowMap.Statement.Basic
import RowMap.Statement.Condition
import RowMap.Statement.Marker
import RowMap.Statement.Select
import RowMap.Statement.Template
import RowMap.Statement.Write
import RowMap.Text.Characters
import RowMap.Text.CaseIgnorable
import RowMap.Text.Cased
import RowMap.Text.Bytes
import RowMap.Text.Lowercase
import RowMap.Text.Quoted
import RowMap.Text.Scanner
import RowMap.Text.Split
import RowMap.Text.Truncated
import RowMap.Text.Unshown
import RowMap.Toml.Basic
import RowMap.Toml.Number
import RowMap.Toml.Reader
import RowMap.Toml.Text
import RowMap.Trace
import RowMap.Transaction
import RowMap.Validation
import RowMap.Value.Basic
import RowMap.Value.Enumeration
import RowMap.Value.Scalar
import RowMap.Wire.Bytes
import RowMap.Wire.Format
import RowMap.Wire.Script
import RowMap.Wire.Server
import RowMap.Writer
import RowMap.Proofs.Sql.Lexeme
import RowMap.Proofs.Sql.Reading
import RowMap.Proofs.Statement.Clause
import RowMap.Proofs.Statement.Conjunction
import RowMap.Proofs.Statement.Parts
import RowMap.Proofs.Statement.Clauses
import RowMap.Proofs.Statement.SelectParts
import RowMap.Proofs.Statement.WriteParts
import RowMap.Proofs.Statement.Construction
import RowMap.Proofs.Session.Bracket
import RowMap.Proofs.Session.Writing
import RowMap.Proofs.Bookshelf.FailedWrites
import RowMap.Proofs.Store.Command
import RowMap.Proofs.Store.Table
import RowMap.Proofs.Store.Writes
import RowMap.Proofs.Session.Dialogue
import RowMap.Proofs.Store.Clients
import RowMap.Proofs.Store.History
import RowMap.Proofs.Record.Binding
import RowMap.Proofs.Record.Rows
import RowMap.Proofs.Record.Rescan
import RowMap.Proofs.Record.Entries
import RowMap.Proofs.Record.Matching
import RowMap.Proofs.Record.Counterpart
import RowMap.Proofs.Record.Paths
import RowMap.Proofs.Record.RoundTrip
import RowMap.Proofs.Record.Treatment
import RowMap.Proofs.Session.Transcript
import RowMap.Proofs.Savepoint.Control
import RowMap.Proofs.Savepoint.Database
import RowMap.Proofs.Savepoint.Calls
import RowMap.Proofs.Savepoint.Nesting
import RowMap.Proofs.Savepoint.Snapshots
import RowMap.Proofs.Savepoint.Overlap
import RowMap.Proofs.Session.Failures
import RowMap.Proofs.Savepoint.Reentry
import RowMap.Proofs.Savepoint.Escape
import RowMap.Proofs.Paging.Walk
import RowMap.Proofs.Record.SameBut
import RowMap.Proofs.Session.ModelWrites
import RowMap.Proofs.Record.Places
import RowMap.Proofs.Record.Layout
import RowMap.Proofs.Record.Scanning
import RowMap.Proofs.Record.Slots
import RowMap.Proofs.Declaration.Marking
import RowMap.Proofs.Declaration.Acceptance
import RowMap.Proofs.Declaration.Keys
import RowMap.Proofs.Record.Coherence
import RowMap.Proofs.Statement.Blanks
import RowMap.Proofs.Session.Sending
import RowMap.Proofs.Bookshelf.StatementTexts
import RowMap.Proofs.Statement.Words
import RowMap.Proofs.Statement.Minified
import RowMap.Proofs.Statement.Interleaving
import RowMap.Proofs.Bookshelf.Lines
import RowMap.Proofs.Bookshelf.ListingText
import RowMap.Proofs.Paging.Complaints
import RowMap.Proofs.Bookshelf.PagedListing
import RowMap.Proofs.Record.Reconversion
import RowMap.Proofs.Bookshelf.TargetDay
import RowMap.Proofs.Statement.Escape
import RowMap.Proofs.Statement.Matches
import RowMap.Proofs.Record.Written
import RowMap.Proofs.Paging.AllOrNothing
import RowMap.Proofs.Store.Cells
import RowMap.Proofs.Bookshelf.Ownership
import RowMap.Proofs.Text.LongestFit
import RowMap.Proofs.Value.Extraction
