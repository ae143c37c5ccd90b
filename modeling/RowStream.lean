import RowStream.ArrayLiteral
import RowStream.Calendar.Date
import RowStream.Calendar.Fault
import RowStream.Calendar.Literal
import RowStream.Calendar.Region
import RowStream.Calendar.RegionTable
import RowStream.Calendar.TimeOfDay
import RowStream.Calendar.Timestamp
import RowStream.Calendar.Zone
import RowStream.Column
import RowStream.ColumnType.Basic
import RowStream.ColumnType.ScalarName
import RowStream.ColumnType.Tag
import RowStream.ColumnType.Tag.Token
import RowStream.CommandLine.Argument
import RowStream.CommandLine.Basic
import RowStream.CommandLine.Report
import RowStream.Cursor.Access
import RowStream.Cursor.Basic
import RowStream.Cursor.Rows
import RowStream.Dump
import RowStream.Dump.Json
import RowStream.Error
import RowStream.Settings
import RowStream.Main
import RowStream.Number.Binary64
import RowStream.Number.Decimal
import RowStream.Number.Numeral
import RowStream.Token
import RowStream.Response.LineBuffer
import RowStream.Response.RecordReader
import RowStream.Response.Remaining
import RowStream.Source.Basic
import RowStream.Source.Chunker
import RowStream.Source.File
import RowStream.Source.Input
import RowStream.Source.Response
import RowStream.Source.Tally
import RowStream.Text.Basic
import RowStream.Text.Quoted
import RowStream.Text.Utf8
import RowStream.Value.Basic
import RowStream.Value.Conversion
import RowStream.Value.Decoding
import RowStream.Value.Encoding
import RowStream.Proofs.Response.Lines
import RowStream.Proofs.Response.Transcript
import RowStream.Proofs.Cursor.Course
import RowStream.Proofs.Cursor.Run
import RowStream.Proofs.Calendar.Written
import RowStream.Proofs.Text.Bare
import RowStream.Proofs.Token.Spelling
import RowStream.Proofs.ArrayLiteral.Split
import RowStream.Proofs.Number.Written
import RowStream.Proofs.ColumnType.Parsed
import RowStream.Proofs.Value.Canonical
import RowStream.Proofs.Value.Scalar
import RowStream.Proofs.Value.RoundTrip
import RowStream.Proofs.Text.Utf8
import RowStream.Proofs.Value.Encoded
import RowStream.Proofs.Response.Body
import RowStream.Proofs.Value.Typed
import RowStream.Proofs.ColumnType.Arguments
import RowStream.Proofs.ColumnType.Grammar
import RowStream.Proofs.ColumnType.Lexeme
import RowStream.Proofs.ColumnType.Named
import RowStream.Proofs.Cursor.Alike
import RowStream.Proofs.Cursor.Failure
import RowStream.Proofs.Cursor.Look
import RowStream.Proofs.Response.Mapped
import RowStream.Proofs.Response.Calls
import RowStream.Proofs.Cursor.Mapped
import RowStream.Proofs.Cursor.Reading
import RowStream.Proofs.Cursor.Independence
import RowStream.Proofs.Cursor.Nullness
import RowStream.Proofs.Cursor.Calls
import RowStream.Proofs.Source.Slices
import RowStream.Proofs.Cursor.Content
import RowStream.Proofs.Response.Arrival
import RowStream.Proofs.Cursor.Arrival
import RowStream.Proofs.Number.Grammar
import RowStream.Proofs.Number.Rescaled
import RowStream.Proofs.Number.Rational
import RowStream.Proofs.Value.Decimal
import RowStream.Proofs.Value.Rescaled
import RowStream.Proofs.ArrayLiteral.Accepted
import RowStream.Proofs.Value.Bytes
import RowStream.Proofs.Value.Unquoted
import RowStream.Proofs.ArrayLiteral.Pieces
import RowStream.Proofs.Value.Temporal
import RowStream.Proofs.Calendar.Settled
import RowStream.Proofs.Calendar.Spelling
import RowStream.Proofs.Value.Settled
import RowStream.Proofs.Calendar.Days
import RowStream.Proofs.Calendar.Instant
import RowStream.Proofs.Cursor.Instant
import RowStream.Proofs.Token.Joined
import RowStream.Proofs.Response.Looks
import RowStream.Proofs.ColumnType.Spelling
import RowStream.Proofs.ColumnType.Layout
import RowStream.Proofs.Cursor.Loop
import RowStream.Proofs.Cursor.Row
import RowStream.Proofs.Dump.Rows
import RowStream.Proofs.Dump.Content
import RowStream.Proofs.Cursor.Snapshot
import RowStream.Proofs.Value.Nested
import RowStream.Proofs.Value.Unbounded
import RowStream.Proofs.Response.Escaping
import RowStream.Proofs.Response.Search
import RowStream.Proofs.Record.Split
