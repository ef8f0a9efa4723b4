import CqlClient.Binary.Format
import CqlClient.Binary.Shortest
import CqlClient.Calendar.Clock
import CqlClient.Calendar.Date
import CqlClient.Calendar.Instant
import CqlClient.Calendar.Scan
import CqlClient.Config.Basic
import CqlClient.Config.Document
import CqlClient.Config.Yaml
import CqlClient.Connector.Basic
import CqlClient.Connector.Call
import CqlClient.Connector.Event
import CqlClient.Connector.Keyspace
import CqlClient.Connector.Run
import CqlClient.Connector.Script
import CqlClient.Connector.Table
import CqlClient.Cql.Bind
import CqlClient.Cql.DecimalText
import CqlClient.Cql.Decode
import CqlClient.Cql.Inet
import CqlClient.Cql.TwosComplement
import CqlClient.Cql.Type
import CqlClient.Cql.Uuid
import CqlClient.Cql.Value
import CqlClient.Error
import CqlClient.Format.Expr
import CqlClient.Format.Literal
import CqlClient.Format.Query
import CqlClient.Json.Basic
import CqlClient.Json.Document
import CqlClient.Json.Number
import CqlClient.Json.Shape
import CqlClient.Json.Text
import CqlClient.Json.Token
import CqlClient.Name
import CqlClient.Native.Script
import CqlClient.Native.Transport
import CqlClient.Proofs.Connector.Alone
import CqlClient.Proofs.Connector.Machine
import CqlClient.Proofs.Connector.Phase
import CqlClient.Proofs.Connector.Pool
import CqlClient.Proofs.Connector.Sessions
import CqlClient.Proofs.Error
import CqlClient.Proofs.Except
import CqlClient.Proofs.Format.Alias
import CqlClient.Proofs.Format.Condition
import CqlClient.Proofs.Format.Definition
import CqlClient.Proofs.Format.Fault
import CqlClient.Proofs.Format.Filter
import CqlClient.Proofs.Format.Lexemes
import CqlClient.Proofs.Format.Readable
import CqlClient.Proofs.Format.Reduction
import CqlClient.Proofs.Format.Slots
import CqlClient.Proofs.Format.Statement
import CqlClient.Proofs.Format.Writing
import CqlClient.Proofs.Text.Formula
import CqlClient.Proofs.Text.Lexeme
import CqlClient.Proofs.Text.Number
import CqlClient.Query.Basic
import CqlClient.Query.Json
import CqlClient.Schema.Column
import CqlClient.Schema.ColumnType
import CqlClient.Schema.Field
import CqlClient.Schema.Replication
import CqlClient.Text.Blank
import CqlClient.Text.Digits
import CqlClient.Text.Quoted
import CqlClient.Text.Range
import CqlClient.Text.Word
import CqlClient.Yaml.Block
import CqlClient.Yaml.Cursor
import CqlClient.Yaml.Document
import CqlClient.Yaml.Node
import CqlClient.Yaml.Scalar
import CqlClient.Yaml.Tag
import CqlClient.Yaml.Token
import CqlClient.Proofs.Connector.Request
import CqlClient.Proofs.Schema.Turns
import CqlClient.Proofs.Schema.Fault
import CqlClient.Proofs.Format.Quoting
import CqlClient.Proofs.Schema.Change
import CqlClient.Proofs.Schema.Completion
import CqlClient.Proofs.Schema.Convergence
import CqlClient.Proofs.Schema.Naming
import CqlClient.Proofs.Calendar.Range
import CqlClient.Proofs.Binary.Widening
import CqlClient.Proofs.Cql.Typing
import CqlClient.Proofs.Cql.RoundTrip
import CqlClient.Proofs.Cql.Numeral
import CqlClient.Proofs.Cql.Decoding
import CqlClient.Proofs.Json.Members
import CqlClient.Proofs.Query.NormalForm
import CqlClient.Proofs.Schema.Replication
import CqlClient.Proofs.Cql.Bytes
import CqlClient.Proofs.Cql.Decimal
import CqlClient.Proofs.Calendar.Days
import CqlClient.Proofs.Calendar.Scan
import CqlClient.Proofs.Calendar.Clock
import CqlClient.Proofs.Calendar.Text
import CqlClient.Proofs.Cql.Temporal
import CqlClient.Proofs.Native.Execution
import CqlClient.Proofs.Schema.Plan
import CqlClient.Proofs.Schema.Creation
import CqlClient.Proofs.Format.MapLiteral
import CqlClient.Proofs.Schema.ReplicationLiteral
import CqlClient.Proofs.Format.Admission
import CqlClient.Proofs.Format.Legible
import CqlClient.Proofs.Cql.Fault
import CqlClient.Proofs.Schema.Listing
import CqlClient.Proofs.Format.Segments
import CqlClient.Proofs.Cql.Canonical
import CqlClient.Proofs.Json.Reading
import CqlClient.Proofs.Config.Validity
import CqlClient.Proofs.Connector.Moment
import CqlClient.Proofs.Connector.Record
import CqlClient.Proofs.Connector.Course
import CqlClient.Proofs.Connector.Telling
import CqlClient.Proofs.Schema.Log
