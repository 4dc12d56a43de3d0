import SqlMapping.Alias
import SqlMapping.Binding
import SqlMapping.Connection.Basic
import SqlMapping.Connection.Endpoint
import SqlMapping.Connection.Hub
import SqlMapping.Connection.Registry
import SqlMapping.Connection.Scripted
import SqlMapping.Connection.Settings
import SqlMapping.DateTime
import SqlMapping.Declaration.Samples
import SqlMapping.Declaration.Struct
import SqlMapping.Declaration.TypeExpr
import SqlMapping.Dialect
import SqlMapping.Entries
import SqlMapping.Failure
import SqlMapping.Mapping.Basic
import SqlMapping.Mapping.Scan
import SqlMapping.Naming
import SqlMapping.Number.Binary
import SqlMapping.Number.Integer
import SqlMapping.Number.Layout
import SqlMapping.Number.Reading
import SqlMapping.Number.Shortest
import SqlMapping.Object.Basic
import SqlMapping.Object.Kind
import SqlMapping.Object.Scalar
import SqlMapping.Proofs.Binding
import SqlMapping.Proofs.Query.Accounting
import SqlMapping.Proofs.Query.Ledger
import SqlMapping.Proofs.Query.Placeholder
import SqlMapping.Proofs.Text.Pieces
import SqlMapping.Query.Basic
import SqlMapping.Query.Compile
import SqlMapping.Query.Step
import SqlMapping.Query.Write
import SqlMapping.QueryLog
import SqlMapping.Session.Backend
import SqlMapping.Session.Basic
import SqlMapping.Session.Cache
import SqlMapping.Session.Loading
import SqlMapping.Session.Operation
import SqlMapping.Session.Scripted
import SqlMapping.Session.Writing
import SqlMapping.Sql
import SqlMapping.TableRef
import SqlMapping.Tag
import SqlMapping.Text.Blank
import SqlMapping.Text.Checksum
import SqlMapping.Text.Cut
import SqlMapping.Text.Pieces
import SqlMapping.Text.Quoted
import SqlMapping.Text.Split
import SqlMapping.Text.Truth
import SqlMapping.Text.Utf8
import SqlMapping.Text.Words
import SqlMapping.Unicode.Case
import SqlMapping.Unicode.Cluster
import SqlMapping.Unicode.Composition
import SqlMapping.Unicode.Direction
import SqlMapping.Unicode.Hidden
import SqlMapping.Unicode.Joining
import SqlMapping.Unicode.Mark
import SqlMapping.Unicode.Ranges
import SqlMapping.Url.Address
import SqlMapping.Url.Basic
import SqlMapping.Url.Domain.Basic
import SqlMapping.Url.Domain.Direction
import SqlMapping.Url.Domain.Folding
import SqlMapping.Url.Domain.Label
import SqlMapping.Url.Fault
import SqlMapping.Url.Form
import SqlMapping.Url.Host
import SqlMapping.Url.Percent
import SqlMapping.Url.Punycode
import SqlMapping.Value.Basic
import SqlMapping.Value.Convert
import SqlMapping.Value.Show
import SqlMapping.Proofs.Query.Alignment
import SqlMapping.Proofs.Query.Placement
import SqlMapping.Proofs.Query.Merging
import SqlMapping.Proofs.Session.Cache
import SqlMapping.Proofs.Session.Recording
import SqlMapping.Proofs.Session.Statement
import SqlMapping.Proofs.Connection.Run
import SqlMapping.Proofs.Connection.Asked
import SqlMapping.Proofs.Quoting.Lexeme
import SqlMapping.Proofs.Quoting.Outline
import SqlMapping.Proofs.Mapping.Columns
import SqlMapping.Proofs.Query.Updating
import SqlMapping.Proofs.Query.Inserting
import SqlMapping.Proofs.Object.Place
import SqlMapping.Proofs.Object.Leaf
import SqlMapping.Proofs.Object.Filling
import SqlMapping.Proofs.Mapping.Scan
import SqlMapping.Proofs.Session.Loading
import SqlMapping.Proofs.Number.Binary
import SqlMapping.Proofs.Text.Utf8
import SqlMapping.Proofs.Number.Reading
import SqlMapping.Proofs.DateTime
import SqlMapping.Proofs.Object.Scalar
import SqlMapping.Proofs.Object.Matching
import SqlMapping.Proofs.Mapping.RoundTrip
import SqlMapping.Proofs.Mapping.Walk
import SqlMapping.Proofs.Session.Compiled
import SqlMapping.Proofs.Session.Protocol
import SqlMapping.Proofs.Session.Deadline
import SqlMapping.Proofs.Session.Erasure
import SqlMapping.Proofs.Session.Transactions
import SqlMapping.Proofs.Session.Turns
import SqlMapping.Proofs.Session.Tableless
import SqlMapping.Proofs.Lists
import SqlMapping.Proofs.Mapping.Colliding
import SqlMapping.Proofs.Query.Conditional
import SqlMapping.Proofs.Query.Failing
import SqlMapping.Proofs.Query.Operators
import SqlMapping.Proofs.Query.Atomicity
import SqlMapping.Proofs.Query.Reordering
import SqlMapping.Proofs.Session.Closing
import SqlMapping.Proofs.Session.Holding
import SqlMapping.Proofs.Connection.Holding
import SqlMapping.Proofs.Session.Rows
import SqlMapping.Proofs.Session.Units
import SqlMapping.Proofs.Alias
import SqlMapping.Proofs.Mapping.Enclosing
import SqlMapping.Proofs.Mapping.Rereading
import SqlMapping.Proofs.Query.Skipping
import SqlMapping.Proofs.Query.Qualifying
import SqlMapping.Proofs.Query.Nesting
import SqlMapping.Proofs.Session.Complete
import SqlMapping.Proofs.Object.Refusing
import SqlMapping.Proofs.Mapping.Requested
import SqlMapping.Proofs.Mapping.Misfit
import SqlMapping.Proofs.Query.Times
import SqlMapping.Proofs.Mapping.Tables
import SqlMapping.Proofs.Session.Referring
import SqlMapping.Proofs.Session.Finding
import SqlMapping.Proofs.Query.Aliases
import SqlMapping.Proofs.Text.Trim
import SqlMapping.Proofs.Text.Cut
import SqlMapping.Proofs.Value.Integer
import SqlMapping.Proofs.Session.Releasing
import SqlMapping.Proofs.TableRef
import SqlMapping.Proofs.Tag
import SqlMapping.Proofs.Entries
import SqlMapping.Proofs.Connection.Registering
import SqlMapping.Proofs.Declaration.Wrapping
import SqlMapping.Proofs.Declaration.Describing
import SqlMapping.Proofs.Quoting.Listing
import SqlMapping.Proofs.Session.Selecting
