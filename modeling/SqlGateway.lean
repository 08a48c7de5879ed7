import SqlGateway.Entries
import SqlGateway.Failure
import SqlGateway.Number.Binary64
import SqlGateway.Number.Decimal
import SqlGateway.Number.Scientific
import SqlGateway.Number.Shortest
import SqlGateway.Proofs.Aborted
import SqlGateway.Proofs.Adding
import SqlGateway.Proofs.Agreement
import SqlGateway.Proofs.Asking
import SqlGateway.Proofs.Autocommit
import SqlGateway.Proofs.Batch
import SqlGateway.Proofs.Bindable
import SqlGateway.Proofs.Binding
import SqlGateway.Proofs.Blocking
import SqlGateway.Proofs.Bracket
import SqlGateway.Proofs.Carried
import SqlGateway.Proofs.Clauses
import SqlGateway.Proofs.Command
import SqlGateway.Proofs.Committed
import SqlGateway.Proofs.Conflict
import SqlGateway.Proofs.Connecting
import SqlGateway.Proofs.Consulting
import SqlGateway.Proofs.Continuing
import SqlGateway.Proofs.Delivery
import SqlGateway.Proofs.Direction
import SqlGateway.Proofs.Document
import SqlGateway.Proofs.Dropping
import SqlGateway.Proofs.Ending
import SqlGateway.Proofs.Engines
import SqlGateway.Proofs.Escaping
import SqlGateway.Proofs.Fieldwise
import SqlGateway.Proofs.Filed
import SqlGateway.Proofs.Filtering
import SqlGateway.Proofs.Finding
import SqlGateway.Proofs.Generated
import SqlGateway.Proofs.Grouping
import SqlGateway.Proofs.Healthy
import SqlGateway.Proofs.Heeding
import SqlGateway.Proofs.Identifiers
import SqlGateway.Proofs.Incremental
import SqlGateway.Proofs.Influence
import SqlGateway.Proofs.Issuing
import SqlGateway.Proofs.Joining
import SqlGateway.Proofs.Layout
import SqlGateway.Proofs.Lifetime
import SqlGateway.Proofs.Lines
import SqlGateway.Proofs.Loading
import SqlGateway.Proofs.Magnitude
import SqlGateway.Proofs.Missing
import SqlGateway.Proofs.Naming
import SqlGateway.Proofs.Numerals
import SqlGateway.Proofs.Operating
import SqlGateway.Proofs.Operation
import SqlGateway.Proofs.Overlong
import SqlGateway.Proofs.Parsing
import SqlGateway.Proofs.Passing
import SqlGateway.Proofs.Printed
import SqlGateway.Proofs.Quoting
import SqlGateway.Proofs.Reach
import SqlGateway.Proofs.Reading
import SqlGateway.Proofs.Recalling
import SqlGateway.Proofs.Refusal
import SqlGateway.Proofs.Reloading
import SqlGateway.Proofs.Results
import SqlGateway.Proofs.RoundTrip
import SqlGateway.Proofs.Scanning
import SqlGateway.Proofs.Sending
import SqlGateway.Proofs.Settling
import SqlGateway.Proofs.Staleness
import SqlGateway.Proofs.Steady
import SqlGateway.Proofs.Stray
import SqlGateway.Proofs.Supplied
import SqlGateway.Proofs.Tabulated
import SqlGateway.Proofs.Taken
import SqlGateway.Proofs.Wrapping
import SqlGateway.Proofs.Written
import SqlGateway.Query.Basic
import SqlGateway.Query.Identifier
import SqlGateway.Query.Insert
import SqlGateway.Query.Restricted
import SqlGateway.Query.Restriction
import SqlGateway.Server.Basic
import SqlGateway.Server.Script
import SqlGateway.Session.Basic
import SqlGateway.Session.Call
import SqlGateway.Session.Catalog
import SqlGateway.Session.Connection
import SqlGateway.Session.Execution
import SqlGateway.Session.Quick
import SqlGateway.Session.Transaction
import SqlGateway.Settings.Basic
import SqlGateway.Settings.Check
import SqlGateway.Settings.Draft
import SqlGateway.Settings.File
import SqlGateway.Settings.Numeral
import SqlGateway.Statement.Binding
import SqlGateway.Statement.Mention
import SqlGateway.Statement.Placeholder
import SqlGateway.Text.Blank
import SqlGateway.Text.Hex
import SqlGateway.Text.Pieces
import SqlGateway.Text.Printable
import SqlGateway.Text.Quoted
import SqlGateway.Text.Word
import SqlGateway.Toml.Basic
import SqlGateway.Toml.Document
import SqlGateway.Toml.Number
import SqlGateway.Toml.Quoted
import SqlGateway.Toml.Value
import SqlGateway.Value
import SqlGateway.Value.Text
