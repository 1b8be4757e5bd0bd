import TableRecords.Journal.Setup
import TableRecords.Proofs.Journal.Line
import TableRecords.Proofs.Record.Access
import TableRecords.Proofs.Search.Errands
import TableRecords.Proofs.Search.Findings
import TableRecords.Proofs.Search.Match
import TableRecords.Proofs.Search.Readiness
import TableRecords.Proofs.Search.Rebuilding
import TableRecords.Proofs.Search.Upkeep
import TableRecords.Proofs.Sql.Binding
import TableRecords.Proofs.Sql.Clause
import TableRecords.Proofs.Sql.Operators
import TableRecords.Proofs.Sql.Placeholders
import TableRecords.Proofs.Sql.SingleStatement
import TableRecords.Proofs.Sql.StoredValue
import TableRecords.Proofs.Store.Atomicity
import TableRecords.Proofs.Store.Attempts
import TableRecords.Proofs.Store.Bracketing
import TableRecords.Proofs.Table.Selections
import TableRecords.Proofs.Table.Separation
import TableRecords.Store.Opening
import TableRecords.Store.Playback
import TableRecords.Table.Rows
import TableRecords.Table.Search
