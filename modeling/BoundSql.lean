import BoundSql.Calendar
import BoundSql.Connection.ValueKind
import BoundSql.Main
import BoundSql.Session.Command
import BoundSql.Proofs.CommandLine.DryRun
import BoundSql.Proofs.Json.Record
import BoundSql.Proofs.Query.Alignment
import BoundSql.Proofs.Query.Document
import BoundSql.Proofs.Query.Independence
import BoundSql.Proofs.Query.Rendering
import BoundSql.Proofs.Schema.Confinement
import BoundSql.Proofs.Schema.Document
import BoundSql.Proofs.Schema.Key
import BoundSql.Proofs.Session.Commit
import BoundSql.Proofs.Session.Conversation
import BoundSql.Proofs.Session.Dispatch
import BoundSql.Proofs.Session.Journal
import BoundSql.Proofs.Table.Document
import BoundSql.Proofs.Query.Grouping
import BoundSql.Proofs.Condition.Validity
import BoundSql.Proofs.Query.Acceptance
import BoundSql.Proofs.Condition.Run
import BoundSql.Proofs.Schema.AlteredKey
import BoundSql.Proofs.Schema.AlteredColumns
import BoundSql.Proofs.Schema.Creation
import BoundSql.Proofs.Schema.Addition
import BoundSql.Proofs.Schema.Removal
import BoundSql.Proofs.Session.Creation
import BoundSql.Proofs.Table.History
import BoundSql.Proofs.Text.Pieces
import BoundSql.Proofs.Schema.Index
import BoundSql.Proofs.Session.Failure
import BoundSql.Proofs.Statement.Substitution
import BoundSql.Proofs.Query.Filtering
import BoundSql.Proofs.Query.Saved
import BoundSql.Proofs.Value.Integer
import BoundSql.Proofs.Statement.Quoted
import BoundSql.Proofs.Text.Quoting
import BoundSql.Proofs.Table.Physical
import BoundSql.Proofs.Calendar.Order
import BoundSql.Proofs.Calendar.Digits
import BoundSql.Proofs.Connection.ValueKind
