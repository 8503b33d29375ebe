import NodeRusqlite.Connection.Finalize
import NodeRusqlite.Connection.Metadata
import NodeRusqlite.Connection.Open
import NodeRusqlite.Connection.Pragma
import NodeRusqlite.Connection.QueryRow
import NodeRusqlite.Row.PassBack
import NodeRusqlite.Row.Total
import NodeRusqlite.Row.Views
import NodeRusqlite.Rusqlite.ControlText
import NodeRusqlite.Savepoint.Names
import NodeRusqlite.Savepoint.Operation
import NodeRusqlite.Statement.Expanded
import NodeRusqlite.Statement.Indices
import NodeRusqlite.Statement.Metadata
import NodeRusqlite.Statement.Parameters
import NodeRusqlite.Statement.Status
import NodeRusqlite.Transaction.Atomicity
import NodeRusqlite.Transaction.DefaultBehavior
