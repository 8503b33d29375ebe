/-
  File:      NodeRusqlite/Sqlite/Engine.lean
  Subject:   What a connection asks of SQLite beside running a statement: compile a
             text, and read the numbers kept per connection.

  An `Engine κ` is a parameter of everything above it. `refuse` says which
  texts do not compile in which state; `compile` and `tail` say what the first
  statement of a text is and which text is left after it. A text can compile to
  one program in one state and to another in the next, as the schema says; where
  its first statement ends the text alone decides.
-/
import NodeRusqlite.Sqlite.Vm

namespace NodeRusqlite.Sqlite

/-- SQLite, for connections in state `κ`. -/
structure Engine (κ : Type) where
  /-- The first statement of a text; `none`: the text holds no SQL. -/
  compile : String → κ → Option (Program κ)
  /-- The text after the first statement; `none`: nothing is left. -/
  tail : String → Option String
  /-- The failure of `sqlite3_prepare_v3`, with the offset it points at. -/
  refuse : String → κ → Option (Failure × Option Nat)
  /-- `sqlite3_get_autocommit`. -/
  isAutocommit : κ → Bool
  changes : κ → UInt64
  lastInsertRowid : κ → Int64
  /-- `SQLITE_LIMIT_LENGTH`. -/
  lengthLimit : κ → Nat
  tail_lt : ∀ sql rest, tail sql = some rest → rest.utf8ByteSize < sql.utf8ByteSize

/-- `tail_lt` where every text is one statement. -/
theorem noTail_lt (sql rest : String) (h : none = some rest) :
    rest.utf8ByteSize < sql.utf8ByteSize := nomatch h

end NodeRusqlite.Sqlite
