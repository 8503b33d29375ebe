/-
  File:      NodeRusqlite/Rusqlite/Column.lean
  Subject:   The calls of the wrapped crate that look a table column up in the schemas.

  Names arrive as strings, which must hold no NUL (`asCstr`), or as C strings
  that SQLite gave. A missing schema name is passed on as NULL.
-/
import NodeRusqlite.Rusqlite.Inspect
import NodeRusqlite.Sqlite.Catalog

namespace NodeRusqlite.Rusqlite

open Basis (CStr CString asCInt hasNul nulPosition)
open Sqlite

variable {κ : Type}

/-- `Name::as_cstr` of a string. -/
def asCstr (s : String) : Except Error CString :=
  if h : hasNul s = false then .ok ⟨s, h⟩ else .error (.nulError (nulPosition s))

/-- `name.as_ref().map(N::as_cstr).transpose()`. -/
def asCstrOption : Option String → Except Error (Option CString)
  | none => .ok none
  | some s =>
    match asCstr s with
    | .ok s => .ok (some s)
    | .error e => .error e

/-! ## 1. `Connection` -/

/-- What `column_metadata` returns: data type, collating sequence, NOT NULL, PRIMARY KEY,
    AUTOINCREMENT. -/
abbrev ColumnMetadata := Option String × Option String × Bool × Bool × Bool

/-- `Connection::column_metadata`, with C strings. -/
def columnMetadataC (c : Catalog) (dbName : Option CStr) (tableName columnName : CStr) :
    Except Error ColumnMetadata :=
  match c.tableColumnMetadata dbName tableName (some columnName) with
  | .error f => .error (.sqliteFailure f)
  | .ok r => .ok (r.dataType, some r.collSeq, r.notNull, r.primaryKey, r.autoInc)

/-- `Connection::column_metadata`. -/
def Connection.columnMetadata (c : Catalog) (dbName : Option String)
    (tableName columnName : String) : Except Error ColumnMetadata := do
  let dbName ← asCstrOption dbName
  let tableName ← asCstr tableName
  let columnName ← asCstr columnName
  columnMetadataC c (dbName.map .ofString) (.ofString tableName) (.ofString columnName)

/-- `Connection::exists`. -/
def Connection.existsInSchema (c : Catalog) (dbName : Option String) (tableName : String)
    (columnName : Option String) : Except Error Bool := do
  let dbName ← asCstrOption dbName
  let tableName ← asCstr tableName
  let columnName ← asCstrOption columnName
  match c.tableColumnMetadata (dbName.map .ofString) (.ofString tableName)
    (columnName.map .ofString) with
  | .ok _ => .ok true
  | .error f => if f.code = 1 then .ok false else .error (.sqliteFailure f)

/-- `Connection::column_exists`. -/
def Connection.columnExists (c : Catalog) (dbName : Option String)
    (tableName columnName : String) : Except Error Bool :=
  existsInSchema c dbName tableName (some columnName)

/-- `Connection::table_exists`. -/
def Connection.tableExists (c : Catalog) (dbName : Option String) (tableName : String) :
    Except Error Bool :=
  existsInSchema c dbName tableName none

/-- `InnerConnection::txn_state`; `debug` is the text `{:?}` gives for a string. -/
def Connection.transactionState (debug : String → String) (c : Catalog) (dbName : Option String) :
    Except Error TxnState := do
  let name ← asCstrOption dbName
  match c.txnState (name.map .ofString) with
  | 0 => .ok .none
  | 1 => .ok .read
  | 2 => .ok .write
  | -1 =>
    let shown := match dbName with
      | some db => "Some(" ++ debug db ++ ")"
      | none => "None"
    .error (.sqliteFailure ⟨21, shown ++ " is not the name of a valid schema", Failure.misuse.isError⟩)
  | _ =>
    -- there is no other state; the source puts the number it got into the error
    .error (.sqliteFailure ⟨1, "Unexpected result", Failure.isError_error⟩)

/-! ## 2. `Statement` -/

/-- `Statement::column_metadata`: the names of the origin of a result column, and what is recorded
    of it. -/
def Statement.columnMetadata (s : Statement κ) (c : Catalog) (col : UInt64) :
    Except Error (Option (CStr × CStr × CStr × ColumnMetadata)) :=
  let column := s.header.column (asCInt col)
  match column.bind ResultColumn.databaseName, column.bind ResultColumn.tableName,
    column.bind ResultColumn.originName with
  | some dbName, some tableName, some originName => do
    let metadata ← columnMetadataC c (some dbName) tableName originName
    .ok (some (dbName, tableName, originName, metadata))
  | _, _, _ => .ok none

/-- A string without NUL passes. -/
theorem asCstr_ok (s : CString) : asCstr s.val = .ok s := dif_pos s.property

theorem asCstrOption_ok (s : Option CString) : asCstrOption (s.map Subtype.val) = .ok s := by
  cases s with
  | none => rfl
  | some s => simp only [Option.map_some, asCstrOption, asCstr_ok]

theorem asCstr_of_hasNul {s : String} (h : hasNul s = true) :
    asCstr s = .error (.nulError (nulPosition s)) :=
  dif_neg (ne_false_of_eq_true h)

/-- A string with a NUL does not pass. -/
theorem hasNul_of_asCstr {s : String} {t : CString} (h : asCstr s = .ok t) : hasNul s = false := by
  by_cases hs : hasNul s = false
  · exact hs
  · rw [asCstr_of_hasNul (Bool.eq_true_of_not_eq_false hs)] at h
    cases h

theorem hasNul_of_asCstrOption {s : String} {t : Option CString}
    (h : asCstrOption (some s) = .ok t) : hasNul s = false := by
  cases hs : asCstr s with
  | ok t' => exact hasNul_of_asCstr hs
  | error e =>
    simp only [asCstrOption, hs] at h
    cases h

end NodeRusqlite.Rusqlite
