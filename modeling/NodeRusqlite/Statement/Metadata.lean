/-
  File:      NodeRusqlite/Statement/Metadata.lean
  Subject:   `column_metadata` of a statement and of its connection.

  The statement looks the origin of a result column up through the same call as
  the connection, and unpacks a tuple of eight fields by position: the fourth,
  the data type, goes to `collation_sequence`, the fifth, the collating sequence,
  to `type`.

  * `columnMetadata_of_origin`: what the statement answers for a table column.
  * **`column_metadata_agrees_iff`**: the two agree exactly when the declared type
    is spelled as the collating sequence is.
-/
import NodeRusqlite.Connection.Metadata

namespace NodeRusqlite

open Basis (CStr CString Outcome asCInt asUsize)
open Sqlite

variable {κ : Type}

/-- `RusqliteDetailedColumnMetadata`. -/
structure RusqliteDetailedColumnMetadata where
  databaseName : String
  tableName : String
  columnName : String
  type : Option String
  collationSequence : Option String
  notNull : Bool
  primaryKey : Bool
  autoIncrement : Bool
  deriving DecidableEq

namespace ScopedStatement

/-- `name.to_str().map_err(|err| NodeRusqliteError(Error::Utf8Error(0, err)))`. -/
def readName (name : CStr) : Except Rusqlite.Error String :=
  match name.toStrOrErr with
  | .ok s => .ok s
  | .error err => .error (.utf8Error 0 err)

/-- The record `column_metadata` makes of the tuple of the wrapped crate: `metadata.3` is the data
    type, `metadata.4` the collating sequence. -/
def detailed (metadata : CStr × CStr × CStr × Rusqlite.ColumnMetadata) :
    Except Rusqlite.Error RusqliteDetailedColumnMetadata := do
  let (m0, m1, m2, m3, m4, m5, m6, m7) := metadata
  let databaseName ← readName m0
  let tableName ← readName m1
  .ok { databaseName
        tableName
        columnName := m2.toStringLossy
        collationSequence := m3
        type := m4
        notNull := m5
        primaryKey := m6
        autoIncrement := m7 }

/-- `ScopedStatement::column_metadata`. -/
def columnMetadata (c : Catalog) (col : Int64) (s : Rusqlite.Statement κ) :
    Outcome NapiError (Option RusqliteDetailedColumnMetadata) := do
  let metadata ← toNapi (s.columnMetadata c (asUsize col))
  match metadata with
  | some metadata => do
    let metadata ← toNapi (detailed metadata)
    .ok (some metadata)
  | none => .ok none

theorem readName_ofString (name : CString) : readName (.ofString name) = .ok name.val := by
  rw [readName, CStr.toStrOrErr, CStr.toStr_ofString]

/-- A name that is read is UTF-8. -/
theorem eq_ofString_of_readName {name : CStr} {s : String} (h : readName name = .ok s) :
    ∃ hs, name = .ofString ⟨s, hs⟩ := by
  refine CStr.eq_ofString_of_toStr ?_
  unfold readName CStr.toStrOrErr at h
  cases hname : name.toStr with
  | some t =>
    rw [hname] at h
    cases h
    rfl
  | none =>
    rw [hname] at h
    cases h

theorem detailed_ofString (db table : CString) (column : CStr) (m : Rusqlite.ColumnMetadata) :
    detailed (.ofString db, .ofString table, column, m) =
      .ok ⟨db.val, table.val, column.toStringLossy, m.2.1, m.1, m.2.2.1, m.2.2.2.1, m.2.2.2.2⟩ := by
  simp only [detailed, readName_ofString]
  rfl

/-- A record has names in UTF-8 of the database and the table. -/
theorem of_detailed {db table column : CStr} {m : Rusqlite.ColumnMetadata}
    {d : RusqliteDetailedColumnMetadata} (h : detailed (db, table, column, m) = .ok d) :
    (∃ hdb, db = .ofString ⟨d.databaseName, hdb⟩) ∧
      (∃ htable, table = .ofString ⟨d.tableName, htable⟩) ∧
      column.toStringLossy = d.columnName := by
  unfold detailed at h
  dsimp only at h
  cases hdb : readName db with
  | error e =>
    rw [hdb] at h
    cases h
  | ok databaseName =>
    cases htable : readName table with
    | error e =>
      rw [hdb, htable] at h
      cases h
    | ok tableName =>
      rw [hdb, htable] at h
      cases h
      exact ⟨eq_ofString_of_readName hdb, eq_ofString_of_readName htable, rfl⟩

end ScopedStatement

/-! ## 1. A result column that is a table column -/

/-- Result column `col` of the statement is the column `column` of the table `table` of the
    database `db`, recorded there as `r`. -/
structure ShowsColumn (s : Rusqlite.Statement κ) (c : Catalog) (col : Int64)
    (db table column : CStr) (r : ColumnRecord) : Prop where
  found : ∃ rc, s.header.column (asCInt (asUsize col)) = some rc ∧ rc.databaseName = some db ∧
    rc.tableName = some table ∧ rc.originName = some column
  recorded : c.tableColumnMetadata (some db) table (some column) = .ok r

section Shows

variable {s : Rusqlite.Statement κ} {c : Catalog} {col : Int64} {db table : CString}
  {column : CStr} {r : ColumnRecord}

theorem columnMetadataC_of_recorded {db table : CStr}
    (h : c.tableColumnMetadata (some db) table (some column) = .ok r) :
    Rusqlite.columnMetadataC c (some db) table column =
      .ok (r.dataType, some r.collSeq, r.notNull, r.primaryKey, r.autoInc) := by
  rw [Rusqlite.columnMetadataC, h]

/-- **What the statement answers for a table column**: type and collating sequence are swapped. -/
theorem ScopedStatement.columnMetadata_of_origin
    (h : ShowsColumn s c col (.ofString db) (.ofString table) column r) :
    ScopedStatement.columnMetadata c col s = .ok (some
      { databaseName := db.val
        tableName := table.val
        columnName := column.toStringLossy
        type := some r.collSeq
        collationSequence := r.dataType
        notNull := r.notNull
        primaryKey := r.primaryKey
        autoIncrement := r.autoInc }) := by
  obtain ⟨rc, hrc, hdb, htable, hcolumn⟩ := h.found
  have hstmt : s.columnMetadata c (asUsize col) = .ok (some (.ofString db, .ofString table, column,
      r.dataType, some r.collSeq, r.notNull, r.primaryKey, r.autoInc)) := by
    simp only [Rusqlite.Statement.columnMetadata, hrc, Option.bind_some, hdb, htable, hcolumn,
      columnMetadataC_of_recorded h.recorded]
    rfl
  rw [ScopedStatement.columnMetadata, hstmt]
  show (toNapi (ScopedStatement.detailed _) >>= fun metadata => Outcome.ok (some metadata)) = _
  rw [ScopedStatement.detailed_ofString]
  rfl

/-- What the connection answers for it. -/
theorem Connection.columnMetadata_of_recorded {column : CString}
    (h : c.tableColumnMetadata (some (.ofString db)) (.ofString table) (some (.ofString column)) =
      .ok r) : Connection.columnMetadata c (some db.val) table.val column.val =
      .ok ⟨r.dataType, some r.collSeq, r.notNull, r.primaryKey, r.autoInc⟩ := by
  have hconn : Rusqlite.Connection.columnMetadata c (some db.val) table.val column.val =
      .ok (r.dataType, some r.collSeq, r.notNull, r.primaryKey, r.autoInc) :=
    (Rusqlite.columnMetadata_eq (some db) table column).trans (columnMetadataC_of_recorded h)
  show (toNapi (Rusqlite.Connection.columnMetadata c (some db.val) table.val column.val) >>= _) = _
  rw [hconn]
  rfl

end Shows

/-! ## 2. Do they agree -/

/-- The two records describe one column in the same way, the first one under these names. -/
structure SameColumn (d : RusqliteDetailedColumnMetadata) (m : ConnectionColumnMetadata)
    (db table column : String) : Prop where
  type : d.type = m.type
  collationSequence : d.collationSequence = m.collationSequence
  notNull : d.notNull = m.notNull
  primaryKey : d.primaryKey = m.primaryKey
  autoIncrement : d.autoIncrement = m.autoIncrement
  databaseName : d.databaseName = db
  tableName : d.tableName = table
  columnName : d.columnName = column

/-- The statement and the connection give records of one column that agree. -/
def MetadataAgrees (s : Rusqlite.Statement κ) (c : Catalog) (col : Int64)
    (db table column : String) : Prop :=
  ∃ d m, ScopedStatement.columnMetadata c col s = .ok (some d) ∧
    Connection.columnMetadata c (some db) table column = .ok m ∧ SameColumn d m db table column

/-- **Statement and connection agree on a table column exactly when its declared type is spelled
    as its collating sequence.** -/
theorem column_metadata_agrees_iff (s : Rusqlite.Statement κ) (c : Catalog) (col : Int64)
    (db table column : CString) (r : ColumnRecord)
    (h : ShowsColumn s c col (.ofString db) (.ofString table) (.ofString column) r) :
    MetadataAgrees s c col db.val table.val column.val ↔ r.dataType = some r.collSeq := by
  have hstmt := ScopedStatement.columnMetadata_of_origin h
  have hconn := Connection.columnMetadata_of_recorded h.recorded
  rw [CStr.toStringLossy_ofString] at hstmt
  constructor
  · intro ⟨d, m, hd, hm, hsame⟩
    rw [hstmt] at hd
    rw [hconn] at hm
    cases hd
    cases hm
    exact hsame.collationSequence
  · intro htype
    exact ⟨_, _, hstmt, hconn, htype.symm, htype, rfl, rfl, rfl, rfl, rfl, rfl⟩

/-- A connection whose main database has a table `t(x)` with this record of `x`. -/
def tableWith (r : ColumnRecord) : Catalog where
  main := ⟨fun name =>
    if name = "t".toByteArray then
      some ⟨false, fun column => if column = "x".toByteArray then some r else none⟩
    else none, .none⟩
  temp := ⟨fun _ => none, .none⟩
  attached := []
  loadFailure := none
  attached_names := Catalog.noAttached_names

theorem t_noNul : Basis.hasNul "t" = false := by decide

theorem x_noNul : Basis.hasNul "x" = false := by decide

/-- `SELECT x FROM t`. -/
def selectX : Rusqlite.Statement Unit :=
  .fresh ⟨[], [⟨.ofString ⟨"x", x_noNul⟩, some (.ofString mainDb), some (.ofString ⟨"t", t_noNul⟩),
    some (.ofString ⟨"x", x_noNul⟩)⟩],
    Header.null.params_lt, by decide, Header.null.params_inj, Header.null.params_noNul⟩
    ⟨0, true, true, fun _ _ => .done ()⟩ rfl rfl

theorem selectX_shows (r : ColumnRecord) :
    ShowsColumn selectX (tableWith r) 0 (.ofString mainDb) (.ofString ⟨"t", t_noNul⟩)
      (.ofString ⟨"x", x_noNul⟩) r :=
  ⟨⟨_, rfl, rfl, rfl, rfl⟩, rfl⟩

/-- `CREATE TABLE t(x BINARY)`: declared type and collating sequence are both `BINARY`. -/
theorem column_metadata_agrees_of_binary :
    MetadataAgrees selectX (tableWith ⟨some "BINARY", "BINARY", false, false, false⟩) 0
      "main" "t" "x" :=
  (column_metadata_agrees_iff _ _ _ _ _ _ _ (selectX_shows _)).mpr rfl

/-- `CREATE TABLE t(x TEXT)`: the statement reports type `BINARY` and collating sequence `TEXT`. -/
theorem column_metadata_swapped :
    ScopedStatement.columnMetadata (tableWith ⟨some "TEXT", "BINARY", false, false, false⟩) 0
        selectX =
      .ok (some ⟨"main", "t", "x", some "BINARY", some "TEXT", false, false, false⟩) ∧
      Connection.columnMetadata (tableWith ⟨some "TEXT", "BINARY", false, false, false⟩)
        (some "main") "t" "x" = .ok ⟨some "TEXT", some "BINARY", false, false, false⟩ ∧
      ¬ MetadataAgrees selectX (tableWith ⟨some "TEXT", "BINARY", false, false, false⟩) 0
        "main" "t" "x" := by
  have hshows := selectX_shows ⟨some "TEXT", "BINARY", false, false, false⟩
  have hstmt : ScopedStatement.columnMetadata
      (tableWith ⟨some "TEXT", "BINARY", false, false, false⟩) 0 selectX =
        .ok (some ⟨"main", "t", "x", some "BINARY", some "TEXT", false, false, false⟩) := by
    have h := ScopedStatement.columnMetadata_of_origin hshows
    rw [CStr.toStringLossy_ofString] at h
    exact h
  have hconn : Connection.columnMetadata (tableWith ⟨some "TEXT", "BINARY", false, false, false⟩)
      (some "main") "t" "x" = .ok ⟨some "TEXT", some "BINARY", false, false, false⟩ :=
    Connection.columnMetadata_of_recorded hshows.recorded
  refine ⟨hstmt, hconn, ?_⟩
  intro ⟨d, m, hd, hm, hsame⟩
  rw [hstmt] at hd
  rw [hconn] at hm
  cases hd
  cases hm
  exact absurd hsame.type (by decide)

end NodeRusqlite
