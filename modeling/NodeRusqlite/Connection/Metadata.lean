/-
  File:      NodeRusqlite/Connection/Metadata.lean
  Subject:   `table_exists`, `column_exists`, `column_metadata` and `transaction_state`
             without a database name.

  The documentation says "or `null` to use the main database"; the missing name
  is handed to SQLite as NULL, which means every database.

  * `findAnywhere_eq`: the table a search without a name finds in place of the
    one of `main` (`standIn`).
  * **`null_means_main_iff`**: the four answers are those for `main` exactly when
    that table answers as the one of `main` would, and no other database is in a
    higher transaction state.
-/
import NodeRusqlite.Connection.Execute
import NodeRusqlite.Rusqlite.Column

namespace NodeRusqlite

open Basis (CStr CString Outcome hasNul)
open Sqlite

/-! ## 1. The four functions -/

/-- `ConnectionColumnMetadata`. -/
structure ConnectionColumnMetadata where
  type : Option String
  collationSequence : Option String
  notNull : Bool
  primaryKey : Bool
  autoIncrement : Bool
  deriving DecidableEq

/-- The record made from the tuple of the wrapped crate. The types and collating sequences of a
    catalog are taken to be UTF-8: `to_str().unwrap()` finds no other. -/
def ConnectionColumnMetadata.ofTuple (metadata : Rusqlite.ColumnMetadata) :
    ConnectionColumnMetadata :=
  ⟨metadata.1, metadata.2.1, metadata.2.2.1, metadata.2.2.2.1, metadata.2.2.2.2⟩

/-- `TransactionState`. -/
inductive TransactionState where
  | none : TransactionState
  | read : TransactionState
  | write : TransactionState
  deriving DecidableEq

/-- `From<rusqlite::TransactionState> for TransactionState`. -/
def TransactionState.ofTxnState : TxnState → TransactionState
  | .none => .none
  | .read => .read
  | .write => .write

/-- The body the three `table_exists` methods share. -/
def tableExists (c : Catalog) (dbName : Option String) (tableName : String) :
    Outcome NapiError Bool :=
  toNapi (match dbName with
    | some dbName => Rusqlite.Connection.tableExists c (some dbName) tableName
    | none => Rusqlite.Connection.tableExists c none tableName)

/-- The body the three `column_exists` methods share. -/
def columnExists (c : Catalog) (dbName : Option String) (tableName columnName : String) :
    Outcome NapiError Bool :=
  toNapi (match dbName with
    | some dbName => Rusqlite.Connection.columnExists c (some dbName) tableName columnName
    | none => Rusqlite.Connection.columnExists c none tableName columnName)

/-- The body the three `column_metadata` methods share. -/
def columnMetadata (c : Catalog) (dbName : Option String) (tableName columnName : String) :
    Outcome NapiError ConnectionColumnMetadata := do
  let metadata ← toNapi (match dbName with
    | some dbName => Rusqlite.Connection.columnMetadata c (some dbName) tableName columnName
    | none => Rusqlite.Connection.columnMetadata c none tableName columnName)
  .ok (.ofTuple metadata)

/-- The body the three `transaction_state` methods share. -/
def transactionState (debug : String → String) (c : Catalog) (dbName : Option String) :
    Outcome NapiError TransactionState := do
  let state ← toNapi (Rusqlite.Connection.transactionState debug c dbName)
  .ok (TransactionState.ofTxnState state)

/-- `Connection::table_exists`. -/
def Connection.tableExists := NodeRusqlite.tableExists

/-- `ScopedConnection::table_exists`. -/
def ScopedConnection.tableExists := NodeRusqlite.tableExists

/-- `Transaction::table_exists`. -/
def Transaction.tableExists := NodeRusqlite.tableExists

/-- `Connection::column_exists`. -/
def Connection.columnExists := NodeRusqlite.columnExists

/-- `ScopedConnection::column_exists`. -/
def ScopedConnection.columnExists := NodeRusqlite.columnExists

/-- `Transaction::column_exists`. -/
def Transaction.columnExists := NodeRusqlite.columnExists

/-- `Connection::column_metadata`. -/
def Connection.columnMetadata := NodeRusqlite.columnMetadata

/-- `ScopedConnection::column_metadata`. -/
def ScopedConnection.columnMetadata := NodeRusqlite.columnMetadata

/-- `Transaction::column_metadata`. -/
def Transaction.columnMetadata := NodeRusqlite.columnMetadata

/-- `Connection::transaction_state`. -/
def Connection.transactionState := NodeRusqlite.transactionState

/-- `ScopedConnection::transaction_state`. -/
def ScopedConnection.transactionState := NodeRusqlite.transactionState

/-- `Transaction::transaction_state`. -/
def Transaction.transactionState := NodeRusqlite.transactionState

/-- The four functions of one class. -/
structure Inspector where
  tableExists : Catalog → Option String → String → Outcome NapiError Bool
  columnExists : Catalog → Option String → String → String → Outcome NapiError Bool
  columnMetadata :
    Catalog → Option String → String → String → Outcome NapiError ConnectionColumnMetadata
  transactionState :
    (String → String) → Catalog → Option String → Outcome NapiError TransactionState

def Receiver.inspector : Receiver → Inspector
  | .connection => ⟨Connection.tableExists, Connection.columnExists, Connection.columnMetadata,
      Connection.transactionState⟩
  | .scopedConnection => ⟨ScopedConnection.tableExists, ScopedConnection.columnExists,
      ScopedConnection.columnMetadata, ScopedConnection.transactionState⟩
  | .transaction => ⟨Transaction.tableExists, Transaction.columnExists,
      Transaction.columnMetadata, Transaction.transactionState⟩

theorem Receiver.inspector_eq (r : Receiver) : r.inspector =
    ⟨NodeRusqlite.tableExists, NodeRusqlite.columnExists, NodeRusqlite.columnMetadata,
      NodeRusqlite.transactionState⟩ := by
  cases r <;> rfl

/-! ## 2. What the lookups answer -/

/-- The bytes of a name. -/
def bytesOf (name : CString) : ByteArray := name.val.toByteArray

theorem bytes_ofString (name : CString) : (CStr.ofString name).bytes = bytesOf name := rfl

theorem map_bytes : CStr.bytes ∘ CStr.ofString = bytesOf := rfl

namespace Rusqlite

variable {c : Catalog} (db : Option CString)

/-- A name with a NUL is refused before SQLite is asked. -/
theorem existsInSchema_of_hasNul {tableName : String} (h : hasNul tableName = true)
    (columnName : Option String) :
    Connection.existsInSchema c (db.map Subtype.val) tableName columnName =
      .error (.nulError (Basis.nulPosition tableName)) := by
  rw [Connection.existsInSchema, asCstrOption_ok, asCstr_of_hasNul h]
  rfl

theorem existsInSchema_of_column_hasNul (tableName : CString) {columnName : String}
    (h : hasNul columnName = true) :
    Connection.existsInSchema c (db.map Subtype.val) tableName.val (some columnName) =
      .error (.nulError (Basis.nulPosition columnName)) := by
  rw [Connection.existsInSchema, asCstrOption_ok, asCstr_ok, asCstrOption, asCstr_of_hasNul h]
  rfl

theorem existsInSchema_eq (tableName : CString) (columnName : Option CString) :
    Connection.existsInSchema c (db.map Subtype.val) tableName.val
      (columnName.map Subtype.val) =
    match c.loadFailure with
    | some f => if f.code = 1 then .ok false else .error (.sqliteFailure f)
    | none => .ok (Catalog.recordOf (c.findTable (db.map bytesOf) (bytesOf tableName))
        (columnName.map bytesOf)).isSome := by
  rw [Connection.existsInSchema, asCstrOption_ok, asCstr_ok, asCstrOption_ok]
  dsimp only [bind, Except.bind]
  unfold Catalog.tableColumnMetadata
  cases c.loadFailure with
  | some f => rfl
  | none =>
    simp only [Option.map_map, map_bytes, bytes_ofString]
    cases Catalog.recordOf (c.findTable (db.map bytesOf) (bytesOf tableName))
        (columnName.map bytesOf) with
    | some r => rfl
    | none => rfl

theorem columnMetadata_of_hasNul {tableName : String} (h : hasNul tableName = true)
    (columnName : String) :
    Connection.columnMetadata c (db.map Subtype.val) tableName columnName =
      .error (.nulError (Basis.nulPosition tableName)) := by
  rw [Connection.columnMetadata, asCstrOption_ok, asCstr_of_hasNul h]
  rfl

theorem columnMetadata_of_column_hasNul (tableName : CString) {columnName : String}
    (h : hasNul columnName = true) :
    Connection.columnMetadata c (db.map Subtype.val) tableName.val columnName =
      .error (.nulError (Basis.nulPosition columnName)) := by
  rw [Connection.columnMetadata, asCstrOption_ok, asCstr_ok, asCstr_of_hasNul h]
  rfl

theorem columnMetadata_eq (tableName columnName : CString) :
    Connection.columnMetadata c (db.map Subtype.val) tableName.val columnName.val =
      columnMetadataC c (db.map .ofString) (.ofString tableName) (.ofString columnName) := by
  rw [Connection.columnMetadata, asCstrOption_ok, asCstr_ok, asCstr_ok]
  rfl

/-- What `column_metadata` makes of the record of a column. -/
def metadataOf (tableName columnName : CString) : Option ColumnRecord → Except Error ColumnMetadata
  | some r => .ok (r.dataType, some r.collSeq, r.notNull, r.primaryKey, r.autoInc)
  | none => .error (.sqliteFailure
      (Catalog.noSuchColumn (.ofString tableName) (some (.ofString columnName))))

theorem columnMetadataC_eq (tableName columnName : CString) :
    columnMetadataC c (db.map .ofString) (.ofString tableName) (.ofString columnName) =
    match c.loadFailure with
    | some f => .error (.sqliteFailure f)
    | none => metadataOf tableName columnName
        (Catalog.recordOf (c.findTable (db.map bytesOf) (bytesOf tableName))
          (some (bytesOf columnName))) := by
  unfold columnMetadataC Catalog.tableColumnMetadata
  cases c.loadFailure with
  | some f => rfl
  | none =>
    simp only [Option.map_some, Option.map_map, map_bytes, bytes_ofString]
    cases Catalog.recordOf (c.findTable (db.map bytesOf) (bytesOf tableName))
        (some (bytesOf columnName)) with
    | some r => rfl
    | none => rfl

/-- What `column_metadata` answers for names without NUL. -/
theorem columnMetadata_found (tableName columnName : CString) :
    Connection.columnMetadata c (db.map Subtype.val) tableName.val columnName.val =
    match c.loadFailure with
    | some f => .error (.sqliteFailure f)
    | none => metadataOf tableName columnName
        (Catalog.recordOf (c.findTable (db.map bytesOf) (bytesOf tableName))
          (some (bytesOf columnName))) :=
  (columnMetadata_eq db tableName columnName).trans (columnMetadataC_eq db tableName columnName)

/-- The answer tells the record. -/
theorem metadataOf_inj {tableName columnName : CString} {r r' : Option ColumnRecord}
    (h : (toNapi (metadataOf tableName columnName r) >>= fun metadata =>
        Outcome.ok (ConnectionColumnMetadata.ofTuple metadata)) =
      (toNapi (metadataOf tableName columnName r') >>= fun metadata =>
        Outcome.ok (ConnectionColumnMetadata.ofTuple metadata))) : r = r' := by
  cases r with
  | none =>
    cases r' with
    | none => rfl
    | some r' => cases h
  | some r =>
    cases r' with
    | none => cases h
    | some r' =>
      obtain ⟨d, s, n, p, i⟩ := r
      obtain ⟨d', s', n', p', i'⟩ := r'
      cases h
      rfl

end Rusqlite

/-! ## 3. Without a name, and with the name `main` -/

theorem main_noNul : hasNul "main" = false := by decide

/-- The name of the main database, as C reads it. -/
def mainDb : CString := ⟨"main", main_noNul⟩

/-- The table found in place of the one of `main` answers as the one of `main` does. -/
def AnswersAsMain (c : Catalog) (tableName columnName : String) : Prop :=
  ∀ table, c.standIn tableName.toByteArray = some table →
    (Catalog.recordOf (some table) none).isSome =
        (Catalog.recordOf (c.main.find tableName.toByteArray) none).isSome ∧
      (hasNul columnName = false → Catalog.recordOf (some table) (some columnName.toByteArray) =
        Catalog.recordOf (c.main.find tableName.toByteArray) (some columnName.toByteArray))

/-- No database is in a higher transaction state than `main`. -/
def NoneHigher (c : Catalog) : Prop :=
  c.temp.txn.code ≤ c.main.txn.code ∧ ∀ e ∈ c.attached, e.2.txn.code ≤ c.main.txn.code

/-- The three lookups answer without a name as they do for `main`. -/
structure LookupsAgree (c : Catalog) (tableName columnName : String) : Prop where
  tableExists : tableExists c none tableName = tableExists c (some "main") tableName
  columnExists : columnExists c none tableName columnName =
    columnExists c (some "main") tableName columnName
  columnMetadata : columnMetadata c none tableName columnName =
    columnMetadata c (some "main") tableName columnName

section Lookups

variable {c : Catalog} {tableName columnName : String}

theorem lookupsAgree_of_eq
    (htable : Rusqlite.Connection.existsInSchema c none tableName none =
      Rusqlite.Connection.existsInSchema c (some "main") tableName none)
    (hcolumn : Rusqlite.Connection.existsInSchema c none tableName (some columnName) =
      Rusqlite.Connection.existsInSchema c (some "main") tableName (some columnName))
    (hmetadata : Rusqlite.Connection.columnMetadata c none tableName columnName =
      Rusqlite.Connection.columnMetadata c (some "main") tableName columnName) :
    LookupsAgree c tableName columnName :=
  ⟨congrArg toNapi htable, congrArg toNapi hcolumn,
    congrArg (fun r => toNapi r >>= fun metadata =>
      Outcome.ok (ConnectionColumnMetadata.ofTuple metadata)) hmetadata⟩

/-- A table name with a NUL is refused with and without a name. -/
theorem lookupsAgree_of_hasNul (h : hasNul tableName = true) :
    LookupsAgree c tableName columnName := by
  refine lookupsAgree_of_eq ?_ ?_ ?_
  · exact (Rusqlite.existsInSchema_of_hasNul none h none).trans
      (Rusqlite.existsInSchema_of_hasNul (some mainDb) h none).symm
  · exact (Rusqlite.existsInSchema_of_hasNul none h (some columnName)).trans
      (Rusqlite.existsInSchema_of_hasNul (some mainDb) h (some columnName)).symm
  · exact (Rusqlite.columnMetadata_of_hasNul none h columnName).trans
      (Rusqlite.columnMetadata_of_hasNul (some mainDb) h columnName).symm

/-- The tables found with and without a name have the same record of a column. -/
theorem recordOf_eq_iff (c : Catalog) (name : ByteArray) (P : Option ColumnRecord →
    Option ColumnRecord → Prop) (hrefl : ∀ r, P r r) (column : Option ByteArray) :
    P (Catalog.recordOf (c.findTable none name) column)
        (Catalog.recordOf (c.findTable (some (bytesOf mainDb)) name) column) ↔
      ∀ table, c.standIn name = some table →
        P (Catalog.recordOf (some table) column)
          (Catalog.recordOf (c.main.find name) column) := by
  have hany : c.findTable none name = c.findAnywhere name := rfl
  have hmain : c.findTable (some (bytesOf mainDb)) name = c.main.find name := c.findTable_main name
  rw [hany, hmain, c.findAnywhere_eq]
  cases c.standIn name with
  | none => exact iff_of_true (hrefl _) nofun
  | some table => simp only [Option.some.injEq, forall_eq']

/-- `AnswersAsMain`, said of the tables the two searches find. -/
theorem answersAsMain_iff (c : Catalog) (name columnName : String) :
    AnswersAsMain c name columnName ↔
      (Catalog.recordOf (c.findTable none name.toByteArray) none).isSome =
          (Catalog.recordOf (c.findTable (some (bytesOf mainDb)) name.toByteArray) none).isSome ∧
        (hasNul columnName = false →
          Catalog.recordOf (c.findTable none name.toByteArray) (some columnName.toByteArray) =
            Catalog.recordOf (c.findTable (some (bytesOf mainDb)) name.toByteArray)
              (some columnName.toByteArray)) := by
  have htable := recordOf_eq_iff c name.toByteArray (fun a b => a.isSome = b.isSome)
    (fun _ => rfl) none
  have hcolumn := recordOf_eq_iff c name.toByteArray Eq (fun _ => rfl)
    (some columnName.toByteArray)
  rw [htable, hcolumn]
  constructor
  · exact fun h => ⟨fun table ht => (h table ht).1, fun hcol table ht => (h table ht).2 hcol⟩
  · exact fun h table ht => ⟨h.1 table ht, fun hcol => h.2 hcol table ht⟩

theorem existsInSchema_agrees (t : CString) (column : Option CString)
    (h : c.loadFailure = none →
      (Catalog.recordOf (c.findTable none (bytesOf t)) (column.map bytesOf)).isSome =
        (Catalog.recordOf (c.findTable (some (bytesOf mainDb)) (bytesOf t))
          (column.map bytesOf)).isSome) :
    Rusqlite.Connection.existsInSchema c none t.val (column.map Subtype.val) =
      Rusqlite.Connection.existsInSchema c (some "main") t.val (column.map Subtype.val) := by
  refine (Rusqlite.existsInSchema_eq none t column).trans
    (Eq.trans ?_ (Rusqlite.existsInSchema_eq (some mainDb) t column).symm)
  cases hload : c.loadFailure with
  | some f => rfl
  | none => exact congrArg Except.ok (h hload)

theorem columnMetadata_agrees (t column : CString)
    (h : c.loadFailure = none →
      Catalog.recordOf (c.findTable none (bytesOf t)) (some (bytesOf column)) =
        Catalog.recordOf (c.findTable (some (bytesOf mainDb)) (bytesOf t))
          (some (bytesOf column))) :
    Rusqlite.Connection.columnMetadata c none t.val column.val =
      Rusqlite.Connection.columnMetadata c (some "main") t.val column.val := by
  refine (Rusqlite.columnMetadata_found none t column).trans
    (Eq.trans ?_ (Rusqlite.columnMetadata_found (some mainDb) t column).symm)
  cases hload : c.loadFailure with
  | some f => rfl
  | none => exact congrArg (Rusqlite.metadataOf t column) (h hload)

theorem lookupsAgree_of_answers {t : CString}
    (h : c.loadFailure ≠ none ∨ AnswersAsMain c t.val columnName) :
    LookupsAgree c t.val columnName := by
  have hans : c.loadFailure = none → AnswersAsMain c t.val columnName :=
    fun hload => h.resolve_left (not_not_intro hload)
  rw [answersAsMain_iff] at hans
  have htable := existsInSchema_agrees t none fun hload => (hans hload).1
  cases hcol : hasNul columnName with
  | true =>
    refine lookupsAgree_of_eq htable ?_ ?_
    · exact (Rusqlite.existsInSchema_of_column_hasNul none t hcol).trans
        (Rusqlite.existsInSchema_of_column_hasNul (some mainDb) t hcol).symm
    · exact (Rusqlite.columnMetadata_of_column_hasNul none t hcol).trans
        (Rusqlite.columnMetadata_of_column_hasNul (some mainDb) t hcol).symm
  | false =>
    have hrecord := fun hload => (hans hload).2 hcol
    refine lookupsAgree_of_eq htable ?_ ?_
    · exact existsInSchema_agrees t (some ⟨columnName, hcol⟩)
        fun hload => congrArg Option.isSome (hrecord hload)
    · exact columnMetadata_agrees t ⟨columnName, hcol⟩ hrecord

/-- Tables that answer alike are seen to answer alike. -/
theorem answersAsMain_of_lookupsAgree {t : CString} (hload : c.loadFailure = none)
    (h : LookupsAgree c t.val columnName) : AnswersAsMain c t.val columnName := by
  rw [answersAsMain_iff]
  constructor
  · have hnone := Rusqlite.existsInSchema_eq (c := c) none t none
    have hmain := Rusqlite.existsInSchema_eq (c := c) (some mainDb) t none
    rw [hload] at hnone hmain
    exact Outcome.ok.inj ((congrArg toNapi hnone).symm.trans
      (h.tableExists.trans (congrArg toNapi hmain)))
  · intro hcol
    have hnone := Rusqlite.columnMetadata_found (c := c) none t ⟨columnName, hcol⟩
    have hmain := Rusqlite.columnMetadata_found (c := c) (some mainDb) t ⟨columnName, hcol⟩
    rw [hload] at hnone hmain
    exact Rusqlite.metadataOf_inj (((congrArg (fun r => toNapi r >>= _) hnone).symm.trans
      h.columnMetadata).trans (congrArg (fun r => toNapi r >>= _) hmain))

/-- **The lookups agree exactly when the table found in place of the one of `main` answers as that
    one**, or none is looked up. -/
theorem lookupsAgree_iff (c : Catalog) (tableName columnName : String) :
    LookupsAgree c tableName columnName ↔ hasNul tableName = true ∨ c.loadFailure ≠ none ∨
      AnswersAsMain c tableName columnName := by
  cases ht : hasNul tableName with
  | true => exact iff_of_true (lookupsAgree_of_hasNul ht) (.inl rfl)
  | false =>
    refine ⟨fun h => ?_, fun h => ?_⟩
    · by_cases hload : c.loadFailure = none
      · exact .inr (.inr (answersAsMain_of_lookupsAgree (t := ⟨tableName, ht⟩) hload h))
      · exact .inr (.inl hload)
    · exact lookupsAgree_of_answers (t := ⟨tableName, ht⟩) (h.resolve_left Bool.false_ne_true)

end Lookups

/-! ## 4. The transaction state -/

/-- The state behind a code. -/
theorem transactionState_of_code (debug : String → String) {c : Catalog} (db : Option CString)
    {s : TxnState} (h : c.txnState (db.map .ofString) = s.code) :
    transactionState debug c (db.map Subtype.val) = .ok (.ofTxnState s) := by
  have hstate : Rusqlite.Connection.transactionState debug c (db.map Subtype.val) = .ok s := by
    simp only [Rusqlite.Connection.transactionState, Rusqlite.asCstrOption_ok, bind,
      Except.bind, h]
    cases s <;> rfl
  simp only [transactionState, hstate]
  rfl

/-- **The transaction state without a name is that of `main` exactly when none is higher.** -/
theorem transactionState_iff (debug : String → String) (c : Catalog) :
    transactionState debug c none = transactionState debug c (some "main") ↔ NoneHigher c := by
  obtain ⟨s, hs⟩ := c.exists_txnState_none
  have hnone := transactionState_of_code debug none hs
  have hmain := transactionState_of_code debug (some mainDb)
    (c.txnState_main (show (CStr.ofString mainDb).bytes = "main".toByteArray from rfl))
  rw [NoneHigher, ← c.txnState_none_eq_main_iff, hs]
  refine (Eq.congr hnone hmain).trans ?_
  cases s <;> cases c.main.txn <;> decide

/-! ## 5. A missing name means `main` -/

/-- The four functions of a class answer without a database name as they do for `main`. -/
structure NullMeansMain (i : Inspector) (debug : String → String) (c : Catalog)
    (tableName columnName : String) : Prop where
  tableExists : i.tableExists c none tableName = i.tableExists c (some "main") tableName
  columnExists : i.columnExists c none tableName columnName =
    i.columnExists c (some "main") tableName columnName
  columnMetadata : i.columnMetadata c none tableName columnName =
    i.columnMetadata c (some "main") tableName columnName
  transactionState : i.transactionState debug c none = i.transactionState debug c (some "main")

/-- **A missing name means `main` exactly when no other database has its say**: the table found in
    place of the one of `main` answers as that one, and no state is higher than that of `main`. -/
theorem null_means_main_iff (r : Receiver) (debug : String → String) (c : Catalog)
    (tableName columnName : String) :
    NullMeansMain r.inspector debug c tableName columnName ↔
      (hasNul tableName = true ∨ c.loadFailure ≠ none ∨ AnswersAsMain c tableName columnName) ∧
        NoneHigher c := by
  rw [← lookupsAgree_iff, ← transactionState_iff debug, r.inspector_eq]
  constructor
  · exact fun h => ⟨⟨h.tableExists, h.columnExists, h.columnMetadata⟩, h.transactionState⟩
  · exact fun ⟨h, hstate⟩ => ⟨h.tableExists, h.columnExists, h.columnMetadata, hstate⟩

/-- A connection that is writing in its temporary database, which has a table `t(x)`; `main` is
    empty and at rest. -/
def tempTable : Catalog where
  main := ⟨fun _ => none, .none⟩
  temp := ⟨fun name =>
    if name = "t".toByteArray then
      some ⟨false, fun column =>
        if column = "x".toByteArray then some ⟨some "TEXT", "BINARY", false, false, false⟩
        else none⟩
    else none, .write⟩
  attached := []
  loadFailure := none
  attached_names := Catalog.noAttached_names

/-- Without a name the temporary table and its transaction are seen, in `main` there is neither. -/
theorem null_finds_temp_table :
    Connection.tableExists tempTable none "t" = .ok true ∧
      Connection.tableExists tempTable (some "main") "t" = .ok false ∧
      Connection.transactionState id tempTable none = .ok .write ∧
      Connection.transactionState id tempTable (some "main") = .ok .none ∧
      ¬ NullMeansMain Receiver.connection.inspector id tempTable "t" "x" := by
  have hnone : Connection.tableExists tempTable none "t" = .ok true := by decide
  have hmain : Connection.tableExists tempTable (some "main") "t" = .ok false := by decide
  refine ⟨hnone, hmain, by decide, by decide, fun h => ?_⟩
  have heq : Connection.tableExists tempTable none "t" =
      Connection.tableExists tempTable (some "main") "t" := h.tableExists
  rw [hnone, hmain] at heq
  cases heq

end NodeRusqlite
