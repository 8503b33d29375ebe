/-
  File:      NodeRusqlite/Sqlite/Catalog.lean
  Subject:   The schemas of a connection (`main`, `temp` and the attached databases), and
             two questions about them: `sqlite3_table_column_metadata` and
             `sqlite3_txn_state`.

  Both take the name of a schema or NULL; names are bytes. With a name they look at
  that schema alone. With NULL the first looks through `temp`, `main` and the attached
  databases in this order, and the second takes the highest state of all.

  * `findAnywhere_eq`: the table found with NULL is the one of `main`, unless
    another one stands in for it (`standIn`).
  * `txnState_none_eq_main_iff`: when the highest state is the one of `main`.
-/
import NodeRusqlite.Basis.AsciiCase
import NodeRusqlite.Basis.Foreign
import NodeRusqlite.Sqlite.Value

namespace NodeRusqlite.Sqlite

open Basis (CStr eqIgnoreAsciiCase)

/-- What a schema records of a table column. The declared type and the name of the collating
    sequence are taken to be UTF-8. -/
structure ColumnRecord where
  dataType : Option String
  collSeq : String
  notNull : Bool
  primaryKey : Bool
  autoInc : Bool
  deriving DecidableEq

/-- A table or a view; `column` finds a column by name, the rowid under its names included. -/
structure Table where
  isView : Bool
  column : ByteArray → Option ColumnRecord

/-- The state of a transaction on one database. -/
inductive TxnState where
  | none : TxnState
  | read : TxnState
  | write : TxnState
  deriving DecidableEq

/-- `SQLITE_TXN_NONE`, `SQLITE_TXN_READ`, `SQLITE_TXN_WRITE`. -/
def TxnState.code : TxnState → Int
  | .none => 0
  | .read => 1
  | .write => 2

/-- One database of a connection; `table` is its hash of table names. -/
structure Schema where
  table : ByteArray → Option Table
  txn : TxnState

/-- `sqlite3StrICmp(name, word) == 0`. -/
def named (name : ByteArray) (word : String) : Bool := eqIgnoreAsciiCase name word.toByteArray

/-- The databases of a connection; `loadFailure`: their schemas cannot be read. -/
structure Catalog where
  main : Schema
  temp : Schema
  attached : List (ByteArray × Schema)
  loadFailure : Option Failure
  /-- ATTACH takes neither name. -/
  attached_names : ∀ e ∈ attached, named e.1 "main" = false ∧ named e.1 "temp" = false

/-- `attached_names` where nothing is attached. -/
theorem Catalog.noAttached_names (e : ByteArray × Schema) (h : e ∈ []) :
    named e.1 "main" = false ∧ named e.1 "temp" = false := nomatch h

namespace Schema

/-- The table of a name in a schema other than `temp`: `sqlite_schema` is `sqlite_master`. -/
def find (s : Schema) (name : ByteArray) : Option Table :=
  match s.table name with
  | some t => some t
  | none => if named name "sqlite_schema" then s.table "sqlite_master".toByteArray else none

/-- The table of a name in `temp`, whose schema table has four names. -/
def findTemp (s : Schema) (name : ByteArray) : Option Table :=
  match s.table name with
  | some t => some t
  | none =>
    if named name "sqlite_temp_schema" ∨ named name "sqlite_schema" ∨
        named name "sqlite_master" then s.table "sqlite_temp_master".toByteArray
    else none

end Schema

namespace Catalog

/-- The first attached database that has the table. -/
def findAttached (name : ByteArray) : List (ByteArray × Schema) → Option Table
  | [] => none
  | (_, s) :: attached =>
    match s.table name with
    | some t => some t
    | none => findAttached name attached

/-- The attached database of a name. -/
def attachedNamed (db : ByteArray) : List (ByteArray × Schema) → Option Schema
  | [] => none
  | (name, s) :: attached => if eqIgnoreAsciiCase db name then some s else attachedNamed db attached

/-- The search with NULL for the schema. -/
def findAnywhere (c : Catalog) (name : ByteArray) : Option Table :=
  match c.temp.table name with
  | some t => some t
  | none =>
    match c.main.table name with
    | some t => some t
    | none =>
      match findAttached name c.attached with
      | some t => some t
      | none =>
        if named name "sqlite_schema" then c.main.table "sqlite_master".toByteArray
        else if named name "sqlite_temp_schema" then c.temp.table "sqlite_temp_master".toByteArray
        else none

/-- `sqlite3FindTable`. -/
def findTable (c : Catalog) (db : Option ByteArray) (name : ByteArray) : Option Table :=
  match db with
  | none => c.findAnywhere name
  | some db =>
    if named db "main" then c.main.find name
    else if named db "temp" then c.temp.findTemp name
    else (attachedNamed db c.attached).bind fun s => s.find name

/-- The error of `sqlite3_table_column_metadata`. -/
def noSuchColumn (table : CStr) (column : Option CStr) : Failure :=
  ⟨1, "no such table column: " ++ table.toStringLossy ++ "." ++
    (column.map CStr.toStringLossy).getD "", Failure.isError_error⟩

/-- What is recorded of a column of a table; without a column name only the table has to exist. -/
def recordOf (table : Option Table) (column : Option ByteArray) : Option ColumnRecord :=
  match table with
  | none => none
  | some table =>
    if table.isView then none
    else
      match column with
      | none => some ⟨some "INTEGER", "BINARY", false, true, false⟩
      | some column => table.column column

/-- `sqlite3_table_column_metadata`. -/
def tableColumnMetadata (c : Catalog) (db : Option CStr) (table : CStr) (column : Option CStr) :
    Except Failure ColumnRecord :=
  match c.loadFailure with
  | some f => .error f
  | none =>
    match recordOf (c.findTable (db.map CStr.bytes) table.bytes) (column.map CStr.bytes) with
    | some r => .ok r
    | none => .error (noSuchColumn table column)

/-- The states of all databases. -/
def states (c : Catalog) : List TxnState :=
  c.main.txn :: c.temp.txn :: c.attached.map fun e => e.2.txn

/-- `sqlite3_txn_state`: -1 when there is no such schema. -/
def txnState (c : Catalog) (db : Option CStr) : Int :=
  match db with
  | none => (c.states.map TxnState.code).foldl max (-1)
  | some db =>
    -- `sqlite3FindDbName` searches from the last database to the first
    match attachedNamed db.bytes c.attached.reverse with
    | some s => s.txn.code
    | none =>
      if named db.bytes "temp" then c.temp.txn.code
      else if named db.bytes "main" then c.main.txn.code
      else -1

/-! ## `main`, by its name -/

theorem attachedNamed_main {attached : List (ByteArray × Schema)}
    (h : ∀ e ∈ attached, named e.1 "main" = false) :
    attachedNamed "main".toByteArray attached = none := by
  induction attached with
  | nil => rfl
  | cons e attached ih =>
    obtain ⟨name, s⟩ := e
    rw [List.forall_mem_cons] at h
    have hname : eqIgnoreAsciiCase "main".toByteArray name = false :=
      (Basis.eqIgnoreAsciiCase_comm _ _).trans h.1
    rw [attachedNamed, hname, if_neg Bool.false_ne_true, ih h.2]

theorem findTable_main (c : Catalog) (name : ByteArray) :
    c.findTable (some "main".toByteArray) name = c.main.find name := by
  simp only [findTable, named, Basis.eqIgnoreAsciiCase_refl, if_true]

theorem txnState_main (c : Catalog) {db : CStr} (hdb : db.bytes = "main".toByteArray) :
    c.txnState (some db) = c.main.txn.code := by
  have hnone : attachedNamed "main".toByteArray c.attached.reverse = none :=
    attachedNamed_main fun e he => (c.attached_names e (List.mem_reverse.mp he)).1
  have htemp : named "main".toByteArray "temp" = false := by decide
  have hmain : named "main".toByteArray "main" = true := Basis.eqIgnoreAsciiCase_refl _
  simp only [txnState, hdb, hnone, htemp, hmain, if_true, Bool.false_eq_true, if_false]

/-! ## The search without a name -/

/-- The table of a name that a search without a database name finds in place of the one of
    `main`. -/
def standIn (c : Catalog) (name : ByteArray) : Option Table :=
  match c.temp.table name with
  | some t => some t
  | none =>
    match c.main.table name with
    | some _ => none
    | none =>
      match findAttached name c.attached with
      | some t => some t
      | none =>
        if named name "sqlite_temp_schema" then c.temp.table "sqlite_temp_master".toByteArray
        else none

theorem findAnywhere_eq (c : Catalog) (name : ByteArray) : c.findAnywhere name =
    match c.standIn name with
    | some t => some t
    | none => c.main.find name := by
  unfold findAnywhere standIn Schema.find
  cases c.temp.table name with
  | some t => rfl
  | none =>
    cases c.main.table name with
    | some t => rfl
    | none =>
      cases findAttached name c.attached with
      | some t => rfl
      | none =>
        by_cases hschema : named name "sqlite_schema" = true
        · have htemp : named name "sqlite_temp_schema" = false := by
            by_contra hne
            have h := Basis.eqIgnoreAsciiCase_trans _ _ _
              ((Basis.eqIgnoreAsciiCase_comm _ _).trans hschema) (Bool.eq_true_of_not_eq_false hne)
            exact absurd h (by decide)
          simp [hschema, htemp]
        · cases h : named name "sqlite_temp_schema" with
          | false => simp [hschema]
          | true => cases ht : c.temp.table "sqlite_temp_master".toByteArray <;> simp [hschema]

/-! ## The highest state -/

theorem foldl_max_le_iff (codes : List Int) (x b : Int) :
    codes.foldl max x ≤ b ↔ x ≤ b ∧ ∀ y ∈ codes, y ≤ b := by
  induction codes generalizing x with
  | nil => exact ⟨fun h => ⟨h, nofun⟩, fun h => h.1⟩
  | cons y codes ih =>
    rw [List.foldl_cons, ih, List.forall_mem_cons, Int.max_le, and_assoc]

/-- The highest state is a state. -/
theorem exists_txnState_none (c : Catalog) : ∃ s : TxnState, c.txnState none = s.code := by
  have hle := foldl_max_le_iff (c.states.map TxnState.code) (-1)
  have hlow : c.main.txn.code ≤ c.txnState none :=
    ((hle _).mp (Int.le_refl _)).2 _ (List.mem_map_of_mem List.mem_cons_self)
  have hmain : 0 ≤ c.main.txn.code := by cases c.main.txn <;> decide
  have hhigh : c.txnState none ≤ 2 := by
    refine (hle 2).mpr ⟨by decide, fun y hy => ?_⟩
    obtain ⟨s, _, rfl⟩ := List.mem_map.mp hy
    cases s <;> decide
  have hcases : c.txnState none = 0 ∨ c.txnState none = 1 ∨ c.txnState none = 2 := by omega
  rcases hcases with h | h | h
  · exact ⟨.none, h⟩
  · exact ⟨.read, h⟩
  · exact ⟨.write, h⟩

/-- **The state of all databases is that of `main` exactly when no other one is higher.** -/
theorem txnState_none_eq_main_iff (c : Catalog) : c.txnState none = c.main.txn.code ↔
    c.temp.txn.code ≤ c.main.txn.code ∧ ∀ e ∈ c.attached, e.2.txn.code ≤ c.main.txn.code := by
  have hle := foldl_max_le_iff (c.states.map TxnState.code) (-1)
  have hmem : c.main.txn.code ∈ c.states.map TxnState.code :=
    List.mem_map_of_mem List.mem_cons_self
  have hmain : c.main.txn.code ≤ c.txnState none := ((hle _).mp (Int.le_refl _)).2 _ hmem
  have hlow : -1 ≤ c.main.txn.code := by cases c.main.txn <;> decide
  have hcodes : (∀ y ∈ c.states.map TxnState.code, y ≤ c.main.txn.code) ↔
      c.temp.txn.code ≤ c.main.txn.code ∧
        ∀ e ∈ c.attached, e.2.txn.code ≤ c.main.txn.code := by
    simp only [states, List.map_cons, List.forall_mem_cons, List.map_map, List.forall_mem_map,
      Function.comp_apply, Int.le_refl, true_and]
  rw [← hcodes]
  refine ⟨fun heq => ?_, fun hall => ?_⟩
  · exact ((hle _).mp (Int.le_of_eq heq)).2
  · exact Int.le_antisymm ((hle _).mpr ⟨hlow, hall⟩) hmain

end Catalog

end NodeRusqlite.Sqlite
