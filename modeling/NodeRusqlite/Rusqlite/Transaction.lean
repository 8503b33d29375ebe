/-
  File:      NodeRusqlite/Rusqlite/Transaction.lean
  Subject:   The transaction side of rusqlite: behaviours, and control statements sent as
             texts through `execute_batch`.

  * **`executeBatch_control`**: a control statement's text runs that statement.
  * `executeBatch_moves`, `execute_moves`: any text moves the connection by
    `Sqlite.Move`s.
-/
import NodeRusqlite.Rusqlite.Connection
import NodeRusqlite.Sqlite.Dialect

namespace NodeRusqlite.Rusqlite

open Sqlite

variable {δ : Type}

/-- `rusqlite::TransactionBehavior`. -/
inductive TransactionBehavior where
  | deferred : TransactionBehavior
  | immediate : TransactionBehavior
  | exclusive : TransactionBehavior
  deriving DecidableEq

/-- `rusqlite::DropBehavior`. -/
inductive DropBehavior where
  | rollback : DropBehavior
  | commit : DropBehavior
  | ignore : DropBehavior
  | panic : DropBehavior
  deriving DecidableEq

/-- `rusqlite::Connection`: the database handle, and the behaviour its own `transaction` begins
    with. -/
structure ConnectionState (κ : Type) where
  db : κ
  transactionBehavior : TransactionBehavior

/-- `Connection::set_transaction_behavior`. -/
def Connection.setTransactionBehavior {κ : Type} (behavior : TransactionBehavior)
    (conn : ConnectionState κ) : ConnectionState κ :=
  { conn with transactionBehavior := behavior }

/-- The result of a control statement as `execute_batch` reports it. -/
def batchResult (res : Option Failure) : Except Error Unit :=
  match res with
  | none => .ok ()
  | some f => .error (.sqliteFailure f)

section Batch

variable {D : Dialect δ} {o : Oracle δ}

theorem text_isEmpty (s : Control) : s.text.isEmpty = false := by
  have hpos : 0 < s.text.utf8ByteSize := by
    cases s with
    | begin kind => cases kind <;> decide
    | commit => decide
    | rollback => decide
    | savepoint name | rollbackTo name | release name =>
      simp only [Control.text, String.utf8ByteSize_append]
      exact Nat.add_pos_left (by decide) _
  rw [String.isEmpty, beq_eq_false_iff_ne]
  omega

theorem text_size {s : Control} (h : ∀ name ∈ s.name?, D.Plain name) :
    s.text.utf8ByteSize < 2 ^ 31 := by
  cases s with
  | begin kind => cases kind <;> decide
  | commit => decide
  | rollback => decide
  | savepoint name | rollbackTo name | release name =>
    have hn := isIdentifier_size (h name rfl).1
    simp only [Control.text, String.utf8ByteSize_append]
    have h₁ : "SAVEPOINT ".utf8ByteSize = 10 := by decide
    have h₂ : "ROLLBACK TO ".utf8ByteSize = 12 := by decide
    have h₃ : "RELEASE ".utf8ByteSize = 8 := by decide
    omega

theorem stepOnce_control (s : Control) (c : Conn δ) :
    stepOnce (StmtPtr.fresh (some (Sql.program o (.control s)))) c =
      (batchResult (exec o s c).1, (exec o s c).2) := by
  rcases h : exec o s c with ⟨_ | f, c'⟩ <;>
    simp only [stepOnce, StmtPtr.fresh, Option.map_some, StmtPtr.step, Stmt.step, Stmt.fresh,
      Stmt.pending, Sql.program, h, StmtPtr.finalize, StmtPtr.reset, Stmt.reset, batchResult]

/-- A text that does not compile changes nothing. -/
theorem executeBatch_refused {s : Control} {c : Conn δ}
    (h : 2 ^ 31 ≤ s.text.utf8ByteSize ∨ D.refuse s.text c ≠ none) :
    ∃ e, Connection.executeBatch (D.engine o) s.text c = (.error e, c) := by
  have hprep : ∃ e, prepareFirst (D.engine o) s.text c = .error e := by
    unfold prepareFirst
    split
    · exact ⟨_, rfl⟩
    · rename_i hlt
      obtain ⟨⟨f, offset⟩, hf⟩ := Option.ne_none_iff_exists'.mp (h.resolve_left hlt)
      simp only [Dialect.engine, hf]
      exact ⟨_, rfl⟩
  obtain ⟨e, he⟩ := hprep
  rw [Connection.executeBatch_eq, text_isEmpty, he]
  exact ⟨e, rfl⟩

/-- **A text that compiles to a control statement runs it**, and goes on to what is left of the
    text unless it failed. -/
theorem executeBatch_first {s s' : Control} {c : Conn δ} (hlt : s.text.utf8ByteSize < 2 ^ 31)
    (hrefuse : D.refuse s.text c = none) (hfirst : D.first s.text = some (.control s')) :
    Connection.executeBatch (D.engine o) s.text c =
      match D.tail s.text, (exec o s' c).1 with
      | some rest, none => Connection.executeBatch (D.engine o) rest (exec o s' c).2
      | _, res => (batchResult res, (exec o s' c).2) := by
  have hprep : prepareFirst (D.engine o) s.text c =
      .ok (StmtPtr.fresh (some (Sql.program o (.control s'))), D.tail s.text) := by
    simp only [prepareFirst, Nat.not_le.mpr hlt, if_false, Dialect.engine, hrefuse, hfirst,
      Option.map_some]
  rw [Connection.executeBatch_eq, text_isEmpty, hprep]
  cases D.tail s.text with
  | none => exact stepOnce_control s' c
  | some rest =>
    simp only [stepOnce_control]
    cases (exec o s' c).1 with
    | none => rfl
    | some f => rfl

/-- **The text of a control statement runs that statement.** -/
theorem executeBatch_control {s : Control} (h : ∀ name ∈ s.name?, D.Plain name) (c : Conn δ) :
    Connection.executeBatch (D.engine o) s.text c =
      (batchResult (exec o s c).1, (exec o s c).2) := by
  obtain ⟨hfirst, htail, hrefuse⟩ := D.reads s h
  rw [executeBatch_first (text_size h) (hrefuse c) hfirst, htail]

theorem executeBatch_moves (sql : String) (c : Conn δ) :
    Relation.ReflTransGen (Move o) c (Connection.executeBatch (D.engine o) sql c).2 :=
  Connection.executeBatch_moves (D.engine_moves o) sql c

theorem execute_moves (sql : String) (params : List NodeRusqlite.Value) (c : Conn δ) :
    Relation.ReflTransGen (Move o) c (Connection.execute (D.engine o) sql params c).2 :=
  Connection.execute_moves (D.engine_moves o) sql params c

end Batch

end NodeRusqlite.Rusqlite
