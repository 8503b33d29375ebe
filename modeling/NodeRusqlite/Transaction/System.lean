/-
  File:      NodeRusqlite/Transaction/System.lean
  Subject:   One connection with all its transaction handles, as a state machine.

  An action is a call JavaScript makes, or a finaliser the garbage collector
  runs; a handle can be finalised at any moment and is gone then. Next to a
  handle stands the number its own transaction was given.

  * `step_transaction`, `step_call`: what a step does, in terms of the control
    statements it sends.
  * **`run_latest`**: in every reachable state the open transaction is the last one
    begun.
-/
import NodeRusqlite.Basis.Runs
import NodeRusqlite.Transaction.Handle

namespace NodeRusqlite

open Basis (Outcome Event Run)
open Sqlite

variable {κ δ : Type}

/-! ## 1. `executeBatch` -/

/-- The body the three `executeBatch` methods share. -/
def batchDirect (E : Engine κ) (sql : String) (c : κ) : Outcome NapiError Unit × κ :=
  let (result, c) := Rusqlite.Connection.executeBatch E sql c
  (toNapi result, c)

/-- `Connection::execute_batch`. -/
def Connection.executeBatch (E : Engine κ) := batchDirect E

/-- `ScopedConnection::execute_batch`. -/
def ScopedConnection.executeBatch (E : Engine κ) := batchDirect E

/-- `Transaction::execute_batch`. -/
def Transaction.executeBatch (E : Engine κ) := batchDirect E

def Receiver.executeBatch (r : Receiver) (E : Engine κ) : String → κ → Outcome NapiError Unit × κ :=
  match r with
  | .connection => Connection.executeBatch E
  | .scopedConnection => ScopedConnection.executeBatch E
  | .transaction => Transaction.executeBatch E

theorem Receiver.executeBatch_eq (r : Receiver) (E : Engine κ) :
    r.executeBatch E = batchDirect E := by
  cases r <;> rfl

/-! ## 2. The machine -/

/-- A handle, `none` once it is finalised, and the number of its own transaction. -/
structure Held where
  tx : Option Transaction
  serial : Nat
  deriving DecidableEq

/-- A connection and the handles made on it, in order. -/
structure Sys (δ : Type) where
  conn : Rusqlite.ConnectionState (Conn δ)
  handles : List Held

/-- A connection just opened. -/
def Sys.fresh (content : δ) : Sys δ := ⟨⟨Conn.fresh content, .deferred⟩, []⟩

/-- Any other operation on the connection: it runs statements, and nothing else. -/
structure Operation (o : Oracle δ) where
  run : Conn δ → Conn δ
  moves : ∀ c, Relation.ReflTransGen (Move o) c (run c)

/-- The actions. -/
inductive Act (o : Oracle δ) where
  | transaction (options : Option TransactionOptions) : Act o
  | call (i : Nat) (call : HandleCall) : Act o
  | setDropBehavior (i : Nat) (b : DropBehavior) : Act o
  | setTransactionBehavior (b : TransactionBehavior) : Act o
  | execute (r : Receiver) (sql : String) (params : JsArray) : Act o
  | executeBatch (r : Receiver) (sql : String) : Act o
  | other (op : Operation o) : Act o

namespace Sys

/-- The same handles, another state of the database connection. -/
def withDb (s : Sys δ) (db : Conn δ) : Sys δ := { s with conn := { s.conn with db := db } }

end Sys

/-- One action. A handle can only be used until it is finalised. -/
def step (D : Dialect δ) (o : Oracle δ) (s : Sys δ) : Act o → Option (Sys δ)
  | .transaction options =>
    match Connection.transaction (D.engine o) options s.conn with
    | (.ok tx, conn) => some ⟨conn, s.handles ++ [⟨some tx, s.conn.db.begun⟩]⟩
    | (.err _, conn) | (.panic _, conn) => some { s with conn := conn }
  | .call i call =>
    match s.handles[i]? with
    | some ⟨some tx, serial⟩ =>
      let (_, tx, db) := call.run (D.engine o) tx s.conn.db
      some { s.withDb db with handles := s.handles.set i ⟨tx, serial⟩ }
    | some ⟨none, _⟩ | none => none
  | .setDropBehavior i b =>
    match s.handles[i]? with
    | some ⟨some tx, serial⟩ =>
      some { s with handles := s.handles.set i ⟨some (tx.setDropBehavior b), serial⟩ }
    | some ⟨none, _⟩ | none => none
  | .setTransactionBehavior b =>
    some { s with conn := Connection.setTransactionBehavior b s.conn }
  | .execute r sql params => some (s.withDb (r.execute (D.engine o) sql params s.conn.db).2)
  | .executeBatch r sql => some (s.withDb (r.executeBatch (D.engine o) sql s.conn.db).2)
  | .other op => some (s.withDb (op.run s.conn.db))

/-- The behaviour a `transaction` call begins with. -/
def beginsWith (options : Option TransactionOptions) : TransactionBehavior :=
  (options.bind (·.behavior)).getD .deferred

/-- The handle it makes. -/
def newHandle (options : Option TransactionOptions) : Transaction :=
  ⟨((options.bind (·.dropBehavior)).getD .rollback).toRusqlite, false⟩

section Step

variable {D : Dialect δ} {o : Oracle δ} {s s' : Sys δ}

/-- **`transaction` sends one BEGIN, and makes a handle if it is accepted.** -/
theorem step_transaction (D : Dialect δ) (o : Oracle δ) (s : Sys δ)
    (options : Option TransactionOptions) : step D o s (.transaction options) =
      let ran := exec o (.begin (beginsWith options).kind) s.conn.db
      some { s.withDb ran.2 with
        handles := if ran.1.isNone then s.handles ++ [⟨some (newHandle options), s.conn.db.begun⟩]
          else s.handles } := by
  have hname : ∀ name ∈ (Control.begin (beginsWith options).kind).name?, D.Plain name := nofun
  simp only [step, Connection.transaction]
  rw [show (options.bind (·.behavior)).getD .deferred = beginsWith options from rfl,
    TransactionBehavior.query_eq, Rusqlite.executeBatch_control hname]
  rcases exec o (.begin (beginsWith options).kind) s.conn.db with ⟨_ | f, db⟩
  · unfold newHandle
    cases options.bind (·.dropBehavior) <;> rfl
  · rfl

/-- **A call of a handle does to the connection what the statements it sends do.** -/
theorem step_call {i : Nat} {call : HandleCall} (h : step D o s (.call i call) = some s') :
    ∃ tx serial, s.handles[i]? = some ⟨some tx, serial⟩ ∧
      s'.conn.db = untilAccepted o (call.sends tx s.conn.db.txn.isNone) s.conn.db ∧
      s'.handles = s.handles.set i ⟨(call.run (D.engine o) tx s.conn.db).2.1, serial⟩ ∧
      s'.conn.transactionBehavior = s.conn.transactionBehavior := by
  simp only [step] at h
  split at h
  · rename_i tx serial hi
    cases h
    exact ⟨tx, serial, hi, HandleCall.run_conn call tx s.conn.db, rfl, rfl⟩
  · cases h
  · cases h

theorem step_setDropBehavior {i : Nat} {b : DropBehavior}
    (h : step D o s (.setDropBehavior i b) = some s') :
    ∃ tx serial, s.handles[i]? = some ⟨some tx, serial⟩ ∧
      s' = { s with handles := s.handles.set i ⟨some (tx.setDropBehavior b), serial⟩ } := by
  simp only [step] at h
  split at h
  · rename_i tx serial hi
    cases h
    exact ⟨tx, serial, hi, rfl⟩
  · cases h
  · cases h

theorem untilAccepted_moves (ss : List Control) (c : Conn δ) :
    Relation.ReflTransGen (Move o) c (untilAccepted o ss c) := by
  induction ss generalizing c with
  | nil => exact .refl
  | cons s rest ih =>
    rw [untilAccepted_cons]
    split
    · exact .single (.control s c)
    · exact .head (.control s c) (ih _)

/-- **A step moves the connection by statements only.** -/
theorem step_moves {a : Act o} (h : step D o s a = some s') :
    Relation.ReflTransGen (Move o) s.conn.db s'.conn.db := by
  cases a with
  | transaction options =>
    rw [step_transaction] at h
    cases h
    exact .single (.control _ _)
  | call i call =>
    obtain ⟨tx, serial, _, hdb, _⟩ := step_call h
    rw [hdb]
    exact untilAccepted_moves _ _
  | setDropBehavior i b =>
    obtain ⟨tx, serial, _, rfl⟩ := step_setDropBehavior h
    exact .refl
  | setTransactionBehavior b =>
    cases h
    exact .refl
  | execute r sql params =>
    cases h
    rw [Receiver.execute_eq]
    exact Rusqlite.execute_moves sql _ s.conn.db
  | executeBatch r sql =>
    cases h
    rw [Receiver.executeBatch_eq]
    exact Rusqlite.executeBatch_moves sql s.conn.db
  | other op =>
    cases h
    exact op.moves s.conn.db

/-- **In every reachable state the open transaction is the last one begun.** -/
theorem run_latest {d : δ} {h : List (Event (Sys δ) (Act o))}
    (hr : Run (step D o) (Sys.fresh d) h s) : s.conn.db.Latest := by
  refine Run.invariant (C := fun _ => True) (I := fun _ s => s.conn.db.Latest) (fresh_latest d) ?_
    hr fun _ _ => trivial
  intro h s a s' _ hs hstep _
  exact hs.moves (step_moves hstep)

end Step

end NodeRusqlite
