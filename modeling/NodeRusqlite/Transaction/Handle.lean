/-
  File:      NodeRusqlite/Transaction/Handle.lean
  Subject:   Transaction handles: `transaction`, `commit`, `rollback`, `dispose` and the
             finaliser.

  A handle keeps its drop behaviour and whether it is finished, nothing about
  the transaction it began. Each of its calls sends COMMIT or ROLLBACK, one
  after the other as long as they fail: `HandleCall.sends` says which ones.

  * **`HandleCall.run_conn`**: what a call does to the connection is what these
    statements do.
  * **`dispose_agrees_iff`**: `dispose` and the finaliser agree unless COMMIT is
    refused, where only the finaliser falls back to ROLLBACK; and `dispose` ends
    the transaction, unless the handle let go of it before.
-/
import NodeRusqlite.Connection.Execute
import NodeRusqlite.Rusqlite.Transaction

namespace NodeRusqlite

open Basis (Outcome)
open Sqlite

variable {κ δ : Type}

/-! ## 1. Behaviours and options -/

/-- `TransactionBehavior`. -/
inductive TransactionBehavior where
  | deferred : TransactionBehavior
  | immediate : TransactionBehavior
  | exclusive : TransactionBehavior
  deriving DecidableEq

namespace TransactionBehavior

/-- `From<TransactionBehavior> for rusqlite::TransactionBehavior`. -/
def toRusqlite : TransactionBehavior → Rusqlite.TransactionBehavior
  | .deferred => .deferred
  | .exclusive => .exclusive
  | .immediate => .immediate

/-- The text that begins a transaction. -/
def query : TransactionBehavior → String
  | .deferred => "BEGIN DEFERRED"
  | .immediate => "BEGIN IMMEDIATE"
  | .exclusive => "BEGIN EXCLUSIVE"

/-- The kind of BEGIN that the text is. -/
def kind : TransactionBehavior → BeginKind
  | .deferred => .deferred
  | .immediate => .immediate
  | .exclusive => .exclusive

theorem query_eq (b : TransactionBehavior) : b.query = (Control.begin b.kind).text := by
  cases b <;> rfl

theorem kind_injective : Function.Injective kind := by
  intro a b h
  cases a <;> cases b <;> first | rfl | cases h

end TransactionBehavior

/-- `DropBehavior`. -/
inductive DropBehavior where
  | rollback : DropBehavior
  | commit : DropBehavior
  | ignore : DropBehavior
  | panic : DropBehavior
  deriving DecidableEq

namespace DropBehavior

/-- `From<DropBehavior> for rusqlite::DropBehavior`. -/
def toRusqlite : DropBehavior → Rusqlite.DropBehavior
  | .commit => .commit
  | .ignore => .ignore
  | .panic => .panic
  | .rollback => .rollback

/-- `From<rusqlite::DropBehavior> for DropBehavior`. -/
def ofRusqlite : Rusqlite.DropBehavior → DropBehavior
  | .rollback => .rollback
  | .commit => .commit
  | .ignore => .ignore
  | .panic => .panic

end DropBehavior

/-- `TransactionOptions`; its field `unchecked` is never read. -/
structure TransactionOptions where
  behavior : Option TransactionBehavior
  dropBehavior : Option DropBehavior

/-! ## 2. The handle and its calls -/

/-- A transaction handle. -/
structure Transaction where
  dropBehavior : Rusqlite.DropBehavior
  finished : Bool
  deriving DecidableEq

/-- `Connection::transaction`. -/
def Connection.transaction (E : Engine κ) (options : Option TransactionOptions)
    (conn : Rusqlite.ConnectionState κ) :
    Outcome NapiError Transaction × Rusqlite.ConnectionState κ :=
  let behavior := (options.bind (·.behavior)).getD .deferred
  let dropBehavior := match options.bind (·.dropBehavior) with
    | some b => b
    | none => .rollback
  let (result, db) := Rusqlite.Connection.executeBatch E behavior.query conn.db
  (toNapi result >>= fun _ => .ok { dropBehavior := dropBehavior.toRusqlite, finished := false },
    { conn with db := db })

/-- `Connection::set_transaction_behavior`. -/
def Connection.setTransactionBehavior (behavior : TransactionBehavior)
    (conn : Rusqlite.ConnectionState κ) : Rusqlite.ConnectionState κ :=
  Rusqlite.Connection.setTransactionBehavior behavior.toRusqlite conn

namespace Transaction

/-- The body that `commit` and `rollback` share. -/
def complete (E : Engine κ) (sql : String) (tx : Transaction) (c : κ) :
    Outcome NapiError Unit × Transaction × κ :=
  if tx.finished then (.err (NapiError.fromReason "Transaction already completed"), tx, c)
  else
    match Rusqlite.Connection.executeBatch E sql c with
    | (.error e, c) => (.err (NapiError.ofRusqlite e), tx, c)
    | (.ok (), c) => (.ok (), { tx with finished := true }, c)

/-- `Transaction::commit`. -/
def commit (E : Engine κ) : Transaction → κ → Outcome NapiError Unit × Transaction × κ :=
  complete E "COMMIT"

/-- `Transaction::rollback`. -/
def rollback (E : Engine κ) : Transaction → κ → Outcome NapiError Unit × Transaction × κ :=
  complete E "ROLLBACK"

/-- `Transaction::drop_behavior`. -/
def getDropBehavior (tx : Transaction) : DropBehavior := DropBehavior.ofRusqlite tx.dropBehavior

/-- `Transaction::set_drop_behavior`. -/
def setDropBehavior (behavior : DropBehavior) (tx : Transaction) : Transaction :=
  { tx with dropBehavior := behavior.toRusqlite }

/-- `Transaction::dispose`. -/
def dispose (E : Engine κ) (tx : Transaction) (c : κ) : Outcome NapiError Unit × Transaction × κ :=
  if tx.finished then (.ok (), tx, c)
  else
    match tx.dropBehavior with
    | .rollback => tx.rollback E c
    | .commit => tx.commit E c
    | .ignore => (.ok (), { tx with finished := true }, c)
    | .panic => (.err (NapiError.fromReason "Transaction dropped unexpectedly"), tx, c)

/-- `ObjectFinalize for Transaction`: it consumes the handle. -/
def finalize (E : Engine κ) (tx : Transaction) (c : κ) : Outcome NapiError Unit × κ :=
  if !tx.finished && !E.isAutocommit c then
    match tx.dropBehavior with
    | .commit =>
      match Rusqlite.Connection.executeBatch E "COMMIT" c with
      | (.ok (), c) => (.ok (), c)
      | (.error e, c) =>
        let (_, c) := Rusqlite.Connection.executeBatch E "ROLLBACK" c
        (.err (NapiError.ofRusqlite e), c)
    | .rollback =>
      let (_, c) := Rusqlite.Connection.executeBatch E "ROLLBACK" c
      (.ok (), c)
    | .ignore => (.ok (), c)
    | .panic => (.panic "Transaction dropped unexpectedly.", c)
  else (.ok (), c)

theorem getDropBehavior_setDropBehavior (b : DropBehavior) (tx : Transaction) :
    (tx.setDropBehavior b).getDropBehavior = b := by
  cases b <;> rfl

end Transaction

/-- The calls that can complete a transaction. -/
inductive HandleCall where
  | commit : HandleCall
  | rollback : HandleCall
  | dispose : HandleCall
  | finalize : HandleCall
  deriving DecidableEq

/-- Make a call; after the finaliser there is no handle. -/
def HandleCall.run (E : Engine κ) (call : HandleCall) (tx : Transaction) (c : κ) :
    Outcome NapiError Unit × Option Transaction × κ :=
  match call with
  | .commit =>
    let (result, tx, c) := tx.commit E c
    (result, some tx, c)
  | .rollback =>
    let (result, tx, c) := tx.rollback E c
    (result, some tx, c)
  | .dispose =>
    let (result, tx, c) := tx.dispose E c
    (result, some tx, c)
  | .finalize =>
    let (result, c) := tx.finalize E c
    (result, none, c)

/-! ## 3. What a call sends -/

/-- The statements a call sends. -/
def HandleCall.sends (call : HandleCall) (tx : Transaction) (autocommit : Bool) : List Control :=
  if tx.finished then []
  else
    match call, tx.dropBehavior with
    | .commit, _ => [.commit]
    | .rollback, _ => [.rollback]
    | .dispose, .commit => [.commit]
    | .dispose, .rollback => [.rollback]
    | .finalize, .commit => if autocommit then [] else [.commit, .rollback]
    | .finalize, .rollback => if autocommit then [] else [.rollback]
    | .dispose, .ignore | .dispose, .panic | .finalize, .ignore | .finalize, .panic => []

section Sends

variable {D : Dialect δ} {o : Oracle δ}

theorem commit_text (c : Conn δ) : Rusqlite.Connection.executeBatch (D.engine o) "COMMIT" c =
    (Rusqlite.batchResult (exec o .commit c).1, (exec o .commit c).2) :=
  Rusqlite.executeBatch_control (s := .commit) nofun c

theorem rollback_text (c : Conn δ) : Rusqlite.Connection.executeBatch (D.engine o) "ROLLBACK" c =
    (Rusqlite.batchResult (exec o .rollback c).1, (exec o .rollback c).2) :=
  Rusqlite.executeBatch_control (s := .rollback) nofun c

/-- What an unfinished handle makes of a COMMIT or a ROLLBACK. -/
def completed (tx : Transaction) (res : Option Failure) (c : Conn δ) :
    Outcome NapiError Unit × Transaction × Conn δ :=
  match res with
  | none => (.ok (), { tx with finished := true }, c)
  | some f => (.err (NapiError.ofRusqlite (.sqliteFailure f)), tx, c)

theorem commit_unfinished {tx : Transaction} (h : tx.finished = false) (c : Conn δ) :
    tx.commit (D.engine o) c = completed tx (exec o .commit c).1 (exec o .commit c).2 := by
  simp only [Transaction.commit, Transaction.complete, h, commit_text]
  cases (exec o .commit c).1 <;> rfl

theorem rollback_unfinished {tx : Transaction} (h : tx.finished = false) (c : Conn δ) :
    tx.rollback (D.engine o) c = completed tx (exec o .rollback c).1 (exec o .rollback c).2 := by
  simp only [Transaction.rollback, Transaction.complete, h, rollback_text]
  cases (exec o .rollback c).1 <;> rfl

@[simp] theorem completed_conn (tx : Transaction) (res : Option Failure) (c : Conn δ) :
    (completed tx res c).2.2 = c := by
  cases res <;> rfl

/-- A finished handle leaves the connection alone. -/
theorem HandleCall.run_finished (call : HandleCall) {tx : Transaction} (hf : tx.finished = true)
    (c : Conn δ) : (call.run (D.engine o) tx c).2.2 = c := by
  obtain ⟨drop, finished⟩ := tx
  cases hf
  cases call with
  | commit | rollback | dispose | finalize => rfl

/-- **A call does to the connection what the statements it sends do.** -/
theorem HandleCall.run_conn (call : HandleCall) (tx : Transaction) (c : Conn δ) :
    (call.run (D.engine o) tx c).2.2 = untilAccepted o (call.sends tx c.txn.isNone) c := by
  cases hf : tx.finished with
  | true =>
    have hsends : call.sends tx c.txn.isNone = [] := by
      unfold HandleCall.sends
      rw [hf]
      rfl
    rw [hsends]
    exact call.run_finished hf c
  | false =>
    unfold HandleCall.sends
    rw [hf, if_neg Bool.false_ne_true]
    cases call with
    | commit => simp only [HandleCall.run, commit_unfinished hf, completed_conn, untilAccepted_one]
    | rollback =>
      simp only [HandleCall.run, rollback_unfinished hf, completed_conn, untilAccepted_one]
    | dispose =>
      simp only [HandleCall.run, Transaction.dispose, hf, if_neg Bool.false_ne_true]
      cases hd : tx.dropBehavior with
      | commit => simp only [commit_unfinished hf, completed_conn, untilAccepted_one]
      | rollback => simp only [rollback_unfinished hf, completed_conn, untilAccepted_one]
      | ignore | panic => rfl
    | finalize =>
      have hauto : (D.engine o).isAutocommit c = c.txn.isNone := rfl
      simp only [HandleCall.run, Transaction.finalize, hf, hauto, Bool.not_false, Bool.true_and]
      cases c.txn with
      | none => cases hd : tx.dropBehavior <;> rfl
      | some t =>
        cases hd : tx.dropBehavior with
        | commit =>
          show _ = untilAccepted o [.commit, .rollback] c
          rw [untilAccepted_cons, untilAccepted_one]
          simp only [commit_text, rollback_text]
          cases (exec o .commit c).1 <;> rfl
        | rollback =>
          simp only [rollback_text]
          exact (untilAccepted_one .rollback c).symm
        | ignore | panic => rfl

theorem HandleCall.sends_completes (call : HandleCall) (tx : Transaction) (autocommit : Bool) :
    ∀ s ∈ call.sends tx autocommit, s.Completes := by
  obtain ⟨drop, finished⟩ := tx
  unfold HandleCall.sends
  cases finished <;> cases call <;> cases drop <;> cases autocommit <;> simp [Control.Completes]

end Sends

/-! ## 4. `dispose` and the finaliser -/

/-- ROLLBACK inside a transaction succeeds. -/
def RollbackSucceeds (o : Oracle δ) : Prop := ∀ c, c.txn ≠ none → o c .rollback = .accepted

/-- `dispose` and the finaliser leave the connection in the same transaction state with the same
    content, and after `dispose` under Rollback or Commit the transaction the handle stood for,
    number `n`, is not open. -/
structure DisposeAgrees (E : Engine (Conn δ)) (tx : Transaction) (n : Nat) (c : Conn δ) : Prop where
  txn : (tx.dispose E c).2.2.txn = (tx.finalize E c).2.txn
  content : (tx.dispose E c).2.2.content = (tx.finalize E c).2.content
  ended : tx.dropBehavior = .rollback ∨ tx.dropBehavior = .commit →
    (tx.dispose E c).2.2.current ≠ some n

section Dispose

variable {D : Dialect δ} {o : Oracle δ} {tx : Transaction} {c : Conn δ}

theorem dispose_conn (tx : Transaction) (c : Conn δ) : (tx.dispose (D.engine o) c).2.2 =
    untilAccepted o (HandleCall.dispose.sends tx c.txn.isNone) c :=
  HandleCall.run_conn .dispose tx c

theorem finalize_conn (tx : Transaction) (c : Conn δ) : (tx.finalize (D.engine o) c).2 =
    untilAccepted o (HandleCall.finalize.sends tx c.txn.isNone) c :=
  HandleCall.run_conn .finalize tx c

/-- Only under Commit they send different statements from inside a transaction. -/
theorem sends_eq (h : ¬ (tx.finished = false ∧ tx.dropBehavior = .commit)) :
    HandleCall.dispose.sends tx false = HandleCall.finalize.sends tx false := by
  obtain ⟨drop, finished⟩ := tx
  cases finished with
  | true => rfl
  | false =>
    cases drop with
    | commit => exact absurd ⟨rfl, rfl⟩ h
    | rollback | ignore | panic => rfl

/-- Unless COMMIT is refused, a ROLLBACK after it changes nothing. -/
theorem rollback_after_commit {t : Txn δ} (h : c.txn = some t)
    (ho : ¬ ∃ f, o c .commit = .refused f) :
    (untilAccepted o [.commit] c).txn = (untilAccepted o [.commit, .rollback] c).txn ∧
      (untilAccepted o [.commit] c).content = (untilAccepted o [.commit, .rollback] c).content := by
  rw [untilAccepted_cons .commit [.rollback], untilAccepted_one]
  cases hres : (exec o .commit c).1 with
  | none => exact ⟨rfl, rfl⟩
  | some f =>
    have hend : (exec o .commit c).2.txn = none := by
      rw [← untilAccepted_one, untilAccepted_ends_iff (by simp [Control.Completes]) h]
      exact fun hr => ho hr.1
    have hcompletes : ∀ s ∈ [Control.rollback], s.Completes := by simp [Control.Completes]
    obtain ⟨htxn, hcontent⟩ := untilAccepted_outside (o := o) hcompletes hend
    exact ⟨hend.trans htxn.symm, hcontent.symm⟩

/-- A refused COMMIT leaves `dispose` inside the transaction. -/
theorem dispose_refused {t : Txn δ} (hf : tx.finished = false) (hd : tx.dropBehavior = .commit)
    (ht : c.txn = some t) {f : Failure} (ho : o c .commit = .refused f) :
    (tx.dispose (D.engine o) c).2.2.txn = some t := by
  have hin : (exec o .commit c).2.txn = some t := by
    rw [exec_txn, effect_inside (.inl rfl) ht, gate, ho, ht]
  rw [Transaction.dispose, hf, hd, if_neg Bool.false_ne_true]
  simp only [commit_unfinished hf, completed_conn, hin]

/-- The finaliser falls back to ROLLBACK. -/
theorem finalize_ends (hroll : RollbackSucceeds o) {t : Txn δ} (hf : tx.finished = false)
    (hd : tx.dropBehavior = .commit) (ht : c.txn = some t) :
    (tx.finalize (D.engine o) c).2.txn = none := by
  obtain ⟨drop, finished⟩ := tx
  cases hf
  cases hd
  rw [finalize_conn, ht, untilAccepted_ends_iff (HandleCall.finalize.sends_completes _ _) ht]
  rintro ⟨⟨f, ho⟩, ⟨f', hr⟩, -⟩
  have hin : (exec o .commit c).2.txn ≠ none := by
    rw [exec_txn, effect_inside (.inl rfl) ht, gate, ho, ht]
    exact Option.some_ne_none t
  rw [hroll _ hin] at hr
  cases hr

/-- An accepted ROLLBACK, or a COMMIT that is not refused, ends the transaction. -/
theorem dispose_ends (hroll : RollbackSucceeds o) {t : Txn δ} (hf : tx.finished = false)
    (hd : tx.dropBehavior = .rollback ∨ tx.dropBehavior = .commit) (ht : c.txn = some t)
    (ho : tx.dropBehavior = .commit → ¬ ∃ f, o c .commit = .refused f) :
    (tx.dispose (D.engine o) c).2.2.txn = none := by
  obtain ⟨drop, finished⟩ := tx
  cases hf
  rw [dispose_conn, ht, untilAccepted_ends_iff (HandleCall.dispose.sends_completes _ _) ht]
  rcases hd with hd | hd
  · cases hd
    rintro ⟨⟨f, hr⟩, -⟩
    rw [hroll c (by rw [ht]; exact Option.some_ne_none t)] at hr
    cases hr
  · cases hd
    exact fun hr => ho rfl hr.1

/-- From inside a transaction both do the same, a refused COMMIT apart. -/
theorem dispose_same (D : Dialect δ) (o : Oracle δ) (tx : Transaction) {t : Txn δ}
    (ht : c.txn = some t)
    (h : ¬ (tx.finished = false ∧ tx.dropBehavior = .commit ∧ ∃ f, o c .commit = .refused f)) :
    (tx.dispose (D.engine o) c).2.2.txn = (tx.finalize (D.engine o) c).2.txn ∧
      (tx.dispose (D.engine o) c).2.2.content = (tx.finalize (D.engine o) c).2.content := by
  rw [dispose_conn, finalize_conn, ht]
  by_cases hcommit : tx.finished = false ∧ tx.dropBehavior = .commit
  · have ho : ¬ ∃ f, o c .commit = .refused f := fun ho => h ⟨hcommit.1, hcommit.2, ho⟩
    obtain ⟨drop, finished⟩ := tx
    obtain ⟨hf, hd⟩ := hcommit
    cases hf
    cases hd
    exact rollback_after_commit ht ho
  · have hs := sends_eq hcommit
    exact ⟨congrArg (fun ss => (untilAccepted o ss c).txn) hs,
      congrArg (fun ss => (untilAccepted o ss c).content) hs⟩

/-- Outside a transaction both leave it all as it is. -/
theorem dispose_outside (D : Dialect δ) (o : Oracle δ) (tx : Transaction) (ht : c.txn = none) :
    ((tx.dispose (D.engine o) c).2.2.txn = none ∧ (tx.finalize (D.engine o) c).2.txn = none) ∧
      (tx.dispose (D.engine o) c).2.2.content = (tx.finalize (D.engine o) c).2.content := by
  obtain ⟨h₁, h₂⟩ := untilAccepted_outside (o := o) (HandleCall.dispose.sends_completes tx true) ht
  obtain ⟨h₃, h₄⟩ := untilAccepted_outside (o := o) (HandleCall.finalize.sends_completes tx true) ht
  rw [dispose_conn, finalize_conn, ht]
  exact ⟨⟨h₁, h₃⟩, h₂.trans h₄.symm⟩

/-- **`dispose` and the finaliser agree unless an unfinished handle under Commit finds its COMMIT
    refused, or a finished handle under Rollback or Commit finds its own transaction open.** -/
theorem dispose_agrees_iff (D : Dialect δ) (hroll : RollbackSucceeds o) (tx : Transaction)
    (n : Nat) (c : Conn δ) : DisposeAgrees (D.engine o) tx n c ↔
      ¬ (tx.finished = false ∧ tx.dropBehavior = .commit ∧ c.txn ≠ none ∧
        ∃ f, o c .commit = .refused f) ∧
      ¬ (tx.finished = true ∧ (tx.dropBehavior = .rollback ∨ tx.dropBehavior = .commit) ∧
        c.current = some n) := by
  have hcurrent : ∀ c' : Conn δ, c'.txn = none → c'.current ≠ some n := by
    intro c' hc'
    rw [Conn.current, hc']
    exact Option.some_ne_none n |>.symm
  constructor
  · intro h
    constructor
    · rintro ⟨hf, hd, hin, f, ho⟩
      obtain ⟨t, ht⟩ := Option.ne_none_iff_exists'.mp hin
      have htxn := h.txn
      rw [dispose_refused hf hd ht ho, finalize_ends hroll hf hd ht] at htxn
      cases htxn
    · rintro ⟨hf, hd, hopen⟩
      have hconn : (tx.dispose (D.engine o) c).2.2 = c := HandleCall.dispose.run_finished hf c
      exact h.ended hd (by rw [hconn, hopen])
  · rintro ⟨hrefused, hlet⟩
    cases ht : c.txn with
    | none =>
      obtain ⟨⟨h₁, h₂⟩, h₃⟩ := dispose_outside D o tx ht
      exact ⟨h₁.trans h₂.symm, h₃, fun _ => hcurrent _ h₁⟩
    | some t =>
      have hin : c.txn ≠ none := by
        rw [ht]
        exact Option.some_ne_none t
      obtain ⟨h₁, h₂⟩ := dispose_same D o tx ht
        fun hr => hrefused ⟨hr.1, hr.2.1, hin, hr.2.2⟩
      refine ⟨h₁, h₂, fun hd => ?_⟩
      cases hf : tx.finished with
      | true =>
        have hconn : (tx.dispose (D.engine o) c).2.2 = c := HandleCall.dispose.run_finished hf c
        rw [hconn]
        exact fun hopen => hlet ⟨hf, hd, hopen⟩
      | false =>
        exact hcurrent _ (dispose_ends hroll hf hd ht fun hd' ho => hrefused ⟨hf, hd', hin, ho⟩)

/-- An oracle under which COMMIT finds the database busy. -/
def busyOnCommit : Oracle δ := fun _ s =>
  if s = .commit then .refused ⟨5, "database is locked", Failure.isError_busy⟩ else .accepted

/-- A connection with one row inserted since BEGIN. -/
def insertedOne : Conn Nat := ⟨1, some ⟨0, 0, true, [], Txn.opened_begin⟩, 1, []⟩

theorem busyOnCommit_rollback : RollbackSucceeds (δ := δ) busyOnCommit := fun _ _ => rfl

/-- Under Rollback they agree on that connection. -/
theorem dispose_agrees_rollback :
    DisposeAgrees (small.engine busyOnCommit) ⟨.rollback, false⟩ 0 insertedOne :=
  (dispose_agrees_iff small busyOnCommit_rollback ⟨.rollback, false⟩ 0 insertedOne).mpr
    ⟨nofun, nofun⟩

/-- Disposed under Ignore, a handle has let go of its transaction; a later `dispose` under Rollback
    does not end it. -/
example : ((Transaction.setDropBehavior .rollback
    (Transaction.dispose (small.engine busyOnCommit) ⟨.ignore, false⟩ insertedOne).2.1).dispose
      (small.engine busyOnCommit) insertedOne).2.2.current = some 0 := rfl

/-- Under Commit `dispose` leaves the transaction open, with the row inserted; the finaliser rolls
    it back. -/
theorem dispose_leaves_open :
    (Transaction.dispose (small.engine busyOnCommit) ⟨.commit, false⟩ insertedOne).2.2.current =
        some 0 ∧
      (Transaction.finalize (small.engine busyOnCommit) ⟨.commit, false⟩ insertedOne).2.current =
        none ∧
      ¬ DisposeAgrees (small.engine busyOnCommit) ⟨.commit, false⟩ 0 insertedOne := by
  have hdispose : (Transaction.dispose (small.engine busyOnCommit) ⟨.commit, false⟩
      insertedOne).2.2.current = some 0 := by
    rw [dispose_conn]
    rfl
  refine ⟨hdispose, ?_, fun h => h.ended (.inr rfl) hdispose⟩
  rw [finalize_conn]
  rfl

end Dispose

end NodeRusqlite
