/-
  File:      NodeRusqlite/Transaction/Ownership.lean
  Subject:   Which transaction a handle ends.

  A handle sends COMMIT and ROLLBACK to the connection, and they end whatever
  transaction is open there. That is the handle's own one only as long as no
  other has begun since.

  * `ends_own_iff`: one call of a handle.
  * **`run_ends_own_iff`**: a whole run.
  * `rollback_of_other`: a handle whose transaction is over rolls back the next one.
-/
import NodeRusqlite.Transaction.System

namespace NodeRusqlite

open Basis (Event Run)
open Sqlite

variable {δ : Type} {D : Dialect δ} {o : Oracle δ}

/-- If the event is a call of a handle that takes the connection out of a transaction, then out of
    the handle's own one. -/
def EndsOwn (e : Event (Sys δ) (Act o)) : Prop :=
  ∀ i call n, e.act = .call i call → e.before.conn.db.current = some n →
    e.after.conn.db.current = none → ∃ held, e.before.handles[i]? = some held ∧ held.serial = n

/-- If the event is a call of a handle, then the connection is in autocommit, or no transaction
    has begun since the handle's own one, or SQLite refuses all the call sends. -/
def OnlyLatest (e : Event (Sys δ) (Act o)) : Prop :=
  ∀ i call tx serial, e.act = .call i call → e.before.handles[i]? = some ⟨some tx, serial⟩ →
    e.before.conn.db.txn = none ∨ e.before.conn.db.begun = serial + 1 ∨
      RefusesAll o (call.sends tx e.before.conn.db.txn.isNone) e.before.conn.db

theorem ends_own_iff {s s' : Sys δ} {a : Act o} (hl : s.conn.db.Latest)
    (h : step D o s a = some s') : EndsOwn ⟨s, a, s'⟩ ↔ OnlyLatest ⟨s, a, s'⟩ := by
  refine ⟨fun hown i call tx serial ha hi => ?_, fun honly i call n ha hcur hend => ?_⟩
  · simp only at ha hi ⊢
    subst ha
    obtain ⟨tx', serial', hi', hdb, _⟩ := step_call h
    cases hi.symm.trans hi'
    cases ht : s.conn.db.txn with
    | none => exact .inl rfl
    | some t =>
      refine .inr ?_
      rw [or_iff_not_imp_right]
      intro hrefuse
      have hcur : s.conn.db.current = some t.serial := current_eq_some.mpr ⟨t, ht, rfl⟩
      have hend : s'.conn.db.current = none := by
        rw [hdb, current_eq_none, untilAccepted_ends_iff (call.sends_completes _ _) ht, ht]
        exact hrefuse
      obtain ⟨held, hheld, hserial⟩ := hown i call t.serial rfl hcur hend
      cases hi.symm.trans hheld
      have hserial' : serial = t.serial := hserial
      have hbegun := hl t.serial hcur
      omega
  · simp only at ha hcur hend ⊢
    subst ha
    obtain ⟨tx, serial, hi, hdb, _⟩ := step_call h
    refine ⟨_, hi, ?_⟩
    obtain ⟨t, ht, rfl⟩ := current_eq_some.mp hcur
    have hbegun := hl t.serial hcur
    rcases honly i call tx serial rfl hi with hnone | hlatest | hrefuse
    · rw [ht] at hnone
      cases hnone
    · simp only at hlatest ⊢
      omega
    · rw [hdb, current_eq_none, untilAccepted_ends_iff (call.sends_completes _ _) ht] at hend
      exact absurd hrefuse hend

/-- **In a run the handles end their own transactions only, if and only if each of them completes
    while no transaction has begun since its own.** -/
theorem run_ends_own_iff {d : δ} {h : List (Event (Sys δ) (Act o))} {s : Sys δ}
    (hr : Run (step D o) (Sys.fresh d) h s) : (∀ e ∈ h, EndsOwn e) ↔ ∀ e ∈ h, OnlyLatest e :=
  hr.forall_congr fun _ _ _ _ hr hs => ends_own_iff (run_latest hr) hs

/-! ## A handle whose transaction is over -/

/-- An oracle that accepts everything. -/
def acceptAll : Oracle δ := fun _ _ => .accepted

theorem step_executeBatch (D : Dialect δ) (o : Oracle δ) (s : Sys δ) (r : Receiver) (sql : String) :
    step D o s (.executeBatch r sql) =
      some (s.withDb (Rusqlite.Connection.executeBatch (D.engine o) sql s.conn.db).2) := by
  rw [step, Receiver.executeBatch_eq]
  rfl

/-- After `transaction()` on an empty table. -/
def begun : Sys Nat :=
  ⟨⟨⟨0, some ⟨0, 0, true, [], Txn.opened_begin⟩, 1, [.control (.begin .deferred) true]⟩, .deferred⟩,
    [⟨some ⟨.rollback, false⟩, 0⟩]⟩

/-- ... and `executeBatch("COMMIT")`. -/
def endedByText : Sys Nat :=
  begun.withDb ⟨0, none, 1, [.control .commit true, .control (.begin .deferred) true]⟩

/-- ... or else `commit()`. -/
def committed : Sys Nat := { endedByText with handles := [⟨some ⟨.rollback, true⟩, 0⟩] }

/-- After that COMMIT and a second `transaction()`. -/
def begunAgain : Sys Nat :=
  { endedByText.withDb ⟨0, some ⟨1, 0, true, [], Txn.opened_begin⟩, 2,
      .control (.begin .deferred) true :: endedByText.conn.db.log⟩ with
    handles := endedByText.handles ++ [⟨some ⟨.rollback, false⟩, 1⟩] }

/-- ... and an insert. -/
def inserted : Sys Nat :=
  begunAgain.withDb { begunAgain.conn.db with content := 1, log := .data :: begunAgain.conn.db.log }

/-- ... and `rollback()` on the first handle. -/
def lost : Sys Nat :=
  { inserted.withDb ⟨0, none, 2, .control .rollback true :: inserted.conn.db.log⟩ with
    handles := inserted.handles.set 0 ⟨some ⟨.rollback, true⟩, 0⟩ }

theorem step_begun : step small acceptAll (Sys.fresh 0) (.transaction none) = some begun := by
  rw [step_transaction]
  rfl

theorem step_inserted : step small acceptAll begunAgain
    (.executeBatch .connection "INSERT INTO t VALUES (1)") = some inserted := by
  rw [step_executeBatch, Rusqlite.Connection.executeBatch_eq]
  rfl

theorem step_committed : step small acceptAll begun (.call 0 .commit) = some committed := by
  have hi : begun.handles[0]? = some ⟨some ⟨.rollback, false⟩, 0⟩ := rfl
  have hf : (Transaction.mk .rollback false).finished = false := rfl
  simp only [step, hi, HandleCall.run, commit_unfinished hf]
  rfl

theorem step_lost : step small acceptAll inserted (.call 0 .rollback) = some lost := by
  have hi : inserted.handles[0]? = some ⟨some ⟨.rollback, false⟩, 0⟩ := rfl
  have hf : (Transaction.mk .rollback false).finished = false := rfl
  simp only [step, hi, HandleCall.run, rollback_unfinished hf]
  rfl

/-- `transaction()` and `commit()`. -/
theorem commit_ends_own : EndsOwn (o := acceptAll) ⟨begun, .call 0 .commit,
    { endedByText with handles := [⟨some ⟨.rollback, true⟩, 0⟩] }⟩ := by
  refine (run_ends_own_iff (.next (.next .start step_begun) step_committed)).mpr ?_ _
    (List.mem_append_right _ (List.mem_singleton_self _))
  intro e he i call tx serial ha hi
  rcases List.mem_append.mp he with he | he
  · rw [List.mem_singleton.mp he] at ha
    cases ha
  · rw [List.mem_singleton.mp he] at ha hi ⊢
    cases ha
    cases hi
    exact .inr (.inl rfl)

/-- **A handle whose transaction was committed by a text rolls the next transaction back**, and
    the row inserted there is gone. -/
theorem rollback_of_other : ∃ h, Run (step small acceptAll) (Sys.fresh 0) h lost ∧
    inserted.conn.db.content = 1 ∧ lost.conn.db.content = 0 ∧ ¬ ∀ e ∈ h, EndsOwn e := by
  have hover : step small acceptAll begun (.executeBatch .connection "COMMIT") =
      some endedByText := by
    rw [step_executeBatch, commit_text]
    rfl
  have hagain : step small acceptAll endedByText (.transaction none) = some begunAgain := by
    rw [step_transaction]
    rfl
  refine ⟨_, .next (.next (.next (.next (.next .start step_begun) hover) hagain) step_inserted)
    step_lost, rfl, rfl, fun hown => ?_⟩
  obtain ⟨held, hheld, hserial⟩ := hown ⟨inserted, .call 0 .rollback, lost⟩
    (List.mem_append_right _ (List.mem_singleton_self _)) 0 .rollback 1 rfl rfl rfl
  cases hheld
  cases hserial

end NodeRusqlite
