/-
  File:      NodeRusqlite/Transaction/DefaultBehavior.lean
  Subject:   The behaviour a `transaction` call begins with when its options give none.

  `set_transaction_behavior` writes a field of the wrapped connection that only
  the wrapped crate's own `transaction` reads. The binding sends its BEGIN
  itself, with Deferred where no behaviour is given.

  * `run_transactionBehavior`: the field holds the behaviour set last.
  * **`begins_with_default_iff`**: a run begins its transactions with it only if it
    is Deferred whenever it counts.
-/
import NodeRusqlite.Transaction.Ownership

namespace NodeRusqlite

open Basis (Event Run Along)
open Sqlite

variable {δ : Type} {D : Dialect δ} {o : Oracle δ}

/-- The behaviour an action sets. -/
def Act.sets? : Act o → Option TransactionBehavior
  | .setTransactionBehavior b => some b
  | .transaction _ | .call _ _ | .setDropBehavior _ _ | .execute _ _ _ | .executeBatch _ _
  | .other _ => none

/-- The behaviour set last; Deferred if there is none. -/
def lastSet (h : List (Event (Sys δ) (Act o))) : TransactionBehavior :=
  h.foldl (fun b e => e.act.sets?.getD b) .deferred

theorem lastSet_append (h : List (Event (Sys δ) (Act o))) (e : Event (Sys δ) (Act o)) :
    lastSet (h ++ [e]) = e.act.sets?.getD (lastSet h) := by
  rw [lastSet, List.foldl_append]
  rfl

/-- A `transaction` call sends BEGIN with the behaviour it is given and leaves the default as it
    is, or else with the behaviour set last. -/
def BeginsWithDefault (h : List (Event (Sys δ) (Act o))) (e : Event (Sys δ) (Act o)) : Prop :=
  ∀ options, e.act = .transaction options →
    (∃ ok, e.after.conn.db.log =
      .control (.begin ((options.bind (·.behavior)).getD (lastSet h)).kind) ok ::
        e.before.conn.db.log) ∧
    ((options.bind (·.behavior)).isSome →
      e.after.conn.transactionBehavior = e.before.conn.transactionBehavior)

/-- A `transaction` call without a behaviour is made where Deferred was set last. -/
def DeferredWasSet (h : List (Event (Sys δ) (Act o))) (e : Event (Sys δ) (Act o)) : Prop :=
  ∀ options, e.act = .transaction options → options.bind (·.behavior) = none → lastSet h = .deferred

/-- **The wrapped connection keeps the behaviour set last.** -/
theorem run_transactionBehavior {d : δ} {h : List (Event (Sys δ) (Act o))} {s : Sys δ}
    (hr : Run (step D o) (Sys.fresh d) h s) :
    s.conn.transactionBehavior = (lastSet h).toRusqlite := by
  refine Run.invariant (C := fun _ => True)
    (I := fun h s => s.conn.transactionBehavior = (lastSet h).toRusqlite) rfl ?_ hr
    fun _ _ => trivial
  intro h s a s' _ ih hs _
  rw [lastSet_append]
  cases a with
  | setTransactionBehavior b =>
    cases hs
    rfl
  | transaction options =>
    rw [step_transaction] at hs
    cases hs
    exact ih
  | call i call =>
    obtain ⟨_, _, _, _, _, hb⟩ := step_call hs
    exact hb.trans ih
  | setDropBehavior i b =>
    obtain ⟨_, _, _, rfl⟩ := step_setDropBehavior hs
    exact ih
  | execute r sql params | executeBatch r sql | other op =>
    cases hs
    exact ih

/-- **A run begins every transaction with the behaviour given, or the one set last, if and only if
    Deferred was set last wherever none is given.** -/
theorem begins_with_default_iff {d : δ} {h : List (Event (Sys δ) (Act o))} {s : Sys δ}
    (hr : Run (step D o) (Sys.fresh d) h s) :
    Along BeginsWithDefault h ↔ Along DeferredWasSet h := by
  refine hr.along_congr fun h s a s' _ hs => ?_
  refine ⟨fun hb options ha hnone => ?_, fun hd options ha => ?_⟩
  · cases ha
    obtain ⟨⟨ok, hlog⟩, _⟩ := hb options rfl
    rw [step_transaction] at hs
    cases hs
    have hhead := (List.cons.inj hlog).1
    simp only [LogEntry.control.injEq, Control.begin.injEq, beginsWith, hnone] at hhead
    have hkind : TransactionBehavior.deferred.kind = (lastSet h).kind := hhead.1
    exact (TransactionBehavior.kind_injective hkind).symm
  · cases ha
    rw [step_transaction] at hs
    cases hs
    have hbegins : beginsWith options = (options.bind (·.behavior)).getD (lastSet h) := by
      unfold beginsWith
      cases hb : options.bind (·.behavior) with
      | none => exact (hd options rfl hb).symm
      | some b => rfl
    refine ⟨⟨(exec o (.begin (beginsWith options).kind) s.conn.db).1.isNone, ?_⟩, fun _ => rfl⟩
    rw [← hbegins]
    exact exec_log o _ s.conn.db

/-- `set_transaction_behavior(Immediate)` was called. -/
def immediateSet : Sys Nat := ⟨⟨Conn.fresh 0, .immediate⟩, []⟩

/-- ... and `transaction()`. -/
def begunDeferred : Sys Nat :=
  ⟨⟨⟨0, some ⟨0, 0, true, [], Txn.opened_begin⟩, 1, [.control (.begin .deferred) true]⟩,
    .immediate⟩, [⟨some ⟨.rollback, false⟩, 0⟩]⟩

/-- ... or else `transaction({ behavior: Exclusive })`. -/
def begunExclusive : Sys Nat :=
  ⟨⟨⟨0, some ⟨0, 0, true, [], Txn.opened_begin⟩, 1, [.control (.begin .exclusive) true]⟩,
    .immediate⟩, [⟨some ⟨.rollback, false⟩, 0⟩]⟩

/-- After that and `rollback()`. -/
def rolledBack : Sys Nat :=
  { begunExclusive.withDb ⟨0, none, 1, .control .rollback true :: begunExclusive.conn.db.log⟩ with
    handles := [⟨some ⟨.rollback, true⟩, 0⟩] }

/-- ... and `set_transaction_behavior(Deferred)`. -/
def deferredSet : Sys Nat :=
  { rolledBack with conn := { rolledBack.conn with transactionBehavior := .deferred } }

/-- ... and `transaction()`. -/
def begunTwice : Sys Nat :=
  { deferredSet.withDb ⟨0, some ⟨1, 0, true, [], Txn.opened_begin⟩, 2,
      .control (.begin .deferred) true :: deferredSet.conn.db.log⟩ with
    handles := deferredSet.handles ++ [⟨some ⟨.rollback, false⟩, 1⟩] }

/-- The default set to Immediate and back: the transaction between them is given its behaviour. -/
theorem begins_with_default_begunTwice : ∃ h,
    Run (step small acceptAll) (Sys.fresh 0) h begunTwice ∧
      begunTwice.conn.db.log = [.control (.begin .deferred) true, .control .rollback true,
        .control (.begin .exclusive) true] ∧ Along BeginsWithDefault h := by
  have hset : step small acceptAll (Sys.fresh 0) (.setTransactionBehavior .immediate) =
      some immediateSet := rfl
  have hexclusive : step small acceptAll immediateSet
      (.transaction (some ⟨some .exclusive, none⟩)) = some begunExclusive := by
    rw [step_transaction]
    rfl
  have hrollback : step small acceptAll begunExclusive (.call 0 .rollback) = some rolledBack := by
    have hi : begunExclusive.handles[0]? = some ⟨some ⟨.rollback, false⟩, 0⟩ := rfl
    have hf : (Transaction.mk .rollback false).finished = false := rfl
    simp only [step, hi, HandleCall.run, rollback_unfinished hf]
    rfl
  have hback : step small acceptAll rolledBack (.setTransactionBehavior .deferred) =
      some deferredSet := rfl
  have hbegin : step small acceptAll deferredSet (.transaction none) = some begunTwice := by
    rw [step_transaction]
    rfl
  refine ⟨_, .next (.next (.next (.next (.next .start hset) hexclusive) hrollback) hback) hbegin,
    rfl, (begins_with_default_iff
      (.next (.next (.next (.next (.next .start hset) hexclusive) hrollback) hback) hbegin)).mpr ?_⟩
  simp only [Basis.along_snoc, Basis.along_nil, true_and]
  refine ⟨⟨⟨⟨?_, ?_⟩, ?_⟩, ?_⟩, fun _ _ _ => rfl⟩
  · intro options ha
    cases ha
  · intro options ha hnone
    cases ha
    cases hnone
  · intro options ha
    cases ha
  · intro options ha
    cases ha

/-- **After `set_transaction_behavior(Immediate)`, `transaction()` sends `BEGIN DEFERRED`.** -/
theorem deferred_despite_immediate : ∃ h, Run (step small acceptAll) (Sys.fresh 0) h begunDeferred ∧
    begunDeferred.conn.transactionBehavior = .immediate ∧
    begunDeferred.conn.db.log = [.control (.begin .deferred) true] ∧
    ¬ Along BeginsWithDefault h := by
  have hset : step small acceptAll (Sys.fresh 0) (.setTransactionBehavior .immediate) =
      some immediateSet := rfl
  have hbegin : step small acceptAll immediateSet (.transaction none) = some begunDeferred := by
    rw [step_transaction]
    rfl
  refine ⟨_, .next (.next .start hset) hbegin, rfl, rfl, fun h => ?_⟩
  obtain ⟨⟨ok, hlog⟩, _⟩ := h _ _ [] rfl none rfl
  cases (List.cons.inj hlog).1

end NodeRusqlite
