/-
  File:      NodeRusqlite/Transaction/Completion.lean
  Subject:   A handle completes at most once.

  The log says which COMMIT and ROLLBACK were accepted. What an event logs on
  top of the log before it was executed by that event; summed over the events
  that use a handle, this is what the handle executed in its life, the
  finaliser included.

  * `HandleCall.run_completes`: a call completes at most once, and then the handle is
    done.
  * **`completes_at_most_once`**: every handle in every run, and what is left of it
    once it is finished.
-/
import NodeRusqlite.Transaction.SingleOwner

namespace NodeRusqlite

open Basis (Outcome Event Run Along)
open Sqlite

variable {δ : Type} {D : Dialect δ} {o : Oracle δ}

/-! ## 1. What is logged -/

/-- A COMMIT or ROLLBACK that succeeded. -/
def completes : LogEntry → Bool
  | .control .commit ok | .control .rollback ok => ok
  | .control (.begin _) _ | .control (.savepoint _) _ | .control (.rollbackTo _) _
  | .control (.release _) _ | .data => false

/-- What is logged on the way from `c` to `c'`. -/
def logged (c c' : Conn δ) : List LogEntry := c'.log.take (c'.log.length - c.log.length)

theorem logged_of_append {c c' : Conn δ} {l : List LogEntry} (h : c'.log = l ++ c.log) :
    logged c c' = l := by
  unfold logged
  rw [h, List.length_append, Nat.add_sub_cancel_right, List.take_left]

theorem logged_self (c : Conn δ) : logged c c = [] := logged_of_append rfl

/-- A statement that fails completes nothing. -/
theorem completes_failed (s : Control) : completes (.control s false) = false := by
  cases s <;> rfl

/-- **Statements that run up to the first accepted one complete at most once.** -/
theorem untilAccepted_completes (ss : List Control) (c : Conn δ) :
    ∃ l, (untilAccepted o ss c).log = l ++ c.log ∧ l.countP completes ≤ 1 := by
  induction ss generalizing c with
  | nil => exact ⟨[], rfl, Nat.zero_le 1⟩
  | cons s rest ih =>
    have hlog := exec_log o s c
    rw [untilAccepted_cons]
    cases hres : (exec o s c).1 with
    | none => exact ⟨[_], hlog, List.countP_le_length⟩
    | some f =>
      obtain ⟨l, hl, hcount⟩ := ih (exec o s c).2
      rw [hres] at hlog
      refine ⟨l ++ [.control s false], ?_, ?_⟩
      · rw [Option.isNone_some, if_neg Bool.false_ne_true, hl, hlog, List.append_assoc]
        rfl
      · rw [List.countP_append, List.countP_singleton, completes_failed]
        exact hcount

/-! ## 2. One call -/

section Call

variable {tx : Transaction} {c : Conn δ}

/-- A COMMIT or ROLLBACK of an unfinished handle: if it is accepted, the handle is finished. -/
theorem completed_completes (o : Oracle δ) (s : Control) (tx : Transaction) (c : Conn δ) :
    let ran := exec o s c
    ∃ l, ran.2.log = l ++ c.log ∧ l.countP completes ≤ 1 ∧
      (Done (some (completed tx ran.1 ran.2).2.1) ∨ l.countP completes = 0) := by
  intro ran
  have hlog := exec_log o s c
  cases hres : ran.1 with
  | none => exact ⟨[_], hlog, List.countP_le_length, .inl (done_finished tx)⟩
  | some f =>
    rw [hres] at hlog
    have hnone : [LogEntry.control s false].countP completes = 0 := by
      rw [List.countP_singleton, completes_failed]
      rfl
    exact ⟨_, hlog, hnone.trans_le (Nat.zero_le 1), .inr hnone⟩

/-- **A call of an unfinished handle completes at most once, and then the handle is done.** -/
theorem HandleCall.run_completes (D : Dialect δ) (o : Oracle δ) (call : HandleCall)
    (hf : tx.finished = false) (c : Conn δ) :
    ∃ l, (call.run (D.engine o) tx c).2.2.log = l ++ c.log ∧ l.countP completes ≤ 1 ∧
      (Done (call.run (D.engine o) tx c).2.1 ∨ l.countP completes = 0) := by
  have hcommit := completed_completes o .commit tx c
  have hrollback := completed_completes o .rollback tx c
  cases call with
  | commit =>
    simp only [HandleCall.run, commit_unfinished hf, completed_conn]
    exact hcommit
  | rollback =>
    simp only [HandleCall.run, rollback_unfinished hf, completed_conn]
    exact hrollback
  | dispose =>
    simp only [HandleCall.run, Transaction.dispose, hf, if_neg Bool.false_ne_true]
    cases tx.dropBehavior with
    | commit =>
      simp only [commit_unfinished hf, completed_conn]
      exact hcommit
    | rollback =>
      simp only [rollback_unfinished hf, completed_conn]
      exact hrollback
    | ignore | panic => exact ⟨[], rfl, Nat.zero_le 1, .inr rfl⟩
  | finalize =>
    rw [HandleCall.run_conn]
    obtain ⟨l, hl, hcount⟩ := untilAccepted_completes (o := o)
      (HandleCall.finalize.sends tx c.txn.isNone) c
    exact ⟨l, hl, hcount, .inl done_none⟩

/-- What a call of a finished handle returns. -/
def HandleCall.finishedResult : HandleCall → Outcome NapiError Unit
  | .commit | .rollback => .err (NapiError.fromReason "Transaction already completed")
  | .dispose | .finalize => .ok ()

theorem HandleCall.run_finishedResult (D : Dialect δ) (o : Oracle δ) (call : HandleCall)
    (hf : tx.finished = true) (c : Conn δ) :
    (call.run (D.engine o) tx c).1 = call.finishedResult := by
  obtain ⟨drop, finished⟩ := tx
  cases hf
  cases call with
  | commit | rollback | dispose | finalize => rfl

end Call

/-! ## 3. One step -/

/-- The handle an action uses. -/
def Act.handle? : Act o → Option Nat
  | .call i _ | .setDropBehavior i _ => some i
  | .transaction _ | .setTransactionBehavior _ | .execute _ _ _ | .executeBatch _ _
  | .other _ => none

namespace Sys

/-- Handle `i` is live and its flag is set. -/
def Finished (s : Sys δ) (i : Nat) : Prop :=
  ∃ tx n, s.handles[i]? = some ⟨some tx, n⟩ ∧ tx.finished = true

/-- Handle `i` is gone. -/
def Finalised (s : Sys δ) (i : Nat) : Prop := ∃ n, s.handles[i]? = some ⟨none, n⟩

/-- Handle `i` is finished or gone. -/
def Over (s : Sys δ) (i : Nat) : Prop := s.Finished i ∨ s.Finalised i

/-- What a call of handle `i` returns; a handle that is gone cannot be called. -/
def answer (E : Engine (Conn δ)) (s : Sys δ) (i : Nat) (call : HandleCall) :
    Option (Outcome NapiError Unit) :=
  match s.handles[i]? with
  | some ⟨some tx, _⟩ => some (call.run E tx s.conn.db).1
  | some ⟨none, _⟩ | none => none

theorem over_iff {s : Sys δ} {i : Nat} :
    s.Over i ↔ ∃ tx n, s.handles[i]? = some ⟨tx, n⟩ ∧ Done tx := by
  refine ⟨fun h => ?_, fun h => ?_⟩
  · rcases h with ⟨tx, n, hi, hf⟩ | ⟨n, hi⟩
    · refine ⟨some tx, n, hi, fun tx' h => ?_⟩
      cases h
      exact hf
    · exact ⟨none, n, hi, done_none⟩
  · obtain ⟨_ | tx, n, hi, hdone⟩ := h
    · exact .inr ⟨n, hi⟩
    · exact .inl ⟨tx, n, hi, hdone tx rfl⟩

end Sys

/-- What the event executes as a use of handle `i`. -/
def executedBy (i : Nat) (e : Event (Sys δ) (Act o)) : List LogEntry :=
  if e.act.handle? = some i then logged e.before.conn.db e.after.conn.db else []

/-- A use of a finished handle, or anything that happens after it: the flag is never cleared, the
    connection does not notice, and the answers are those of a finished handle. -/
structure StaysFinished (E : Engine (Conn δ)) (i : Nat) (e : Event (Sys δ) (Act o)) : Prop where
  flag : e.after.Over i
  untilGone : e.before.Finished i → e.act ≠ .call i .finalize → e.after.Finished i
  silent : e.act.handle? = some i → e.after.conn.db = e.before.conn.db
  answers : ∀ call, e.act = .call i call → e.before.answer E i call = some call.finishedResult

section Step

variable {s s' : Sys δ} {a : Act o} {i : Nat}

/-- An action that does not use a handle leaves it as it is. -/
theorem step_other_handle (hs : step D o s a = some s') (ha : a.handle? ≠ some i)
    (hi : i < s.handles.length) : s'.handles[i]? = s.handles[i]? := by
  cases a with
  | transaction options =>
    rw [step_transaction] at hs
    cases hs
    dsimp only
    split
    · exact List.getElem?_append_left hi
    · rfl
  | call j call =>
    obtain ⟨tx, serial, hj, _, hset, _⟩ := step_call hs
    rw [hset, set_handle hj, if_neg fun hij => ha (congrArg some hij)]
  | setDropBehavior j b =>
    obtain ⟨tx, serial, hj, rfl⟩ := step_setDropBehavior hs
    exact (set_handle hj i).trans (if_neg fun hij => ha (congrArg some hij))
  | setTransactionBehavior b | execute r sql params | executeBatch r sql | other op =>
    cases hs
    rfl

/-- A call of a finished handle. -/
theorem call_staysFinished {call : HandleCall} {tx : Transaction} {n : Nat}
    (hi : s.handles[i]? = some ⟨some tx, n⟩) (hf : tx.finished = true)
    (hs : step D o s (.call i call) = some s') :
    StaysFinished (D.engine o) i ⟨s, .call (o := o) i call, s'⟩ := by
  obtain ⟨tx', n', hi', hdb, hset, _⟩ := step_call hs
  cases hi.symm.trans hi'
  have hget := set_handle (x := ⟨(call.run (D.engine o) tx s.conn.db).2.1, n⟩) hi i
  rw [if_pos rfl, ← hset] at hget
  have hdone := call.run_done D o hf s.conn.db
  refine ⟨Sys.over_iff.mpr ⟨_, n, hget, hdone⟩, fun _ hfin => ?_, fun _ => ?_,
    fun call' ha => ?_⟩
  · cases call with
    | commit | rollback | dispose => exact ⟨_, n, hget, hdone _ rfl⟩
    | finalize => exact absurd rfl hfin
  · rw [hdb, ← HandleCall.run_conn (D := D), call.run_finished hf]
  · cases ha
    simp only [Sys.answer, hi, call.run_finishedResult D o hf]

/-- **Every step after the flag is set.** -/
theorem staysFinished_step (hover : s.Over i) (hs : step D o s a = some s') :
    StaysFinished (D.engine o) i ⟨s, a, s'⟩ := by
  by_cases ha : a.handle? = some i
  · cases a with
    | call j call =>
      cases ha
      rcases hover with ⟨tx, n, hi, hf⟩ | ⟨n, hi⟩
      · exact call_staysFinished hi hf hs
      · obtain ⟨_, _, hi', _⟩ := step_call hs
        cases hi.symm.trans hi'
    | setDropBehavior j b =>
      cases ha
      obtain ⟨tx, n, hi, rfl⟩ := step_setDropBehavior hs
      have hget := (set_handle (x := ⟨some (tx.setDropBehavior b), n⟩) hi i).trans (if_pos rfl)
      have hfin : s.Finished i → Sys.Finished { s with
          handles := s.handles.set i ⟨some (tx.setDropBehavior b), n⟩ } i := by
        intro h
        obtain ⟨tx', n', hi', hf⟩ := h
        cases hi.symm.trans hi'
        exact ⟨_, n, hget, hf⟩
      refine ⟨.inl (hfin (hover.resolve_right fun h => ?_)), fun h _ => hfin h, fun _ => rfl,
        nofun⟩
      obtain ⟨n', hi'⟩ := h
      cases hi.symm.trans hi'
    | transaction options | setTransactionBehavior b | execute r sql params | executeBatch r sql
    | other op => cases ha
  · have hlt : i < s.handles.length := by
      obtain ⟨_, _, hi, _⟩ := Sys.over_iff.mp hover
      exact (List.getElem?_eq_some_iff.mp hi).1
    have hget := step_other_handle hs ha hlt
    refine ⟨?_, fun ⟨tx, n, hi, hf⟩ _ => ⟨tx, n, hget.trans hi, hf⟩,
      fun ha' => absurd ha' ha, fun call ha' => absurd (congrArg Act.handle? ha') ha⟩
    obtain ⟨tx, n, hi, hdone⟩ := Sys.over_iff.mp hover
    exact Sys.over_iff.mpr ⟨tx, n, hget.trans hi, hdone⟩

/-- **One step of a handle that is not finished**: it completes at most once, and then it is. -/
theorem executedBy_step (hnot : ¬ s.Over i) (hs : step D o s a = some s') :
    (executedBy i ⟨s, a, s'⟩).countP completes ≤ 1 ∧
      (s'.Over i ∨ (executedBy i ⟨s, a, s'⟩).countP completes = 0) := by
  unfold executedBy
  split
  · rename_i ha
    cases a with
    | call j call =>
      cases ha
      obtain ⟨tx, n, hi, hdb, hset, _⟩ := step_call hs
      have hf : tx.finished = false :=
        Bool.eq_false_iff.mpr fun hf => hnot (.inl ⟨tx, n, hi, hf⟩)
      obtain ⟨l, hl, hcount, hdone⟩ := call.run_completes D o hf s.conn.db
      rw [HandleCall.run_conn, ← hdb] at hl
      rw [logged_of_append hl]
      refine ⟨hcount, hdone.imp_left fun hdone => Sys.over_iff.mpr ⟨_, n, ?_, hdone⟩⟩
      rw [hset, set_handle hi, if_pos rfl]
    | setDropBehavior j b =>
      obtain ⟨tx, n, hi, rfl⟩ := step_setDropBehavior hs
      rw [logged_self]
      exact ⟨Nat.zero_le 1, .inr rfl⟩
    | transaction options | setTransactionBehavior b | execute r sql params | executeBatch r sql
    | other op => cases ha
  · exact ⟨Nat.zero_le 1, .inr rfl⟩

end Step

/-! ## 4. The whole life of a handle -/

/-- What handle `i` executes in its life. -/
def executed (i : Nat) (h : List (Event (Sys δ) (Act o))) : List LogEntry :=
  h.flatMap (executedBy i)

/-- The flag of handle `i` was set at some time. -/
def WasFinished (i : Nat) (h : List (Event (Sys δ) (Act o))) : Prop :=
  ∃ e ∈ h, e.after.Finished i

/-- The invariant: a handle that has completed is over, and stays so. -/
structure Once (i : Nat) (h : List (Event (Sys δ) (Act o))) (s : Sys δ) : Prop where
  atMostOnce : (executed i h).countP completes ≤ 1
  overOrNone : s.Over i ∨ (executed i h).countP completes = 0
  finished : WasFinished i h → s.Over i

/-- **The step lemma.** -/
theorem Once.step {i : Nat} {h : List (Event (Sys δ) (Act o))} {s s' : Sys δ} {a : Act o}
    (hI : Once i h s) (hs : NodeRusqlite.step D o s a = some s') :
    Once i (h ++ [⟨s, a, s'⟩]) s' := by
  have hsum : (executed i (h ++ [⟨s, a, s'⟩])).countP completes =
      (executed i h).countP completes + (executedBy i ⟨s, a, s'⟩).countP completes := by
    rw [executed, List.flatMap_append, List.flatMap_singleton, List.countP_append, executed]
  by_cases hover : s.Over i
  · have hstay := staysFinished_step hover hs
    have hsilent : executedBy i ⟨s, a, s'⟩ = [] := by
      unfold executedBy
      split
      · rename_i ha
        rw [hstay.silent ha, logged_self]
      · rfl
    rw [hsilent, List.countP_nil, Nat.add_zero] at hsum
    exact ⟨hsum ▸ hI.atMostOnce, .inl hstay.flag, fun _ => hstay.flag⟩
  · have hzero := hI.overOrNone.resolve_left hover
    obtain ⟨hcount, hor⟩ := executedBy_step hover hs
    rw [hzero, Nat.zero_add] at hsum
    refine ⟨hsum ▸ hcount, hsum ▸ hor, fun ⟨e, he, hfin⟩ => ?_⟩
    rcases List.mem_append.mp he with he | he
    · exact absurd (hI.finished ⟨e, he, hfin⟩) hover
    · rw [List.mem_singleton.mp he] at hfin
      exact .inl hfin

/-- **Every handle completes at most once in every run, and once its flag is set nothing it does
    reaches the connection.** -/
theorem completes_at_most_once {d : δ} {h : List (Event (Sys δ) (Act o))} {s : Sys δ}
    (hr : Run (step D o) (Sys.fresh d) h s) (i : Nat) :
    (executed i h).countP completes ≤ 1 ∧
      Along (fun h₁ e => WasFinished i h₁ → StaysFinished (D.engine o) i e) h := by
  have h0 : Once (o := o) i [] (Sys.fresh d) := by
    refine ⟨Nat.zero_le 1, .inr rfl, fun h => ?_⟩
    obtain ⟨e, he, _⟩ := h
    cases he
  obtain ⟨halong, hI⟩ := Run.along_of_invariant
    (P := fun h₁ e => WasFinished i h₁ → StaysFinished (D.engine o) i e) h0
    (fun _ _ _ _ hI hs => ⟨fun hw => staysFinished_step (hI.finished hw) hs, hI.step hs⟩) hr
  exact ⟨hI.atMostOnce, halong⟩

/-- `transaction()`, `commit()` and `commit()` again. -/
def commitTwice : List (Event (Sys Nat) (Act (acceptAll (δ := Nat)))) :=
  [⟨Sys.fresh 0, .transaction none, begun⟩, ⟨begun, .call 0 .commit, committed⟩,
    ⟨committed, .call 0 .commit, committed⟩]

/-- The second `commit` is the one that fails. -/
theorem completes_once_commitTwice : (executed 0 commitTwice).countP completes ≤ 1 ∧
    committed.answer (small.engine acceptAll) 0 .commit =
      some (.err (NapiError.fromReason "Transaction already completed")) := by
  have hrun : Run (step small acceptAll) (Sys.fresh 0) commitTwice committed :=
    .next (.next (.next .start step_begun) step_committed) rfl
  obtain ⟨hcount, halong⟩ := completes_at_most_once hrun 0
  refine ⟨hcount, ?_⟩
  have hwas : WasFinished 0 commitTwice.dropLast :=
    ⟨_, List.mem_cons_of_mem _ List.mem_cons_self, ⟨.rollback, true⟩, 0, rfl, rfl⟩
  exact (halong _ _ [] rfl hwas).answers .commit rfl

end NodeRusqlite
