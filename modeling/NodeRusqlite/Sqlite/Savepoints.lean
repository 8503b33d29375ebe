/-
  File:      NodeRusqlite/Sqlite/Savepoints.lean
  Subject:   SAVEPOINT, ROLLBACK TO and RELEASE of one name, on the stack of savepoints.

  `Pushed name c t` says that `t` is the open transaction after a
  `SAVEPOINT name` in `c`: without its innermost savepoint it is the one of `c`,
  or none.

  * `exec_savepoint` establishes it, `exec_rollbackTo` goes back to the content of
    `c`, `exec_release` to its transaction.
-/
import NodeRusqlite.Sqlite.Transactions

namespace NodeRusqlite.Sqlite

open Basis (sameName_refl)

variable {δ : Type}

/-- SQLite's savepoints, where the oracle has a say: SAVEPOINT and ROLLBACK TO a known name
    succeed; an outermost RELEASE may fail, leaving everything as it was, but not right after a
    ROLLBACK TO the same savepoint. -/
structure SavepointLaws (o : Oracle δ) : Prop where
  savepoint : ∀ c name, o c (.savepoint name) = .accepted
  rollbackTo : ∀ c name, o c (.rollbackTo name) = .accepted
  release : ∀ c name f, o c (.release name) ≠ .rolledBack f
  releaseAfter : ∀ c name, c.log.head? = some (.control (.rollbackTo name) true) →
    o c (.release name) = .accepted

/-- The transaction without its innermost savepoint; `none` if that opened it. -/
def Txn.popped (t : Txn δ) : Option (Txn δ) :=
  match t.savepoints with
  | [] => some t
  | _ :: outer =>
    if h : t.byBegin = true ∨ outer ≠ [] then some { t with savepoints := outer, opened := h }
    else none

/-- `t` is the transaction after a SAVEPOINT in `c`. -/
structure Pushed (name : String) (c : Conn δ) (t : Txn δ) : Prop where
  top : ∃ outer, t.savepoints = (name, c.content) :: outer
  popped : t.popped = c.txn

section Exec

variable {o : Oracle δ} {name : String} {c₀ c : Conn δ} {t : Txn δ}

theorem exec_savepoint (hS : SavepointLaws o) (name : String) (c : Conn δ) :
    (exec o (.savepoint name) c).1 = none ∧ (exec o (.savepoint name) c).2.content = c.content ∧
      ∃ t, (exec o (.savepoint name) c).2.txn = some t ∧ Pushed name c t := by
  rw [exec_fst, exec_content, exec_txn]
  unfold effect
  cases hc : c.txn with
  | none =>
    dsimp only
    rw [gate, hS.savepoint]
    refine ⟨rfl, rfl, _, rfl, ⟨[], rfl⟩, ?_⟩
    rw [hc]
    rfl
  | some t =>
    dsimp only
    rw [gate, hS.savepoint]
    refine ⟨rfl, rfl, _, rfl, ⟨t.savepoints, rfl⟩, ?_⟩
    rw [hc]
    exact dif_pos t.opened

/-- ROLLBACK TO keeps the savepoint and restores its snapshot. -/
theorem exec_rollbackTo (hS : SavepointLaws o) (hp : Pushed name c₀ t) (ht : c.txn = some t) :
    (exec o (.rollbackTo name) c).1 = none ∧ (exec o (.rollbackTo name) c).2.txn = some t ∧
      (exec o (.rollbackTo name) c).2.content = c₀.content ∧
      (exec o (.rollbackTo name) c).2.log.head? = some (.control (.rollbackTo name) true) := by
  obtain ⟨outer, htop⟩ := hp.top
  obtain ⟨serial, base, byBegin, savepoints, opened⟩ := t
  subst htop
  have heff : effect o (.rollbackTo name) c =
      (none, { c with content := c₀.content }) := by
    simp only [effect, ht, innermost, sameName_refl, if_true, gate, hS.rollbackTo]
  rw [exec_log, exec_fst, exec_txn, exec_content, heff]
  exact ⟨rfl, ht, rfl, rfl⟩

/-- RELEASE goes back to the transaction before, or it was outermost and is refused; an outermost
    one that goes through was accepted. -/
theorem exec_release (hS : SavepointLaws o) (hp : Pushed name c₀ t) (ht : c.txn = some t) :
    ((exec o (.release name) c).1 = none ∧ (exec o (.release name) c).2.txn = c₀.txn ∧
        (exec o (.release name) c).2.content = c.content ∧
        (c₀.txn = none → o c (.release name) = .accepted)) ∨
      (c₀.txn = none ∧ (exec o (.release name) c).2.txn = some t ∧
        ∃ f, o c (.release name) = .refused f ∧ (exec o (.release name) c).1 = some f) := by
  obtain ⟨outer, htop⟩ := hp.top
  have hpop := hp.popped
  obtain ⟨serial, base, byBegin, savepoints, opened⟩ := t
  subst htop
  rw [exec_fst, exec_txn, exec_content]
  simp only [effect, ht, innermost, sameName_refl, if_true]
  simp only [Txn.popped] at hpop
  split
  · rename_i h
    rw [dif_pos h] at hpop
    refine .inl ⟨rfl, hpop, rfl, fun hnone => ?_⟩
    rw [hnone] at hpop
    cases hpop
  · rename_i h
    rw [dif_neg h] at hpop
    unfold gate
    cases ho : o c (.release name) with
    | accepted => exact .inl ⟨rfl, hpop, rfl, fun _ => rfl⟩
    | refused f => exact .inr ⟨hpop.symm, ht, f, rfl, rfl⟩
    | rolledBack f => exact absurd ho (hS.release c name f)

end Exec

end NodeRusqlite.Sqlite
