/-
  File:      NodeRusqlite/Savepoint/Operation.lean
  Subject:   Savepoint calls among the operations of a connection with transaction handles.

  Whatever the names and whatever SQLite answers, a savepoint call runs
  statements and nothing else. So it is one of the `Operation`s that the runs of
  Transaction/System.lean may take between their own actions.

  * `savepointCall`: the operation.
  * **`savepointCall_permitted`**: it may stand in the runs of SingleOwner.lean.
-/
import NodeRusqlite.Savepoint.Nested
import NodeRusqlite.Transaction.SingleOwner

namespace NodeRusqlite

open Basis (Outcome)
open Sqlite
open Relation (ReflTransGen)

variable {δ : Type} {D : Dialect δ} {o : Oracle δ}

open Rusqlite (Savepoint)

theorem withSavepoint_moves {callback : Conn δ → Outcome NapiError Unit × Conn δ}
    (hcb : ∀ c, ReflTransGen (Move o) c (callback c).2) (name : String) (c : Conn δ) :
    ReflTransGen (Move o) c
      (withSavepoint (D.engine o) (Savepoint.withName (D.engine o) name) callback c).2 := by
  have hbegin : ReflTransGen (Move o) c (Savepoint.withName (D.engine o) name c).2 := by
    rw [Savepoint.withName_snd]
    exact Rusqlite.executeBatch_moves _ c
  rcases hn : Savepoint.withName (D.engine o) name c with ⟨_ | sp, c₁⟩
  all_goals rw [hn] at hbegin
  · unfold withSavepoint
    rw [hn]
    exact hbegin
  · exact (hbegin.trans (hcb c₁)).trans
      (withSavepoint_after callback hn (Savepoint.endsAlong_move sp.name))

/-- **A callback moves the connection by statements only.** -/
theorem Script.run_moves (s : Script δ) (c : Conn δ) :
    ReflTransGen (Move o) c (s.run (D.engine o) c).2 := by
  induction s generalizing c with
  | ret => exact .refl
  | throw e => exact .refl
  | change f next ih => exact .head (.data (.content c (f c.content))) (ih (changed f c))
  | call site callback next handler ihc ihn ihh =>
    have h : ReflTransGen (Move o) c
        (site.savepoint (D.engine o) (callback.run (D.engine o)) c).2 := by
      rw [site.savepoint_eq]
      exact withSavepoint_moves ihc site.name c
    simp only [Script.run]
    rcases hr : site.savepoint (D.engine o) (callback.run (D.engine o)) c with ⟨_ | _ | _, c'⟩
    all_goals rw [hr] at h
    · exact h.trans (ihn c')
    · exact h.trans (ihh c')
    · exact h

/-- A savepoint call as an operation. -/
def savepointCall (D : Dialect δ) (o : Oracle δ) (site : CallSite) (callback : Script δ) :
    Operation o where
  run c := (site.savepoint (D.engine o) (callback.run (D.engine o)) c).2
  moves c := by
    rw [site.savepoint_eq]
    exact withSavepoint_moves callback.run_moves site.name c

/-- **A savepoint call leaves the open transaction to its owner**, with plain names. -/
theorem savepointCall_permitted (hS : SavepointLaws o) {site : CallSite} (hn : D.Plain site.name)
    {callback : Script δ} (hs : callback.Plain D) {s s' : Sys δ}
    (h : step D o s (.other (savepointCall D o site callback)) = some s') :
    Permitted ⟨s, .other (savepointCall D o site callback), s'⟩ := by
  cases h
  have hcall : NestedTransaction o site.name (callback.meaning s.conn.db.content) s.conn.db _ _ _ :=
    savepoint_pushed hS hn fun c₁ hin hc₁ => hc₁ ▸ callback.run_inside hS hs c₁ hin
  exact hcall.txn

end NodeRusqlite
