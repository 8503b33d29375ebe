/-
  File:      NodeRusqlite/Savepoint/Nested.lean
  Subject:   `savepoint(cb)` and `savepointWithName(name, cb)`, nested in each other.

  A callback is a `Script`: it changes data, makes such calls of its own, and in
  the end returns or throws. `Script.meaning` says what it stands for: a call
  keeps what its callback did if the callback returns, and undoes it if it
  throws. `Script.run` is what the code does, on SQLite's stack of named
  savepoints.

  * `savepoint_pushed`: one call, for a callback that leaves the stack as it was.
  * `Script.run_inside`: a callback does leave it so, by induction on the script.
  * **`savepoint_nested`**: every call, in every state.
-/
import NodeRusqlite.Connection.Execute
import NodeRusqlite.Rusqlite.Savepoint

namespace NodeRusqlite

open Basis (Outcome)
open Sqlite

variable {κ δ : Type}

/-! ## 1. The calls -/

/-- The body the four calls share; `begin` makes the savepoint. The savepoint is dropped at the
    end of the body, also where `?` leaves it early. -/
def withSavepoint (E : Engine κ) (begin : κ → Except Rusqlite.Error Rusqlite.Savepoint × κ)
    (callback : κ → Outcome NapiError Unit × κ) (c : κ) : Outcome NapiError Unit × κ :=
  match begin c with
  | (.error e, c) => (.err (NapiError.ofRusqlite e), c)
  | (.ok savepoint, c) =>
    match callback c with
    | (.ok (), c) =>
      let (result, c) := savepoint.commit E c
      (result.mapErr NapiError.ofRusqlite, c)
    | (.err _, c) =>
      let (result, c) := savepoint.rollback E c
      match savepoint.drop E c with
      | (.panic m, c) => (.panic m, c)
      | (.ok (), c) | (.err _, c) => (toNapi result, c)
    | (.panic m, c) => (.panic m, (savepoint.drop E c).2)

/-- Once the callback is through, only the savepoint is ended. -/
theorem withSavepoint_after {E : Engine κ} {R : κ → κ → Prop}
    {begin : κ → Except Rusqlite.Error Rusqlite.Savepoint × κ}
    (callback : κ → Outcome NapiError Unit × κ) {savepoint : Rusqlite.Savepoint} {c c₁ : κ}
    (hbegin : begin c = (.ok savepoint, c₁))
    (hends : Rusqlite.Savepoint.EndsAlong E R savepoint.name) :
    Relation.ReflTransGen R (callback c₁).2 (withSavepoint E begin callback c).2 := by
  unfold withSavepoint
  rw [hbegin]
  dsimp only
  rcases callback c₁ with ⟨_ | _ | _, c₂⟩
  · exact Rusqlite.Savepoint.commit_moves hends c₂
  · have h : Relation.ReflTransGen R c₂ (savepoint.rollback E c₂).2 := hends.rollbackTo c₂
    have hdrop := h.trans (Rusqlite.Savepoint.drop_moves hends _)
    dsimp only
    rcases hd : savepoint.drop E (savepoint.rollback E c₂).2 with ⟨_ | _ | _, c₃⟩
    all_goals
      rw [hd] at hdrop
      exact hdrop
  · exact Rusqlite.Savepoint.drop_moves hends c₂

/-- `Connection::savepoint`. -/
def Connection.savepoint (E : Engine κ) := withSavepoint E (Rusqlite.Savepoint.new E)

/-- `Connection::savepoint_with_name`. -/
def Connection.savepointWithName (E : Engine κ) (name : String) :=
  withSavepoint E (Rusqlite.Savepoint.withName E name)

/-- `ScopedConnection::savepoint`. -/
def ScopedConnection.savepoint (E : Engine κ) := withSavepoint E (Rusqlite.Savepoint.new E)

/-- `ScopedConnection::savepoint_with_name`. -/
def ScopedConnection.savepointWithName (E : Engine κ) (name : String) :=
  withSavepoint E (Rusqlite.Savepoint.withName E name)

/-- A call as it stands in a callback, without the callback. -/
inductive CallSite where
  | connection (name : Option String) : CallSite
  | scopedConnection (name : Option String) : CallSite

namespace CallSite

/-- The name its savepoint gets. -/
def name : CallSite → String
  | .connection name | .scopedConnection name => name.getD "_rusqlite_sp"

/-- Make the call. -/
def savepoint (E : Engine κ) : CallSite → (κ → Outcome NapiError Unit × κ) → κ →
    Outcome NapiError Unit × κ
  | .connection none => Connection.savepoint E
  | .connection (some name) => Connection.savepointWithName E name
  | .scopedConnection none => ScopedConnection.savepoint E
  | .scopedConnection (some name) => ScopedConnection.savepointWithName E name

theorem savepoint_eq (site : CallSite) (E : Engine κ) :
    site.savepoint E = withSavepoint E (Rusqlite.Savepoint.withName E site.name) := by
  rcases site with ⟨_ | name⟩ | ⟨_ | name⟩ <;> rfl

/-- The connection as the callback leaves it: the one the RELEASE of the call is sent to. -/
def atRelease (E : Engine κ) (site : CallSite) (callback : κ → Outcome NapiError Unit × κ) (c : κ) :
    κ :=
  (callback (Rusqlite.Savepoint.withName E site.name c).2).2

end CallSite

/-! ## 2. Callbacks -/

/-- What a callback does. -/
inductive Script (δ : Type) where
  | ret : Script δ
  | throw (e : NapiError) : Script δ
  | change (f : δ → δ) (next : Script δ) : Script δ
  /-- Goes on with `next`, or with `handler` if the call raises. -/
  | call (site : CallSite) (callback next handler : Script δ) : Script δ

/-- The connection after a data statement that changes the content. -/
def changed (f : δ → δ) (c : Conn δ) : Conn δ :=
  { c with content := f c.content, log := .data :: c.log }

namespace Script

/-- Run a callback on a connection. -/
def run (E : Engine (Conn δ)) : Script δ → Conn δ → Outcome NapiError Unit × Conn δ
  | .ret, c => (.ok (), c)
  | .throw e, c => (.err e, c)
  | .change f next, c => next.run E (changed f c)
  | .call site callback next handler, c =>
    match site.savepoint E (callback.run E) c with
    | (.ok (), c) => next.run E c
    | (.err _, c) => handler.run E c
    | (.panic m, c) => (.panic m, c)

/-- The content a callback leaves, calls being nested transactions; `none`: it throws. -/
def meaning : Script δ → δ → Option δ
  | .ret, d => some d
  | .throw _, _ => none
  | .change f next, d => next.meaning (f d)
  | .call _ callback next _, d => next.meaning ((callback.meaning d).getD d)

/-- Its savepoints have plain names. -/
def Plain (D : Dialect δ) : Script δ → Prop
  | .ret => True
  | .throw _ => True
  | .change _ next => next.Plain D
  | .call site callback next handler =>
    D.Plain site.name ∧ callback.Plain D ∧ next.Plain D ∧ handler.Plain D

end Script

/-! ## 3. One call -/

/-- How a callback ended: it returned and left the content of `m`, or it threw. -/
def Ended (m : Option δ) (r : Outcome NapiError Unit) (d : δ) : Prop :=
  match m with
  | some d' => r = .ok () ∧ d = d'
  | none => ∃ e, r = .err e

/-- A call that started in `c` was a nested transaction, `m` being what its callback stands for and
    `c₂` the connection as it left it: the transaction state and the savepoints are as before, and
    so is the content unless the callback returned. Only where the call opened the transaction,
    its RELEASE may fail; then it raises that failure, and nothing is changed. -/
structure NestedTransaction (o : Oracle δ) (name : String) (m : Option δ) (c c₂ : Conn δ)
    (r : Outcome NapiError Unit) (c' : Conn δ) : Prop where
  txn : c'.txn = c.txn
  outcome : (r = .ok () ∧ c'.content = m.getD c.content ∧
      (m ≠ none → c.txn = none → o c₂ (.release name) = .accepted)) ∨
    (c'.content = c.content ∧ c.txn = none ∧ m ≠ none ∧ ∃ f, o c₂ (.release name) = .refused f ∧
      r = .err (NapiError.ofRusqlite (.sqliteFailure f)))

section Nested

variable {D : Dialect δ} {o : Oracle δ}

/-- **One call**, for a callback that leaves the transaction and the savepoints as they were. -/
theorem savepoint_pushed (hS : SavepointLaws o) {site : CallSite} (hn : D.Plain site.name)
    {callback : Conn δ → Outcome NapiError Unit × Conn δ} {m : Option δ} {c : Conn δ}
    (hcb : ∀ c₁, c₁.txn ≠ none → c₁.content = c.content →
      (callback c₁).2.txn = c₁.txn ∧ Ended m (callback c₁).1 (callback c₁).2.content) :
    NestedTransaction o site.name m c (site.atRelease (D.engine o) callback c)
      (site.savepoint (D.engine o) callback c).1 (site.savepoint (D.engine o) callback c).2 := by
  obtain ⟨hok, hcontent, t, ht, hp⟩ := exec_savepoint hS site.name c
  rw [CallSite.atRelease, site.savepoint_eq, withSavepoint, Rusqlite.Savepoint.withName_eq hn, hok]
  have hin : (exec o (.savepoint site.name) c).2.txn ≠ none := by
    rw [ht]
    nofun
  obtain ⟨htxn, hended⟩ := hcb _ hin hcontent
  dsimp only
  rcases hr : callback (exec o (.savepoint site.name) c).2 with ⟨r, c₂⟩
  rw [hr, ht] at htxn
  rw [hr] at hended
  generalize hsp : Rusqlite.Savepoint.mk site.name .rollback false = sp
  have hname : sp.name = site.name := by rw [← hsp]
  have hu : sp.committed = false := by rw [← hsp]
  have hd : sp.dropBehavior = .rollback := by rw [← hsp]
  rw [← hname] at hn hp ⊢
  cases m with
  | some d' =>
    obtain ⟨rfl, hd'⟩ : r = .ok () ∧ c₂.content = d' := hended
    obtain ⟨hctxn, hcommit⟩ := Rusqlite.Savepoint.commit_pushed hS sp hn hu hd hp htxn
    refine ⟨hctxn, ?_⟩
    rcases hcommit with ⟨h, hc, ho⟩ | ⟨hc, hnone, f, ho, h⟩
    · exact .inl ⟨by simp only [h, Outcome.mapErr], hc.trans hd', fun _ => ho⟩
    · exact .inr ⟨hc, hnone, nofun, f, ho, by simp only [h, Outcome.mapErr]⟩
  | none =>
    obtain ⟨e, rfl⟩ : ∃ e, r = .err e := hended
    obtain ⟨hrok, hrtxn⟩ := Rusqlite.Savepoint.rollback_pushed hS sp hn hp htxn
    obtain ⟨hdok, hdtxn, hdcontent⟩ := Rusqlite.Savepoint.drop_pushed hS sp hn hu hd hp hrtxn
    -- rolled back twice: by the body and by the drop, which also releases it
    rcases hdrop : sp.drop (D.engine o) (sp.rollback (D.engine o) c₂).2 with ⟨res, c₃⟩
    rw [hdrop] at hdok hdtxn hdcontent
    cases hdok
    simp only [hdrop, hrok]
    exact ⟨hdtxn, .inl ⟨rfl, hdcontent, fun h => absurd rfl h⟩⟩

/-- **A callback that runs inside a transaction leaves it and its savepoints as they were**, and
    ends as its meaning says. -/
theorem Script.run_inside (hS : SavepointLaws o) (s : Script δ) (hs : s.Plain D) (c : Conn δ)
    (hin : c.txn ≠ none) : (s.run (D.engine o) c).2.txn = c.txn ∧
      Ended (s.meaning c.content) (s.run (D.engine o) c).1 (s.run (D.engine o) c).2.content := by
  induction s generalizing c with
  | ret => exact ⟨rfl, rfl, rfl⟩
  | throw e => exact ⟨rfl, e, rfl⟩
  | change f next ih => exact ih hs (changed f c) hin
  | call site callback next handler ihc ihn _ =>
    obtain ⟨hsite, hcallback, hnext, _⟩ := hs
    have hcall : NestedTransaction o site.name (callback.meaning c.content) c _ _ _ :=
      savepoint_pushed hS hsite fun c₁ hin₁ hc₁ => hc₁ ▸ ihc hcallback c₁ hin₁
    obtain ⟨htxn, ⟨hok, hcontent, _⟩ | ⟨_, hnone, _⟩⟩ := hcall
    · rcases hr : site.savepoint (D.engine o) (callback.run (D.engine o)) c with ⟨r, c'⟩
      rw [hr] at htxn hok hcontent
      cases hok
      have hrest := ihn hnext c' (htxn ▸ hin)
      rw [htxn, hcontent] at hrest
      simp only [Script.run, Script.meaning, hr]
      exact hrest
    · -- inside a transaction no RELEASE is outermost
      exact absurd hnone hin

/-- **Nested savepoint callbacks are nested transactions**, wherever the call is made. -/
theorem savepoint_nested (D : Dialect δ) (hS : SavepointLaws o) (site : CallSite)
    (hn : D.Plain site.name) (callback : Script δ) (hs : callback.Plain D) (c : Conn δ) :
    NestedTransaction o site.name (callback.meaning c.content) c
      (site.atRelease (D.engine o) (callback.run (D.engine o)) c)
      (site.savepoint (D.engine o) (callback.run (D.engine o)) c).1
      (site.savepoint (D.engine o) (callback.run (D.engine o)) c).2 :=
  savepoint_pushed hS hn fun c₁ hin hc₁ => hc₁ ▸ callback.run_inside hS hs c₁ hin

/-- An oracle under which a RELEASE that may fail finds the database busy, except right after a
    ROLLBACK TO. -/
def busyOnRelease : Oracle δ := fun c s =>
  match s with
  | .release name =>
    if c.log.head? = some (.control (.rollbackTo name) true) then .accepted
    else .refused ⟨5, "database is locked", Failure.isError_busy⟩
  | .begin _ | .commit | .rollback | .savepoint _ | .rollbackTo _ => .accepted

theorem busyOnRelease_laws : SavepointLaws (δ := δ) busyOnRelease where
  savepoint _ _ := rfl
  rollbackTo _ _ := rfl
  release c name f := by
    simp only [busyOnRelease]
    split
    · nofun
    · nofun
  releaseAfter _ _ h := if_pos h

/-- Adds one; then an inner savepoint of the same name adds ten and throws. -/
def innerThrows : Script Nat :=
  .change (· + 1) (.call (.scopedConnection none)
    (.change (· + 10) (.throw (NapiError.fromReason "inner"))) .ret .ret)

/-- The outer call from autocommit, with that oracle: only the one added is at stake. -/
theorem savepoint_nested_innerThrows : innerThrows.meaning 0 = some 1 ∧
    NestedTransaction busyOnRelease "_rusqlite_sp" (innerThrows.meaning 0) (Conn.fresh 0)
      ((CallSite.connection none).atRelease (small.engine busyOnRelease)
        (innerThrows.run (small.engine busyOnRelease)) (Conn.fresh 0))
      (Connection.savepoint (small.engine busyOnRelease)
        (innerThrows.run (small.engine busyOnRelease)) (Conn.fresh 0)).1
      (Connection.savepoint (small.engine busyOnRelease)
        (innerThrows.run (small.engine busyOnRelease)) (Conn.fresh 0)).2 := by
  have hplain : small.Plain "_rusqlite_sp" := small.plain_sp
  exact ⟨rfl, savepoint_nested small busyOnRelease_laws (.connection none) hplain innerThrows
    ⟨hplain, trivial, trivial, trivial⟩ (Conn.fresh 0)⟩

end Nested

end NodeRusqlite
