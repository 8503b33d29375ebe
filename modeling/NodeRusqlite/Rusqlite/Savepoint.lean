/-
  File:      NodeRusqlite/Rusqlite/Savepoint.lean
  Subject:   `rusqlite::Savepoint`, and what it does to the stack of savepoints.

  A dropped savepoint that is not committed is rolled back and released. Where
  RELEASE fails, `commit` drops the savepoint too, and so ends like a rollback.

  * `Pushed`: SAVEPOINT went from one state to another; `Txn.popped` undoes it.
  * `rollbackThenCommit_pushed`, `commit_pushed`: both ways a savepoint ends, from
    any state with the same stack.
  * `commit_moves`, `drop_moves`: it ends by the texts of ROLLBACK TO and RELEASE only.
-/
import NodeRusqlite.Basis.Outcome
import NodeRusqlite.Rusqlite.Transaction
import NodeRusqlite.Sqlite.Savepoints

namespace NodeRusqlite.Rusqlite

open Basis (Outcome)
open Relation (ReflTransGen)
open Sqlite

variable {κ δ : Type}

/-! ## 1. The code -/

/-- `rusqlite::Savepoint`. -/
structure Savepoint where
  name : String
  dropBehavior : DropBehavior
  committed : Bool

namespace Savepoint

/-- `Savepoint::with_name_`. -/
def withName (E : Engine κ) (name : String) (c : κ) : Except Error Savepoint × κ :=
  match Connection.executeBatch E ("SAVEPOINT " ++ name) c with
  | (.error e, c) => (.error e, c)
  | (.ok (), c) => (.ok { name := name, dropBehavior := .rollback, committed := false }, c)

/-- `Savepoint::new_`. -/
def new (E : Engine κ) : κ → Except Error Savepoint × κ := withName E "_rusqlite_sp"

/-- `Savepoint::commit_`. -/
def commit_ (E : Engine κ) (sp : Savepoint) (c : κ) : Except Error Unit × Savepoint × κ :=
  match Connection.executeBatch E ("RELEASE " ++ sp.name) c with
  | (.error e, c) => (.error e, sp, c)
  | (.ok (), c) => (.ok (), { sp with committed := true }, c)

/-- `Savepoint::rollback`. -/
def rollback (E : Engine κ) (sp : Savepoint) (c : κ) : Except Error Unit × κ :=
  Connection.executeBatch E ("ROLLBACK TO " ++ sp.name) c

/-- `self.rollback().and_then(|()| self.commit_())`. -/
def rollbackThenCommit (E : Engine κ) (sp : Savepoint) (c : κ) : Except Error Unit × κ :=
  match sp.rollback E c with
  | (.error e, c) => (.error e, c)
  | (.ok (), c) =>
    let (res, _, c) := sp.commit_ E c
    (res, c)

/-- `Savepoint::finish_`. -/
def finish_ (E : Engine κ) (sp : Savepoint) (c : κ) : Outcome Error Unit × κ :=
  if sp.committed then (.ok (), c)
  else
    match sp.dropBehavior with
    | .commit =>
      match sp.commit_ E c with
      | (.ok (), _, c) => (.ok (), c)
      | (.error _, sp, c) =>
        let (res, c) := sp.rollbackThenCommit E c
        (.ofExcept res, c)
    | .rollback =>
      let (res, c) := sp.rollbackThenCommit E c
      (.ofExcept res, c)
    | .ignore => (.ok (), c)
    | .panic => (.panic "Savepoint dropped unexpectedly.", c)

/-- `Drop for Savepoint`: an error is not looked at. -/
def drop (E : Engine κ) (sp : Savepoint) (c : κ) : Outcome Error Unit × κ :=
  match sp.finish_ E c with
  | (.panic m, c) => (.panic m, c)
  | (.ok (), c) | (.err _, c) => (.ok (), c)

/-- `Savepoint::commit`: it consumes the savepoint, which is dropped at its end. -/
def commit (E : Engine κ) (sp : Savepoint) (c : κ) : Outcome Error Unit × κ :=
  let (res, sp, c) := sp.commit_ E c
  match sp.drop E c with
  | (.panic m, c) => (.panic m, c)
  | (.ok (), c) | (.err _, c) => (.ofExcept res, c)

/-! ## 2. How a savepoint begins and ends -/

section Pushed

variable {D : Dialect δ} {o : Oracle δ} {name : String} {c₀ c : Conn δ} {t : Txn δ}

theorem withName_eq (hn : D.Plain name) (c : Conn δ) : withName (D.engine o) name c =
    match (exec o (.savepoint name) c).1 with
    | none => (.ok ⟨name, .rollback, false⟩, (exec o (.savepoint name) c).2)
    | some f => (.error (.sqliteFailure f), (exec o (.savepoint name) c).2) := by
  have htext := executeBatch_control (o := o) (s := .savepoint name)
    (fun _ h => Option.some.inj h ▸ hn) c
  rw [Control.text] at htext
  rw [withName, htext]
  cases (exec o (.savepoint name) c).1 <;> rfl

theorem rollback_eq (sp : Savepoint) (hn : D.Plain sp.name) (c : Conn δ) :
    sp.rollback (D.engine o) c =
      (batchResult (exec o (.rollbackTo sp.name) c).1, (exec o (.rollbackTo sp.name) c).2) :=
  executeBatch_control (s := .rollbackTo sp.name) (fun _ h => Option.some.inj h ▸ hn) c

theorem release_eq (sp : Savepoint) (hn : D.Plain sp.name) (c : Conn δ) :
    sp.commit_ (D.engine o) c =
      match (exec o (.release sp.name) c).1 with
      | none => (.ok (), { sp with committed := true }, (exec o (.release sp.name) c).2)
      | some f => (.error (.sqliteFailure f), sp, (exec o (.release sp.name) c).2) := by
  have htext := executeBatch_control (o := o) (s := .release sp.name)
    (fun _ h => Option.some.inj h ▸ hn) c
  rw [Control.text] at htext
  rw [commit_, htext]
  cases (exec o (.release sp.name) c).1 <;> rfl

variable (hS : SavepointLaws o) (sp : Savepoint) (hn : D.Plain sp.name)
include hS hn

/-- A rollback and the release after it go back to where the savepoint began. -/
theorem rollbackThenCommit_pushed (hp : Pushed sp.name c₀ t) (ht : c.txn = some t) :
    (sp.rollbackThenCommit (D.engine o) c).1 = .ok () ∧
      (sp.rollbackThenCommit (D.engine o) c).2.txn = c₀.txn ∧
      (sp.rollbackThenCommit (D.engine o) c).2.content = c₀.content := by
  obtain ⟨hok, htxn, hcontent, hlog⟩ := exec_rollbackTo hS hp ht
  rw [rollbackThenCommit, rollback_eq sp hn, hok]
  simp only [batchResult, release_eq sp hn]
  rcases exec_release hS hp htxn with ⟨hrel, hrtxn, hrcontent, _⟩ | ⟨_, _, f, ho, _⟩
  · simp only [hrel]
    exact ⟨trivial, hrtxn, hrcontent.trans hcontent⟩
  · -- right after the ROLLBACK TO it is not refused
    rw [hS.releaseAfter _ _ hlog] at ho
    cases ho

/-- ROLLBACK TO succeeds, and leaves the savepoint to be dropped. -/
theorem rollback_pushed (hp : Pushed sp.name c₀ t) (ht : c.txn = some t) :
    (sp.rollback (D.engine o) c).1 = .ok () ∧ (sp.rollback (D.engine o) c).2.txn = some t := by
  obtain ⟨hok, htxn, _⟩ := exec_rollbackTo hS hp ht
  rw [rollback_eq sp hn, hok]
  exact ⟨rfl, htxn⟩

/-- A savepoint that is dropped uncommitted is undone. -/
theorem drop_pushed (hu : sp.committed = false) (hd : sp.dropBehavior = .rollback)
    (hp : Pushed sp.name c₀ t) (ht : c.txn = some t) :
    (sp.drop (D.engine o) c).1 = .ok () ∧
      (sp.drop (D.engine o) c).2.txn = c₀.txn ∧
      (sp.drop (D.engine o) c).2.content = c₀.content := by
  obtain ⟨hok, htxn, hcontent⟩ := rollbackThenCommit_pushed hS sp hn hp ht
  simp only [drop, finish_, hu, hd, hok, Outcome.ofExcept_ok, if_neg Bool.false_ne_true]
  exact ⟨trivial, htxn, hcontent⟩

/-- **`commit` keeps the content**, an outermost RELEASE being accepted; or that was refused, and
    the drop undoes it all. -/
theorem commit_pushed (hu : sp.committed = false) (hd : sp.dropBehavior = .rollback)
    (hp : Pushed sp.name c₀ t) (ht : c.txn = some t) :
    (sp.commit (D.engine o) c).2.txn = c₀.txn ∧
      (((sp.commit (D.engine o) c).1 = .ok () ∧
          (sp.commit (D.engine o) c).2.content = c.content ∧
          (c₀.txn = none → o c (.release sp.name) = .accepted)) ∨
        ((sp.commit (D.engine o) c).2.content = c₀.content ∧ c₀.txn = none ∧
          ∃ f, o c (.release sp.name) = .refused f ∧
            (sp.commit (D.engine o) c).1 = .err (.sqliteFailure f))) := by
  rcases exec_release hS hp ht with ⟨hrel, hrtxn, hrcontent, ho⟩ | ⟨hnone, htxn, f, ho, hrel⟩
  · simp only [commit, release_eq sp hn, hrel, drop, finish_, if_true]
    exact ⟨hrtxn, .inl ⟨rfl, hrcontent, ho⟩⟩
  · obtain ⟨hdok, hdtxn, hdcontent⟩ := drop_pushed hS sp hn hu hd hp htxn
    simp only [commit, release_eq sp hn, hrel]
    rcases hdrop : sp.drop (D.engine o) (exec o (.release sp.name) c).2 with ⟨res, c'⟩
    rw [hdrop] at hdok hdtxn hdcontent
    cases hdok
    exact ⟨hdtxn, .inr ⟨hdcontent, hnone, f, ho, rfl⟩⟩

end Pushed

/-! ## 3. Where the texts of a savepoint can leave the connection -/

/-- The state a savepoint is made in is the one its SAVEPOINT text leaves. -/
theorem withName_snd (E : Engine κ) (name : String) (c : κ) :
    (withName E name c).2 = (Connection.executeBatch E ("SAVEPOINT " ++ name) c).2 := by
  unfold withName
  rcases Connection.executeBatch E ("SAVEPOINT " ++ name) c with ⟨_ | _, c'⟩ <;> rfl

/-- The texts of ROLLBACK TO and RELEASE move the connection along `R`. -/
structure EndsAlong (E : Engine κ) (R : κ → κ → Prop) (name : String) : Prop where
  rollbackTo : ∀ c, ReflTransGen R c (Connection.executeBatch E ("ROLLBACK TO " ++ name) c).2
  release : ∀ c, ReflTransGen R c (Connection.executeBatch E ("RELEASE " ++ name) c).2

section Ends

variable {E : Engine κ} {R : κ → κ → Prop}

theorem release_name (sp : Savepoint) (c : κ) : (sp.commit_ E c).2.1.name = sp.name := by
  unfold commit_
  rcases Connection.executeBatch E ("RELEASE " ++ sp.name) c with ⟨_ | _, c'⟩ <;> rfl

theorem release_moves {sp : Savepoint} (h : EndsAlong E R sp.name) (c : κ) :
    ReflTransGen R c (sp.commit_ E c).2.2 := by
  have hm := h.release c
  unfold commit_
  rcases hb : Connection.executeBatch E ("RELEASE " ++ sp.name) c with ⟨_ | _, c'⟩
  all_goals
    rw [hb] at hm
    exact hm

theorem rollbackThenCommit_moves {sp : Savepoint} (h : EndsAlong E R sp.name) (c : κ) :
    ReflTransGen R c (sp.rollbackThenCommit E c).2 := by
  have hm : ReflTransGen R c (sp.rollback E c).2 := h.rollbackTo c
  unfold rollbackThenCommit
  rcases hr : sp.rollback E c with ⟨_ | _, c'⟩
  all_goals rw [hr] at hm
  · exact hm
  · exact hm.trans (release_moves h c')

theorem finish_moves {sp : Savepoint} (h : EndsAlong E R sp.name) (c : κ) :
    ReflTransGen R c (sp.finish_ E c).2 := by
  unfold finish_
  split
  · exact .refl
  · cases sp.dropBehavior with
    | commit =>
      have hm := release_moves h c
      have hname := release_name (E := E) sp c
      rcases hc : sp.commit_ E c with ⟨_ | _, sp', c'⟩
      all_goals rw [hc] at hm hname
      · exact hm.trans (rollbackThenCommit_moves (hname ▸ h) c')
      · exact hm
    | rollback => exact rollbackThenCommit_moves h c
    | ignore | panic => exact .refl

theorem drop_moves {sp : Savepoint} (h : EndsAlong E R sp.name) (c : κ) :
    ReflTransGen R c (sp.drop E c).2 := by
  have hm := finish_moves h c
  unfold drop
  rcases hf : sp.finish_ E c with ⟨_ | _ | _, c'⟩
  all_goals
    rw [hf] at hm
    exact hm

theorem commit_moves {sp : Savepoint} (h : EndsAlong E R sp.name) (c : κ) :
    ReflTransGen R c (sp.commit E c).2 := by
  have hm := release_moves h c
  have hname := release_name (E := E) sp c
  unfold commit
  rcases hc : sp.commit_ E c with ⟨res, sp', c'⟩
  rw [hc] at hm hname
  have hd := hm.trans (drop_moves (hname ▸ h) c')
  dsimp only
  rcases hdrop : sp'.drop E c' with ⟨_ | _ | _, c''⟩
  all_goals
    rw [hdrop] at hd
    exact hd

end Ends

/-- Whatever the name, its texts run statements. -/
theorem endsAlong_move {D : Dialect δ} {o : Oracle δ} (name : String) :
    EndsAlong (D.engine o) (Move o) name where
  rollbackTo := executeBatch_moves _
  release := executeBatch_moves _

end Savepoint

end NodeRusqlite.Rusqlite
