/-
  File:      NodeRusqlite/Transaction/SingleOwner.lean
  Subject:   The open transaction has one owner, as long as only the handles begin and end
             transactions.

  * `HandleCall.run_result`: what a call makes of an unfinished handle inside its
    transaction.
  * `Owned`: the invariant; `Owned.step` is its step lemma.
  * **`single_owner`**: every reachable state, and what a failed `commit` leaves.
-/
import NodeRusqlite.Transaction.Ownership

namespace NodeRusqlite

open Basis (Outcome Event Run)
open Sqlite

variable {δ : Type} {D : Dialect δ} {o : Oracle δ}

/-! ## 1. One call -/

/-- A COMMIT that fails leaves the transaction open. -/
def CommitLeavesOpen (o : Oracle δ) : Prop := ∀ c f, o c .commit ≠ .rolledBack f

/-- The handle is gone or finished. -/
def Done (tx : Option Transaction) : Prop := ∀ tx', tx = some tx' → tx'.finished = true

section Call

variable {tx : Transaction} {c : Conn δ}

theorem exec_commit_inside (hcommit : CommitLeavesOpen o) {t : Txn δ} (ht : c.txn = some t) :
    ((exec o .commit c).1 = none ∧ (exec o .commit c).2.txn = none) ∨
      ∃ f, (exec o .commit c).1 = some f ∧ c.SameState (exec o .commit c).2 := by
  have heff := effect_inside (o := o) (s := .commit) (.inl rfl) ht
  unfold gate at heff
  cases ho : o c .commit with
  | accepted =>
    rw [ho] at heff
    exact .inl ⟨by rw [exec_fst, heff], by rw [exec_txn, heff]⟩
  | refused f =>
    rw [ho] at heff
    exact .inr ⟨f, by rw [exec_fst, heff], by rw [exec_content, heff], by rw [exec_txn, heff],
      by rw [exec_begun, heff]⟩
  | rolledBack f => exact absurd ho (hcommit c f)

theorem exec_rollback_inside (hroll : RollbackSucceeds o) {t : Txn δ} (ht : c.txn = some t) :
    (exec o .rollback c).1 = none ∧ (exec o .rollback c).2.txn = none := by
  have heff := effect_inside (o := o) (s := .rollback) (.inr rfl) ht
  have hin : c.txn ≠ none := by
    rw [ht]
    nofun
  rw [gate, hroll c hin] at heff
  exact ⟨by rw [exec_fst, heff], by rw [exec_txn, heff]⟩

theorem done_finished (tx : Transaction) : Done (some { tx with finished := true }) := by
  intro tx' h
  cases h
  rfl

theorem done_none : Done none := nofun

/-- What a call makes of a handle and its open transaction: the transaction ends and the handle is
    done, or both stay, or the handle lets go of the transaction. -/
inductive CallResult (call : HandleCall) (tx : Transaction) (c : Conn δ) :
    Option Transaction → Conn δ → Prop where
  | ended {tx' : Option Transaction} {c' : Conn δ} :
      c'.txn = none → Done tx' → CallResult call tx c tx' c'
  | kept {c' : Conn δ} : c.SameState c' → CallResult call tx c (some tx) c'
  | left {tx' : Option Transaction} {c' : Conn δ} :
      c'.txn = c.txn → Done tx' → call = .dispose ∨ call = .finalize →
        tx.dropBehavior = .ignore → CallResult call tx c tx' c'

theorem commit_result (D : Dialect δ) (call : HandleCall) (hcommit : CommitLeavesOpen o)
    (hf : tx.finished = false) {t : Txn δ} (ht : c.txn = some t) :
    CallResult call tx c (some (tx.commit (D.engine o) c).2.1) (tx.commit (D.engine o) c).2.2 := by
  rw [commit_unfinished hf]
  rcases exec_commit_inside hcommit ht with ⟨h, htxn⟩ | ⟨f, h, hsame⟩
  · rw [h]
    exact .ended htxn (done_finished tx)
  · rw [h]
    exact .kept hsame

theorem rollback_result (D : Dialect δ) (call : HandleCall) (hroll : RollbackSucceeds o)
    (hf : tx.finished = false) {t : Txn δ} (ht : c.txn = some t) :
    CallResult call tx c (some (tx.rollback (D.engine o) c).2.1)
      (tx.rollback (D.engine o) c).2.2 := by
  obtain ⟨h, htxn⟩ := exec_rollback_inside hroll ht
  rw [rollback_unfinished hf, h]
  exact .ended htxn (done_finished tx)

/-- **Every call of an unfinished handle inside its transaction.** -/
theorem HandleCall.run_result (D : Dialect δ) (hcommit : CommitLeavesOpen o)
    (hroll : RollbackSucceeds o) (call : HandleCall) (hf : tx.finished = false)
    (hd : tx.dropBehavior ≠ .panic) {t : Txn δ} (ht : c.txn = some t) :
    CallResult call tx c (call.run (D.engine o) tx c).2.1 (call.run (D.engine o) tx c).2.2 := by
  have hauto : (D.engine o).isAutocommit c = false := by
    show c.txn.isNone = false
    rw [ht]
    rfl
  obtain ⟨drop, finished⟩ := tx
  cases hf
  cases call with
  | commit => exact commit_result D _ hcommit rfl ht
  | rollback => exact rollback_result D _ hroll rfl ht
  | dispose =>
    cases drop with
    | rollback => exact rollback_result D _ hroll rfl ht
    | commit => exact commit_result D _ hcommit rfl ht
    | ignore => exact .left rfl (done_finished _) (.inl rfl) rfl
    | panic => exact absurd rfl hd
  | finalize =>
    cases drop with
    | rollback =>
      refine .ended ?_ done_none
      simp only [HandleCall.run, Transaction.finalize, hauto, Bool.not_false, Bool.and_self,
        if_true, rollback_text]
      exact (exec_rollback_inside hroll ht).2
    | commit => exact .ended (finalize_ends hroll rfl rfl ht) done_none
    | ignore =>
      refine .left ?_ done_none (.inr rfl) rfl
      simp only [HandleCall.run, Transaction.finalize, hauto, Bool.not_false, Bool.and_self,
        if_true]
    | panic => exact absurd rfl hd

/-- A finished handle stays so, or is gone. -/
theorem HandleCall.run_done (D : Dialect δ) (o : Oracle δ) (call : HandleCall)
    (hf : tx.finished = true) (c : Conn δ) : Done (call.run (D.engine o) tx c).2.1 := by
  obtain ⟨drop, finished⟩ := tx
  cases hf
  cases call with
  | commit | rollback | dispose => exact done_finished ⟨drop, true⟩
  | finalize => exact done_none

end Call

/-! ## 2. The invariant -/

/-- Handle `i` is live and unfinished, and transaction `n` is its own. -/
def Sys.Unfinished (s : Sys δ) (i n : Nat) : Prop :=
  ∃ tx, s.handles[i]? = some ⟨some tx, n⟩ ∧ tx.finished = false

/-- No unfinished handle is under Panic. -/
def Sys.NoPanic (s : Sys δ) : Prop := ∀ (i : Nat) (tx : Transaction) (n : Nat),
  s.handles[i]? = some ⟨some tx, n⟩ → tx.finished = false → tx.dropBehavior ≠ .panic

/-- The handle of transaction `n` was disposed or finalised under Ignore, while unfinished. -/
def LeftUnderIgnore (h : List (Event (Sys δ) (Act o))) (n : Nat) : Prop :=
  ∃ e ∈ h, ∃ i tx, (e.act = .call i .dispose ∨ e.act = .call i .finalize) ∧
    e.before.handles[i]? = some ⟨some tx, n⟩ ∧ tx.finished = false ∧ tx.dropBehavior = .ignore

/-- The events allowed: no Panic, and data statements leave the transaction as it is. -/
def Permitted (e : Event (Sys δ) (Act o)) : Prop :=
  match e.act with
  | .transaction options => options.bind (·.dropBehavior) ≠ some .panic
  | .setDropBehavior _ b => b ≠ .panic
  | .call _ _ | .setTransactionBehavior _ => True
  | .execute _ _ _ | .executeBatch _ _ | .other _ => e.after.conn.db.txn = e.before.conn.db.txn

/-- At most one unfinished handle; it owns the open transaction; one open without it was left. -/
structure Owned (h : List (Event (Sys δ) (Act o))) (s : Sys δ) : Prop where
  atMostOne : ∀ i j m n, s.Unfinished i m → s.Unfinished j n → i = j
  inside : ∀ i n, s.Unfinished i n → s.conn.db.current = some n
  leftOpen : ∀ n, s.conn.db.current = some n → (∀ i m, ¬ s.Unfinished i m) → LeftUnderIgnore h n
  noPanic : s.NoPanic

theorem LeftUnderIgnore.append {h : List (Event (Sys δ) (Act o))} {n : Nat}
    (hl : LeftUnderIgnore h n) (e : Event (Sys δ) (Act o)) : LeftUnderIgnore (h ++ [e]) n := by
  obtain ⟨e', he', hrest⟩ := hl
  exact ⟨e', List.mem_append_left _ he', hrest⟩

namespace Owned

variable {h : List (Event (Sys δ) (Act o))} {s s' : Sys δ} {e : Event (Sys δ) (Act o)}

theorem fresh (d : δ) : Owned (o := o) [] (Sys.fresh d) := by
  have hnone : ∀ i n, ¬ (Sys.fresh d).Unfinished i n := by
    intro i n hi
    obtain ⟨tx, hi, _⟩ := hi
    cases hi
  refine ⟨fun i _ m _ hi _ => absurd hi (hnone i m), fun i n hi => absurd hi (hnone i n),
    fun n hn _ => ?_, fun i tx n hi hf => absurd ⟨tx, hi, hf⟩ (hnone i n)⟩
  cases hn

/-- The transaction stays, and so do the unfinished handles. -/
theorem same (hI : Owned h s) (htxn : s'.conn.db.txn = s.conn.db.txn)
    (hunf : ∀ i n, s'.Unfinished i n ↔ s.Unfinished i n)
    (hpanic : s'.NoPanic) : Owned (h ++ [e]) s' := by
  have hcur : s'.conn.db.current = s.conn.db.current := by rw [Conn.current, htxn, Conn.current]
  refine ⟨fun i j m n hi hj => ?_, fun i n hi => ?_, fun n hn hnone => ?_, hpanic⟩
  · exact hI.atMostOne i j m n ((hunf i m).mp hi) ((hunf j n).mp hj)
  · rw [hcur]
    exact hI.inside i n ((hunf i n).mp hi)
  · rw [hcur] at hn
    exact (hI.leftOpen n hn fun i m hi => hnone i m ((hunf i m).mpr hi)).append e

/-- No handle is unfinished any more, and the transaction is over or was left. -/
theorem done (hunf : ∀ i n, ¬ s'.Unfinished i n)
    (hleft : ∀ n, s'.conn.db.current = some n → LeftUnderIgnore (h ++ [e]) n) :
    Owned (h ++ [e]) s' where
  atMostOne i _ m _ hi _ := absurd hi (hunf i m)
  inside i n hi := absurd hi (hunf i n)
  leftOpen n hn _ := hleft n hn
  noPanic i tx n hi hf := absurd ⟨tx, hi, hf⟩ (hunf i n)

end Owned

/-! ## 3. The step lemma -/

section Step

variable {h : List (Event (Sys δ) (Act o))} {s s' : Sys δ} {i : Nat} {tx : Transaction}
  {serial : Nat}

/-- Where one handle is replaced, the others are what they were. -/
theorem set_handle {l : List Held} {x y : Held} (hi : l[i]? = some y) (j : Nat) :
    (l.set i x)[j]? = if i = j then some x else l[j]? := by
  have hlt : i < l.length := (List.getElem?_eq_some_iff.mp hi).1
  rw [List.getElem?_set]
  simp only [hlt, if_true]

/-- A handle that is done is not among the unfinished ones any more. -/
theorem unfinished_of_done {x : Option Transaction} (hi : s.handles[i]? = some ⟨some tx, serial⟩)
    (hset : s'.handles = s.handles.set i ⟨x, serial⟩) (hdone : Done x) {j n : Nat}
    (hj : s'.Unfinished j n) : s.Unfinished j n ∧ i ≠ j := by
  obtain ⟨tx', htx', hf⟩ := hj
  rw [hset, set_handle hi] at htx'
  by_cases hij : i = j
  · rw [if_pos hij] at htx'
    cases htx'
    rw [hdone tx' rfl] at hf
    cases hf
  · rw [if_neg hij] at htx'
    exact ⟨⟨tx', htx', hf⟩, hij⟩

/-- A handle that is as finished as it was. -/
theorem unfinished_of_set {tx' : Transaction} (hi : s.handles[i]? = some ⟨some tx, serial⟩)
    (hset : s'.handles = s.handles.set i ⟨some tx', serial⟩) (hf : tx'.finished = tx.finished)
    (j n : Nat) : s'.Unfinished j n ↔ s.Unfinished j n := by
  unfold Sys.Unfinished
  rw [hset, set_handle hi]
  by_cases hij : i = j
  · subst hij
    rw [if_pos rfl, hi]
    constructor
    · intro ⟨_, h, hu⟩
      cases h
      exact ⟨tx, rfl, hf ▸ hu⟩
    · intro ⟨_, h, hu⟩
      cases h
      exact ⟨tx', rfl, hf.trans hu⟩
  · rw [if_neg hij]

/-- The same handles, the same unfinished ones. -/
theorem unfinished_congr (hget : ∀ j : Nat, s'.handles[j]? = s.handles[j]?) (i n : Nat) :
    s'.Unfinished i n ↔ s.Unfinished i n := by
  unfold Sys.Unfinished
  rw [hget]

theorem noPanic_congr (hget : ∀ j : Nat, s'.handles[j]? = s.handles[j]?) (hp : s.NoPanic) :
    s'.NoPanic := by
  intro i tx n hi
  rw [hget] at hi
  exact hp i tx n hi

/-- A call of a finished handle changes nothing but the handle. -/
theorem Owned.call_finished (hI : Owned h s) {call : HandleCall} (hf : tx.finished = true)
    (hi : s.handles[i]? = some ⟨some tx, serial⟩)
    (hdb : s'.conn.db = (call.run (D.engine o) tx s.conn.db).2.2)
    (hset : s'.handles = s.handles.set i ⟨(call.run (D.engine o) tx s.conn.db).2.1, serial⟩)
    (e : Event (Sys δ) (Act o)) : Owned (h ++ [e]) s' := by
  have hdone := call.run_done D o hf s.conn.db
  refine hI.same (by rw [hdb, call.run_finished hf]) (fun j n => ⟨fun hj => ?_, fun hj => ?_⟩) ?_
  · exact (unfinished_of_done hi hset hdone hj).1
  · -- the handle called is not the unfinished one
    obtain ⟨tx', htx', hf'⟩ := hj
    have hij : i ≠ j := by
      intro hij
      subst hij
      cases hi.symm.trans htx'
      rw [hf] at hf'
      cases hf'
    exact ⟨tx', by rw [hset, set_handle hi, if_neg hij, htx'], hf'⟩
  · intro j tx' n hj hf'
    have hij := (unfinished_of_done hi hset hdone ⟨tx', hj, hf'⟩).2
    rw [hset, set_handle hi, if_neg hij] at hj
    exact hI.noPanic j tx' n hj hf'

/-- The step of a call. -/
theorem Owned.call (hcommit : CommitLeavesOpen o) (hroll : RollbackSucceeds o) (hI : Owned h s)
    {call : HandleCall} (hs : step D o s (.call i call) = some s') :
    Owned (h ++ [⟨s, .call i call, s'⟩]) s' := by
  obtain ⟨tx, serial, hi, hdb, hset, _⟩ := step_call hs
  rw [← HandleCall.run_conn (D := D)] at hdb
  cases hf : tx.finished with
  | true => exact hI.call_finished hf hi hdb hset _
  | false =>
    have hown : s.Unfinished i serial := ⟨tx, hi, hf⟩
    have hcur := hI.inside i serial hown
    obtain ⟨t, ht, _⟩ := current_eq_some.mp hcur
    have hres := HandleCall.run_result D hcommit hroll call hf (hI.noPanic i tx serial hi hf) ht
    -- no other handle is unfinished
    have hothers : Done (call.run (D.engine o) tx s.conn.db).2.1 → ∀ j n, ¬ s'.Unfinished j n := by
      intro hdone j n hj
      obtain ⟨hj', hij⟩ := unfinished_of_done hi hset hdone hj
      exact hij (hI.atMostOne i j serial n hown hj')
    rw [← hdb] at hres
    generalize hx : (call.run (D.engine o) tx s.conn.db).2.1 = x at hres hset hothers
    generalize hc' : s'.conn.db = c' at hres
    cases hres with
    | ended htxn hdone =>
      refine .done (hothers hdone) fun n hn => ?_
      rw [hc', current_eq_some, htxn] at hn
      obtain ⟨_, hn, _⟩ := hn
      cases hn
    | kept hsame =>
      have hget : ∀ j : Nat, s'.handles[j]? = s.handles[j]? := by
        intro j
        rw [hset, set_handle hi]
        split
        · rename_i hij
          rw [← hij, hi]
        · rfl
      exact hI.same (by rw [hc', hsame.2.1]) (unfinished_congr hget)
        (noPanic_congr hget hI.noPanic)
    | left htxn hdone hcall hignore =>
      refine .done (hothers hdone) fun n hn => ?_
      rw [hc', Conn.current, htxn, ← Conn.current, hcur] at hn
      cases hn
      refine ⟨_, List.mem_append_right _ (List.mem_singleton_self _), i, tx, ?_, hi, hf, hignore⟩
      rcases hcall with rfl | rfl
      · exact .inl rfl
      · exact .inr rfl

/-- A handle in the longer list is an old one or the new one. -/
theorem append_handle {l : List Held} {x y : Held} {j : Nat} (h : (l ++ [x])[j]? = some y) :
    l[j]? = some y ∨ (j = l.length ∧ y = x) := by
  rw [List.getElem?_append] at h
  split at h
  · exact .inl h
  · obtain ⟨hlt, hget⟩ := List.getElem?_eq_some_iff.mp h
    have hzero : j - l.length = 0 := by
      simp only [List.length_cons, List.length_nil] at hlt
      omega
    simp only [hzero, List.getElem_cons_zero] at hget
    exact .inr ⟨by omega, hget.symm⟩

/-- A new handle, where none was unfinished, owns the new transaction. -/
theorem Owned.began {e : Event (Sys δ) (Act o)} (hnot : ∀ i n, ¬ s.Unfinished i n)
    (hhandles : s'.handles = s.handles ++ [⟨some tx, serial⟩]) (hf : tx.finished = false)
    (hd : tx.dropBehavior ≠ .panic) (hcur : s'.conn.db.current = some serial) :
    Owned (h ++ [e]) s' := by
  have hnew : ∀ (i : Nat) (tx' : Transaction) (n : Nat), s'.handles[i]? = some ⟨some tx', n⟩ →
      tx'.finished = false → i = s.handles.length ∧ tx' = tx ∧ n = serial := by
    intro i tx' n hi hf'
    rw [hhandles] at hi
    rcases append_handle hi with hold | ⟨hlast, heq⟩
    · exact absurd ⟨tx', hold, hf'⟩ (hnot i n)
    · cases heq
      exact ⟨hlast, rfl, rfl⟩
  refine ⟨fun i j m n hi hj => ?_, fun i n hi => ?_, fun n _ hnone => ?_, fun i tx' n hi hf' => ?_⟩
  · obtain ⟨txi, hi, hfi⟩ := hi
    obtain ⟨txj, hj, hfj⟩ := hj
    exact (hnew i txi m hi hfi).1.trans (hnew j txj n hj hfj).1.symm
  · obtain ⟨tx', hi, hf'⟩ := hi
    rw [hcur, (hnew i tx' n hi hf').2.2]
  · refine absurd ⟨tx, ?_, hf⟩ (hnone s.handles.length serial)
    rw [hhandles, List.getElem?_append_right (Nat.le_refl _), Nat.sub_self]
    rfl
  · rw [(hnew i tx' n hi hf').2.1]
    exact hd

theorem newHandle_dropBehavior {options : Option TransactionOptions}
    (hopt : options.bind (·.dropBehavior) ≠ some .panic) :
    (newHandle options).dropBehavior ≠ .panic := by
  unfold newHandle
  cases hb : options.bind (·.dropBehavior) with
  | none => nofun
  | some b =>
    cases b with
    | panic => exact absurd hb hopt
    | rollback | commit | ignore => nofun

/-- The step of `transaction`. -/
theorem Owned.transaction (hI : Owned h s) {options : Option TransactionOptions}
    (hopt : options.bind (·.dropBehavior) ≠ some .panic)
    (hs : step D o s (.transaction options) = some s') :
    Owned (h ++ [⟨s, .transaction options, s'⟩]) s' := by
  rw [step_transaction] at hs
  cases hs
  rcases exec_begin o (beginsWith options).kind s.conn.db with ⟨hok, hnone, hcur⟩ | ⟨f, hf, htxn⟩
  · have hnot : ∀ i n, ¬ s.Unfinished i n := by
      intro i n hi
      have hin := hI.inside i n hi
      rw [Conn.current, hnone] at hin
      cases hin
    refine Owned.began hnot ?_ rfl (newHandle_dropBehavior hopt) hcur
    rw [hok]
    rfl
  · have hget : ∀ j : Nat, (if (exec o (.begin (beginsWith options).kind) s.conn.db).1.isNone then
        s.handles ++ [⟨some (newHandle options), s.conn.db.begun⟩] else s.handles)[j]? =
        s.handles[j]? := by
      intro j
      rw [hf]
      rfl
    exact hI.same htxn (unfinished_congr hget) (noPanic_congr hget hI.noPanic)

/-- The step of `setDropBehavior`. -/
theorem Owned.setDropBehavior (hI : Owned h s) {b : DropBehavior} (hb : b ≠ .panic)
    (hs : step D o s (.setDropBehavior i b) = some s') :
    Owned (h ++ [⟨s, .setDropBehavior i b, s'⟩]) s' := by
  obtain ⟨tx, serial, hi, rfl⟩ := step_setDropBehavior hs
  refine hI.same rfl (unfinished_of_set hi rfl rfl) fun j tx' n hj hf => ?_
  simp only [set_handle hi] at hj
  split at hj
  · cases hj
    cases b with
    | panic => exact absurd rfl hb
    | rollback | commit | ignore => nofun
  · exact hI.noPanic j tx' n hj hf

/-- **The step lemma.** -/
theorem Owned.step (hcommit : CommitLeavesOpen o) (hroll : RollbackSucceeds o) (hI : Owned h s)
    {a : Act o} (hs : NodeRusqlite.step D o s a = some s') (hp : Permitted ⟨s, a, s'⟩) :
    Owned (h ++ [⟨s, a, s'⟩]) s' := by
  cases a with
  | transaction options => exact hI.transaction hp hs
  | call i call => exact hI.call hcommit hroll hs
  | setDropBehavior i b => exact hI.setDropBehavior hp hs
  | setTransactionBehavior b =>
    cases hs
    exact hI.same rfl (fun _ _ => Iff.rfl) hI.noPanic
  | execute r sql params =>
    cases hs
    exact hI.same hp (fun _ _ => Iff.rfl) hI.noPanic
  | executeBatch r sql =>
    cases hs
    exact hI.same hp (fun _ _ => Iff.rfl) hI.noPanic
  | other op =>
    cases hs
    exact hI.same hp (fun _ _ => Iff.rfl) hI.noPanic

end Step

/-! ## 4. Every reachable state -/

/-- What holds in a state reached by `h`; `commitFails`: a `commit` that fails leaves the handle,
    the transaction and the content as they are, and a `rollback` after it succeeds. -/
structure SingleOwner (E : Engine (Conn δ)) (h : List (Event (Sys δ) (Act o))) (s : Sys δ) :
    Prop where
  atMostOne : ∀ i j m n, s.Unfinished i m → s.Unfinished j n → i = j
  inside : ∀ i n, s.Unfinished i n → s.conn.db.current = some n
  leftOpen : ∀ n, s.conn.db.current = some n → (∀ i m, ¬ s.Unfinished i m) → LeftUnderIgnore h n
  commitFails : ∀ (i : Nat) (tx : Transaction) (n : Nat) (e : NapiError),
    s.handles[i]? = some ⟨some tx, n⟩ → tx.finished = false → (tx.commit E s.conn.db).1 = .err e →
      (tx.commit E s.conn.db).2.1 = tx ∧ s.conn.db.SameState (tx.commit E s.conn.db).2.2 ∧
        (tx.rollback E (tx.commit E s.conn.db).2.2).1 = .ok ()

theorem commit_fails (D : Dialect δ) (hcommit : CommitLeavesOpen o) (hroll : RollbackSucceeds o)
    {tx : Transaction} {c : Conn δ} (hf : tx.finished = false) {t : Txn δ} (ht : c.txn = some t)
    {e : NapiError} (he : (tx.commit (D.engine o) c).1 = .err e) :
    (tx.commit (D.engine o) c).2.1 = tx ∧ c.SameState (tx.commit (D.engine o) c).2.2 ∧
      (tx.rollback (D.engine o) (tx.commit (D.engine o) c).2.2).1 = .ok () := by
  rw [commit_unfinished hf] at he ⊢
  rcases exec_commit_inside hcommit ht with ⟨h, _⟩ | ⟨f, h, hsame⟩
  · rw [h] at he
    cases he
  · rw [h]
    have ht' : (exec o .commit c).2.txn = some t := hsame.2.1.trans ht
    refine ⟨rfl, hsame, ?_⟩
    rw [rollback_unfinished hf]
    show (completed tx (exec o .rollback (exec o .commit c).2).1 _).1 = _
    rw [(exec_rollback_inside hroll ht').1]
    rfl

/-- **The open transaction has at most one owner, in every state of every such run.** -/
theorem single_owner (D : Dialect δ) (hcommit : CommitLeavesOpen o) (hroll : RollbackSucceeds o)
    {d : δ} {h : List (Event (Sys δ) (Act o))} {s : Sys δ}
    (hr : Run (step D o) (Sys.fresh d) h s) (hp : ∀ e ∈ h, Permitted e) :
    SingleOwner (D.engine o) h s := by
  have hI : Owned h s := Run.invariant (Owned.fresh d)
    (fun _ _ _ _ _ hI hs hp => hI.step hcommit hroll hs hp) hr hp
  refine ⟨hI.atMostOne, hI.inside, hI.leftOpen, fun i tx n e hi hf he => ?_⟩
  obtain ⟨t, ht, _⟩ := current_eq_some.mp (hI.inside i n ⟨tx, hi, hf⟩)
  exact commit_fails D hcommit hroll hf ht he

/-- After `transaction()` and a `commit()` that finds the database busy. -/
def commitRefused : Sys Nat :=
  begun.withDb { begun.conn.db with log := .control .commit false :: begun.conn.db.log }

/-- ... and `rollback()`. -/
def rolledBackThen : Sys Nat :=
  { commitRefused.withDb ⟨0, none, 1, .control .rollback true :: commitRefused.conn.db.log⟩ with
    handles := [⟨some ⟨.rollback, true⟩, 0⟩] }

/-- ... and a second `transaction`, under Ignore. -/
def begunIgnoring : Sys Nat :=
  { rolledBackThen.withDb ⟨0, some ⟨1, 0, true, [], Txn.opened_begin⟩, 2,
      .control (.begin .deferred) true :: rolledBackThen.conn.db.log⟩ with
    handles := rolledBackThen.handles ++ [⟨some ⟨.ignore, false⟩, 1⟩] }

/-- ... that is disposed of. -/
def letGo : Sys Nat :=
  { begunIgnoring with handles := begunIgnoring.handles.set 1 ⟨some ⟨.ignore, true⟩, 1⟩ }

/-- Two handles, where every COMMIT finds the database busy; the second one lets go of its
    transaction. -/
theorem single_owner_letGo : ∃ h, Run (step small busyOnCommit) (Sys.fresh 0) h letGo ∧
    SingleOwner (small.engine busyOnCommit) h letGo ∧ letGo.conn.db.current = some 1 := by
  have hfirst : step small busyOnCommit (Sys.fresh 0) (.transaction none) = some begun := by
    rw [step_transaction]
    rfl
  have hcommit : step small busyOnCommit begun (.call 0 .commit) = some commitRefused := by
    have hi : begun.handles[0]? = some ⟨some ⟨.rollback, false⟩, 0⟩ := rfl
    have hf : (Transaction.mk .rollback false).finished = false := rfl
    simp only [step, hi, HandleCall.run, commit_unfinished hf]
    rfl
  have hrollback : step small busyOnCommit commitRefused (.call 0 .rollback) =
      some rolledBackThen := by
    have hi : commitRefused.handles[0]? = some ⟨some ⟨.rollback, false⟩, 0⟩ := rfl
    have hf : (Transaction.mk .rollback false).finished = false := rfl
    simp only [step, hi, HandleCall.run, rollback_unfinished hf]
    rfl
  have hsecond : step small busyOnCommit rolledBackThen
      (.transaction (some ⟨none, some .ignore⟩)) = some begunIgnoring := by
    rw [step_transaction]
    rfl
  have hdispose : step small busyOnCommit begunIgnoring (.call 1 .dispose) = some letGo := rfl
  have hopen : CommitLeavesOpen (δ := Nat) busyOnCommit := by
    intro c f h
    cases h
  refine ⟨_, .next (.next (.next (.next (.next .start hfirst) hcommit) hrollback) hsecond) hdispose,
    single_owner small hopen busyOnCommit_rollback
      (.next (.next (.next (.next (.next .start hfirst) hcommit) hrollback) hsecond) hdispose) ?_,
    rfl⟩
  simp only [List.nil_append, List.cons_append, List.forall_mem_cons, List.not_mem_nil,
    false_implies, implies_true, and_true]
  refine ⟨?_, trivial, trivial, ?_, trivial⟩
  · intro h
    cases h
  · intro h
    cases h

end NodeRusqlite
