/-
  File:      NodeRusqlite/Sqlite/Transactions.lean
  Subject:   Transactions and savepoints as SQLite keeps them for one connection.

  A connection is in autocommit, or inside a transaction with a stack of named
  snapshots. `exec` runs one control statement. Where SQLite may refuse a
  statement or roll the transaction back on its own (busy, deferred foreign
  key, full disk) an `Oracle` decides, as it likes; where SQLite has no choice
  (COMMIT outside a transaction, RELEASE of an unknown name, ...) it is not
  asked. The content of the database is this connection's alone: no other one
  writes the file meanwhile, so that ROLLBACK leads back to the content at BEGIN.

  Two fields are there for the statements only, no code reads them: the number
  of a transaction (`serial`, counted by `begun`) and the `log`.

  * `effect_cases`: what a control statement can do.
  * `Move`: what any statement can do to a connection.
  * `Move.current_cases`: a transaction stays, or ends, or begins with a new number.
-/
import NodeRusqlite.Basis.AsciiCase
import NodeRusqlite.Sqlite.Value

namespace NodeRusqlite.Sqlite

open Basis (sameName)

/-! ## 1. Control statements -/

/-- The kinds of BEGIN. -/
inductive BeginKind where
  | deferred : BeginKind
  | immediate : BeginKind
  | exclusive : BeginKind
  deriving DecidableEq

/-- The statements that control transactions. -/
inductive Control where
  | begin (kind : BeginKind) : Control
  | commit : Control
  | rollback : Control
  | savepoint (name : String) : Control
  | rollbackTo (name : String) : Control
  | release (name : String) : Control
  deriving DecidableEq

/-- What the log says of a statement: a control statement and whether it succeeded, or data. -/
inductive LogEntry where
  | control (s : Control) (ok : Bool) : LogEntry
  | data : LogEntry
  deriving DecidableEq

variable {δ : Type}

/-! ## 2. The state of a connection -/

/-- An open transaction over contents `δ`. -/
structure Txn (δ : Type) where
  serial : Nat
  /-- The content when it began. -/
  base : δ
  /-- Opened by BEGIN, not by an outermost SAVEPOINT. -/
  byBegin : Bool
  /-- The savepoints with their snapshots, innermost first. -/
  savepoints : List (String × δ)
  opened : byBegin = true ∨ savepoints ≠ []

/-- What BEGIN opens needs no savepoint to be open. -/
theorem Txn.opened_begin : true = true ∨ ([] : List (String × δ)) ≠ [] := .inl rfl

/-- A connection: the content it sees, and the open transaction; `none`: autocommit. -/
structure Conn (δ : Type) where
  content : δ
  txn : Option (Txn δ)
  begun : Nat
  log : List LogEntry

namespace Conn

/-- A connection just opened. -/
def fresh (content : δ) : Conn δ := ⟨content, none, 0, []⟩

/-- The number of the open transaction. -/
def current (c : Conn δ) : Option Nat := c.txn.map Txn.serial

/-- Back to where the transaction began, and out of it. -/
def rolledBack (c : Conn δ) : Conn δ :=
  match c.txn with
  | none => c
  | some t => { c with content := t.base, txn := none }

/-- The same connection, but for the log. -/
def SameState (c c' : Conn δ) : Prop :=
  c'.content = c.content ∧ c'.txn = c.txn ∧ c'.begun = c.begun

end Conn

/-- The innermost savepoint of a name, with the ones around it. -/
def innermost (name : String) :
    List (String × δ) → Option ((String × δ) × List (String × δ))
  | [] => none
  | sp :: outer => if sameName sp.1 name then some (sp, outer) else innermost name outer

/-! ## 3. Running a control statement -/

/-- What SQLite makes of a statement it may refuse. -/
inductive Fate where
  | accepted : Fate
  | refused (f : Failure) : Fate
  /-- Refused, and the open transaction is rolled back. -/
  | rolledBack (f : Failure) : Fate

/-- Decides every such statement. -/
def Oracle (δ : Type) := Conn δ → Control → Fate

/-- `SQLITE_ERROR` with a message. -/
def sqlError (message : String) : Failure := ⟨1, message, Failure.isError_error⟩

/-- Go on to `next` if the statement is accepted. -/
def gate (o : Oracle δ) (s : Control) (c next : Conn δ) : Option Failure × Conn δ :=
  match o c s with
  | .accepted => (none, next)
  | .refused f => (some f, c)
  | .rolledBack f => (some f, c.rolledBack)

/-- The effect of a control statement, the log aside. What ROLLBACK restores is the content at
    BEGIN: between the two nobody else has written. -/
def effect (o : Oracle δ) (s : Control) (c : Conn δ) : Option Failure × Conn δ :=
  match s, c.txn with
  | .begin _, none =>
    gate o s c { c with
      txn := some ⟨c.begun, c.content, true, [], Txn.opened_begin⟩
      begun := c.begun + 1 }
  | .begin _, some _ => (some (sqlError "cannot start a transaction within a transaction"), c)
  | .commit, none => (some (sqlError "cannot commit - no transaction is active"), c)
  | .commit, some _ => gate o s c { c with txn := none }
  | .rollback, none => (some (sqlError "cannot rollback - no transaction is active"), c)
  | .rollback, some t => gate o s c { c with content := t.base, txn := none }
  | .savepoint name, none =>
    gate o s c { c with
      txn := some ⟨c.begun, c.content, false, [(name, c.content)], .inr (by simp)⟩
      begun := c.begun + 1 }
  | .savepoint name, some t =>
    gate o s c { c with
      txn := some { t with
        savepoints := (name, c.content) :: t.savepoints
        opened := .inr (by simp) } }
  | .rollbackTo name, none => (some (sqlError ("no such savepoint: " ++ name)), c)
  | .rollbackTo name, some t =>
    match innermost name t.savepoints with
    | none => (some (sqlError ("no such savepoint: " ++ name)), c)
    | some (sp, outer) =>
      gate o s c { c with
        content := sp.2
        txn := some { t with savepoints := sp :: outer, opened := .inr (by simp) } }
  | .release name, none => (some (sqlError ("no such savepoint: " ++ name)), c)
  | .release name, some t =>
    match innermost name t.savepoints with
    | none => (some (sqlError ("no such savepoint: " ++ name)), c)
    | some (_, outer) =>
      -- the outermost savepoint outside BEGIN commits, and that may be refused
      if h : t.byBegin = true ∨ outer ≠ [] then
        (none, { c with txn := some { t with savepoints := outer, opened := h } })
      else gate o s c { c with txn := none }

/-- Run a control statement. -/
def exec (o : Oracle δ) (s : Control) (c : Conn δ) : Option Failure × Conn δ :=
  let (res, c') := effect o s c
  (res, { c' with log := .control s res.isNone :: c'.log })

@[simp] theorem exec_fst (o : Oracle δ) (s : Control) (c : Conn δ) :
    (exec o s c).1 = (effect o s c).1 := rfl

@[simp] theorem exec_content (o : Oracle δ) (s : Control) (c : Conn δ) :
    (exec o s c).2.content = (effect o s c).2.content := rfl

@[simp] theorem exec_txn (o : Oracle δ) (s : Control) (c : Conn δ) :
    (exec o s c).2.txn = (effect o s c).2.txn := rfl

@[simp] theorem exec_begun (o : Oracle δ) (s : Control) (c : Conn δ) :
    (exec o s c).2.begun = (effect o s c).2.begun := rfl

theorem current_eq_none {c : Conn δ} : c.current = none ↔ c.txn = none := Option.map_eq_none_iff

theorem current_eq_some {c : Conn δ} {n : Nat} :
    c.current = some n ↔ ∃ t, c.txn = some t ∧ t.serial = n := Option.map_eq_some_iff

@[simp] theorem rolledBack_txn (c : Conn δ) : c.rolledBack.txn = none := by
  unfold Conn.rolledBack
  cases h : c.txn with
  | none => exact h
  | some t => rfl

@[simp] theorem rolledBack_begun (c : Conn δ) : c.rolledBack.begun = c.begun := by
  unfold Conn.rolledBack
  cases c.txn <;> rfl

@[simp] theorem rolledBack_log (c : Conn δ) : c.rolledBack.log = c.log := by
  unfold Conn.rolledBack
  cases c.txn <;> rfl

/-- How the number of the open transaction can change: it stays, or the transaction ends, or one
    begins and takes the next number. -/
def CurrentStep (c c' : Conn δ) : Prop :=
  (c'.current = c.current ∧ c'.begun = c.begun) ∨ (c'.current = none ∧ c'.begun = c.begun) ∨
    (c.current = none ∧ c'.current = some c.begun ∧ c'.begun = c.begun + 1)

theorem rolledBack_current (c : Conn δ) : CurrentStep c c.rolledBack :=
  .inr (.inl ⟨by simp [Conn.current], by simp⟩)

/-- **What a control statement can do**: it fails on its own, or it has one successor, and the
    oracle may have a say. -/
theorem effect_cases (o : Oracle δ) (s : Control) (c : Conn δ) :
    (∃ f, effect o s c = (some f, c)) ∨
      ∃ next, (effect o s c = (none, next) ∨ effect o s c = gate o s c next) ∧
        next.log = c.log ∧ CurrentStep c next := by
  unfold effect
  cases ht : c.txn with
  | none =>
    have hcur : c.current = none := by rw [Conn.current, ht]; rfl
    cases s with
    | begin kind => exact .inr ⟨_, .inr rfl, rfl, .inr (.inr ⟨hcur, rfl, rfl⟩)⟩
    | savepoint name => exact .inr ⟨_, .inr rfl, rfl, .inr (.inr ⟨hcur, rfl, rfl⟩)⟩
    | commit | rollback | rollbackTo name | release name => exact .inl ⟨_, rfl⟩
  | some t =>
    have hcur : c.current = some t.serial := by rw [Conn.current, ht]; rfl
    cases s with
    | begin kind => exact .inl ⟨_, rfl⟩
    | commit => exact .inr ⟨_, .inr rfl, rfl, .inr (.inl ⟨rfl, rfl⟩)⟩
    | rollback => exact .inr ⟨_, .inr rfl, rfl, .inr (.inl ⟨rfl, rfl⟩)⟩
    | savepoint name => exact .inr ⟨_, .inr rfl, rfl, .inl ⟨hcur.symm, rfl⟩⟩
    | rollbackTo name =>
      dsimp only
      split
      · exact .inl ⟨_, rfl⟩
      · exact .inr ⟨_, .inr rfl, rfl, .inl ⟨hcur.symm, rfl⟩⟩
    | release name =>
      dsimp only
      split
      · exact .inl ⟨_, rfl⟩
      · split
        · exact .inr ⟨_, .inl rfl, rfl, .inl ⟨hcur.symm, rfl⟩⟩
        · exact .inr ⟨_, .inr rfl, rfl, .inr (.inl ⟨rfl, rfl⟩)⟩

theorem effect_log (o : Oracle δ) (s : Control) (c : Conn δ) : (effect o s c).2.log = c.log := by
  rcases effect_cases o s c with ⟨f, h⟩ | ⟨next, h | h, hlog, _⟩
  · rw [h]
  · rw [h]
    exact hlog
  · rw [h, gate]
    cases o c s with
    | accepted => exact hlog
    | refused f => rfl
    | rolledBack f => exact rolledBack_log c

theorem effect_current (o : Oracle δ) (s : Control) (c : Conn δ) :
    CurrentStep c (effect o s c).2 := by
  rcases effect_cases o s c with ⟨f, h⟩ | ⟨next, h | h, _, hstep⟩
  · rw [h]
    exact .inl ⟨rfl, rfl⟩
  · rw [h]
    exact hstep
  · rw [h, gate]
    cases o c s with
    | accepted => exact hstep
    | refused f => exact .inl ⟨rfl, rfl⟩
    | rolledBack f => exact rolledBack_current c

/-- A control statement is logged, and nothing else is. -/
theorem exec_log (o : Oracle δ) (s : Control) (c : Conn δ) :
    (exec o s c).2.log = .control s (exec o s c).1.isNone :: c.log := by
  rw [exec_fst, ← effect_log o s c]
  rfl

/-- A BEGIN that is accepted opens a transaction with the next number; another one leaves the
    transaction state as it is. -/
theorem exec_begin (o : Oracle δ) (kind : BeginKind) (c : Conn δ) :
    ((exec o (.begin kind) c).1 = none ∧ c.txn = none ∧
      (exec o (.begin kind) c).2.current = some c.begun) ∨
      ∃ f, (exec o (.begin kind) c).1 = some f ∧ (exec o (.begin kind) c).2.txn = c.txn := by
  rw [Conn.current, exec_fst, exec_txn]
  unfold effect
  cases ht : c.txn with
  | some t => exact .inr ⟨_, rfl, ht⟩
  | none =>
    dsimp only
    unfold gate
    cases o c (.begin kind) with
    | accepted => exact .inl ⟨rfl, rfl, rfl⟩
    | refused f => exact .inr ⟨f, rfl, ht⟩
    | rolledBack f => exact .inr ⟨f, rfl, rolledBack_txn c⟩

/-! ## 4. What any statement can do -/

/-- What a data statement can do: change the content, or have the transaction rolled back. -/
inductive DataMove : Conn δ → Conn δ → Prop where
  | content (c : Conn δ) (d : δ) : DataMove c { c with content := d, log := .data :: c.log }
  | rolledBack (c : Conn δ) : DataMove c { c.rolledBack with log := .data :: c.rolledBack.log }

/-- What a statement can do. -/
inductive Move (o : Oracle δ) : Conn δ → Conn δ → Prop where
  | data {c c' : Conn δ} : DataMove c c' → Move o c c'
  | control (s : Control) (c : Conn δ) : Move o c (exec o s c).2

/-- **A transaction stays, or ends, or begins with a new number.** -/
theorem Move.current_cases {o : Oracle δ} {c c' : Conn δ} (h : Move o c c') : CurrentStep c c' := by
  cases h with
  | data h =>
    cases h with
    | content d => exact .inl ⟨rfl, rfl⟩
    | rolledBack => exact rolledBack_current c
  | control s => exact effect_current o s c

/-- A statement is logged on top of what was logged before. -/
theorem Move.log_suffix {o : Oracle δ} {c c' : Conn δ} (h : Move o c c') : c.log <:+ c'.log := by
  cases h with
  | data h =>
    cases h with
    | content d => exact List.suffix_cons _ _
    | rolledBack =>
      show c.log <:+ LogEntry.data :: c.rolledBack.log
      rw [rolledBack_log]
      exact List.suffix_cons _ _
  | control s =>
    rw [exec_log]
    exact List.suffix_cons _ _

/-- **However statements follow each other, nothing is taken from the log.** -/
theorem log_suffix_of_moves {o : Oracle δ} {c c' : Conn δ}
    (h : Relation.ReflTransGen (Move o) c c') : c.log <:+ c'.log := by
  induction h with
  | refl => exact List.suffix_rfl
  | tail _ h ih => exact ih.trans h.log_suffix

/-- The open transaction is the last one begun. -/
def Conn.Latest (c : Conn δ) : Prop := ∀ n, c.current = some n → n + 1 = c.begun

theorem fresh_latest (d : δ) : (Conn.fresh d).Latest := fun _ h => nomatch h

theorem Conn.Latest.step {c c' : Conn δ} (hc : c.Latest) (h : CurrentStep c c') : c'.Latest := by
  intro n hn
  rcases h with ⟨hcur, hb⟩ | ⟨hcur, _⟩ | ⟨_, hcur, hb⟩
  · rw [hb]
    exact hc n (hcur ▸ hn)
  · rw [hcur] at hn
    cases hn
  · rw [hcur] at hn
    cases hn
    exact hb.symm

/-- **However statements follow each other, the open transaction is the last one begun.** -/
theorem Conn.Latest.moves {o : Oracle δ} {c c' : Conn δ} (hc : c.Latest)
    (h : Relation.ReflTransGen (Move o) c c') : c'.Latest := by
  induction h with
  | refl => exact hc
  | tail _ h ih => exact ih.step h.current_cases

/-! ## 5. COMMIT and ROLLBACK, one after the other -/

/-- COMMIT or ROLLBACK. -/
def Control.Completes (s : Control) : Prop := s = .commit ∨ s = .rollback

/-- Run statements one after the other, up to the first that is accepted. -/
def untilAccepted (o : Oracle δ) : List Control → Conn δ → Conn δ
  | [], c => c
  | s :: rest, c =>
    match exec o s c with
    | (none, c) => c
    | (some _, c) => untilAccepted o rest c

/-- Every one of the statements is refused. -/
def RefusesAll (o : Oracle δ) : List Control → Conn δ → Prop
  | [], _ => True
  | s :: rest, c => (∃ f, o c s = .refused f) ∧ RefusesAll o rest (exec o s c).2

section Completing

variable {o : Oracle δ} {s : Control} {c : Conn δ}

theorem untilAccepted_cons (s : Control) (rest : List Control) (c : Conn δ) :
    untilAccepted o (s :: rest) c =
      if (exec o s c).1.isNone then (exec o s c).2 else untilAccepted o rest (exec o s c).2 := by
  rw [untilAccepted]
  rcases exec o s c with ⟨_ | f, c'⟩ <;> rfl

theorem untilAccepted_one (s : Control) (c : Conn δ) :
    untilAccepted o [s] c = (exec o s c).2 := by
  rw [untilAccepted_cons]
  exact ite_self _

/-- Outside a transaction they fail and change nothing. -/
theorem effect_outside (hs : s.Completes) (h : c.txn = none) : ∃ f, effect o s c = (some f, c) := by
  rcases hs with rfl | rfl <;> simp only [effect, h] <;> exact ⟨_, rfl⟩

/-- Inside one, the oracle decides. -/
theorem effect_inside (hs : s.Completes) {t : Txn δ} (h : c.txn = some t) :
    effect o s c = gate o s c
      { c with content := if s = .commit then c.content else t.base, txn := none } := by
  rcases hs with rfl | rfl <;> simp only [effect, h, if_true, reduceCtorEq, if_false]

/-- Outside a transaction they change neither the content nor the transaction state. -/
theorem untilAccepted_outside {ss : List Control} (hss : ∀ s ∈ ss, s.Completes)
    (h : c.txn = none) :
    (untilAccepted o ss c).txn = none ∧ (untilAccepted o ss c).content = c.content := by
  induction ss generalizing c with
  | nil => exact ⟨h, rfl⟩
  | cons s rest ih =>
    obtain ⟨f, hf⟩ := effect_outside (o := o) (hss s List.mem_cons_self) h
    have htxn : (exec o s c).2.txn = none := by rw [exec_txn, hf, h]
    have hcontent : (exec o s c).2.content = c.content := by rw [exec_content, hf]
    have hfst : (exec o s c).1 = some f := by rw [exec_fst, hf]
    rw [untilAccepted_cons, hfst, ← hcontent]
    exact ih (fun s hs => hss s (List.mem_cons_of_mem _ hs)) htxn

/-- **They end the transaction unless each one is refused.** -/
theorem untilAccepted_ends_iff {ss : List Control} (hss : ∀ s ∈ ss, s.Completes) {t : Txn δ}
    (h : c.txn = some t) : (untilAccepted o ss c).txn = none ↔ ¬ RefusesAll o ss c := by
  induction ss generalizing c with
  | nil =>
    refine iff_of_false ?_ (not_not_intro trivial)
    rw [untilAccepted, h]
    nofun
  | cons s rest ih =>
    have hrest : ∀ s ∈ rest, s.Completes := fun s hs => hss s (List.mem_cons_of_mem _ hs)
    have heff := effect_inside (o := o) (hss s List.mem_cons_self) h
    rw [untilAccepted_cons, RefusesAll, exec_fst, heff]
    unfold gate
    cases ho : o c s with
    | accepted =>
      refine iff_of_true ?_ (by simp)
      rw [Option.isNone_none, if_pos rfl, exec_txn, heff, gate, ho]
    | refused f =>
      have htxn : (exec o s c).2.txn = some t := by rw [exec_txn, heff, gate, ho, h]
      have hsome : ∃ f', Fate.refused f = Fate.refused f' := ⟨f, rfl⟩
      rw [Option.isNone_some, if_neg Bool.false_ne_true, ih hrest htxn]
      exact not_congr (and_iff_right hsome).symm
    | rolledBack f =>
      have htxn : (exec o s c).2.txn = none := by rw [exec_txn, heff, gate, ho, rolledBack_txn]
      refine iff_of_true ?_ (by simp)
      rw [Option.isNone_some, if_neg Bool.false_ne_true]
      exact (untilAccepted_outside hrest htxn).1

end Completing

end NodeRusqlite.Sqlite
