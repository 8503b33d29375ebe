/-
  File:      NodeRusqlite/Rusqlite/Connection.lean
  Subject:   `rusqlite::Connection`: preparing a text, executing one statement, executing
             a batch.

  * `prepare_ok`: a prepared statement is the fresh statement of what its text
    compiles to in the state of the connection.
  * `execute_eq`: executing a text is executing its fresh statement; dropping
    the statement afterwards leaves the connection as it is.
-/
import NodeRusqlite.Rusqlite.Statement

namespace NodeRusqlite.Rusqlite

open Sqlite
open Sqlite.StmtPtr (Rests)

variable {κ : Type}

/-! ## 1. Preparing -/

/-- `ErrorCode::Unknown`: the primary code is none of those that have a name there. -/
def isUnknown (f : Failure) : Bool :=
  !([2, 3, 4, 5, 6, 7, 8, 9, 10, 11, 12, 13, 14, 15, 17, 18, 19, 20, 21, 22, 23, 25, 26].contains
    (f.code % 256))

/-- `error_with_offset`. -/
def errorWithOffset (sql : String) (f : Failure) (offset : Option Nat) : Error :=
  match offset with
  | some offset => if isUnknown f then .sqlInputError f sql offset else .sqliteFailure f
  | none => .sqliteFailure f

/-- `err!(ffi::SQLITE_TOOBIG)`. -/
def sqlTooBig : Error :=
  .sqliteFailure ⟨18, "Error code 18: string or blob too big", Failure.tooBig.isError⟩

/-- `InnerConnection::prepare`: the first statement of the text, and the text after it. While the
    schema is locked by another connection of a shared cache it waits and tries again; `refuse` and
    `compile` are what comes out. -/
def prepareFirst (E : Engine κ) (sql : String) (c : κ) :
    Except Error (StmtPtr κ × Option String) :=
  if 2 ^ 31 ≤ sql.utf8ByteSize then .error sqlTooBig
  else
    match E.refuse sql c with
    | some (f, offset) => .error (errorWithOffset sql f offset)
    | none => .ok (StmtPtr.fresh (E.compile sql c), E.tail sql)

theorem prepareFirst_ok {E : Engine κ} {sql : String} {c : κ} {s : StmtPtr κ} {tail : Option String}
    (h : prepareFirst E sql c = .ok (s, tail)) :
    s = StmtPtr.fresh (E.compile sql c) ∧ tail = E.tail sql := by
  unfold prepareFirst at h
  split at h
  · cases h
  · split at h
    · cases h
    · cases h
      exact ⟨rfl, rfl⟩

theorem prepareFirst_tail_lt {E : Engine κ} {sql rest : String} {c : κ} {s : StmtPtr κ}
    (h : prepareFirst E sql c = .ok (s, some rest)) : rest.utf8ByteSize < sql.utf8ByteSize :=
  E.tail_lt sql rest (prepareFirst_ok h).2.symm

/-- `Connection::prepare`: the text after the first statement has to hold no other one. -/
def prepare (E : Engine κ) (sql : String) (c : κ) : Except Error (StmtPtr κ) :=
  match _h : prepareFirst E sql c with
  | .error e => .error e
  | .ok (s, none) => .ok s
  | .ok (s, some rest) =>
    match prepare E rest c with
    | .error e => .error e
    | .ok none => .ok s
    | .ok (some _) => .error .multipleStatement
termination_by sql.utf8ByteSize
decreasing_by exact prepareFirst_tail_lt ‹_›

theorem prepare_eq (E : Engine κ) (sql : String) (c : κ) : prepare E sql c =
    match prepareFirst E sql c with
    | .error e => .error e
    | .ok (s, none) => .ok s
    | .ok (s, some rest) =>
      match prepare E rest c with
      | .error e => .error e
      | .ok none => .ok s
      | .ok (some _) => .error .multipleStatement := by
  rw [prepare]
  split <;> rename_i h <;> rw [h]

/-- **A prepared statement is the fresh statement of its text.** -/
theorem prepare_ok {E : Engine κ} {sql : String} {c : κ} {s : StmtPtr κ}
    (h : prepare E sql c = .ok s) : s = StmtPtr.fresh (E.compile sql c) := by
  rw [prepare_eq] at h
  split at h
  · cases h
  · rename_i heq
    cases h
    exact (prepareFirst_ok heq).1
  · rename_i heq
    split at h
    · cases h
    · cases h
      exact (prepareFirst_ok heq).1
    · cases h

/-- What SQLite refuses is not prepared. -/
theorem refuse_of_prepare {E : Engine κ} {sql : String} {c : κ} {s : StmtPtr κ}
    (h : prepare E sql c = .ok s) : E.refuse sql c = none := by
  rw [prepare_eq, prepareFirst] at h
  split at h
  · cases h
  · rename_i hfirst
    split at hfirst
    · cases hfirst
    · split at hfirst
      · cases hfirst
      · assumption
  · rename_i hfirst
    split at hfirst
    · cases hfirst
    · split at hfirst
      · cases hfirst
      · assumption

/-- A text does not prepare, or holds no SQL, or prepares to a fresh statement. -/
theorem prepare_cases (E : Engine κ) (sql : String) (c : κ) :
    (∃ e, prepare E sql c = .error e) ∨ (prepare E sql c = .ok none ∧ E.compile sql c = none) ∨
      ∃ p, prepare E sql c = .ok (StmtPtr.fresh (some p)) ∧ E.compile sql c = some p := by
  cases h : prepare E sql c with
  | error e => exact .inl ⟨e, rfl⟩
  | ok s =>
    rw [prepare_ok h]
    cases hc : E.compile sql c with
    | none => exact .inr (.inl ⟨rfl, rfl⟩)
    | some p => exact .inr (.inr ⟨p, rfl, rfl⟩)

/-! ## 2. Executing one statement -/

/-- `Connection::execute`; the statement is dropped at its end. -/
def Connection.execute (E : Engine κ) (sql : String) (params : List NodeRusqlite.Value) (c : κ) :
    Except Error UInt64 × κ :=
  match prepare E sql c with
  | .error e => (.error e, c)
  | .ok s =>
    let (res, s, c) := Rusqlite.execute E params s c
    (res, s.finalize c)

/-- **Executing a text is executing its fresh statement**: a statement at rest is dropped without
    a trace. -/
theorem Connection.execute_eq (E : Engine κ) (sql : String) (params : List NodeRusqlite.Value)
    (c : κ) : Connection.execute E sql params c =
      match prepare E sql c with
      | .error e => (.error e, c)
      | .ok s => ((Rusqlite.execute E params s c).1, (Rusqlite.execute E params s c).2.2) := by
  unfold Connection.execute
  cases h : prepare E sql c with
  | error e => rfl
  | ok s =>
    have hs := StmtPtr.rests_fresh (E.compile sql c)
    rw [← prepare_ok h] at hs
    have hr := execute_rests (E := E) hs params c
    simp only [StmtPtr.finalize, hr.reset]

/-! ## 3. Executing a batch -/

/-- One statement of a batch: stepped once unless it is NULL, and dropped. A row is no error
    here, a PRAGMA may return one. -/
def stepOnce (s : StmtPtr κ) (c : κ) : Except Error Unit × κ :=
  match s with
  | none => (.ok (), c)
  | some _ =>
    let (res, s, c) := s.step c
    let c := s.finalize c
    match res with
    | .error f => (.error (.sqliteFailure f), c)
    | .row _ | .done => (.ok (), c)

/-- `Connection::execute_batch`: every statement of the text, up to the first that fails. -/
def Connection.executeBatch (E : Engine κ) (sql : String) (c : κ) : Except Error Unit × κ :=
  if sql.isEmpty then (.ok (), c)
  else
    match _h : prepareFirst E sql c with
    | .error e => (.error e, c)
    | .ok (s, none) => stepOnce s c
    | .ok (s, some rest) =>
      match stepOnce s c with
      | (.error e, c) => (.error e, c)
      | (.ok (), c) => executeBatch E rest c
termination_by sql.utf8ByteSize
decreasing_by exact prepareFirst_tail_lt ‹_›

theorem Connection.executeBatch_eq (E : Engine κ) (sql : String) (c : κ) :
    Connection.executeBatch E sql c =
      if sql.isEmpty then (.ok (), c)
      else
        match prepareFirst E sql c with
        | .error e => (.error e, c)
        | .ok (s, none) => stepOnce s c
        | .ok (s, some rest) =>
          match stepOnce s c with
          | (.error e, c) => (.error e, c)
          | (.ok (), c) => Connection.executeBatch E rest c := by
  rw [Connection.executeBatch]
  split
  · rfl
  · split <;> rename_i h <;> rw [h]

/-! ## 4. Where a text can leave the connection -/

section Moves

variable {E : Engine κ} {R : κ → κ → Prop}

/-- A step of a statement that is reset, and the reset after it, stay on the trace. -/
theorem step_reset_states {s : Stmt κ} (hs : s.vm = .ready) (c : κ) :
    ((s.step c).2.1.reset (s.step c).2.2).2.2 ∈ (s.prog.run s.bindings c).states := by
  simp only [Stmt.step, Stmt.pending_of_ready hs]
  cases s.prog.run s.bindings c with
  | row x after halt rest => exact List.mem_cons_of_mem _ List.mem_cons_self
  | done after => exact List.mem_cons_self
  | error f after => exact List.mem_cons_self

variable (hR : ∀ sql c p, E.compile sql c = some p → ∀ b, ∀ c' ∈ (p.run b c).states, R c c')
include hR

theorem stepOnce_moves (sql : String) (c : κ) :
    Relation.ReflTransGen R c (stepOnce (StmtPtr.fresh (E.compile sql c)) c).2 := by
  cases hc : E.compile sql c with
  | none => exact .refl
  | some p =>
    have h := hR sql c p hc _ _ (step_reset_states (Stmt.fresh_vm p) c)
    simp only [StmtPtr.fresh, Option.map_some, stepOnce, StmtPtr.step, StmtPtr.finalize,
      StmtPtr.reset]
    cases ((Stmt.fresh p).step c).1 <;> exact .single h

/-- **A batch moves the connection along the runs of its statements only.** -/
theorem Connection.executeBatch_moves (sql : String) (c : κ) :
    Relation.ReflTransGen R c (Connection.executeBatch E sql c).2 := by
  fun_induction Connection.executeBatch E sql c with
  | case1 sql c h => exact .refl
  | case2 sql c h e hp => exact .refl
  | case3 sql c h s hp =>
    rw [(prepareFirst_ok hp).1]
    exact stepOnce_moves hR sql c
  | case4 sql c h s rest hp e c' hstep =>
    have hm := stepOnce_moves hR sql c
    rw [← (prepareFirst_ok hp).1, hstep] at hm
    exact hm
  | case5 sql c h s rest hp c' hstep ih =>
    have hm := stepOnce_moves hR sql c
    rw [← (prepareFirst_ok hp).1, hstep] at hm
    exact hm.trans ih

/-- **Executing one statement moves the connection along its run only.** -/
theorem Connection.execute_moves (sql : String) (params : List NodeRusqlite.Value) (c : κ) :
    Relation.ReflTransGen R c (Connection.execute E sql params c).2 := by
  rw [Connection.execute_eq]
  cases hp : prepare E sql c with
  | error e => exact .refl
  | ok s =>
    have hs := StmtPtr.rests_fresh (E.compile sql c)
    rw [← prepare_ok hp] at hs
    rcases execute_reaches (E := E) (c := c) hs params with h | ⟨q, hq, b, h⟩
    · dsimp only
      rw [h]
    · exact .single (hR sql c q hq b _ h)

end Moves

end NodeRusqlite.Rusqlite
