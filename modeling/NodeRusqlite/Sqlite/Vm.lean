/-
  File:      NodeRusqlite/Sqlite/Vm.lean
  Subject:   Prepared statements as SQLite runs them: bind, step, reset.

  What a compiled statement does is a parameter, `Program.run`: stepping a
  reset statement with its current bindings on a connection in state `c`
  gives a `Trace`, any finite number of rows ended by "done" or by an error.
  `κ` is the connection's state; a trace says what it is after every step.
  A statement keeps the program it was compiled to. Where SQLite finds the
  schema of a database that the program uses changed, `sqlite3_step` compiles the
  text again before the first row: that is part of `run`, which sees the state
  `c` it begins in. A step is the wrapped crate's: it waits where the database is
  locked by another connection of a shared cache, resets and tries again, and a
  trace is what comes out of that loop.

  Here stands what SQLite documents around that parameter:
  * bindings survive a reset; binding a statement that is not reset is MISUSE;
  * a step of a reset (or ended) statement runs it from the start;
  * the NULL statement (a text without SQL) has no parameters and no columns,
    cannot be bound or stepped, and counts as read-only.
-/
import NodeRusqlite.Basis.Foreign
import NodeRusqlite.Sqlite.Value

namespace NodeRusqlite.Sqlite

open Basis (CStr)

/-- A column of a result: its name, taken to be UTF-8, and the bytes that `sqlite3_column_decltype`
    gives, if it is a table column with a declared type. -/
structure Column where
  name : String
  declType : Option CStr
  deriving DecidableEq

/-- The declared type is there, and it is not UTF-8. -/
def Column.BadType (column : Column) : Prop :=
  match column.declType with
  | some s => ¬ s.bytes.IsValidUTF8
  | none => False

instance : DecidablePred Column.BadType := fun column =>
  match column with
  | ⟨_, some s⟩ => inferInstanceAs (Decidable (¬ s.bytes.IsValidUTF8))
  | ⟨_, none⟩ => inferInstanceAs (Decidable False)

/-- One column of a result row, with its value. -/
structure Cell where
  column : Column
  value : ValueRef
  deriving DecidableEq

/-- A result row. -/
abbrev Row := List Cell

/-- What stepping a statement to its end does to a connection in state `κ`. Beside a row stands
    what a reset at that row does: the code it returns and the state it leaves. -/
inductive Trace (κ : Type) where
  | row (r : Row) (after : κ) (halt : Option Failure × κ) (rest : Trace κ) : Trace κ
  | done (after : κ) : Trace κ
  | error (f : Failure) (after : κ) : Trace κ

namespace Trace

variable {κ : Type}

/-- The rows the trace delivers, in order. -/
def rows : Trace κ → List Row
  | .row r _ _ rest => r :: rest.rows
  | .done _ => []
  | .error _ _ => []

/-- The error the trace ends in; `none`: it ends in "done". -/
def failure : Trace κ → Option Failure
  | .row _ _ _ rest => rest.failure
  | .done _ => none
  | .error f _ => some f

/-- The state the connection is left in. -/
def final : Trace κ → κ
  | .row _ _ _ rest => rest.final
  | .done after => after
  | .error _ after => after

/-- The states a connection can be left in by stepping along the trace, or by a reset on the way. -/
def states : Trace κ → List κ
  | .row _ after halt rest => after :: halt.2 :: rest.states
  | .done after => [after]
  | .error _ after => [after]

/-- A trace with a first row. -/
theorem eq_row_of_rows {t : Trace κ} {x : Row} {xs : List Row} (h : t.rows = x :: xs) :
    ∃ after halt rest, t = .row x after halt rest ∧ rest.rows = xs := by
  cases t with
  | row r after halt rest =>
    cases h
    exact ⟨after, halt, rest, rfl, rfl⟩
  | done after => cases h
  | error f after => cases h

/-- The number of steps to the end. -/
def steps : Trace κ → Nat
  | .row _ _ _ rest => rest.steps + 1
  | .done _ => 1
  | .error _ _ => 1

end Trace

/-- A compiled statement. -/
structure Program (κ : Type) where
  paramCount : Nat
  returnsColumns : Bool
  readonly : Bool
  run : List ValueRef → κ → Trace κ

/-- Two programs that cannot be told apart on a connection in state `c`. Whether they are read-only
    is asked of a query only: CREATE TRIGGER IF NOT EXISTS writes nothing once there is one. -/
structure Program.Alike {κ : Type} (c : κ) (p q : Program κ) : Prop where
  paramCount : p.paramCount = q.paramCount
  query : (p.returnsColumns && p.readonly) = (q.returnsColumns && q.readonly)
  run : ∀ bindings, p.run bindings c = q.run bindings c

theorem Program.Alike.refl {κ : Type} (c : κ) (p : Option (Program κ)) :
    Option.Rel (Program.Alike c) p p := by
  cases p with
  | none => exact .none
  | some p => exact .some ⟨rfl, rfl, fun _ => rfl⟩

/-- Where the virtual machine of a statement stands. -/
inductive Vm (κ : Type) where
  | ready : Vm κ
  | running (halt : Option Failure × κ) (rest : Trace κ) : Vm κ
  | ended (rc : Option Failure) : Vm κ

/-- `sqlite3_stmt`: a compiled statement, its bindings and its virtual machine. -/
@[ext] structure Stmt (κ : Type) where
  prog : Program κ
  bindings : List ValueRef
  vm : Vm κ
  bound : bindings.length = prog.paramCount

/-- What one step reports. -/
inductive StepResult where
  | row (r : Row) : StepResult
  | done : StepResult
  | error (f : Failure) : StepResult
  deriving DecidableEq

namespace Stmt

variable {κ : Type}

/-- A statement as `sqlite3_prepare_v3` leaves it: reset, every parameter NULL. -/
def fresh (p : Program κ) : Stmt κ := ⟨p, List.replicate p.paramCount .null, .ready, by simp⟩

/-- The trace the next step begins: what is left of a running statement, else a new run. -/
def pending (s : Stmt κ) (c : κ) : Trace κ :=
  match s.vm with
  | .running _ rest => rest
  | .ready | .ended _ => s.prog.run s.bindings c

/-- `sqlite3_step`. -/
def step (s : Stmt κ) (c : κ) : StepResult × Stmt κ × κ :=
  match s.pending c with
  | .row r after halt rest => (.row r, { s with vm := .running halt rest }, after)
  | .done after => (.done, { s with vm := .ended none }, after)
  | .error f after => (.error f, { s with vm := .ended (some f) }, after)

/-- `sqlite3_reset`: the code of the last step, or of the halt of a statement still running. -/
def reset (s : Stmt κ) (c : κ) : Option Failure × Stmt κ × κ :=
  match s.vm with
  | .ready => (none, s, c)
  | .running halt _ => (halt.1, { s with vm := .ready }, halt.2)
  | .ended rc => (rc, { s with vm := .ready }, c)

/-- `sqlite3_stmt_busy`. -/
def busy (s : Stmt κ) : Bool :=
  match s.vm with
  | .running _ _ => true
  | .ready | .ended _ => false

/-- Set a parameter, counted from 0. -/
def set (s : Stmt κ) (i : Nat) (v : ValueRef) : Stmt κ :=
  { s with bindings := s.bindings.set i v, bound := by rw [List.length_set, s.bound] }

/-- The size SQLite holds against `SQLITE_LIMIT_LENGTH`. -/
def size : ValueRef → Nat
  | .text s => s.size
  | .blob b => b.size
  | .null | .integer _ | .real _ => 0

/-- The value a parameter holds once `v` is bound to it: NaN is stored as NULL. -/
def stored (v : ValueRef) : ValueRef :=
  match v with
  | .real r => if r.isNaN then .null else .real r
  | .null | .integer _ | .text _ | .blob _ => v

/-- `sqlite3_bind_*`: parameters count from 1. A value that is too big leaves NULL behind. -/
def bind (limit : Nat) (s : Stmt κ) (i : Nat) (v : ValueRef) : Option Failure × Stmt κ :=
  match s.vm with
  | .running _ _ | .ended _ => (some .misuse, s)
  | .ready =>
    if i = 0 ∨ s.prog.paramCount < i then (some .range, s)
    else if limit < size v then (some .tooBig, s.set (i - 1) .null)
    else (none, s.set (i - 1) (stored v))

/-- `sqlite3_clear_bindings`. -/
def clearBindings (s : Stmt κ) : Stmt κ :=
  { s with bindings := List.replicate s.prog.paramCount .null, bound := by simp }

@[simp] theorem fresh_vm (p : Program κ) : (fresh p).vm = .ready := rfl

@[simp] theorem set_prog (s : Stmt κ) (i : Nat) (v : ValueRef) : (s.set i v).prog = s.prog := rfl

@[simp] theorem set_vm (s : Stmt κ) (i : Nat) (v : ValueRef) : (s.set i v).vm = s.vm := rfl

@[simp] theorem set_bindings (s : Stmt κ) (i : Nat) (v : ValueRef) :
    (s.set i v).bindings = s.bindings.set i v := rfl

theorem step_prog (s : Stmt κ) (c : κ) : (s.step c).2.1.prog = s.prog := by
  unfold step
  cases s.pending c <;> rfl

@[simp] theorem reset_prog (s : Stmt κ) (c : κ) : (s.reset c).2.1.prog = s.prog := by
  unfold reset
  cases s.vm <;> rfl

/-- **After a reset the statement is reset**, whatever code the reset returned. -/
@[simp] theorem reset_vm (s : Stmt κ) (c : κ) : (s.reset c).2.1.vm = .ready := by
  unfold reset
  cases h : s.vm with
  | ready => exact h
  | running halt rest => rfl
  | ended rc => rfl

theorem busy_of_ready {s : Stmt κ} (h : s.vm = .ready) : s.busy = false := by
  unfold busy
  rw [h]

theorem pending_of_ready {s : Stmt κ} (h : s.vm = .ready) (c : κ) :
    s.pending c = s.prog.run s.bindings c := by
  unfold pending
  rw [h]

theorem bind_of_ready {s : Stmt κ} (h : s.vm = .ready) (limit i : Nat) (v : ValueRef) :
    s.bind limit i v =
      if i = 0 ∨ s.prog.paramCount < i then (some .range, s)
      else if limit < size v then (some .tooBig, s.set (i - 1) .null)
      else (none, s.set (i - 1) (stored v)) := by
  unfold bind
  rw [h]

/-- A binding changes at most the one parameter. -/
theorem bind_stmt (limit : Nat) (s : Stmt κ) (i : Nat) (v : ValueRef) :
    (s.bind limit i v).2 = s ∨ ∃ w, (s.bind limit i v).2 = s.set (i - 1) w := by
  cases h : s.vm with
  | running halt rest => simp only [bind, h, true_or]
  | ended rc => simp only [bind, h, true_or]
  | ready =>
    rw [bind_of_ready h]
    split
    · exact .inl rfl
    · split
      · exact .inr ⟨_, rfl⟩
      · exact .inr ⟨_, rfl⟩

theorem bind_prog (limit : Nat) (s : Stmt κ) (i : Nat) (v : ValueRef) :
    (s.bind limit i v).2.prog = s.prog := by
  rcases s.bind_stmt limit i v with h | ⟨w, h⟩ <;> rw [h]
  exact s.set_prog _ w

theorem bind_vm (limit : Nat) (s : Stmt κ) (i : Nat) (v : ValueRef) :
    (s.bind limit i v).2.vm = s.vm := by
  rcases s.bind_stmt limit i v with h | ⟨w, h⟩ <;> rw [h]
  exact s.set_vm _ w

/-- A reset of a statement that is reset does nothing. -/
theorem reset_of_ready {s : Stmt κ} (h : s.vm = .ready) (c : κ) : s.reset c = (none, s, c) := by
  unfold reset
  rw [h]

end Stmt

/-- The statement behind a `RawStatement`: `none` is the NULL pointer. -/
abbrev StmtPtr (κ : Type) := Option (Stmt κ)

namespace StmtPtr

variable {κ : Type}

/-- A prepared text: `none` when it holds no SQL. -/
def fresh (p : Option (Program κ)) : StmtPtr κ := p.map Stmt.fresh

/-- `RawStatement::step`: what its loop around `sqlite3_step` ends with. -/
def step (s : StmtPtr κ) (c : κ) : StepResult × StmtPtr κ × κ :=
  match s with
  | none => (.error .misuse, none, c)
  | some s => ((s.step c).1, some (s.step c).2.1, (s.step c).2.2)

def reset (s : StmtPtr κ) (c : κ) : Option Failure × StmtPtr κ × κ :=
  match s with
  | none => (none, none, c)
  | some s => ((s.reset c).1, some (s.reset c).2.1, (s.reset c).2.2)

/-- `sqlite3_finalize`: what it leaves of the connection. -/
def finalize (s : StmtPtr κ) (c : κ) : κ := (s.reset c).2.2

def bindParameterCount (s : StmtPtr κ) : Nat :=
  match s with
  | none => 0
  | some s => s.prog.paramCount

/-- `sqlite3_column_count` is not 0. -/
def returnsColumns (s : StmtPtr κ) : Bool :=
  match s with
  | none => false
  | some s => s.prog.returnsColumns

def readonly (s : StmtPtr κ) : Bool :=
  match s with
  | none => true
  | some s => s.prog.readonly

def busy (s : StmtPtr κ) : Bool :=
  match s with
  | none => false
  | some s => s.busy

def bind (limit : Nat) (s : StmtPtr κ) (i : Nat) (v : ValueRef) : Option Failure × StmtPtr κ :=
  match s with
  | none => (some .misuse, none)
  | some s => ((s.bind limit i v).1, some (s.bind limit i v).2)

def clearBindings (s : StmtPtr κ) : StmtPtr κ := s.map Stmt.clearBindings

/-- The trace the next step begins; the NULL statement answers MISUSE. -/
def pending (s : StmtPtr κ) (c : κ) : Trace κ :=
  match s with
  | none => .error .misuse c
  | some s => s.pending c

/-- The program behind the pointer. -/
def program (s : StmtPtr κ) : Option (Program κ) := s.map Stmt.prog

theorem program_step (s : StmtPtr κ) (c : κ) : (s.step c).2.1.program = s.program := by
  cases s with
  | none => rfl
  | some s => exact congrArg some (s.step_prog c)

/-! ## Steps along a trace -/

section Steps

variable {s : StmtPtr κ} {c after : κ}

theorem step_of_row {x : Row} {halt : Option Failure × κ} {rest : Trace κ}
    (h : s.pending c = .row x after halt rest) :
    ∃ s' s'', s.step c = (.row x, s', after) ∧
      ∀ c', s'.pending c' = rest ∧ s'.reset c' = (halt.1, s'', halt.2) := by
  cases s with
  | none => cases h
  | some s =>
    have h : s.pending c = .row x after halt rest := h
    refine ⟨some { s with vm := .running halt rest }, some { s with vm := .ready }, ?_,
      fun _ => ⟨rfl, rfl⟩⟩
    simp only [step, Stmt.step, h]

theorem step_of_done (h : s.pending c = .done after) :
    ∃ s' s'', s.step c = (.done, s', after) ∧ s'.reset after = (none, s'', after) := by
  cases s with
  | none => cases h
  | some s =>
    have h : s.pending c = .done after := h
    refine ⟨some { s with vm := .ended none }, some { s with vm := .ready }, ?_, rfl⟩
    simp only [step, Stmt.step, h]

theorem step_of_error {f : Failure} (h : s.pending c = .error f after) :
    ∃ s' rc s'', s.step c = (.error f, s', after) ∧ s'.reset after = (rc, s'', after) := by
  cases s with
  | none =>
    cases h
    exact ⟨none, none, none, rfl, rfl⟩
  | some s =>
    have h : s.pending c = .error f after := h
    refine ⟨some { s with vm := .ended (some f) }, some f, some { s with vm := .ready }, ?_, rfl⟩
    simp only [step, Stmt.step, h]

end Steps

/-! ## Statements at rest -/

/-- `s` is the statement of `p`, reset, with some bindings. -/
inductive Rests : Option (Program κ) → StmtPtr κ → Prop where
  | null : Rests none none
  | stmt {s : Stmt κ} : s.vm = .ready → Rests (some s.prog) (some s)

theorem rests_fresh (p : Option (Program κ)) : Rests p (fresh p) := by
  cases p with
  | none => exact .null
  | some p => exact .stmt (Stmt.fresh_vm p)

/-- Whatever the statement did before, a reset brings it to rest. -/
theorem rests_reset (s : StmtPtr κ) (c : κ) : Rests s.program (s.reset c).2.1 := by
  cases s with
  | none => exact .null
  | some s =>
    have h : Rests (some (s.reset c).2.1.prog) (some (s.reset c).2.1) := .stmt (s.reset_vm c)
    rw [s.reset_prog c] at h
    exact h

theorem rests_step_reset {s s' s'' : StmtPtr κ} {c c' c₁ c₂ : κ} {res : StepResult}
    {rc : Option Failure} (hs : s.step c = (res, s', c')) (hr : s'.reset c₁ = (rc, s'', c₂)) :
    Rests s.program s'' := by
  have hp := s.program_step c
  have h := rests_reset s' c₁
  rw [hs] at hp
  rw [hr, hp] at h
  exact h

namespace Rests

variable {p : Option (Program κ)} {s : StmtPtr κ}

theorem program (h : Rests p s) : s.program = p := by
  cases h with
  | null => rfl
  | stmt _ => rfl

theorem ready {s : Stmt κ} (h : Rests p (some s)) : s.vm = .ready := by
  cases h with
  | stmt h => exact h

/-- **A statement at rest does not make the connection busy.** -/
theorem busy (h : Rests p s) : s.busy = false := by
  cases h with
  | null => rfl
  | stmt h => exact Stmt.busy_of_ready h

theorem reset (h : Rests p s) (c : κ) : s.reset c = (none, s, c) := by
  cases h with
  | null => rfl
  | stmt h => simp only [StmtPtr.reset, Stmt.reset_of_ready h]

theorem bind (h : Rests p s) (limit i : Nat) (v : ValueRef) : Rests p (s.bind limit i v).2 := by
  cases h with
  | null => exact .null
  | @stmt s h =>
    have hp : Rests (some (s.bind limit i v).2.prog) (some (s.bind limit i v).2) :=
      .stmt ((s.bind_vm limit i v).trans h)
    rw [s.bind_prog limit i v] at hp
    exact hp

theorem clearBindings (h : Rests p s) : Rests p s.clearBindings := by
  cases h with
  | null => exact .null
  | @stmt s h => exact .stmt (s := s.clearBindings) h

end Rests

/-- A run of the program from `c`, or none, can leave the connection in `c'`. -/
def Reaches (p : Option (Program κ)) (c c' : κ) : Prop :=
  c' = c ∨ ∃ q, p = some q ∧ ∃ bindings, c' ∈ (q.run bindings c).states

/-- The trace a statement at rest begins is a run of its program. -/
theorem Rests.reaches {p : Option (Program κ)} {s : StmtPtr κ} (h : Rests p s) {c c' : κ}
    (hc : c' ∈ (s.pending c).states) : Reaches p c c' := by
  cases h with
  | null => exact .inl (List.mem_singleton.mp hc)
  | @stmt s h =>
    refine .inr ⟨s.prog, rfl, s.bindings, ?_⟩
    rw [← Stmt.pending_of_ready h]
    exact hc

/-- Two statements at rest that cannot be told apart in state `c` but by their bindings, the first
    `n` of which agree. -/
inductive Agree (c : κ) (n : Nat) : StmtPtr κ → StmtPtr κ → Prop where
  | null : Agree c n none none
  | stmt {s t : Stmt κ} : s.prog.Alike c t.prog → s.vm = .ready → t.vm = .ready →
      (∀ j < n, s.bindings[j]? = t.bindings[j]?) → Agree c n (some s) (some t)

namespace Agree

variable {n : Nat} {s t : StmtPtr κ} {c : κ}

theorem of_rests {p q : Option (Program κ)} (h : Option.Rel (Program.Alike c) p q)
    (hs : Rests p s) (ht : Rests q t) : Agree c 0 s t := by
  cases hs with
  | null =>
    cases h with
    | none => cases ht with
      | null => exact .null
  | @stmt s hs =>
    cases h with
    | @some _ q h =>
      generalize hq : some q = q' at ht
      cases ht with
      | null => cases hq
      | @stmt t ht =>
        cases hq
        exact .stmt h hs ht fun j hj => absurd hj (Nat.not_lt_zero j)

theorem bindParameterCount (h : Agree c n s t) :
    s.bindParameterCount = t.bindParameterCount := by
  cases h with
  | null => rfl
  | stmt hp _ _ _ => exact hp.paramCount

theorem query (h : Agree c n s t) :
    (s.returnsColumns && s.readonly) = (t.returnsColumns && t.readonly) := by
  cases h with
  | null => rfl
  | stmt hp _ _ _ => exact hp.query

/-- When all parameters agree the statements begin the same trace. -/
theorem pending_eq (h : Agree c n s t) (hn : s.bindParameterCount ≤ n) :
    s.pending c = t.pending c := by
  cases h with
  | null => rfl
  | @stmt s t hp hs ht hb =>
    have hb : s.bindings = t.bindings := by
      refine List.ext_getElem? fun j => ?_
      by_cases hj : j < n
      · exact hb j hj
      · have hn : s.prog.paramCount ≤ n := hn
        rw [List.getElem?_eq_none (by rw [s.bound]; omega),
          List.getElem?_eq_none (by rw [t.bound, ← hp.paramCount]; omega)]
    show s.pending c = t.pending c
    rw [Stmt.pending_of_ready hs, Stmt.pending_of_ready ht, hb, hp.run]

/-- Binding the next parameter answers the same on both; on success one more agrees. -/
theorem bind (h : Agree c n s t) (limit : Nat) (v : ValueRef) :
    (s.bind limit (n + 1) v).1 = (t.bind limit (n + 1) v).1 ∧
      ((s.bind limit (n + 1) v).1 = none →
        Agree c (n + 1) (s.bind limit (n + 1) v).2 (t.bind limit (n + 1) v).2) := by
  cases h with
  | null => exact ⟨rfl, fun _ => .null⟩
  | @stmt s t hp hs ht hb =>
    simp only [StmtPtr.bind, Stmt.bind_of_ready hs, Stmt.bind_of_ready ht, ← hp.paramCount]
    split
    · exact ⟨rfl, nofun⟩
    · split
      · exact ⟨rfl, nofun⟩
      · refine ⟨rfl, fun _ => .stmt hp hs ht fun j hj => ?_⟩
        rw [Nat.add_sub_cancel, Stmt.set_bindings, Stmt.set_bindings, List.getElem?_set,
          List.getElem?_set, s.bound, t.bound, ← hp.paramCount]
        by_cases hjn : n = j
        · rw [if_pos hjn, if_pos hjn]
        · rw [if_neg hjn, if_neg hjn]
          exact hb j (by omega)

end Agree

end StmtPtr

end NodeRusqlite.Sqlite
