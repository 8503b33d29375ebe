/-
  File:      NodeRusqlite/Sqlite/Counting.lean
  Subject:   An engine that counts the statements it runs.

  `E.counting` is `E` on connections that carry a number: it answers as `E`
  does, and each run of a statement adds one. So "no statement is run" can be
  said of a call without looking into it: the number stays.
-/
import NodeRusqlite.Sqlite.Engine

namespace NodeRusqlite.Sqlite

variable {κ : Type}

/-- The trace with `n` beside every state. -/
def Trace.counted (n : Nat) : Trace κ → Trace (κ × Nat)
  | .row r after halt rest => .row r (after, n) (halt.1, halt.2, n) (rest.counted n)
  | .done after => .done (after, n)
  | .error f after => .error f (after, n)

/-- The program that adds one when it is run. -/
def Program.counting (p : Program κ) : Program (κ × Nat) where
  paramCount := p.paramCount
  returnsColumns := p.returnsColumns
  readonly := p.readonly
  run bindings c := (p.run bindings c.1).counted (c.2 + 1)

/-- The engine that counts the statements it runs. -/
def Engine.counting (E : Engine κ) : Engine (κ × Nat) where
  compile sql c := (E.compile sql c.1).map Program.counting
  tail := E.tail
  refuse sql c := E.refuse sql c.1
  isAutocommit c := E.isAutocommit c.1
  changes c := E.changes c.1
  lastInsertRowid c := E.lastInsertRowid c.1
  lengthLimit c := E.lengthLimit c.1
  tail_lt := E.tail_lt

/-- The machine of a counting statement whose run was the `n`th. -/
def Vm.counted (n : Nat) : Vm κ → Vm (κ × Nat)
  | .ready => .ready
  | .running halt rest => .running (halt.1, halt.2, n) (rest.counted n)
  | .ended rc => .ended rc

/-- The counting statement whose run was the `n`th. -/
def Stmt.counted (n : Nat) (s : Stmt κ) : Stmt (κ × Nat) where
  prog := s.prog.counting
  bindings := s.bindings
  vm := s.vm.counted n
  bound := s.bound

/-- Stepping a statement that is reset begins a run: it counts. -/
theorem Stmt.step_counted {s : Stmt κ} (h : s.vm = .ready) (n m : Nat) (c : κ) :
    (s.counted n).step (c, m) =
      ((s.step c).1, (s.step c).2.1.counted (m + 1), (s.step c).2.2, m + 1) := by
  have hc : (s.counted n).vm = .ready := by simp only [counted, h, Vm.counted]
  have hp : (s.counted n).pending (c, m) = (s.pending c).counted (m + 1) := by
    rw [Stmt.pending_of_ready hc, Stmt.pending_of_ready h]
    rfl
  unfold Stmt.step
  rw [hp]
  cases s.pending c <;> rfl

theorem Stmt.reset_counted (s : Stmt κ) (n : Nat) (c : κ) :
    (s.counted n).reset (c, n) =
      ((s.reset c).1, (s.reset c).2.1.counted n, (s.reset c).2.2, n) := by
  rcases s with ⟨p, bindings, vm, hb⟩
  cases vm <;> rfl

namespace StmtPtr

def counted (n : Nat) (s : StmtPtr κ) : StmtPtr (κ × Nat) := s.map (Stmt.counted n)

theorem fresh_counting (p : Option (Program κ)) (n : Nat) :
    fresh (p.map Program.counting) = (fresh p).counted n := by
  cases p with
  | none => rfl
  | some p => rfl

@[simp] theorem bindParameterCount_counted (n : Nat) (s : StmtPtr κ) :
    (s.counted n).bindParameterCount = s.bindParameterCount := by
  cases s with
  | none => rfl
  | some s => rfl

@[simp] theorem returnsColumns_counted (n : Nat) (s : StmtPtr κ) :
    (s.counted n).returnsColumns = s.returnsColumns := by
  cases s with
  | none => rfl
  | some s => rfl

@[simp] theorem readonly_counted (n : Nat) (s : StmtPtr κ) :
    (s.counted n).readonly = s.readonly := by
  cases s with
  | none => rfl
  | some s => rfl

theorem bind_counted (n limit i : Nat) (v : ValueRef) (s : StmtPtr κ) :
    (s.counted n).bind limit i v = ((s.bind limit i v).1, (s.bind limit i v).2.counted n) := by
  cases s with
  | none => rfl
  | some s =>
    rcases s with ⟨p, bindings, vm, hb⟩
    cases vm with
    | running halt rest => rfl
    | ended rc => rfl
    | ready =>
      simp only [StmtPtr.bind, counted, Option.map_some, Stmt.counted, Stmt.bind, Vm.counted,
        Program.counting]
      split
      · rfl
      · split <;> rfl

end StmtPtr

end NodeRusqlite.Sqlite
