/-
  File:      NodeRusqlite/Connection/Execute.lean
  Subject:   `execute(sql, params)` on a connection, and `prepare(sql)` followed by the
             statement's `execute(params)`.

  Where an element of the array does not decode, the statement's `execute`
  raises; the connection's takes the whole array for an empty one
  (`unwrap_or_default`) and goes on.

  * `executeDirect_counting`: what the counting engine answers, and how many
    statements it runs.
  * **`execute_paths_agree_iff`**: the two paths agree unless the array does not
    decode and the text is one statement that takes no parameters.
-/
import NodeRusqlite.Rusqlite.Connection
import NodeRusqlite.Sqlite.Counting
import NodeRusqlite.Statement.Scoped

namespace NodeRusqlite

open Basis (Outcome)
open Sqlite
open Sqlite.StmtPtr (Rests)

variable {κ : Type}

/-! ## 1. The two paths -/

/-- The body the three `execute` methods share. -/
def executeDirect (E : Engine κ) (sql : String) (sqlParams : JsArray) (c : κ) :
    Outcome NapiError Int64 × κ :=
  let sqlParams := match decodeParams sqlParams with
    | .ok sqlParams => sqlParams
    | .error _ => []
  let (result, c) := Rusqlite.Connection.execute E sql sqlParams c
  (toNapi result >>= fun result => .ok result.toInt64, c)

/-- `Connection::execute`. -/
def Connection.execute (E : Engine κ) := executeDirect E

/-- `ScopedConnection::execute`. -/
def ScopedConnection.execute (E : Engine κ) := executeDirect E

/-- `Transaction::execute`. -/
def Transaction.execute (E : Engine κ) := executeDirect E

/-- The objects that have an `execute(sql, params)`. -/
inductive Receiver where
  | connection : Receiver
  | scopedConnection : Receiver
  | transaction : Receiver

def Receiver.execute (r : Receiver) (E : Engine κ) :
    String → JsArray → κ → Outcome NapiError Int64 × κ :=
  match r with
  | .connection => Connection.execute E
  | .scopedConnection => ScopedConnection.execute E
  | .transaction => Transaction.execute E

theorem Receiver.execute_eq (r : Receiver) (E : Engine κ) : r.execute E = executeDirect E := by
  cases r <;> rfl

/-- `prepare(sql)`, then `ScopedStatement.execute(params)` in its callback. -/
def prepareThenExecute (E : Engine κ) (sql : String) (params : JsArray) (c : κ) :
    Outcome NapiError Int64 × κ :=
  match Rusqlite.prepare E sql c with
  | .error e => (.err (NapiError.ofRusqlite e), c)
  | .ok s =>
    let (result, _, c) := ScopedStatement.execute E params s c
    (result, c)

/-! ## 2. Counting the statements they run -/

section Counting

variable {E : Engine κ}

theorem bindLoop_counted (limit expected n : Nat) (params : List Value) (index : Nat)
    (s : StmtPtr κ) : Rusqlite.bindLoop limit expected params index (s.counted n) =
      ((Rusqlite.bindLoop limit expected params index s).1,
       (Rusqlite.bindLoop limit expected params index s).2.counted n) := by
  induction params generalizing index s with
  | nil => rfl
  | cons v params ih =>
    simp only [Rusqlite.bindLoop, Rusqlite.bindParameter_eq, StmtPtr.bind_counted]
    split
    · rfl
    · cases (s.bind limit (index + 1) (ValueRef.ofOwned v.owned)).1 with
      | none => exact ih _ _
      | some f => rfl

theorem bindParameters_counted (limit n : Nat) (params : List Value) (s : StmtPtr κ) :
    Rusqlite.bindParameters limit params (s.counted n) =
      ((Rusqlite.bindParameters limit params s).1,
       (Rusqlite.bindParameters limit params s).2.counted n) := by
  simp only [Rusqlite.bindParameters_eq, StmtPtr.bindParameterCount_counted, bindLoop_counted]

theorem checkUpdate_counted (n : Nat) (s : StmtPtr κ) :
    Rusqlite.checkUpdate (s.counted n) = Rusqlite.checkUpdate s := by
  simp only [Rusqlite.checkUpdate, StmtPtr.returnsColumns_counted, StmtPtr.readonly_counted]

theorem prepareFirst_counting (sql : String) (c : κ) (n : Nat) :
    Rusqlite.prepareFirst E.counting sql (c, n) =
      match Rusqlite.prepareFirst E sql c with
      | .error e => .error e
      | .ok (s, tail) => .ok (s.counted n, tail) := by
  unfold Rusqlite.prepareFirst
  split
  · rfl
  · simp only [Engine.counting]
    cases E.refuse sql c with
    | some f => rfl
    | none => simp only [StmtPtr.fresh_counting _ n]

theorem prepare_counting (sql : String) (c : κ) (n : Nat) :
    Rusqlite.prepare E.counting sql (c, n) =
      match Rusqlite.prepare E sql c with
      | .error e => .error e
      | .ok s => .ok (s.counted n) := by
  fun_induction Rusqlite.prepare E sql c with
  | case1 sql e h => rw [Rusqlite.prepare_eq, prepareFirst_counting, h]
  | case2 sql s h => rw [Rusqlite.prepare_eq, prepareFirst_counting, h]
  | case3 sql s rest h e hr ih =>
    rw [Rusqlite.prepare_eq, prepareFirst_counting, h]
    simp only [ih, hr]
  | case4 sql s rest h hr ih =>
    rw [Rusqlite.prepare_eq, prepareFirst_counting, h]
    simp only [ih, hr]
    rfl
  | case5 sql s rest h t hr ih =>
    rw [Rusqlite.prepare_eq, prepareFirst_counting, h]
    simp only [ih, hr]
    rfl

/-- The number of runs of a statement that is stepped once after `check_update`. -/
def runs (p : Option (Program κ)) : Nat :=
  match p with
  | none => 0
  | some p => if p.returnsColumns && p.readonly then 0 else 1

theorem executeWithBoundParameters_counting {p : Option (Program κ)} {s : StmtPtr κ}
    (hs : Rests p s) (n : Nat) (c : κ) :
    (Rusqlite.executeWithBoundParameters E.counting (s.counted n) (c, n)).1 =
        (Rusqlite.executeWithBoundParameters E s c).1 ∧
      (Rusqlite.executeWithBoundParameters E.counting (s.counted n) (c, n)).2.2 =
        ((Rusqlite.executeWithBoundParameters E s c).2.2, n + runs p) := by
  unfold Rusqlite.executeWithBoundParameters
  rw [checkUpdate_counted]
  cases hs with
  | null => exact ⟨rfl, rfl⟩
  | @stmt s hs =>
    by_cases hcheck : (s.prog.returnsColumns && s.prog.readonly) = true
    · have h : Rusqlite.checkUpdate (some s) = .error .executeReturnedResults := if_pos hcheck
      rw [h]
      exact ⟨rfl, by simp only [runs, hcheck, if_true, Nat.add_zero]⟩
    · have h : Rusqlite.checkUpdate (some s) = .ok () := if_neg hcheck
      rw [h]
      simp only [runs, hcheck, StmtPtr.counted, Option.map_some, StmtPtr.step, StmtPtr.reset,
        Stmt.step_counted hs, Stmt.reset_counted]
      cases (s.step c).1 with
      | row x => exact ⟨rfl, rfl⟩
      | error f => exact ⟨rfl, rfl⟩
      | done => cases ((s.step c).2.1.reset (s.step c).2.2).1 <;> exact ⟨rfl, rfl⟩

/-- The number of statements an `execute` of a text with these parameters runs. -/
def executeRuns (E : Engine κ) (sql : String) (params : List Value) (c : κ) : Nat :=
  match Rusqlite.prepare E sql c with
  | .error _ => 0
  | .ok s =>
    match (Rusqlite.bindParameters (E.lengthLimit c) params s).1 with
    | .error _ => 0
    | .ok () => runs (E.compile sql c)

/-- **The counting engine answers as the engine does, and counts.** -/
theorem connection_execute_counting (sql : String) (params : List Value) (c : κ) (n : Nat) :
    Rusqlite.Connection.execute E.counting sql params (c, n) =
      ((Rusqlite.Connection.execute E sql params c).1,
       (Rusqlite.Connection.execute E sql params c).2, n + executeRuns E sql params c) := by
  rw [Rusqlite.Connection.execute_eq, Rusqlite.Connection.execute_eq, prepare_counting]
  unfold executeRuns
  cases hp : Rusqlite.prepare E sql c with
  | error e => rfl
  | ok s =>
    have hs := StmtPtr.rests_fresh (E.compile sql c)
    rw [← Rusqlite.prepare_ok hp] at hs
    have hb := Rusqlite.bindParameters_rests (E.lengthLimit c) hs params
    simp only [Rusqlite.execute, Engine.counting, bindParameters_counted]
    rcases hbind : Rusqlite.bindParameters (E.lengthLimit c) params s with ⟨res, s'⟩
    rw [hbind] at hb
    cases res with
    | error e => rfl
    | ok =>
      obtain ⟨h₁, h₂⟩ := executeWithBoundParameters_counting (E := E) hb n c
      exact Prod.ext h₁ h₂

theorem executeDirect_counting (sql : String) (params : JsArray) (c : κ) (n : Nat) :
    executeDirect E.counting sql params (c, n) =
      ((executeDirect E sql params c).1, (executeDirect E sql params c).2,
        n + executeRuns E sql ((decodeParams params).toOption.getD []) c) := by
  have hps : (match decodeParams params with
      | .ok sqlParams => sqlParams
      | .error _ => []) = (decodeParams params).toOption.getD [] := by
    cases decodeParams params <;> rfl
  simp only [executeDirect, hps, connection_execute_counting]

end Counting

/-! ## 3. The two paths agree -/

section Agree

variable {E : Engine κ} {sql : String} {params : JsArray} {c : κ}

/-- The number of statements `r.execute(sql, params)` runs. -/
def statementsRun (r : Receiver) (E : Engine κ) (sql : String) (params : JsArray) (c : κ) : Nat :=
  (r.execute E.counting sql params (c, 0)).2.2

/-- The direct path succeeds exactly when the prepared one does, with the same row count and the
    same effect; when the array does not decode it returns an error and runs no statement. -/
structure PathsAgree (r : Receiver) (E : Engine κ) (sql : String) (params : JsArray) (c : κ) :
    Prop where
  rowCount : ∀ n, (r.execute E sql params c).1 = .ok n ↔
    (prepareThenExecute E sql params c).1 = .ok n
  effect : (r.execute E sql params c).2 = (prepareThenExecute E sql params c).2
  raises : ∀ e, decodeParams params = .error e → ∃ e', (r.execute E sql params c).1 = .err e'
  runsNothing : ∀ e, decodeParams params = .error e → statementsRun r E sql params c = 0

/-- The text is one statement, it takes no parameters, and `execute` accepts it. -/
def TakesNoParams (E : Engine κ) (sql : String) (c : κ) : Prop :=
  ∃ p, Rusqlite.prepare E sql c = .ok (StmtPtr.fresh (some p)) ∧ p.paramCount = 0 ∧
    (p.returnsColumns && p.readonly) = false

/-- With an array that decodes the two paths are the same. -/
theorem executeDirect_of_ok {vs : List Value} (h : decodeParams params = .ok vs) :
    executeDirect E sql params c = prepareThenExecute E sql params c := by
  simp only [executeDirect, prepareThenExecute, ScopedStatement.execute,
    ScopedStatement.withParams, h, Rusqlite.Connection.execute_eq]
  cases Rusqlite.prepare E sql c with
  | error e => rfl
  | ok s => rfl

/-- No parameters are accepted exactly by a statement that takes none. -/
theorem bindParameters_nil (limit : Nat) (s : StmtPtr κ) :
    Rusqlite.bindParameters limit [] s =
      (if 0 = s.bindParameterCount then .ok ()
       else .error (.invalidParameterCount 0 s.bindParameterCount), s) := by
  simp only [Rusqlite.bindParameters_eq, Rusqlite.bindLoop, ne_eq, ite_not]

theorem takesNoParams_iff {p : Program κ}
    (hp : Rusqlite.prepare E sql c = .ok (StmtPtr.fresh (some p))) :
    TakesNoParams E sql c ↔ p.paramCount = 0 ∧ (p.returnsColumns && p.readonly) = false := by
  constructor
  · intro ⟨q, hq, h⟩
    rw [hp] at hq
    have hpq : p = q := congrArg Stmt.prog (Option.some.inj (Except.ok.inj hq))
    rw [hpq]
    exact h
  · exact fun h => ⟨p, hp, h⟩

theorem executeRuns_nil : executeRuns E sql [] c = 0 ↔ ¬ TakesNoParams E sql c := by
  rcases Rusqlite.prepare_cases E sql c with ⟨e, hp⟩ | ⟨hp, hc⟩ | ⟨p, hp, hc⟩
  · refine iff_of_true (by simp only [executeRuns, hp]) ?_
    intro ⟨q, hq, _⟩
    rw [hp] at hq
    cases hq
  · refine iff_of_true (by simp only [executeRuns, hp, hc]; rfl) ?_
    intro ⟨q, hq, _⟩
    rw [hp] at hq
    cases hq
  · have hcount : (StmtPtr.fresh (some p)).bindParameterCount = p.paramCount := rfl
    rw [takesNoParams_iff hp]
    simp only [executeRuns, hp, hc, bindParameters_nil, hcount]
    by_cases h0 : 0 = p.paramCount
    · cases hb : (p.returnsColumns && p.readonly) <;> simp [← h0, runs, hb]
    · simp [h0, Ne.symm h0]

/-- Where the array does not decode and the text is not such a statement, `execute` fails
    without touching the connection. -/
theorem executeDirect_of_error {e : NapiError} (h : decodeParams params = .error e)
    (ht : ¬ TakesNoParams E sql c) : ∃ e', executeDirect E sql params c = (.err e', c) := by
  simp only [executeDirect, h, Rusqlite.Connection.execute_eq]
  rcases Rusqlite.prepare_cases E sql c with ⟨e, hp⟩ | ⟨hp, hc⟩ | ⟨p, hp, hc⟩
  · rw [hp]
    exact ⟨_, rfl⟩
  · rw [hp]
    exact ⟨_, rfl⟩
  · have hcount : (StmtPtr.fresh (some p)).bindParameterCount = p.paramCount := rfl
    rw [takesNoParams_iff hp] at ht
    simp only [hp, Rusqlite.execute, bindParameters_nil, hcount]
    by_cases h0 : 0 = p.paramCount
    · have hcheck : Rusqlite.checkUpdate (StmtPtr.fresh (some p)) =
          .error .executeReturnedResults :=
        if_pos (Bool.eq_true_of_not_eq_false fun hb => ht ⟨h0.symm, hb⟩)
      simp only [if_pos h0, Rusqlite.executeWithBoundParameters, hcheck]
      exact ⟨_, rfl⟩
    · simp only [if_neg h0]
      exact ⟨_, rfl⟩

/-- Where the array does not decode, the prepared path raises and leaves the connection. -/
theorem prepareThenExecute_of_error {e : NapiError} (h : decodeParams params = .error e) :
    ∃ e', prepareThenExecute E sql params c = (.err e', c) := by
  simp only [prepareThenExecute, ScopedStatement.execute, ScopedStatement.withParams, h]
  cases Rusqlite.prepare E sql c with
  | error e' => exact ⟨_, rfl⟩
  | ok s => exact ⟨_, rfl⟩

theorem statementsRun_of_error (r : Receiver) {e : NapiError} (h : decodeParams params = .error e) :
    statementsRun r E sql params c = executeRuns E sql [] c := by
  unfold statementsRun
  rw [r.execute_eq, executeDirect_counting, h]
  exact Nat.zero_add _

/-- **The two paths agree exactly unless the array does not decode and the text is one statement
    that takes no parameters**: that statement is run. -/
theorem execute_paths_agree_iff (r : Receiver) (E : Engine κ) (sql : String) (params : JsArray)
    (c : κ) : PathsAgree r E sql params c ↔
      ¬ ((∃ e, decodeParams params = .error e) ∧ TakesNoParams E sql c) := by
  constructor
  · intro h ⟨⟨e, he⟩, ht⟩
    have h0 := h.runsNothing e he
    rw [statementsRun_of_error r he, executeRuns_nil] at h0
    exact h0 ht
  · intro h
    cases hd : decodeParams params with
    | ok vs =>
      have heq : r.execute E sql params c = prepareThenExecute E sql params c := by
        rw [r.execute_eq, executeDirect_of_ok hd]
      refine ⟨fun n => by rw [heq], by rw [heq], fun e he => ?_, fun e he => ?_⟩
      · rw [hd] at he
        cases he
      · rw [hd] at he
        cases he
    | error e =>
      have ht : ¬ TakesNoParams E sql c := fun ht => h ⟨⟨e, hd⟩, ht⟩
      obtain ⟨e₁, h₁⟩ := executeDirect_of_error hd ht
      obtain ⟨e₂, h₂⟩ : ∃ e', prepareThenExecute E sql params c = (.err e', c) :=
        prepareThenExecute_of_error hd
      rw [← r.execute_eq] at h₁
      refine ⟨fun n => by rw [h₁, h₂]; exact iff_of_false nofun nofun, by rw [h₁, h₂],
        fun _ _ => ⟨e₁, by rw [h₁]⟩, fun e' he' => ?_⟩
      rw [statementsRun_of_error r hd, executeRuns_nil]
      exact ht

end Agree

/-! ## 4. An array that does not decode, and a statement without parameters -/

/-- An engine whose connection is the number of rows of a table and the number of rows the last
    statement changed; any text is `DELETE FROM t`. -/
def deleting : Engine (Nat × Nat) where
  compile _ _ := some ⟨0, false, false, fun _ c => .done (0, c.1)⟩
  tail _ := none
  refuse _ _ := none
  isAutocommit _ := true
  changes c := UInt64.ofNat c.2
  lastInsertRowid _ := 0
  lengthLimit _ := 1000000000
  tail_lt := noTail_lt

/-- `execute("DELETE FROM t", [true])` on five rows: the boolean does not decode, the table is
    emptied and the call answers 5; the prepared path raises and deletes nothing. -/
theorem execute_deletes_despite_bad_params :
    decodeParams [.ok (.bool true)] = .error Item.noVariant ∧
      Connection.execute deleting "DELETE FROM t" [.ok (.bool true)] (5, 0) = (.ok 5, 0, 5) ∧
      prepareThenExecute deleting "DELETE FROM t" [.ok (.bool true)] (5, 0) =
        (.err Item.noVariant, 5, 0) ∧
      ¬ PathsAgree .connection deleting "DELETE FROM t" [.ok (.bool true)] (5, 0) := by
  have hprep : Rusqlite.prepare deleting "DELETE FROM t" (5, 0) =
      .ok (StmtPtr.fresh (deleting.compile "DELETE FROM t" (5, 0))) := by
    rw [Rusqlite.prepare_eq]
    rfl
  have hrun : Connection.execute deleting "DELETE FROM t" [.ok (.bool true)] (5, 0) =
      (.ok 5, 0, 5) := by
    simp only [Connection.execute, executeDirect, Rusqlite.Connection.execute_eq, hprep]
    rfl
  have hpre : prepareThenExecute deleting "DELETE FROM t" [.ok (.bool true)] (5, 0) =
      (.err Item.noVariant, 5, 0) := by
    simp only [prepareThenExecute, hprep]
    rfl
  refine ⟨rfl, hrun, hpre, fun h => ?_⟩
  have heff := h.effect
  rw [hpre] at heff
  exact absurd ((congrArg Prod.snd hrun).symm.trans heff) (by decide)

end NodeRusqlite
