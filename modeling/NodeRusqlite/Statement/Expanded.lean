/-
  File:      NodeRusqlite/Statement/Expanded.lean
  Subject:   `expanded_sql`: the text of a statement with what its parameters hold.

  A call binds its array place by place and keeps what it bound, also when the
  array is refused in the end. Nothing else changes a parameter: neither a step
  nor a reset nor the end of a cursor. The database is a UTF-8 one.

  * `Call.run_bindings`: what one call leaves in the parameters.
  * **`expanded_sql_shows`**: after any calls, the text shows just that.
-/
import NodeRusqlite.Rusqlite.Binding
import NodeRusqlite.Sqlite.Expand
import NodeRusqlite.Statement.Reuse

namespace NodeRusqlite

open Basis (Binary64 Outcome)
open Sqlite
open Sqlite.StmtPtr (Rests)

variable {κ : Type}

/-! ## 1. What steps leave alone -/

namespace Sqlite.StmtPtr

/-- What the parameters hold. -/
def bindings (s : StmtPtr κ) : List ValueRef :=
  match s with
  | none => []
  | some s => s.bindings

theorem bindings_step (s : StmtPtr κ) (c : κ) : (s.step c).2.1.bindings = s.bindings := by
  cases s with
  | none => rfl
  | some s =>
    show (s.step c).2.1.bindings = s.bindings
    unfold Stmt.step
    cases s.pending c <;> rfl

theorem bindings_reset (s : StmtPtr κ) (c : κ) : (s.reset c).2.1.bindings = s.bindings := by
  cases s with
  | none => rfl
  | some s =>
    show (s.reset c).2.1.bindings = s.bindings
    unfold Stmt.reset
    cases s.vm <;> rfl

end Sqlite.StmtPtr

namespace Rusqlite

theorem Rows.reset_bindings (r : Rows κ) : r.reset.2.stmt.bindings = r.stmt.bindings := by
  unfold reset
  split
  · have hreset := r.stmt.bindings_reset r.conn
    rcases hr : r.stmt.reset r.conn with ⟨_ | f, s, c⟩ <;> rw [hr] at hreset
    · exact hreset
    · exact hreset
  · rfl

theorem Rows.next_bindings (r : Rows κ) : r.next.2.stmt.bindings = r.stmt.bindings := by
  have hadvance : r.advance.2.stmt.bindings = r.stmt.bindings := by
    unfold advance
    split
    · have hstep := r.stmt.bindings_step r.conn
      rcases hs : r.stmt.step r.conn with ⟨x | _ | f, s, c⟩ <;> rw [hs] at hstep
      · exact hstep
      · exact (Rows.reset_bindings _).trans hstep
      · exact (Rows.reset_bindings _).trans hstep
    · rfl
  unfold next
  rcases ha : r.advance with ⟨_ | _, r'⟩ <;> rw [ha] at hadvance
  · exact hadvance
  · exact hadvance

theorem executeWithBoundParameters_bindings (E : Engine κ) (s : StmtPtr κ) (c : κ) :
    (executeWithBoundParameters E s c).2.1.bindings = s.bindings := by
  unfold executeWithBoundParameters
  cases checkUpdate s with
  | error e => rfl
  | ok =>
    have hstep := s.bindings_step c
    rcases hs : s.step c with ⟨res, s₁, c₁⟩
    have hreset := s₁.bindings_reset c₁
    rw [hs] at hstep
    dsimp only
    rcases hr : s₁.reset c₁ with ⟨rr, s₂, c₂⟩
    rw [hr] at hreset
    have hboth : s₂.bindings = s.bindings := hreset.trans hstep
    cases res with
    | row x => exact hboth
    | error f => exact hboth
    | done => cases rr <;> exact hboth

end Rusqlite

theorem collectLoop_bindings (r : Rusqlite.Rows κ) (valueRows : List RowMap) :
    (collectLoop r valueRows).2.stmt.bindings = r.stmt.bindings := by
  have hnext {r r' : Rusqlite.Rows κ} {res : Except Rusqlite.Error (Option Row)}
      (h : r.next = (res, r')) : r'.stmt.bindings = r.stmt.bindings := by
    have hb := r.next_bindings
    rwa [h] at hb
  fun_induction collectLoop r valueRows with
  | case1 r acc row r' h m hm ih => exact ih.trans (hnext h)
  | case2 r acc row r' h e he => exact hnext h
  | case3 r acc row r' h msg hp => exact hnext h
  | case4 r acc r' h => exact hnext h
  | case5 r acc e r' h => exact hnext h

/-! ## 2. What a call leaves -/

namespace Rusqlite

variable (limit : Nat) {p : Option (Program κ)} {s : StmtPtr κ}

/-- What a list leaves where it is bound: its elements one by one, up to one that is too big; that
    leaves NULL. -/
def overwritten : List ValueRef → List NodeRusqlite.Value → List ValueRef
  | old, [] => old
  | [], _ :: _ => []
  | _ :: old, v :: vs =>
    if Stmt.size (ValueRef.ofOwned v.owned) ≤ limit then bound v :: overwritten old vs
    else .null :: old

theorem overwritten_nil (vs : List NodeRusqlite.Value) : overwritten limit [] vs = [] := by
  cases vs <;> rfl

/-- The loop leaves what is before its index. -/
theorem bindLoop_bindings {s : Stmt κ} (hs : s.vm = .ready) (vs : List NodeRusqlite.Value)
    {index : Nat} (hi : index ≤ s.prog.paramCount) :
    (bindLoop limit s.prog.paramCount vs index (some s)).2.bindings =
      s.bindings.take index ++ overwritten limit (s.bindings.drop index) vs := by
  induction vs generalizing s index with
  | nil =>
    rw [overwritten, List.take_append_drop]
    rfl
  | cons v vs ih =>
    have hbound := s.bound
    simp only [bindLoop, bindParameter_eq, StmtPtr.bind, Stmt.bind_of_ready hs]
    by_cases hlt : s.prog.paramCount < index + 1
    · rw [if_pos hlt, List.drop_of_length_le (by omega), overwritten_nil, List.append_nil,
        List.take_of_length_le (by omega)]
      rfl
    · have hin : index < s.bindings.length := by omega
      have hrange : ¬ (index + 1 = 0 ∨ s.prog.paramCount < index + 1) := by omega
      have hset (w : ValueRef) : (s.set index w).bindings =
          s.bindings.take index ++ w :: s.bindings.drop (index + 1) := by
        rw [Stmt.set_bindings, List.set_eq_take_append_cons_drop, if_pos hin]
      rw [if_neg hlt, if_neg hrange, Nat.add_sub_cancel, List.drop_eq_getElem_cons hin, overwritten]
      by_cases hfit : Stmt.size (ValueRef.ofOwned v.owned) ≤ limit
      · rw [if_neg (Nat.not_lt.mpr hfit), if_pos hfit]
        have hrest := ih (s := s.set index (bound v)) hs (Nat.le_of_not_lt hlt)
        have hlen : (s.bindings.take index ++ [bound v]).length = index + 1 := by
          rw [List.length_append, List.length_take, List.length_singleton]
          omega
        rw [hset, List.append_cons, List.take_left' hlen, List.drop_left' hlen,
          List.append_assoc] at hrest
        exact hrest
      · rw [if_pos (Nat.not_le.mp hfit), if_neg hfit]
        exact hset .null

theorem bindParameters_bindings (hs : Rests p s) (vs : List NodeRusqlite.Value) :
    (bindParameters limit vs s).2.bindings = overwritten limit s.bindings vs := by
  rw [bindParameters_eq]
  cases hs with
  | null =>
    cases vs with
    | nil => rfl
    | cons v vs => rfl
  | @stmt s hs =>
    have hloop := bindLoop_bindings limit hs vs (Nat.zero_le s.prog.paramCount)
    rw [List.take_zero, List.drop_zero, List.nil_append] at hloop
    exact hloop

section Calls

variable (E : Engine κ) (hs : Rests p s) (vs : List NodeRusqlite.Value) (c : κ)
include hs

theorem execute_bindings :
    (execute E vs s c).2.1.bindings = overwritten (E.lengthLimit c) s.bindings vs := by
  have hb := bindParameters_bindings (E.lengthLimit c) hs vs
  unfold execute
  rcases h : bindParameters (E.lengthLimit c) vs s with ⟨_ | _, s'⟩ <;> rw [h] at hb
  · exact hb
  · exact (executeWithBoundParameters_bindings E s' c).trans hb

theorem insert_bindings :
    (insert E vs s c).2.1.bindings = overwritten (E.lengthLimit c) s.bindings vs := by
  have he := execute_bindings E hs vs c
  unfold insert
  rcases h : execute E vs s c with ⟨_ | changes, s', c'⟩ <;> rw [h] at he
  · exact he
  · dsimp only
    split <;> exact he

theorem exists_bindings :
    (exists_ E vs s c).2.1.bindings = overwritten (E.lengthLimit c) s.bindings vs := by
  have hb := bindParameters_bindings (E.lengthLimit c) hs vs
  unfold exists_ query
  rcases h : bindParameters (E.lengthLimit c) vs s with ⟨_ | _, s'⟩ <;> rw [h] at hb
  · exact hb
  · have hn := (Rows.new s' c).next_bindings
    dsimp only
    rcases hr : (Rows.new s' c).next with ⟨_ | row, r⟩ <;> rw [hr] at hn
    · exact (r.reset_bindings.trans hn).trans hb
    · exact (r.reset_bindings.trans hn).trans hb

end Calls

end Rusqlite

/-- What a decoded array leaves; one that cannot be decoded leaves everything. -/
def written (limit : Nat) (params : JsArray) (old : List ValueRef) : List ValueRef :=
  match decodeParams params with
  | .error _ => old
  | .ok vs => Rusqlite.overwritten limit old vs

/-- What a call leaves of what the parameters held. -/
def Call.leaves (limit : Nat) (call : Call) (old : List ValueRef) : List ValueRef :=
  match call with
  | .execute params | .insert params | .query params | .exists_ params => written limit params old
  | .clearBindings => List.replicate old.length .null

section Calls

variable {E : Engine κ} {p : Option (Program κ)} {s : StmtPtr κ}

theorem withParams_bindings {α : Type}
    {call : List Value → StmtPtr κ → κ → Outcome NapiError α × StmtPtr κ × κ} {c : κ}
    (h : ∀ vs, (call vs s c).2.1.bindings =
      Rusqlite.overwritten (E.lengthLimit c) s.bindings vs) (params : JsArray) :
    (ScopedStatement.withParams call params s c).2.1.bindings =
      written (E.lengthLimit c) params s.bindings := by
  unfold ScopedStatement.withParams written
  cases decodeParams params with
  | error e => rfl
  | ok vs => exact h vs

theorem query_bindings (hs : Rests p s) (params : JsArray) (c : κ) :
    (ScopedStatement.query E params s c).2.1.bindings =
      written (E.lengthLimit c) params s.bindings := by
  unfold ScopedStatement.query
  refine withParams_bindings (fun vs => ?_) params
  have hb := Rusqlite.bindParameters_bindings (E.lengthLimit c) hs vs
  unfold Rusqlite.query
  rcases h : Rusqlite.bindParameters (E.lengthLimit c) vs s with ⟨_ | _, s'⟩ <;> rw [h] at hb
  · exact hb
  · have hloop := collectLoop_bindings (Rusqlite.Rows.new s' c) []
    exact ((Rusqlite.Rows.reset_bindings _).trans hloop).trans hb

/-- **What one call leaves in the parameters**, however it ends. -/
theorem Call.run_bindings (hs : Rests p s) (call : Call) (c : κ) :
    (call.run E s c).2.1.bindings = call.leaves (E.lengthLimit c) s.bindings := by
  cases call with
  | execute params =>
    show (ScopedStatement.execute E params s c).2.1.bindings = _
    unfold ScopedStatement.execute
    exact withParams_bindings (fun vs => Rusqlite.execute_bindings E hs vs c) params
  | insert params =>
    show (ScopedStatement.insert E params s c).2.1.bindings = _
    unfold ScopedStatement.insert
    exact withParams_bindings (fun vs => Rusqlite.insert_bindings E hs vs c) params
  | query params => exact query_bindings hs params c
  | exists_ params =>
    show (ScopedStatement.exists_ E params s c).2.1.bindings = _
    unfold ScopedStatement.exists_
    exact withParams_bindings (fun vs => Rusqlite.exists_bindings E hs vs c) params
  | clearBindings =>
    cases s with
    | none => rfl
    | some s => exact congrArg (List.replicate · ValueRef.null) s.bound.symm

/-- What the parameters hold after a sequence of events. -/
def held (E : Engine κ) : List (StmtEvent κ) → StmtPtr κ → κ → List ValueRef → List ValueRef
  | [], _, _, old => old
  | .call call :: events, s, c, old =>
    held E events (call.run E s c).2.1 (call.run E s c).2.2 (call.leaves (E.lengthLimit c) old)
  | .elsewhere f :: events, s, c, old => held E events s (f c) old

/-- The run lemma. -/
theorem afterEvents_bindings (hs : Rests p s) (events : List (StmtEvent κ)) (c : κ) :
    (afterEvents E events s c).1.bindings = held E events s c s.bindings := by
  induction events generalizing s c with
  | nil => rfl
  | cons event events ih =>
    cases event with
    | call call =>
      rw [held, ← Call.run_bindings hs]
      exact ih (call.run_rests hs c) _
    | elsewhere f => exact ih hs (f c)

end Calls

/-! ## 3. The text -/

/-- The text of a compiled statement: its tokens are legal, and its parameters have numbers. -/
structure SqlText where
  zSql : List UInt8
  /-- `SQLITE_LIMIT_VARIABLE_NUMBER`. -/
  limit : Nat
  numbers : List Nat
  numbering : Numbering
  limit_le : limit ≤ 0x7FFFFFFF
  legal : ∀ token ∈ tokens zSql, token.1 ≠ .ILLEGAL
  numbered : numberAll limit (hostParameters (tokens zSql)) .start = .ok (numbers, numbering)

/-- The text, with the literals of some values for its parameters. -/
def SqlText.shows (t : SqlText) (showReal : Binary64 → List UInt8) (values : List ValueRef) :
    List UInt8 :=
  replaced Prod.snd (fun x => render showReal (valueOf values x)) t.numbers (tokens t.zSql)

/-- `sqlite3_expanded_sql`. -/
def sqlite3ExpandedSql (showReal : Binary64 → List UInt8) (room : Nat → Bool) (t : SqlText)
    (s : StmtPtr κ) : Option (List UInt8) :=
  match s with
  | none => none
  | some s => sqlite3VdbeExpandSql showReal room t.numbering s.bindings t.zSql

/-- `Statement::expanded_sql`; `lossy` is `to_string_lossy`. -/
def Rusqlite.expandedSql (showReal : Binary64 → List UInt8) (room : Nat → Bool)
    (lossy : List UInt8 → String) (t : SqlText) (s : StmtPtr κ) : Option String :=
  (sqlite3ExpandedSql showReal room t s).map lossy

/-- `ScopedStatement::expanded_sql`. -/
def ScopedStatement.expandedSql (showReal : Binary64 → List UInt8) (room : Nat → Bool)
    (lossy : List UInt8 → String) (t : SqlText) (s : StmtPtr κ) :
    Outcome NapiError (Option String) :=
  .ok (Rusqlite.expandedSql showReal room lossy t s)

/-- **`expanded_sql` of a compiled statement shows what the calls so far have left in the
    parameters**, whether they were answered or refused; `none` when that is too long. -/
theorem expanded_sql_shows (E : Engine κ) (t : SqlText) {p : Program κ}
    (hcount : p.paramCount = t.numbering.nVar) (events : List (StmtEvent κ)) {c₀ c : κ}
    {s : StmtPtr κ} (hrun : afterEvents E events (.fresh (some p)) c₀ = (s, c))
    (showReal : Binary64 → List UInt8) (room : Nat → Bool) (lossy : List UInt8 → String) :
    let values := held E events (.fresh (some p)) c₀ (.replicate p.paramCount .null)
    ScopedStatement.expandedSql showReal room lossy t s =
      .ok (if room (t.shows showReal values).length then some (lossy (t.shows showReal values))
        else none) := by
  intro values
  have hfresh := StmtPtr.rests_fresh (some p)
  have hrest := afterEvents_rests (E := E) events hfresh c₀
  have hvalues : (afterEvents E events (.fresh (some p)) c₀).1.bindings = values :=
    afterEvents_bindings hfresh events c₀
  rw [hrun] at hrest hvalues
  obtain ⟨st, rfl, hprog⟩ := Option.map_eq_some_iff.mp hrest.program
  have hst : st.bindings = values := hvalues
  have hlen : values.length = t.numbering.nVar := by rw [← hst, st.bound, hprog, hcount]
  have hexpand : sqlite3VdbeExpandSql showReal room t.numbering values t.zSql = _ :=
    expandSql_eq t.limit_le t.numbered hlen room
  refine congrArg Outcome.ok ?_
  rw [Rusqlite.expandedSql, sqlite3ExpandedSql, hst, hexpand]
  exact apply_ite (Option.map lossy) _ _ _

/-- `INSERT INTO t VALUES (?)`. -/
def insertText : SqlText where
  zSql := utf8 "INSERT INTO t VALUES (?)"
  limit := 32766
  numbers := [1]
  numbering := ⟨1, []⟩
  limit_le := by decide
  legal := by decide +kernel
  numbered := by decide +kernel

/-- The array of the second call is refused: the parameter holds what the first one left. -/
theorem expanded_sql_shows_refused :
    let lossy := fun w : List UInt8 => String.ofList (w.map fun b => Char.ofNat b.toNat)
    let events : List (StmtEvent Tables) :=
      [.call (.execute [.ok (.int 5)]), .call (.execute [])]
    ScopedStatement.expandedSql (fun _ => utf8 "0.0") (fun _ => true) lossy insertText
      (afterEvents inserting events (.fresh (inserting.compile "" ⟨none, 0⟩)) ⟨none, 0⟩).1 =
        .ok (some "INSERT INTO t VALUES (5)") := by
  intro lossy events
  have hshows := expanded_sql_shows inserting insertText rfl events
    (Prod.eta (afterEvents inserting events (.fresh (inserting.compile "" ⟨none, 0⟩))
      ⟨none, 0⟩)).symm
    (fun _ => utf8 "0.0") (fun _ => true) lossy
  refine (hshows.trans (congrArg Outcome.ok (if_pos rfl))).trans ?_
  refine congrArg (fun text => Outcome.ok (some text)) ?_
  decide +kernel

end NodeRusqlite
