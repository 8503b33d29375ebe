/-
  File:      NodeRusqlite/Statement/Scoped.lean
  Subject:   `ScopedStatement`: the prepared statement JavaScript holds.

  Its four calls decode their parameter array, hand it to the statement below
  and translate the error.

  * `query_eq`: `query` answers with the rows of the trace it runs.
  * **`query_complete_iff`**: `query` is complete or fails exactly when the
    trace ends in "done".
-/
import NodeRusqlite.Params
import NodeRusqlite.Row.Collect

namespace NodeRusqlite

open Basis (Outcome)
open Sqlite
open Sqlite.StmtPtr (Reaches Rests)

variable {κ α : Type}

/-- `.map_err(NodeRusqliteError::from)?` at the border to JavaScript. -/
def toNapi (r : Except Rusqlite.Error α) : Outcome NapiError α :=
  (Outcome.ofExcept r).mapErr NapiError.ofRusqlite

theorem toNapi_returns (r : Except Rusqlite.Error α) : (toNapi r).Returns := by
  cases r with
  | error e => exact Outcome.returns_err _
  | ok a => exact Outcome.returns_ok a

namespace ScopedStatement

/-- The shape of the four calls: decode the array, or raise. -/
def withParams (call : List Value → StmtPtr κ → κ → Outcome NapiError α × StmtPtr κ × κ)
    (params : JsArray) (s : StmtPtr κ) (c : κ) : Outcome NapiError α × StmtPtr κ × κ :=
  match decodeParams params with
  | .error e => (.err e, s, c)
  | .ok params => call params s c

theorem withParams_rests {call : List Value → StmtPtr κ → κ → Outcome NapiError α × StmtPtr κ × κ}
    {p : Option (Program κ)} {s : StmtPtr κ} {c : κ} (hs : Rests p s)
    (h : ∀ vs, Rests p (call vs s c).2.1) (params : JsArray) :
    Rests p (withParams call params s c).2.1 := by
  unfold withParams
  cases decodeParams params with
  | error e => exact hs
  | ok vs => exact h vs

/-- Two statements on which the decoded call agrees. -/
theorem withParams_agree {call : List Value → StmtPtr κ → κ → Outcome NapiError α × StmtPtr κ × κ}
    {s t : StmtPtr κ} {c : κ}
    (h : ∀ vs, (call vs s c).1 = (call vs t c).1 ∧ (call vs s c).2.2 = (call vs t c).2.2)
    (params : JsArray) :
    (withParams call params s c).1 = (withParams call params t c).1 ∧
      (withParams call params s c).2.2 = (withParams call params t c).2.2 := by
  unfold withParams
  cases decodeParams params with
  | error e => exact ⟨rfl, rfl⟩
  | ok vs => exact h vs

/-- `ScopedStatement::execute`. -/
def execute (E : Engine κ) : JsArray → StmtPtr κ → κ → Outcome NapiError Int64 × StmtPtr κ × κ :=
  withParams fun params s c =>
    let (result, s, c) := Rusqlite.execute E params s c
    (toNapi result >>= fun result => .ok result.toInt64, s, c)

/-- `ScopedStatement::insert`. -/
def insert (E : Engine κ) : JsArray → StmtPtr κ → κ → Outcome NapiError Int64 × StmtPtr κ × κ :=
  withParams fun params s c =>
    let (result, s, c) := Rusqlite.insert E params s c
    (toNapi result, s, c)

/-- `ScopedStatement::query`. -/
def query (E : Engine κ) : JsArray → StmtPtr κ → κ → Outcome NapiError Rows × StmtPtr κ × κ :=
  withParams fun params s c =>
    match Rusqlite.query E params s c with
    | (.error e, s) => (.err (NapiError.ofRusqlite e), s, c)
    | (.ok rows, _) =>
      let (result, rows) := Rows.new rows
      (result, rows.stmt, rows.conn)

/-- `ScopedStatement::exists`. -/
def exists_ (E : Engine κ) : JsArray → StmtPtr κ → κ → Outcome NapiError Bool × StmtPtr κ × κ :=
  withParams fun params s c =>
    let (result, s, c) := Rusqlite.exists_ E params s c
    (toNapi result, s, c)

/-- `ScopedStatement::clear_bindings`. -/
def clearBindings (s : StmtPtr κ) : StmtPtr κ := s.clearBindings

/-! ## Calls on a statement at rest -/

section Rest

variable {E : Engine κ} {p : Option (Program κ)} {s : StmtPtr κ}

theorem execute_rests (hs : Rests p s) (params : JsArray) (c : κ) :
    Rests p (execute E params s c).2.1 := by
  unfold execute
  exact withParams_rests hs (fun vs => Rusqlite.execute_rests hs vs c) params

theorem insert_rests (hs : Rests p s) (params : JsArray) (c : κ) :
    Rests p (insert E params s c).2.1 := by
  unfold insert
  exact withParams_rests hs (fun vs => Rusqlite.insert_rests hs vs c) params

theorem exists_rests (hs : Rests p s) (params : JsArray) (c : κ) :
    Rests p (exists_ E params s c).2.1 := by
  unfold exists_
  exact withParams_rests hs (fun vs => Rusqlite.exists_rests hs vs c) params

theorem query_rests (hs : Rests p s) (params : JsArray) (c : κ) :
    Rests p (query E params s c).2.1 := by
  unfold query
  refine withParams_rests hs (fun vs => ?_) params
  have hb := Rusqlite.bindParameters_rests (E.lengthLimit c) hs vs
  simp only [Rusqlite.query]
  rcases hbind : Rusqlite.bindParameters (E.lengthLimit c) vs s with ⟨_ | _, s'⟩ <;>
    rw [hbind] at hb
  · exact hb
  · have hr := Rows.new_rests s' c
    rw [hb.program] at hr
    exact hr

end Rest

/-! ## Where a call leaves the connection -/

section Reach

variable {E : Engine κ} {p : Option (Program κ)} {s : StmtPtr κ} {c : κ}

theorem withParams_reaches
    {call : List Value → StmtPtr κ → κ → Outcome NapiError α × StmtPtr κ × κ}
    (h : ∀ vs, Reaches p c (call vs s c).2.2) (params : JsArray) :
    Reaches p c (withParams call params s c).2.2 := by
  unfold withParams
  cases decodeParams params with
  | error e => exact .inl rfl
  | ok vs => exact h vs

theorem execute_reaches (hs : Rests p s) (params : JsArray) :
    Reaches p c (execute E params s c).2.2 := by
  unfold execute
  exact withParams_reaches (fun vs => Rusqlite.execute_reaches hs vs) params

theorem insert_reaches (hs : Rests p s) (params : JsArray) :
    Reaches p c (insert E params s c).2.2 := by
  unfold insert
  exact withParams_reaches (fun vs => Rusqlite.insert_reaches hs vs) params

theorem exists_reaches (hs : Rests p s) (params : JsArray) :
    Reaches p c (exists_ E params s c).2.2 := by
  unfold exists_
  exact withParams_reaches (fun vs => Rusqlite.exists_reaches hs vs) params

theorem query_reaches (hs : Rests p s) (params : JsArray) :
    Reaches p c (query E params s c).2.2 := by
  unfold query
  refine withParams_reaches (fun vs => ?_) params
  have hb := Rusqlite.bindParameters_rests (E.lengthLimit c) hs vs
  simp only [Rusqlite.query]
  rcases hbind : Rusqlite.bindParameters (E.lengthLimit c) vs s with ⟨_ | _, s'⟩ <;>
    rw [hbind] at hb
  · exact .inl rfl
  · dsimp only
    rw [Rows.new_conn]
    exact hb.reaches (drained_mem _)

end Reach

/-! ## Only the parameters matter -/

section Fresh

variable {E : Engine κ} {p q : Option (Program κ)} {s t : StmtPtr κ} {c : κ}

theorem execute_agree (hpq : Option.Rel (Program.Alike c) p q) (hs : Rests p s) (ht : Rests q t)
    (params : JsArray) :
    (execute E params s c).1 = (execute E params t c).1 ∧
      (execute E params s c).2.2 = (execute E params t c).2.2 := by
  unfold execute
  refine withParams_agree (fun vs => ?_) params
  obtain ⟨hres, hconn⟩ := Rusqlite.execute_agree (E := E) hpq hs ht vs
  exact ⟨by simp only [hres], hconn⟩

theorem insert_agree (hpq : Option.Rel (Program.Alike c) p q) (hs : Rests p s) (ht : Rests q t)
    (params : JsArray) :
    (insert E params s c).1 = (insert E params t c).1 ∧
      (insert E params s c).2.2 = (insert E params t c).2.2 := by
  unfold insert
  refine withParams_agree (fun vs => ?_) params
  obtain ⟨hres, hconn⟩ := Rusqlite.insert_agree (E := E) hpq hs ht vs
  exact ⟨by simp only [hres], hconn⟩

theorem exists_agree (hpq : Option.Rel (Program.Alike c) p q) (hs : Rests p s) (ht : Rests q t)
    (params : JsArray) :
    (exists_ E params s c).1 = (exists_ E params t c).1 ∧
      (exists_ E params s c).2.2 = (exists_ E params t c).2.2 := by
  unfold exists_
  refine withParams_agree (fun vs => ?_) params
  obtain ⟨hres, hconn⟩ := Rusqlite.exists_agree (E := E) hpq hs ht vs
  exact ⟨by simp only [hres], hconn⟩

/-- `query` reads its rows off the trace, and leaves the connection where that says. -/
theorem query_agree (hpq : Option.Rel (Program.Alike c) p q) (hs : Rests p s) (ht : Rests q t)
    (params : JsArray) :
    (query E params s c).1 = (query E params t c).1 ∧
      (query E params s c).2.2 = (query E params t c).2.2 := by
  unfold query
  refine withParams_agree (fun vs => ?_) params
  obtain ⟨hres, hpending⟩ := Rusqlite.bindParameters_agree (E.lengthLimit c) hpq hs ht vs
  unfold Rusqlite.query
  rcases hbs : Rusqlite.bindParameters (E.lengthLimit c) vs s with ⟨rs, s'⟩
  rcases hbt : Rusqlite.bindParameters (E.lengthLimit c) vs t with ⟨rt, t'⟩
  rw [hbs, hbt] at hres hpending
  cases hres
  cases rs with
  | error e => exact ⟨rfl, rfl⟩
  | ok =>
    have htrace : s'.pending c = t'.pending c := hpending rfl
    simp only [Rows.new_eq, Rows.new_conn, htrace, and_self]

end Fresh

/-! ## `query` is complete or fails -/

section Query

variable {E : Engine κ} {s : StmtPtr κ} {c : κ} {params : JsArray} {vs : List Value}

/-- The trace `query` runs once `vs` is bound. -/
def queryTrace (E : Engine κ) (vs : List Value) (s : StmtPtr κ) (c : κ) : Trace κ :=
  (Rusqlite.bindParameters (E.lengthLimit c) vs s).2.pending c

/-- `query` returns rows only for a trace that ends in "done", and then all of them in order; for
    a trace that ends in an error it returns an error. -/
def CompleteOrFails (E : Engine κ) (params : JsArray) (s : StmtPtr κ) (c : κ) (t : Trace κ) :
    Prop :=
  (∀ rows, (query E params s c).1 = .ok rows →
    t.failure = none ∧ List.Forall₂ (fun row m => rowMap row = .ok m) t.rows rows.rows) ∧
  (∀ f, t.failure = some f → ∃ e, (query E params s c).1 = .err e)

/-- The parameter list decodes, and the statement accepts it. -/
structure Accepted (E : Engine κ) (params : JsArray) (vs : List Value) (s : StmtPtr κ) (c : κ) :
    Prop where
  decodes : decodeParams params = .ok vs
  binds : (Rusqlite.bindParameters (E.lengthLimit c) vs s).1 = .ok ()

theorem query_eq (h : Accepted E params vs s c) : (query E params s c).1 =
    (gather (queryTrace E vs s c).rows [] >>= fun valueRows => .ok ⟨valueRows⟩) := by
  have hb := h.binds
  rcases hbind : Rusqlite.bindParameters (E.lengthLimit c) vs s with ⟨res, s'⟩
  rw [hbind] at hb
  cases hb
  simp only [query, withParams, queryTrace, Rusqlite.query, h.decodes, hbind]
  exact Rows.new_eq s' c

theorem query_ne_err (h : Accepted E params vs s c) (e : NapiError) :
    (query E params s c).1 ≠ .err e := by
  rw [query_eq h]
  cases hg : gather (queryTrace E vs s c).rows [] with
  | ok maps => exact nofun
  | err e' => exact absurd hg (gather_ne_err _ _ e')
  | panic msg => exact nofun

theorem query_ok (h : Accepted E params vs s c) {rows : Rows}
    (hq : (query E params s c).1 = .ok rows) :
    List.Forall₂ (fun row m => rowMap row = .ok m) (queryTrace E vs s c).rows rows.rows := by
  rw [query_eq h, Outcome.bind_eq_ok] at hq
  obtain ⟨maps, hg, hm⟩ := hq
  cases hm
  obtain ⟨ms, hms, hf⟩ := (gather_ok_iff _ _ _).mp hg
  rw [List.nil_append] at hms
  rw [hms]
  exact hf

/-- **`query` is complete or fails exactly when the trace ends in "done".** -/
theorem query_complete_iff (h : Accepted E params vs s c) :
    CompleteOrFails E params s c (queryTrace E vs s c) ↔ (queryTrace E vs s c).failure = none := by
  constructor
  · intro ⟨_, hfail⟩
    cases hf : (queryTrace E vs s c).failure with
    | none => rfl
    | some f =>
      obtain ⟨e, he⟩ := hfail f hf
      exact absurd he (query_ne_err h e)
  · intro hdone
    refine ⟨fun rows hq => ⟨hdone, query_ok h hq⟩, fun f hf => ?_⟩
    rw [hdone] at hf
    cases hf

end Query

/-- An engine for runs on a connection without state. -/
def bare : Engine Unit where
  compile _ _ := none
  tail _ := none
  refuse _ _ := none
  isAutocommit _ := true
  changes _ := 0
  lastInsertRowid _ := 0
  lengthLimit _ := 1000000000
  tail_lt := noTail_lt

def oneRow : Row := [⟨⟨"n", some (.ofString ⟨"INTEGER", integer_noNul⟩)⟩, .integer 7⟩]

/-- A `SELECT` of one row, and the same one interrupted after it. -/
def selects (last : Trace Unit) : StmtPtr Unit :=
  StmtPtr.fresh (some ⟨0, true, true, fun _ _ => .row oneRow () (none, ()) last⟩)

def interrupted : Failure := ⟨9, "interrupted", by decide⟩

theorem query_complete_done :
    CompleteOrFails bare [] (selects (.done ())) () (queryTrace bare [] (selects (.done ())) ()) :=
  (query_complete_iff ⟨rfl, rfl⟩).mpr rfl

/-- The interrupted `SELECT` returns the row it got as if it were the whole result. -/
theorem query_of_interrupted :
    (query bare [] (selects (.error interrupted ())) ()).1 = .ok ⟨[builtMap oneRow]⟩ ∧
      (queryTrace bare [] (selects (.error interrupted ())) ()).failure = some interrupted ∧
      ¬ CompleteOrFails bare [] (selects (.error interrupted ())) ()
        (queryTrace bare [] (selects (.error interrupted ())) ()) := by
  have hq : (query bare [] (selects (.error interrupted ())) ()).1 = .ok ⟨[builtMap oneRow]⟩ := by
    have hacc : Accepted bare [] [] (selects (.error interrupted ())) () := ⟨rfl, rfl⟩
    rw [query_eq hacc]
    have hrows : (queryTrace bare [] (selects (.error interrupted ())) ()).rows = [oneRow] := rfl
    rw [hrows, gather, rowMap_eq (by decide) (by decide)]
    rfl
  refine ⟨hq, rfl, fun h => ?_⟩
  have hnone := (h.1 _ hq).1
  cases hnone

end ScopedStatement

end NodeRusqlite
