/-
  File:      NodeRusqlite/Rusqlite/Statement.lean
  Subject:   `rusqlite::Statement` and its cursor `rusqlite::Rows`.

  Every call takes the statement and the connection's state and hands both back.

  * **`bindParameters_agree`**: a parameter list that is accepted leaves nothing
    of what was bound before to be seen.
  * `Rows.next_remaining`: a row brings the cursor one step nearer to its end.
  * `executeWithBoundParameters_eq`, `exists_eq`: what a call answers and does to
    the connection is read off the trace its first step begins.
-/
import NodeRusqlite.Sqlite.Engine
import NodeRusqlite.Value

namespace NodeRusqlite.Rusqlite

open Sqlite
open Sqlite.StmtPtr (Rests Agree)

variable {κ : Type}

/-! ## 1. Binding -/

/-- `Statement::bind_parameter`. -/
def bindParameter (limit : Nat) (param : NodeRusqlite.Value) (ndx : Nat) (s : StmtPtr κ) :
    Except Error Unit × StmtPtr κ :=
  match param.toSql with
  | .error e => (.error e, s)
  | .ok value =>
    match s.bind limit ndx (ValueRef.ofOwned value) with
    | (none, s) => (.ok (), s)
    | (some f, s) => (.error (.sqliteFailure f), s)

/-- The loop of `bind_parameters`: the index it ends with. -/
def bindLoop (limit expected : Nat) :
    List NodeRusqlite.Value → Nat → StmtPtr κ → Except Error Nat × StmtPtr κ
  | [], index, s => (.ok index, s)
  | p :: params, index, s =>
    let index := index + 1
    if expected < index then (.ok index, s)
    else
      match bindParameter limit p index s with
      | (.error e, s) => (.error e, s)
      | (.ok (), s) => bindLoop limit expected params index s

/-- `Statement::bind_parameters`. -/
def bindParameters (limit : Nat) (params : List NodeRusqlite.Value) (s : StmtPtr κ) :
    Except Error Unit × StmtPtr κ :=
  let expected := s.bindParameterCount
  match bindLoop limit expected params 0 s with
  | (.error e, s) => (.error e, s)
  | (.ok index, s) =>
    if index ≠ expected then (.error (.invalidParameterCount index expected), s)
    else (.ok (), s)

section Binding

variable (limit expected : Nat) {p q : Option (Program κ)} {s t : StmtPtr κ} {c : κ}

theorem bindParameter_eq (param : NodeRusqlite.Value) (ndx : Nat) (s : StmtPtr κ) :
    bindParameter limit param ndx s =
      (match (s.bind limit ndx (ValueRef.ofOwned param.owned)).1 with
        | none => .ok ()
        | some f => .error (.sqliteFailure f),
       (s.bind limit ndx (ValueRef.ofOwned param.owned)).2) := by
  simp only [bindParameter, Value.toSql_eq]
  rcases s.bind limit ndx (ValueRef.ofOwned param.owned) with ⟨_ | f, s'⟩ <;> rfl

theorem bindLoop_rests (hs : Rests p s) (params : List NodeRusqlite.Value) (index : Nat) :
    Rests p (bindLoop limit expected params index s).2 := by
  induction params generalizing index s with
  | nil => exact hs
  | cons v params ih =>
    have hb := hs.bind limit (index + 1) (ValueRef.ofOwned v.owned)
    simp only [bindLoop, bindParameter_eq]
    split
    · exact hs
    · cases h : (s.bind limit (index + 1) (ValueRef.ofOwned v.owned)).1 with
      | none => exact ih hb (index + 1)
      | some f => exact hb

theorem bindParameters_eq (params : List NodeRusqlite.Value) (s : StmtPtr κ) :
    bindParameters limit params s =
      (match (bindLoop limit s.bindParameterCount params 0 s).1 with
        | .error e => .error e
        | .ok index =>
          if index ≠ s.bindParameterCount then
            .error (.invalidParameterCount index s.bindParameterCount)
          else .ok (),
       (bindLoop limit s.bindParameterCount params 0 s).2) := by
  simp only [bindParameters]
  rcases bindLoop limit s.bindParameterCount params 0 s with ⟨_ | index, s'⟩
  · rfl
  · dsimp only
    split <;> rfl

theorem bindParameters_rests (hs : Rests p s) (params : List NodeRusqlite.Value) :
    Rests p (bindParameters limit params s).2 := by
  rw [bindParameters_eq]
  exact bindLoop_rests limit _ hs params 0

/-- The loop answers the same on statements that agree so far; when it ends at `n ≤ expected`
    they agree up to `n`. -/
theorem bindLoop_agree (params : List NodeRusqlite.Value) (index : Nat)
    (h : Agree c index s t) :
    (bindLoop limit expected params index s).1 = (bindLoop limit expected params index t).1 ∧
      ∀ n ≤ expected, (bindLoop limit expected params index s).1 = .ok n →
        Agree c n (bindLoop limit expected params index s).2
          (bindLoop limit expected params index t).2 := by
  induction params generalizing index s t with
  | nil =>
    refine ⟨rfl, fun n _ hn => ?_⟩
    cases hn
    exact h
  | cons v params ih =>
    obtain ⟨hcode, hnext⟩ := h.bind limit (ValueRef.ofOwned v.owned)
    simp only [bindLoop, bindParameter_eq]
    by_cases hlt : expected < index + 1
    · simp only [if_pos hlt]
      refine ⟨trivial, fun n hn hok => ?_⟩
      cases hok
      omega
    · simp only [if_neg hlt, ← hcode]
      cases hc : (s.bind limit (index + 1) (ValueRef.ofOwned v.owned)).1 with
      | none => exact ih (index + 1) (hnext hc)
      | some f => exact ⟨rfl, nofun⟩

/-- **Binding a whole list forgets the bindings before it**: statements at rest answer the same,
    and once the list is accepted they begin the same trace. -/
theorem bindParameters_agree (hpq : Option.Rel (Program.Alike c) p q) (hs : Rests p s)
    (ht : Rests q t) (params : List NodeRusqlite.Value) :
    (bindParameters limit params s).1 = (bindParameters limit params t).1 ∧
      ((bindParameters limit params s).1 = .ok () →
        (bindParameters limit params s).2.pending c =
          (bindParameters limit params t).2.pending c) := by
  have h0 := Agree.of_rests hpq hs ht
  obtain ⟨hres, hag⟩ := bindLoop_agree limit s.bindParameterCount params 0 h0
  have hrest := bindLoop_rests limit s.bindParameterCount hs params 0
  have hcount : (bindLoop limit s.bindParameterCount params 0 s).2.bindParameterCount =
      s.bindParameterCount := (Agree.of_rests (Program.Alike.refl c p) hrest hs).bindParameterCount
  rw [bindParameters_eq, bindParameters_eq, ← h0.bindParameterCount]
  dsimp only
  refine ⟨by rw [hres], fun hok => ?_⟩
  cases hl : (bindLoop limit s.bindParameterCount params 0 s).1 with
  | error e => rw [hl] at hok; cases hok
  | ok index =>
    rw [hl] at hok
    dsimp only at hok
    split at hok
    · cases hok
    · rename_i hidx
      have hidx : index = s.bindParameterCount := Decidable.not_not.mp hidx
      exact (hag index (Nat.le_of_eq hidx) hl).pending_eq (Nat.le_of_eq (hcount.trans hidx.symm))

end Binding

/-! ## 2. Executing -/

/-- `Statement::check_update`. -/
def checkUpdate (s : StmtPtr κ) : Except Error Unit :=
  if s.returnsColumns && s.readonly then .error .executeReturnedResults else .ok ()

/-- `Statement::execute_with_bound_parameters`. -/
def executeWithBoundParameters (E : Engine κ) (s : StmtPtr κ) (c : κ) :
    Except Error UInt64 × StmtPtr κ × κ :=
  match checkUpdate s with
  | .error e => (.error e, s, c)
  | .ok () =>
    let (r, s, c) := s.step c
    let (rr, s, c) := s.reset c
    match r with
    | .done =>
      match rr with
      | none => (.ok (E.changes c), s, c)
      | some f => (.error (.sqliteFailure f), s, c)
    | .row _ => (.error .executeReturnedResults, s, c)
    | .error f => (.error (.sqliteFailure f), s, c)

/-- `Statement::execute`. -/
def execute (E : Engine κ) (params : List NodeRusqlite.Value) (s : StmtPtr κ) (c : κ) :
    Except Error UInt64 × StmtPtr κ × κ :=
  match bindParameters (E.lengthLimit c) params s with
  | (.error e, s) => (.error e, s, c)
  | (.ok (), s) => executeWithBoundParameters E s c

/-- `Statement::insert`. -/
def insert (E : Engine κ) (params : List NodeRusqlite.Value) (s : StmtPtr κ) (c : κ) :
    Except Error Int64 × StmtPtr κ × κ :=
  match execute E params s c with
  | (.error e, s, c) => (.error e, s, c)
  | (.ok changes, s, c) =>
    if changes = 1 then (.ok (E.lastInsertRowid c), s, c)
    else (.error (.statementChangedRows changes), s, c)

/-! ## 3. The cursor -/

/-- `rusqlite::Rows`, with the statement and the connection it works on. Once it is detached
    (`attached = false`) it takes no more steps. -/
structure Rows (κ : Type) where
  attached : Bool
  row : Option Row
  stmt : StmtPtr κ
  conn : κ

namespace Rows

/-- `Rows::new`. -/
def new (s : StmtPtr κ) (c : κ) : Rows κ := ⟨true, none, s, c⟩

/-- `Rows::reset`. -/
def reset (r : Rows κ) : Except Error Unit × Rows κ :=
  if r.attached then
    let (rc, s, c) := r.stmt.reset r.conn
    let r := { r with attached := false, stmt := s, conn := c }
    match rc with
    | none => (.ok (), r)
    | some f => (.error (.sqliteFailure f), r)
  else (.ok (), r)

/-- `Rows::advance`. -/
def advance (r : Rows κ) : Except Error Unit × Rows κ :=
  if r.attached then
    let (res, s, c) := r.stmt.step r.conn
    let r := { r with stmt := s, conn := c }
    match res with
    | .row x => (.ok (), { r with row := some x })
    | .done =>
      let (res, r) := r.reset
      (res, { r with row := none })
    | .error f =>
      let (_, r) := r.reset
      (.error (.sqliteFailure f), { r with row := none })
  else (.ok (), { r with row := none })

/-- `FallibleStreamingIterator::next`. -/
def next (r : Rows κ) : Except Error (Option Row) × Rows κ :=
  match r.advance with
  | (.error e, r) => (.error e, r)
  | (.ok (), r) => (.ok r.row, r)

/-- `Drop for Rows`. -/
def drop (r : Rows κ) : Rows κ := r.reset.2

/-- The steps left until the cursor detaches. -/
def remaining (r : Rows κ) : Nat :=
  if r.attached then (r.stmt.pending r.conn).steps else 0

end Rows

/-- `Statement::query`. -/
def query (E : Engine κ) (params : List NodeRusqlite.Value) (s : StmtPtr κ) (c : κ) :
    Except Error (Rows κ) × StmtPtr κ :=
  match bindParameters (E.lengthLimit c) params s with
  | (.error e, s) => (.error e, s)
  | (.ok (), s) => (.ok (Rows.new s c), s)

/-- `Statement::exists`. -/
def exists_ (E : Engine κ) (params : List NodeRusqlite.Value) (s : StmtPtr κ) (c : κ) :
    Except Error Bool × StmtPtr κ × κ :=
  match query E params s c with
  | (.error e, s) => (.error e, s, c)
  | (.ok rows, _) =>
    let (res, rows) := rows.next
    let rows := rows.drop
    match res with
    | .error e => (.error e, rows.stmt, rows.conn)
    | .ok row => (.ok row.isSome, rows.stmt, rows.conn)

/-! ## 4. What the cursor does on a trace -/

namespace Rows

variable {r : Rows κ}

/-- A row of the trace comes out, and the rest of the trace is pending; dropped there, the cursor
    leaves the connection as the halt at that row does. -/
theorem next_of_row {x : Row} {after : κ} {halt : Option Failure × κ} {rest : Trace κ}
    (ha : r.attached = true) (ht : r.stmt.pending r.conn = .row x after halt rest) :
    ∃ r', r.next = (.ok (some x), r') ∧ r'.attached = true ∧
      r'.stmt.program = r.stmt.program ∧ r'.stmt.pending r'.conn = rest ∧
      r'.drop.conn = halt.2 := by
  obtain ⟨s, s', hs, hrest⟩ := StmtPtr.step_of_row ht
  have hp := r.stmt.program_step r.conn
  rw [hs] at hp
  refine ⟨{ r with row := some x, stmt := s, conn := after }, ?_, ha, hp, (hrest _).1, ?_⟩
  · simp only [next, advance, ha, hs, if_true]
  · simp only [drop, reset, ha, (hrest after).2, if_true]
    cases halt.1 <;> rfl

/-- "Done" detaches the cursor and leaves the statement reset. -/
theorem next_of_done {after : κ} (ha : r.attached = true)
    (ht : r.stmt.pending r.conn = .done after) :
    ∃ r', r.next = (.ok none, r') ∧ r'.attached = false ∧ Rests r.stmt.program r'.stmt ∧
      r'.conn = after := by
  obtain ⟨s, s', hs, hr⟩ := StmtPtr.step_of_done ht
  refine ⟨⟨false, none, s', after⟩, ?_, rfl, StmtPtr.rests_step_reset hs hr, rfl⟩
  simp only [next, advance, reset, ha, hs, hr, if_true]

/-- An error detaches the cursor and leaves the statement reset. -/
theorem next_of_error {f : Failure} {after : κ} (ha : r.attached = true)
    (ht : r.stmt.pending r.conn = .error f after) :
    ∃ r', r.next = (.error (.sqliteFailure f), r') ∧ r'.attached = false ∧
      Rests r.stmt.program r'.stmt ∧ r'.conn = after := by
  obtain ⟨s, rc, s', hs, hr⟩ := StmtPtr.step_of_error ht
  refine ⟨⟨false, none, s', after⟩, ?_, rfl, StmtPtr.rests_step_reset hs hr, rfl⟩
  cases rc with
  | none => simp only [next, advance, reset, ha, hs, hr, if_true]
  | some f' => simp only [next, advance, reset, ha, hs, hr, if_true]

/-- **A row brings the cursor one step nearer to its end.** -/
theorem next_remaining {x : Row} {r' : Rows κ} (h : r.next = (.ok (some x), r')) :
    r'.remaining < r.remaining := by
  cases ha : r.attached with
  | false => simp [next, advance, ha] at h
  | true =>
    cases ht : r.stmt.pending r.conn with
    | row y after halt rest =>
      obtain ⟨r₁, h₁, ha₁, _, hp₁, _⟩ := next_of_row ha ht
      rw [h₁] at h
      cases h
      simp only [remaining, ha, ha₁, hp₁, ht, if_true, Trace.steps]
      omega
    | done after =>
      obtain ⟨r₁, h₁, _⟩ := next_of_done ha ht
      rw [h₁] at h
      cases h
    | error f after =>
      obtain ⟨r₁, h₁, _⟩ := next_of_error ha ht
      rw [h₁] at h
      cases h

theorem drop_of_detached (ha : r.attached = false) : r.drop = r := by
  simp only [drop, reset, ha, Bool.false_eq_true, if_false]

/-- A cursor that is dropped leaves its statement reset. -/
theorem drop_rests {p : Option (Program κ)} (ha : r.attached = true) (hp : r.stmt.program = p) :
    Rests p r.drop.stmt := by
  have h := StmtPtr.rests_reset r.stmt r.conn
  rw [hp] at h
  simp only [drop, reset, ha, if_true]
  rcases hr : r.stmt.reset r.conn with ⟨_ | f, s, c⟩ <;> rw [hr] at h <;> exact h

end Rows

/-! ## 5. Every call brings the statement back to rest -/

section Rest

variable {E : Engine κ} {p : Option (Program κ)} {s : StmtPtr κ}

theorem executeWithBoundParameters_rests (hs : Rests p s) (c : κ) :
    Rests p (executeWithBoundParameters E s c).2.1 := by
  unfold executeWithBoundParameters
  cases checkUpdate s with
  | error e => exact hs
  | ok =>
    rcases hstep : s.step c with ⟨res, s₁, c₁⟩
    rcases hreset : s₁.reset c₁ with ⟨rr, s₂, c₂⟩
    have hr := StmtPtr.rests_step_reset hstep hreset
    rw [hs.program] at hr
    simp only [hreset]
    cases res with
    | row x => exact hr
    | error f => exact hr
    | done => cases rr <;> exact hr

theorem execute_rests (hs : Rests p s) (params : List NodeRusqlite.Value) (c : κ) :
    Rests p (execute E params s c).2.1 := by
  have hb := bindParameters_rests (E.lengthLimit c) hs params
  unfold execute
  rcases h : bindParameters (E.lengthLimit c) params s with ⟨_ | _, s'⟩ <;> rw [h] at hb
  · exact hb
  · exact executeWithBoundParameters_rests hb c

theorem insert_rests (hs : Rests p s) (params : List NodeRusqlite.Value) (c : κ) :
    Rests p (insert E params s c).2.1 := by
  have he := execute_rests (E := E) hs params c
  unfold insert
  rcases h : execute E params s c with ⟨_ | changes, s', c'⟩ <;> rw [h] at he
  · exact he
  · dsimp only
    split <;> exact he

theorem exists_rests (hs : Rests p s) (params : List NodeRusqlite.Value) (c : κ) :
    Rests p (exists_ E params s c).2.1 := by
  have hb := bindParameters_rests (E.lengthLimit c) hs params
  unfold exists_ query
  rcases h : bindParameters (E.lengthLimit c) params s with ⟨_ | _, s'⟩ <;> rw [h] at hb
  · exact hb
  · have ha : (Rows.new s' c).attached = true := rfl
    dsimp only
    cases ht : (Rows.new s' c).stmt.pending (Rows.new s' c).conn with
    | row x after halt rest =>
      obtain ⟨r, hn, har, hpr, _⟩ := Rows.next_of_row ha ht
      rw [hn]
      exact Rows.drop_rests har (hpr.trans hb.program)
    | done after =>
      obtain ⟨r, hn, har, hr, _⟩ := Rows.next_of_done ha ht
      rw [hn]
      dsimp only
      rw [Rows.drop_of_detached har, ← hb.program]
      exact hr
    | error f after =>
      obtain ⟨r, hn, har, hr, _⟩ := Rows.next_of_error ha ht
      rw [hn]
      dsimp only
      rw [Rows.drop_of_detached har, ← hb.program]
      exact hr

end Rest

/-! ## 6. What a call does, by its trace -/

section Traced

variable (E : Engine κ) (s : StmtPtr κ) (c : κ)

/-- What `execute` makes of a trace, and where it leaves the connection. -/
def executed : Trace κ → Except Error UInt64 × κ
  | .row _ _ halt _ => (.error .executeReturnedResults, halt.2)
  | .done after => (.ok (E.changes after), after)
  | .error f after => (.error (.sqliteFailure f), after)

/-- What `exists` makes of a trace. -/
def existed : Trace κ → Except Error Bool × κ
  | .row _ _ halt _ => (.ok true, halt.2)
  | .done after => (.ok false, after)
  | .error f after => (.error (.sqliteFailure f), after)

theorem executed_mem (t : Trace κ) : (executed E t).2 ∈ t.states := by
  cases t with
  | row x after halt rest => exact List.mem_cons_of_mem _ List.mem_cons_self
  | done after | error f after => exact List.mem_cons_self

theorem existed_mem (t : Trace κ) : (existed t).2 ∈ t.states := by
  cases t with
  | row x after halt rest => exact List.mem_cons_of_mem _ List.mem_cons_self
  | done after | error f after => exact List.mem_cons_self

theorem executeWithBoundParameters_eq :
    ((executeWithBoundParameters E s c).1, (executeWithBoundParameters E s c).2.2) =
      match checkUpdate s with
      | .error e => (.error e, c)
      | .ok () => executed E (s.pending c) := by
  unfold executeWithBoundParameters
  cases checkUpdate s with
  | error e => rfl
  | ok =>
    cases ht : s.pending c with
    | row x after halt rest =>
      obtain ⟨s', s'', hs, hrest⟩ := StmtPtr.step_of_row ht
      simp only [hs, (hrest after).2, executed]
    | done after =>
      obtain ⟨s', s'', hs, hr⟩ := StmtPtr.step_of_done ht
      simp only [hs, hr, executed]
    | error f after =>
      obtain ⟨s', rc, s'', hs, hr⟩ := StmtPtr.step_of_error ht
      simp only [hs, hr, executed]

/-- `exists` on a statement whose parameters are bound. -/
theorem exists_eq (params : List NodeRusqlite.Value) :
    ((exists_ E params s c).1, (exists_ E params s c).2.2) =
      match bindParameters (E.lengthLimit c) params s with
      | (.error e, _) => (.error e, c)
      | (.ok (), s) => existed (s.pending c) := by
  unfold exists_ query
  rcases bindParameters (E.lengthLimit c) params s with ⟨_ | _, s'⟩
  · rfl
  · have ha : (Rows.new s' c).attached = true := rfl
    dsimp only
    cases ht : (Rows.new s' c).stmt.pending (Rows.new s' c).conn with
    | row x after halt rest =>
      obtain ⟨r, hn, _, _, _, hdrop⟩ := Rows.next_of_row ha ht
      have ht : s'.pending c = .row x after halt rest := ht
      simp only [hn, hdrop, ht, existed, Option.isSome_some]
    | done after =>
      obtain ⟨r, hn, har, _, hconn⟩ := Rows.next_of_done ha ht
      have ht : s'.pending c = .done after := ht
      simp only [hn, Rows.drop_of_detached har, hconn, ht, existed, Option.isSome_none]
    | error f after =>
      obtain ⟨r, hn, har, _, hconn⟩ := Rows.next_of_error ha ht
      have ht : s'.pending c = .error f after := ht
      simp only [hn, Rows.drop_of_detached har, hconn, ht, existed]

variable {E s c} {p : Option (Program κ)}

/-- `execute` leaves the connection where a run of the program can. -/
theorem execute_reaches (hs : Rests p s) (params : List NodeRusqlite.Value) :
    StmtPtr.Reaches p c (execute E params s c).2.2 := by
  have hb := bindParameters_rests (E.lengthLimit c) hs params
  unfold execute
  rcases h : bindParameters (E.lengthLimit c) params s with ⟨_ | _, s'⟩ <;> rw [h] at hb
  · exact .inl rfl
  · have heq := congrArg Prod.snd (executeWithBoundParameters_eq E s' c)
    dsimp only at heq ⊢
    rw [heq]
    cases checkUpdate s' with
    | error e => exact .inl rfl
    | ok => exact hb.reaches (executed_mem E _)

theorem insert_reaches (hs : Rests p s) (params : List NodeRusqlite.Value) :
    StmtPtr.Reaches p c (insert E params s c).2.2 := by
  have he := execute_reaches (E := E) (c := c) hs params
  unfold insert
  rcases h : execute E params s c with ⟨_ | changes, s', c'⟩ <;> rw [h] at he
  · exact he
  · dsimp only
    split <;> exact he

theorem exists_reaches (hs : Rests p s) (params : List NodeRusqlite.Value) :
    StmtPtr.Reaches p c (exists_ E params s c).2.2 := by
  have hb := bindParameters_rests (E.lengthLimit c) hs params
  have heq := congrArg Prod.snd (exists_eq E s c params)
  dsimp only at heq
  rw [heq]
  rcases h : bindParameters (E.lengthLimit c) params s with ⟨_ | _, s'⟩ <;> rw [h] at hb
  · exact .inl rfl
  · exact hb.reaches (existed_mem _)

end Traced

/-! ## 7. Only the parameters matter -/

section Fresh

variable {E : Engine κ} {p q : Option (Program κ)} {s t : StmtPtr κ} {c : κ}

theorem checkUpdate_agree (hpq : Option.Rel (Program.Alike c) p q) (hs : Rests p s)
    (ht : Rests q t) : checkUpdate s = checkUpdate t := by
  have h := Agree.of_rests hpq hs ht
  rw [checkUpdate, checkUpdate, h.query]

/-- What `execute` answers and does to the connection is the same for statements at rest. -/
theorem execute_agree (hpq : Option.Rel (Program.Alike c) p q) (hs : Rests p s) (ht : Rests q t)
    (params : List NodeRusqlite.Value) :
    (execute E params s c).1 = (execute E params t c).1 ∧
      (execute E params s c).2.2 = (execute E params t c).2.2 := by
  obtain ⟨hres, hpending⟩ := bindParameters_agree (E.lengthLimit c) hpq hs ht params
  have hrs := bindParameters_rests (E.lengthLimit c) hs params
  have hrt := bindParameters_rests (E.lengthLimit c) ht params
  unfold execute
  rcases hbs : bindParameters (E.lengthLimit c) params s with ⟨rs, s'⟩
  rcases hbt : bindParameters (E.lengthLimit c) params t with ⟨rt, t'⟩
  rw [hbs, hbt] at hres hpending
  rw [hbs] at hrs
  rw [hbt] at hrt
  cases hres
  cases rs with
  | error e => exact ⟨rfl, rfl⟩
  | ok =>
    have h := executeWithBoundParameters_eq E s' c
    rw [checkUpdate_agree hpq hrs hrt, hpending rfl, ← executeWithBoundParameters_eq E t' c] at h
    exact Prod.mk.inj h

theorem insert_agree (hpq : Option.Rel (Program.Alike c) p q) (hs : Rests p s) (ht : Rests q t)
    (params : List NodeRusqlite.Value) :
    (insert E params s c).1 = (insert E params t c).1 ∧
      (insert E params s c).2.2 = (insert E params t c).2.2 := by
  obtain ⟨hres, hconn⟩ := execute_agree (E := E) hpq hs ht params
  unfold insert
  rcases hes : execute E params s c with ⟨rs, s', c'⟩
  rcases het : execute E params t c with ⟨rt, t', d'⟩
  rw [hes, het] at hres hconn
  cases hres
  cases hconn
  cases rs with
  | error e => exact ⟨rfl, rfl⟩
  | ok changes =>
    dsimp only
    split <;> exact ⟨rfl, rfl⟩

theorem exists_agree (hpq : Option.Rel (Program.Alike c) p q) (hs : Rests p s) (ht : Rests q t)
    (params : List NodeRusqlite.Value) :
    (exists_ E params s c).1 = (exists_ E params t c).1 ∧
      (exists_ E params s c).2.2 = (exists_ E params t c).2.2 := by
  obtain ⟨hres, hpending⟩ := bindParameters_agree (E.lengthLimit c) hpq hs ht params
  have h : ((exists_ E params s c).1, (exists_ E params s c).2.2) =
      ((exists_ E params t c).1, (exists_ E params t c).2.2) := by
    rw [exists_eq, exists_eq]
    rcases hbs : bindParameters (E.lengthLimit c) params s with ⟨rs, s'⟩
    rcases hbt : bindParameters (E.lengthLimit c) params t with ⟨rt, t'⟩
    rw [hbs, hbt] at hres hpending
    cases hres
    cases rs with
    | error e => rfl
    | ok => exact congrArg existed (hpending rfl)
  exact Prod.mk.inj h

end Fresh

end NodeRusqlite.Rusqlite
