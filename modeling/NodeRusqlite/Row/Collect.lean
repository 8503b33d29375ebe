/-
  File:      NodeRusqlite/Row/Collect.lean
  Subject:   `Rows::new`: draining a cursor into memory.

  The loop ends at the first `next()` that does not bring a row,
  `rows.next().ok().unwrap_or_default()`: "done" and an error end it alike.

  * `Rows.new_eq`: what comes out depends on the rows of the trace only, not
    on how the trace ends; `Rows.new_conn`: where the connection is left.
  * `Rows.new_rests`: whatever happens, the statement is at rest afterwards.
-/
import NodeRusqlite.Rusqlite.Statement
import NodeRusqlite.Row.Convert

namespace NodeRusqlite

open Basis (Outcome)
open Sqlite
open Sqlite.StmtPtr (Rests)

variable {κ : Type}

/-- The loop of `Rows::new`. -/
def collectLoop (r : Rusqlite.Rows κ) (valueRows : List RowMap) :
    Outcome NapiError (List RowMap) × Rusqlite.Rows κ :=
  match _h : r.next with
  | (.ok (some row), r') =>
    match rowMap row with
    | .ok valueMap => collectLoop r' (valueRows ++ [valueMap])
    | .err e => (.err e, r')
    | .panic msg => (.panic msg, r')
  | (.ok none, r') => (.ok valueRows, r')
  | (.error _, r') => (.ok valueRows, r')
termination_by r.remaining
decreasing_by exact Rusqlite.Rows.next_remaining ‹_›

/-- A collection of query result rows. -/
structure Rows where
  rows : List RowMap

/-- `Rows::new`; the cursor is dropped at its end, also when a conversion panics. -/
def Rows.new (rows : Rusqlite.Rows κ) : Outcome NapiError Rows × Rusqlite.Rows κ :=
  let (valueRows, rows) := collectLoop rows []
  (valueRows >>= fun valueRows => .ok ⟨valueRows⟩, rows.drop)

/-- Converting the rows one after the other. -/
def gather : List Row → List RowMap → Outcome NapiError (List RowMap)
  | [], acc => .ok acc
  | row :: rows, acc => do
    let valueMap ← rowMap row
    gather rows (acc ++ [valueMap])

/-- Where the connection is left: at the end of the trace, or by the halt at the row that does not
    convert. -/
def drained : Trace κ → κ
  | .row r _ halt rest =>
    match rowMap r with
    | .ok _ => drained rest
    | .err _ | .panic _ => halt.2
  | .done after => after
  | .error _ after => after

theorem drained_mem (t : Trace κ) : drained t ∈ t.states := by
  induction t with
  | row x after halt rest ih =>
    unfold drained
    cases rowMap x with
    | ok m => exact List.mem_cons_of_mem _ (List.mem_cons_of_mem _ ih)
    | err e | panic msg => exact List.mem_cons_of_mem _ List.mem_cons_self
  | done after | error f after => exact List.mem_cons_self

theorem gather_ok_iff (rows : List Row) (acc maps : List RowMap) : gather rows acc = .ok maps ↔
    ∃ ms, maps = acc ++ ms ∧ List.Forall₂ (fun row m => rowMap row = .ok m) rows ms := by
  induction rows generalizing acc with
  | nil =>
    simp only [gather, Outcome.ok.injEq, List.forall₂_nil_left_iff]
    exact ⟨fun h => ⟨[], by simp [h]⟩, fun ⟨ms, hm, hn⟩ => by simp [hm, hn]⟩
  | cons row rows ih =>
    simp only [gather, Outcome.bind_eq_ok, ih, List.forall₂_cons_left_iff]
    refine ⟨fun h => ?_, fun h => ?_⟩
    · obtain ⟨m, hm, ms, rfl, hms⟩ := h
      exact ⟨m :: ms, by rw [List.append_assoc, List.singleton_append], m, ms, hm, hms, rfl⟩
    · obtain ⟨_, rfl, m, ms, hm, hms, rfl⟩ := h
      exact ⟨m, hm, ms, by rw [List.append_assoc, List.singleton_append], hms⟩

theorem gather_ne_err (rows : List Row) (acc : List RowMap) (e : NapiError) :
    gather rows acc ≠ .err e := by
  induction rows generalizing acc with
  | nil =>
    intro h
    cases h
  | cons row rows ih =>
    unfold gather
    cases h : rowMap row with
    | ok m => exact ih _
    | err e' => exact absurd h (rowMap_ne_err row e')
    | panic msg =>
      intro h
      cases h

theorem collectLoop_of_row {r r' : Rusqlite.Rows κ} {row : Row} (acc : List RowMap)
    (h : r.next = (.ok (some row), r')) : collectLoop r acc =
      match rowMap row with
      | .ok valueMap => collectLoop r' (acc ++ [valueMap])
      | .err e => (.err e, r')
      | .panic msg => (.panic msg, r') := by
  rw [collectLoop]
  split <;> rename_i heq <;> rw [h] at heq <;> cases heq
  rfl

theorem collectLoop_of_done {r r' : Rusqlite.Rows κ} (acc : List RowMap)
    (h : r.next = (.ok none, r')) : collectLoop r acc = (.ok acc, r') := by
  rw [collectLoop]
  split <;> rename_i heq <;> rw [h] at heq <;> cases heq
  rfl

/-- An error ends the loop as "done" does. -/
theorem collectLoop_of_error {r r' : Rusqlite.Rows κ} {e : Rusqlite.Error} (acc : List RowMap)
    (h : r.next = (.error e, r')) : collectLoop r acc = (.ok acc, r') := by
  rw [collectLoop]
  split <;> rename_i heq <;> rw [h] at heq <;> cases heq
  rfl

/-- Where the loop leaves the cursor: detached with its statement at rest, or still attached to
    the statement it had. -/
def Left (p : Option (Program κ)) (r : Rusqlite.Rows κ) : Prop :=
  (r.attached = false ∧ Rests p r.stmt) ∨ (r.attached = true ∧ r.stmt.program = p)

/-- **The loop answers with the rows of the trace, however the trace ends.** -/
theorem collectLoop_spec (t : Trace κ) : ∀ (r : Rusqlite.Rows κ) (acc : List RowMap),
    r.attached = true → r.stmt.pending r.conn = t →
      (collectLoop r acc).1 = gather t.rows acc ∧ Left r.stmt.program (collectLoop r acc).2 ∧
        (collectLoop r acc).2.drop.conn = drained t := by
  induction t with
  | row x after halt rest ih =>
    intro r acc ha hp
    obtain ⟨r', hn, ha', hprog, hp', hdrop⟩ := Rusqlite.Rows.next_of_row ha hp
    rw [collectLoop_of_row acc hn, ← hprog]
    simp only [Trace.rows, gather, drained]
    cases rowMap x with
    | ok m => exact ih r' _ ha' hp'
    | err e => exact ⟨rfl, .inr ⟨ha', rfl⟩, hdrop⟩
    | panic msg => exact ⟨rfl, .inr ⟨ha', rfl⟩, hdrop⟩
  | done after =>
    intro r acc ha hp
    obtain ⟨r', hn, ha', hr, hconn⟩ := Rusqlite.Rows.next_of_done ha hp
    rw [collectLoop_of_done acc hn]
    exact ⟨rfl, .inl ⟨ha', hr⟩, by rw [Rusqlite.Rows.drop_of_detached ha', hconn, drained]⟩
  | error f after =>
    intro r acc ha hp
    obtain ⟨r', hn, ha', hr, hconn⟩ := Rusqlite.Rows.next_of_error ha hp
    rw [collectLoop_of_error acc hn]
    exact ⟨rfl, .inl ⟨ha', hr⟩, by rw [Rusqlite.Rows.drop_of_detached ha', hconn, drained]⟩

theorem Rows.new_eq (s : StmtPtr κ) (c : κ) : (Rows.new (Rusqlite.Rows.new s c)).1 =
    (gather (s.pending c).rows [] >>= fun valueRows => .ok ⟨valueRows⟩) := by
  have h := (collectLoop_spec _ (Rusqlite.Rows.new s c) [] rfl rfl).1
  simp only [Rows.new, h]
  rfl

theorem Rows.new_conn (s : StmtPtr κ) (c : κ) :
    (Rows.new (Rusqlite.Rows.new s c)).2.conn = drained (s.pending c) :=
  (collectLoop_spec _ (Rusqlite.Rows.new s c) [] rfl rfl).2.2

/-- **Whatever happens, the statement is at rest afterwards.** -/
theorem Rows.new_rests (s : StmtPtr κ) (c : κ) :
    Rests s.program (Rows.new (Rusqlite.Rows.new s c)).2.stmt := by
  rcases (collectLoop_spec _ (Rusqlite.Rows.new s c) [] rfl rfl).2.1 with ⟨ha, hr⟩ | ⟨ha, hp⟩
  · simp only [Rows.new, Rusqlite.Rows.drop_of_detached ha]
    exact hr
  · exact Rusqlite.Rows.drop_rests ha hp

end NodeRusqlite
