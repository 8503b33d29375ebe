/-
  File:      NodeRusqlite/Rusqlite/QueryRow.lean
  Subject:   `Connection::query_row`: the first row of a text, handed to a callback.

  * `queryRow_of_row`: the callback gets the first row of the trace, however the trace
    goes on.
  * **`queryRow_of_refused`**: where the parameters are not accepted, nothing is run.
-/
import NodeRusqlite.Rusqlite.Binding
import NodeRusqlite.Rusqlite.Connection
import NodeRusqlite.Sqlite.Counting

namespace NodeRusqlite.Rusqlite

open Basis (Outcome)
open Sqlite
open Sqlite.StmtPtr (Rests)

variable {κ α : Type}

/-! ## 1. Parameters -/

/-- `Statement::ensure_parameter_count`. -/
def ensureParameterCount (n : Nat) (s : StmtPtr κ) : Except Error Unit :=
  let count := s.bindParameterCount
  if count ≠ n then .error (.invalidParameterCount n count) else .ok ()

/-- `Params`, as far as it is used: `params_from_iter` of values, or `[]`. -/
inductive Params where
  | fromIter (vs : List NodeRusqlite.Value) : Params
  | empty : Params

/-- `Params::__bind_in`. -/
def Params.bindIn (limit : Nat) (params : Params) (s : StmtPtr κ) :
    Except Error Unit × StmtPtr κ :=
  match params with
  | .fromIter vs => bindParameters limit vs s
  | .empty => (ensureParameterCount 0 s, s)

theorem Params.bindIn_rests (limit : Nat) (params : Params) {p : Option (Program κ)}
    {s : StmtPtr κ} (hs : Rests p s) : Rests p (params.bindIn limit s).2 := by
  cases params with
  | fromIter vs => exact bindParameters_rests limit hs vs
  | empty => exact hs

/-! ## 2. The first row -/

/-- `Rows::get_expected_row`. -/
def Rows.getExpectedRow (r : Rows κ) : Except Error Row × Rows κ :=
  match r.next with
  | (.error e, r) => (.error e, r)
  | (.ok (some row), r) => (.ok row, r)
  | (.ok none, r) => (.error .queryReturnedNoRows, r)

/-- `Statement::query_row`; the cursor is dropped at its end. -/
def queryRow (limit : Nat) (params : Params) (f : Row → Outcome Error α) (s : StmtPtr κ) (c : κ) :
    Outcome Error α × StmtPtr κ × κ :=
  match params.bindIn limit s with
  | (.error e, s) => (.err e, s, c)
  | (.ok (), s) =>
    let (row, rows) := (Rows.new s c).getExpectedRow
    let rows := rows.drop
    (Outcome.ofExcept row >>= f, rows.stmt, rows.conn)

/-- `Connection::query_row`; the statement is dropped at its end. -/
def Connection.queryRow (E : Engine κ) (sql : String) (params : Params)
    (f : Row → Outcome Error α) (c : κ) : Outcome Error α × κ :=
  match prepare E sql c with
  | .error e => (.err e, c)
  | .ok s =>
    let (result, s, c) := Rusqlite.queryRow (E.lengthLimit c) params f s c
    (result, s.finalize c)

section First

variable {E : Engine κ} {sql : String} (params : Params) (f : Row → Outcome Error α) {c : κ}
  {s s' : StmtPtr κ}

/-- **Where the parameters are not accepted, the statement is not run.** -/
theorem queryRow_of_refused {e : Error} (hp : prepare E sql c = .ok s)
    (hb : (params.bindIn (E.lengthLimit c) s).1 = .error e) :
    Connection.queryRow E sql params f c = (.err e, c) := by
  have hs := StmtPtr.rests_fresh (E.compile sql c)
  rw [← prepare_ok hp] at hs
  have hr := params.bindIn_rests (E.lengthLimit c) hs
  unfold Connection.queryRow Rusqlite.queryRow
  rw [hp]
  rcases hbind : params.bindIn (E.lengthLimit c) s with ⟨res, s'⟩
  rw [hbind] at hb hr
  cases hb
  simp only [hbind, StmtPtr.finalize, hr.reset]

/-- **The callback gets the first row**, however the statement goes on. -/
theorem queryRow_of_row {x : Row} {after : κ} {halt : Option Failure × κ} {rest : Trace κ}
    (hp : prepare E sql c = .ok s) (hb : params.bindIn (E.lengthLimit c) s = (.ok (), s'))
    (ht : s'.pending c = .row x after halt rest) :
    (Connection.queryRow E sql params f c).1 = f x := by
  obtain ⟨r, hn, _⟩ := Rows.next_of_row (r := Rows.new s' c) rfl ht
  simp only [Connection.queryRow, hp, Rusqlite.queryRow, hb, Rows.getExpectedRow, hn]
  rfl

end First

end NodeRusqlite.Rusqlite
