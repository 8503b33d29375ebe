/-
  File:      NodeRusqlite/Connection/QueryRow.lean
  Subject:   `query_row(sql, params)`: positional parameters, read back from the row they
             are selected into.

  * `maps_builtMap`: the map of a row whose columns hold a list.
  * **`query_row_reads_back`**: a list of the right length comes back, any other one is
    refused before the statement is run.
-/
import NodeRusqlite.Connection.Execute
import NodeRusqlite.Rusqlite.QueryRow

namespace NodeRusqlite

open Basis (Outcome sameName sameName_comm)
open Sqlite

variable {κ J : Type}

/-! ## 1. `query_row` -/

/-- The body the three `query_row` methods share. -/
def queryRowDirect (env : Env J) (E : Engine κ) (sql : String) (sqlParams : JsArray) (c : κ) :
    Outcome NapiError J × κ :=
  let sqlParams := match decodeParams sqlParams with
    | .ok sqlParams => sqlParams
    | .error _ => []
  let (row, c) := Rusqlite.Connection.queryRow E sql (.fromIter sqlParams) parseRows c
  (env.handOut row, c)

/-- `Connection::query_row`. -/
def Connection.queryRow (env : Env J) (E : Engine κ) := queryRowDirect env E

/-- `ScopedConnection::query_row`. -/
def ScopedConnection.queryRow (env : Env J) (E : Engine κ) := queryRowDirect env E

/-- `Transaction::query_row`. -/
def Transaction.queryRow (env : Env J) (E : Engine κ) := queryRowDirect env E

def Receiver.queryRow (r : Receiver) (env : Env J) (E : Engine κ) :
    String → JsArray → κ → Outcome NapiError J × κ :=
  match r with
  | .connection => Connection.queryRow env E
  | .scopedConnection => ScopedConnection.queryRow env E
  | .transaction => Transaction.queryRow env E

theorem Receiver.queryRow_eq (r : Receiver) (env : Env J) (E : Engine κ) :
    r.queryRow env E = queryRowDirect env E := by
  cases r <;> rfl

/-! ## 2. A row that holds a list -/

/-- The map sends each name to the value at its place, and has no other keys. -/
def Maps (names : List String) (vs : List Value) (m : RowMap) : Prop :=
  ∀ k v, m.lookup k = some v ↔ ∃ i : Nat, names[i]? = some k ∧ vs[i]? = some v

/-- No two of the names are equal ignoring ASCII case. -/
def Distinct (names : List String) : Prop := names.Pairwise fun a b => sameName a b = false

instance : DecidablePred Distinct := fun names =>
  inferInstanceAs (Decidable (names.Pairwise fun a b => sameName a b = false))

section Maps

variable {row : Row} {vs : List Value}

/-- Columns whose names are equal ignoring case are the same column. -/
theorem Distinct.eq_of_sameName (hd : Distinct (columnNames row)) {a b : Cell} (ha : a ∈ row)
    (hb : b ∈ row) (hab : sameName a.column.name b.column.name = true) : a = b := by
  obtain ⟨i, hi, rfl⟩ := List.getElem_of_mem ha
  obtain ⟨j, hj, rfl⟩ := List.getElem_of_mem hb
  have hpair := List.pairwise_iff_getElem.mp hd
  simp only [columnNames, List.length_map, List.getElem_map] at hpair
  rcases Nat.lt_trichotomy i j with hij | rfl | hji
  · rw [hpair i j hi hj hij] at hab
    cases hab
  · rfl
  · rw [sameName_comm, hpair j i hj hi hji] at hab
    cases hab

theorem Distinct.nodup {names : List String} (hd : Distinct names) : names.Nodup := by
  refine hd.imp fun {a b} hab heq => ?_
  rw [heq, Basis.sameName_refl] at hab
  cases hab

/-- **A row whose columns hold the elements of a list, under names distinct up to case, is read as
    the map from each name to its element.** -/
theorem maps_builtMap (hd : Distinct (columnNames row))
    (hv : row.map Cell.value = vs.map fun v => ValueRef.ofOwned v.owned) :
    (∀ cell ∈ row, ¬ cell.value.BadText) ∧ Maps (columnNames row) vs (builtMap row) := by
  have hcell : ∀ (i : Nat) (cell : Cell), row[i]? = some cell →
      ∃ v, vs[i]? = some v ∧ Value.converted cell.value = some v := by
    intro i cell hi
    have hplace := congrArg (·[i]?) hv
    simp only [List.getElem?_map, hi, Option.map_some] at hplace
    obtain ⟨v, hvi, hval⟩ := Option.map_eq_some_iff.mp hplace.symm
    exact ⟨v, hvi, Value.converted_eq_some.mpr hval.symm⟩
  have hgood : ∀ cell ∈ row, ¬ cell.value.BadText := by
    intro cell hc
    obtain ⟨i, hi⟩ := List.getElem?_of_mem hc
    obtain ⟨v, _, hconv⟩ := hcell i cell hi
    exact (Value.converted_isSome_iff _).mp ⟨v, hconv⟩
  have hcarries : Carries row (builtMap row) := by
    refine (carries_builtMap_iff hd.nodup hgood).mpr fun a ha b hb hab => ?_
    rw [hd.eq_of_sameName ha hb hab]
  have hplace : ∀ (i : Nat) (k : String), (columnNames row)[i]? = some k →
      ∃ v, vs[i]? = some v ∧ (builtMap row).lookup k = some v := by
    intro i k hk
    rw [columnNames, List.getElem?_map] at hk
    obtain ⟨cell, hi, rfl⟩ := Option.map_eq_some_iff.mp hk
    obtain ⟨v, hvi, hconv⟩ := hcell i cell hi
    obtain ⟨w, hw, hl⟩ := hcarries.2 cell (List.mem_of_getElem? hi)
    cases hconv.symm.trans hw
    exact ⟨v, hvi, hl⟩
  refine ⟨hgood, fun k v => ⟨fun hl => ?_, fun ⟨i, hk, hvi⟩ => ?_⟩⟩
  · have hmem : k ∈ columnNames row :=
      (hcarries.1 k).mp (Finmap.lookup_isSome.mp (hl ▸ rfl))
    obtain ⟨i, hi⟩ := List.getElem?_of_mem hmem
    obtain ⟨w, hwi, hw⟩ := hplace i k hi
    cases hl.symm.trans hw
    exact ⟨i, hi, hwi⟩
  · obtain ⟨w, hwi, hw⟩ := hplace i k hk
    cases hvi.symm.trans hwi
    exact hw

end Maps

/-! ## 3. Positional parameters -/

/-- The statement takes a parameter for each name and returns one row, whose column of that name
    holds the parameter. -/
structure Selects (p : Program κ) (names : List String) : Prop where
  paramCount : p.paramCount = names.length
  row : ∀ bindings c, bindings.length = names.length → ∃ row, (p.run bindings c).rows = [row] ∧
    columnNames row = names ∧ row.map Cell.value = bindings

/-- The call returns the error; the connection stays as it is, and no statement is run. -/
def FailsUnrun (r : Receiver) (env : Env J) (E : Engine κ) (sql : String) (params : JsArray)
    (c : κ) (e : Rusqlite.Error) : Prop :=
  r.queryRow env E sql params c = (.err (NapiError.ofRusqlite e), c) ∧
    ∀ n, r.queryRow env E.counting sql params (c, n) = (.err (NapiError.ofRusqlite e), c, n)

section ReadBack

variable {env : Env J} {E : Engine κ} {sql : String} {params : JsArray} {c : κ} {p : Program κ}
  {names : List String} {vs : List Value}

theorem queryRowDirect_of_ok (h : decodeParams params = .ok vs) :
    queryRowDirect env E sql params c =
      let (row, c) := Rusqlite.Connection.queryRow E sql (.fromIter vs) parseRows c
      (env.handOut row, c) := by
  simp only [queryRowDirect, h]

/-- A list that is not accepted. -/
theorem queryRow_refused (r : Receiver) (env : Env J) {e : Rusqlite.Error}
    (h : decodeParams params = .ok vs)
    (hp : Rusqlite.prepare E sql c = .ok (StmtPtr.fresh (some p)))
    (hb : (Rusqlite.bindParameters (E.lengthLimit c) vs (some (Stmt.fresh p))).1 = .error e) :
    FailsUnrun r env E sql params c e := by
  refine ⟨?_, fun n => ?_⟩
  · rw [r.queryRow_eq, queryRowDirect_of_ok h,
      Rusqlite.queryRow_of_refused (.fromIter vs) parseRows hp hb]
    rfl
  · have hp' : Rusqlite.prepare E.counting sql (c, n) =
        .ok ((StmtPtr.fresh (some p)).counted n) := by
      rw [prepare_counting, hp]
    have hb' : (Rusqlite.bindParameters (E.lengthLimit c) vs
        (StmtPtr.counted n (some (Stmt.fresh p)))).1 = .error e := by
      rw [bindParameters_counted]
      exact hb
    rw [r.queryRow_eq, queryRowDirect_of_ok h,
      Rusqlite.queryRow_of_refused (.fromIter vs) parseRows hp' hb']
    rfl

/-- A real that is not NaN is bound as it is, and so is any other value. -/
theorem bound_eq {v : Value} (h : ∀ r, v = .real r → r.isNaN = false) :
    Rusqlite.bound v = ValueRef.ofOwned v.owned := by
  cases v with
  | real r =>
    show (if r.isNaN then ValueRef.null else .real r) = .real r
    rw [h r rfl, if_neg Bool.false_ne_true]
  | null | integer i | text s | blob b => rfl

/-- A list that is accepted. -/
theorem queryRow_accepted (r : Receiver) (h : decodeParams params = .ok vs)
    (hp : Rusqlite.prepare E sql c = .ok (StmtPtr.fresh (some p))) (hsel : Selects p names)
    (hd : Distinct names) (hreal : ∀ x, .real x ∈ vs → x.isNaN = false)
    (hfit : ∀ v ∈ vs, Rusqlite.Fits (E.lengthLimit c) v) (hlen : vs.length = names.length) :
    ∃ m, Maps names vs m ∧
      (r.queryRow env E sql params c).1 = Outcome.ofExcept (env.toJsValue m) := by
  have hcount : (vs.map Rusqlite.bound).length = (Stmt.fresh p).prog.paramCount := by
    rw [List.length_map, hlen]
    exact hsel.paramCount.symm
  have hstored : vs.map Rusqlite.bound = vs.map fun v => ValueRef.ofOwned v.owned :=
    List.map_congr_left fun v hv => bound_eq fun x hx => hreal x (hx ▸ hv)
  have hbind : Rusqlite.bindParameters (E.lengthLimit c) vs (some (Stmt.fresh p)) =
      (.ok (), some ((Stmt.fresh p).setFrom 0 (vs.map Rusqlite.bound))) :=
    (Rusqlite.bindParameters_ok_iff (Stmt.fresh_vm p) vs).mpr
      ⟨hlen.trans hsel.paramCount.symm, hfit, rfl⟩
  obtain ⟨row, hrows, rfl, hvalues⟩ := hsel.row (vs.map Rusqlite.bound) c
    (by rw [List.length_map, hlen])
  have hpending : StmtPtr.pending (some ((Stmt.fresh p).setFrom 0 (vs.map Rusqlite.bound))) c =
      p.run (vs.map Rusqlite.bound) c := by
    show Stmt.pending _ c = _
    rw [Stmt.pending_of_ready (by rw [Stmt.setFrom_vm]; rfl), Stmt.setFrom_bindings_eq _ hcount,
      Stmt.setFrom_prog]
    rfl
  obtain ⟨after, halt, rest, htrace, _⟩ := Trace.eq_row_of_rows hrows
  obtain ⟨hgood, hmaps⟩ := maps_builtMap hd (hvalues.trans hstored)
  refine ⟨builtMap row, hmaps, ?_⟩
  have hfirst := Rusqlite.queryRow_of_row (.fromIter vs) parseRows hp hbind
    (hpending.trans htrace)
  rw [r.queryRow_eq, queryRowDirect_of_ok h]
  dsimp only
  rw [hfirst, parseRows_eq hgood]
  rfl

/-- **A list of the right length, of values within SQLite's length limit, comes back under the
    columns' names; a list of another length is refused before the statement is run.** -/
theorem query_row_reads_back (r : Receiver) (env : Env J)
    (hp : Rusqlite.prepare E sql c = .ok (StmtPtr.fresh (some p))) (hsel : Selects p names)
    (hd : Distinct names) (vs : List Value) (hreal : ∀ x, .real x ∈ vs → x.isNaN = false) :
    (∃ params, decodeParams params = .ok vs) ∧ ∀ params, decodeParams params = .ok vs →
      ((∀ v ∈ vs.take names.length, Rusqlite.Fits (E.lengthLimit c) v) →
        (vs.length = names.length → ∃ m, Maps names vs m ∧
          (r.queryRow env E sql params c).1 = Outcome.ofExcept (env.toJsValue m)) ∧
        (vs.length ≠ names.length → FailsUnrun r env E sql params c
          (.invalidParameterCount (min vs.length (names.length + 1)) names.length))) ∧
      ((∃ v ∈ vs.take names.length, ¬ Rusqlite.Fits (E.lengthLimit c) v) →
        FailsUnrun r env E sql params c (.sqliteFailure .tooBig)) := by
  have hcount : (Stmt.fresh p).prog.paramCount = names.length := hsel.paramCount
  refine ⟨exists_decodeParams vs, fun params h => ⟨fun hfit => ⟨fun hlen => ?_, fun hlen => ?_⟩,
    fun hbig => ?_⟩⟩
  · rw [← hlen, List.take_length] at hfit
    exact queryRow_accepted r h hp hsel hd hreal hfit hlen
  · rw [← hcount] at hfit hlen ⊢
    exact queryRow_refused r env h hp (Rusqlite.bindParameters_fit (Stmt.fresh_vm p) hfit hlen)
  · rw [← hcount] at hbig
    exact queryRow_refused r env h hp (Rusqlite.bindParameters_tooBig (Stmt.fresh_vm p) hbig)

end ReadBack

/-! ## 4. A statement that selects its parameters -/

/-- `SELECT ?1 AS a, ?2 AS b, ..` for the names `a`, `b`, .. -/
def echo (names : List String) : Program Unit where
  paramCount := names.length
  returnsColumns := true
  readonly := true
  run bindings _ :=
    .row ((names.zip bindings).map fun e => ⟨⟨e.1, none⟩, e.2⟩) () (none, ()) (.done ())

theorem echo_selects (names : List String) : Selects (echo names) names where
  paramCount := rfl
  row bindings c h := by
    refine ⟨_, rfl, ?_, ?_⟩
    · rw [columnNames, List.map_map]
      exact List.map_fst_zip (Nat.le_of_eq h.symm)
    · rw [List.map_map]
      exact List.map_snd_zip (Nat.le_of_eq h)

/-- An engine whose one text is that statement. -/
def echoing (names : List String) : Engine Unit :=
  { ScopedStatement.bare with compile := fun _ _ => some (echo names) }

theorem prepare_echoing (names : List String) :
    Rusqlite.prepare (echoing names) "SELECT" () = .ok (StmtPtr.fresh (some (echo names))) := by
  rw [Rusqlite.prepare_eq]
  rfl

/-- The empty text and the empty blob come back. -/
theorem query_row_reads_empty : ∃ m, Maps ["a", "b"] [.text "", .blob ⟨#[]⟩] m ∧
    (Receiver.connection.queryRow plainRows (echoing ["a", "b"]) "SELECT"
      [.ok (.str ""), .ok (.seq [])] ()).1 = .ok m := by
  have hreal : ∀ x, Value.real x ∈ [Value.text "", .blob ⟨#[]⟩] → x.isNaN = false := by
    intro x hx
    simp at hx
  refine (((query_row_reads_back .connection plainRows (prepare_echoing ["a", "b"])
    (echo_selects _) (by decide) _ hreal).2 [.ok (.str ""), .ok (.seq [])] rfl).1 ?_).1 rfl
  intro v hv
  simp only [List.length_cons, List.length_nil, Nat.zero_add, List.take_succ_cons, List.take_nil,
    List.mem_cons, List.not_mem_nil, or_false] at hv
  rcases hv with rfl | rfl
  · exact Nat.zero_le _
  · exact Nat.zero_le _

/-- A JavaScript string of 333333334 euro signs. -/
@[irreducible] def longText : String := String.ofList (List.replicate 333333334 '€')

theorem utf8ByteSize_replicate (n : Nat) :
    (String.ofList (List.replicate n '€')).utf8ByteSize = 3 * n := by
  induction n with
  | zero => rfl
  | succ n ih =>
    have hone : (String.ofList ['€']).utf8ByteSize = 3 := by decide
    rw [List.replicate_succ, ← List.singleton_append, String.ofList_append,
      String.utf8ByteSize_append, ih, hone]
    omega

/-- Its bytes are over the limit of 10^9: it is not bound, and the call fails. -/
theorem query_row_refuses_long_text :
    decodeParams [.ok (.str longText)] = .ok [.text longText] ∧
      Receiver.connection.queryRow plainRows (echoing ["a"]) "SELECT" [.ok (.str longText)] () =
        (.err ⟨.genericFailure, "string or blob too big"⟩, ()) ∧
      ¬ ∃ m, Maps ["a"] [.text longText] m ∧
        (Receiver.connection.queryRow plainRows (echoing ["a"]) "SELECT"
          [.ok (.str longText)] ()).1 = Outcome.ofExcept (plainRows.toJsValue m) := by
  have hdecode : decodeParams [.ok (.str longText)] = .ok [.text longText] := rfl
  have hbig : ¬ Rusqlite.Fits 1000000000 (.text longText) := by
    have hsize : longText.utf8ByteSize = 1000000002 := by
      unfold longText
      exact utf8ByteSize_replicate 333333334
    show ¬ longText.utf8ByteSize ≤ 1000000000
    omega
  have hrefused := queryRow_refused .connection plainRows hdecode (prepare_echoing ["a"])
    (Rusqlite.bindParameters_tooBig (Stmt.fresh_vm _) ⟨_, List.mem_cons_self, hbig⟩)
  refine ⟨hdecode, hrefused.1, fun h => ?_⟩
  obtain ⟨m, _, hm⟩ := h
  rw [hrefused.1] at hm
  cases hm

end NodeRusqlite
