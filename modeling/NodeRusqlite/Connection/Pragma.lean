/-
  File:      NodeRusqlite/Connection/Pragma.lean
  Subject:   The pragma readers: which row of the result each of them hands out.

  `pragma_query` and `pragma` overwrite one captured variable in a callback
  that is called on every row, so the last row wins; `pragma_query_value` and
  `pragma_update_and_check` hand out the first.

  * `foldList_overwrite`: what is left in the variable.
  * **`pragma_readers_agree_iff`**: the readers agree exactly when the first and the last
    row make the same object.
-/
import NodeRusqlite.Connection.Execute
import NodeRusqlite.Row.Total
import NodeRusqlite.Rusqlite.Pragma

namespace NodeRusqlite

open Basis (Binary64 Outcome)
open Sqlite

variable {κ J : Type}

/-! ## 1. The readers -/

/-- The closure of `pragma_query` and `pragma`: it overwrites what it captures. -/
def overwrite (row : Row) (_value : RowMap) : Outcome Rusqlite.Error RowMap := parseRows row

/-- The body the three `pragma_query_value` methods share. -/
def pragmaQueryValueDirect (env : Env J) (E : Engine κ) (schemaName : Option String)
    (pragmaName : String) (c : κ) : Outcome NapiError J × κ :=
  let (value, c) := Rusqlite.Connection.pragmaQueryValue E schemaName pragmaName parseRows c
  (env.handOut value, c)

/-- The body the three `pragma_query` methods share. -/
def pragmaQueryDirect (env : Env J) (E : Engine κ) (schemaName : Option String)
    (pragmaName : String) (c : κ) : Outcome NapiError J × κ :=
  let (value, c) := Rusqlite.Connection.pragmaQuery E schemaName pragmaName overwrite ∅ c
  (env.handOut value, c)

/-- The body the three `pragma_update_and_check` methods share. -/
def pragmaUpdateAndCheckDirect (env : Env J) (E : Engine κ) (showReal : Binary64 → String)
    (schemaName : Option String) (pragmaName : String) (pragmaValue : Except NapiError Item)
    (c : κ) : Outcome NapiError J × κ :=
  match decodeElement pragmaValue with
  | .error e => (.err e, c)
  | .ok sqlValue =>
    let (value, c) := Rusqlite.Connection.pragmaUpdateAndCheck E showReal schemaName pragmaName
      sqlValue parseRows c
    (env.handOut value, c)

/-- A JavaScript callback, with what it does to the connection. -/
abbrev Callback (κ J : Type) := J → κ → Outcome NapiError Unit × κ

/-- The body the three `pragma` methods share, but for what they make of a failed conversion. -/
def pragmaDirect (convert : Except NapiError J → Outcome NapiError J) (env : Env J)
    (E : Engine κ) (showReal : Binary64 → String) (schemaName : Option String)
    (pragmaName : String) (pragmaValue : Except NapiError Item) (callback : Callback κ J)
    (c : κ) : Outcome NapiError Unit × κ :=
  match decodeElement pragmaValue with
  | .error e => (.err e, c)
  | .ok sqlValue =>
    let (value, c) := Rusqlite.Connection.pragma E showReal schemaName pragmaName sqlValue
      overwrite ∅ c
    match value.mapErr NapiError.ofRusqlite >>= fun value => convert (env.toJsValue value) with
    | .ok value => callback value c
    | .err e => (.err e, c)
    | .panic msg => (.panic msg, c)

/-- `.expect("Unable to convert value")`. -/
def expectConverted : Except NapiError J → Outcome NapiError J
  | .ok value => .ok value
  | .error _ => .panic "Unable to convert value"

/-- `Connection::pragma_query_value`. -/
def Connection.pragmaQueryValue (env : Env J) (E : Engine κ) := pragmaQueryValueDirect env E

/-- `ScopedConnection::pragma_query_value`. -/
def ScopedConnection.pragmaQueryValue (env : Env J) (E : Engine κ) := pragmaQueryValueDirect env E

/-- `Transaction::pragma_query_value`. -/
def Transaction.pragmaQueryValue (env : Env J) (E : Engine κ) := pragmaQueryValueDirect env E

/-- `Connection::pragma_query`. -/
def Connection.pragmaQuery (env : Env J) (E : Engine κ) := pragmaQueryDirect env E

/-- `ScopedConnection::pragma_query`. -/
def ScopedConnection.pragmaQuery (env : Env J) (E : Engine κ) := pragmaQueryDirect env E

/-- `Transaction::pragma_query`. -/
def Transaction.pragmaQuery (env : Env J) (E : Engine κ) := pragmaQueryDirect env E

/-- `Connection::pragma_update_and_check`. -/
def Connection.pragmaUpdateAndCheck (env : Env J) (E : Engine κ) :=
  pragmaUpdateAndCheckDirect env E

/-- `ScopedConnection::pragma_update_and_check`. -/
def ScopedConnection.pragmaUpdateAndCheck (env : Env J) (E : Engine κ) :=
  pragmaUpdateAndCheckDirect env E

/-- `Transaction::pragma_update_and_check`. -/
def Transaction.pragmaUpdateAndCheck (env : Env J) (E : Engine κ) :=
  pragmaUpdateAndCheckDirect env E

/-- `Connection::pragma`. -/
def Connection.pragma (env : Env J) (E : Engine κ) := pragmaDirect Outcome.ofExcept env E

/-- `ScopedConnection::pragma`. -/
def ScopedConnection.pragma (env : Env J) (E : Engine κ) := pragmaDirect expectConverted env E

/-- `Transaction::pragma`. -/
def Transaction.pragma (env : Env J) (E : Engine κ) := pragmaDirect expectConverted env E

namespace Receiver

def pragmaQueryValue (r : Receiver) (env : Env J) (E : Engine κ) :
    Option String → String → κ → Outcome NapiError J × κ :=
  match r with
  | .connection => Connection.pragmaQueryValue env E
  | .scopedConnection => ScopedConnection.pragmaQueryValue env E
  | .transaction => Transaction.pragmaQueryValue env E

def pragmaQuery (r : Receiver) (env : Env J) (E : Engine κ) :
    Option String → String → κ → Outcome NapiError J × κ :=
  match r with
  | .connection => Connection.pragmaQuery env E
  | .scopedConnection => ScopedConnection.pragmaQuery env E
  | .transaction => Transaction.pragmaQuery env E

def pragmaUpdateAndCheck (r : Receiver) (env : Env J) (E : Engine κ) :
    (Binary64 → String) → Option String → String → Except NapiError Item → κ →
      Outcome NapiError J × κ :=
  match r with
  | .connection => Connection.pragmaUpdateAndCheck env E
  | .scopedConnection => ScopedConnection.pragmaUpdateAndCheck env E
  | .transaction => Transaction.pragmaUpdateAndCheck env E

def pragma (r : Receiver) (env : Env J) (E : Engine κ) :
    (Binary64 → String) → Option String → String → Except NapiError Item → Callback κ J → κ →
      Outcome NapiError Unit × κ :=
  match r with
  | .connection => Connection.pragma env E
  | .scopedConnection => ScopedConnection.pragma env E
  | .transaction => Transaction.pragma env E

/-- What the class makes of a failed conversion in `pragma`. -/
def convert (r : Receiver) : Except NapiError J → Outcome NapiError J :=
  match r with
  | .connection => Outcome.ofExcept
  | .scopedConnection | .transaction => expectConverted

variable (r : Receiver) (env : Env J) (E : Engine κ)

theorem pragmaQueryValue_eq : r.pragmaQueryValue env E = pragmaQueryValueDirect env E := by
  cases r <;> rfl

theorem pragmaQuery_eq : r.pragmaQuery env E = pragmaQueryDirect env E := by
  cases r <;> rfl

theorem pragmaUpdateAndCheck_eq :
    r.pragmaUpdateAndCheck env E = pragmaUpdateAndCheckDirect env E := by
  cases r <;> rfl

theorem pragma_eq : r.pragma env E = pragmaDirect r.convert env E := by
  cases r <;> rfl

theorem convert_eq_ok_iff {x : Except NapiError J} {j : J} : r.convert x = .ok j ↔ x = .ok j := by
  cases x with
  | ok k => cases r <;> simp [convert, expectConverted, Outcome.ofExcept]
  | error e => cases r <;> simp [convert, expectConverted, Outcome.ofExcept]

end Receiver

/-! ## 2. What is left in the captured variable -/

/-- A row that is read makes a map, any other one a panic. -/
theorem exists_parseRows_iff (row : Row) : (∃ m, parseRows row = .ok m) ↔ Readable row := by
  rw [← parseRows_returns_iff]
  cases h : parseRows row with
  | ok m => exact iff_of_true ⟨m, rfl⟩ (Outcome.returns_ok m)
  | err e => exact absurd h (parseRows_ne_err row e)
  | panic msg => exact iff_of_false nofun (Outcome.not_returns_panic msg)

/-- **The last row wins**, if all of them can be read. -/
theorem foldList_overwrite (first : Row) (rest : List Row) (value m : RowMap) :
    Rusqlite.foldList overwrite (first :: rest) value = .ok m ↔
      (∀ row ∈ first :: rest, Readable row) ∧ parseRows (rest.getLastD first) = .ok m := by
  induction rest generalizing first value with
  | nil =>
    simp only [Rusqlite.foldList, Outcome.bind_eq_ok, overwrite, List.getLastD_nil,
      List.forall_mem_singleton, Outcome.ok.injEq, exists_eq_right]
    exact (and_iff_right_of_imp fun h => (exists_parseRows_iff first).mp ⟨m, h⟩).symm
  | cons second rest ih =>
    rw [Rusqlite.foldList, Outcome.bind_eq_ok, List.forall_mem_cons, List.getLastD_cons,
      ← exists_parseRows_iff first]
    simp only [ih, overwrite]
    refine ⟨fun h => ?_, fun h => ?_⟩
    · obtain ⟨m₀, hfirst, hrest, hlast⟩ := h
      exact ⟨⟨⟨m₀, hfirst⟩, hrest⟩, hlast⟩
    · obtain ⟨⟨⟨m₀, hfirst⟩, hrest⟩, hlast⟩ := h
      exact ⟨m₀, hfirst, hrest, hlast⟩

/-! ## 3. The readers agree -/

/-- The row is read, and makes the object. -/
def Makes (env : Env J) (row : Row) (j : J) : Prop :=
  ∃ m, parseRows row = .ok m ∧ env.toJsValue m = .ok j

/-- Every row can be read, and the first and the last one make the same object. -/
def SameEnds (env : Env J) (first : Row) (rest : List Row) : Prop :=
  (∀ row ∈ first :: rest, Readable row) ∧
    ∃ j, Makes env first j ∧ Makes env (rest.getLastD first) j

/-- `pragma_query_value` and `pragma_query` return the same object. -/
def QueriesAgree (r : Receiver) (env : Env J) (E : Engine κ) (schemaName : Option String)
    (pragmaName : String) (c : κ) : Prop :=
  ∃ j, (r.pragmaQueryValue env E schemaName pragmaName c).1 = .ok j ∧
    (r.pragmaQuery env E schemaName pragmaName c).1 = .ok j

/-- Whatever the callback is, `pragma` calls it with the object that `pragma_update_and_check`
    returns. -/
def UpdatesAgree (r : Receiver) (env : Env J) (E : Engine κ) (showReal : Binary64 → String)
    (schemaName : Option String) (pragmaName : String) (pragmaValue : Except NapiError Item)
    (c : κ) : Prop :=
  ∃ j, (r.pragmaUpdateAndCheck env E showReal schemaName pragmaName pragmaValue c).1 = .ok j ∧
    ∃ c', ∀ callback,
      r.pragma env E showReal schemaName pragmaName pragmaValue callback c = callback j c'

section Agree

variable {env : Env J} {E : Engine κ} {schemaName : Option String} {pragmaName : String} {c : κ}
  {first : Row} {rest : List Row}

theorem handOut_first {j : J} : env.handOut (parseRows first) = .ok j ↔ Makes env first j :=
  env.handOut_eq_ok

theorem handOut_last {j : J} : env.handOut (Rusqlite.foldList overwrite (first :: rest) ∅) = .ok j ↔
    (∀ row ∈ first :: rest, Readable row) ∧ Makes env (rest.getLastD first) j := by
  simp only [Env.handOut_eq_ok, foldList_overwrite, Makes, and_assoc, exists_and_left]

/-- The first row's object is what is left of all the rows. -/
theorem sameEnds_iff : SameEnds env first rest ↔
    ∃ j, env.handOut (parseRows first) = .ok j ∧
      env.handOut (Rusqlite.foldList overwrite (first :: rest) ∅) = .ok j := by
  simp only [handOut_first, handOut_last]
  refine ⟨fun h => ?_, fun h => ?_⟩
  · obtain ⟨hread, j, h₁, h₂⟩ := h
    exact ⟨j, h₁, hread, h₂⟩
  · obtain ⟨j, h₁, hread, h₂⟩ := h
    exact ⟨hread, j, h₁, h₂⟩

/-- A call that ends in a value hands exactly that to its callback. -/
theorem hands_iff (r : Receiver) {value : Outcome Rusqlite.Error RowMap} {c₁ : κ} {j : J} :
    (∃ c', ∀ callback : Callback κ J,
      (match value.mapErr NapiError.ofRusqlite >>= fun value => r.convert (env.toJsValue value) with
        | .ok value => callback value c₁
        | .err e => (.err e, c₁)
        | .panic msg => (.panic msg, c₁)) = callback j c') ↔ env.handOut value = .ok j := by
  have hvalue : (value.mapErr NapiError.ofRusqlite >>= fun value =>
      r.convert (env.toJsValue value)) = .ok j ↔ env.handOut value = .ok j := by
    rw [Env.handOut_eq_ok, Outcome.bind_eq_ok]
    cases value with
    | ok m => simp only [Outcome.mapErr, Outcome.ok.injEq, r.convert_eq_ok_iff]
    | err e => exact iff_of_false nofun nofun
    | panic msg => exact iff_of_false nofun nofun
  rw [← hvalue]
  generalize value.mapErr NapiError.ofRusqlite >>=
    (fun value => r.convert (env.toJsValue value)) = x
  refine ⟨fun h => ?_, fun h => ?_⟩
  · obtain ⟨c', h⟩ := h
    cases x with
    | ok k =>
      -- a callback that tells the two objects apart
      classical
      have hk := congrArg Prod.fst
        (h fun k' c => (if k' = j then .ok () else .err (NapiError.fromReason ""), c))
      by_cases hkj : k = j
      · rw [hkj]
      · simp [hkj] at hk
    | err e =>
      have he := congrArg Prod.fst (h fun _ c => (.ok (), c))
      cases he
    | panic msg =>
      have hp := congrArg Prod.fst (h fun _ c => (.ok (), c))
      cases hp
  · rw [h]
    exact ⟨c₁, fun _ => rfl⟩

theorem queriesAgree_iff (r : Receiver)
    (h : Rusqlite.Delivers E (Rusqlite.Sql.query schemaName pragmaName) c (first :: rest)) :
    QueriesAgree r env E schemaName pragmaName c ↔ SameEnds env first rest := by
  have hfirst : (r.pragmaQueryValue env E schemaName pragmaName c).1 =
      env.handOut (parseRows first) := by
    rw [r.pragmaQueryValue_eq, ← Rusqlite.queryRow_of_delivers h parseRows]
    rfl
  have hlast : (r.pragmaQuery env E schemaName pragmaName c).1 =
      env.handOut (Rusqlite.foldList overwrite (first :: rest) ∅) := by
    rw [r.pragmaQuery_eq, ← Rusqlite.forEachRow_of_delivers h overwrite ∅]
    rfl
  unfold QueriesAgree
  rw [hfirst, hlast, sameEnds_iff]

theorem updatesAgree_iff (r : Receiver) {showReal : Binary64 → String}
    {pragmaValue : Except NapiError Item} {v : Value} (hv : decodeElement pragmaValue = .ok v)
    (hassign : Rusqlite.Delivers E (Rusqlite.Sql.assign showReal schemaName pragmaName v) c
      (first :: rest))
    (hcall : Rusqlite.Delivers E (Rusqlite.Sql.call showReal schemaName pragmaName v) c
      (first :: rest)) :
    UpdatesAgree r env E showReal schemaName pragmaName pragmaValue c ↔
      SameEnds env first rest := by
  have hfirst : (r.pragmaUpdateAndCheck env E showReal schemaName pragmaName pragmaValue c).1 =
      env.handOut (parseRows first) := by
    rw [r.pragmaUpdateAndCheck_eq, ← Rusqlite.queryRow_of_delivers hassign parseRows]
    simp only [pragmaUpdateAndCheckDirect, hv]
    rfl
  have hlast : ∀ j, (∃ c', ∀ callback,
      r.pragma env E showReal schemaName pragmaName pragmaValue callback c = callback j c') ↔
        env.handOut (Rusqlite.foldList overwrite (first :: rest) ∅) = .ok j := by
    intro j
    rw [← Rusqlite.forEachRow_of_delivers hcall overwrite ∅, ← hands_iff r]
    simp only [r.pragma_eq, pragmaDirect, hv]
    rfl
  unfold UpdatesAgree
  rw [hfirst, sameEnds_iff]
  exact exists_congr fun j => and_congr_right fun _ => hlast j

/-- **On a result of one or more rows the readers agree exactly when the first and the last row
    make the same object**, and every row can be read. -/
theorem pragma_readers_agree_iff (r : Receiver) (env : Env J) (E : Engine κ)
    (showReal : Binary64 → String) (schemaName : Option String) (pragmaName : String) (c : κ)
    (first : Row) (rest : List Row) :
    (Rusqlite.Delivers E (Rusqlite.Sql.query schemaName pragmaName) c (first :: rest) →
      (QueriesAgree r env E schemaName pragmaName c ↔ SameEnds env first rest)) ∧
    ∀ pragmaValue v, decodeElement pragmaValue = .ok v →
      Rusqlite.Delivers E (Rusqlite.Sql.assign showReal schemaName pragmaName v) c
        (first :: rest) →
      Rusqlite.Delivers E (Rusqlite.Sql.call showReal schemaName pragmaName v) c
        (first :: rest) →
      (UpdatesAgree r env E showReal schemaName pragmaName pragmaValue c ↔
        SameEnds env first rest) :=
  ⟨queriesAgree_iff r, fun _ _ => updatesAgree_iff r⟩

end Agree

/-! ## 4. Results of several rows -/

/-- A statement that delivers these rows. -/
def rowsOf (rows : List Row) : Program Unit where
  paramCount := 0
  returnsColumns := true
  readonly := true
  run _ _ := rows.foldr (fun row rest => .row row () (none, ()) rest) (.done ())

/-- An engine whose one text it is. -/
def delivering (rows : List Row) : Engine Unit :=
  { ScopedStatement.bare with compile := fun _ _ => some (rowsOf rows) }

theorem rowsOf_run (rows : List Row) (bindings : List ValueRef) :
    ((rowsOf rows).run bindings ()).rows = rows ∧
      ((rowsOf rows).run bindings ()).failure = none := by
  induction rows with
  | nil => exact ⟨rfl, rfl⟩
  | cons row rows ih => exact ⟨congrArg (row :: ·) ih.1, ih.2⟩

theorem delivering_delivers (rows : List Row) {name sql : String}
    (hsql : Rusqlite.Sql.query none name = .ok sql) (hlt : sql.utf8ByteSize < 2 ^ 31) :
    Rusqlite.Delivers (delivering rows) (Rusqlite.Sql.query none name) () rows := by
  refine ⟨sql, rowsOf rows, hsql, ?_, rfl, (rowsOf_run rows _).1, (rowsOf_run rows _).2⟩
  rw [Rusqlite.prepare_eq, Rusqlite.prepareFirst, if_neg (Nat.not_le.mpr hlt)]
  rfl

/-- A row of `PRAGMA foreign_key_check`, for a table without rowids. -/
def violation : Row :=
  [⟨⟨"table", none⟩, .text "t".toByteArray⟩, ⟨⟨"rowid", none⟩, .null⟩,
    ⟨⟨"parent", none⟩, .text "p".toByteArray⟩, ⟨⟨"fkid", none⟩, .integer 0⟩]

/-- Three rows of one table that violate one constraint: the readers agree. -/
theorem pragma_readers_agree_violations :
    QueriesAgree .connection plainRows (delivering [violation, violation, violation]) none
      "foreign_key_check" () := by
  have hgood : ∀ cell ∈ violation, ¬ cell.value.BadText := by decide
  have hread := parseRows_eq hgood
  have hdel := delivering_delivers [violation, violation, violation]
    (show Rusqlite.Sql.query none "foreign_key_check" = .ok "PRAGMA foreign_key_check" from rfl)
    (by decide)
  refine ((pragma_readers_agree_iff .connection plainRows _ (fun _ => "0") none
    "foreign_key_check" () violation [violation, violation]).1 hdel).mpr ⟨?_, _,
      ⟨_, hread, rfl⟩, ⟨_, hread, rfl⟩⟩
  intro row hrow
  have hrow : row = violation := by
    simpa only [List.mem_cons, List.not_mem_nil, or_false, or_self] using hrow
  rw [hrow, ← exists_parseRows_iff]
  exact ⟨_, hread⟩

/-- A row of `PRAGMA database_list`. -/
def databaseRow (seq : Int64) (name : String) : Row :=
  [⟨⟨"seq", none⟩, .integer seq⟩, ⟨⟨"name", none⟩, .text name.toByteArray⟩,
    ⟨⟨"file", none⟩, .text "".toByteArray⟩]

/-- The databases `main` and `aux`. -/
def mainAndAux : List Row := [databaseRow 0 "main", databaseRow 2 "aux"]

/-- With an attached database `pragma_query_value` returns the row of `main`, and `pragma_query`
    that of the attached one. -/
theorem pragma_readers_differ :
    (Connection.pragmaQueryValue plainRows (delivering mainAndAux) none "database_list" ()).1 =
        .ok (builtMap (databaseRow 0 "main")) ∧
      (Connection.pragmaQuery plainRows (delivering mainAndAux) none "database_list" ()).1 =
        .ok (builtMap (databaseRow 2 "aux")) ∧
      ¬ QueriesAgree .connection plainRows (delivering mainAndAux) none "database_list" () := by
  have hmain : parseRows (databaseRow 0 "main") = .ok (builtMap (databaseRow 0 "main")) :=
    parseRows_eq (by decide)
  have haux : parseRows (databaseRow 2 "aux") = .ok (builtMap (databaseRow 2 "aux")) :=
    parseRows_eq (by decide)
  have hdel := delivering_delivers mainAndAux
    (show Rusqlite.Sql.query none "database_list" = .ok "PRAGMA database_list" from rfl) (by decide)
  have hfirst : (Connection.pragmaQueryValue plainRows (delivering mainAndAux) none
      "database_list" ()).1 = .ok (builtMap (databaseRow 0 "main")) := by
    have h := Rusqlite.queryRow_of_delivers hdel parseRows
    rw [hmain] at h
    exact congrArg plainRows.handOut h
  have hlast : (Connection.pragmaQuery plainRows (delivering mainAndAux) none
      "database_list" ()).1 = .ok (builtMap (databaseRow 2 "aux")) := by
    have h := Rusqlite.forEachRow_of_delivers hdel overwrite ∅
    simp only [mainAndAux, Rusqlite.foldList, overwrite, hmain, haux, Outcome.ok_bind] at h
    exact congrArg plainRows.handOut h
  refine ⟨hfirst, hlast, fun h => ?_⟩
  obtain ⟨j, h₁, h₂⟩ := h
  have hsame := Outcome.ok.inj ((hfirst.symm.trans h₁).trans (h₂.symm.trans hlast))
  have hname := congrArg (Finmap.lookup "name") hsame
  exact absurd hname (by decide)

end NodeRusqlite
