/-
  File:      NodeRusqlite/Rusqlite/Pragma.lean
  Subject:   The pragma helpers of rusqlite: the texts they build, and the two ways they
             read the result.

  `pragma_query_value` and `pragma_update_and_check` hand the first row to their
  callback and stop; `pragma_query` and `pragma` hand it every row.

  * `eachRow_spec`: the loop folds the callback over the rows of the trace.
  * `queryRow_of_delivers`, `forEachRow_of_delivers`: both ways, on a text that
    delivers given rows.
-/
import NodeRusqlite.Rusqlite.QueryRow

namespace NodeRusqlite.Rusqlite

open Basis (Binary64 Outcome)
open Sqlite

variable {κ α σ : Type}

/-! ## 1. The texts -/

namespace Sql

/-- `is_identifier_start`. -/
def isIdentifierStart (c : Char) : Bool :=
  ('A' ≤ c && c ≤ 'Z') || c == '_' || ('a' ≤ c && c ≤ 'z') || '\x7F' < c

/-- `is_identifier_continue`. -/
def isIdentifierContinue (c : Char) : Bool :=
  c == '$' || ('0' ≤ c && c ≤ '9') || ('A' ≤ c && c ≤ 'Z') || c == '_' ||
    ('a' ≤ c && c ≤ 'z') || '\x7F' < c

/-- `is_identifier`. -/
def isIdentifier (s : String) : Bool :=
  match s.toList with
  | [] => true
  | ch :: rest => isIdentifierStart ch && rest.all isIdentifierContinue

/-- `err!(ffi::SQLITE_MISUSE, ..)`. -/
def misuse (message : String) : Error := .sqliteFailure ⟨21, message, Failure.misuse.isError⟩

/-- `Sql::wrap_and_escape`. -/
def wrapAndEscape (buf s : String) (quote : Char) : String :=
  let doubled := s.toList.flatMap fun ch => if ch = quote then [ch, ch] else [ch]
  (buf.push quote ++ String.ofList doubled).push quote

/-- `Sql::push_keyword`. -/
def pushKeyword (buf keyword : String) : Except Error String :=
  if !keyword.isEmpty && isIdentifier keyword then .ok (buf ++ keyword)
  else .error (misuse ("Invalid keyword \"" ++ keyword ++ "\""))

/-- `Sql::push_schema_name`, `Sql::push_identifier`. -/
def pushIdentifier (buf s : String) : String :=
  if isIdentifier s then buf ++ s else wrapAndEscape buf s '\x22'

/-- `Sql::push_pragma`. -/
def pushPragma (buf : String) (schemaName : Option String) (pragmaName : String) :
    Except Error String :=
  match pushKeyword buf "PRAGMA" with
  | .error e => .error e
  | .ok buf =>
    let buf := buf.push ' '
    let buf := match schemaName with
      | some schemaName => (pushIdentifier buf schemaName).push '.'
      | none => buf
    pushKeyword buf pragmaName

/-- The error of `push_value`, with the `Debug` text of the value. -/
def unsupported (debug : String) : Error := misuse ("Unsupported value \"" ++ debug ++ "\"")

/-- The `Debug` text of a blob. -/
def debugBlob (b : ByteArray) : String :=
  "Blob([" ++ ", ".intercalate (b.data.toList.map fun byte => toString byte.toNat) ++ "])"

/-- `Sql::push_value`; `showReal` is the `Display` text of an `f64`. -/
def pushValue (showReal : Binary64 → String) (buf : String) (value : NodeRusqlite.Value) :
    Except Error String :=
  match value.toSql with
  | .error e => .error e
  | .ok (.integer i) => .ok (buf ++ toString i.toInt)
  | .ok (.real r) => .ok (buf ++ showReal r)
  | .ok (.text s) => .ok (wrapAndEscape buf s '\x27')
  | .ok .null => .error (unsupported "Null")
  | .ok (.blob b) => .error (unsupported (debugBlob b))

/-- The text of `pragma_query_value` and `pragma_query`. -/
def query (schemaName : Option String) (pragmaName : String) : Except Error String :=
  pushPragma "" schemaName pragmaName

/-- The text of `pragma`. -/
def call (showReal : Binary64 → String) (schemaName : Option String) (pragmaName : String)
    (pragmaValue : NodeRusqlite.Value) : Except Error String :=
  match pushPragma "" schemaName pragmaName with
  | .error e => .error e
  | .ok buf =>
    match pushValue showReal (buf.push '(') pragmaValue with
    | .error e => .error e
    | .ok buf => .ok (buf.push ')')

/-- The text of `pragma_update_and_check`. -/
def assign (showReal : Binary64 → String) (schemaName : Option String) (pragmaName : String)
    (pragmaValue : NodeRusqlite.Value) : Except Error String :=
  match pushPragma "" schemaName pragmaName with
  | .error e => .error e
  | .ok buf => pushValue showReal (buf.push '=') pragmaValue

example : query (some "main;--") "table_info" = .ok "PRAGMA \"main;--\".table_info" := by decide

example : assign (fun _ => "0") none "user_version" (.integer 3) = .ok "PRAGMA user_version=3" := by
  decide

end Sql

/-! ## 2. Every row -/

/-- A loop over the cursor with a callback on every row; `value` is what the callback captures. -/
def eachRow (f : Row → σ → Outcome Error σ) (r : Rows κ) (value : σ) :
    Outcome Error σ × Rows κ :=
  match _h : r.next with
  | (.ok (some row), r') =>
    match f row value with
    | .ok value => eachRow f r' value
    | .err e => (.err e, r')
    | .panic msg => (.panic msg, r')
  | (.ok none, r') => (.ok value, r')
  | (.error e, r') => (.err e, r')
termination_by r.remaining
decreasing_by exact Rows.next_remaining ‹_›

/-- The callback folded over a trace. -/
def foldRows (f : Row → σ → Outcome Error σ) : Trace κ → σ → Outcome Error σ
  | .row row _ _ rest, value => f row value >>= foldRows f rest
  | .done _, value => .ok value
  | .error e _, _ => .err (.sqliteFailure e)

section EachRow

variable {f : Row → σ → Outcome Error σ} {r r' : Rows κ} (value : σ)

theorem eachRow_of_row {row : Row} (h : r.next = (.ok (some row), r')) :
    eachRow f r value =
      match f row value with
      | .ok value => eachRow f r' value
      | .err e => (.err e, r')
      | .panic msg => (.panic msg, r') := by
  rw [eachRow]
  split <;> rename_i heq <;> rw [h] at heq <;> cases heq
  rfl

theorem eachRow_of_done (h : r.next = (.ok none, r')) : eachRow f r value = (.ok value, r') := by
  rw [eachRow]
  split <;> rename_i heq <;> rw [h] at heq <;> cases heq
  rfl

theorem eachRow_of_error {e : Error} (h : r.next = (.error e, r')) :
    eachRow f r value = (.err e, r') := by
  rw [eachRow]
  split <;> rename_i heq <;> rw [h] at heq <;> cases heq
  rfl

/-- **The loop folds the callback over the rows.** -/
theorem eachRow_spec (f : Row → σ → Outcome Error σ) (t : Trace κ) : ∀ (r : Rows κ) (value : σ),
    r.attached = true → r.stmt.pending r.conn = t → (eachRow f r value).1 = foldRows f t value := by
  induction t with
  | row x after halt rest ih =>
    intro r value ha hp
    obtain ⟨r', hn, ha', _, hp', _⟩ := Rows.next_of_row ha hp
    rw [eachRow_of_row value hn, foldRows]
    cases f x value with
    | ok value => exact ih r' value ha' hp'
    | err e => rfl
    | panic msg => rfl
  | done after =>
    intro r value ha hp
    obtain ⟨r', hn, _⟩ := Rows.next_of_done ha hp
    rw [eachRow_of_done value hn]
    rfl
  | error e after =>
    intro r value ha hp
    obtain ⟨r', hn, _⟩ := Rows.next_of_error ha hp
    rw [eachRow_of_error value hn]
    rfl

end EachRow

/-- The rest of `pragma_query` and of `pragma`, once the text is built. -/
def Connection.forEachRow (E : Engine κ) (sql : String) (f : Row → σ → Outcome Error σ) (value : σ)
    (c : κ) : Outcome Error σ × κ :=
  match prepare E sql c with
  | .error e => (.err e, c)
  | .ok s =>
    match Params.empty.bindIn (E.lengthLimit c) s with
    | (.error e, s) => (.err e, s.finalize c)
    | (.ok (), s) =>
      let (value, rows) := eachRow f (Rows.new s c) value
      let rows := rows.drop
      (value, rows.stmt.finalize rows.conn)

/-! ## 3. The four helpers -/

namespace Connection

/-- Go on with a text, if it could be built. -/
def withSql (sql : Except Error String) (run : String → κ → Outcome Error α × κ) (c : κ) :
    Outcome Error α × κ :=
  match sql with
  | .error e => (.err e, c)
  | .ok sql => run sql c

/-- `Connection::pragma_query_value`. -/
def pragmaQueryValue (E : Engine κ) (schemaName : Option String) (pragmaName : String)
    (f : Row → Outcome Error α) : κ → Outcome Error α × κ :=
  withSql (Sql.query schemaName pragmaName) fun sql => queryRow E sql .empty f

/-- `Connection::pragma_query`. -/
def pragmaQuery (E : Engine κ) (schemaName : Option String) (pragmaName : String)
    (f : Row → σ → Outcome Error σ) (value : σ) : κ → Outcome Error σ × κ :=
  withSql (Sql.query schemaName pragmaName) fun sql => forEachRow E sql f value

/-- `Connection::pragma`. -/
def pragma (E : Engine κ) (showReal : Binary64 → String) (schemaName : Option String)
    (pragmaName : String) (pragmaValue : NodeRusqlite.Value) (f : Row → σ → Outcome Error σ)
    (value : σ) : κ → Outcome Error σ × κ :=
  withSql (Sql.call showReal schemaName pragmaName pragmaValue) fun sql => forEachRow E sql f value

/-- `Connection::pragma_update_and_check`. -/
def pragmaUpdateAndCheck (E : Engine κ) (showReal : Binary64 → String) (schemaName : Option String)
    (pragmaName : String) (pragmaValue : NodeRusqlite.Value) (f : Row → Outcome Error α) :
    κ → Outcome Error α × κ :=
  withSql (Sql.assign showReal schemaName pragmaName pragmaValue) fun sql =>
    queryRow E sql .empty f

end Connection

/-! ## 4. A text that delivers rows -/

/-- The text is built, and compiles to one statement without parameters that delivers the rows and
    no error. -/
def Delivers (E : Engine κ) (sql : Except Error String) (c : κ) (rows : List Row) : Prop :=
  ∃ text p, sql = .ok text ∧ prepare E text c = .ok (StmtPtr.fresh (some p)) ∧
    p.paramCount = 0 ∧ (p.run [] c).rows = rows ∧ (p.run [] c).failure = none

/-- The callback folded over rows. -/
def foldList (f : Row → σ → Outcome Error σ) : List Row → σ → Outcome Error σ
  | [], value => .ok value
  | row :: rows, value => f row value >>= foldList f rows

theorem foldRows_eq (f : Row → σ → Outcome Error σ) {t : Trace κ} (h : t.failure = none)
    (value : σ) : foldRows f t value = foldList f t.rows value := by
  induction t generalizing value with
  | row x after halt rest ih =>
    have hrest : foldRows f rest = foldList f rest.rows := funext (ih h)
    rw [foldRows, Trace.rows, foldList, hrest]
  | done after => rfl
  | error e after => cases h

section Delivers

variable {E : Engine κ} {sql : Except Error String} {c : κ} {first : Row} {rest : List Row}

/-- A statement without parameters takes none. -/
theorem bindIn_empty {p : Program κ} (h : p.paramCount = 0) (limit : Nat) :
    Params.empty.bindIn limit (StmtPtr.fresh (some p)) = (.ok (), StmtPtr.fresh (some p)) := by
  have hcount : (StmtPtr.fresh (some p)).bindParameterCount = 0 := h
  simp only [Params.bindIn, ensureParameterCount, hcount, ne_eq, not_true_eq_false, if_false]

theorem pending_fresh {p : Program κ} (h : p.paramCount = 0) (c : κ) :
    (StmtPtr.fresh (some p)).pending c = p.run [] c := by
  show p.run (List.replicate p.paramCount .null) c = _
  rw [h, List.replicate_zero]

/-- **The one way of reading takes the first row.** -/
theorem queryRow_of_delivers (h : Delivers E sql c (first :: rest)) (f : Row → Outcome Error α) :
    (Connection.withSql sql (fun sql => Connection.queryRow E sql .empty f) c).1 = f first := by
  obtain ⟨text, p, rfl, hp, hcount, hrows, _⟩ := h
  obtain ⟨after, halt, rest', htrace, _⟩ := Trace.eq_row_of_rows hrows
  have hpending := (pending_fresh hcount c).trans htrace
  exact queryRow_of_row .empty f hp (bindIn_empty hcount _) hpending

/-- **The other way takes them all.** -/
theorem forEachRow_of_delivers {rows : List Row} (h : Delivers E sql c rows)
    (f : Row → σ → Outcome Error σ) (value : σ) :
    (Connection.withSql sql (fun sql => Connection.forEachRow E sql f value) c).1 =
      foldList f rows value := by
  obtain ⟨text, p, rfl, hp, hcount, rfl, hdone⟩ := h
  have hloop := eachRow_spec f _ (Rows.new (StmtPtr.fresh (some p)) c) value rfl
    (pending_fresh hcount c)
  rw [foldRows_eq f hdone] at hloop
  simp only [Connection.withSql, Connection.forEachRow, hp, bindIn_empty hcount]
  exact hloop

end Delivers

end NodeRusqlite.Rusqlite
