/-
  File:      NodeRusqlite/Rusqlite/Inspect.lean
  Subject:   What `rusqlite::Statement` tells about itself: the indices and names of its
             parameters, the names of its columns.

  A `usize` index is cast to a C `int` on its way to SQLite; for `column_name`
  the only bounds check is made on the cast value. A column name that is not
  UTF-8 makes it panic, and `column_names` with it.

  * `parameterIndex_eq`: the cache of parameter indices cannot be seen.
  * `columnName_eq`: which name an index reads.
  * `columnNames_eq_ok_iff`: the names in order, if all of them are strings.
-/
import NodeRusqlite.Basis.Outcome
import NodeRusqlite.Rusqlite.Statement
import NodeRusqlite.Sqlite.Header

namespace NodeRusqlite.Rusqlite

open Basis (CStr Outcome asCInt asCInt_ofNat hasNul usizeOfCInt)
open Sqlite
open Sqlite.StmtPtr (Rests)

variable {κ : Type}

/-! ## 1. Parameters -/

/-- `ParamIndexCache`. -/
abbrev ParamIndexCache := Finmap (fun _ : String => UInt64)

/-- `ParamIndexCache::get_or_insert_with`. -/
def ParamIndexCache.getOrInsertWith (cache : ParamIndexCache) (s : String)
    (func : String → Option UInt64) : Option UInt64 × ParamIndexCache :=
  match cache.lookup s with
  | some v => (some v, cache)
  | none =>
    if hasNul s then (none, cache)
    else
      match func s with
      | none => (none, cache)
      | some v => (some v, cache.insert s v)

/-- What `RawStatement::bind_parameter_index` asks SQLite. -/
def findIndex (h : Header) (name : String) : Option UInt64 :=
  let r := h.bindParameterIndex name
  if r = 0 then none else some (usizeOfCInt r)

/-- A prepared statement between two calls: at rest, with the header of its text and a cache of
    indices SQLite gave. -/
structure Statement (κ : Type) where
  header : Header
  ptr : StmtPtr κ
  cache : ParamIndexCache
  params_length : header.params.length = ptr.bindParameterCount
  columns_isEmpty : header.columns.isEmpty = !ptr.returnsColumns
  resting : Rests ptr.program ptr
  cache_sound : ∀ name i, cache.lookup name = some i → findIndex header name = some i

namespace Statement

variable {s : Statement κ} {name : String}

/-- A statement as `prepare` hands it out. -/
def fresh (h : Header) (p : Program κ) (hparams : h.params.length = p.paramCount)
    (hcolumns : h.columns.isEmpty = !p.returnsColumns) : Statement κ :=
  ⟨h, StmtPtr.fresh (some p), ∅, hparams, hcolumns, StmtPtr.rests_fresh _, nofun⟩

/-- What `get_or_insert_with` keeps is what SQLite gave. -/
theorem getOrInsertWith_sound (s : Statement κ) (name : String) :
    ∀ name' i, (s.cache.getOrInsertWith name (findIndex s.header)).2.lookup name' = some i →
      findIndex s.header name' = some i := by
  intro name' i h
  unfold ParamIndexCache.getOrInsertWith at h
  split at h
  · exact s.cache_sound name' i h
  · split at h
    · exact s.cache_sound name' i h
    · split at h
      · exact s.cache_sound name' i h
      · rename_i v hv
        by_cases hname : name' = name
        · subst hname
          rw [Finmap.lookup_insert, Option.some.injEq] at h
          rw [hv, h]
        · rw [Finmap.lookup_insert_of_ne _ hname] at h
          exact s.cache_sound name' i h

/-- `RawStatement::bind_parameter_index`. -/
def bindParameterIndex (s : Statement κ) (name : String) : Option UInt64 × Statement κ :=
  let found := s.cache.getOrInsertWith name (findIndex s.header)
  (found.1, { s with cache := found.2, cache_sound := s.getOrInsertWith_sound name })

/-- `Statement::parameter_index`. -/
def parameterIndex (s : Statement κ) (name : String) :
    Except Error (Option UInt64) × Statement κ :=
  let (index, s) := s.bindParameterIndex name
  (.ok index, s)

/-- `Statement::parameter_name`. -/
def parameterName (s : Statement κ) (index : UInt64) : Option String :=
  s.header.bindParameterName (asCInt index)

/-- `Statement::parameter_count`. -/
def parameterCount (s : Statement κ) : UInt64 := UInt64.ofNat s.ptr.bindParameterCount

/-! ## 2. Columns -/

/-- `Statement::column_count`. -/
def columnCount (s : Statement κ) : UInt64 := s.header.columnCount

/-- `RawStatement::column_name`. -/
def rawColumnName (s : Statement κ) (idx : UInt64) : Outcome Error (Option CStr) :=
  let idx := asCInt idx
  if idx.toInt < 0 ∨ (asCInt s.columnCount).toInt ≤ idx.toInt then .ok none
  else
    match s.header.column idx with
    | some column => .ok (some column.name)
    | none => .panic "Null pointer from sqlite3_column_name: Out of memory?"

/-- `Statement::column_name`. -/
def columnName (s : Statement κ) (col : UInt64) : Outcome Error String := do
  match ← s.rawColumnName col with
  | some slice => slice.expectStr "Invalid UTF-8 sequence in column name"
  | none => .err (.invalidColumnIndex col)

/-- `Statement::column_name_unwrap`. -/
def columnNameUnwrap (s : Statement κ) (col : UInt64) : Outcome Error String :=
  match s.columnName col with
  | .ok name => .ok name
  | .err _ => .panic "Column out of bounds"
  | .panic msg => .panic msg

/-- The loop of `Statement::column_names`, from column `i` on, for `n` columns. -/
def columnNamesFrom (s : Statement κ) : Nat → Nat → Outcome Error (List String)
  | _, 0 => .ok []
  | i, n + 1 => do
    let name ← s.columnNameUnwrap (UInt64.ofNat i)
    let names ← columnNamesFrom s (i + 1) n
    .ok (name :: names)

/-- `Statement::column_names`. -/
def columnNames (s : Statement κ) : Outcome Error (List String) :=
  s.columnNamesFrom 0 s.columnCount.toNat

/-! ## 3. What they answer -/

theorem findIndex_of_get {h : Header} {k : Nat} (hk : h.params[k]? = some (some name)) :
    ∃ i, findIndex h name = some i ∧ (Basis.asI64 i).toInt = k + 1 := by
  have hnum := Header.bindParameterIndex_of_get hk
  have hne : h.bindParameterIndex name ≠ 0 := by
    intro h0
    rw [h0] at hnum
    have : (0 : Int32).toInt = 0 := rfl
    omega
  refine ⟨_, if_neg hne, ?_⟩
  rw [Basis.asI64_usizeOfCInt, Int32.toInt_toInt64, hnum]

theorem findIndex_of_notMem {h : Header} (hn : some name ∉ h.params) : findIndex h name = none :=
  if_pos (Header.bindParameterIndex_of_notMem hn)

/-- **The cache of parameter indices cannot be seen.** -/
theorem parameterIndex_eq (s : Statement κ) (name : String) :
    (s.parameterIndex name).1 = .ok (findIndex s.header name) := by
  have hfound : (s.cache.getOrInsertWith name (findIndex s.header)).1 =
      findIndex s.header name := by
    unfold ParamIndexCache.getOrInsertWith
    split
    · rename_i v hv
      exact (s.cache_sound name v hv).symm
    · split
      · -- a name with a NUL is none of the statement's
        rename_i hnul
        refine (findIndex_of_notMem fun hmem => ?_).symm
        rw [s.header.params_noNul name hmem] at hnul
        cases hnul
      · split
        · rename_i hf
          exact hf.symm
        · rename_i v hf
          exact hf.symm
  exact congrArg Except.ok hfound

theorem asCInt_columnCount (s : Statement κ) :
    (asCInt s.columnCount).toInt = s.header.columns.length :=
  asCInt_ofNat s.header.columns_lt

/-- **The name of the column at the cast index, or an error**; a panic if it is not UTF-8. -/
theorem columnName_eq (s : Statement κ) (col : UInt64) : s.columnName col =
    match s.header.column (asCInt col) with
    | some column => column.name.expectStr "Invalid UTF-8 sequence in column name"
    | none => .err (.invalidColumnIndex col) := by
  have hrange := Header.column_isSome_iff (h := s.header) (i := asCInt col)
  unfold columnName rawColumnName
  rw [asCInt_columnCount]
  cases hc : s.header.column (asCInt col) with
  | none =>
    rw [hc] at hrange
    have hout : (asCInt col).toInt < 0 ∨ (s.header.columns.length : Int) ≤ (asCInt col).toInt := by
      by_contra hin
      exact absurd (hrange.mpr (by omega)) Bool.false_ne_true
    simp only [if_pos hout]
    rfl
  | some column =>
    rw [hc] at hrange
    have hin := hrange.mp rfl
    have hin : ¬ ((asCInt col).toInt < 0 ∨
        (s.header.columns.length : Int) ≤ (asCInt col).toInt) := by omega
    simp only [if_neg hin, hc]
    rfl

theorem columnNameUnwrap_eq_ok_iff {col : UInt64} :
    s.columnNameUnwrap col = .ok name ↔ s.columnName col = .ok name := by
  unfold columnNameUnwrap
  cases s.columnName col with
  | ok name' => exact Iff.rfl
  | err e => exact iff_of_false nofun nofun
  | panic msg => exact iff_of_false nofun nofun

theorem columnNamesFrom_eq_ok_iff (s : Statement κ) (n i : Nat)
    (h : i + n = s.header.columns.length) (names : List String) :
    s.columnNamesFrom i n = .ok names ↔
      List.Forall₂ (fun rc name => rc.name.toStr = some name) (s.header.columns.drop i) names := by
  induction n generalizing i names with
  | zero =>
    rw [columnNamesFrom, List.drop_eq_nil_of_le (by omega), List.forall₂_nil_left_iff,
      Outcome.ok.injEq, eq_comm]
  | succ n ih =>
    have hlt := s.header.columns_lt
    have hi : i < s.header.columns.length := by omega
    have hcol : s.header.column (asCInt (UInt64.ofNat i)) = some s.header.columns[i] := by
      rw [Header.column_of_place (asCInt_ofNat (by omega)), List.getElem?_eq_getElem hi]
    have hname : ∀ name, s.columnNameUnwrap (UInt64.ofNat i) = .ok name ↔
        s.header.columns[i].name.toStr = some name := by
      intro name
      rw [columnNameUnwrap_eq_ok_iff, columnName_eq, hcol]
      exact CStr.expectStr_eq_ok_iff
    rw [columnNamesFrom, List.drop_eq_getElem_cons hi, List.forall₂_cons_left_iff]
    simp only [Outcome.bind_eq_ok, hname, ih (i + 1) (by omega), Outcome.ok.injEq]
    exact ⟨fun ⟨name, hn, rest, hr, he⟩ => ⟨name, rest, hn, hr, he.symm⟩,
      fun ⟨name, rest, hn, hr, he⟩ => ⟨name, hn, rest, hr, he.symm⟩⟩

/-- **`column_names` gives the names in order, if all of them are UTF-8.** -/
theorem columnNames_eq_ok_iff (s : Statement κ) (names : List String) : s.columnNames = .ok names ↔
    List.Forall₂ (fun rc name => rc.name.toStr = some name) s.header.columns names := by
  have hlt := s.header.columns_lt
  have hcount : s.columnCount.toNat = s.header.columns.length :=
    UInt64.toNat_ofNat_of_lt' (by show _ < 2 ^ 64; omega)
  rw [columnNames, hcount, columnNamesFrom_eq_ok_iff s _ 0 (Nat.zero_add _), List.drop_zero]

end Statement

end NodeRusqlite.Rusqlite
