/-
  File:      NodeRusqlite/Row/Convert.lean
  Subject:   A result row as a map from column names to values: `parse_rows` and the
             loop body of `Rows::new`.

  Both converters walk the columns and fetch each value back BY NAME, through
  `column_index`, which takes the first column whose name matches ignoring
  ASCII case.

  `Rows::new` reads the declared types on its way, for nothing but a panic on
  one that is not UTF-8.

  * `getRef_eq`: what fetching by name finds (`Basis.firstMatch`).
  * `columns_eq`: the columns, or the panic.
  * `rowMap_eq_parseRows`: the two loops go in step.
  * `parseRows_eq`, `rowMap_eq`: the map both build.
  * **`row_carries_own_values_iff`**: each key holds its own column's value
    exactly when columns of equal name up to case hold equal values, and the
    declared types are UTF-8.
  * **`row_converters_agree`**: the two converters are one function, and no lookup fails.
-/
import NodeRusqlite.Basis.AsciiCase
import NodeRusqlite.Basis.FirstMatch
import NodeRusqlite.Sqlite.Vm
import NodeRusqlite.Value

namespace NodeRusqlite

open Basis (CStr Outcome eqIgnoreAsciiCase firstMatch insertAll sameName sameName_comm sameName_refl
  sameName_trans)
open Sqlite (Column Cell Row)

variable {J : Type}

/-! ## 1. Fetching by name -/

/-- The loop of `Statement::column_index`, from column `i` on. -/
def columnIndexFrom (name : String) : Row → Nat → Except Rusqlite.Error Nat
  | [], _ => .error (.invalidColumnName name)
  | cell :: row, i =>
    if eqIgnoreAsciiCase name.toByteArray cell.column.name.toByteArray then .ok i
    else columnIndexFrom name row (i + 1)

/-- `Statement::column_index`. -/
def columnIndex (row : Row) (name : String) : Except Rusqlite.Error Nat :=
  columnIndexFrom name row 0

/-- `Statement::value_ref`: SQLite reads NULL past the last column. -/
def valueRef (row : Row) (idx : Nat) : ValueRef :=
  match row[idx]? with
  | some cell => cell.value
  | none => .null

/-- `Row::get_ref` with a column name. -/
def getRef (row : Row) (name : String) : Except Rusqlite.Error ValueRef :=
  match columnIndex row name with
  | .ok idx => .ok (valueRef row idx)
  | .error e => .error e

/-! ## 2. The two converters -/

/-- `HashMap<String, Value>`. -/
abbrev RowMap := Finmap (fun _ : String => Value)

/-- `napi::Env`, as far as it is used: `to_js_value` of a row, for what JavaScript gets (`J`). -/
structure Env (J : Type) where
  toJsValue : RowMap → Except NapiError J

/-- The end of the calls that return a row: `map_err` and `to_js_value`. -/
def Env.handOut (env : Env J) (value : Outcome Rusqlite.Error RowMap) : Outcome NapiError J :=
  value.mapErr NapiError.ofRusqlite >>= fun value => Outcome.ofExcept (env.toJsValue value)

theorem Env.handOut_eq_ok (env : Env J) {value : Outcome Rusqlite.Error RowMap} {j : J} :
    env.handOut value = .ok j ↔ ∃ m, value = .ok m ∧ env.toJsValue m = .ok j := by
  cases value with
  | ok m =>
    show Outcome.ofExcept (env.toJsValue m) = .ok j ↔ _
    cases hm : env.toJsValue m <;> simp [Outcome.ofExcept, hm]
  | err e => exact iff_of_false nofun nofun
  | panic msg => exact iff_of_false nofun nofun

/-- An environment that hands the rows out as they are. -/
def plainRows : Env RowMap := ⟨.ok⟩

/-- `Statement::column_names`. -/
def columnNames (row : Row) : List String := row.map fun cell => cell.column.name

/-- `rusqlite::Column`. -/
structure Rusqlite.Column where
  name : String
  declType : Option String
  deriving DecidableEq

/-- The declared type of a column of `columns`. -/
def declTypeStr {ε : Type} : Option CStr → Outcome ε (Option String)
  | none => .ok none
  | some s => do
    let t ← s.expectStr "Invalid UTF-8 sequence in column declaration"
    .ok (some t)

/-- `Statement::columns`. -/
def columns {ε : Type} : Row → Outcome ε (List Rusqlite.Column)
  | [] => .ok []
  | cell :: row => do
    let declType ← declTypeStr cell.column.declType
    let cols ← columns row
    .ok (⟨cell.column.name, declType⟩ :: cols)

/-- The loop of `parse_rows`. -/
def parseRowsLoop (row : Row) : List String → RowMap → Outcome Rusqlite.Error RowMap
  | [], map => .ok map
  | column :: rest, map => do
    let value ← Outcome.ofExcept (getRef row column)
    let value ← Value.ofValueRef value
    parseRowsLoop row rest (map.insert column value)

/-- `parse_rows`. -/
def parseRows (row : Row) : Outcome Rusqlite.Error RowMap := parseRowsLoop row (columnNames row) ∅

/-- The inner loop of `Rows::new`: a failed lookup reads as NULL. -/
def rowMapLoop (row : Row) : List Rusqlite.Column → RowMap → Outcome NapiError RowMap
  | [], map => .ok map
  | column :: rest, map => do
    let rawValue := match getRef row column.name with
      | .ok value => value
      | .error _ => .null
    let value ← Value.ofValueRef rawValue
    rowMapLoop row rest (map.insert column.name value)

/-- The body of the loop of `Rows::new`. -/
def rowMap (row : Row) : Outcome NapiError RowMap := do
  let cols ← columns row
  rowMapLoop row cols ∅

/-! ## 3. What they build -/

/-- The columns with their values, by name. -/
def entries (row : Row) : List (String × ValueRef) :=
  row.map fun cell => (cell.column.name, cell.value)

theorem columnIndexFrom_eq (name : String) (front row : Row) :
    (match columnIndexFrom name row front.length with
      | .ok idx => Except.ok (valueRef (front ++ row) idx)
      | .error e => .error e) =
    match firstMatch sameName name (entries row) with
      | some v => .ok v
      | none => .error (.invalidColumnName name) := by
  induction row generalizing front with
  | nil => rfl
  | cons cell row ih =>
    have h := ih (front ++ [cell])
    rw [List.length_append, List.append_assoc] at h
    simp only [columnIndexFrom, entries, List.map_cons, firstMatch, sameName]
    by_cases he : eqIgnoreAsciiCase name.toByteArray cell.column.name.toByteArray = true
    · simp [he, valueRef]
    · simp only [he]
      exact h

/-- **Fetching by name finds the first column whose name matches.** -/
theorem getRef_eq (row : Row) (name : String) :
    getRef row name =
      match firstMatch sameName name (entries row) with
      | some v => .ok v
      | none => .error (.invalidColumnName name) := columnIndexFrom_eq name [] row

/-- A name of the row is always found. -/
theorem getRef_of_mem {row : Row} {cell : Cell} (h : cell ∈ row) :
    ∃ v, getRef row cell.column.name = .ok v ∧ ∃ cell' ∈ row, cell'.value = v := by
  have hm : (cell.column.name, cell.value) ∈ entries row := List.mem_map_of_mem h
  obtain ⟨v, hv⟩ := Basis.firstMatch_isSome sameName (sameName_refl _) hm
  obtain ⟨k, hk, _⟩ := Basis.firstMatch_mem sameName hv
  obtain ⟨cell', hc, he⟩ := List.mem_map.mp hk
  cases he
  exact ⟨_, by rw [getRef_eq, hv], cell', hc, rfl⟩

/-- A name of the row is found. -/
theorem getRef_of_mem_names {row : Row} {name : String} (h : name ∈ columnNames row) :
    ∃ v, getRef row name = .ok v := by
  obtain ⟨cell, hc, rfl⟩ := List.mem_map.mp h
  obtain ⟨v, hv, _⟩ := getRef_of_mem hc
  exact ⟨v, hv⟩

theorem declTypeStr_eq {ε : Type} (column : Column) :
    (∃ t, (declTypeStr column.declType : Outcome ε (Option String)) = .ok t ∧ ¬ column.BadType) ∨
      ((declTypeStr column.declType : Outcome ε (Option String)) =
        .panic "Invalid UTF-8 sequence in column declaration" ∧ column.BadType) := by
  obtain ⟨name, _ | s⟩ := column
  · exact .inl ⟨none, rfl, id⟩
  · have hbad : (Column.mk name (some s)).BadType ↔ ¬ s.bytes.IsValidUTF8 := Iff.rfl
    rw [hbad, ← s.exists_toStr_iff, declTypeStr, CStr.expectStr]
    cases s.toStr with
    | some t => exact .inl ⟨some t, rfl, not_not_intro ⟨t, rfl⟩⟩
    | none => exact .inr ⟨rfl, nofun⟩

/-- **The columns are named as the row's are, or a declared type is not UTF-8 and they panic.** -/
theorem columns_eq {ε : Type} (row : Row) :
    ((∀ cell ∈ row, ¬ cell.column.BadType) ∧
      ∃ cols, (columns row : Outcome ε _) = .ok cols ∧
        cols.map Rusqlite.Column.name = columnNames row) ∨
      ((∃ cell ∈ row, cell.column.BadType) ∧ ∃ msg, (columns row : Outcome ε _) = .panic msg) := by
  induction row with
  | nil => exact .inl ⟨nofun, [], rfl, rfl⟩
  | cons cell row ih =>
    rcases declTypeStr_eq (ε := ε) cell.column with ⟨t, ht, hgood⟩ | ⟨ht, hbad⟩
    · rcases ih with ⟨hrest, cols, hcols, hnames⟩ | ⟨⟨bad, hmem, hbad⟩, msg, hcols⟩
      · refine .inl ⟨List.forall_mem_cons.mpr ⟨hgood, hrest⟩, ⟨cell.column.name, t⟩ :: cols, ?_, ?_⟩
        · simp only [columns, ht, hcols, Outcome.ok_bind]
        · rw [List.map_cons, hnames]
          rfl
      · refine .inr ⟨⟨bad, List.mem_cons_of_mem _ hmem, hbad⟩, msg, ?_⟩
        simp only [columns, ht, hcols, Outcome.ok_bind, Outcome.panic_bind]
    · have hcols : (columns (cell :: row) : Outcome ε _) =
          .panic "Invalid UTF-8 sequence in column declaration" := by
        rw [columns, ht, Outcome.panic_bind]
      exact .inr ⟨⟨cell, List.mem_cons_self, hbad⟩, _, hcols⟩

theorem columns_of_good {ε : Type} {row : Row} (h : ∀ cell ∈ row, ¬ cell.column.BadType) :
    ∃ cols, (columns row : Outcome ε _) = .ok cols ∧
      cols.map Rusqlite.Column.name = columnNames row := by
  rcases columns_eq (ε := ε) row with ⟨_, hcols⟩ | ⟨⟨cell, hc, hbad⟩, _⟩
  · exact hcols
  · exact absurd hbad (h cell hc)

/-- Where no lookup fails the two loops go in step, also into a panic. -/
theorem rowMapLoop_lockstep {row : Row} (f : Rusqlite.Error → NapiError)
    (cols : List Rusqlite.Column)
    (hfound : ∀ column ∈ cols, ∃ v, getRef row column.name = .ok v) (map : RowMap) :
    rowMapLoop row cols map =
      (parseRowsLoop row (cols.map Rusqlite.Column.name) map).mapErr f := by
  induction cols generalizing map with
  | nil => rfl
  | cons column cols ih =>
    obtain ⟨v, hv⟩ := hfound column List.mem_cons_self
    have hrest := ih fun column hc => hfound column (List.mem_cons_of_mem _ hc)
    simp only [rowMapLoop, List.map_cons, parseRowsLoop, hv, Outcome.ofExcept_ok,
      Value.ofValueRef_eq, Outcome.ok_bind]
    cases Value.converted v with
    | none => rfl
    | some w => exact hrest _

/-- The columns of a row are named after its columns, so looking one up does not fail. -/
theorem getRef_of_mem_columns {row : Row} {cols : List Rusqlite.Column}
    (hnames : cols.map Rusqlite.Column.name = columnNames row) {column : Rusqlite.Column}
    (h : column ∈ cols) : ∃ v, getRef row column.name = .ok v := by
  refine getRef_of_mem_names ?_
  rw [← hnames]
  exact List.mem_map_of_mem h

/-- **With declared types in UTF-8 the two converters end alike**, whatever the error of the one
    would become. -/
theorem rowMap_eq_parseRows {row : Row} (htypes : ∀ cell ∈ row, ¬ cell.column.BadType)
    (f : Rusqlite.Error → NapiError) : rowMap row = (parseRows row).mapErr f := by
  obtain ⟨cols, hcols, hnames⟩ := columns_of_good htypes
  have h := rowMapLoop_lockstep f cols (fun _ hc => getRef_of_mem_columns hnames hc) ∅
  rw [rowMap, hcols, Outcome.ok_bind, h, hnames]
  rfl

theorem parseRowsLoop_ne_err {row : Row} (names : List String)
    (hfound : ∀ name ∈ names, ∃ v, getRef row name = .ok v) (map : RowMap) (e : Rusqlite.Error) :
    parseRowsLoop row names map ≠ .err e := by
  induction names generalizing map with
  | nil =>
    intro h
    cases h
  | cons name names ih =>
    obtain ⟨v, hv⟩ := hfound name List.mem_cons_self
    have hrest := ih fun n hn => hfound n (List.mem_cons_of_mem _ hn)
    rw [parseRowsLoop, hv, Outcome.ofExcept_ok, Outcome.ok_bind, Value.ofValueRef_eq]
    cases Value.converted v with
    | none =>
      intro h
      cases h
    | some w => exact hrest _

theorem parseRows_ne_err (row : Row) (e : Rusqlite.Error) : parseRows row ≠ .err e :=
  parseRowsLoop_ne_err _ (fun _ hn => getRef_of_mem_names hn) ∅ e

/-- Neither of the two ends in an error: a name of the row is found. -/
theorem rowMap_ne_err (row : Row) (e : NapiError) : rowMap row ≠ .err e := by
  rcases columns_eq (ε := NapiError) row with ⟨htypes, _⟩ | ⟨_, msg, hcols⟩
  · rw [rowMap_eq_parseRows htypes NapiError.ofRusqlite]
    cases hm : parseRows row with
    | ok m =>
      intro h
      cases h
    | err e' => exact absurd hm (parseRows_ne_err row e')
    | panic msg =>
      intro h
      cases h
  · rw [rowMap, hcols, Outcome.panic_bind]
    intro h
    cases h

/-- The value that fetching by name finds, converted. -/
def fetched (row : Row) (name : String) : Value :=
  match getRef row name with
  | .ok r => (Value.converted r).getD .null
  | .error _ => .null

section Build

variable {row : Row} (hgood : ∀ cell ∈ row, ¬ cell.value.BadText)
include hgood

theorem getRef_fetched {cell : Cell} (h : cell ∈ row) :
    ∃ r, getRef row cell.column.name = .ok r ∧
      Value.converted r = some (fetched row cell.column.name) := by
  obtain ⟨r, hr, cell', hc, rfl⟩ := getRef_of_mem h
  obtain ⟨v, hv⟩ := (Value.converted_isSome_iff cell'.value).mpr (hgood cell' hc)
  exact ⟨_, hr, by simp only [fetched, hr, hv, Option.getD_some]⟩

theorem parseRowsLoop_eq (cells : List Cell) (hsub : ∀ cell ∈ cells, cell ∈ row) (map : RowMap) :
    parseRowsLoop row (cells.map fun cell => cell.column.name) map = .ok (insertAll
      (cells.map fun cell => (cell.column.name, fetched row cell.column.name)) map) := by
  induction cells generalizing map with
  | nil => rfl
  | cons cell cells ih =>
    obtain ⟨r, hr, hv⟩ := getRef_fetched hgood (hsub cell List.mem_cons_self)
    simp only [List.map_cons, parseRowsLoop, hr, Outcome.ofExcept_ok, Value.ofValueRef_eq, hv,
      Outcome.ok_bind, insertAll]
    exact ih (fun c hc => hsub c (List.mem_cons_of_mem _ hc)) _

end Build

/-- The map both converters build for a row without broken TEXT. -/
def builtMap (row : Row) : RowMap :=
  insertAll (row.map fun cell => (cell.column.name, fetched row cell.column.name)) ∅

theorem parseRows_eq {row : Row} (hgood : ∀ cell ∈ row, ¬ cell.value.BadText) :
    parseRows row = .ok (builtMap row) := parseRowsLoop_eq hgood row (fun _ h => h) ∅

theorem rowMap_eq {row : Row} (hgood : ∀ cell ∈ row, ¬ cell.value.BadText)
    (htypes : ∀ cell ∈ row, ¬ cell.column.BadType) : rowMap row = .ok (builtMap row) := by
  rw [rowMap_eq_parseRows htypes NapiError.ofRusqlite, parseRows_eq hgood]
  rfl

/-! ## 4. Each key holds its own column's value -/

/-- The map has exactly the row's column names as keys, each with its own column's value. -/
def Carries (row : Row) (map : RowMap) : Prop :=
  (∀ k, k ∈ map ↔ k ∈ columnNames row) ∧
    ∀ cell ∈ row, ∃ v, Value.converted cell.value = some v ∧
      map.lookup cell.column.name = some v

theorem mem_builtMap (row : Row) (k : String) : k ∈ builtMap row ↔ k ∈ columnNames row := by
  rw [builtMap, Basis.mem_insertAll, List.map_map]
  exact or_iff_left Finmap.notMem_empty

theorem lookup_builtMap {row : Row} (hn : (columnNames row).Nodup) {cell : Cell} (h : cell ∈ row) :
    (builtMap row).lookup cell.column.name = some (fetched row cell.column.name) := by
  refine Basis.lookup_insertAll ?_ (List.mem_map_of_mem h)
  rw [List.map_map]
  exact hn

/-- A key holds its own column's value exactly when fetching by name finds that column's value. -/
theorem converted_fetched_iff {row : Row} (hgood : ∀ cell ∈ row, ¬ cell.value.BadText) {cell : Cell}
    (h : cell ∈ row) : Value.converted cell.value = some (fetched row cell.column.name) ↔
      firstMatch sameName cell.column.name (entries row) = some cell.value := by
  obtain ⟨r, hr, hv⟩ := getRef_fetched hgood h
  rw [getRef_eq] at hr
  cases hf : firstMatch sameName cell.column.name (entries row) with
  | none => rw [hf] at hr; cases hr
  | some r' =>
    rw [hf] at hr
    cases hr
    rw [Option.some.injEq]
    constructor
    · intro hc
      rw [Value.converted_eq_some.mp hc, Value.converted_eq_some.mp hv]
    · rintro rfl
      exact hv

theorem carries_builtMap_iff {row : Row} (hn : (columnNames row).Nodup)
    (hgood : ∀ cell ∈ row, ¬ cell.value.BadText) : Carries row (builtMap row) ↔
      ∀ a ∈ row, ∀ b ∈ row, sameName a.column.name b.column.name = true → a.value = b.value := by
  have hown : Carries row (builtMap row) ↔ ∀ k v, (k, v) ∈ entries row →
      firstMatch sameName k (entries row) = some v := by
    constructor
    · intro ⟨_, h⟩ k v hkv
      obtain ⟨cell, hc, he⟩ := List.mem_map.mp hkv
      cases he
      obtain ⟨v, hv, hl⟩ := h cell hc
      rw [lookup_builtMap hn hc, Option.some.injEq] at hl
      rw [← hl] at hv
      exact (converted_fetched_iff hgood hc).mp hv
    · refine fun h => ⟨mem_builtMap row, fun cell hc => ⟨_, ?_, lookup_builtMap hn hc⟩⟩
      exact (converted_fetched_iff hgood hc).mpr (h _ _ (List.mem_map_of_mem hc))
  rw [hown, Basis.firstMatch_faithful sameName sameName_refl sameName_comm sameName_trans]
  refine ⟨fun h a ha b hb hab => ?_, fun h k v k' v' hk hk' hs => ?_⟩
  · exact h _ _ _ _ (List.mem_map_of_mem ha) (List.mem_map_of_mem hb) hab
  · obtain ⟨a, ha, he⟩ := List.mem_map.mp hk
    obtain ⟨b, hb, he'⟩ := List.mem_map.mp hk'
    cases he
    cases he'
    exact h a ha b hb hs

/-- A map from `Rows::new` comes with declared types in UTF-8. -/
theorem rowMap_types {row : Row} {m : RowMap} (h : rowMap row = .ok m) :
    ∀ cell ∈ row, ¬ cell.column.BadType := by
  rcases columns_eq (ε := NapiError) row with ⟨htypes, _⟩ | ⟨_, msg, hcols⟩
  · exact htypes
  · rw [rowMap, hcols] at h
    cases h

/-- **Both converters give every key its own column's value exactly when columns whose names are
    equal ignoring ASCII case hold equal values and the declared types are UTF-8.** -/
theorem row_carries_own_values_iff (row : Row) (hn : (columnNames row).Nodup)
    (hgood : ∀ cell ∈ row, ¬ cell.value.BadText) :
    ((∃ m, parseRows row = .ok m ∧ Carries row m) ∧ (∃ m, rowMap row = .ok m ∧ Carries row m)) ↔
      (∀ a ∈ row, ∀ b ∈ row, sameName a.column.name b.column.name = true → a.value = b.value) ∧
        ∀ cell ∈ row, ¬ cell.column.BadType := by
  rw [← carries_builtMap_iff hn hgood, parseRows_eq hgood]
  constructor
  · intro ⟨⟨m, hm, hc⟩, m', hm', _⟩
    cases hm
    exact ⟨hc, rowMap_types hm'⟩
  · intro ⟨hc, htypes⟩
    exact ⟨⟨_, rfl, hc⟩, _, rowMap_eq hgood htypes, hc⟩

/-- `SELECT 1 AS id, 2 AS ID`. -/
def twoCases : Row := [⟨⟨"id", none⟩, .integer 1⟩, ⟨⟨"ID", none⟩, .integer 2⟩]

theorem integer_noNul : Basis.hasNul "INTEGER" = false := by
  decide

/-- `SELECT id, 'x' AS name FROM t`, for `CREATE TABLE t(id INTEGER)`. -/
def idAndName : Row :=
  [⟨⟨"id", some (.ofString ⟨"INTEGER", integer_noNul⟩)⟩, .integer 1⟩,
    ⟨⟨"name", none⟩, .text "x".toByteArray⟩]

theorem row_carries_own_values_idAndName :
    (columnNames idAndName).Nodup ∧ (∀ cell ∈ idAndName, ¬ cell.value.BadText) ∧
      ((∃ m, parseRows idAndName = .ok m ∧ Carries idAndName m) ∧
        ∃ m, rowMap idAndName = .ok m ∧ Carries idAndName m) :=
  ⟨by decide, by decide,
    (row_carries_own_values_iff idAndName (by decide) (by decide)).mpr ⟨by decide, by decide⟩⟩

/-- The names differ as strings, and `ID` gets the value of `id`. -/
theorem row_of_two_cases :
    (columnNames twoCases).Nodup ∧ (∀ cell ∈ twoCases, ¬ cell.value.BadText) ∧
      (builtMap twoCases).lookup "ID" = some (.integer 1) ∧
      ¬ ((∃ m, parseRows twoCases = .ok m ∧ Carries twoCases m) ∧
        ∃ m, rowMap twoCases = .ok m ∧ Carries twoCases m) := by
  have hgood : ∀ cell ∈ twoCases, ¬ cell.value.BadText := by decide
  refine ⟨by decide, hgood, by decide, ?_⟩
  intro ⟨⟨m, hm, hc⟩, _⟩
  rw [parseRows_eq hgood] at hm
  cases hm
  exact absurd ((carries_builtMap_iff (by decide) hgood).mp hc) (by decide)

/-! ## 5. The two converters are one function -/

/-- **The two converters build the same map**, and none of their lookups fails. -/
theorem row_converters_agree (row : Row) (hgood : ∀ cell ∈ row, ¬ cell.value.BadText)
    (htypes : ∀ cell ∈ row, ¬ cell.column.BadType) :
    (∃ m, parseRows row = .ok m ∧ rowMap row = .ok m) ∧
      (∀ name ∈ columnNames row, ∃ v, getRef row name = .ok v) ∧
      ∃ cols, (columns row : Outcome NapiError _) = .ok cols ∧
        ∀ column ∈ cols, ∃ v, getRef row column.name = .ok v := by
  obtain ⟨cols, hcols, hnames⟩ := columns_of_good htypes
  exact ⟨⟨builtMap row, parseRows_eq hgood, rowMap_eq hgood htypes⟩,
    fun _ hn => getRef_of_mem_names hn, cols, hcols,
    fun _ hc => getRef_of_mem_columns hnames hc⟩

theorem row_converters_agree_twoCases :
    (∃ m, parseRows twoCases = .ok m ∧ rowMap twoCases = .ok m) ∧
      (∀ name ∈ columnNames twoCases, ∃ v, getRef twoCases name = .ok v) ∧
      ∃ cols, (columns twoCases : Outcome NapiError _) = .ok cols ∧
        ∀ column ∈ cols, ∃ v, getRef twoCases column.name = .ok v :=
  row_converters_agree twoCases (by decide) (by decide)

end NodeRusqlite
