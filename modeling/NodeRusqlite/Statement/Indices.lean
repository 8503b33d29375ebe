/-
  File:      NodeRusqlite/Statement/Indices.lean
  Subject:   The indices `column_name`, `column_metadata` and `parameter_name` take.

  An index arrives as `i64`, is cast to `usize` and then to a C `int`, and is
  checked only then: 2 ^ 32 reads column 0.

  * `low`: the index SQLite gets.
  * **`index_not_wrapped_iff`**: the functions keep to the range of the statement
    exactly when the index is a C `int`, or nothing is found under what is left
    of it; where it is a column, the names of the columns have to be UTF-8.
-/
import NodeRusqlite.Statement.Metadata
import NodeRusqlite.Statement.Parameters

namespace NodeRusqlite

open Basis (CStr CString Outcome asCInt asUsize)
open Sqlite

variable {κ : Type}

namespace ScopedStatement

/-- `ScopedStatement::column_names`. -/
def columnNames (s : Rusqlite.Statement κ) : Outcome NapiError (List String) :=
  s.columnNames.mapErr NapiError.ofRusqlite

/-- `ScopedStatement::column_name`. -/
def columnName (col : Int64) (s : Rusqlite.Statement κ) : Outcome NapiError String :=
  (s.columnName (asUsize col)).mapErr NapiError.ofRusqlite

/-! ## 1. The index SQLite gets -/

/-- The low 32 bits of an index, as a signed number. -/
def low (col : Int64) : Int := col.toInt.bmod (2 ^ 32)

theorem low_of_cInt {col : Int64} (h : -2 ^ 31 ≤ col.toInt ∧ col.toInt < 2 ^ 31) :
    low col = col.toInt := by
  rw [low, ← Basis.asCInt_asUsize]
  exact (Basis.asCInt_asUsize_eq_iff col).mpr h

/-- The index is one of the columns. -/
def ColumnRange (s : Rusqlite.Statement κ) (i : Int) : Prop :=
  0 ≤ i ∧ i < s.header.columns.length

/-- The index is one of the numbers SQLite gives the parameters. -/
def ParameterRange (s : Rusqlite.Statement κ) (i : Int) : Prop :=
  1 ≤ i ∧ i ≤ s.header.params.length

/-- The index is a column whose name is UTF-8. -/
def ReadableColumn (s : Rusqlite.Statement κ) (i : Int) : Prop :=
  0 ≤ i ∧ ∃ rc, s.header.columns[i.toNat]? = some rc ∧ rc.name.bytes.IsValidUTF8

/-- The index is the number of a parameter that has a name. -/
def NamedParameter (s : Rusqlite.Statement κ) (i : Int) : Prop :=
  ∃ (k : Nat) (name : String), s.header.params[k]? = some (some name) ∧ i = k + 1

variable {s : Rusqlite.Statement κ} {col : Int64}

theorem column_of_range (h : ColumnRange s (low col)) :
    ∃ rc, s.header.column (asCInt (asUsize col)) = some rc ∧
      s.header.columns[(low col).toNat]? = some rc := by
  have hi : (asCInt (asUsize col)).toInt = ((low col).toNat : Int) := by
    rw [Basis.asCInt_asUsize]
    exact (Int.toNat_of_nonneg h.1).symm
  have hlt : (low col).toNat < s.header.columns.length := by
    have := h.2
    have := h.1
    omega
  rw [Header.column_of_place hi, List.getElem?_eq_getElem hlt]
  exact ⟨_, rfl, rfl⟩

theorem column_of_not_range (h : ¬ ColumnRange s (low col)) :
    s.header.column (asCInt (asUsize col)) = none := by
  rw [← Option.not_isSome_iff_eq_none, Header.column_isSome_iff, Basis.asCInt_asUsize]
  exact h

/-! ## 2. What the functions answer -/

theorem columnName_eq_ok_iff {name : String} : columnName col s = .ok name ↔
    0 ≤ low col ∧ ∃ rc, s.header.columns[(low col).toNat]? = some rc ∧
      rc.name.toStr = some name := by
  have hok : columnName col s = .ok name ↔ s.columnName (asUsize col) = .ok name := by
    unfold columnName
    cases s.columnName (asUsize col) with
    | ok name' => simp [Outcome.mapErr]
    | err e => exact iff_of_false nofun nofun
    | panic msg => exact iff_of_false nofun nofun
  rw [hok, Rusqlite.Statement.columnName_eq]
  by_cases hrange : ColumnRange s (low col)
  · obtain ⟨rc, hrc, hget⟩ := column_of_range hrange
    simp only [hrc, hget, CStr.expectStr_eq_ok_iff, Option.some.injEq, exists_eq_left', hrange.1,
      true_and]
  · rw [column_of_not_range hrange]
    refine iff_of_false nofun fun ⟨h0, rc, hget, _⟩ => hrange ⟨h0, ?_⟩
    have hlt := (List.getElem?_eq_some_iff.mp hget).1
    omega

/-- **`column_name` succeeds exactly when the low bits are a column with a name in UTF-8.** -/
theorem columnName_isOk_iff :
    (∃ name, columnName col s = .ok name) ↔ ReadableColumn s (low col) := by
  simp only [columnName_eq_ok_iff, ReadableColumn, ← CStr.exists_toStr_iff]
  exact ⟨fun ⟨name, h0, rc, hget, hname⟩ => ⟨h0, rc, hget, name, hname⟩,
    fun ⟨h0, rc, hget, name, hname⟩ => ⟨name, h0, rc, hget, hname⟩⟩

theorem columnNames_eq_ok_iff {names : List String} : columnNames s = .ok names ↔
    List.Forall₂ (fun rc name => rc.name.toStr = some name) s.header.columns names := by
  rw [← Rusqlite.Statement.columnNames_eq_ok_iff]
  unfold columnNames
  cases s.columnNames with
  | ok names' => simp [Outcome.mapErr]
  | err e => exact iff_of_false nofun nofun
  | panic msg => exact iff_of_false nofun nofun

/-- **`column_names` succeeds exactly when every name is UTF-8.** -/
theorem columnNames_isOk_iff : (∃ names, columnNames s = .ok names) ↔
    ∀ rc ∈ s.header.columns, rc.name.bytes.IsValidUTF8 := by
  simp only [columnNames_eq_ok_iff, Basis.exists_forall₂_iff, CStr.exists_toStr_iff]

/-- A name is the entry of its column. -/
theorem entry_of_names {names : List String} (h : columnNames s = .ok names) {k : Nat}
    {rc : ResultColumn} (hget : s.header.columns[k]? = some rc) {name : String}
    (hname : rc.name.toStr = some name) : names[k]? = some name := by
  have hall := columnNames_eq_ok_iff.mp h
  obtain ⟨hk, hrc⟩ := List.getElem?_eq_some_iff.mp hget
  have hk' : k < names.length := hall.length_eq ▸ hk
  have hentry := hall.get hk hk'
  simp only [List.get_eq_getElem, hrc, hname, Option.some.injEq] at hentry
  rw [List.getElem?_eq_getElem hk', hentry]

/-- **`parameter_name` returns a name exactly when the low bits are the number of a named
    parameter.** -/
theorem parameterName_isSome_iff :
    (∃ name, parameterName col s = .ok (some name)) ↔ NamedParameter s (low col) := by
  have hcast : (asCInt (asUsize col)).toInt = low col := Basis.asCInt_asUsize col
  constructor
  · rintro ⟨name, hname⟩
    have hname : s.header.bindParameterName (asCInt (asUsize col)) = some name :=
      Outcome.ok.inj hname
    by_cases hpos : 1 ≤ low col
    · have hplace : (asCInt (asUsize col)).toInt = ((low col - 1).toNat : Int) + 1 := by omega
      rw [Header.bindParameterName_of_place hplace] at hname
      exact ⟨_, name, Option.join_eq_some_iff.mp hname, by omega⟩
    · rw [Header.bindParameterName_of_nonpos (by omega)] at hname
      cases hname
  · rintro ⟨k, name, hk, hlow⟩
    refine ⟨name, congrArg Outcome.ok ?_⟩
    show s.header.bindParameterName (asCInt (asUsize col)) = some name
    rw [Header.bindParameterName_of_place (hcast.trans hlow), hk]
    rfl

/-- The record bears the names of the origin of this result column. -/
structure Describes (d : RusqliteDetailedColumnMetadata) (rc : ResultColumn) : Prop where
  databaseName : rc.databaseName.bind CStr.toStr = some d.databaseName
  tableName : rc.tableName.bind CStr.toStr = some d.tableName
  columnName : rc.originName.map CStr.toStringLossy = some d.columnName

/-- The index SQLite gets is a column of a table, and the names of the table and its database are
    UTF-8. -/
def TableColumn (s : Rusqlite.Statement κ) (c : Catalog) (col : Int64) : Prop :=
  ∃ (db table : CString) (column : CStr) (r : ColumnRecord),
    ShowsColumn s c col (.ofString db) (.ofString table) column r

/-- A record comes from the column the low bits lead to, which is a column of a table. -/
theorem columnMetadata_eq_some {c : Catalog} {d : RusqliteDetailedColumnMetadata}
    (h : columnMetadata c col s = .ok (some d)) :
    (∃ rc, s.header.column (asCInt (asUsize col)) = some rc ∧ Describes d rc) ∧
      TableColumn s c col := by
  unfold columnMetadata Rusqlite.Statement.columnMetadata at h
  cases hrc : s.header.column (asCInt (asUsize col)) with
  | none =>
    rw [hrc] at h
    cases h
  | some rc =>
    obtain ⟨name, db, table, origin⟩ := rc
    rw [hrc] at h
    cases db with
    | none => cases h
    | some db =>
      cases table with
      | none => cases h
      | some table =>
        cases origin with
        | none => cases h
        | some origin =>
          simp only [Option.bind_some] at h
          cases hm : Rusqlite.columnMetadataC c (some db) table origin with
          | error e =>
            rw [hm] at h
            cases h
          | ok metadata =>
            rw [hm] at h
            change (toNapi (detailed (db, table, origin, metadata)) >>= fun metadata =>
              Outcome.ok (some metadata)) = _ at h
            cases hd : detailed (db, table, origin, metadata) with
            | error e =>
              rw [hd] at h
              cases h
            | ok d' =>
              rw [hd] at h
              cases h
              obtain ⟨⟨hdb, rfl⟩, ⟨htable, rfl⟩, horigin⟩ := of_detailed hd
              refine ⟨⟨_, rfl, CStr.toStr_ofString _, CStr.toStr_ofString _,
                congrArg some horigin⟩, ⟨_, hdb⟩, ⟨_, htable⟩, origin, ?_⟩
              unfold Rusqlite.columnMetadataC at hm
              cases hr : c.tableColumnMetadata (some (.ofString ⟨_, hdb⟩)) (.ofString ⟨_, htable⟩)
                (some origin) with
              | error f => rw [hr] at hm; cases hm
              | ok r => exact ⟨r, ⟨_, hrc, rfl, rfl, rfl⟩, hr⟩

/-! ## 3. Within the range -/

/-- The three functions keep to the range of the statement. -/
structure NotWrapped (s : Rusqlite.Statement κ) (c : Catalog) (col : Int64) : Prop where
  columnName_iff : (∃ name, columnName col s = .ok name) ↔ ColumnRange s col.toInt
  columnName_entry : ∀ name, columnName col s = .ok name →
    ∃ names, columnNames s = .ok names ∧ names[col.toInt.toNat]? = some name
  columnMetadata : ∀ d, columnMetadata c col s = .ok (some d) → ColumnRange s col.toInt ∧
    ∃ rc, s.header.columns[col.toInt.toNat]? = some rc ∧ Describes d rc
  parameterName : ∀ name, parameterName col s = .ok (some name) → ParameterRange s col.toInt

/-- The number of a parameter is in range. -/
theorem ParameterRange.of_named {i : Int} (h : NamedParameter s i) : ParameterRange s i := by
  obtain ⟨k, name, hk, rfl⟩ := h
  have hlt : k < s.header.params.length := (List.getElem?_eq_some_iff.mp hk).1
  exact ⟨by omega, by omega⟩

/-- A readable column is a column. -/
theorem ColumnRange.of_readable {i : Int} (h : ReadableColumn s i) : ColumnRange s i := by
  obtain ⟨h0, rc, hget, _⟩ := h
  have hlt := (List.getElem?_eq_some_iff.mp hget).1
  exact ⟨h0, by omega⟩

/-- Where the names are UTF-8 every column is readable. -/
theorem ReadableColumn.of_range {i : Int} (h : ColumnRange s i)
    (hnames : ∀ rc ∈ s.header.columns, rc.name.bytes.IsValidUTF8) : ReadableColumn s i := by
  have hlt : i.toNat < s.header.columns.length := by
    have := h.1
    have := h.2
    omega
  exact ⟨h.1, _, List.getElem?_eq_getElem hlt, hnames _ (List.getElem_mem hlt)⟩

/-- A C `int` is not wrapped, if the names of the columns are UTF-8 where it is one of them. -/
theorem notWrapped_of_cInt (c : Catalog) (h : -2 ^ 31 ≤ col.toInt ∧ col.toInt < 2 ^ 31)
    (hnames : ColumnRange s col.toInt → ∀ rc ∈ s.header.columns, rc.name.bytes.IsValidUTF8) :
    NotWrapped s c col := by
  have hlow := low_of_cInt h
  constructor
  · rw [columnName_isOk_iff, hlow]
    exact ⟨.of_readable, fun hrange => .of_range hrange (hnames hrange)⟩
  · intro name hname
    obtain ⟨_, rc, hget, hstr⟩ := columnName_eq_ok_iff.mp hname
    have hrange := ColumnRange.of_readable (columnName_isOk_iff.mp ⟨name, hname⟩)
    rw [hlow] at hget hrange
    obtain ⟨names, hall⟩ := columnNames_isOk_iff.mpr (hnames hrange)
    exact ⟨names, hall, entry_of_names hall hget hstr⟩
  · intro d hd
    obtain ⟨⟨rc, hrc, hdesc⟩, _⟩ := columnMetadata_eq_some hd
    by_cases hrange : ColumnRange s (low col)
    · obtain ⟨rc', hrc', hget⟩ := column_of_range hrange
      rw [hrc] at hrc'
      cases hrc'
      rw [hlow] at hrange hget
      exact ⟨hrange, rc, hget, hdesc⟩
    · rw [column_of_not_range hrange] at hrc
      cases hrc
  · intro name hname
    rw [← hlow]
    exact .of_named (parameterName_isSome_iff.mp ⟨name, hname⟩)

/-- An index beyond a C `int` is out of every range. -/
theorem not_range_of_not_cInt (s : Rusqlite.Statement κ)
    (h : ¬ (-2 ^ 31 ≤ col.toInt ∧ col.toInt < 2 ^ 31)) :
    ¬ ColumnRange s col.toInt ∧ ¬ ParameterRange s col.toInt := by
  have hcolumns := s.header.columns_lt
  have hparams := s.header.params_lt
  constructor
  · intro ⟨h0, hlt⟩
    omega
  · intro ⟨h1, hle⟩
    omega

/-- **The functions keep to the range of the statement exactly when the index is a C `int`** and the
    names of the columns are UTF-8 if it is one of them; **or it is none, and its low 32 bits lead
    to no column with a name in UTF-8, no column of a table that can be named and no named
    parameter.** -/
theorem index_not_wrapped_iff (s : Rusqlite.Statement κ) (c : Catalog) (col : Int64) :
    NotWrapped s c col ↔
      ((-2 ^ 31 ≤ col.toInt ∧ col.toInt < 2 ^ 31) ∧
        (ColumnRange s col.toInt → ∀ rc ∈ s.header.columns, rc.name.bytes.IsValidUTF8)) ∨
      (¬ (-2 ^ 31 ≤ col.toInt ∧ col.toInt < 2 ^ 31) ∧ ¬ ReadableColumn s (low col) ∧
        ¬ TableColumn s c col ∧ ¬ NamedParameter s (low col)) := by
  by_cases hint : -2 ^ 31 ≤ col.toInt ∧ col.toInt < 2 ^ 31
  · simp only [hint, not_true, false_and, or_false, true_and]
    refine ⟨fun h hrange => ?_, notWrapped_of_cInt c hint⟩
    obtain ⟨name, hname⟩ := h.columnName_iff.mpr hrange
    obtain ⟨names, hnames, _⟩ := h.columnName_entry name hname
    exact columnNames_isOk_iff.mp ⟨names, hnames⟩
  · obtain ⟨hcol, hparam⟩ := not_range_of_not_cInt s hint
    simp only [hint, false_and, false_or, not_false_eq_true, true_and]
    constructor
    · intro h
      refine ⟨fun hread => hcol (h.columnName_iff.mp (columnName_isOk_iff.mpr hread)), ?_, ?_⟩
      · rintro ⟨db, table, column, r, hshows⟩
        exact hcol (h.columnMetadata _ (columnMetadata_of_origin hshows)).1
      · intro hnamed
        obtain ⟨name, hname⟩ := parameterName_isSome_iff.mpr hnamed
        exact hparam (h.parameterName name hname)
    · intro ⟨hread, hshows, hnamed⟩
      refine ⟨?_, fun name hname => ?_, fun d hd => ?_, fun name hname => ?_⟩
      · rw [columnName_isOk_iff]
        exact iff_of_false hread hcol
      · exact absurd (columnName_isOk_iff.mp ⟨name, hname⟩) hread
      · exact absurd (columnMetadata_eq_some hd).2 hshows
      · exact absurd (parameterName_isSome_iff.mp ⟨name, hname⟩) hnamed

/-- `column_name(2 ** 32)` is the name of column 0 of a statement with one column. -/
theorem columnName_of_two_pow_32 :
    columnName 4294967296 selectX = .ok "x" ∧ ¬ ColumnRange selectX (4294967296 : Int64).toInt ∧
      ¬ NotWrapped selectX (tableWith ⟨none, "BINARY", false, false, false⟩) 4294967296 := by
  have hname : columnName 4294967296 selectX = .ok "x" :=
    columnName_eq_ok_iff.mpr ⟨by decide, _, rfl, CStr.toStr_ofString _⟩
  have hrange : ¬ ColumnRange selectX (4294967296 : Int64).toInt :=
    (not_range_of_not_cInt selectX (by decide)).1
  exact ⟨hname, hrange, fun h => hrange (h.columnName_iff.mp ⟨"x", hname⟩)⟩

end ScopedStatement

end NodeRusqlite
