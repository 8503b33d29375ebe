/-
  File:      NodeRusqlite/Sqlite/Header.lean
  Subject:   What SQLite tells about a compiled text beside running it: the names of its
             parameters, and the names and origins of its result columns.

  Parameters are numbered `1 .. n` and have at most one name each; a name
  belongs to one number. Columns are numbered from 0. Every lookup takes a C
  `int` and answers NULL out of range.
-/
import NodeRusqlite.Basis.Foreign

namespace NodeRusqlite.Sqlite

open Basis (CStr hasNul)

/-- A result column: its name, and the table column it shows, if it shows one. -/
structure ResultColumn where
  name : CStr
  databaseName : Option CStr
  tableName : Option CStr
  originName : Option CStr
  deriving DecidableEq

/-- The parameters and the result columns of a compiled text. -/
structure Header where
  params : List (Option String)
  columns : List ResultColumn
  params_lt : params.length < 2 ^ 31
  columns_lt : columns.length < 2 ^ 31
  /-- A name used twice is one parameter. -/
  params_inj : ∀ (j k : Nat) (name : String), params[j]? = some (some name) →
    params[k]? = some (some name) → j = k
  /-- A parameter name is a token of the text. -/
  params_noNul : ∀ name : String, some name ∈ params → hasNul name = false

namespace Header

variable {h : Header} {name : String}

/-- What the NULL statement answers. -/
def null : Header := ⟨[], [], by decide, by decide, nofun, nofun⟩

/-- `sqlite3_bind_parameter_index`: 0 when no parameter has the name. -/
def bindParameterIndex (h : Header) (name : String) : Int32 :=
  if some name ∈ h.params then Int32.ofNat (h.params.idxOf (some name) + 1) else 0

/-- `sqlite3_bind_parameter_name`: NULL for an anonymous parameter and out of range. -/
def bindParameterName (h : Header) (i : Int32) : Option String :=
  if 1 ≤ i.toInt then (h.params[(i.toInt - 1).toNat]?).join else none

/-- `sqlite3_column_count`, read as a `usize`. -/
def columnCount (h : Header) : UInt64 := UInt64.ofNat h.columns.length

/-- The column the lookups `sqlite3_column_name`, `.._database_name`, `.._table_name` and
    `.._origin_name` look at. -/
def column (h : Header) (i : Int32) : Option ResultColumn :=
  if 0 ≤ i.toInt then h.columns[i.toInt.toNat]? else none

theorem mem_params_iff : some name ∈ h.params ↔ ∃ k : Nat, h.params[k]? = some (some name) :=
  List.mem_iff_getElem?

/-- **The number of a parameter is one more than its place.** -/
theorem bindParameterIndex_of_get {k : Nat} (hk : h.params[k]? = some (some name)) :
    (h.bindParameterIndex name).toInt = k + 1 := by
  have hmem : some name ∈ h.params := mem_params_iff.mpr ⟨k, hk⟩
  have hlt := List.idxOf_lt_length_of_mem hmem
  have hget : h.params[h.params.idxOf (some name)]? = some (some name) := by
    rw [List.getElem?_eq_getElem hlt, List.getElem_idxOf]
  have hidx : h.params.idxOf (some name) = k := h.params_inj _ _ name hget hk
  have hbound := h.params_lt
  rw [bindParameterIndex, if_pos hmem, Int32.toInt_ofNat_of_lt (by omega), hidx]
  rfl

theorem bindParameterIndex_of_notMem (hn : some name ∉ h.params) : h.bindParameterIndex name = 0 :=
  if_neg hn

/-- **The name of the number of a place is the name at that place.** -/
theorem bindParameterName_of_place {i : Int32} {k : Nat} (hi : i.toInt = k + 1) :
    h.bindParameterName i = (h.params[k]?).join := by
  have hk : (i.toInt - 1).toNat = k := by omega
  rw [bindParameterName, if_pos (by omega), hk]

theorem bindParameterName_of_nonpos {i : Int32} (hi : i.toInt ≤ 0) : h.bindParameterName i = none :=
  if_neg (by omega)

theorem column_of_place {i : Int32} {k : Nat} (hi : i.toInt = k) : h.column i = h.columns[k]? := by
  have hk : i.toInt.toNat = k := by omega
  rw [column, if_pos (by omega), hk]

/-- A lookup succeeds exactly in range. -/
theorem column_isSome_iff {i : Int32} :
    (h.column i).isSome = true ↔ 0 ≤ i.toInt ∧ i.toInt < h.columns.length := by
  unfold column
  split
  · rw [isSome_getElem?]
    omega
  · simp
    omega

end Header

end NodeRusqlite.Sqlite
