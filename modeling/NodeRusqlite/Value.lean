/-
  File:      NodeRusqlite/Value.lean
  Subject:   The value JavaScript sees, and its two conversions: from a value SQLite
             returned (`Value.ofValueRef`) and to a value SQLite binds (`Value.toSql`).

  * `converted_isSome_iff`: the conversion from SQLite ends in a value unless the
    value is TEXT that is not UTF-8, where it panics.
  * `converted_eq_some`: the two conversions are inverse to each other.
-/
import NodeRusqlite.Errors
import NodeRusqlite.Basis.Foreign
import NodeRusqlite.Basis.Outcome

namespace NodeRusqlite

open Basis (Binary64 Outcome)

/-- `rusqlite::types::Value`: an owned value. -/
inductive Rusqlite.Value where
  | null : Rusqlite.Value
  | integer (i : Int64) : Rusqlite.Value
  | real (r : Binary64) : Rusqlite.Value
  | text (s : String) : Rusqlite.Value
  | blob (b : ByteArray) : Rusqlite.Value
  deriving DecidableEq

/-- `From<&Value> for ValueRef`. -/
def ValueRef.ofOwned : Rusqlite.Value → ValueRef
  | .null => .null
  | .integer i => .integer i
  | .real r => .real r
  | .text s => .text s.toByteArray
  | .blob b => .blob b

/-- A single SQLite value in the shape JavaScript gets. -/
inductive Value where
  | null : Value
  | integer (i : Int64) : Value
  | real (r : Binary64) : Value
  | text (s : String) : Value
  | blob (b : ByteArray) : Value
  deriving DecidableEq

namespace Value

variable {ε : Type}

/-- `From<ValueRef> for Value`. -/
def ofValueRef : ValueRef → Outcome ε Value
  | .real r => .ok (.real r)
  | .integer i => .ok (.integer i)
  | .blob b => .ok (.blob b)
  | .text s =>
    match String.fromUTF8? s with
    | some t => .ok (.text t)
    | none => .panic "Unable to parse utf-8 text string"
  | .null => .ok .null

/-- `impl ToSql for Value`: the value to bind. -/
def toSql : Value → Except Rusqlite.Error Rusqlite.Value
  | .null => .ok .null
  | .integer i => .ok (.integer i)
  | .real r => .ok (.real r)
  | .text s => .ok (.text s)
  | .blob b => .ok (.blob b)

/-- The owned value `to_sql` hands out. -/
def owned : Value → Rusqlite.Value
  | .null => .null
  | .integer i => .integer i
  | .real r => .real r
  | .text s => .text s
  | .blob b => .blob b

/-- `to_sql` never fails. -/
@[simp] theorem toSql_eq (v : Value) : v.toSql = .ok v.owned := by
  cases v <;> rfl

/-- The value a conversion ends in; `none`: it panics. -/
def converted : ValueRef → Option Value
  | .real r => some (.real r)
  | .integer i => some (.integer i)
  | .blob b => some (.blob b)
  | .text s => (String.fromUTF8? s).map .text
  | .null => some .null

theorem ofValueRef_eq (r : ValueRef) : (ofValueRef r : Outcome ε Value) =
    match converted r with
    | some v => .ok v
    | none => .panic "Unable to parse utf-8 text string" := by
  cases r with
  | text s =>
    simp only [ofValueRef, converted]
    cases String.fromUTF8? s <;> rfl
  | null | integer i | real r | blob b => rfl

theorem fromUTF8?_eq_some {s : ByteArray} {t : String} :
    String.fromUTF8? s = some t ↔ s = t.toByteArray := by
  constructor
  · intro h
    unfold String.fromUTF8? at h
    split at h
    · cases h
      rfl
    · cases h
  · rintro rfl
    exact Basis.fromUTF8?_toByteArray t

/-- **The conversion loses nothing**: a value ends in `v` only when it is what `v` binds. -/
theorem converted_eq_some {r : ValueRef} {v : Value} :
    converted r = some v ↔ r = ValueRef.ofOwned v.owned := by
  cases r with
  | text s =>
    simp only [converted, Option.map_eq_some_iff, fromUTF8?_eq_some]
    refine ⟨fun h => ?_, fun h => ?_⟩
    · obtain ⟨t, rfl, rfl⟩ := h
      rfl
    · cases v with
      | text t => cases h; exact ⟨t, rfl, rfl⟩
      | null | integer i | real r | blob b => cases h
  | null | integer i | real r | blob b =>
    cases v <;> simp [converted, owned, ValueRef.ofOwned, eq_comm]

/-- **Converting ends in a value exactly when the value is not broken TEXT.** -/
theorem converted_isSome_iff (r : ValueRef) : (∃ v, converted r = some v) ↔ ¬ r.BadText := by
  cases r with
  | text s =>
    simp only [converted, ValueRef.BadText, String.fromUTF8?]
    by_cases h : s.IsValidUTF8
    · simp [h]
    · simp [h]
  | null | integer i | real r | blob b => simp [converted, ValueRef.BadText]

end Value

end NodeRusqlite
