/-
  File:      NodeRusqlite/Sqlite/Value.lean
  Subject:   The values SQLite binds and returns, and the failures it reports.

  A value is one of SQLite's five storage classes. TEXT is a byte string:
  SQLite stores what it is given and does not check that it is UTF-8.
-/
import NodeRusqlite.Basis.Binary64

namespace NodeRusqlite

open Basis (Binary64)

/-- `rusqlite::types::ValueRef`: a value as SQLite holds it. -/
inductive ValueRef where
  | null : ValueRef
  | integer (i : Int64) : ValueRef
  | real (r : Binary64) : ValueRef
  | text (s : ByteArray) : ValueRef
  | blob (b : ByteArray) : ValueRef
  deriving DecidableEq

/-- The value is TEXT and its bytes are not UTF-8. -/
def ValueRef.BadText : ValueRef → Prop
  | .text s => ¬ s.IsValidUTF8
  | _ => False

instance : DecidablePred ValueRef.BadText := fun v =>
  match v with
  | .text s => inferInstanceAs (Decidable (¬ s.IsValidUTF8))
  | .null | .integer _ | .real _ | .blob _ => inferInstanceAs (Decidable False)

/-- A result code that is an error: not `SQLITE_OK`, `SQLITE_ROW` or `SQLITE_DONE`; with the
    text SQLite has for it (`sqlite3_errmsg`). -/
structure Failure where
  code : Nat
  message : String
  isError : code ≠ 0 ∧ code ≠ 100 ∧ code ≠ 101
  deriving DecidableEq

namespace Failure

def misuse : Failure := ⟨21, "bad parameter or other API misuse", by decide⟩

def range : Failure := ⟨25, "column index out of range", by decide⟩

def tooBig : Failure := ⟨18, "string or blob too big", by decide⟩

/-- `SQLITE_ERROR` is an error code. -/
theorem isError_error : (1 : Nat) ≠ 0 ∧ (1 : Nat) ≠ 100 ∧ (1 : Nat) ≠ 101 := by decide

/-- `SQLITE_BUSY` is an error code. -/
theorem isError_busy : (5 : Nat) ≠ 0 ∧ (5 : Nat) ≠ 100 ∧ (5 : Nat) ≠ 101 := by decide

end Failure

end NodeRusqlite
