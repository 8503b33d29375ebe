/-
  File:      NodeRusqlite/Errors.lean
  Subject:   The errors of the wrapped crate and the errors JavaScript sees.

  Of `rusqlite::Error` the variants are kept that the modelled functions
  raise. `NodeRusqliteError` passes an error's `Display` text on as the
  reason of a `GenericFailure`.
-/
import NodeRusqlite.Basis.Foreign
import NodeRusqlite.Sqlite.Value

namespace NodeRusqlite

namespace Rusqlite

/-- `rusqlite::Error`. -/
inductive Error where
  | sqliteFailure (f : Failure) : Error
  | sqlInputError (f : Failure) (sql : String) (offset : Nat) : Error
  | executeReturnedResults : Error
  | queryReturnedNoRows : Error
  | queryReturnedMoreThanOneRow : Error
  | nulError (position : Nat) : Error
  | utf8Error (column : Nat) (err : Basis.Utf8Error) : Error
  | invalidColumnIndex (i : UInt64) : Error
  | invalidColumnName (name : String) : Error
  | statementChangedRows (n : UInt64) : Error
  | multipleStatement : Error
  | invalidParameterCount (got needed : Nat) : Error
  | sqliteSingleThreadedMode : Error
  deriving DecidableEq

/-- `impl Display for Error`. -/
def Error.display : Error → String
  | .sqliteFailure f => f.message
  | .sqlInputError f sql offset => f.message ++ " in " ++ sql ++ " at offset " ++ toString offset
  | .executeReturnedResults => "Execute returned results - did you mean to call query?"
  | .queryReturnedNoRows => "Query returned no rows"
  | .queryReturnedMoreThanOneRow => "Query returned more than one row"
  | .nulError position => "nul byte found in provided data at position: " ++ toString position
  | .utf8Error column err => err.display ++ " at index " ++ toString column
  | .invalidColumnIndex i => "Invalid column index: " ++ toString i
  | .invalidColumnName name => "Invalid column name: " ++ name
  | .statementChangedRows n => "Query changed " ++ toString n ++ " rows"
  | .multipleStatement => "Multiple statements provided"
  | .invalidParameterCount got needed =>
      "Wrong number of parameters passed to query. Got " ++ toString got ++ ", needed " ++
        toString needed
  | .sqliteSingleThreadedMode =>
      "SQLite was compiled or configured for single-threaded use only"

end Rusqlite

/-- `napi::Status`, as far as it is used. -/
inductive Status where
  | invalidArg : Status
  | genericFailure : Status
  deriving DecidableEq

/-- `napi::Error`. -/
structure NapiError where
  status : Status
  reason : String
  deriving DecidableEq

namespace NapiError

/-- `From<NodeRusqliteError> for napi::Error`. -/
def ofRusqlite (e : Rusqlite.Error) : NapiError := ⟨.genericFailure, e.display⟩

/-- `napi::Error::from_reason`. -/
def fromReason (reason : String) : NapiError := ⟨.genericFailure, reason⟩

end NapiError

end NodeRusqlite
