/-
  File:      NodeRusqlite/Rusqlite/Open.lean
  Subject:   Opening a connection in the wrapped crate: `OpenFlags`, the entry points of
             `Connection` and `InnerConnection::open_with_flags`.

  What SQLite does is a parameter, `Opener δ`; `δ` is the database handle.
  `Opener.recording` opens nothing and hands back what `sqlite3_open_v2` is
  called with, so a statement can speak about the call.

  * `openWithFlags_eq`: the call, and what becomes of its result.
-/
import NodeRusqlite.Errors
import NodeRusqlite.Rusqlite.Column

namespace NodeRusqlite

open Basis (CString hasNul)

/-! ## 1. SQLite -/

namespace Sqlite

/-- What `sqlite3_open_v2` ends in: a database, or a failure; `handle`: there is a database object
    all the same, which holds the text of the failure. -/
inductive OpenResult (δ : Type) where
  | opened (db : δ) : OpenResult δ
  | failed (f : Failure) (handle : Bool) : OpenResult δ

/-- SQLite, before a connection is open. -/
structure Opener (δ : Type) where
  /-- `sqlite3_threadsafe() != 0`, and `sqlite3_mutex_alloc` gives a real mutex. -/
  threadsafe : Bool
  realMutex : Bool
  versionNumber : Nat
  openV2 : CString → Int32 → Option CString → OpenResult δ
  extendedResultCodes : δ → δ
  busyTimeout : δ → Option Failure

/-- An opener that hands back the arguments of `sqlite3_open_v2`. -/
def Opener.recording {δ : Type} (O : Opener δ) : Opener (CString × Int32 × Option CString) where
  threadsafe := O.threadsafe
  realMutex := O.realMutex
  versionNumber := O.versionNumber
  openV2 path flags vfs := .opened (path, flags, vfs)
  extendedResultCodes db := db
  busyTimeout _ := none

/-- `sqlite3_open_v2` fails with MISUSE unless the low three bits are READONLY, READWRITE or
    READWRITE | CREATE. -/
def Opener.ChecksMode {δ : Type} (O : Opener δ) : Prop :=
  ∀ path flags vfs, flags &&& 7 ≠ 1 → flags &&& 7 ≠ 2 → flags &&& 7 ≠ 6 →
    O.openV2 path flags vfs = .failed .misuse true

end Sqlite

namespace Rusqlite

open Sqlite (Opener)

/-! ## 2. `OpenFlags` -/

namespace OpenFlags

def readOnly : Int32 := 0x00000001
def readWrite : Int32 := 0x00000002
def create : Int32 := 0x00000004
def uri : Int32 := 0x00000040
def memory : Int32 := 0x00000080
def noMutex : Int32 := 0x00008000
def fullMutex : Int32 := 0x00010000
def sharedCache : Int32 := 0x00020000
def privateCache : Int32 := 0x00040000
def nofollow : Int32 := 0x01000000
def exrescode : Int32 := 0x02000000

/-- Every bit that is declared. -/
def all : Int32 :=
  readOnly ||| readWrite ||| create ||| uri ||| memory ||| noMutex ||| fullMutex ||| sharedCache |||
    privateCache ||| nofollow ||| exrescode

end OpenFlags

/-- `OpenFlags`. -/
structure OpenFlags where
  bits : Int32
  declared : bits &&& ~~~OpenFlags.all = 0

namespace OpenFlags

/-- `OpenFlags::from_bits`. -/
def fromBits (bits : Int32) : Option OpenFlags :=
  if h : bits &&& ~~~all = 0 then some ⟨bits, h⟩ else none

/-- `OpenFlags::empty`. -/
def empty : OpenFlags := ⟨0, by decide⟩

/-- `OpenFlags::default`. -/
def default : OpenFlags := ⟨readWrite ||| create ||| noMutex ||| uri, by decide⟩

theorem or_and (a b m : Int32) : (a ||| b) &&& m = (a &&& m) ||| (b &&& m) := by
  apply Int32.toBitVec_inj.mp
  exact BitVec.and_or_distrib_right

/-- A union is declared exactly when both parts are. -/
theorem declared_or_iff (a b : Int32) : (a ||| b) &&& ~~~all = 0 ↔
    a &&& ~~~all = 0 ∧ b &&& ~~~all = 0 := by
  rw [or_and, Int32.or_eq_zero_iff]

/-- `flags |= OpenFlags::SQLITE_OPEN_EXRESCODE`. -/
def withExrescode (flags : OpenFlags) : OpenFlags :=
  ⟨flags.bits ||| exrescode, (declared_or_iff _ _).mpr ⟨flags.declared, by decide⟩⟩

theorem fromBits_bits (flags : OpenFlags) : fromBits flags.bits = some flags :=
  dif_pos flags.declared

end OpenFlags

/-! ## 3. Opening -/

section Open

variable {δ : Type} (O : Opener δ)

/-- `ensure_safe_sqlite_threading_mode`. -/
def ensureSafeThreadingMode : Except Error Unit :=
  if O.threadsafe = false then .error .sqliteSingleThreadedMode
  else if O.realMutex = false then .error .sqliteSingleThreadedMode
  else .ok ()

/-- The error of a failed `sqlite3_open_v2`; `ErrorCode::CannotOpen` is the primary code 14. -/
def openError (path : CString) (f : Failure) (handle : Bool) : Error :=
  if handle = false then .sqliteFailure { f with message := path.val }
  else if f.code % 256 = 14 then
    .sqliteFailure { f with message := f.message ++ ": " ++ path.val }
  else .sqliteFailure f

/-- What becomes of a call of `sqlite3_open_v2` with these arguments. -/
def finishOpen (args : CString × Int32 × Option CString) : Except Error δ :=
  match O.openV2 args.1 args.2.1 args.2.2 with
  | .failed f handle => .error (openError args.1 f handle)
  | .opened db =>
    let db := if decide (3037000 ≤ O.versionNumber) then db else O.extendedResultCodes db
    match O.busyTimeout db with
    | some f => .error (.sqliteFailure f)
    | none => .ok db

/-- `InnerConnection::open_with_flags`. -/
def InnerConnection.openWithFlags (path : CString) (flags : OpenFlags) (vfs : Option CString) :
    Except Error δ := do
  ensureSafeThreadingMode O
  let exrescode := decide (3037000 ≤ O.versionNumber)
  let flags := if exrescode then flags.withExrescode else flags
  match O.openV2 path flags.bits vfs with
  | .failed f handle => .error (openError path f handle)
  | .opened db =>
    let db := if exrescode then db else O.extendedResultCodes db
    match O.busyTimeout db with
    | some f => .error (.sqliteFailure f)
    | none => .ok db

/-- `Connection::open_with_flags`. -/
def Connection.openWithFlags (path : String) (flags : OpenFlags) : Except Error δ := do
  let path ← asCstr path
  InnerConnection.openWithFlags O path flags none

/-- `Connection::open_with_flags_and_vfs`. -/
def Connection.openWithFlagsAndVfs (path : String) (flags : OpenFlags) (vfs : String) :
    Except Error δ := do
  let path ← asCstr path
  let vfs ← asCstr vfs
  InnerConnection.openWithFlags O path flags (some vfs)

/-- `Connection::open`. -/
def Connection.open_ (path : String) : Except Error δ :=
  Connection.openWithFlags O path .default

/-- `Connection::open_in_memory_with_flags`. -/
def Connection.openInMemoryWithFlags (flags : OpenFlags) : Except Error δ :=
  Connection.openWithFlags O ":memory:" flags

/-- `Connection::open_in_memory_with_flags_and_vfs`. -/
def Connection.openInMemoryWithFlagsAndVfs (flags : OpenFlags) (vfs : String) : Except Error δ :=
  Connection.openWithFlagsAndVfs O ":memory:" flags vfs

/-- `Connection::open_in_memory`. -/
def Connection.openInMemory : Except Error δ := Connection.openInMemoryWithFlags O .default

/-- The bits handed to `sqlite3_open_v2`. -/
def handedBits (flags : OpenFlags) : Int32 :=
  if decide (3037000 ≤ O.versionNumber) then flags.withExrescode.bits else flags.bits

/-- **One call of `sqlite3_open_v2`, with these arguments, and what becomes of it.** -/
theorem openWithFlags_eq (path : CString) (flags : OpenFlags) (vfs : Option CString) :
    InnerConnection.openWithFlags O path flags vfs =
      (do ensureSafeThreadingMode O
          finishOpen O (path, handedBits O flags, vfs)) := by
  unfold InnerConnection.openWithFlags handedBits
  by_cases hversion : 3037000 ≤ O.versionNumber
  · simp only [finishOpen, hversion, decide_true, if_true]
  · simp only [finishOpen, hversion, decide_false, Bool.false_eq_true, if_false]

/-- An opener that records hands the arguments back. -/
theorem finishOpen_recording (args : CString × Int32 × Option CString) :
    finishOpen O.recording args = .ok args := by
  show Except.ok (if decide (3037000 ≤ O.versionNumber) then args else args) = _
  rw [ite_self]

/-- The flags asked for are among those handed over. -/
theorem handedBits_and (flags : OpenFlags) : handedBits O flags &&& flags.bits = flags.bits := by
  unfold handedBits
  split
  · show (flags.bits ||| OpenFlags.exrescode) &&& flags.bits = _
    rw [OpenFlags.or_and, Int32.and_self]
    apply Int32.toBitVec_inj.mp
    show flags.bits.toBitVec ||| (OpenFlags.exrescode.toBitVec &&& flags.bits.toBitVec) = _
    ext i hi
    simp
  · exact Int32.and_self

/-- The mode bits are those of the flags. -/
theorem handedBits_mode (flags : OpenFlags) : handedBits O flags &&& 7 = flags.bits &&& 7 := by
  unfold handedBits
  split
  · have hexrescode : OpenFlags.exrescode &&& 7 = 0 := by decide
    show (flags.bits ||| OpenFlags.exrescode) &&& 7 = _
    rw [OpenFlags.or_and, hexrescode, Int32.or_zero]
  · rfl

end Open

end Rusqlite

end NodeRusqlite
