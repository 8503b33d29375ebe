/-
  File:      NodeRusqlite/Connection/Open.lean
  Subject:   `Connection.open` and `Connection.open_in_memory` with their options.

  The flags arrive as a number. The constants that are exported for it hold bits
  that the flags of the wrapped crate do not declare, and `from_bits(flags)` is
  unwrapped. With a VFS alone, no flags at all are handed on.

  * `Connection.openInMemory_eq`: the second entry point is the first at `:memory:`.
  * **`open_as_asked_iff`**: a call returns, with the flags asked for, exactly when
    the bits are declared.
  * **`omitted_means_default_iff`**: an omitted option means its default, unless the
    flags are the one that is omitted.
-/
import NodeRusqlite.Rusqlite.Open
import NodeRusqlite.Statement.Scoped

namespace NodeRusqlite

open Basis (CString Outcome hasNul)
open Sqlite (Opener)

/-! ## 1. The options -/

/-- `OpenFlags`. -/
inductive OpenFlags where
  | readonly | readwrite | create | deleteOnClose | exclusive | autoProxy | uri | memory
  | mainDb | tempDb | transientDb | mainJournal | tempJournal | subjournal | superJournal
  | nomutex | fullmutex | sharedcache | privatecache | wal | nofollow | exrescode
  deriving DecidableEq

/-- The number a constant is declared with. -/
def OpenFlags.number : OpenFlags → Int32
  | .readonly => 0x00000001
  | .readwrite => 0x00000002
  | .create => 0x00000004
  | .deleteOnClose => 0x00000008
  | .exclusive => 0x00000010
  | .autoProxy => 0x00000020
  | .uri => 0x00000040
  | .memory => 0x00000080
  | .mainDb => 0x00000100
  | .tempDb => 0x00000200
  | .transientDb => 0x00000400
  | .mainJournal => 0x00000800
  | .tempJournal => 0x00001000
  | .subjournal => 0x00002000
  | .superJournal => 0x00004000
  | .nomutex => 0x00008000
  | .fullmutex => 0x00010000
  | .sharedcache => 0x00020000
  | .privatecache => 0x00040000
  | .wal => 0x00080000
  | .nofollow => 0x01000000
  | .exrescode => 0x02000000

/-- The bitwise or of exported constants. -/
def OpenFlags.union (ks : List OpenFlags) : Int32 := ks.foldr (fun k flags => k.number ||| flags) 0

/-- `ConnectionOptions`. -/
structure ConnectionOptions where
  flags : Option Int32
  vfs : Option String

/-! ## 2. The entry points -/

section Entry

variable {δ : Type} (O : Opener δ)

/-- `rusqlite::OpenFlags::from_bits(flags).unwrap()`. -/
def unwrapFlags (flags : Int32) : Outcome NapiError Rusqlite.OpenFlags :=
  match Rusqlite.OpenFlags.fromBits flags with
  | some flags => .ok flags
  | none => .panic "called `Option::unwrap()` on a `None` value"

/-- `Connection::open`. -/
def Connection.open_ (path : String) (options : Option ConnectionOptions) : Outcome NapiError δ :=
  match options with
  | some option =>
    match option.flags, option.vfs with
    | some flags, some vfs => do
      let flags ← unwrapFlags flags
      toNapi (Rusqlite.Connection.openWithFlagsAndVfs O path flags vfs)
    | some flags, none => do
      let flags ← unwrapFlags flags
      toNapi (Rusqlite.Connection.openWithFlags O path flags)
    | none, some vfs => toNapi (Rusqlite.Connection.openWithFlagsAndVfs O path .empty vfs)
    | none, none => toNapi (Rusqlite.Connection.open_ O path)
  | none => toNapi (Rusqlite.Connection.open_ O path)

/-- `Connection::open_in_memory`. -/
def Connection.openInMemory (options : Option ConnectionOptions) : Outcome NapiError δ :=
  match options with
  | some option =>
    match option.flags, option.vfs with
    | some flags, some vfs => do
      let flags ← unwrapFlags flags
      toNapi (Rusqlite.Connection.openInMemoryWithFlagsAndVfs O flags vfs)
    | some flags, none => do
      let flags ← unwrapFlags flags
      toNapi (Rusqlite.Connection.openInMemoryWithFlags O flags)
    | none, some vfs => toNapi (Rusqlite.Connection.openInMemoryWithFlagsAndVfs O .empty vfs)
    | none, none => toNapi (Rusqlite.Connection.openInMemory O)
  | none => toNapi (Rusqlite.Connection.openInMemory O)

/-- Opening in memory is opening `:memory:`. -/
theorem Connection.openInMemory_eq (options : Option ConnectionOptions) :
    Connection.openInMemory O options = Connection.open_ O ":memory:" options := by
  rcases options with _ | ⟨_ | flags, _ | vfs⟩ <;> rfl

/-- A call of one of the two. -/
inductive OpenCall where
  | open_ (path : String) : OpenCall
  | openInMemory : OpenCall

/-- The path a call opens. -/
def OpenCall.path : OpenCall → String
  | .open_ path => path
  | .openInMemory => ":memory:"

/-- Carries a call out. -/
def OpenCall.run : OpenCall → Option ConnectionOptions → Outcome NapiError δ
  | .open_ path => Connection.open_ O path
  | .openInMemory => Connection.openInMemory O

/-! ## 3. What a call comes to -/

/-- The flags that were given, as a number. -/
def givenFlags (options : Option ConnectionOptions) : Option Int32 := options.bind (·.flags)

/-- The VFS that was given. -/
def givenVfs (options : Option ConnectionOptions) : Option String := options.bind (·.vfs)

/-- Opens the path with flags; without a VFS, the default one. -/
def connect (path : String) (flags : Rusqlite.OpenFlags) (vfs : Option String) :
    Outcome NapiError δ :=
  toNapi do
    let path ← Rusqlite.asCstr path
    let vfs ← Rusqlite.asCstrOption vfs
    Rusqlite.InnerConnection.openWithFlags O path flags vfs

/-- The flags a call opens with. -/
def flagsFor (options : Option ConnectionOptions) : Outcome NapiError Rusqlite.OpenFlags :=
  match givenFlags options, givenVfs options with
  | some flags, _ => unwrapFlags flags
  | none, some _ => .ok .empty
  | none, none => .ok .default

theorem openWithFlagsAndVfs_eq (path : String) (flags : Rusqlite.OpenFlags) (vfs : String) :
    toNapi (Rusqlite.Connection.openWithFlagsAndVfs O path flags vfs) =
      connect O path flags (some vfs) := by
  unfold Rusqlite.Connection.openWithFlagsAndVfs connect
  cases Rusqlite.asCstr path with
  | error e => rfl
  | ok path =>
    unfold Rusqlite.asCstrOption
    dsimp only
    cases Rusqlite.asCstr vfs with
    | error e => rfl
    | ok vfs => rfl

theorem openWithFlags_eq (path : String) (flags : Rusqlite.OpenFlags) :
    toNapi (Rusqlite.Connection.openWithFlags O path flags) = connect O path flags none := by
  unfold Rusqlite.Connection.openWithFlags connect
  cases Rusqlite.asCstr path with
  | error e => rfl
  | ok path => rfl

/-- **A call: first the flags, then the connection.** -/
theorem OpenCall.run_eq (call : OpenCall) (options : Option ConnectionOptions) :
    call.run O options =
      (flagsFor options >>= fun flags => connect O call.path flags (givenVfs options)) := by
  have hopen (path : String) : Connection.open_ O path options =
      (flagsFor options >>= fun flags => connect O path flags (givenVfs options)) := by
    rcases options with _ | ⟨_ | flags, _ | vfs⟩
    · exact openWithFlags_eq O path .default
    · exact openWithFlags_eq O path .default
    · exact openWithFlagsAndVfs_eq O path .empty vfs
    · show (unwrapFlags flags >>= _) = (unwrapFlags flags >>= _)
      simp only [openWithFlags_eq]
      rfl
    · show (unwrapFlags flags >>= _) = (unwrapFlags flags >>= _)
      simp only [openWithFlagsAndVfs_eq]
      rfl
  cases call with
  | open_ path => exact hopen path
  | openInMemory => exact (Connection.openInMemory_eq O options).trans (hopen ":memory:")

/-- The path and the VFS hold no NUL, and SQLite is safe for threads. -/
structure ReachesSqlite (path : String) (vfs : Option String) : Prop where
  path_ok : hasNul path = false
  vfs_ok : ∀ v, vfs = some v → hasNul v = false
  threads_ok : Rusqlite.ensureSafeThreadingMode O = .ok ()

/-- What reaches SQLite is the path and the VFS as C strings. -/
theorem ReachesSqlite.cstrings {path : String} {vfs : Option String}
    (h : ReachesSqlite O path vfs) :
    ∃ (p : CString) (v : Option CString), p.val = path ∧ v.map Subtype.val = vfs := by
  cases vfs with
  | none => exact ⟨⟨path, h.path_ok⟩, none, rfl, rfl⟩
  | some v => exact ⟨⟨path, h.path_ok⟩, some ⟨v, h.vfs_ok v rfl⟩, rfl, rfl⟩

/-- A connection is one call of `sqlite3_open_v2`, and what becomes of it. -/
theorem connect_cstrings (hthreads : Rusqlite.ensureSafeThreadingMode O = .ok ())
    (path : CString) (flags : Rusqlite.OpenFlags) (vfs : Option CString) :
    connect O path.val flags (vfs.map Subtype.val) =
      toNapi (Rusqlite.finishOpen O (path, Rusqlite.handedBits O flags, vfs)) := by
  unfold connect
  rw [Rusqlite.asCstr_ok, Rusqlite.asCstrOption_ok]
  show toNapi (Rusqlite.InnerConnection.openWithFlags O path flags vfs) = _
  rw [Rusqlite.openWithFlags_eq, hthreads]
  rfl

/-- A call that does not reach SQLite fails, whatever the flags. -/
theorem connect_unreached {path : String} {vfs : Option String} (h : ¬ ReachesSqlite O path vfs) :
    ∃ e, ∀ flags, connect O path flags vfs = .err e := by
  unfold connect
  cases hpath : Rusqlite.asCstr path with
  | error e => exact ⟨_, fun _ => rfl⟩
  | ok p =>
    cases hvfs : Rusqlite.asCstrOption vfs with
    | error e => exact ⟨_, fun _ => rfl⟩
    | ok v =>
      cases hthreads : Rusqlite.ensureSafeThreadingMode O with
      | error e =>
        refine ⟨NapiError.ofRusqlite e, fun flags => ?_⟩
        show toNapi (Rusqlite.InnerConnection.openWithFlags O p flags v) = _
        rw [Rusqlite.openWithFlags_eq, hthreads]
        rfl
      | ok u =>
        refine absurd ⟨Rusqlite.hasNul_of_asCstr hpath, fun s hs => ?_, hthreads⟩ h
        subst hs
        exact Rusqlite.hasNul_of_asCstrOption hvfs

end Entry

/-- SQLite with one VFS, `unix`, which is the default; a database is what it was opened with. -/
def unixOpener : Opener (String × Int32 × String) where
  threadsafe := true
  realMutex := true
  versionNumber := 3050000
  openV2 path flags vfs :=
    if flags &&& 7 = 1 ∨ flags &&& 7 = 2 ∨ flags &&& 7 = 6 then
      .opened (path.val, flags, (vfs.map Subtype.val).getD "unix")
    else .failed .misuse true
  extendedResultCodes db := db
  busyTimeout _ := none

/-! ## 4. Flags that are asked for -/

section Flags

variable {δ : Type} (O : Opener δ)

/-- The call returns; and where it reaches SQLite with a union of exported constants, it hands
    over these bits. -/
def OpensAsAsked (call : OpenCall) (options : Option ConnectionOptions) : Prop :=
  (call.run O options).Returns ∧
    ∀ ks, givenFlags options = some (OpenFlags.union ks) →
      ReachesSqlite O call.path (givenVfs options) →
      ∃ path handed vfs, call.run O.recording options = .ok (path, handed, vfs) ∧
        handed &&& OpenFlags.union ks = OpenFlags.union ks

/-- Unwrapping panics exactly on a bit that is not declared. -/
theorem unwrapFlags_returns_iff (flags : Int32) :
    (unwrapFlags flags).Returns ↔ flags &&& ~~~Rusqlite.OpenFlags.all = 0 := by
  unfold unwrapFlags Rusqlite.OpenFlags.fromBits
  by_cases h : flags &&& ~~~Rusqlite.OpenFlags.all = 0
  · rw [dif_pos h]
    exact iff_of_true (Outcome.returns_ok _) h
  · rw [dif_neg h]
    exact iff_of_false (Outcome.not_returns_panic _) h

theorem flagsFor_returns_iff (options : Option ConnectionOptions) :
    (flagsFor options).Returns ↔
      ∀ flags, givenFlags options = some flags → flags &&& ~~~Rusqlite.OpenFlags.all = 0 := by
  unfold flagsFor
  cases givenFlags options with
  | some flags =>
    refine (unwrapFlags_returns_iff flags).trans ⟨fun h flags' hflags => ?_, fun h => h flags rfl⟩
    rwa [← Option.some.inj hflags]
  | none =>
    refine iff_of_true ?_ nofun
    cases givenVfs options with
    | some vfs => exact Outcome.returns_ok _
    | none => exact Outcome.returns_ok _

/-- Declared bits are unwrapped as they are. -/
theorem flagsFor_given {options : Option ConnectionOptions} {flags : Int32}
    (hflags : givenFlags options = some flags) (h : flags &&& ~~~Rusqlite.OpenFlags.all = 0) :
    flagsFor options = .ok ⟨flags, h⟩ := by
  have hbits : Rusqlite.OpenFlags.fromBits flags = some ⟨flags, h⟩ :=
    Rusqlite.OpenFlags.fromBits_bits ⟨flags, h⟩
  simp only [flagsFor, hflags, unwrapFlags, hbits]

/-- A call that reaches SQLite hands over the bits it was given. -/
theorem run_recording {call : OpenCall} {options : Option ConnectionOptions} {flags : Int32}
    (hflags : givenFlags options = some flags) (h : flags &&& ~~~Rusqlite.OpenFlags.all = 0)
    (hreach : ReachesSqlite O call.path (givenVfs options)) :
    ∃ path handed vfs, call.run O.recording options = .ok (path, handed, vfs) ∧
      handed &&& flags = flags := by
  obtain ⟨path, vfs, hpath, hvfs⟩ := hreach.cstrings
  refine ⟨path, _, vfs, ?_, Rusqlite.handedBits_and O ⟨flags, h⟩⟩
  rw [OpenCall.run_eq, flagsFor_given hflags h, Outcome.ok_bind, ← hpath, ← hvfs]
  exact (connect_cstrings O.recording hreach.threads_ok path ⟨flags, h⟩ vfs).trans
    (congrArg toNapi (Rusqlite.finishOpen_recording O _))

/-- **A call returns, with the flags it was asked for, exactly when their bits are declared.** -/
theorem open_as_asked_iff (call : OpenCall) (options : Option ConnectionOptions) :
    OpensAsAsked O call options ↔
      ∀ flags, givenFlags options = some flags → flags &&& ~~~Rusqlite.OpenFlags.all = 0 := by
  have hreturns : (call.run O options).Returns ↔
      ∀ flags, givenFlags options = some flags → flags &&& ~~~Rusqlite.OpenFlags.all = 0 := by
    rw [OpenCall.run_eq, Outcome.returns_bind_iff, ← flagsFor_returns_iff]
    exact and_iff_left fun flags _ => toNapi_returns _
  refine ⟨fun h => ?_, fun h => ?_⟩
  · exact hreturns.mp h.1
  · refine ⟨hreturns.mpr h, fun ks hks hreach => ?_⟩
    exact run_recording O hks (h _ hks) hreach

end Flags

/-- Of the exported constants, `DELETEONCLOSE` is not declared. -/
theorem open_panics_on_delete_on_close :
    Connection.open_ unixOpener "a.db"
        (some ⟨some (OpenFlags.union [.readwrite, .create, .deleteOnClose]), none⟩) =
      .panic "called `Option::unwrap()` on a `None` value" ∧
    ¬ OpensAsAsked unixOpener (.open_ "a.db")
        (some ⟨some (OpenFlags.union [.readwrite, .create, .deleteOnClose]), none⟩) := by
  have hpanic : Connection.open_ unixOpener "a.db"
      (some ⟨some (OpenFlags.union [.readwrite, .create, .deleteOnClose]), none⟩) =
      .panic "called `Option::unwrap()` on a `None` value" := by rfl
  exact ⟨hpanic, fun h => h.1 _ hpanic⟩

/-! ## 5. Options that are omitted -/

section Omitted

variable {δ : Type} (O : Opener δ)

/-- The call opens with the flags given, else the default ones, and with the VFS given, else the
    default one. -/
def OpensDefaulted (call : OpenCall) (flags : Option Rusqlite.OpenFlags) (vfs : Option String) :
    Prop :=
  call.run O (some ⟨flags.map Rusqlite.OpenFlags.bits, vfs⟩) =
      connect O call.path (flags.getD .default) vfs ∧
    call.run O none = connect O call.path .default none

/-- With the default flags SQLite fails too, and says of it what it says of a misuse. -/
def FailsAlike (path : String) (vfs : Option String) : Prop :=
  ∀ (p : CString) (v : Option CString), p.val = path → v.map Subtype.val = vfs →
    ∃ e, Rusqlite.finishOpen O (p, Rusqlite.handedBits O .default, v) = .error e ∧
      e.display = Failure.misuse.message

theorem run_given (call : OpenCall) (flags : Rusqlite.OpenFlags) (vfs : Option String) :
    call.run O (some ⟨some flags.bits, vfs⟩) = connect O call.path flags vfs := by
  rw [OpenCall.run_eq, flagsFor_given rfl flags.declared]
  rfl

theorem run_without_options (call : OpenCall) :
    call.run O none = connect O call.path .default none := by
  rw [OpenCall.run_eq]
  rfl

/-- Without flags, a VFS is opened with no flags. -/
theorem run_vfs_only (call : OpenCall) (vfs : String) :
    call.run O (some ⟨none, some vfs⟩) = connect O call.path .empty (some vfs) := by
  rw [OpenCall.run_eq]
  rfl

/-- No flags at all are a misuse. -/
theorem finishOpen_empty (hmode : O.ChecksMode) (path : CString) (vfs : Option CString) :
    Rusqlite.finishOpen O (path, Rusqlite.handedBits O .empty, vfs) =
      .error (.sqliteFailure .misuse) := by
  have hlow : Rusqlite.handedBits O .empty &&& 7 = 0 := Rusqlite.handedBits_mode O .empty
  have hmisuse := hmode path (Rusqlite.handedBits O .empty) vfs
    (by rw [hlow]; decide) (by rw [hlow]; decide) (by rw [hlow]; decide)
  unfold Rusqlite.finishOpen
  simp only [hmisuse]
  rfl

/-- Opening with no flags is opening with the default ones only where that fails alike. -/
theorem connect_empty_eq_iff (hmode : O.ChecksMode) (path : String) (vfs : Option String) :
    connect O path .empty vfs = connect O path .default vfs ↔
      ¬ ReachesSqlite O path vfs ∨ FailsAlike O path vfs := by
  by_cases hreach : ReachesSqlite O path vfs
  · obtain ⟨p, v, rfl, rfl⟩ := hreach.cstrings
    rw [connect_cstrings O hreach.threads_ok, connect_cstrings O hreach.threads_ok,
      finishOpen_empty O hmode]
    constructor
    · intro h
      refine Or.inr fun p' v' hp hv => ?_
      obtain rfl := Subtype.ext hp
      obtain rfl := Option.map_injective Subtype.val_injective hv
      cases hdefault : Rusqlite.finishOpen O (p', Rusqlite.handedBits O .default, v') with
      | ok db =>
        rw [hdefault] at h
        cases h
      | error e =>
        rw [hdefault] at h
        refine ⟨e, rfl, ?_⟩
        injection h with h
        exact (congrArg NapiError.reason h).symm
    · rintro (h | h)
      · exact absurd hreach h
      · obtain ⟨e, he, htext⟩ := h p v rfl rfl
        rw [he]
        show Outcome.err (NapiError.mk .genericFailure Failure.misuse.message) =
          Outcome.err (NapiError.mk .genericFailure e.display)
        rw [htext]
  · obtain ⟨e, he⟩ := connect_unreached O hreach
    exact iff_of_true ((he _).trans (he _).symm) (Or.inl hreach)

/-- **An omitted option means its default, unless a VFS is given alone; then only where the call
    fails before SQLite, or as a misuse does.** -/
theorem omitted_means_default_iff (hmode : O.ChecksMode) (call : OpenCall)
    (flags : Option Rusqlite.OpenFlags) (vfs : Option String) :
    OpensDefaulted O call flags vfs ↔
      flags.isSome ∨ vfs = none ∨ ¬ ReachesSqlite O call.path vfs ∨ FailsAlike O call.path vfs := by
  have hnone := run_without_options O call
  cases flags with
  | some flags => exact iff_of_true ⟨run_given O call flags vfs, hnone⟩ (Or.inl rfl)
  | none =>
    cases vfs with
    | none =>
      have hfirst : call.run O (some ⟨none, none⟩) = connect O call.path .default none := by
        rw [OpenCall.run_eq]
        rfl
      exact iff_of_true ⟨hfirst, hnone⟩ (Or.inr (Or.inl rfl))
    | some vfs =>
      have hsome : OpensDefaulted O call none (some vfs) ↔
          connect O call.path .empty (some vfs) = connect O call.path .default (some vfs) := by
        rw [← run_vfs_only]
        exact and_iff_left hnone
      rw [hsome, connect_empty_eq_iff O hmode]
      constructor
      · exact fun h => Or.inr (Or.inr h)
      · rintro (h | h | h)
        · cases h
        · cases h
        · exact h

end Omitted

theorem unixOpener_checksMode : unixOpener.ChecksMode := by
  intro path flags vfs h1 h2 h6
  exact if_neg fun h => h.elim h1 fun h => h.elim h2 h6

/-- With flags, the VFS may be left out. -/
theorem omitted_vfs_means_unix :
    unixOpener.ChecksMode ∧ OpensDefaulted unixOpener (.open_ "a.db")
      (some Rusqlite.OpenFlags.default) none :=
  ⟨unixOpener_checksMode, (omitted_means_default_iff unixOpener unixOpener_checksMode
    (.open_ "a.db") (some Rusqlite.OpenFlags.default) none).mpr (Or.inl rfl)⟩

/-- Naming the default VFS, and no flags, does not open what `open(path)` opens. -/
theorem naming_the_default_vfs_fails :
    Connection.open_ unixOpener "a.db" none = .ok ("a.db", 0x02008046, "unix") ∧
    connect unixOpener "a.db" .default (some "unix") = .ok ("a.db", 0x02008046, "unix") ∧
    Connection.open_ unixOpener "a.db" (some ⟨none, some "unix"⟩) =
      .err ⟨.genericFailure, "bad parameter or other API misuse"⟩ ∧
    ¬ OpensDefaulted unixOpener (.open_ "a.db") none (some "unix") := by
  have hdefault : connect unixOpener "a.db" .default (some "unix") =
      .ok ("a.db", 0x02008046, "unix") := by rfl
  have hmisuse : Connection.open_ unixOpener "a.db" (some ⟨none, some "unix"⟩) =
      .err ⟨.genericFailure, "bad parameter or other API misuse"⟩ := by rfl
  refine ⟨by rfl, hdefault, hmisuse, fun h => ?_⟩
  have hsame := hmisuse.symm.trans (h.1.trans hdefault)
  cases hsame

end NodeRusqlite
