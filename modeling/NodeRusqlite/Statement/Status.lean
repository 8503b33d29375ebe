/-
  File:      NodeRusqlite/Statement/Status.lean
  Subject:   `get_status` and `reset_status`: the counters SQLite keeps for a statement.

  A kind of counter has a number in SQLite. The kinds JavaScript sees carry it;
  on their way they are translated into the kinds of the wrapped crate, and there
  `FullscanStep` becomes `AutoIndex`.

  * `number_toRusqlite_iff`: every other kind keeps its number.
  * `status_step`: what one call returns and leaves, while the counters are the
    totals of the history.
  * **`status_run_iff`**: a run is as it should be exactly when `FullscanStep` is
    read where the two counters are equal, and reset where both are zero.
-/
import NodeRusqlite.Basis.Foreign
import NodeRusqlite.Basis.Outcome
import NodeRusqlite.Basis.Runs
import NodeRusqlite.Errors

namespace NodeRusqlite

open Basis (Along Event Outcome Run)

/-! ## 1. The counters of SQLite -/

namespace Sqlite

/-- The counters of a statement by their numbers, and the memory it takes. -/
structure Counters where
  counter : Nat → UInt32
  memUsed : UInt32

/-- The counters of a statement that was just prepared. -/
def Counters.zero (memUsed : UInt32) : Counters := ⟨fun _ => 0, memUsed⟩

/-- An execution adds to the counters. -/
def Counters.add (c : Counters) (amounts : Nat → UInt32) : Counters :=
  { c with counter := fun op => c.counter op + amounts op }

/-- `sqlite3_stmt_status`: the memory in use (99) is counted afresh and cannot be reset. -/
def stmtStatus (op : Nat) (resetFlag : Bool) (c : Counters) : Int32 × Counters :=
  if op = 99 then (c.memUsed.toInt32, c)
  else
    ((c.counter op).toInt32,
      if resetFlag then { c with counter := fun op' => if op' = op then 0 else c.counter op' }
      else c)

end Sqlite

/-! ## 2. The kinds -/

namespace Rusqlite

/-- `StatementStatus`. -/
inductive StatementStatus where
  | fullscanStep | sort | autoIndex | vmStep | rePrepare | run | filterMiss | filterHit | memUsed
  deriving DecidableEq

/-- `status as i32`. -/
def StatementStatus.number : StatementStatus → Nat
  | .fullscanStep => 1
  | .sort => 2
  | .autoIndex => 3
  | .vmStep => 4
  | .rePrepare => 5
  | .run => 6
  | .filterMiss => 7
  | .filterHit => 8
  | .memUsed => 99

/-- `RawStatement::get_status`; `none` is the NULL statement. -/
def rawGetStatus (status : StatementStatus) (reset : Bool) (ptr : Option Sqlite.Counters) :
    Outcome NapiError Int32 × Option Sqlite.Counters :=
  match ptr with
  | none => (.panic "assertion failed: !ptr.is_null()", none)
  | some c =>
    let (v, c) := Sqlite.stmtStatus status.number reset c
    (.ok v, some c)

end Rusqlite

/-- `RusqliteStatementStatus`. -/
inductive RusqliteStatementStatus where
  | fullscanStep | sort | autoIndex | vmStep | rePrepare | run | filterMiss | filterHit | memUsed
  deriving DecidableEq

namespace RusqliteStatementStatus

/-- The number a kind is declared with. -/
def number : RusqliteStatementStatus → Nat
  | .fullscanStep => 1
  | .sort => 2
  | .autoIndex => 3
  | .vmStep => 4
  | .rePrepare => 5
  | .run => 6
  | .filterMiss => 7
  | .filterHit => 8
  | .memUsed => 99

/-- `From<RusqliteStatementStatus> for StatementStatus`. -/
def toRusqlite : RusqliteStatementStatus → Rusqlite.StatementStatus
  | .fullscanStep => .autoIndex
  | .sort => .sort
  | .autoIndex => .autoIndex
  | .vmStep => .vmStep
  | .rePrepare => .rePrepare
  | .run => .run
  | .filterMiss => .filterMiss
  | .filterHit => .filterHit
  | .memUsed => .memUsed

theorem number_inj {k k' : RusqliteStatementStatus} (h : k.number = k'.number) : k = k' := by
  cases k <;> cases k' <;> first | rfl | exact absurd h (by decide)

/-- **Every kind but `FullscanStep` keeps its number.** -/
theorem number_toRusqlite_iff (k : RusqliteStatementStatus) :
    k.toRusqlite.number = k.number ↔ k ≠ .fullscanStep := by
  cases k <;> decide

end RusqliteStatementStatus

namespace ScopedStatement

/-- `ScopedStatement::get_status`. -/
def getStatus (status : RusqliteStatementStatus) (ptr : Option Sqlite.Counters) :
    Outcome NapiError Int32 × Option Sqlite.Counters :=
  Rusqlite.rawGetStatus status.toRusqlite false ptr

/-- `ScopedStatement::reset_status`. -/
def resetStatus (status : RusqliteStatementStatus) (ptr : Option Sqlite.Counters) :
    Outcome NapiError Int32 × Option Sqlite.Counters :=
  Rusqlite.rawGetStatus status.toRusqlite true ptr

end ScopedStatement

/-! ## 3. Runs -/

open RusqliteStatementStatus (number)

/-- What happens to a statement. -/
inductive StatusAct where
  | execute (amounts : Nat → UInt32) : StatusAct
  | getStatus (k : RusqliteStatementStatus) : StatusAct
  | resetStatus (k : RusqliteStatementStatus) : StatusAct

namespace StatusAct

/-- The machine: an execution adds to the counters of a statement that is not NULL. -/
def step (ptr : Option Sqlite.Counters) : StatusAct → Option (Option Sqlite.Counters)
  | .execute amounts => some (ptr.map fun c => c.add amounts)
  | .getStatus k => some (ScopedStatement.getStatus k ptr).2
  | .resetStatus k => some (ScopedStatement.resetStatus k ptr).2

/-- What an action does to the total of a kind. -/
def account (k : RusqliteStatementStatus) (total : UInt32) : StatusAct → UInt32
  | .execute amounts => total + amounts k.number
  | .getStatus _ => total
  | .resetStatus k' => if k = k' then 0 else total

/-- The amounts added to a kind since its last `reset_status`. -/
def total (k : RusqliteStatementStatus) (h : List (Event (Option Sqlite.Counters) StatusAct)) :
    UInt32 :=
  (h.map Event.act).foldl (account k) 0

@[simp] theorem total_snoc (k : RusqliteStatementStatus)
    (h : List (Event (Option Sqlite.Counters) StatusAct)) (s s' : Option Sqlite.Counters)
    (a : StatusAct) : total k (h ++ [⟨s, a, s'⟩]) = account k (total k h) a := by
  simp only [total, List.map_append, List.map_cons, List.map_nil, List.foldl_append,
    List.foldl_cons, List.foldl_nil]

/-- `get_status` returns the total of its kind; `reset_status` returns it, makes it zero and leaves
    the other kinds alone. -/
def AsItShould (h : List (Event (Option Sqlite.Counters) StatusAct))
    (e : Event (Option Sqlite.Counters) StatusAct) : Prop :=
  match e.act with
  | .execute _ => True
  | .getStatus k => k ≠ .memUsed →
      (ScopedStatement.getStatus k e.before).1 = .ok (total k h).toInt32
  | .resetStatus k => k ≠ .memUsed →
      (ScopedStatement.resetStatus k e.before).1 = .ok (total k h).toInt32 ∧
        ∃ c c', e.before = some c ∧ e.after = some c' ∧ c'.counter k.number = 0 ∧
          ∀ k' : RusqliteStatementStatus, k' ≠ k → k' ≠ .memUsed →
            c'.counter k'.number = c.counter k'.number

/-- The statement is not NULL; `FullscanStep` is read only where its counter is that of
    `AutoIndex`, and reset only where both are zero. -/
def NotConfused (e : Event (Option Sqlite.Counters) StatusAct) : Prop :=
  match e.act with
  | .execute _ => True
  | .getStatus k => k ≠ .memUsed → ∃ c, e.before = some c ∧ (k = .fullscanStep →
      c.counter (number .fullscanStep) = c.counter (number .autoIndex))
  | .resetStatus k => k ≠ .memUsed → ∃ c, e.before = some c ∧ (k = .fullscanStep →
      c.counter (number .fullscanStep) = 0 ∧ c.counter (number .autoIndex) = 0)

/-- The counters are the totals of the history. -/
def Totals (h : List (Event (Option Sqlite.Counters) StatusAct)) (ptr : Option Sqlite.Counters) :
    Prop :=
  ∀ c, ptr = some c → ∀ k : RusqliteStatementStatus, k ≠ .memUsed →
    c.counter k.number = total k h

/-! ## 4. One call -/

/-- The number a kind other than `MemUsed` is asked under is not that of `MemUsed`. -/
theorem toRusqlite_number_ne {k : RusqliteStatementStatus} (hk : k ≠ .memUsed) :
    k.toRusqlite.number ≠ 99 := by
  cases k <;> first | exact absurd rfl hk | decide

theorem getStatus_eq {k : RusqliteStatementStatus} (hk : k ≠ .memUsed) (c : Sqlite.Counters) :
    ScopedStatement.getStatus k (some c) =
      (.ok (c.counter k.toRusqlite.number).toInt32, some c) := by
  simp only [ScopedStatement.getStatus, Rusqlite.rawGetStatus, Sqlite.stmtStatus,
    if_neg (toRusqlite_number_ne hk), Bool.false_eq_true, if_false]

theorem resetStatus_eq {k : RusqliteStatementStatus} (hk : k ≠ .memUsed) (c : Sqlite.Counters) :
    ScopedStatement.resetStatus k (some c) =
      (.ok (c.counter k.toRusqlite.number).toInt32,
        some { c with counter := fun op =>
          if op = k.toRusqlite.number then 0 else c.counter op }) := by
  simp only [ScopedStatement.resetStatus, Rusqlite.rawGetStatus, Sqlite.stmtStatus,
    if_neg (toRusqlite_number_ne hk), if_true]

/-- Reading leaves the counters alone. -/
theorem getStatus_after (k : RusqliteStatementStatus) (ptr : Option Sqlite.Counters) :
    (ScopedStatement.getStatus k ptr).2 = ptr := by
  cases ptr with
  | none => rfl
  | some c =>
    by_cases hk : k = .memUsed
    · rw [hk]
      rfl
    · rw [getStatus_eq hk]

section Step

variable {h : List (Event (Option Sqlite.Counters) StatusAct)} {c : Sqlite.Counters}
  {k : RusqliteStatementStatus}

/-- While the counters are the totals, `get_status` returns the total exactly when the counter it
    reads equals the one it was asked for. -/
theorem getStatus_total_iff (hI : Totals h (some c)) (hk : k ≠ .memUsed) :
    (ScopedStatement.getStatus k (some c)).1 = .ok (total k h).toInt32 ↔
      (k = .fullscanStep → c.counter (number .fullscanStep) = c.counter (number .autoIndex)) := by
  rw [getStatus_eq hk, Outcome.ok.injEq, Basis.toInt32_inj, ← hI c rfl k hk]
  by_cases hf : k = .fullscanStep
  · subst hf
    exact ⟨fun heq _ => heq.symm, fun heq => (heq rfl).symm⟩
  · have hnum := (RusqliteStatementStatus.number_toRusqlite_iff k).mpr hf
    exact iff_of_true (congrArg c.counter hnum) fun hk' => absurd hk' hf

/-- The same for `reset_status`: a reset of `FullscanStep` reaches `AutoIndex` in its place, so both
    have to be zero already. -/
theorem resetStatus_total_iff (hI : Totals h (some c)) (hk : k ≠ .memUsed) :
    ((ScopedStatement.resetStatus k (some c)).1 = .ok (total k h).toInt32 ∧
      ∃ c₀ c', some c = some c₀ ∧ (ScopedStatement.resetStatus k (some c)).2 = some c' ∧
        c'.counter k.number = 0 ∧ ∀ k' : RusqliteStatementStatus, k' ≠ k → k' ≠ .memUsed →
          c'.counter k'.number = c₀.counter k'.number) ↔
      (k = .fullscanStep →
        c.counter (number .fullscanStep) = 0 ∧ c.counter (number .autoIndex) = 0) := by
  rw [resetStatus_eq hk, Outcome.ok.injEq, Basis.toInt32_inj, ← hI c rfl k hk]
  by_cases hf : k = .fullscanStep
  · subst hf
    constructor
    · rintro ⟨hread, c₀, c', hc₀, hc', hzero, _⟩ _
      cases hc₀
      cases hc'
      -- the counter of `FullscanStep` was not touched, so it was zero before
      have hfull : c.counter (number .fullscanStep) = 0 := hzero
      exact ⟨hfull, hread.trans hfull⟩
    · intro hz
      obtain ⟨hfull, hauto⟩ := hz rfl
      refine ⟨hauto.trans hfull.symm, c, _, rfl, rfl, hfull, fun k' _ _ => ?_⟩
      show (if k'.number = number .autoIndex then 0 else c.counter k'.number) = _
      split
      · rename_i hnum
        rw [hnum, hauto]
      · rfl
  · have hnum := (RusqliteStatementStatus.number_toRusqlite_iff k).mpr hf
    refine iff_of_true ⟨congrArg c.counter hnum, c, _, rfl, rfl, if_pos hnum.symm, ?_⟩
      fun hk' => absurd hk' hf
    intro k' hne _
    refine if_neg fun heq => hne ?_
    exact RusqliteStatementStatus.number_inj (heq.trans hnum)

/-- A reset that was not confused leaves the totals of the new history. -/
theorem totals_resetStatus (hI : Totals h (some c)) (hk : k ≠ .memUsed)
    (hok : k = .fullscanStep →
      c.counter (number .fullscanStep) = 0 ∧ c.counter (number .autoIndex) = 0)
    {s' : Option Sqlite.Counters} (hs : (ScopedStatement.resetStatus k (some c)).2 = s') :
    Totals (h ++ [⟨some c, .resetStatus k, s'⟩]) s' := by
  obtain ⟨_, c₀, c', hc₀, hc', hzero, hframe⟩ := (resetStatus_total_iff hI hk).mpr hok
  cases hc₀
  rw [hs] at hc'
  subst hc'
  intro c'' hc'' k' hk'
  cases hc''
  rw [total_snoc, account]
  by_cases heq : k' = k
  · rw [if_pos heq, heq, hzero]
  · rw [if_neg heq, hframe k' heq hk', hI c rfl k' hk']

end Step

/-- A statement that is there, with its counters. -/
theorem exists_counters_iff (c : Sqlite.Counters) (P : Sqlite.Counters → Prop) :
    (∃ c', some c = some c' ∧ P c') ↔ P c := by
  simp only [Option.some.injEq, exists_eq_left']

theorem getStatus_step {h : List (Event (Option Sqlite.Counters) StatusAct)}
    {s : Option Sqlite.Counters} (k : RusqliteStatementStatus) (hI : Totals h s) :
    (AsItShould h ⟨s, .getStatus k, s⟩ ↔ NotConfused ⟨s, .getStatus k, s⟩) ∧
      Totals (h ++ [⟨s, .getStatus k, s⟩]) s := by
  constructor
  · refine forall_congr' fun hk => ?_
    cases s with
    | none => exact iff_of_false nofun nofun
    | some c =>
      show _ ↔ ∃ c', some c = some c' ∧ _
      rw [exists_counters_iff c]
      exact getStatus_total_iff hI hk
  · intro c hc k' hk'
    rw [total_snoc, account]
    exact hI c hc k' hk'

/-- A reset of `MemUsed` resets nothing. -/
theorem resetMemUsed_step {h : List (Event (Option Sqlite.Counters) StatusAct)}
    {s : Option Sqlite.Counters} (hI : Totals h s) :
    Totals (h ++ [⟨s, .resetStatus .memUsed, (ScopedStatement.resetStatus .memUsed s).2⟩])
      (ScopedStatement.resetStatus .memUsed s).2 := by
  have hsame : (ScopedStatement.resetStatus .memUsed s).2 = s := by cases s <;> rfl
  intro c hc k' hk'
  rw [total_snoc, account, if_neg hk']
  exact hI c (hsame ▸ hc) k' hk'

theorem resetStatus_step {h : List (Event (Option Sqlite.Counters) StatusAct)}
    {s : Option Sqlite.Counters} {k : RusqliteStatementStatus} (hk : k ≠ .memUsed)
    (hI : Totals h s) :
    (AsItShould h ⟨s, .resetStatus k, (ScopedStatement.resetStatus k s).2⟩ ↔
        NotConfused ⟨s, .resetStatus k, (ScopedStatement.resetStatus k s).2⟩) ∧
      (NotConfused ⟨s, .resetStatus k, (ScopedStatement.resetStatus k s).2⟩ →
        Totals (h ++ [⟨s, .resetStatus k, (ScopedStatement.resetStatus k s).2⟩])
          (ScopedStatement.resetStatus k s).2) := by
  cases s with
  | none =>
    refine ⟨forall_congr' fun hk => iff_of_false nofun nofun, fun hq => ?_⟩
    obtain ⟨c, hc, _⟩ := hq hk
    cases hc
  | some c =>
    constructor
    · refine forall_congr' fun hk => ?_
      show _ ↔ ∃ c', some c = some c' ∧ _
      rw [exists_counters_iff c]
      exact resetStatus_total_iff hI hk
    · intro hq
      exact totals_resetStatus hI hk ((exists_counters_iff c _).mp (hq hk)) rfl

/-- **One call**: while the counters are the totals of the history, it does as it should exactly
    when it is not confused, and then they are the totals afterwards. -/
theorem status_step (h : List (Event (Option Sqlite.Counters) StatusAct))
    (s : Option Sqlite.Counters) (a : StatusAct) (s' : Option Sqlite.Counters) (hI : Totals h s)
    (hs : step s a = some s') : (AsItShould h ⟨s, a, s'⟩ ↔ NotConfused ⟨s, a, s'⟩) ∧
      (NotConfused ⟨s, a, s'⟩ → Totals (h ++ [⟨s, a, s'⟩]) s') := by
  cases a with
  | execute amounts =>
    have hs := Option.some.inj hs
    refine ⟨iff_of_true trivial trivial, fun _ c hc k hk => ?_⟩
    rw [← hs] at hc
    obtain ⟨c₀, hc₀, rfl⟩ := Option.map_eq_some_iff.mp hc
    rw [total_snoc, account, ← hI c₀ hc₀ k hk]
    rfl
  | getStatus k =>
    have hsame : s' = s := (Option.some.inj hs).symm.trans (getStatus_after k s)
    subst hsame
    obtain ⟨hiff, htotals⟩ := getStatus_step k hI
    exact ⟨hiff, fun _ => htotals⟩
  | resetStatus k =>
    obtain rfl := Option.some.inj hs
    by_cases hmem : k = .memUsed
    · subst hmem
      refine ⟨iff_of_true (fun hk => absurd rfl hk) (fun hk => absurd rfl hk), fun _ => ?_⟩
      exact resetMemUsed_step hI
    · exact resetStatus_step hmem hI

/-! ## 5. Whole runs -/

/-- **A run does as it should exactly when no step of it is confused**: where `FullscanStep` is
    read its counter is that of `AutoIndex`, where it is reset both are zero, and the statement is
    not NULL. -/
theorem status_run_iff {s₀ s : Option Sqlite.Counters}
    (h0 : ∀ c, s₀ = some c → ∃ memUsed, c = Sqlite.Counters.zero memUsed)
    {h : List (Event (Option Sqlite.Counters) StatusAct)} (hr : Run step s₀ h s) :
    Along AsItShould h ↔ Along (fun _ => NotConfused) h := by
  refine Run.along_congr_of_invariant (I := Totals) ?_ status_step hr
  intro c hc k _
  obtain ⟨memUsed, rfl⟩ := h0 c hc
  rfl

/-- A fresh statement is executed with these amounts, and a kind is read. -/
def executeThenGet (amounts : Nat → UInt32) (k : RusqliteStatementStatus) :
    List (Event (Option Sqlite.Counters) StatusAct) :=
  [⟨some (.zero 0), .execute amounts, some ((Sqlite.Counters.zero 0).add amounts)⟩] ++
    [⟨some ((Sqlite.Counters.zero 0).add amounts), .getStatus k,
      some ((Sqlite.Counters.zero 0).add amounts)⟩]

theorem executeThenGet_run (amounts : Nat → UInt32) (k : RusqliteStatementStatus) :
    Run step (some (.zero 0)) (executeThenGet amounts k)
      (some ((Sqlite.Counters.zero 0).add amounts)) := by
  refine Run.next (Run.next (h := []) Run.start rfl) ?_
  exact congrArg some (getStatus_after k _)

/-- An execution of 5 steps, read back. -/
theorem status_run_vmStep : Along AsItShould (executeThenGet (fun _ => 5) .vmStep) := by
  refine (status_run_iff ?_ (executeThenGet_run _ _)).mpr ?_
  · rintro c hc
    cases hc
    exact ⟨0, rfl⟩
  · rw [executeThenGet, Basis.along_snoc]
    refine ⟨?_, fun _ => ⟨_, rfl, nofun⟩⟩
    exact (Basis.along_snoc (h := [])).mpr ⟨Basis.along_nil, trivial⟩

/-- 5 steps of a full scan and no automatic index. -/
def scanSteps (op : Nat) : UInt32 := if op = 1 then 5 else 0

/-- `get_status` of `FullscanStep` returns 0 after an execution with 5 such steps. -/
theorem fullscan_reads_autoIndex :
    Run step (some (.zero 0)) (executeThenGet scanSteps .fullscanStep)
        (some ((Sqlite.Counters.zero 0).add scanSteps)) ∧
      (ScopedStatement.getStatus .fullscanStep
        (some ((Sqlite.Counters.zero 0).add scanSteps))).1 = .ok 0 ∧
      ¬ Along AsItShould (executeThenGet scanSteps .fullscanStep) := by
  have hread : (ScopedStatement.getStatus .fullscanStep
      (some ((Sqlite.Counters.zero 0).add scanSteps))).1 = .ok 0 := by decide
  refine ⟨executeThenGet_run scanSteps .fullscanStep, hread, fun h => ?_⟩
  rw [executeThenGet, Basis.along_snoc] at h
  have htotal := h.2 (by decide)
  exact absurd (hread.symm.trans htotal) (by decide)

end StatusAct

end NodeRusqlite
