/-
  File:      NodeRusqlite/Statement/Reuse.lean
  Subject:   One prepared statement, called again and again.

  Between two calls the statement is at rest (`StmtPtr.Rests`): reset, with
  whatever bindings the calls before left. That is the first half of the
  invariant: a parameter list that is accepted overwrites every binding before
  the first step, and one that is not accepted is answered before any step.
  The second half is about the program, which the statement keeps while a fresh
  one is compiled anew. A call leads the connection where a run of that program
  does, and of what such runs lead to SQLite promises that the program is as good
  as a new one (`Recompiles`).

  * `Call.run_rests`: every call keeps the statement at rest.
  * `afterEvents_moved`: where calls, and what happens between them, lead to.
  * `Call.run_agree`: at rest, with programs that are alike, only the parameters
    matter.
  * **`reuse_leaves_no_residue`**: after any calls, the next one answers and
    acts as on a freshly prepared statement.
-/
import NodeRusqlite.Connection.Execute

namespace NodeRusqlite

open Basis (Outcome)
open Sqlite
open Sqlite.StmtPtr (Reaches Rests)

variable {κ : Type}

/-- A call on a `ScopedStatement`. -/
inductive Call where
  | execute (params : JsArray) : Call
  | insert (params : JsArray) : Call
  | query (params : JsArray) : Call
  | exists_ (params : JsArray) : Call
  | clearBindings : Call

/-- What a call hands back. -/
inductive Answer where
  | count (n : Int64) : Answer
  | rowid (n : Int64) : Answer
  | rows (rows : Rows) : Answer
  | found (b : Bool) : Answer
  | nothing : Answer

namespace Call

def run (E : Engine κ) (call : Call) (s : StmtPtr κ) (c : κ) :
    Outcome NapiError Answer × StmtPtr κ × κ :=
  match call with
  | .execute params =>
    let (res, s, c) := ScopedStatement.execute E params s c
    (res >>= fun n => .ok (.count n), s, c)
  | .insert params =>
    let (res, s, c) := ScopedStatement.insert E params s c
    (res >>= fun n => .ok (.rowid n), s, c)
  | .query params =>
    let (res, s, c) := ScopedStatement.query E params s c
    (res >>= fun rows => .ok (.rows rows), s, c)
  | .exists_ params =>
    let (res, s, c) := ScopedStatement.exists_ E params s c
    (res >>= fun b => .ok (.found b), s, c)
  | .clearBindings => (.ok .nothing, ScopedStatement.clearBindings s, c)

section Rest

variable {E : Engine κ} {p q : Option (Program κ)} {s t : StmtPtr κ}

/-- **Every call brings the statement back to rest**, whether it succeeds, fails or panics. -/
theorem run_rests (hs : Rests p s) (call : Call) (c : κ) : Rests p (call.run E s c).2.1 := by
  cases call with
  | execute params => exact ScopedStatement.execute_rests hs params c
  | insert params => exact ScopedStatement.insert_rests hs params c
  | query params => exact ScopedStatement.query_rests hs params c
  | exists_ params => exact ScopedStatement.exists_rests hs params c
  | clearBindings => exact hs.clearBindings

/-- **A call leaves the connection as it was, or where a run of the program can.** -/
theorem run_reaches (hs : Rests p s) (call : Call) (c : κ) : Reaches p c (call.run E s c).2.2 := by
  cases call with
  | execute params => exact ScopedStatement.execute_reaches hs params
  | insert params => exact ScopedStatement.insert_reaches hs params
  | query params => exact ScopedStatement.query_reaches hs params
  | exists_ params => exact ScopedStatement.exists_reaches hs params
  | clearBindings => exact .inl rfl

/-- **At rest, only the parameters matter**: two statements whose programs are alike answer the
    same and do the same to the connection. -/
theorem run_agree {c : κ} (hpq : Option.Rel (Program.Alike c) p q) (hs : Rests p s)
    (ht : Rests q t) (call : Call) :
    (call.run E s c).1 = (call.run E t c).1 ∧ (call.run E s c).2.2 = (call.run E t c).2.2 := by
  cases call with
  | execute params =>
    obtain ⟨hres, hconn⟩ := ScopedStatement.execute_agree (E := E) hpq hs ht params
    exact ⟨by simp only [run, hres], hconn⟩
  | insert params =>
    obtain ⟨hres, hconn⟩ := ScopedStatement.insert_agree (E := E) hpq hs ht params
    exact ⟨by simp only [run, hres], hconn⟩
  | query params =>
    obtain ⟨hres, hconn⟩ := ScopedStatement.query_agree (E := E) hpq hs ht params
    exact ⟨by simp only [run, hres], hconn⟩
  | exists_ params =>
    obtain ⟨hres, hconn⟩ := ScopedStatement.exists_agree (E := E) hpq hs ht params
    exact ⟨by simp only [run, hres], hconn⟩
  | clearBindings => exact ⟨rfl, rfl⟩

end Rest

end Call

/-! ## Sequences of calls -/

/-- What happens on the connection: a call on the statement, or anything elsewhere. -/
inductive StmtEvent (κ : Type) where
  | call (call : Call) : StmtEvent κ
  | elsewhere (f : κ → κ) : StmtEvent κ

/-- The statement and the connection after a sequence of events. -/
def afterEvents (E : Engine κ) : List (StmtEvent κ) → StmtPtr κ → κ → StmtPtr κ × κ
  | [], s, c => (s, c)
  | .call call :: events, s, c =>
    let (_, s, c) := call.run E s c
    afterEvents E events s c
  | .elsewhere f :: events, s, c => afterEvents E events s (f c)

theorem afterEvents_rests {E : Engine κ} {p : Option (Program κ)} (events : List (StmtEvent κ))
    {s : StmtPtr κ} (hs : Rests p s) (c : κ) : Rests p (afterEvents E events s c).1 := by
  induction events generalizing s c with
  | nil => exact hs
  | cons event events ih =>
    cases event with
    | call call => exact ih (call.run_rests hs c) _
    | elsewhere f => exact ih hs (f c)

/-! ## The program that a statement keeps -/

/-- What is done on the connection: a run of the program, or a step `R` elsewhere. -/
def Moved (p : Option (Program κ)) (R : κ → κ → Prop) (c c' : κ) : Prop :=
  Reaches p c c' ∨ R c c'

/-- Before it runs a statement SQLite checks the schema of every database the statement uses, and
    compiles the text again where one has changed. So wherever runs of its own and steps `R`
    elsewhere lead to, a program does what the text compiles to there, if it does compile. -/
def Recompiles (E : Engine κ) (sql : String) (R : κ → κ → Prop) : Prop :=
  ∀ c₀ c, E.refuse sql c₀ = none → Relation.ReflTransGen (Moved (E.compile sql c₀) R) c₀ c →
    E.refuse sql c = none → Option.Rel (Program.Alike c) (E.compile sql c₀) (E.compile sql c)

/-- **Where events lead to**: a call moves the connection as a run of the program does. -/
theorem afterEvents_moved {E : Engine κ} {p : Option (Program κ)} {R : κ → κ → Prop}
    (events : List (StmtEvent κ)) (hR : ∀ f, .elsewhere f ∈ events → ∀ c, R c (f c))
    {s : StmtPtr κ} (hs : Rests p s) (c : κ) :
    Relation.ReflTransGen (Moved p R) c (afterEvents E events s c).2 := by
  induction events generalizing s c with
  | nil => exact .refl
  | cons event events ih =>
    have hrest : ∀ f, .elsewhere f ∈ events → ∀ c, R c (f c) := fun f hf =>
      hR f (List.mem_cons_of_mem _ hf)
    cases event with
    | call call => exact (ih hrest (call.run_rests hs c) _).head (.inl (call.run_reaches hs c))
    | elsewhere f => exact (ih hrest hs (f c)).head (.inr (hR f List.mem_cons_self c))

/-- **Reusing a prepared statement leaves no residue**: after any sequence of calls, and of steps
    elsewhere that SQLite's promise is good for, the next call answers and acts as on a freshly
    prepared statement, and leaves the statement reset. -/
theorem reuse_leaves_no_residue (E : Engine κ) (sql : String) {R : κ → κ → Prop}
    (hE : Recompiles E sql R) {s₀ s t : StmtPtr κ} {c₀ c : κ}
    (h₀ : Rusqlite.prepare E sql c₀ = .ok s₀) (events : List (StmtEvent κ))
    (hR : ∀ f, .elsewhere f ∈ events → ∀ c, R c (f c))
    (hrun : afterEvents E events s₀ c₀ = (s, c)) (ht : Rusqlite.prepare E sql c = .ok t)
    (call : Call) :
    (call.run E s c).1 = (call.run E t c).1 ∧
      (call.run E s c).2.2 = (call.run E t c).2.2 ∧
      Rests (E.compile sql c₀) (call.run E s c).2.1 ∧ (call.run E s c).2.1.busy = false := by
  have hs₀ := StmtPtr.rests_fresh (E.compile sql c₀)
  rw [← Rusqlite.prepare_ok h₀] at hs₀
  have hs := afterEvents_rests (E := E) events hs₀ c₀
  have hmoved := afterEvents_moved (E := E) events hR hs₀ c₀
  rw [hrun] at hs hmoved
  have hfresh := StmtPtr.rests_fresh (E.compile sql c)
  rw [← Rusqlite.prepare_ok ht] at hfresh
  have halike := hE c₀ c (Rusqlite.refuse_of_prepare h₀) hmoved (Rusqlite.refuse_of_prepare ht)
  obtain ⟨hres, hconn⟩ := Call.run_agree (E := E) halike hs hfresh call
  exact ⟨hres, hconn, call.run_rests hs c, (call.run_rests hs c).busy⟩

/-! ## A statement that two databases can serve -/

/-- The rows of `main.t`, if there is such a table, and of `aux.t`. -/
structure Tables where
  main : Option Nat
  aux : Nat
  deriving DecidableEq

/-- `INSERT INTO t VALUES (?)`, compiled to the one table or the other. -/
def insertInto (main : Bool) : Program Tables where
  paramCount := 1
  returnsColumns := false
  readonly := false
  run _ c :=
    .done (if main then { c with main := c.main.map (· + 1) } else { c with aux := c.aux + 1 })

/-- An engine whose one text is that statement: `t` is `main.t` where that table is there. -/
def inserting : Engine Tables where
  compile _ c := some (insertInto c.main.isSome)
  tail _ := none
  refuse _ _ := none
  isAutocommit _ := true
  changes _ := 1
  lastInsertRowid c := Int64.ofNat (c.main.getD c.aux)
  lengthLimit _ := 1000000000
  tail_lt := noTail_lt

/-- No table `main.t` is created or dropped. -/
def SameTables (c c' : Tables) : Prop := c'.main.isSome = c.main.isSome

theorem sameTables_of_moved {main : Bool} {c c' : Tables}
    (h : Relation.ReflTransGen (Moved (some (insertInto main)) SameTables) c c') :
    SameTables c c' := by
  induction h with
  | refl => rfl
  | tail _ hmove ih =>
    rcases hmove with (rfl | ⟨q, hq, _, hstate⟩) | hsame
    · exact ih
    · cases hq
      cases List.mem_singleton.mp hstate
      refine Eq.trans ?_ ih
      cases main with
      | false => rfl
      | true => exact Option.isSome_map
    · exact Eq.trans hsame ih

theorem inserting_recompiles (sql : String) : Recompiles inserting sql SameTables := by
  intro c₀ c _ hmoved _
  have hsame : c.main.isSome = c₀.main.isSome := sameTables_of_moved hmoved
  have hcompile : inserting.compile sql c = inserting.compile sql c₀ :=
    congrArg (fun main => some (insertInto main)) hsame
  rw [hcompile]
  exact Program.Alike.refl c _

theorem prepare_inserting (sql : String) (h : sql.utf8ByteSize < 2 ^ 31) (c : Tables) :
    Rusqlite.prepare inserting sql c = .ok (StmtPtr.fresh (inserting.compile sql c)) := by
  rw [Rusqlite.prepare_eq]
  simp only [Rusqlite.prepareFirst, inserting, Nat.not_le.mpr h, if_false]

/-- One row too many after a partial bind, one row inserted, one row elsewhere. -/
def someEvents : List (StmtEvent Tables) :=
  [.call (.execute [.ok (.int 1), .ok (.int 2)]), .call (.insert [.ok (.str "x")]),
    .elsewhere fun c => { c with aux := c.aux + 1 }]

theorem reuse_after_someEvents :
    let s := (afterEvents inserting someEvents (StmtPtr.fresh (inserting.compile "" ⟨none, 0⟩))
      ⟨none, 0⟩).1
    let c := (afterEvents inserting someEvents (StmtPtr.fresh (inserting.compile "" ⟨none, 0⟩))
      ⟨none, 0⟩).2
    let t := StmtPtr.fresh (inserting.compile "" c)
    let call := Call.insert [.ok .unit]
    (call.run inserting s c).1 = (call.run inserting t c).1 ∧
      (call.run inserting s c).2.2 = (call.run inserting t c).2.2 ∧
      Rests (inserting.compile "" ⟨none, 0⟩) (call.run inserting s c).2.1 ∧
      (call.run inserting s c).2.1.busy = false := by
  refine reuse_leaves_no_residue inserting "" (inserting_recompiles "")
    (prepare_inserting "" (by decide) ⟨none, 0⟩) someEvents ?_ rfl
    (prepare_inserting "" (by decide) _) (.insert [.ok .unit])
  intro f hf c
  simp only [someEvents, List.mem_cons, reduceCtorEq, StmtEvent.elsewhere.injEq, List.not_mem_nil,
    or_false, false_or] at hf
  subst hf
  rfl

/-- Once `main.t` is created elsewhere, a statement compiled before goes on with `aux.t`. -/
example :
    ((Call.insert [.ok .unit]).run inserting (.fresh (some (insertInto false))) ⟨some 0, 7⟩).2.2 =
        ⟨some 0, 8⟩ ∧
      ((Call.insert [.ok .unit]).run inserting (.fresh (inserting.compile "" ⟨some 0, 7⟩))
        ⟨some 0, 7⟩).2.2 = ⟨some 1, 7⟩ := by
  decide

end NodeRusqlite
