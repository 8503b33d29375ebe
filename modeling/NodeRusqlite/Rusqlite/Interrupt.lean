/-
  File:      NodeRusqlite/Rusqlite/Interrupt.lean
  Subject:   `InnerConnection::close` and `InterruptHandle::interrupt`, on any number of
             connections and threads.

  An interrupt handle shares a pointer to the database with its connection, behind
  a lock. It outlives the connection, and the allocator may give the address of a
  closed database to another one. A step is one access to the pointers, or one call of
  `sqlite3_interrupt` or `sqlite3_close`; sections of different locks interleave. The
  other calls of `close` are left out: before the lock it removes the five hooks of the
  database, and after a refused `sqlite3_close` it asks for the message.

  * `World`: the databases in memory, the connections, and the calls so far.
  * **`calls_sound`**: whatever the interleaving, none of these calls reaches a freed
    database or one of another connection, and none comes after the database is closed.
  * **`connection_state`**: what a connection and its handles point to while nobody
    is inside, and which databases are left open for good.
-/
import NodeRusqlite.Basis.Sections

namespace NodeRusqlite.Rusqlite

open Basis (Event Run Sections)

variable {κ α ι : Type}

/-! ## 1. Connections and databases -/

/-- A `sqlite3` in memory: the connection that opened it, if one did, how many of its statements and
    backups are not finished, and `u1.isInterrupted`. -/
structure Database (κ : Type) where
  owner : Option κ
  unfinished : Nat
  isInterrupted : Bool
  deriving DecidableEq

/-- `InnerConnection`, with what its `interrupt_lock` guards. -/
structure InnerConnection (α : Type) where
  db : Option α
  owned : Bool
  interruptLock : Option α
  dropped : Bool
  deriving DecidableEq

/-- `InnerConnection::new`. -/
def InnerConnection.new (db : α) (owned : Bool) : InnerConnection α :=
  ⟨some db, owned, if owned then some db else none, false⟩

inductive CallKind where
  | interrupted
  | closed
  | refused
  deriving DecidableEq

/-- A call of `sqlite3_interrupt` or `sqlite3_close`: for which connection, and whose database it
    reached. -/
structure Call (κ : Type) where
  kind : CallKind
  by_ : κ
  owner : Option κ
  deriving DecidableEq

/-- What must not happen. -/
inductive Fault where
  | useAfterFree
  | assertion
  deriving DecidableEq

/-- The databases by their address, the connections, and the calls, newest first. -/
structure World (κ α : Type) where
  heap : α → Option (Database κ)
  conns : κ → Option (InnerConnection α)
  calls : List (Call κ)
  faults : List Fault

namespace World

variable [DecidableEq κ] [DecidableEq α]

/-- No connection and no database. -/
def empty : World κ α := ⟨fun _ => none, fun _ => none, [], []⟩

def fault (f : Fault) (w : World κ α) : World κ α := { w with faults := f :: w.faults }

def setDatabase (p : α) (d : Option (Database κ)) (w : World κ α) : World κ α :=
  { w with heap := Function.update w.heap p d }

def setConn (k : κ) (c : InnerConnection α) (w : World κ α) : World κ α :=
  { w with conns := Function.update w.conns k (some c) }

def call (kind : CallKind) (k : κ) (d : Database κ) (w : World κ α) : World κ α :=
  { w with calls := ⟨kind, k, d.owner⟩ :: w.calls }

/-- `sqlite3_interrupt`. -/
def sqlite3Interrupt (k : κ) (p : α) (w : World κ α) : World κ α :=
  match w.heap p with
  | none => w.fault .useAfterFree
  | some d => (w.call .interrupted k d).setDatabase p (some { d with isInterrupted := true })

/-- The result codes of `sqlite3_close`. -/
inductive Code where
  | ok
  | busy
  | misuse
  deriving DecidableEq

/-- `sqlite3_close`. -/
def sqlite3Close (k : κ) (p : Option α) (w : World κ α) : Code × World κ α :=
  match p with
  | none => (.ok, w)
  | some p =>
    match w.heap p with
    | none => (.misuse, w.fault .useAfterFree)
    | some d =>
      if d.unfinished = 0 then (.ok, (w.call .closed k d).setDatabase p none)
      else (.busy, w.call .refused k d)

/-- The calls of one connection. -/
def history (k : κ) (w : World κ α) : List CallKind :=
  (w.calls.filter fun call => call.by_ = k).map (·.kind)

end World

/-! ## 2. The sections -/

/-- Where a thread is between `lock()` and the end of the guard. `dropping`: the caller is the
    destructor. -/
inductive Point (α : Type) where
  | interrupt
  | interrupting (p : α)
  | close (dropping : Bool)
  | closing (dropping : Bool) (p : Option α)
  | closed (dropping : Bool) (code : World.Code)
  | left
  deriving DecidableEq

/-- What happens outside the locks. -/
inductive Outside (κ α : Type) where
  /-- `InnerConnection::open_with_flags`. -/
  | openDb (k : κ) (p : α)
  /-- `Connection::from_handle`. -/
  | fromHandle (k : κ) (p : α)
  /-- The destructor of a connection that is closed. -/
  | drop (k : κ)
  /-- Somebody else opens a database. -/
  | hostOpen (p : α)
  /-- And closes it. -/
  | hostClose (p : α)
  /-- Statements are prepared and finalized, backups begin and end. -/
  | unfinished (p : α) (n : Nat)
  /-- `sqlite3_step` while no statement runs. -/
  | start (p : α)

namespace World

variable [DecidableEq κ] [DecidableEq α]

/-- The pointers after a close. -/
def afterClose (k : κ) (c : InnerConnection α) (dropping : Bool) (code : Code) (w : World κ α) :
    World κ α :=
  let c := if code = .ok then { c with db := none, interruptLock := none } else c
  w.setConn k { c with dropped := dropping }

/-- One step inside a lock. Of the calls into SQLite only `sqlite3_interrupt` and `sqlite3_close`
    are steps. -/
def work (k : κ) (point : Point α) (w : World κ α) : Option (Point α × World κ α) :=
  match point, w.conns k with
  | .interrupt, some c =>
    match c.interruptLock with
    | some p => some (.interrupting p, w)
    | none => some (.left, w)
  | .interrupting p, _ => some (.left, w.sqlite3Interrupt k p)
  | .close dropping, some c =>
    if c.owned && c.interruptLock.isNone then some (.left, w.fault .assertion)
    else if !c.owned then some (.left, w.setConn k { c with db := none, dropped := dropping })
    else some (.closing dropping c.db, w)
  | .closing dropping p, _ =>
    let (code, w) := w.sqlite3Close k p
    some (.closed dropping code, w)
  | .closed dropping code, some c => some (.left, w.afterClose k c dropping code)
  | _, _ => none

/-- What may begin: `interrupt` as long as there is a handle, and `close` while there is a
    connection that is not closed. -/
def starts (k : κ) (point : Point α) (w : World κ α) : Bool :=
  match point, w.conns k with
  | .interrupt, some _ => true
  | .close _, some c => c.db.isSome && !c.dropped
  | _, _ => false

/-- One step outside. -/
def outside (a : Outside κ α) (w : World κ α) : Option (World κ α) :=
  match a with
  | .openDb k p =>
    match w.conns k, w.heap p with
    | none, none => some ((w.setDatabase p (some ⟨some k, 0, false⟩)).setConn k (.new p true))
    | _, _ => none
  | .fromHandle k p =>
    match w.conns k, w.heap p with
    | none, some _ => some (w.setConn k (.new p false))
    | _, _ => none
  | .drop k =>
    match w.conns k with
    | some c =>
      if c.db.isNone && !c.dropped then some (w.setConn k { c with dropped := true }) else none
    | none => none
  | .hostOpen p =>
    match w.heap p with
    | none => some (w.setDatabase p (some ⟨none, 0, false⟩))
    | some _ => none
  | .hostClose p =>
    match w.heap p with
    | some d => if d.owner.isNone then some (w.setDatabase p none) else none
    | none => none
  | .unfinished p n =>
    (w.heap p).map fun d => w.setDatabase p (some { d with unfinished := n })
  | .start p =>
    (w.heap p).map fun d => w.setDatabase p (some { d with isInterrupted := false })

end World

/-- The sections of `interrupt` and `close`. -/
def sections (κ α : Type) [DecidableEq κ] [DecidableEq α] :
    Sections (World κ α) κ (Point α) (Outside κ α) :=
  ⟨World.starts, World.work, World.outside⟩

/-! ## 3. What a connection can see -/

/-- What a world is to one connection: its pointers, the addresses of databases it opened, and the
    calls made for it. -/
structure View (α : Type) where
  conn : Option (InnerConnection α)
  owns : α → Prop
  history : List CallKind

/-- The view of one connection. -/
def view [DecidableEq κ] (k : κ) (w : World κ α) : View α :=
  ⟨w.conns k, fun p => ∃ d, w.heap p = some d ∧ d.owner = some k, w.history k⟩

section View

variable [DecidableEq κ] {w : World κ α} {j k : κ} {p : α} {d : Database κ} {c : InnerConnection α}

theorem view_setConn_self : view k (w.setConn k c) = { view k w with conn := some c } := by
  simp [view, World.setConn, World.history]

theorem view_setConn_of_ne (h : j ≠ k) : view j (w.setConn k c) = view j w := by
  simp [view, World.setConn, World.history, h]

theorem view_call_self {kind : CallKind} :
    view k (w.call kind k d) = { view k w with history := kind :: (view k w).history } := by
  simp [view, World.call, World.history]

theorem view_call_of_ne {kind : CallKind} (h : j ≠ k) : view j (w.call kind k d) = view j w := by
  simp [view, World.call, World.history, h.symm]

variable [DecidableEq α]

/-- Where an update does not change whether the database is one's own, nothing is seen of it. -/
theorem view_setDatabase {e : Option (Database κ)}
    (h : (∃ d, e = some d ∧ d.owner = some j) ↔ ∃ d, w.heap p = some d ∧ d.owner = some j) :
    view j (w.setDatabase p e) = view j w := by
  have howns (q : α) : (∃ d, (w.setDatabase p e).heap q = some d ∧ d.owner = some j) ↔
      ∃ d, w.heap q = some d ∧ d.owner = some j := by
    by_cases hqp : q = p
    · subst hqp
      simpa only [World.setDatabase, Function.update_self] using h
    · simp only [World.setDatabase, Function.update_of_ne hqp]
  simp only [view, howns]
  rfl

theorem view_freed_self (hall : ∀ q, (view k w).owns q → q = p) :
    view k (w.setDatabase p none) = { view k w with owns := fun _ => False } := by
  have howns (q : α) : (∃ e, (w.setDatabase p none).heap q = some e ∧ e.owner = some k) ↔
      False := by
    refine iff_false_intro fun hq => ?_
    by_cases hqp : q = p
    · subst hqp
      simp [World.setDatabase] at hq
    · simp only [World.setDatabase, Function.update_of_ne hqp] at hq
      exact hqp (hall q hq)
  simp only [view, howns]
  rfl

theorem view_opened_self (hnone : ∀ q, ¬ (view k w).owns q) (hown : d.owner = some k) :
    view k (w.setDatabase p (some d)) = { view k w with owns := fun q => q = p } := by
  have howns (q : α) : (∃ e, (w.setDatabase p (some d)).heap q = some e ∧ e.owner = some k) ↔
      q = p := by
    by_cases hqp : q = p
    · subst hqp
      simp [World.setDatabase, hown]
    · simp only [World.setDatabase, Function.update_of_ne hqp, hqp, iff_false]
      exact hnone q
  simp only [view, howns]
  rfl

end View

namespace View

variable {v : View α} {c : InnerConnection α}

/-- The last call of `sqlite3_close`. -/
def lastClose (v : View α) : Option CallKind := v.history.find? (· ≠ .interrupted)

/-- No call follows a successful close. -/
def Settled (v : View α) : Prop := ∃ older, v.history = .closed :: older ∧ .closed ∉ older

/-- A connection that opened its database, while nobody is inside. -/
structure Own (v : View α) (c : InnerConnection α) : Prop where
  lock : c.interruptLock = c.db
  owns : ∀ p, c.db = some p ↔ v.owns p
  opened : c.db ≠ none → .closed ∉ v.history
  closed : c.db = none → v.Settled
  leaked : c.dropped = true → c.db ≠ none → v.lastClose = some .refused

/-- A connection that has no database of its own. -/
structure Nothing (v : View α) : Prop where
  owns : ∀ p, ¬ v.owns p
  history : v.history = []

/-- What holds while nobody is inside. -/
structure Free (v : View α) : Prop where
  absent : v.conn = none → v.Nothing
  borrowed : ∀ c, v.conn = some c → c.owned = false → c.interruptLock = none ∧ v.Nothing
  own : ∀ c, v.conn = some c → c.owned = true → v.Own c

/-- What holds at a point inside. -/
def At (v : View α) : Point α → Prop
  | .interrupt => v.Free ∧ v.conn ≠ none
  | .interrupting p => v.Free ∧ ∃ c, v.conn = some c ∧ c.owned = true ∧ c.db = some p
  | .close _ => v.Free ∧ ∃ c, v.conn = some c ∧ c.dropped = false ∧ c.db ≠ none
  | .closing _ p =>
    v.Free ∧ ∃ c, v.conn = some c ∧ c.owned = true ∧ c.dropped = false ∧ c.db = p ∧ p ≠ none
  | .closed _ .ok =>
    ∃ c, v.conn = some c ∧ c.owned = true ∧ c.dropped = false ∧ c.db ≠ none ∧
      (∀ p, ¬ v.owns p) ∧ v.Settled
  | .closed _ .busy =>
    v.Free ∧ ∃ c, v.conn = some c ∧ c.owned = true ∧ c.db ≠ none ∧ v.lastClose = some .refused
  | .closed _ .misuse => False
  | .left => v.Free

section Steps

/-- `Free` of a connection with its own database. -/
theorem free_of_own (hc : v.conn = some c) (howned : c.owned = true) (h : v.Own c) : v.Free where
  absent hn := by
    rw [hc] at hn
    cases hn
  borrowed c' hc' hno := by
    rw [hc] at hc'
    cases hc'
    rw [howned] at hno
    cases hno
  own c' hc' _ := by
    rw [hc] at hc'
    cases hc'
    exact h

/-- And of one without. -/
theorem free_of_borrowed (hc : v.conn = some c) (howned : c.owned = false)
    (h : c.interruptLock = none ∧ v.Nothing) : v.Free where
  absent hn := by
    rw [hc] at hn
    cases hn
  borrowed c' hc' _ := by
    rw [hc] at hc'
    cases hc'
    exact h
  own c' hc' hown := by
    rw [hc] at hc'
    cases hc'
    rw [howned] at hown
    cases hown

theorem Free.interrupted (h : v.Free) (hc : v.conn = some c) (howned : c.owned = true)
    (hdb : c.db ≠ none) : View.Free { v with history := .interrupted :: v.history } := by
  obtain ⟨hlock, howns, hopened, _, hleaked⟩ := h.own c hc howned
  refine free_of_own hc howned ⟨hlock, howns, fun hne hmem => ?_, fun hn => absurd hn hdb, ?_⟩
  · rcases List.mem_cons.mp hmem with heq | hmem
    · cases heq
    · exact hopened hne hmem
  · exact fun hd hne => hleaked hd hne

theorem Free.closed (h : v.Free) (hc : v.conn = some c) (howned : c.owned = true)
    (hdropped : c.dropped = false) (hdb : c.db ≠ none) (dropping : Bool) :
    View.At { v with owns := fun _ => False, history := .closed :: v.history }
      (.closed dropping .ok) := by
  refine ⟨c, hc, howned, hdropped, hdb, fun _ => not_false, _, rfl, ?_⟩
  exact (h.own c hc howned).opened hdb

theorem Free.refused (h : v.Free) (hc : v.conn = some c) (howned : c.owned = true)
    (hdropped : c.dropped = false) (hdb : c.db ≠ none) (dropping : Bool) :
    View.At { v with history := .refused :: v.history } (.closed dropping .busy) := by
  obtain ⟨hlock, howns, hopened, _, _⟩ := h.own c hc howned
  refine ⟨free_of_own hc howned ⟨hlock, howns, fun hne hmem => ?_, fun hn => absurd hn hdb, ?_⟩,
    c, hc, howned, hdb, rfl⟩
  · rcases List.mem_cons.mp hmem with heq | hmem
    · cases heq
    · exact hopened hne hmem
  · intro hd
    rw [hdropped] at hd
    cases hd

/-- The pointers are cleared behind a successful close. -/
theorem At.cleared {dropping : Bool} (h : v.At (.closed dropping .ok)) (hc : v.conn = some c)
    (dropped : Bool) :
    View.Free { v with
      conn := some { c with db := none, interruptLock := none, dropped := dropped } } := by
  obtain ⟨c', hc', howned, _, _, howns, hsettled⟩ := h
  rw [hc] at hc'
  cases hc'
  refine free_of_own rfl howned ⟨rfl, fun p => ?_, fun hne => absurd rfl hne, fun _ => hsettled,
    fun _ hne => absurd rfl hne⟩
  exact iff_of_false nofun (howns p)

/-- They stay behind one that was refused. -/
theorem At.kept {dropping : Bool} (h : v.At (.closed dropping .busy)) (hc : v.conn = some c)
    (dropped : Bool) :
    View.Free { v with conn := some { c with dropped := dropped } } := by
  obtain ⟨hfree, c', hc', howned, hdb, hlast⟩ := h
  rw [hc] at hc'
  cases hc'
  obtain ⟨hlock, howns, hopened, _, _⟩ := hfree.own c hc howned
  exact free_of_own rfl howned ⟨hlock, howns, hopened, fun hn => absurd hn hdb, fun _ _ => hlast⟩

theorem Free.borrowedClosed (h : v.Free) (hc : v.conn = some c) (howned : c.owned = false)
    (dropped : Bool) :
    View.Free { v with conn := some { c with db := none, dropped := dropped } } := by
  have hnothing := h.borrowed c hc howned
  exact free_of_borrowed rfl howned ⟨hnothing.1, hnothing.2.owns, hnothing.2.history⟩

/-- A successful close is the last call, and the only one of its kind. -/
def OnlyLast (v : View α) : Prop :=
  ∀ newer older, v.history = newer ++ .closed :: older → newer = [] ∧ .closed ∉ older

theorem onlyLast_of_not_mem (h : .closed ∉ v.history) : v.OnlyLast := fun newer _ heq =>
  absurd (heq ▸ List.mem_append_right newer List.mem_cons_self) h

theorem Settled.onlyLast (h : v.Settled) : v.OnlyLast := fun newer _ heq => by
  obtain ⟨older', heq', hno⟩ := h
  rw [heq'] at heq
  cases newer with
  | nil =>
    obtain ⟨_, rfl⟩ := List.cons.inj heq
    exact ⟨rfl, hno⟩
  | cons kind newer =>
    obtain ⟨_, rfl⟩ := List.cons.inj heq
    exact absurd (List.mem_append_right newer List.mem_cons_self) hno

theorem Nothing.onlyLast (h : v.Nothing) : v.OnlyLast :=
  onlyLast_of_not_mem (by rw [h.history]; exact List.not_mem_nil)

theorem Free.onlyLast (h : v.Free) : v.OnlyLast := by
  rcases hc : v.conn with _ | c
  · exact (h.absent hc).onlyLast
  · rcases Bool.eq_false_or_eq_true c.owned with howned | howned
    · obtain ⟨_, _, hopened, hclosed, _⟩ := h.own c hc howned
      by_cases hdb : c.db = none
      · exact (hclosed hdb).onlyLast
      · exact onlyLast_of_not_mem (hopened hdb)
    · exact (h.borrowed c hc howned).2.onlyLast

theorem At.onlyLast {point : Point α} (h : v.At point) : v.OnlyLast := by
  match point, h with
  | .interrupt, h | .interrupting _, h | .close _, h | .closing _ _, h | .closed _ .busy, h =>
    exact h.1.onlyLast
  | .closed _ .ok, ⟨_, _, _, _, _, _, hsettled⟩ => exact Settled.onlyLast hsettled
  | .left, h => exact Free.onlyLast h

/-- A connection that is not there yet is in no section. -/
theorem At.absent {point : Point α} (h : v.At point) (hc : v.conn = none) :
    point = .left ∧ v.Nothing := by
  match point, h with
  | .interrupt, h => exact absurd hc h.2
  | .interrupting _, ⟨_, _, hs, _⟩ | .close _, ⟨_, _, hs, _⟩ | .closing _ _, ⟨_, _, hs, _⟩ =>
    rw [hc] at hs
    cases hs
  | .closed _ .ok, ⟨_, hs, _⟩ | .closed _ .busy, ⟨_, _, hs, _⟩ =>
    rw [hc] at hs
    cases hs
  | .left, h => exact ⟨rfl, Free.absent h hc⟩

/-- The destructor of a connection that is closed. -/
theorem Free.dropped (h : v.Free) (hc : v.conn = some c) (hdb : c.db = none) :
    View.Free { v with conn := some { c with dropped := true } } := by
  rcases Bool.eq_false_or_eq_true c.owned with howned | howned
  · obtain ⟨hlock, howns, _, hclosed, _⟩ := h.own c hc howned
    exact free_of_own rfl howned ⟨hlock, howns, fun hne => absurd hdb hne, hclosed,
      fun _ hne => absurd hdb hne⟩
  · have hnothing := h.borrowed c hc howned
    exact free_of_borrowed rfl howned ⟨hnothing.1, hnothing.2.owns, hnothing.2.history⟩

theorem At.dropped {point : Point α} (h : v.At point) (hc : v.conn = some c) (hdb : c.db = none) :
    View.At { v with conn := some { c with dropped := true } } point := by
  have hno {c' : InnerConnection α} (hc' : v.conn = some c') (hdb' : c'.db ≠ none) : False := by
    rw [hc] at hc'
    cases hc'
    exact hdb' hdb
  match point, h with
  | .interrupt, h => exact ⟨h.1.dropped hc hdb, nofun⟩
  | .interrupting p, ⟨_, _, hs, _, hp⟩ => exact (hno hs (by rw [hp]; exact nofun)).elim
  | .close _, ⟨_, _, hs, _, hp⟩ => exact (hno hs hp).elim
  | .closing _ p, ⟨_, _, hs, _, _, hp, hne⟩ => exact (hno hs (by rwa [hp])).elim
  | .closed _ .ok, ⟨_, hs, _, _, hp, _⟩ => exact (hno hs hp).elim
  | .closed _ .busy, ⟨_, _, hs, _, hp, _⟩ => exact (hno hs hp).elim
  | .left, h => exact Free.dropped h hc hdb

end Steps

end View

/-- No fault so far, and every call has reached a database of its connection. -/
def World.Sound (w : World κ α) : Prop :=
  w.faults = [] ∧ ∀ call ∈ w.calls, call.owner = some call.by_

/-! ## 4. One step -/

section Steps

variable {w w' : World κ α} {j k : κ} {p : α} {point point' : Point α}

/-- A call that reaches the right database. -/
theorem sound_call {kind : CallKind} {d : Database κ} (h : w.Sound) (hown : d.owner = some k) :
    (w.call kind k d).Sound := by
  refine ⟨h.1, fun call hm => ?_⟩
  rcases List.mem_cons.mp hm with rfl | hm
  · exact hown
  · exact h.2 call hm

variable [DecidableEq κ] [DecidableEq α]

/-- **What `sqlite3_interrupt` does to an open database.** -/
theorem sqlite3Interrupt_spec (h : (view k w).owns p) :
    view k (w.sqlite3Interrupt k p) =
        { view k w with history := .interrupted :: (view k w).history } ∧
      (∀ j, j ≠ k → view j (w.sqlite3Interrupt k p) = view j w) ∧
      (w.Sound → (w.sqlite3Interrupt k p).Sound) := by
  obtain ⟨d, hd, hown⟩ := h
  have hsame (j : κ) : view j (w.sqlite3Interrupt k p) = view j (w.call .interrupted k d) := by
    rw [World.sqlite3Interrupt, hd]
    have hcall : (w.call .interrupted k d).heap p = some d := hd
    exact view_setDatabase (by rw [hcall]; simp)
  refine ⟨by rw [hsame, view_call_self], fun j hj => by rw [hsame, view_call_of_ne hj], ?_⟩
  intro hw
  rw [World.sqlite3Interrupt, hd]
  exact sound_call hw hown

/-- **What `sqlite3_close` does to an open database**: it is freed, or nothing happens to it. -/
theorem sqlite3Close_spec (h : ∀ q, (view k w).owns q ↔ q = p) :
    ∃ code w', w.sqlite3Close k (some p) = (code, w') ∧
      (∀ j, j ≠ k → view j w' = view j w) ∧ (w.Sound → w'.Sound) ∧
      (code = .ok ∧ view k w' =
          { view k w with owns := fun _ => False, history := .closed :: (view k w).history } ∨
        code = .busy ∧
          view k w' = { view k w with history := .refused :: (view k w).history }) := by
  obtain ⟨d, hd, hown⟩ := (h p).mpr rfl
  by_cases hbusy : d.unfinished = 0
  · refine ⟨.ok, (w.call .closed k d).setDatabase p none, ?_, fun j hj => ?_, ?_, .inl ⟨rfl, ?_⟩⟩
    · simp only [World.sqlite3Close, hd, if_pos hbusy]
    · have hcall : (w.call .closed k d).heap p = some d := hd
      rw [view_setDatabase, view_call_of_ne hj]
      rw [hcall]
      simp [hown, Ne.symm hj]
    · exact fun hw => sound_call hw hown
    · rw [view_freed_self, view_call_self]
      rw [view_call_self]
      exact fun q hq => (h q).mp hq
  · refine ⟨.busy, w.call .refused k d, ?_, fun j hj => view_call_of_ne hj, ?_, .inr ⟨rfl, ?_⟩⟩
    · simp only [World.sqlite3Close, hd, if_neg hbusy]
    · exact fun hw => sound_call hw hown
    · exact view_call_self

omit [DecidableEq α] in
/-- Setting one's own connection. -/
theorem setConn_spec {c : InnerConnection α} {v : View α} (hv : view k w = v) :
    view k (w.setConn k c) = { v with conn := some c } ∧
      (∀ j, j ≠ k → view j (w.setConn k c) = view j w) ∧ (w.Sound → (w.setConn k c).Sound) :=
  ⟨by rw [view_setConn_self, hv], fun _ hj => view_setConn_of_ne hj, id⟩

/-- **A step inside a lock** keeps what holds there, and the other connections see nothing of it. -/
theorem work_spec (hat : (view k w).At point) (h : w.work k point = some (point', w')) :
    (view k w').At point' ∧ (∀ j, j ≠ k → view j w' = view j w) ∧ (w.Sound → w'.Sound) := by
  cases point with
  | interrupt =>
    obtain ⟨hfree, hconn⟩ := hat
    obtain ⟨c, hc⟩ := Option.ne_none_iff_exists'.mp hconn
    have hc' : w.conns k = some c := hc
    simp only [World.work, hc'] at h
    split at h <;> cases h
    · rename_i p hp
      refine ⟨⟨hfree, c, hc, ?_⟩, fun _ _ => rfl, id⟩
      rcases Bool.eq_false_or_eq_true c.owned with howned | howned
      · exact ⟨howned, (hfree.own c hc howned).lock ▸ hp⟩
      · rw [(hfree.borrowed c hc howned).1] at hp
        cases hp
    · exact ⟨hfree, fun _ _ => rfl, id⟩
  | interrupting p =>
    obtain ⟨hfree, c, hc, howned, hdb⟩ := hat
    cases h
    obtain ⟨hself, hothers, hsound⟩ :=
      sqlite3Interrupt_spec (((hfree.own c hc howned).owns p).mp hdb)
    refine ⟨?_, hothers, hsound⟩
    rw [hself]
    exact hfree.interrupted hc howned (by rw [hdb]; exact nofun)
  | close dropping =>
    obtain ⟨hfree, c, hc, hdropped, hdb⟩ := hat
    have hc' : w.conns k = some c := hc
    unfold World.work at h
    simp only [hc'] at h
    rcases Bool.eq_false_or_eq_true c.owned with howned | howned
    · -- the assertion holds: the lock has the pointer of the connection
      have hlock : c.interruptLock.isNone = false := by
        rw [(hfree.own c hc howned).lock]
        exact Option.isNone_eq_false_iff.mpr (Option.isSome_iff_ne_none.mpr hdb)
      rw [if_neg (by simp [hlock]), if_neg (by simp [howned])] at h
      cases h
      exact ⟨⟨hfree, c, hc, howned, hdropped, rfl, hdb⟩, fun _ _ => rfl, id⟩
    · rw [if_neg (by simp [howned]), if_pos (by simp [howned])] at h
      cases h
      obtain ⟨hself, hothers, hsound⟩ := setConn_spec (w := w) (k := k) rfl
      refine ⟨?_, hothers, hsound⟩
      rw [hself]
      exact hfree.borrowedClosed hc howned dropping
  | closing dropping p =>
    obtain ⟨hfree, c, hc, howned, hdropped, rfl, hdb⟩ := hat
    obtain ⟨p, hp⟩ := Option.ne_none_iff_exists'.mp hdb
    have howns (q : α) : (view k w).owns q ↔ q = p := by
      rw [← (hfree.own c hc howned).owns, hp, Option.some.injEq]
      exact eq_comm
    obtain ⟨code, w'', hclose, hothers, hsound, hcode⟩ := sqlite3Close_spec howns
    rw [World.work, hp, hclose] at h
    cases h
    refine ⟨?_, hothers, hsound⟩
    rcases hcode with ⟨rfl, hself⟩ | ⟨rfl, hself⟩
    · rw [hself]
      exact hfree.closed hc howned hdropped hdb dropping
    · rw [hself]
      exact hfree.refused hc howned hdropped hdb dropping
  | closed dropping code =>
    have hconn : ∃ c, (view k w).conn = some c := by
      match code, hat with
      | .ok, ⟨c, hc, _⟩ | .busy, ⟨_, c, hc, _⟩ => exact ⟨c, hc⟩
    obtain ⟨c, hc⟩ := hconn
    have hc' : w.conns k = some c := hc
    simp only [World.work, hc'] at h
    cases h
    obtain ⟨hself, hothers, hsound⟩ := setConn_spec (w := w) (k := k) rfl
    refine ⟨?_, hothers, hsound⟩
    unfold World.afterClose
    rw [hself]
    match code, hat with
    | .ok, hat => exact hat.cleared hc dropping
    | .busy, hat => exact hat.kept hc dropping
  | left => cases h

/-- The end of a section. -/
theorem leave_spec (hat : (view k w).At point) (h : w.work k point = none) : (view k w).Free := by
  have hsome {c : InnerConnection α} (hc : (view k w).conn = some c) : w.conns k = some c := hc
  cases point with
  | interrupt => exact hat.1
  | interrupting p => cases h
  | close dropping => exact hat.1
  | closing dropping p => cases h
  | closed dropping code =>
    match code, hat with
    | .ok, ⟨c, hc, _⟩ | .busy, ⟨_, c, hc, _⟩ =>
      simp only [World.work, hsome hc] at h
      cases h
  | left => exact hat

omit [DecidableEq α] in
/-- The beginning of one. -/
theorem enter_spec (hstarts : w.starts k point = true) (hfree : (view k w).Free) :
    (view k w).At point := by
  unfold World.starts at hstarts
  split at hstarts
  · rename_i c hc
    exact ⟨hfree, by rw [show (view k w).conn = some c from hc]; exact nofun⟩
  · rename_i c hc
    rw [Bool.and_eq_true, Bool.not_eq_true', Option.isSome_iff_ne_none] at hstarts
    exact ⟨hfree, c, hc, hstarts.2, hstarts.1⟩
  · cases hstarts

omit [DecidableEq α] in
/-- Where a connection was absent, only the new one has to be right. -/
theorem kept_of_absent (hc : w.conns k = none) (hothers : ∀ j, j ≠ k → view j w' = view j w)
    (hnew : (view k w).Nothing → (view k w').Free) (j : κ) :
    ((view j w).Free → (view j w').Free) ∧ ∀ q, (view j w).At q → (view j w').At q := by
  by_cases hj : j = k
  · subst hj
    refine ⟨fun hfree => hnew (hfree.absent hc), fun q hq => ?_⟩
    obtain ⟨rfl, hnothing⟩ := View.At.absent hq hc
    exact hnew hnothing
  · rw [hothers j hj]
    exact ⟨id, fun _ => id⟩

/-- **A step outside** keeps what holds at every lock. -/
theorem outside_spec {a : Outside κ α} (h : w.outside a = some w') :
    (∀ j, ((view j w).Free → (view j w').Free) ∧ ∀ q, (view j w).At q → (view j w').At q) ∧
      (w.Sound → w'.Sound) := by
  have hsame (hview : ∀ j, view j w' = view j w) :
      ∀ j, ((view j w).Free → (view j w').Free) ∧ ∀ q, (view j w).At q → (view j w').At q := by
    intro j
    rw [hview j]
    exact ⟨id, fun _ => id⟩
  cases a with
  | openDb k p =>
    simp only [World.outside] at h
    split at h <;> cases h
    rename_i hc hp
    refine ⟨kept_of_absent hc (fun j hj => ?_) fun hnothing => ?_, id⟩
    · rw [view_setConn_of_ne hj, view_setDatabase]
      rw [hp]
      simp [Ne.symm hj]
    · refine View.free_of_own (c := .new p true) (by rw [view_setConn_self]) rfl ?_
      rw [view_setConn_self, view_opened_self hnothing.owns rfl]
      refine ⟨rfl, fun q => ?_, fun _ hmem => ?_, nofun, nofun⟩
      · exact Option.some_inj.trans eq_comm
      · rw [show (view k w).history = [] from hnothing.history] at hmem
        exact absurd hmem List.not_mem_nil
  | fromHandle k p =>
    simp only [World.outside] at h
    split at h <;> cases h
    rename_i hc _
    refine ⟨kept_of_absent hc (fun j hj => view_setConn_of_ne hj) fun hnothing => ?_, id⟩
    rw [view_setConn_self]
    exact View.free_of_borrowed rfl rfl ⟨rfl, hnothing.owns, hnothing.history⟩
  | drop k =>
    simp only [World.outside] at h
    split at h
    · rename_i c hc
      split at h <;> cases h
      rename_i hguard
      rw [Bool.and_eq_true, Option.isNone_iff_eq_none] at hguard
      refine ⟨fun j => ?_, id⟩
      by_cases hj : j = k
      · subst hj
        rw [view_setConn_self]
        exact ⟨fun hfree => hfree.dropped hc hguard.1, fun q hq => hq.dropped hc hguard.1⟩
      · rw [view_setConn_of_ne hj]
        exact ⟨id, fun _ => id⟩
    · cases h
  | hostOpen p =>
    simp only [World.outside] at h
    split at h <;> cases h
    rename_i hp
    exact ⟨hsame fun j => view_setDatabase (by rw [hp]; simp), id⟩
  | hostClose p =>
    simp only [World.outside] at h
    split at h
    · rename_i d hp
      split at h <;> cases h
      rename_i hown
      rw [Option.isNone_iff_eq_none] at hown
      exact ⟨hsame fun j => view_setDatabase (by rw [hp]; simp [hown]), id⟩
    · cases h
  | unfinished p n | start p =>
    obtain ⟨d, hp, rfl⟩ := Option.map_eq_some_iff.mp h
    exact ⟨hsame fun j => view_setDatabase (by rw [hp]; simp), id⟩

/-- **The sections of `interrupt` and `close` keep the assertions of all locks.** -/
theorem sections_keep : (sections κ α).Keeps (fun k w => (view k w).Free)
    fun k point w => (view k w).At point where
  enter := enter_spec
  work hat h := (work_spec hat h).1
  leave := leave_spec
  free_work hat h hj := by
    rw [(work_spec hat h).2.1 _ hj]
    exact id
  at_work hat h hj := by
    rw [(work_spec hat h).2.1 _ hj]
    exact id
  free_outside h := ((outside_spec h).1 _).1
  at_outside h := ((outside_spec h).1 _).2 _

end Steps

/-! ## 5. Every interleaving -/

section Runs

variable [DecidableEq κ] [DecidableEq α]

/-- A state that threads `ι` have reached, beginning without any connection. -/
def Reached (s : Sections.State (World κ α) ι κ (Point α)) : Prop :=
  ∃ h, Run (sections κ α).step (Sections.initial World.empty) h s

theorem Reached.of_acts {acts : List (Sections.Act ι κ (Point α) (Outside κ α))}
    {s : Sections.State (World κ α) ι κ (Point α)}
    (h : acts.foldlM (sections κ α).step (Sections.initial World.empty) = some s) : Reached s :=
  ⟨_, (Run.of_foldlM h Run.start).choose_spec⟩

/-- What holds in every state. -/
theorem Reached.holds {s : Sections.State (World κ α) ι κ (Point α)} (hs : Reached s) :
    Sections.Holds (fun k w => (view k w).Free) (fun k point w => (view k w).At point) s ∧
      s.state.Sound := by
  obtain ⟨h, hr⟩ := hs
  have hfree (k : κ) : (view k (World.empty : World κ α)).Free :=
    ⟨fun _ => ⟨fun _ ⟨_, hd, _⟩ => absurd hd nofun, rfl⟩, nofun, nofun⟩
  refine sections_keep.run hfree ⟨rfl, nofun⟩ ?_ hr
  intro s s' a hholds hsound hstep
  rcases (sections κ α).step_cases hstep with ⟨_, _, _, _, _, _, rfl⟩ |
    ⟨k, i, p, p', state, _, hin, hwork, rfl⟩ | ⟨_, _, _, _, _, _, rfl⟩ | ⟨b, state, _, hout, rfl⟩
  · exact hsound
  · exact (work_spec ((hholds k).2 i p hin) hwork).2.2 hsound
  · exact hsound
  · exact (outside_spec hout).2 hsound

/-- **Whatever the interleaving, `sqlite3_interrupt` and `sqlite3_close` are only called on the open
    database of the connection they are called for, `close` finds its assertion true, and
    after a close that succeeded nothing is called for the connection again.** -/
theorem calls_sound {s : Sections.State (World κ α) ι κ (Point α)} (hs : Reached s) :
    s.state.faults = [] ∧ (∀ call ∈ s.state.calls, call.owner = some call.by_) ∧
      ∀ k newer older, s.state.history k = newer ++ .closed :: older →
        newer = [] ∧ .closed ∉ older := by
  obtain ⟨hholds, hfaults, hcalls⟩ := hs.holds
  refine ⟨hfaults, hcalls, fun k newer older heq => ?_⟩
  have hclosed : (view k s.state).OnlyLast := by
    rcases hin : s.inside k with _ | ⟨i, p⟩
    · exact ((hholds k).1 hin).onlyLast
    · exact ((hholds k).2 i p hin).onlyLast
  exact hclosed newer older heq

/-- A connection is closed, another one gets the address of its database, and a handle of the first
    one is used. -/
def reuseAddress : List (Sections.Act Bool Bool (Point Unit) (Outside Bool Unit)) :=
  [.outside (.openDb false ()), .enter true false (.close false), .work false, .work false,
    .work false, .work false, .outside (.openDb true ()), .enter false false .interrupt,
    .work false, .work false]

/-- The second one does not notice. -/
theorem calls_sound_reuseAddress : ∃ s,
    reuseAddress.foldlM (sections Bool Unit).step (Sections.initial World.empty) = some s ∧
      s.state.heap () = some ⟨some true, 0, false⟩ ∧ s.state.faults = [] := by
  have hacts : reuseAddress.foldlM (sections Bool Unit).step (Sections.initial World.empty) =
      some _ := rfl
  exact ⟨_, hacts, rfl, (calls_sound (Reached.of_acts hacts)).1⟩

/-- **What a connection that opened its database points to while nobody is inside**: its handles
    have its own pointer, the pointer is to the one database it has, and is null exactly when that
    is closed. A connection that is gone has left its database open exactly when its last close was
    refused. -/
theorem connection_state {s : Sections.State (World κ α) ι κ (Point α)} (hs : Reached s) {k : κ}
    {c : InnerConnection α} (hin : s.inside k = none) (hc : s.state.conns k = some c)
    (howned : c.owned = true) :
    c.interruptLock = c.db ∧
      (∀ p, c.db = some p ↔ ∃ d, s.state.heap p = some d ∧ d.owner = some k) ∧
      (c.db = none ↔ .closed ∈ s.state.history k) ∧
      (c.dropped = true → (c.db ≠ none ↔ (view k s.state).lastClose = some .refused)) := by
  obtain ⟨hlock, howns, hopened, hclosed, hleaked⟩ := ((hs.holds.1 k).1 hin).own c hc howned
  refine ⟨hlock, howns, ⟨fun hn => ?_, fun hm => ?_⟩, fun hd => ⟨hleaked hd, fun hlast hn => ?_⟩⟩
  · obtain ⟨older, heq, _⟩ := hclosed hn
    exact (show s.state.history k = _ from heq) ▸ List.mem_cons_self
  · exact Classical.byContradiction fun hne => hopened hne hm
  · obtain ⟨older, heq, _⟩ := hclosed hn
    rw [View.lastClose, heq] at hlast
    cases hlast

/-- The first one is closed, and points nowhere. -/
theorem connection_state_reuseAddress : ∃ s,
    reuseAddress.foldlM (sections Bool Unit).step (Sections.initial World.empty) = some s ∧
      .closed ∈ s.state.history false := by
  have hacts : reuseAddress.foldlM (sections Bool Unit).step (Sections.initial World.empty) =
      some _ := rfl
  have hstate := connection_state (Reached.of_acts hacts) (k := false) rfl rfl rfl
  exact ⟨_, hacts, hstate.2.2.1.mp rfl⟩

end Runs

end NodeRusqlite.Rusqlite
