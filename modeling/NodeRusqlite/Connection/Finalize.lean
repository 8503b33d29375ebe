/-
  File:      NodeRusqlite/Connection/Finalize.lean
  Subject:   The finaliser of a connection: what becomes of its database when JavaScript
             lets the connection go.

  `finalize` closes the connection. Where SQLite refuses, the error is passed on and
  the connection that came back with it is dropped; its destructor tries once
  more.

  * `finalize_run`: the finaliser is a run of the sections of Interrupt.lean.
  * **`finalize_closes_iff`**: it succeeds exactly when nothing is unfinished; else
    no later step of anybody frees the database.
-/
import NodeRusqlite.Rusqlite.Interrupt
import NodeRusqlite.Statement.Scoped

namespace NodeRusqlite

open Basis (Event Outcome Run Sections)
open Rusqlite (InnerConnection Outside Point Reached World sections view)

variable {κ α ι : Type} [DecidableEq κ]

/-! ## 1. The finaliser -/

namespace Rusqlite

variable [DecidableEq α]

/-- `decode_result_raw` after `sqlite3_close`. -/
def World.Code.decode : World.Code → Except Error Unit
  | .ok => .ok ()
  | .busy => .error (.sqliteFailure
      ⟨5, "unable to close due to unfinalized statements or unfinished backups",
        Failure.isError_busy⟩)
  | .misuse => .error (.sqliteFailure Failure.misuse)

/-- `InnerConnection::close`, with nobody else inside and without the hooks it removes first. -/
def InnerConnection.close (k : κ) (w : World κ α) : Outcome Error Unit × World κ α :=
  match w.conns k with
  | none => (.ok (), w)
  | some c =>
    if c.db.isNone then (.ok (), w)
    else if c.owned && c.interruptLock.isNone then
      (.panic "Bug: Somehow interrupt_lock was cleared before the DB was closed",
        w.fault .assertion)
    else if !c.owned then (.ok (), w.setConn k { c with db := none })
    else
      let (code, w) := w.sqlite3Close k c.db
      (Outcome.ofExcept code.decode, w.afterClose k c c.dropped code)

/-- `Drop for InnerConnection`, and the end of the connection. -/
def InnerConnection.drop (k : κ) (w : World κ α) : World κ α :=
  let w := (close k w).2
  match w.conns k with
  | none => w
  | some c => w.setConn k { c with dropped := true }

/-- `Connection::close`: a connection that is closed is dropped. -/
def Connection.close (k : κ) (w : World κ α) : Outcome Error Unit × World κ α :=
  match InnerConnection.close k w with
  | (.ok (), w) => (.ok (), InnerConnection.drop k w)
  | (r, w) => (r, w)

end Rusqlite

/-- `ObjectFinalize for Connection`: a connection that comes back with an error is dropped. -/
def Connection.finalize [DecidableEq α] (k : κ) (w : World κ α) :
    Outcome NapiError Unit × World κ α :=
  match Rusqlite.Connection.close k w with
  | (.ok (), w) => (.ok (), w)
  | (.err e, w) => (.err (.ofRusqlite e), InnerConnection.drop k w)
  | (.panic msg, w) => (.panic msg, w)

/-! ## 2. What it does -/

section Finalize

variable {w : World κ α} {k : κ} {p : α} {c : InnerConnection α} {d : Rusqlite.Database κ}

/-- A connection that is open, with the pointer to its database in both places. -/
structure Opened (w : World κ α) (k : κ) (p : α) (d : Rusqlite.Database κ) : Prop where
  conn : w.conns k = some ⟨some p, true, some p, false⟩
  heap : w.heap p = some d
  owner : d.owner = some k

/-- The world after a close that succeeded. -/
def World.closedBy [DecidableEq α] (k : κ) (p : α) (d : Rusqlite.Database κ) (w : World κ α) :
    World κ α :=
  ((w.call .closed k d).setDatabase p none).setConn k ⟨none, true, none, true⟩

/-- And after two that were refused. -/
def World.leakedBy (k : κ) (p : α) (d : Rusqlite.Database κ) (w : World κ α) : World κ α :=
  ((w.call .refused k d).call .refused k d).setConn k ⟨some p, true, some p, true⟩

theorem setConn_setConn (c c' : InnerConnection α) :
    (w.setConn k c).setConn k c' = w.setConn k c' := by
  simp only [World.setConn, Function.update_idem]

theorem setConn_conns (c : InnerConnection α) : (w.setConn k c).conns k = some c :=
  Function.update_self ..

theorem call_setConn (kind : Rusqlite.CallKind) (c : InnerConnection α) :
    (w.setConn k c).call kind k d = (w.call kind k d).setConn k c := rfl

/-- A close that was refused leaves everything as it was. -/
theorem Opened.refused (h : Opened w k p d) :
    Opened ((w.call .refused k d).setConn k ⟨some p, true, some p, false⟩) k p d :=
  ⟨setConn_conns _, h.heap, h.owner⟩

variable [DecidableEq α]

omit [DecidableEq κ] in
/-- `sqlite3_close` of an open database. -/
theorem Opened.sqlite3Close (h : Opened w k p d) : w.sqlite3Close k (some p) =
    if d.unfinished = 0 then (.ok, (w.call .closed k d).setDatabase p none)
    else (.busy, w.call .refused k d) := by
  simp only [World.sqlite3Close, h.heap]

/-- **What the finaliser does to an open connection.** -/
theorem finalize_eq (h : Opened w k p d) : Connection.finalize k w =
    if d.unfinished = 0 then (.ok (), World.closedBy k p d w)
    else (.err ⟨.genericFailure,
        "unable to close due to unfinalized statements or unfinished backups"⟩,
      World.leakedBy k p d w) := by
  have hclose {w : World κ α} (h : Opened w k p d) : InnerConnection.close k w =
      if d.unfinished = 0 then
        (.ok (), ((w.call .closed k d).setDatabase p none).setConn k ⟨none, true, none, false⟩)
      else (Outcome.ofExcept World.Code.busy.decode,
        (w.call .refused k d).setConn k ⟨some p, true, some p, false⟩) := by
    by_cases hbusy : d.unfinished = 0
    · simp only [InnerConnection.close, h.conn, h.sqlite3Close, if_pos hbusy]
      rfl
    · simp only [InnerConnection.close, h.conn, h.sqlite3Close, if_neg hbusy]
      rfl
  by_cases hbusy : d.unfinished = 0
  · have hdrop (w : World κ α) : InnerConnection.drop k (w.setConn k ⟨none, true, none, false⟩) =
        w.setConn k ⟨none, true, none, true⟩ := by
      have hnull : InnerConnection.close k (w.setConn k ⟨none, true, none, false⟩) =
          (.ok (), w.setConn k ⟨none, true, none, false⟩) := by
        simp only [InnerConnection.close, setConn_conns]
        rfl
      simp only [InnerConnection.drop, hnull, setConn_conns, setConn_setConn]
    simp only [Connection.finalize, Rusqlite.Connection.close, hclose h, if_pos hbusy, hdrop]
    rfl
  · simp only [Connection.finalize, Rusqlite.Connection.close, hclose h, if_neg hbusy,
      World.Code.decode, Outcome.ofExcept, InnerConnection.drop, hclose h.refused, setConn_conns,
      call_setConn, setConn_setConn]
    rfl

/-! ## 3. The finaliser among the others -/

variable {inside : κ → Option (ι × Point α)}

/-- One call of `close`. -/
def closeActs (i : ι) (k : κ) (dropping : Bool) :
    List (Sections.Act ι κ (Point α) (Outside κ α)) :=
  [.enter i k (.close dropping), .work k, .work k, .work k, .work k]

/-- It runs to its end. -/
theorem close_section (h : Opened w k p d) (hin : inside k = none) (i : ι) (dropping : Bool) :
    (closeActs i k dropping).foldlM (sections κ α).step ⟨w, inside⟩ =
      some ⟨(w.sqlite3Close k (some p)).2.afterClose k ⟨some p, true, some p, false⟩ dropping
        (w.sqlite3Close k (some p)).1, inside⟩ := by
  have hconn : (w.sqlite3Close k (some p)).2.conns k = some ⟨some p, true, some p, false⟩ := by
    rw [h.sqlite3Close]
    split <;> exact h.conn
  have hstarts : World.starts k (.close dropping) w = true := by
    simp only [World.starts, h.conn]
    rfl
  have hclose : w.work k (.close dropping) = some (.closing dropping (some p), w) := by
    simp only [World.work, h.conn]
    rfl
  have hclosing : w.work k (.closing dropping (some p)) =
      some (.closed dropping (w.sqlite3Close k (some p)).1, (w.sqlite3Close k (some p)).2) := rfl
  generalize w.sqlite3Close k (some p) = result at hconn hclosing ⊢
  obtain ⟨code, w₁⟩ := result
  change w₁.conns k = some _ at hconn
  have hclosed : w₁.work k (.closed dropping code) =
      some (.left, w₁.afterClose k ⟨some p, true, some p, false⟩ dropping code) := by
    simp only [World.work, hconn]
  have hleft (w : World κ α) : w.work k .left = none := rfl
  have hback : Function.update inside k none = inside := by
    rw [← hin, Function.update_eq_self]
  simp only [closeActs, List.foldlM_cons, List.foldlM_nil, Sections.step, sections, hin, hstarts,
    if_true, Function.update_self, hclose, hclosing, hclosed, hleft, Function.update_idem, hback,
    Option.bind_eq_bind, Option.bind_some]
  rfl

/-- **The finaliser is a run**: one close and the destructor of a closed connection, or two
    closes. -/
theorem finalize_run (h : Opened w k p d) (hin : inside k = none) (i : ι) :
    ∃ acts : List (Sections.Act ι κ (Point α) (Outside κ α)),
      acts.foldlM (sections κ α).step ⟨w, inside⟩ =
        some ⟨(Connection.finalize k w).2, inside⟩ := by
  have hfirst := close_section h hin i false
  rw [finalize_eq h]
  rw [h.sqlite3Close] at hfirst
  by_cases hbusy : d.unfinished = 0
  · rw [if_pos hbusy] at hfirst ⊢
    refine ⟨closeActs i k false ++ [.outside (.drop k)], ?_⟩
    rw [List.foldlM_append, hfirst]
    have hdrop : World.outside (.drop k) (World.afterClose k ⟨some p, true, some p, false⟩ false .ok
        ((w.call .closed k d).setDatabase p none)) = some (World.closedBy k p d w) := by
      simp only [World.outside, World.afterClose, if_true, setConn_conns, setConn_setConn]
      rfl
    show (World.outside (.drop k) _).map _ >>= _ = _
    rw [hdrop]
    rfl
  · rw [if_neg hbusy] at hfirst ⊢
    have hsecond := close_section h.refused hin i true
    rw [h.refused.sqlite3Close, if_neg hbusy] at hsecond
    refine ⟨closeActs i k false ++ closeActs i k true, ?_⟩
    rw [List.foldlM_append, hfirst]
    refine hsecond.trans (congrArg some ?_)
    simp only [World.afterClose, reduceCtorEq, if_false, call_setConn, setConn_setConn]
    rfl

/-- A connection that is gone, and that nobody is closing. -/
structure Gone (s : Sections.State (World κ α) ι κ (Point α)) (k : κ) (c : InnerConnection α) :
    Prop where
  conn : s.state.conns k = some c
  dropped : c.dropped = true
  inside : ∀ i p, s.inside k = some (i, p) → p = .interrupt ∨ (∃ q, p = .interrupting q) ∨ p = .left

/-- A step of another connection. -/
theorem conns_work {j : κ} {point point' : Point α} {w' : World κ α} (hj : k ≠ j)
    (h : w.work j point = some (point', w')) : w'.conns k = w.conns k := by
  have hset (c : InnerConnection α) (w : World κ α) : (w.setConn j c).conns k = w.conns k :=
    Function.update_of_ne hj _ _
  unfold World.work at h
  split at h
  · split at h <;> cases h <;> rfl
  · cases h
    unfold World.sqlite3Interrupt
    split <;> rfl
  · split at h
    · cases h
      rfl
    · split at h <;> cases h
      · exact hset _ _
      · rfl
  · cases h
    split
    · rfl
    · split
      · rfl
      · split <;> rfl
  · cases h
    exact hset _ _
  · cases h

/-- Its own handles do not change it. -/
theorem Gone.work {point point' : Point α} {w' : World κ α}
    (hp : point = .interrupt ∨ (∃ q, point = .interrupting q) ∨ point = .left)
    (h : w.work k point = some (point', w')) :
    w'.conns k = w.conns k ∧ ((∃ q, point' = .interrupting q) ∨ point' = .left) := by
  rcases hp with rfl | ⟨q, rfl⟩ | rfl
  · rcases hc : w.conns k with _ | c
    · simp only [World.work, hc] at h
      cases h
    · simp only [World.work, hc] at h
      split at h <;> cases h
      · exact ⟨hc, .inl ⟨_, rfl⟩⟩
      · exact ⟨hc, .inr rfl⟩
  · cases h
    refine ⟨?_, .inr rfl⟩
    unfold World.sqlite3Interrupt
    split <;> rfl
  · cases h

theorem Gone.outside {a : Outside κ α} {w' : World κ α} (hc : w.conns k = some c)
    (hdropped : c.dropped = true) (h : w.outside a = some w') : w'.conns k = some c := by
  have hset {j : κ} (hj : w.conns j ≠ some c) (c' : InnerConnection α) (w₁ : World κ α)
      (hw₁ : w₁.conns = w.conns) : (w₁.setConn j c').conns k = some c := by
    have hne : k ≠ j := fun heq => hj (heq ▸ hc)
    rw [← hc, ← hw₁]
    exact Function.update_of_ne hne _ _
  cases a with
  | openDb j p | fromHandle j p =>
    simp only [World.outside] at h
    split at h <;> cases h
    rename_i hnone _
    have hj : w.conns j ≠ some c := by
      rw [hnone]
      exact (Option.some_ne_none c).symm
    exact hset hj _ _ rfl
  | drop j =>
    simp only [World.outside] at h
    split at h
    · rename_i c' hc'
      split at h <;> cases h
      rename_i hguard
      refine hset (fun heq => ?_) _ _ rfl
      rw [hc'] at heq
      cases heq
      simp [hdropped] at hguard
    · cases h
  | hostOpen p =>
    simp only [World.outside] at h
    split at h <;> cases h
    exact hc
  | hostClose p =>
    simp only [World.outside] at h
    split at h
    · split at h <;> cases h
      exact hc
    · cases h
  | unfinished p n | start p =>
    obtain ⟨d, _, rfl⟩ := Option.map_eq_some_iff.mp h
    exact hc

/-- **It stays gone.** -/
theorem Gone.step {s s' : Sections.State (World κ α) ι κ (Point α)}
    {a : Sections.Act ι κ (Point α) (Outside κ α)} (h : Gone s k c)
    (hstep : (sections κ α).step s a = some s') : Gone s' k c := by
  obtain ⟨hconn, hdropped, hinside⟩ := h
  rcases (sections κ α).step_cases hstep with ⟨i, j, p, _, hnone, hstarts, rfl⟩ |
    ⟨j, i, p, p', state, _, hin, hwork, rfl⟩ | ⟨j, i, p, _, hin, _, rfl⟩ | ⟨b, state, _, hout, rfl⟩
  · refine ⟨hconn, hdropped, fun i' p' hp' => ?_⟩
    by_cases hj : k = j
    · subst hj
      simp only [Function.update_self] at hp'
      cases hp'
      have hopen : World.starts k p s.state = true := hstarts
      unfold World.starts at hopen
      split at hopen
      · exact .inl rfl
      · rename_i c' hc' _
        rw [hconn] at hc'
        cases hc'
        simp [hdropped] at hopen
      · cases hopen
    · simp only [Function.update_of_ne hj] at hp'
      exact hinside i' p' hp'
  · by_cases hj : k = j
    · subst hj
      obtain ⟨hconns, hp'⟩ := Gone.work (hinside i p hin) hwork
      refine ⟨hconns.trans hconn, hdropped, fun i' q hq => ?_⟩
      simp only [Function.update_self] at hq
      cases hq
      exact .inr hp'
    · refine ⟨(conns_work hj hwork).trans hconn, hdropped, fun i' q hq => ?_⟩
      simp only [Function.update_of_ne hj] at hq
      exact hinside i' q hq
  · refine ⟨hconn, hdropped, fun i' q hq => ?_⟩
    by_cases hj : k = j
    · subst hj
      simp only [Function.update_self] at hq
      cases hq
    · simp only [Function.update_of_ne hj] at hq
      exact hinside i' q hq
  · exact ⟨Gone.outside hconn hdropped hout, hdropped, hinside⟩

/-- What it points to does not depend on where its handles are. -/
theorem Gone.own {s : Sections.State (World κ α) ι κ (Point α)} (h : Gone s k c) (hs : Reached s)
    (howned : c.owned = true) : (view k s.state).Own c := by
  have hfree : (view k s.state).Free := by
    rcases hin : s.inside k with _ | ⟨i, p⟩
    · exact (hs.holds.1 k).1 hin
    · have hat := (hs.holds.1 k).2 i p hin
      rcases h.inside i p hin with rfl | ⟨q, rfl⟩ | rfl
      · exact hat.1
      · exact hat.1
      · exact hat
  exact hfree.own c h.conn howned

/-- **The finaliser of a connection succeeds exactly when none of its statements and backups is
    unfinished.** Then its database is closed; else it stays open whatever anybody does
    afterwards. -/
theorem finalize_closes_iff {s : Sections.State (World κ α) ι κ (Point α)} (hs : Reached s) (i : ι)
    (hin : s.inside k = none) (hc : s.state.conns k = some c) (howned : c.owned = true)
    (hdropped : c.dropped = false) (hdb : c.db = some p) :
    ∃ d, s.state.heap p = some d ∧
      ((Connection.finalize k s.state).1 = .ok () ↔ d.unfinished = 0) ∧
      ∀ h s', Run (sections κ α).step ⟨(Connection.finalize k s.state).2, s.inside⟩ h s' →
        ((∃ q d', s'.state.heap q = some d' ∧ d'.owner = some k) ↔ d.unfinished ≠ 0) := by
  obtain ⟨hlock, howns, _, _, _⟩ := ((hs.holds.1 k).1 hin).own c hc howned
  obtain ⟨d, hheap, hown⟩ := (howns p).mp hdb
  have hopened : Opened s.state k p d := by
    refine ⟨?_, hheap, hown⟩
    obtain ⟨db, owned, interruptLock, dropped⟩ := c
    dsimp only at hlock howned hdropped hdb
    subst hlock howned hdropped hdb
    exact hc
  have hfinalize := finalize_eq hopened
  refine ⟨d, hheap, ?_, fun h s' hr => ?_⟩
  · rw [hfinalize]
    split
    · exact iff_of_true rfl ‹_›
    · refine iff_of_false (fun hok => ?_) ‹_›
      cases hok
  · -- the rest of the run goes on from a state that was reached, and the connection stays gone
    obtain ⟨acts, hacts⟩ := finalize_run hopened hin i
    obtain ⟨h₀, hr₀⟩ := hs
    obtain ⟨h₁, hr₁⟩ := Run.of_foldlM hacts hr₀
    have hreached : Reached s' := ⟨_, hr₁.append hr⟩
    have hgone : Gone ⟨(Connection.finalize k s.state).2, s.inside⟩ k
        (if d.unfinished = 0 then ⟨none, true, none, true⟩ else ⟨some p, true, some p, true⟩) := by
      rw [hfinalize]
      split
      all_goals exact ⟨setConn_conns _, rfl, fun i' q hq => by rw [hin] at hq; cases hq⟩
    have hgone' := Run.invariant (C := fun _ => True) (I := fun _ s => Gone s k _) hgone
      (fun _ _ _ _ _ hs hstep _ => hs.step hstep) hr fun _ _ => trivial
    have hown' := (hgone'.own hreached (by split <;> rfl)).owns
    by_cases hbusy : d.unfinished = 0
    · simp only [if_pos hbusy] at hown'
      refine iff_of_false (fun hopen => ?_) (fun hne => hne hbusy)
      obtain ⟨q, d', hq⟩ := hopen
      cases (hown' q).mpr ⟨d', hq⟩
    · simp only [if_neg hbusy] at hown'
      exact iff_of_true ⟨p, (hown' p).mp rfl⟩ hbusy

/-- A connection with a statement that is not finalized. -/
theorem finalize_closes_iff_busy : ∃ s : Sections.State (World Unit Unit) Unit Unit (Point Unit),
    [.outside (.openDb () ()), .outside (.unfinished () 1)].foldlM (sections Unit Unit).step
        (Sections.initial World.empty) = some s ∧
      (Connection.finalize () s.state).1 ≠ .ok () := by
  have hacts : [.outside (.openDb () ()), .outside (.unfinished () 1)].foldlM
      (sections Unit Unit).step
      (Sections.initial World.empty : Sections.State _ Unit _ _) = some _ := rfl
  refine ⟨_, hacts, fun hok => ?_⟩
  obtain ⟨d, hd, hiff, _⟩ :=
    finalize_closes_iff (Reached.of_acts hacts) () (k := ()) rfl rfl rfl rfl rfl
  cases hd
  exact absurd (hiff.mp hok) (by decide)

end Finalize

end NodeRusqlite
