/-
  File:      NodeRusqlite/Row/Views.lean
  Subject:   The three views of a result set: `toJSON()`, `get(i)` and the iterators of
             `iterate()`.

  An iterator is a cursor over the vector it borrows. A machine of one result
  set with all its iterators makes their calls in any order.

  * `RowIterator.next_spec`, `Rows.get_eq`: one call.
  * `Tracks`: the invariant: a cursor stands where the calls made of it have moved it.
  * **`views_agree`**: every call of every run answers with the rows of the one vector.
-/
import NodeRusqlite.Basis.Foreign
import NodeRusqlite.Basis.Runs
import NodeRusqlite.Row.Collect

namespace NodeRusqlite

open Basis (Along Event Run asUsize asUsize_toNat)

variable {J : Type}

/-! ## 1. The views -/

/-- `RowIterator`. -/
structure RowIterator where
  next : UInt64
  rows : List RowMap

namespace Rows

/-- `Rows::to_json`: `to_js_value` makes an array of the rows' objects. -/
def toJson (env : Env J) (self : Rows) : Except NapiError (List J) := self.rows.mapM env.toJsValue

/-- `Rows::iterate`. -/
def iterate (self : Rows) : RowIterator := ⟨0, self.rows⟩

/-- `Rows::get`. -/
def get (env : Env J) (index : Int64) (self : Rows) : Except NapiError (Option J) :=
  match self.rows[(asUsize index).toNat]? with
  | some row =>
    match env.toJsValue row with
    | .ok metadata => .ok (some metadata)
    | .error e => .error e
  | none => .ok none

end Rows

/-- `RowIterator::next`: the value it yields; `none`: it is done. -/
def RowIterator.next_ (env : Env J) (self : RowIterator) : Option J × RowIterator :=
  match self.rows[self.next.toNat]? with
  | none => (none, self)
  | some row => ((env.toJsValue row).toOption, { self with next := self.next + 1 })

/-! ## 2. One call -/

section Call

variable {env : Env J} {js : RowMap → J} {rows : List RowMap}

theorem toJsValue_getElem? (hjs : ∀ m ∈ rows, env.toJsValue m = .ok (js m)) {i : Nat}
    {m : RowMap} (hi : rows[i]? = some m) : env.toJsValue m = .ok (js m) :=
  hjs m (List.mem_of_getElem? hi)

theorem Rows.toJson_eq (hjs : ∀ m ∈ rows, env.toJsValue m = .ok (js m)) :
    (Rows.mk rows).toJson env = .ok (rows.map js) := by
  rw [Rows.toJson, Basis.mapM_eq_ok_iff, List.forall₂_map_right_iff, List.forall₂_same]
  exact hjs

/-- **A negative index is cast past the end of any vector.** -/
theorem Rows.get_eq (hjs : ∀ m ∈ rows, env.toJsValue m = .ok (js m))
    (hlen : rows.length < 2 ^ 63) (index : Int64) : (Rows.mk rows).get env index =
      .ok (if 0 ≤ index.toInt then (rows.map js)[index.toInt.toNat]? else none) := by
  have hcast := asUsize_toNat index
  have hlo := index.le_toInt
  have hhi := index.toInt_lt
  unfold Rows.get
  by_cases h : 0 ≤ index.toInt
  · have hidx : (asUsize index).toNat = index.toInt.toNat := by omega
    rw [if_pos h, hidx, List.getElem?_map]
    cases hm : rows[index.toInt.toNat]? with
    | none => rfl
    | some m => simp only [toJsValue_getElem? hjs hm, Option.map_some]
  · have hout : rows.length ≤ (asUsize index).toNat := by omega
    simp only [if_neg h, List.getElem?_eq_none hout]

/-- **One call of an iterator** moves its cursor by one, up to the end of the vector. -/
theorem RowIterator.next_spec (hjs : ∀ m ∈ rows, env.toJsValue m = .ok (js m))
    (hlen : rows.length < 2 ^ 63) {it : RowIterator} {k : Nat} (hrows : it.rows = rows)
    (hnext : it.next.toNat = min k rows.length) :
    (it.next_ env).1 = (rows.map js)[k]? ∧ (it.next_ env).2.rows = rows ∧
      (it.next_ env).2.next.toNat = min (k + 1) rows.length := by
  obtain ⟨next, itRows⟩ := it
  subst hrows
  unfold RowIterator.next_
  dsimp only at hjs hlen hnext ⊢
  rw [hnext, List.getElem?_map]
  rcases Nat.lt_or_ge k itRows.length with hk | hk
  · obtain ⟨m, hm⟩ : ∃ m, itRows[k]? = some m := ⟨_, List.getElem?_eq_getElem hk⟩
    rw [Nat.min_eq_left (Nat.le_of_lt hk), hm]
    refine ⟨congrArg Except.toOption (toJsValue_getElem? hjs hm), rfl, ?_⟩
    have hone : (next + 1).toNat = next.toNat + 1 := by
      rw [UInt64.toNat_add]
      show (next.toNat + 1) % 2 ^ 64 = _
      omega
    show (next + 1).toNat = _
    omega
  · -- the cursor stays at the end
    have hend : itRows[min k itRows.length]? = none := List.getElem?_eq_none (by omega)
    rw [hend, List.getElem?_eq_none hk]
    refine ⟨rfl, rfl, ?_⟩
    dsimp only
    omega

end Call

/-! ## 3. A result set with its iterators -/

/-- A result set and the iterators made of it, in order. A vector holds at most `isize::MAX`
    bytes. -/
structure ResultSet where
  rows : Rows
  short : rows.rows.length < 2 ^ 63
  iterators : List RowIterator

/-- The calls. -/
inductive ViewAct where
  | iterate : ViewAct
  | next (j : Nat) : ViewAct
  | get (index : Int64) : ViewAct
  | toJson : ViewAct
  deriving DecidableEq

/-- What a call gives JavaScript. -/
inductive ViewAnswer (J : Type) where
  | iterator : ViewAnswer J
  /-- The value an iterator yields; `none`: it is done. -/
  | next (value : Option J) : ViewAnswer J
  | row (value : Option J) : ViewAnswer J
  | list (values : List J) : ViewAnswer J
  | error (e : NapiError) : ViewAnswer J

/-- Make a call; an iterator can only be called once it was made. -/
def ViewAct.run (env : Env J) (s : ResultSet) : ViewAct → Option (ViewAnswer J × ResultSet)
  | .iterate => some (.iterator, { s with iterators := s.iterators ++ [s.rows.iterate] })
  | .next j =>
    match s.iterators[j]? with
    | some it =>
      let (value, it) := it.next_ env
      some (.next value, { s with iterators := s.iterators.set j it })
    | none => none
  | .get index =>
    match s.rows.get env index with
    | .ok value => some (.row value, s)
    | .error e => some (.error e, s)
  | .toJson =>
    match s.rows.toJson env with
    | .ok values => some (.list values, s)
    | .error e => some (.error e, s)

/-- The machine. -/
def ResultSet.step (env : Env J) (s : ResultSet) (a : ViewAct) : Option ResultSet :=
  (a.run env s).map Prod.snd

/-- What the call of an event answered. -/
def viewAnswer (env : Env J) (e : Event ResultSet ViewAct) : Option (ViewAnswer J) :=
  (e.act.run env e.before).map Prod.fst

/-- The calls iterator `j` got. -/
def nexts (j : Nat) (h : List (Event ResultSet ViewAct)) : Nat :=
  h.countP fun e => e.act = .next j

/-- The answer that `values` give to a call after the calls of `h`. -/
def ViewAct.expected (values : List J) (h : List (Event ResultSet ViewAct)) :
    ViewAct → ViewAnswer J
  | .iterate => .iterator
  | .next j => .next values[nexts j h]?
  | .get index => .row (if 0 ≤ index.toInt then values[index.toInt.toNat]? else none)
  | .toJson => .list values

/-- The invariant: every cursor stands where the calls made of it have moved it. -/
structure Tracks (rows : List RowMap) (h : List (Event ResultSet ViewAct)) (s : ResultSet) :
    Prop where
  same : s.rows.rows = rows
  cursor : ∀ (j : Nat) (it : RowIterator), s.iterators[j]? = some it →
    it.rows = rows ∧ it.next.toNat = min (nexts j h) rows.length
  unmade : ∀ j, s.iterators.length ≤ j → nexts j h = 0

theorem nexts_snoc (j : Nat) (h : List (Event ResultSet ViewAct)) (s s' : ResultSet)
    (a : ViewAct) : nexts j (h ++ [⟨s, a, s'⟩]) = nexts j h + if a = .next j then 1 else 0 := by
  rw [nexts, List.countP_append, List.countP_singleton, nexts]
  simp only [decide_eq_true_eq]

section Step

variable {env : Env J} {js : RowMap → J} {rows : List RowMap}
  {h : List (Event ResultSet ViewAct)} {s s' : ResultSet}

/-- A call that leaves the iterators alone. -/
theorem Tracks.same_iterators (hI : Tracks rows h s) {a : ViewAct} (ha : ∀ j, a ≠ .next j) :
    Tracks rows (h ++ [⟨s, a, s⟩]) s := by
  have hcount : ∀ j, nexts j (h ++ [⟨s, a, s⟩]) = nexts j h := by
    intro j
    rw [nexts_snoc, if_neg (ha j), Nat.add_zero]
  refine ⟨hI.same, fun j it hj => ?_, fun j hj => ?_⟩
  · rw [hcount]
    exact hI.cursor j it hj
  · rw [hcount]
    exact hI.unmade j hj

/-- A new iterator stands at the beginning, and was not called yet. -/
theorem Tracks.iterate (hI : Tracks rows h s) (hs : s' =
    { s with iterators := s.iterators ++ [s.rows.iterate] }) :
    Tracks rows (h ++ [⟨s, .iterate, s'⟩]) s' := by
  have hcount : ∀ j, nexts j (h ++ [⟨s, .iterate, s'⟩]) = nexts j h := by
    intro j
    rw [nexts_snoc, if_neg nofun, Nat.add_zero]
  subst hs
  refine ⟨hI.same, fun j it hj => ?_, fun j hj => ?_⟩
  · rw [hcount]
    rw [List.getElem?_append] at hj
    split at hj
    · exact hI.cursor j it hj
    · rename_i hnew
      rw [List.getElem?_singleton] at hj
      split at hj
      · cases hj
        rw [hI.unmade j (Nat.le_of_not_lt hnew), Nat.zero_min]
        exact ⟨hI.same, rfl⟩
      · cases hj
  · rw [hcount]
    rw [List.length_append] at hj
    exact hI.unmade j (Nat.le_of_add_right_le hj)

/-- The step of `next`. -/
theorem Tracks.next (hI : Tracks rows h s) (hjs : ∀ m ∈ rows, env.toJsValue m = .ok (js m))
    {j : Nat} {it : RowIterator} (hj : s.iterators[j]? = some it)
    (hs : s' = { s with iterators := s.iterators.set j (it.next_ env).2 }) :
    (it.next_ env).1 = (rows.map js)[nexts j h]? ∧ Tracks rows (h ++ [⟨s, .next j, s'⟩]) s' := by
  have hlen : rows.length < 2 ^ 63 := hI.same ▸ s.short
  obtain ⟨hrows, hnext⟩ := hI.cursor j it hj
  obtain ⟨hvalue, hrows', hnext'⟩ := RowIterator.next_spec hjs hlen hrows hnext
  have hlt : j < s.iterators.length := (List.getElem?_eq_some_iff.mp hj).1
  subst hs
  refine ⟨hvalue, hI.same, fun i it' hi => ?_, fun i hi => ?_⟩
  · rw [nexts_snoc]
    dsimp only at hi
    rw [List.getElem?_set] at hi
    by_cases hij : j = i
    · subst hij
      simp only [hlt, if_true, Option.some.injEq] at hi
      subst hi
      rw [if_pos rfl]
      exact ⟨hrows', hnext'⟩
    · have hne : ViewAct.next j ≠ .next i := fun heq => hij (ViewAct.next.inj heq)
      rw [if_neg hij] at hi
      rw [if_neg hne, Nat.add_zero]
      exact hI.cursor i it' hi
  · rw [List.length_set] at hi
    have hne : ViewAct.next j ≠ .next i := fun heq => by
      cases heq
      omega
    rw [nexts_snoc, if_neg hne, Nat.add_zero]
    exact hI.unmade i hi

/-- **The step lemma.** -/
theorem Tracks.step (hjs : ∀ m ∈ rows, env.toJsValue m = .ok (js m)) (hI : Tracks rows h s)
    {a : ViewAct} (hs : s.step env a = some s') :
    viewAnswer env ⟨s, a, s'⟩ = some (a.expected (rows.map js) h) ∧
      Tracks rows (h ++ [⟨s, a, s'⟩]) s' := by
  have hset : s.rows = ⟨rows⟩ := by rw [← hI.same]
  have hlen : rows.length < 2 ^ 63 := hI.same ▸ s.short
  unfold ResultSet.step at hs
  unfold viewAnswer
  cases a with
  | iterate =>
    cases hs
    exact ⟨rfl, hI.iterate rfl⟩
  | next j =>
    simp only [ViewAct.run] at hs ⊢
    cases hj : s.iterators[j]? with
    | none =>
      rw [hj] at hs
      cases hs
    | some it =>
      rw [hj] at hs
      cases hs
      obtain ⟨hvalue, hI'⟩ := hI.next hjs hj rfl
      exact ⟨congrArg (fun v => some (ViewAnswer.next v)) hvalue, hI'⟩
  | get index =>
    simp only [ViewAct.run, hset, Rows.get_eq hjs hlen] at hs ⊢
    cases hs
    exact ⟨rfl, hI.same_iterators nofun⟩
  | toJson =>
    simp only [ViewAct.run, hset, Rows.toJson_eq hjs] at hs ⊢
    cases hs
    exact ⟨rfl, hI.same_iterators nofun⟩

end Step

/-- **The views agree**: in every run the `k`-th call of an iterator gives row `k - 1` or says that
    it is done, `get` gives the row of its index, and `toJSON` all of them. -/
theorem views_agree (env : Env J) (js : RowMap → J) (rows : Rows)
    (short : rows.rows.length < 2 ^ 63)
    (hjs : ∀ m ∈ rows.rows, env.toJsValue m = .ok (js m))
    {h : List (Event ResultSet ViewAct)} {s : ResultSet}
    (hr : Run (ResultSet.step env) ⟨rows, short, []⟩ h s) :
    Along (fun h₁ e => viewAnswer env e = some (e.act.expected (rows.rows.map js) h₁)) h := by
  have h0 : Tracks rows.rows [] ⟨rows, short, []⟩ := ⟨rfl, nofun, fun _ _ => rfl⟩
  exact (Run.along_of_invariant
    (P := fun h₁ e => viewAnswer env e = some (e.act.expected (rows.rows.map js) h₁)) h0
    (fun _ _ _ _ hI hs => hI.step hjs hs) hr).1

theorem two_short (row row' : RowMap) : (Rows.mk [row, row']).rows.length < 2 ^ 63 := by
  show 2 < 2 ^ 63
  decide

/-- Two rows, and two iterators in turns: each has a cursor of its own. -/
theorem views_agree_two_rows :
    let one : RowMap := Finmap.singleton "n" (.integer 1)
    let two : RowMap := Finmap.singleton "n" (.integer 2)
    ∃ h s, Run (ResultSet.step plainRows) ⟨⟨[one, two]⟩, two_short one two, []⟩ h s ∧
      h.map Event.act = [.iterate, .next 0, .iterate, .next 1, .next 0, .next 0, .next 1,
        .get 1, .get (-1)] ∧
      h.map (viewAnswer plainRows) = [some .iterator, some (.next (some one)), some .iterator,
        some (.next (some one)), some (.next (some two)), some (.next none),
        some (.next (some two)), some (.row (some two)), some (.row none)] ∧
      one ≠ two ∧
      Along (fun h₁ e => viewAnswer plainRows e = some (e.act.expected [one, two] h₁)) h := by
  intro one two
  have hstart : Run (ResultSet.step plainRows) ⟨⟨[one, two]⟩, two_short one two, []⟩ [] _ := .start
  have hrun := ((((((((hstart.next (a := .iterate) rfl).next (a := .next 0) rfl).next
    (a := .iterate) rfl).next (a := .next 1) rfl).next (a := .next 0) rfl).next
    (a := .next 0) rfl).next (a := .next 1) rfl).next (a := .get 1) rfl).next
    (a := .get (-1)) rfl
  exact ⟨_, _, hrun, rfl, rfl, by decide, views_agree plainRows id ⟨[one, two]⟩
    (two_short one two) (fun _ _ => rfl) hrun⟩

end NodeRusqlite
