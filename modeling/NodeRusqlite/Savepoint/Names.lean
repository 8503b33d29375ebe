/-
  File:      NodeRusqlite/Savepoint/Names.lean
  Subject:   What the name of a savepoint is to SQLite.

  The name is written as it is into `SAVEPOINT name`, `ROLLBACK TO name` and
  `RELEASE name`, and each of these texts is run statement by statement. A name
  that holds more than one bare word is then SQL: `a; DELETE FROM t` deletes.

  * `SavepointTexts`: what SQLite makes of the three texts.
  * `call_after_first`: the first statement of the SAVEPOINT text is run, whatever
    comes after it.
  * **`name_is_data_iff`**: the name is data exactly when the SAVEPOINT text is
    rejected or the name reads as itself.
-/
import NodeRusqlite.Savepoint.Nested

namespace NodeRusqlite

open Basis (Outcome)
open Relation (ReflTransGen)
open Sqlite

variable {δ : Type}

/-! ## 1. What SQLite makes of a name -/

namespace Sqlite

/-- `SAVEPOINT name` begins with a SAVEPOINT of that very name. -/
def Dialect.ReadsAsItself (D : Dialect δ) (name : String) : Prop :=
  D.first (Control.savepoint name).text = some (.control (.savepoint name))

/-- A text `SAVEPOINT ..` that compiles begins with some SAVEPOINT. A name that reads as itself is
    one bare word: nothing is left of the text after it, and ROLLBACK TO and RELEASE do not
    compile with it, or mean what they say. -/
structure SavepointTexts (D : Dialect δ) : Prop where
  savepoint : ∀ name c, D.refuse (Control.savepoint name).text c = none →
    ∃ x, D.first (Control.savepoint name).text = some (.control (.savepoint x))
  alone : ∀ name, D.ReadsAsItself name → D.tail (Control.savepoint name).text = none
  ends : ∀ name, D.ReadsAsItself name → ∀ s, s = .rollbackTo name ∨ s = .release name →
    ∀ c, D.refuse s.text c = none → D.first s.text = some (.control s) ∧ D.tail s.text = none

/-- The text `SAVEPOINT name` is too long, or it does not compile, or its SAVEPOINT fails and
    changes nothing. -/
def Rejects (D : Dialect δ) (o : Oracle δ) (name : String) (c : Conn δ) : Prop :=
  (2 ^ 31 ≤ (Control.savepoint name).text.utf8ByteSize ∨
      D.refuse (Control.savepoint name).text c ≠ none) ∨
    ∃ x f, D.first (Control.savepoint name).text = some (.control (.savepoint x)) ∧
      effect o (.savepoint x) c = (some f, c)

/-- A step that ends the savepoint, or goes back to it. -/
def Ends (o : Oracle δ) (name : String) (c c' : Conn δ) : Prop :=
  c' = (exec o (.rollbackTo name) c).2 ∨ c' = (exec o (.release name) c).2

/-- Since `c`, no statement has succeeded. -/
def NothingDone (c c' : Conn δ) : Prop :=
  ∃ entries, c'.log = entries ++ c.log ∧ ∀ e ∈ entries, ∃ s, e = .control s false

theorem Ends.move {o : Oracle δ} {name : String} {c c' : Conn δ} (h : Ends o name c c') :
    Move o c c' := by
  rcases h with rfl | rfl
  · exact .control _ c
  · exact .control _ c

end Sqlite

/-- A call treats its name as data: it raises an error without its callback, having changed and
    executed nothing; or it executes SAVEPOINT with that name and calls the callback, and then only
    ROLLBACK TO and RELEASE with that name. -/
def NameIsData (D : Dialect δ) (o : Oracle δ) (site : CallSite) (c : Conn δ) : Prop :=
  (∃ e c', (∀ callback, site.savepoint (D.engine o) callback c = (.err e, c')) ∧
      c.SameState c' ∧ NothingDone c c') ∨
    ((exec o (.savepoint site.name) c).1 = none ∧
      ∀ callback, ReflTransGen (Ends o site.name)
        (callback (exec o (.savepoint site.name) c).2).2
        (site.savepoint (D.engine o) callback c).2)

/-! ## 2. The calls -/

section Calls

variable {D : Dialect δ} {o : Oracle δ} {site : CallSite} {c c₁ : Conn δ}

/-- If the SAVEPOINT text fails, the callback is not called. -/
theorem call_of_error {e : Rusqlite.Error}
    (h : Rusqlite.Connection.executeBatch (D.engine o) (Control.savepoint site.name).text c =
      (.error e, c₁)) (callback : Conn δ → Outcome NapiError Unit × Conn δ) :
    site.savepoint (D.engine o) callback c = (.err (NapiError.ofRusqlite e), c₁) := by
  rw [site.savepoint_eq, withSavepoint, Rusqlite.Savepoint.withName]
  rw [Control.text] at h
  rw [h]

/-- If it goes through, the callback is called, and then the savepoint is ended. -/
theorem call_of_ok {R : Conn δ → Conn δ → Prop}
    (h : Rusqlite.Connection.executeBatch (D.engine o) (Control.savepoint site.name).text c =
      (.ok (), c₁))
    (hends : Rusqlite.Savepoint.EndsAlong (D.engine o) R site.name)
    (callback : Conn δ → Outcome NapiError Unit × Conn δ) :
    ReflTransGen R (callback c₁).2 (site.savepoint (D.engine o) callback c).2 := by
  have hbegin : Rusqlite.Savepoint.withName (D.engine o) site.name c =
      (.ok ⟨site.name, .rollback, false⟩, c₁) := by
    rw [Control.text] at h
    rw [Rusqlite.Savepoint.withName, h]
  rw [site.savepoint_eq]
  exact withSavepoint_after callback hbegin hends

/-- **Whatever comes after it in the text, the first statement is run.** -/
theorem call_after_first {x : String}
    (hlt : (Control.savepoint site.name).text.utf8ByteSize < 2 ^ 31)
    (hrefuse : D.refuse (Control.savepoint site.name).text c = none)
    (hfirst : D.first (Control.savepoint site.name).text = some (.control (.savepoint x))) :
    ReflTransGen (Move o) (exec o (.savepoint x) c).2
      (site.savepoint (D.engine o) (fun c => (.ok (), c)) c).2 := by
  have hbatch : ReflTransGen (Move o) (exec o (.savepoint x) c).2
      (Rusqlite.Connection.executeBatch (D.engine o) (Control.savepoint site.name).text c).2 := by
    rw [Rusqlite.executeBatch_first hlt hrefuse hfirst]
    cases D.tail (Control.savepoint site.name).text with
    | none => exact .refl
    | some rest =>
      cases (exec o (.savepoint x) c).1 with
      | none => exact Rusqlite.executeBatch_moves rest _
      | some f => exact .refl
  rcases hb : Rusqlite.Connection.executeBatch (D.engine o) (Control.savepoint site.name).text c
    with ⟨e | u, c₂⟩
  all_goals rw [hb] at hbatch
  · rw [call_of_error hb]
    exact hbatch
  · exact hbatch.trans
      (call_of_ok hb (Rusqlite.Savepoint.endsAlong_move site.name) fun c => (.ok (), c))

/-- A SAVEPOINT that fails is the end of the call. -/
theorem call_of_failed {x : String} {f : Failure}
    (hlt : (Control.savepoint site.name).text.utf8ByteSize < 2 ^ 31)
    (hrefuse : D.refuse (Control.savepoint site.name).text c = none)
    (hfirst : D.first (Control.savepoint site.name).text = some (.control (.savepoint x)))
    (hf : (exec o (.savepoint x) c).1 = some f)
    (callback : Conn δ → Outcome NapiError Unit × Conn δ) :
    site.savepoint (D.engine o) callback c =
      (.err (NapiError.ofRusqlite (.sqliteFailure f)), (exec o (.savepoint x) c).2) := by
  refine call_of_error ?_ callback
  rw [Rusqlite.executeBatch_first hlt hrefuse hfirst, hf]
  cases D.tail (Control.savepoint site.name).text with
  | none => rfl
  | some rest => rfl

end Calls

/-! ## 3. Which names are data -/

section Names

variable {D : Dialect δ} {o : Oracle δ} {c : Conn δ}

/-- The texts that end a savepoint run what they say, if its name reads as itself. -/
theorem endsAlong_of_reads (hD : SavepointTexts D) {name : String} (hn : D.ReadsAsItself name) :
    Rusqlite.Savepoint.EndsAlong (D.engine o) (Ends o name) name := by
  have hrun (s : Control) (hs : s = .rollbackTo name ∨ s = .release name) (c : Conn δ) :
      ReflTransGen (Ends o name) c (Rusqlite.Connection.executeBatch (D.engine o) s.text c).2 := by
    by_cases hbad : 2 ^ 31 ≤ s.text.utf8ByteSize ∨ D.refuse s.text c ≠ none
    · obtain ⟨e, he⟩ := Rusqlite.executeBatch_refused (o := o) hbad
      rw [he]
    · rw [not_or, Nat.not_le, not_not] at hbad
      obtain ⟨hfirst, htail⟩ := hD.ends name hn s hs c hbad.2
      rw [Rusqlite.executeBatch_first hbad.1 hbad.2 hfirst, htail]
      rcases hs with rfl | rfl
      · exact .single (.inl rfl)
      · exact .single (.inr rfl)
  exact ⟨hrun (.rollbackTo name) (.inl rfl), hrun (.release name) (.inr rfl)⟩

/-- A text that is rejected is an error, and nothing is done. -/
theorem call_of_rejects {site : CallSite} (h : Rejects D o site.name c) :
    ∃ e c', (∀ callback, site.savepoint (D.engine o) callback c = (.err e, c')) ∧
      c.SameState c' ∧ NothingDone c c' := by
  by_cases hbad : 2 ^ 31 ≤ (Control.savepoint site.name).text.utf8ByteSize ∨
      D.refuse (Control.savepoint site.name).text c ≠ none
  · obtain ⟨e, he⟩ := Rusqlite.executeBatch_refused (o := o) hbad
    exact ⟨_, c, call_of_error he, ⟨rfl, rfl, rfl⟩, [], rfl, nofun⟩
  · obtain ⟨x, f, hfirst, heff⟩ := h.resolve_left hbad
    rw [not_or, Nat.not_le, not_not] at hbad
    have hf : (exec o (.savepoint x) c).1 = some f := by rw [exec_fst, heff]
    have hlog := exec_log o (.savepoint x) c
    rw [hf] at hlog
    refine ⟨_, _, call_of_failed hbad.1 hbad.2 hfirst hf, ⟨?_, ?_, ?_⟩, [_], hlog, ?_⟩
    · rw [exec_content, heff]
    · rw [exec_txn, heff]
    · rw [exec_begun, heff]
    · intro e he
      exact ⟨_, List.mem_singleton.mp he⟩

/-- A statement that fails and keeps the state has no effect. -/
theorem effect_of_sameState {s : Control} {f : Failure} (hf : (exec o s c).1 = some f)
    (hstate : c.SameState (exec o s c).2) : effect o s c = (some f, c) := by
  have hlog := effect_log o s c
  obtain ⟨hcontent, htxn, hbegun⟩ := hstate
  rw [exec_fst] at hf
  rw [exec_content] at hcontent
  rw [exec_txn] at htxn
  rw [exec_begun] at hbegun
  rcases heff : effect o s c with ⟨res, c'⟩
  rw [heff] at hf hcontent htxn hbegun hlog
  cases hf
  cases c
  cases c'
  cases hcontent
  cases htxn
  cases hbegun
  cases hlog
  rfl

/-- A list that ends in `a :: l` and is `front ++ l` has `a` in front. -/
theorem mem_of_cons_suffix {α : Type} {a : α} {l front : List α} (h : a :: l <:+ front ++ l) :
    a ∈ front := by
  obtain ⟨t, ht⟩ := h
  have hfront : t ++ [a] = front := by
    apply List.append_cancel_right
    rw [← ht, List.append_assoc, List.singleton_append]
  rw [← hfront]
  exact List.mem_append_right t List.mem_cons_self

/-- A call that fails with nothing done is one whose SAVEPOINT failed and changed nothing. -/
theorem rejects_of_failed {site : CallSite} {x : String} {e : NapiError} {c' : Conn δ}
    (hlt : (Control.savepoint site.name).text.utf8ByteSize < 2 ^ 31)
    (hrefuse : D.refuse (Control.savepoint site.name).text c = none)
    (hfirst : D.first (Control.savepoint site.name).text = some (.control (.savepoint x)))
    (hcall : ∀ callback, site.savepoint (D.engine o) callback c = (.err e, c'))
    (hstate : c.SameState c') (hnothing : NothingDone c c') : Rejects D o site.name c := by
  obtain ⟨entries, hentries, hfailed⟩ := hnothing
  -- the log shows the first statement of the text, so it is a failed one
  have hlog := log_suffix_of_moves (call_after_first (o := o) (c := c) hlt hrefuse hfirst)
  rw [exec_log, hcall, hentries] at hlog
  obtain ⟨s, hs⟩ := hfailed _ (mem_of_cons_suffix hlog)
  injection hs with _ hnone
  obtain ⟨f, hf⟩ := Option.isSome_iff_exists.mp (Option.isNone_eq_false_iff.mp hnone)
  have hcalled := call_of_failed hlt hrefuse hfirst hf fun c => (.ok (), c)
  have hc' : (exec o (.savepoint x) c).2 = c' := congrArg Prod.snd (hcalled.symm.trans (hcall _))
  rw [← hc'] at hstate
  exact .inr ⟨x, f, hfirst, effect_of_sameState hf hstate⟩

/-- A call that keeps to a savepoint of its name is one whose text begins with that SAVEPOINT. -/
theorem reads_of_ends {site : CallSite} {x : String}
    (hlt : (Control.savepoint site.name).text.utf8ByteSize < 2 ^ 31)
    (hrefuse : D.refuse (Control.savepoint site.name).text c = none)
    (hfirst : D.first (Control.savepoint site.name).text = some (.control (.savepoint x)))
    (hends : ReflTransGen (Ends o site.name) (exec o (.savepoint site.name) c).2
      (site.savepoint (D.engine o) (fun c => (.ok (), c)) c).2) :
    D.ReadsAsItself site.name := by
  have hlog := log_suffix_of_moves (call_after_first (o := o) (c := c) hlt hrefuse hfirst)
  have hlog' := log_suffix_of_moves (ReflTransGen.mono (fun _ _ => Ends.move) _ _ hends)
  rw [exec_log] at hlog hlog'
  -- both entries stand in one log, right after the entries of before
  have hle := List.suffix_of_suffix_length_le hlog hlog' (by rfl)
  have hentry := hle.eq_of_length (by rfl)
  injection hentry with hentry
  injection hentry with hname
  injection hname with hname
  rw [hname] at hfirst
  exact hfirst

/-- **A name is data exactly when its SAVEPOINT text is rejected, or the name reads as itself**
    and SQLite does not roll back on its own. -/
theorem name_is_data_iff (hD : SavepointTexts D) (site : CallSite) (c : Conn δ) :
    NameIsData D o site c ↔ Rejects D o site.name c ∨
      (D.ReadsAsItself site.name ∧ (exec o (.savepoint site.name) c).1 = none) := by
  by_cases hrej : Rejects D o site.name c
  · exact iff_of_true (.inl (call_of_rejects hrej)) (.inl hrej)
  have hgood := fun h => hrej (.inl h)
  rw [imp_false, not_or, Nat.not_le, not_not] at hgood
  obtain ⟨hlt, hrefuse⟩ := hgood
  obtain ⟨x, hfirst⟩ := hD.savepoint site.name c hrefuse
  constructor
  · rintro (⟨e, c', hcall, hstate, hnothing⟩ | ⟨hok, hends⟩)
    · exact .inl (rejects_of_failed hlt hrefuse hfirst hcall hstate hnothing)
    · exact .inr ⟨reads_of_ends hlt hrefuse hfirst (hends fun c => (.ok (), c)), hok⟩
  · rintro (h | ⟨hn, hok⟩)
    · exact absurd h hrej
    · refine .inr ⟨hok, fun callback => ?_⟩
      refine call_of_ok ?_ (endsAlong_of_reads hD hn) callback
      rw [Rusqlite.executeBatch_first hlt hrefuse hn, hok, hD.alone site.name hn]
      rfl

end Names

/-! ## 4. A dialect of several statements -/

namespace Sqlite

/-- A text up to its first semicolon. -/
def statement (text : List Char) : List Char := text.takeWhile (· != ';')

/-- The text after it. -/
def afterStatement (text : List Char) : List Char := (text.dropWhile (· != ';')).drop 1

theorem statement_of_not_mem {text : List Char} (h : ';' ∉ text) :
    statement text = text ∧ afterStatement text = [] := by
  have hall : ∀ ch ∈ text, (ch != ';') = true := by
    intro ch hch
    rw [bne_iff_ne]
    rintro rfl
    exact h hch
  constructor
  · exact List.takeWhile_eq_self_iff.mpr hall
  · rw [afterStatement, List.dropWhile_eq_nil_iff.mpr hall]
    rfl

theorem not_mem_of_statement {text : List Char} (h : statement text = text) : ';' ∉ text := by
  intro hmem
  have hch := List.takeWhile_eq_self_iff.mp h ';' hmem
  rw [bne_self_eq_false] at hch
  cases hch

theorem afterStatement_size {sql : String} (h : afterStatement sql.toList ≠ []) :
    (String.ofList (afterStatement sql.toList)).utf8ByteSize < sql.utf8ByteSize := by
  have hsplit := List.takeWhile_append_dropWhile (p := (· != ';')) (l := sql.toList)
  unfold afterStatement at h ⊢
  cases hd : sql.toList.dropWhile (· != ';') with
  | nil =>
    rw [hd] at h
    exact absurd rfl h
  | cons ch rest =>
    rw [hd] at hsplit
    have hsize := congrArg (fun text => (String.ofList text).utf8ByteSize) hsplit
    simp only [String.ofList_toList, String.ofList_append, String.ofList_cons,
      String.utf8ByteSize_append, String.utf8ByteSize_singleton] at hsize
    have hpos := ch.utf8Size_pos
    show (String.ofList rest).utf8ByteSize < _
    omega

theorem not_mem_of_isIdentifier {name : String} (h : isIdentifier name = true) :
    ';' ∉ name.toList := by
  unfold isIdentifier at h
  intro hmem
  split at h
  · cases h
  · rename_i ch rest hname
    simp only [Bool.and_eq_true, List.all_eq_true] at h
    rw [hname] at hmem
    rcases List.mem_cons.mp hmem with rfl | hrest
    · exact absurd h.1.1 (by decide)
    · exact absurd (h.1.2 _ hrest) (by decide)

/-- The text of a control statement has a semicolon only in its name. -/
theorem not_mem_text {s : Control} (h : ∀ name ∈ s.name?, ';' ∉ name.toList) :
    ';' ∉ s.text.toList := by
  cases s with
  | begin kind => cases kind <;> decide
  | commit => decide
  | rollback => decide
  | savepoint name | rollbackTo name | release name =>
    simp only [Control.text, String.toList_append, List.mem_append, not_or]
    exact ⟨by decide, h name rfl⟩

theorem readSmall_statement {s : Control} (h : ∀ name ∈ s.name?, ';' ∉ name.toList) :
    readSmall (statement s.text.toList) = .control s := by
  rw [(statement_of_not_mem (not_mem_text h)).1, readSmall_text]

/-- The small dialect, for several statements a text. -/
def several : Dialect Nat where
  first sql := some (readSmall (statement sql.toList))
  tail sql :=
    if afterStatement sql.toList = [] then none
    else some (String.ofList (afterStatement sql.toList))
  refuse _ _ := none
  keyword _ := false
  changes _ := 1
  lastInsertRowid c := Int64.ofNat c.content
  lengthLimit _ := 1000000000
  tail_lt sql rest h := by
    split at h
    · cases h
    · rename_i hne
      cases h
      exact afterStatement_size hne
  reads s hs := by
    have h : ∀ name ∈ s.name?, ';' ∉ name.toList := fun name hname =>
      not_mem_of_isIdentifier (hs name hname).1
    refine ⟨congrArg some (readSmall_statement h), ?_, fun _ => rfl⟩
    exact if_pos (statement_of_not_mem (not_mem_text h)).2
  keyword_sp := rfl

/-- A name reads up to its first semicolon. -/
theorem several_first (name : String) : several.first (Control.savepoint name).text =
    some (.control (.savepoint (String.ofList (statement name.toList)))) := by
  have hfront : ∀ ch ∈ "SAVEPOINT ".toList, (ch != ';') = true := List.all_eq_true.mp rfl
  show some (readSmall (statement ("SAVEPOINT " ++ name).toList)) = _
  rw [String.toList_append, statement, List.takeWhile_append_of_pos hfront]
  have hname : (String.ofList (statement name.toList)).toList = statement name.toList :=
    String.toList_ofList
  have h := readSmall_text (.savepoint (String.ofList (statement name.toList)))
  rw [Control.text, String.toList_append, hname] at h
  exact congrArg some h

theorem several_reads_iff (name : String) :
    several.ReadsAsItself name ↔ ';' ∉ name.toList := by
  rw [Dialect.ReadsAsItself, several_first]
  refine ⟨fun h => ?_, fun h => ?_⟩
  · injection h with h
    injection h with h
    injection h with h
    refine not_mem_of_statement ?_
    rw [← String.toList_inj, String.toList_ofList] at h
    exact h
  · rw [(statement_of_not_mem h).1, String.ofList_toList]

theorem several_texts : SavepointTexts several where
  savepoint name _ _ := ⟨_, several_first name⟩
  alone name hn := by
    have h : ∀ n ∈ (Control.savepoint name).name?, ';' ∉ n.toList :=
      fun _ hname => Option.some.inj hname ▸ (several_reads_iff name).mp hn
    exact if_pos (statement_of_not_mem (not_mem_text h)).2
  ends name hn s hs c _ := by
    have h : ∀ n ∈ s.name?, ';' ∉ n.toList := by
      rcases hs with rfl | rfl <;>
        exact fun _ hname => Option.some.inj hname ▸ (several_reads_iff name).mp hn
    exact ⟨congrArg some (readSmall_statement h), if_pos (statement_of_not_mem (not_mem_text h)).2⟩

end Sqlite

/-- An oracle that accepts every statement. -/
def acceptEach : Oracle Nat := fun _ _ => .accepted

/-- A bare word is data. -/
theorem name_is_data_of_word : SavepointTexts several ∧
    NameIsData several acceptEach (.connection (some "sp")) (Conn.fresh 0) := by
  have hword : several.ReadsAsItself "sp" := (several_reads_iff "sp").mpr (by decide)
  exact ⟨several_texts, (name_is_data_iff several_texts (.connection (some "sp"))
    (Conn.fresh 0)).mpr (.inr ⟨hword, rfl⟩)⟩

theorem executeBatch_insert (c : Conn Nat) :
    Rusqlite.Connection.executeBatch (several.engine acceptEach) "INSERT INTO t VALUES (1)" c =
      (.ok (), changed (· + 1) c) := by
  rw [Rusqlite.Connection.executeBatch_eq]
  rfl

/-- Where the callback is called, if the name is `a;INSERT INTO t VALUES (1)`. -/
def afterInsert : Conn Nat := changed (· + 1) (exec acceptEach (.savepoint "a") (Conn.fresh 0)).2

/-- A name with a semicolon in it: the text after it is run, when the savepoint begins and again
    when it ends. -/
theorem name_is_sql :
    (Connection.savepointWithName (several.engine acceptEach) "a;INSERT INTO t VALUES (1)"
        (fun c => (.ok (), c)) (Conn.fresh 0)).2.log =
      [.data, .control (.release "a") true, .data, .control (.savepoint "a") true] ∧
    ¬ NameIsData several acceptEach (.connection (some "a;INSERT INTO t VALUES (1)"))
      (Conn.fresh 0) := by
  have hbegin : Rusqlite.Connection.executeBatch (several.engine acceptEach)
      (Control.savepoint "a;INSERT INTO t VALUES (1)").text (Conn.fresh 0) =
        (.ok (), afterInsert) := by
    rw [Rusqlite.executeBatch_first (by decide) rfl (several_first _), afterInsert,
      ← executeBatch_insert]
    rfl
  have hend : Rusqlite.Connection.executeBatch (several.engine acceptEach)
      (Control.release "a;INSERT INTO t VALUES (1)").text afterInsert =
        (.ok (), changed (· + 1) (exec acceptEach (.release "a") afterInsert).2) := by
    have hfirst : several.first (Control.release "a;INSERT INTO t VALUES (1)").text =
        some (.control (.release "a")) := by rfl
    rw [Rusqlite.executeBatch_first (by decide) rfl hfirst, ← executeBatch_insert]
    rfl
  have hcall : Connection.savepointWithName (several.engine acceptEach)
      "a;INSERT INTO t VALUES (1)" (fun c => (.ok (), c)) (Conn.fresh 0) =
        (.ok (), changed (· + 1) (exec acceptEach (.release "a") afterInsert).2) := by
    simp only [Control.text] at hbegin hend
    simp only [Connection.savepointWithName, withSavepoint, Rusqlite.Savepoint.withName, hbegin,
      Rusqlite.Savepoint.commit, Rusqlite.Savepoint.commit_, hend]
    rfl
  have hlog : (changed (· + 1) (exec acceptEach (.release "a") afterInsert).2).log =
      [.data, .control (.release "a") true, .data, .control (.savepoint "a") true] := by rfl
  refine ⟨by rw [hcall, hlog], ?_⟩
  rintro (⟨e, c', herr, _⟩ | ⟨_, hends⟩)
  · have hsame := hcall.symm.trans (herr fun c => (.ok (), c))
    cases hsame
  · have hmoves := ReflTransGen.mono (fun _ _ => Ends.move) _ _ (hends fun c => (.ok (), c))
    have hsuffix := log_suffix_of_moves hmoves
    have hfinal : (CallSite.savepoint (several.engine acceptEach)
        (.connection (some "a;INSERT INTO t VALUES (1)")) (fun c => (.ok (), c))
          (Conn.fresh 0)).2.log = _ := (congrArg (fun r => r.2.log) hcall).trans hlog
    rw [hfinal, exec_log] at hsuffix
    exact absurd hsuffix (by decide)

end NodeRusqlite
