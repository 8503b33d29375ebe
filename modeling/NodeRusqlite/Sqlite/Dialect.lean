/-
  File:      NodeRusqlite/Sqlite/Dialect.lean
  Subject:   SQL texts over the transactions of Transactions.lean.

  A `Dialect` says what the first statement of a text is: a control statement,
  or a data statement with a program of its own that stays within `DataMove`.
  Of the control statements it has to read the texts the code sends, with any
  plain identifier for a name. With an oracle it makes an engine.

  * `Dialect.engine_moves`: whatever the text, its runs are `Move`s.
  * `small`: a dialect of one table that counts rows, to run examples on.
-/
import NodeRusqlite.Sqlite.Engine
import NodeRusqlite.Sqlite.Transactions

namespace NodeRusqlite.Sqlite

variable {δ : Type}

/-! ## 1. Texts of control statements -/

namespace Control

/-- The text the code sends for a control statement. -/
def text : Control → String
  | .begin .deferred => "BEGIN DEFERRED"
  | .begin .immediate => "BEGIN IMMEDIATE"
  | .begin .exclusive => "BEGIN EXCLUSIVE"
  | .commit => "COMMIT"
  | .rollback => "ROLLBACK"
  | .savepoint name => "SAVEPOINT " ++ name
  | .rollbackTo name => "ROLLBACK TO " ++ name
  | .release name => "RELEASE " ++ name

/-- `sqlite3_stmt_readonly`: a control statement that does not touch the file at once. -/
def readonly : Control → Bool
  | .begin .immediate => false
  | .begin .exclusive => false
  | _ => true

/-- The savepoint it names. -/
def name? : Control → Option String
  | .savepoint name => some name
  | .rollbackTo name => some name
  | .release name => some name
  | .begin _ | .commit | .rollback => none

end Control

/-- Letters, digits and underscores, no digit in front; not longer than a JavaScript string. -/
def isIdentifier (name : String) : Bool :=
  match name.toList with
  | [] => false
  | ch :: rest =>
    (ch.isAlpha || ch == '_') && rest.all (fun ch => ch.isAlphanum || ch == '_') &&
      decide (name.utf8ByteSize < 2 ^ 30)

theorem isIdentifier_size {name : String} (h : isIdentifier name = true) :
    name.utf8ByteSize < 2 ^ 30 := by
  unfold isIdentifier at h
  split at h
  · cases h
  · simp only [Bool.and_eq_true, decide_eq_true_eq] at h
    exact h.2

/-! ## 2. Statements and dialects -/

/-- A data statement: a program that changes the content or has the transaction rolled back. -/
structure DataProgram (δ : Type) where
  prog : Program (Conn δ)
  lawful : ∀ bindings c, ∀ c' ∈ (prog.run bindings c).states, DataMove c c'

/-- The first statement of a text. -/
inductive Sql (δ : Type) where
  | control (s : Control) : Sql δ
  | data (p : DataProgram δ) : Sql δ

/-- The compiled statement. -/
def Sql.program (o : Oracle δ) : Sql δ → Program (Conn δ)
  | .control s =>
    { paramCount := 0
      returnsColumns := false
      readonly := s.readonly
      run := fun _ c =>
        match exec o s c with
        | (none, c') => .done c'
        | (some f, c') => .error f c' }
  | .data p => p.prog

/-- How SQL texts read. -/
structure Dialect (δ : Type) where
  first : String → Option (Sql δ)
  tail : String → Option String
  refuse : String → Conn δ → Option (Failure × Option Nat)
  keyword : String → Bool
  changes : Conn δ → UInt64
  lastInsertRowid : Conn δ → Int64
  lengthLimit : Conn δ → Nat
  tail_lt : ∀ sql rest, tail sql = some rest → rest.utf8ByteSize < sql.utf8ByteSize
  reads : ∀ s : Control, (∀ name ∈ s.name?, isIdentifier name = true ∧ keyword name = false) →
    first s.text = some (.control s) ∧ tail s.text = none ∧ ∀ c, refuse s.text c = none
  keyword_sp : keyword "_rusqlite_sp" = false

namespace Dialect

/-- A plain identifier. -/
def Plain (D : Dialect δ) (name : String) : Prop :=
  isIdentifier name = true ∧ D.keyword name = false

theorem plain_sp (D : Dialect δ) : D.Plain "_rusqlite_sp" := ⟨by decide, D.keyword_sp⟩

/-- The engine of a dialect. -/
def engine (D : Dialect δ) (o : Oracle δ) : Engine (Conn δ) where
  compile sql _ := (D.first sql).map (Sql.program o)
  tail := D.tail
  refuse := D.refuse
  isAutocommit c := c.txn.isNone
  changes := D.changes
  lastInsertRowid := D.lastInsertRowid
  lengthLimit := D.lengthLimit
  tail_lt := D.tail_lt

/-- **Whatever the text, a run of its statement is a move.** -/
theorem engine_moves (D : Dialect δ) (o : Oracle δ) (sql : String) (c : Conn δ)
    (p : Program (Conn δ)) (hp : (D.engine o).compile sql c = some p) (bindings : List ValueRef) :
    ∀ c' ∈ (p.run bindings c).states, Move o c c' := by
  simp only [engine, Option.map_eq_some_iff] at hp
  obtain ⟨s, _, rfl⟩ := hp
  intro c' hc'
  cases s with
  | data p => exact .data (p.lawful bindings c c' hc')
  | control s =>
    have hmem : c' = (exec o s c).2 := by
      simp only [Sql.program] at hc'
      split at hc' <;> rename_i h <;> rw [h] <;> exact List.mem_singleton.mp hc'
    rw [hmem]
    exact .control s c

end Dialect

/-! ## 3. A small dialect -/

/-- What is left of a text after a given beginning. -/
def stripPrefix : List Char → List Char → Option (List Char)
  | [], text => some text
  | _ :: _, [] => none
  | a :: front, b :: text => if a = b then stripPrefix front text else none

theorem stripPrefix_append (front text : List Char) :
    stripPrefix front (front ++ text) = some text := by
  induction front with
  | nil => rfl
  | cons a front ih => simp only [List.cons_append, stripPrefix, if_true, ih]

/-- `INSERT INTO t VALUES (1)`, on a table given by its number of rows. -/
def insertOne : DataProgram Nat where
  prog :=
    { paramCount := 0
      returnsColumns := false
      readonly := false
      run := fun _ c => .done { c with content := c.content + 1, log := .data :: c.log } }
  lawful _ c c' h := by
    rw [List.mem_singleton.mp h]
    exact .content c (c.content + 1)

/-- The control statements as the code writes them; any other text is the `INSERT`. -/
def readSmall (text : List Char) : Sql Nat :=
  match stripPrefix "SAVEPOINT ".toList text, stripPrefix "ROLLBACK TO ".toList text,
    stripPrefix "RELEASE ".toList text with
  | some name, _, _ => .control (.savepoint (String.ofList name))
  | none, some name, _ => .control (.rollbackTo (String.ofList name))
  | none, none, some name => .control (.release (String.ofList name))
  | none, none, none =>
    if text = "BEGIN DEFERRED".toList then .control (.begin .deferred)
    else if text = "BEGIN IMMEDIATE".toList then .control (.begin .immediate)
    else if text = "BEGIN EXCLUSIVE".toList then .control (.begin .exclusive)
    else if text = "COMMIT".toList then .control .commit
    else if text = "ROLLBACK".toList then .control .rollback
    else .data insertOne

theorem readSmall_text (s : Control) : readSmall s.text.toList = .control s := by
  cases s with
  | begin kind => cases kind <;> rfl
  | commit => rfl
  | rollback => rfl
  | savepoint name =>
    have h : stripPrefix "SAVEPOINT ".toList ("SAVEPOINT ".toList ++ name.toList) =
        some name.toList := stripPrefix_append _ _
    simp only [Control.text, String.toList_append, readSmall, h, String.ofList_toList]
  | rollbackTo name =>
    have h : stripPrefix "ROLLBACK TO ".toList ("ROLLBACK TO ".toList ++ name.toList) =
        some name.toList := stripPrefix_append _ _
    have h₁ : stripPrefix "SAVEPOINT ".toList ("ROLLBACK TO ".toList ++ name.toList) = none := rfl
    simp only [Control.text, String.toList_append, readSmall, h, h₁, String.ofList_toList]
  | release name =>
    have h : stripPrefix "RELEASE ".toList ("RELEASE ".toList ++ name.toList) =
        some name.toList := stripPrefix_append _ _
    have h₁ : stripPrefix "SAVEPOINT ".toList ("RELEASE ".toList ++ name.toList) = none := rfl
    have h₂ : stripPrefix "ROLLBACK TO ".toList ("RELEASE ".toList ++ name.toList) = none := rfl
    simp only [Control.text, String.toList_append, readSmall, h, h₁, h₂, String.ofList_toList]

/-- A dialect of one statement a text. -/
def small : Dialect Nat where
  first sql := some (readSmall sql.toList)
  tail _ := none
  refuse _ _ := none
  keyword _ := false
  changes _ := 1
  lastInsertRowid c := Int64.ofNat c.content
  lengthLimit _ := 1000000000
  tail_lt := noTail_lt
  reads s _ := ⟨congrArg some (readSmall_text s), rfl, fun _ => rfl⟩
  keyword_sp := rfl

end NodeRusqlite.Sqlite
