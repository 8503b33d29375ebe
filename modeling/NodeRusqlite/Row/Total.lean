/-
  File:      NodeRusqlite/Row/Total.lean
  Subject:   Which rows `parse_rows` and `Rows::new` survive.

  A converter panics on the first TEXT it fetches that is not UTF-8. As it
  fetches by name, the only columns it ever reads are the first of each name
  (ignoring ASCII case). `Rows::new` panics before that on a declared type that
  is not UTF-8.

  * `parseRows_returns_iff`, `rowMap_returns_iff`: one row.
  * **`row_conversion_returns_iff`**: `parse_rows` on a row, `Rows::new` on a cursor.
-/
import NodeRusqlite.Row.Collect

namespace NodeRusqlite

open Basis (Outcome firstMatch firstMatch_eq_some_iff sameName sameName_comm sameName_refl
  sameName_trans)
open Sqlite

variable {κ : Type}

/-! ## 1. One value -/

/-- **Converting a value panics exactly on broken TEXT.** -/
theorem Value.ofValueRef_returns_iff {ε : Type} (r : ValueRef) :
    (Value.ofValueRef r : Outcome ε Value).Returns ↔ ¬ r.BadText := by
  rw [← Value.converted_isSome_iff, Value.ofValueRef_eq]
  cases Value.converted r with
  | none => exact iff_of_false (Outcome.not_returns_panic _) nofun
  | some v => exact iff_of_true (Outcome.returns_ok v) ⟨v, rfl⟩

/-- A chain after a conversion that returns or not whatever the value is. -/
theorem Value.ofValueRef_bind_returns_iff {ε α : Type} {r : ValueRef} {f : Value → Outcome ε α}
    {P : Prop} (hf : ∀ v, (f v).Returns ↔ P) :
    ((Value.ofValueRef r : Outcome ε Value) >>= f).Returns ↔ ¬ r.BadText ∧ P := by
  rw [Outcome.returns_bind_iff, Value.ofValueRef_returns_iff]
  refine and_congr_right fun hgood => ⟨fun h => ?_, fun h v _ => (hf v).mpr h⟩
  obtain ⟨v, hv⟩ := (Value.converted_isSome_iff r).mpr hgood
  exact (hf v).mp (h v (by rw [Value.ofValueRef_eq, hv]))

/-! ## 2. One row -/

/-- The column is the first of its name. -/
def FirstOfName (row : Row) (cell : Cell) : Prop :=
  ∃ front rest, row = front ++ cell :: rest ∧
    ∀ c ∈ front, sameName cell.column.name c.column.name = false

/-- No column that is the first of its name holds broken TEXT. -/
def Readable (row : Row) : Prop := ∀ cell, FirstOfName row cell → ¬ cell.value.BadText

/-- What is fetched under a name is the value of the first column of that name. -/
theorem getRef_eq_ok_iff {row : Row} {name : String} {r : ValueRef} :
    getRef row name = .ok r ↔
      ∃ cell, FirstOfName row cell ∧ sameName name cell.column.name = true ∧ cell.value = r := by
  have hfetch : getRef row name = .ok r ↔ firstMatch sameName name (entries row) = some r := by
    rw [getRef_eq]
    cases firstMatch sameName name (entries row) with
    | none => exact iff_of_false nofun nofun
    | some r' => rw [Except.ok.injEq, Option.some.injEq]
  have hswap : ∀ cell : Cell, sameName name cell.column.name = true → ∀ k,
      sameName name k = sameName cell.column.name k := by
    intro cell hc k
    rw [Bool.eq_iff_iff]
    exact ⟨sameName_trans _ _ _ ((sameName_comm _ _).trans hc), sameName_trans _ _ _ hc⟩
  rw [hfetch, firstMatch_eq_some_iff]
  constructor
  · rintro ⟨front, k, rest, hrow, hk, hfront⟩
    obtain ⟨front, rest', rfl, rfl, hrest⟩ := List.map_eq_append_iff.mp hrow
    obtain ⟨cell, rest, rfl, hcell, rfl⟩ := List.map_eq_cons_iff.mp hrest
    cases hcell
    refine ⟨cell, ⟨front, rest, rfl, fun c hc => ?_⟩, hk, rfl⟩
    rw [← hswap cell hk]
    exact hfront _ (List.mem_map_of_mem hc)
  · rintro ⟨cell, ⟨front, rest, rfl, hfront⟩, hk, rfl⟩
    refine ⟨front.map _, cell.column.name, rest.map _, List.map_append, hk, fun e he => ?_⟩
    obtain ⟨c, hc, rfl⟩ := List.mem_map.mp he
    rw [hswap cell hk]
    exact hfront c hc

/-- The values fetched for the columns of a row are those of `Readable`. -/
theorem readable_iff (row : Row) : Readable row ↔
    ∀ cell ∈ row, ∀ r, getRef row cell.column.name = .ok r → ¬ r.BadText := by
  refine ⟨fun h cell _ r hr => ?_, fun h cell hfirst => ?_⟩
  · obtain ⟨first, hfirst, _, rfl⟩ := getRef_eq_ok_iff.mp hr
    exact h first hfirst
  · have hmem : cell ∈ row := by
      obtain ⟨front, rest, rfl, _⟩ := hfirst
      exact List.mem_append_right _ List.mem_cons_self
    exact h cell hmem _ (getRef_eq_ok_iff.mpr ⟨cell, hfirst, sameName_refl _, rfl⟩)

theorem parseRowsLoop_returns_iff {row : Row} (cells : List Cell)
    (hsub : ∀ cell ∈ cells, cell ∈ row) (map : RowMap) :
    (parseRowsLoop row (cells.map fun cell => cell.column.name) map).Returns ↔
      ∀ cell ∈ cells, ∀ r, getRef row cell.column.name = .ok r → ¬ r.BadText := by
  induction cells generalizing map with
  | nil => exact iff_of_true (Outcome.returns_ok _) nofun
  | cons cell cells ih =>
    obtain ⟨r, hr, _⟩ := getRef_of_mem (hsub cell List.mem_cons_self)
    have hrest := ih fun c hc => hsub c (List.mem_cons_of_mem _ hc)
    rw [List.map_cons, parseRowsLoop, hr, Outcome.ofExcept_ok, Outcome.ok_bind,
      Value.ofValueRef_bind_returns_iff fun v => hrest _, List.forall_mem_cons]
    simp only [hr, Except.ok.injEq, forall_eq']

theorem parseRows_returns_iff (row : Row) : (parseRows row).Returns ↔ Readable row := by
  rw [readable_iff]
  exact parseRowsLoop_returns_iff row (fun _ h => h) ∅

theorem rowMap_returns_iff (row : Row) : (rowMap row).Returns ↔
    Readable row ∧ ∀ cell ∈ row, ¬ cell.column.BadType := by
  rcases columns_eq (ε := NapiError) row with ⟨htypes, _⟩ | ⟨⟨cell, hc, hbad⟩, msg, hcols⟩
  · rw [rowMap_eq_parseRows htypes NapiError.ofRusqlite, Outcome.returns_mapErr_iff,
      parseRows_returns_iff]
    exact (and_iff_left htypes).symm
  · rw [rowMap, hcols]
    exact iff_of_false (Outcome.not_returns_panic msg) fun h => h.2 cell hc hbad

/-! ## 3. A cursor -/

theorem gather_returns_iff (rows : List Row) (acc : List RowMap) :
    (gather rows acc).Returns ↔
      ∀ row ∈ rows, Readable row ∧ ∀ cell ∈ row, ¬ cell.column.BadType := by
  induction rows generalizing acc with
  | nil => exact iff_of_true (Outcome.returns_ok acc) nofun
  | cons row rows ih =>
    rw [gather, Outcome.returns_bind_iff, List.forall_mem_cons, ← rowMap_returns_iff row]
    simp only [ih]
    refine and_congr_right fun hret => ⟨fun h => ?_, fun h m _ => h⟩
    cases hm : rowMap row with
    | ok m => exact h m hm
    | err e => exact absurd hm (rowMap_ne_err row e)
    | panic msg => exact absurd hm (hret msg)

theorem Rows.new_returns_iff (s : StmtPtr κ) (c : κ) :
    (Rows.new (Rusqlite.Rows.new s c)).1.Returns ↔
      ∀ row ∈ (s.pending c).rows, Readable row ∧ ∀ cell ∈ row, ¬ cell.column.BadType := by
  rw [Rows.new_eq, Outcome.returns_bind_iff, gather_returns_iff]
  exact and_iff_left fun _ _ => Outcome.returns_ok _

/-- **A row, or the rows of a cursor, are converted without a panic exactly when no column that
    is the first of its name holds broken TEXT and, for a cursor, no declared type is broken.** -/
theorem row_conversion_returns_iff (row : Row) (s : StmtPtr κ) (c : κ) :
    ((parseRows row).Returns ↔ Readable row) ∧
      ((Rows.new (Rusqlite.Rows.new s c)).1.Returns ↔
        ∀ row ∈ (s.pending c).rows, Readable row ∧ ∀ cell ∈ row, ¬ cell.column.BadType) :=
  ⟨parseRows_returns_iff row, Rows.new_returns_iff s c⟩

/-- A declared type of the byte `ff`: only `Rows::new` reads it. -/
example : let row : Row := [⟨⟨"x", some ⟨⟨#[0xff]⟩, by decide⟩⟩, .integer 7⟩]
    rowMap row = .panic "Invalid UTF-8 sequence in column declaration" ∧
      parseRows row = .ok (builtMap row) :=
  ⟨rfl, parseRows_eq (by decide)⟩

/-- `SELECT CAST(x'ff' AS TEXT) AS t`. -/
def castToText : Row := [⟨⟨"t", none⟩, .text ⟨#[0xff]⟩⟩]

/-- The statement that returns this row, on a connection without state. -/
def selectCast : Program Unit :=
  ⟨0, true, true, fun _ _ => .row castToText () (none, ()) (.done ())⟩

/-- Both converters panic on a TEXT made from the byte `ff`. -/
theorem row_conversion_panics_on_cast :
    ¬ (parseRows castToText).Returns ∧
      ¬ (Rows.new (Rusqlite.Rows.new (StmtPtr.fresh (some selectCast)) ())).1.Returns := by
  have hbad : ¬ Readable castToText := by
    intro h
    exact absurd (h _ ⟨[], [], rfl, nofun⟩) (by decide)
  refine ⟨fun h => hbad ((parseRows_returns_iff _).mp h), fun h => hbad ?_⟩
  exact ((Rows.new_returns_iff _ _).mp h castToText List.mem_cons_self).1

end NodeRusqlite
