/-
  File:      NodeRusqlite/Statement/Parameters.lean
  Subject:   `parameter_index` and `parameter_name`, and the place of a parameter in the
             array that `execute` and `query` take.

  SQLite numbers parameters `1 .. n`; arrays count from 0. Both functions hand
  SQLite's number through, only `bind_parameters` converts.

  * `parameterIndex_of_place`: the index is one more than the place.
  * `bound_at_place`: the parameter takes the element at its place.
  * **`parameter_index_addresses_iff`**: so the index addresses the array only
    where there is no name to look up.
-/
import NodeRusqlite.Rusqlite.Binding
import NodeRusqlite.Rusqlite.Inspect
import NodeRusqlite.Statement.Scoped

namespace NodeRusqlite

open Basis (Outcome asCInt asI64 asUsize)
open Sqlite
open Sqlite.StmtPtr (Rests)

variable {κ : Type}

namespace ScopedStatement

/-! ## 1. The two functions -/

/-- `ScopedStatement::parameter_index`. -/
def parameterIndex (name : String) (s : Rusqlite.Statement κ) :
    Outcome NapiError (Option Int64) × Rusqlite.Statement κ :=
  let (index, s) := s.parameterIndex name
  (toNapi index >>= fun index => .ok (index.map asI64), s)

/-- `ScopedStatement::parameter_name`. -/
def parameterName (index : Int64) (s : Rusqlite.Statement κ) : Outcome NapiError (Option String) :=
  .ok (s.parameterName (asUsize index))

/-- `ScopedStatement::parameter_count`. -/
def parameterCount (s : Rusqlite.Statement κ) : Outcome NapiError Int64 :=
  .ok (asI64 s.parameterCount)

/-- An array is decoded and bound: `t` is the statement `execute` and `query` then run. -/
def Binds (limit : Nat) (params : JsArray) (s : Rusqlite.Statement κ) (t : Stmt κ) : Prop :=
  ∃ vs, decodeParams params = .ok vs ∧ Rusqlite.bindParameters limit vs s.ptr = (.ok (), some t)

/-- What the index of a name is for: it lies in the array, it leads back to the name, and the
    parameter of that name takes the element at the index. -/
def IndexAddresses (s : Rusqlite.Statement κ) (name : String) : Prop :=
  ∀ i, (parameterIndex name s).1 = .ok (some i) →
    (0 ≤ i.toInt ∧ i.toInt < s.ptr.bindParameterCount) ∧ parameterName i s = .ok (some name) ∧
      ∀ limit params t, params.length = s.ptr.bindParameterCount → Binds limit params s t →
        ∀ place : Nat, s.header.params[place]? = some (some name) →
          ∃ item v, params[i.toInt.toNat]? = some (.ok item) ∧ item.decode = some v ∧
            t.bindings[place]? = some (Rusqlite.bound v)

/-- The names from index 0 on are those of the parameters, in their order. -/
def Enumerates (s : Rusqlite.Statement κ) : Prop :=
  ∀ i : Int64, 0 ≤ i.toInt → i.toInt < s.ptr.bindParameterCount →
    parameterName i s = .ok (s.header.params[i.toInt.toNat]?).join

/-! ## 2. What they answer -/

variable {s : Rusqlite.Statement κ} {name : String}

theorem parameterIndex_eq (s : Rusqlite.Statement κ) (name : String) :
    (parameterIndex name s).1 = .ok ((Rusqlite.findIndex s.header name).map asI64) := by
  show (toNapi (s.parameterIndex name).1 >>= fun index => .ok (index.map asI64)) = _
  rw [s.parameterIndex_eq name]
  rfl

/-- **The index of a name is one more than its place.** -/
theorem parameterIndex_of_place {k : Nat} (hk : s.header.params[k]? = some (some name)) :
    ∃ i, (parameterIndex name s).1 = .ok (some i) ∧ i.toInt = k + 1 := by
  obtain ⟨u, hu, hi⟩ := Rusqlite.Statement.findIndex_of_get hk
  exact ⟨asI64 u, by rw [parameterIndex_eq, hu]; rfl, hi⟩

theorem parameterIndex_of_notMem (hn : some name ∉ s.header.params) :
    (parameterIndex name s).1 = .ok none := by
  rw [parameterIndex_eq, Rusqlite.Statement.findIndex_of_notMem hn]
  rfl

/-- `parameter_name` counts from 1 as well: 0 has no name. -/
theorem parameterName_of_small {i : Int64} (h0 : 0 ≤ i.toInt) (hi : i.toInt < 2 ^ 31) :
    parameterName i s =
      .ok (if i.toInt = 0 then none else (s.header.params[i.toInt.toNat - 1]?).join) := by
  have hcast : (asCInt (asUsize i)).toInt = i.toInt :=
    (Basis.asCInt_asUsize_eq_iff i).mpr ⟨by omega, hi⟩
  refine congrArg Outcome.ok ?_
  by_cases hz : i.toInt = 0
  · rw [if_pos hz]
    exact Header.bindParameterName_of_nonpos (by omega)
  · rw [if_neg hz]
    exact Header.bindParameterName_of_place (by omega)

/-- **The parameter at a place takes the element at that place.** -/
theorem bound_at_place {limit : Nat} {params : JsArray} {t : Stmt κ} (h : Binds limit params s t)
    {place : Nat} (hp : place < s.ptr.bindParameterCount) :
    ∃ item v, params[place]? = some (.ok item) ∧ item.decode = some v ∧
      t.bindings[place]? = some (Rusqlite.bound v) := by
  obtain ⟨vs, hdecode, hbind⟩ := h
  cases hptr : s.ptr with
  | none =>
    rw [hptr] at hp
    exact absurd hp (Nat.not_lt_zero place)
  | some st =>
    have hrest := s.resting
    rw [hptr] at hbind hp hrest
    have hp : place < st.prog.paramCount := hp
    obtain ⟨hlen, _, ht⟩ := (Rusqlite.bindParameters_ok_iff hrest.ready vs).mp hbind
    cases ht
    have hvs : place < vs.length := by omega
    obtain ⟨e, he, hdec⟩ : ∃ e, params[place]? = some e ∧
        ∃ item, e = .ok item ∧ item.decode = some vs[place] := by
      have hall := (decodeParams_ok_iff params vs).mp hdecode
      have hps : place < params.length := by rw [hall.length_eq]; exact hvs
      exact ⟨params[place], List.getElem?_eq_getElem hps, hall.get hps hvs⟩
    obtain ⟨item, rfl, hitem⟩ := hdec
    refine ⟨item, vs[place], he, hitem, ?_⟩
    have hset := Stmt.setFrom_bindings st 0 (vs.map Rusqlite.bound) (j := place)
      (by rw [List.length_map]; omega) (by rw [List.length_map]; exact hvs)
    rw [Nat.zero_add] at hset
    rw [hset, List.getElem?_map, List.getElem?_eq_getElem hvs]
    rfl

/-! ## 3. The index addresses nothing -/

/-- The array `[0, 1, .., n - 1]`. -/
def positions (n : Nat) : JsArray := (List.range n).map fun j : Nat => .ok (.int j)

theorem positions_get {n j : Nat} (h : j < n) : (positions n)[j]? = some (.ok (.int j)) := by
  rw [positions, List.getElem?_map, List.getElem?_range h]
  rfl

theorem decode_position {j : Nat} (h : j < 2 ^ 31) :
    (Item.int j).decode = some (.integer (Int64.ofInt j)) := by
  rw [Item.decode_int, if_pos (by omega)]

theorem toInt_place {j : Nat} (h : j < 2 ^ 31) : (Int64.ofInt j).toInt = j :=
  Int64.toInt_ofInt_of_le (by omega) (by omega)

/-- What is bound for an element of the array tells its place. -/
theorem bound_position_inj {j k : Nat} {v w : NodeRusqlite.Value} (hj : j < 2 ^ 31)
    (hk : k < 2 ^ 31) (hv : (Item.int j).decode = some v) (hw : (Item.int k).decode = some w)
    (h : Rusqlite.bound v = Rusqlite.bound w) : j = k := by
  rw [decode_position hj, Option.some.injEq] at hv
  rw [decode_position hk, Option.some.injEq] at hw
  subst hv
  subst hw
  have hint : Int64.ofInt (j : Int) = Int64.ofInt (k : Int) := by injection h
  have heq := congrArg Int64.toInt hint
  rw [toInt_place hj, toInt_place hk] at heq
  exact Int.ofNat_inj.mp heq

/-- Every statement accepts the array of positions of its length. -/
theorem positions_binds (limit : Nat) {st : Stmt κ} (hptr : s.ptr = some st) :
    ∃ t, Binds limit (positions s.ptr.bindParameterCount) s t := by
  have hlt : s.ptr.bindParameterCount < 2 ^ 31 := by
    rw [← s.params_length]
    exact s.header.params_lt
  have hrest := s.resting
  unfold Binds
  rw [hptr] at hlt hrest ⊢
  have hlt : st.prog.paramCount < 2 ^ 31 := hlt
  have hvs : decodeParams (positions st.prog.paramCount) =
      .ok ((List.range st.prog.paramCount).map fun j : Nat => .integer (Int64.ofInt j)) := by
    rw [decodeParams_ok_iff, positions, List.forall₂_map_left_iff, List.forall₂_map_right_iff,
      List.forall₂_same]
    intro j hj
    rw [List.mem_range] at hj
    exact ⟨.int j, rfl, decode_position (by omega)⟩
  refine ⟨_, _, hvs, (Rusqlite.bindParameters_ok_iff hrest.ready _).mpr ⟨?_, ?_, rfl⟩⟩
  · rw [List.length_map, List.length_range]
  · intro v hv
    obtain ⟨j, _, rfl⟩ := List.mem_map.mp hv
    exact Nat.zero_le limit

/-- The index of a name never addresses the array: the parameter takes the element before it. -/
theorem not_indexAddresses {k : Nat} (hk : s.header.params[k]? = some (some name)) :
    ¬ IndexAddresses s name := by
  intro h
  obtain ⟨i, hindex, hi⟩ := parameterIndex_of_place hk
  obtain ⟨⟨_, hlt⟩, _, hbinds⟩ := h i hindex
  have hn := s.header.params_lt
  rw [s.params_length] at hn
  obtain ⟨st, hptr⟩ : ∃ st, s.ptr = some st := by
    cases hptr : s.ptr with
    | none =>
      rw [hptr] at hlt
      have hlt : i.toInt < 0 := hlt
      omega
    | some st => exact ⟨st, rfl⟩
  obtain ⟨t, ht⟩ := positions_binds 0 hptr
  have hlen : (positions s.ptr.bindParameterCount).length = s.ptr.bindParameterCount := by
    rw [positions, List.length_map, List.length_range]
  obtain ⟨item, v, hget, hdec, hbound⟩ := hbinds 0 _ t hlen ht k hk
  obtain ⟨item', v', hget', hdec', hbound'⟩ := bound_at_place ht (show k < _ by omega)
  have hplace : i.toInt.toNat = k + 1 := by omega
  rw [hplace, positions_get (by omega)] at hget
  rw [positions_get (by omega)] at hget'
  cases hget
  cases hget'
  -- element `k + 1` is the number `k + 1`, but the parameter holds element `k`
  rw [hbound, Option.some.injEq] at hbound'
  have heq : k + 1 = k := bound_position_inj (by omega) (by omega) hdec hdec' hbound'
  omega

theorem indexAddresses_iff (s : Rusqlite.Statement κ) (name : String) :
    IndexAddresses s name ↔ some name ∉ s.header.params := by
  refine ⟨fun h hmem => ?_, fun hn i hi => ?_⟩
  · obtain ⟨k, hk⟩ := Header.mem_params_iff.mp hmem
    exact not_indexAddresses hk h
  · rw [parameterIndex_of_notMem hn] at hi
    cases hi

/-- At the index of a place `parameter_name` has the name of the place before. -/
theorem parameterName_of_place {k : Nat} (hk : k < s.header.params.length) :
    parameterName (Int64.ofInt k) s =
      .ok (if k = 0 then none else (s.header.params[k - 1]?).join) := by
  have hlt := s.header.params_lt
  have hto : (Int64.ofInt k).toInt = k := toInt_place (by omega)
  rw [parameterName_of_small (by omega) (by omega), hto, Int.toNat_natCast]
  simp only [Int.natCast_eq_zero]

/-- Where the names come out in place, each one is the name of the place before. -/
theorem Enumerates.name_at (h : Enumerates s) {k : Nat} (hk : k < s.header.params.length) :
    (s.header.params[k]?).join = if k = 0 then none else (s.header.params[k - 1]?).join := by
  have hlt := s.header.params_lt
  have hto : (Int64.ofInt k).toInt = k := toInt_place (by omega)
  have hname := h (Int64.ofInt k) (by omega) (by rw [← s.params_length]; omega)
  rw [parameterName_of_place hk, hto, Int.toNat_natCast, Outcome.ok.injEq] at hname
  exact hname.symm

/-- ... so from the first place on there is none. -/
theorem Enumerates.no_name (h : Enumerates s) (k : Nat) (hk : k < s.header.params.length) :
    (s.header.params[k]?).join = none := by
  induction k with
  | zero => exact h.name_at hk
  | succ k ih =>
    rw [h.name_at hk, if_neg (Nat.succ_ne_zero k), Nat.add_sub_cancel]
    exact ih (Nat.lt_of_succ_lt hk)

/-- The names are shifted by one: they come out in place only when there are none. -/
theorem enumerates_iff (s : Rusqlite.Statement κ) :
    Enumerates s ↔ ∀ p ∈ s.header.params, p = none := by
  refine ⟨fun h p hp => ?_, fun hanon i hi hlt => ?_⟩
  · obtain ⟨k, hk⟩ := List.mem_iff_getElem?.mp hp
    have hnone := h.no_name k (List.getElem?_eq_some_iff.mp hk).1
    rw [hk] at hnone
    exact hnone
  · have hjoin : ∀ k : Nat, (s.header.params[k]?).join = none := by
      intro k
      cases hk : s.header.params[k]? with
      | none => rfl
      | some p => exact hanon p (List.mem_of_getElem? hk)
    have hn := s.header.params_lt
    rw [← s.params_length] at hlt
    rw [parameterName_of_small hi (by omega), hjoin, hjoin, ite_self]

/-- **`parameter_index` and `parameter_name` go with the array exactly when the statement has no
    named parameter**; the index of a single name does exactly when there is no such parameter. -/
theorem parameter_index_addresses_iff (s : Rusqlite.Statement κ) :
    ((∀ name, IndexAddresses s name) ∧ Enumerates s ↔ ∀ p ∈ s.header.params, p = none) ∧
      ∀ name, IndexAddresses s name ↔ some name ∉ s.header.params := by
  refine ⟨?_, indexAddresses_iff s⟩
  constructor
  · exact fun h => (enumerates_iff s).mp h.2
  · intro hanon
    refine ⟨fun name => (indexAddresses_iff s name).mpr fun hmem => ?_,
      (enumerates_iff s).mpr hanon⟩
    exact nomatch hanon _ hmem

/-- `DELETE FROM t WHERE id = :id`. -/
def deleteById : Rusqlite.Statement Unit :=
  .fresh ⟨[some ":id"], [], by decide, Header.null.columns_lt, by
      intro j k name hj hk
      have hj := (List.getElem?_eq_some_iff.mp hj).1
      have hk := (List.getElem?_eq_some_iff.mp hk).1
      simp only [List.length_singleton] at hj hk
      omega,
    by simp; decide⟩ ⟨1, false, false, fun _ _ => .done ()⟩ rfl rfl

/-- The only parameter of the statement has the index 1, past the end of an array of length 1, and
    index 0 has no name. -/
theorem parameter_index_past_the_array :
    (parameterIndex ":id" deleteById).1 = .ok (some 1) ∧ deleteById.ptr.bindParameterCount = 1 ∧
      parameterName 0 deleteById = .ok none ∧ ¬ IndexAddresses deleteById ":id" ∧
        ¬ Enumerates deleteById := by
  refine ⟨by rw [parameterIndex_eq]; rfl, rfl, rfl, not_indexAddresses (k := 0) rfl, fun h => ?_⟩
  exact absurd ((enumerates_iff deleteById).mp h) (by decide)

end ScopedStatement

end NodeRusqlite
