/-
  File:      NodeRusqlite/Rusqlite/Binding.lean
  Subject:   Where `bind_parameters` puts the elements of a list.

  **`bindParameters_ok_iff`**: the list is accepted exactly when it is as long as
  the statement has parameters and no element is too big, and then the parameter
  at each place holds the element at that place (`setFrom_bindings`).

  `bindParameters_fit` and `bindParameters_tooBig` say what it answers to any list:
  only the elements that have a parameter are ever bound.
-/
import NodeRusqlite.Rusqlite.Statement

namespace NodeRusqlite

open Sqlite

variable {κ : Type}

/-! ## 1. Setting the parameters from a place on -/

namespace Sqlite.Stmt

/-- Set the parameters from place `i` on. -/
def setFrom (s : Stmt κ) : Nat → List ValueRef → Stmt κ
  | _, [] => s
  | i, v :: vs => (s.set i v).setFrom (i + 1) vs

theorem setFrom_bindings_below (s : Stmt κ) (i : Nat) (vs : List ValueRef) {j : Nat} (hj : j < i) :
    (s.setFrom i vs).bindings[j]? = s.bindings[j]? := by
  induction vs generalizing s i with
  | nil => rfl
  | cons v vs ih =>
    rw [setFrom, ih (s.set i v) (i + 1) (by omega), set_bindings,
      List.getElem?_set_ne (by omega)]

/-- **Place `i + j` holds element `j`.** -/
theorem setFrom_bindings (s : Stmt κ) (i : Nat) (vs : List ValueRef)
    (h : i + vs.length ≤ s.prog.paramCount) {j : Nat} (hj : j < vs.length) :
    (s.setFrom i vs).bindings[i + j]? = vs[j]? := by
  induction vs generalizing s i j with
  | nil => exact absurd hj (Nat.not_lt_zero j)
  | cons v vs ih =>
    rw [List.length_cons] at h hj
    rw [setFrom]
    cases j with
    | zero =>
      have hi : i < s.bindings.length := by rw [s.bound]; omega
      rw [setFrom_bindings_below _ _ _ (by omega), set_bindings, Nat.add_zero,
        List.getElem?_set_self hi, List.getElem?_cons_zero]
    | succ j =>
      have hplace : i + (j + 1) = i + 1 + j := by omega
      rw [hplace, List.getElem?_cons_succ]
      exact ih (s.set i v) (i + 1) (by rw [set_prog]; omega) (by omega)

@[simp] theorem setFrom_prog (s : Stmt κ) (i : Nat) (vs : List ValueRef) :
    (s.setFrom i vs).prog = s.prog := by
  induction vs generalizing s i with
  | nil => rfl
  | cons v vs ih => exact (ih (s.set i v) (i + 1)).trans (s.set_prog i v)

@[simp] theorem setFrom_vm (s : Stmt κ) (i : Nat) (vs : List ValueRef) :
    (s.setFrom i vs).vm = s.vm := by
  induction vs generalizing s i with
  | nil => rfl
  | cons v vs ih => exact (ih (s.set i v) (i + 1)).trans (s.set_vm i v)

/-- A list of the right length is what is bound. -/
theorem setFrom_bindings_eq (s : Stmt κ) {vs : List ValueRef} (h : vs.length = s.prog.paramCount) :
    (s.setFrom 0 vs).bindings = vs := by
  have hlen : (s.setFrom 0 vs).bindings.length = vs.length := by
    rw [Stmt.bound, setFrom_prog, h]
  refine List.ext_getElem? fun j => ?_
  by_cases hj : j < vs.length
  · have hplace := s.setFrom_bindings 0 vs (by omega) hj
    rw [Nat.zero_add] at hplace
    exact hplace
  · rw [List.getElem?_eq_none (by omega), List.getElem?_eq_none (by omega)]

end Sqlite.Stmt

/-! ## 2. Binding a list -/

namespace Rusqlite

variable {limit : Nat} {s : Stmt κ} {t : StmtPtr κ}

/-- What the parameter holds that an element is bound to. -/
def bound (v : NodeRusqlite.Value) : ValueRef := Stmt.stored (ValueRef.ofOwned v.owned)

/-- The element is not over `SQLITE_LIMIT_LENGTH`. -/
def Fits (limit : Nat) (v : NodeRusqlite.Value) : Prop :=
  Stmt.size (ValueRef.ofOwned v.owned) ≤ limit

theorem bindLoop_ok_iff (hs : s.vm = .ready) (vs : List NodeRusqlite.Value) (index : Nat) {n : Nat}
    (hn : n ≤ s.prog.paramCount) :
    bindLoop limit s.prog.paramCount vs index (some s) = (.ok n, t) ↔
      n = index + vs.length ∧ (∀ v ∈ vs, Fits limit v) ∧
        t = some (s.setFrom index (vs.map bound)) := by
  induction vs generalizing s index with
  | nil =>
    simp only [bindLoop, Prod.mk.injEq, Except.ok.injEq, List.length_nil, Nat.add_zero]
    refine ⟨fun h => ⟨h.1.symm, List.forall_mem_nil _, h.2.symm⟩, fun h => ⟨h.1.symm, h.2.2.symm⟩⟩
  | cons v vs ih =>
    rw [List.forall_mem_cons, List.length_cons, List.map_cons, Stmt.setFrom]
    simp only [bindLoop, bindParameter_eq, StmtPtr.bind, Stmt.bind_of_ready hs]
    by_cases hlt : s.prog.paramCount < index + 1
    · -- one element too many: the loop ends past the last parameter
      rw [if_pos hlt]
      refine iff_of_false (fun h => ?_) (fun h => ?_)
      · cases h
        omega
      · omega
    · have hrange : ¬ (index + 1 = 0 ∨ s.prog.paramCount < index + 1) := by omega
      rw [if_neg hlt, if_neg hrange]
      by_cases hfit : Fits limit v
      · have hsize : ¬ limit < Stmt.size (ValueRef.ofOwned v.owned) := Nat.not_lt.mpr hfit
        have hnext := ih (s := s.set index (bound v)) hs (index + 1) hn
        rw [if_neg hsize, Nat.add_sub_cancel]
        refine hnext.trans ?_
        have hlen : index + 1 + vs.length = index + (vs.length + 1) := by omega
        rw [hlen, and_iff_right hfit]
      · have hsize : limit < Stmt.size (ValueRef.ofOwned v.owned) := Nat.not_le.mp hfit
        rw [if_pos hsize]
        refine iff_of_false (fun h => ?_) fun h => hfit h.2.1.1
        cases h

/-- **A list is accepted exactly when it has the right length and every element fits**, and it is
    bound place by place. -/
theorem bindParameters_ok_iff (hs : s.vm = .ready) (vs : List NodeRusqlite.Value) :
    bindParameters limit vs (some s) = (.ok (), t) ↔
      vs.length = s.prog.paramCount ∧ (∀ v ∈ vs, Fits limit v) ∧
        t = some (s.setFrom 0 (vs.map bound)) := by
  have hcount : StmtPtr.bindParameterCount (some s) = s.prog.paramCount := rfl
  have hloop : bindLoop limit s.prog.paramCount vs 0 (some s) = (.ok s.prog.paramCount, t) ↔ _ :=
    bindLoop_ok_iff hs vs 0 (Nat.le_refl _)
  rw [Nat.zero_add] at hloop
  rw [bindParameters_eq, hcount, eq_comm (a := vs.length), ← hloop]
  rcases bindLoop limit s.prog.paramCount vs 0 (some s) with ⟨_ | m, t'⟩
  · exact iff_of_false nofun nofun
  · by_cases hm : m = s.prog.paramCount
    · simp [hm]
    · simp [hm]

/-- The loop counts the elements, of a surplus only one. -/
theorem bindLoop_fit (hs : s.vm = .ready) (vs : List NodeRusqlite.Value) (index : Nat)
    (hi : index ≤ s.prog.paramCount)
    (hfit : ∀ v ∈ vs.take (s.prog.paramCount - index), Fits limit v) :
    (bindLoop limit s.prog.paramCount vs index (some s)).1 =
      .ok (min (index + vs.length) (s.prog.paramCount + 1)) := by
  induction vs generalizing s index with
  | nil =>
    rw [bindLoop, List.length_nil, Nat.add_zero, Nat.min_eq_left (by omega)]
  | cons v vs ih =>
    rw [List.length_cons]
    simp only [bindLoop, bindParameter_eq, StmtPtr.bind, Stmt.bind_of_ready hs]
    by_cases hlt : s.prog.paramCount < index + 1
    · rw [if_pos hlt, Nat.min_eq_right (by omega)]
      exact congrArg Except.ok (by omega)
    · have hsub : s.prog.paramCount - index = s.prog.paramCount - (index + 1) + 1 := by omega
      rw [hsub, List.take_succ_cons, List.forall_mem_cons] at hfit
      have hrange : ¬ (index + 1 = 0 ∨ s.prog.paramCount < index + 1) := by omega
      have hsize : ¬ limit < Stmt.size (ValueRef.ofOwned v.owned) := Nat.not_lt.mpr hfit.1
      rw [if_neg hlt, if_neg hrange, if_neg hsize, Nat.add_sub_cancel]
      have hrest := ih (s := s.set index (bound v)) hs (index + 1) (Nat.le_of_not_lt hlt) hfit.2
      rw [Nat.add_assoc, Nat.add_comm 1] at hrest
      exact hrest

/-- An element that is too big ends the loop, if it has a parameter. -/
theorem bindLoop_tooBig (hs : s.vm = .ready) (vs : List NodeRusqlite.Value) (index : Nat)
    (hbig : ∃ v ∈ vs.take (s.prog.paramCount - index), ¬ Fits limit v) :
    (bindLoop limit s.prog.paramCount vs index (some s)).1 = .error (.sqliteFailure .tooBig) := by
  induction vs generalizing s index with
  | nil =>
    rw [List.take_nil] at hbig
    obtain ⟨v, hv, _⟩ := hbig
    cases hv
  | cons v vs ih =>
    have hlt : ¬ s.prog.paramCount < index + 1 := by
      intro hlt
      have hzero : s.prog.paramCount - index = 0 := by omega
      rw [hzero, List.take_zero] at hbig
      obtain ⟨v, hv, _⟩ := hbig
      cases hv
    have hsub : s.prog.paramCount - index = s.prog.paramCount - (index + 1) + 1 := by omega
    have hrange : ¬ (index + 1 = 0 ∨ s.prog.paramCount < index + 1) := by omega
    simp only [bindLoop, bindParameter_eq, StmtPtr.bind, Stmt.bind_of_ready hs]
    rw [hsub, List.take_succ_cons] at hbig
    rw [if_neg hlt, if_neg hrange, Nat.add_sub_cancel]
    by_cases hfit : Fits limit v
    · have hsize : ¬ limit < Stmt.size (ValueRef.ofOwned v.owned) := Nat.not_lt.mpr hfit
      rw [if_neg hsize]
      refine ih (s := s.set index (bound v)) hs (index + 1) ?_
      obtain ⟨w, hw, hbig⟩ := hbig
      rcases List.mem_cons.mp hw with rfl | hw
      · exact absurd hfit hbig
      · exact ⟨w, hw, hbig⟩
    · have hsize : limit < Stmt.size (ValueRef.ofOwned v.owned) := Nat.not_le.mp hfit
      rw [if_pos hsize]

theorem bindParameters_fit (hs : s.vm = .ready) {vs : List NodeRusqlite.Value}
    (hfit : ∀ v ∈ vs.take s.prog.paramCount, Fits limit v)
    (hlen : vs.length ≠ s.prog.paramCount) : (bindParameters limit vs (some s)).1 =
      .error (.invalidParameterCount (min vs.length (s.prog.paramCount + 1)) s.prog.paramCount) := by
  have hcount : StmtPtr.bindParameterCount (some s) = s.prog.paramCount := rfl
  have hloop := bindLoop_fit hs vs 0 (Nat.zero_le _) hfit
  rw [Nat.zero_add] at hloop
  have hne : min vs.length (s.prog.paramCount + 1) ≠ s.prog.paramCount := by omega
  simp only [bindParameters_eq, hcount, hloop, if_pos hne]

theorem bindParameters_tooBig (hs : s.vm = .ready) {vs : List NodeRusqlite.Value}
    (hbig : ∃ v ∈ vs.take s.prog.paramCount, ¬ Fits limit v) :
    (bindParameters limit vs (some s)).1 = .error (.sqliteFailure .tooBig) := by
  have hcount : StmtPtr.bindParameterCount (some s) = s.prog.paramCount := rfl
  simp only [bindParameters_eq, hcount, bindLoop_tooBig hs vs 0 hbig]

end Rusqlite

end NodeRusqlite
