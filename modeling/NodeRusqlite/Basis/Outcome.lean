/-
  File:      NodeRusqlite/Basis/Outcome.lean
  Subject:   How a Rust call ends: with a value, with an error, or with a panic.

  `Outcome ε α` is `Except ε α` with a third end. `?` hands an error to the
  caller, `.ok()` and `.unwrap_or(..)` swallow an error, and neither stops a
  panic: so `bind` passes a panic on, and `orElse` replaces an error only.
  `Returns` says that a call ends in a value or an error (`returns_bind_iff`).

  `collect` over a list is `mapM`: it succeeds element by element
  (`mapM_eq_ok_iff`, `mapM_eq_some_iff`).
-/
import Mathlib

namespace Basis

/-- How a call ends. -/
inductive Outcome (ε α : Type) where
  | ok (a : α) : Outcome ε α
  | err (e : ε) : Outcome ε α
  | panic (msg : String) : Outcome ε α
  deriving DecidableEq, Repr

namespace Outcome

variable {ε ε' α β : Type}

/-- The `?` of the source. -/
def bind : Outcome ε α → (α → Outcome ε β) → Outcome ε β
  | .ok a, f => f a
  | .err e, _ => .err e
  | .panic m, _ => .panic m

instance : Monad (Outcome ε) where
  pure := .ok
  bind := bind

/-- `map_err`. -/
def mapErr (f : ε → ε') : Outcome ε α → Outcome ε' α
  | .ok a => .ok a
  | .err e => .err (f e)
  | .panic m => .panic m

/-- A `Result` of a call that does not panic. -/
def ofExcept : Except ε α → Outcome ε α
  | .ok a => .ok a
  | .error e => .err e

@[simp] theorem ok_bind (a : α) (f : α → Outcome ε β) : (Outcome.ok a >>= f) = f a := rfl

@[simp] theorem err_bind (e : ε) (f : α → Outcome ε β) : (Outcome.err e >>= f) = .err e := rfl

@[simp] theorem panic_bind (m : String) (f : α → Outcome ε β) :
    (Outcome.panic m >>= f) = .panic m := rfl

@[simp] theorem ofExcept_ok (a : α) : (ofExcept (.ok a) : Outcome ε α) = .ok a := rfl

/-- A chain that ends in a value went through a value. -/
theorem bind_eq_ok {x : Outcome ε α} {f : α → Outcome ε β} {b : β} :
    (x >>= f) = .ok b ↔ ∃ a, x = .ok a ∧ f a = .ok b := by
  cases x with
  | ok a => simp
  | err e => simp
  | panic m => simp

/-- The call does not panic. -/
def Returns (x : Outcome ε α) : Prop := ∀ msg, x ≠ .panic msg

@[simp] theorem returns_ok (a : α) : (Outcome.ok a : Outcome ε α).Returns := nofun

@[simp] theorem returns_err (e : ε) : (Outcome.err e : Outcome ε α).Returns := nofun

@[simp] theorem not_returns_panic (msg : String) :
    ¬ (Outcome.panic msg : Outcome ε α).Returns := fun h => h msg rfl

theorem returns_mapErr_iff {f : ε → ε'} {x : Outcome ε α} : (x.mapErr f).Returns ↔ x.Returns := by
  cases x with
  | ok a => exact iff_of_true (returns_ok a) (returns_ok a)
  | err e => exact iff_of_true (returns_err _) (returns_err e)
  | panic msg => exact iff_of_false (not_returns_panic msg) (not_returns_panic msg)

/-- **A chain returns when its first call does and, from the value of that, the rest does.** -/
theorem returns_bind_iff {x : Outcome ε α} {f : α → Outcome ε β} :
    (x >>= f).Returns ↔ x.Returns ∧ ∀ a, x = .ok a → (f a).Returns := by
  cases x with
  | ok a => simp
  | err e => simp
  | panic msg => simp

end Outcome

/-! ## Collecting the results of a list -/

section Collect

variable {ε α β : Type}

/-- `collect` into a `Result`: it succeeds when every element does, with the values in order. -/
theorem mapM_eq_ok_iff {f : α → Except ε β} {l : List α} {bs : List β} :
    l.mapM f = .ok bs ↔ List.Forall₂ (fun a b => f a = .ok b) l bs := by
  induction l generalizing bs with
  | nil => simp [pure, Except.pure, eq_comm]
  | cons a l ih =>
    simp only [List.mapM_cons, List.forall₂_cons_left_iff, ← ih]
    cases f a with
    | error e => simp [bind, Except.bind]
    | ok b =>
      cases l.mapM f with
      | error e => simp [bind, Except.bind]
      | ok bs' => simp [bind, Except.bind, pure, Except.pure, eq_comm]

/-- `collect` into an `Option`. -/
theorem mapM_eq_some_iff {f : α → Option β} {l : List α} {bs : List β} :
    l.mapM f = some bs ↔ List.Forall₂ (fun a b => f a = some b) l bs := by
  induction l generalizing bs with
  | nil => simp [eq_comm]
  | cons a l ih =>
    simp only [List.mapM_cons, List.forall₂_cons_left_iff, ← ih]
    cases f a with
    | none => simp
    | some b =>
      cases l.mapM f with
      | none => simp
      | some bs' => simp [eq_comm]

/-- Partners for all elements of a list make a list. -/
theorem exists_forall₂_iff {R : α → β → Prop} {l : List α} :
    (∃ bs, List.Forall₂ R l bs) ↔ ∀ a ∈ l, ∃ b, R a b := by
  induction l with
  | nil => simp
  | cons a l ih =>
    rw [List.forall_mem_cons, ← ih]
    constructor
    · rintro ⟨bs, h⟩
      obtain ⟨b, bs', hb, hbs, -⟩ := List.forall₂_cons_left_iff.mp h
      exact ⟨⟨b, hb⟩, bs', hbs⟩
    · rintro ⟨⟨b, hb⟩, bs, hbs⟩
      exact ⟨b :: bs, .cons hb hbs⟩

end Collect

end Basis
