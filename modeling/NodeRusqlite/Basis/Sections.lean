/-
  File:      NodeRusqlite/Basis/Sections.lean
  Subject:   Critical sections: threads that work on one state, each section under one
             of several locks.

  A section is a sequence of atomic steps. Between two of them other threads take
  steps, in sections of other locks or outside all sections.

  * `Sections.Keeps`: what each lock protects while it is free, and what holds at
    each point of a section.
  * **`Keeps.run`**: then both hold in every run, and so does what the steps keep
    under them.
-/
import NodeRusqlite.Basis.Runs

namespace Basis

variable {σ ι κ π α : Type} [DecidableEq κ]

/-- The sections under the locks `κ`, with the points `π` of a section, and the steps `α` outside
    sections. -/
structure Sections (σ κ π α : Type) where
  starts : κ → π → σ → Bool
  work : κ → π → σ → Option (π × σ)
  outside : α → σ → Option σ

namespace Sections

/-- The state, and who is where inside which lock. -/
structure State (σ ι κ π : Type) where
  state : σ
  inside : κ → Option (ι × π)

/-- A thread takes a free lock, whoever holds a lock takes a step or lets the lock go, or something
    happens outside. -/
inductive Act (ι κ π α : Type) where
  | enter (i : ι) (k : κ) (p : π)
  | work (k : κ)
  | outside (a : α)

/-- Nobody inside. -/
def initial (s : σ) : State σ ι κ π := ⟨s, fun _ => none⟩

variable (S : Sections σ κ π α)

/-- One atomic step. -/
def step (s : State σ ι κ π) : Act ι κ π α → Option (State σ ι κ π)
  | .enter i k p =>
    match s.inside k with
    | some _ => none
    | none =>
      if S.starts k p s.state then
        some { s with inside := Function.update s.inside k (some (i, p)) }
      else none
  | .work k =>
    match s.inside k with
    | none => none
    | some (i, p) =>
      match S.work k p s.state with
      | some (p', state) => some ⟨state, Function.update s.inside k (some (i, p'))⟩
      | none => some { s with inside := Function.update s.inside k none }
  | .outside a => (S.outside a s.state).map fun state => { s with state := state }

/-- **What a step can be.** -/
theorem step_cases {s s' : State σ ι κ π} {a : Act ι κ π α} (h : S.step s a = some s') :
    (∃ i k p, a = .enter i k p ∧ s.inside k = none ∧ S.starts k p s.state = true ∧
      s' = ⟨s.state, Function.update s.inside k (some (i, p))⟩) ∨
    (∃ k i p p' state, a = .work k ∧ s.inside k = some (i, p) ∧
      S.work k p s.state = some (p', state) ∧
      s' = ⟨state, Function.update s.inside k (some (i, p'))⟩) ∨
    (∃ k i p, a = .work k ∧ s.inside k = some (i, p) ∧ S.work k p s.state = none ∧
      s' = ⟨s.state, Function.update s.inside k none⟩) ∨
    ∃ b state, a = .outside b ∧ S.outside b s.state = some state ∧ s' = ⟨state, s.inside⟩ := by
  cases a with
  | enter i k p =>
    rw [step] at h
    split at h
    · cases h
    · split at h <;> cases h
      exact .inl ⟨i, k, p, rfl, ‹_›, ‹_›, rfl⟩
  | work k =>
    rw [step] at h
    split at h
    · cases h
    · split at h <;> cases h
      · exact .inr (.inl ⟨k, _, _, _, _, rfl, ‹_›, ‹_›, rfl⟩)
      · exact .inr (.inr (.inl ⟨k, _, _, rfl, ‹_›, ‹_›, rfl⟩))
  | outside b =>
    obtain ⟨state, hstate, rfl⟩ := Option.map_eq_some_iff.mp h
    exact .inr (.inr (.inr ⟨b, state, rfl, hstate, rfl⟩))

/-- `Free k` holds while nobody is inside `k`, `At k p` while somebody is at the point `p` of a
    section under `k`. A step keeps its own assertion and those of the other locks. -/
structure Keeps (Free : κ → σ → Prop) (At : κ → π → σ → Prop) : Prop where
  enter : ∀ {k p s}, S.starts k p s = true → Free k s → At k p s
  work : ∀ {k p s p' s'}, At k p s → S.work k p s = some (p', s') → At k p' s'
  leave : ∀ {k p s}, At k p s → S.work k p s = none → Free k s
  free_work : ∀ {k p s p' s' j}, At k p s → S.work k p s = some (p', s') → j ≠ k →
    Free j s → Free j s'
  at_work : ∀ {k p s p' s' j q}, At k p s → S.work k p s = some (p', s') → j ≠ k →
    At j q s → At j q s'
  free_outside : ∀ {a s s' j}, S.outside a s = some s' → Free j s → Free j s'
  at_outside : ∀ {a s s' j q}, S.outside a s = some s' → At j q s → At j q s'

/-- The assertion of every lock. -/
def Holds (Free : κ → σ → Prop) (At : κ → π → σ → Prop) (s : State σ ι κ π) : Prop :=
  ∀ k, (s.inside k = none → Free k s.state) ∧
    ∀ i p, s.inside k = some (i, p) → At k p s.state

section Keeps

variable {S} {Free : κ → σ → Prop} {At : κ → π → σ → Prop} (hkeeps : S.Keeps Free At)
include hkeeps

/-- **A step keeps the assertion of every lock.** -/
theorem Keeps.step {s s' : State σ ι κ π} {a : Act ι κ π α} (hholds : Holds Free At s)
    (h : S.step s a = some s') : Holds Free At s' := by
  rcases S.step_cases h with ⟨i, k, p, _, hnone, hstarts, rfl⟩ |
    ⟨k, i, p, p', state, _, hat, hwork, rfl⟩ | ⟨k, i, p, _, hat, hwork, rfl⟩ |
    ⟨b, state, _, hout, rfl⟩
  · intro j
    by_cases hjk : j = k
    · subst hjk
      simp only [Function.update_self, reduceCtorEq, false_implies, Option.some.injEq,
        Prod.mk.injEq, true_and]
      rintro _ _ ⟨rfl, rfl⟩
      exact hkeeps.enter hstarts ((hholds j).1 hnone)
    · simpa only [Function.update_of_ne hjk] using hholds j
  · have hatk := (hholds k).2 i p hat
    intro j
    by_cases hjk : j = k
    · subst hjk
      simp only [Function.update_self, reduceCtorEq, false_implies, Option.some.injEq,
        Prod.mk.injEq, true_and]
      rintro _ _ ⟨rfl, rfl⟩
      exact hkeeps.work hatk hwork
    · simp only [Function.update_of_ne hjk]
      exact ⟨fun hn => hkeeps.free_work hatk hwork hjk ((hholds j).1 hn),
        fun i' q hq => hkeeps.at_work hatk hwork hjk ((hholds j).2 i' q hq)⟩
  · intro j
    by_cases hjk : j = k
    · subst hjk
      simp only [Function.update_self, reduceCtorEq, false_implies, implies_true, and_true,
        true_implies]
      exact hkeeps.leave ((hholds j).2 i p hat) hwork
    · simpa only [Function.update_of_ne hjk] using hholds j
  · exact fun j => ⟨fun hn => hkeeps.free_outside hout ((hholds j).1 hn),
      fun i q hq => hkeeps.at_outside hout ((hholds j).2 i q hq)⟩

/-- **The assertions hold in every run**, and so does a property of the state that a step keeps
    under them. -/
theorem Keeps.run {G : σ → Prop} {s₀ : σ} (h0 : ∀ k, Free k s₀) (hG0 : G s₀)
    (hG : ∀ (s s' : State σ ι κ π) a, Holds Free At s → G s.state → S.step s a = some s' →
      G s'.state)
    {h : List (Event (State σ ι κ π) (Act ι κ π α))} {s : State σ ι κ π}
    (hr : Run S.step (initial s₀) h s) : Holds Free At s ∧ G s.state := by
  have hinit : Holds Free At (initial s₀ : State σ ι κ π) :=
    fun k => ⟨fun _ => h0 k, fun i p hn => by cases hn⟩
  refine Run.invariant (C := fun _ => True) (I := fun _ s => Holds Free At s ∧ G s.state)
    ⟨hinit, hG0⟩ ?_ hr fun _ _ => trivial
  intro h s a s' _ ⟨hholds, hs⟩ hstep _
  exact ⟨hkeeps.step hholds hstep, hG s s' a hholds hs hstep⟩

end Keeps

end Sections

end Basis
