/-
  File:      NodeRusqlite/Basis/Runs.lean
  Subject:   Runs of a state machine, with their history.

  A machine is a partial step function `step : σ → α → Option σ` (`none`: the
  action cannot be taken). `Run step s₀ h s` says that the machine gets from
  `s₀` to `s` by the events of `h`, oldest first; an event keeps the states
  before and after it, so a statement can speak about what happened earlier.

  * `Run.invariant`: what holds at the start and survives every event whose
    side condition holds, holds at the end of every run of such events.
  * `Along P h`: `P` holds at every event of `h`, given the events before it.
    `Run.along_congr` turns a fact about one step into one about a whole run;
    `Run.forall_congr` does where the events before do not matter, and
    `Run.along_congr_of_invariant` where an invariant is needed on the way.
    `Run.along_of_invariant` derives one from an invariant.
-/
import Mathlib

namespace Basis

variable {σ α : Type}

/-- One event of a run. -/
structure Event (σ α : Type) where
  before : σ
  act : α
  after : σ

/-- The runs of a machine from `s₀`, with their history. -/
inductive Run (step : σ → α → Option σ) (s₀ : σ) : List (Event σ α) → σ → Prop where
  | start : Run step s₀ [] s₀
  | next {h : List (Event σ α)} {s s' : σ} {a : α} :
      Run step s₀ h s → step s a = some s' → Run step s₀ (h ++ [⟨s, a, s'⟩]) s'

/-- `P` holds at every event of the history, given the events before it. -/
def Along (P : List (Event σ α) → Event σ α → Prop) (h : List (Event σ α)) : Prop :=
  ∀ h₁ e h₂, h = h₁ ++ e :: h₂ → P h₁ e

section Along

variable {P Q : List (Event σ α) → Event σ α → Prop}

theorem along_nil : Along P [] := by
  intro h₁ e h₂ heq
  cases h₁ <;> cases heq

theorem along_snoc {h : List (Event σ α)} {e : Event σ α} :
    Along P (h ++ [e]) ↔ Along P h ∧ P h e := by
  constructor
  · intro hP
    refine ⟨fun h₁ e₁ h₂ heq => hP h₁ e₁ (h₂ ++ [e]) ?_, hP h e [] rfl⟩
    rw [heq, List.append_assoc, List.cons_append]
  · intro ⟨hP, he⟩ h₁ e₁ h₂ heq
    rcases List.eq_nil_or_concat h₂ with rfl | ⟨h₃, e₂, rfl⟩
    · -- the event asked for is the last one
      obtain ⟨rfl, hlast⟩ := List.append_inj' heq rfl
      cases hlast
      exact he
    · refine hP h₁ e₁ h₃ ?_
      rw [List.concat_eq_append, ← List.cons_append, ← List.append_assoc] at heq
      exact (List.append_inj' heq rfl).1

end Along

namespace Run

variable {step : σ → α → Option σ} {s₀ : σ}

/-- **The induction rule of runs**: `I` holds at the start and survives every
    event that meets `C`; then it holds after every run whose events meet `C`. -/
theorem invariant {C : Event σ α → Prop} {I : List (Event σ α) → σ → Prop} (h0 : I [] s₀)
    (hstep : ∀ h s a s', Run step s₀ h s → I h s → step s a = some s' → C ⟨s, a, s'⟩ →
      I (h ++ [⟨s, a, s'⟩]) s')
    {h : List (Event σ α)} {s : σ} (hr : Run step s₀ h s) (hC : ∀ e ∈ h, C e) : I h s := by
  induction hr with
  | start => exact h0
  | next hr hs ih =>
    refine hstep _ _ _ _ hr (ih fun e he => hC e ?_) hs (hC _ ?_)
    · exact List.mem_append_left _ he
    · exact List.mem_append_right _ (List.mem_singleton_self _)

/-- **A step-wise equivalence holds along whole runs.** -/
theorem along_congr {P Q : List (Event σ α) → Event σ α → Prop}
    (hPQ : ∀ h s a s', Run step s₀ h s → step s a = some s' →
      (P h ⟨s, a, s'⟩ ↔ Q h ⟨s, a, s'⟩))
    {h : List (Event σ α)} {s : σ} (hr : Run step s₀ h s) : Along P h ↔ Along Q h := by
  induction hr with
  | start => exact ⟨fun _ => along_nil, fun _ => along_nil⟩
  | next hr hs ih => rw [along_snoc, along_snoc, ih, hPQ _ _ _ _ hr hs]

/-- **The same under an invariant** that holds at the start and that every event keeps at which `Q`
    holds. -/
theorem along_congr_of_invariant {P Q : List (Event σ α) → Event σ α → Prop}
    {I : List (Event σ α) → σ → Prop} (h0 : I [] s₀)
    (hstep : ∀ h s a s', I h s → step s a = some s' →
      (P h ⟨s, a, s'⟩ ↔ Q h ⟨s, a, s'⟩) ∧ (Q h ⟨s, a, s'⟩ → I (h ++ [⟨s, a, s'⟩]) s'))
    {h : List (Event σ α)} {s : σ} (hr : Run step s₀ h s) : Along P h ↔ Along Q h := by
  have hboth : (Along P h ↔ Along Q h) ∧ (Along Q h → I h s) := by
    induction hr with
    | start => exact ⟨⟨fun _ => along_nil, fun _ => along_nil⟩, fun _ => h0⟩
    | next hr hs ih =>
      obtain ⟨heq, hinv⟩ := ih
      rw [along_snoc, along_snoc, heq]
      refine ⟨and_congr_right fun hQ => (hstep _ _ _ _ (hinv hQ) hs).1, ?_⟩
      exact fun ⟨hQ, he⟩ => (hstep _ _ _ _ (hinv hQ) hs).2 he
  exact hboth.1

/-- **What an invariant gives at every step holds along whole runs.** -/
theorem along_of_invariant {P : List (Event σ α) → Event σ α → Prop}
    {I : List (Event σ α) → σ → Prop} (h0 : I [] s₀)
    (hstep : ∀ h s a s', I h s → step s a = some s' →
      P h ⟨s, a, s'⟩ ∧ I (h ++ [⟨s, a, s'⟩]) s')
    {h : List (Event σ α)} {s : σ} (hr : Run step s₀ h s) : Along P h ∧ I h s := by
  induction hr with
  | start => exact ⟨along_nil, h0⟩
  | next hr hs ih =>
    obtain ⟨hP, hI⟩ := ih
    obtain ⟨hPe, hIe⟩ := hstep _ _ _ _ hI hs
    exact ⟨along_snoc.mpr ⟨hP, hPe⟩, hIe⟩

/-- The same for a property of single events. -/
theorem forall_congr {P Q : Event σ α → Prop}
    (hPQ : ∀ h s a s', Run step s₀ h s → step s a = some s' → (P ⟨s, a, s'⟩ ↔ Q ⟨s, a, s'⟩))
    {h : List (Event σ α)} {s : σ} (hr : Run step s₀ h s) : (∀ e ∈ h, P e) ↔ ∀ e ∈ h, Q e := by
  induction hr with
  | start =>
    exact iff_of_true (fun _ he => absurd he List.not_mem_nil)
      fun _ he => absurd he List.not_mem_nil
  | next hr hs ih =>
    rw [List.forall_mem_append, List.forall_mem_append, ih, List.forall_mem_singleton,
      List.forall_mem_singleton, hPQ _ _ _ _ hr hs]

/-- A run goes on where another one has ended. -/
theorem append {h h' : List (Event σ α)} {s s' : σ} (hr : Run step s₀ h s)
    (hr' : Run step s h' s') : Run step s₀ (h ++ h') s' := by
  induction hr' with
  | start => rwa [List.append_nil]
  | next _ hs ih =>
    rw [← List.append_assoc]
    exact ih.next hs

/-- Actions that can be taken one after the other make a run. -/
theorem of_foldlM {acts : List α} {s s' : σ} (hacts : acts.foldlM step s = some s') :
    ∀ {h : List (Event σ α)}, Run step s₀ h s → ∃ h', Run step s₀ (h ++ h') s' := by
  induction acts generalizing s with
  | nil =>
    intro h hr
    cases hacts
    exact ⟨[], by rwa [List.append_nil]⟩
  | cons a acts ih =>
    intro h hr
    rw [List.foldlM_cons] at hacts
    obtain ⟨s₁, hs₁, hacts⟩ := Option.bind_eq_some_iff.mp hacts
    obtain ⟨h', hr'⟩ := ih hacts (hr.next hs₁)
    exact ⟨⟨s, a, s₁⟩ :: h', by rwa [List.append_assoc, List.singleton_append] at hr'⟩

end Run

end Basis
