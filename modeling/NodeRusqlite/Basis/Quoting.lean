/-
  File:      NodeRusqlite/Basis/Quoting.lean
  Subject:   Texts between quotes that are doubled inside.

  * `double`: how a text is written between two quotes `q`.
  * `closing`: where such a text closes, in a list that `stop` terminates;
    `undouble`: what it says.
  * **`closing_double`, `undouble_double`**: what is written is read back, whatever
    comes after the closing quote, unless it is another one.
  * **`eq_double_of_closing`**: whatever closes has been written so.
-/
import NodeRusqlite.Basis.Lexing

namespace Basis

variable {α : Type} [DecidableEq α]

/-- Every quote twice. -/
def double (q : α) (s : List α) : List α := s.flatMap fun a => if a = q then [a, a] else [a]

/-- `(n, true)`: the quote at index `n` closes; `(n, false)`: the text ends after `n` symbols. -/
def closing (stop q : α) : List α → Nat × Bool
  | [] => (0, false)
  | [a] => if a = stop then (0, false) else if a = q then (0, true) else (1, false)
  | a :: b :: z =>
    if a = stop then (0, false)
    else if a = q then
      if b = q then ((closing stop q z).1 + 2, (closing stop q z).2) else (0, true)
    else ((closing stop q (b :: z)).1 + 1, (closing stop q (b :: z)).2)

/-- The symbols up to the closing quote, a doubled quote being one; `none`: it is not there. -/
def undouble (q : α) : List α → Option (List α)
  | [] => none
  | [a] => if a = q then some [] else none
  | a :: b :: z =>
    if a = q then if b = q then (undouble q z).map (q :: ·) else some []
    else (undouble q (b :: z)).map (a :: ·)

variable {stop q a : α} {s z rest junk : List α}

@[simp] theorem double_nil : double q [] = [] := rfl

theorem double_cons_self : double q (q :: s) = q :: q :: double q s := by
  simp [double]

theorem double_cons_of_ne (h : a ≠ q) : double q (a :: s) = a :: double q s := by
  simp [double, h]

theorem double_append (q : α) (s t : List α) : double q (s ++ t) = double q s ++ double q t :=
  List.flatMap_append

theorem double_of_not_mem (h : q ∉ s) : double q s = s := by
  induction s with
  | nil => rfl
  | cons a s ih =>
    have ⟨ha, hs⟩ := List.ne_and_not_mem_of_not_mem_cons h
    rw [double_cons_of_ne ha.symm, ih hs]

theorem closing_quote (hq : q ≠ stop) (h : symbol stop rest 0 ≠ q) :
    closing stop q (q :: rest) = (0, true) := by
  cases rest with
  | nil => simp [closing, hq]
  | cons b rest => simp only [closing, if_neg hq, if_true, if_neg (show b ≠ q from h)]

theorem closing_double_quote (hq : q ≠ stop) :
    closing stop q (q :: q :: z) = ((closing stop q z).1 + 2, (closing stop q z).2) := by
  simp only [closing, if_neg hq, if_true]

theorem closing_cons (hs : a ≠ stop) (hq : a ≠ q) :
    closing stop q (a :: z) = ((closing stop q z).1 + 1, (closing stop q z).2) := by
  cases z with
  | nil => simp [closing, hs, hq]
  | cons b z => simp only [closing, if_neg hs, if_neg hq]

theorem closing_stop : closing stop q (stop :: z) = (0, false) := by
  cases z with
  | nil => simp only [closing, if_true]
  | cons b z => simp only [closing, if_true]

/-- **What is written between quotes closes at its own closing quote.** -/
theorem closing_double (hq : q ≠ stop) (hs : stop ∉ s) (h : symbol stop rest 0 ≠ q) :
    closing stop q (double q s ++ q :: rest) = ((double q s).length, true) := by
  induction s with
  | nil => exact closing_quote hq h
  | cons a s ih =>
    have ⟨ha, hs⟩ := List.ne_and_not_mem_of_not_mem_cons hs
    by_cases haq : a = q
    · subst haq
      rw [double_cons_self, List.cons_append, List.cons_append, closing_double_quote hq, ih hs]
      rfl
    · rw [double_cons_of_ne haq, List.cons_append, closing_cons ha.symm haq, ih hs]
      rfl

/-- With a terminator in it, it does not close. -/
theorem closing_double_stop (hq : q ≠ stop) (hs : stop ∈ s) :
    (closing stop q (double q s ++ rest)).2 = false := by
  induction s with
  | nil => exact absurd hs List.not_mem_nil
  | cons a s ih =>
    by_cases haq : a = q
    · subst haq
      rw [double_cons_self, List.cons_append, List.cons_append, closing_double_quote hq]
      exact ih ((List.mem_cons.mp hs).resolve_left hq.symm)
    · rw [double_cons_of_ne haq, List.cons_append]
      by_cases ha : a = stop
      · subst ha
        rw [closing_stop]
      · rw [closing_cons ha haq]
        exact ih ((List.mem_cons.mp hs).resolve_left (Ne.symm ha))

/-- At least the closing quote goes. -/
theorem undouble_length : undouble q z = some s → s.length < z.length := by
  induction z using undouble.induct q generalizing s with
  | case1 => exact nofun
  | case2 =>
    intro h
    rw [undouble, if_pos rfl] at h
    cases h
    exact Nat.zero_lt_one
  | case3 b hne =>
    intro h
    rw [undouble, if_neg hne] at h
    cases h
  | case4 z ih =>
    intro h
    rw [undouble, if_pos rfl, if_pos rfl, Option.map_eq_some_iff] at h
    obtain ⟨s', hs', rfl⟩ := h
    exact Nat.lt_succ_of_lt (Nat.succ_lt_succ (ih hs'))
  | case5 b z hne =>
    intro h
    rw [undouble, if_pos rfl, if_neg hne] at h
    cases h
    exact Nat.succ_pos _
  | case6 a b z hne ih =>
    intro h
    rw [undouble, if_neg hne, Option.map_eq_some_iff] at h
    obtain ⟨s', hs', rfl⟩ := h
    exact Nat.succ_lt_succ (ih hs')

/-- **What is written between quotes is read back.** -/
theorem undouble_double (stop : α) (hq : q ≠ stop) (h : symbol stop rest 0 ≠ q) :
    undouble q (double q s ++ q :: rest) = some s := by
  induction s with
  | nil =>
    cases rest with
    | nil => exact if_pos rfl
    | cons b rest =>
      have hb : b ≠ q := h
      exact (if_pos rfl).trans (if_neg hb)
  | cons a s ih =>
    by_cases haq : a = q
    · subst haq
      rw [double_cons_self, List.cons_append, List.cons_append]
      simp only [undouble, if_true, ih, Option.map_some]
    · rw [double_cons_of_ne haq, List.cons_append]
      rcases hd : double q s ++ q :: rest with _ | ⟨b, l⟩
      · exact absurd hd (by simp)
      · rw [hd] at ih
        simp only [undouble, if_neg haq, ih, Option.map_some]

/-- It does not close if the text ends first. -/
theorem closing_unclosed (hq : q ≠ stop) (hs : stop ∉ s) (h : symbol stop rest 0 = stop) :
    closing stop q (double q s ++ rest) = ((double q s).length, false) := by
  induction s with
  | nil =>
    cases rest with
    | nil => rfl
    | cons b rest =>
      have hb : b = stop := h
      rw [hb]
      exact closing_stop
  | cons a s ih =>
    have ⟨ha, hs⟩ := List.ne_and_not_mem_of_not_mem_cons hs
    by_cases haq : a = q
    · subst haq
      rw [double_cons_self, List.cons_append, List.cons_append, closing_double_quote hq, ih hs]
      rfl
    · rw [double_cons_of_ne haq, List.cons_append, closing_cons ha.symm haq, ih hs]
      rfl

/-- **Every list starts with a text so written**, and then the text ends, or a quote closes it. -/
theorem exists_double (hq : q ≠ stop) : ∀ z : List α,
    ∃ s rest, z = double q s ++ rest ∧ stop ∉ s ∧
      (symbol stop rest 0 = stop ∨ ∃ rest', rest = q :: rest' ∧ symbol stop rest' 0 ≠ q)
  | [] => ⟨[], [], rfl, List.not_mem_nil, .inl rfl⟩
  | [a] => by
      by_cases ha : a = stop
      · exact ⟨[], [a], rfl, List.not_mem_nil, .inl ha⟩
      · by_cases haq : a = q
        · exact ⟨[], [a], rfl, List.not_mem_nil, .inr ⟨[], by rw [haq], hq.symm⟩⟩
        · refine ⟨[a], [], by rw [double_cons_of_ne haq]; rfl, ?_, .inl rfl⟩
          exact fun h => ha (List.mem_singleton.mp h).symm
  | a :: b :: z => by
      by_cases ha : a = stop
      · exact ⟨[], a :: b :: z, rfl, List.not_mem_nil, .inl ha⟩
      · by_cases haq : a = q
        · by_cases hbq : b = q
          · obtain ⟨s, rest, hz, hs, hrest⟩ := exists_double hq z
            refine ⟨q :: s, rest, by rw [double_cons_self, haq, hbq, hz]; rfl, ?_, hrest⟩
            exact List.not_mem_cons_of_ne_of_not_mem hq.symm hs
          · exact ⟨[], a :: b :: z, rfl, List.not_mem_nil, .inr ⟨b :: z, by rw [haq], hbq⟩⟩
        · obtain ⟨s, rest, hz, hs, hrest⟩ := exists_double hq (b :: z)
          refine ⟨a :: s, rest, by rw [double_cons_of_ne haq, hz]; rfl, ?_, hrest⟩
          exact List.not_mem_cons_of_ne_of_not_mem (Ne.symm ha) hs

/-- **Whatever closes has been written so.** -/
theorem eq_double_of_closing (hq : q ≠ stop) (h : (closing stop q z).2 = true) :
    ∃ s rest, z = double q s ++ q :: rest ∧ stop ∉ s ∧ symbol stop rest 0 ≠ q ∧
      (closing stop q z).1 = (double q s).length := by
  obtain ⟨s, rest, rfl, hs, hend | ⟨rest, rfl, hne⟩⟩ := exists_double hq z
  · rw [closing_unclosed hq hs hend] at h
    cases h
  · exact ⟨s, rest, rfl, hs, hne, by rw [closing_double hq hs hne]⟩

/-- The search stays within a text, and does not look behind its end. -/
theorem closing_contained (hq : q ≠ stop) (hz : stop ∉ z) :
    (closing stop q z).1 + (closing stop q z).2.toNat ≤ z.length ∧
      ∀ junk, closing stop q (z ++ stop :: junk) = closing stop q z := by
  obtain ⟨s, rest, rfl, hs, hend | ⟨rest, rfl, hne⟩⟩ := exists_double hq z
  · rw [closing_unclosed hq hs hend]
    refine ⟨by simp, fun junk => ?_⟩
    have hnil : rest = [] := by
      cases rest with
      | nil => rfl
      | cons b rest =>
        have hb : b = stop := hend
        exact absurd (by simp [hb]) hz
    rw [hnil, List.append_nil]
    exact closing_unclosed hq hs rfl
  · rw [closing_double hq hs hne]
    refine ⟨by simp, fun junk => ?_⟩
    have hne' : symbol stop (rest ++ stop :: junk) 0 ≠ q := by
      rwa [symbol_cut junk (Nat.zero_le _)]
    rw [List.append_assoc, List.cons_append, closing_double hq hs hne']

end Basis
