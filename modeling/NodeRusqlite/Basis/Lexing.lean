/-
  File:      NodeRusqlite/Basis/Lexing.lean
  Subject:   Reading the tokens of a text that a symbol terminates.

  A text is a list; `stop` ends it, if the list does not end first. What stands
  behind `stop` is not part of the text, and a scanner must not look at it.

  * `symbol`, `skip`: the symbol at an index, and a loop over an index.
  * `Contained`: a scanner that stays within every text; `Tokenizer`: one with a
    token at the front of every text that is not at its end.
  * `Local`: a scanner that looks one symbol ahead of its token.
  * **`Tokenizer.run_texts`**: the tokens are the text, cut into pieces.
  * `Tokenizer.run_append`: a token is read in place, whatever was read before it.
-/
import Mathlib.Data.List.GetD
import Mathlib.Data.List.TakeWhile

namespace Basis

variable {α τ : Type}

/-! ## 1. Terminated texts -/

section Terminated

variable (stop : α)

/-- The symbol at an index. -/
def symbol (z : List α) (i : Nat) : α := z.getD i stop

/-- `for (; p(z[i]); i++) {}`: the index it stops at. -/
def skip (p : α → Bool) (z : List α) (i : Nat) : Nat := i + ((z.drop i).takeWhile p).length

variable {stop} {p : α → Bool} {z w rest junk : List α} {i : Nat} {a : α}

@[simp] theorem symbol_zero_cons : symbol stop (a :: z) 0 = a := rfl

@[simp] theorem symbol_succ_cons : symbol stop (a :: z) (i + 1) = symbol stop z i := rfl

theorem symbol_of_length_le (h : z.length ≤ i) : symbol stop z i = stop :=
  List.getD_eq_default z stop h

/-- Where there is a symbol, the text has not ended. -/
theorem lt_of_symbol_ne (h : symbol stop z i ≠ stop) : i < z.length :=
  Nat.lt_of_not_le fun hle => h (symbol_of_length_le hle)

/-- In a text, only its end is `stop`. -/
theorem symbol_ne_of_lt (hz : stop ∉ z) (h : i < z.length) : symbol stop z i ≠ stop := by
  rw [symbol, List.getD_eq_getElem z stop h]
  exact fun heq => hz (heq ▸ List.getElem_mem h)

theorem symbol_append_right (w rest : List α) (i : Nat) :
    symbol stop (w ++ rest) (w.length + i) = symbol stop rest i := by
  rw [symbol, List.getD_append_right _ _ _ _ (Nat.le_add_right _ _), Nat.add_sub_cancel_left]
  rfl

theorem symbol_append_left (rest : List α) (h : i < w.length) :
    symbol stop (w ++ rest) i = symbol stop w i := List.getD_append _ _ _ _ h

/-- Up to the end, junk behind it changes nothing. -/
theorem symbol_cut (junk : List α) (h : i ≤ z.length) :
    symbol stop (z ++ stop :: junk) i = symbol stop z i := by
  rcases Nat.lt_or_eq_of_le h with hlt | heq
  · exact symbol_append_left _ hlt
  · subst heq
    rw [symbol_of_length_le (Nat.le_refl _)]
    exact symbol_append_right z (stop :: junk) 0

theorem le_skip : i ≤ skip p z i := Nat.le_add_right _ _

theorem skip_le (h : i ≤ z.length) : skip p z i ≤ z.length := by
  have hlen := (List.takeWhile_prefix p (l := z.drop i)).length_le
  rw [List.length_drop] at hlen
  unfold skip
  omega

theorem skip_cut (junk : List α) (hp : p stop = false) (h : i ≤ z.length) :
    skip p (z ++ stop :: junk) i = skip p z i := by
  unfold skip
  rw [List.drop_append_of_le_length h, List.takeWhile_append]
  split
  · rename_i heq
    rw [List.takeWhile_cons_of_neg (by simp [hp]), List.append_nil, heq]
  · rfl

/-- **A run of symbols is skipped, if the symbol after it ends the run.** -/
theorem skip_run (stop : α) (front : List α) (hw : ∀ a ∈ w, p a = true)
    (hp : p (symbol stop rest 0) = false) :
    skip p (front ++ (w ++ rest)) front.length = front.length + w.length := by
  have hrest : rest.takeWhile p = [] := by
    cases rest with
    | nil => rfl
    | cons a rest => exact List.takeWhile_cons_of_neg (by simpa using hp)
  unfold skip
  rw [List.drop_left, List.takeWhile_append_of_pos hw, hrest, List.append_nil]

/-- Up to where the loop stops, the symbols are of the run. -/
theorem skip_holds {j : Nat} (hi : i ≤ j) (hj : j < skip p z i) : p (symbol stop z j) = true := by
  have hlt : j - i < ((z.drop i).takeWhile p).length := by
    unfold skip at hj
    omega
  have hget := (List.takeWhile_prefix p (l := z.drop i)).getElem hlt
  have hmem := List.mem_takeWhile_imp (List.getElem_mem hlt)
  have hj : j < z.length := by
    have hlen := (List.takeWhile_prefix p (l := z.drop i)).length_le
    rw [List.length_drop] at hlen
    omega
  rw [hget, List.getElem_drop] at hmem
  rw [symbol, List.getD_eq_getElem z stop hj]
  simpa only [Nat.add_sub_cancel' hi] using hmem

theorem symbol_takeWhile (hp : p stop = false) (z : List α) :
    p (symbol stop z (z.takeWhile p).length) = false := by
  induction z with
  | nil => exact hp
  | cons a z ih =>
    by_cases ha : p a = true
    · rw [List.takeWhile_cons_of_pos ha]
      exact ih
    · rw [List.takeWhile_cons_of_neg ha]
      exact Bool.eq_false_iff.mpr ha

/-- The symbol it stops at is not of the run. -/
theorem skip_stops (hp : p stop = false) (z : List α) (i : Nat) :
    p (symbol stop z (skip p z i)) = false := by
  have hdrop := symbol_takeWhile hp (z.drop i)
  rwa [symbol, List.getD_eq_getElem?_getD, List.getElem?_drop,
    ← List.getD_eq_getElem?_getD] at hdrop

theorem lt_skip (stop : α) (h : p (symbol stop z i) = true) (hp : p stop = false) :
    i < skip p z i := by
  have hne : symbol stop z i ≠ stop := fun heq => by
    rw [heq, hp] at h
    cases h
  have hlt := lt_of_symbol_ne hne
  rw [symbol, List.getD_eq_getElem z stop hlt] at h
  rw [skip, List.drop_eq_getElem_cons hlt, List.takeWhile_cons_of_pos h, List.length_cons]
  omega

theorem skip_of_neg (stop : α) (hp : p (symbol stop z i) = false) : skip p z i = i := by
  have hnil : (z.drop i).takeWhile p = [] := by
    rcases hd : z.drop i with _ | ⟨a, l⟩
    · rfl
    · have ha : symbol stop z i = a := by
        have hget : (z.drop i)[0]? = some a := by rw [hd]; rfl
        rw [List.getElem?_drop, Nat.add_zero] at hget
        rw [symbol, List.getD_eq_getElem?_getD, hget]
        rfl
      exact List.takeWhile_cons_of_neg (by simpa [ha] using hp)
  rw [skip, hnil]
  rfl

end Terminated

section Text

variable [DecidableEq α] (stop : α)

/-- The text of a list. -/
def text : List α → List α
  | [] => []
  | a :: z => if a = stop then [] else a :: text z

variable {stop} {z t junk : List α}

theorem stop_not_mem_text (z : List α) : stop ∉ text stop z := by
  induction z with
  | nil => exact List.not_mem_nil
  | cons a z ih =>
    unfold text
    split
    · exact List.not_mem_nil
    · rename_i ha
      exact List.not_mem_cons_of_ne_of_not_mem (Ne.symm ha) ih

theorem text_of_not_mem (h : stop ∉ t) : text stop t = t := by
  induction t with
  | nil => rfl
  | cons a t ih =>
    have ⟨ha, ht⟩ := List.ne_and_not_mem_of_not_mem_cons h
    rw [text, if_neg ha.symm, ih ht]

theorem text_append_stop (h : stop ∉ t) (junk : List α) : text stop (t ++ stop :: junk) = t := by
  induction t with
  | nil => exact if_pos rfl
  | cons a t ih =>
    have ⟨ha, ht⟩ := List.ne_and_not_mem_of_not_mem_cons h
    rw [List.cons_append, text, if_neg ha.symm, ih ht]

/-- A list is its text, or its text with the terminator and something behind it. -/
theorem text_cases (stop : α) (z : List α) :
    z = text stop z ∨ ∃ junk, z = text stop z ++ stop :: junk := by
  induction z with
  | nil => exact .inl rfl
  | cons a z ih =>
    unfold text
    split
    · rename_i ha
      exact .inr ⟨z, by rw [ha]; rfl⟩
    · rcases ih with heq | ⟨junk, heq⟩
      · exact .inl (congrArg (a :: ·) heq)
      · exact .inr ⟨junk, congrArg (a :: ·) heq⟩

theorem text_ne_nil (h : symbol stop z 0 ≠ stop) : text stop z ≠ [] := by
  cases z with
  | nil => exact absurd rfl h
  | cons a z =>
    have ha : a ≠ stop := h
    rw [text, if_neg ha]
    exact List.cons_ne_nil _ _

theorem text_of_end (h : symbol stop z 0 = stop) : text stop z = [] := by
  cases z with
  | nil => rfl
  | cons a z => exact if_pos h

/-- A piece of the text, and what is left of it. -/
theorem take_drop_text {n : Nat} (h : n ≤ (text stop z).length) :
    z.take n = (text stop z).take n ∧ text stop (z.drop n) = (text stop z).drop n := by
  have hmem : stop ∉ (text stop z).drop n := fun hm => stop_not_mem_text z (List.mem_of_mem_drop hm)
  rcases text_cases stop z with heq | ⟨junk, heq⟩
  · rw [← heq] at hmem ⊢
    exact ⟨rfl, text_of_not_mem hmem⟩
  · generalize text stop z = t at heq h hmem ⊢
    rw [heq, List.take_append_of_le_length h, List.drop_append_of_le_length h]
    exact ⟨rfl, text_append_stop hmem junk⟩

theorem symbol_text (z : List α) : symbol stop (text stop z) 0 = symbol stop z 0 := by
  cases z with
  | nil => rfl
  | cons a z =>
    by_cases ha : a = stop
    · rw [text, if_pos ha, ha]
      rfl
    · rw [text, if_neg ha]
      rfl

end Text

/-! ## 2. Scanners -/

/-- A scanner gives what it recognises and an index. On a text, it stays within the text, and does
    not look behind the end. -/
def Stays (stop : α) (z : List α) (scan : List α → τ × Nat) : Prop :=
  (scan z).2 ≤ z.length ∧ ∀ junk, scan (z ++ stop :: junk) = scan z

section Stays

variable {stop : α} {z : List α} {f g scan : List α → τ × Nat}

theorem Stays.const (t : τ) {n : Nat} (h : n ≤ z.length) : Stays stop z fun _ => (t, n) :=
  ⟨h, fun _ => rfl⟩

theorem Stays.skip (t : τ) {p : α → Bool} (hp : p stop = false) {i : Nat} (h : i ≤ z.length) :
    Stays stop z fun z => (t, Basis.skip p z i) :=
  ⟨skip_le h, fun junk => congrArg (t, ·) (skip_cut junk hp h)⟩

/-- A scanner may branch on what junk behind the end does not change. -/
theorem Stays.ite {cond : List α → Prop} {_ : DecidablePred cond}
    (hcond : ∀ junk, cond (z ++ stop :: junk) ↔ cond z) (hf : cond z → Stays stop z f)
    (hg : ¬ cond z → Stays stop z g) : Stays stop z fun z => if cond z then f z else g z := by
  by_cases h : cond z
  · refine ⟨by simpa only [if_pos h] using (hf h).1, fun junk => ?_⟩
    simpa only [if_pos h, if_pos ((hcond junk).mpr h)] using (hf h).2 junk
  · refine ⟨by simpa only [if_neg h] using (hg h).1, fun junk => ?_⟩
    simpa only [if_neg h, if_neg (mt (hcond junk).mp h)] using (hg h).2 junk

/-- One scanner, and another one from there on. -/
theorem Stays.andThen {next : List α → τ → Nat → τ × Nat} (h : Stays stop z scan)
    (hnext : ∀ t i, i ≤ z.length → Stays stop z fun z => next z t i) :
    Stays stop z fun z => next z (scan z).1 (scan z).2 := by
  obtain ⟨hle, hcut⟩ := h
  obtain ⟨hle', hcut'⟩ := hnext (scan z).1 (scan z).2 hle
  exact ⟨hle', fun junk => by simpa only [hcut] using hcut' junk⟩

end Stays

/-! ### One symbol ahead -/

/-- The same symbols up to index `n`, the one at `n` included. -/
def SameTo (stop : α) (n : Nat) (z z' : List α) : Prop :=
  ∀ i ≤ n, symbol stop z' i = symbol stop z i

/-- What a scanner recognises depends on the symbols of its token and the one behind it. -/
def Local (stop : α) (z : List α) (scan : List α → τ × Nat) : Prop :=
  ∀ z', SameTo stop (scan z).2 z z' → scan z' = scan z

section Local

variable {stop : α} {z z' w rest : List α} {f g scan : List α → τ × Nat} {n i : Nat}

theorem SameTo.mono {m : Nat} (h : SameTo stop n z z') (hm : m ≤ n) : SameTo stop m z z' :=
  fun i hi => h i (hi.trans hm)

theorem SameTo.iff {P : α → Prop} (h : SameTo stop n z z') (hi : i ≤ n) :
    P (symbol stop z' i) ↔ P (symbol stop z i) := by rw [h i hi]

theorem symbol_drop (z : List α) (k i : Nat) :
    symbol stop (z.drop k) i = symbol stop z (k + i) := by
  rw [symbol, symbol, List.getD_eq_getElem?_getD, List.getElem?_drop, List.getD_eq_getElem?_getD]

/-- **A list that looks like another one starts like it.** -/
theorem SameTo.append (hw : stop ∉ w) (h : SameTo stop (w.length + n) (w ++ rest) z') :
    ∃ rest', z' = w ++ rest' ∧ SameTo stop n rest rest' := by
  induction w generalizing z' with
  | nil => exact ⟨z', rfl, h.mono (Nat.le_add_left _ _)⟩
  | cons a w ih =>
    have ⟨ha, hrest⟩ := List.ne_and_not_mem_of_not_mem_cons hw
    have h0 : symbol stop z' 0 = a := h 0 (Nat.zero_le _)
    cases z' with
    | nil => exact absurd h0 ha
    | cons b z' =>
      have hb : b = a := h0
      subst hb
      have htail : SameTo stop (w.length + n) (w ++ rest) z' := fun i hi => by
        have hi' := h (i + 1) (by rw [List.length_cons]; omega)
        exact hi'
      obtain ⟨rest', rfl, hsame⟩ := ih hrest htail
      exact ⟨rest', rfl, hsame⟩

/-- What stands behind a piece is seen with its first symbol only. -/
theorem sameTo_append {rest' : List α} (h : symbol stop rest' 0 = symbol stop rest 0) :
    SameTo stop w.length (w ++ rest) (w ++ rest') := by
  intro i hi
  rcases Nat.lt_or_eq_of_le hi with hlt | rfl
  · rw [symbol_append_left _ hlt, symbol_append_left _ hlt]
  · exact (symbol_append_right w rest' 0).trans (h.trans (symbol_append_right w rest 0).symm)

/-- Where the loop stops is determined by what it sees. -/
theorem skip_unique {p : α → Bool} {j : Nat} (hp : p stop = false) (hi : i ≤ j)
    (hrun : ∀ k, i ≤ k → k < j → p (symbol stop z k) = true)
    (hend : p (symbol stop z j) = false) : skip p z i = j := by
  have hstops := skip_stops hp z i
  rcases Nat.lt_trichotomy (skip p z i) j with hlt | heq | hgt
  · rw [hrun _ le_skip hlt] at hstops
    cases hstops
  · exact heq
  · have hholds : p (symbol stop z j) = true := skip_holds hi hgt
    rw [hend] at hholds
    cases hholds

theorem SameTo.skip {p : α → Bool} (hp : p stop = false) (h : SameTo stop (skip p z i) z z') :
    Basis.skip p z' i = Basis.skip p z i := by
  refine skip_unique hp le_skip (fun k hik hk => ?_) ?_
  · rw [h k hk.le]
    exact skip_holds hik hk
  · rw [h _ (Nat.le_refl _)]
    exact skip_stops hp z i

theorem Local.const (t : τ) (n : Nat) : Local stop z fun _ => (t, n) := fun _ _ => rfl

theorem Local.skip (t : τ) {p : α → Bool} (hp : p stop = false) :
    Local stop z fun z => (t, Basis.skip p z i) := fun _ h => congrArg (t, ·) (SameTo.skip hp h)

/-- A scanner may branch on symbols that the token it then recognises reaches. -/
theorem Local.ite {cond : List α → Prop} {_ : DecidablePred cond}
    (hcond : ∀ z', SameTo stop (if cond z then f z else g z).2 z z' → (cond z' ↔ cond z))
    (hf : cond z → Local stop z f) (hg : ¬ cond z → Local stop z g) :
    Local stop z fun z => if cond z then f z else g z := by
  intro z' h
  have hiff := hcond z' h
  dsimp only at h ⊢
  by_cases hz : cond z
  · rw [if_pos hz] at h ⊢
    rw [if_pos (hiff.mpr hz), hf hz z' h]
  · rw [if_neg hz] at h ⊢
    rw [if_neg (mt hiff.mp hz), hg hz z' h]

/-- One scanner, and another one from there on. -/
theorem Local.andThen {next : List α → τ → Nat → τ × Nat} (h : Local stop z scan)
    (hle : (scan z).2 ≤ (next z (scan z).1 (scan z).2).2)
    (hnext : Local stop z fun z' => next z' (scan z).1 (scan z).2) :
    Local stop z fun z => next z (scan z).1 (scan z).2 := by
  intro z' hsame
  have hscan := h z' (hsame.mono hle)
  dsimp only at hsame ⊢
  rw [hscan]
  exact hnext z' hsame

end Local

/-- On every text that is not at its end, it stays within the text. -/
def Contained (stop : α) (scan : List α → τ × Nat) : Prop :=
  ∀ z, stop ∉ z → z ≠ [] → Stays stop z scan

/-- A scanner that reads something of every text that is not at its end. -/
structure Tokenizer (α τ : Type) where
  stop : α
  next : List α → τ × Nat
  contained : Contained stop next
  progress : ∀ z, symbol stop z 0 ≠ stop → 0 < (next z).2

namespace Tokenizer

theorem drop_lt (T : Tokenizer α τ) {z : List α} (h : symbol T.stop z 0 ≠ T.stop) :
    (z.drop (T.next z).2).length < z.length := by
  have hpos := T.progress z h
  have hlt := lt_of_symbol_ne h
  rw [List.length_drop]
  omega

variable [DecidableEq α] (T : Tokenizer α τ)

/-- The tokens of a text, each with its piece of the text. -/
def run (z : List α) : List (τ × List α) :=
  if _h : symbol T.stop z 0 = T.stop then []
  else ((T.next z).1, z.take (T.next z).2) :: run (z.drop (T.next z).2)
termination_by z.length
decreasing_by exact T.drop_lt ‹_›

variable {T} {z w rest : List α} {t : τ}

theorem run_of_end (h : symbol T.stop z 0 = T.stop) : T.run z = [] := by
  rw [run, dif_pos h]

theorem run_of_ne (h : symbol T.stop z 0 ≠ T.stop) :
    T.run z = ((T.next z).1, z.take (T.next z).2) :: T.run (z.drop (T.next z).2) := by
  rw [run, dif_neg h]

/-- **A token that stands at the front is read, and then the rest.** -/
theorem run_append (hw : w ≠ []) (hstop : T.stop ∉ w) (h : T.next (w ++ rest) = (t, w.length)) :
    T.run (w ++ rest) = (t, w) :: T.run rest := by
  have hne : symbol T.stop (w ++ rest) 0 ≠ T.stop := by
    have hlt := List.length_pos_iff.mpr hw
    rw [symbol_append_left rest hlt]
    exact symbol_ne_of_lt hstop hlt
  rw [run_of_ne hne, h, List.take_left, List.drop_left]

/-- The scanner sees the text only, and its token is a piece of the text. -/
theorem next_text (h : symbol T.stop z 0 ≠ T.stop) :
    T.next z = T.next (text T.stop z) ∧ (T.next z).2 ≤ (text T.stop z).length := by
  obtain ⟨hle, hcut⟩ := T.contained (text T.stop z) (stop_not_mem_text z) (text_ne_nil h)
  have hnext : T.next z = T.next (text T.stop z) := by
    rcases text_cases T.stop z with heq | ⟨junk, heq⟩
    · rw [← heq]
    · have hjunk := hcut junk
      rwa [← heq] at hjunk
  exact ⟨hnext, hnext ▸ hle⟩

/-- **The tokens are the text, cut into pieces, none of them empty.** -/
theorem run_texts (T : Tokenizer α τ) (z : List α) :
    (T.run z).flatMap (fun token => token.2) = text T.stop z ∧ ∀ token ∈ T.run z, token.2 ≠ [] := by
  induction hn : z.length using Nat.strongRecOn generalizing z with
  | ind n ih =>
    subst hn
    by_cases h : symbol T.stop z 0 = T.stop
    · rw [run_of_end h, text_of_end h]
      exact ⟨rfl, fun _ hm => absurd hm List.not_mem_nil⟩
    · obtain ⟨htexts, hne⟩ := ih _ (T.drop_lt h) _ rfl
      obtain ⟨htake, hdrop⟩ := take_drop_text (T.next_text h).2
      rw [run_of_ne h, List.flatMap_cons, htexts, htake, hdrop, List.take_append_drop]
      refine ⟨rfl, fun token hm => ?_⟩
      rcases List.mem_cons.mp hm with rfl | hm
      · have hpos := T.progress z h
        have hlt := lt_of_symbol_ne h
        exact List.length_pos_iff.mp (by rw [← htake, List.length_take]; omega)
      · exact hne token hm

/-- Every token has stood at the front of a list. -/
theorem mem_run {token : τ × List α} : token ∈ T.run z → ∃ z', symbol T.stop z' 0 ≠ T.stop ∧
    token = ((T.next z').1, z'.take (T.next z').2) := by
  induction hn : z.length using Nat.strongRecOn generalizing z with
  | ind n ih =>
    subst hn
    intro hm
    by_cases h : symbol T.stop z 0 = T.stop
    · rw [run_of_end h] at hm
      exact absurd hm List.not_mem_nil
    · rw [run_of_ne h] at hm
      rcases List.mem_cons.mp hm with heq | hm
      · exact ⟨z, h, heq⟩
      · exact ih _ (T.drop_lt h) rfl hm

/-- **What stands behind the terminator does not matter.** -/
theorem run_text (T : Tokenizer α τ) (z : List α) : T.run (text T.stop z) = T.run z := by
  induction hn : z.length using Nat.strongRecOn generalizing z with
  | ind n ih =>
    subst hn
    by_cases h : symbol T.stop z 0 = T.stop
    · rw [run_of_end h, run_of_end ((symbol_text z).trans h)]
    · have h' : symbol T.stop (text T.stop z) 0 ≠ T.stop := by rwa [symbol_text]
      obtain ⟨hnext, hle⟩ := T.next_text h
      obtain ⟨htake, hdrop⟩ := take_drop_text hle
      rw [run_of_ne h, run_of_ne h', ← hnext, ← htake, ← hdrop, ih _ (T.drop_lt h) _ rfl]

end Tokenizer

end Basis
