/-
  File:      NodeRusqlite/Sqlite/Lookahead.lean
  Subject:   How far the tokenizer looks behind a token.

  A legal token that is no parameter depends on its own bytes and on the one
  behind it; the only exception is `/*` at the very end of a text, which is two
  tokens.

  * **`getToken_local`**: one byte of lookahead.
  * **`getToken_before_literal`**: behind spaces, parentheses, commas and most
    operators a literal is read as itself.
-/
import NodeRusqlite.Sqlite.TokenText

namespace NodeRusqlite.Sqlite

open Basis (skip closing double Local SameTo)

variable {z z' w rest rest' : List UInt8} {i n : Nat} {t : TK}

/-! ## 1. The classes -/

theorem byteAt_same {P : UInt8 → Prop} (h : SameTo 0 n z z') (hi : i ≤ n) :
    P (byteAt z' i) ↔ P (byteAt z i) := h.iff hi

theorem idToken_local (i : Nat) : Local 0 z fun z => idToken z i := Local.skip _ (by decide)

theorem minusToken_local (z : List UInt8) : Local 0 z minusToken := by
  refine Local.ite (fun z' h => byteAt_same (P := (· = '-'.toUInt8)) h (minusToken_pos z))
    (fun _ => Local.skip _ (before_zero _)) fun hcomment => ?_
  refine Local.ite (fun z' h => byteAt_same (P := (· = '>'.toUInt8)) h ?_)
    (fun _ => ?_) fun _ => Local.const _ _
  · have hpos := minusToken_pos z
    rw [minusToken, if_neg hcomment] at hpos
    exact hpos
  · refine Local.ite (fun z' h => byteAt_same (P := (· = '>'.toUInt8)) h ?_)
      (fun _ => Local.const _ _) fun _ => Local.const _ _
    split <;> decide

/-- A comment is closed, or goes on to the end. -/
theorem commentLoop_same (z : List UInt8) : ∀ (c : UInt8) (z' : List UInt8),
    (∀ i < commentLoop c z, byteAt z' i = byteAt z i) →
    (byteAt z (commentLoop c z) = 0 → byteAt z' (commentLoop c z) = 0) →
      commentLoop c z' = commentLoop c z := by
  have hstart (c b : UInt8) (z' : List UInt8) (h : b = 0) : commentLoop c (b :: z') = 0 := by
    have hno : ¬ (c = '*'.toUInt8 ∧ b = '/'.toUInt8) := fun hc => by
      rw [h] at hc
      exact absurd hc.2 (by decide)
    rw [commentLoop, if_neg hno, if_pos h]
  have hend (c : UInt8) (z' : List UInt8) (h : byteAt z' 0 = 0) : commentLoop c z' = 0 := by
    cases z' with
    | nil => rfl
    | cons b z' => exact hstart c b z' h
  induction z with
  | nil => exact fun c z' _ h0 => hend c z' (h0 rfl)
  | cons b z ih =>
    intro c z' hsame h0
    rw [commentLoop] at hsame h0 ⊢
    split
    · rename_i hclose
      rw [if_pos hclose] at hsame
      have hb : byteAt z' 0 = b := hsame 0 Nat.zero_lt_one
      cases z' with
      | nil =>
        rw [← hb] at hclose
        exact absurd hclose.2 (by decide)
      | cons b' z' =>
        have hb' : b' = b := hb
        rw [commentLoop, hb', if_pos hclose]
    · rename_i hopen
      rw [if_neg hopen] at hsame h0
      split
      · rename_i hzero
        rw [if_pos hzero] at h0
        exact hend c z' (h0 hzero)
      · rename_i hmore
        rw [if_neg hmore] at hsame h0
        have hb : byteAt z' 0 = b := hsame 0 (Nat.succ_pos _)
        cases z' with
        | nil => exact absurd hb.symm hmore
        | cons b' z' =>
          have hb' : b' = b := hb
          subst hb'
          rw [commentLoop, if_neg hopen, if_neg hmore,
            ih b' z' (fun i hi => hsame (i + 1) (Nat.succ_lt_succ hi)) h0]

theorem slashToken_local (hmore : ¬ (byteAt z 1 = '*'.toUInt8 ∧ byteAt z 2 = 0)) :
    Local 0 z slashToken := by
  refine Local.ite (fun z' h => ?_) (fun _ => Local.const _ _) fun hcomment => ?_
  · have hpos : 1 ≤ (slashToken z).2 := slashToken_pos z
    have h1 : byteAt z' 1 = byteAt z 1 := h 1 hpos
    rw [h1]
    by_cases hstar : byteAt z 1 = '*'.toUInt8
    · have h2 : byteAt z' 2 = byteAt z 2 := by
        refine h 2 ?_
        have hcond : ¬ (byteAt z 1 ≠ '*'.toUInt8 ∨ byteAt z 2 = 0) :=
          fun hor => hor.elim (fun hne => hne hstar) fun hzero => hmore ⟨hstar, hzero⟩
        rw [if_neg hcond]
        omega
      rw [h2]
    · exact iff_of_true (.inl hstar) (.inl hstar)
  · intro z' h
    dsimp only at h ⊢
    have hc : byteAt z' 2 = byteAt z 2 := h 2 (by omega)
    have hloop : commentLoop (byteAt z 2) (z'.drop 3) = commentLoop (byteAt z 2) (z.drop 3) := by
      have hbyte (i : Nat) (hi : i ≤ commentLoop (byteAt z 2) (z.drop 3)) :
          byteAt (z'.drop 3) i = byteAt (z.drop 3) i := by
        have hsame := h (3 + i) (Nat.add_le_add_left hi 3)
        rwa [← Basis.symbol_drop, ← Basis.symbol_drop] at hsame
      exact commentLoop_same _ _ _ (fun i hi => hbyte i hi.le)
        fun h0 => (hbyte _ (Nat.le_refl _)).trans h0
    rw [hc, hloop]

theorem quoteToken_local (hq : aiClass (byteAt z 0) = .quote)
    (hlegal : (quoteToken z).1 ≠ .ILLEGAL) : Local 0 z quoteToken := by
  cases z with
  | nil => exact absurd hq (by decide)
  | cons q z =>
    have hq' : aiClass q = .quote := hq
    rw [quoteToken_cons] at hlegal
    by_cases hclosed : (closing 0 q z).2 = true
    · obtain ⟨s, rest, rfl, hs, hnext, hlen⟩ :=
        Basis.eq_double_of_closing (ne_zero_of_quote hq') hclosed
      have hclosing := Basis.closing_double (ne_zero_of_quote hq') hs hnext
      intro z' h
      have htoken : (quoteToken (q :: (double q s ++ q :: rest))).2 = (quoted q s).length + 0 := by
        rw [quoteToken_cons, hclosing, if_pos rfl]
        simp only [quoted, List.length_cons, List.length_append, List.length_nil]
        omega
      rw [htoken] at h
      rw [← quoted_append] at h ⊢
      obtain ⟨rest', rfl, hrest⟩ := h.append (zero_not_mem_quoted (ne_zero_of_quote hq') hs)
      have hnext' : byteAt rest' 0 ≠ q := by
        rw [show byteAt rest' 0 = byteAt rest 0 from hrest 0 (Nat.le_refl _)]
        exact hnext
      rw [quoted_append, quoted_append, quoteToken_cons, quoteToken_cons, hclosing,
        Basis.closing_double (ne_zero_of_quote hq') hs hnext']
    · rw [if_neg hclosed] at hlegal
      exact absurd rfl hlegal

/-- The same bytes, none of them the end. -/
theorem take_same (h : SameTo 0 n z z') (hne : ∀ i < n, byteAt z i ≠ 0) :
    z'.take n = z.take n := by
  have hlen {l : List UInt8} (hl : ∀ i < n, byteAt l i ≠ 0) : n ≤ l.length := by
    rcases Nat.eq_zero_or_pos n with rfl | hpos
    · exact Nat.zero_le _
    · have hlt : n - 1 < l.length := Basis.lt_of_symbol_ne (hl (n - 1) (by omega))
      omega
  have hz := hlen hne
  have hz' := hlen (l := z') fun i hi => by
    rw [show byteAt z' i = byteAt z i from h i hi.le]
    exact hne i hi
  refine List.ext_getElem (by rw [List.length_take, List.length_take]; omega) fun i hi hi' => ?_
  rw [List.length_take] at hi
  have hget := h i (by omega)
  rw [Basis.symbol, Basis.symbol, List.getD_eq_getElem z' 0 (by omega),
    List.getD_eq_getElem z 0 (by omega)] at hget
  rw [List.getElem_take, List.getElem_take, hget]

theorem bracketToken_local (hlegal : (bracketToken z).1 ≠ .ILLEGAL) : Local 0 z bracketToken := by
  intro z' h
  unfold bracketToken at hlegal h ⊢
  dsimp only at hlegal h ⊢
  split at hlegal
  · rename_i hclosed
    rw [if_pos hclosed] at h ⊢
    have hskip : skip (before ']'.toUInt8) z' 1 = skip (before ']'.toUInt8) z 1 :=
      SameTo.skip (before_zero _) (h.mono (Nat.le_succ _))
    have hbyte := h _ (Nat.le_succ (skip (before ']'.toUInt8) z 1))
    rw [hskip, if_pos (show byteAt z' _ = _ from hbyte.trans hclosed)]
  · exact absurd rfl hlegal

theorem xToken_local (hlegal : (xToken z).1 ≠ .ILLEGAL) : Local 0 z xToken := by
  intro z' h
  have h1 : byteAt z' 1 = byteAt z 1 := h 1 (xToken_pos z)
  unfold xToken at hlegal h ⊢
  rw [h1]
  split
  · rename_i hquote
    rw [if_pos hquote] at hlegal h
    dsimp only at hlegal h ⊢
    by_cases hbad : byteAt z (skip isxdigit z 2) ≠ '\''.toUInt8 ∨ skip isxdigit z 2 % 2 = 1
    · rw [if_pos hbad] at hlegal
      split at hlegal <;> exact absurd rfl hlegal
    · rw [if_neg hbad] at h ⊢
      have hskip : skip isxdigit z' 2 = skip isxdigit z 2 :=
        SameTo.skip (by decide) (h.mono (Nat.le_succ _))
      have hbyte : byteAt z' (skip isxdigit z 2) = byteAt z (skip isxdigit z 2) :=
        h _ (Nat.le_succ _)
      rw [hskip, hbyte, if_neg hbad]
  · rename_i hquote
    rw [if_neg hquote] at h
    exact idToken_local 1 z' h

theorem bomToken_local (z : List UInt8) : Local 0 z bomToken := by
  refine Local.ite (fun z' h => ?_) (fun _ => Local.const _ _) fun _ => idToken_local 1
  have hpos := bomToken_pos z
  have h1 : byteAt z' 1 = byteAt z 1 := h 1 hpos
  rw [h1]
  refine and_congr_right fun hbb => ?_
  have h2 : byteAt z' 2 = byteAt z 2 := by
    refine h 2 ?_
    split
    · exact Nat.le_succ 2
    · -- the second byte belongs to an identifier
      exact Basis.lt_skip 0 (show idChar (byteAt z 1) = true by rw [hbb]; decide) (by decide)
  rw [h2]

theorem kywd0Token_local (hne : byteAt z 0 ≠ 0) : Local 0 z kywd0Token := by
  refine Local.ite (fun z' h => byteAt_same (P := fun c => (!isKeywordByte c) = true) h
    (kywd0Token_pos z)) (fun _ => idToken_local 1) fun hkeyword => ?_
  have hholds {j : Nat} (hj : j < skip isKeywordByte z 2) (h2 : 2 ≤ j) :
      isKeywordByte (byteAt z j) = true := Basis.skip_holds h2 hj
  have hle : 2 ≤ skip isKeywordByte z 2 := Basis.le_skip
  intro z' h
  dsimp only at h ⊢
  have hid : skip isKeywordByte z 2 ≤ (idToken z (skip isKeywordByte z 2 + 1)).2 :=
    (Nat.le_succ _).trans Basis.le_skip
  have hskip : skip isKeywordByte z' 2 = skip isKeywordByte z 2 := by
    refine SameTo.skip (by decide) (h.mono ?_)
    split
    · exact hid
    · exact Nat.le_refl _
  rw [hskip]
  have hbyte : byteAt z' (skip isKeywordByte z 2) = byteAt z (skip isKeywordByte z 2) := by
    refine h _ ?_
    split
    · exact hid
    · exact Nat.le_refl _
  rw [hbyte]
  split
  · rename_i hmore
    rw [if_pos hmore] at h
    exact idToken_local _ z' h
  · rename_i hend
    rw [if_neg hend] at h
    have hzero {b : UInt8} (hb : isKeywordByte b = true) : b ≠ 0 := fun h0 => by
      rw [h0] at hb
      exact absurd hb (by decide)
    rw [take_same h fun j hj => ?_]
    rcases j with _ | _ | j
    · exact hne
    · exact hzero (by simpa using hkeyword)
    · exact hzero (hholds hj (by omega))

/-! ## 2. Numbers -/

theorem digitRun_local {isDigit : UInt8 → Bool} (hD : isDigit 0 = false) (t : TK) :
    Local 0 z fun z => digitRun isDigit z i t := by
  have hp : (isDigit 0 || (0 : UInt8) == digitSeparator) = false := by rw [hD]; decide
  intro z' h
  have hskip : skip (fun c => isDigit c || c == digitSeparator) z' i =
      skip (fun c => isDigit c || c == digitSeparator) z i :=
    SameTo.skip (p := fun c => isDigit c || c == digitSeparator) hp h
  have hholds {k : Nat} (hik : i ≤ k)
      (hk : k < skip (fun c => isDigit c || c == digitSeparator) z i) :
      (isDigit (byteAt z k) || byteAt z k == digitSeparator) = true := Basis.skip_holds hik hk
  have hle : i ≤ skip (fun c => isDigit c || c == digitSeparator) z i := Basis.le_skip
  dsimp only [digitRun] at h ⊢
  rw [hskip]
  generalize skip (fun c => isDigit c || c == digitSeparator) z i = j at h hholds hle ⊢
  have htake : (z'.drop i).take (j - i) = (z.drop i).take (j - i) := by
    refine take_same (fun k hk => ?_) fun k hk h0 => ?_
    · rw [Basis.symbol_drop, Basis.symbol_drop]
      exact h _ (by omega)
    · have hdigit := hholds (Nat.le_add_right i k) (by omega)
      rw [byteAt, Basis.symbol_drop] at h0
      rw [show byteAt z (i + k) = 0 from h0, hp] at hdigit
      cases hdigit
  rw [htake]

theorem fractionRun_local (t : TK) : Local 0 z fun z => fractionRun z t i :=
  Local.ite (fun _ h => byteAt_same (P := (· = '.'.toUInt8)) h (le_fractionRun z t i))
    (fun _ => digitRun_local (by decide) _) fun _ => Local.const _ _

/-- A zero with an `x` behind it that is no hexadecimal number. -/
theorem decimalRun_zero (h0 : byteAt z 0 = '0'.toUInt8)
    (h1 : byteAt z 1 = 'x'.toUInt8 ∨ byteAt z 1 = 'X'.toUInt8) : (decimalRun z).2 = 1 := by
  have hno {b : UInt8} (hx : 'x'.toUInt8 ≠ b) (hX : 'X'.toUInt8 ≠ b) : byteAt z 1 ≠ b := by
    rcases h1 with h1 | h1
    · rwa [h1]
    · rwa [h1]
  have hint : (digitRun isdigit z 0 .INTEGER).2 = 1 := by
    have hp : (isdigit 0 || (0 : UInt8) == digitSeparator) = false := by decide
    refine Basis.skip_unique (p := fun c => isdigit c || c == digitSeparator) hp (Nat.zero_le 1)
      (fun k _ hk => ?_) ?_
    · have hk0 : k = 0 := by omega
      rw [hk0, show Basis.symbol 0 z 0 = '0'.toUInt8 from h0]
      decide
    · show (isdigit (byteAt z 1) || byteAt z 1 == digitSeparator) = false
      rcases h1 with h1 | h1 <;> rw [h1] <;> decide
  have hfraction (t : TK) : fractionRun z t 1 = (t, 1) := if_neg (hno (by decide) (by decide))
  have hexponent (t : TK) : exponentRun z t 1 = (t, 1) :=
    if_neg fun hc => hc.1.elim (hno (by decide) (by decide)) (hno (by decide) (by decide))
  unfold decimalRun
  simp only [hint, hfraction, hexponent]

/-- Behind a number no identifier goes on. -/
theorem exponentRun_local (t : TK) (hend : idChar (byteAt z (exponentRun z t i).2) = false) :
    Local 0 z fun z => exponentRun z t i := by
  intro z' h
  dsimp only at h
  have hi : byteAt z' i = byteAt z i := h i (le_exponentRun z t i)
  unfold exponentRun at hend h ⊢
  dsimp only
  by_cases hcond : (byteAt z i = 'e'.toUInt8 ∨ byteAt z i = 'E'.toUInt8) ∧
      (isdigit (byteAt z (i + 1)) ∨
        (byteAt z (i + 1) = '+'.toUInt8 ∨ byteAt z (i + 1) = '-'.toUInt8) ∧
          isdigit (byteAt z (i + 2)))
  · rw [if_pos hcond] at h
    have hle : i + 2 ≤ (digitRun isdigit z (i + 2) (orFloat t)).2 := Basis.le_skip
    have h1 : byteAt z' (i + 1) = byteAt z (i + 1) := h _ (by omega)
    have h2 : byteAt z' (i + 2) = byteAt z (i + 2) := h _ hle
    rw [hi, h1, h2, if_pos hcond, if_pos hcond]
    exact digitRun_local (by decide) _ z' h
  · rw [if_neg hcond] at hend ⊢
    rw [if_neg fun hcond' => ?_]
    rw [hi] at hcond'
    exact hcond'.1.elim (ne_of_idChar hend (by decide)) (ne_of_idChar hend (by decide))

theorem decimalRun_local (hend : idChar (byteAt z (decimalRun z).2) = false) :
    Local 0 z decimalRun := by
  have hint : Local 0 z fun z => digitRun isdigit z 0 .INTEGER := digitRun_local (by decide) _
  have hfraction : Local 0 z fun z =>
      fractionRun z (digitRun isdigit z 0 .INTEGER).1 (digitRun isdigit z 0 .INTEGER).2 :=
    hint.andThen (le_fractionRun z _ _) (fractionRun_local _)
  exact hfraction.andThen (le_exponentRun z _ _) (exponentRun_local _ hend)

theorem numberRun_local (hpos : 1 ≤ (numberRun z).2)
    (hend : idChar (byteAt z (numberRun z).2) = false) : Local 0 z numberRun := by
  intro z' h
  have h0 : byteAt z' 0 = byteAt z 0 := h 0 (Nat.zero_le _)
  have h1 : byteAt z' 1 = byteAt z 1 := h 1 hpos
  unfold numberRun at hend h hpos ⊢
  rw [h0, h1]
  by_cases hhex : byteAt z 0 = '0'.toUInt8 ∧ (byteAt z 1 = 'x'.toUInt8 ∨ byteAt z 1 = 'X'.toUInt8)
  · by_cases hdigit : isxdigit (byteAt z 2) = true
    · rw [if_pos ⟨hhex.1, hhex.2, hdigit⟩] at h
      have hle : 3 ≤ (digitRun isxdigit z 3 .INTEGER).2 := Basis.le_skip
      have h2 : byteAt z' 2 = byteAt z 2 := h 2 (by omega)
      rw [h2, if_pos ⟨hhex.1, hhex.2, hdigit⟩, if_pos ⟨hhex.1, hhex.2, hdigit⟩]
      exact digitRun_local (by decide) _ z' h
    · -- `0x` and no digit: the number is `0`, and an identifier would go on
      rw [if_neg fun hc => hdigit hc.2.2, decimalRun_zero hhex.1 hhex.2] at hend
      rcases hhex.2 with hx | hx <;> rw [hx] at hend <;> exact absurd hend (by decide)
  · rw [if_neg fun hc => hhex ⟨hc.1, hc.2.1⟩] at hend h ⊢
    rw [if_neg fun hc => hhex ⟨hc.1, hc.2.1⟩]
    exact decimalRun_local hend z' h

theorem digitToken_local (hpos : 1 ≤ (numberRun z).2) (hlegal : (digitToken z).1 ≠ .ILLEGAL) :
    Local 0 z digitToken := by
  have hend : idChar (byteAt z (numberRun z).2) = false := by
    unfold digitToken numberEnd at hlegal
    by_contra h
    rw [if_pos (by simpa using h)] at hlegal
    exact hlegal rfl
  refine (numberRun_local hpos hend).andThen Basis.le_skip fun z' h => ?_
  have hskip := SameTo.skip (p := idChar) (by decide) h
  have hbyte : byteAt z' (numberRun z).2 = byteAt z (numberRun z).2 := h _ Basis.le_skip
  simp only [numberEnd, hskip, hbyte]

theorem numberRun_pos (h : isdigit (byteAt z 0) = true ∨ byteAt z 0 = '.'.toUInt8) :
    1 ≤ (numberRun z).2 := by
  unfold numberRun
  split
  · exact skip_pos _ z (by decide)
  · exact decimalRun_pos h

theorem dotToken_local (hdot : byteAt z 0 = '.'.toUInt8) (hlegal : (dotToken z).1 ≠ .ILLEGAL) :
    Local 0 z dotToken := by
  unfold dotToken at hlegal
  refine Local.ite (fun z' h => byteAt_same (P := fun c => (!isdigit c) = true) h
    (dotToken_pos hdot)) (fun _ => Local.const _ _) fun hnumber => ?_
  rw [if_neg hnumber] at hlegal
  exact digitToken_local (numberRun_pos (.inr hdot)) hlegal

/-! ## 3. The tokenizer -/

theorem second_local {second : UInt8 → TK × Nat} (h : Second second) :
    Local 0 z fun z => second (byteAt z 1) := fun _ hsame =>
  congrArg second (hsame 1 (second_pos h _))

theorem aiClass_slash (b : UInt8) : aiClass b = .slash → b = '/'.toUInt8 :=
  forall_byte (P := fun b => aiClass b = .slash → b = '/'.toUInt8) (by decide +kernel) b

/-- **A legal token that is no parameter looks one byte ahead**, `/*` at the end of a text
    apart. -/
theorem getToken_local (hne : byteAt z 0 ≠ 0) (hlegal : (getToken z).1 ≠ .ILLEGAL)
    (hvariable : (getToken z).1 ≠ .VARIABLE)
    (hmore : byteAt z 0 = '/'.toUInt8 → ¬ (byteAt z 1 = '*'.toUInt8 ∧ byteAt z 2 = 0)) :
    Local 0 z getToken := by
  intro z' h
  have h0 : byteAt z' 0 = byteAt z 0 := h 0 (Nat.zero_le _)
  unfold getToken at hlegal hvariable h ⊢
  rw [h0]
  obtain ⟨hnul, hdigit, hdot, _⟩ := aiClass_spec (byteAt z 0)
  have hslash := aiClass_slash (byteAt z 0)
  cases hclass : aiClass (byteAt z 0) with
  | nul => exact absurd (hnul hclass) hne
  | space => rw [hclass] at h; exact Local.skip _ (by decide) z' h
  | minus => rw [hclass] at h; exact minusToken_local z z' h
  | slash =>
    rw [hclass] at h
    exact slashToken_local (hmore (hslash hclass)) z' h
  | eq => rw [hclass] at h; exact second_local eqToken_second z' h
  | lt => rw [hclass] at h; exact second_local ltToken_second z' h
  | gt => rw [hclass] at h; exact second_local gtToken_second z' h
  | bang => rw [hclass] at h; exact second_local bangToken_second z' h
  | pipe => rw [hclass] at h; exact second_local pipeToken_second z' h
  | quote =>
    rw [hclass] at h hlegal
    exact quoteToken_local hclass hlegal z' h
  | dot =>
    rw [hclass] at h hlegal
    exact dotToken_local (hdot hclass) hlegal z' h
  | digit =>
    rw [hclass] at h hlegal
    exact digitToken_local (numberRun_pos (.inl (hdigit hclass))) hlegal z' h
  | quote2 =>
    rw [hclass] at h hlegal
    exact bracketToken_local hlegal z' h
  | varnum =>
    rw [hclass] at hvariable
    exact absurd rfl hvariable
  | dollar | varalpha =>
    rw [hclass] at hvariable hlegal
    simp only [classToken, variableToken] at hvariable hlegal
    split at hlegal
    · exact absurd rfl hlegal
    · rename_i hname
      rw [if_neg hname] at hvariable
      exact absurd rfl hvariable
  | kywd0 => rw [hclass] at h; exact kywd0Token_local hne z' h
  | x =>
    rw [hclass] at h hlegal
    exact xToken_local hlegal z' h
  | kywd | id => rw [hclass] at h; exact idToken_local 1 z' h
  | bom => rw [hclass] at h; exact bomToken_local z z' h
  | lp | rp | semi | plus | star | percent | comma | and | tilda | illegal => rfl

/-! ## 4. Before a literal -/

/-- Nothing glues a parameter or a literal to the token. -/
def opens : TK → Bool
  | .SPACE | .COMMENT | .LP | .RP | .SEMI | .PLUS | .STAR | .SLASH | .REM | .EQ | .NE | .LE
  | .LSHIFT | .LT | .GE | .RSHIFT | .GT | .BITOR | .CONCAT | .COMMA | .BITAND | .BITNOT | .PTR =>
    true
  | _ => false

/-- The first byte of a parameter. -/
def startsVariable (b : UInt8) : Bool :=
  match aiClass b with
  | .varnum | .dollar | .varalpha => true
  | _ => false

/-- The first byte of a literal. -/
def startsLiteral (b : UInt8) : Bool :=
  match aiClass b with
  | .digit | .minus | .quote | .x | .kywd0 | .kywd => true
  | _ => false

/-- No operator of two bytes ends so. -/
def Plain (b : UInt8) : Prop :=
  b ≠ '='.toUInt8 ∧ b ≠ '<'.toUInt8 ∧ b ≠ '>'.toUInt8 ∧ b ≠ '|'.toUInt8

instance (b : UInt8) : Decidable (Plain b) := inferInstanceAs (Decidable (_ ∧ _ ∧ _ ∧ _))

theorem startsVariable_spec (b : UInt8) : startsVariable b = true →
    b ≠ 0 ∧ before '\n'.toUInt8 b = true :=
  forall_byte (P := fun b => startsVariable b = true → b ≠ 0 ∧ before '\n'.toUInt8 b = true)
    (by decide +kernel) b

theorem startsLiteral_spec (b : UInt8) : startsLiteral b = true →
    isspace b = false ∧ b ≠ '*'.toUInt8 ∧ Plain b :=
  forall_byte (P := fun b => startsLiteral b = true →
    isspace b = false ∧ b ≠ '*'.toUInt8 ∧ Plain b) (by decide +kernel) b

/-- What one byte makes of an operator. -/
structure Alone (op : UInt8 → TK × Nat) : Prop where
  second : Second op
  alone : ∀ c c', (op c).2 = 1 → opens (op c).1 = true → Plain c' → op c' = op c

theorem eqToken_alone : Alone eqToken := by
  refine ⟨eqToken_second, fun c c' h _ hc' => ?_⟩
  have hc : eqToken c' = (.EQ, 1) := if_neg hc'.1
  unfold eqToken at h
  split at h
  · cases h
  · rename_i hne
    rw [hc, eqToken, if_neg hne]

theorem ltToken_alone : Alone ltToken := by
  refine ⟨ltToken_second, fun c c' h _ hc' => ?_⟩
  have hc {b : UInt8} (hb : Plain b) : ltToken b = (.LT, 1) := by
    rw [ltToken, if_neg hb.1, if_neg hb.2.2.1, if_neg hb.2.1]
  rw [hc hc']
  unfold ltToken at h ⊢
  split at h
  · cases h
  · split at h
    · cases h
    · split at h
      · cases h
      · rename_i h1 h2 h3
        rw [if_neg h1, if_neg h2, if_neg h3]

theorem gtToken_alone : Alone gtToken := by
  refine ⟨gtToken_second, fun c c' h _ hc' => ?_⟩
  have hc {b : UInt8} (hb : Plain b) : gtToken b = (.GT, 1) := by
    rw [gtToken, if_neg hb.1, if_neg hb.2.2.1]
  rw [hc hc']
  unfold gtToken at h ⊢
  split at h
  · cases h
  · split at h
    · cases h
    · rename_i h1 h2
      rw [if_neg h1, if_neg h2]

theorem bangToken_alone : Alone bangToken := by
  refine ⟨bangToken_second, fun c c' h hopens _ => ?_⟩
  unfold bangToken at h hopens
  split at h
  · rename_i hne
    rw [if_pos hne] at hopens
    cases hopens
  · cases h

theorem pipeToken_alone : Alone pipeToken := by
  refine ⟨pipeToken_second, fun c c' h _ hc' => ?_⟩
  have hc : pipeToken c' = (.BITOR, 1) := if_pos hc'.2.2.2
  unfold pipeToken at h
  split at h
  · rename_i hne
    rw [hc, pipeToken, if_pos hne]
  · cases h

/-! ### Tokens that things are glued to -/

/-- The token is none that may stand before a literal, and no parameter. -/
def Glues (t : TK) : Prop := opens t = false ∧ t ≠ .VARIABLE

instance (t : TK) : Decidable (Glues t) := inferInstanceAs (Decidable (_ ∧ _))

theorem quoteToken_glues (z : List UInt8) : Glues (quoteToken z).1 := by
  unfold quoteToken
  dsimp only
  repeat' split
  all_goals exact ⟨rfl, fun h => by cases h⟩

theorem digitRun_glues {isDigit : UInt8 → Bool} (z : List UInt8) (i : Nat) {t : TK}
    (ht : Glues t) : Glues (digitRun isDigit z i t).1 := by
  unfold digitRun
  dsimp only
  split
  · decide
  · exact ht

theorem orFloat_glues (ht : Glues t) : Glues (orFloat t) := by
  unfold orFloat
  split
  · decide
  · exact ht

theorem digitToken_glues (z : List UInt8) : Glues (digitToken z).1 := by
  unfold digitToken numberEnd
  dsimp only
  split
  · decide
  unfold numberRun
  split
  · exact digitRun_glues z 3 (by decide)
  · have hint : Glues (digitRun isdigit z 0 .INTEGER).1 := digitRun_glues z 0 (by decide)
    have hfraction (t : TK) (i : Nat) (ht : Glues t) : Glues (fractionRun z t i).1 := by
      unfold fractionRun
      split
      · exact digitRun_glues z _ (orFloat_glues ht)
      · exact ht
    unfold decimalRun exponentRun
    dsimp only
    split
    · exact digitRun_glues z _ (orFloat_glues (hfraction _ _ hint))
    · exact hfraction _ _ hint

theorem kywd0Token_glues (z : List UInt8) : Glues (kywd0Token z).1 := by
  have hcodes : ∀ t ∈ .ID :: Keyword.aKWCode, Glues t := by decide +kernel
  unfold kywd0Token
  dsimp only
  repeat' split
  · exact ⟨rfl, fun h => by cases h⟩
  · exact ⟨rfl, fun h => by cases h⟩
  · unfold keywordCode
    split
    · rename_i i _
      rw [Keyword.code, List.getD_eq_getElem?_getD]
      rcases hget : Keyword.aKWCode[i]? with _ | t
      · exact hcodes _ List.mem_cons_self
      · exact hcodes _ (List.mem_cons_of_mem _ (List.mem_of_getElem? hget))
    · exact hcodes _ List.mem_cons_self

theorem xToken_glues (z : List UInt8) : Glues (xToken z).1 := by
  unfold xToken
  dsimp only
  repeat' split
  all_goals exact ⟨rfl, fun h => by cases h⟩

theorem dotToken_glues (z : List UInt8) : Glues (dotToken z).1 := by
  unfold dotToken
  split
  · decide
  · exact digitToken_glues z

theorem bracketToken_glues (z : List UInt8) : Glues (bracketToken z).1 := by
  unfold bracketToken
  dsimp only
  split <;> exact ⟨rfl, fun h => by cases h⟩

theorem variableToken_glues (z : List UInt8) : opens (variableToken z).1 = false := by
  unfold variableToken
  dsimp only
  split <;> rfl

/-- A parameter begins like one. -/
theorem startsVariable_of_token (h : (getToken z).1 = .VARIABLE) :
    startsVariable (byteAt z 0) = true := by
  unfold getToken at h
  rw [startsVariable]
  have hno {token : TK × Nat} (hg : Glues token.1) : token.1 ≠ .VARIABLE := hg.2
  cases hclass : aiClass (byteAt z 0) with
  | varnum | dollar | varalpha => rfl
  | quote => rw [hclass] at h; exact absurd h (hno (quoteToken_glues z))
  | dot => rw [hclass] at h; exact absurd h (hno (dotToken_glues z))
  | digit => rw [hclass] at h; exact absurd h (hno (digitToken_glues z))
  | quote2 => rw [hclass] at h; exact absurd h (hno (bracketToken_glues z))
  | kywd0 => rw [hclass] at h; exact absurd h (hno (kywd0Token_glues z))
  | x => rw [hclass] at h; exact absurd h (hno (xToken_glues z))
  | minus =>
    rw [hclass, classToken, minusToken] at h
    repeat' split at h
    all_goals cases h
  | slash =>
    rw [hclass, classToken, slashToken] at h
    split at h <;> cases h
  | eq =>
    rw [hclass, classToken, eqToken] at h
    split at h <;> cases h
  | lt =>
    rw [hclass, classToken, ltToken] at h
    repeat' split at h
    all_goals cases h
  | gt =>
    rw [hclass, classToken, gtToken] at h
    repeat' split at h
    all_goals cases h
  | bang =>
    rw [hclass, classToken, bangToken] at h
    split at h <;> cases h
  | pipe =>
    rw [hclass, classToken, pipeToken] at h
    split at h <;> cases h
  | bom =>
    rw [hclass, classToken, bomToken] at h
    split at h <;> cases h
  | _ =>
    rw [hclass] at h
    cases h

/-! ### Tokens that stand alone -/

section Before

variable (hsame : ∀ i < n, byteAt z' i = byteAt z i) (hvar : startsVariable (byteAt z n) = true)
  (hlit : startsLiteral (byteAt z' n) = true)
include hsame hvar hlit

omit hvar in
theorem space_before (h : skip isspace z 1 = n) : skip isspace z' 1 = n := by
  have hp : isspace 0 = false := by decide
  refine Basis.skip_unique hp (h ▸ Basis.le_skip) (fun k h1 hk => ?_)
    (startsLiteral_spec _ hlit).1
  rw [show Basis.symbol 0 z' k = byteAt z k from hsame k hk]
  exact Basis.skip_holds h1 (h ▸ hk)

theorem minusToken_before (ht : opens t = true) (h : minusToken z = (t, n)) :
    minusToken z' = (t, n) := by
  unfold minusToken at h
  split at h
  · -- a comment goes on up to the end of the line
    have hstops : before '\n'.toUInt8 (byteAt z (skip (before '\n'.toUInt8) z 2)) = false :=
      Basis.skip_stops (before_zero _) z 2
    rw [(Prod.mk.inj h).2, (startsVariable_spec _ hvar).2] at hstops
    cases hstops
  · rename_i hcomment
    split at h
    · rename_i hptr
      have h1 : byteAt z' 1 = byteAt z 1 := by
        refine hsame 1 ?_
        split at h <;> rw [← (Prod.mk.inj h).2] <;> decide
      rw [minusToken, h1, if_neg hcomment, if_pos hptr]
      split at h
      · rename_i hptr2
        rw [if_pos ((hsame 2 (by rw [← (Prod.mk.inj h).2]; decide)).trans hptr2)]
        exact h
      · have hn : n = 2 := (Prod.mk.inj h).2.symm
        rw [if_neg (hn ▸ (startsLiteral_spec _ hlit).2.2.2.2.1)]
        exact h
    · rw [← (Prod.mk.inj h).1] at ht
      cases ht

theorem slashToken_before (h : slashToken z = (t, n)) : slashToken z' = (t, n) := by
  unfold slashToken at h
  split at h
  · have hn : n = 1 := (Prod.mk.inj h).2.symm
    rw [slashToken, if_pos (.inl (hn ▸ (startsLiteral_spec _ hlit).2.1))]
    exact h
  · rename_i hcomment
    have hn : 3 + commentLoop (byteAt z 2) (z.drop 3) = n := (Prod.mk.inj h).2
    have hloop : commentLoop (byteAt z 2) (z'.drop 3) = commentLoop (byteAt z 2) (z.drop 3) := by
      refine commentLoop_same _ _ _ (fun i hi => ?_) fun h0 => ?_
      · rw [byteAt, byteAt, Basis.symbol_drop, Basis.symbol_drop]
        exact hsame (3 + i) (by omega)
      · rw [byteAt, Basis.symbol_drop, hn] at h0
        exact absurd h0 (startsVariable_spec _ hvar).1
    rw [slashToken, hsame 1 (by omega), hsame 2 (by omega), if_neg hcomment, hloop]
    exact h

omit hvar in
theorem Alone.before {op : UInt8 → TK × Nat} (hop : Alone op) (ht : opens t = true)
    (h : op (byteAt z 1) = (t, n)) : op (byteAt z' 1) = (t, n) := by
  rcases hop.second (byteAt z 1) with hone | ⟨_, htwo⟩
  · have hn : n = 1 := by rw [← hone, h]
    rw [← h]
    exact hop.alone _ _ hone (by rw [h]; exact ht) (hn ▸ (startsLiteral_spec _ hlit).2.2)
  · have hn : n = 2 := by rw [← htwo, h]
    rw [hsame 1 (by omega), h]

omit hvar hlit in
theorem bomToken_before (ht : opens t = true) (h : bomToken z = (t, n)) :
    bomToken z' = (t, n) := by
  unfold bomToken at h
  split at h
  · rename_i hbom
    have hn : n = 3 := (Prod.mk.inj h).2.symm
    rw [bomToken, hsame 1 (by omega), hsame 2 (by omega), if_pos hbom]
    exact h
  · rw [← (Prod.mk.inj h).1] at ht
    cases ht

end Before

/-- **A literal that takes the place of a parameter leaves the token before it as it was**, if that
    is a space, a comment, a parenthesis, a comma or one of most operators. -/
theorem getToken_before_literal (hw : w ≠ []) (ht : opens t = true)
    (h : getToken (w ++ rest) = (t, w.length)) (hvar : startsVariable (byteAt rest 0) = true)
    (hlit : startsLiteral (byteAt rest' 0) = true) :
    getToken (w ++ rest') = (t, w.length) := by
  have hsame (i : Nat) (hi : i < w.length) : byteAt (w ++ rest') i = byteAt (w ++ rest) i :=
    (byteAt_append_left rest' hi).trans (byteAt_append_left rest hi).symm
  rw [← byteAt_append_length w rest] at hvar
  rw [← byteAt_append_length w rest'] at hlit
  have h0 := hsame 0 (List.length_pos_iff.mpr hw)
  generalize w ++ rest = z at h hsame hvar h0
  generalize w ++ rest' = z' at hsame hlit h0 ⊢
  generalize w.length = n at h hsame hvar hlit ⊢
  unfold getToken at h ⊢
  rw [h0]
  have hglues (hg : opens (classToken z (aiClass (byteAt z 0))).1 = false) :
      classToken z' (aiClass (byteAt z 0)) = (t, n) := by
    rw [h, ht] at hg
    cases hg
  cases hclass : aiClass (byteAt z 0) with
  | space =>
    rw [hclass] at h
    have hskip := space_before hsame hlit (Prod.mk.inj h).2
    exact (congrArg (TK.SPACE, ·) hskip).trans (congrArg (·, n) (Prod.mk.inj h).1)
  | minus => rw [hclass] at h; exact minusToken_before hsame hvar hlit ht h
  | slash => rw [hclass] at h; exact slashToken_before hsame hvar hlit h
  | eq => rw [hclass] at h; exact eqToken_alone.before hsame hlit ht h
  | lt => rw [hclass] at h; exact ltToken_alone.before hsame hlit ht h
  | gt => rw [hclass] at h; exact gtToken_alone.before hsame hlit ht h
  | bang => rw [hclass] at h; exact bangToken_alone.before hsame hlit ht h
  | pipe => rw [hclass] at h; exact pipeToken_alone.before hsame hlit ht h
  | bom => rw [hclass] at h; exact bomToken_before hsame ht h
  | lp | rp | semi | plus | star | percent | comma | and | tilda | illegal | nul =>
    rw [hclass] at h
    exact h
  | quote => rw [hclass] at hglues; exact hglues (quoteToken_glues z).1
  | dot => rw [hclass] at hglues; exact hglues (dotToken_glues z).1
  | digit => rw [hclass] at hglues; exact hglues (digitToken_glues z).1
  | quote2 => rw [hclass] at hglues; exact hglues (bracketToken_glues z).1
  | dollar | varalpha => rw [hclass] at hglues; exact hglues (variableToken_glues z)
  | kywd0 => rw [hclass] at hglues; exact hglues (kywd0Token_glues z).1
  | x => rw [hclass] at hglues; exact hglues (xToken_glues z).1
  | varnum | kywd | id => rw [hclass] at hglues; exact hglues rfl

end NodeRusqlite.Sqlite
