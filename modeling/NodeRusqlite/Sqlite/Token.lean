/-
  File:      NodeRusqlite/Sqlite/Token.lean
  Subject:   SQLite's tokenizer.

  `getToken` gives the code and the length of the token at the front of a text;
  one definition for each class of first bytes that needs more than its own
  byte. The indices are those of the source.

  * `getToken_contained`: it stays within the text and looks at nothing behind the
    terminator.
  * **`tokens_cover`**: the tokens of a text are the text, cut into pieces.
-/
import NodeRusqlite.Basis.Quoting
import NodeRusqlite.Sqlite.Keyword

namespace NodeRusqlite.Sqlite

open Basis (skip closing Contained Stays Tokenizer)

/-! ## 1. The classes -/

/-- The loops that go on to a byte, or to the end. -/
def before (stop c : UInt8) : Bool := c != 0 && c != stop

/-- `CC_MINUS`. -/
def minusToken (z : List UInt8) : TK × Nat :=
  if byteAt z 1 = '-'.toUInt8 then (.COMMENT, skip (before '\n'.toUInt8) z 2)
  else if byteAt z 1 = '>'.toUInt8 then
    if byteAt z 2 = '>'.toUInt8 then (.PTR, 3) else (.PTR, 2)
  else (.MINUS, 1)

/-- The loop over a comment, from behind `c` on. -/
def commentLoop : UInt8 → List UInt8 → Nat
  | _, [] => 0
  | c, b :: z =>
    if c = '*'.toUInt8 ∧ b = '/'.toUInt8 then 1
    else if b = 0 then 0
    else commentLoop b z + 1

/-- `CC_SLASH`. -/
def slashToken (z : List UInt8) : TK × Nat :=
  if byteAt z 1 ≠ '*'.toUInt8 ∨ byteAt z 2 = 0 then (.SLASH, 1)
  else (.COMMENT, 3 + commentLoop (byteAt z 2) (z.drop 3))

/-- `CC_EQ`; from here to `CC_PIPE`, `c` is the second byte. -/
def eqToken (c : UInt8) : TK × Nat := if c = '='.toUInt8 then (.EQ, 2) else (.EQ, 1)

/-- `CC_LT`. -/
def ltToken (c : UInt8) : TK × Nat :=
  if c = '='.toUInt8 then (.LE, 2)
  else if c = '>'.toUInt8 then (.NE, 2)
  else if c = '<'.toUInt8 then (.LSHIFT, 2)
  else (.LT, 1)

/-- `CC_GT`. -/
def gtToken (c : UInt8) : TK × Nat :=
  if c = '='.toUInt8 then (.GE, 2)
  else if c = '>'.toUInt8 then (.RSHIFT, 2)
  else (.GT, 1)

/-- `CC_BANG`. -/
def bangToken (c : UInt8) : TK × Nat := if c ≠ '='.toUInt8 then (.ILLEGAL, 1) else (.NE, 2)

/-- `CC_PIPE`. -/
def pipeToken (c : UInt8) : TK × Nat := if c ≠ '|'.toUInt8 then (.BITOR, 1) else (.CONCAT, 2)

/-- `CC_QUOTE`. -/
def quoteToken (z : List UInt8) : TK × Nat :=
  let delim := byteAt z 0
  let body := closing 0 delim (z.drop 1)
  if body.2 then (if delim = '\''.toUInt8 then .STRING else .ID, 1 + body.1 + 1)
  else (.ILLEGAL, 1 + body.1)

theorem quoteToken_cons (q : UInt8) (z : List UInt8) :
    quoteToken (q :: z) =
      if (closing 0 q z).2 then
        (if q = '\''.toUInt8 then .STRING else .ID, 1 + (closing 0 q z).1 + 1)
      else (.ILLEGAL, 1 + (closing 0 q z).1) := rfl

/-- The loop over digits and separators, from `i` on. -/
def digitRun (isDigit : UInt8 → Bool) (z : List UInt8) (i : Nat) (t : TK) : TK × Nat :=
  let j := skip (fun c => isDigit c || c == digitSeparator) z i
  (if digitSeparator ∈ (z.drop i).take (j - i) then .QNUMBER else t, j)

/-- What a fraction or an exponent makes of the code. -/
def orFloat (t : TK) : TK := if t = .INTEGER then .FLOAT else t

/-- The fraction of a number, if there is one. -/
def fractionRun (z : List UInt8) (t : TK) (i : Nat) : TK × Nat :=
  if byteAt z i = '.'.toUInt8 then digitRun isdigit z (i + 1) (orFloat t) else (t, i)

/-- Its exponent. -/
def exponentRun (z : List UInt8) (t : TK) (i : Nat) : TK × Nat :=
  if (byteAt z i = 'e'.toUInt8 ∨ byteAt z i = 'E'.toUInt8) ∧
      (isdigit (byteAt z (i + 1)) ∨
        (byteAt z (i + 1) = '+'.toUInt8 ∨ byteAt z (i + 1) = '-'.toUInt8) ∧
          isdigit (byteAt z (i + 2))) then
    digitRun isdigit z (i + 2) (orFloat t)
  else (t, i)

/-- A decimal number. -/
def decimalRun (z : List UInt8) : TK × Nat :=
  let int := digitRun isdigit z 0 .INTEGER
  let fraction := fractionRun z int.1 int.2
  exponentRun z fraction.1 fraction.2

/-- A number, up to its last digit. -/
def numberRun (z : List UInt8) : TK × Nat :=
  if byteAt z 0 = '0'.toUInt8 ∧ (byteAt z 1 = 'x'.toUInt8 ∨ byteAt z 1 = 'X'.toUInt8) ∧
      isxdigit (byteAt z 2) then
    digitRun isxdigit z 3 .INTEGER
  else decimalRun z

/-- The loop at the end of a number: what could be an identifier must not follow. -/
def numberEnd (z : List UInt8) (t : TK) (i : Nat) : TK × Nat :=
  (if idChar (byteAt z i) then .ILLEGAL else t, skip idChar z i)

/-- `CC_DIGIT`. -/
def digitToken (z : List UInt8) : TK × Nat := numberEnd z (numberRun z).1 (numberRun z).2

/-- `CC_DOT`. -/
def dotToken (z : List UInt8) : TK × Nat :=
  if !isdigit (byteAt z 1) then (.DOT, 1) else digitToken z

/-- `CC_QUOTE2`. -/
def bracketToken (z : List UInt8) : TK × Nat :=
  let i := skip (before ']'.toUInt8) z 1
  if byteAt z i = ']'.toUInt8 then (.ID, i + 1) else (.ILLEGAL, i)

/-- `CC_VARNUM`. -/
def varnumToken (z : List UInt8) : TK × Nat := (.VARIABLE, skip isdigit z 1)

/-- The loop over a parenthesis in the name of a variable. -/
def parenLoop (z : List UInt8) : Nat :=
  skip (fun c => c != 0 && !isspace c && c != ')'.toUInt8) z 0

/-- The loop over the name of a variable, `n` being the bytes of the name so far and `colon` saying
    that the second colon of a pair comes next: how far it goes, the bytes of the name, and whether
    a parenthesis stayed open. -/
def variableLoop : Nat → Bool → List UInt8 → Nat × Nat × Bool
  | n, _, [] => (0, n, false)
  | n, true, _ :: z =>
    let rest := variableLoop n false z
    (rest.1 + 1, rest.2)
  | n, false, c :: z =>
    if c = 0 then (0, n, false)
    else if idChar c then
      let rest := variableLoop (n + 1) false z
      (rest.1 + 1, rest.2)
    else if c = '('.toUInt8 ∧ 0 < n then
      let j := parenLoop z
      if byteAt z j = ')'.toUInt8 then (1 + j + 1, n, false) else (1 + j, n, true)
    else if c = ':'.toUInt8 ∧ byteAt z 0 = ':'.toUInt8 then
      let rest := variableLoop n true z
      (rest.1 + 1, rest.2)
    else (0, n, false)

/-- `CC_DOLLAR`, `CC_VARALPHA`. -/
def variableToken (z : List UInt8) : TK × Nat :=
  let name := variableLoop 0 false (z.drop 1)
  (if name.2.2 ∨ name.2.1 = 0 then .ILLEGAL else .VARIABLE, 1 + name.1)

/-- The loop at the end, over the rest of an identifier. -/
def idToken (z : List UInt8) (i : Nat) : TK × Nat := (.ID, skip idChar z i)

/-- `CC_KYWD0`. -/
def kywd0Token (z : List UInt8) : TK × Nat :=
  if !isKeywordByte (byteAt z 1) then idToken z 1
  else
    let i := skip isKeywordByte z 2
    if idChar (byteAt z i) then idToken z (i + 1) else (keywordCode (z.take i), i)

/-- `CC_X`. -/
def xToken (z : List UInt8) : TK × Nat :=
  if byteAt z 1 = '\''.toUInt8 then
    let i := skip isxdigit z 2
    if byteAt z i ≠ '\''.toUInt8 ∨ i % 2 = 1 then
      let i := skip (before '\''.toUInt8) z i
      if byteAt z i ≠ 0 then (.ILLEGAL, i + 1) else (.ILLEGAL, i)
    else (.BLOB, i + 1)
  else idToken z 1

/-- `CC_BOM`. -/
def bomToken (z : List UInt8) : TK × Nat :=
  if byteAt z 1 = 0xBB ∧ byteAt z 2 = 0xBF then (.SPACE, 3) else idToken z 1

/-- The cases of `sqlite3GetToken`. -/
def classToken (z : List UInt8) : CC → TK × Nat
  | .space => (.SPACE, skip isspace z 1)
  | .minus => minusToken z
  | .lp => (.LP, 1)
  | .rp => (.RP, 1)
  | .semi => (.SEMI, 1)
  | .plus => (.PLUS, 1)
  | .star => (.STAR, 1)
  | .slash => slashToken z
  | .percent => (.REM, 1)
  | .eq => eqToken (byteAt z 1)
  | .lt => ltToken (byteAt z 1)
  | .gt => gtToken (byteAt z 1)
  | .bang => bangToken (byteAt z 1)
  | .pipe => pipeToken (byteAt z 1)
  | .comma => (.COMMA, 1)
  | .and => (.BITAND, 1)
  | .tilda => (.BITNOT, 1)
  | .quote => quoteToken z
  | .dot => dotToken z
  | .digit => digitToken z
  | .quote2 => bracketToken z
  | .varnum => varnumToken z
  | .dollar | .varalpha => variableToken z
  | .kywd0 => kywd0Token z
  | .x => xToken z
  | .kywd | .id => idToken z 1
  | .bom => bomToken z
  | .nul => (.ILLEGAL, 0)
  | .illegal => (.ILLEGAL, 1)

/-- `sqlite3GetToken`. -/
def getToken (z : List UInt8) : TK × Nat := classToken z (aiClass (byteAt z 0))

/-! ## 2. Within the text -/

section Contained

variable {z : List UInt8} {i : Nat} {c : UInt8}

theorem byteAt_cut (junk : List UInt8) (h : i ≤ z.length) :
    byteAt (z ++ 0 :: junk) i = byteAt z i := Basis.symbol_cut junk h

theorem lt_length (h : byteAt z i = c) (hc : c ≠ 0) : i < z.length :=
  Basis.lt_of_symbol_ne (h ▸ hc)

theorem drop_cut (junk : List UInt8) (h : i ≤ z.length) :
    (z ++ 0 :: junk).drop i = z.drop i ++ 0 :: junk := List.drop_append_of_le_length h

/-- A branch on a byte up to the end. -/
theorem byteAt_iff {P : UInt8 → Prop} (h : i ≤ z.length) (junk : List UInt8) :
    P (byteAt (z ++ 0 :: junk) i) ↔ P (byteAt z i) := by rw [byteAt_cut junk h]

theorem before_zero (stop : UInt8) : before stop 0 = false := rfl

/-- A token of two bytes has a second byte. -/
def Second (second : UInt8 → TK × Nat) : Prop :=
  ∀ c, (second c).2 = 1 ∨ c ≠ 0 ∧ (second c).2 = 2

theorem eqToken_second : Second eqToken := fun c => by
  unfold eqToken
  split
  · rename_i h
    exact .inr ⟨by rw [h]; decide, rfl⟩
  · exact .inl rfl

theorem ltToken_second : Second ltToken := fun c => by
  unfold ltToken
  repeat' split
  all_goals first
    | exact .inl rfl
    | exact .inr ⟨by rename_i h; rw [h]; decide, rfl⟩

theorem gtToken_second : Second gtToken := fun c => by
  unfold gtToken
  repeat' split
  all_goals first
    | exact .inl rfl
    | exact .inr ⟨by rename_i h; rw [h]; decide, rfl⟩

theorem bangToken_second : Second bangToken := fun c => by
  unfold bangToken
  split
  · exact .inl rfl
  · rename_i h
    exact .inr ⟨by rw [not_not.mp h]; decide, rfl⟩

theorem pipeToken_second : Second pipeToken := fun c => by
  unfold pipeToken
  split
  · exact .inl rfl
  · rename_i h
    exact .inr ⟨by rw [not_not.mp h]; decide, rfl⟩

theorem Second.stays {second : UInt8 → TK × Nat} (h : Second second) (h1 : 1 ≤ z.length) :
    Stays 0 z fun z => second (byteAt z 1) := by
  refine ⟨?_, fun junk => congrArg second (byteAt_cut junk h1)⟩
  rcases h (byteAt z 1) with heq | ⟨hc, heq⟩
  · exact Nat.le_trans (Nat.le_of_eq heq) h1
  · exact Nat.le_trans (Nat.le_of_eq heq) (Basis.lt_of_symbol_ne hc)

theorem minusToken_stays (h1 : 1 ≤ z.length) : Stays 0 z minusToken := by
  refine Stays.ite (byteAt_iff (P := (· = '-'.toUInt8)) h1) (fun hminus => ?_) fun _ => ?_
  · exact Stays.skip _ (before_zero _) (lt_length hminus (by decide))
  · refine Stays.ite (byteAt_iff (P := (· = '>'.toUInt8)) h1) (fun hptr => ?_) fun _ => ?_
    · have h2 := lt_length hptr (by decide)
      refine Stays.ite (byteAt_iff (P := (· = '>'.toUInt8)) h2) (fun hptr2 => ?_) fun _ => ?_
      · exact Stays.const _ (lt_length hptr2 (by decide))
      · exact Stays.const _ h2
    · exact Stays.const _ h1

theorem commentLoop_stays : ∀ (z : List UInt8) (c : UInt8), (0 : UInt8) ∉ z →
    commentLoop c z ≤ z.length ∧ ∀ junk, commentLoop c (z ++ 0 :: junk) = commentLoop c z
  | [], c, _ => by
      refine ⟨Nat.le_refl 0, fun junk => ?_⟩
      have h : ¬ (c = '*'.toUInt8 ∧ (0 : UInt8) = '/'.toUInt8) := fun h => absurd h.2 (by decide)
      exact (if_neg h).trans (if_pos rfl)
  | b :: z, c, hz => by
      have ⟨hb, hz⟩ := List.ne_and_not_mem_of_not_mem_cons hz
      obtain ⟨hle, hcut⟩ := commentLoop_stays z b hz
      simp only [List.cons_append, commentLoop, List.length_cons, if_neg hb.symm, hcut,
        implies_true, and_true]
      split <;> omega

theorem slashToken_stays (hz : (0 : UInt8) ∉ z) (h1 : 1 ≤ z.length) : Stays 0 z slashToken := by
  refine Stays.ite (fun junk => ?_) (fun _ => Stays.const _ h1) fun h => ?_
  · rw [byteAt_cut junk h1]
    by_cases hstar : byteAt z 1 = '*'.toUInt8
    · rw [byteAt_cut junk (lt_length hstar (by decide))]
    · exact iff_of_true (.inl hstar) (.inl hstar)
  · obtain ⟨hstar, hmore⟩ := not_or.mp h
    have h2 : 2 ≤ z.length := lt_length (not_not.mp hstar) (by decide)
    have h3 : 3 ≤ z.length := Basis.lt_of_symbol_ne hmore
    obtain ⟨hle, hcut⟩ := commentLoop_stays (z.drop 3) (byteAt z 2)
      fun h => hz (List.mem_of_mem_drop h)
    rw [List.length_drop] at hle
    refine ⟨by dsimp only; omega, fun junk => ?_⟩
    dsimp only
    rw [byteAt_cut junk h2, drop_cut junk h3, hcut]

theorem quoteToken_stays (hz : (0 : UInt8) ∉ z) (hne : z ≠ []) : Stays 0 z quoteToken := by
  cases z with
  | nil => exact absurd rfl hne
  | cons q z =>
    have ⟨hq, hz⟩ := List.ne_and_not_mem_of_not_mem_cons hz
    obtain ⟨hle, hcut⟩ := Basis.closing_contained hq.symm hz
    rw [Stays, quoteToken_cons]
    refine ⟨?_, fun junk => by rw [List.cons_append, quoteToken_cons, hcut]⟩
    rw [List.length_cons]
    split
    · rename_i hclosed
      rw [hclosed, Bool.toNat_true] at hle
      dsimp only
      omega
    · dsimp only
      omega

theorem digitRun_stays {isDigit : UInt8 → Bool} (hD : isDigit 0 = false) (t : TK)
    (h : i ≤ z.length) : Stays 0 z fun z => digitRun isDigit z i t := by
  have hp : (isDigit 0 || (0 : UInt8) == digitSeparator) = false := by rw [hD]; decide
  have hle : skip (fun c => isDigit c || c == digitSeparator) z i ≤ z.length := Basis.skip_le h
  refine ⟨hle, fun junk => ?_⟩
  have hlen : skip (fun c => isDigit c || c == digitSeparator) z i - i ≤ (z.drop i).length := by
    rw [List.length_drop]
    omega
  have hskip := Basis.skip_cut (p := fun c => isDigit c || c == digitSeparator) junk hp h
  simp only [digitRun, hskip, drop_cut junk h, List.take_append_of_le_length hlen]

theorem fractionRun_stays (t : TK) (h : i ≤ z.length) : Stays 0 z fun z => fractionRun z t i :=
  Stays.ite (byteAt_iff (P := (· = '.'.toUInt8)) h)
    (fun hdot => digitRun_stays (by decide) _ (lt_length hdot (by decide)))
    fun _ => Stays.const t h

theorem exponentRun_stays (t : TK) (h : i ≤ z.length) :
    Stays 0 z fun z => exponentRun z t i := by
  have hletter (he : byteAt z i = 'e'.toUInt8 ∨ byteAt z i = 'E'.toUInt8) : i + 1 ≤ z.length := by
    rcases he with he | he <;> exact lt_length he (by decide)
  have hsign (hs : byteAt z (i + 1) = '+'.toUInt8 ∨ byteAt z (i + 1) = '-'.toUInt8) :
      i + 2 ≤ z.length := by
    rcases hs with hs | hs <;> exact lt_length hs (by decide)
  refine Stays.ite (fun junk => ?_) (fun hcond => ?_) fun _ => Stays.const t h
  · rw [byteAt_cut junk h]
    refine and_congr_right fun he => ?_
    rw [byteAt_cut junk (hletter he)]
    refine or_congr_right' fun _ => and_congr_right fun hs => ?_
    rw [byteAt_cut junk (hsign hs)]
  · obtain ⟨_, hdigit | ⟨hs, _⟩⟩ := hcond
    · refine digitRun_stays (by decide) _ (lt_length (c := byteAt z (i + 1)) rfl fun h0 => ?_)
      rw [h0] at hdigit
      exact absurd hdigit (by decide)
    · exact digitRun_stays (by decide) _ (hsign hs)

theorem decimalRun_stays (z : List UInt8) : Stays 0 z decimalRun := by
  have hint : Stays 0 z fun z => digitRun isdigit z 0 .INTEGER :=
    digitRun_stays (by decide) _ (Nat.zero_le _)
  have hfraction := hint.andThen fun t _ h => fractionRun_stays t h
  exact hfraction.andThen fun t _ h => exponentRun_stays t h

theorem numberRun_stays (h1 : 1 ≤ z.length) : Stays 0 z numberRun := by
  have hx (h : byteAt z 1 = 'x'.toUInt8 ∨ byteAt z 1 = 'X'.toUInt8) : 2 ≤ z.length := by
    rcases h with h | h <;> exact lt_length h (by decide)
  refine Stays.ite (fun junk => ?_) (fun hcond => ?_) fun _ => decimalRun_stays z
  · rw [byteAt_cut junk (Nat.zero_le _), byteAt_cut junk h1]
    refine and_congr_right fun _ => and_congr_right fun h => ?_
    rw [byteAt_cut junk (hx h)]
  · refine digitRun_stays (by decide) _ (lt_length (c := byteAt z 2) rfl fun h0 => ?_)
    rw [h0] at hcond
    exact absurd hcond.2.2 (by decide)

theorem numberEnd_stays (t : TK) (h : i ≤ z.length) : Stays 0 z fun z => numberEnd z t i := by
  refine ⟨Basis.skip_le h, fun junk => ?_⟩
  simp only [numberEnd, byteAt_cut junk h, Basis.skip_cut junk (show idChar 0 = false by decide) h]

theorem digitToken_stays (h1 : 1 ≤ z.length) : Stays 0 z digitToken :=
  (numberRun_stays h1).andThen fun t _ h => numberEnd_stays t h

theorem dotToken_stays (h1 : 1 ≤ z.length) : Stays 0 z dotToken :=
  Stays.ite (byteAt_iff (P := fun c => (!isdigit c) = true) h1) (fun _ => Stays.const _ h1)
    fun _ => digitToken_stays h1

theorem bracketToken_stays (h1 : 1 ≤ z.length) : Stays 0 z bracketToken := by
  have hle := Basis.skip_le (p := before ']'.toUInt8) h1
  have hskip (junk : List UInt8) := Basis.skip_cut junk (before_zero ']'.toUInt8) h1
  unfold bracketToken
  refine Stays.ite (fun junk => ?_) (fun h => ?_) fun _ => Stays.skip _ (before_zero _) h1
  · rw [hskip, byteAt_cut junk hle]
  · exact ⟨lt_length h (by decide), fun junk => by dsimp only; rw [hskip]⟩

theorem idToken_stays (h : i ≤ z.length) : Stays 0 z fun z => idToken z i :=
  Stays.skip _ (by decide) h

theorem bomToken_stays (h1 : 1 ≤ z.length) : Stays 0 z bomToken := by
  refine Stays.ite (fun junk => ?_) (fun h => ?_) fun _ => idToken_stays h1
  · rw [byteAt_cut junk h1]
    refine and_congr_right fun h => ?_
    rw [byteAt_cut junk (lt_length h (by decide))]
  · exact Stays.const _ (lt_length h.2 (by decide))

theorem parenLoop_stays (z junk : List UInt8) :
    parenLoop z ≤ z.length ∧ parenLoop (z ++ 0 :: junk) = parenLoop z :=
  ⟨Basis.skip_le (Nat.zero_le _), Basis.skip_cut junk (by decide) (Nat.zero_le _)⟩

theorem variableLoop_stays : ∀ (z : List UInt8) (n : Nat) (colon : Bool), (0 : UInt8) ∉ z →
    (colon = true → z ≠ []) → (variableLoop n colon z).1 ≤ z.length ∧
      ∀ junk, variableLoop n colon (z ++ 0 :: junk) = variableLoop n colon z
  | [], n, true, _, h => absurd rfl (h rfl)
  | [], n, false, _, _ => ⟨Nat.le_refl 0, fun _ => if_pos rfl⟩
  | _ :: z, n, true, hz, _ => by
      have ⟨_, hz⟩ := List.ne_and_not_mem_of_not_mem_cons hz
      obtain ⟨hle, hcut⟩ := variableLoop_stays z n false hz fun h => Bool.noConfusion h
      refine ⟨Nat.succ_le_succ hle, fun junk => ?_⟩
      simp only [List.cons_append, variableLoop, hcut]
  | c :: z, n, false, hz, _ => by
      have ⟨hc, hz⟩ := List.ne_and_not_mem_of_not_mem_cons hz
      obtain ⟨hname, hnameCut⟩ := variableLoop_stays z (n + 1) false hz fun h => Bool.noConfusion h
      have hparen := (parenLoop_stays z []).1
      have hpair : byteAt z 0 = ':'.toUInt8 → (variableLoop n true z).1 ≤ z.length ∧
          ∀ junk, variableLoop n true (z ++ 0 :: junk) = variableLoop n true z := fun h =>
        variableLoop_stays z n true hz fun _ hnil => by
          rw [hnil] at h
          exact absurd h (by decide)
      refine ⟨?_, fun junk => ?_⟩
      · simp only [variableLoop, if_neg hc.symm, List.length_cons]
        split
        · exact Nat.succ_le_succ hname
        · split
          · split
            · rename_i h
              have hlt := lt_length h (by decide)
              dsimp only
              omega
            · dsimp only
              omega
          · split
            · rename_i h
              exact Nat.succ_le_succ (hpair h.2).1
            · exact Nat.zero_le _
      · have hj := (parenLoop_stays z junk).2
        simp only [List.cons_append, variableLoop, if_neg hc.symm, hnameCut, hj,
          byteAt_cut junk hparen, byteAt_cut junk (Nat.zero_le _)]
        by_cases h : byteAt z 0 = ':'.toUInt8
        · rw [(hpair h).2]
        · simp only [h, and_false, if_false]

theorem variableToken_stays (hz : (0 : UInt8) ∉ z) (h1 : 1 ≤ z.length) :
    Stays 0 z variableToken := by
  obtain ⟨hle, hcut⟩ := variableLoop_stays (z.drop 1) 0 false
    (fun h => hz (List.mem_of_mem_drop h)) fun h => Bool.noConfusion h
  rw [List.length_drop] at hle
  refine ⟨?_, fun junk => ?_⟩
  · show 1 + (variableLoop 0 false (z.drop 1)).1 ≤ z.length
    omega
  · simp only [variableToken, drop_cut junk h1, hcut]

theorem kywd0Token_stays (h1 : 1 ≤ z.length) : Stays 0 z kywd0Token := by
  refine Stays.ite (byteAt_iff (P := fun c => (!isKeywordByte c) = true) h1)
    (fun _ => idToken_stays h1) fun hkeyword => ?_
  have h2 : 2 ≤ z.length := lt_length (c := byteAt z 1) rfl fun h0 => hkeyword (by rw [h0]; decide)
  have hp : isKeywordByte 0 = false := by decide
  have hle := Basis.skip_le (p := isKeywordByte) h2
  have hskip (junk : List UInt8) := Basis.skip_cut junk hp h2
  refine Stays.ite (fun junk => ?_) (fun hid => ?_) fun _ => ?_
  · rw [hskip, byteAt_cut junk hle]
  · have hlt : skip isKeywordByte z 2 < z.length :=
      lt_length (c := byteAt z (skip isKeywordByte z 2)) rfl fun h0 => by
        rw [h0] at hid
        exact absurd hid (by decide)
    obtain ⟨hid, hidCut⟩ := idToken_stays hlt
    exact ⟨hid, fun junk => by simpa only [hskip] using hidCut junk⟩
  · refine ⟨hle, fun junk => ?_⟩
    simp only [hskip, List.take_append_of_le_length hle]

theorem xToken_stays (h1 : 1 ≤ z.length) : Stays 0 z xToken := by
  refine Stays.ite (byteAt_iff (P := (· = '\''.toUInt8)) h1) (fun hquote => ?_)
    fun _ => idToken_stays h1
  have h2 : 2 ≤ z.length := lt_length hquote (by decide)
  have hle := Basis.skip_le (p := isxdigit) h2
  have hskip (junk : List UInt8) := Basis.skip_cut junk (show isxdigit 0 = false by decide) h2
  refine Stays.ite (fun junk => ?_) (fun _ => ?_) fun hclosed => ?_
  · rw [hskip, byteAt_cut junk hle]
  · have hle' := Basis.skip_le (p := before '\''.toUInt8) hle
    have hskip' (junk : List UInt8) := Basis.skip_cut junk (before_zero '\''.toUInt8) hle
    refine Stays.ite (fun junk => ?_) (fun hmore => ?_) fun _ => ?_
    · rw [hskip, hskip', byteAt_cut junk hle']
    · exact ⟨Basis.lt_of_symbol_ne hmore, fun junk => by dsimp only; rw [hskip, hskip']⟩
    · exact ⟨hle', fun junk => by dsimp only; rw [hskip, hskip']⟩
  · have hend := not_not.mp (not_or.mp hclosed).1
    exact ⟨lt_length hend (by decide), fun junk => by dsimp only; rw [hskip]⟩

theorem classToken_stays (hz : (0 : UInt8) ∉ z) (hne : z ≠ []) (class_ : CC) :
    Stays 0 z fun z => classToken z class_ := by
  have h1 : 1 ≤ z.length := List.length_pos_iff.mpr hne
  cases class_ with
  | space => exact Stays.skip _ (by decide) h1
  | minus => exact minusToken_stays h1
  | slash => exact slashToken_stays hz h1
  | eq => exact eqToken_second.stays h1
  | lt => exact ltToken_second.stays h1
  | gt => exact gtToken_second.stays h1
  | bang => exact bangToken_second.stays h1
  | pipe => exact pipeToken_second.stays h1
  | quote => exact quoteToken_stays hz hne
  | dot => exact dotToken_stays h1
  | digit => exact digitToken_stays h1
  | quote2 => exact bracketToken_stays h1
  | varnum => exact Stays.skip _ (by decide) h1
  | dollar => exact variableToken_stays hz h1
  | varalpha => exact variableToken_stays hz h1
  | kywd0 => exact kywd0Token_stays h1
  | x => exact xToken_stays h1
  | kywd => exact idToken_stays h1
  | id => exact idToken_stays h1
  | bom => exact bomToken_stays h1
  | nul => exact Stays.const _ (Nat.zero_le _)
  | lp | rp | semi | plus | star | percent | comma | and | tilda | illegal =>
    exact Stays.const _ h1

/-- **The tokenizer stays within every text and looks at nothing behind its end.** -/
theorem getToken_contained : Contained 0 getToken := by
  intro z hz hne
  obtain ⟨hle, hcut⟩ := classToken_stays hz hne (aiClass (byteAt z 0))
  refine ⟨hle, fun junk => ?_⟩
  rw [getToken, byteAt_cut junk (Nat.zero_le _)]
  exact hcut junk

end Contained

/-! ## 3. Progress -/

section Progress

variable {z : List UInt8}

theorem second_pos {second : UInt8 → TK × Nat} (h : Second second) (c : UInt8) :
    0 < (second c).2 := by
  rcases h c with heq | ⟨_, heq⟩ <;> omega

theorem skip_pos (p : UInt8 → Bool) (z : List UInt8) {i : Nat} (h : 0 < i) : 0 < skip p z i :=
  Nat.lt_of_lt_of_le h Basis.le_skip

theorem minusToken_pos (z : List UInt8) : 0 < (minusToken z).2 := by
  unfold minusToken
  repeat' split
  · exact skip_pos _ z (by decide)
  all_goals decide

theorem slashToken_pos (z : List UInt8) : 0 < (slashToken z).2 := by
  unfold slashToken
  split
  · decide
  · dsimp only
    omega

theorem quoteToken_pos (z : List UInt8) : 0 < (quoteToken z).2 := by
  unfold quoteToken
  dsimp only
  split <;> dsimp only <;> omega

theorem le_fractionRun (z : List UInt8) (t : TK) (i : Nat) : i ≤ (fractionRun z t i).2 := by
  unfold fractionRun
  split
  · exact Nat.le_of_succ_le Basis.le_skip
  · exact Nat.le_refl i

theorem le_exponentRun (z : List UInt8) (t : TK) (i : Nat) : i ≤ (exponentRun z t i).2 := by
  unfold exponentRun
  split
  · exact Nat.le_trans (Nat.le_add_right i 2) Basis.le_skip
  · exact Nat.le_refl i

/-- A number starts with a digit, or with a point. -/
theorem decimalRun_pos (h : isdigit (byteAt z 0) = true ∨ byteAt z 0 = '.'.toUInt8) :
    0 < (decimalRun z).2 := by
  refine Nat.lt_of_lt_of_le ?_ (le_exponentRun z _ _)
  rcases Nat.eq_zero_or_pos (digitRun isdigit z 0 .INTEGER).2 with h0 | hpos
  · rcases h with hdigit | hdot
    · have hlt : 0 < (digitRun isdigit z 0 .INTEGER).2 :=
        Basis.lt_skip 0 (Bool.or_eq_true_iff.mpr (.inl hdigit)) (by decide)
      omega
    · rw [h0, fractionRun, if_pos hdot]
      exact Nat.lt_of_lt_of_le Nat.zero_lt_one Basis.le_skip
  · exact Nat.lt_of_lt_of_le hpos (le_fractionRun z _ _)

theorem digitToken_pos (h : isdigit (byteAt z 0) = true ∨ byteAt z 0 = '.'.toUInt8) :
    0 < (digitToken z).2 := by
  refine Nat.lt_of_lt_of_le ?_ Basis.le_skip
  unfold numberRun
  split
  · exact skip_pos _ z (by decide)
  · exact decimalRun_pos h

theorem xToken_pos (z : List UInt8) : 0 < (xToken z).2 := by
  unfold xToken
  have hx := skip_pos isxdigit z (i := 2) (by decide)
  split
  · dsimp only
    repeat' split
    · exact Nat.succ_pos _
    · exact skip_pos _ z hx
    · exact Nat.succ_pos _
  · exact skip_pos _ z (by decide)

theorem kywd0Token_pos (z : List UInt8) : 0 < (kywd0Token z).2 := by
  unfold kywd0Token
  split
  · exact skip_pos _ z (by decide)
  · dsimp only
    split
    · exact skip_pos _ z (Nat.succ_pos _)
    · exact skip_pos _ z (by decide)

theorem dotToken_pos (h : byteAt z 0 = '.'.toUInt8) : 0 < (dotToken z).2 := by
  unfold dotToken
  split
  · exact Nat.zero_lt_one
  · exact digitToken_pos (.inr h)

theorem bracketToken_pos (z : List UInt8) : 0 < (bracketToken z).2 := by
  unfold bracketToken
  dsimp only
  split
  · exact Nat.succ_pos _
  · exact skip_pos _ z (by decide)

theorem bomToken_pos (z : List UInt8) : 0 < (bomToken z).2 := by
  unfold bomToken
  split
  · exact Nat.succ_pos 2
  · exact skip_pos _ z (by decide)

/-- What a class says of its byte. -/
theorem aiClass_spec (b : UInt8) : (aiClass b = .nul → b = 0) ∧
    (aiClass b = .digit → isdigit b = true) ∧ (aiClass b = .dot → b = '.'.toUInt8) ∧
    (aiClass b = .bom → b = 0xEF) :=
  forall_byte (P := fun b => (aiClass b = .nul → b = 0) ∧
    (aiClass b = .digit → isdigit b = true) ∧ (aiClass b = .dot → b = '.'.toUInt8) ∧
    (aiClass b = .bom → b = 0xEF))
    (by decide +kernel) b

/-- **Every text that is not at its end has a token of at least one byte.** -/
theorem getToken_pos (h : byteAt z 0 ≠ 0) : 0 < (getToken z).2 := by
  obtain ⟨hnul, hdigit, hdot, _⟩ := aiClass_spec (byteAt z 0)
  unfold getToken
  cases hclass : aiClass (byteAt z 0) with
  | nul => exact absurd (hnul hclass) h
  | space => exact skip_pos _ z (by decide)
  | minus => exact minusToken_pos z
  | slash => exact slashToken_pos z
  | eq => exact second_pos eqToken_second _
  | lt => exact second_pos ltToken_second _
  | gt => exact second_pos gtToken_second _
  | bang => exact second_pos bangToken_second _
  | pipe => exact second_pos pipeToken_second _
  | quote => exact quoteToken_pos z
  | dot => exact dotToken_pos (hdot hclass)
  | digit => exact digitToken_pos (.inl (hdigit hclass))
  | quote2 => exact bracketToken_pos z
  | varnum => exact skip_pos _ z (by decide)
  | dollar | varalpha => exact Nat.lt_of_lt_of_le Nat.zero_lt_one (Nat.le_add_right 1 _)
  | kywd0 => exact kywd0Token_pos z
  | x => exact xToken_pos z
  | kywd | id => exact skip_pos _ z (by decide)
  | bom => exact bomToken_pos z
  | lp | rp | semi | plus | star | percent | comma | and | tilda | illegal => exact Nat.zero_lt_one

end Progress

/-! ## 4. The tokens of a text -/

/-- The tokenizer. -/
def tokenizer : Tokenizer UInt8 TK where
  stop := 0
  next := getToken
  contained := getToken_contained
  progress _ := getToken_pos

/-- The tokens of a text, each with its bytes. -/
def tokens (z : List UInt8) : List (TK × List UInt8) := tokenizer.run z

/-- **The tokens are the text up to its terminator, cut into pieces, and what stands behind the
    terminator changes none of them.** -/
theorem tokens_cover (z : List UInt8) :
    (tokens z).flatMap (fun token => token.2) = Basis.text 0 z ∧
      (∀ token ∈ tokens z, token.2 ≠ []) ∧ tokens (Basis.text 0 z) = tokens z := by
  obtain ⟨htexts, hne⟩ := tokenizer.run_texts z
  exact ⟨htexts, hne, tokenizer.run_text z⟩

end NodeRusqlite.Sqlite
