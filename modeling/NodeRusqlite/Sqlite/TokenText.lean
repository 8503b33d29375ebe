/-
  File:      NodeRusqlite/Sqlite/TokenText.lean
  Subject:   Texts that are one token, whatever stands behind them.

  * `tokens_word`, `tokens_quoted`, `tokens_number`, ..: a text of the kind is read
    as one token, if the byte behind it does not belong to it.
  * **`dequote_token`**: the closing quote that `sqlite3Dequote` looks for is always
    there.
-/
import NodeRusqlite.Sqlite.Token

namespace NodeRusqlite.Sqlite

open Basis (skip closing double undouble)

variable {w rest s : List UInt8} {q : UInt8}

/-! ## 1. Words -/

/-- The first byte may start an identifier. -/
def startsWord (b : UInt8) : Bool :=
  match aiClass b with
  | .x | .kywd0 | .kywd | .id | .bom => true
  | _ => false

/-- EF BB BF, which SQLite takes for a space. -/
def startsBom (w : List UInt8) : Prop := byteAt w 0 = 0xEF ∧ byteAt w 1 = 0xBB ∧ byteAt w 2 = 0xBF

/-- Bytes of an identifier or of a keyword. -/
structure IsWord (w : List UInt8) : Prop where
  start : startsWord (byteAt w 0) = true
  chars : ∀ b ∈ w, idChar b = true
  noBom : ¬ startsBom w

/-- The code of a word. -/
def wordCode (w : List UInt8) : TK :=
  if aiClass (byteAt w 0) = .kywd0 ∧ 2 ≤ w.length ∧ w.all isKeywordByte then keywordCode w else .ID

/-- A word is never a space, a comment or an illegal token. -/
theorem wordCode_spec (w : List UInt8) :
    wordCode w ≠ .SPACE ∧ wordCode w ≠ .COMMENT ∧ wordCode w ≠ .ILLEGAL := by
  have hcodes : ∀ t ∈ .ID :: Keyword.aKWCode, t ≠ .SPACE ∧ t ≠ .COMMENT ∧ t ≠ .ILLEGAL := by
    decide +kernel
  refine hcodes _ ?_
  unfold wordCode
  split
  · unfold keywordCode
    split
    · rename_i i _
      rw [Keyword.code, List.getD_eq_getElem?_getD]
      rcases hget : Keyword.aKWCode[i]? with _ | t
      · exact List.mem_cons_self
      · exact List.mem_cons_of_mem _ (List.mem_of_getElem? hget)
    · exact List.mem_cons_self
  · exact List.mem_cons_self

theorem IsWord.ne_nil (h : IsWord w) : w ≠ [] := fun hnil => by
  have hstart := h.start
  rw [hnil] at hstart
  exact absurd hstart (by decide)

theorem IsWord.zero_not_mem (h : IsWord w) : (0 : UInt8) ∉ w := fun hmem =>
  absurd (h.chars 0 hmem) (by decide)

/-- **A token at the front is read, and then the rest.** -/
theorem tokens_append {t : TK} (hw : w ≠ []) (hzero : (0 : UInt8) ∉ w)
    (h : getToken (w ++ rest) = (t, w.length)) : tokens (w ++ rest) = (t, w) :: tokens rest :=
  Basis.Tokenizer.run_append (T := tokenizer) hw hzero h

/-- The byte at an index of a word with something behind it. -/
theorem byteAt_append_left (rest : List UInt8) {i : Nat} (h : i < w.length) :
    byteAt (w ++ rest) i = byteAt w i := Basis.symbol_append_left rest h

theorem byteAt_append_length (w rest : List UInt8) :
    byteAt (w ++ rest) w.length = byteAt rest 0 := Basis.symbol_append_right w rest 0

theorem byteAt_mem {i : Nat} (h : i < w.length) : byteAt w i ∈ w := by
  have hget : byteAt w i = w[i] := List.getD_eq_getElem w 0 h
  exact hget ▸ List.getElem_mem h

/-- The rest of an identifier is skipped from anywhere in it. -/
theorem idToken_word (hw : ∀ b ∈ w, idChar b = true) (hrest : idChar (byteAt rest 0) = false)
    {i : Nat} (h : i ≤ w.length) : idToken (w ++ rest) i = (.ID, w.length) := by
  have hrun : skip idChar (w.take i ++ (w.drop i ++ rest)) (w.take i).length =
      (w.take i).length + (w.drop i).length :=
    Basis.skip_run 0 (w.take i) (fun b hb => hw b (List.mem_of_mem_drop hb)) hrest
  rw [← List.append_assoc, List.take_append_drop, List.length_take, Nat.min_eq_left h,
    List.length_drop] at hrun
  rw [idToken, hrun]
  exact congrArg (TK.ID, ·) (by omega)

theorem isKeywordByte_of_idChar {b : UInt8} (h : idChar b = false) : isKeywordByte b = false := by
  rw [← Bool.not_eq_true] at h ⊢
  exact mt (idChar_of_isKeywordByte b) h

/-- A word of bytes of keywords is looked up, any other one is an identifier. -/
theorem kywd0Token_word (hw : IsWord w) (hclass : aiClass (byteAt w 0) = .kywd0)
    (hrest : idChar (byteAt rest 0) = false) :
    kywd0Token (w ++ rest) = (wordCode w, w.length) := by
  have hpos := List.length_pos_iff.mpr hw.ne_nil
  have hzero : isKeywordByte (byteAt w 0) = true := by rw [isKeywordByte, hclass]
  by_cases hkey : isKeywordByte (byteAt (w ++ rest) 1) = true
  · -- the second byte is a byte of the word
    have h2 : 2 ≤ w.length := Nat.lt_of_not_le fun hle => by
      have h1 : w.length = 1 := Nat.le_antisymm hle hpos
      rw [← h1, byteAt_append_length, isKeywordByte_of_idChar hrest] at hkey
      cases hkey
    have hone : isKeywordByte (byteAt w 1) = true := by rwa [byteAt_append_left rest h2] at hkey
    rw [kywd0Token, if_neg (by rw [hkey]; decide)]
    dsimp only
    have hholds {j : Nat} (h2j : 2 ≤ j) (hj : j < skip isKeywordByte (w ++ rest) 2) :
        isKeywordByte (byteAt (w ++ rest) j) = true := Basis.skip_holds h2j hj
    have hstops : isKeywordByte (byteAt (w ++ rest) (skip isKeywordByte (w ++ rest) 2)) = false :=
      Basis.skip_stops (by decide) (w ++ rest) 2
    have h2i : 2 ≤ skip isKeywordByte (w ++ rest) 2 := Basis.le_skip
    generalize skip isKeywordByte (w ++ rest) 2 = i at hholds hstops h2i ⊢
    have hle : i ≤ w.length := Nat.le_of_not_lt fun hlt => by
      have hrestKey : isKeywordByte (byteAt (w ++ rest) w.length) = true := hholds h2 hlt
      rw [byteAt_append_length, isKeywordByte_of_idChar hrest] at hrestKey
      cases hrestKey
    rcases Nat.lt_or_eq_of_le hle with hlt | heq
    · -- a byte of no keyword comes before the end
      rw [byteAt_append_left rest hlt] at hstops ⊢
      have hall : w.all isKeywordByte = false := by
        rw [List.all_eq_false]
        exact ⟨_, byteAt_mem hlt, by rw [hstops]; decide⟩
      rw [if_pos (hw.chars _ (byteAt_mem hlt)), idToken_word hw.chars hrest hlt, wordCode,
        if_neg (by rw [hall]; simp)]
    · have hall : w.all isKeywordByte = true := by
        rw [List.all_eq_true]
        intro b hb
        obtain ⟨j, hj, rfl⟩ := List.getElem_of_mem hb
        have hget : byteAt w j = w[j] := List.getD_eq_getElem w 0 hj
        rcases j with _ | _ | j
        · exact hget ▸ hzero
        · exact hget ▸ hone
        · have hkeyj : isKeywordByte (byteAt (w ++ rest) (j + 2)) = true :=
            hholds (by omega) (by omega)
          rwa [byteAt_append_left rest hj, hget] at hkeyj
      rw [heq, byteAt_append_length, if_neg (by rw [hrest]; decide), List.take_left, wordCode,
        if_pos ⟨hclass, h2, hall⟩]
  · have hcode : wordCode w = .ID := by
      refine if_neg fun h => hkey ?_
      rw [byteAt_append_left rest h.2.1]
      exact List.all_eq_true.mp h.2.2 _ (byteAt_mem h.2.1)
    rw [kywd0Token, if_pos (by simpa using hkey), idToken_word hw.chars hrest hpos, hcode]

/-- What stands behind a word does not go on with it, and does not make a blob of an `x`. -/
structure EndsWord (rest : List UInt8) : Prop where
  noChar : idChar (byteAt rest 0) = false
  noQuote : byteAt rest 0 ≠ '\''.toUInt8

theorem xToken_word (hw : IsWord w) (hrest : EndsWord rest) :
    xToken (w ++ rest) = (.ID, w.length) := by
  have hpos := List.length_pos_iff.mpr hw.ne_nil
  have hquote : byteAt (w ++ rest) 1 ≠ '\''.toUInt8 := by
    rcases Nat.lt_or_eq_of_le (show 1 ≤ w.length from hpos) with hlt | heq
    · rw [byteAt_append_left rest hlt]
      intro h
      have hchar := hw.chars _ (byteAt_mem hlt)
      rw [h] at hchar
      exact absurd hchar (by decide)
    · rw [heq, byteAt_append_length]
      exact hrest.noQuote
  rw [xToken, if_neg hquote, idToken_word hw.chars hrest.noChar hpos]

theorem bomToken_word (hw : IsWord w) (hclass : aiClass (byteAt w 0) = .bom)
    (hrest : idChar (byteAt rest 0) = false) : bomToken (w ++ rest) = (.ID, w.length) := by
  have hpos := List.length_pos_iff.mpr hw.ne_nil
  have hbyte {i : Nat} (hi : i ≤ w.length) (h : idChar (byteAt (w ++ rest) i) = true) :
      i < w.length := by
    rcases Nat.lt_or_eq_of_le hi with hlt | rfl
    · exact hlt
    · rw [byteAt_append_length, hrest] at h
      cases h
  have hno : ¬ (byteAt (w ++ rest) 1 = 0xBB ∧ byteAt (w ++ rest) 2 = 0xBF) := fun h => by
    have h1 : 1 < w.length := hbyte hpos (by rw [h.1]; decide)
    have h2 : 2 < w.length := hbyte h1 (by rw [h.2]; decide)
    rw [byteAt_append_left rest h1, byteAt_append_left rest h2] at h
    exact hw.noBom ⟨(aiClass_spec _).2.2.2 hclass, h⟩
  rw [bomToken, if_neg hno, idToken_word hw.chars hrest hpos]

/-- **A word is one token.** -/
theorem getToken_word (hw : IsWord w) (hrest : EndsWord rest) :
    getToken (w ++ rest) = (wordCode w, w.length) := by
  have hpos := List.length_pos_iff.mpr hw.ne_nil
  have hother (h : aiClass (byteAt w 0) ≠ .kywd0) : wordCode w = .ID := if_neg fun hc => h hc.1
  have hid := idToken_word hw.chars hrest.noChar hpos
  rw [getToken, byteAt_append_left rest hpos]
  have hstart := hw.start
  unfold startsWord at hstart
  cases hclass : aiClass (byteAt w 0) with
  | kywd0 => exact kywd0Token_word hw hclass hrest.noChar
  | x => exact (xToken_word hw hrest).trans (by rw [hother (by rw [hclass]; decide)])
  | bom =>
    rw [hother (by rw [hclass]; decide)]
    exact bomToken_word hw hclass hrest.noChar
  | kywd | id => exact hid.trans (by rw [hother (by rw [hclass]; decide)])
  | _ =>
    rw [hclass] at hstart
    cases hstart

theorem tokens_word (hw : IsWord w) (hrest : EndsWord rest) :
    tokens (w ++ rest) = (wordCode w, w) :: tokens rest :=
  tokens_append hw.ne_nil hw.zero_not_mem (getToken_word hw hrest)

/-! ## 2. Quotes -/

/-- A text between two quotes of a kind. -/
def quoted (q : UInt8) (s : List UInt8) : List UInt8 := q :: (double q s ++ [q])

theorem quoted_append (q : UInt8) (s rest : List UInt8) :
    quoted q s ++ rest = q :: (double q s ++ q :: rest) := by
  rw [quoted, List.cons_append, List.append_assoc]
  rfl

theorem getToken_quote (hq : aiClass q = .quote) (z : List UInt8) :
    getToken (q :: z) = quoteToken (q :: z) := by
  rw [getToken, byteAt, Basis.symbol_zero_cons, hq]
  rfl

theorem ne_zero_of_quote (hq : aiClass q = .quote) : q ≠ 0 := fun h => by
  rw [h] at hq
  exact absurd hq (by decide)

theorem zero_not_mem_quoted (hq : q ≠ 0) (hs : (0 : UInt8) ∉ s) : (0 : UInt8) ∉ quoted q s := by
  have hdouble : (0 : UInt8) ∉ double q s := fun h => by
    obtain ⟨a, ha, hmem⟩ := List.mem_flatMap.mp h
    split at hmem <;> simp only [List.mem_cons, List.not_mem_nil, or_false, or_self] at hmem
    all_goals exact hs (hmem ▸ ha)
  simp only [quoted, List.mem_cons, List.mem_append, List.not_mem_nil, or_false, not_or]
  exact ⟨hq.symm, hdouble, hq.symm⟩

/-- **A quoted text is one token.** -/
theorem tokens_quoted (hq : aiClass q = .quote) (hs : (0 : UInt8) ∉ s)
    (hrest : byteAt rest 0 ≠ q) :
    tokens (quoted q s ++ rest) =
      (if q = '\''.toUInt8 then .STRING else .ID, quoted q s) :: tokens rest := by
  have hclosing := Basis.closing_double (ne_zero_of_quote hq) hs hrest
  refine tokens_append (List.cons_ne_nil _ _) (zero_not_mem_quoted (ne_zero_of_quote hq) hs) ?_
  rw [quoted_append, getToken_quote hq, quoteToken_cons, hclosing, if_pos rfl]
  simp only [quoted, List.length_cons, List.length_append, List.length_nil]
  exact congrArg _ (by omega)

/-- A text with a NUL in it is not closed, and not a token. -/
theorem getToken_quoted_nul (hq : aiClass q = .quote) (hs : (0 : UInt8) ∈ s) :
    (getToken (quoted q s ++ rest)).1 = .ILLEGAL := by
  rw [quoted_append, getToken_quote hq, quoteToken_cons,
    Basis.closing_double_stop (ne_zero_of_quote hq) hs]
  rfl

/-! ## 3. Digits and single bytes -/

/-- A byte that is a token. -/
theorem tokens_byte {b : UInt8} {t : TK} (hb : b ≠ 0) (h : getToken (b :: rest) = (t, 1)) :
    tokens (b :: rest) = (t, [b]) :: tokens rest :=
  tokens_append (w := [b]) (List.cons_ne_nil _ _)
    (fun hmem => hb (List.mem_singleton.mp hmem).symm) h

theorem tokens_space (h : isspace (byteAt rest 0) = false) :
    tokens (' '.toUInt8 :: rest) = (.SPACE, [' '.toUInt8]) :: tokens rest := by
  refine tokens_byte (by decide) ?_
  have hskip : skip isspace (' '.toUInt8 :: rest) 1 = 1 := Basis.skip_of_neg 0 h
  exact congrArg (TK.SPACE, ·) hskip

theorem tokens_eq (h : byteAt rest 0 ≠ '='.toUInt8) :
    tokens ('='.toUInt8 :: rest) = (.EQ, ['='.toUInt8]) :: tokens rest :=
  tokens_byte (by decide) (if_neg h)

theorem tokens_lp (rest : List UInt8) :
    tokens ('('.toUInt8 :: rest) = (.LP, ['('.toUInt8]) :: tokens rest :=
  tokens_byte (by decide) rfl

theorem tokens_rp (rest : List UInt8) :
    tokens (')'.toUInt8 :: rest) = (.RP, [')'.toUInt8]) :: tokens rest :=
  tokens_byte (by decide) rfl

theorem tokens_dot (h : isdigit (byteAt rest 0) = false) :
    tokens ('.'.toUInt8 :: rest) = (.DOT, ['.'.toUInt8]) :: tokens rest := by
  refine tokens_byte (by decide) ?_
  show dotToken ('.'.toUInt8 :: rest) = _
  exact if_pos (by rw [byteAt, Basis.symbol_succ_cons, ← byteAt, h]; rfl)

theorem tokens_minus (h : byteAt rest 0 ≠ '-'.toUInt8) (h' : byteAt rest 0 ≠ '>'.toUInt8) :
    tokens ('-'.toUInt8 :: rest) = (.MINUS, ['-'.toUInt8]) :: tokens rest :=
  tokens_byte (by decide) ((if_neg h).trans (if_neg h'))

theorem tokens_nil : tokens [] = [] := Basis.Tokenizer.run_of_end rfl

theorem isdigit_spec (b : UInt8) : isdigit b = true →
    b ≠ 0 ∧ b ≠ digitSeparator ∧ b ≠ 'x'.toUInt8 ∧ b ≠ 'X'.toUInt8 ∧ idChar b = true ∧
      aiClass b = .digit :=
  forall_byte (P := fun b => isdigit b = true →
    b ≠ 0 ∧ b ≠ digitSeparator ∧ b ≠ 'x'.toUInt8 ∧ b ≠ 'X'.toUInt8 ∧ idChar b = true ∧
      aiClass b = .digit) (by decide +kernel) b

/-- A byte that does not go on with an identifier is not this one. -/
theorem ne_of_idChar {b c : UInt8} (h : idChar b = false) (hc : idChar c = true) : b ≠ c :=
  fun heq => by
    rw [heq, hc] at h
    cases h

section Digits

variable (hw : ∀ b ∈ w, isdigit b = true)
include hw

variable (rest) in
/-- The loop over digits stops behind them. -/
theorem digitRun_run (hdigit : isdigit (byteAt rest 0) = false)
    (hsep : byteAt rest 0 ≠ digitSeparator) (front : List UInt8) (t : TK) :
    digitRun isdigit (front ++ (w ++ rest)) front.length t = (t, front.length + w.length) := by
  have hskip : skip (fun c => isdigit c || c == digitSeparator) (front ++ (w ++ rest))
      front.length = front.length + w.length :=
    Basis.skip_run 0 front (fun b hb => Bool.or_eq_true_iff.mpr (.inl (hw b hb)))
      (Bool.or_eq_false_iff.mpr ⟨hdigit, beq_eq_false_iff_ne.mpr hsep⟩)
  have hnone : digitSeparator ∉ w := fun hmem => (isdigit_spec _ (hw _ hmem)).2.1 rfl
  simp only [digitRun, hskip, List.drop_left, Nat.add_sub_cancel_left, List.take_left,
    if_neg hnone]

theorem zero_not_mem_digits : (0 : UInt8) ∉ w := fun hmem => (isdigit_spec _ (hw _ hmem)).1 rfl

variable (rest) in
/-- Digits are no hexadecimal number. -/
theorem not_hex (hne : w ≠ []) (hx : byteAt rest 0 ≠ 'x'.toUInt8)
    (hX : byteAt rest 0 ≠ 'X'.toUInt8) :
    ¬ (byteAt (w ++ rest) 1 = 'x'.toUInt8 ∨ byteAt (w ++ rest) 1 = 'X'.toUInt8) := by
  rcases Nat.lt_or_eq_of_le (show 1 ≤ w.length from List.length_pos_iff.mpr hne) with hlt | heq
  · obtain ⟨_, _, hbx, hbX, _⟩ := isdigit_spec _ (hw _ (byteAt_mem hlt))
    rw [byteAt_append_left rest hlt]
    exact not_or.mpr ⟨hbx, hbX⟩
  · rw [heq, byteAt_append_length]
    exact not_or.mpr ⟨hx, hX⟩

end Digits

theorem isdigit_of_idChar {b : UInt8} (h : idChar b = false) : isdigit b = false := by
  rw [← Bool.not_eq_true]
  exact fun hdigit => ne_of_idChar h (isdigit_spec _ hdigit).2.2.2.2.1 rfl

/-- No exponent begins where an identifier could not go on. -/
theorem exponentRun_none {z : List UInt8} {i : Nat} (h : idChar (byteAt z i) = false) (t : TK) :
    exponentRun z t i = (t, i) :=
  if_neg fun hc => hc.1.elim (ne_of_idChar h (by decide)) (ne_of_idChar h (by decide))

/-- No exponent, or one with a sign. -/
inductive IsExponent : List UInt8 → Prop where
  | none : IsExponent []
  | some {sign : UInt8} {digits : List UInt8} (hsign : sign = '+'.toUInt8 ∨ sign = '-'.toUInt8)
      (hne : digits ≠ []) (hdigits : ∀ b ∈ digits, isdigit b = true) :
      IsExponent ('e'.toUInt8 :: sign :: digits)

section Exponent

variable {exponent : List UInt8} (hexponent : IsExponent exponent)
  (hrest : idChar (byteAt rest 0) = false)
include hexponent hrest

/-- Digits end where an exponent begins. -/
theorem IsExponent.ends : isdigit (byteAt (exponent ++ rest) 0) = false ∧
    byteAt (exponent ++ rest) 0 ≠ digitSeparator := by
  cases hexponent with
  | none => exact ⟨isdigit_of_idChar hrest, ne_of_idChar hrest (by decide)⟩
  | some => exact ⟨show isdigit 'e'.toUInt8 = false by decide,
      show 'e'.toUInt8 ≠ digitSeparator by decide⟩

theorem exponentRun_exponent (front : List UInt8) :
    exponentRun (front ++ (exponent ++ rest)) .FLOAT front.length =
      (.FLOAT, front.length + exponent.length) := by
  cases hexponent with
  | none => exact exponentRun_none (by rwa [List.nil_append, byteAt_append_length]) _
  | @some sign digits hsign hne hdigits =>
    have hbyte (i : Nat) : byteAt (front ++ ('e'.toUInt8 :: sign :: digits ++ rest))
        (front.length + i) = byteAt ('e'.toUInt8 :: sign :: (digits ++ rest)) i :=
      Basis.symbol_append_right front _ i
    have hdigit : isdigit (byteAt (digits ++ rest) 0) = true := by
      have hpos := List.length_pos_iff.mpr hne
      rw [byteAt_append_left rest hpos]
      exact hdigits _ (byteAt_mem hpos)
    have hrun := digitRun_run _ hdigits (isdigit_of_idChar hrest) (ne_of_idChar hrest (by decide))
      (front ++ ['e'.toUInt8, sign]) .FLOAT
    have hlist : front ++ ['e'.toUInt8, sign] ++ (digits ++ rest) =
        front ++ ('e'.toUInt8 :: sign :: digits ++ rest) := by
      rw [List.append_assoc]
      rfl
    rw [hlist, List.length_append] at hrun
    have hlen : front.length + ['e'.toUInt8, sign].length + digits.length =
        front.length + ('e'.toUInt8 :: sign :: digits).length := by
      simp only [List.length_cons, List.length_nil]
      omega
    rw [exponentRun, if_pos ⟨.inl (hbyte 0), .inr ⟨by rw [hbyte 1]; exact hsign,
      by rw [hbyte 2]; exact hdigit⟩⟩]
    exact hrun.trans (congrArg (TK.FLOAT, ·) hlen)

end Exponent

/-- The digits of a number, with a point in it or not. -/
structure IsNumber (w : List UInt8) : Prop where
  digits : ∃ int fraction, int ≠ [] ∧ (∀ b ∈ int ++ fraction, isdigit b = true) ∧
    (w = int ∨ w = int ++ '.'.toUInt8 :: fraction)

section Number

variable (hw : IsNumber w)
include hw

theorem IsNumber.start : isdigit (byteAt w 0) = true := by
  obtain ⟨int, fraction, hne, hdigits, rfl | rfl⟩ := hw.digits
  · exact hdigits _ (List.mem_append_left _ (byteAt_mem (List.length_pos_iff.mpr hne)))
  · rw [byteAt_append_left _ (List.length_pos_iff.mpr hne)]
    exact hdigits _ (List.mem_append_left _ (byteAt_mem (List.length_pos_iff.mpr hne)))

theorem IsNumber.ne_nil : w ≠ [] := fun h => by
  have hstart := hw.start
  rw [h] at hstart
  exact absurd hstart (by decide)

theorem IsNumber.zero_not_mem : (0 : UInt8) ∉ w := by
  obtain ⟨int, fraction, _, hdigits, hshape⟩ := hw.digits
  have hno := zero_not_mem_digits hdigits
  rw [List.mem_append, not_or] at hno
  rcases hshape with rfl | rfl
  · exact hno.1
  · rw [List.mem_append, List.mem_cons, not_or, not_or]
    exact ⟨hno.1, by decide, hno.2⟩

end Number

/-- Digits, a point, more digits and perhaps an exponent. -/
structure IsDecimal (w : List UInt8) : Prop where
  digits : ∃ int fraction exponent, int ≠ [] ∧ (∀ b ∈ int ++ fraction, isdigit b = true) ∧
    IsExponent exponent ∧ w = int ++ '.'.toUInt8 :: (fraction ++ exponent)

section Runs

variable (hrest : idChar (byteAt rest 0) = false)
include hrest

theorem numberRun_digits (hw : ∀ b ∈ w, isdigit b = true) (hne : w ≠ [])
    (hdot : byteAt rest 0 ≠ '.'.toUInt8) : numberRun (w ++ rest) = (.INTEGER, w.length) := by
  have hx := not_hex _ hw hne (ne_of_idChar hrest (by decide)) (ne_of_idChar hrest (by decide))
  have hint := digitRun_run _ hw (isdigit_of_idChar hrest) (ne_of_idChar hrest (by decide)) []
    .INTEGER
  rw [List.nil_append, List.length_nil, Nat.zero_add] at hint
  rw [numberRun, if_neg fun h => hx h.2.1, decimalRun]
  simp only [hint, fractionRun, byteAt_append_length, if_neg hdot]
  exact exponentRun_none (by rw [byteAt_append_length, hrest]) _

theorem numberRun_decimal (hw : IsDecimal w) : numberRun (w ++ rest) = (.FLOAT, w.length) := by
  obtain ⟨int, fraction, exponent, hne, hdigits, hexponent, rfl⟩ := hw.digits
  have hlist : int ++ '.'.toUInt8 :: (fraction ++ exponent) ++ rest =
      int ++ '.'.toUInt8 :: (fraction ++ (exponent ++ rest)) := by
    simp only [List.append_assoc, List.cons_append]
  have hx := not_hex ('.'.toUInt8 :: (fraction ++ (exponent ++ rest)))
    (fun b hb => hdigits b (List.mem_append_left _ hb)) hne
    (show '.'.toUInt8 ≠ 'x'.toUInt8 by decide) (show '.'.toUInt8 ≠ 'X'.toUInt8 by decide)
  have hint := digitRun_run ('.'.toUInt8 :: (fraction ++ (exponent ++ rest)))
    (fun b hb => hdigits b (List.mem_append_left _ hb)) (show isdigit '.'.toUInt8 = false by decide)
    (show '.'.toUInt8 ≠ digitSeparator by decide) [] .INTEGER
  have hends := hexponent.ends hrest
  have hfraction := digitRun_run _ (fun b hb => hdigits b (List.mem_append_right _ hb)) hends.1
    hends.2 (int ++ ['.'.toUInt8]) .FLOAT
  have hexp := exponentRun_exponent hexponent hrest (int ++ '.'.toUInt8 :: fraction)
  rw [List.nil_append, List.length_nil, Nat.zero_add] at hint
  rw [List.append_assoc, List.singleton_append, List.length_append, List.length_singleton]
    at hfraction
  rw [List.append_assoc, List.cons_append] at hexp
  have hlen : int.length + 1 + fraction.length = (int ++ '.'.toUInt8 :: fraction).length := by
    rw [List.length_append, List.length_cons]
    omega
  rw [hlist, numberRun, if_neg fun h => hx h.2.1, decimalRun]
  have hpoint : byteAt (int ++ '.'.toUInt8 :: (fraction ++ (exponent ++ rest))) int.length =
      '.'.toUInt8 := byteAt_append_length int _
  have hfloat : fractionRun (int ++ '.'.toUInt8 :: (fraction ++ (exponent ++ rest))) .INTEGER
      int.length = (.FLOAT, (int ++ '.'.toUInt8 :: fraction).length) := by
    rw [fractionRun, if_pos hpoint, ← hlen]
    exact hfraction
  simp only [hint, hfloat]
  refine hexp.trans (congrArg (TK.FLOAT, ·) ?_)
  simp only [List.length_append, List.length_cons]
  omega

/-- What the loops take for a number is a token. -/
theorem tokens_of_numberRun {t : TK} (hstart : isdigit (byteAt w 0) = true) (hw : (0 : UInt8) ∉ w)
    (hrun : numberRun (w ++ rest) = (t, w.length)) :
    tokens (w ++ rest) = (t, w) :: tokens rest := by
  have hne : w ≠ [] := fun h => by
    rw [h] at hstart
    exact absurd hstart (by decide)
  have hskip : skip idChar (w ++ rest) w.length = w.length :=
    Basis.skip_of_neg 0 ((congrArg idChar (byteAt_append_length w rest)).trans hrest)
  refine tokens_append hne hw ?_
  rw [getToken, byteAt_append_left rest (List.length_pos_iff.mpr hne),
    (isdigit_spec _ hstart).2.2.2.2.2]
  show digitToken (w ++ rest) = _
  rw [digitToken, hrun]
  simp only [numberEnd, byteAt_append_length, hrest, hskip]
  rfl

/-- **A number is one token.** -/
theorem tokens_number (hw : IsNumber w) (hdot : byteAt rest 0 ≠ '.'.toUInt8) :
    ∃ t, (t = .INTEGER ∨ t = .FLOAT) ∧ tokens (w ++ rest) = (t, w) :: tokens rest := by
  have hnumber {t : TK} := tokens_of_numberRun (t := t) hrest hw.start hw.zero_not_mem
  obtain ⟨int, fraction, hne, hdigits, rfl | rfl⟩ := hw.digits
  · exact ⟨.INTEGER, .inl rfl,
      hnumber (numberRun_digits hrest (fun b hb => hdigits b (List.mem_append_left _ hb)) hne hdot)⟩
  · exact ⟨.FLOAT, .inr rfl, hnumber (numberRun_decimal hrest
      ⟨int, fraction, [], hne, hdigits, .none, by rw [List.append_nil]⟩)⟩

end Runs

/-! ### The decimal text of a number -/

theorem utf8_ofDigits {cs : List Char} (h : ∀ c ∈ cs, c.isDigit = true) :
    ∀ b ∈ cs.flatMap String.utf8EncodeChar, isdigit b = true := by
  intro b hb
  obtain ⟨c, hc, hb⟩ := List.mem_flatMap.mp hb
  have hdigit := h c hc
  simp only [Char.isDigit, Bool.and_eq_true, decide_eq_true_eq, UInt32.le_iff_toNat_le] at hdigit
  have hlt : c.toNat < 0x80 := Nat.lt_of_le_of_lt hdigit.2 (by decide)
  have hall : ∀ n < 0x80, 48 ≤ n ∧ n ≤ 57 → isdigit (UInt8.ofNat n) = true := by decide +kernel
  rw [utf8EncodeChar_ascii hlt, List.mem_singleton] at hb
  rw [hb]
  exact hall _ hlt ⟨hdigit.1, hdigit.2⟩

theorem repr_ne_nil (n : Nat) : utf8 n.repr ≠ [] := by
  rw [utf8, Nat.toList_repr]
  intro h
  rcases hd : Nat.toDigits 10 n with _ | ⟨c, cs⟩
  · exact Nat.toDigits_ne_nil hd
  · rw [hd, List.flatMap_cons] at h
    exact String.utf8EncodeChar_ne_nil (List.append_eq_nil_iff.mp h).1

theorem isdigit_repr (n : Nat) : ∀ b ∈ utf8 n.repr, isdigit b = true := by
  rw [utf8, Nat.toList_repr]
  exact utf8_ofDigits fun c hc => Nat.isDigit_of_mem_toDigits (by decide) (by decide) hc

theorem isNumber_repr (n : Nat) : IsNumber (utf8 n.repr) :=
  ⟨_, [], repr_ne_nil n, by rw [List.append_nil]; exact isdigit_repr n, .inl rfl⟩

theorem utf8_minus (s : String) : utf8 ("-" ++ s) = '-'.toUInt8 :: utf8 s := by
  rw [utf8_append]
  rfl

/-! ## 4. Names -/

/-- `sqlite3Isquote`. -/
def isquote (b : UInt8) : Bool := sqlite3CtypeMap b &&& 0x80 != 0

/-- `sqlite3Dequote`; `none`: its assertion that the quote is closed fails. -/
def dequote : List UInt8 → Option (List UInt8)
  | [] => some []
  | q :: body =>
    if isquote q then undouble (if q = '['.toUInt8 then ']'.toUInt8 else q) body
    else some (q :: body)

theorem isquote_spec (b : UInt8) : (isquote b = true → aiClass b = .quote ∨ b = '['.toUInt8) ∧
    (aiClass b = .quote → isquote b = true ∧ b ≠ '['.toUInt8) ∧
    (startsWord b = true → isquote b = false) ∧ (isdigit b = true → isquote b = false) :=
  forall_byte (P := fun b => (isquote b = true → aiClass b = .quote ∨ b = '['.toUInt8) ∧
    (aiClass b = .quote → isquote b = true ∧ b ≠ '['.toUInt8) ∧
    (startsWord b = true → isquote b = false) ∧ (isdigit b = true → isquote b = false))
    (by decide +kernel) b

theorem dequote_quoted (hq : aiClass q = .quote) (s : List UInt8) :
    dequote (quoted q s) = some s := by
  obtain ⟨hquote, hbracket⟩ := (isquote_spec q).2.1 hq
  rw [quoted, dequote, if_pos hquote, if_neg hbracket]
  exact Basis.undouble_double 0 (ne_zero_of_quote hq) (ne_zero_of_quote hq).symm

theorem dequote_of_not_quote (h : isquote (byteAt w 0) = false) : dequote w = some w := by
  cases w with
  | nil => rfl
  | cons b w => exact if_neg (Bool.eq_false_iff.mp h)

theorem dequote_length (h : dequote w = some s) : s.length ≤ w.length := by
  cases w with
  | nil =>
    cases h
    exact Nat.le_refl _
  | cons b w =>
    rw [dequote] at h
    split at h
    · exact Nat.le_succ_of_le (Basis.undouble_length h).le
    · cases h
      exact Nat.le_refl _

theorem IsWord.dequote (h : IsWord w) : dequote w = some w :=
  dequote_of_not_quote ((isquote_spec _).2.2.1 h.start)

theorem quoteToken_dequote (hq : aiClass q = .quote) {z : List UInt8}
    (h : (quoteToken (q :: z)).1 ≠ .ILLEGAL) :
    ∃ s, (q :: z).take (quoteToken (q :: z)).2 = quoted q s := by
  rw [quoteToken_cons] at h ⊢
  by_cases hclosed : (closing 0 q z).2 = true
  · obtain ⟨s, rest, hz, _, _, hlen⟩ := Basis.eq_double_of_closing (ne_zero_of_quote hq) hclosed
    have hlist : q :: z = quoted q s ++ rest := by rw [hz, quoted_append]
    refine ⟨s, ?_⟩
    rw [if_pos hclosed, hlen, hlist]
    refine List.take_left' ?_
    simp only [quoted, List.length_cons, List.length_append, List.length_nil]
    omega
  · rw [if_neg hclosed] at h
    exact absurd rfl h

theorem bracketToken_dequote {z : List UInt8}
    (h : (bracketToken ('['.toUInt8 :: z)).1 ≠ .ILLEGAL) :
    ∃ s, ']'.toUInt8 ∉ s ∧ ('['.toUInt8 :: z).take (bracketToken ('['.toUInt8 :: z)).2 =
      '['.toUInt8 :: (s ++ [']'.toUInt8]) := by
  have hholds {j : Nat} (h1j : 1 ≤ j) (hj : j < skip (before ']'.toUInt8) ('['.toUInt8 :: z) 1) :
      before ']'.toUInt8 (byteAt ('['.toUInt8 :: z) j) = true := Basis.skip_holds h1j hj
  have hle : 1 ≤ skip (before ']'.toUInt8) ('['.toUInt8 :: z) 1 := Basis.le_skip
  simp only [bracketToken] at h ⊢
  generalize skip (before ']'.toUInt8) ('['.toUInt8 :: z) 1 = i at hholds hle h ⊢
  by_cases hclosed : byteAt ('['.toUInt8 :: z) i = ']'.toUInt8
  · obtain ⟨j, rfl⟩ := Nat.exists_eq_add_of_le' hle
    have hlt : j < z.length := lt_length (z := z) hclosed (by decide)
    have hget : z[j] = ']'.toUInt8 := (List.getD_eq_getElem z 0 hlt).symm.trans hclosed
    refine ⟨z.take j, fun hmem => ?_, ?_⟩
    · obtain ⟨k, hk, heq⟩ := List.getElem_of_mem hmem
      rw [List.length_take] at hk
      rw [List.getElem_take] at heq
      have hbyte : before ']'.toUInt8 (byteAt z k) = true :=
        hholds (j := k + 1) (by omega) (by omega)
      rw [byteAt, Basis.symbol, List.getD_eq_getElem z 0 (by omega), heq] at hbyte
      exact absurd hbyte (by decide)
    · rw [if_pos hclosed, List.take_succ_cons, List.take_succ_eq_append_getElem hlt, hget]
  · rw [if_neg hclosed] at h
    exact absurd rfl h

/-- **No name the parser dequotes lacks its closing quote.** -/
theorem dequote_token {z : List UInt8} {t : TK} (hm : (t, w) ∈ tokens z)
    (ht : t ≠ .ILLEGAL) : (dequote w).isSome = true := by
  obtain ⟨z, hz, heq⟩ := Basis.Tokenizer.mem_run hm
  obtain ⟨rfl, rfl⟩ := Prod.mk.inj heq
  change (getToken z).1 ≠ .ILLEGAL at ht
  change (dequote (z.take (getToken z).2)).isSome = true
  obtain ⟨n, hn⟩ := Nat.exists_eq_add_of_lt (getToken_pos hz)
  cases z with
  | nil => exact absurd rfl hz
  | cons b z =>
    by_cases hquote : isquote b = true
    · rcases (isquote_spec b).1 hquote with hq | rfl
      · rw [getToken_quote hq] at ht ⊢
        obtain ⟨s, hs⟩ := quoteToken_dequote hq ht
        rw [hs, dequote_quoted hq]
        rfl
      · obtain ⟨s, hs, htake⟩ := bracketToken_dequote (z := z) ht
        have hundouble : undouble ']'.toUInt8 (double ']'.toUInt8 s ++ [']'.toUInt8]) = some s :=
          Basis.undouble_double 0 (by decide) (by decide)
        rw [Basis.double_of_not_mem hs] at hundouble
        have hdequote : dequote ('['.toUInt8 :: (s ++ [']'.toUInt8])) = some s := by
          rw [dequote, if_pos (by decide), if_pos rfl]
          exact hundouble
        rw [show getToken ('['.toUInt8 :: z) = bracketToken ('['.toUInt8 :: z) from rfl, htake,
          hdequote]
        rfl
    · rw [hn, Nat.zero_add, List.take_succ_cons, dequote, if_neg hquote]
      rfl

/-- A name with a quote in it. -/
theorem dequote_token_quoted :
    (dequote (quoted '\x22'.toUInt8 (utf8 "a\"b"))).isSome = true := by
  refine dequote_token (z := quoted '\x22'.toUInt8 (utf8 "a\"b") ++ []) (t := .ID) ?_ (by decide)
  rw [tokens_quoted rfl (by decide +kernel) (by decide)]
  exact List.mem_cons_self

end NodeRusqlite.Sqlite
