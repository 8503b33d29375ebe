/-
  File:      NodeRusqlite/Rusqlite/ControlText.lean
  Subject:   What SQLite reads in the texts of the control statements.

  `Dialect` asks for a reading of BEGIN, COMMIT, .. with plain names, and
  `SavepointTexts` for what an arbitrary name does to the savepoint texts. Here
  both are found again in the tokenizer and the grammar.

  * **`control_text_reads`**: a plain name is read as it is.
  * **`savepoint_text_reads`**: whatever the name, the first command of
    `SAVEPOINT name` is a SAVEPOINT or is rejected; a name that it reads as itself
    stands alone in all three texts.
-/
import NodeRusqlite.Rusqlite.PragmaText

namespace NodeRusqlite.Rusqlite

open Sqlite

/-! ## 1. The token behind a keyword -/

section Alone

variable {comments : Bool} {last t : TK} {w z : List UInt8} {ts out : List Token}

/-- The first token that the parser is given stands behind spaces and comments only. -/
theorem feed_eq_cons (ht : t ≠ .SEMI) (h : feed comments (some last) ts = (t, w) :: out) :
    ∃ front t₀ back, ts = front ++ (t₀, w) :: back := by
  induction ts with
  | nil =>
    rw [feed] at h
    split at h
    · cases h
    · obtain ⟨htoken, _⟩ := List.cons.inj h
      exact absurd (Prod.mk.inj htoken).1.symm ht
  | cons token ts ih =>
    obtain ⟨t₀, w₀⟩ := token
    rw [feed] at h
    split at h
    · obtain ⟨front, t₁, back, rfl⟩ := ih h
      exact ⟨(t₀, w₀) :: front, t₁, back, rfl⟩
    · split at h
      all_goals
        obtain ⟨_, rfl⟩ := Prod.mk.inj (List.cons.inj h).1
        exact ⟨[], t₀, ts, rfl⟩

/-- The text that tokens are cut from. -/
def texts (ts : List Token) : List UInt8 := ts.flatMap fun token => token.2

theorem texts_cons (token : Token) (ts : List Token) : texts (token :: ts) = token.2 ++ texts ts :=
  List.flatMap_cons

theorem texts_append (ts ts' : List Token) : texts (ts ++ ts') = texts ts ++ texts ts' :=
  List.flatMap_append

theorem eq_nil_of_texts (hne : ∀ token ∈ ts, token.2 ≠ []) (h : (texts ts).length = 0) :
    ts = [] := by
  cases ts with
  | nil => rfl
  | cons token ts =>
    have hpos := List.length_pos_iff.mpr (hne token List.mem_cons_self)
    rw [texts_cons, List.length_append] at h
    omega

/-- A space takes the front of a text. -/
theorem tokens_space_cons (z : List UInt8) : ∃ u tail,
    tokens (' '.toUInt8 :: z) = (.SPACE, u) :: tail ∧ u ≠ [] ∧ (∀ token ∈ tail, token.2 ≠ []) ∧
      u ++ texts tail = ' '.toUInt8 :: Basis.text 0 z := by
  have hne : Basis.symbol 0 (' '.toUInt8 :: z) 0 ≠ 0 := show ' '.toUInt8 ≠ 0 by decide
  have hrun : tokens (' '.toUInt8 :: z) = (.SPACE, _) :: _ :=
    Basis.Tokenizer.run_of_ne (T := tokenizer) hne
  obtain ⟨htexts, hpieces⟩ := tokenizer.run_texts (' '.toUInt8 :: z)
  rw [show tokenizer.run (' '.toUInt8 :: z) = _ from hrun] at htexts hpieces
  refine ⟨_, _, hrun, hpieces _ List.mem_cons_self,
    fun token hm => hpieces token (List.mem_cons_of_mem _ hm), ?_⟩
  rw [List.flatMap_cons] at htexts
  exact htexts

theorem length_text_le (z : List UInt8) : (Basis.text 0 z).length ≤ z.length := by
  rcases Basis.text_cases 0 z with heq | ⟨junk, heq⟩
  · rw [← heq]
  · have hlen := congrArg List.length heq
    rw [List.length_append] at hlen
    omega

/-- **A name as long as all that stands behind the keyword stands there alone.** -/
theorem tokens_alone (ht : t ≠ .SEMI) (hlen : z.length ≤ w.length)
    (h : feed comments (some last) (tokens (' '.toUInt8 :: z)) = (t, w) :: out) :
    w = z ∧ ∃ t₀, tokens (' '.toUInt8 :: z) = [(.SPACE, [' '.toUInt8]), (t₀, z)] := by
  obtain ⟨u, tail, htokens, hu, hpieces, htexts⟩ := tokens_space_cons z
  have hskip : feed comments (some last) ((.SPACE, u) :: tail) = feed comments (some last) tail :=
    if_pos (.inl rfl)
  rw [htokens, hskip] at h
  obtain ⟨front, t₀, back, rfl⟩ := feed_eq_cons ht h
  have hlens := congrArg List.length htexts
  simp only [texts_append, texts_cons, List.length_append, List.length_cons] at hlens
  have hpos := List.length_pos_iff.mpr hu
  have htext := length_text_le z
  have hfront : front = [] :=
    eq_nil_of_texts (fun token hm => hpieces token (List.mem_append_left _ hm)) (by omega)
  have hback : back = [] :=
    eq_nil_of_texts (fun token hm => hpieces token
      (List.mem_append_right _ (List.mem_cons_of_mem _ hm))) (by omega)
  subst hfront hback
  obtain ⟨a, rfl⟩ := List.length_eq_one_iff.mp (show u.length = 1 by omega)
  have hnil : texts [(t₀, w)] = w := List.append_nil w
  rw [List.nil_append, hnil] at htexts
  obtain ⟨rfl, rfl⟩ := List.cons.inj htexts
  have hz : Basis.text 0 z = z := by
    rcases Basis.text_cases 0 z with heq | ⟨junk, heq⟩
    · exact heq.symm
    · have hcut := congrArg List.length heq
      rw [List.length_append, List.length_cons] at hcut
      omega
  rw [hz] at htokens ⊢
  exact ⟨rfl, t₀, htokens⟩

/-- `z` is one name, and all there is behind a keyword. -/
structure StandsAlone (comments : Bool) (z : List UInt8) (t : TK) : Prop where
  isNm : isNm t = true
  name : dequote z = some z
  feed : ∀ last, last ≠ TK.RP →
    feed comments (some last) (tokens (' '.toUInt8 :: z)) = [(t, z), (.SEMI, [])]

theorem recode_alone {last' : TK} (h : last ≠ .RP) (h' : last' ≠ .RP) (t : TK) :
    recode t (some last) [] = recode t (some last') [] := by
  have hne {l : TK} (hl : l ≠ .RP) : some l ≠ some TK.RP := fun heq => hl (Option.some.inj heq)
  simp only [recode, analyzeOverKeyword, analyzeFilterKeyword, hne h, hne h', false_and]

theorem feed_alone {t₀ : TK} (h₀ : t₀ ≠ .SPACE ∧ t₀ ≠ .COMMENT ∧ t₀ ≠ .ILLEGAL)
    (hz : tokens (' '.toUInt8 :: z) = [(.SPACE, [' '.toUInt8]), (t₀, z)])
    (hnm : isNm (recode t₀ (some last) []) = true) :
    feed comments (some last) (tokens (' '.toUInt8 :: z)) =
      [(recode t₀ (some last) [], z), (.SEMI, [])] := by
  have hskip : feed comments (some last) [(.SPACE, [' '.toUInt8]), (t₀, z)] =
      feed comments (some last) [(t₀, z)] := if_pos (.inl rfl)
  rw [hz, hskip, feed_token h₀, feed, if_neg fun h => (ne_of_isNm hnm).2.2 (Option.some.inj h)]

theorem standsAlone_of_feed {t₀ : TK} (h₀ : t₀ ≠ .SPACE ∧ t₀ ≠ .COMMENT ∧ t₀ ≠ .ILLEGAL)
    (hz : tokens (' '.toUInt8 :: z) = [(.SPACE, [' '.toUInt8]), (t₀, z)])
    (hlast : last ≠ .RP) (hnm : isNm (recode t₀ (some last) []) = true)
    (hname : dequote z = some z) : StandsAlone comments z (recode t₀ (some last) []) where
  isNm := hnm
  name := hname
  feed last' hlast' := by
    rw [recode_alone hlast hlast' t₀] at hnm ⊢
    exact feed_alone h₀ hz hnm

/-- A word that may be a name. -/
theorem standsAlone_word (hw : IsWord z) (hcode : mayBeName (wordCode z) = true)
    (hlast : last ≠ .RP) :
    StandsAlone comments z (recode (wordCode z) (some last) []) := by
  have hnil : EndsWord [] := ⟨by decide, by decide⟩
  have htokens := tokens_word hw hnil
  rw [List.append_nil, tokens_nil] at htokens
  have hahead : (lookahead []).1 ≠ .ID := by decide
  refine standsAlone_of_feed (wordCode_spec z) ?_ hlast (isNm_recode hcode hlast hahead) hw.dequote
  rw [tokens_space (startsWord_spec _ hw.start).1, htokens]

theorem finish_eq_some {command c : Command} (h : finish command ts = some (c, out)) :
    c = command ∧ ∃ u, ts = (.SEMI, u) :: out := by
  unfold finish at h
  split at h
  · cases h
    exact ⟨rfl, _, rfl⟩
  · cases h

theorem savepointCommand_eq_some {command : List UInt8 → Command} {c : Command}
    (h : savepointCommand command ts = some (c, out)) :
    ∃ t w name u, ts = (t, w) :: (.SEMI, u) :: out ∧ isNm t = true ∧ dequote w = some name ∧
      c = command name := by
  simp only [savepointCommand, Option.bind_eq_bind, Option.bind_eq_some_iff] at h
  obtain ⟨⟨w, rest⟩, hnm, name, hname, hfinish⟩ := h
  rcases ts with _ | ⟨⟨t, w'⟩, ts⟩
  · cases hnm
  · rw [nm] at hnm
    split at hnm <;> cases hnm
    obtain ⟨rfl, u, rfl⟩ := finish_eq_some hfinish
    exact ⟨t, w, name, u, rfl, ‹_›, hname, rfl⟩

/-- **A savepoint that reads as itself is named by one token, with nothing behind it.** -/
theorem standsAlone_of_reads {command : List UInt8 → Command} {c : Command} (hlast : last ≠ .RP)
    (h : savepointCommand command (feed comments (some last) (tokens (' '.toUInt8 :: z))) =
      some (c, out))
    (hname : ∀ name, c = command name → name = z) :
    out = [] ∧ ∃ t, StandsAlone comments z t := by
  obtain ⟨t, w, name, u, hfeed, hnm, hdequote, hc⟩ := savepointCommand_eq_some h
  obtain rfl := hname name hc
  have hsemi := (ne_of_isNm hnm).2.2
  obtain ⟨rfl, t₀, htokens⟩ := tokens_alone hsemi (dequote_length hdequote) hfeed
  have hskip : feed comments (some last) [(.SPACE, [' '.toUInt8]), (t₀, w)] =
      feed comments (some last) [(t₀, w)] := if_pos (.inl rfl)
  have hend : feed comments (some last) [] ≠ (t, w) :: (.SEMI, u) :: out := by
    rw [feed]
    intro heq
    split at heq <;> cases heq
  rw [htokens, hskip] at hfeed
  have h₀ : t₀ ≠ .SPACE ∧ t₀ ≠ .COMMENT ∧ t₀ ≠ .ILLEGAL := by
    rw [feed] at hfeed
    split at hfeed
    · exact absurd hfeed hend
    · rename_i hspace
      split at hfeed
      · cases hfeed
      · rename_i hillegal
        rw [not_or] at hspace hillegal
        exact ⟨hspace.1, hillegal.2, hillegal.1⟩
  rw [feed_token h₀] at hfeed
  obtain ⟨htoken, hout⟩ := List.cons.inj hfeed
  obtain ⟨rfl, _⟩ := Prod.mk.inj htoken
  rw [feed, if_neg fun h => hsemi (Option.some.inj h)] at hout
  exact ⟨(List.cons.inj hout).2.symm, _, standsAlone_of_feed h₀ htokens hlast hnm hdequote⟩

end Alone

/-! ## 2. The texts -/

/-- The command a control statement is. -/
def commandOf : Control → Command
  | .begin kind => .begin kind
  | .commit => .commit
  | .rollback => .rollback
  | .savepoint name => .savepoint (utf8 name)
  | .rollbackTo name => .rollbackTo (utf8 name)
  | .release name => .release (utf8 name)

section Texts

variable {comments : Bool} {name : String} {t : TK}

/-- A keyword, and a text behind it. -/
theorem feed_word {word : String} (hw : IsWord (utf8 word))
    (hplain : wordCode (utf8 word) ∉ [TK.SPACE, .COMMENT, .ILLEGAL, .WINDOW, .OVER, .FILTER])
    (last : Option TK) (w : List UInt8) :
    feed comments last (tokens (utf8 word ++ ' '.toUInt8 :: w)) =
      (wordCode (utf8 word), utf8 word) ::
        feed comments (some (wordCode (utf8 word))) (tokens (' '.toUInt8 :: w)) := by
  rw [tokens_word hw endsName_space.toEndsWord, feed_plain hplain]

/-- A keyword that ends the text. -/
theorem feed_last {word : String} (hw : IsWord (utf8 word))
    (hplain : wordCode (utf8 word) ∉ [TK.SPACE, .COMMENT, .ILLEGAL, .WINDOW, .OVER, .FILTER])
    (hsemi : wordCode (utf8 word) ≠ .SEMI) (last : Option TK) :
    feed comments last (tokens (utf8 word)) =
      [(wordCode (utf8 word), utf8 word), (.SEMI, [])] := by
  have hnil : EndsWord [] := ⟨by decide, by decide⟩
  have htokens := tokens_word hw hnil
  rw [List.append_nil, tokens_nil] at htokens
  rw [htokens, feed_plain hplain, feed, if_neg fun heq => hsemi (Option.some.inj heq)]

theorem isWord_keyword {word : String}
    (h : word ∈ ["BEGIN", "DEFERRED", "IMMEDIATE", "EXCLUSIVE", "COMMIT", "ROLLBACK", "TO",
      "SAVEPOINT", "RELEASE"]) : IsWord (utf8 word) := by
  have hall : ∀ word ∈ ["BEGIN", "DEFERRED", "IMMEDIATE", "EXCLUSIVE", "COMMIT", "ROLLBACK", "TO",
      "SAVEPOINT", "RELEASE"], startsWord (byteAt (utf8 word) 0) = true ∧
        (∀ b ∈ utf8 word, idChar b = true) ∧ byteAt (utf8 word) 0 ≠ 0xEF := by decide +kernel
  obtain ⟨hstart, hchars, hbom⟩ := hall word h
  exact ⟨hstart, hchars, fun hb => hbom hb.1⟩

theorem utf8_savepoint (name : String) :
    utf8 (Control.savepoint name).text = utf8 "SAVEPOINT" ++ ' '.toUInt8 :: utf8 name :=
  utf8_append "SAVEPOINT " name

theorem utf8_release (name : String) :
    utf8 (Control.release name).text = utf8 "RELEASE" ++ ' '.toUInt8 :: utf8 name :=
  utf8_append "RELEASE " name

theorem utf8_rollbackTo (name : String) :
    utf8 (Control.rollbackTo name).text =
      utf8 "ROLLBACK" ++ ' '.toUInt8 :: (utf8 "TO" ++ ' '.toUInt8 :: utf8 name) :=
  utf8_append "ROLLBACK TO " name

theorem readText_savepoint (name : String) :
    readText comments (utf8 (Control.savepoint name).text) =
      savepointCommand .savepoint
        (feed comments (some .SAVEPOINT) (tokens (' '.toUInt8 :: utf8 name))) := by
  have hcode : wordCode (utf8 "SAVEPOINT") = .SAVEPOINT := by decide +kernel
  rw [readText, utf8_savepoint, feed_word (isWord_keyword (by decide)) (by rw [hcode]; decide),
    hcode]
  rfl

theorem readText_release (name : String) :
    readText comments (utf8 (Control.release name).text) =
      savepointCommand .release (savepointOpt
        (feed comments (some .RELEASE) (tokens (' '.toUInt8 :: utf8 name)))) := by
  have hcode : wordCode (utf8 "RELEASE") = .RELEASE := by decide +kernel
  rw [readText, utf8_release, feed_word (isWord_keyword (by decide)) (by rw [hcode]; decide),
    hcode]
  rfl

theorem readText_rollbackTo (name : String) :
    readText comments (utf8 (Control.rollbackTo name).text) =
      savepointCommand .rollbackTo (savepointOpt
        (feed comments (some .TO) (tokens (' '.toUInt8 :: utf8 name)))) := by
  have hcode : wordCode (utf8 "ROLLBACK") = .ROLLBACK := by decide +kernel
  have hto : wordCode (utf8 "TO") = .TO := by decide +kernel
  have hspace : isspace (byteAt (utf8 "TO" ++ ' '.toUInt8 :: utf8 name) 0) = false := by
    rw [byteAt_append_left _ (by decide +kernel)]
    decide +kernel
  rw [readText, utf8_rollbackTo,
    feed_keyword (isWord_keyword (by decide)) (by rw [hcode]; decide) hspace,
    feed_word (isWord_keyword (by decide)) (by rw [hto]; decide), hcode, hto]
  rfl

/-- A name that stands alone, behind SAVEPOINT or not. -/
theorem StandsAlone.savepointCommand (h : StandsAlone comments (utf8 name) t)
    (command : List UInt8 → Command) :
    savepointCommand command [(t, utf8 name), (.SEMI, [])] = some (command (utf8 name), []) := by
  simp only [Sqlite.savepointCommand, nm_cons h.isNm, Option.bind_eq_bind, Option.bind_some, h.name]
  rfl

theorem StandsAlone.savepointOpt (h : StandsAlone comments (utf8 name) t)
    (command : List UInt8 → Command) :
    Sqlite.savepointCommand command (savepointOpt [(t, utf8 name), (.SEMI, [])]) =
      if t = .SAVEPOINT then none else some (command (utf8 name), []) := by
  split
  · subst t
    rfl
  · rename_i hne
    rw [← h.savepointCommand command, Sqlite.savepointOpt]
    intro rest w heq
    exact hne (Prod.mk.inj (List.cons.inj heq).1).1

/-- **The texts with a name that stands alone.** -/
theorem StandsAlone.texts (h : StandsAlone comments (utf8 name) t) {s : Control}
    (hs : s = .rollbackTo name ∨ s = .release name) :
    readText comments (utf8 s.text) = if t = .SAVEPOINT then none else some (commandOf s, []) := by
  rcases hs with rfl | rfl
  · rw [readText_rollbackTo, h.feed .TO (by decide)]
    exact h.savepointOpt .rollbackTo
  · rw [readText_release, h.feed .RELEASE (by decide)]
    exact h.savepointOpt .release

/-- **Whatever the name, the first command of `SAVEPOINT name` is a SAVEPOINT or is rejected (behind
    a semicolon others may follow). If it is one with that very name, nothing is behind it, and
    ROLLBACK TO and RELEASE with the name are rejected or mean what they say.** -/
theorem savepoint_text_reads (comments : Bool) (name : String) :
    (∀ command ts, readText comments (utf8 (Control.savepoint name).text) = some (command, ts) →
        ∃ x, command = .savepoint x) ∧
      ∀ ts, readText comments (utf8 (Control.savepoint name).text) =
          some (.savepoint (utf8 name), ts) →
        ts = [] ∧ ∀ s, s = .rollbackTo name ∨ s = .release name →
          readText comments (utf8 s.text) = none ∨
            readText comments (utf8 s.text) = some (commandOf s, []) := by
  rw [readText_savepoint]
  refine ⟨fun command ts h => ?_, fun ts h => ?_⟩
  · obtain ⟨_, _, x, _, _, _, _, hcommand⟩ := savepointCommand_eq_some h
    exact ⟨x, hcommand⟩
  · obtain ⟨hts, t, halone⟩ := standsAlone_of_reads (by decide) h fun x heq =>
      (Command.savepoint.inj heq).symm
    refine ⟨hts, fun s hs => ?_⟩
    rw [halone.texts hs]
    split
    · exact .inl rfl
    · exact .inr rfl

/-! ## 3. Plain names -/

/-- The words that are no plain name. -/
def keyword (name : String) : Bool :=
  !mayBeName (wordCode (utf8 name)) || wordCode (utf8 name) == .SAVEPOINT

example : keyword "TRANSACTION" = true ∧ keyword "_rusqlite_sp" = false := by decide +kernel

theorem isIdentifierStart_of {c : Char} (h : (c.isAlpha || c == '_') = true) :
    Sql.isIdentifierStart c = true := by
  simp only [Char.isAlpha, Char.isUpper, Char.isLower, Bool.or_eq_true, Bool.and_eq_true,
    decide_eq_true_eq, beq_iff_eq] at h
  simp only [Sql.isIdentifierStart, Bool.or_eq_true, Bool.and_eq_true, decide_eq_true_eq,
    beq_iff_eq]
  rcases h with (h | h) | h
  · exact .inl (.inl (.inl h))
  · exact .inl (.inr h)
  · exact .inl (.inl (.inr h))

theorem isIdentifierContinue_of {c : Char} (h : (c.isAlphanum || c == '_') = true) :
    Sql.isIdentifierContinue c = true := by
  rw [Char.isAlphanum, Bool.or_right_comm, Bool.or_eq_true] at h
  rcases h with h | h
  · exact continue_of_start (isIdentifierStart_of h)
  · simp only [Char.isDigit, Bool.and_eq_true, decide_eq_true_eq] at h
    simp only [Sql.isIdentifierContinue, Bool.or_eq_true, Bool.and_eq_true, decide_eq_true_eq,
      beq_iff_eq]
    exact .inl (.inl (.inl (.inl (.inr h))))

/-- A plain identifier is a word. -/
theorem isWord_of_isIdentifier (h : isIdentifier name = true) : IsWord (utf8 name) := by
  unfold isIdentifier at h
  split at h
  · cases h
  · rename_i c cs hlist
    simp only [Bool.and_eq_true, List.all_eq_true] at h
    obtain ⟨⟨hstart, hcs⟩, _⟩ := h
    have hid : Sql.isIdentifier name = true := by
      rw [Sql.isIdentifier, hlist]
      simp only [Bool.and_eq_true, List.all_eq_true]
      exact ⟨isIdentifierStart_of hstart, fun d hd => isIdentifierContinue_of (hcs d hd)⟩
    have hne : name ≠ "" := fun heq => by
      rw [heq] at hlist
      cases hlist
    have hbom : name.toList.head? ≠ some '\uFEFF' := fun heq => by
      rw [hlist] at heq
      rw [Option.some.inj heq] at hstart
      exact absurd hstart (by decide)
    exact isWord_utf8 hid hne hbom

theorem standsAlone_of_plain (comments : Bool)
    (h : isIdentifier name = true ∧ keyword name = false) :
    ∃ t, t ≠ .SAVEPOINT ∧ StandsAlone comments (utf8 name) t := by
  obtain ⟨hid, hkey⟩ := h
  rw [keyword, Bool.or_eq_false_iff, Bool.not_eq_false', beq_eq_false_iff_ne] at hkey
  refine ⟨_, fun heq => ?_, standsAlone_word (isWord_of_isIdentifier hid) hkey.1
    (show TK.SAVEPOINT ≠ .RP by decide)⟩
  unfold recode at heq
  split at heq
  · exact absurd heq (by decide)
  · split at heq
    · exact absurd heq (by decide)
    · split at heq
      · exact absurd heq (by decide)
      · exact hkey.2 heq

/-- `BEGIN` with its kind. -/
theorem readText_begin (kind : BeginKind) :
    readText comments (utf8 (Control.begin kind).text) = some (.begin kind, []) := by
  have hcode : wordCode (utf8 "BEGIN") = .BEGIN := by decide +kernel
  have hkind : ∃ word, (Control.begin kind).text = "BEGIN " ++ word ∧
      (word, wordCode (utf8 word), kind) ∈ [("DEFERRED", TK.DEFERRED, BeginKind.deferred),
        ("IMMEDIATE", .IMMEDIATE, .immediate), ("EXCLUSIVE", .EXCLUSIVE, .exclusive)] := by
    cases kind
    · exact ⟨"DEFERRED", rfl, by decide +kernel⟩
    · exact ⟨"IMMEDIATE", rfl, by decide +kernel⟩
    · exact ⟨"EXCLUSIVE", rfl, by decide +kernel⟩
  obtain ⟨word, htext, hmem⟩ := hkind
  have hutf8 : utf8 ("BEGIN " ++ word) = utf8 "BEGIN" ++ ' '.toUInt8 :: utf8 word :=
    utf8_append "BEGIN " word
  have hspace : isspace (byteAt (utf8 word) 0) = false := by
    simp only [List.mem_cons, Prod.mk.injEq, List.not_mem_nil, or_false] at hmem
    rcases hmem with ⟨rfl, _⟩ | ⟨rfl, _⟩ | ⟨rfl, _⟩ <;> decide +kernel
  rw [readText, htext, hutf8,
    feed_keyword (isWord_keyword (by decide)) (by rw [hcode]; decide) hspace, hcode]
  simp only [List.mem_cons, Prod.mk.injEq, List.not_mem_nil, or_false] at hmem
  rcases hmem with ⟨rfl, hword, rfl⟩ | ⟨rfl, hword, rfl⟩ | ⟨rfl, hword, rfl⟩
  all_goals
    rw [feed_last (isWord_keyword (by decide)) (by rw [hword]; decide) (by rw [hword]; decide),
      hword]
    rfl

theorem readText_commit :
    readText comments (utf8 Control.commit.text) = some (.commit, []) := by
  have hcode : wordCode (utf8 "COMMIT") = .COMMIT := by decide +kernel
  rw [readText, Control.text, feed_last (isWord_keyword (by decide)) (by rw [hcode]; decide)
    (by rw [hcode]; decide), hcode]
  rfl

theorem readText_rollback :
    readText comments (utf8 Control.rollback.text) = some (.rollback, []) := by
  have hcode : wordCode (utf8 "ROLLBACK") = .ROLLBACK := by decide +kernel
  rw [readText, Control.text, feed_last (isWord_keyword (by decide)) (by rw [hcode]; decide)
    (by rw [hcode]; decide), hcode]
  rfl

/-- **SQLite reads the texts of the control statements as what they say**, with any plain name. -/
theorem control_text_reads (comments : Bool) (s : Control)
    (h : ∀ name ∈ s.name?, isIdentifier name = true ∧ keyword name = false) :
    readText comments (utf8 s.text) = some (commandOf s, []) := by
  cases s with
  | begin kind => exact readText_begin kind
  | commit => exact readText_commit
  | rollback => exact readText_rollback
  | savepoint name =>
    obtain ⟨t, _, halone⟩ := standsAlone_of_plain comments (h name rfl)
    rw [readText_savepoint, halone.feed .SAVEPOINT (by decide)]
    exact halone.savepointCommand .savepoint
  | rollbackTo name =>
    obtain ⟨t, hne, halone⟩ := standsAlone_of_plain comments (h name rfl)
    rw [halone.texts (.inl rfl), if_neg hne]
  | release name =>
    obtain ⟨t, hne, halone⟩ := standsAlone_of_plain comments (h name rfl)
    rw [halone.texts (.inr rfl), if_neg hne]

/-- The names the code makes up itself. -/
theorem control_text_reads_sp :
    readText true (utf8 (Control.savepoint "_rusqlite_sp").text) =
      some (.savepoint (utf8 "_rusqlite_sp"), []) :=
  control_text_reads true (.savepoint "_rusqlite_sp") fun name hname => by
    cases hname
    decide +kernel

end Texts

end NodeRusqlite.Rusqlite
