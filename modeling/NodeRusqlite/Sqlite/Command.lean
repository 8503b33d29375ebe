/-
  File:      NodeRusqlite/Sqlite/Command.lean
  Subject:   From the tokens of a text to a command: what `sqlite3RunParser` hands to
             the parser, and the grammar of transactions and of PRAGMA.

  * `feed`: spaces and comments are dropped, WINDOW, OVER and FILTER looked at
    again, and a text without a semicolon is given one.
  * `readCommand`: the commands BEGIN, COMMIT, ROLLBACK, SAVEPOINT, RELEASE, ROLLBACK TO
    and PRAGMA, with the names and values their actions get.
-/
import NodeRusqlite.Sqlite.Dialect
import NodeRusqlite.Sqlite.TokenText

namespace NodeRusqlite.Sqlite

abbrev Token := TK × List UInt8

/-! ## 1. What the parser is given -/

/-- `yyFallback`: the keywords that may be identifiers. -/
def fallback : TK → Bool
  | .EXPLAIN | .QUERY | .PLAN | .BEGIN | .DEFERRED | .IMMEDIATE | .EXCLUSIVE | .END | .ROLLBACK
  | .SAVEPOINT | .RELEASE | .IF | .TEMP | .WITHOUT | .ABORT | .ACTION | .AFTER | .ANALYZE | .ASC
  | .ATTACH | .BEFORE | .BY | .CASCADE | .CAST | .CONFLICT | .DATABASE | .DESC | .DETACH | .EACH
  | .FAIL | .MATCH | .LIKE_KW | .COLUMNKW | .DO | .FOR | .IGNORE | .INITIALLY | .INSTEAD | .NO
  | .KEY | .OF | .OFFSET | .PRAGMA | .RAISE | .RECURSIVE | .REPLACE | .RESTRICT | .ROW | .ROWS
  | .TRIGGER | .VACUUM | .VIEW | .VIRTUAL | .WITH | .NULLS | .FIRST | .LAST | .CURRENT
  | .FOLLOWING | .PARTITION | .PRECEDING | .RANGE | .UNBOUNDED | .EXCLUDE | .GROUPS | .OTHERS
  | .TIES | .GENERATED | .ALWAYS | .MATERIALIZED | .REINDEX | .RENAME | .CTIME_KW => true
  | _ => false

/-- `getToken` of tokenize.c: the next token that is no space and no comment. All that may be an
    identifier counts as one. -/
def lookahead : List Token → TK × List Token
  | [] => (.ILLEGAL, [])
  | (t, _) :: rest =>
    if t = .SPACE ∨ t = .COMMENT then lookahead rest
    else if t = .ID ∨ t = .STRING ∨ t = .JOIN_KW ∨ t = .WINDOW ∨ t = .OVER ∨ fallback t then
      (.ID, rest)
    else (t, rest)

/-- `analyzeWindowKeyword`. -/
def analyzeWindowKeyword (rest : List Token) : TK :=
  if (lookahead rest).1 ≠ .ID then .ID
  else if (lookahead (lookahead rest).2).1 ≠ .AS then .ID
  else .WINDOW

/-- `analyzeOverKeyword`. -/
def analyzeOverKeyword (rest : List Token) (last : Option TK) : TK :=
  if last = some .RP ∧ ((lookahead rest).1 = .LP ∨ (lookahead rest).1 = .ID) then .OVER else .ID

/-- `analyzeFilterKeyword`. -/
def analyzeFilterKeyword (rest : List Token) (last : Option TK) : TK :=
  if last = some .RP ∧ (lookahead rest).1 = .LP then .FILTER else .ID

/-- What WINDOW, OVER and FILTER are between `last` and `rest`. -/
def recode (t : TK) (last : Option TK) (rest : List Token) : TK :=
  if t = .WINDOW then analyzeWindowKeyword rest
  else if t = .OVER then analyzeOverKeyword rest last
  else if t = .FILTER then analyzeFilterKeyword rest last
  else t

/-- The loop of `sqlite3RunParser`: the tokens it hands to the parser after `last`. It stops at the
    first one it does not recognise; `comments` is `SQLITE_Comments`. -/
def feed (comments : Bool) : Option TK → List Token → List Token
  | last, [] => if last = some .SEMI then [] else [(.SEMI, [])]
  | last, (t, w) :: rest =>
    if t = .SPACE ∨ t = .COMMENT ∧ comments then feed comments last rest
    else if t = .ILLEGAL ∨ t = .COMMENT then [(.ILLEGAL, w)]
    else (recode t last rest, w) :: feed comments (some (recode t last rest)) rest

/-! ## 2. The grammar -/

/-- `nm ::= ID|INDEXED|JOIN_KW`, `nm ::= STRING`. -/
def isNm (t : TK) : Bool :=
  t = .ID || t = .INDEXED || t = .JOIN_KW || t = .STRING || fallback t

def nm : List Token → Option (List UInt8 × List Token)
  | (t, w) :: rest => if isNm t then some (w, rest) else none
  | [] => none

theorem nm_cons {t : TK} (h : isNm t = true) (w : List UInt8) (rest : List Token) :
    nm ((t, w) :: rest) = some (w, rest) := if_pos h

/-- `dbnm ::=`, `dbnm ::= DOT nm`. -/
def dbnm : List Token → Option (Option (List UInt8) × List Token)
  | (.DOT, _) :: rest => (nm rest).map fun (w, rest) => (some w, rest)
  | rest => some (none, rest)

/-- `trans_opt ::=`, `trans_opt ::= TRANSACTION`, `trans_opt ::= TRANSACTION nm`. -/
def transOpt : List Token → List Token
  | (.TRANSACTION, _) :: rest =>
    match nm rest with
    | some (_, rest) => rest
    | none => rest
  | rest => rest

/-- `savepoint_opt ::= SAVEPOINT`, `savepoint_opt ::=`. -/
def savepointOpt : List Token → List Token
  | (.SAVEPOINT, _) :: rest => rest
  | rest => rest

/-- `plus_num`, `minus_num`: the number behind the sign. -/
def number : List Token → Option (List UInt8 × List Token)
  | (.INTEGER, w) :: rest | (.FLOAT, w) :: rest => some (w, rest)
  | _ => none

/-- `nmnum` or `minus_num`, with the text that `sqlite3Pragma` makes of it. -/
def pragmaValue : List Token → Option (List UInt8 × List Token)
  | (.MINUS, _) :: rest => (number rest).map fun (w, rest) => ('-'.toUInt8 :: w, rest)
  | (.PLUS, _) :: rest => do
    let (w, rest) ← number rest
    return (← dequote w, rest)
  | (t, w) :: rest =>
    if t = .INTEGER ∨ t = .FLOAT ∨ t = .ON ∨ t = .DELETE ∨ t = .DEFAULT ∨ isNm t then
      (dequote w).map fun w => (w, rest)
    else none
  | [] => none

/-- The commands read here, with the dequoted names. -/
inductive Command where
  | begin (kind : BeginKind)
  | commit
  | rollback
  | savepoint (name : List UInt8)
  | release (name : List UInt8)
  | rollbackTo (name : List UInt8)
  | pragma (schema : Option (List UInt8)) (name : List UInt8) (value : Option (List UInt8))
deriving DecidableEq

/-- `ecmd ::= cmdx SEMI`. -/
def finish (command : Command) : List Token → Option (Command × List Token)
  | (.SEMI, _) :: rest => some (command, rest)
  | _ => none

/-- A command with a savepoint. -/
def savepointCommand (command : List UInt8 → Command) (ts : List Token) :
    Option (Command × List Token) := do
  let (w, rest) ← nm ts
  finish (command (← dequote w)) rest

/-- `transtype`. -/
def transType : List Token → BeginKind × List Token
  | (.DEFERRED, _) :: rest => (.deferred, rest)
  | (.IMMEDIATE, _) :: rest => (.immediate, rest)
  | (.EXCLUSIVE, _) :: rest => (.exclusive, rest)
  | rest => (.deferred, rest)

/-- What may follow the name of a pragma. -/
def pragmaArg : List Token → Option (Option (List UInt8) × List Token)
  | (.EQ, _) :: rest => (pragmaValue rest).map fun (value, rest) => (some value, rest)
  | (.LP, _) :: rest =>
    match pragmaValue rest with
    | some (value, (.RP, _) :: rest) => some (some value, rest)
    | _ => none
  | rest => some (none, rest)

/-- The names of `sqlite3Pragma`: `sqlite3TwoPartName`, `sqlite3NameFromToken`. -/
def pragmaNames (first : List UInt8) :
    Option (List UInt8) → Option (Option (List UInt8) × List UInt8)
  | none => (dequote first).map fun name => (none, name)
  | some second => do
    let schema ← dequote first
    return (some schema, ← dequote second)

/-- `cmd ::= PRAGMA nm dbnm ..`. -/
def pragmaCommand (ts : List Token) : Option (Command × List Token) := do
  let (first, rest) ← nm ts
  let (second, rest) ← dbnm rest
  let (value, rest) ← pragmaArg rest
  let (schema, name) ← pragmaNames first second
  finish (.pragma schema name value) rest

/-- `ROLLBACK trans_opt`, with what may follow. -/
def rollbackCommand : List Token → Option (Command × List Token)
  | (.TO, _) :: rest => savepointCommand .rollbackTo (savepointOpt rest)
  | rest => finish .rollback rest

/-- The first command of what the parser is given. -/
def readCommand : List Token → Option (Command × List Token)
  | (.SEMI, _) :: rest => readCommand rest
  | (.BEGIN, _) :: rest => finish (.begin (transType rest).1) (transOpt (transType rest).2)
  | (.COMMIT, _) :: rest | (.END, _) :: rest => finish .commit (transOpt rest)
  | (.ROLLBACK, _) :: rest => rollbackCommand (transOpt rest)
  | (.SAVEPOINT, _) :: rest => savepointCommand .savepoint rest
  | (.RELEASE, _) :: rest => savepointCommand .release (savepointOpt rest)
  | (.PRAGMA, _) :: rest => pragmaCommand rest
  | _ => none

/-- The first command of a text, and the tokens behind it. -/
def readText (comments : Bool) (z : List UInt8) : Option (Command × List Token) :=
  readCommand (feed comments none (tokens z))

/-! ## 3. Names and values in place -/

section InPlace

variable {comments : Bool} {t last : TK} {w name rest : List UInt8} {ts : List Token}

theorem feed_token (ht : t ≠ .SPACE ∧ t ≠ .COMMENT ∧ t ≠ .ILLEGAL) (last : Option TK) :
    feed comments last ((t, w) :: ts) =
      (recode t last ts, w) :: feed comments (some (recode t last ts)) ts := by
  obtain ⟨hspace, hcomment, hillegal⟩ := ht
  rw [feed, if_neg (by simp [hspace, hcomment]), if_neg (by simp [hillegal, hcomment])]

theorem feed_plain (ht : t ∉ [TK.SPACE, .COMMENT, .ILLEGAL, .WINDOW, .OVER, .FILTER])
    (last : Option TK) :
    feed comments last ((t, w) :: ts) = (t, w) :: feed comments (some t) ts := by
  simp only [List.mem_cons, List.not_mem_nil, or_false, not_or] at ht
  obtain ⟨hspace, hcomment, hillegal, hwindow, hover, hfilter⟩ := ht
  rw [feed_token ⟨hspace, hcomment, hillegal⟩, recode, if_neg hwindow, if_neg hover, if_neg hfilter]

/-- A token that is no identifier. -/
theorem lookahead_plain (ht : ¬ (t = .SPACE ∨ t = .COMMENT))
    (hid : ¬ (t = .ID ∨ t = .STRING ∨ t = .JOIN_KW ∨ t = .WINDOW ∨ t = .OVER ∨ fallback t)) :
    lookahead ((t, w) :: ts) = (t, ts) := (if_neg ht).trans (if_neg hid)

/-- A word that may be a name, if what stands around it does not make a keyword of it. -/
def mayBeName (t : TK) : Bool := isNm t || t = .WINDOW || t = .OVER || t = .FILTER

theorem mayBeName_spec (h : mayBeName t = true) : t ≠ .SPACE ∧ t ≠ .COMMENT ∧ t ≠ .ILLEGAL := by
  refine ⟨?_, ?_, ?_⟩ <;> intro heq <;> rw [heq] at h <;> exact absurd h (by decide)

theorem isNm_recode (h : mayBeName t = true) (hlast : last ≠ .RP)
    (hahead : (lookahead ts).1 ≠ .ID) : isNm (recode t (some last) ts) = true := by
  have hlast : ¬ some last = some TK.RP := fun heq => hlast (Option.some.inj heq)
  unfold recode
  split
  · rw [analyzeWindowKeyword, if_pos hahead]
    rfl
  · split
    · rw [analyzeOverKeyword, if_neg fun hc => hlast hc.1]
      rfl
    · split
      · rw [analyzeFilterKeyword, if_neg fun hc => hlast hc.1]
        rfl
      · rename_i hwindow hover hfilter
        simpa [mayBeName, hwindow, hover, hfilter] using h

/-- What stands behind a name: no byte that goes on with it, and no quote. -/
structure EndsName (rest : List UInt8) : Prop extends EndsWord rest where
  noDouble : byteAt rest 0 ≠ '\x22'.toUInt8

theorem endsName_cons {b : UInt8}
    (h : idChar b = false ∧ b ≠ '\''.toUInt8 ∧ b ≠ '\x22'.toUInt8) : EndsName (b :: rest) :=
  ⟨⟨h.1, h.2.1⟩, h.2.2⟩

/-- The text `w` is one token and reads as `name`. -/
structure ReadsName (w name : List UInt8) : Prop where
  ne_nil : w ≠ []
  start : isspace (byteAt w 0) = false ∧ isdigit (byteAt w 0) = false ∧ byteAt w 0 ≠ '='.toUInt8
  token : ∀ rest, EndsName rest →
    ∃ t, mayBeName t = true ∧ tokens (w ++ rest) = (t, w) :: tokens rest
  name : dequote w = some name

theorem startsWord_spec (b : UInt8) : startsWord b = true →
    isspace b = false ∧ isdigit b = false ∧ b ≠ '='.toUInt8 :=
  forall_byte (P := fun b => startsWord b = true →
    isspace b = false ∧ isdigit b = false ∧ b ≠ '='.toUInt8) (by decide +kernel) b

theorem IsWord.readsName (hw : IsWord w) (hcode : mayBeName (wordCode w) = true) :
    ReadsName w w where
  ne_nil := hw.ne_nil
  start := startsWord_spec _ hw.start
  token _ hrest := ⟨_, hcode, tokens_word hw hrest.toEndsWord⟩
  name := hw.dequote

theorem readsName_quoted {s : List UInt8} (hs : (0 : UInt8) ∉ s) :
    ReadsName (quoted '\x22'.toUInt8 s) s where
  ne_nil := List.cons_ne_nil _ _
  start := show isspace '\x22'.toUInt8 = false ∧ isdigit '\x22'.toUInt8 = false ∧
    '\x22'.toUInt8 ≠ '='.toUInt8 by decide
  token _ hrest := ⟨.ID, rfl, tokens_quoted rfl hs hrest.noDouble⟩
  name := dequote_quoted rfl s

theorem readsName_string {s : List UInt8} (hs : (0 : UInt8) ∉ s) :
    ReadsName (quoted '\''.toUInt8 s) s where
  ne_nil := List.cons_ne_nil _ _
  start := show isspace '\''.toUInt8 = false ∧ isdigit '\''.toUInt8 = false ∧
    '\''.toUInt8 ≠ '='.toUInt8 by decide
  token _ hrest := ⟨.STRING, rfl, tokens_quoted rfl hs hrest.noQuote⟩
  name := dequote_quoted rfl s

theorem ReadsName.start_append (h : ReadsName w name) (rest : List UInt8) :
    isspace (byteAt (w ++ rest) 0) = false ∧ isdigit (byteAt (w ++ rest) 0) = false := by
  rw [byteAt_append_left rest (List.length_pos_iff.mpr h.ne_nil)]
  exact ⟨h.start.1, h.start.2.1⟩

/-- **A name is read as a name wherever no keyword is made of it.** -/
theorem nm_feed (comments : Bool) (h : ReadsName w name) (hrest : EndsName rest)
    (hlast : last ≠ .RP) (hahead : (lookahead (tokens rest)).1 ≠ .ID) :
    ∃ t, isNm t = true ∧ feed comments (some last) (tokens (w ++ rest)) =
      (t, w) :: feed comments (some t) (tokens rest) := by
  obtain ⟨t, ht, htokens⟩ := h.token rest hrest
  refine ⟨_, isNm_recode ht hlast hahead, ?_⟩
  rw [htokens, feed_token (mayBeName_spec ht)]

/-! ## 4. Pragmas in place -/

/-- What stands behind the value of a pragma. -/
def IsClose (rest : List UInt8) : Prop := rest = [] ∨ rest = [')'.toUInt8]

theorem IsClose.endsName (h : IsClose rest) : EndsName rest := by
  rcases h with rfl | rfl <;> exact ⟨⟨by decide, by decide⟩, by decide⟩

theorem tokens_close : tokens [')'.toUInt8] = [(.RP, [')'.toUInt8])] := by
  rw [tokens_rp, tokens_nil]

theorem IsClose.ahead (h : IsClose rest) : (lookahead (tokens rest)).1 ≠ .ID := by
  rcases h with rfl | rfl
  · rw [tokens_nil]
    decide
  · rw [tokens_close]
    decide

/-- The text `w` reads as the value `value` of a pragma; `none`: as an error. -/
structure ReadsValue (comments : Bool) (w : List UInt8) (value : Option (List UInt8)) : Prop where
  start : byteAt w 0 ≠ '='.toUInt8
  value : ∀ rest, IsClose rest → ∀ last, last ≠ .RP → ∃ t, t ≠ .SEMI ∧
    pragmaValue (feed comments (some last) (tokens (w ++ rest))) =
      value.map fun value => (value, feed comments (some t) (tokens rest))

theorem ne_of_isNm (h : isNm t = true) : t ≠ .MINUS ∧ t ≠ .PLUS ∧ t ≠ .SEMI := by
  refine ⟨?_, ?_, ?_⟩ <;> intro heq <;> rw [heq] at h <;> exact absurd h (by decide)

/-- A name is a value. -/
theorem ReadsName.readsValue (h : ReadsName w name) : ReadsValue comments w (some name) where
  start := h.start.2.2
  value rest hrest last hlast := by
    obtain ⟨t, ht, hfeed⟩ := nm_feed comments h hrest.endsName hlast hrest.ahead
    obtain ⟨hminus, hplus, hsemi⟩ := ne_of_isNm ht
    refine ⟨t, hsemi, ?_⟩
    rw [hfeed]
    unfold pragmaValue
    split
    · rename_i heq
      exact absurd (Prod.mk.inj (List.cons.inj heq).1).1 hminus
    · rename_i heq
      exact absurd (Prod.mk.inj (List.cons.inj heq).1).1 hplus
    · rename_i heq
      obtain ⟨htoken, rfl⟩ := List.cons.inj heq
      obtain ⟨rfl, rfl⟩ := Prod.mk.inj htoken
      rw [if_pos (by simp [ht]), h.name]
    · rename_i heq
      cases heq

theorem pragmaValue_number (ht : t = .INTEGER ∨ t = .FLOAT) (ts : List Token) :
    pragmaValue ((t, w) :: ts) = (dequote w).map fun w => (w, ts) := by
  rcases ht with rfl | rfl <;> rfl

theorem feed_number (ht : t = .INTEGER ∨ t = .FLOAT) (last : Option TK) :
    feed comments last ((t, w) :: ts) = (t, w) :: feed comments (some t) ts := by
  rcases ht with rfl | rfl <;> exact feed_plain (by decide) last

/-- So is a number. -/
theorem readsValue_number (hw : IsNumber w) : ReadsValue comments w (some w) where
  start := fun heq => by
    have hdigit := hw.start
    rw [heq] at hdigit
    exact absurd hdigit (by decide)
  value rest hrest last _ := by
    have hdot : byteAt rest 0 ≠ '.'.toUInt8 := by
      rcases hrest with rfl | rfl <;> decide
    have hdequote : dequote w = some w := dequote_of_not_quote ((isquote_spec _).2.2.2 hw.start)
    obtain ⟨t, ht, htokens⟩ := tokens_number hrest.endsName.noChar hw hdot
    refine ⟨t, by rcases ht with rfl | rfl <;> decide, ?_⟩
    rw [htokens, feed_number ht, pragmaValue_number ht, hdequote]

/-- And a number behind a minus sign. -/
theorem readsValue_minus (hw : IsNumber w) :
    ReadsValue comments ('-'.toUInt8 :: w) (some ('-'.toUInt8 :: w)) where
  start := show '-'.toUInt8 ≠ '='.toUInt8 by decide
  value rest hrest last _ := by
    have hpos := List.length_pos_iff.mpr hw.ne_nil
    have hne (b : UInt8) (hb : isdigit b = false) : byteAt (w ++ rest) 0 ≠ b := by
      rw [byteAt_append_left rest hpos]
      intro heq
      have hdigit := hw.start
      rw [heq, hb] at hdigit
      cases hdigit
    have hdot : byteAt rest 0 ≠ '.'.toUInt8 := by
      rcases hrest with rfl | rfl <;> decide
    obtain ⟨t, ht, htokens⟩ := tokens_number hrest.endsName.noChar hw hdot
    refine ⟨t, by rcases ht with rfl | rfl <;> decide, ?_⟩
    rw [List.cons_append, tokens_minus (hne _ (by decide)) (hne _ (by decide)), htokens,
      feed_plain (by decide), feed_number ht]
    rcases ht with rfl | rfl <;> rfl

/-- But no word. -/
theorem readsValue_minus_word (hw : IsWord w) (hcode : wordCode w = .ID) :
    ReadsValue comments ('-'.toUInt8 :: w) none where
  start := show '-'.toUInt8 ≠ '='.toUInt8 by decide
  value rest hrest last _ := by
    have hne (b : UInt8) (hb : startsWord b = false) : byteAt (w ++ rest) 0 ≠ b := by
      rw [byteAt_append_left rest (List.length_pos_iff.mpr hw.ne_nil)]
      intro heq
      have hstart := hw.start
      rw [heq, hb] at hstart
      cases hstart
    refine ⟨.ID, by decide, ?_⟩
    rw [List.cons_append, tokens_minus (hne _ (by decide)) (hne _ (by decide)),
      tokens_word hw hrest.endsName.toEndsWord, hcode, feed_plain (by decide),
      feed_plain (by decide)]
    rfl

theorem feed_illegal (last : Option TK) (ht : t = .ILLEGAL) :
    feed comments last ((t, w) :: ts) = [(.ILLEGAL, w)] := by
  subst ht
  exact (if_neg (by simp)).trans (if_pos (.inl rfl))

/-- A quoted text with a NUL in it ends the text. -/
theorem feed_quoted_nul (comments : Bool) {q : UInt8} {s : List UInt8} (hq : aiClass q = .quote)
    (hs : (0 : UInt8) ∈ s) (last : Option TK) (rest : List UInt8) :
    ∃ w, feed comments last (tokens (quoted q s ++ rest)) = [(.ILLEGAL, w)] := by
  have hne : Basis.symbol 0 (quoted q s ++ rest) 0 ≠ 0 := ne_zero_of_quote hq
  have htokens := congrArg (feed comments last) (Basis.Tokenizer.run_of_ne (T := tokenizer) hne)
  exact ⟨_, htokens.trans (feed_illegal last (getToken_quoted_nul hq hs))⟩

/-- As a value it is an error. -/
theorem readsValue_nul {s : List UInt8} (hs : (0 : UInt8) ∈ s) :
    ReadsValue comments (quoted '\''.toUInt8 s) none where
  start := show '\''.toUInt8 ≠ '='.toUInt8 by decide
  value rest _ last _ := by
    obtain ⟨w, hfeed⟩ := feed_quoted_nul comments (q := '\''.toUInt8) rfl hs
      (some last) rest
    exact ⟨.ILLEGAL, by decide, by rw [hfeed]; rfl⟩

/-- What may follow the last name of a pragma, and the value it gives; `none`: an error. -/
structure IsTail (comments : Bool) (tail : List UInt8) (value : Option (Option (List UInt8))) :
    Prop where
  ends : EndsName tail
  ahead : (lookahead (tokens tail)).1 ≠ .ID
  arg : ∀ t, isNm t = true →
    dbnm (feed comments (some t) (tokens tail)) =
        some (none, feed comments (some t) (tokens tail)) ∧
      pragmaArg (feed comments (some t) (tokens tail)) =
        value.map fun value => (value, [(.SEMI, [])])

theorem isTail_nil : IsTail comments [] (some none) where
  ends := ⟨⟨by decide, by decide⟩, by decide⟩
  ahead := by
    rw [tokens_nil]
    decide
  arg t ht := by
    rw [tokens_nil, feed, if_neg fun h => (ne_of_isNm ht).2.2 (Option.some.inj h)]
    exact ⟨rfl, rfl⟩

theorem isTail_assign {value : Option (List UInt8)} (h : ReadsValue comments w value) :
    IsTail comments ('='.toUInt8 :: w) (value.map some) := by
  have htokens := tokens_eq h.start
  obtain ⟨t', ht', hvalue⟩ := h.value [] (.inl rfl) .EQ (by decide)
  rw [List.append_nil, tokens_nil, feed, if_neg fun h => ht' (Option.some.inj h)] at hvalue
  have hahead : (lookahead (tokens ('='.toUInt8 :: w))).1 ≠ .ID := by
    rw [htokens, lookahead_plain (by decide) (by decide)]
    exact show TK.EQ ≠ .ID by decide
  refine ⟨endsName_cons (by decide), hahead, fun t ht => ?_⟩
  rw [htokens, feed_plain (by decide)]
  refine ⟨rfl, ?_⟩
  show (pragmaValue (feed comments (some .EQ) (tokens w))).map _ = _
  rw [hvalue]
  cases value <;> rfl

theorem isTail_call {value : Option (List UInt8)} (h : ReadsValue comments w value) :
    IsTail comments ('('.toUInt8 :: (w ++ [')'.toUInt8])) (value.map some) := by
  have htokens := tokens_lp (w ++ [')'.toUInt8])
  obtain ⟨t', ht', hvalue⟩ := h.value [')'.toUInt8] (.inr rfl) .LP (by decide)
  rw [tokens_close, feed_plain (by decide), feed, if_neg (by decide)] at hvalue
  have hahead : (lookahead (tokens ('('.toUInt8 :: (w ++ [')'.toUInt8])))).1 ≠ .ID := by
    rw [htokens, lookahead_plain (by decide) (by decide)]
    exact show TK.LP ≠ .ID by decide
  refine ⟨endsName_cons (by decide), hahead, fun t ht => ?_⟩
  rw [htokens, feed_plain (by decide)]
  refine ⟨rfl, ?_⟩
  rw [pragmaArg, hvalue]
  cases value <;> rfl

theorem endsName_space : EndsName (' '.toUInt8 :: rest) := endsName_cons (by decide)

/-- A keyword at the front, as the parser is given it. -/
theorem feed_keyword {word : String} (hw : IsWord (utf8 word))
    (hplain : wordCode (utf8 word) ∉ [TK.SPACE, .COMMENT, .ILLEGAL, .WINDOW, .OVER, .FILTER])
    (hspace : isspace (byteAt w 0) = false) (last : Option TK) :
    feed comments last (tokens (utf8 word ++ ' '.toUInt8 :: w)) =
      (wordCode (utf8 word), utf8 word) ::
        feed comments (some (wordCode (utf8 word))) (tokens w) := by
  rw [tokens_word hw endsName_space.toEndsWord, tokens_space hspace, feed_plain hplain, feed,
    if_pos (.inl rfl)]

theorem isWord_pragma : IsWord (utf8 "PRAGMA") := by
  refine ⟨by decide +kernel, by decide +kernel, fun h => absurd h.1 (by decide +kernel)⟩

theorem readText_pragma (h : isspace (byteAt w 0) = false) :
    readText comments (utf8 "PRAGMA" ++ ' '.toUInt8 :: w) =
      pragmaCommand (feed comments (some .PRAGMA) (tokens w)) := by
  have hcode : wordCode (utf8 "PRAGMA") = .PRAGMA := by decide +kernel
  rw [readText, feed_keyword isWord_pragma (by rw [hcode]; decide) h, hcode]
  rfl

variable {w' schema tail : List UInt8} {value : Option (Option (List UInt8))}

/-- **A pragma without a schema.** -/
theorem readText_pragma_name (hname : ReadsName w name) (htail : IsTail comments tail value) :
    readText comments (utf8 "PRAGMA" ++ ' '.toUInt8 :: (w ++ tail)) =
      value.map fun value => (.pragma none name value, []) := by
  obtain ⟨t, ht, hfeed⟩ := nm_feed comments hname htail.ends
    (show TK.PRAGMA ≠ .RP by decide) htail.ahead
  obtain ⟨hdbnm, harg⟩ := htail.arg t ht
  rw [readText_pragma (hname.start_append tail).1, hfeed, pragmaCommand]
  simp only [nm_cons ht, Option.bind_eq_bind, Option.bind_some, hdbnm, harg, pragmaNames,
    hname.name, Option.map_some]
  cases value <;> rfl

/-- The name of a schema goes to the parser with the point behind it. -/
theorem feed_schema (comments : Bool) (hschema : ReadsName w' schema)
    (hdigit : isdigit (byteAt rest 0) = false) :
    ∃ t, isNm t = true ∧
      feed comments (some .PRAGMA) (tokens (w' ++ '.'.toUInt8 :: rest)) =
        (t, w') :: (.DOT, ['.'.toUInt8]) :: feed comments (some .DOT) (tokens rest) := by
  have hdot := tokens_dot hdigit
  have hahead : (lookahead (tokens ('.'.toUInt8 :: rest))).1 ≠ .ID := by
    rw [hdot, lookahead_plain (by decide) (by decide)]
    exact show TK.DOT ≠ .ID by decide
  have hends : EndsName ('.'.toUInt8 :: rest) := endsName_cons (by decide)
  obtain ⟨t, ht, hfeed⟩ := nm_feed comments hschema hends (show TK.PRAGMA ≠ .RP by decide) hahead
  exact ⟨t, ht, by rw [hfeed, hdot, feed_plain (by decide)]⟩

/-- **A pragma with a schema.** -/
theorem readText_pragma_schema (hschema : ReadsName w' schema) (hname : ReadsName w name)
    (htail : IsTail comments tail value) :
    readText comments (utf8 "PRAGMA" ++ ' '.toUInt8 :: (w' ++ '.'.toUInt8 :: (w ++ tail))) =
      value.map fun value => (.pragma (some schema) name value, []) := by
  obtain ⟨t', ht', hfeed'⟩ := feed_schema comments hschema
    (hname.start_append tail).2
  obtain ⟨t, ht, hfeed⟩ := nm_feed comments hname htail.ends
    (show TK.DOT ≠ .RP by decide) htail.ahead
  obtain ⟨_, harg⟩ := htail.arg t ht
  rw [readText_pragma (hschema.start_append _).1, hfeed', hfeed, pragmaCommand]
  simp only [nm_cons ht', nm_cons ht, Option.bind_eq_bind, Option.bind_some, dbnm, Option.map_some,
    harg, pragmaNames, hschema.name, hname.name]
  cases value <;> rfl

/-- The text `w` is no name, whatever stands behind it. -/
structure NoName (comments : Bool) (w : List UInt8) : Prop where
  start : ∀ rest, EndsName rest →
    isspace (byteAt (w ++ rest) 0) = false ∧ isdigit (byteAt (w ++ rest) 0) = false
  fails : ∀ last rest, EndsName rest →
    nm (feed comments (some last) (tokens (w ++ rest))) = none

theorem noName_quoted {s : List UInt8} (hs : (0 : UInt8) ∈ s) :
    NoName comments (quoted '\x22'.toUInt8 s) where
  start rest _ := show isspace '\x22'.toUInt8 = false ∧ isdigit '\x22'.toUInt8 = false by decide
  fails last rest _ := by
    obtain ⟨w, hfeed⟩ := feed_quoted_nul comments (q := '\x22'.toUInt8) rfl hs
      (some last) rest
    rw [hfeed]
    rfl

/-- A reserved word. -/
theorem noName_word (hw : IsWord w) (hcode : mayBeName (wordCode w) = false) :
    NoName comments w where
  start rest _ := by
    rw [byteAt_append_left rest (List.length_pos_iff.mpr hw.ne_nil)]
    obtain ⟨hspace, hdigit, _⟩ := startsWord_spec _ hw.start
    exact ⟨hspace, hdigit⟩
  fails last rest hrest := by
    have hplain : wordCode w ∉ [TK.SPACE, .COMMENT, .ILLEGAL, .WINDOW, .OVER, .FILTER] := by
      intro hmem
      simp only [List.mem_cons, List.not_mem_nil, or_false] at hmem
      rcases hmem with h | h | h | h | h | h
      · exact (wordCode_spec w).1 h
      · exact (wordCode_spec w).2.1 h
      · exact (wordCode_spec w).2.2 h
      all_goals
        rw [h] at hcode
        exact absurd hcode (by decide)
    have hnm : isNm (wordCode w) = false := by
      rw [mayBeName, Bool.or_assoc, Bool.or_assoc] at hcode
      exact (Bool.or_eq_false_iff.mp hcode).1
    rw [tokens_word hw hrest.toEndsWord, feed_plain hplain, nm, hnm]
    rfl

theorem readText_noName (h : NoName comments w) (hrest : EndsName rest) :
    readText comments (utf8 "PRAGMA" ++ ' '.toUInt8 :: (w ++ rest)) = none := by
  rw [readText_pragma (h.start rest hrest).1, pragmaCommand, h.fails _ rest hrest]
  rfl

theorem readText_schema_noName (hschema : ReadsName w' schema) (h : NoName comments w)
    (hrest : EndsName rest) :
    readText comments (utf8 "PRAGMA" ++ ' '.toUInt8 :: (w' ++ '.'.toUInt8 :: (w ++ rest))) =
      none := by
  obtain ⟨t', ht', hfeed'⟩ := feed_schema comments hschema (h.start rest hrest).2
  rw [readText_pragma (hschema.start_append _).1, hfeed', pragmaCommand]
  simp only [nm_cons ht', Option.bind_eq_bind, Option.bind_some, dbnm, h.fails _ rest hrest,
    Option.map_none, Option.bind_none]

end InPlace

end NodeRusqlite.Sqlite
