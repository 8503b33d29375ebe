/-
  File:      NodeRusqlite/Sqlite/Expand.lean
  Subject:   The text of a statement with its parameters filled in.

  `sqlite3VdbeExpandSql` scans the text of a prepared statement for parameters
  and writes the value of each in its place. It finds the number of a parameter
  a second time, from the text and the list of names. The database is a UTF-8 one.

  * `expandLoop_eq`: the second numbering is the one of the parser, and the
    assertions about its numbers hold.
  * `tokens_replaced`: a text whose parameters are replaced is read with the tokens
    of the literals in their place, if they stand apart.
  * **`expanded_reads`**: both together.
-/
import NodeRusqlite.Sqlite.Literal

namespace NodeRusqlite.Sqlite

open Basis (Binary64 skip)

/-! ## 1. The code -/

/-- `sqlite3VdbeParameterIndex`. -/
def sqlite3VdbeParameterIndex (p : Numbering) (zName : List UInt8) : Nat :=
  sqlite3VListNameToNum p.pVList zName

/-- `findNextHostParameter`: the bytes before the next parameter, and the length of that; 0: there
    is none. -/
def findNextHostParameter (zSql : List UInt8) : Nat × Nat :=
  if _h : byteAt zSql 0 = 0 then (0, 0)
  else if (getToken zSql).1 = .VARIABLE then (0, (getToken zSql).2)
  else
    let found := findNextHostParameter (zSql.drop (getToken zSql).2)
    ((getToken zSql).2 + found.1, found.2)
termination_by zSql.length
decreasing_by exact tokenizer.drop_lt ‹_›

/-- The number of the parameter of `nToken` bytes that a text begins with. -/
def hostIndex (p : Numbering) (idx nextIndex : Nat) (zRawSql : List UInt8) (nToken : Nat) : Nat :=
  if byteAt zRawSql 0 = '?'.toUInt8 then
    if 1 < nToken then ((sqlite3GetInt32 (zRawSql.drop 1)).map Int.toNat).getD idx else nextIndex
  else sqlite3VdbeParameterIndex p (zRawSql.take nToken)

/-- The loop of `sqlite3VdbeExpandSql`; `none`: a number is that of no parameter. -/
def expandLoop (showReal : Binary64 → List UInt8) (p : Numbering) (aVar : List ValueRef)
    (idx nextIndex : Nat) (zRawSql : List UInt8) : Option (List UInt8) :=
  if _h : byteAt zRawSql 0 = 0 then some []
  else
    let found := findNextHostParameter zRawSql
    let zParam := zRawSql.drop found.1
    if _hTok : found.2 = 0 then some (zRawSql.take found.1)
    else
      let idx := hostIndex p idx nextIndex zParam found.2
      if idx = 0 then none
      else
        match aVar[idx - 1]? with
        | none => none
        | some pVar =>
          (expandLoop showReal p aVar idx (max (idx + 1) nextIndex) (zParam.drop found.2)).map
            fun out => zRawSql.take found.1 ++ (render showReal pVar ++ out)
termination_by zRawSql.length
decreasing_by
  have hpos : 0 < zRawSql.length := Basis.lt_of_symbol_ne ‹_›
  have hfound : (findNextHostParameter zRawSql).2 ≠ 0 := _hTok
  rw [List.drop_drop, List.length_drop]
  omega

/-- `sqlite3VdbeExpandSql`, in a UTF-8 database (`enc == SQLITE_UTF8`) and outside of the step of a
    statement (`db->nVdbeExec <= 1`): left out are the way a text of a UTF-16 database takes through
    a conversion, where a leading U+FEFF is lost, and the comments written for nested statements.
    `room` says of a length whether the accumulator can hold it. -/
def sqlite3VdbeExpandSql (showReal : Binary64 → List UInt8) (room : Nat → Bool) (p : Numbering)
    (aVar : List ValueRef) (zRawSql : List UInt8) : Option (List UInt8) := do
  let out ←
    if p.nVar = 0 then some (Basis.text 0 zRawSql)
    else expandLoop showReal p aVar 0 1 zRawSql
  if room out.length then some out else none

/-! ## 2. One token -/

section Token

variable {z : List UInt8} {n : Nat}

theorem tokens_of_end (h : byteAt z 0 = 0) : tokens z = [] := Basis.Tokenizer.run_of_end h

theorem tokens_of_ne (h : byteAt z 0 ≠ 0) :
    tokens z = ((getToken z).1, z.take (getToken z).2) :: tokens (z.drop (getToken z).2) :=
  Basis.Tokenizer.run_of_ne (T := tokenizer) h

/-- A token is a piece of the text, and has no NUL in it. -/
theorem token_text (h : byteAt z 0 ≠ 0) :
    (0 : UInt8) ∉ z.take (getToken z).2 ∧ (z.take (getToken z).2).length = (getToken z).2 := by
  have hle : (getToken z).2 ≤ (Basis.text 0 z).length :=
    (Basis.Tokenizer.next_text (T := tokenizer) h).2
  rw [(Basis.take_drop_text hle).1, List.length_take, Nat.min_eq_left hle]
  exact ⟨fun hm => Basis.stop_not_mem_text z (List.mem_of_mem_take hm), rfl⟩

theorem token_ne_nil (h : byteAt z 0 ≠ 0) : z.take (getToken z).2 ≠ [] :=
  List.length_pos_iff.mp ((token_text h).2.symm ▸ getToken_pos h)

theorem byteAt_token (h : byteAt z 0 ≠ 0) : byteAt (z.take (getToken z).2) 0 = byteAt z 0 := by
  have hfirst := byteAt_append_left (z.drop (getToken z).2)
    (List.length_pos_iff.mpr (token_ne_nil h))
  rwa [List.take_append_drop, eq_comm] at hfirst

theorem findNextHostParameter_end (h : byteAt z 0 = 0) : findNextHostParameter z = (0, 0) := by
  rw [findNextHostParameter, dif_pos h]

section Loop

variable {showReal : Binary64 → List UInt8} {p : Numbering} {aVar : List ValueRef}
  {idx nextIndex : Nat}

theorem expandLoop_end (h : byteAt z 0 = 0) :
    expandLoop showReal p aVar idx nextIndex z = some [] := by
  rw [expandLoop, dif_pos h]

/-- Any other token is copied. -/
theorem expandLoop_other (h : byteAt z 0 ≠ 0) (ht : (getToken z).1 ≠ .VARIABLE) :
    expandLoop showReal p aVar idx nextIndex z =
      (expandLoop showReal p aVar idx nextIndex (z.drop (getToken z).2)).map
        (z.take (getToken z).2 ++ ·) := by
  have hfind : findNextHostParameter z =
      ((getToken z).2 + (findNextHostParameter (z.drop (getToken z).2)).1,
        (findNextHostParameter (z.drop (getToken z).2)).2) := by
    rw [findNextHostParameter, dif_neg h, if_neg ht]
  rw [expandLoop, dif_neg h, hfind]
  generalize (getToken z).2 = n
  by_cases hend : byteAt (z.drop n) 0 = 0
  · simp only [findNextHostParameter_end hend, expandLoop_end hend, dif_pos, Option.map_some,
      Nat.add_zero, List.append_nil]
  · rw [expandLoop, dif_neg hend]
    generalize findNextHostParameter (z.drop n) = found
    simp only [← List.drop_drop, List.take_add]
    split
    · rfl
    · split
      · rfl
      · cases aVar[hostIndex p idx nextIndex ((z.drop n).drop found.1) found.2 - 1]? with
        | none => rfl
        | some pVar =>
          simp only [Option.map_map, Function.comp_def, List.append_assoc]

/-- A parameter is replaced. -/
theorem expandLoop_variable (h : byteAt z 0 ≠ 0) (ht : (getToken z).1 = .VARIABLE) {x : Nat}
    {v : ValueRef} (hx : hostIndex p idx nextIndex z (getToken z).2 = x) (hpos : 0 < x)
    (hv : aVar[x - 1]? = some v) :
    expandLoop showReal p aVar idx nextIndex z =
      (expandLoop showReal p aVar x (max (x + 1) nextIndex) (z.drop (getToken z).2)).map
        (render showReal v ++ ·) := by
  have hfind : findNextHostParameter z = (0, (getToken z).2) := by
    rw [findNextHostParameter, dif_neg h, if_pos ht]
  have hne : (getToken z).2 ≠ 0 := (getToken_pos h).ne'
  rw [expandLoop, dif_neg h, hfind]
  simp only [dif_neg hne, List.drop_zero, List.take_zero, List.nil_append, hx, hv,
    if_neg hpos.ne']

end Loop

end Token

/-! ## 3. The second numbering -/

section Numbers

variable {z w : List UInt8} {n x : Nat} {q p p' : Numbering} {limit : Nat}

/-- A name of a variable has a byte at least. -/
theorem variableLoop_pos (h : (variableLoop 0 false z).2.1 ≠ 0) :
    0 < (variableLoop 0 false z).1 := by
  cases z with
  | nil => exact absurd rfl h
  | cons c z =>
    rw [variableLoop] at h ⊢
    split at h
    · exact absurd rfl h
    · rename_i hzero
      rw [if_neg hzero]
      split at h
      · rename_i hchar
        rw [if_pos hchar]
        exact Nat.succ_pos _
      · rename_i hchar
        have hparen : ¬ (c = '('.toUInt8 ∧ 0 < 0) := fun hc => absurd hc.2 (Nat.lt_irrefl 0)
        rw [if_neg hparen] at h
        rw [if_neg hchar, if_neg hparen]
        split at h
        · rename_i hcolon
          rw [if_pos hcolon]
          exact Nat.succ_pos _
        · exact absurd rfl h

/-- A parameter is a `?` with digits, or has a name. -/
theorem variable_cases (h : (getToken z).1 = .VARIABLE) :
    byteAt z 0 = '?'.toUInt8 ∧ (getToken z).2 = skip isdigit z 1 ∨
      byteAt z 0 ≠ '?'.toUInt8 ∧ 2 ≤ (getToken z).2 := by
  have hclass : ∀ b, aiClass b = .varnum ↔ b = '?'.toUInt8 :=
    forall_byte (P := fun b => aiClass b = .varnum ↔ b = '?'.toUInt8) (by decide +kernel)
  have hstart := startsVariable_of_token h
  unfold startsVariable at hstart
  unfold getToken at h ⊢
  by_cases hquestion : byteAt z 0 = '?'.toUInt8
  · left
    rw [(hclass _).mpr hquestion]
    exact ⟨hquestion, rfl⟩
  · right
    have hname (h : (variableToken z).1 = .VARIABLE) : 2 ≤ (variableToken z).2 := by
      unfold variableToken at h ⊢
      dsimp only at h ⊢
      split at h
      · cases h
      · rename_i hno
        have hpos := variableLoop_pos (not_or.mp hno).2
        omega
    refine ⟨hquestion, ?_⟩
    cases hcase : aiClass (byteAt z 0) with
    | varnum => exact absurd ((hclass _).mp hcase) hquestion
    | dollar | varalpha =>
      rw [hcase] at h
      exact hname h
    | _ =>
      rw [hcase] at hstart
      cases hstart

/-- What stands behind a `?`: its digits, and no other digit. -/
theorem question_digits (hn : n = skip isdigit z 1) :
    (∀ b ∈ (z.take n).drop 1, isdigit b = true) ∧
      z.drop 1 = (z.take n).drop 1 ++ z.drop n ∧ isdigit (byteAt (z.drop n) 0) = false := by
  have hle : 1 ≤ n := hn ▸ Basis.le_skip
  have hlen : n - 1 = ((z.drop 1).takeWhile isdigit).length := by
    rw [hn, skip, Nat.add_sub_cancel_left]
  have hdigits : (z.take n).drop 1 = (z.drop 1).takeWhile isdigit := by
    rw [List.drop_take, hlen]
    exact (List.prefix_iff_eq_take.mp (List.takeWhile_prefix isdigit)).symm
  refine ⟨fun b hb => ?_, ?_, ?_⟩
  · rw [hdigits] at hb
    exact List.mem_takeWhile_imp hb
  · have hsplit := List.take_append_drop (n - 1) (z.drop 1)
    rwa [← List.drop_take, List.drop_drop, Nat.add_sub_cancel' hle, eq_comm] at hsplit
  · rw [byteAt, Basis.symbol_drop, Nat.add_zero, hn]
    exact Basis.skip_stops (by decide) z 1

/-- The number of a parameter is read from its digits: a zero, which an `x` could make something
    else of, is no such number. -/
theorem getInt32_number {digits rest : List UInt8} (hdigits : ∀ b ∈ digits, isdigit b = true)
    (hrest : isdigit (byteAt rest 0) = false) (hpos : 0 < digitsValue digits)
    (hle : digitsValue digits ≤ 0x7FFFFFFF) :
    sqlite3GetInt32 (digits ++ rest) = some (digitsValue digits : Int) := by
  have hne : digits ≠ [] := fun hnil => absurd (hnil ▸ hpos) (by decide)
  rw [getInt32_digits rest hdigits hne hrest fun h0 => ?_, if_pos hle]
  have h2 : 1 < digits.length := Nat.lt_of_not_le fun hshort => by
    obtain ⟨b, rfl⟩ : ∃ b, digits = [b] := List.length_eq_one_iff.mp
      (Nat.le_antisymm hshort (List.length_pos_iff.mpr hne))
    have hb : b = '0'.toUInt8 := h0
    rw [hb] at hpos
    exact absurd hpos (by decide)
  obtain ⟨_, _, hx, hX, _⟩ := isdigit_spec _ (hdigits _ (byteAt_mem h2))
  rw [byteAt_append_left _ h2]
  exact not_or.mpr ⟨hx, hX⟩

/-- **`sqlite3VdbeExpandSql` finds the number the parser gave.** -/
theorem hostIndex_eq (h : byteAt z 0 ≠ 0) (ht : (getToken z).1 = .VARIABLE)
    (hnumbered : Numbering.Numbered (z.take (getToken z).2) p p' x)
    (hfinds : q.Finds (z.take (getToken z).2) x) (hlimit : q.nVar ≤ 0x7FFFFFFF) (idx : Nat) :
    hostIndex q idx (p.nVar + 1) z (getToken z).2 = x := by
  obtain ⟨hzero, hlen⟩ := token_text h
  have hfirst := byteAt_token h
  have hsecond (hlong : 1 < (getToken z).2) : byteAt (z.take (getToken z).2) 1 ≠ 0 := fun h1 =>
    hzero (h1 ▸ byteAt_mem (hlen.symm ▸ hlong))
  rcases variable_cases ht with ⟨hquestion, hn⟩ | ⟨hname, hn⟩
  · rw [hostIndex, if_pos hquestion]
    split
    · rename_i hlong
      obtain ⟨hdigits, hsplit, hrest⟩ := question_digits hn
      have hx := hfinds.own (hsecond hlong) (hfirst.trans hquestion)
      have hrange := hfinds.range
      rw [hx] at hrange ⊢
      rw [hsplit, getInt32_number hdigits hrest hrange.1 (hrange.2.trans hlimit)]
      rfl
    · rename_i hshort
      have hone : byteAt (z.take (getToken z).2) 1 = 0 :=
        Basis.symbol_of_length_le (by omega)
      exact (hnumbered.next hone).symm
  · rw [hostIndex, if_neg hname]
    exact hfinds.name (hsecond hn) (hfirst ▸ hname)

end Numbers

/-! ## 4. Something in the place of the parameters -/

section Replaced

variable {α : Type}

/-- Tokens, with something in the place of the parameters, whose numbers are given. -/
def replaced (copy : Token → List α) (value : Nat → List α) : List Nat → List Token → List α
  | _, [] => []
  | xs, token :: ts =>
    if token.1 = .VARIABLE then value (xs.headD 0) ++ replaced copy value xs.tail ts
    else copy token ++ replaced copy value xs ts

variable {copy : Token → List α} {value : Nat → List α} {xs : List Nat} {ts : List Token}

theorem replaced_noVariable (h : ∀ token ∈ ts, token.1 ≠ .VARIABLE) :
    replaced copy value xs ts = ts.flatMap copy := by
  induction ts with
  | nil => rfl
  | cons token ts ih =>
    rw [replaced, if_neg (h _ List.mem_cons_self), List.flatMap_cons,
      ih fun token hm => h token (List.mem_cons_of_mem _ hm)]

theorem replaced_cons_of_ne {token : Token} (h : token.1 ≠ .VARIABLE) :
    replaced copy value xs (token :: ts) = copy token ++ replaced copy value xs ts := if_neg h

theorem replaced_cons_of_eq {token : Token} (h : token.1 = .VARIABLE) :
    replaced copy value xs (token :: ts) =
      value (xs.headD 0) ++ replaced copy value xs.tail ts := if_pos h

/-- What is copied, and what takes the place of a parameter, is all there is. -/
theorem forall_mem_replaced {P : α → Prop}
    (hcopy : ∀ token ∈ ts, token.1 ≠ .VARIABLE → ∀ a ∈ copy token, P a)
    (hvalue : ∀ x, ∀ a ∈ value x, P a) : ∀ a ∈ replaced copy value xs ts, P a := by
  induction ts generalizing xs with
  | nil => exact fun a ha => absurd ha List.not_mem_nil
  | cons token ts ih =>
    intro a ha
    have hmore : ∀ token ∈ ts, token.1 ≠ .VARIABLE → ∀ a ∈ copy token, P a :=
      fun token hm => hcopy token (List.mem_cons_of_mem _ hm)
    rw [replaced] at ha
    split at ha
    · rcases List.mem_append.mp ha with ha | ha
      · exact hvalue _ a ha
      · exact ih hmore a ha
    · rename_i ht
      rcases List.mem_append.mp ha with ha | ha
      · exact hcopy token List.mem_cons_self ht a ha
      · exact ih hmore a ha

end Replaced

section Text

variable {showReal : Binary64 → List UInt8} {limit : Nat} {p q : Numbering} {xs : List Nat}
  {aVar : List ValueRef} {z : List UInt8}

/-- The value of a parameter. -/
def valueOf (aVar : List ValueRef) (x : Nat) : ValueRef := aVar.getD (x - 1) .null

theorem hostParameters_variable (w : List UInt8) (ts : List Token) :
    hostParameters ((.VARIABLE, w) :: ts) = w :: hostParameters ts := rfl

theorem hostParameters_of_ne {token : Token} (ts : List Token) (h : token.1 ≠ .VARIABLE) :
    hostParameters (token :: ts) = hostParameters ts := by
  rw [hostParameters, List.filter_cons_of_neg (by simpa using h)]
  rfl

theorem hostParameters_eq_nil {ts : List Token} :
    hostParameters ts = [] ↔ ∀ token ∈ ts, token.1 ≠ .VARIABLE := by
  simp [hostParameters]

/-- **Every parameter is replaced by its own value**: each number is that of a parameter. -/
theorem expandLoop_eq (hlimit : q.nVar ≤ 0x7FFFFFFF) (hvalues : aVar.length = q.nVar)
    (hp : p.Sound limit) (hall : numberAll limit (hostParameters (tokens z)) p = .ok (xs, q))
    (idx : Nat) : expandLoop showReal q aVar idx (p.nVar + 1) z =
      some (replaced Prod.snd (fun x => render showReal (valueOf aVar x)) xs (tokens z)) := by
  induction hn : z.length using Nat.strongRecOn generalizing z p xs idx with
  | ind n ih =>
    subst hn
    by_cases h : byteAt z 0 = 0
    · rw [expandLoop_end h, tokens_of_end h]
      rfl
    have hlt : (z.drop (getToken z).2).length < z.length := tokenizer.drop_lt h
    rw [tokens_of_ne h] at hall ⊢
    by_cases ht : (getToken z).1 = .VARIABLE
    · rw [ht, hostParameters_variable] at hall
      obtain ⟨x, p', xs', hassign, hrest, rfl⟩ := Numbering.numberAll_cons hall
      obtain ⟨hp', _, hnumbered⟩ := Numbering.assign_sound hp hassign
      obtain ⟨hq, hext, _⟩ := Numbering.numberAll_sound hp' hrest
      have hfinds := hnumbered.finds hext hq
      have hx := hostIndex_eq h ht hnumbered hfinds hlimit idx
      have hin : x - 1 < aVar.length := by
        have hrange := hfinds.range
        omega
      have hv : aVar[x - 1]? = some (valueOf aVar x) := by
        rw [valueOf, List.getD_eq_getElem _ _ hin]
        exact List.getElem?_eq_getElem hin
      have hnext : max (x + 1) (p.nVar + 1) = p'.nVar + 1 := by
        rw [hnumbered.nVar]
        omega
      rw [expandLoop_variable h ht hx hfinds.range.1 hv, hnext, ih _ hlt hp' hrest x rfl,
        replaced_cons_of_eq ht]
      rfl
    · rw [hostParameters_of_ne _ ht] at hall
      rw [expandLoop_other h ht, ih _ hlt hp hall idx rfl, replaced_cons_of_ne ht]
      rfl

/-- A text without parameters is copied as it is. -/
theorem text_eq_replaced {f : Nat → List UInt8} (h : hostParameters (tokens z) = []) :
    replaced Prod.snd f xs (tokens z) = Basis.text 0 z := by
  rw [replaced_noVariable (hostParameters_eq_nil.mp h)]
  exact (tokenizer.run_texts z).1

/-- Without parameters there are no numbers, and no numbers without parameters. -/
theorem hostParameters_of_nVar {zs : List (List UInt8)}
    (hall : numberAll limit zs .start = .ok (xs, q)) (hzero : q.nVar = 0) : zs = [] := by
  obtain ⟨_, _, hfinds⟩ := Numbering.numberAll_sound (Numbering.sound_start limit) hall
  cases hfinds with
  | nil => rfl
  | cons hx =>
    have hrange := hx.range
    omega

/-- The text of a statement with its values. -/
theorem expandSql_eq (hlimit : limit ≤ 0x7FFFFFFF)
    (hall : numberAll limit (hostParameters (tokens z)) .start = .ok (xs, q))
    (hvalues : aVar.length = q.nVar) (room : Nat → Bool) :
    let out := replaced Prod.snd (fun x => render showReal (valueOf aVar x)) xs (tokens z)
    sqlite3VdbeExpandSql showReal room q aVar z = if room out.length then some out else none := by
  have hbound := (Numbering.numberAll_sound (Numbering.sound_start limit) hall).1.bound
  dsimp only
  rw [sqlite3VdbeExpandSql]
  split
  · rename_i hzero
    rw [text_eq_replaced (hostParameters_of_nVar hall hzero)]
    rfl
  · have hloop : expandLoop showReal q aVar 0 1 z = _ :=
      expandLoop_eq (hbound.trans hlimit) hvalues (Numbering.sound_start limit) hall 0
    rw [hloop]
    rfl

end Text

/-! ## 5. Reading the text -/

/-- Every parameter stands apart: between tokens nothing is glued to, with no byte behind it that
    could go on with a literal. -/
def apart : Option TK → List Token → Bool
  | _, [] => true
  | last, (t, _) :: ts =>
    (t != .VARIABLE || last.all opens && endsLiteral (byteAt (ts.flatMap Prod.snd) 0)) &&
      apart (some t) ts

section Apart

variable {last : Option TK} {t : TK} {w : List UInt8} {ts : List Token}

theorem apart_variable (h : apart last ((.VARIABLE, w) :: ts) = true) :
    last.all opens = true ∧ endsLiteral (byteAt (ts.flatMap Prod.snd) 0) = true ∧
      apart (some .VARIABLE) ts = true := by
  simpa [apart, and_assoc] using h

theorem apart_tail (h : apart last ((t, w) :: ts) = true) : apart (some t) ts = true :=
  ((Bool.and_eq_true _ _).mp h).2

end Apart

section Read

variable {f : Nat → List UInt8} {g : Nat → List Token} {xs : List Nat} {ts : List Token}
  {z : List UInt8} {last : Option TK}

/-- The first byte of the tokens of a text is that of the text. -/
theorem byteAt_tokens (z : List UInt8) : byteAt ((tokens z).flatMap Prod.snd) 0 = byteAt z 0 := by
  have htexts : (tokens z).flatMap Prod.snd = Basis.text 0 z := (tokenizer.run_texts z).1
  rw [htexts]
  exact Basis.symbol_text z

/-- If no parameter comes first, what comes first stays. -/
theorem byteAt_replaced (ht : byteAt z 0 ≠ 0 → (getToken z).1 ≠ .VARIABLE) :
    byteAt (replaced Prod.snd f xs (tokens z)) 0 = byteAt z 0 := by
  by_cases h : byteAt z 0 = 0
  · rw [tokens_of_end h, h]
    rfl
  rw [tokens_of_ne h, replaced_cons_of_ne (ht h),
    byteAt_append_left _ (List.length_pos_iff.mpr (token_ne_nil h)), byteAt_token h]

/-- `/*` at the very end of a text. -/
theorem slash_star (h0 : byteAt z 0 = '/'.toUInt8) (h1 : byteAt z 1 = '*'.toUInt8)
    (h2 : byteAt z 2 = 0) :
    tokens z = [(.SLASH, ['/'.toUInt8]), (.STAR, ['*'.toUInt8])] := by
  obtain ⟨rest, rfl⟩ : ∃ rest, z = '/'.toUInt8 :: '*'.toUInt8 :: rest := by
    match z, h0, h1 with
    | [], h0, _ => exact absurd h0 (by decide)
    | [_], _, h1 => exact absurd h1 (show (0 : UInt8) ≠ '*'.toUInt8 by decide)
    | a :: b :: rest, h0, h1 =>
      have ha : a = '/'.toUInt8 := h0
      have hb : b = '*'.toUInt8 := h1
      exact ⟨rest, by rw [ha, hb]⟩
  have hslash : getToken ('/'.toUInt8 :: '*'.toUInt8 :: rest) = (.SLASH, 1) := by
    have hclass : aiClass '/'.toUInt8 = .slash := by decide
    rw [getToken, byteAt, Basis.symbol_zero_cons, hclass]
    exact if_pos (.inr h2)
  have hstar : getToken ('*'.toUInt8 :: rest) = (.STAR, 1) := by
    have hclass : aiClass '*'.toUInt8 = .star := by decide
    rw [getToken, byteAt, Basis.symbol_zero_cons, hclass]
    rfl
  have hslashs : tokens ('/'.toUInt8 :: '*'.toUInt8 :: rest) =
      (.SLASH, ['/'.toUInt8]) :: tokens ('*'.toUInt8 :: rest) :=
    tokens_append (w := ['/'.toUInt8]) (List.cons_ne_nil _ _) (by decide) hslash
  have hstars : tokens ('*'.toUInt8 :: rest) = (.STAR, ['*'.toUInt8]) :: tokens rest :=
    tokens_append (w := ['*'.toUInt8]) (List.cons_ne_nil _ _) (by decide) hstar
  have hend : byteAt rest 0 = 0 := h2
  rw [hslashs, hstars, tokens_of_end hend]

variable (hlit : ∀ x, IsLiteral (f x) (g x))
include hlit

/-- A token stays, whatever takes the place of the parameters behind it. -/
theorem getToken_replaced (h : byteAt z 0 ≠ 0) (ht : (getToken z).1 ≠ .VARIABLE)
    (hlegal : (getToken z).1 ≠ .ILLEGAL)
    (hapart : apart (some (getToken z).1) (tokens (z.drop (getToken z).2)) = true) :
    getToken (z.take (getToken z).2 ++ replaced Prod.snd f xs (tokens (z.drop (getToken z).2))) =
      ((getToken z).1, (z.take (getToken z).2).length) := by
  have hlen := (token_text h).2
  have hget : getToken (z.take (getToken z).2 ++ z.drop (getToken z).2) =
      ((getToken z).1, (z.take (getToken z).2).length) := by
    rw [List.take_append_drop, hlen]
  by_cases hvar : byteAt (z.drop (getToken z).2) 0 ≠ 0 ∧
      (getToken (z.drop (getToken z).2)).1 = .VARIABLE
  · -- a parameter is next: the token is one nothing is glued to
    obtain ⟨hmore, hvar⟩ := hvar
    rw [tokens_of_ne hmore, hvar] at hapart ⊢
    have hstart := hlit (xs.headD 0)
    refine getToken_before_literal (token_ne_nil h) (apart_variable hapart).1 hget
      (startsVariable_of_token hvar) ?_
    rw [replaced_cons_of_eq rfl, byteAt_append_left _ (List.length_pos_iff.mpr hstart.ne_nil)]
    exact hstart.start
  · by_cases hcomment : byteAt z 0 = '/'.toUInt8 ∧ byteAt z 1 = '*'.toUInt8 ∧ byteAt z 2 = 0
    · obtain ⟨h0, h1, h2⟩ := hcomment
      have htokens := slash_star h0 h1 h2
      rw [tokens_of_ne h] at htokens
      obtain ⟨htoken, hrest⟩ := List.cons.inj htokens
      obtain ⟨htk, htext⟩ := Prod.mk.inj htoken
      rw [htext, htk, hrest, replaced_cons_of_ne (by decide)]
      exact show getToken ['/'.toUInt8, '*'.toUInt8] = (.SLASH, 1) by decide +kernel
    · have hfirst : byteAt (replaced Prod.snd f xs (tokens (z.drop (getToken z).2))) 0 =
          byteAt (z.drop (getToken z).2) 0 := byteAt_replaced fun hmore hv => hvar ⟨hmore, hv⟩
      have hlocal := getToken_local h hlegal ht fun h0 h12 => hcomment ⟨h0, h12⟩
      generalize replaced Prod.snd f xs (tokens (z.drop (getToken z).2)) = out at hfirst ⊢
      have hsame := Basis.sameTo_append (w := z.take (getToken z).2) hfirst
      rw [List.take_append_drop, hlen] at hsame
      rw [hlocal _ hsame, hlen]

/-- **A text whose parameters are replaced is read with the tokens of the literals in their
    place.** -/
theorem tokens_replaced (hlegal : ∀ token ∈ tokens z, token.1 ≠ .ILLEGAL)
    (hapart : apart last (tokens z) = true) :
    tokens (replaced Prod.snd f xs (tokens z)) =
      replaced (fun token => [token]) g xs (tokens z) := by
  induction hn : z.length using Nat.strongRecOn generalizing z xs last with
  | ind n ih =>
    subst hn
    by_cases h : byteAt z 0 = 0
    · rw [tokens_of_end h]
      exact tokens_of_end rfl
    have hlt : (z.drop (getToken z).2).length < z.length := tokenizer.drop_lt h
    have hrest := tokens_of_ne h
    rw [hrest] at hlegal hapart ⊢
    have hih (xs : List Nat) : tokens (replaced Prod.snd f xs (tokens (z.drop (getToken z).2))) =
        replaced (fun token => [token]) g xs (tokens (z.drop (getToken z).2)) :=
      ih _ hlt (fun token hm => hlegal token (List.mem_cons_of_mem _ hm)) (apart_tail hapart) rfl
    by_cases ht : (getToken z).1 = .VARIABLE
    · rw [ht] at hapart ⊢
      obtain ⟨_, hends, hmore⟩ := apart_variable hapart
      have hno : byteAt (z.drop (getToken z).2) 0 ≠ 0 →
          (getToken (z.drop (getToken z).2)).1 ≠ .VARIABLE := fun hne hv => by
        rw [tokens_of_ne hne, hv] at hmore
        exact absurd (apart_variable hmore).1 (by decide)
      rw [byteAt_tokens, ← byteAt_replaced hno] at hends
      rw [replaced_cons_of_eq rfl, replaced_cons_of_eq rfl, (hlit _).reads _ hends, hih]
    · rw [replaced_cons_of_ne ht, replaced_cons_of_ne ht, tokens_append (token_ne_nil h)
        (token_text h).1
        (getToken_replaced hlit h ht (hlegal _ List.mem_cons_self) (apart_tail hapart)), hih]
      rfl

end Read

/-! ## 6. Result -/

section Result

variable {showReal : Binary64 → List UInt8} {limit : Nat} {q : Numbering} {xs : List Nat}
  {aVar : List ValueRef} {z : List UInt8}

/-- **What `sqlite3VdbeExpandSql` makes of a statement**: its text with the literal of its own value
    for each parameter, as long as it is not too long; and, where the parameters stand apart, SQLite
    reads in it the tokens of the statement with those of the literals, and no parameter. -/
theorem expanded_reads (hreal : PrintsReals showReal) (hlimit : limit ≤ 0x7FFFFFFF)
    (hlegal : ∀ token ∈ tokens z, token.1 ≠ .ILLEGAL)
    (hall : numberAll limit (hostParameters (tokens z)) .start = .ok (xs, q))
    (hvalues : aVar.length = q.nVar) :
    let out := replaced Prod.snd (fun x => render showReal (valueOf aVar x)) xs (tokens z)
    (∀ room, sqlite3VdbeExpandSql showReal room q aVar z =
      if room out.length then some out else none) ∧
    (apart none (tokens z) = true →
      tokens out = replaced (fun token => [token])
        (fun x => literal showReal (valueOf aVar x)) xs (tokens z) ∧
      hostParameters (tokens out) = []) := by
  refine ⟨expandSql_eq hlimit hall hvalues, fun hapart => ?_⟩
  have hreads : tokens (replaced Prod.snd (fun x => render showReal (valueOf aVar x)) xs
      (tokens z)) = replaced (fun token => [token])
        (fun x => literal showReal (valueOf aVar x)) xs (tokens z) :=
    tokens_replaced (fun x => isLiteral_render hreal (valueOf aVar x)) hlegal hapart
  refine ⟨hreads, hostParameters_eq_nil.mpr ?_⟩
  rw [hreads]
  refine forall_mem_replaced (fun token _ ht other hm => ?_) fun x => literal_noVariable _
  rw [List.mem_singleton.mp hm]
  exact ht

/-- -5, `it's` and 1.5. -/
theorem expanded_reads_quoted :
    let showReal := fun r : Binary64 => if r.isFinite then utf8 "1.5" else utf8 "Inf"
    let aVar := [.integer (-5), .text ⟨#[105, 116, 39, 115]⟩, .real ⟨0x3FF8000000000000⟩]
    sqlite3VdbeExpandSql showReal (fun _ => true) ⟨3, [(utf8 "?1", 1), (utf8 ":a", 2)]⟩ aVar
      (utf8 "SELECT ?1, :a, ?") = some (utf8 "SELECT -5, 'it''s', 1.5") ∧
    hostParameters (tokens (utf8 "SELECT -5, 'it''s', 1.5")) = [] := by
  intro showReal aVar
  have hreal : PrintsReals showReal := by
    refine ⟨fun r h => ⟨utf8 "1.5", ?_, .inl (if_pos h)⟩, fun r h => .inl (if_neg ?_)⟩
    · exact ⟨['1'.toUInt8], ['5'.toUInt8], [], List.cons_ne_nil _ _, by decide +kernel, .none,
        by decide +kernel⟩
    · exact Bool.eq_false_iff.mp h
  have hlegal : ∀ token ∈ tokens (utf8 "SELECT ?1, :a, ?"), token.1 ≠ .ILLEGAL := by
    decide +kernel
  have hall : numberAll 32766 (hostParameters (tokens (utf8 "SELECT ?1, :a, ?"))) .start =
      .ok ([1, 2, 3], ⟨3, [(utf8 "?1", 1), (utf8 ":a", 2)]⟩) := by decide +kernel
  have hvalues : aVar.length = 3 := rfl
  have hapart : apart none (tokens (utf8 "SELECT ?1, :a, ?")) = true := by decide +kernel
  have hout : replaced Prod.snd (fun x => render showReal (valueOf aVar x)) [1, 2, 3]
      (tokens (utf8 "SELECT ?1, :a, ?")) = utf8 "SELECT -5, 'it''s', 1.5" := by decide +kernel
  have hreads := expanded_reads hreal (by decide) hlegal hall hvalues
  rw [hout] at hreads
  exact ⟨(hreads.1 fun _ => true).trans (if_pos rfl), (hreads.2 hapart).2⟩

/-- A parameter that does not stand apart: the minus makes a comment of it. -/
example : sqlite3VdbeExpandSql (fun _ => utf8 "0.0") (fun _ => true) ⟨1, []⟩ [.integer (-5)]
      (utf8 "SELECT 1-?") = some (utf8 "SELECT 1--5") ∧
    (.COMMENT, utf8 "--5") ∈ tokens (utf8 "SELECT 1--5") := by decide +kernel

end Result

end NodeRusqlite.Sqlite
