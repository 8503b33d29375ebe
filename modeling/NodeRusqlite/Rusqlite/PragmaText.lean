/-
  File:      NodeRusqlite/Rusqlite/PragmaText.lean
  Subject:   What SQLite reads in the texts of the pragma helpers.

  rusqlite writes an identifier as it is and quotes any other schema name; it
  quotes text values. The texts are then read byte by byte by the tokenizer.

  * `isWord_utf8`: an identifier of rusqlite is a word of SQLite, unless it starts
    with U+FEFF.
  * `utf8_wrapAndEscape`: the escaping is the doubling SQLite undoes.
  * **`pragma_text_reads`**: SQLite reads the very names and value, or nothing, if no
    name starts so: there it reads the name without the U+FEFF.
-/
import NodeRusqlite.Rusqlite.Pragma
import NodeRusqlite.Sqlite.Command

namespace NodeRusqlite.Rusqlite

open Basis (Binary64 double)
open Sqlite

/-! ## 1. Characters and bytes -/

theorem utf8_eq {s : String} {c : Char} {cs : List Char} (h : s.toList = c :: cs) :
    utf8 s = String.utf8EncodeChar c ++ cs.flatMap String.utf8EncodeChar := by
  rw [utf8, h, List.flatMap_cons]

/-- A character starts an identifier of SQLite if it starts one of rusqlite. -/
theorem startsWord_of_start {c : Char} (h : Sql.isIdentifierStart c = true) :
    startsWord (byteAt (String.utf8EncodeChar c) 0) = true := by
  rcases Nat.lt_or_ge c.toNat 0x80 with hlt | hge
  · have hall : ∀ n < 0x80, Sql.isIdentifierStart (Char.ofNat n) = true →
        startsWord (UInt8.ofNat n) = true := by decide +kernel
    rw [utf8EncodeChar_ascii hlt]
    refine hall _ hlt ?_
    rwa [Char.ofNat_toNat]
  · have hpos := List.length_pos_iff.mpr (String.utf8EncodeChar_ne_nil (c := c))
    have hle := le_of_mem_utf8EncodeChar hge (byteAt_mem hpos)
    generalize byteAt (String.utf8EncodeChar c) 0 = b at hle
    rw [startsWord, aiClass, if_neg (UInt8.not_lt.mpr hle)]
    split <;> rename_i heq
    all_goals first
      | rfl
      | split at heq <;> simp_all

/-- And goes on with one. -/
theorem idChar_of_continue {c : Char} (h : Sql.isIdentifierContinue c = true) {b : UInt8}
    (hb : b ∈ String.utf8EncodeChar c) : idChar b = true := by
  rcases Nat.lt_or_ge c.toNat 0x80 with hlt | hge
  · have hall : ∀ n < 0x80, Sql.isIdentifierContinue (Char.ofNat n) = true →
        idChar (UInt8.ofNat n) = true := by decide +kernel
    rw [utf8EncodeChar_ascii hlt, List.mem_singleton] at hb
    rw [hb]
    refine hall _ hlt ?_
    rwa [Char.ofNat_toNat]
  · exact idChar_of_le (le_of_mem_utf8EncodeChar hge hb)

theorem continue_of_start {c : Char} (h : Sql.isIdentifierStart c = true) :
    Sql.isIdentifierContinue c = true := by
  simp only [Sql.isIdentifierStart, Sql.isIdentifierContinue, Bool.or_eq_true] at h ⊢
  tauto

theorem ofNat_eq {n : Nat} {b : UInt8} (h : UInt8.ofNat n = b) : n % 256 = b.toNat := by
  rw [← h, UInt8.toNat_ofNat']

/-- EF BB BF is U+FEFF and nothing else. -/
theorem eq_bom_of_startsBom {s : String} {c : Char} {cs : List Char} (hs : s.toList = c :: cs)
    (h : startsBom (utf8 s)) : c = '\uFEFF' := by
  obtain ⟨h0, h1, h2⟩ := h
  rw [utf8_eq hs] at h0 h1 h2
  have hval : c.val.toNat = 0xFEFF := by
    by_cases hone : c.val.toNat ≤ 0x7f
    · rw [String.utf8EncodeChar, if_pos hone] at h0
      have hbyte : c.val.toNat % 256 = 0xEF := ofNat_eq h0
      omega
    · by_cases htwo : c.val.toNat ≤ 0x7ff
      · rw [String.utf8EncodeChar, if_neg hone, if_pos htwo] at h0
        have hbyte : (c.val.toNat / 64 % 0x20 + 0xc0) % 256 = 0xEF := ofNat_eq h0
        omega
      · by_cases hthree : c.val.toNat ≤ 0xffff
        · rw [String.utf8EncodeChar, if_neg hone, if_neg htwo, if_pos hthree] at h0 h1 h2
          have hbyte0 : (c.val.toNat / 4096 % 0x10 + 0xe0) % 256 = 0xEF := ofNat_eq h0
          have hbyte1 : (c.val.toNat / 64 % 0x40 + 0x80) % 256 = 0xBB := ofNat_eq h1
          have hbyte2 : (c.val.toNat % 0x40 + 0x80) % 256 = 0xBF := ofNat_eq h2
          omega
        · rw [String.utf8EncodeChar, if_neg hone, if_neg htwo, if_neg hthree] at h0
          have hbyte : (c.val.toNat / 262144 % 0x08 + 0xf0) % 256 = 0xEF := ofNat_eq h0
          omega
  rw [← Char.ofNat_toNat c, Char.toNat, hval]

/-- **An identifier of rusqlite is a word of SQLite**, unless it is empty or starts with
    U+FEFF. -/
theorem isWord_utf8 {s : String} (h : Sql.isIdentifier s = true) (hne : s ≠ "")
    (hbom : s.toList.head? ≠ some '\uFEFF') : IsWord (utf8 s) := by
  rw [Sql.isIdentifier] at h
  rcases hs : s.toList with _ | ⟨c, cs⟩
  · exact absurd (String.toList_eq_nil_iff.mp hs) hne
  · rw [hs] at h hbom
    simp only [Bool.and_eq_true, List.all_eq_true] at h
    obtain ⟨hstart, hcs⟩ := h
    have hpos := List.length_pos_iff.mpr (String.utf8EncodeChar_ne_nil (c := c))
    refine ⟨?_, fun b hb => ?_, fun hbomStart => ?_⟩
    · rw [utf8_eq hs, byteAt_append_left _ hpos]
      exact startsWord_of_start hstart
    · rw [utf8_eq hs, List.mem_append, List.mem_flatMap] at hb
      rcases hb with hb | ⟨d, hd, hb⟩
      · exact idChar_of_continue (continue_of_start hstart) hb
      · exact idChar_of_continue (hcs d hd) hb
    · exact hbom (congrArg some (eq_bom_of_startsBom hs hbomStart))

/-! ## 2. Quotes and numbers -/

/-- The byte of an ASCII character is in no other character. -/
theorem ascii_not_mem {q c : Char} (hq : q.toNat < 0x80) (hne : c ≠ q) :
    UInt8.ofNat q.toNat ∉ String.utf8EncodeChar c := by
  intro hmem
  rcases Nat.lt_or_ge c.toNat 0x80 with hlt | hge
  · rw [utf8EncodeChar_ascii hlt, List.mem_singleton] at hmem
    have hmod : q.toNat % 256 = c.toNat % 256 := by
      rw [ofNat_eq hmem, UInt8.toNat_ofNat']
    refine hne ?_
    rw [← Char.ofNat_toNat c, ← Char.ofNat_toNat q, show c.toNat = q.toNat by omega]
  · have hle := UInt8.le_iff_toNat_le.mp (le_of_mem_utf8EncodeChar hge hmem)
    rw [UInt8.toNat_ofNat', Nat.mod_eq_of_lt (by omega)] at hle
    exact absurd hle (Nat.not_le.mpr hq)

/-- Doubling characters doubles bytes. -/
theorem utf8_double {q : Char} (hq : q.toNat < 0x80) (cs : List Char) :
    (cs.flatMap fun c => if c = q then [c, c] else [c]).flatMap String.utf8EncodeChar =
      double (UInt8.ofNat q.toNat) (cs.flatMap String.utf8EncodeChar) := by
  induction cs with
  | nil => rfl
  | cons c cs ih =>
    rw [List.flatMap_cons, List.flatMap_append, ih, List.flatMap_cons, Basis.double_append]
    congr 1
    split
    · rename_i heq
      subst heq
      simp [utf8EncodeChar_ascii hq, Basis.double_cons_self]
    · rename_i hne
      rw [Basis.double_of_not_mem (ascii_not_mem hq hne)]
      simp

/-- **The escaping is the doubling that SQLite undoes.** -/
theorem utf8_wrapAndEscape {q : Char} (hq : q.toNat < 0x80) (buf s : String) :
    utf8 (Sql.wrapAndEscape buf s q) = utf8 buf ++ quoted (UInt8.ofNat q.toNat) (utf8 s) := by
  have hdouble : utf8 (String.ofList (s.toList.flatMap fun c => if c = q then [c, c] else [c])) =
      double (UInt8.ofNat q.toNat) (utf8 s) := by
    rw [utf8, String.toList_ofList, utf8_double hq]
    rfl
  rw [Sql.wrapAndEscape, utf8_push, utf8_append, utf8_push, hdouble, utf8EncodeChar_ascii hq,
    quoted, List.append_assoc, List.append_assoc]
  rfl

theorem zero_mem_utf8 (s : String) : (0 : UInt8) ∈ utf8 s ↔ '\x00' ∈ s.toList := by
  rw [utf8, List.mem_flatMap]
  refine ⟨fun h => ?_, fun h => ⟨_, h, by decide⟩⟩
  obtain ⟨c, hc, hb⟩ := h
  have hzero : c = '\x00' := by
    rcases Nat.lt_or_ge c.toNat 0x80 with hlt | hge
    · rw [utf8EncodeChar_ascii hlt, List.mem_singleton] at hb
      have hval : c.toNat = 0 := by
        have hmod : c.toNat % 256 = 0 := ofNat_eq hb.symm
        omega
      rw [← Char.ofNat_toNat c, hval]
    · exact absurd (le_of_mem_utf8EncodeChar hge hb) (by decide)
  exact hzero ▸ hc

/-- **An integer is read as its decimal text.** -/
theorem readsValue_int (comments : Bool) (i : Int) :
    ReadsValue comments (utf8 (toString i)) (some (utf8 (toString i))) := by
  cases i with
  | ofNat n => exact readsValue_number (isNumber_repr n)
  | negSucc n =>
    show ReadsValue comments (utf8 ("-" ++ (n + 1).repr)) (some (utf8 ("-" ++ (n + 1).repr)))
    rw [utf8_minus]
    exact readsValue_minus (isNumber_repr (n + 1))

/-- The `Display` text of an `f64`: a number without an exponent, `inf` or `NaN`. -/
inductive IsDisplay : String → Prop where
  | number {s : String} (h : IsNumber (utf8 s)) : IsDisplay s
  | negative {s : String} (h : IsNumber (utf8 s)) : IsDisplay ("-" ++ s)
  | inf : IsDisplay "inf"
  | negInf : IsDisplay "-inf"
  | nan : IsDisplay "NaN"

theorem isWord_inf : IsWord (utf8 "inf") := by
  refine ⟨by decide +kernel, by decide +kernel, fun h => absurd h.1 (by decide +kernel)⟩

theorem isWord_nan : IsWord (utf8 "NaN") := by
  refine ⟨by decide +kernel, by decide +kernel, fun h => absurd h.1 (by decide +kernel)⟩

/-- `-inf` is the one text that is no value. -/
theorem ne_negInf_of_isNumber {s : String} (h : IsNumber (utf8 s)) :
    s ≠ "-inf" ∧ "-" ++ s ≠ "-inf" := by
  have hstart := h.start
  refine ⟨fun heq => ?_, fun heq => ?_⟩
  · rw [heq] at hstart
    exact absurd hstart (by decide +kernel)
  · have hinf : s = "inf" := by
      have hlist := congrArg String.toList heq
      rw [String.toList_append] at hlist
      have hminus : "-".toList ++ s.toList = "-".toList ++ "inf".toList := hlist
      have hcancel : s.toList = "inf".toList := List.append_cancel_left hminus
      exact String.toList_inj.mp hcancel
    rw [hinf] at hstart
    exact absurd hstart (by decide +kernel)

/-- **A number of JavaScript is read as its text**, unless it is -∞. -/
theorem readsValue_real (comments : Bool) {s : String} (h : IsDisplay s) :
    ReadsValue comments (utf8 s) (if s = "-inf" then none else some (utf8 s)) := by
  cases h with
  | number h =>
    rw [if_neg (ne_negInf_of_isNumber h).1]
    exact readsValue_number h
  | negative h =>
    rw [if_neg (ne_negInf_of_isNumber h).2, utf8_minus]
    exact readsValue_minus h
  | inf => exact (isWord_inf.readsName (by decide +kernel)).readsValue
  | negInf => exact readsValue_minus_word isWord_inf (by decide +kernel)
  | nan => exact (isWord_nan.readsName (by decide +kernel)).readsValue

/-! ## 3. The texts -/

/-- The three texts of the pragma helpers. -/
inductive PragmaForm where
  | query
  | call (value : NodeRusqlite.Value)
  | assign (value : NodeRusqlite.Value)

namespace PragmaForm

/-- The text of a form. -/
def text (showReal : Binary64 → String) (schemaName : Option String) (pragmaName : String) :
    PragmaForm → Except Error String
  | query => Sql.query schemaName pragmaName
  | call value => Sql.call showReal schemaName pragmaName value
  | assign value => Sql.assign showReal schemaName pragmaName value

/-- The value of a form. -/
def value? : PragmaForm → Option NodeRusqlite.Value
  | query => none
  | call value => some value
  | assign value => some value

/-- The bytes behind the name, around those of the value. -/
def tail (value : NodeRusqlite.Value → List UInt8) : PragmaForm → List UInt8
  | query => []
  | call v => '('.toUInt8 :: (value v ++ [')'.toUInt8])
  | assign v => '='.toUInt8 :: value v

end PragmaForm

/-- How an identifier is written. -/
def identifierBytes (s : String) : List UInt8 :=
  if Sql.isIdentifier s then utf8 s else quoted '\x22'.toUInt8 (utf8 s)

/-- How a schema is written. -/
def schemaBytes : Option String → List UInt8
  | none => []
  | some s => identifierBytes s ++ ['.'.toUInt8]

/-- How a value is written. -/
def valueBytes (showReal : Binary64 → String) : NodeRusqlite.Value → List UInt8
  | .integer i => utf8 (toString i.toInt)
  | .real r => utf8 (showReal r)
  | .text s => quoted '\''.toUInt8 (utf8 s)
  | .null | .blob _ => []

theorem utf8_pushIdentifier (buf s : String) :
    utf8 (Sql.pushIdentifier buf s) = utf8 buf ++ identifierBytes s := by
  unfold Sql.pushIdentifier identifierBytes
  split
  · exact utf8_append buf s
  · exact utf8_wrapAndEscape (by decide) buf s

theorem pushKeyword_eq_ok {buf keyword text : String}
    (h : Sql.pushKeyword buf keyword = .ok text) :
    Sql.isIdentifier keyword = true ∧ keyword ≠ "" ∧ text = buf ++ keyword := by
  unfold Sql.pushKeyword at h
  split at h
  · rename_i hk
    simp only [Bool.and_eq_true, Bool.not_eq_true', String.isEmpty_eq_false_iff] at hk
    exact ⟨hk.2, hk.1, (Except.ok.inj h).symm⟩
  · cases h

theorem pushPragma_eq_ok {schemaName : Option String} {pragmaName text : String}
    (h : Sql.pushPragma "" schemaName pragmaName = .ok text) :
    Sql.isIdentifier pragmaName = true ∧ pragmaName ≠ "" ∧
      utf8 text = utf8 "PRAGMA" ++ ' '.toUInt8 :: (schemaBytes schemaName ++ utf8 pragmaName) := by
  have hpragma : Sql.pushKeyword "" "PRAGMA" = .ok "PRAGMA" := by decide
  rw [Sql.pushPragma, hpragma] at h
  obtain ⟨hid, hne, rfl⟩ := pushKeyword_eq_ok h
  refine ⟨hid, hne, ?_⟩
  cases schemaName with
  | none =>
    simp only [utf8_append, utf8_push, schemaBytes, List.append_assoc, List.nil_append]
    rfl
  | some schema =>
    simp only [utf8_append, utf8_push, utf8_pushIdentifier, schemaBytes, List.append_assoc]
    rfl

theorem pushValue_eq_ok {showReal : Binary64 → String} {buf text : String}
    {value : NodeRusqlite.Value} (h : Sql.pushValue showReal buf value = .ok text) :
    utf8 text = utf8 buf ++ valueBytes showReal value ∧ (∀ b, value ≠ .blob b) ∧ value ≠ .null := by
  cases value with
  | null | blob b => cases h
  | integer i | real r =>
    cases h
    exact ⟨utf8_append _ _, nofun, nofun⟩
  | text s =>
    cases h
    exact ⟨utf8_wrapAndEscape (by decide) _ _, nofun, nofun⟩

/-- **The bytes of a text the helpers build.** -/
theorem PragmaForm.text_eq_ok {showReal : Binary64 → String} {schemaName : Option String}
    {pragmaName text : String} {form : PragmaForm}
    (h : form.text showReal schemaName pragmaName = .ok text) :
    Sql.isIdentifier pragmaName = true ∧ pragmaName ≠ "" ∧
      (∀ value ∈ form.value?, (∀ b, value ≠ .blob b) ∧ value ≠ .null) ∧
      utf8 text = utf8 "PRAGMA" ++ ' '.toUInt8 ::
        (schemaBytes schemaName ++ (utf8 pragmaName ++ form.tail (valueBytes showReal))) := by
  cases form with
  | query =>
    obtain ⟨hid, hne, htext⟩ := pushPragma_eq_ok h
    exact ⟨hid, hne, nofun, by rw [htext, PragmaForm.tail, List.append_nil]⟩
  | call value =>
    simp only [PragmaForm.text, Sql.call] at h
    split at h <;> try cases h
    rename_i buf hbuf
    split at h <;> cases h
    rename_i buf' hvalue
    obtain ⟨hid, hne, htext⟩ := pushPragma_eq_ok hbuf
    obtain ⟨htext', hkind⟩ := pushValue_eq_ok hvalue
    refine ⟨hid, hne, fun v hv => Option.some.inj hv ▸ hkind, ?_⟩
    rw [utf8_push, htext', utf8_push, htext, PragmaForm.tail]
    simp only [List.append_assoc, List.cons_append]
    rfl
  | assign value =>
    simp only [PragmaForm.text, Sql.assign] at h
    split at h <;> try cases h
    rename_i buf hbuf
    obtain ⟨hid, hne, htext⟩ := pushPragma_eq_ok hbuf
    obtain ⟨htext', hkind⟩ := pushValue_eq_ok h
    refine ⟨hid, hne, fun v hv => Option.some.inj hv ▸ hkind, ?_⟩
    rw [htext', utf8_push, htext, PragmaForm.tail]
    simp only [List.append_assoc, List.cons_append]
    rfl

/-! ## 4. What is read -/

/-- What SQLite reads where an identifier is written; `none`: no name. -/
def nameRead (s : String) : Option (List UInt8) :=
  if Sql.isIdentifier s then
    if s ≠ "" ∧ mayBeName (wordCode (utf8 s)) then some (utf8 s) else none
  else if '\x00' ∈ s.toList then none
  else some (utf8 s)

/-- Where a schema is written. -/
def schemaRead : Option String → Option (Option (List UInt8))
  | none => some none
  | some s => (nameRead s).map some

/-- Where a value is written. -/
def valueRead (showReal : Binary64 → String) : NodeRusqlite.Value → Option (List UInt8)
  | .integer i => some (utf8 (toString i.toInt))
  | .real r => if showReal r = "-inf" then none else some (utf8 (showReal r))
  | .text s => if '\x00' ∈ s.toList then none else some (utf8 s)
  | .null | .blob _ => none

/-- Behind the names. -/
def PragmaForm.argRead (showReal : Binary64 → String) :
    PragmaForm → Option (Option (List UInt8))
  | query => some none
  | call value | assign value => (valueRead showReal value).map some

/-- The command SQLite reads in the text of a form; `none`: the text is a syntax error. -/
def PragmaForm.reads (showReal : Binary64 → String) (schemaName : Option String)
    (pragmaName : String) (form : PragmaForm) : Option Command := do
  let schema ← schemaRead schemaName
  let name ← nameRead pragmaName
  let value ← form.argRead showReal
  return .pragma schema name value

section Reads

variable {s : String} {comments : Bool}

/-- An empty schema leaves the point where a name has to be. -/
theorem readText_dot {rest : List UInt8} (h : isdigit (byteAt rest 0) = false) :
    readText comments (utf8 "PRAGMA" ++ ' '.toUInt8 :: ('.'.toUInt8 :: rest)) = none := by
  have hspace : isspace (byteAt ('.'.toUInt8 :: rest) 0) = false :=
    show isspace '.'.toUInt8 = false by decide
  rw [readText_pragma hspace, tokens_dot h, feed_plain (by decide)]
  rfl

/-- An identifier, quoted or not, is a name or none. -/
theorem identifierBytes_cases (hne : s ≠ "") (hbom : s.toList.head? ≠ some '\uFEFF')
    (comments : Bool) :
    nameRead s = some (utf8 s) ∧ ReadsName (identifierBytes s) (utf8 s) ∨
      nameRead s = none ∧ NoName comments (identifierBytes s) := by
  unfold nameRead identifierBytes
  by_cases hid : Sql.isIdentifier s = true
  · have hword := isWord_utf8 hid hne hbom
    simp only [if_pos hid]
    by_cases hcode : mayBeName (wordCode (utf8 s)) = true
    · exact .inl ⟨if_pos ⟨hne, hcode⟩, hword.readsName hcode⟩
    · exact .inr ⟨if_neg fun h => hcode h.2, noName_word hword (Bool.eq_false_iff.mpr hcode)⟩
  · simp only [if_neg hid]
    by_cases hnul : '\x00' ∈ s.toList
    · exact .inr ⟨if_pos hnul, noName_quoted ((zero_mem_utf8 s).mpr hnul)⟩
    · exact .inl ⟨if_neg hnul, readsName_quoted (mt (zero_mem_utf8 s).mp hnul)⟩

theorem readsValue_of {showReal : Binary64 → String} (hreal : ∀ r, IsDisplay (showReal r))
    {value : NodeRusqlite.Value} (hkind : (∀ b, value ≠ .blob b) ∧ value ≠ .null) :
    ReadsValue comments (valueBytes showReal value) (valueRead showReal value) := by
  cases value with
  | null => exact absurd rfl hkind.2
  | blob b => exact absurd rfl (hkind.1 b)
  | integer i => exact readsValue_int comments i.toInt
  | real r => exact readsValue_real comments (hreal r)
  | text s =>
    rw [valueBytes, valueRead]
    by_cases hnul : '\x00' ∈ s.toList
    · rw [if_pos hnul]
      exact readsValue_nul ((zero_mem_utf8 s).mpr hnul)
    · rw [if_neg hnul]
      exact (readsName_string (mt (zero_mem_utf8 s).mp hnul)).readsValue

theorem isTail_tail (comments : Bool) {showReal : Binary64 → String}
    (hreal : ∀ r, IsDisplay (showReal r))
    {form : PragmaForm} (hkind : ∀ v ∈ form.value?, (∀ b, v ≠ .blob b) ∧ v ≠ .null) :
    IsTail comments (form.tail (valueBytes showReal)) (form.argRead showReal) := by
  cases form with
  | query => exact isTail_nil
  | call value => exact isTail_call (readsValue_of hreal (hkind value rfl))
  | assign value => exact isTail_assign (readsValue_of hreal (hkind value rfl))

end Reads

/-- **SQLite reads the very schema, name and value a pragma helper is given, or nothing**: a text
    is a syntax error where an identifier is a reserved word or empty, where what is quoted has a
    NUL in it, and where the value is -∞. Names that start with U+FEFF are left out: they are
    written as they are, and the tokenizer takes the mark for a space. -/
theorem pragma_text_reads (comments : Bool) {showReal : Binary64 → String}
    (hreal : ∀ r, IsDisplay (showReal r)) {schemaName : Option String} {pragmaName text : String}
    {form : PragmaForm} (htext : form.text showReal schemaName pragmaName = .ok text)
    (hschema : ∀ s ∈ schemaName, s.toList.head? ≠ some '\uFEFF')
    (hname : pragmaName.toList.head? ≠ some '\uFEFF') :
    readText comments (utf8 text) =
      (form.reads showReal schemaName pragmaName).map fun command => (command, []) := by
  obtain ⟨hid, hne, hkind, hbytes⟩ := form.text_eq_ok htext
  have htail := isTail_tail comments hreal hkind
  have hwritten : identifierBytes pragmaName = utf8 pragmaName := if_pos hid
  have hcases := identifierBytes_cases hne hname comments
  rw [hwritten] at hcases
  rw [hbytes, PragmaForm.reads]
  cases schemaName with
  | none =>
    rw [schemaBytes, List.nil_append, schemaRead]
    rcases hcases with ⟨hread, hn⟩ | ⟨hread, hn⟩
    · rw [readText_pragma_name hn htail, hread]
      cases form.argRead showReal <;> rfl
    · rw [readText_noName hn htail.ends, hread]
      rfl
  | some schema =>
    have hdot : EndsName ('.'.toUInt8 :: (utf8 pragmaName ++ form.tail (valueBytes showReal))) :=
      endsName_cons (by decide)
    rw [schemaBytes, List.append_assoc, List.singleton_append, schemaRead]
    by_cases hempty : schema = ""
    · subst hempty
      have hword := isWord_utf8 hid hne hname
      have hdigit := (startsWord_spec _ hword.start).2.1
      rw [← byteAt_append_left (form.tail (valueBytes showReal))
        (List.length_pos_iff.mpr hword.ne_nil)] at hdigit
      exact readText_dot hdigit
    rcases identifierBytes_cases hempty (hschema schema rfl) comments with ⟨hr, hs⟩ | ⟨hr, hs⟩
    · rcases hcases with ⟨hread, hn⟩ | ⟨hread, hn⟩
      · rw [readText_pragma_schema hs hn htail, hr, hread]
        cases form.argRead showReal <;> rfl
      · rw [readText_schema_noName hs hn htail.ends, hr, hread]
        rfl
    · rw [readText_noName hs hdot, hr]
      rfl

/-- `PRAGMA "a""b".user_version='it''s'`. -/
theorem pragma_text_reads_quotes :
    readText true (utf8 "PRAGMA \"a\"\"b\".user_version='it''s'") =
      some (.pragma (some (utf8 "a\"b")) (utf8 "user_version") (some (utf8 "it's")), []) := by
  have hnumber : IsNumber (utf8 "1.5") :=
    ⟨utf8 "1", utf8 "5", by decide +kernel, by decide +kernel, .inr (by decide +kernel)⟩
  have hreal : ∀ r : Binary64, IsDisplay ((fun _ => "1.5") r) := fun _ => .number hnumber
  have htext : (PragmaForm.assign (.text "it's")).text (fun _ => "1.5") (some "a\"b")
      "user_version" = .ok "PRAGMA \"a\"\"b\".user_version='it''s'" := by decide +kernel
  refine (pragma_text_reads true hreal htext (fun s hs => ?_) (by decide +kernel)).trans
    (by decide +kernel)
  cases hs
  decide +kernel

end NodeRusqlite.Rusqlite
