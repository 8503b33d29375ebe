/-
  File:      NodeRusqlite/Sqlite/Literal.lean
  Subject:   The literals SQLite writes for values, and how it reads them.

  `render` is what `sqlite3VdbeExpandSql` writes in the place of a parameter, in a
  UTF-8 database. The text of a real, `%!.15g`, is a parameter; `PrintsReals` is its shape.

  * `isLiteral_render`: what is written is read as the tokens of the literal,
    whatever stands behind it, if that does not go on with it.
  * **`readLiteral_literal`**: an integer, a blob, NULL and a text without a NUL
    are read back as they were.
-/
import NodeRusqlite.Sqlite.Command
import NodeRusqlite.Sqlite.Lookahead
import NodeRusqlite.Sqlite.Numbering
import NodeRusqlite.Sqlite.Value

namespace NodeRusqlite.Sqlite

open Basis (Binary64)

variable {showReal : Binary64 → List UInt8} {w rest : List UInt8} {ts : List Token}

/-! ## 1. Writing -/

/-- `%02x`. -/
def hexByte (b : UInt8) : List UInt8 :=
  let digit (n : UInt8) : UInt8 := if n < 10 then '0'.toUInt8 + n else 'a'.toUInt8 + (n - 10)
  [digit (b >>> 4), digit (b &&& 0x0F)]

/-- The literal for a value, in a UTF-8 database: for a text of a UTF-16 one there is a conversion
    first, which is left out. An empty blob is bound as a zeroblob. -/
def render (showReal : Binary64 → List UInt8) : ValueRef → List UInt8
  | .null => utf8 "NULL"
  | .integer i => utf8 (toString i.toInt)
  | .real r => showReal r
  | .text s => quoted '\''.toUInt8 (Basis.text 0 s.data.toList)
  | .blob b =>
    if b.size = 0 then utf8 "zeroblob(0)"
    else utf8 "x'" ++ b.data.toList.flatMap hexByte ++ utf8 "'"

/-- The texts of `%!.15g`: a number with a point, or the name of something infinite or of none. -/
structure PrintsReals (showReal : Binary64 → List UInt8) : Prop where
  finite : ∀ r, r.isFinite = true →
    ∃ w, IsDecimal w ∧ (showReal r = w ∨ showReal r = '-'.toUInt8 :: w)
  special : ∀ r, r.isFinite = false →
    showReal r = utf8 "Inf" ∨ showReal r = utf8 "-Inf" ∨ showReal r = utf8 "NaN"

/-- One token, with a minus before it or not. -/
def signed (t : TK) (w : List UInt8) : List Token :=
  if byteAt w 0 = '-'.toUInt8 then [(.MINUS, ['-'.toUInt8]), (t, w.drop 1)] else [(t, w)]

/-- The tokens of the literal for a value. -/
def literal (showReal : Binary64 → List UInt8) : ValueRef → List Token
  | .null => [(.NULL, utf8 "NULL")]
  | .integer i => signed .INTEGER (utf8 (toString i.toInt))
  | .real r => signed (if r.isFinite then .FLOAT else .ID) (showReal r)
  | .text s => [(.STRING, quoted '\''.toUInt8 (Basis.text 0 s.data.toList))]
  | .blob b =>
    if b.size = 0 then
      [(.ID, utf8 "zeroblob"), (.LP, utf8 "("), (.INTEGER, utf8 "0"), (.RP, utf8 ")")]
    else [(.BLOB, utf8 "x'" ++ b.data.toList.flatMap hexByte ++ utf8 "'")]

/-! ## 2. Reading -/

/-- `sqlite3HexToInt`. -/
def sqlite3HexToInt (h : UInt8) : UInt8 := (h + (9 : UInt8) * (h >>> 6 &&& 1)) &&& 0x0F

/-- `sqlite3HexToBlob`, of the digits between the quotes. -/
def sqlite3HexToBlob : List UInt8 → List UInt8
  | h :: l :: z => (sqlite3HexToInt h <<< 4 ||| sqlite3HexToInt l) :: sqlite3HexToBlob z
  | _ => []

/-- The end of `sqlite3GetInt32`, for the digits behind the sign; `neg` says that it was a minus. -/
def int32Digits (neg : Bool) (zNum : List UInt8) : Option Int :=
  let significant := zNum.dropWhile (· == '0'.toUInt8)
  let digits := (significant.take 11).takeWhile isdigit
  let v : Int := digitsValue digits
  if isdigit (byteAt zNum 0) = false then none
  else if 10 < digits.length then none
  else if 2147483647 < v - neg.toNat then none
  else some (if neg then -v else v)

/-- The hexadecimal branch of `sqlite3GetInt32`, behind the `0x`. -/
def int32Hex (zNum : List UInt8) : Option Int :=
  let significant := zNum.dropWhile (· == '0'.toUInt8)
  let digits := (significant.take 8).takeWhile isxdigit
  let u : UInt32 := digits.foldl (fun u b => u * 16 + (sqlite3HexToInt b).toUInt32) 0
  if u &&& 0x80000000 = 0 ∧ isxdigit (byteAt significant digits.length) = false then
    some u.toNat
  else none

/-- `sqlite3GetInt32`; `none`: it returns 0. -/
def sqlite3GetInt32 (zNum : List UInt8) : Option Int :=
  if byteAt zNum 0 = '-'.toUInt8 then int32Digits true (zNum.drop 1)
  else if byteAt zNum 0 = '+'.toUInt8 then int32Digits false (zNum.drop 1)
  else if byteAt zNum 0 = '0'.toUInt8 ∧
      (byteAt zNum 1 = 'x'.toUInt8 ∨ byteAt zNum 1 = 'X'.toUInt8) ∧ isxdigit (byteAt zNum 2) then
    int32Hex (zNum.drop 2)
  else int32Digits false zNum

/-- `sqlite3DecOrHexToI64`, of a run of decimal digits: its code and the value. -/
def decToI64 (z : List UInt8) : Nat × Int :=
  match sqlite3Atoi64 z with
  | some u => (0, u)
  | none => (if digitsValue z = 0x8000000000000000 then 3 else 2, 0x7FFFFFFFFFFFFFFF)

/-- `term ::= INTEGER` and `codeInteger`, of a decimal literal, behind a minus or not; `none`: it is
    coded as a real. -/
def codeInteger (negFlag : Bool) (z : List UInt8) : Option Int :=
  match sqlite3GetInt32 z with
  | some i => some (if negFlag then -i else i)
  | none =>
    let (c, value) := decToI64 z
    if c = 3 ∧ negFlag = false ∨ c = 2 ∨ negFlag = true ∧ value = -0x8000000000000000 then none
    else if negFlag then some (if c = 3 then -0x8000000000000000 else -value)
    else some value

/-- What the literals that `render` writes are coded as; of reals only that they are none of the
    other values. -/
def readLiteral : List Token → Option ValueRef
  | [(.NULL, _)] => some .null
  | [(.INTEGER, z)] => (codeInteger false z).map fun i => .integer (.ofInt i)
  | [(.MINUS, _), (.INTEGER, z)] => (codeInteger true z).map fun i => .integer (.ofInt i)
  | [(.STRING, z)] => (dequote z).map fun s => .text ⟨s.toArray⟩
  | [(.BLOB, z)] => some (.blob ⟨(sqlite3HexToBlob ((z.drop 2).dropLast)).toArray⟩)
  | [(.ID, f), (.LP, _), (.INTEGER, n), (.RP, _)] =>
    if f = utf8 "zeroblob" ∧ n = utf8 "0" then some (.blob ⟨#[]⟩) else none
  | _ => none

/-! ## 3. Integers -/

theorem digitsFold_eq (w : List UInt8) (v : Nat) :
    w.foldl (fun v b => v * 10 + (b - '0'.toUInt8).toNat) v =
      v * 10 ^ w.length + digitsValue w := by
  unfold digitsValue
  induction w generalizing v with
  | nil => simp
  | cons b w ih =>
    rw [List.foldl_cons, List.foldl_cons, ih, ih (0 * 10 + _), List.length_cons, Nat.pow_succ]
    ring

theorem digitsValue_cons (b : UInt8) (w : List UInt8) :
    digitsValue (b :: w) = (b - '0'.toUInt8).toNat * 10 ^ w.length + digitsValue w := by
  rw [digitsValue, List.foldl_cons, digitsFold_eq, Nat.zero_mul, Nat.zero_add]

/-- Leading zeros do not count. -/
theorem digitsValue_dropWhile (w : List UInt8) :
    digitsValue (w.dropWhile (· == '0'.toUInt8)) = digitsValue w := by
  induction w with
  | nil => rfl
  | cons b w ih =>
    by_cases hb : b = '0'.toUInt8
    · rw [List.dropWhile_cons_of_pos (by simpa using hb), ih, digitsValue_cons, hb]
      simp
    · rw [List.dropWhile_cons_of_neg (by simpa using hb)]

/-- Eleven digits, the first no zero, are too many. -/
theorem le_digitsValue {b : UInt8} (hb : isdigit b = true) (hne : b ≠ '0'.toUInt8)
    (w : List UInt8) : 10 ^ w.length ≤ digitsValue (b :: w) := by
  have hpos : isdigit b = true → b ≠ '0'.toUInt8 → 1 ≤ (b - '0'.toUInt8).toNat :=
    forall_byte (P := fun b => isdigit b = true → b ≠ '0'.toUInt8 →
      1 ≤ (b - '0'.toUInt8).toNat) (by decide +kernel) b
  rw [digitsValue_cons]
  exact Nat.le_add_right_of_le (Nat.le_mul_of_pos_left _ (hpos hb hne))

section GetInt32

variable (hw : ∀ b ∈ w, isdigit b = true) (hne : w ≠ [])
include hw hne

variable (rest) in
theorem isdigit_first : isdigit (byteAt (w ++ rest) 0) = true := by
  have hpos := List.length_pos_iff.mpr hne
  rw [byteAt_append_left rest hpos]
  exact hw _ (byteAt_mem hpos)

/-- The loop of `sqlite3GetInt32` sees all digits there are, or too many. -/
theorem int32Digits_digits (hrest : isdigit (byteAt rest 0) = false) :
    int32Digits false (w ++ rest) =
      if digitsValue w ≤ 2147483647 then some (digitsValue w : Int) else none := by
  have hfirst := isdigit_first rest hw hne
  have hzeros : (w ++ rest).dropWhile (· == '0'.toUInt8) =
      w.dropWhile (· == '0'.toUInt8) ++ rest := by
    rw [List.dropWhile_append]
    split
    · rename_i hnil
      rw [List.isEmpty_iff.mp hnil, List.nil_append]
      cases rest with
      | nil => rfl
      | cons b rest =>
        refine List.dropWhile_cons_of_neg fun hb => ?_
        have hb : b = '0'.toUInt8 := by simpa using hb
        rw [show byteAt (b :: rest) 0 = b from rfl, hb] at hrest
        exact absurd hrest (by decide)
    · rfl
  have hvalue := digitsValue_dropWhile w
  have hdigits : ∀ b ∈ w.dropWhile (· == '0'.toUInt8), isdigit b = true :=
    fun b hb => hw b ((List.dropWhile_sublist _).subset hb)
  have hhead : ∀ b d, w.dropWhile (· == '0'.toUInt8) = b :: d → b ≠ '0'.toUInt8 := by
    intro b d hd hb
    have hnil : w.dropWhile (· == '0'.toUInt8) ≠ [] := by
      rw [hd]
      exact List.cons_ne_nil _ _
    have hnot := List.head_dropWhile_not _ hnil
    simp [hd, hb] at hnot
  unfold int32Digits
  rw [hzeros]
  generalize w.dropWhile (· == '0'.toUInt8) = d at hvalue hdigits hhead
  have htake : ((d ++ rest).take 11).takeWhile isdigit = d.take 11 := by
    rw [List.take_append,
      List.takeWhile_append_of_pos fun b hb => hdigits b (List.mem_of_mem_take hb)]
    have hnil : (rest.take (11 - d.length)).takeWhile isdigit = [] := by
      cases rest with
      | nil => simp
      | cons b rest =>
        cases 11 - d.length with
        | zero => rfl
        | succ n => exact List.takeWhile_cons_of_neg (Bool.eq_false_iff.mp hrest)
    rw [hnil, List.append_nil]
  simp only [htake, hfirst, Bool.true_eq_false, if_false, Bool.toNat_false]
  by_cases hlong : 10 < d.length
  · -- too many digits, and too large a number
    cases d with
    | nil => exact absurd hlong (by decide)
    | cons b d =>
      have hle := le_digitsValue (hdigits b List.mem_cons_self) (hhead b d rfl) d
      have hpow : 10 ^ 10 ≤ 10 ^ d.length := Nat.pow_le_pow_right (by decide)
        (Nat.le_of_lt_succ (by simpa using hlong))
      rw [if_pos (by rw [List.length_take]; omega), if_neg (by omega)]
  · rw [List.take_of_length_le (by omega), if_neg hlong, hvalue]
    by_cases hle : digitsValue w ≤ 2147483647
    · rw [if_neg (by omega), if_pos hle]
      rfl
    · rw [if_pos (by omega), if_neg hle]

variable (rest) in
/-- **`sqlite3GetInt32` reads decimal digits**, unless an `x` makes another number of a zero. -/
theorem getInt32_digits (hrest : isdigit (byteAt rest 0) = false)
    (hhex : byteAt w 0 = '0'.toUInt8 →
      ¬ (byteAt (w ++ rest) 1 = 'x'.toUInt8 ∨ byteAt (w ++ rest) 1 = 'X'.toUInt8)) :
    sqlite3GetInt32 (w ++ rest) =
      if digitsValue w ≤ 2147483647 then some (digitsValue w : Int) else none := by
  have hfirst := isdigit_first rest hw hne
  have hno {c : UInt8} (hc : isdigit c = false) : byteAt (w ++ rest) 0 ≠ c := fun heq => by
    rw [heq, hc] at hfirst
    cases hfirst
  have h0 : byteAt (w ++ rest) 0 = byteAt w 0 :=
    byteAt_append_left rest (List.length_pos_iff.mpr hne)
  rw [sqlite3GetInt32, if_neg (hno (by decide)), if_neg (hno (by decide)),
    if_neg fun h => hhex (h0 ▸ h.1) h.2.1]
  exact int32Digits_digits hw hne hrest

end GetInt32

/-- The value of a decimal text is the number. -/
theorem digitsValue_repr (n : Nat) : digitsValue (utf8 n.repr) = n := by
  have hchar (c : Char) (hc : c.isDigit = true) : String.utf8EncodeChar c = [UInt8.ofNat c.toNat] ∧
      (UInt8.ofNat c.toNat - '0'.toUInt8).toNat = c.toNat - '0'.toNat := by
    simp only [Char.isDigit, Bool.and_eq_true, decide_eq_true_eq, UInt32.le_iff_toNat_le] at hc
    have hlt : c.toNat < 0x80 := Nat.lt_of_le_of_lt hc.2 (by decide)
    have hall : ∀ n < 0x80, 48 ≤ n ∧ n ≤ 57 →
        (UInt8.ofNat n - '0'.toUInt8).toNat = n - '0'.toNat := by decide +kernel
    exact ⟨utf8EncodeChar_ascii hlt, hall _ hlt hc⟩
  have hfold (cs : List Char) (hcs : ∀ c ∈ cs, c.isDigit = true) : ∀ v,
      (cs.flatMap String.utf8EncodeChar).foldl
        (fun v b => v * 10 + (b - '0'.toUInt8).toNat) v = Nat.ofDigitChars 10 cs v := by
    induction cs with
    | nil => exact fun v => Nat.ofDigitChars_nil.symm
    | cons c cs ih =>
      intro v
      obtain ⟨hbytes, hvalue⟩ := hchar c (hcs c List.mem_cons_self)
      rw [List.flatMap_cons, hbytes, List.singleton_append, List.foldl_cons, hvalue,
        ih fun c hc => hcs c (List.mem_cons_of_mem _ hc), Nat.ofDigitChars_cons, Nat.mul_comm]
  rw [digitsValue, utf8, Nat.toList_repr, hfold _
    fun c hc => Nat.isDigit_of_mem_toDigits (by decide) (by decide) hc]
  exact Nat.ofDigitChars_ten_toDigits

/-- **What is written of a 64-bit integer is coded as that integer**, the least one included. -/
theorem codeInteger_repr {negFlag : Bool} {n : Nat} (h : n ≤ 0x7FFFFFFFFFFFFFFF + negFlag.toNat) :
    codeInteger negFlag (utf8 n.repr) = some (if negFlag then -(n : Int) else n) := by
  have hdigits := isdigit_repr n
  have hne := repr_ne_nil n
  have hvalue := digitsValue_repr n
  have hint := getInt32_digits [] hdigits hne (by decide) fun _ =>
    not_hex [] hdigits hne (by decide) (by decide)
  rw [List.append_nil, hvalue] at hint
  rw [codeInteger, hint]
  split
  · rename_i i hi
    split at hi
    · cases hi
      rfl
    · cases hi
  · rw [decToI64, sqlite3Atoi64, hvalue]
    by_cases hfits : n ≤ 0x7FFFFFFFFFFFFFFF
    · simp only [if_pos hfits]
      rw [if_neg (by omega)]
      cases negFlag <;> rfl
    · -- the one number that only its minus makes fit
      cases negFlag with
      | false => exact absurd h hfits
      | true =>
        have hmin : n = 0x8000000000000000 := by
          rw [Bool.toNat_true] at h
          omega
        subst hmin
        rfl

theorem start_repr (n : Nat) : isdigit (byteAt (utf8 n.repr) 0) = true := by
  have hfirst := isdigit_first [] (isdigit_repr n) (repr_ne_nil n)
  rwa [List.append_nil] at hfirst

theorem signed_of_digit {t : TK} (h : isdigit (byteAt w 0) = true) : signed t w = [(t, w)] :=
  if_neg fun heq => absurd (heq ▸ h) (by decide)

theorem signed_minus (t : TK) (w : List UInt8) :
    signed t ('-'.toUInt8 :: w) = [(.MINUS, ['-'.toUInt8]), (t, w)] := if_pos rfl

/-! ## 4. Reading back -/

/-- Two digits are a byte. -/
theorem sqlite3HexToBlob_hexByte (bs : List UInt8) :
    sqlite3HexToBlob (bs.flatMap hexByte) = bs := by
  have hbyte (b : UInt8) : sqlite3HexToBlob (hexByte b) = [b] :=
    forall_byte (P := fun b => sqlite3HexToBlob (hexByte b) = [b]) (by decide +kernel) b
  induction bs with
  | nil => rfl
  | cons b bs ih =>
    have hb := (List.cons.inj (hbyte b)).1
    rw [List.flatMap_cons]
    show _ :: sqlite3HexToBlob (bs.flatMap hexByte) = _
    rw [ih, hb]

/-- The value a literal shows: of a text, what comes before a NUL. -/
def shown : ValueRef → ValueRef
  | .text s => .text ⟨(Basis.text 0 s.data.toList).toArray⟩
  | v => v

/-- **A literal is read back as the value it shows**, reals apart. -/
theorem readLiteral_literal {v : ValueRef} (hv : ∀ r, v ≠ .real r) :
    readLiteral (literal showReal v) = some (shown v) := by
  cases v with
  | null => rfl
  | real r => exact absurd rfl (hv r)
  | integer i =>
    have hback : Int64.ofInt i.toInt = i := Int64.ofInt_toInt i
    have hlt := i.toInt_lt
    have hle := i.le_toInt
    rw [literal]
    generalize i.toInt = k at hback hlt hle
    cases k with
    | ofNat n =>
      have hn : n ≤ 0x7FFFFFFFFFFFFFFF + false.toNat := by
        rw [Int.ofNat_eq_natCast] at hlt
        rw [Bool.toNat_false]
        omega
      have hint := codeInteger_repr hn
      show readLiteral (signed .INTEGER (utf8 n.repr)) = _
      rw [signed_of_digit (start_repr n), readLiteral, hint]
      exact congrArg (fun i => some (ValueRef.integer i)) hback
    | negSucc n =>
      have hn : n + 1 ≤ 0x7FFFFFFFFFFFFFFF + true.toNat := by
        rw [Bool.toNat_true]
        omega
      have hint := codeInteger_repr hn
      show readLiteral (signed .INTEGER (utf8 ("-" ++ (n + 1).repr))) = _
      rw [utf8_minus, signed_minus, readLiteral, hint]
      exact congrArg (fun i => some (ValueRef.integer i)) hback
  | text s =>
    rw [literal, readLiteral, dequote_quoted (by decide)]
    rfl
  | blob b =>
    rw [literal]
    split
    · rename_i hsize
      have hempty : b = ⟨#[]⟩ := by
        obtain ⟨data⟩ := b
        rw [show data = #[] from Array.eq_empty_of_size_eq_zero hsize]
      rw [hempty, readLiteral, if_pos ⟨rfl, rfl⟩]
      rfl
    · have hdigits : ((utf8 "x'" ++ b.data.toList.flatMap hexByte ++ utf8 "'").drop 2).dropLast =
          b.data.toList.flatMap hexByte := by
        rw [List.append_assoc]
        show (b.data.toList.flatMap hexByte ++ utf8 "'").dropLast = _
        exact List.dropLast_concat
      rw [readLiteral, hdigits, sqlite3HexToBlob_hexByte]
      rfl

/-- The least integer, which no literal without its minus is. -/
theorem readLiteral_literal_least :
    literal (fun _ => []) (.integer (-9223372036854775808)) =
      [(.MINUS, utf8 "-"), (.INTEGER, utf8 "9223372036854775808")] ∧
    readLiteral (literal (fun _ => []) (.integer (-9223372036854775808))) =
      some (.integer (-9223372036854775808)) :=
  ⟨by decide +kernel, readLiteral_literal fun _ h => by cases h⟩

/-- No literal has a parameter in it. -/
theorem literal_noVariable (v : ValueRef) :
    ∀ token ∈ literal showReal v, token.1 ≠ .VARIABLE := by
  have hsigned {t : TK} (ht : t ≠ .VARIABLE) (w : List UInt8) :
      ∀ token ∈ signed t w, token.1 ≠ .VARIABLE := by
    intro token hm
    unfold signed at hm
    split at hm
    · simp only [List.mem_cons, List.not_mem_nil, or_false] at hm
      rcases hm with rfl | rfl
      · decide
      · exact ht
    · rw [List.mem_singleton.mp hm]
      exact ht
  cases v with
  | null => simp [literal]
  | integer i => exact hsigned (by decide) _
  | real r =>
    rw [literal]
    split
    · exact hsigned (by decide) _
    · exact hsigned (by decide) _
  | text s => simp [literal]
  | blob b =>
    rw [literal]
    split <;> simp

/-! ## 5. In a text -/

/-- The byte goes on with no literal. -/
def endsLiteral (b : UInt8) : Bool := !idChar b && b != '.'.toUInt8 && b != '\''.toUInt8

theorem endsLiteral_eq {b : UInt8} : endsLiteral b = true ↔
    idChar b = false ∧ b ≠ '.'.toUInt8 ∧ b ≠ '\''.toUInt8 := by
  simp [endsLiteral, and_assoc]

/-- A text that is read as some tokens, if what stands behind it does not go on with them. -/
structure IsLiteral (w : List UInt8) (ts : List Token) : Prop where
  start : startsLiteral (byteAt w 0) = true
  reads : ∀ rest, endsLiteral (byteAt rest 0) = true → tokens (w ++ rest) = ts ++ tokens rest

theorem startsLiteral_digit (b : UInt8) : isdigit b = true → startsLiteral b = true :=
  forall_byte (P := fun b => isdigit b = true → startsLiteral b = true) (by decide +kernel) b

theorem IsLiteral.ne_nil (h : IsLiteral w ts) : w ≠ [] := fun hnil => by
  have hstart := h.start
  rw [hnil] at hstart
  exact absurd hstart (by decide)

theorem isLiteral_word (hw : IsWord w) (hstart : startsLiteral (byteAt w 0) = true) :
    IsLiteral w [(wordCode w, w)] := by
  refine ⟨hstart, fun rest hrest => ?_⟩
  obtain ⟨hchar, _, hquote⟩ := endsLiteral_eq.mp hrest
  exact tokens_word hw ⟨hchar, hquote⟩

theorem isLiteral_digits (hw : ∀ b ∈ w, isdigit b = true) (hne : w ≠ []) :
    IsLiteral w [(.INTEGER, w)] := by
  have hfirst := isdigit_first [] hw hne
  rw [List.append_nil] at hfirst
  refine ⟨startsLiteral_digit _ hfirst, fun rest hrest => ?_⟩
  obtain ⟨hchar, hdot, _⟩ := endsLiteral_eq.mp hrest
  exact tokens_of_numberRun hchar hfirst (zero_not_mem_digits hw)
    (numberRun_digits hchar hw hne hdot)

theorem IsExponent.zero_not_mem (h : IsExponent w) : (0 : UInt8) ∉ w := by
  cases h with
  | none => exact List.not_mem_nil
  | some hsign hne hdigits =>
    have hdigits := zero_not_mem_digits hdigits
    rcases hsign with rfl | rfl <;> simp only [List.mem_cons, not_or]
    · exact ⟨by decide, by decide, hdigits⟩
    · exact ⟨by decide, by decide, hdigits⟩

theorem IsDecimal.first (h : IsDecimal w) : isdigit (byteAt w 0) = true := by
  obtain ⟨int, fraction, exponent, hne, hdigits, _, rfl⟩ := h.digits
  exact isdigit_first _ (fun b hb => hdigits b (List.mem_append_left _ hb)) hne

theorem isLiteral_decimal (hw : IsDecimal w) : IsLiteral w [(.FLOAT, w)] := by
  have hfirst := hw.first
  have hzero : (0 : UInt8) ∉ w := by
    obtain ⟨int, fraction, exponent, _, hdigits, hexponent, rfl⟩ := hw.digits
    have hno := zero_not_mem_digits hdigits
    rw [List.mem_append, not_or] at hno
    simp only [List.mem_append, List.mem_cons, not_or]
    exact ⟨hno.1, by decide, hno.2, hexponent.zero_not_mem⟩
  refine ⟨startsLiteral_digit _ hfirst, fun rest hrest => ?_⟩
  have hchar := (endsLiteral_eq.mp hrest).1
  exact tokens_of_numberRun hchar hfirst hzero (numberRun_decimal hchar hw)

/-- A minus before a literal. -/
theorem IsLiteral.minus (h : IsLiteral w ts) (hminus : byteAt w 0 ≠ '-'.toUInt8) :
    IsLiteral ('-'.toUInt8 :: w) ((.MINUS, ['-'.toUInt8]) :: ts) := by
  refine ⟨show startsLiteral '-'.toUInt8 = true by decide, fun rest hrest => ?_⟩
  have h0 : byteAt (w ++ rest) 0 = byteAt w 0 :=
    byteAt_append_left rest (List.length_pos_iff.mpr h.ne_nil)
  rw [List.cons_append, tokens_minus (h0 ▸ hminus)
    (h0 ▸ (startsLiteral_spec _ h.start).2.2.2.2.1), h.reads rest hrest]
  rfl

theorem isLiteral_quoted {s : List UInt8} (hs : (0 : UInt8) ∉ s) :
    IsLiteral (quoted '\''.toUInt8 s) [(.STRING, quoted '\''.toUInt8 s)] := by
  refine ⟨show startsLiteral '\''.toUInt8 = true by decide, fun rest hrest => ?_⟩
  have hquoted := tokens_quoted (by decide) hs (endsLiteral_eq.mp hrest).2.2
  rwa [if_pos rfl] at hquoted

/-- The bytes of `%02x`. -/
def HexDigit (c : UInt8) : Prop := 48 ≤ c ∧ c ≤ 57 ∨ 97 ≤ c ∧ c ≤ 102

instance (c : UInt8) : Decidable (HexDigit c) := inferInstanceAs (Decidable (_ ∨ _))

theorem isxdigit_hexDigit (c : UInt8) : HexDigit c → isxdigit c = true ∧ c ≠ 0 :=
  forall_byte (P := fun c => HexDigit c → isxdigit c = true ∧ c ≠ 0) (by decide +kernel) c

theorem hexByte_hexDigit (b : UInt8) : ∀ c ∈ hexByte b, HexDigit c := by
  -- by place: deciding the statement over the members takes the kernel a minute
  have hbytes : HexDigit ((hexByte b).getD 0 0) ∧ HexDigit ((hexByte b).getD 1 0) :=
    forall_byte (P := fun b => HexDigit ((hexByte b).getD 0 0) ∧ HexDigit ((hexByte b).getD 1 0))
      (by decide +kernel) b
  intro c hc
  rcases List.mem_pair.mp hc with rfl | rfl
  · exact hbytes.1
  · exact hbytes.2

theorem isLiteral_blob (bs : List UInt8) :
    IsLiteral (utf8 "x'" ++ bs.flatMap hexByte ++ utf8 "'")
      [(.BLOB, utf8 "x'" ++ bs.flatMap hexByte ++ utf8 "'")] := by
  have hdigits : ∀ c ∈ bs.flatMap hexByte, isxdigit c = true ∧ c ≠ 0 := fun c hc => by
    obtain ⟨b, _, hb⟩ := List.mem_flatMap.mp hc
    exact isxdigit_hexDigit c (hexByte_hexDigit b c hb)
  have heven : (bs.flatMap hexByte).length = 2 * bs.length := by
    induction bs with
    | nil => rfl
    | cons b bs ih =>
      have hlen : (hexByte b).length = 2 := rfl
      rw [List.flatMap_cons, List.length_append, hlen,
        ih fun c hc => hdigits c (List.mem_append_right _ hc), List.length_cons]
      omega
  generalize bs.flatMap hexByte = digits at hdigits heven
  have hx : utf8 "x'" = ['x'.toUInt8, '\''.toUInt8] := by decide +kernel
  have hquote : utf8 "'" = ['\''.toUInt8] := by decide +kernel
  rw [hx, hquote]
  refine ⟨show startsLiteral 'x'.toUInt8 = true by decide, fun rest _ => ?_⟩
  have hskip : Basis.skip isxdigit ('x'.toUInt8 :: '\''.toUInt8 ::
      (digits ++ ('\''.toUInt8 :: rest))) 2 = 2 + digits.length :=
    Basis.skip_run 0 ['x'.toUInt8, '\''.toUInt8] (fun c hc => (hdigits c hc).1)
      (show isxdigit '\''.toUInt8 = false by decide)
  have hclose : byteAt ('x'.toUInt8 :: '\''.toUInt8 :: (digits ++ ('\''.toUInt8 :: rest)))
      (2 + digits.length) = '\''.toUInt8 := by
    rw [Nat.add_comm, byteAt, Basis.symbol_succ_cons, Basis.symbol_succ_cons]
    exact byteAt_append_length digits _
  have heven' : ¬ ('\''.toUInt8 ≠ '\''.toUInt8 ∨ (2 + digits.length) % 2 = 1) := by
    rintro (h | h)
    · exact h rfl
    · omega
  have hclass : aiClass 'x'.toUInt8 = .x := by decide
  have hquoted : byteAt ('x'.toUInt8 :: '\''.toUInt8 :: (digits ++ ('\''.toUInt8 :: rest))) 1 =
      '\''.toUInt8 := rfl
  have hget : getToken ('x'.toUInt8 :: '\''.toUInt8 :: (digits ++ ('\''.toUInt8 :: rest))) =
      (.BLOB, 2 + digits.length + 1) := by
    rw [getToken, byteAt, Basis.symbol_zero_cons, hclass, classToken, xToken, if_pos hquoted, hskip]
    dsimp only
    rw [hclose, if_neg heven']
  have hlist : ['x'.toUInt8, '\''.toUInt8] ++ digits ++ ['\''.toUInt8] ++ rest =
      'x'.toUInt8 :: '\''.toUInt8 :: (digits ++ ('\''.toUInt8 :: rest)) := by
    simp only [List.append_assoc, List.cons_append, List.nil_append]
  have hlen : (['x'.toUInt8, '\''.toUInt8] ++ digits ++ ['\''.toUInt8]).length =
      2 + digits.length + 1 := by
    simp only [List.length_append, List.length_cons, List.length_nil]
  have hzero : (0 : UInt8) ∉ ['x'.toUInt8, '\''.toUInt8] ++ digits ++ ['\''.toUInt8] := by
    simp only [List.mem_append, List.mem_cons, List.not_mem_nil, not_or]
    exact ⟨⟨⟨by decide, by decide, not_false⟩, fun h => (hdigits 0 h).2 rfl⟩, by decide, not_false⟩
  rw [← hlist, ← hlen] at hget
  exact tokens_append (List.cons_ne_nil _ _) hzero hget

/-- `zeroblob(0)`. -/
theorem isLiteral_zeroblob : IsLiteral (utf8 "zeroblob(0)")
    [(.ID, utf8 "zeroblob"), (.LP, utf8 "("), (.INTEGER, utf8 "0"), (.RP, utf8 ")")] := by
  have hword : IsWord (utf8 "zeroblob") :=
    ⟨by decide +kernel, by decide +kernel, fun h => absurd h.1 (by decide +kernel)⟩
  have hcode : wordCode (utf8 "zeroblob") = .ID := by decide +kernel
  have hzero := isLiteral_digits (w := utf8 "0") (by decide +kernel) (by decide +kernel)
  have hlp : utf8 "(" = ['('.toUInt8] := by decide +kernel
  have hrp : utf8 ")" = [')'.toUInt8] := by decide +kernel
  have htext : utf8 "zeroblob(0)" = utf8 "zeroblob" ++ (utf8 "(" ++ (utf8 "0" ++ utf8 ")")) := by
    decide +kernel
  refine ⟨by decide +kernel, fun rest _ => ?_⟩
  have hends : EndsWord ('('.toUInt8 :: (utf8 "0" ++ (')'.toUInt8 :: rest))) :=
    ⟨show idChar '('.toUInt8 = false by decide, show '('.toUInt8 ≠ '\''.toUInt8 by decide⟩
  have hlast : endsLiteral (byteAt (')'.toUInt8 :: rest) 0) = true :=
    show endsLiteral ')'.toUInt8 = true by decide
  rw [htext, hlp, hrp]
  simp only [List.append_assoc, List.cons_append, List.nil_append]
  rw [tokens_word hword hends, hcode, tokens_lp, hzero.reads _ hlast, tokens_rp]
  rfl

theorem isLiteral_signed {t : TK} (h : IsLiteral w [(t, w)]) (hminus : byteAt w 0 ≠ '-'.toUInt8) :
    IsLiteral w (signed t w) ∧ IsLiteral ('-'.toUInt8 :: w) (signed t ('-'.toUInt8 :: w)) := by
  rw [signed_minus, signed, if_neg hminus]
  exact ⟨h, h.minus hminus⟩

theorem ne_minus {b : UInt8} (h : isdigit b = true) : b ≠ '-'.toUInt8 := fun heq => by
  rw [heq] at h
  exact absurd h (by decide)

theorem isLiteral_real (hreal : PrintsReals showReal) (r : Binary64) :
    IsLiteral (showReal r) (signed (if r.isFinite then .FLOAT else .ID) (showReal r)) := by
  cases hfinite : r.isFinite with
  | true =>
    obtain ⟨w, hw, heq⟩ := hreal.finite r hfinite
    have hsigned := isLiteral_signed (isLiteral_decimal hw) (ne_minus hw.first)
    rcases heq with heq | heq
    · rw [heq]
      exact hsigned.1
    · rw [heq]
      exact hsigned.2
  | false =>
    have hinf : IsLiteral (utf8 "Inf") [(.ID, utf8 "Inf")] := by
      have hword : IsWord (utf8 "Inf") :=
        ⟨by decide +kernel, by decide +kernel, fun h => absurd h.1 (by decide +kernel)⟩
      have hcode : wordCode (utf8 "Inf") = .ID := by decide +kernel
      exact hcode ▸ isLiteral_word hword (by decide +kernel)
    have hnan : IsLiteral (utf8 "NaN") [(.ID, utf8 "NaN")] := by
      have hword : IsWord (utf8 "NaN") :=
        ⟨by decide +kernel, by decide +kernel, fun h => absurd h.1 (by decide +kernel)⟩
      have hcode : wordCode (utf8 "NaN") = .ID := by decide +kernel
      exact hcode ▸ isLiteral_word hword (by decide +kernel)
    rcases hreal.special r hfinite with heq | heq | heq
    · rw [heq]
      exact (isLiteral_signed hinf (by decide +kernel)).1
    · rw [heq]
      exact (isLiteral_signed hinf (by decide +kernel)).2
    · rw [heq]
      exact (isLiteral_signed hnan (by decide +kernel)).1

/-- **What is written for a value is read as the tokens of its literal.** -/
theorem isLiteral_render (hreal : PrintsReals showReal) (v : ValueRef) :
    IsLiteral (render showReal v) (literal showReal v) := by
  cases v with
  | null =>
    have hword : IsWord (utf8 "NULL") :=
      ⟨by decide +kernel, by decide +kernel, fun h => absurd h.1 (by decide +kernel)⟩
    have hcode : wordCode (utf8 "NULL") = .NULL := by decide +kernel
    rw [render, literal, ← hcode]
    exact isLiteral_word hword (by decide +kernel)
  | integer i =>
    rw [render, literal]
    have hsigned (n : Nat) := isLiteral_signed (isLiteral_digits (isdigit_repr n) (repr_ne_nil n))
      (ne_minus (start_repr n))
    cases i.toInt with
    | ofNat n => exact (hsigned n).1
    | negSucc n =>
      show IsLiteral (utf8 ("-" ++ (n + 1).repr)) (signed .INTEGER (utf8 ("-" ++ (n + 1).repr)))
      rw [utf8_minus]
      exact (hsigned (n + 1)).2
  | real r => exact isLiteral_real hreal r
  | text s => exact isLiteral_quoted (Basis.stop_not_mem_text _)
  | blob b =>
    rw [render, literal]
    split
    · exact isLiteral_zeroblob
    · exact isLiteral_blob _

end NodeRusqlite.Sqlite
