/-
  File:      NodeRusqlite/Sqlite/Chars.lean
  Subject:   What SQLite's tokenizer asks of a byte.

  * `aiClass`: the class of the first byte of a token; `sqlite3CtypeMap`: the bits
    behind `IdChar`, `isspace`, `isdigit` and `isxdigit`.
  * `utf8`: the bytes of a text.
  * `forall_byte`: what 256 checks prove of every byte.
-/
import NodeRusqlite.Basis.Lexing

namespace NodeRusqlite.Sqlite

open Basis (symbol)

/-! ## 1. Classes -/

/-- `CC_X` to `CC_BOM`. -/
inductive CC where
  | x | kywd0 | kywd | digit | dollar | varalpha | varnum | space | quote | quote2 | pipe | minus
  | lt | gt | eq | bang | slash | lp | rp | semi | plus | star | percent | comma | and | tilda | dot
  | id | illegal | nul | bom
deriving DecidableEq

/-- The ASCII half of `aiClass`. -/
def aiClassAscii : List CC := [
  .nul, .illegal, .illegal, .illegal, .illegal, .illegal, .illegal, .illegal,
  .illegal, .space, .space, .illegal, .space, .space, .illegal, .illegal,
  .illegal, .illegal, .illegal, .illegal, .illegal, .illegal, .illegal, .illegal,
  .illegal, .illegal, .illegal, .illegal, .illegal, .illegal, .illegal, .illegal,
  .space, .bang, .quote, .varalpha, .dollar, .percent, .and, .quote,
  .lp, .rp, .star, .plus, .comma, .minus, .dot, .slash,
  .digit, .digit, .digit, .digit, .digit, .digit, .digit, .digit,
  .digit, .digit, .varalpha, .semi, .lt, .eq, .gt, .varnum,
  .varalpha, .kywd0, .kywd0, .kywd0, .kywd0, .kywd0, .kywd0, .kywd0,
  .kywd0, .kywd0, .kywd0, .kywd0, .kywd0, .kywd0, .kywd0, .kywd0,
  .kywd0, .kywd0, .kywd0, .kywd0, .kywd0, .kywd0, .kywd0, .kywd0,
  .x, .kywd, .kywd, .quote2, .illegal, .illegal, .illegal, .kywd,
  .quote, .kywd0, .kywd0, .kywd0, .kywd0, .kywd0, .kywd0, .kywd0,
  .kywd0, .kywd0, .kywd0, .kywd0, .kywd0, .kywd0, .kywd0, .kywd0,
  .kywd0, .kywd0, .kywd0, .kywd0, .kywd0, .kywd0, .kywd0, .kywd0,
  .x, .kywd, .kywd, .illegal, .pipe, .illegal, .tilda, .illegal]

/-- `aiClass`. -/
def aiClass (b : UInt8) : CC :=
  if b < 0x80 then aiClassAscii.getD b.toNat .illegal
  else if b = 0xEF then .bom
  else .id

/-- `aiClass[b] <= CC_KYWD`. -/
def isKeywordByte (b : UInt8) : Bool :=
  match aiClass b with
  | .x | .kywd0 | .kywd => true
  | _ => false

/-- The ASCII half of `sqlite3CtypeMap`. -/
def ctypeAscii : List UInt8 := [
  0x00, 0x00, 0x00, 0x00, 0x00, 0x00, 0x00, 0x00,
  0x00, 0x01, 0x01, 0x01, 0x01, 0x01, 0x00, 0x00,
  0x00, 0x00, 0x00, 0x00, 0x00, 0x00, 0x00, 0x00,
  0x00, 0x00, 0x00, 0x00, 0x00, 0x00, 0x00, 0x00,
  0x01, 0x00, 0x80, 0x00, 0x40, 0x00, 0x00, 0x80,
  0x00, 0x00, 0x00, 0x00, 0x00, 0x00, 0x00, 0x00,
  0x0c, 0x0c, 0x0c, 0x0c, 0x0c, 0x0c, 0x0c, 0x0c,
  0x0c, 0x0c, 0x00, 0x00, 0x00, 0x00, 0x00, 0x00,
  0x00, 0x0a, 0x0a, 0x0a, 0x0a, 0x0a, 0x0a, 0x02,
  0x02, 0x02, 0x02, 0x02, 0x02, 0x02, 0x02, 0x02,
  0x02, 0x02, 0x02, 0x02, 0x02, 0x02, 0x02, 0x02,
  0x02, 0x02, 0x02, 0x80, 0x00, 0x00, 0x00, 0x40,
  0x80, 0x2a, 0x2a, 0x2a, 0x2a, 0x2a, 0x2a, 0x22,
  0x22, 0x22, 0x22, 0x22, 0x22, 0x22, 0x22, 0x22,
  0x22, 0x22, 0x22, 0x22, 0x22, 0x22, 0x22, 0x22,
  0x22, 0x22, 0x22, 0x00, 0x00, 0x00, 0x00, 0x00]

/-- `sqlite3CtypeMap`. -/
def sqlite3CtypeMap (b : UInt8) : UInt8 :=
  if b < 0x80 then ctypeAscii.getD b.toNat 0 else 0x40

def isspace (b : UInt8) : Bool := sqlite3CtypeMap b &&& 0x01 != 0

def isdigit (b : UInt8) : Bool := sqlite3CtypeMap b &&& 0x04 != 0

def isxdigit (b : UInt8) : Bool := sqlite3CtypeMap b &&& 0x08 != 0

/-- `IdChar`. -/
def idChar (b : UInt8) : Bool := sqlite3CtypeMap b &&& 0x46 != 0

/-- `SQLITE_DIGIT_SEPARATOR`. -/
def digitSeparator : UInt8 := 0x5F

/-- `z[i]`, of a text that a NUL terminates. -/
def byteAt (z : List UInt8) (i : Nat) : UInt8 := symbol 0 z i

/-! ## 2. Every byte -/

/-- **A property of bytes that holds of the 256 numbers holds of every byte.** -/
theorem forall_byte {P : UInt8 → Prop} (h : ∀ n < 256, P (UInt8.ofNat n)) (b : UInt8) : P b := by
  have hb := h b.toNat b.toNat_lt
  rwa [UInt8.ofNat_toNat] at hb

theorem idChar_of_le {b : UInt8} (h : 0x80 ≤ b) : idChar b = true := by
  have hlt : ¬ b < 0x80 := UInt8.not_lt.mpr h
  simp only [idChar, sqlite3CtypeMap, if_neg hlt]
  decide

theorem idChar_of_isKeywordByte (b : UInt8) : isKeywordByte b = true → idChar b = true :=
  forall_byte (P := fun b => isKeywordByte b = true → idChar b = true) (by decide +kernel) b

/-! ## 3. Texts -/

/-- The bytes of a text. -/
def utf8 (s : String) : List UInt8 := s.toList.flatMap String.utf8EncodeChar

theorem utf8_append (s t : String) : utf8 (s ++ t) = utf8 s ++ utf8 t := by
  rw [utf8, String.toList_append, List.flatMap_append]
  rfl

theorem utf8_push (s : String) (c : Char) :
    utf8 (s.push c) = utf8 s ++ String.utf8EncodeChar c := by
  rw [utf8, String.toList_push, List.flatMap_append]
  simp [utf8]

/-- A character below 0x80 is one byte. -/
theorem utf8EncodeChar_ascii {c : Char} (h : c.toNat < 0x80) :
    String.utf8EncodeChar c = [UInt8.ofNat c.toNat] := by
  unfold String.utf8EncodeChar
  exact if_pos (Nat.le_of_lt_succ h)

/-- Any other character has only bytes from 0x80 on. -/
theorem le_of_mem_utf8EncodeChar {c : Char} (h : 0x80 ≤ c.toNat) {b : UInt8}
    (hb : b ∈ String.utf8EncodeChar c) : 0x80 ≤ b := by
  have hval : ¬ c.val ≤ 0x7f := fun hle =>
    absurd (UInt32.le_iff_toNat_le.mp hle) (Nat.not_le.mpr h)
  have hor (a m : UInt8) (hm : 0x80 ≤ m) : 0x80 ≤ a ||| m :=
    UInt8.le_trans hm UInt8.right_le_or
  rw [String.utf8EncodeChar_eq_utf8EncodeCharFast, String.utf8EncodeCharFast, if_neg hval] at hb
  split at hb
  · simp only [List.mem_cons, List.not_mem_nil, or_false] at hb
    rcases hb with rfl | rfl <;> exact hor _ _ (by decide)
  · split at hb
    · simp only [List.mem_cons, List.not_mem_nil, or_false] at hb
      rcases hb with rfl | rfl | rfl <;> exact hor _ _ (by decide)
    · simp only [List.mem_cons, List.not_mem_nil, or_false] at hb
      rcases hb with rfl | rfl | rfl | rfl <;> exact hor _ _ (by decide)

end NodeRusqlite.Sqlite
