/-
  File:      NodeRusqlite/Sqlite/Keyword.lean
  Subject:   The keywords of SQL, found by a hash table.

  The table is generated: the 147 words overlap in one text, and `aKWHash` and
  `aKWNext` chain their numbers by a hash of the first letter, the last letter
  and the length.

  * `keywordCode`: the search.
  * **`keywordCode_eq`**: it finds what a search through all the words finds,
    whatever the case of the letters.
-/
import NodeRusqlite.Sqlite.Chars

namespace NodeRusqlite.Sqlite

/-! ## 1. The table -/

/-- The token codes `TK_..` the tokenizer knows. -/
inductive TK where
  | SEMI | EXPLAIN | QUERY | PLAN | BEGIN | TRANSACTION | DEFERRED | IMMEDIATE | EXCLUSIVE | COMMIT
  | END | ROLLBACK | SAVEPOINT | RELEASE | TO | TABLE | CREATE | IF | NOT | EXISTS | TEMP | LP | RP
  | AS | COMMA | WITHOUT | ABORT | ACTION | AFTER | ANALYZE | ASC | ATTACH | BEFORE | BY | CASCADE
  | CAST | CONFLICT | DATABASE | DESC | DETACH | EACH | FAIL | OR | AND | IS | MATCH | LIKE_KW
  | BETWEEN | IN | ISNULL | NOTNULL | NE | EQ | GT | LE | LT | GE | ESCAPE | ID | COLUMNKW | DO
  | FOR | IGNORE | INITIALLY | INSTEAD | NO | KEY | OF | OFFSET | PRAGMA | RAISE | RECURSIVE
  | REPLACE | RESTRICT | ROW | ROWS | TRIGGER | VACUUM | VIEW | VIRTUAL | WITH | NULLS | FIRST
  | LAST | CURRENT | FOLLOWING | PARTITION | PRECEDING | RANGE | UNBOUNDED | EXCLUDE | GROUPS
  | OTHERS | TIES | GENERATED | ALWAYS | MATERIALIZED | REINDEX | RENAME | CTIME_KW | BITAND
  | BITOR | LSHIFT | RSHIFT | PLUS | MINUS | STAR | SLASH | REM | CONCAT | PTR | COLLATE | BITNOT
  | ON | INDEXED | STRING | JOIN_KW | CONSTRAINT | DEFAULT | NULL | PRIMARY | UNIQUE | CHECK
  | REFERENCES | AUTOINCR | INSERT | DELETE | UPDATE | SET | DEFERRABLE | FOREIGN | DROP | UNION
  | ALL | EXCEPT | INTERSECT | SELECT | VALUES | DISTINCT | DOT | FROM | JOIN | USING | ORDER
  | GROUP | HAVING | LIMIT | WHERE | RETURNING | INTO | NOTHING | FLOAT | BLOB | INTEGER | VARIABLE
  | CASE | WHEN | THEN | ELSE | INDEX | ALTER | ADD | WINDOW | OVER | FILTER | QNUMBER | SPACE
  | COMMENT | ILLEGAL
deriving DecidableEq

namespace Keyword

/-- `zKWText`. -/
def zKWText : List Char := [
  'R', 'E', 'I', 'N', 'D', 'E', 'X', 'E', 'D', 'E', 'S', 'C', 'A', 'P', 'E', 'A', 'C', 'H',
  'E', 'C', 'K', 'E', 'Y', 'B', 'E', 'F', 'O', 'R', 'E', 'I', 'G', 'N', 'O', 'R', 'E', 'G',
  'E', 'X', 'P', 'L', 'A', 'I', 'N', 'S', 'T', 'E', 'A', 'D', 'D', 'A', 'T', 'A', 'B', 'A',
  'S', 'E', 'L', 'E', 'C', 'T', 'A', 'B', 'L', 'E', 'F', 'T', 'H', 'E', 'N', 'D', 'E', 'F',
  'E', 'R', 'R', 'A', 'B', 'L', 'E', 'L', 'S', 'E', 'X', 'C', 'L', 'U', 'D', 'E', 'L', 'E',
  'T', 'E', 'M', 'P', 'O', 'R', 'A', 'R', 'Y', 'I', 'S', 'N', 'U', 'L', 'L', 'S', 'A', 'V',
  'E', 'P', 'O', 'I', 'N', 'T', 'E', 'R', 'S', 'E', 'C', 'T', 'I', 'E', 'S', 'N', 'O', 'T',
  'N', 'U', 'L', 'L', 'I', 'K', 'E', 'X', 'C', 'E', 'P', 'T', 'R', 'A', 'N', 'S', 'A', 'C',
  'T', 'I', 'O', 'N', 'A', 'T', 'U', 'R', 'A', 'L', 'T', 'E', 'R', 'A', 'I', 'S', 'E', 'X',
  'C', 'L', 'U', 'S', 'I', 'V', 'E', 'X', 'I', 'S', 'T', 'S', 'C', 'O', 'N', 'S', 'T', 'R',
  'A', 'I', 'N', 'T', 'O', 'F', 'F', 'S', 'E', 'T', 'R', 'I', 'G', 'G', 'E', 'R', 'A', 'N',
  'G', 'E', 'N', 'E', 'R', 'A', 'T', 'E', 'D', 'E', 'T', 'A', 'C', 'H', 'A', 'V', 'I', 'N',
  'G', 'L', 'O', 'B', 'E', 'G', 'I', 'N', 'N', 'E', 'R', 'E', 'F', 'E', 'R', 'E', 'N', 'C',
  'E', 'S', 'U', 'N', 'I', 'Q', 'U', 'E', 'R', 'Y', 'W', 'I', 'T', 'H', 'O', 'U', 'T', 'E',
  'R', 'E', 'L', 'E', 'A', 'S', 'E', 'A', 'T', 'T', 'A', 'C', 'H', 'B', 'E', 'T', 'W', 'E',
  'E', 'N', 'O', 'T', 'H', 'I', 'N', 'G', 'R', 'O', 'U', 'P', 'S', 'C', 'A', 'S', 'C', 'A',
  'D', 'E', 'F', 'A', 'U', 'L', 'T', 'C', 'A', 'S', 'E', 'C', 'O', 'L', 'L', 'A', 'T', 'E',
  'C', 'R', 'E', 'A', 'T', 'E', 'C', 'U', 'R', 'R', 'E', 'N', 'T', '_', 'D', 'A', 'T', 'E',
  'I', 'M', 'M', 'E', 'D', 'I', 'A', 'T', 'E', 'J', 'O', 'I', 'N', 'S', 'E', 'R', 'T', 'M',
  'A', 'T', 'C', 'H', 'P', 'L', 'A', 'N', 'A', 'L', 'Y', 'Z', 'E', 'P', 'R', 'A', 'G', 'M',
  'A', 'T', 'E', 'R', 'I', 'A', 'L', 'I', 'Z', 'E', 'D', 'E', 'F', 'E', 'R', 'R', 'E', 'D',
  'I', 'S', 'T', 'I', 'N', 'C', 'T', 'U', 'P', 'D', 'A', 'T', 'E', 'V', 'A', 'L', 'U', 'E',
  'S', 'V', 'I', 'R', 'T', 'U', 'A', 'L', 'W', 'A', 'Y', 'S', 'W', 'H', 'E', 'N', 'W', 'H',
  'E', 'R', 'E', 'C', 'U', 'R', 'S', 'I', 'V', 'E', 'A', 'B', 'O', 'R', 'T', 'A', 'F', 'T',
  'E', 'R', 'E', 'N', 'A', 'M', 'E', 'A', 'N', 'D', 'R', 'O', 'P', 'A', 'R', 'T', 'I', 'T',
  'I', 'O', 'N', 'A', 'U', 'T', 'O', 'I', 'N', 'C', 'R', 'E', 'M', 'E', 'N', 'T', 'C', 'A',
  'S', 'T', 'C', 'O', 'L', 'U', 'M', 'N', 'C', 'O', 'M', 'M', 'I', 'T', 'C', 'O', 'N', 'F',
  'L', 'I', 'C', 'T', 'C', 'R', 'O', 'S', 'S', 'C', 'U', 'R', 'R', 'E', 'N', 'T', '_', 'T',
  'I', 'M', 'E', 'S', 'T', 'A', 'M', 'P', 'R', 'E', 'C', 'E', 'D', 'I', 'N', 'G', 'F', 'A',
  'I', 'L', 'A', 'S', 'T', 'F', 'I', 'L', 'T', 'E', 'R', 'E', 'P', 'L', 'A', 'C', 'E', 'F',
  'I', 'R', 'S', 'T', 'F', 'O', 'L', 'L', 'O', 'W', 'I', 'N', 'G', 'F', 'R', 'O', 'M', 'F',
  'U', 'L', 'L', 'I', 'M', 'I', 'T', 'I', 'F', 'O', 'R', 'D', 'E', 'R', 'E', 'S', 'T', 'R',
  'I', 'C', 'T', 'O', 'T', 'H', 'E', 'R', 'S', 'O', 'V', 'E', 'R', 'E', 'T', 'U', 'R', 'N',
  'I', 'N', 'G', 'R', 'I', 'G', 'H', 'T', 'R', 'O', 'L', 'L', 'B', 'A', 'C', 'K', 'R', 'O',
  'W', 'S', 'U', 'N', 'B', 'O', 'U', 'N', 'D', 'E', 'D', 'U', 'N', 'I', 'O', 'N', 'U', 'S',
  'I', 'N', 'G', 'V', 'A', 'C', 'U', 'U', 'M', 'V', 'I', 'E', 'W', 'I', 'N', 'D', 'O', 'W',
  'B', 'Y', 'I', 'N', 'I', 'T', 'I', 'A', 'L', 'L', 'Y', 'P', 'R', 'I', 'M', 'A', 'R', 'Y']

/-- `aKWHash`. -/
def aKWHash : List Nat := [
  84, 92, 134, 82, 105, 29, 0, 0, 94, 0, 85, 72, 0, 53, 35, 86, 15, 0, 42, 97, 54, 89, 135, 19, 0,
  0, 140, 0, 40, 129, 0, 22, 107, 0, 9, 0, 0, 123, 80, 0, 78, 6, 0, 65, 103, 147, 0, 136, 115, 0,
  0, 48, 0, 90, 24, 0, 17, 0, 27, 70, 23, 26, 5, 60, 142, 110, 122, 0, 73, 91, 71, 145, 61, 120,
  74, 0, 49, 0, 11, 41, 0, 113, 0, 0, 0, 109, 10, 111, 116, 125, 14, 50, 124, 0, 100, 0, 18, 121,
  144, 56, 130, 139, 88, 83, 37, 30, 126, 0, 0, 108, 51, 131, 128, 0, 34, 0, 0, 132, 0, 98, 38, 39,
  0, 20, 45, 117, 93]

/-- `aKWNext`. -/
def aKWNext : List Nat := [
  0, 0, 0, 0, 0, 4, 0, 43, 0, 0, 106, 114, 0, 0, 0, 2, 0, 0, 143, 0, 0, 0, 13, 0, 0, 0, 0, 141, 0,
  0, 119, 52, 0, 0, 137, 12, 0, 0, 62, 0, 138, 0, 133, 0, 0, 36, 0, 0, 28, 77, 0, 0, 0, 0, 59, 0,
  47, 0, 0, 0, 0, 0, 0, 0, 0, 0, 0, 69, 0, 0, 0, 0, 0, 146, 3, 0, 58, 0, 1, 75, 0, 0, 0, 31, 0, 0,
  0, 0, 0, 127, 0, 104, 0, 64, 66, 63, 0, 0, 0, 0, 0, 46, 0, 16, 8, 0, 0, 0, 0, 0, 0, 0, 0, 0, 0,
  81, 101, 0, 112, 21, 7, 67, 0, 79, 96, 118, 0, 0, 68, 0, 0, 99, 44, 0, 55, 0, 76, 0, 95, 32, 33,
  57, 25, 0, 102, 0, 0, 87]

/-- `aKWLen`. -/
def aKWLen : List Nat := [
  0, 7, 7, 5, 4, 6, 4, 5, 3, 6, 7, 3, 6, 6, 7, 7, 3, 8, 2, 6, 5, 4, 4, 3, 10, 4, 7, 6, 9, 4, 2, 6,
  5, 9, 9, 4, 7, 3, 2, 4, 4, 6, 11, 6, 2, 7, 5, 5, 9, 6, 10, 4, 6, 2, 3, 7, 5, 9, 6, 6, 4, 5, 5,
  10, 6, 5, 7, 4, 5, 7, 6, 7, 7, 6, 5, 7, 3, 7, 4, 7, 6, 12, 9, 4, 6, 5, 4, 7, 6, 12, 8, 8, 2, 6,
  6, 7, 6, 4, 5, 9, 5, 5, 6, 3, 4, 9, 13, 2, 2, 4, 6, 6, 8, 5, 17, 12, 7, 9, 4, 4, 6, 7, 5, 9, 4,
  4, 5, 2, 5, 8, 6, 4, 9, 5, 8, 4, 3, 9, 5, 5, 6, 4, 6, 2, 2, 9, 3, 7]

/-- `aKWOffset`. -/
def aKWOffset : List Nat := [
  0, 0, 2, 2, 8, 9, 14, 16, 20, 23, 25, 25, 29, 33, 36, 41, 46, 48, 53, 54, 59, 62, 65, 67, 69, 78,
  81, 86, 90, 90, 94, 99, 101, 105, 111, 119, 123, 123, 123, 126, 129, 132, 137, 142, 146, 147,
  152, 156, 160, 168, 174, 181, 184, 184, 187, 189, 195, 198, 206, 211, 216, 219, 222, 226, 236,
  239, 244, 244, 248, 252, 259, 265, 271, 277, 277, 283, 284, 288, 295, 299, 306, 312, 324, 333,
  335, 341, 346, 348, 355, 359, 370, 377, 378, 385, 391, 397, 402, 408, 412, 415, 424, 429, 433,
  439, 441, 444, 453, 455, 457, 466, 470, 476, 482, 490, 495, 495, 495, 511, 520, 523, 527, 532,
  539, 544, 553, 557, 560, 565, 567, 571, 579, 585, 588, 597, 602, 610, 610, 614, 623, 628, 633,
  639, 642, 645, 648, 650, 655, 659]

/-- `aKWCode`; the entry 0 is not used. -/
def aKWCode : List TK := [
  .ID, .REINDEX, .INDEXED, .INDEX, .DESC, .ESCAPE, .EACH, .CHECK, .KEY, .BEFORE, .FOREIGN, .FOR,
  .IGNORE, .LIKE_KW, .EXPLAIN, .INSTEAD, .ADD, .DATABASE, .AS, .SELECT, .TABLE, .JOIN_KW, .THEN,
  .END, .DEFERRABLE, .ELSE, .EXCLUDE, .DELETE, .TEMP, .TEMP, .OR, .ISNULL, .NULLS, .SAVEPOINT,
  .INTERSECT, .TIES, .NOTNULL, .NOT, .NO, .NULL, .LIKE_KW, .EXCEPT, .TRANSACTION, .ACTION, .ON,
  .JOIN_KW, .ALTER, .RAISE, .EXCLUSIVE, .EXISTS, .CONSTRAINT, .INTO, .OFFSET, .OF, .SET, .TRIGGER,
  .RANGE, .GENERATED, .DETACH, .HAVING, .LIKE_KW, .BEGIN, .JOIN_KW, .REFERENCES, .UNIQUE, .QUERY,
  .WITHOUT, .WITH, .JOIN_KW, .RELEASE, .ATTACH, .BETWEEN, .NOTHING, .GROUPS, .GROUP, .CASCADE,
  .ASC, .DEFAULT, .CASE, .COLLATE, .CREATE, .CTIME_KW, .IMMEDIATE, .JOIN, .INSERT, .MATCH, .PLAN,
  .ANALYZE, .PRAGMA, .MATERIALIZED, .DEFERRED, .DISTINCT, .IS, .UPDATE, .VALUES, .VIRTUAL, .ALWAYS,
  .WHEN, .WHERE, .RECURSIVE, .ABORT, .AFTER, .RENAME, .AND, .DROP, .PARTITION, .AUTOINCR, .TO, .IN,
  .CAST, .COLUMNKW, .COMMIT, .CONFLICT, .JOIN_KW, .CTIME_KW, .CTIME_KW, .CURRENT, .PRECEDING,
  .FAIL, .LAST, .FILTER, .REPLACE, .FIRST, .FOLLOWING, .FROM, .JOIN_KW, .LIMIT, .IF, .ORDER,
  .RESTRICT, .OTHERS, .OVER, .RETURNING, .JOIN_KW, .ROLLBACK, .ROWS, .ROW, .UNBOUNDED, .UNION,
  .USING, .VACUUM, .VIEW, .WINDOW, .DO, .BY, .INITIALLY, .ALL, .PRIMARY]

/-- The text of keyword `i`, as `sqlite3_keyword_name` gives it. -/
def name (i : Nat) : List UInt8 :=
  ((zKWText.drop (aKWOffset.getD i 0)).take (aKWLen.getD i 0)).map fun c => UInt8.ofNat c.toNat

def code (i : Nat) : TK := aKWCode.getD i .ID

end Keyword

/-! ## 2. The search -/

namespace Keyword

/-- `charMap`: ASCII capitals to small letters. -/
def charMap (b : UInt8) : UInt8 := if 0x41 ≤ b ∧ b ≤ 0x5A then b + 0x20 else b

/-- `z[j] & ~0x20`. -/
def clearCase (b : UInt8) : UInt8 := b &&& 0xDF

def hash (z : List UInt8) : Nat :=
  ((charMap (byteAt z 0)).toNat * 4 ^^^ (charMap (byteAt z (z.length - 1))).toNat * 3 ^^^
    z.length) % 127

/-- The numbers on a chain of the table. -/
def chain : Nat → Nat → List Nat
  | 0, _ => []
  | fuel + 1, i => if i = 0 then [] else i :: chain fuel (aKWNext.getD i 0)

def hits (z : List UInt8) (i : Nat) : Bool :=
  aKWLen.getD i 0 == z.length && z.map clearCase == name i

end Keyword

open Keyword in
/-- `keywordCode`, of a word of two letters or more. -/
def keywordCode (z : List UInt8) : TK :=
  match (chain 147 (aKWHash.getD (hash z) 0)).find? (hits z) with
  | some i => code i
  | none => .ID

/-! ## 3. The search through all the words -/

namespace Keyword

/-- An ASCII small letter as a capital. -/
def upper (b : UInt8) : UInt8 := if 0x61 ≤ b ∧ b ≤ 0x7A then b - 0x20 else b

/-- The code of the word that is `z` in capitals. -/
def search (z : List UInt8) : TK :=
  match (List.range' 1 147).find? (fun i => z.map upper == name i) with
  | some i => code i
  | none => .ID

/-- Every chain ends before the fuel does, and holds numbers of keywords. -/
theorem chain_spec : ∀ h < 127, (chain 147 (aKWHash.getD h 0)).length < 147 ∧
    ∀ i ∈ chain 147 (aKWHash.getD h 0), i ∈ List.range' 1 147 := by
  decide +kernel

/-- Every word of the table is found. -/
theorem keywordCode_name : ∀ i ∈ List.range' 1 147, keywordCode (name i) = code i := by
  decide +kernel

theorem clearCase_eq_upper (b : UInt8) : isKeywordByte b = true → clearCase b = upper b :=
  forall_byte (P := fun b => isKeywordByte b = true → clearCase b = upper b) (by decide +kernel) b

theorem charMap_clearCase (b : UInt8) :
    isKeywordByte b = true ∨ b = 0 → charMap (clearCase b) = charMap b :=
  forall_byte (P := fun b => isKeywordByte b = true ∨ b = 0 → charMap (clearCase b) = charMap b)
    (by decide +kernel) b

theorem clearCase_clearCase (b : UInt8) : clearCase (clearCase b) = clearCase b := by
  unfold clearCase
  rw [UInt8.and_assoc]
  rfl

theorem byteAt_map_clearCase (z : List UInt8) (i : Nat) :
    byteAt (z.map clearCase) i = clearCase (byteAt z i) :=
  List.getD_map z 0 clearCase

variable {z : List UInt8}

theorem hash_clearCase (hz : ∀ b ∈ z, isKeywordByte b = true) :
    hash (z.map clearCase) = hash z := by
  have hbyte (i : Nat) : charMap (byteAt (z.map clearCase) i) = charMap (byteAt z i) := by
    rw [byteAt_map_clearCase]
    refine charMap_clearCase _ ?_
    rcases Nat.lt_or_ge i z.length with h | h
    · have hget : byteAt z i = z[i] := List.getD_eq_getElem z 0 h
      exact .inl (hget ▸ hz _ (List.getElem_mem h))
    · exact .inr (Basis.symbol_of_length_le h)
  rw [hash, hash, hbyte, hbyte, List.length_map]

theorem hits_clearCase (z : List UInt8) : hits (z.map clearCase) = hits z := by
  funext i
  rw [hits, hits, List.length_map, List.map_map,
    show clearCase ∘ clearCase = clearCase from funext clearCase_clearCase]

theorem map_clearCase (hz : ∀ b ∈ z, isKeywordByte b = true) :
    z.map clearCase = z.map upper :=
  List.map_congr_left fun b hb => clearCase_eq_upper b (hz b hb)

end Keyword

open Keyword

/-- **The table finds what a search through all the words finds.** -/
theorem keywordCode_eq {z : List UInt8} (hz : ∀ b ∈ z, isKeywordByte b = true) :
    keywordCode z = search z := by
  have hcase : keywordCode z = keywordCode (z.map upper) := by
    rw [← map_clearCase hz]
    unfold keywordCode
    rw [hash_clearCase hz, hits_clearCase]
  unfold search
  split
  · rename_i i hi
    have hname : z.map upper = name i := by simpa using List.find?_some hi
    rw [hcase, hname]
    exact keywordCode_name i (List.mem_of_find?_eq_some hi)
  · rename_i hnone
    unfold keywordCode
    split
    · rename_i i hi
      have hmem := (chain_spec (hash z) (Nat.mod_lt _ (by decide))).2 i
        (List.mem_of_find?_eq_some hi)
      have hhit : z.map clearCase = name i := by
        have h := List.find?_some hi
        simp only [hits, Bool.and_eq_true, beq_iff_eq] at h
        exact h.2
      have hne := List.find?_eq_none.mp hnone i hmem
      rw [map_clearCase hz] at hhit
      exact absurd (by simpa using hhit) hne
    · rfl

/-- A word in mixed case. -/
theorem keywordCode_eq_rollback : keywordCode (utf8 "RollBack") = .ROLLBACK :=
  (keywordCode_eq (by decide +kernel)).trans (by decide +kernel)

end NodeRusqlite.Sqlite
