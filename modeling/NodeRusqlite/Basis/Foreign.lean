/-
  File:      NodeRusqlite/Basis/Foreign.lean
  Subject:   Calling C from Rust: the casts an index goes through, strings that end at
             their first NUL, and the bytes C gives back.

  An `i64` cast to `usize` and then to `c_int` keeps its low 32 bits
  (`asCInt_asUsize`): it is unchanged exactly when it is a `c_int`
  (`asCInt_asUsize_eq_iff`). A `CStr` is a string for Rust exactly when its bytes
  are UTF-8 (`CStr.exists_toStr_iff`).
-/
import NodeRusqlite.Basis.Outcome

namespace Basis

/-! ## Casts between machine integers -/

/-- `c as usize` of an `i64`, on a 64-bit target. -/
def asUsize (c : Int64) : UInt64 := c.toUInt64

/-- `u as c_int` of a `usize`. -/
def asCInt (u : UInt64) : Int32 := u.toUInt32.toInt32

/-- `i as usize` of a `c_int`. -/
def usizeOfCInt (i : Int32) : UInt64 := i.toInt64.toUInt64

/-- `u as i64` of a `usize`. -/
def asI64 (u : UInt64) : Int64 := u.toInt64

theorem asCInt_toInt (u : UInt64) : (asCInt u).toInt = (u.toNat : Int).bmod (2 ^ 32) := by
  have hlow : (u.toUInt32.toNat : Int) = (u.toNat : Int) % (2 ^ 32 : Nat) := by
    rw [UInt64.toNat_toUInt32, Int.natCast_emod]
  show u.toUInt32.toBitVec.toInt = _
  rw [BitVec.toInt_eq_toNat_bmod]
  show (u.toUInt32.toNat : Int).bmod (2 ^ 32) = _
  rw [hlow, Int.emod_bmod]

theorem asUsize_toNat (c : Int64) : ((asUsize c).toNat : Int) = c.toInt % 2 ^ 64 := by
  have hlt := c.toBitVec.isLt
  show (c.toBitVec.toNat : Int) = c.toBitVec.toInt % 2 ^ 64
  rw [BitVec.toInt_eq_toNat_cond]
  split <;> omega

/-- **The two casts keep the low 32 bits of an index.** -/
theorem asCInt_asUsize (c : Int64) : (asCInt (asUsize c)).toInt = c.toInt.bmod (2 ^ 32) := by
  rw [asCInt_toInt, asUsize_toNat, Int.bmod_def, Int.bmod_def]
  omega

/-- An index passes unchanged exactly when it is a `c_int`. -/
theorem asCInt_asUsize_eq_iff (c : Int64) : (asCInt (asUsize c)).toInt = c.toInt ↔
    -2 ^ 31 ≤ c.toInt ∧ c.toInt < 2 ^ 31 := by
  rw [asCInt_asUsize, Int.bmod_def]
  split <;> omega

/-- A count that fits a `c_int` passes unchanged. -/
theorem asCInt_ofNat {n : Nat} (h : n < 2 ^ 31) : (asCInt (UInt64.ofNat n)).toInt = n := by
  have hn : (UInt64.ofNat n).toNat = n := UInt64.toNat_ofNat_of_lt' (by show n < 2 ^ 64; omega)
  rw [asCInt_toInt, hn, Int.bmod_def]
  split <;> omega

/-- A `u32` is read back from the `i32` of its bits. -/
theorem toInt32_inj {a b : UInt32} : a.toInt32 = b.toInt32 ↔ a = b :=
  ⟨fun h => congrArg Int32.toUInt32 h, fun h => congrArg UInt32.toInt32 h⟩

theorem asI64_usizeOfCInt (i : Int32) : asI64 (usizeOfCInt i) = i.toInt64 := rfl

/-! ## Strings that end at a NUL -/

/-- `s.as_bytes().contains(&0)`. -/
def hasNul (s : String) : Bool := s.toByteArray.data.toList.contains 0

/-- The position a `NulError` names. -/
def nulPosition (s : String) : Nat := s.toByteArray.data.toList.idxOf 0

/-- A string that C reads to its end. -/
abbrev CString := { s : String // hasNul s = false }

/-! ## Bytes that are not UTF-8 -/

/-- `core::str::Utf8Error`; `errorLen`: the bytes that are no character, `none` where the text ends
    inside one. -/
structure Utf8Error where
  validUpTo : Nat
  errorLen : Option Nat
  deriving DecidableEq

/-- `impl Display for Utf8Error`. -/
def Utf8Error.display (e : Utf8Error) : String :=
  match e.errorLen with
  | some n => "invalid utf-8 sequence of " ++ toString n ++ " bytes from index " ++
      toString e.validUpTo
  | none => "incomplete utf-8 byte sequence from index " ++ toString e.validUpTo

/-- `utf8_is_cont_byte`. -/
def isContByte (b : UInt8) : Bool := 0x80 ≤ b && b ≤ 0xBF

/-- The bytes that may come second in a character of several. -/
def maySecond (first b : UInt8) : Bool :=
  if first = 0xE0 then 0xA0 ≤ b && b ≤ 0xBF
  else if first = 0xED then 0x80 ≤ b && b ≤ 0x9F
  else if first = 0xF0 then 0x90 ≤ b && b ≤ 0xBF
  else if first = 0xF4 then 0x80 ≤ b && b ≤ 0x8F
  else isContByte b

/-- How many bytes at the front are no character, where no character stands there. -/
def errorLen (b : UInt8) (bs : List UInt8) : Option Nat :=
  if b < 0xC2 || 0xF4 < b then some 1
  else
    match bs with
    | [] => none
    | b₂ :: bs =>
      if !maySecond b b₂ then some 1
      else
        match bs with
        | [] => none
        | b₃ :: bs =>
          if !isContByte b₃ then some 2
          else
            match bs with
            | [] => none
            | _ :: _ => some 3

/-- The character at the front. -/
def firstChar (bytes : List UInt8) : Option Char := bytes.toByteArray.utf8DecodeChar? 0

/-- The error of `from_utf8` for bytes that are not UTF-8; `pos` stand before them. -/
def utf8Error (pos : Nat) (bytes : List UInt8) : Utf8Error :=
  match bytes with
  | [] => ⟨pos, none⟩
  | b :: bs =>
    match firstChar (b :: bs) with
    | some c => utf8Error (pos + c.utf8Size) (bs.drop (c.utf8Size - 1))
    | none => ⟨pos, errorLen b bs⟩
termination_by bytes.length
decreasing_by simp only [List.length_drop, List.length_cons]; omega

/-- The characters of `String::from_utf8_lossy`: U+FFFD for what is none. -/
def lossyChars (bytes : List UInt8) : List Char :=
  match bytes with
  | [] => []
  | b :: bs =>
    match firstChar (b :: bs) with
    | some c => c :: lossyChars (bs.drop (c.utf8Size - 1))
    | none => '\uFFFD' :: lossyChars (bs.drop ((errorLen b bs).getD (bs.length + 1) - 1))
termination_by bytes.length
decreasing_by all_goals simp only [List.length_drop, List.length_cons]; omega

example : lossyChars [0x61, 0xFF, 0xE2, 0x82, 0x62] = ['a', '\uFFFD', '\uFFFD', 'b'] := by
  decide +kernel

/-! ## Strings that C gave -/

/-- The bytes of a string that C gave. -/
structure CStr where
  bytes : ByteArray
  noNul : bytes.data.toList.contains 0 = false
  deriving DecidableEq

theorem fromUTF8?_toByteArray (s : String) : String.fromUTF8? s.toByteArray = some s := by
  unfold String.fromUTF8?
  rw [dif_pos s.isValidUTF8]
  rfl

namespace CStr

/-- The bytes of a Rust string. -/
def ofString (s : CString) : CStr := ⟨s.val.toByteArray, s.property⟩

/-- `CStr::to_str`; `none`: the bytes are not UTF-8. -/
def toStr (s : CStr) : Option String := String.fromUTF8? s.bytes

@[simp] theorem toStr_ofString (s : CString) : (ofString s).toStr = some s.val :=
  fromUTF8?_toByteArray s.val

theorem exists_toStr_iff (s : CStr) : (∃ t, s.toStr = some t) ↔ s.bytes.IsValidUTF8 := by
  unfold toStr String.fromUTF8?
  by_cases h : s.bytes.IsValidUTF8
  · simp [h]
  · simp [h]

/-- What `to_str` gives has these bytes. -/
theorem eq_ofString_of_toStr {s : CStr} {t : String} (h : s.toStr = some t) :
    ∃ ht, s = ofString ⟨t, ht⟩ := by
  obtain ⟨bytes, hnul⟩ := s
  unfold toStr String.fromUTF8? at h
  split at h
  · cases h
    exact ⟨hnul, rfl⟩
  · cases h

/-- `CStr::to_str`, with its error. -/
def toStrOrErr (s : CStr) : Except Utf8Error String :=
  match s.toStr with
  | some t => .ok t
  | none => .error (utf8Error 0 s.bytes.data.toList)

/-- `CStr::to_string_lossy`. -/
def toStringLossy (s : CStr) : String :=
  match s.toStr with
  | some t => t
  | none => String.ofList (lossyChars s.bytes.data.toList)

theorem toStringLossy_ofString (s : CString) : (ofString s).toStringLossy = s.val := by
  rw [toStringLossy, toStr_ofString]

/-- `s.to_str().expect(msg)`. -/
def expectStr {ε : Type} (msg : String) (s : CStr) : Outcome ε String :=
  match s.toStr with
  | some t => .ok t
  | none => .panic msg

theorem expectStr_eq_ok_iff {ε : Type} {msg : String} {s : CStr} {t : String} :
    (s.expectStr msg : Outcome ε String) = .ok t ↔ s.toStr = some t := by
  unfold expectStr
  cases s.toStr with
  | some t' => simp
  | none => simp

end CStr

example : hasNul ":name" = false ∧ hasNul "a\x00b" = true ∧ nulPosition "a\x00b" = 1 := by decide

end Basis
