/-
  File:      NodeRusqlite/Basis/AsciiCase.lean
  Subject:   Comparing names without regard to ASCII case, byte by byte.
-/
import Mathlib

namespace Basis

/-- `u8::to_ascii_lowercase`. -/
def toAsciiLowercase (b : UInt8) : UInt8 := if 0x41 ≤ b ∧ b ≤ 0x5A then b ||| 0x20 else b

/-- `<[u8]>::eq_ignore_ascii_case`. -/
def eqIgnoreAsciiCase (a b : ByteArray) : Bool :=
  a.data.toList.map toAsciiLowercase == b.data.toList.map toAsciiLowercase

theorem eqIgnoreAsciiCase_iff (a b : ByteArray) : eqIgnoreAsciiCase a b = true ↔
    a.data.toList.map toAsciiLowercase = b.data.toList.map toAsciiLowercase := beq_iff_eq

@[simp] theorem eqIgnoreAsciiCase_refl (a : ByteArray) : eqIgnoreAsciiCase a a = true :=
  (eqIgnoreAsciiCase_iff a a).mpr rfl

theorem eqIgnoreAsciiCase_comm (a b : ByteArray) :
    eqIgnoreAsciiCase a b = eqIgnoreAsciiCase b a := by
  rw [Bool.eq_iff_iff, eqIgnoreAsciiCase_iff, eqIgnoreAsciiCase_iff]
  exact eq_comm

theorem eqIgnoreAsciiCase_trans (a b c : ByteArray) (hab : eqIgnoreAsciiCase a b = true)
    (hbc : eqIgnoreAsciiCase b c = true) : eqIgnoreAsciiCase a c = true :=
  (eqIgnoreAsciiCase_iff a c).mpr
    (((eqIgnoreAsciiCase_iff a b).mp hab).trans ((eqIgnoreAsciiCase_iff b c).mp hbc))

/-- Two names are equal ignoring ASCII case. -/
def sameName (a b : String) : Bool := eqIgnoreAsciiCase a.toByteArray b.toByteArray

example : sameName "userId" "USERID" = true ∧ sameName "userId" "user_id" = false := by decide

@[simp] theorem sameName_refl (a : String) : sameName a a = true := eqIgnoreAsciiCase_refl _

theorem sameName_comm (a b : String) : sameName a b = sameName b a := eqIgnoreAsciiCase_comm _ _

theorem sameName_trans (a b c : String) (hab : sameName a b = true) (hbc : sameName b c = true) :
    sameName a c = true :=
  eqIgnoreAsciiCase_trans _ _ _ hab hbc

end Basis
