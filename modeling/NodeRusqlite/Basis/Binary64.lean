/-
  File:      NodeRusqlite/Basis/Binary64.lean
  Subject:   IEEE 754 binary64 numbers by their bit pattern: the rational a number stands
             for, the conversion of an integer to the nearest one (ties to even), as
             `n as f64` does it, and the way back, `f as i64`.

  * `isIntegral_iff`: `f.trunc() == f` exactly when the number is an integer.
  * **`asI64_ofInt`**: an integer below `2 ^ 53` in magnitude comes back from its number.
  * `asI64_value`: in range, an integral number comes back as the integer it is.
-/
import Mathlib

namespace Basis

/-- A binary64 number, by its 64 bits. -/
structure Binary64 where
  bits : UInt64
  deriving DecidableEq, Repr

namespace Binary64

/-- All exponent bits set and a fraction that is not zero. -/
def isNaN (f : Binary64) : Bool :=
  decide (0x7FF0000000000000 < (f.bits &&& 0x7FFFFFFFFFFFFFFF))

/-- `n / 2 ^ k` rounded to the nearest integer, a tie to the even one. -/
def roundHalfEven (n k : Nat) : Nat :=
  let q := n / 2 ^ k
  let r := 2 * (n % 2 ^ k)
  if r < 2 ^ k ∨ (r = 2 ^ k ∧ q % 2 = 0) then q else q + 1

/-- The bits of the number nearest to `n`, without the sign. -/
def magnitude (n : Nat) : Nat :=
  if n = 0 then 0
  else
    let e := n.log2
    let m := if e ≤ 52 then n * 2 ^ (52 - e) else roundHalfEven n (e - 52)
    -- `m` carries the leading one: adding it to the exponent field adds one to the exponent,
    -- and a mantissa that rounds up to `2 ^ 53` adds one more; past the range is infinity
    min ((e + 1022) * 2 ^ 52 + m) 0x7FF0000000000000

/-- The number nearest to `n`. -/
def ofInt (n : Int) : Binary64 :=
  ⟨UInt64.ofNat ((if n < 0 then 2 ^ 63 else 0) + magnitude n.natAbs)⟩

example : ofInt 0 = ⟨0⟩ ∧ ofInt (-1) = ⟨0xBFF0000000000000⟩ := by decide

/-- `2 ^ 53 + 1` lies between two numbers, the even one is `2 ^ 53`. -/
example : ofInt (2 ^ 53 + 1) = ofInt (2 ^ 53) := by decide

/-! ## The fields, and the rational they stand for -/

/-- The sign bit. -/
def sign (f : Binary64) : Bool := decide (2 ^ 63 ≤ f.bits.toNat)

/-- The exponent field. -/
def exponent (f : Binary64) : Nat := f.bits.toNat / 2 ^ 52 % 2 ^ 11

/-- The fraction field. -/
def fraction (f : Binary64) : Nat := f.bits.toNat % 2 ^ 52

/-- Neither infinite nor NaN. -/
def isFinite (f : Binary64) : Bool := decide (f.exponent < 2047)

/-- The significand as an integer: the fraction field behind its leading bit. -/
def significand (f : Binary64) : Nat :=
  if f.exponent = 0 then f.fraction else 2 ^ 52 + f.fraction

/-- The magnitude is `numerator / denominator`; one of the two powers of two is 1. -/
def numerator (f : Binary64) : Nat := f.significand * 2 ^ (max f.exponent 1 - 1075)

def denominator (f : Binary64) : Nat := 2 ^ (1075 - max f.exponent 1)

/-- The rational a finite number stands for. -/
def value (f : Binary64) : ℚ := (if f.sign then -1 else 1) * (f.numerator / f.denominator)

/-- The number without its fractional part. -/
def truncated (f : Binary64) : Int :=
  (if f.sign then -1 else 1) * (f.numerator / f.denominator : Nat)

/-- `f.trunc() == f`. -/
def isIntegral (f : Binary64) : Bool := !f.isNaN && f.numerator % f.denominator == 0

/-- `f as i64`: NaN is 0, what lies outside `i64` is its nearest end. -/
def asI64 (f : Binary64) : Int64 :=
  if f.isNaN then 0 else Int64.ofInt (max (-2 ^ 63) (min f.truncated (2 ^ 63 - 1)))

example : (ofInt (-3)).asI64 = -3 ∧ (ofInt (-3)).isIntegral = true := by decide

theorem denominator_pos (f : Binary64) : 0 < f.denominator := Nat.two_pow_pos _

theorem isNaN_of_isFinite {f : Binary64} (h : f.isFinite = true) : f.isNaN = false := by
  have hmod : (f.bits &&& 0x7FFFFFFFFFFFFFFF).toNat = f.bits.toNat % 2 ^ 63 := by
    rw [UInt64.toNat_and]
    exact Nat.and_two_pow_sub_one_eq_mod f.bits.toNat 63
  have he : f.bits.toNat / 2 ^ 52 % 2 ^ 11 < 2047 := of_decide_eq_true h
  refine decide_eq_false ?_
  rw [UInt64.lt_iff_toNat_lt, hmod]
  show ¬ 9218868437227405312 < f.bits.toNat % 2 ^ 63
  omega

/-- **No fractional part: the number is an integer**, and `truncated` is it. -/
theorem isIntegral_iff {f : Binary64} (h : f.isFinite = true) :
    f.isIntegral = true ↔ f.value = f.truncated := by
  have hd : (f.denominator : ℚ) ≠ 0 := Nat.cast_ne_zero.mpr f.denominator_pos.ne'
  have hq : f.numerator % f.denominator = 0 ↔
      (f.numerator : ℚ) / f.denominator = (f.numerator / f.denominator : Nat) := by
    rw [div_eq_iff hd, ← Nat.cast_mul, Nat.cast_inj]
    have hdiv := Nat.div_add_mod' f.numerator f.denominator
    omega
  have hs : ((if f.sign then -1 else 1 : Int) : ℚ) = if f.sign then -1 else 1 := by
    split <;> simp
  have hs0 : (if f.sign then -1 else 1 : ℚ) ≠ 0 := by split <;> simp
  rw [value, truncated, Int.cast_mul, Int.cast_natCast, hs, mul_right_inj' hs0, ← hq]
  simp [isIntegral, isNaN_of_isFinite h]

/-! ## An integer below `2 ^ 53` -/

section OfInt

variable {n : Int} (hn : n.natAbs < 2 ^ 53)
include hn

/-- The significand, shifted up to its leading bit. -/
theorem log2_le_and_shifted (h0 : n ≠ 0) : n.natAbs.log2 ≤ 52 ∧
    2 ^ 52 ≤ n.natAbs * 2 ^ (52 - n.natAbs.log2) ∧
      n.natAbs * 2 ^ (52 - n.natAbs.log2) < 2 ^ 53 := by
  have ha : n.natAbs ≠ 0 := Int.natAbs_ne_zero.mpr h0
  have hlog : n.natAbs.log2 ≤ 52 := by
    have := (Nat.log2_lt ha).mpr hn
    omega
  have hlo : 2 ^ n.natAbs.log2 ≤ n.natAbs := Nat.log2_self_le ha
  have hhi : n.natAbs < 2 ^ (n.natAbs.log2 + 1) := Nat.lt_log2_self
  refine ⟨hlog, ?_, ?_⟩
  · calc 2 ^ 52 = 2 ^ n.natAbs.log2 * 2 ^ (52 - n.natAbs.log2) := by
          rw [← Nat.pow_add, Nat.add_sub_cancel' hlog]
      _ ≤ _ := Nat.mul_le_mul_right _ hlo
  · calc n.natAbs * 2 ^ (52 - n.natAbs.log2)
        < 2 ^ (n.natAbs.log2 + 1) * 2 ^ (52 - n.natAbs.log2) :=
          Nat.mul_lt_mul_of_pos_right hhi (Nat.two_pow_pos _)
      _ = 2 ^ 53 := by
          rw [← Nat.pow_add]
          congr 1
          omega

theorem ofInt_bits (h0 : n ≠ 0) : (ofInt n).bits.toNat = (if n < 0 then 2 ^ 63 else 0) +
    ((n.natAbs.log2 + 1022) * 2 ^ 52 + n.natAbs * 2 ^ (52 - n.natAbs.log2)) := by
  obtain ⟨hlog, hlo, hhi⟩ := log2_le_and_shifted hn h0
  have hm : magnitude n.natAbs =
      (n.natAbs.log2 + 1022) * 2 ^ 52 + n.natAbs * 2 ^ (52 - n.natAbs.log2) := by
    simp only [magnitude, if_neg (Int.natAbs_ne_zero.mpr h0), if_pos hlog]
    omega
  rw [ofInt, hm]
  refine UInt64.toNat_ofNat_of_lt' ?_
  show _ < 2 ^ 64
  split <;> omega

/-- The fields of a number made from an integer. -/
theorem ofInt_fields (h0 : n ≠ 0) : (ofInt n).sign = decide (n < 0) ∧
    (ofInt n).exponent = n.natAbs.log2 + 1023 ∧
      (ofInt n).fraction = n.natAbs * 2 ^ (52 - n.natAbs.log2) - 2 ^ 52 := by
  obtain ⟨hlog, hlo, hhi⟩ := log2_le_and_shifted hn h0
  have hbits := ofInt_bits hn h0
  by_cases hneg : n < 0
  · rw [if_pos hneg] at hbits
    simp only [sign, exponent, fraction, hneg, decide_true]
    refine ⟨decide_eq_true ?_, ?_, ?_⟩ <;> omega
  · rw [if_neg hneg] at hbits
    simp only [sign, exponent, fraction, hneg, decide_false]
    refine ⟨decide_eq_false ?_, ?_, ?_⟩ <;> omega

theorem ofInt_isFinite : (ofInt n).isFinite = true := by
  by_cases h0 : n = 0
  · rw [h0]
    decide
  · obtain ⟨hlog, _⟩ := log2_le_and_shifted hn h0
    refine decide_eq_true ?_
    rw [(ofInt_fields hn h0).2.1]
    omega

theorem ofInt_sign : (ofInt n).sign = decide (n < 0) := by
  by_cases h0 : n = 0
  · rw [h0]
    decide
  · exact (ofInt_fields hn h0).1

theorem ofInt_numerator : (ofInt n).numerator = n.natAbs * (ofInt n).denominator := by
  by_cases h0 : n = 0
  · have hsig : (ofInt 0).significand = 0 := by decide
    rw [h0, numerator, hsig, Nat.zero_mul, Int.natAbs_zero, Nat.zero_mul]
  · obtain ⟨hlog, hlo, _⟩ := log2_le_and_shifted hn h0
    obtain ⟨_, he, hf⟩ := ofInt_fields hn h0
    have hsig : (ofInt n).significand = n.natAbs * 2 ^ (52 - n.natAbs.log2) := by
      rw [significand, he, hf, if_neg (by omega)]
      omega
    have hup : max (n.natAbs.log2 + 1023) 1 - 1075 = 0 := by omega
    have hdown : 1075 - max (n.natAbs.log2 + 1023) 1 = 52 - n.natAbs.log2 := by omega
    rw [numerator, denominator, hsig, he, hup, hdown, Nat.pow_zero, Nat.mul_one]

theorem ofInt_truncated : (ofInt n).truncated = n := by
  rw [truncated, ofInt_numerator hn, Nat.mul_div_cancel _ (denominator_pos _), ofInt_sign hn]
  by_cases hneg : n < 0
  · rw [decide_eq_true hneg, if_pos rfl]
    omega
  · rw [decide_eq_false hneg, if_neg Bool.false_ne_true]
    omega

theorem ofInt_isIntegral : (ofInt n).isIntegral = true := by
  rw [isIntegral, ofInt_numerator hn, Nat.mul_mod_left, isNaN_of_isFinite (ofInt_isFinite hn)]
  rfl

/-- **An integer below `2 ^ 53` in magnitude comes back from its number.** -/
theorem asI64_ofInt : (ofInt n).asI64 = Int64.ofInt n := by
  have hclamp : max (-2 ^ 63) (min n (2 ^ 63 - 1)) = n := by omega
  rw [asI64, isNaN_of_isFinite (ofInt_isFinite hn), ofInt_truncated hn, hclamp]
  rfl

end OfInt

/-- In range `as i64` keeps an integral number. -/
theorem asI64_value {f : Binary64} (hf : f.isFinite = true) (hi : f.isIntegral = true)
    (hlo : -2 ^ 63 ≤ f.value) (hhi : f.value < 2 ^ 63) : (f.asI64.toInt : ℚ) = f.value := by
  rw [(isIntegral_iff hf).mp hi] at hlo hhi ⊢
  have hlo : -2 ^ 63 ≤ f.truncated := by
    rw [← Int.cast_le (R := ℚ)]
    push_cast
    exact hlo
  have hhi : f.truncated < 2 ^ 63 := by
    rw [← Int.cast_lt (R := ℚ)]
    push_cast
    exact hhi
  have hclamp : max (-2 ^ 63) (min f.truncated (2 ^ 63 - 1)) = f.truncated := by omega
  rw [asI64, isNaN_of_isFinite hf, if_neg Bool.false_ne_true, hclamp,
    Int64.toInt_ofInt_of_le hlo hhi]

end Binary64

end Basis
