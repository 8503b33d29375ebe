/-
  File:      NodeRusqlite/Row/PassBack.lean
  Subject:   A value that a query returned, passed back as a parameter.

  The way is `Value::from(ValueRef)`, `env.to_js_value`, `env.from_js_value` and
  `to_sql`. It leads through JavaScript, whose numbers do not say whether they
  were an INTEGER or a REAL: the deserializer offers every number without a
  fractional part as an `i64`.

  * `offer_toJs`: what the deserializer is offered for a value it is given back.
  * **`pass_back_keeps_class_and_content`**: a value comes back as it is, but for
    a REAL without fractional part; in the range of an `i64` that one comes back
    as the INTEGER it equals.
-/
import NodeRusqlite.Params

namespace NodeRusqlite

open Basis (Binary64 Outcome)

/-! ## 1. Through JavaScript -/

/-- A JavaScript value, as far as a `Value` becomes one. -/
inductive Js where
  | null : Js
  | number (f : Binary64) : Js
  | string (s : String) : Js
  | array (items : List Js) : Js

/-- `env.to_js_value(&value)`. -/
def Value.toJs : Value → Js
  | .null => .null
  | .integer i => .number (Binary64.ofInt i.toInt)
  | .real r => .number r
  | .text s => .string s
  | .blob b => .array (b.data.toList.map fun byte => .number (Binary64.ofInt (byte.toNat : Int)))

namespace Js

/-- A number without fractional part is offered as `i64`, any other as `f64`. -/
def offerNumber (f : Binary64) : Item :=
  if f.isIntegral then .int f.asI64.toInt else .float f

mutual

/-- What the deserializer is offered for a JavaScript value. -/
def offer : Js → Item
  | .null => .unit
  | .number f => offerNumber f
  | .string s => .str s
  | .array items => .seq (offerAll items)

def offerAll : List Js → List Item
  | [] => []
  | item :: items => item.offer :: offerAll items

end

theorem offerAll_eq (items : List Js) : offerAll items = items.map offer := by
  induction items with
  | nil => rfl
  | cons item items ih => rw [offerAll, ih, List.map_cons]

end Js

/-- A value of a row, handed to JavaScript and passed back as a parameter. -/
def passBack (stored : ValueRef) : Outcome NapiError Rusqlite.Value := do
  let value ← Value.ofValueRef stored
  let value ← Outcome.ofExcept (decodeElement (.ok value.toJs.offer))
  (Outcome.ofExcept value.toSql).mapErr NapiError.ofRusqlite

/-! ## 2. What comes back -/

/-- NULL, an integer that JavaScript numbers hold exactly, a finite real, UTF-8 text, any blob. -/
def ValueRef.Exact : ValueRef → Prop
  | .null => True
  | .integer i => i.toInt.natAbs ≤ 2 ^ 53 - 1
  | .real r => r.isFinite = true
  | .text s => s.IsValidUTF8
  | .blob _ => True

/-- A small integer is offered as itself. -/
theorem offerNumber_ofInt {n : Int} (h : n.natAbs ≤ 2 ^ 53 - 1) :
    Js.offerNumber (Binary64.ofInt n) = .int n := by
  have hn : n.natAbs < 2 ^ 53 := by omega
  rw [Js.offerNumber, if_pos (Binary64.ofInt_isIntegral hn), Binary64.asI64_ofInt hn,
    Int64.toInt_ofInt_of_le (by omega) (by omega)]

/-- A blob is offered as its bytes. -/
theorem offer_blob (b : ByteArray) : (Value.blob b).toJs.offer =
    .seq (b.data.toList.map fun byte => .int (byte.toNat : Int)) := by
  have hbyte : ∀ byte : UInt8, (Js.number (Binary64.ofInt (byte.toNat : Int))).offer =
      .int (byte.toNat : Int) := by
    intro byte
    have hlt := byte.toNat_lt
    exact offerNumber_ofInt (by omega)
  show Item.seq (Js.offerAll _) = _
  rw [Js.offerAll_eq, List.map_map]
  exact congrArg Item.seq (List.map_congr_left fun byte _ => hbyte byte)

/-- The item offered for a value that comes back stands for that value. -/
theorem offer_meaning {v : Value} (h : (ValueRef.ofOwned v.owned).Exact)
    (hr : ∀ r, v = .real r → r.isIntegral = false) : v.toJs.offer.Meaning v := by
  cases v with
  | null => exact .unit
  | integer i =>
    show (Js.offerNumber _).Meaning _
    rw [offerNumber_ofInt h]
    exact .int i
  | real r =>
    show (Js.offerNumber r).Meaning _
    rw [Js.offerNumber, hr r rfl]
    exact .float r
  | text s => exact .str s
  | blob b =>
    rw [offer_blob]
    exact .seq b.data.toList

/-- Whatever JavaScript passes on, no number of it lies outside `i64`. -/
theorem offer_plain (j : Js) : j.offer.Plain := by
  cases j with
  | number f =>
    show (Js.offerNumber f).Plain
    unfold Js.offerNumber
    split
    · exact ⟨f.asI64.le_toInt, f.asI64.toInt_lt⟩
    · trivial
  | null | string s | array items => trivial

/-- What comes back is what the offered item stands for. -/
theorem passBack_of_meaning {v w : Value} (h : v.toJs.offer.Meaning w) :
    passBack (ValueRef.ofOwned v.owned) = .ok w.owned := by
  have hconv : Value.converted (ValueRef.ofOwned v.owned) = some v :=
    Value.converted_eq_some.mpr rfl
  have hdecode : v.toJs.offer.decode = some w :=
    (v.toJs.offer.decode_meaning_iff.mpr (offer_plain v.toJs) w).mpr h
  have helem : decodeElement (.ok v.toJs.offer) = .ok w := decodeElement_ok.mpr ⟨_, rfl, hdecode⟩
  simp only [passBack, Value.ofValueRef_eq, hconv, Outcome.ok_bind, helem, Outcome.ofExcept_ok,
    Value.toSql_eq]
  rfl

theorem ValueRef.Exact.not_badText {stored : ValueRef} (h : stored.Exact) : ¬ stored.BadText := by
  cases stored with
  | text s => exact not_not_intro h
  | null | integer i | real r | blob b => exact id

/-- A value comes back as it is, unless it is a real without fractional part. -/
theorem passBack_same {stored : ValueRef} (h : stored.Exact)
    (hr : ∀ r, stored = .real r → r.isIntegral = false) :
    ∃ w, passBack stored = .ok w ∧ ValueRef.ofOwned w = stored := by
  obtain ⟨v, hv⟩ := (Value.converted_isSome_iff stored).mpr h.not_badText
  have hstored : stored = ValueRef.ofOwned v.owned := Value.converted_eq_some.mp hv
  subst hstored
  refine ⟨v.owned, passBack_of_meaning (offer_meaning h ?_), rfl⟩
  rintro r rfl
  exact hr r rfl

/-- A real without fractional part is offered as an integer. -/
theorem passBack_integral {r : Binary64} (hi : r.isIntegral = true) :
    passBack (.real r) = .ok (.integer r.asI64) := by
  have hoffer : (Value.real r).toJs.offer = .int r.asI64.toInt := if_pos hi
  have hmeaning : (Value.real r).toJs.offer.Meaning (.integer r.asI64) := by
    rw [hoffer]
    exact .int r.asI64
  exact passBack_of_meaning hmeaning

/-- **A value comes back with its class and content, but for a real without fractional part**: one
    that lies in the range of an `i64` comes back as the integer that is the same number. -/
theorem pass_back_keeps_class_and_content (stored : ValueRef) (h : stored.Exact) :
    ((∀ r, stored = .real r → r.isIntegral = false) →
        ∃ w, passBack stored = .ok w ∧ ValueRef.ofOwned w = stored) ∧
      ∀ r, stored = .real r → r.isIntegral = true → -2 ^ 63 ≤ r.value → r.value < 2 ^ 63 →
        ∃ i : Int64, passBack stored = .ok (.integer i) ∧ (i.toInt : ℚ) = r.value := by
  refine ⟨passBack_same h, ?_⟩
  rintro r rfl hi hlo hhi
  exact ⟨r.asI64, passBack_integral hi, Binary64.asI64_value h hi hlo hhi⟩

/-- `1.5` comes back as it is. -/
theorem pass_back_keeps_one_and_a_half :
    ∃ w, passBack (.real ⟨0x3FF8000000000000⟩) = .ok w ∧
      ValueRef.ofOwned w = .real ⟨0x3FF8000000000000⟩ := by
  refine (pass_back_keeps_class_and_content (.real ⟨0x3FF8000000000000⟩) ?_).1 ?_
  · show Binary64.isFinite ⟨0x3FF8000000000000⟩ = true
    decide
  · rintro r hr
    cases hr
    decide

/-- The real `3.0` comes back as the integer 3. -/
theorem pass_back_turns_three_to_integer :
    (ValueRef.real (Binary64.ofInt 3)).Exact ∧
      passBack (.real (Binary64.ofInt 3)) = .ok (.integer 3) ∧
      ¬ ∃ w, passBack (.real (Binary64.ofInt 3)) = .ok w ∧
        ValueRef.ofOwned w = .real (Binary64.ofInt 3) := by
  have hback : passBack (.real (Binary64.ofInt 3)) = .ok (.integer 3) :=
    passBack_integral (by decide)
  refine ⟨by show Binary64.isFinite _ = true; decide, hback, ?_⟩
  rintro ⟨w, hw, hs⟩
  rw [hback] at hw
  cases hw
  cases hs

end NodeRusqlite
