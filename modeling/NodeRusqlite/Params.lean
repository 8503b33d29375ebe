/-
  File:      NodeRusqlite/Params.lean
  Subject:   Decoding a JavaScript parameter array into a list of `Value`s.

  `Value` derives `Deserialize` as an untagged enum: the input is buffered and
  the variants are tried in the order of their declaration, so the class an
  input lands in is the first one whose decoder takes it.

  * `Meaning`: what each input stands for.
  * **`decode_meaning_iff`**: the decoder follows `Meaning` on every input but
    booleans (no variant takes them), byte buffers (the `String` variant takes
    those that are UTF-8, no variant takes the rest) and integers outside `i64`
    (the `f64` variant takes them, rounded).
  * `decodeParams_ok_iff`: an array decodes element by element, in order.
-/
import NodeRusqlite.Value

namespace NodeRusqlite

open Basis (Binary64)

/-! ## 1. What the deserializer offers -/

/-- An input as serde buffers it. -/
inductive Item where
  | unit : Item
  | bool (b : Bool) : Item
  | int (n : Int) : Item
  | float (f : Binary64) : Item
  | str (s : String) : Item
  | bytes (b : ByteArray) : Item
  | seq (items : List Item) : Item
  | map (entries : List (Item × Item)) : Item

/-- A JavaScript array: each element is an input, or one the deserializer cannot read. -/
abbrev JsArray := List (Except NapiError Item)

namespace Item

/-! ## 2. The variants of `Value`, in the order of their declaration -/

/-- `Value::Null`. -/
def asNull : Item → Option Value
  | .unit => some .null
  | _ => none

/-- `Value::Integer(i64)`. -/
def asInteger : Item → Option Value
  | .int n => if -2 ^ 63 ≤ n ∧ n < 2 ^ 63 then some (.integer (Int64.ofInt n)) else none
  | _ => none

/-- `Value::Real(f64)`: any number. -/
def asReal : Item → Option Value
  | .int n => some (.real (Binary64.ofInt n))
  | .float f => some (.real f)
  | _ => none

/-- `Value::Text(String)`: a string, or a byte buffer that is UTF-8. -/
def asText : Item → Option Value
  | .str s => some (.text s)
  | .bytes b => (String.fromUTF8? b).map .text
  | _ => none

/-- `u8`. -/
def asU8 : Item → Option UInt8
  | .int n => if 0 ≤ n ∧ n ≤ 255 then some (UInt8.ofNat n.toNat) else none
  | _ => none

/-- `Value::Blob(Vec<u8>)`: a sequence of bytes. -/
def asBlob : Item → Option Value
  | .seq items => (items.mapM asU8).map fun bytes => .blob ⟨bytes.toArray⟩
  | _ => none

/-- The derived `Deserialize for Value`. -/
def decode (item : Item) : Option Value :=
  item.asNull <|> item.asInteger <|> item.asReal <|> item.asText <|> item.asBlob

/-- Serde's message when no variant takes the input. -/
def noVariant : NapiError :=
  ⟨.invalidArg, "data did not match any variant of untagged enum Value"⟩

end Item

/-- One element of the array. -/
def decodeElement (e : Except NapiError Item) : Except NapiError Value :=
  match e with
  | .error e => .error e
  | .ok item =>
    match item.decode with
    | some v => .ok v
    | none => .error Item.noVariant

/-- `env.from_js_value::<Vec<Value>, _>(params)`. -/
def decodeParams (params : JsArray) : Except NapiError (List Value) := params.mapM decodeElement

/-! ## 3. What an input stands for -/

/-- The value an input stands for: its class and its content. -/
inductive Item.Meaning : Item → Value → Prop where
  | unit : Meaning .unit .null
  | bool (b : Bool) : Meaning (.bool b) (.integer (if b then 1 else 0))
  | int (i : Int64) : Meaning (.int i.toInt) (.integer i)
  | float (f : Binary64) : Meaning (.float f) (.real f)
  | str (s : String) : Meaning (.str s) (.text s)
  | bytes (b : ByteArray) : Meaning (.bytes b) (.blob b)
  | seq (bytes : List UInt8) :
      Meaning (.seq (bytes.map fun b => .int (b.toNat : Int))) (.blob ⟨bytes.toArray⟩)

/-- Neither a boolean, nor a byte buffer, nor an integer outside `i64`. -/
def Item.Plain : Item → Prop
  | .bool _ => False
  | .bytes _ => False
  | .int n => -2 ^ 63 ≤ n ∧ n < 2 ^ 63
  | _ => True

namespace Item

theorem asU8_eq_some {item : Item} {b : UInt8} :
    item.asU8 = some b ↔ item = .int (b.toNat : Int) := by
  constructor
  · intro h
    cases item with
    | int n =>
      simp only [asU8] at h
      split at h
      · rename_i hn
        cases h
        rw [UInt8.toNat_ofNat_of_lt' (by show n.toNat < 256; omega), Int.toNat_of_nonneg hn.1]
      · cases h
    | _ => cases h
  · rintro rfl
    have hb := b.toNat_lt
    simp only [asU8, Int.toNat_natCast, UInt8.ofNat_toNat]
    rw [if_pos (by omega)]

theorem mapM_asU8_eq_some {items : List Item} {bytes : List UInt8} :
    items.mapM asU8 = some bytes ↔ items = bytes.map fun b => .int (b.toNat : Int) := by
  simp only [Basis.mapM_eq_some_iff, asU8_eq_some]
  rw [← List.forall₂_map_right_iff (R := Eq), List.forall₂_eq_eq_eq]

theorem decode_int (n : Int) : (Item.int n).decode =
    if -2 ^ 63 ≤ n ∧ n < 2 ^ 63 then some (.integer (Int64.ofInt n))
    else some (.real (Binary64.ofInt n)) := by
  show ((if _ then _ else none) <|> some (Value.real (Binary64.ofInt n))) = _
  by_cases h : -2 ^ 63 ≤ n ∧ n < 2 ^ 63
  · rw [if_pos h, if_pos h]
    rfl
  · rw [if_neg h, if_neg h]
    rfl

theorem decode_bytes (b : ByteArray) : (Item.bytes b).decode = (String.fromUTF8? b).map .text := by
  show ((String.fromUTF8? b).map Value.text <|> none) = _
  cases String.fromUTF8? b <;> rfl

theorem decode_seq (items : List Item) : (Item.seq items).decode =
    (items.mapM asU8).map fun bytes => .blob ⟨bytes.toArray⟩ := rfl

theorem meaning_int {n : Int} {v : Value} :
    Meaning (.int n) v ↔ (-2 ^ 63 ≤ n ∧ n < 2 ^ 63) ∧ v = .integer (Int64.ofInt n) := by
  refine ⟨fun h => ?_, fun h => ?_⟩
  · cases h with
    | int i => exact ⟨⟨i.le_toInt, i.toInt_lt⟩, by rw [Int64.ofInt_toInt]⟩
  · obtain ⟨⟨hlo, hhi⟩, rfl⟩ := h
    have h := Meaning.int (Int64.ofInt n)
    rw [Int64.toInt_ofInt_of_le hlo hhi] at h
    exact h

theorem meaning_seq {items : List Item} {v : Value} :
    Meaning (.seq items) v ↔
      ∃ bytes, items.mapM asU8 = some bytes ∧ v = .blob ⟨bytes.toArray⟩ := by
  refine ⟨fun h => ?_, fun h => ?_⟩
  · cases h with
    | seq bytes => exact ⟨bytes, mapM_asU8_eq_some.mpr rfl, rfl⟩
  · obtain ⟨bytes, hm, rfl⟩ := h
    rw [mapM_asU8_eq_some.mp hm]
    exact .seq bytes

/-- **The decoder gives an input its meaning exactly when the input is plain.** -/
theorem decode_meaning_iff (item : Item) :
    (∀ v, item.decode = some v ↔ Meaning item v) ↔ item.Plain := by
  cases item with
  | unit =>
    refine iff_of_true (fun v => ⟨fun h => ?_, fun h => ?_⟩) trivial
    · cases h
      exact .unit
    · cases h
      rfl
  | bool b => exact iff_of_false (fun h => nomatch (h _).mpr (.bool b)) id
  | int n =>
    by_cases hn : -2 ^ 63 ≤ n ∧ n < 2 ^ 63
    · refine iff_of_true (fun v => ?_) hn
      rw [decode_int, if_pos hn, meaning_int, Option.some.injEq]
      exact ⟨fun h => ⟨hn, h.symm⟩, fun h => h.2.symm⟩
    · refine iff_of_false (fun h => hn ?_) hn
      have hreal : (Item.int n).decode = some (.real (Binary64.ofInt n)) := by
        rw [decode_int, if_neg hn]
      exact (meaning_int.mp ((h _).mp hreal)).1
  | float f =>
    refine iff_of_true (fun v => ⟨fun h => ?_, fun h => ?_⟩) trivial
    · cases h
      exact .float f
    · cases h
      rfl
  | str s =>
    refine iff_of_true (fun v => ⟨fun h => ?_, fun h => ?_⟩) trivial
    · cases h
      exact .str s
    · cases h
      rfl
  | bytes b =>
    refine iff_of_false (fun h => ?_) id
    have hb := (h _).mpr (.bytes b)
    rw [decode_bytes, Option.map_eq_some_iff] at hb
    obtain ⟨s, _, hs⟩ := hb
    cases hs
  | seq items =>
    refine iff_of_true (fun v => ?_) trivial
    rw [decode_seq, meaning_seq, Option.map_eq_some_iff]
    exact ⟨fun ⟨l, hm, hv⟩ => ⟨l, hm, hv.symm⟩, fun ⟨l, hm, hv⟩ => ⟨l, hm, hv.symm⟩⟩
  | map entries => exact iff_of_true (fun v => ⟨nofun, nofun⟩) trivial

end Item

/-! ## 4. Arrays -/

theorem decodeElement_ok {e : Except NapiError Item} {v : Value} :
    decodeElement e = .ok v ↔ ∃ item, e = .ok item ∧ item.decode = some v := by
  cases e with
  | error e => simp [decodeElement]
  | ok item =>
    cases h : item.decode with
    | none => simp [decodeElement, h]
    | some w => simp [decodeElement, h]

/-- **An array decodes element by element**, and the result keeps length and order. -/
theorem decodeParams_ok_iff (params : JsArray) (vs : List Value) :
    decodeParams params = .ok vs ↔
      List.Forall₂ (fun e v => ∃ item, e = .ok item ∧ item.decode = some v) params vs := by
  rw [decodeParams, Basis.mapM_eq_ok_iff]
  simp only [decodeElement_ok]

/-- An array decodes exactly when each of its elements does. -/
theorem decodeParams_isOk_iff (params : JsArray) :
    (∃ vs, decodeParams params = .ok vs) ↔
      ∀ e ∈ params, ∃ item v, e = .ok item ∧ item.decode = some v := by
  simp only [decodeParams_ok_iff]
  rw [Basis.exists_forall₂_iff]
  refine forall₂_congr fun e _ => ?_
  exact exists_comm

/-- An input that decodes to a given value. -/
def Item.ofValue : Value → Item
  | .null => .unit
  | .integer i => .int i.toInt
  | .real r => .float r
  | .text s => .str s
  | .blob b => .seq (b.data.toList.map fun byte => .int (byte.toNat : Int))

theorem Item.decode_ofValue (v : Value) : (Item.ofValue v).decode = some v := by
  have hmeaning : (Item.ofValue v).Meaning v := by
    cases v with
    | null => exact .unit
    | integer i => exact .int i
    | real r => exact .float r
    | text s => exact .str s
    | blob b => exact .seq b.data.toList
  have hplain : (Item.ofValue v).Plain := by
    cases v with
    | integer i => exact ⟨i.le_toInt, i.toInt_lt⟩
    | null | real r | text s | blob b => trivial
  exact ((Item.decode_meaning_iff _).mpr hplain v).mpr hmeaning

/-- Every list of values is what some array decodes to. -/
theorem exists_decodeParams (vs : List Value) : ∃ params, decodeParams params = .ok vs := by
  refine ⟨vs.map fun v => .ok (Item.ofValue v), ?_⟩
  rw [decodeParams_ok_iff, List.forall₂_map_left_iff, List.forall₂_same]
  exact fun v _ => ⟨_, rfl, Item.decode_ofValue v⟩

/-! ## 5. Decoding keeps class and content -/

/-- **Decoding keeps class and content exactly on plain inputs**, and an array decodes when all
    its elements do, in order. -/
theorem decoding_keeps_class_and_content (item : Item) (params : JsArray) :
    ((∀ v, item.decode = some v ↔ Item.Meaning item v) ↔ item.Plain) ∧
      ((∃ vs, decodeParams params = .ok vs) ↔
        ∀ e ∈ params, ∃ item v, e = .ok item ∧ item.decode = some v) ∧
      ∀ vs, decodeParams params = .ok vs ↔
        List.Forall₂ (fun e v => ∃ item, e = .ok item ∧ item.decode = some v) params vs :=
  ⟨item.decode_meaning_iff, decodeParams_isOk_iff params, decodeParams_ok_iff params⟩

/-- `true` stands for 1, and is rejected. -/
theorem decoding_rejects_true :
    (Item.bool true).decode = none ∧
      ¬ ∀ v, (Item.bool true).decode = some v ↔ Item.Meaning (.bool true) v :=
  ⟨rfl, fun h => nomatch (h (.integer 1)).mpr (.bool true)⟩

end NodeRusqlite
