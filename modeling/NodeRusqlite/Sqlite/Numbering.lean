/-
  File:      NodeRusqlite/Sqlite/Numbering.lean
  Subject:   The numbers SQLite gives to the parameters of a text.

  While it parses, SQLite numbers the tokens `?`, `?NNN`, `:aaa`, `@aaa`, `$aaa`
  and `#aaa` in their order, and keeps a list of the names and their numbers.
  A failed allocation is left out.

  * `Sound`: what the list of names keeps; `assign_sound` is its step lemma.
  * `Finds`: the number of a parameter can be found again in the list.
  * **`numbering_sound`**: what `Header` takes for granted holds of every text that
    is parsed.
-/
import Mathlib.Data.List.Nodup
import NodeRusqlite.Sqlite.Token

namespace NodeRusqlite.Sqlite

/-! ## 1. The list of names -/

/-- `VList`: names and their numbers, the first added first. -/
abbrev VList := List (List UInt8 × Nat)

/-- `sqlite3VListAdd`. -/
def sqlite3VListAdd (pIn : VList) (zName : List UInt8) (iVal : Nat) : VList :=
  pIn ++ [(zName, iVal)]

/-- `sqlite3VListNumToName`. -/
def sqlite3VListNumToName (pIn : VList) (iVal : Nat) : Option (List UInt8) :=
  (pIn.find? fun entry => entry.2 == iVal).map Prod.fst

/-- `sqlite3VListNameToNum`: 0 when there is no such name. -/
def sqlite3VListNameToNum (pIn : VList) (zName : List UInt8) : Nat :=
  ((pIn.find? fun entry => entry.1 == zName).map Prod.snd).getD 0

/-- The value of a run of decimal digits. -/
def digitsValue (w : List UInt8) : Nat := w.foldl (fun v b => v * 10 + (b - '0'.toUInt8).toNat) 0

/-- `sqlite3Atoi64`, of a run of decimal digits: `none` when it does not fit. -/
def sqlite3Atoi64 (w : List UInt8) : Option Nat :=
  if digitsValue w ≤ 0x7FFFFFFFFFFFFFFF then some (digitsValue w) else none

/-! ## 2. Numbering -/

/-- What `Parse` knows of the parameters. -/
structure Numbering where
  nVar : Nat
  pVList : VList
  deriving DecidableEq

namespace Numbering

/-- Before the first parameter. -/
def start : Numbering := ⟨0, []⟩

/-- `?NNN`. -/
def assignNumber (limit : Nat) (z : List UInt8) (p : Numbering) : Except String (Nat × Numbering) :=
  match sqlite3Atoi64 (z.drop 1) with
  | some i =>
    if i < 1 ∨ limit < i then
      .error ("variable number must be between ?1 and ?" ++ toString limit)
    else if p.nVar < i then .ok (i, ⟨i, sqlite3VListAdd p.pVList z i⟩)
    else if sqlite3VListNumToName p.pVList i = none then
      .ok (i, ⟨p.nVar, sqlite3VListAdd p.pVList z i⟩)
    else .ok (i, p)
  | none => .error ("variable number must be between ?1 and ?" ++ toString limit)

/-- `:aaa`, `@aaa`, `$aaa` and `#aaa`. -/
def assignName (z : List UInt8) (p : Numbering) : Nat × Numbering :=
  if sqlite3VListNameToNum p.pVList z = 0 then
    (p.nVar + 1, ⟨p.nVar + 1, sqlite3VListAdd p.pVList z (p.nVar + 1)⟩)
  else (sqlite3VListNameToNum p.pVList z, p)

/-- The number a parameter gets, before the last check. -/
def assigned (limit : Nat) (z : List UInt8) (p : Numbering) : Except String (Nat × Numbering) :=
  if byteAt z 1 = 0 then .ok (p.nVar + 1, ⟨p.nVar + 1, p.pVList⟩)
  else if byteAt z 0 = '?'.toUInt8 then assignNumber limit z p
  else .ok (assignName z p)

end Numbering

/-- `sqlite3ExprAssignVarNumber`; `limit` is `SQLITE_LIMIT_VARIABLE_NUMBER`. -/
def sqlite3ExprAssignVarNumber (limit : Nat) (z : List UInt8) (p : Numbering) :
    Except String (Nat × Numbering) :=
  match p.assigned limit z with
  | .error e => .error e
  | .ok (x, p) => if limit < x then .error "too many SQL variables" else .ok (x, p)

/-- The parameters of a statement, one after the other. -/
def numberAll (limit : Nat) : List (List UInt8) → Numbering → Except String (List Nat × Numbering)
  | [], p => .ok ([], p)
  | z :: zs, p =>
    match sqlite3ExprAssignVarNumber limit z p with
    | .error e => .error e
    | .ok (x, p) =>
      match numberAll limit zs p with
      | .error e => .error e
      | .ok (xs, p) => .ok (x :: xs, p)

/-- The parameters of a text. -/
def hostParameters (ts : List (TK × List UInt8)) : List (List UInt8) :=
  (ts.filter fun token => token.1 == .VARIABLE).map Prod.snd

/-! ## 3. Looking up -/

section Lookup

variable {l : VList} {name z : List UInt8} {k i : Nat}

theorem numToName_eq_none_iff : sqlite3VListNumToName l i = none ↔ ∀ entry ∈ l, entry.2 ≠ i := by
  simp [sqlite3VListNumToName]

theorem mem_of_numToName (h : sqlite3VListNumToName l i = some name) : (name, i) ∈ l := by
  obtain ⟨entry, hfind, rfl⟩ := Option.map_eq_some_iff.mp h
  have hi : entry.2 = i := by simpa using List.find?_some hfind
  exact hi ▸ List.mem_of_find?_eq_some hfind

theorem nameToNum_eq_zero_iff (hpos : ∀ entry ∈ l, 0 < entry.2) :
    sqlite3VListNameToNum l z = 0 ↔ ∀ entry ∈ l, entry.1 ≠ z := by
  unfold sqlite3VListNameToNum
  cases hfind : l.find? fun entry => entry.1 == z with
  | none => simpa using hfind
  | some entry =>
    have hmem := List.mem_of_find?_eq_some hfind
    have hz : entry.1 = z := by simpa using List.find?_some hfind
    refine iff_of_false (Nat.ne_of_gt (hpos _ hmem)) fun h => h _ hmem hz

theorem mem_of_nameToNum (h : sqlite3VListNameToNum l z ≠ 0) :
    (z, sqlite3VListNameToNum l z) ∈ l := by
  unfold sqlite3VListNameToNum at h ⊢
  cases hfind : l.find? fun entry => entry.1 == z with
  | none =>
    rw [hfind] at h
    exact absurd rfl h
  | some entry =>
    have hz : entry.1 = z := by simpa using List.find?_some hfind
    have hmem := List.mem_of_find?_eq_some hfind
    rw [← hz]
    exact hmem

/-- What is in a list is found by a key that nothing else there has. -/
theorem find_of_mem {α β : Type} [BEq β] [LawfulBEq β] (key : α → β) {l : List α}
    (hnodup : (l.map key).Nodup) {a : α} (h : a ∈ l) :
    (l.find? fun b => key b == key a) = some a := by
  cases hfind : l.find? fun b => key b == key a with
  | none =>
    rw [List.find?_eq_none] at hfind
    exact absurd BEq.rfl (hfind a h)
  | some b =>
    have hkey : key b = key a := by simpa using List.find?_some hfind
    rw [List.inj_on_of_nodup_map hnodup (List.mem_of_find?_eq_some hfind) h hkey]

theorem nameToNum_of_mem (hnodup : (l.map Prod.fst).Nodup) (h : (z, k) ∈ l) :
    sqlite3VListNameToNum l z = k := by
  unfold sqlite3VListNameToNum
  have hfind : l.find? (fun entry => entry.1 == z) = some (z, k) := find_of_mem Prod.fst hnodup h
  rw [hfind]
  rfl

theorem numToName_of_mem (hnodup : (l.map Prod.snd).Nodup) (h : (name, i) ∈ l) :
    sqlite3VListNumToName l i = some name := by
  unfold sqlite3VListNumToName
  have hfind : l.find? (fun entry => entry.2 == i) = some (name, i) :=
    find_of_mem Prod.snd hnodup h
  rw [hfind]
  rfl

end Lookup

/-! ## 4. What the list keeps -/

namespace Numbering

/-- Each name has one number and each number one name, at most; the numbers are those of
    parameters; a name `?NNN` has its own number. -/
structure Sound (limit : Nat) (p : Numbering) : Prop where
  bound : p.nVar ≤ limit
  range : ∀ entry ∈ p.pVList, 0 < entry.2 ∧ entry.2 ≤ p.nVar
  names : (p.pVList.map Prod.fst).Nodup
  numbers : (p.pVList.map Prod.snd).Nodup
  own : ∀ entry ∈ p.pVList, byteAt entry.1 0 = '?'.toUInt8 → digitsValue (entry.1.drop 1) = entry.2

theorem sound_start (limit : Nat) : Sound limit start :=
  ⟨Nat.zero_le _, nofun, List.nodup_nil, List.nodup_nil, nofun⟩

/-- How `p` can go on to `q`. -/
structure Extends (p q : Numbering) : Prop where
  nVar : p.nVar ≤ q.nVar
  pVList : p.pVList <+: q.pVList

theorem Extends.refl (p : Numbering) : Extends p p := ⟨Nat.le_refl _, List.prefix_rfl⟩

theorem Extends.trans {p q r : Numbering} (h : Extends p q) (h' : Extends q r) : Extends p r :=
  ⟨h.nVar.trans h'.nVar, h.pVList.trans h'.pVList⟩

/-- What says which number a parameter has: its own, that of its name, or, for `?`, the next. -/
structure Numbered (z : List UInt8) (p q : Numbering) (x : Nat) : Prop where
  range : 0 < x ∧ x ≤ q.nVar
  nVar : q.nVar = max p.nVar x
  next : byteAt z 1 = 0 → x = p.nVar + 1
  own : byteAt z 1 ≠ 0 → byteAt z 0 = '?'.toUInt8 → x = digitsValue (z.drop 1)
  name : byteAt z 1 ≠ 0 → byteAt z 0 ≠ '?'.toUInt8 → (z, x) ∈ q.pVList

section Assign

variable {limit : Nat} {z : List UInt8} {p q : Numbering} {x : Nat}

/-- A name is added. -/
theorem Sound.add (h : Sound limit p) (hx : 0 < x) (hlimit : max p.nVar x ≤ limit)
    (hname : ∀ entry ∈ p.pVList, entry.1 ≠ z) (hnumber : ∀ entry ∈ p.pVList, entry.2 ≠ x)
    (hown : byteAt z 0 = '?'.toUInt8 → digitsValue (z.drop 1) = x) :
    Sound limit ⟨max p.nVar x, sqlite3VListAdd p.pVList z x⟩ := by
  have hmem {P : List UInt8 × Nat → Prop} (hold : ∀ entry ∈ p.pVList, P entry) (hnew : P (z, x)) :
      ∀ entry ∈ sqlite3VListAdd p.pVList z x, P entry := by
    intro entry he
    rcases List.mem_append.mp he with he | he
    · exact hold entry he
    · rw [List.mem_singleton.mp he]
      exact hnew
  refine ⟨hlimit, hmem (fun entry he => ?_) ⟨hx, Nat.le_max_right _ _⟩, ?_, ?_, hmem h.own hown⟩
  · exact ⟨(h.range entry he).1, (h.range entry he).2.trans (Nat.le_max_left _ _)⟩
  · rw [sqlite3VListAdd, List.map_append, List.map_singleton, List.nodup_append]
    refine ⟨h.names, List.nodup_singleton _, fun name hn name' hn' => ?_⟩
    obtain ⟨entry, he, rfl⟩ := List.mem_map.mp hn
    rw [List.mem_singleton.mp hn']
    exact hname entry he
  · rw [sqlite3VListAdd, List.map_append, List.map_singleton, List.nodup_append]
    refine ⟨h.numbers, List.nodup_singleton _, fun number hn number' hn' => ?_⟩
    obtain ⟨entry, he, rfl⟩ := List.mem_map.mp hn
    rw [List.mem_singleton.mp hn']
    exact hnumber entry he

/-- `?NNN` gets the number NNN, and a name if the number has none. -/
theorem assignNumber_sound (h : Sound limit p) (hlong : byteAt z 1 ≠ 0)
    (hquestion : byteAt z 0 = '?'.toUInt8) (hassign : assignNumber limit z p = .ok (x, q)) :
    Sound limit q ∧ Extends p q ∧ Numbered z p q x := by
  unfold assignNumber at hassign
  split at hassign
  case h_2 => cases hassign
  rename_i i hatoi
  have hi : i = digitsValue (z.drop 1) := by
    unfold sqlite3Atoi64 at hatoi
    split at hatoi
    · exact (Option.some.inj hatoi).symm
    · cases hatoi
  split at hassign
  · cases hassign
  rename_i hrange
  have hadd (hnumber : ∀ entry ∈ p.pVList, entry.2 ≠ i) :
      Sound limit ⟨max p.nVar i, sqlite3VListAdd p.pVList z i⟩ := by
    refine h.add (by omega) (max_le h.bound (by omega)) (fun entry he hz => ?_) hnumber
      fun _ => hi.symm
    have hentry := h.own entry he (hz ▸ hquestion)
    rw [hz, ← hi] at hentry
    exact hnumber entry he hentry.symm
  have hnumbered {l : VList} {n : Nat} (hn : n = max p.nVar i) : Numbered z p ⟨n, l⟩ i := by
    refine ⟨⟨by omega, hn ▸ Nat.le_max_right _ _⟩, hn, fun hbare => absurd hbare hlong,
      fun _ _ => hi, fun _ hne => absurd hquestion hne⟩
  have hprefix : p.pVList <+: sqlite3VListAdd p.pVList z i := List.prefix_append _ _
  split at hassign
  · rename_i hlt
    cases hassign
    have hmax : x = max p.nVar x := (Nat.max_eq_right hlt.le).symm
    have hsound := hadd fun entry he hx => absurd (h.range entry he).2 (by omega)
    rw [← hmax] at hsound
    exact ⟨hsound, ⟨hlt.le, hprefix⟩, hnumbered hmax⟩
  · rename_i hge
    have hmax : p.nVar = max p.nVar i := (Nat.max_eq_left (Nat.le_of_not_lt hge)).symm
    split at hassign
    · rename_i hnone
      cases hassign
      have hsound := hadd (numToName_eq_none_iff.mp hnone)
      rw [← hmax] at hsound
      exact ⟨hsound, ⟨Nat.le_refl _, hprefix⟩, hnumbered hmax⟩
    · cases hassign
      exact ⟨h, .refl p, hnumbered hmax⟩

/-- A name gets the number it has, or the next one. -/
theorem assignName_sound (h : Sound limit p) (hlong : byteAt z 1 ≠ 0)
    (hquestion : byteAt z 0 ≠ '?'.toUInt8) (hassign : assignName z p = (x, q)) (hx : x ≤ limit) :
    Sound limit q ∧ Extends p q ∧ Numbered z p q x := by
  have hpos : ∀ entry ∈ p.pVList, 0 < entry.2 := fun entry he => (h.range entry he).1
  unfold assignName at hassign
  split at hassign
  · rename_i hzero
    cases hassign
    have hmax : p.nVar + 1 = max p.nVar (p.nVar + 1) := by omega
    have hsound := h.add (z := z) (Nat.succ_pos p.nVar) (max_le h.bound hx)
      ((nameToNum_eq_zero_iff hpos).mp hzero)
      (fun entry he heq => absurd (h.range entry he).2 (by omega)) fun h => absurd h hquestion
    rw [← hmax] at hsound
    refine ⟨hsound, ⟨Nat.le_succ _, List.prefix_append _ _⟩, ⟨⟨Nat.succ_pos _, Nat.le_refl _⟩, hmax,
      fun hbare => absurd hbare hlong, fun _ h => absurd h hquestion, fun _ _ => ?_⟩⟩
    exact List.mem_append_right _ (List.mem_singleton_self _)
  · rename_i hne
    cases hassign
    have hmem := mem_of_nameToNum hne
    exact ⟨h, .refl p, ⟨h.range _ hmem, (Nat.max_eq_left (h.range _ hmem).2).symm,
      fun hbare => absurd hbare hlong, fun _ h => absurd h hquestion, fun _ _ => hmem⟩⟩

/-- **The step lemma.** -/
theorem assign_sound (h : Sound limit p)
    (hassign : sqlite3ExprAssignVarNumber limit z p = .ok (x, q)) :
    Sound limit q ∧ Extends p q ∧ Numbered z p q x := by
  unfold sqlite3ExprAssignVarNumber at hassign
  split at hassign
  · cases hassign
  rename_i x' q' hassigned
  split at hassign
  · cases hassign
  rename_i hle
  cases hassign
  have hx : x ≤ limit := Nat.le_of_not_lt hle
  unfold assigned at hassigned
  split at hassigned
  · rename_i hbare
    cases hassigned
    refine ⟨⟨hx, fun entry he => ?_, h.names, h.numbers, h.own⟩,
      ⟨Nat.le_succ _, List.prefix_rfl⟩, ⟨⟨Nat.succ_pos _, Nat.le_refl _⟩, by simp, fun _ => rfl,
        fun hne => absurd hbare hne, fun hne => absurd hbare hne⟩⟩
    exact ⟨(h.range entry he).1, (h.range entry he).2.trans (Nat.le_succ _)⟩
  · rename_i hlong
    split at hassigned
    · rename_i hquestion
      exact assignNumber_sound h hlong hquestion hassigned
    · rename_i hquestion
      exact assignName_sound h hlong hquestion (Except.ok.inj hassigned) hx

end Assign

/-! ## 5. Whole statements -/

/-- Where the number of a parameter comes from, once all of them are numbered. -/
structure Finds (q : Numbering) (z : List UInt8) (x : Nat) : Prop where
  range : 0 < x ∧ x ≤ q.nVar
  own : byteAt z 1 ≠ 0 → byteAt z 0 = '?'.toUInt8 → x = digitsValue (z.drop 1)
  name : byteAt z 1 ≠ 0 → byteAt z 0 ≠ '?'.toUInt8 → sqlite3VListNameToNum q.pVList z = x

section Run

variable {limit : Nat} {p q r : Numbering} {z : List UInt8} {x : Nat}

/-- A number that was found before more parameters came is found after them. -/
theorem Numbered.finds (h : Numbered z p q x) (hqr : Extends q r) (hr : Sound limit r) :
    Finds r z x where
  range := ⟨h.range.1, h.range.2.trans hqr.nVar⟩
  own := h.own
  name hlong hquestion := nameToNum_of_mem hr.names (hqr.pVList.subset (h.name hlong hquestion))

theorem numberAll_cons {zs : List (List UInt8)} {xs : List Nat}
    (h : numberAll limit (z :: zs) p = .ok (xs, q)) :
    ∃ x p' xs', sqlite3ExprAssignVarNumber limit z p = .ok (x, p') ∧
      numberAll limit zs p' = .ok (xs', q) ∧ xs = x :: xs' := by
  rw [numberAll] at h
  split at h
  · cases h
  rename_i x p' hassign
  split at h
  · cases h
  rename_i xs' q' hrest
  cases h
  exact ⟨x, p', xs', hassign, hrest, rfl⟩

/-- **The run lemma.** -/
theorem numberAll_sound {zs : List (List UInt8)} {xs : List Nat} (h : Sound limit p)
    (hall : numberAll limit zs p = .ok (xs, q)) :
    Sound limit q ∧ Extends p q ∧ List.Forall₂ (Finds q) zs xs := by
  induction zs generalizing p xs with
  | nil =>
    cases hall
    exact ⟨h, .refl _, .nil⟩
  | cons z zs ih =>
    obtain ⟨x, p', xs', hassign, hrest, rfl⟩ := numberAll_cons hall
    obtain ⟨h', hext, hnumbered⟩ := assign_sound h hassign
    obtain ⟨hq, hext', hfinds⟩ := ih h' hrest
    exact ⟨hq, hext.trans hext', .cons (hnumbered.finds hext' hq) hfinds⟩

/-- The names of the parameters, in the order of their numbers. -/
def params (q : Numbering) : List (Option (List UInt8)) :=
  (List.range q.nVar).map fun k => sqlite3VListNumToName q.pVList (k + 1)

theorem params_getElem? (q : Numbering) (k : Nat) :
    q.params[k]? = if k < q.nVar then some (sqlite3VListNumToName q.pVList (k + 1)) else none := by
  unfold params
  split
  · rename_i hlt
    rw [List.getElem?_map, List.getElem?_range hlt]
    rfl
  · rename_i hge
    exact List.getElem?_eq_none (by simpa using hge)

/-- What `Header` takes for granted, and how it looks names and numbers up. -/
structure Describes (q : Numbering) : Prop where
  inj : ∀ (j k : Nat) (name : List UInt8), q.params[j]? = some (some name) →
    q.params[k]? = some (some name) → j = k
  index : ∀ name, sqlite3VListNameToNum q.pVList name =
    if some name ∈ q.params then q.params.idxOf (some name) + 1 else 0
  name : ∀ i, 0 < i → sqlite3VListNumToName q.pVList i = (q.params[i - 1]?).join

theorem mem_of_params (k : Nat) {name : List UInt8}
    (hk : q.params[k]? = some (some name)) : (name, k + 1) ∈ q.pVList := by
  rw [params_getElem?] at hk
  split at hk
  · exact mem_of_numToName (Option.some.inj hk)
  · cases hk

theorem Sound.params_of_mem (h : Sound limit q) {name : List UInt8} {i : Nat}
    (hmem : (name, i) ∈ q.pVList) : q.params[i - 1]? = some (some name) := by
  obtain ⟨hpos, hle⟩ := h.range _ hmem
  dsimp only at hpos hle
  rw [params_getElem?, if_pos (by omega), Nat.sub_add_cancel hpos, numToName_of_mem h.numbers hmem]

theorem Sound.inj (h : Sound limit q) (j k : Nat) (name : List UInt8)
    (hj : q.params[j]? = some (some name)) (hk : q.params[k]? = some (some name)) : j = k := by
  have heq := nameToNum_of_mem h.names (mem_of_params j hj)
  rw [nameToNum_of_mem h.names (mem_of_params k hk)] at heq
  omega

theorem Sound.describes (h : Sound limit q) : Describes q := by
  refine ⟨h.inj, fun name => ?_, fun i hi => ?_⟩
  · split
    · rename_i hmem
      have hlt := List.idxOf_lt_length_of_mem hmem
      refine nameToNum_of_mem h.names (mem_of_params _ ?_)
      rw [List.getElem?_eq_getElem hlt, List.getElem_idxOf]
    · rename_i hnot
      by_contra hne
      exact hnot (List.mem_of_getElem? (h.params_of_mem (mem_of_nameToNum hne)))
  · rw [params_getElem?]
    split
    · rw [Nat.sub_add_cancel hi]
      rfl
    · rename_i hge
      refine numToName_eq_none_iff.mpr fun entry he heq => ?_
      have hle := (h.range entry he).2
      omega

end Run

end Numbering

/-- **A statement that is parsed has numbered its parameters soundly**: at most `limit` of them,
    each found again by its number or its name, and no name used for two. -/
theorem numbering_sound {limit : Nat} {zs : List (List UInt8)} {xs : List Nat} {q : Numbering}
    (hall : numberAll limit zs .start = .ok (xs, q)) :
    q.nVar ≤ limit ∧ List.Forall₂ q.Finds zs xs ∧ q.Describes := by
  obtain ⟨hsound, _, hfinds⟩ := Numbering.numberAll_sound (Numbering.sound_start limit) hall
  exact ⟨hsound.bound, hfinds, hsound.describes⟩

/-- `?2`, `:a`, `?`, `:a`. -/
theorem numbering_sound_mixed :
    Numbering.Describes ⟨4, [([63, 50], 2), ([58, 97], 3)]⟩ := by
  have hall : numberAll 32766 [[63, 50], [58, 97], [63], [58, 97]] .start =
      .ok ([2, 3, 4, 3], ⟨4, [([63, 50], 2), ([58, 97], 3)]⟩) := by decide +kernel
  exact (numbering_sound hall).2.2

end NodeRusqlite.Sqlite
