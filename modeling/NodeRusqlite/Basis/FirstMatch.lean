/-
  File:      NodeRusqlite/Basis/FirstMatch.lean
  Subject:   Reading a record back by name: the first match under a looser equality,
             and the map that insertion one by one builds.

  * `firstMatch r k l`: the value of the first entry of `l` whose key is
    `r`-equal to `k` (a search that ignores case, a suffix match, ...).
  * `firstMatch_faithful`: over an equivalence `r`, every entry reads back its
    OWN value exactly when `r`-equal keys carry equal values.
  * `firstMatch_eq_some_iff`: where in the list the value found stands.
  * `insertAll`: inserting entries left to right; with pairwise different keys
    the map holds exactly the entries (`lookup_insertAll`, `mem_insertAll`).
-/
import Mathlib

namespace Basis

section FirstMatch

variable {κ ν : Type} (r : κ → κ → Bool)

/-- The value of the first entry whose key is `r`-equal to `k`. -/
def firstMatch (k : κ) : List (κ × ν) → Option ν
  | [] => none
  | (k', v) :: l => if r k k' then some v else firstMatch k l

theorem firstMatch_mem {k : κ} {v : ν} : ∀ {l : List (κ × ν)}, firstMatch r k l = some v →
    ∃ k', (k', v) ∈ l ∧ r k k' = true
  | [], h => by cases h
  | (k', v') :: l, h => by
      unfold firstMatch at h
      split at h
      · rename_i hr
        cases h
        exact ⟨k', List.mem_cons_self, hr⟩
      · obtain ⟨k'', hm, hr⟩ := firstMatch_mem h
        exact ⟨k'', List.mem_cons_of_mem _ hm, hr⟩

theorem firstMatch_isSome {k k' : κ} {v : ν} (hr : r k k' = true) :
    ∀ {l : List (κ × ν)}, (k', v) ∈ l → ∃ v', firstMatch r k l = some v'
  | (k'', v'') :: l, hm => by
      unfold firstMatch
      split
      · exact ⟨v'', rfl⟩
      · rename_i hn
        rcases List.mem_cons.mp hm with he | hm
        · cases he
          exact absurd hr hn
        · exact firstMatch_isSome hr hm

/-- The value found is that of an entry that matches, with none before it that does. -/
theorem firstMatch_eq_some_iff {k : κ} {v : ν} : ∀ {l : List (κ × ν)},
    firstMatch r k l = some v ↔ ∃ front k' rest, l = front ++ (k', v) :: rest ∧ r k k' = true ∧
      ∀ e ∈ front, r k e.1 = false
  | [] => by simp [firstMatch]
  | (k₀, v₀) :: l => by
      unfold firstMatch
      by_cases hr : r k k₀ = true
      · rw [if_pos hr, Option.some.injEq]
        constructor
        · rintro rfl
          exact ⟨[], k₀, l, rfl, hr, nofun⟩
        · rintro ⟨front, k', rest, hl, _, hfront⟩
          cases front with
          | nil =>
            cases hl
            rfl
          | cons e front =>
            -- the first entry matches, so none stands before the one found
            obtain ⟨rfl, _⟩ := List.cons.inj hl
            rw [hfront _ List.mem_cons_self] at hr
            cases hr
      · rw [if_neg hr, firstMatch_eq_some_iff]
        constructor
        · rintro ⟨front, k', rest, rfl, hk, hfront⟩
          refine ⟨(k₀, v₀) :: front, k', rest, rfl, hk, ?_⟩
          exact List.forall_mem_cons.mpr ⟨Bool.eq_false_of_not_eq_true hr, hfront⟩
        · rintro ⟨front, k', rest, hl, hk, hfront⟩
          cases front with
          | nil =>
            cases hl
            exact absurd hk hr
          | cons e front =>
            obtain ⟨_, hl⟩ := List.cons.inj hl
            exact ⟨front, k', rest, hl, hk, fun e he => hfront e (List.mem_cons_of_mem _ he)⟩

/-- Keys that match the same entries find the same value. -/
theorem firstMatch_congr {k₁ k₂ : κ} (h : ∀ k, r k₁ k = r k₂ k) :
    ∀ l : List (κ × ν), firstMatch r k₁ l = firstMatch r k₂ l
  | [] => rfl
  | (k', v) :: l => by simp only [firstMatch, h k', firstMatch_congr h l]

/-- **Reading back by name is faithful exactly when equal names carry equal values.** -/
theorem firstMatch_faithful (hrefl : ∀ k, r k k = true) (hsymm : ∀ a b, r a b = r b a)
    (htrans : ∀ a b c, r a b = true → r b c = true → r a c = true) (l : List (κ × ν)) :
    (∀ k v, (k, v) ∈ l → firstMatch r k l = some v) ↔
      ∀ k v k' v', (k, v) ∈ l → (k', v') ∈ l → r k k' = true → v = v' := by
  refine ⟨fun h k v k' v' hk hk' hr => ?_, fun h k v hk => ?_⟩
  · have hsame : firstMatch r k l = firstMatch r k' l := by
      refine firstMatch_congr r (fun k'' => ?_) l
      rw [Bool.eq_iff_iff]
      exact ⟨fun hkk => htrans _ _ _ ((hsymm k' k).trans hr) hkk, htrans _ _ _ hr⟩
    rw [h k v hk, h k' v' hk'] at hsame
    exact Option.some.inj hsame
  · obtain ⟨v', hv'⟩ := firstMatch_isSome r (hrefl k) hk
    obtain ⟨k', hm, hr⟩ := firstMatch_mem r hv'
    rw [hv', h k v k' v' hk hm hr]

end FirstMatch

section InsertAll

variable {κ ν : Type} [DecidableEq κ]

/-- Insert the entries left to right: a later entry replaces an earlier one of its key. -/
def insertAll : List (κ × ν) → Finmap (fun _ : κ => ν) → Finmap (fun _ : κ => ν)
  | [], m => m
  | (k, v) :: l, m => insertAll l (m.insert k v)

theorem lookup_insertAll_of_notMem {k : κ} : ∀ {l : List (κ × ν)} {m : Finmap (fun _ : κ => ν)},
    k ∉ l.map Prod.fst → (insertAll l m).lookup k = m.lookup k
  | [], _, _ => rfl
  | (k', v) :: l, m, h => by
      simp only [List.map_cons, List.mem_cons, not_or] at h
      rw [insertAll, lookup_insertAll_of_notMem h.2, Finmap.lookup_insert_of_ne m h.1]

/-- With pairwise different keys every entry is found under its key. -/
theorem lookup_insertAll {k : κ} {v : ν} : ∀ {l : List (κ × ν)} {m : Finmap (fun _ : κ => ν)},
    (l.map Prod.fst).Nodup → (k, v) ∈ l → (insertAll l m).lookup k = some v
  | (k', v') :: l, m, hn, hm => by
      rw [List.map_cons, List.nodup_cons] at hn
      rcases List.mem_cons.mp hm with he | hm
      · cases he
        rw [insertAll, lookup_insertAll_of_notMem hn.1, Finmap.lookup_insert]
      · rw [insertAll]
        exact lookup_insertAll hn.2 hm

/-- The keys are those inserted and those there before. -/
theorem mem_insertAll {k : κ} : ∀ {l : List (κ × ν)} {m : Finmap (fun _ : κ => ν)},
    k ∈ insertAll l m ↔ k ∈ l.map Prod.fst ∨ k ∈ m
  | [], _ => by simp [insertAll]
  | (k', v) :: l, m => by
      rw [insertAll, mem_insertAll, Finmap.mem_insert, List.map_cons, List.mem_cons]
      tauto

end InsertAll

end Basis
