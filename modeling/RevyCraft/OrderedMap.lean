/-
  RevyCraft/OrderedMap.lean
  =========================
  **Ordered maps with extensional equality** — the collections of the
  development (`BTreeMap`, `BTreeSet`, and the hash maps whose iteration
  order nothing observes).

  The maps are the standard library's `ExtTreeMap`: two maps with the same
  entries are equal, so a state of the program is determined by what can be
  looked up in it.  This file adds what the standard library does not have:
  the entries of an updated map up to permutation, totals over the entries,
  and the comparison of composite keys.
-/
import Mathlib

namespace RevyCraft

open Std

/-- `BTreeMap`. -/
abbrev BTreeMap (K V : Type) [Ord K] : Type := ExtTreeMap K V compare

/-- `BTreeSet`. -/
abbrev BTreeSet (K : Type) [Ord K] : Type := ExtTreeSet K compare

namespace BTreeMap

variable {K V : Type} [Ord K] [TransOrd K] [LawfulEqOrd K]

theorem nodup_toList (m : BTreeMap K V) : m.toList.Nodup := by
  have h := ExtTreeMap.distinct_keys_toList (t := m)
  refine List.Pairwise.imp ?_ h
  rintro a b hne rfl
  exact hne ReflCmp.compare_self

theorem mem_toList {m : BTreeMap K V} {k : K} {v : V} : (k, v) ∈ m.toList ↔ m[k]? = some v :=
  ExtTreeMap.mem_toList_iff_getElem?_eq_some

theorem getElem?_insert_eq [DecidableEq K] (m : BTreeMap K V) (k a : K) (v : V) :
    (m.insert k v)[a]? = if k = a then some v else m[a]? := by
  rw [ExtTreeMap.getElem?_insert]
  by_cases h : k = a
  · subst h
    simp
  · have hc : ¬ compare k a = .eq := fun hc => h (LawfulEqCmp.eq_of_compare hc)
    simp [h, hc]

theorem getElem?_erase_eq [DecidableEq K] (m : BTreeMap K V) (k a : K) :
    (m.erase k)[a]? = if k = a then none else m[a]? := by
  rw [ExtTreeMap.getElem?_erase]
  by_cases h : k = a
  · subst h
    simp
  · have hc : ¬ compare k a = .eq := fun hc => h (LawfulEqCmp.eq_of_compare hc)
    simp [h, hc]

theorem getElem?_insertIfNew_eq [DecidableEq K] (m : BTreeMap K V) (k a : K) (v : V) :
    (m.insertIfNew k v)[a]? = if a = k ∧ m[a]? = none then some v else m[a]? := by
  rw [ExtTreeMap.getElem?_insertIfNew]
  by_cases h : a = k
  · subst h
    cases hm : m[a]? with
    | none =>
      have hmem : a ∉ m := by
        rw [ExtTreeMap.mem_iff_isSome_getElem?, hm]
        simp
      rw [if_pos ⟨ReflCmp.compare_self, hmem⟩, if_pos ⟨rfl, rfl⟩]
    | some w =>
      have hmem : a ∈ m := by
        rw [ExtTreeMap.mem_iff_isSome_getElem?, hm]
        rfl
      rw [if_neg fun hc => hc.2 hmem, if_neg fun hc => by cases hc.2]
  · have hc : ¬ compare k a = .eq := fun hc => h (LawfulEqCmp.eq_of_compare hc).symm
    rw [if_neg fun hh => hc hh.1, if_neg fun hh => h hh.1]

theorem insert_same [DecidableEq K] {m : BTreeMap K V} {k : K} {v : V} (h : m[k]? = some v) :
    m.insert k v = m := by
  refine ExtTreeMap.ext_getElem? fun a => ?_
  rw [getElem?_insert_eq]
  split
  · rename_i hk
    rw [← hk, h]
  · rfl

theorem insert_insert_same [DecidableEq K] (m : BTreeMap K V) (k : K) (v w : V) :
    (m.insert k v).insert k w = m.insert k w := by
  refine ExtTreeMap.ext_getElem? fun a => ?_
  simp only [getElem?_insert_eq]
  split <;> rfl

theorem erase_insert_same [DecidableEq K] (m : BTreeMap K V) (k : K) (v : V) :
    (m.insert k v).erase k = m.erase k := by
  refine ExtTreeMap.ext_getElem? fun a => ?_
  simp only [getElem?_erase_eq, getElem?_insert_eq]
  split <;> rfl

theorem toList_insert_perm [DecidableEq K] {m : BTreeMap K V} {k : K} (h : m[k]? = none) (v : V) :
    (m.insert k v).toList.Perm ((k, v) :: m.toList) := by
  refine (List.perm_ext_iff_of_nodup (nodup_toList _) ?_).mpr ?_
  · refine List.nodup_cons.mpr ⟨?_, nodup_toList m⟩
    rw [mem_toList, h]
    simp
  · rintro ⟨a, b⟩
    rw [mem_toList, getElem?_insert_eq, List.mem_cons, mem_toList, Prod.mk.injEq]
    by_cases hk : k = a
    · subst hk
      simp [h, eq_comm]
    · simp [hk, Ne.symm hk]

theorem toList_perm_erase [DecidableEq K] {m : BTreeMap K V} {k : K} {v : V} (h : m[k]? = some v) :
    m.toList.Perm ((k, v) :: (m.erase k).toList) := by
  refine (List.perm_ext_iff_of_nodup (nodup_toList _) ?_).mpr ?_
  · refine List.nodup_cons.mpr ⟨?_, nodup_toList _⟩
    rw [mem_toList, getElem?_erase_eq]
    simp
  · rintro ⟨a, b⟩
    rw [mem_toList, List.mem_cons, mem_toList, getElem?_erase_eq, Prod.mk.injEq]
    by_cases hk : k = a
    · subst hk
      simp [h, eq_comm]
    · simp [hk, Ne.symm hk]

theorem getElem?_ofList [DecidableEq K] {l : List (K × V)} (h : (l.map Prod.fst).Nodup) {k : K}
    {v : V} : (ExtTreeMap.ofList l compare : BTreeMap K V)[k]? = some v ↔ (k, v) ∈ l := by
  have hdistinct : l.Pairwise fun a b => ¬ compare a.1 b.1 = .eq := by
    rw [List.nodup_iff_pairwise_ne, List.pairwise_map] at h
    exact h.imp fun hne heq => hne (LawfulEqCmp.eq_of_compare heq)
  constructor
  · intro hv
    by_contra hmem
    have hcontains : k ∈ l.map Prod.fst := by
      by_contra hnone
      have hlookup : (ExtTreeMap.ofList l compare : BTreeMap K V)[k]? = none :=
        ExtTreeMap.getElem?_ofList_of_contains_eq_false (by simpa using hnone)
      rw [hlookup] at hv
      cases hv
    obtain ⟨⟨k', w⟩, hentry, rfl⟩ := List.mem_map.mp hcontains
    have hw : (ExtTreeMap.ofList l compare : BTreeMap K V)[k']? = some w :=
      ExtTreeMap.getElem?_ofList_of_mem ReflCmp.compare_self hdistinct hentry
    rw [hw] at hv
    cases hv
    exact hmem hentry
  · exact ExtTreeMap.getElem?_ofList_of_mem ReflCmp.compare_self hdistinct

omit [LawfulEqOrd K] in
theorem nodup_keys (m : BTreeMap K V) : (m.toList.map Prod.fst).Nodup := by
  rw [ExtTreeMap.map_fst_toList_eq_keys]
  exact ExtTreeMap.nodup_keys

theorem ofList_map_toList [DecidableEq K] {W : Type} (f : K → V → W) (m : BTreeMap K V) :
    (ExtTreeMap.ofList (m.toList.map fun e => (e.1, f e.1 e.2)) compare : BTreeMap K W) =
      m.map f := by
  refine ExtTreeMap.ext_getElem? fun k => Option.ext fun w => ?_
  rw [getElem?_ofList, ExtTreeMap.getElem?_map, Option.map_eq_some_iff, List.mem_map]
  · constructor
    · rintro ⟨⟨k', v⟩, hmem, heq⟩
      cases heq
      exact ⟨v, mem_toList.mp hmem, rfl⟩
    · rintro ⟨v, hv, rfl⟩
      exact ⟨(k, v), mem_toList.mpr hv, rfl⟩
  · simpa [Function.comp_def] using nodup_keys m

theorem ofList_toList [DecidableEq K] (m : BTreeMap K V) :
    (ExtTreeMap.ofList m.toList compare : BTreeMap K V) = m := by
  refine ExtTreeMap.ext_getElem? fun k => Option.ext fun v => ?_
  rw [getElem?_ofList (nodup_keys m), mem_toList]

/-! ### Values -/

/-- The values in the order of their keys. -/
def values (m : BTreeMap K V) : List V := m.toList.map (·.2)

theorem mem_values {m : BTreeMap K V} {v : V} : v ∈ m.values ↔ ∃ k : K, m[k]? = some v := by
  simp only [values, List.mem_map, Prod.exists, exists_eq_right, mem_toList]

/-! ### Inserting and grouping -/

/-- `extend`: the entries are inserted one after another. -/
def insertAll (m : BTreeMap K V) (entries : List (K × V)) : BTreeMap K V :=
  entries.foldl (fun m entry => m.insert entry.1 entry.2) m

theorem getElem?_insertAll [DecidableEq K] {f : K → Option V} {entries : List (K × V)}
    (h : ∀ entry ∈ entries, f entry.1 = some entry.2) (m : BTreeMap K V) (k : K) :
    (insertAll m entries)[k]? = if k ∈ entries.map Prod.fst then f k else m[k]? := by
  induction entries generalizing m with
  | nil => rfl
  | cons entry entries ih =>
    have hentry := h entry List.mem_cons_self
    have hrest := ih (fun other hother => h other (List.mem_cons_of_mem _ hother))
      (m.insert entry.1 entry.2)
    simp only [insertAll, List.foldl_cons, List.map_cons, List.mem_cons] at hrest ⊢
    rw [hrest, getElem?_insert_eq]
    by_cases hmem : k ∈ entries.map Prod.fst
    · rw [if_pos hmem, if_pos (Or.inr hmem)]
    · by_cases hk : entry.1 = k
      · rw [if_neg hmem, if_pos hk, if_pos (Or.inl hk.symm), ← hk, hentry]
      · rw [if_neg hmem, if_neg hk, if_neg (by simp [hmem, Ne.symm hk])]

/-! ### Totals -/

/-- The sum of a measure over the entries. -/
def total (f : V → Nat) (m : BTreeMap K V) : Nat := (m.toList.map fun e => f e.2).sum

omit [LawfulEqOrd K] in
theorem total_empty (f : V → Nat) : total f (∅ : BTreeMap K V) = 0 := by
  have h : (∅ : BTreeMap K V).toList = [] := ExtTreeMap.toList_eq_nil_iff.mpr rfl
  simp [total, h]

theorem total_ofList [DecidableEq K] (f : V → Nat) {l : List (K × V)}
    (h : (l.map Prod.fst).Nodup) :
    total f (ExtTreeMap.ofList l compare : BTreeMap K V) = (l.map fun e => f e.2).sum := by
  have hperm : (ExtTreeMap.ofList l compare : BTreeMap K V).toList.Perm l := by
    refine (List.perm_ext_iff_of_nodup (nodup_toList _) (List.Nodup.of_map _ h)).mpr ?_
    rintro ⟨k, v⟩
    rw [mem_toList, getElem?_ofList h]
  exact (hperm.map _).sum_eq

theorem total_insert_new [DecidableEq K] (f : V → Nat) {m : BTreeMap K V} {k : K}
    (h : m[k]? = none) (v : V) : total f (m.insert k v) = f v + total f m := by
  unfold total
  rw [((toList_insert_perm h v).map _).sum_eq]
  simp

theorem total_erase [DecidableEq K] (f : V → Nat) {m : BTreeMap K V} {k : K} {v : V}
    (h : m[k]? = some v) : total f m = f v + total f (m.erase k) := by
  unfold total
  rw [((toList_perm_erase h).map _).sum_eq]
  simp

theorem total_replace [DecidableEq K] (f : V → Nat) {m : BTreeMap K V} {k : K} {v : V}
    (h : m[k]? = some v) (w : V) : total f (m.insert k w) + f v = total f m + f w := by
  have hw : (m.insert k w)[k]? = some w := by simp
  rw [total_erase f hw, total_erase f h, erase_insert_same]
  omega

end BTreeMap

/-! ### Composite keys -/

theorem lawfulEqCmp_compareOn {α β : Type} [Ord β] [TransOrd β] [LawfulEqOrd β] {f : α → β}
    (hf : ∀ a b, f a = f b → a = b) : LawfulEqCmp (compareOn f) where
  compare_self := fun {a} => @ReflCmp.compare_self β compare _ (f a)
  eq_of_compare h := hf _ _ (LawfulEqCmp.eq_of_compare h)

theorem lawfulEqCmp_compareLex {α : Type} {cmp₁ cmp₂ : α → α → Ordering}
    [ReflCmp cmp₁] [ReflCmp cmp₂]
    (h : ∀ a b, cmp₁ a b = .eq → cmp₂ a b = .eq → a = b) : LawfulEqCmp (compareLex cmp₁ cmp₂) where
  compare_self := by
    intro a
    simp [compareLex, ReflCmp.compare_self]
  eq_of_compare := by
    intro a b hab
    rw [compareLex_eq_eq] at hab
    exact h a b hab.1 hab.2

end RevyCraft
