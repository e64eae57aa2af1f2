/-
  RevyCraft/Ranges.lean
  =====================
  **Half-open ranges of offsets**, and what a sort that only promises order gives.

  * `Range.Apart`: no offset lies in both; for ranges that are not empty the same as one
    ending before the other starts (`apart_iff`).
  * `pairwise_apart_iff`: among ranges sorted by where they start, comparing neighbours is
    enough.
  * `UnstableSort`: a sort by a key that may put equal keys in any order.
  * `length_eq_iff_forall_mem`: distinct numbers below `n` are as many as `n` just when
    none is missing.
-/
import Mathlib.Data.List.Perm.Subperm
import Mathlib.Data.List.Chain
import Mathlib.Data.List.Range
import Mathlib.Data.List.Sort

namespace RevyCraft.Ranges

/-! ### Ranges -/

/-- The offsets from `start` up to and without `stop`. -/
structure Range where
  start : Nat
  stop : Nat

namespace Range

instance : Membership Nat Range := ⟨fun r x => r.start ≤ x ∧ x < r.stop⟩

theorem mem_iff {r : Range} {x : Nat} : x ∈ r ↔ r.start ≤ x ∧ x < r.stop := Iff.rfl

/-- No offset is in both. -/
def Apart (r s : Range) : Prop := ∀ x, x ∈ r → x ∉ s

theorem Apart.symm {r s : Range} (h : r.Apart s) : s.Apart r := fun x hs hr => h x hr hs

theorem apart_of_le {r s : Range} (h : r.stop ≤ s.start) : r.Apart s := by
  intro x hr hs
  rw [mem_iff] at hr hs
  omega

theorem apart_of_empty_left {r : Range} (h : r.stop ≤ r.start) (s : Range) : r.Apart s := by
  intro x hr
  rw [mem_iff] at hr
  omega

theorem apart_of_empty_right {s : Range} (h : s.stop ≤ s.start) (r : Range) : r.Apart s :=
  (apart_of_empty_left h r).symm

theorem apart_iff {r s : Range} (hr : r.start < r.stop) (hs : s.start < s.stop) :
    r.Apart s ↔ r.stop ≤ s.start ∨ s.stop ≤ r.start := by
  constructor
  · intro h
    by_contra hboth
    -- the later of the two starts would be in both
    have hin := h (max r.start s.start)
    simp only [mem_iff] at hin
    omega
  · rintro (h | h)
    · exact apart_of_le h
    · exact (apart_of_le h).symm

end Range

section Neighbours

variable {α : Type} {range : α → Range} {l : List α}

/-- Ranges each of which ends before the next one starts: all the later ones start after. -/
theorem le_start_of_isChain {a : α} (hle : ∀ b ∈ l, (range b).start ≤ (range b).stop)
    (h : (a :: l).IsChain fun a b => (range a).stop ≤ (range b).start) :
    ∀ b ∈ l, (range a).stop ≤ (range b).start := by
  induction l generalizing a with
  | nil => simp
  | cons b l ih =>
    obtain ⟨hab, hchain⟩ := List.isChain_cons_cons.1 h
    intro c hc
    rcases List.mem_cons.1 hc with rfl | hc
    · exact hab
    · have hb : (range b).start ≤ (range b).stop := hle b (by simp)
      have hbc := ih (fun d hd => hle d (List.mem_cons_of_mem _ hd)) hchain c hc
      omega

theorem pairwise_apart_iff (hne : ∀ a ∈ l, (range a).start < (range a).stop)
    (hsorted : l.Pairwise fun a b => (range a).start ≤ (range b).start) :
    (l.Pairwise fun a b => (range a).Apart (range b)) ↔
      l.IsChain fun a b => (range a).stop ≤ (range b).start := by
  induction l with
  | nil => simp
  | cons a l ih =>
    rw [List.pairwise_cons] at hsorted ⊢
    have hrest := ih (fun b hb => hne b (List.mem_cons_of_mem _ hb)) hsorted.2
    have hle : ∀ b ∈ l, (range b).start ≤ (range b).stop :=
      fun b hb => (hne b (List.mem_cons_of_mem _ hb)).le
    constructor
    · rintro ⟨hfirst, hl⟩
      cases l with
      | nil => simp
      | cons b l =>
        refine List.isChain_cons_cons.2 ⟨?_, hrest.1 hl⟩
        have hb := hne b (by simp)
        have hstart := hsorted.1 b (by simp)
        rcases (Range.apart_iff (hne a (by simp)) hb).1 (hfirst b (by simp)) with h | h
        · exact h
        · omega
    · intro hchain
      refine ⟨fun b hb => Range.apart_of_le (le_start_of_isChain hle hchain b hb), ?_⟩
      exact hrest.2 hchain.tail

end Neighbours

/-! ### Sorting -/

/-- A sort by a key: the same elements in the order of their keys, and equal keys in
whatever order it leaves them. -/
structure UnstableSort (α : Type) (key : α → Nat) where
  sort : List α → List α
  perm : ∀ l, (sort l).Perm l
  sorted : ∀ l, (sort l).Pairwise fun a b => key a ≤ key b

def UnstableSort.insertion (α : Type) (key : α → Nat) : UnstableSort α key where
  sort l := l.insertionSort fun a b => key a ≤ key b
  perm l := List.perm_insertionSort _ l
  sorted l :=
    have : Std.Total fun a b : α => key a ≤ key b := ⟨fun _ _ => Nat.le_total _ _⟩
    have : IsTrans α fun a b => key a ≤ key b := ⟨fun _ _ _ => Nat.le_trans⟩
    List.pairwise_insertionSort _ l

/-! ### Distinct numbers -/

theorem length_eq_iff_forall_mem {l : List Nat} {n : Nat} (hnodup : l.Nodup)
    (hlt : ∀ i ∈ l, i < n) : l.length = n ↔ ∀ i < n, i ∈ l := by
  have hsub : l.Subperm (List.range n) :=
    List.subperm_of_subset hnodup fun i hi => List.mem_range.2 (hlt i hi)
  constructor
  · intro hlen i hi
    have hperm : l.Perm (List.range n) := hsub.perm_of_length_le (by simp [hlen])
    exact hperm.mem_iff.2 (List.mem_range.2 hi)
  · intro hall
    have hsub' : (List.range n).Subperm l :=
      List.subperm_of_subset List.nodup_range fun i hi => hall i (List.mem_range.1 hi)
    have h := hsub.length_le
    have h' := hsub'.length_le
    simp only [List.length_range] at h h'
    omega

end RevyCraft.Ranges
