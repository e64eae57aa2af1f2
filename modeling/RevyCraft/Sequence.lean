/-
  RevyCraft/Sequence.lean
  =======================
  **The 24-bit wrapping sequence domains of RakNet** (`sequence.rs`) and the
  run-length encoded receive history that a transferred peer carries.

  The three domains (`DatagramSequence`, `ReliableSequence`,
  `OrderSequence`) come from one macro in the source, so they share one
  definition here.  `wrapping_distance_from` and `is_newer_than` are the only
  comparisons the protocol uses; the order on the underlying number is used
  for map keys alone.
-/
import Mathlib

namespace RevyCraft.RakNet

def MODULUS : Nat := 2 ^ 24
def HALF_RANGE : Nat := MODULUS / 2

/-- `sequence_type!`: a number below `2^24`. -/
abbrev Sequence24 : Type := Fin (2 ^ 24)

abbrev DatagramSequence : Type := Sequence24
abbrev ReliableSequence : Type := Sequence24
abbrev OrderSequence : Type := Sequence24

instance neZero_sequence24 : NeZero (2 ^ 24) := ⟨by decide⟩
instance : Std.TransOrd Sequence24 := inferInstanceAs <| Std.TransOrd (Fin (2 ^ 24))
instance : Std.LawfulEqOrd Sequence24 := inferInstanceAs <| Std.LawfulEqOrd (Fin (2 ^ 24))

namespace Sequence24

/-- `new`: the value masked to 24 bits. -/
def new (value : Nat) : Sequence24 := ⟨value % 2 ^ 24, Nat.mod_lt _ (by decide)⟩

def next (s : Sequence24) : Sequence24 := new (s.val + 1)
def previous (s : Sequence24) : Sequence24 := new (s.val + (2 ^ 24 - 1))
def wrappingDistanceFrom (s older : Sequence24) : Nat := (s.val + (2 ^ 24 - older.val)) % 2 ^ 24

def isNewerThan (s other : Sequence24) : Bool :=
  s.wrappingDistanceFrom other ≠ 0 && s.wrappingDistanceFrom other < HALF_RANGE

@[simp] theorem new_val (value : Nat) : (new value).val = value % 2 ^ 24 := rfl

theorem next_new (value : Nat) : next (new value) = new (value + 1) := by
  apply Fin.ext
  simp [next]

theorem isNewerThan_new {a b : Nat} (ha : a < HALF_RANGE) (hb : b < HALF_RANGE) :
    isNewerThan (new a) (new b) = decide (b < a) := by
  have hhalf : HALF_RANGE = 8388608 := by decide
  have hmod : (2 : Nat) ^ 24 = 16777216 := by decide
  rw [hhalf] at ha hb
  have hda : (new a).val = a := Nat.mod_eq_of_lt (by omega)
  have hdb : (new b).val = b := Nat.mod_eq_of_lt (by omega)
  simp only [isNewerThan, wrappingDistanceFrom, hda, hdb, hhalf, hmod]
  by_cases hlt : b < a
  · have hd : (a + (16777216 - b)) % 16777216 = a - b := by omega
    have h0 : a - b ≠ 0 := by omega
    have h1 : a - b < 8388608 := by omega
    simp [hd, hlt, h0, h1]
  · by_cases heq : a = b
    · subst heq
      have hd : (a + (16777216 - a)) % 16777216 = 0 := by omega
      simp [hd]
    · have hd : (a + (16777216 - b)) % 16777216 = a + (16777216 - b) := by omega
      have h1 : ¬ a + (16777216 - b) < 8388608 := by omega
      simp [hd, hlt, h1]

end Sequence24

/-! ### Receive histories -/

structure RunLength where
  count : Nat
  pos : 0 < count
  le : count ≤ MODULUS

def RunLength.SINGLE : RunLength := ⟨1, by decide, by decide⟩

/-- `RunLength::grow`, returning the longer run when there is one. -/
def RunLength.grow (l : RunLength) : Option RunLength :=
  if h : l.count = MODULUS then none
  else some ⟨l.count + 1, Nat.succ_pos _, Nat.lt_of_le_of_ne l.le h⟩

structure SequenceRun where
  first : Sequence24
  length : RunLength

structure SequenceHistory where
  runs : List SequenceRun

/-- The sequences of one run, starting at `first`. -/
def SequenceRun.sequences (run : SequenceRun) : List Sequence24 :=
  List.iterate Sequence24.next run.first run.length.count

namespace SequenceHistory

/-- One turn of the loop of `from_sequences`.  The runs are kept latest first. -/
def push (acc : List SequenceRun × Option Sequence24) (sequence : Sequence24) :
    List SequenceRun × Option Sequence24 :=
  let fresh := (⟨sequence, .SINGLE⟩ :: acc.1, some sequence)
  match acc with
  | (run :: rest, some previous) =>
    if previous.next = sequence then
      match run.length.grow with
      | some length => (⟨run.first, length⟩ :: rest, some sequence)
      | none => fresh
    else fresh
  | _ => fresh

def fromSequences (sequences : List Sequence24) : SequenceHistory :=
  ⟨(sequences.foldl push ([], none)).1.reverse⟩

/-- `sequence_count`: `none` when the total leaves the `usize` domain. -/
def sequenceCount (h : SequenceHistory) : Option Nat :=
  h.runs.foldlM (fun count run =>
    if count + run.length.count < 2 ^ 64 then some (count + run.length.count) else none) 0

def sequences (h : SequenceHistory) : List Sequence24 := h.runs.flatMap SequenceRun.sequences

/-- What the loop of `from_sequences` keeps: the runs spell the sequences read so far, and
    the latest run ends at the previous sequence. -/
def Spells (done : List Sequence24) (acc : List SequenceRun × Option Sequence24) : Prop :=
  acc.1.reverse.flatMap SequenceRun.sequences = done ∧
    ∀ run rest previous, acc = (run :: rest, some previous) →
      Sequence24.next^[run.length.count] run.first = previous.next

theorem spells_push {done : List Sequence24} {acc : List SequenceRun × Option Sequence24}
    (h : Spells done acc) (sequence : Sequence24) :
    Spells (done ++ [sequence]) (push acc sequence) := by
  obtain ⟨hdone, hlast⟩ := h
  have hfresh : Spells (done ++ [sequence]) (⟨sequence, .SINGLE⟩ :: acc.1, some sequence) := by
    refine ⟨by simp [hdone, SequenceRun.sequences, RunLength.SINGLE], ?_⟩
    rintro run rest previous heq
    cases heq
    rfl
  unfold push
  split
  · rename_i run rest previous
    split
    · rename_i hnext
      split
      · rename_i length hgrow
        have hcount : length.count = run.length.count + 1 := by
          unfold RunLength.grow at hgrow
          split at hgrow
          · cases hgrow
          · cases hgrow
            rfl
        have hiter := hlast run rest previous rfl
        refine ⟨?_, ?_⟩
        · simp only [List.reverse_cons, List.flatMap_append, List.flatMap_cons, List.flatMap_nil,
            List.append_nil, SequenceRun.sequences, hcount, List.iterate_add] at hdone ⊢
          rw [← hdone, hiter, hnext]
          simp
        · rintro run' rest' previous' heq
          cases heq
          simp only [hcount, Function.iterate_succ_apply', hiter, hnext]
      · exact hfresh
    · exact hfresh
  · exact hfresh

theorem spells_foldl {done : List Sequence24} {acc : List SequenceRun × Option Sequence24}
    (h : Spells done acc) (more : List Sequence24) :
    Spells (done ++ more) (more.foldl push acc) := by
  induction more generalizing done acc with
  | nil => simpa using h
  | cons s rest ih => simpa using ih (spells_push h s)

@[simp] theorem sequences_fromSequences (l : List Sequence24) :
    (fromSequences l).sequences = l := by
  have hinit : Spells [] (([], none) : List SequenceRun × Option Sequence24) := by
    refine ⟨rfl, ?_⟩
    rintro run rest previous heq
    cases heq
  simpa [sequences, fromSequences] using (spells_foldl hinit l).1

theorem sequenceCount_foldl (runs : List SequenceRun) (count : Nat)
    (h : count + (runs.flatMap SequenceRun.sequences).length < 2 ^ 64) :
    runs.foldlM (fun count run =>
      if count + run.length.count < 2 ^ 64 then some (count + run.length.count) else none) count =
        some (count + (runs.flatMap SequenceRun.sequences).length) := by
  induction runs generalizing count with
  | nil => rfl
  | cons run rest ih =>
    have hrun : run.sequences.length = run.length.count := List.length_iterate _ _ _
    simp only [List.flatMap_cons, List.length_append, hrun] at h ⊢
    rw [List.foldlM_cons, if_pos (by omega)]
    have hrest := ih (count + run.length.count) (by omega)
    rw [Nat.add_assoc] at hrest
    exact hrest

theorem sequenceCount_fromSequences {l : List Sequence24} (h : l.length < 2 ^ 64) :
    (fromSequences l).sequenceCount = some l.length := by
  have hs : (fromSequences l).runs.flatMap SequenceRun.sequences = l := sequences_fromSequences l
  have := sequenceCount_foldl (fromSequences l).runs 0 (by rw [hs]; omega)
  rw [hs, Nat.zero_add] at this
  exact this

theorem length_le_of_nodup {l : List Sequence24} (h : l.Nodup) : l.length ≤ 2 ^ 24 := by
  simpa using h.length_le_card

end SequenceHistory

end RevyCraft.RakNet
