/-
  RevyCraft/SequenceRuns.lean
  ===========================
  **The runs of a receive history** (`SequenceHistory` in `sequence.rs`).

  What a history spells is what arrived, whatever its order
  (`sequences_fromSequences`).  This file is about the runs themselves: a run
  ends where the next arrival is not the successor, or where it is full, so
  arrivals that follow one another are in one run (`shares_or_fills`); and the
  count is the number of arrivals as long as it is a `usize`.
-/
import RevyCraft.Sequence

namespace RevyCraft.RakNet

/-- `RunLength::deserialize`, from a count that is read. -/
def RunLength.deserialize (count : Nat) : Except String RunLength :=
  if h : 0 < count ∧ count ≤ MODULUS then .ok ⟨count, h.1, h.2⟩
  else .error "sequence run length must fit one nonempty 24-bit cycle"

theorem RunLength.deserialize_count (length : RunLength) :
    RunLength.deserialize length.count = .ok length :=
  dif_pos ⟨length.pos, length.le⟩

theorem RunLength.grow_eq_none {length : RunLength} (h : length.grow = none) :
    length.count = MODULUS := by
  unfold RunLength.grow at h
  split at h
  next hfull => exact hfull
  next => cases h

namespace SequenceRun

/-- The sequence after the last one of a run. -/
def stop (run : SequenceRun) : Sequence24 := Sequence24.next^[run.length.count] run.first

/-- The second run does not go on where the first one stops, unless the first one is full. -/
def Apart (run later : SequenceRun) : Prop := run.stop = later.first → run.length.count = MODULUS

theorem length_sequences (run : SequenceRun) : run.sequences.length = run.length.count :=
  List.length_iterate _ _ _

theorem getElem?_sequences {run : SequenceRun} {i : Nat} (h : i < run.length.count) :
    run.sequences[i]? = some (Sequence24.next^[i] run.first) := by
  unfold sequences
  rw [List.getElem?_eq_getElem (by rwa [List.length_iterate]), List.getElem_iterate]

end SequenceRun

namespace SequenceHistory

/-! ### Where runs end -/

/-- The runs so far, latest first, are apart; there is a previous sequence when there is a run. -/
structure Parted (acc : List SequenceRun × Option Sequence24) : Prop where
  apart : acc.1.IsChain fun later run => run.Apart later
  started : acc.2 = none → acc.1 = []

theorem Parted.push {done : List Sequence24} {acc : List SequenceRun × Option Sequence24}
    (hspells : Spells done acc) (h : Parted acc) (sequence : Sequence24) :
    Parted (push acc sequence) := by
  obtain ⟨runs, previous⟩ := acc
  cases previous with
  | none =>
    obtain rfl : runs = [] := h.started rfl
    exact ⟨List.isChain_singleton _, fun hnone => by cases hnone⟩
  | some previous =>
    cases runs with
    | nil => exact ⟨List.isChain_singleton _, fun hnone => by cases hnone⟩
    | cons run rest =>
      have hstop : run.stop = previous.next := hspells.2 run rest previous rfl
      -- a run is begun only when the last one stops elsewhere or is full
      have hfresh : (previous.next = sequence → run.length.grow = none) →
          Parted (⟨sequence, .SINGLE⟩ :: run :: rest, some sequence) := fun hnew =>
        ⟨List.IsChain.cons_cons (fun hnext => RunLength.grow_eq_none
          (hnew (hstop.symm.trans hnext))) h.apart, fun hnone => by cases hnone⟩
      unfold SequenceHistory.push
      dsimp only
      split
      next hnext =>
        split
        next length hgrow =>
          refine ⟨?_, fun hnone => by cases hnone⟩
          cases rest with
          | nil => exact List.isChain_singleton _
          | cons earlier rest =>
            obtain ⟨happart, hrest⟩ := List.isChain_cons_cons.mp h.apart
            exact List.IsChain.cons_cons happart hrest
        next hfull => exact hfresh fun _ => hfull
      next hother => exact hfresh fun hnext => absurd hnext hother

theorem parted_foldl {done : List Sequence24} {acc : List SequenceRun × Option Sequence24}
    (hspells : Spells done acc) (h : Parted acc) (more : List Sequence24) :
    Parted (more.foldl SequenceHistory.push acc) := by
  induction more generalizing done acc with
  | nil => exact h
  | cons sequence rest ih => exact ih (spells_push hspells sequence) (h.push hspells sequence)

theorem apart_fromSequences (l : List Sequence24) :
    (fromSequences l).runs.IsChain SequenceRun.Apart := by
  have hspells : Spells [] (([], none) : List SequenceRun × Option Sequence24) :=
    ⟨rfl, fun _ _ _ heq => by cases heq⟩
  have hparted := parted_foldl hspells ⟨List.isChain_nil, fun _ => rfl⟩ l
  exact List.isChain_reverse.mpr hparted.apart

/-! ### Consecutive arrivals -/

/-- The number of sequences that runs stand for. -/
def spelled (runs : List SequenceRun) : Nat := (runs.map fun run => run.length.count).sum

/-- One run holds the arrival at a place and the one after it. -/
def SharesRun (history : SequenceHistory) (i : Nat) : Prop :=
  ∃ before run after, history.runs = before ++ run :: after ∧ spelled before ≤ i ∧
    i + 1 < spelled before + run.length.count

/-- A full run ends with the arrival at a place. -/
def FillsRun (history : SequenceHistory) (i : Nat) : Prop :=
  ∃ before run after, history.runs = before ++ run :: after ∧
    i + 1 = spelled before + run.length.count ∧ run.length.count = MODULUS

theorem spelled_eq (runs : List SequenceRun) :
    spelled runs = (runs.flatMap SequenceRun.sequences).length := by
  rw [List.length_flatMap]
  exact congrArg List.sum (List.map_congr_left fun run _ => run.length_sequences.symm)

theorem shares_or_fills {runs : List SequenceRun} (h : runs.IsChain SequenceRun.Apart) {i : Nat}
    {sequence : Sequence24} (hi : (runs.flatMap SequenceRun.sequences)[i]? = some sequence)
    (hnext : (runs.flatMap SequenceRun.sequences)[i + 1]? = some sequence.next) :
    SharesRun ⟨runs⟩ i ∨ FillsRun ⟨runs⟩ i := by
  induction runs generalizing i with
  | nil => cases hi
  | cons run rest ih =>
    have hlength := run.length_sequences
    rw [List.flatMap_cons] at hi hnext
    rcases Nat.lt_trichotomy (i + 1) run.length.count with hin | hend | hout
    · exact .inl ⟨[], run, rest, rfl, Nat.zero_le _, by simpa [spelled] using hin⟩
    · -- the run ends here, so the next one begins where it stops
      refine .inr ⟨[], run, rest, rfl, by simpa [spelled] using hend, ?_⟩
      rw [List.getElem?_append_left (by omega), SequenceRun.getElem?_sequences (by omega)] at hi
      rw [List.getElem?_append_right (by omega), hlength, hend, Nat.sub_self] at hnext
      cases rest with
      | nil => cases hnext
      | cons later rest =>
        obtain ⟨happart, -⟩ := List.isChain_cons_cons.mp h
        have hfirst := later.length.pos
        rw [List.flatMap_cons, List.getElem?_append_left (by rwa [later.length_sequences]),
          SequenceRun.getElem?_sequences hfirst] at hnext
        refine happart ?_
        rw [SequenceRun.stop, ← hend, Function.iterate_succ_apply']
        rw [Option.some.inj hi]
        exact (Option.some.inj hnext).symm
    · rw [List.getElem?_append_right (by omega), hlength] at hi
      rw [List.getElem?_append_right (by omega), hlength,
        show i + 1 - run.length.count = i - run.length.count + 1 by omega] at hnext
      have hrest : rest.IsChain SequenceRun.Apart := h.tail
      have hcons : ∀ before, spelled (run :: before) = run.length.count + spelled before :=
        fun _ => rfl
      rcases ih hrest hi hnext with ⟨before, other, after, heq, hlow, hhigh⟩ |
        ⟨before, other, after, heq, hlast, hfull⟩
      · refine .inl ⟨run :: before, other, after, congrArg (run :: ·) heq, ?_, ?_⟩
        · rw [hcons]
          omega
        · rw [hcons]
          omega
      · refine .inr ⟨run :: before, other, after, congrArg (run :: ·) heq, ?_, hfull⟩
        rw [hcons]
        omega

/-! ### Counting -/

theorem sequenceCount_eq (runs : List SequenceRun) (count : Nat) :
    runs.foldlM (fun count run =>
      if count + run.length.count < 2 ^ 64 then some (count + run.length.count) else none) count =
      if runs = [] ∨ count + spelled runs < 2 ^ 64 then some (count + spelled runs)
      else none := by
  induction runs generalizing count with
  | nil => rfl
  | cons run rest ih =>
    have hcons : spelled (run :: rest) = run.length.count + spelled rest := rfl
    rw [List.foldlM_cons]
    by_cases hfits : count + run.length.count < 2 ^ 64
    · have hnil : rest = [] → spelled rest = 0 := by
        rintro rfl
        rfl
      rw [if_pos hfits, Option.bind_eq_bind, Option.bind_some, ih, hcons]
      by_cases hall : count + (run.length.count + spelled rest) < 2 ^ 64
      · rw [if_pos (.inr (by omega)), if_pos (.inr hall), Nat.add_assoc]
      · rw [if_neg, if_neg]
        · simpa using hall
        · rintro (hrest | hrest)
          · have := hnil hrest
            omega
          · omega
    · rw [if_neg hfits, if_neg]
      · rfl
      · rintro (hrest | hrest)
        · cases hrest
        · omega

/-- **Histories are lossless.**  The runs spell the arrivals, each has the length of a nonempty
    part of a cycle, and arrivals that follow one another are in one run unless it is full; they
    are counted as long as the count is a `usize`. -/
theorem history_lossless (l : List Sequence24) :
    (fromSequences l).sequences = l ∧
    (fromSequences l).sequenceCount = (if l.length < 2 ^ 64 then some l.length else none) ∧
    (∀ run ∈ (fromSequences l).runs, 1 ≤ run.length.count ∧ run.length.count ≤ 2 ^ 24 ∧
      RunLength.deserialize run.length.count = .ok run.length) ∧
    ∀ i sequence, l[i]? = some sequence → l[i + 1]? = some sequence.next →
      SharesRun (fromSequences l) i ∨ FillsRun (fromSequences l) i := by
  have hspelled : (fromSequences l).runs.flatMap SequenceRun.sequences = l :=
    sequences_fromSequences l
  have hlength : spelled (fromSequences l).runs = l.length := by
    rw [spelled_eq, hspelled]
  refine ⟨hspelled, ?_,
    fun run _ => ⟨run.length.pos, run.length.le, run.length.deserialize_count⟩,
    fun i sequence hi hnext => ?_⟩
  · have hcount := sequenceCount_eq (fromSequences l).runs 0
    rw [hlength, Nat.zero_add] at hcount
    rw [sequenceCount, hcount]
    by_cases hruns : (fromSequences l).runs = []
    · have hzero : l.length = 0 := by
        rw [← hlength, hruns]
        rfl
      rw [if_pos (.inl hruns), if_pos (by omega)]
    · simp [hruns]
  · rw [← hspelled] at hi hnext
    exact shares_or_fills (apart_fromSequences l) hi hnext

/-- As many arrivals as there are numbers of a `usize`, one after the other, are not counted. -/
theorem history_uncounted :
    (fromSequences (List.iterate Sequence24.next 0 (2 ^ 64))).sequenceCount ≠
      some (List.iterate Sequence24.next 0 (2 ^ 64)).length := by
  have hlong : ∀ l : List Sequence24, l.length = 2 ^ 64 → (fromSequences l).sequenceCount ≠
      some l.length := by
    intro l hl hcount
    have hspelled : spelled (fromSequences l).runs = 2 ^ 64 := by
      rw [spelled_eq, ← hl]
      exact congrArg List.length (sequences_fromSequences l)
    have hnone := sequenceCount_eq (fromSequences l).runs 0
    rw [hspelled, Nat.zero_add, if_neg] at hnone
    · rw [sequenceCount, hnone] at hcount
      cases hcount
    · rintro (hnil | hlt)
      · rw [hnil] at hspelled
        cases hspelled
      · exact absurd hlt (Nat.lt_irrefl _)
  exact hlong _ (List.length_iterate _ _ _)

end SequenceHistory

end RevyCraft.RakNet
