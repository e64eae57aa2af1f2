/-
  RevyCraft/Streams.lean
  ======================
  **Streams cut into pieces** — what the two ends of a stream may rely on,
  wherever the stream is cut between them.

    * A *transformer* turns the symbols of a stream one for one and keeps a
      state.  Two transformers that are each other's inverse on whole streams
      are so however each side cuts the stream, also where a transformer is
      replaced by a copy of itself.
    * A *decoder* takes frames off the front of a buffer that is appended to.
      If it knows a whole frame at the front of a buffer from a part of one, the
      frames of a stream come out in order whatever the schedule.
-/
import Mathlib.Data.List.Basic
import Mathlib.Data.List.TakeDrop
import Mathlib.Data.List.DropRight

namespace Streams

/-! ### Transformers -/

section Transformers

variable {σ α β : Type}

/-- A stretch in the life of a transformer: it takes a piece of the stream, or is replaced. -/
inductive Stretch (α : Type) where
  | piece (symbols : List α)
  | replaced

def Stretch.symbols : Stretch α → List α
  | .piece symbols => symbols
  | .replaced => []

def streamOf (stretches : List (Stretch α)) : List α := stretches.flatMap Stretch.symbols

/-- What a transformer writes over its life, and the state it ends in. -/
def transform (apply : σ → List α → σ × List β) (replace : σ → σ) :
    σ → List (Stretch α) → σ × List β
  | state, [] => (state, [])
  | state, .piece symbols :: stretches =>
    let written := apply state symbols
    let later := transform apply replace written.1 stretches
    (later.1, written.2 ++ later.2)
  | state, .replaced :: stretches => transform apply replace (replace state) stretches

/-- What is written does not depend on where the stream is cut. -/
structure Sequential (apply : σ → List α → σ × List β) : Prop where
  nil : ∀ state, apply state [] = (state, [])
  append : ∀ state first second, apply state (first ++ second) =
    ((apply (apply state first).1 second).1,
      (apply state first).2 ++ (apply (apply state first).1 second).2)

/-- The second takes back what the first did and ends in the state of the first. -/
def Inverts (decode : σ → List β → σ × List α) (encode : σ → List α → σ × List β) : Prop :=
  ∀ state symbols, decode state (encode state symbols).2 = ((encode state symbols).1, symbols)

theorem Sequential.transform_eq {apply : σ → List α → σ × List β} {replace : σ → σ}
    (h : Sequential apply) (hreplace : ∀ state, replace state = state) (state : σ)
    (stretches : List (Stretch α)) :
    transform apply replace state stretches = apply state (streamOf stretches) := by
  induction stretches generalizing state with
  | nil => simp [transform, streamOf, h.nil]
  | cons stretch stretches ih =>
    cases stretch with
    | piece symbols =>
      have hstream : streamOf (.piece symbols :: stretches) = symbols ++ streamOf stretches := rfl
      rw [hstream, h.append, transform]
      simp only [ih]
    | replaced =>
      rw [transform, hreplace, ih]
      rfl

theorem Inverts.transform {encode : σ → List α → σ × List β} {decode : σ → List β → σ × List α}
    {replace : σ → σ} (h : Inverts decode encode) (hencode : Sequential encode)
    (hdecode : Sequential decode) (hreplace : ∀ state, replace state = state) (state : σ)
    {sent : List (Stretch α)} {received : List (Stretch β)}
    (hreceived : streamOf received = (transform encode replace state sent).2) :
    transform decode replace state received =
      ((transform encode replace state sent).1, streamOf sent) := by
  rw [hdecode.transform_eq hreplace, hreceived, hencode.transform_eq hreplace]
  exact h state (streamOf sent)

end Transformers

/-! ### Decoders -/

section Decoders

variable {α φ ε : Type}

/-- What happens to a buffer. -/
inductive Turn (α : Type) where
  | arrive (symbols : List α)
  | call

def Turn.symbols : Turn α → List α
  | .arrive symbols => symbols
  | .call => []

def arrived (turns : List (Turn α)) : List α := turns.flatMap Turn.symbols

@[simp] theorem arrived_nil : arrived ([] : List (Turn α)) = [] := rfl

@[simp] theorem arrived_arrive (symbols : List α) (turns : List (Turn α)) :
    arrived (.arrive symbols :: turns) = symbols ++ arrived turns := rfl

@[simp] theorem arrived_call (turns : List (Turn α)) : arrived (.call :: turns) = arrived turns := rfl

/-- The frames that come out of a buffer, and what they leave in it. -/
def decodeTurns (next : List α → Except ε (Option φ × List α)) :
    List α → List (Turn α) → Except ε (List φ × List α)
  | buffer, [] => .ok ([], buffer)
  | buffer, .arrive symbols :: turns => decodeTurns next (buffer ++ symbols) turns
  | buffer, .call :: turns => do
    let called ← next buffer
    let later ← decodeTurns next called.2 turns
    return (called.1.toList ++ later.1, later.2)

/-- The decoder takes a frame off the front of a buffer exactly when it is whole. -/
structure Delimits (next : List α → Except ε (Option φ × List α)) (encode : φ → List α)
    (Valid : φ → Prop) : Prop where
  empty : next [] = .ok (none, [])
  whole : ∀ frame rest, Valid frame → next (encode frame ++ rest) = .ok (some frame, rest)
  part : ∀ frame part missing, Valid frame → encode frame = part ++ missing → missing ≠ [] →
    next part = .ok (none, part)

variable {next : List α → Except ε (Option φ × List α)} {encode : φ → List α} {Valid : φ → Prop}
  {frames : List φ} {buffer rest : List α}

theorem Delimits.call (h : Delimits next encode Valid) (hvalid : ∀ frame ∈ frames, Valid frame)
    (hstream : buffer ++ rest = frames.flatMap encode) :
    (∃ frame later left, frames = frame :: later ∧ next buffer = .ok (some frame, left) ∧
      left ++ rest = later.flatMap encode) ∨
    (next buffer = .ok (none, buffer) ∧
      ∀ frame ∈ frames.head?, buffer.length < (encode frame).length) := by
  cases frames with
  | nil =>
    have hempty : buffer = [] := (List.append_eq_nil_iff.mp hstream).1
    subst hempty
    exact .inr ⟨h.empty, by simp⟩
  | cons frame later =>
    have hframe : Valid frame := hvalid frame (by simp)
    rw [List.flatMap_cons, List.append_eq_append_iff] at hstream
    rcases hstream with ⟨missing, hencode, hrest⟩ | ⟨left, hbuffer, hlater⟩
    · by_cases hmissing : missing = []
      · subst hmissing
        rw [List.append_nil] at hencode
        refine .inl ⟨frame, later, [], rfl, ?_, by simpa using hrest⟩
        rw [← hencode, ← List.append_nil (encode frame)]
        exact h.whole frame [] hframe
      · refine .inr ⟨h.part frame buffer missing hframe hencode hmissing, ?_⟩
        simp only [List.head?_cons, Option.mem_def, Option.some.injEq, forall_eq']
        rw [hencode, List.length_append]
        exact Nat.lt_add_of_pos_right (List.length_pos_iff.mpr hmissing)
    · exact .inl ⟨frame, later, left, rfl, hbuffer ▸ h.whole frame left hframe, hlater.symm⟩

/-- Whatever the schedule, the frames come out in order and nothing is lost between what came out
    and what is still to come. -/
theorem Delimits.decodeTurns (h : Delimits next encode Valid)
    (hvalid : ∀ frame ∈ frames, Valid frame) (buffer : List α) {turns : List (Turn α)}
    (hstream : buffer ++ arrived turns ++ rest = frames.flatMap encode) :
    ∃ taken left, decodeTurns next buffer turns = .ok (frames.take taken, left) ∧
      left ++ rest = (frames.drop taken).flatMap encode := by
  induction turns generalizing buffer frames with
  | nil => exact ⟨0, buffer, rfl, by simpa using hstream⟩
  | cons turn turns ih =>
    cases turn with
    | arrive symbols =>
      obtain ⟨taken, left, hdecoded, hleft⟩ :=
        ih hvalid (buffer ++ symbols) (by simpa using hstream)
      exact ⟨taken, left, hdecoded, hleft⟩
    | call =>
      rw [arrived_call, List.append_assoc] at hstream
      rcases h.call hvalid hstream with ⟨frame, later, left, rfl, hnext, hleft⟩ | ⟨hnext, -⟩
      · obtain ⟨taken, last, hdecoded, hlast⟩ :=
          ih (fun frame hmem => hvalid frame (by simp [hmem])) left
            ((List.append_assoc ..).trans hleft)
        refine ⟨taken + 1, last, ?_, hlast⟩
        simp [Streams.decodeTurns, hnext, hdecoded, pure, Except.pure, bind, Except.bind]
      · obtain ⟨taken, last, hdecoded, hlast⟩ :=
          ih hvalid buffer ((List.append_assoc ..).trans hstream)
        refine ⟨taken, last, ?_, hlast⟩
        simp [Streams.decodeTurns, hnext, hdecoded, pure, Except.pure, bind, Except.bind]

theorem decodeTurns_append {first second : List (Turn α)} {early later : List φ}
    {left last : List α} (hfirst : decodeTurns next buffer first = .ok (early, left))
    (hsecond : decodeTurns next left second = .ok (later, last)) :
    decodeTurns next buffer (first ++ second) = .ok (early ++ later, last) := by
  induction first generalizing buffer early with
  | nil =>
    simp only [decodeTurns, Except.ok.injEq, Prod.mk.injEq] at hfirst
    obtain ⟨rfl, rfl⟩ := hfirst
    simpa using hsecond
  | cons turn first ih =>
    cases turn with
    | arrive symbols => exact ih hfirst
    | call =>
      rcases hnext : next buffer with error | called
      · simp [decodeTurns, hnext, bind, Except.bind] at hfirst
      · rcases hdecoded : decodeTurns next called.2 first with error | decoded
        · simp [decodeTurns, hnext, hdecoded, bind, Except.bind] at hfirst
        · simp only [decodeTurns, hnext, hdecoded, bind, Except.bind, pure, Except.pure,
            Except.ok.injEq, Prod.mk.injEq] at hfirst
          obtain ⟨rfl, rfl⟩ := hfirst
          have hrest := ih hdecoded
          simp [decodeTurns, hnext, hrest, bind, Except.bind, pure, Except.pure]

theorem decodeTurns_waiting (hnext : next buffer = .ok (none, buffer)) (calls : Nat) :
    decodeTurns next buffer (List.replicate calls .call) = .ok ([], buffer) := by
  induction calls with
  | zero => rfl
  | succ calls ih =>
    simp [List.replicate_succ, decodeTurns, hnext, ih, bind, Except.bind, pure, Except.pure]

theorem Delimits.drain (h : Delimits next encode Valid) (hvalid : ∀ frame ∈ frames, Valid frame)
    (hstream : buffer ++ rest = frames.flatMap encode) {calls : Nat}
    (hcalls : frames.length ≤ calls) :
    ∃ taken left, Streams.decodeTurns next buffer (List.replicate calls .call) =
        .ok (frames.take taken, left) ∧
      left ++ rest = (frames.drop taken).flatMap encode ∧
      ∀ frame ∈ (frames.drop taken).head?, left.length < (encode frame).length := by
  induction calls generalizing frames buffer with
  | zero =>
    have hframes : frames = [] := List.length_eq_zero_iff.mp (Nat.le_zero.mp hcalls)
    subst hframes
    exact ⟨0, buffer, rfl, hstream, by simp⟩
  | succ calls ih =>
    rcases h.call hvalid hstream with ⟨frame, later, left, rfl, hnext, hleft⟩ | ⟨hnext, hshort⟩
    · obtain ⟨taken, last, hdecoded, hlast⟩ :=
        ih (fun frame hmem => hvalid frame (by simp [hmem])) hleft (by simpa using hcalls)
      refine ⟨taken + 1, last, ?_, hlast⟩
      simp [List.replicate_succ, Streams.decodeTurns, hnext, hdecoded, pure, Except.pure, bind,
        Except.bind]
    · exact ⟨0, buffer, decodeTurns_waiting hnext _, hstream, hshort⟩

/-- After a schedule and as many calls as there are frames, every frame that has arrived is out,
    and what is left is the part of the next one. -/
theorem Delimits.delivers (h : Delimits next encode Valid) (hvalid : ∀ frame ∈ frames, Valid frame)
    {turns : List (Turn α)} (hstream : arrived turns ++ rest = frames.flatMap encode)
    {calls : Nat} (hcalls : frames.length ≤ calls) :
    ∃ taken left, Streams.decodeTurns next [] (turns ++ List.replicate calls .call) =
        .ok (frames.take taken, left) ∧
      left ++ rest = (frames.drop taken).flatMap encode ∧
      ∀ frame ∈ (frames.drop taken).head?, left.length < (encode frame).length := by
  obtain ⟨early, buffer, hearly, hbuffer⟩ := h.decodeTurns hvalid [] hstream
  have hlater : ∀ frame ∈ frames.drop early, Valid frame :=
    fun frame hmem => hvalid frame (List.mem_of_mem_drop hmem)
  obtain ⟨late, left, hlate, hleft, hshort⟩ := h.drain hlater hbuffer
    (Nat.le_trans (by simp) hcalls)
  refine ⟨early + late, left, ?_, ?_, ?_⟩
  · rw [decodeTurns_append hearly hlate, List.take_add]
  · rw [hleft, List.drop_drop]
  · rwa [List.drop_drop] at hshort

end Decoders

end Streams
