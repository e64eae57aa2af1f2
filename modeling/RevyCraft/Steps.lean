/-
  RevyCraft/Steps.lean
  ====================
  **Runs of a step function** — a state, the steps that it can take, and what
  holds after any number of them.

  A run is a list of steps that can all happen, one after the other.  `Along`
  says that a condition holds of every step of a run and the state it finds;
  `run_keeps` is the rule that every result about a whole run comes from.
-/
import Mathlib

namespace RevyCraft.Steps

variable {S A : Type} (step : S → A → Option S)

/-- The steps one after the other, as long as each can happen. -/
def run : S → List A → Option S
  | s, [] => some s
  | s, a :: rest => (step s a).bind fun s' => run s' rest

/-- Each step that a run comes to meets the condition, in the state it finds. -/
def Along (P : S → A → Prop) : S → List A → Prop
  | _, [] => True
  | s, a :: rest => P s a ∧ ∀ s' ∈ step s a, Along P s' rest

instance instDecidableAlong (P : S → A → Prop) [∀ s a, Decidable (P s a)] :
    ∀ s steps, Decidable (Along step P s steps)
  | _, [] => inferInstanceAs (Decidable True)
  | s, a :: rest =>
    match h : step s a with
    | none => decidable_of_iff (P s a) (by simp [Along, h])
    | some s' =>
      have := instDecidableAlong P s' rest
      decidable_of_iff (P s a ∧ Along step P s' rest) (by simp [Along, h])

variable {step} {s s' s'' : S}

theorem run_append {steps steps' : List A} (h : run step s steps = some s')
    (h' : run step s' steps' = some s'') : run step s (steps ++ steps') = some s'' := by
  induction steps generalizing s with
  | nil =>
    cases h
    exact h'
  | cons a rest ih =>
    obtain ⟨t, ht, h⟩ := Option.bind_eq_some_iff.mp h
    rw [List.cons_append, run, ht]
    exact ih h

/-- **The rule for runs**: what every step keeps, where it meets the condition, holds at the
    end. -/
theorem run_keeps {I : S → Prop} {P : S → A → Prop} {steps : List A}
    (hstep : ∀ s a s', I s → P s a → step s a = some s' → I s') (hs : I s)
    (halong : Along step P s steps) (h : run step s steps = some s') : I s' := by
  induction steps generalizing s with
  | nil =>
    cases h
    exact hs
  | cons a rest ih =>
    obtain ⟨t, ht, h⟩ := Option.bind_eq_some_iff.mp h
    exact ih (hstep s a t hs halong.1 ht) (halong.2 t ht) h

theorem along_true (s : S) (steps : List A) : Along step (fun _ _ => True) s steps := by
  induction steps generalizing s with
  | nil => trivial
  | cons a rest ih => exact ⟨trivial, fun t _ => ih t⟩

theorem Along.mono {P Q : S → A → Prop} {steps : List A} (h : ∀ s a, P s a → Q s a)
    (halong : Along step P s steps) : Along step Q s steps := by
  induction steps generalizing s with
  | nil => trivial
  | cons a rest ih => exact ⟨h s a halong.1, fun t ht => ih (halong.2 t ht)⟩

end RevyCraft.Steps
