/-
  RevyCraft/Act.lean
  ==================
  **Computations over a state that can fail**, and the rules that carry a
  pre- and postcondition through them.

  `Act ε σ α` keeps the state on failure as well as on success: an `async fn`
  of the source that leaves early with `?` has already made every change up
  to that point, and some properties (what was handed to a callee so far)
  have to be stated about exactly those states.

  `Spec P x Q E` is the judgement "from a state satisfying `P`, the
  computation `x` either returns a value and a state related by `Q` or fails
  in a state satisfying `E`".  Nothing in this file names the server.
-/
import Mathlib.Tactic.Basic

namespace RevyCraft

/-- A computation over a state `σ`, returning `α` or failing with `ε`. -/
def Act (ε σ α : Type) : Type := σ → Except ε α × σ

namespace Act

variable {ε σ α β : Type}

instance : Monad (Act ε σ) where
  pure a := fun s => (.ok a, s)
  bind x f := fun s =>
    match x s with
    | (.ok a, s') => f a s'
    | (.error e, s') => (.error e, s')

def get : Act ε σ σ := fun s => (.ok s, s)
def modify (f : σ → σ) : Act ε σ Unit := fun s => (.ok (), f s)
def throw (e : ε) : Act ε σ α := fun s => (.error e, s)

/-- A fallible pure computation, run without touching the state. -/
def lift (x : Except ε α) : Act ε σ α := fun s => (x, s)

/-- A `for` loop over a list. -/
def forEach (f : β → Act ε σ Unit) : List β → Act ε σ Unit
  | [] => pure ()
  | b :: rest => f b >>= fun _ => forEach f rest

@[simp] theorem pure_apply (a : α) (s : σ) : (pure a : Act ε σ α) s = (.ok a, s) := rfl

theorem bind_apply (x : Act ε σ α) (f : α → Act ε σ β) (s : σ) :
    (x >>= f) s = match x s with
      | (.ok a, s') => f a s'
      | (.error e, s') => (.error e, s') := rfl

theorem bind_eq_ok {x : Act ε σ α} {f : α → Act ε σ β} {s s' : σ} {b : β}
    (h : (x >>= f) s = (.ok b, s')) : ∃ a t, x s = (.ok a, t) ∧ f a t = (.ok b, s') := by
  rw [bind_apply] at h
  rcases hx : x s with ⟨r, t⟩
  rw [hx] at h
  cases r with
  | ok a => exact ⟨a, t, rfl, h⟩
  | error e => cases h

theorem lift_eq_ok {x : Except ε α} {s s' : σ} {a : α} (h : (lift x : Act ε σ α) s = (.ok a, s')) :
    x = .ok a ∧ s' = s := by
  cases h
  exact ⟨rfl, rfl⟩

/-! ### Pre- and postconditions -/

/-- From `P`, the computation returns in `Q` or fails in `E`. -/
def Spec (P : σ → Prop) (x : Act ε σ α) (Q : α → σ → Prop) (E : σ → Prop) : Prop :=
  ∀ s, P s → match x s with
    | (.ok a, s') => Q a s'
    | (.error _, s') => E s'

theorem Spec.ok {P : σ → Prop} {x : Act ε σ α} {Q : α → σ → Prop} {E : σ → Prop}
    (h : Spec P x Q E) {s s' : σ} {a : α} (hs : P s) (hx : x s = (.ok a, s')) : Q a s' := by
  have := h s hs
  rwa [hx] at this

theorem Spec.error {P : σ → Prop} {x : Act ε σ α} {Q : α → σ → Prop} {E : σ → Prop}
    (h : Spec P x Q E) {s s' : σ} {e : ε} (hs : P s) (hx : x s = (.error e, s')) : E s' := by
  have := h s hs
  rwa [hx] at this

theorem spec_pure {P : σ → Prop} {Q : α → σ → Prop} {E : σ → Prop} {a : α}
    (h : ∀ s, P s → Q a s) : Spec P (pure a : Act ε σ α) Q E := h

theorem spec_throw {P : σ → Prop} {Q : α → σ → Prop} {E : σ → Prop} {e : ε}
    (h : ∀ s, P s → E s) : Spec P (throw e : Act ε σ α) Q E := h

theorem spec_modify {P : σ → Prop} {Q : Unit → σ → Prop} {E : σ → Prop} {f : σ → σ}
    (h : ∀ s, P s → Q () (f s)) : Spec P (modify f : Act ε σ Unit) Q E := h

theorem spec_bind {P : σ → Prop} {x : Act ε σ α} {f : α → Act ε σ β} {Q : β → σ → Prop}
    {E : σ → Prop} {R : α → σ → Prop} (hx : Spec P x R E) (hf : ∀ a, Spec (R a) (f a) Q E) :
    Spec P (x >>= f) Q E := by
  intro s hs
  have h := hx s hs
  rw [bind_apply]
  rcases hxs : x s with ⟨r, s'⟩
  rw [hxs] at h
  cases r with
  | ok a => exact hf a s' h
  | error e => exact h

theorem spec_get_bind {P : σ → Prop} {f : σ → Act ε σ β} {Q : β → σ → Prop} {E : σ → Prop}
    (h : ∀ s, P s → Spec (fun t => t = s) (f s) Q E) : Spec P (get >>= f) Q E :=
  fun s hs => h s hs s rfl

theorem spec_lift_bind {P : σ → Prop} {x : Except ε α} {f : α → Act ε σ β}
    {Q : β → σ → Prop} {E : σ → Prop} (hE : ∀ s, P s → E s)
    (h : ∀ a, x = .ok a → Spec P (f a) Q E) : Spec P (lift x >>= f) Q E := by
  intro s hs
  cases hx : x with
  | ok a => exact h a hx s hs
  | error e => exact hE s hs

theorem Spec.mono {P P' : σ → Prop} {x : Act ε σ α} {Q Q' : α → σ → Prop} {E E' : σ → Prop}
    (h : Spec P x Q E) (hP : ∀ s, P' s → P s) (hQ : ∀ a s, Q a s → Q' a s)
    (hE : ∀ s, E s → E' s) : Spec P' x Q' E' := by
  intro s hs
  have hx := h s (hP s hs)
  rcases hxs : x s with ⟨r, s'⟩
  rw [hxs] at hx
  cases r with
  | ok a => exact hQ a s' hx
  | error e => exact hE s' hx

theorem spec_forEach {I : σ → Prop} {E : σ → Prop} {f : β → Act ε σ Unit} {xs : List β}
    (h : ∀ b ∈ xs, Spec I (f b) (fun _ => I) E) : Spec I (forEach f xs) (fun _ => I) E := by
  induction xs with
  | nil => exact spec_pure fun _ hs => hs
  | cons b rest ih =>
    refine spec_bind (h b List.mem_cons_self) fun _ => ih ?_
    intro b' hb'
    exact h b' (List.mem_cons_of_mem _ hb')

/-! ### Two runs side by side -/

/-- From states related by `R`, the computation gives the same result and states related by
    `R` again. -/
def Related (R : σ → σ → Prop) (x : Act ε σ α) : Prop :=
  ∀ s s', R s s' → (x s).1 = (x s').1 ∧ R (x s).2 (x s').2

section Related

variable {R : σ → σ → Prop}

theorem related_pure (a : α) : Related R (pure a : Act ε σ α) := fun _ _ h => ⟨rfl, h⟩

theorem related_throw (e : ε) : Related R (throw e : Act ε σ α) := fun _ _ h => ⟨rfl, h⟩

theorem related_lift (x : Except ε α) : Related R (lift x : Act ε σ α) := fun _ _ h => ⟨rfl, h⟩

theorem related_modify {f : σ → σ} (h : ∀ s s', R s s' → R (f s) (f s')) :
    Related R (modify f : Act ε σ Unit) := fun s s' hs => ⟨rfl, h s s' hs⟩

theorem related_bind {x : Act ε σ α} {f : α → Act ε σ β} (hx : Related R x)
    (hf : ∀ a, Related R (f a)) : Related R (x >>= f) := by
  intro s s' hs
  obtain ⟨hresult, hstate⟩ := hx s s' hs
  rw [bind_apply, bind_apply]
  rcases hxs : x s with ⟨r, t⟩
  rcases hxs' : x s' with ⟨r', t'⟩
  rw [hxs, hxs'] at hresult hstate
  dsimp only at hresult hstate
  subst hresult
  cases r with
  | ok a => exact hf a t t' hstate
  | error e => exact ⟨rfl, hstate⟩

theorem related_get_bind {f : σ → Act ε σ β} (hsame : ∀ s s', R s s' → f s = f s')
    (hf : ∀ s, Related R (f s)) : Related R (get >>= f) := by
  intro s s' hs
  change (f s s).1 = (f s' s').1 ∧ R (f s s).2 (f s' s').2
  rw [← hsame s s' hs]
  exact hf s s s' hs

theorem related_forEach {f : β → Act ε σ Unit} {xs : List β} (h : ∀ b, Related R (f b)) :
    Related R (forEach f xs) := by
  induction xs with
  | nil => exact related_pure ()
  | cons b rest ih => exact related_bind (h b) fun _ => ih

end Related

end Act

end RevyCraft
