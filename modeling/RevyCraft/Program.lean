/-
  RevyCraft/Program.lean
  ======================
  **Programs over an interface.**

  A program is a tree of calls to the operations of an interface: it says what
  is asked for and what is done with the answer, not who answers.  A handler
  gives the operations a meaning on a state type, so one program can be run on
  two implementations of the interface, and whatever relates the operations
  relates the runs (`run_simulates`).  The rules of pre- and postconditions
  are stated for every handler.
-/
import Mathlib.Logic.Basic

namespace RevyCraft

/-! ### Results -/

theorem except_bind_eq_ok {ε α β : Type} {x : Except ε α} {f : α → Except ε β} {b : β} :
    x >>= f = .ok b ↔ ∃ a, x = .ok a ∧ f a = .ok b := by
  cases x with
  | ok a | error e => simp [bind, Except.bind]

theorem except_map_eq_ok {ε α β : Type} {x : Except ε α} {f : α → β} {b : β} :
    x.map f = .ok b ↔ ∃ a, x = .ok a ∧ f a = b := by
  cases x with
  | ok a => simp [Except.map]
  | error e => simp [Except.map]

/-! ### Programs -/

/-- An interface: its operations and the type of each answer. -/
structure Interface where
  Op : Type
  Res : Op → Type

/-- A program over an interface, which may end in a panic. -/
inductive Prog (S : Interface) (α : Type) : Type where
  | pure (a : α)
  | op (o : S.Op) (next : S.Res o → Prog S α)
  | panic (message : String)

namespace Prog

variable {S : Interface} {α β γ σ τ : Type}

/-- Sequencing. -/
protected def bind (p : Prog S α) (f : α → Prog S β) : Prog S β :=
  match p with
  | .pure a => f a
  | .op o next => .op o fun r => (next r).bind f
  | .panic message => .panic message

instance : Monad (Prog S) where
  pure := .pure
  bind := .bind

/-- A single operation. -/
def perform (o : S.Op) : Prog S (S.Res o) := .op o .pure

/-- A computation without operations. -/
def lift : Except String α → Prog S α
  | .ok a => .pure a
  | .error message => .panic message

/-- The loop that collects what its body returns. -/
def traverse (f : β → Prog S α) : List β → Prog S (List α)
  | [] => pure []
  | b :: rest => do
    let a ← f b
    let as ← traverse f rest
    pure (a :: as)

/-- The loop that collects what its body returns when it returns something. -/
def filterMap (f : β → Prog S (Option α)) : List β → Prog S (List α)
  | [] => pure []
  | b :: rest => do
    let a ← f b
    let as ← filterMap f rest
    pure (a.toList ++ as)

/-- The loop with an accumulator. -/
def fold (f : α → β → Prog S α) : α → List β → Prog S α
  | a, [] => pure a
  | a, b :: rest => do
    let a' ← f a b
    fold f a' rest

/-! ### Running -/

/-- The meaning of the operations on a state. -/
abbrev Handler (S : Interface) (σ : Type) : Type := (o : S.Op) → σ → S.Res o × σ

/-- Runs a program: its answer and the state it leaves, or its panic. -/
def run (h : Handler S σ) : Prog S α → σ → Except String (α × σ)
  | .pure a, s => .ok (a, s)
  | .op o next, s => run h (next (h o s).1) (h o s).2
  | .panic message, _ => .error message

variable {h : Handler S σ}

theorem run_bind (p : Prog S α) (f : α → Prog S β) (s : σ) :
    run h (p >>= f) s = (run h p s).bind fun r => run h (f r.1) r.2 := by
  induction p generalizing s with
  | pure a => rfl
  | op o next ih => exact ih (h o s).1 (h o s).2
  | panic message => rfl

theorem run_bind_ok {p : Prog S α} {f : α → Prog S β} {s s' : σ} {b : β}
    (hrun : run h (p >>= f) s = .ok (b, s')) :
    ∃ a t, run h p s = .ok (a, t) ∧ run h (f a) t = .ok (b, s') := by
  rw [run_bind] at hrun
  rcases hp : run h p s with message | ⟨a, t⟩
  · rw [hp] at hrun
    cases hrun
  · rw [hp] at hrun
    exact ⟨a, t, rfl, hrun⟩

theorem run_lift_ok {x : Except String α} {s s' : σ} {a : α}
    (hrun : run h (lift x : Prog S α) s = .ok (a, s')) : x = .ok a ∧ s' = s := by
  cases x with
  | ok b =>
    cases hrun
    exact ⟨rfl, rfl⟩
  | error message => cases hrun

/-! ### Pre- and postconditions -/

/-- From `P` the program ends in `Q`, unless it panics. -/
def Triple (h : Handler S σ) (P : σ → Prop) (p : Prog S α) (Q : α → σ → Prop) : Prop :=
  ∀ s, P s → ∀ a s', run h p s = .ok (a, s') → Q a s'

/-- The program keeps an invariant. -/
abbrev Keeps (h : Handler S σ) (I : σ → Prop) (p : Prog S α) : Prop := Triple h I p fun _ => I

theorem triple_pure {P : σ → Prop} {Q : α → σ → Prop} {a : α} (hq : ∀ s, P s → Q a s) :
    Triple h P (pure a) Q := by
  intro s hs b s' hrun
  cases hrun
  exact hq s hs

theorem triple_panic {P : σ → Prop} {Q : α → σ → Prop} {message : String} :
    Triple h P (.panic message) Q := by
  intro s hs b s' hrun
  cases hrun

theorem triple_perform {P : σ → Prop} {o : S.Op} {Q : S.Res o → σ → Prop}
    (hq : ∀ s, P s → Q (h o s).1 (h o s).2) : Triple h P (perform o) Q := by
  intro s hs b s' hrun
  cases hrun
  exact hq s hs

theorem triple_bind {P : σ → Prop} {p : Prog S α} {f : α → Prog S β} {R : α → σ → Prop}
    {Q : β → σ → Prop} (hp : Triple h P p R) (hf : ∀ a, Triple h (R a) (f a) Q) :
    Triple h P (p >>= f) Q := by
  intro s hs b s' hrun
  obtain ⟨a, t, hrun, hrest⟩ := run_bind_ok hrun
  exact hf a t (hp s hs a t hrun) b s' hrest

theorem triple_lift {P : σ → Prop} {x : Except String α} {Q : α → σ → Prop}
    (hq : ∀ a, x = .ok a → ∀ s, P s → Q a s) : Triple h P (lift x) Q := by
  intro s hs a s' hrun
  obtain ⟨hx, rfl⟩ := run_lift_ok hrun
  exact hq a hx s' hs

theorem Triple.mono {P P' : σ → Prop} {p : Prog S α} {Q Q' : α → σ → Prop}
    (ht : Triple h P p Q) (hP : ∀ s, P' s → P s) (hQ : ∀ a s, Q a s → Q' a s) :
    Triple h P' p Q' := by
  intro s hs a s' hrun
  exact hQ a s' (ht s (hP s hs) a s' hrun)

theorem keeps_filterMap {I : σ → Prop} {f : β → Prog S (Option α)} (bs : List β)
    (hf : ∀ b ∈ bs, Keeps h I (f b)) : Keeps h I (filterMap f bs) := by
  induction bs with
  | nil => exact triple_pure fun _ hs => hs
  | cons b rest ih =>
    refine triple_bind (hf b List.mem_cons_self) fun a => ?_
    refine triple_bind (ih fun b' hb' => hf b' (List.mem_cons_of_mem _ hb')) fun as => ?_
    exact triple_pure fun _ hs => hs

theorem triple_filterMap_of {I : σ → Prop} {P : α → Prop} {f : β → Prog S (Option α)}
    (hf : ∀ b, Triple h I (f b) fun found s => I s ∧ ∀ a, found = some a → P a) (bs : List β) :
    Triple h I (filterMap f bs) fun as s => I s ∧ ∀ a ∈ as, P a := by
  induction bs with
  | nil => exact triple_pure fun _ hs => ⟨hs, fun a ha => by cases ha⟩
  | cons b rest ih =>
    intro s hs as s' hrun
    obtain ⟨found, t, hfound, hrest⟩ := run_bind_ok hrun
    obtain ⟨others, u, hothers, hlast⟩ := run_bind_ok hrest
    cases hlast
    obtain ⟨ht, hfirst⟩ := hf b s hs found t hfound
    obtain ⟨hu, hlater⟩ := ih t ht others _ hothers
    refine ⟨hu, fun a ha => ?_⟩
    rcases List.mem_append.mp ha with ha | ha
    · exact hfirst a (Option.mem_toList.mp ha)
    · exact hlater a ha

theorem triple_filterMap {P : α → Prop} {f : β → Prog S (Option α)}
    (hf : ∀ b, Triple h (fun _ => True) (f b) fun found _ => ∀ a, found = some a → P a)
    (bs : List β) :
    Triple h (fun _ => True) (filterMap f bs) fun as _ => ∀ a ∈ as, P a := by
  intro s hs as s' hrun
  refine (triple_filterMap_of (I := fun _ => True) (P := P) (fun b => ?_) bs s hs as s' hrun).2
  exact fun s hs found t hfound => ⟨trivial, hf b s hs found t hfound⟩

/-! ### The operations of a program -/

/-- Every operation the program can reach is in `A`. -/
def Uses (A : S.Op → Prop) : Prog S α → Prop
  | .pure _ => True
  | .op o next => A o ∧ ∀ r, Uses A (next r)
  | .panic _ => True

variable {A : S.Op → Prop}

theorem uses_pure (a : α) : Uses A (pure a : Prog S α) := trivial

theorem uses_perform {o : S.Op} (ho : A o) : Uses A (perform o) := ⟨ho, fun _ => trivial⟩

theorem uses_bind {p : Prog S α} {f : α → Prog S β} (hp : Uses A p) (hf : ∀ a, Uses A (f a)) :
    Uses A (p >>= f) := by
  induction p with
  | pure a => exact hf a
  | op o next ih => exact ⟨hp.1, fun r => ih r (hp.2 r)⟩
  | panic message => trivial

theorem uses_lift (x : Except String α) : Uses A (lift x : Prog S α) := by
  cases x <;> trivial

theorem uses_traverse {f : β → Prog S α} (hf : ∀ b, Uses A (f b)) (bs : List β) :
    Uses A (traverse f bs) := by
  induction bs with
  | nil => trivial
  | cons b rest ih => exact uses_bind (hf b) fun _ => uses_bind ih fun _ => trivial

theorem uses_filterMap {f : β → Prog S (Option α)} (hf : ∀ b, Uses A (f b)) (bs : List β) :
    Uses A (filterMap f bs) := by
  induction bs with
  | nil => trivial
  | cons b rest ih => exact uses_bind (hf b) fun _ => uses_bind ih fun _ => trivial

theorem uses_fold {f : α → β → Prog S α} (hf : ∀ a b, Uses A (f a b)) (a : α) (bs : List β) :
    Uses A (fold f a bs) := by
  induction bs generalizing a with
  | nil => trivial
  | cons b rest ih => exact uses_bind (hf a b) fun a' => ih a'

theorem Uses.mono {B : S.Op → Prop} (hAB : ∀ o, A o → B o) {p : Prog S α} (hp : Uses A p) :
    Uses B p := by
  induction p with
  | pure a => trivial
  | op o next ih => exact ⟨hAB o hp.1, fun r => ih r (hp.2 r)⟩
  | panic message => trivial

theorem Uses.keeps {I : σ → Prop} (ho : ∀ o, A o → ∀ s, I s → I (h o s).2) {p : Prog S α}
    (hp : Uses A p) : Keeps h I p := by
  induction p with
  | pure a => exact triple_pure fun _ hs => hs
  | op o next ih =>
    intro s hs a s' hrun
    exact ih (h o s).1 (hp.2 _) (h o s).2 (ho o hp.1 s hs) a s' hrun
  | panic message => exact triple_panic

/-! ### Two implementations -/

/-- Two outcomes agree: the same answer and related states, or the same panic. -/
def Agree (R : σ → τ → Prop) : Except String (α × σ) → Except String (α × τ) → Prop
  | .ok (a, s), .ok (b, t) => a = b ∧ R s t
  | .error m, .error n => m = n
  | _, _ => False

theorem Agree.ok {R : σ → τ → Prop} {a : α} {s : σ} {y : Except String (α × τ)}
    (h : Agree R (.ok (a, s)) y) : ∃ t, y = .ok (a, t) ∧ R s t := by
  rcases y with message | ⟨b, t⟩
  · exact h.elim
  · obtain ⟨rfl, hR⟩ := h
    exact ⟨t, rfl, hR⟩

/-- **Simulation.**  When related states answer an operation alike and stay related, they run
    alike every program that uses only such operations. -/
theorem run_simulates {g : Handler S τ} {R : σ → τ → Prop}
    (ho : ∀ o, A o → ∀ s t, R s t → (h o s).1 = (g o t).1 ∧ R (h o s).2 (g o t).2)
    {p : Prog S α} (hp : Uses A p) {s : σ} {t : τ} (hR : R s t) :
    Agree R (run h p s) (run g p t) := by
  induction p generalizing s t with
  | pure a => exact ⟨rfl, hR⟩
  | op o next ih =>
    obtain ⟨hres, hstate⟩ := ho o hp.1 s t hR
    have hnext := ih (h o s).1 (hp.2 _) hstate
    rw [hres] at hnext
    simp only [run, hres]
    exact hnext
  | panic message => rfl

end Prog

end RevyCraft
