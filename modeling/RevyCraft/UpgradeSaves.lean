/-
  RevyCraft/UpgradeSaves.lean
  ===========================
  **The world directory over an executable upgrade** (`runtime/bootstrap/loop.rs`,
  `runtime/bootstrap/builder.rs`, `runtime/core_store.rs`).

  The parent and the child write the same directory.  A save captures a version
  in the runtime loop and writes it in a task of its own, which neither the
  gate nor the end of the loop stops.  Behind the closed gate the upgrade seals
  the version with its persisted and dirty revisions; the child starts from what
  was sealed, whatever the parent has saved since, and saves as soon as its own
  loop runs.

  A call waits for the gate of its process, so with the gate closed it is no
  step.  A tick that comes then waits inside the loop, and the loop starts no
  save while it waits.  How the sealed version travels to the child is left out.
-/
import RevyCraft.CoreStore
import RevyCraft.Steps

namespace RevyCraft.Upgrade

open Std
open RevyCraft.Core

variable (C : ContentBehavior)

/-! ### The two processes -/

inductive RuntimeLoop where
  | running
  /-- In a tick that waits for the gate. -/
  | waiting
  | left
  deriving DecidableEq

structure ServerProcess where
  store : CoreStore
  /-- The version that the running save has captured. -/
  saving : Option CoreVersion
  /-- The data-plane gate is open. -/
  admitting : Bool
  loop : RuntimeLoop
  /-- The revision of the last save that the process has completed. -/
  saved : Option CoreRevision

inductive ProcessStep where
  | store (step : StoreStep)
  /-- A tick finds the gate closed. -/
  | tickWaits
  /-- The storage reports an error, which the failure policy skips. -/
  | saveFails

namespace ServerProcess

def new (store : CoreStore) (admitting : Bool) : ServerProcess :=
  ⟨store, none, admitting, .running, none⟩

/-- The store of the process with the directory it writes to. -/
def under (process : ServerProcess) (directory : WorldSnapshot) : SavingStore :=
  ⟨process.store, process.saving, directory⟩

def takes (process : ServerProcess) : StoreStep → Bool
  | .apply _ _ _ => process.admitting && process.loop ≠ .left
  | .builtinTick _ => process.admitting && process.loop = .running
  | .gameplayTicks _ => process.admitting && process.loop = .running
  | .saveBegins => process.loop = .running
  | .saveEnds => process.saving.isSome

/-- The revision that a step saves. -/
def saves (process : ServerProcess) : StoreStep → Option CoreRevision
  | .saveEnds =>
    process.saving.bind fun version =>
      match version.state.snapshot C with
      | .ok _ => some version.revision
      | .error _ => none
  | _ => none

def step (process : ServerProcess) (directory : WorldSnapshot) :
    ProcessStep → Option (ServerProcess × WorldSnapshot)
  | .store step =>
    if process.takes step then
      let next := (process.under directory).step C step
      some ({ process with
          store := next.store
          saving := next.saving
          saved := (process.saves C step).or process.saved },
        next.written)
    else none
  | .tickWaits =>
    if process.admitting = false ∧ process.loop = .running then
      some ({ process with loop := .waiting }, directory)
    else none
  | .saveFails =>
    if process.saving.isSome then some ({ process with saving := none }, directory) else none

/-- The gate opens again, and a tick that has waited goes on. -/
def resume (process : ServerProcess) : ServerProcess :=
  { process with
    admitting := true
    loop := if process.loop = .waiting then .running else process.loop }

end ServerProcess

/-! ### The hand-off -/

structure Handoff where
  parent : ServerProcess
  /-- `CommitV1`, as far as the core goes: the version, with what was persisted and what was dirty
      when it was sealed. -/
  sealed : Option CoreStore
  child : Option ServerProcess
  directory : WorldSnapshot

inductive HandoffStep where
  | parent (step : ProcessStep)
  | child (step : ProcessStep)
  /-- The parent closes its gate. -/
  | freeze
  /-- `seal_final_core_delta`. -/
  | sealCore
  /-- The upgrade is given up and the parent opens its gate. -/
  | abort
  /-- The child starts its runtime from what was sealed. -/
  | commit
  /-- The child opens its gate. -/
  | activate
  /-- The parent leaves its loop. -/
  | retire

namespace Handoff

def new (core : ServerCore) (stored : WorldSnapshot) : Handoff :=
  ⟨.new (.new core) true, none, none, stored⟩

def step (s : Handoff) : HandoffStep → Option Handoff
  | .parent step =>
    (s.parent.step C s.directory step).map fun next =>
      { s with parent := next.1, directory := next.2 }
  | .child step =>
    s.child.bind fun child =>
      (child.step C s.directory step).map fun next =>
        { s with child := some next.1, directory := next.2 }
  | .freeze =>
    if s.parent.admitting then some { s with parent := { s.parent with admitting := false } }
    else none
  | .sealCore =>
    if s.parent.admitting = false ∧ s.child = none ∧ s.sealed = none then
      some { s with sealed := some s.parent.store }
    else none
  | .abort =>
    if s.parent.admitting = false ∧ s.child = none then
      some { s with parent := s.parent.resume, sealed := none }
    else none
  | .commit =>
    if s.child = none then
      s.sealed.map fun store => { s with child := some (.new store false) }
    else none
  | .activate =>
    s.child.map fun child => { s with child := some child.resume }
  | .retire =>
    if s.child.isSome then some { s with parent := { s.parent with loop := .left } } else none

def run (s : Handoff) (steps : List HandoffStep) : Option Handoff := Steps.run (step C) s steps

end Handoff

/-! ### What the two processes owe each other -/

/-- The process writes no more: no save runs, and its loop begins none. -/
def ServerProcess.Quiet (process : ServerProcess) : Prop :=
  process.saving = none ∧ (process.loop ≠ .running ∨ process.store.dirty = false)

instance (process : ServerProcess) : Decidable process.Quiet :=
  inferInstanceAs (Decidable (_ ∧ _))

/-- A step of the stores does what the store asks for, and a save of the child ends when the parent
    writes no more. -/
def HandoffStep.Settled (s : Handoff) : HandoffStep → Prop
  | .parent (.store step) => step.Covered C (s.parent.under s.directory)
  | .child (.store step) =>
    (∀ child ∈ s.child, step.Covered C (child.under s.directory)) ∧
      (step = .saveEnds → s.parent.Quiet)
  | _ => True

variable {C}

section Process

variable {process process' : ServerProcess} {directory directory' : WorldSnapshot}

/-- A running save writes a revision that is marked and not persisted. -/
def ServerProcess.Justified (process : ServerProcess) : Prop :=
  process.saving.isSome → process.store.dirty = true

theorem ServerProcess.step_cases {step : ProcessStep}
    (h : process.step C directory step = some (process', directory')) :
    (∃ storeStep, step = .store storeStep ∧ process.takes storeStep = true ∧
      process'.under directory' = (process.under directory).step C storeStep ∧
      process'.saved = (process.saves C storeStep).or process.saved ∧
      process'.admitting = process.admitting ∧ process'.loop = process.loop) ∨
    (directory' = directory ∧ process'.store = process.store ∧ process'.saved = process.saved ∧
      process'.admitting = process.admitting ∧
      (process'.saving = process.saving ∧ process'.loop = .waiting ∨
        process'.saving = none ∧ process'.loop = process.loop)) := by
  cases step with
  | store step =>
    obtain ⟨htakes, hdone⟩ := Option.ite_none_right_eq_some.mp h
    cases hdone
    exact .inl ⟨step, rfl, htakes, rfl, rfl, rfl, rfl⟩
  | tickWaits =>
    obtain ⟨-, hdone⟩ := Option.ite_none_right_eq_some.mp h
    cases hdone
    exact .inr ⟨rfl, rfl, rfl, rfl, .inl ⟨rfl, rfl⟩⟩
  | saveFails =>
    obtain ⟨-, hdone⟩ := Option.ite_none_right_eq_some.mp h
    cases hdone
    exact .inr ⟨rfl, rfl, rfl, rfl, .inr ⟨rfl, rfl⟩⟩

theorem ServerProcess.sound_step {step : ProcessStep}
    (h : process.step C directory step = some (process', directory'))
    (hsound : (process.under directory).Sound C)
    (hcovered : ∀ storeStep, step = .store storeStep →
      storeStep.Covered C (process.under directory)) :
    (process'.under directory').Sound C := by
  rcases step_cases h with ⟨storeStep, rfl, -, hunder, -⟩ | ⟨rfl, hstore, -, -, hrest⟩
  · rw [hunder]
    exact hsound.step (hcovered storeStep rfl)
  · unfold under
    rw [hstore]
    rcases hrest with ⟨hsaving, -⟩ | ⟨hsaving, -⟩
    · rw [hsaving]
      exact hsound
    · rw [hsaving]
      exact hsound.saveFails

theorem ServerProcess.justified_step {step : ProcessStep}
    (h : process.step C directory step = some (process', directory'))
    (hsound : (process.under directory).Sound C) (hjust : process.Justified) :
    process'.Justified := by
  intro hsaving
  rcases step_cases h with ⟨storeStep, rfl, -, hunder, -⟩ | ⟨rfl, hstore, -, -, hrest⟩
  · have hnext : process'.store = ((process.under directory).step C storeStep).store :=
      congrArg SavingStore.store hunder
    have hnext' : process'.saving = ((process.under directory).step C storeStep).saving :=
      congrArg SavingStore.saving hunder
    rw [hnext'] at hsaving
    rw [hnext]
    rcases SavingStore.step_cases (C := C) (process.under directory) storeStep with
      ⟨-, -, marked, hpublish, hsame, -⟩ | ⟨-, hstore, -, hsame | ⟨hdirty, -⟩⟩ | ⟨-, hnone⟩
    · rw [hsame] at hsaving
      exact CoreStore.dirty_of_publishes hsound.dirty hpublish (hjust hsaving)
    · rw [hsame] at hsaving
      rw [hstore]
      exact hjust hsaving
    · rw [hstore]
      exact hdirty
    · rw [hnone] at hsaving
      cases hsaving
  · rw [hstore]
    rcases hrest with ⟨hsame, -⟩ | ⟨hnone, -⟩
    · exact hjust (hsame ▸ hsaving)
    · rw [hnone] at hsaving
      cases hsaving

/-- With the gate closed, a process that writes no more stays so, and leaves the directory. -/
theorem ServerProcess.quiet_step {step : ProcessStep}
    (h : process.step C directory step = some (process', directory'))
    (hclosed : process.admitting = false) (hquiet : process.Quiet) :
    process'.Quiet ∧ directory' = directory := by
  obtain ⟨hsaving, hrests⟩ := hquiet
  rcases step_cases h with ⟨storeStep, rfl, htakes, hunder, -, -, hloop⟩ |
    ⟨rfl, hstore, -, -, hrest⟩
  · cases storeStep with
    | apply command invocation nowMs | builtinTick nowMs | gameplayTicks preparedTicks =>
      simp [takes, hclosed] at htakes
    | saveEnds => simp [takes, hsaving] at htakes
    | saveBegins =>
      have hclean : process.store.dirty = false := by
        rcases hrests with hloop | hclean
        · exact absurd (of_decide_eq_true htakes) hloop
        · exact hclean
      have hsame : (process.under directory).step C .saveBegins = process.under directory := by
        unfold SavingStore.step
        dsimp only
        exact if_neg (by simp [under, hclean])
      rw [hsame] at hunder
      have hstore : process'.store = process.store := congrArg SavingStore.store hunder
      refine ⟨⟨(congrArg SavingStore.saving hunder).trans hsaving, ?_⟩,
        congrArg SavingStore.written hunder⟩
      rw [hloop, hstore]
      exact hrests
  · refine ⟨?_, rfl⟩
    unfold Quiet
    rw [hstore]
    rcases hrest with ⟨hsame, hwaiting⟩ | ⟨hnone, hloop⟩
    · exact ⟨hsame.trans hsaving, .inl (by rw [hwaiting]; nofun)⟩
    · rw [hloop]
      exact ⟨hnone, hrests⟩

theorem ServerProcess.saveEnds_of_clean {step : ProcessStep}
    (h : process.step C directory step = some (process', directory'))
    (hsound : (process.under directory).Sound C) (hdirty : process.store.dirty = true)
    (hclean : process'.store.dirty = false) : step = .store .saveEnds := by
  rcases step_cases h with ⟨storeStep, rfl, -, hunder, -⟩ | ⟨-, hstore, -⟩
  · have hnext : process'.store = ((process.under directory).step C storeStep).store :=
      congrArg SavingStore.store hunder
    rw [hnext] at hclean
    rcases SavingStore.step_cases (C := C) (process.under directory) storeStep with
      ⟨-, -, marked, hpublish, -⟩ | ⟨-, hstore, -⟩ | ⟨rfl, -⟩
    · rw [CoreStore.dirty_of_publishes hsound.dirty hpublish hdirty] at hclean
      cases hclean
    · rw [hstore] at hclean
      cases hdirty.symm.trans hclean
    · rfl
  · rw [hstore] at hclean
    cases hdirty.symm.trans hclean

theorem ServerProcess.saveEnds_of_saved {step : ProcessStep}
    (h : process.step C directory step = some (process', directory'))
    (hfresh : process.saved = none) (hsaved : process'.saved.isSome) :
    step = .store .saveEnds := by
  rcases step_cases h with ⟨storeStep, rfl, -, -, hnext, -⟩ | ⟨-, -, hnext, -⟩
  · rw [hnext, hfresh] at hsaved
    cases storeStep <;> first | rfl | cases hsaved
  · rw [hnext, hfresh] at hsaved
    cases hsaved

end Process

/-! ### Saves over a whole run -/

/-- The child, or the child that would start from what is sealed. -/
def Handoff.heir (s : Handoff) : Option ServerProcess :=
  match s.child with
  | some child => some child
  | none => s.sealed.map fun store => .new store false

variable (C) in
/-- Before the commit the parent is sound.  From the seal on its heir is, and as soon as the heir
    owes nothing the parent writes no more. -/
structure Handoff.Safe (s : Handoff) : Prop where
  parent : s.child = none → (s.parent.under s.directory).Sound C ∧ s.parent.Justified
  heir : ∀ heir, s.heir = some heir → s.parent.admitting = false ∧
    (heir.under s.directory).Sound C ∧
      (heir.store.dirty = false ∨ heir.saved.isSome → s.parent.Quiet)

namespace Handoff

section Runs

variable {s s' : Handoff}

theorem heir_of_child {child : ServerProcess} (h : s.child = some child) :
    s.heir = some child := by
  unfold heir
  rw [h]

theorem Safe.new {core : ServerCore} {stored : WorldSnapshot}
    (h : core.snapshot C = .ok stored) : (Handoff.new core stored).Safe C :=
  ⟨fun _ => ⟨SavingStore.Sound.new h, nofun⟩, fun heir hheir => by cases hheir⟩

theorem sound_of_dirty {process : ServerProcess} {directory directory' : WorldSnapshot}
    (h : (process.under directory).Sound C) (hdirty : process.store.dirty = true) :
    (process.under directory').Sound C where
  persisted := h.persisted
  dirty := h.dirty
  saving := h.saving
  captured := h.captured
  written := by
    intro hclean
    cases hdirty.symm.trans hclean

theorem Safe.parentStep (h : s.Safe C) {step : ProcessStep}
    (hsettled : (HandoffStep.parent step).Settled C s)
    (hstep : s.step C (.parent step) = some s') : s'.Safe C := by
  obtain ⟨⟨parent, directory⟩, hparent, rfl⟩ := Option.map_eq_some_iff.mp hstep
  refine ⟨fun hchild => ?_, fun heir hheir => ?_⟩
  · obtain ⟨hsound, hjust⟩ := h.parent hchild
    refine ⟨ServerProcess.sound_step hparent hsound ?_,
      ServerProcess.justified_step hparent hsound hjust⟩
    rintro storeStep rfl
    exact hsettled
  · obtain ⟨hclosed, hsound, hquiet⟩ := h.heir heir hheir
    refine ⟨?_, ?_, ?_⟩
    · rcases ServerProcess.step_cases hparent with ⟨-, -, -, -, -, hsame, -⟩ | ⟨-, -, -, hsame, -⟩
      · exact hsame.trans hclosed
      · exact hsame.trans hclosed
    · cases hdirty : heir.store.dirty with
      | true => exact sound_of_dirty hsound hdirty
      | false =>
        obtain ⟨-, rfl⟩ := ServerProcess.quiet_step hparent hclosed (hquiet (.inl hdirty))
        exact hsound
    · intro howes
      exact (ServerProcess.quiet_step hparent hclosed (hquiet howes)).1

theorem Safe.childStep (h : s.Safe C) {step : ProcessStep}
    (hsettled : (HandoffStep.child step).Settled C s)
    (hstep : s.step C (.child step) = some s') : s'.Safe C := by
  obtain ⟨child, hchild, hstep⟩ := Option.bind_eq_some_iff.mp hstep
  obtain ⟨⟨child', directory⟩, hnext, rfl⟩ := Option.map_eq_some_iff.mp hstep
  obtain ⟨hclosed, hsound, hquiet⟩ := h.heir child (heir_of_child hchild)
  refine ⟨nofun, ?_⟩
  rintro heir ⟨⟩
  refine ⟨hclosed, ServerProcess.sound_step hnext hsound ?_, ?_⟩
  · rintro storeStep rfl
    exact hsettled.1 child hchild
  · -- Whatever makes the child owe nothing is the end of a save.
    have hends : step = .store .saveEnds → s.parent.Quiet := by
      rintro rfl
      exact hsettled.2 rfl
    rintro (hclean | hsaved)
    · cases hdirty : child.store.dirty with
      | false => exact hquiet (.inl hdirty)
      | true => exact hends (ServerProcess.saveEnds_of_clean hnext hsound hdirty hclean)
    · cases hfresh : child.saved with
      | some revision => exact hquiet (.inr (by rw [hfresh]; rfl))
      | none => exact hends (ServerProcess.saveEnds_of_saved hnext hfresh hsaved)

/-- What is sealed is sound for a child to start from; a parent that has nothing to save then
    writes no more. -/
theorem Safe.sealCore (h : s.Safe C) (hstep : s.step C .sealCore = some s') : s'.Safe C := by
  obtain ⟨⟨hclosed, hchild, -⟩, hdone⟩ := Option.ite_none_right_eq_some.mp hstep
  cases hdone
  obtain ⟨hsound, hjust⟩ := h.parent hchild
  refine ⟨fun _ => ⟨hsound, hjust⟩, fun next hheir => ?_⟩
  unfold Handoff.heir at hheir
  dsimp only at hheir
  rw [hchild] at hheir
  cases hheir
  refine ⟨hclosed, ?_, ?_⟩
  · constructor
    · exact hsound.persisted
    · exact hsound.dirty
    · intro version hversion
      cases hversion
    · intro version hversion
      cases hversion
    · exact hsound.written
  · rintro (hclean | hsaved)
    · refine ⟨?_, .inr hclean⟩
      cases hsaving : s.parent.saving with
      | none => rfl
      | some version => cases (hjust (by rw [hsaving]; rfl)).symm.trans hclean
    · cases hsaved

theorem Safe.step (h : s.Safe C) {step : HandoffStep} (hsettled : step.Settled C s)
    (hstep : s.step C step = some s') : s'.Safe C := by
  cases step with
  | parent step => exact h.parentStep hsettled hstep
  | child step => exact h.childStep hsettled hstep
  | sealCore => exact h.sealCore hstep
  | freeze =>
    obtain ⟨hopen, hdone⟩ := Option.ite_none_right_eq_some.mp hstep
    cases hdone
    refine ⟨h.parent, fun next hheir => ?_⟩
    cases (h.heir next hheir).1.symm.trans hopen
  | abort =>
    obtain ⟨⟨-, hchild⟩, hdone⟩ := Option.ite_none_right_eq_some.mp hstep
    cases hdone
    refine ⟨h.parent, fun next hheir => ?_⟩
    unfold Handoff.heir at hheir
    dsimp only at hheir
    rw [hchild] at hheir
    cases hheir
  | commit =>
    obtain ⟨hchild, hstep⟩ := Option.ite_none_right_eq_some.mp hstep
    obtain ⟨store, hsealed, rfl⟩ := Option.map_eq_some_iff.mp hstep
    refine ⟨nofun, ?_⟩
    rintro next ⟨⟩
    refine h.heir _ ?_
    unfold Handoff.heir
    rw [hchild, hsealed]
    rfl
  | activate =>
    obtain ⟨child, hchild, rfl⟩ := Option.map_eq_some_iff.mp hstep
    refine ⟨nofun, ?_⟩
    rintro next ⟨⟩
    exact h.heir child (heir_of_child hchild)
  | retire =>
    obtain ⟨hsome, hdone⟩ := Option.ite_none_right_eq_some.mp hstep
    cases hdone
    refine ⟨fun hchild => ?_, fun next hheir => ?_⟩
    · rw [show s.child = none from hchild] at hsome
      cases hsome
    · obtain ⟨hclosed, hsound, hquiet⟩ := h.heir next hheir
      exact ⟨hclosed, hsound, fun howes => ⟨(hquiet howes).1, .inl nofun⟩⟩

theorem Safe.run (h : s.Safe C) {steps : List HandoffStep}
    (halong : Steps.Along (Handoff.step C) (fun s step => step.Settled C s) s steps)
    (hrun : s.run C steps = some s') : s'.Safe C :=
  Steps.run_keeps (fun _ _ _ h hsettled hstep => h.step hsettled hstep) h halong hrun

end Runs

end Handoff

end RevyCraft.Upgrade
