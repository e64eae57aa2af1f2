/-
  RevyCraft/DataPlane.lean
  ========================
  **The data-plane gate** (`DataPlaneGate` of `runtime/authority.rs`) — the
  operations it admits, the freezes that exclude them, and every interleaving
  of both.

  The gate is three primitives that are read and written one at a time: the
  admission value of a watch channel, the capacity of a semaphore, and the
  mutex that serialises freezes.  Each of these accesses is one move of a task
  here, so that a grant can race a closure and a cancelled freeze the next one.

  The semaphore hands its free permits to the acquisitions that wait for them
  in any order and in any portions; tokio's own queue is one such order.  The
  watch channel counts its sends, and a receiver waits for a count it has not
  seen.
-/
import RevyCraft.Tasks

namespace RevyCraft

/-! ### The gate and its tasks -/

def DATA_PLANE_OPERATION_CAPACITY : Nat := 16

inductive AdmissionState where
  | opened
  | closed
  deriving DecidableEq

/-- `DataPlaneGate`: the free permits of the semaphore, the watched value with the number of its
    sends, and whether the freeze mutex is held. -/
structure DataPlaneGate where
  capacity : Nat
  admission : AdmissionState
  version : Nat
  serialHeld : Bool
  deriving DecidableEq

def DataPlaneGate.new : DataPlaneGate := ⟨DATA_PLANE_OPERATION_CAPACITY, .opened, 0, false⟩

/-- `watch::Sender::send_replace`. -/
def DataPlaneGate.sendReplace (gate : DataPlaneGate) (admission : AdmissionState) :
    DataPlaneGate :=
  { gate with admission := admission, version := gate.version + 1 }

/-- Where a call of `enter`, or the operation it returned, stands. -/
inductive EnterState where
  /-- At the top of the loop. -/
  | looking
  /-- Waits for a change of a closed admission. -/
  | shutOut
  /-- In the `select!`; the permit may be assigned already. -/
  | acquiring (assigned : Bool)
  /-- Has the permit and has not looked at the admission again. -/
  | granted
  /-- Has seen that the admission is closed, and still has the permit. -/
  | refused
  /-- The `DataPlaneOperation` exists. -/
  | operating
  | ended
  deriving DecidableEq

/-- Where a call of `close`, or the guard it returned, stands. -/
inductive CloseState where
  /-- Waits for the freeze mutex. -/
  | waiting
  /-- The mutex is assigned to this call. -/
  | locked
  /-- The admission is closed; waits for all permits and has some of them. -/
  | closing (assigned : Nat)
  /-- The `QuiescedDataPlane` exists, on its own or in a `FrozenDataPlane`. -/
  | quiesced
  | frozen
  /-- The `FrozenDataPlane` was dropped, and its guard forgotten. -/
  | forgotten
  /-- In `AdmissionClosure::reopen`, before and after its send. -/
  | reopening
  | reopened
  | ended
  deriving DecidableEq

inductive DataPlaneTask where
  | enter (seen : Nat) (state : EnterState)
  | close (state : CloseState)
  deriving DecidableEq

inductive DataPlaneMove where
  /-- The next access of a call that is not waiting. -/
  | proceed
  /-- `Receiver::changed` completes. -/
  | changed
  /-- The semaphore assigns free permits to a waiting acquisition. -/
  | assign (permits : Nat)
  /-- The acquisition completes. -/
  | acquired
  /-- The freeze mutex is assigned to the call. -/
  | lock
  /-- The future of a pending call is dropped. -/
  | cancel
  /-- The operation, or the frozen data plane, is dropped. -/
  | drop
  /-- The quiesced guard is put into a `FrozenDataPlane`. -/
  | freeze
  | resume
  deriving DecidableEq

/-- The permits given back by an acquisition that is dropped. -/
def DataPlaneGate.release (gate : DataPlaneGate) (permits : Nat) : DataPlaneGate :=
  { gate with capacity := gate.capacity + permits }

def EnterState.step (gate : DataPlaneGate) (seen : Nat) :
    EnterState → DataPlaneMove → Option (DataPlaneGate × DataPlaneTask)
  | .looking, .proceed =>
    match gate.admission with
    | .closed => some (gate, .enter gate.version .shutOut)
    | .opened => some (gate, .enter gate.version (.acquiring false))
  | .shutOut, .changed =>
    if gate.version ≠ seen then some (gate, .enter gate.version .looking) else none
  | .shutOut, .cancel => some (gate, .enter seen .ended)
  | .acquiring assigned, .changed =>
    if gate.version ≠ seen then
      some (gate.release assigned.toNat, .enter gate.version .looking)
    else none
  | .acquiring false, .assign permits =>
    if permits = 1 ∧ 1 ≤ gate.capacity then
      some ({ gate with capacity := gate.capacity - 1 }, .enter seen (.acquiring true))
    else none
  | .acquiring true, .acquired => some (gate, .enter seen .granted)
  | .acquiring assigned, .cancel => some (gate.release assigned.toNat, .enter seen .ended)
  | .granted, .proceed =>
    match gate.admission with
    | .opened => some (gate, .enter gate.version .operating)
    | .closed => some (gate, .enter gate.version .refused)
  | .refused, .proceed => some (gate.release 1, .enter seen .looking)
  | .operating, .drop => some (gate.release 1, .enter seen .ended)
  | _, _ => none

def CloseState.step (gate : DataPlaneGate) :
    CloseState → DataPlaneMove → Option (DataPlaneGate × DataPlaneTask)
  | .waiting, .lock =>
    if gate.serialHeld then none else some ({ gate with serialHeld := true }, .close .locked)
  | .waiting, .cancel => some (gate, .close .ended)
  | .locked, .cancel => some ({ gate with serialHeld := false }, .close .ended)
  | .locked, .proceed => some (gate.sendReplace .closed, .close (.closing 0))
  | .closing assigned, .assign permits =>
    if permits ≤ gate.capacity ∧ assigned + permits ≤ DATA_PLANE_OPERATION_CAPACITY then
      some ({ gate with capacity := gate.capacity - permits },
        .close (.closing (assigned + permits)))
    else none
  | .closing assigned, .acquired =>
    if assigned = DATA_PLANE_OPERATION_CAPACITY then some (gate, .close .quiesced) else none
  | .closing assigned, .cancel => some (gate.release assigned, .close .reopening)
  | .quiesced, .freeze => some (gate, .close .frozen)
  | .quiesced, .resume =>
    some (gate.release DATA_PLANE_OPERATION_CAPACITY, .close .reopening)
  | .frozen, .resume =>
    some (gate.release DATA_PLANE_OPERATION_CAPACITY, .close .reopening)
  | .frozen, .drop => some (gate, .close .forgotten)
  | .reopening, .proceed => some (gate.sendReplace .opened, .close .reopened)
  | .reopened, .proceed => some ({ gate with serialHeld := false }, .close .ended)
  | _, _ => none

/-- Any number of calls of `enter` and `close`.  `subscribe` has seen the current value. -/
def dataPlane : Program DataPlaneGate DataPlaneTask DataPlaneMove where
  starts
    | .enter _ .looking => true
    | .close .waiting => true
    | _ => false
  step gate
    | .enter seen state, move => state.step gate seen move
    | .close state, move => state.step gate move

abbrev DataPlane : Type := Config DataPlaneGate DataPlaneTask

def DataPlane.new : DataPlane := ⟨.new, []⟩

/-! ### What the tasks hold -/

def DataPlaneTask.permits : DataPlaneTask → Nat
  | .enter _ (.acquiring assigned) => assigned.toNat
  | .enter _ .granted => 1
  | .enter _ .refused => 1
  | .enter _ .operating => 1
  | .close (.closing assigned) => assigned
  | .close .quiesced => DATA_PLANE_OPERATION_CAPACITY
  | .close .frozen => DATA_PLANE_OPERATION_CAPACITY
  | .close .forgotten => DATA_PLANE_OPERATION_CAPACITY
  | _ => 0

/-- One for the owner of the freeze mutex. -/
def DataPlaneTask.owns : DataPlaneTask → Nat
  | .enter _ _ => 0
  | .close .waiting => 0
  | .close .ended => 0
  | .close _ => 1

/-- One for a freeze between its closing send and its opening send. -/
def DataPlaneTask.shuts : DataPlaneTask → Nat
  | .close .locked => 0
  | .close .reopened => 0
  | task => task.owns

def DataPlaneTask.operates : DataPlaneTask → Nat
  | .enter _ .operating => 1
  | _ => 0

/-- The quiesced guard exists: returned, frozen or forgotten. -/
def DataPlaneTask.Guards : DataPlaneTask → Prop
  | .close .quiesced | .close .frozen | .close .forgotten => True
  | _ => False

/-- A call of `enter` or `close` that has not returned. -/
def DataPlaneTask.Pending : DataPlaneTask → Prop
  | .enter _ .looking | .enter _ .shutOut | .enter _ (.acquiring _) => True
  | .enter _ .granted | .enter _ .refused => True
  | .close .waiting | .close .locked | .close (.closing _) => True
  | _ => False

def AdmissionState.shut : AdmissionState → Nat
  | .opened => 0
  | .closed => 1

@[simp] theorem AdmissionState.shut_opened : AdmissionState.opened.shut = 0 := rfl

@[simp] theorem AdmissionState.shut_closed : AdmissionState.closed.shut = 1 := rfl

theorem AdmissionState.shut_le_one (admission : AdmissionState) : admission.shut ≤ 1 := by
  cases admission <;> simp

section Amounts

variable {gate gate' : DataPlaneGate} {task task' : DataPlaneTask} {move : DataPlaneMove}

theorem DataPlaneTask.shuts_le_owns (task : DataPlaneTask) : task.shuts ≤ task.owns := by
  unfold DataPlaneTask.shuts
  split <;> simp

theorem DataPlaneTask.operates_le_permits (task : DataPlaneTask) :
    task.operates ≤ task.permits := by
  unfold DataPlaneTask.operates
  split
  · exact Nat.le_refl _
  · exact Nat.zero_le _

theorem DataPlaneTask.Guards.permits_eq (h : task.Guards) :
    task.permits = DATA_PLANE_OPERATION_CAPACITY := by
  unfold DataPlaneTask.Guards at h
  split at h <;> first | rfl | cases h

theorem DataPlaneTask.holder (h : 0 < task.permits) :
    task.operates = 1 ∨ task.Guards ∨ task.Pending := by
  cases task with
  | enter seen state =>
    cases state with
    | operating => exact .inl rfl
    | acquiring assigned | granted | refused => exact .inr (.inr trivial)
    | looking => cases h
    | shutOut => cases h
    | ended => cases h
  | close state =>
    cases state with
    | closing assigned => exact .inr (.inr trivial)
    | quiesced | frozen | forgotten => exact .inr (.inl trivial)
    | waiting => cases h
    | locked => cases h
    | reopening => cases h
    | reopened => cases h
    | ended => cases h

theorem step_permits (h : dataPlane.step gate task move = some (gate', task')) :
    gate'.capacity + task'.permits = gate.capacity + task.permits := by
  revert h
  cases task with
  | enter seen state =>
    simp only [dataPlane]
    fun_cases EnterState.step gate seen state move <;> intro h <;> cases h <;>
      simp [DataPlaneTask.permits, DataPlaneGate.release]
    omega
  | close state =>
    simp only [dataPlane]
    fun_cases CloseState.step gate state move <;> intro h <;> cases h <;>
      simp [DataPlaneTask.permits, DataPlaneGate.release, DataPlaneGate.sendReplace]
    omega

theorem step_owns (h : dataPlane.step gate task move = some (gate', task'))
    (hheld : task.owns ≤ gate.serialHeld.toNat) :
    gate'.serialHeld.toNat + task.owns = gate.serialHeld.toNat + task'.owns := by
  revert h
  cases task with
  | enter seen state =>
    simp only [dataPlane]
    fun_cases EnterState.step gate seen state move <;> intro h <;> cases h <;>
      simp [DataPlaneTask.owns, DataPlaneGate.release]
  | close state =>
    simp only [dataPlane]
    fun_cases CloseState.step gate state move <;> intro h <;> cases h <;>
      simp_all [DataPlaneTask.owns, DataPlaneGate.release, DataPlaneGate.sendReplace]
    all_goals
      have hle := Bool.toNat_le gate.serialHeld
      omega

theorem step_shuts (h : dataPlane.step gate task move = some (gate', task'))
    (hshut : task.shuts ≤ gate.admission.shut)
    (hopen : task.shuts < task.owns → gate.admission.shut = 0) :
    gate'.admission.shut + task.shuts = gate.admission.shut + task'.shuts := by
  revert h
  cases task with
  | enter seen state =>
    simp only [dataPlane]
    fun_cases EnterState.step gate seen state move <;> intro h <;> cases h <;>
      simp [DataPlaneTask.owns, DataPlaneTask.shuts, DataPlaneGate.release]
  | close state =>
    simp only [dataPlane]
    fun_cases CloseState.step gate state move <;> intro h <;> cases h <;>
      simp_all [DataPlaneTask.owns, DataPlaneTask.shuts, DataPlaneGate.release,
        DataPlaneGate.sendReplace]
    have hle := gate.admission.shut_le_one
    omega

end Amounts

/-! ### The invariant of every interleaving -/

/-- All permits are free or with a task; the mutex is held and the admission closed exactly by
    the tasks that say so. -/
structure DataPlane.Sound (c : DataPlane) : Prop where
  permits : c.shared.capacity + tally DataPlaneTask.permits c.tasks = DATA_PLANE_OPERATION_CAPACITY
  owners : tally DataPlaneTask.owns c.tasks = c.shared.serialHeld.toNat
  shut : tally DataPlaneTask.shuts c.tasks = c.shared.admission.shut

section Invariant

variable {c c' : DataPlane} {i j : Nat} {task task' : DataPlaneTask}

theorem DataPlane.Sound.new : DataPlane.new.Sound := ⟨rfl, rfl, rfl⟩

theorem DataPlane.Sound.opened (h : c.Sound) (htask : c.tasks[i]? = some task)
    (howns : task.shuts < task.owns) : c.shared.admission.shut = 0 := by
  have hheld := Bool.toNat_le c.shared.serialHeld
  have hothers := tally_set DataPlaneTask.owns htask (.close .ended)
  have hshuts := tally_set DataPlaneTask.shuts htask (.close .ended)
  have hle : tally DataPlaneTask.shuts (c.tasks.set i (.close .ended)) ≤
      tally DataPlaneTask.owns (c.tasks.set i (.close .ended)) :=
    tally_le_tally DataPlaneTask.shuts_le_owns
  have howner := h.owners
  have hshut := h.shut
  have hnone : (DataPlaneTask.close .ended).owns = 0 ∧ (DataPlaneTask.close .ended).shuts = 0 :=
    ⟨rfl, rfl⟩
  omega

theorem DataPlane.Sound.step (h : c.Sound) {event : TaskEvent DataPlaneTask DataPlaneMove}
    (hstep : c.step dataPlane event = some c') : c'.Sound := by
  cases event with
  | spawn task =>
    obtain ⟨hstarts, rfl⟩ := Config.step_spawn hstep
    have hnothing : task.permits = 0 ∧ task.owns = 0 ∧ task.shuts = 0 := by
      simp only [dataPlane] at hstarts
      split at hstarts <;> first | exact ⟨rfl, rfl, rfl⟩ | cases hstarts
    obtain ⟨hpermits, howns, hshuts⟩ := hnothing
    refine ⟨?_, ?_, ?_⟩
    · simpa [hpermits] using h.permits
    · simpa [howns] using h.owners
    · simpa [hshuts] using h.shut
  | move i m =>
    obtain ⟨task, gate, task', htask, hmove, rfl⟩ := Config.step_move hstep
    have howned := le_tally DataPlaneTask.owns htask
    have hshutting := le_tally DataPlaneTask.shuts htask
    rw [h.owners] at howned
    rw [h.shut] at hshutting
    have hpermits := step_permits hmove
    have howns := step_owns hmove howned
    have hshuts := step_shuts hmove hshutting (h.opened htask)
    have htp := tally_set DataPlaneTask.permits htask task'
    have hto := tally_set DataPlaneTask.owns htask task'
    have hts := tally_set DataPlaneTask.shuts htask task'
    have hp := h.permits
    have ho := h.owners
    have hs := h.shut
    refine ⟨?_, ?_, ?_⟩
    · dsimp only
      omega
    · dsimp only
      omega
    · dsimp only
      omega

theorem DataPlane.Sound.run (h : c.Sound) {events : List (TaskEvent DataPlaneTask DataPlaneMove)}
    (hrun : c.run dataPlane events = some c') : c'.Sound :=
  Config.run_keeps (fun _ _ _ _ hsound hstep => hsound.step hstep) h hrun

theorem DataPlane.Sound.excludes (h : c.Sound) (htask : c.tasks[i]? = some task)
    (hguards : task.Guards) (hother : c.tasks[j]? = some task') (hne : i ≠ j) :
    task'.permits = 0 := by
  have hboth := add_le_tally DataPlaneTask.permits hne htask hother
  have hall := h.permits
  rw [hguards.permits_eq] at hboth
  omega

theorem DataPlaneTask.Guards.operates_eq (h : task.Guards) : task.operates = 0 := by
  unfold DataPlaneTask.Guards at h
  split at h <;> first | rfl | cases h

theorem DataPlane.Sound.no_operation (h : c.Sound) (htask : c.tasks[i]? = some task)
    (hguards : task.Guards) (hother : c.tasks[j]? = some task') : task'.operates = 0 := by
  by_cases hne : i = j
  · subst hne
    rw [htask] at hother
    cases hother
    exact hguards.operates_eq
  · have hnone := h.excludes htask hguards hother hne
    have hle := task'.operates_le_permits
    omega

theorem guards_step {gate gate' : DataPlaneGate} {m : DataPlaneMove} (hguards : task.Guards)
    (hmove : dataPlane.step gate task m = some (gate', task')) (hm : m ≠ .resume) :
    task'.Guards := by
  unfold DataPlaneTask.Guards at hguards
  split at hguards
  · cases m <;> first | cases hmove; trivial | cases hmove
  · cases m <;> first | cases hmove; trivial | cases hmove
  · cases m <;> cases hmove
  · cases hguards

theorem reopening_step {gate gate' : DataPlaneGate} {m : DataPlaneMove}
    (htask : task = .close .reopening) (hmove : dataPlane.step gate task m = some (gate', task'))
    (hm : m ≠ .proceed) : task' = .close .reopening := by
  subst htask
  cases m <;> first | exact absurd rfl hm | cases hmove

theorem DataPlaneTask.shuts_eq_one_iff : task.shuts = 1 ↔
    (∃ assigned, task = .close (.closing assigned)) ∨ task.Guards ∨ task = .close .reopening := by
  cases task with
  | enter seen state => simp [DataPlaneTask.shuts, DataPlaneTask.owns, DataPlaneTask.Guards]
  | close state =>
    cases state <;> simp [DataPlaneTask.shuts, DataPlaneTask.owns, DataPlaneTask.Guards]

theorem DataPlaneTask.shuts_le_one (task : DataPlaneTask) : task.shuts ≤ 1 := by
  cases task with
  | enter seen state => exact Nat.zero_le _
  | close state => cases state <;> simp [DataPlaneTask.shuts, DataPlaneTask.owns]

theorem DataPlane.Sound.operates_eq_zero (h : c.Sound)
    (hguard : c.TaskAt i DataPlaneTask.Guards) : tally DataPlaneTask.operates c.tasks = 0 := by
  obtain ⟨guard, htask, hguards⟩ := hguard
  rcases Nat.eq_zero_or_pos (tally DataPlaneTask.operates c.tasks) with hzero | hpos
  · exact hzero
  · obtain ⟨j, task, hother, hoperates⟩ := exists_of_tally_pos hpos
    have hnone := h.no_operation htask hguards hother
    omega

/-- The admission is closed exactly by a pending closure, an unresumed guard, or a freeze that is
    about to reopen it. -/
theorem DataPlane.Sound.closed_iff (h : c.Sound) : c.shared.admission = .closed ↔
    ∃ i, c.TaskAt i fun task => (∃ assigned, task = .close (.closing assigned)) ∨ task.Guards ∨
      task = .close .reopening := by
  have hshut := h.shut
  constructor
  · intro hclosed
    rw [hclosed, AdmissionState.shut_closed] at hshut
    obtain ⟨i, task, htask, hpos⟩ := exists_of_tally_pos (Nat.lt_of_lt_of_eq Nat.one_pos hshut.symm)
    have hle := task.shuts_le_one
    exact ⟨i, task, htask, DataPlaneTask.shuts_eq_one_iff.mp (by omega)⟩
  · rintro ⟨i, task, htask, hshuts⟩
    have hone := DataPlaneTask.shuts_eq_one_iff.mpr hshuts
    have hle := le_tally DataPlaneTask.shuts htask
    cases hadmission : c.shared.admission with
    | closed => rfl
    | opened =>
      rw [hadmission, AdmissionState.shut_opened] at hshut
      omega

/-- Whatever happens after a pending closure is dropped, its next access opens the admission. -/
theorem cancel_reopens
    (hpending : c.TaskAt i (fun task => ∃ assigned, task = .close (.closing assigned))) :
    ∃ c₁, c.step dataPlane (.move i .cancel) = some c₁ ∧
      ∀ events c₂, c₁.run dataPlane events = some c₂ → .move i .proceed ∉ events →
        ∃ c₃, c₂.step dataPlane (.move i .proceed) = some c₃ ∧
          c₃.shared.admission = .opened := by
  obtain ⟨task, htask, assigned, rfl⟩ := hpending
  have hlt := (List.getElem?_eq_some_iff.mp htask).1
  refine ⟨⟨c.shared.release assigned, c.tasks.set i (.close .reopening)⟩, ?_, ?_⟩
  · simp [Config.step, htask, dataPlane, CloseState.step]
  · intro events c₂ hrun hnot
    have hat : Config.TaskAt (⟨c.shared.release assigned, c.tasks.set i (.close .reopening)⟩ :
        DataPlane) i (fun task => task = .close .reopening) :=
      ⟨.close .reopening, by simp [hlt], rfl⟩
    have hkept := hat.run (fun m => m ≠ .proceed)
      (fun _ _ _ _ _ htask hm hmove => reopening_step htask hmove hm)
      (fun m hmem => by rintro rfl; exact hnot hmem) hrun
    obtain ⟨task, hreopening, rfl⟩ := hkept
    exact ⟨⟨c₂.shared.sendReplace .opened, c₂.tasks.set i (.close .reopened)⟩,
      by simp [Config.step, hreopening, dataPlane, CloseState.step], rfl⟩

end Invariant

/-! ### A frozen data plane excludes all operations -/

structure DataPlane.Excludes (c : DataPlane) : Prop where
  operations : tally DataPlaneTask.operates c.tasks ≤ DATA_PLANE_OPERATION_CAPACITY
  untilResumed : ∀ i, c.TaskAt i DataPlaneTask.Guards →
    tally DataPlaneTask.operates c.tasks = 0 ∧
      ∀ events c', c.run dataPlane events = some c' → .move i .resume ∉ events →
        c'.TaskAt i DataPlaneTask.Guards ∧ tally DataPlaneTask.operates c'.tasks = 0
  oneOwner : ∀ i j, c.TaskAt i (fun task => task.owns = 1) →
    c.TaskAt j (fun task => task.owns = 1) → i = j
  closed : c.shared.admission = .closed ↔
    ∃ i, c.TaskAt i fun task => (∃ assigned, task = .close (.closing assigned)) ∨ task.Guards ∨
      task = .close .reopening
  cancelled : ∀ i, c.TaskAt i (fun task => ∃ assigned, task = .close (.closing assigned)) →
    ∃ c₁, c.step dataPlane (.move i .cancel) = some c₁ ∧
      ∀ events c₂, c₁.run dataPlane events = some c₂ → .move i .proceed ∉ events →
        ∃ c₃, c₂.step dataPlane (.move i .proceed) = some c₃ ∧
          c₃.shared.admission = .opened
  permits : c.shared.capacity + tally DataPlaneTask.permits c.tasks = DATA_PLANE_OPERATION_CAPACITY
  holders : ∀ i, c.TaskAt i (fun task => 0 < task.permits) →
    c.TaskAt i fun task => task.operates = 1 ∨ task.Guards ∨ task.Pending

/-- **In every interleaving**, a quiesced, frozen or forgotten guard excludes every operation
    until it is resumed. -/
theorem dataPlane_excludes {events : List (TaskEvent DataPlaneTask DataPlaneMove)} {c : DataPlane}
    (hrun : DataPlane.new.run dataPlane events = some c) : c.Excludes := by
  have hsound := DataPlane.Sound.new.run hrun
  refine ⟨?_, ?_, ?_, hsound.closed_iff, fun i => cancel_reopens, hsound.permits, ?_⟩
  · have hle : tally DataPlaneTask.operates c.tasks ≤ tally DataPlaneTask.permits c.tasks :=
      tally_le_tally DataPlaneTask.operates_le_permits
    have hall := hsound.permits
    omega
  · intro i hguard
    refine ⟨hsound.operates_eq_zero hguard, ?_⟩
    intro events c' hrun hnot
    have hkept := hguard.run (fun m => m ≠ .resume)
      (fun _ _ _ _ _ hguards hm hmove => guards_step hguards hmove hm)
      (fun m hmem => by rintro rfl; exact hnot hmem) hrun
    exact ⟨hkept, (hsound.run hrun).operates_eq_zero hkept⟩
  · rintro i j ⟨task, htask, howns⟩ ⟨task', htask', howns'⟩
    by_contra hne
    have hboth := add_le_tally DataPlaneTask.owns hne htask htask'
    have hheld := Bool.toNat_le c.shared.serialHeld
    have howners := hsound.owners
    omega
  · rintro i ⟨task, htask, hpos⟩
    exact ⟨task, htask, task.holder hpos⟩

/-- An operation is admitted, a freeze waits for it to end, and the frozen data plane is lost. -/
def lostFreeze : List (TaskEvent DataPlaneTask DataPlaneMove) :=
  [.spawn (.enter 0 .looking), .move 0 .proceed, .move 0 (.assign 1), .move 0 .acquired,
    .move 0 .proceed, .spawn (.close .waiting), .move 1 .lock, .move 1 .proceed,
    .move 1 (.assign 15), .move 0 .drop, .move 1 (.assign 1), .move 1 .acquired, .move 1 .freeze,
    .move 1 .drop]

theorem dataPlane_excludes_lost :
    ∃ c : DataPlane, DataPlane.new.run dataPlane lostFreeze = some c ∧ c.TaskAt 1 DataPlaneTask.Guards ∧
      c.Excludes := by
  have hrun : DataPlane.new.run dataPlane lostFreeze =
      some ⟨⟨0, .closed, 1, true⟩, [.enter 0 .ended, .close .forgotten]⟩ := by decide
  exact ⟨_, hrun, ⟨_, rfl, trivial⟩, dataPlane_excludes hrun⟩

/-! ### The gate is never stuck -/

/-- The gate goes on by itself: no call is given up, and nothing is dropped or resumed. -/
def DataPlaneMove.GoesOn : DataPlaneMove → Prop
  | .proceed | .changed | .acquired | .lock => True
  | .assign permits => 0 < permits
  | .cancel | .drop | .freeze | .resume => False

def DataPlane.GoesOn (c : DataPlane) : Prop :=
  ∃ i m, m.GoesOn ∧ (c.step dataPlane (.move i m)).isSome

/-- There is an operation or a guard that the gate waits for. -/
def DataPlane.Used (c : DataPlane) : Prop :=
  ∃ i, c.TaskAt i fun task => task.operates = 1 ∨ task.Guards

/-- A call that waits for a change of the admission has missed none. -/
def DataPlaneTask.Awake (gate : DataPlaneGate) : DataPlaneTask → Prop
  | .enter seen .shutOut => seen < gate.version ∨ seen = gate.version ∧ gate.admission = .closed
  | _ => True

section Progress

variable {c c' : DataPlane} {i : Nat} {task task' : DataPlaneTask} {gate gate' : DataPlaneGate}
  {m : DataPlaneMove}

theorem step_version (h : dataPlane.step gate task m = some (gate', task')) :
    gate'.version = gate.version ∧ gate'.admission = gate.admission ∨
      gate'.version = gate.version + 1 := by
  revert h
  cases task with
  | enter seen state =>
    simp only [dataPlane]
    fun_cases EnterState.step gate seen state m <;> intro h <;> cases h <;> exact .inl ⟨rfl, rfl⟩
  | close state =>
    simp only [dataPlane]
    fun_cases CloseState.step gate state m <;> intro h <;> cases h <;>
      first | exact .inl ⟨rfl, rfl⟩ | exact .inr rfl

theorem step_awake (h : dataPlane.step gate task m = some (gate', task')) : task'.Awake gate' := by
  revert h
  cases task with
  | enter seen state =>
    simp only [dataPlane]
    fun_cases EnterState.step gate seen state m <;> intro h <;> cases h <;> try trivial
    exact .inr ⟨rfl, by assumption⟩
  | close state =>
    simp only [dataPlane]
    fun_cases CloseState.step gate state m <;> intro h <;> cases h <;> trivial

theorem DataPlaneTask.Awake.mono (h : task.Awake gate)
    (hversion : gate'.version = gate.version ∧ gate'.admission = gate.admission ∨
      gate'.version = gate.version + 1) : task.Awake gate' := by
  unfold DataPlaneTask.Awake at h ⊢
  split at h
  · rcases hversion with ⟨hsame, hadmission⟩ | hnext
    · rwa [hsame, hadmission]
    · exact .inl (by omega)
  · trivial

theorem awake_step (h : ∀ task ∈ c.tasks, task.Awake c.shared)
    {event : TaskEvent DataPlaneTask DataPlaneMove} (hstep : c.step dataPlane event = some c') :
    ∀ task ∈ c'.tasks, task.Awake c'.shared := by
  cases event with
  | spawn task =>
    obtain ⟨hstarts, rfl⟩ := Config.step_spawn hstep
    intro other hother
    rcases List.mem_append.mp hother with hold | hnew
    · exact h other hold
    · rw [List.mem_singleton.mp hnew]
      simp only [dataPlane] at hstarts
      split at hstarts <;> trivial
  | move i m =>
    obtain ⟨task, gate, task', htask, hmove, rfl⟩ := Config.step_move hstep
    intro other hother
    rcases List.mem_or_eq_of_mem_set hother with hold | rfl
    · exact (h other hold).mono (step_version hmove)
    · exact step_awake hmove

theorem goesOn_of_step (htask : c.tasks[i]? = some task) (hm : m.GoesOn)
    (hstep : (dataPlane.step c.shared task m).isSome) : c.GoesOn := by
  obtain ⟨next, hnext⟩ := Option.isSome_iff_exists.mp hstep
  exact ⟨i, m, hm, by simp [Config.step, htask, hnext]⟩

theorem goesOn_of_permit (htask : c.tasks[i]? = some task) (hpos : 0 < task.permits)
    (hshuts : task.shuts = 0) : c.GoesOn ∨ c.Used := by
  cases task with
  | enter seen state =>
    cases state with
    | acquiring assigned =>
      cases assigned with
      | true => exact .inl (goesOn_of_step (m := .acquired) htask trivial rfl)
      | false => cases hpos
    | granted =>
      refine .inl (goesOn_of_step (m := .proceed) htask trivial ?_)
      cases hadmission : c.shared.admission <;> simp [dataPlane, EnterState.step, hadmission]
    | refused => exact .inl (goesOn_of_step (m := .proceed) htask trivial rfl)
    | operating => exact .inr ⟨i, _, htask, .inl rfl⟩
    | _ => cases hpos
  | close state =>
    cases state <;> simp [DataPlaneTask.permits, DataPlaneTask.shuts, DataPlaneTask.owns] at hpos hshuts

theorem DataPlane.Sound.closing_goesOn (h : c.Sound) {assigned : Nat}
    (htask : c.tasks[i]? = some (.close (.closing assigned))) : c.GoesOn ∨ c.Used := by
  have hpermits := h.permits
  have hmine := le_tally DataPlaneTask.permits htask
  have hrest := tally_set DataPlaneTask.permits htask (.close .ended)
  simp only [DataPlaneTask.permits] at hmine hrest
  by_cases hall : assigned = DATA_PLANE_OPERATION_CAPACITY
  · exact .inl (goesOn_of_step (m := .acquired) htask trivial
      (by simp [dataPlane, CloseState.step, hall]))
  · by_cases hfree : 1 ≤ c.shared.capacity
    · exact .inl (goesOn_of_step (m := .assign 1) htask Nat.one_pos (by
        simp only [dataPlane, CloseState.step]
        rw [if_pos (by omega)]
        rfl))
    · obtain ⟨j, holder, hholder, hpos⟩ := exists_of_tally_pos (show 0 < tally DataPlaneTask.permits
        (c.tasks.set i (.close .ended)) by omega)
      rcases getElem?_set_cases hholder with ⟨-, rfl⟩ | ⟨hne, hother⟩
      · cases hpos
      · have hboth := add_le_tally DataPlaneTask.shuts hne hother htask
        have hshut := h.shut
        have hle := c.shared.admission.shut_le_one
        have hone : (DataPlaneTask.close (.closing assigned)).shuts = 1 := rfl
        exact goesOn_of_permit hother hpos (by omega)

theorem DataPlane.Sound.owner_goesOn (h : c.Sound) (htask : c.tasks[i]? = some task)
    (howns : 0 < task.owns) : c.GoesOn ∨ c.Used := by
  cases task with
  | enter seen state => cases howns
  | close state =>
    cases state with
    | closing assigned => exact h.closing_goesOn htask
    | locked | reopening | reopened => exact .inl (goesOn_of_step (m := .proceed) htask trivial rfl)
    | quiesced | frozen | forgotten => exact .inr ⟨i, _, htask, .inr trivial⟩
    | _ => cases howns

theorem DataPlane.Sound.pending_goesOn (h : c.Sound) (hawake : task.Awake c.shared)
    (htask : c.tasks[i]? = some task) (hpending : task.Pending) : c.GoesOn ∨ c.Used := by
  cases task with
  | enter seen state =>
    cases state with
    | looking =>
      refine .inl (goesOn_of_step (m := .proceed) htask trivial ?_)
      cases hadmission : c.shared.admission <;> simp [dataPlane, EnterState.step, hadmission]
    | shutOut =>
      rcases hawake with hseen | ⟨-, hclosed⟩
      · exact .inl (goesOn_of_step (m := .changed) htask trivial
          (by simp [dataPlane, EnterState.step, Nat.ne_of_gt hseen]))
      · obtain ⟨j, owner, howner, hshuts⟩ := h.closed_iff.mp hclosed
        have hone := DataPlaneTask.shuts_eq_one_iff.mpr hshuts
        have hle := owner.shuts_le_owns
        exact h.owner_goesOn howner (by omega)
    | acquiring assigned =>
      cases assigned with
      | true => exact .inl (goesOn_of_step (m := .acquired) htask trivial rfl)
      | false =>
        by_cases hfree : 1 ≤ c.shared.capacity
        · exact .inl (goesOn_of_step (m := .assign 1) htask Nat.one_pos
            (by simp [dataPlane, EnterState.step, hfree]))
        · have hpermits := h.permits
          obtain ⟨j, holder, hholder, hpos⟩ := exists_of_tally_pos (show
            0 < tally DataPlaneTask.permits c.tasks by
              unfold DATA_PLANE_OPERATION_CAPACITY at hpermits; omega)
          rcases Nat.eq_zero_or_pos holder.shuts with hzero | hshuts
          · exact goesOn_of_permit hholder hpos hzero
          · have hle := holder.shuts_le_owns
            exact h.owner_goesOn hholder (by omega)
    | granted | refused => exact goesOn_of_permit htask Nat.one_pos rfl
    | operating => cases hpending
    | ended => cases hpending
  | close state =>
    cases state with
    | waiting =>
      cases hheld : c.shared.serialHeld with
      | false => exact .inl (goesOn_of_step (m := .lock) htask trivial
          (by simp [dataPlane, CloseState.step, hheld]))
      | true =>
        have howners := h.owners
        rw [hheld] at howners
        obtain ⟨j, owner, howner, hpos⟩ := exists_of_tally_pos (show
          0 < tally DataPlaneTask.owns c.tasks from howners ▸ Nat.one_pos)
        exact h.owner_goesOn howner hpos
    | locked | closing assigned => exact h.owner_goesOn htask Nat.one_pos
    | _ => cases hpending

/-- **The gate is never stuck**: in every interleaving, while a call of `enter` or `close` has not
    returned, some task goes on, unless there is an operation or a guard to wait for. -/
theorem dataPlane_goes_on {events : List (TaskEvent DataPlaneTask DataPlaneMove)} {c : DataPlane}
    {i : Nat} (hrun : DataPlane.new.run dataPlane events = some c)
    (hpending : c.TaskAt i DataPlaneTask.Pending) : c.GoesOn ∨ c.Used := by
  have hawake : ∀ task ∈ c.tasks, task.Awake c.shared :=
    Config.run_keeps (I := fun c : DataPlane => ∀ task ∈ c.tasks, task.Awake c.shared)
      (fun _ _ _ _ h hstep => awake_step h hstep) (fun _ h => (List.not_mem_nil h).elim) hrun
  obtain ⟨task, htask, hpending⟩ := hpending
  exact (DataPlane.Sound.new.run hrun).pending_goesOn (hawake task (List.mem_of_getElem? htask))
    htask hpending

theorem dataPlane_goes_on_shutOut :
    ∃ c : DataPlane, DataPlane.new.run dataPlane [.spawn (.close .waiting), .move 0 .lock,
        .move 0 .proceed, .spawn (.enter 0 .looking), .move 1 .proceed] = some c ∧
      c.TaskAt 1 (· = .enter 1 .shutOut) ∧ (c.GoesOn ∨ c.Used) := by
  have hrun : DataPlane.new.run dataPlane [.spawn (.close .waiting), .move 0 .lock,
      .move 0 .proceed, .spawn (.enter 0 .looking), .move 1 .proceed] =
        some ⟨⟨16, .closed, 1, true⟩, [.close (.closing 0), .enter 1 .shutOut]⟩ := by decide
  exact ⟨_, hrun, ⟨_, rfl, rfl⟩, dataPlane_goes_on (i := 1) hrun ⟨_, rfl, trivial⟩⟩

end Progress

end RevyCraft
