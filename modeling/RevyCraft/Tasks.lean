/-
  RevyCraft/Tasks.lean
  ====================
  **Tasks over a shared state** — any number of tasks, each with a local state
  of its own, that take turns in any order.

  A `Program` says how one task moves; a `Config` is the shared state with the
  tasks that exist.  Quantities that are spread over the tasks (permits, locks,
  obligations) are measured by `tally`, the total of a local amount, and every
  invariant about them comes from what one move does to the amount of the task
  that makes it.
-/
import Mathlib

namespace RevyCraft

structure Config (S T : Type) where
  shared : S
  tasks : List T
  deriving DecidableEq

/-- How a task may start, and how it moves. -/
structure Program (S T M : Type) where
  starts : T → Bool
  step : S → T → M → Option (S × T)

inductive TaskEvent (T M : Type) where
  | spawn (task : T)
  | move (i : Nat) (m : M)

variable {S T M : Type}

def Config.step (p : Program S T M) (c : Config S T) : TaskEvent T M → Option (Config S T)
  | .spawn task => if p.starts task then some { c with tasks := c.tasks ++ [task] } else none
  | .move i m => do
    let task ← c.tasks[i]?
    let (shared, task') ← p.step c.shared task m
    some ⟨shared, c.tasks.set i task'⟩

/-- The events one after the other, as long as each can happen. -/
def Config.run (p : Program S T M) (c : Config S T) : List (TaskEvent T M) → Option (Config S T)
  | [] => some c
  | event :: rest => (c.step p event).bind fun c' => c'.run p rest

section Runs

variable {p : Program S T M} {c c' c'' : Config S T}

theorem Config.step_move {i : Nat} {m : M} (h : c.step p (.move i m) = some c') :
    ∃ task shared task', c.tasks[i]? = some task ∧
      p.step c.shared task m = some (shared, task') ∧ c' = ⟨shared, c.tasks.set i task'⟩ := by
  obtain ⟨task, htask, h⟩ := Option.bind_eq_some_iff.mp h
  obtain ⟨⟨shared, task'⟩, hstep, h⟩ := Option.bind_eq_some_iff.mp h
  exact ⟨task, shared, task', htask, hstep, (Option.some.inj h).symm⟩

theorem Config.step_spawn {task : T} (h : c.step p (.spawn task) = some c') :
    p.starts task = true ∧ c' = { c with tasks := c.tasks ++ [task] } := by
  simp only [Config.step] at h
  split at h
  · exact ⟨‹_›, (Option.some.inj h).symm⟩
  · cases h

/-- **The rule for runs**: what every event keeps holds at the end. -/
theorem Config.run_keeps {I : Config S T → Prop} {events : List (TaskEvent T M)}
    (hstep : ∀ c c', ∀ event ∈ events, I c → c.step p event = some c' → I c') (hc : I c)
    (h : c.run p events = some c') : I c' := by
  induction events generalizing c with
  | nil =>
    cases h
    exact hc
  | cons event rest ih =>
    obtain ⟨d, hd, h⟩ := Option.bind_eq_some_iff.mp h
    refine ih ?_ (hstep c d event List.mem_cons_self hc hd) h
    intro c c' event hmem
    exact hstep c c' event (List.mem_cons_of_mem _ hmem)

/-- Task `i` exists and is such. -/
def Config.TaskAt (c : Config S T) (i : Nat) (P : T → Prop) : Prop :=
  ∃ task, c.tasks[i]? = some task ∧ P task

/-- What the moves of a task keep, as far as they are allowed, the moves of the others keep too. -/
theorem Config.TaskAt.step {P : T → Prop} (allowed : M → Prop)
    (hkeeps : ∀ s task m s' task', P task → allowed m → p.step s task m = some (s', task') → P task')
    {i : Nat} (h : c.TaskAt i P) {event : TaskEvent T M}
    (hevent : ∀ m, event = .move i m → allowed m) (hstep : c.step p event = some c') :
    c'.TaskAt i P := by
  obtain ⟨task, htask, hP⟩ := h
  have hlt := (List.getElem?_eq_some_iff.mp htask).1
  cases event with
  | spawn other =>
    obtain ⟨-, rfl⟩ := Config.step_spawn hstep
    exact ⟨task, by rw [List.getElem?_append_left hlt]; exact htask, hP⟩
  | move j m =>
    obtain ⟨mover, shared, moved, hmover, hmove, rfl⟩ := Config.step_move hstep
    by_cases hij : j = i
    · subst hij
      rw [htask] at hmover
      cases hmover
      exact ⟨moved, by simp [hlt], hkeeps _ _ _ _ _ hP (hevent m rfl) hmove⟩
    · exact ⟨task, by simp [hij, htask], hP⟩

theorem Config.TaskAt.run {P : T → Prop} (allowed : M → Prop)
    (hkeeps : ∀ s task m s' task', P task → allowed m → p.step s task m = some (s', task') → P task')
    {i : Nat} (h : c.TaskAt i P) {events : List (TaskEvent T M)}
    (hevents : ∀ m, TaskEvent.move i m ∈ events → allowed m) (hrun : c.run p events = some c') :
    c'.TaskAt i P := by
  refine Config.run_keeps (I := fun c => c.TaskAt i P) ?_ h hrun
  intro c c' event hmem hc hstep
  refine hc.step allowed hkeeps ?_ hstep
  rintro m rfl
  exact hevents m hmem

end Runs

section Replaced

variable {tasks : List T} {i j : Nat} {task task' other : T}

theorem getElem?_set_cases (h : (tasks.set i task')[j]? = some other) :
    (j = i ∧ other = task') ∨ (j ≠ i ∧ tasks[j]? = some other) := by
  by_cases hij : i = j
  · subst hij
    have hlt : i < tasks.length := by
      simpa using (List.getElem?_eq_some_iff.mp h).1
    left
    exact ⟨rfl, by simpa [hlt] using h.symm⟩
  · right
    exact ⟨fun heq => hij heq.symm, by simpa [hij] using h⟩

theorem mem_set_of_mem_of_ne (htask : tasks[i]? = some task) (hmem : other ∈ tasks)
    (hne : other ≠ task) : other ∈ tasks.set i task' := by
  obtain ⟨j, hj⟩ := List.mem_iff_getElem?.mp hmem
  have hij : i ≠ j := by
    rintro rfl
    rw [htask] at hj
    exact hne (Option.some.inj hj).symm
  exact List.mem_of_getElem? (by rw [List.getElem?_set_ne hij, hj])

end Replaced

/-! ### What the tasks hold together -/

/-- The total of an amount over all tasks. -/
def tally (amount : T → Nat) (tasks : List T) : Nat := (tasks.map amount).sum

section Tally

variable (amount : T → Nat) {tasks : List T} {i j : Nat} {task task' : T}

@[simp] theorem tally_nil : tally amount [] = 0 := rfl

@[simp] theorem tally_cons : tally amount (task :: tasks) = amount task + tally amount tasks := by
  simp [tally]

@[simp] theorem tally_append_singleton :
    tally amount (tasks ++ [task]) = tally amount tasks + amount task := by
  simp [tally]

theorem tally_set (h : tasks[i]? = some task) (task' : T) :
    tally amount (tasks.set i task') + amount task = tally amount tasks + amount task' := by
  induction tasks generalizing i with
  | nil => simp at h
  | cons head rest ih =>
    cases i with
    | zero =>
      obtain rfl : head = task := by simpa using h
      simp only [List.set_cons_zero, tally_cons]
      omega
    | succ i =>
      have hrest := ih (by simpa using h)
      simp only [List.set_cons_succ, tally_cons]
      omega

theorem le_tally (h : tasks[i]? = some task) : amount task ≤ tally amount tasks :=
  List.le_sum_of_mem (List.mem_map_of_mem (List.mem_of_getElem? h))

theorem add_le_tally (hne : i ≠ j) (h : tasks[i]? = some task) (h' : tasks[j]? = some task') :
    amount task + amount task' ≤ tally amount tasks := by
  induction tasks generalizing i j with
  | nil => simp at h
  | cons head rest ih =>
    rw [tally_cons]
    rcases i with _ | i <;> rcases j with _ | j
    · exact absurd rfl hne
    · obtain rfl : head = task := by simpa using h
      have hrest := le_tally amount (show rest[j]? = some task' by simpa using h')
      omega
    · obtain rfl : head = task' := by simpa using h'
      have hrest := le_tally amount (show rest[i]? = some task by simpa using h)
      omega
    · have hrest := ih (fun heq => hne (congrArg Nat.succ heq)) (by simpa using h) (by simpa using h')
      omega

variable {amount}

theorem tally_le_tally {amount' : T → Nat} (h : ∀ task, amount task ≤ amount' task) :
    tally amount tasks ≤ tally amount' tasks :=
  List.sum_le_sum fun task _ => h task

theorem exists_of_tally_pos (h : 0 < tally amount tasks) :
    ∃ (i : Nat) (task : T), tasks[i]? = some task ∧ 0 < amount task := by
  induction tasks with
  | nil => simp at h
  | cons head rest ih =>
    rw [tally_cons] at h
    by_cases hhead : 0 < amount head
    · exact ⟨0, head, rfl, hhead⟩
    · obtain ⟨i, task, htask, hpos⟩ := ih (by omega)
      exact ⟨i + 1, task, by simpa using htask, hpos⟩

end Tally

end RevyCraft
