/-
  RevyCraft/Stacks.lean
  =====================
  **Slots of bounded stacks** — a row of slots, each empty or holding a number
  of one kind, and the usual way to put a stack into it: the stacks of the same
  kind are topped up to the capacity first, what is left takes the first empty
  slot, and what does not fit is left over.

  Putting conserves the amount of every kind (`put_amount`).  A sequence of
  stacks finds room if and only if the slots it demands beyond the room in the
  stacks of its kinds are free (`fitsAll_iff`).  Nothing in this file names
  the server.
-/
import Mathlib

namespace RevyCraft.Stacks

/-- Empty, or a number of one kind. -/
abbrev Slot (κ : Type) : Type := Option (κ × Nat)

section Free

variable {κ : Type}

def free (slots : List (Slot κ)) : Nat := slots.countP Option.isNone

@[simp] theorem free_nil : free ([] : List (Slot κ)) = 0 := rfl

@[simp] theorem free_none (slots : List (Slot κ)) : free (none :: slots) = free slots + 1 := by
  simp [free]

@[simp] theorem free_some (stack : κ × Nat) (slots : List (Slot κ)) :
    free (some stack :: slots) = free slots := by
  simp [free]

end Free

variable {κ : Type} [DecidableEq κ]

/-- Tops up the stacks of the kind; `none` once nothing is left. -/
def fill (capacity : Nat) (kind : κ) : List (Slot κ) → Nat → Option Nat × List (Slot κ)
  | [], count => (some count, [])
  | none :: rest, count =>
    let filled := fill capacity kind rest count
    (filled.1, none :: filled.2)
  | some (other, held) :: rest, count =>
    if other ≠ kind ∨ capacity ≤ held then
      let filled := fill capacity kind rest count
      (filled.1, some (other, held) :: filled.2)
    else
      let moved := min (capacity - held) count
      if count - moved = 0 then (none, some (other, held + moved) :: rest)
      else
        let filled := fill capacity kind rest (count - moved)
        (filled.1, some (other, held + moved) :: filled.2)

/-- Takes the first empty slot. -/
def place (kind : κ) (count : Nat) : List (Slot κ) → Option Nat × List (Slot κ)
  | [] => (some count, [])
  | none :: rest => (none, some (kind, count) :: rest)
  | some stack :: rest =>
    let placed := place kind count rest
    (placed.1, some stack :: placed.2)

def put (capacity : Nat) (kind : κ) (count : Nat) (slots : List (Slot κ)) :
    Option Nat × List (Slot κ) :=
  match fill capacity kind slots count with
  | (none, slots) => (none, slots)
  | (some count, slots) => place kind count slots

/-- Puts one stack after the other and forgets what does not fit. -/
def putAll (capacity : Nat) : List (κ × Nat) → List (Slot κ) → List (Slot κ)
  | [], slots => slots
  | (kind, count) :: rest, slots => putAll capacity rest (put capacity kind count slots).2

/-! ### Amounts -/

/-- How many of a kind a slot holds. -/
def held (kind : κ) : Slot κ → Nat
  | none => 0
  | some (other, count) => if other = kind then count else 0

def amount (kind : κ) (slots : List (Slot κ)) : Nat := (slots.map (held kind)).sum

@[simp] theorem held_none (kind : κ) : held kind none = 0 := rfl

@[simp] theorem amount_nil (kind : κ) : amount kind [] = 0 := rfl

@[simp] theorem amount_cons (kind : κ) (slot : Slot κ) (slots : List (Slot κ)) :
    amount kind (slot :: slots) = held kind slot + amount kind slots := rfl

theorem amount_set (kind : κ) {slots : List (Slot κ)} {i : Nat} {old : Slot κ}
    (h : slots[i]? = some old) (new : Slot κ) :
    amount kind (slots.set i new) + held kind old = amount kind slots + held kind new := by
  induction slots generalizing i with
  | nil => cases h
  | cons slot rest ih =>
    cases i with
    | zero =>
      cases h
      simp only [List.set_cons_zero, amount_cons]
      omega
    | succ i =>
      have hrest := ih h
      simp only [List.set_cons_succ, amount_cons]
      omega

/-- What is left over of a stack. -/
def leftover (kind : κ) (left : Option Nat) : Slot κ := left.map fun count => (kind, count)

theorem held_moved (kind other : κ) (number count : Nat) {moved : Nat} (h : moved ≤ count) :
    held other (some (kind, number + moved)) + held other (some (kind, count - moved)) =
      held other (some (kind, number)) + held other (some (kind, count)) := by
  simp only [held]
  split <;> omega

theorem fill_amount (capacity : Nat) (kind other : κ) (slots : List (Slot κ)) (count : Nat) :
    amount other (fill capacity kind slots count).2 +
        held other (leftover kind (fill capacity kind slots count).1) =
      amount other slots + held other (some (kind, count)) := by
  induction slots generalizing count with
  | nil => simp [fill, leftover]
  | cons slot rest ih =>
    cases slot with
    | none =>
      have hrest := ih count
      simp only [fill, amount_cons]
      omega
    | some stack =>
      rcases stack with ⟨key, number⟩
      simp only [fill]
      split
      · have hrest := ih count
        simp only [amount_cons]
        omega
      · next hmatch =>
        have hkey : key = kind := by
          by_contra hne
          exact hmatch (.inl hne)
        subst hkey
        have hmoved := held_moved key other number count (Nat.min_le_right (capacity - number) count)
        split
        · next hdone =>
          have hzero : held other (some (key, 0)) = 0 := by simp [held]
          rw [hdone, hzero] at hmoved
          simp only [amount_cons, leftover, Option.map_none, held_none]
          omega
        · have hrest := ih (count - min (capacity - number) count)
          simp only [amount_cons]
          omega

theorem place_amount (kind other : κ) (slots : List (Slot κ)) (count : Nat) :
    amount other (place kind count slots).2 +
        held other (leftover kind (place kind count slots).1) =
      amount other slots + held other (some (kind, count)) := by
  induction slots with
  | nil => simp [place, leftover]
  | cons slot rest ih =>
    cases slot with
    | none =>
      simp only [place, amount_cons, leftover, Option.map_none, held_none]
      omega
    | some stack =>
      simp only [place, amount_cons]
      omega

/-- **Putting a stack conserves the amount of every kind.** -/
theorem put_amount (capacity : Nat) (kind other : κ) (slots : List (Slot κ)) (count : Nat) :
    amount other (put capacity kind count slots).2 +
        held other (leftover kind (put capacity kind count slots).1) =
      amount other slots + held other (some (kind, count)) := by
  have hfill := fill_amount capacity kind other slots count
  unfold put
  rcases hfilled : fill capacity kind slots count with ⟨left, filled⟩
  rw [hfilled] at hfill
  cases left with
  | none => exact hfill
  | some left =>
    have hplace := place_amount kind other filled left
    simp only [leftover, Option.map_some] at hfill
    dsimp only
    omega

/-! ### Room -/

/-- What a slot can still take of a kind. -/
def spare (capacity : Nat) (kind : κ) : Slot κ → Nat
  | none => 0
  | some (other, count) => if other = kind then capacity - count else 0

def room (capacity : Nat) (kind : κ) (slots : List (Slot κ)) : Nat :=
  (slots.map (spare capacity kind)).sum

@[simp] theorem room_nil (capacity : Nat) (kind : κ) : room capacity kind [] = 0 := rfl

@[simp] theorem room_cons (capacity : Nat) (kind : κ) (slot : Slot κ) (slots : List (Slot κ)) :
    room capacity kind (slot :: slots) = spare capacity kind slot + room capacity kind slots := rfl

@[simp] theorem spare_none (capacity : Nat) (kind : κ) : spare capacity kind none = 0 := rfl

variable {count capacity : Nat}

/-- What topping up leaves: everything fits into the room of the kind, or the room is used up. -/
theorem fill_room (capacity : Nat) (kind : κ) (slots : List (Slot κ)) (hcount : 0 < count) :
    (count ≤ room capacity kind slots ∧ (fill capacity kind slots count).1 = none ∧
        room capacity kind (fill capacity kind slots count).2 =
          room capacity kind slots - count) ∨
      (room capacity kind slots < count ∧
        (fill capacity kind slots count).1 = some (count - room capacity kind slots) ∧
        room capacity kind (fill capacity kind slots count).2 = 0) := by
  induction slots generalizing count with
  | nil =>
    right
    simpa [fill] using hcount
  | cons slot rest ih =>
    cases slot with
    | none =>
      simp only [fill, room_cons, spare_none, Nat.zero_add]
      exact ih hcount
    | some stack =>
      rcases stack with ⟨key, number⟩
      by_cases hmatch : key ≠ kind ∨ capacity ≤ number
      · have hspare : spare capacity kind (some (key, number)) = 0 := by
          simp only [spare]
          split
          · rcases hmatch with hne | hfull
            · contradiction
            · omega
          · rfl
        simp only [fill, if_pos hmatch, room_cons, hspare, Nat.zero_add]
        exact ih hcount
      · have hkey : key = kind := by
          by_contra hne
          exact hmatch (.inl hne)
        subst hkey
        have hbelow : number < capacity := by
          by_contra hfull
          exact hmatch (.inr (Nat.le_of_not_lt hfull))
        have hspare : ∀ number, spare capacity key (some (key, number)) = capacity - number := by
          intro number
          simp [spare]
        simp only [fill, if_neg hmatch, room_cons, hspare]
        by_cases hdone : count - min (capacity - number) count = 0
        · left
          rw [if_pos hdone]
          refine ⟨by omega, rfl, ?_⟩
          simp only [room_cons, hspare]
          omega
        · rw [if_neg hdone]
          have hrest := ih (Nat.pos_of_ne_zero hdone)
          simp only [room_cons, hspare]
          rcases hrest with ⟨hfits, hnone, hleft⟩ | ⟨hshort, hsome, hleft⟩
          · left
            refine ⟨by omega, hnone, ?_⟩
            omega
          · right
            refine ⟨by omega, ?_, by omega⟩
            rw [hsome]
            congr 1
            omega

theorem fill_free (capacity : Nat) (kind : κ) (slots : List (Slot κ)) (count : Nat) :
    free (fill capacity kind slots count).2 = free slots := by
  induction slots generalizing count with
  | nil => rfl
  | cons slot rest ih =>
    cases slot with
    | none => simp [fill, ih]
    | some stack =>
      rcases stack with ⟨key, number⟩
      simp only [fill]
      split
      · simp [ih]
      · split
        · simp
        · simp [ih]

theorem fill_room_other (capacity : Nat) {kind other : κ} (hother : other ≠ kind)
    (slots : List (Slot κ)) (count : Nat) :
    room capacity other (fill capacity kind slots count).2 = room capacity other slots := by
  induction slots generalizing count with
  | nil => rfl
  | cons slot rest ih =>
    cases slot with
    | none => simp [fill, ih]
    | some stack =>
      rcases stack with ⟨key, number⟩
      simp only [fill]
      split
      · simp [ih]
      · next hmatch =>
        have hkey : key = kind := by
          by_contra hne
          exact hmatch (.inl hne)
        subst hkey
        have hspare : ∀ number, spare capacity other (some (key, number)) = 0 := by
          intro number
          simp [spare, Ne.symm hother]
        split
        · simp [hspare]
        · simp [hspare, ih]

theorem place_cases (capacity : Nat) (kind : κ) (count : Nat) (slots : List (Slot κ)) :
    (free slots = 0 ∧ place kind count slots = (some count, slots)) ∨
      (0 < free slots ∧ (place kind count slots).1 = none ∧
        free (place kind count slots).2 + 1 = free slots ∧
        ∀ other, room capacity other (place kind count slots).2 =
          room capacity other slots + spare capacity other (some (kind, count))) := by
  induction slots with
  | nil => exact .inl ⟨rfl, rfl⟩
  | cons slot rest ih =>
    cases slot with
    | none =>
      right
      refine ⟨by simp, rfl, by simp [place], ?_⟩
      intro other
      simp [place, Nat.add_comm]
    | some stack =>
      simp only [place, free_some, room_cons]
      rcases ih with ⟨hfull, hleft⟩ | ⟨hfree, hnone, hone, hroom⟩
      · left
        rw [hleft]
        exact ⟨hfull, rfl⟩
      · right
        refine ⟨hfree, hnone, hone, ?_⟩
        intro other
        rw [hroom other]
        omega

/-- **What putting a stack does to the room.** -/
theorem put_cases (capacity : Nat) (kind : κ) (slots : List (Slot κ)) (hcount : 0 < count) :
    (count ≤ room capacity kind slots ∧ (put capacity kind count slots).1 = none ∧
        free (put capacity kind count slots).2 = free slots ∧
        ∀ other, room capacity other (put capacity kind count slots).2 =
          if other = kind then room capacity kind slots - count else room capacity other slots) ∨
      (room capacity kind slots < count ∧ 0 < free slots ∧
        (put capacity kind count slots).1 = none ∧
        free (put capacity kind count slots).2 + 1 = free slots ∧
        ∀ other, room capacity other (put capacity kind count slots).2 =
          if other = kind then capacity - (count - room capacity kind slots)
          else room capacity other slots) ∨
      (room capacity kind slots < count ∧ free slots = 0 ∧
        (put capacity kind count slots).1 = some (count - room capacity kind slots)) := by
  have hfree := fill_free capacity kind slots count
  have hothers := fun other (hother : other ≠ kind) =>
    fill_room_other capacity hother slots count
  rcases hfilled : fill capacity kind slots count with ⟨left, filled⟩
  rw [hfilled] at hfree hothers
  dsimp only at hfree hothers
  rcases fill_room capacity kind slots hcount with ⟨hfits, hnone, hroom⟩ | ⟨hshort, hsome, hroom⟩
  · rw [hfilled] at hnone hroom
    dsimp only at hnone hroom
    subst hnone
    left
    unfold put
    rw [hfilled]
    refine ⟨hfits, rfl, hfree, ?_⟩
    intro other
    by_cases hother : other = kind
    · subst hother
      rw [if_pos rfl]
      exact hroom
    · rw [if_neg hother]
      exact hothers other hother
  · rw [hfilled] at hsome hroom
    dsimp only at hsome hroom
    subst hsome
    right
    unfold put
    rw [hfilled]
    dsimp only
    rcases place_cases capacity kind (count - room capacity kind slots) filled with
      ⟨hfull, hleft⟩ | ⟨hempty, hnone, hone, hplaced⟩
    · right
      rw [hleft]
      exact ⟨hshort, by omega, rfl⟩
    · left
      refine ⟨hshort, by omega, hnone, by omega, ?_⟩
      intro other
      rw [hplaced other]
      split
      · next hsame =>
        subst hsame
        rw [hroom]
        simp [spare]
      · next hother =>
        rw [hothers other hother]
        simp [spare, Ne.symm hother]

/-! ### A sequence of stacks -/

/-- Nothing is left over of any stack. -/
def FitsAll (capacity : Nat) : List (κ × Nat) → List (Slot κ) → Prop
  | [], _ => True
  | (kind, count) :: rest, slots =>
    (put capacity kind count slots).1 = none ∧
      FitsAll capacity rest (put capacity kind count slots).2

/-- How many of a kind are in the stacks. -/
def total (kind : κ) (load : List (κ × Nat)) : Nat :=
  (load.map fun stack => held kind (some stack)).sum

@[simp] theorem total_nil (kind : κ) : total kind [] = 0 := rfl

@[simp] theorem total_cons (kind : κ) (stack : κ × Nat) (load : List (κ × Nat)) :
    total kind (stack :: load) = held kind (some stack) + total kind load := rfl

theorem total_append (kind : κ) (left right : List (κ × Nat)) :
    total kind (left ++ right) = total kind left + total kind right := by
  simp [total]

theorem putAll_amount {load : List (κ × Nat)} {slots : List (Slot κ)}
    (h : FitsAll capacity load slots) (kind : κ) :
    amount kind (putAll capacity load slots) = amount kind slots + total kind load := by
  induction load generalizing slots with
  | nil => rfl
  | cons stack rest ih =>
    rcases stack with ⟨key, count⟩
    have hput := put_amount capacity key kind slots count
    rw [h.1] at hput
    have hrest := ih h.2
    simp only [putAll, total_cons]
    simp only [leftover, Option.map_none, held_none] at hput
    omega

theorem putAll_amount_le (capacity : Nat) (load : List (κ × Nat)) (slots : List (Slot κ))
    (kind : κ) :
    amount kind (putAll capacity load slots) ≤ amount kind slots + total kind load := by
  induction load generalizing slots with
  | nil => exact Nat.le_refl _
  | cons stack rest ih =>
    rcases stack with ⟨key, count⟩
    have hput := put_amount capacity key kind slots count
    have hrest := ih (put capacity key count slots).2
    simp only [putAll, total_cons]
    omega

/-- The slots a number of items takes. -/
def slotsFor (capacity count : Nat) : Nat := (count + (capacity - 1)) / capacity

theorem slotsFor_pos (h : 0 < capacity) (hcount : 0 < count) :
    slotsFor capacity count = slotsFor capacity (count - capacity) + 1 := by
  unfold slotsFor
  rcases Nat.lt_or_ge count capacity with hsmall | hlarge
  · have hzero : count - capacity = 0 := by omega
    rw [hzero, Nat.zero_add, Nat.div_eq_of_lt (show capacity - 1 < capacity by omega)]
    apply Nat.div_eq_of_lt_le
    · omega
    · omega
  · have hsplit : count + (capacity - 1) = count - capacity + (capacity - 1) + capacity := by omega
    rw [hsplit, Nat.add_div_right _ h]

/-- The free slots that the stacks of some kinds need. -/
def need (capacity : Nat) (kinds : Finset κ) (load : List (κ × Nat)) (slots : List (Slot κ)) :
    Nat :=
  ∑ kind ∈ kinds, slotsFor capacity (total kind load - room capacity kind slots)

/-- The free slots a sequence of stacks needs. -/
def demand (capacity : Nat) (load : List (κ × Nat)) (slots : List (Slot κ)) : Nat :=
  need capacity (load.map Prod.fst).toFinset load slots

theorem need_split {kinds : Finset κ} {kind : κ} (hkind : kind ∈ kinds) (load : List (κ × Nat))
    (slots : List (Slot κ)) : need capacity kinds load slots =
      slotsFor capacity (total kind load - room capacity kind slots) +
        need capacity (kinds.erase kind) load slots :=
  (Finset.add_sum_erase kinds _ hkind).symm

theorem need_congr {kinds : Finset κ} {load load' : List (κ × Nat)} {slots slots' : List (Slot κ)}
    (htotal : ∀ kind ∈ kinds, total kind load' = total kind load)
    (hroom : ∀ kind ∈ kinds, room capacity kind slots' = room capacity kind slots) :
    need capacity kinds load' slots' = need capacity kinds load slots := by
  apply Finset.sum_congr rfl
  intro kind hkind
  rw [htotal kind hkind, hroom kind hkind]

/-- **Stacks fit exactly when there are enough free slots**, for any kinds that include theirs. -/
theorem fitsAll_iff_need {kinds : Finset κ} {load : List (κ × Nat)}
    (hload : ∀ stack ∈ load, stack.1 ∈ kinds ∧ 0 < stack.2 ∧ stack.2 ≤ capacity)
    (slots : List (Slot κ)) :
    FitsAll capacity load slots ↔ need capacity kinds load slots ≤ free slots := by
  induction load generalizing slots with
  | nil =>
    have hzero : need capacity kinds ([] : List (κ × Nat)) slots = 0 := by
      apply Finset.sum_eq_zero
      intro kind _
      unfold slotsFor
      rw [total_nil, Nat.zero_sub, Nat.zero_add]
      exact Nat.div_eq_zero_iff.mpr (by omega)
    simp [FitsAll, hzero]
  | cons stack rest ih =>
    rcases stack with ⟨key, count⟩
    obtain ⟨hkey, hpos, hle⟩ := hload (key, count) (List.mem_cons_self ..)
    dsimp only at hkey hpos hle
    have hrest := ih fun stack hmem => hload stack (List.mem_cons_of_mem _ hmem)
    have hown : total key ((key, count) :: rest) = count + total key rest := by
      simp [held]
    have hothers : ∀ kind ∈ kinds.erase key,
        total kind ((key, count) :: rest) = total kind rest := by
      intro kind hmem
      have hne := Finset.ne_of_mem_erase hmem
      simp [held, Ne.symm hne]
    have hsame : ∀ slots', (∀ kind ∈ kinds.erase key,
        room capacity kind slots' = room capacity kind slots) →
        need capacity (kinds.erase key) rest slots' =
          need capacity (kinds.erase key) ((key, count) :: rest) slots := by
      intro slots' hroom
      exact need_congr (fun kind hmem => (hothers kind hmem).symm) hroom
    change (put capacity key count slots).1 = none ∧
      FitsAll capacity rest (put capacity key count slots).2 ↔ _
    rw [hrest, need_split hkey, need_split hkey, hown]
    rcases put_cases capacity key slots hpos with
      ⟨hfits, hnone, hfree, hroom⟩ | ⟨hshort, hempty, hnone, hfree, hroom⟩ |
      ⟨hshort, hfull, hleft⟩
    · rw [hsame _ fun kind hmem => by rw [hroom kind, if_neg (Finset.ne_of_mem_erase hmem)],
        hroom key, if_pos rfl, hfree]
      have hdiff : total key rest - (room capacity key slots - count) =
          count + total key rest - room capacity key slots := by omega
      rw [hdiff]
      simp [hnone]
    · rw [hsame _ fun kind hmem => by rw [hroom kind, if_neg (Finset.ne_of_mem_erase hmem)],
        hroom key, if_pos rfl]
      have hone := slotsFor_pos (show 0 < capacity by omega)
        (show 0 < count + total key rest - room capacity key slots by omega)
      have hdiff : total key rest - (capacity - (count - room capacity key slots)) =
          count + total key rest - room capacity key slots - capacity := by omega
      rw [hdiff, hone]
      simp only [hnone, true_and]
      omega
    · have hone := slotsFor_pos (show 0 < capacity by omega)
        (show 0 < count + total key rest - room capacity key slots by omega)
      rw [hone, hfull, hleft]
      simp

theorem fitsAll_iff {load : List (κ × Nat)}
    (hload : ∀ stack ∈ load, 0 < stack.2 ∧ stack.2 ≤ capacity) (slots : List (Slot κ)) :
    FitsAll capacity load slots ↔ demand capacity load slots ≤ free slots := by
  apply fitsAll_iff_need
  intro stack hmem
  exact ⟨List.mem_toFinset.mpr (List.mem_map_of_mem hmem), hload stack hmem⟩

end RevyCraft.Stacks
