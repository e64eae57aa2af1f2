/-
  RevyCraft/WindowClicks.lean
  ===========================
  **What a click leaves of a window** (`click.rs` of the core, over the canonical
  content): of the window that the client sees, by what the slot is to a click.

    * `Place`: a slot gives and takes, gives what was smelted or made, or is not there.
    * `Clicked`: the window before and after.
    * `clickHeld_clicked`: a click on any slot of a window that is open.
-/
import RevyCraft.ItemTotals

namespace RevyCraft.WindowClicks

open Canonical

/-! ### Windows -/

/-- What the client sees of a window. -/
structure View where
  slots : InventorySlot → Option ItemStack
  cursor : Option ItemStack

/-- What is left of a stack without so many of its items. -/
def remaining (stack : ItemStack) (amount : Nat) : Option ItemStack :=
  if stack.count = amount then none else some { stack with count := stack.count - amount }

/-- The counts of a window: one to a full stack. -/
def Counted (stack : Option ItemStack) : Prop :=
  ∀ held, stack = some held → 1 ≤ held.count ∧ held.count ≤ MAX_STACK_SIZE

/-- A count is a byte.  Nothing more is asked of the cursor's. -/
def FitsU8 (stack : Option ItemStack) : Prop := ∀ held, stack = some held → held.count ≤ u8Max

theorem applyClickSlotValue_ok (button : InventoryClickButton) {cursor slot : Option ItemStack}
    (hcursor : FitsU8 cursor)
    (hslot : Counted slot) : ∃ outcome, applyClickSlotValue button cursor slot = .ok outcome := by
  cases button with
  | right => exact ⟨_, rfl⟩
  | left =>
    rcases cursor with _ | held <;> rcases slot with _ | there
    · exact ⟨_, rfl⟩
    · exact ⟨_, rfl⟩
    · exact ⟨_, rfl⟩
    · have hheld := hcursor held rfl
      have hthere := hslot there rfl
      have hfits : ¬ held.count + there.count - min (held.count + there.count) MAX_STACK_SIZE >
          u8Max := by
        unfold MAX_STACK_SIZE at hthere ⊢
        unfold u8Max at hheld ⊢
        omega
      simp only [applyClickSlotValue, applyLeftClickSlotValue, hfits, if_false]
      split
      · split <;> exact ⟨_, rfl⟩
      · exact ⟨_, rfl⟩

/-- What a slot of a window is to a click. -/
inductive Place where
  /-- It gives and takes. -/
  | free
  /-- It gives what was smelted. -/
  | smelted
  /-- It gives what the grid makes. -/
  | crafted (made : Option ItemStack)
  /-- It is not there for a click. -/
  | closed

/-- How many items of an output a button takes. -/
def takenBy (button : InventoryClickButton) (output : ItemStack) : Nat :=
  match button with
  | .left => output.count
  | .right => 1

variable {output : ItemStack} {index width : Nat} {cursor' : Option ItemStack} {applied : Bool}
  {inventory' : PlayerInventory} {C : ContentBehavior} {spec : ContainerSpec}

theorem takenBy_le (button : InventoryClickButton) (h : 1 ≤ output.count) :
    takenBy button output ≤ output.count := by
  cases button with
  | left => exact Nat.le_refl _
  | right => exact h

section Click

variable {derived : InventorySlot → Prop} {slot : InventorySlot} {button : InventoryClickButton}
  {before after : View}

/-- The other slots are as before. -/
def KeptBut (derived : InventorySlot → Prop) (slot : InventorySlot) (before after : View) : Prop :=
  ∀ other, other ≠ slot → ¬ derived other → after.slots other = before.slots other

/-- Nothing has changed but what is derived. -/
def Kept (derived : InventorySlot → Prop) (before after : View) : Prop :=
  after.cursor = before.cursor ∧ ∀ other, ¬ derived other → after.slots other = before.slots other

/-- The window before and after a click on a slot. -/
inductive Clicked (derived : InventorySlot → Prop) (slot : InventorySlot)
    (button : InventoryClickButton) (before after : View) : Bool → Place → Prop where
  | free {applied : Bool} :
      ¬ derived slot →
      applyClickSlotValue button before.cursor (before.slots slot) =
        .ok (applied, after.cursor, after.slots slot) →
      KeptBut derived slot before after → Clicked derived slot button before after applied .free
  | smelted {output held : ItemStack} :
      ¬ derived slot →
      before.slots slot = some output →
      takeOntoCursor before.cursor output (takenBy button output) = some held →
      after.cursor = some held →
      after.slots slot = remaining output (takenBy button output) →
      KeptBut derived slot before after → Clicked derived slot button before after true .smelted
  | unsmelted :
      ¬ derived slot →
      (∀ output, before.slots slot = some output →
        takeOntoCursor before.cursor output (takenBy button output) = none) →
      Kept derived before after → Clicked derived slot button before after false .smelted
  | crafted {output held : ItemStack} {other : InventorySlot} :
      takeOntoCursor before.cursor output (takenBy button output) = some held →
      other ≠ slot → ¬ derived other → after.slots other ≠ before.slots other →
      Clicked derived slot button before after true (.crafted (some output))
  | uncrafted {made : Option ItemStack} :
      (∀ output, made = some output →
        takeOntoCursor before.cursor output (takenBy button output) = none) →
      Kept derived before after → Clicked derived slot button before after false (.crafted made)
  | closed : Kept derived before after → Clicked derived slot button before after false .closed

end Click

/-! ### Outputs -/

section Grid

variable {localSlots : List (Option ItemStack)} {cursor : Option ItemStack}
  {button : InventoryClickButton}

theorem recomputeCraftingResult_getElem? (localSlots : List (Option ItemStack)) (width : Nat)
    (h : index ≠ 0) : (recomputeCraftingResult localSlots width)[index]? = localSlots[index]? := by
  unfold recomputeCraftingResult
  exact List.getElem?_set_ne (Ne.symm h)

theorem recomputeCraftingResult_length (localSlots : List (Option ItemStack)) (width : Nat) :
    (recomputeCraftingResult localSlots width).length = localSlots.length := List.length_set ..

/-- How many items a slot has. -/
def countAt (localSlots : List (Option ItemStack)) (index : Nat) : Nat :=
  localSlots[index]?.join.elim 0 ItemStack.count

theorem countAt_set (localSlots : List (Option ItemStack)) (stack : Option ItemStack)
    (index other : Nat) (h : index < localSlots.length) :
    countAt (localSlots.set index stack) other =
      if index = other then stack.elim 0 ItemStack.count else countAt localSlots other := by
  unfold countAt
  rw [List.getElem?_set]
  by_cases hsame : index = other
  · subst hsame
    simp [h]
  · simp [hsame]

theorem countAt_consumeOne (localSlots : List (Option ItemStack)) (index other : Nat) :
    countAt (consumeOne localSlots index) other =
      countAt localSlots other - if index = other then 1 else 0 := by
  unfold consumeOne
  split
  next stack hstack =>
    have hbound := (List.getElem?_eq_some_iff.mp hstack).1
    rw [countAt_set _ _ _ _ hbound]
    by_cases hsame : index = other
    · subst hsame
      have hcount : countAt localSlots index = stack.count := by
        simp [countAt, hstack]
      rw [if_pos rfl, if_pos rfl, hcount]
      by_cases hlast : stack.count - 1 = 0
      · rw [if_pos hlast, hlast]
        rfl
      · rw [if_neg hlast]
        rfl
    · rw [if_neg hsame, if_neg hsame, Nat.sub_zero]
  next hnone =>
    by_cases hsame : index = other
    · subst hsame
      have hcount : countAt localSlots index = 0 := by
        unfold countAt
        cases hslot : localSlots[index]? with
        | none => rfl
        | some stack =>
          cases stack with
          | none => rfl
          | some stack => exact absurd hslot (hnone stack)
      rw [hcount, Nat.zero_sub]
    · rw [if_neg hsame, Nat.sub_zero]

theorem countAt_consume_le (consume : List Nat) (start other : Nat)
    (localSlots : List (Option ItemStack)) :
    countAt (consume.foldl (fun slots index => consumeOne slots (start + index)) localSlots) other ≤
      countAt localSlots other := by
  induction consume generalizing localSlots with
  | nil => exact Nat.le_refl _
  | cons index rest ih =>
    refine Nat.le_trans (ih _) ?_
    rw [countAt_consumeOne]
    exact Nat.sub_le _ _

theorem countAt_consume_lt {consume : List Nat} (h : index ∈ consume) (start : Nat)
    (localSlots : List (Option ItemStack)) (hpos : 0 < countAt localSlots (start + index)) :
    countAt (consume.foldl (fun slots index => consumeOne slots (start + index)) localSlots)
      (start + index) < countAt localSlots (start + index) := by
  induction consume generalizing localSlots with
  | nil => cases h
  | cons first rest ih =>
    rw [List.foldl_cons]
    have hstep := countAt_consumeOne localSlots (start + first) (start + index)
    by_cases hsame : first = index
    · subst hsame
      rw [if_pos rfl] at hstep
      exact Nat.lt_of_le_of_lt (countAt_consume_le _ _ _ _) (by omega)
    · rw [if_neg (by omega), Nat.sub_zero] at hstep
      have hrest : index ∈ rest := by
        rcases List.mem_cons.mp h with rfl | hmem
        · exact absurd rfl hsame
        · exact hmem
      rw [← hstep] at hpos ⊢
      exact ih hrest _ hpos

theorem consume_length (consume : List Nat) (start : Nat) (localSlots : List (Option ItemStack)) :
    (consume.foldl (fun slots index => consumeOne slots (start + index)) localSlots).length =
      localSlots.length := by
  induction consume generalizing localSlots with
  | nil => rfl
  | cons index rest ih =>
    rw [List.foldl_cons, ih]
    unfold consumeOne
    split
    · exact List.length_set ..
    · rfl

theorem mem_occupiedCells {inputs : List (Option ItemStack)} {stack : ItemStack}
    (h : (index, stack) ∈ occupiedCells inputs) : inputs[index]? = some (some stack) := by
  obtain ⟨⟨held, index'⟩, hmem, hcell⟩ := List.mem_filterMap.mp h
  dsimp only at hcell
  cases held with
  | none => cases hcell
  | some held =>
    cases hcell
    exact List.mk_mem_zipIdx_iff_getElem?.mp hmem

theorem craftingGrid_length (occupied : List (Nat × ItemStack)) (width minX minY w h : Nat) :
    (craftingGrid occupied width minX minY w h).length = w * h := by
  unfold craftingGrid
  have hfold : ∀ cells : List (Option (Nat × String)),
      (occupied.foldl (fun cells cell => cells.set
        ((cell.1 / width - minY) * w + (cell.1 % width - minX)) (some (cell.1, cell.2.key)))
          cells).length = cells.length := by
    induction occupied with
    | nil => exact fun _ => rfl
    | cons cell rest ih =>
      intro cells
      rw [List.foldl_cons, ih, List.length_set]
  rw [hfold, List.length_replicate]

theorem mem_craftingGrid {occupied : List (Nat × ItemStack)} {minX minY w h : Nat}
    {cell : Nat × String} (hmem : some cell ∈ craftingGrid occupied width minX minY w h) :
    ∃ stack, (cell.1, stack) ∈ occupied := by
  unfold craftingGrid at hmem
  have hfold : ∀ cells : List (Option (Nat × String)),
      some cell ∈ occupied.foldl (fun cells cell => cells.set
        ((cell.1 / width - minY) * w + (cell.1 % width - minX)) (some (cell.1, cell.2.key)))
          cells → some cell ∈ cells ∨ ∃ stack, (cell.1, stack) ∈ occupied := by
    clear hmem
    induction occupied with
    | nil => exact fun _ hmem => .inl hmem
    | cons first rest ih =>
      intro cells hmem
      rcases ih _ hmem with hcells | ⟨stack, hrest⟩
      · rcases List.mem_or_eq_of_mem_set hcells with hcells | heq
        · exact .inl hcells
        · cases heq
          exact .inr ⟨first.2, List.mem_cons_self ..⟩
      · exact .inr ⟨stack, List.mem_cons_of_mem _ hrest⟩
  rcases hfold _ hmem with hempty | hfound
  · cases List.eq_of_mem_replicate hempty
  · exact hfound

theorem recipes_begin : ∀ recipe ∈ recipes, ∃ key, recipe.pattern.head? = some (some key) := by
  simp [recipes, ring, List.replicate]

theorem currentCraftingRecipe_consumes {inputs : List (Option ItemStack)} {consume : List Nat}
    (h : currentCraftingRecipe inputs width = some (output, consume)) :
    ∃ index stack, index ∈ consume ∧ inputs[index]? = some (some stack) := by
  unfold currentCraftingRecipe at h
  dsimp only at h
  split at h
  · obtain ⟨recipe, hfound, hmade⟩ := Option.map_eq_some_iff.mp h
    have hmatches := List.find?_some hfound
    rw [Bool.and_eq_true, List.all_eq_true] at hmatches
    obtain ⟨key, hkey⟩ := recipes_begin recipe (List.mem_of_find?_eq_some hfound)
    cases hmade
    generalize hcells : craftingGrid _ _ _ _ _ _ = cells at hmatches ⊢
    have hlength := congrArg List.length hcells
    rw [craftingGrid_length] at hlength
    cases cells with
    | nil => exact absurd hlength (Nat.mul_ne_zero (Nat.succ_ne_zero _) (Nat.succ_ne_zero _))
    | cons cell rest =>
      cases hpattern : recipe.pattern with
      | nil =>
        rw [hpattern] at hkey
        cases hkey
      | cons first pattern =>
        rw [hpattern] at hkey hmatches
        cases hkey
        have hfirst := hmatches.2 (some key, cell) (List.mem_cons_self ..)
        rw [decide_eq_true_eq] at hfirst
        cases cell with
        | none => cases hfirst
        | some cell =>
          obtain ⟨stack, hoccupied⟩ := mem_craftingGrid (hcells ▸ List.mem_cons_self (a := some cell))
          exact ⟨cell.1, stack, List.mem_filterMap.mpr ⟨some cell, List.mem_cons_self .., rfl⟩,
            mem_occupiedCells hoccupied⟩
  · cases h

end Grid

section Output

variable {localSlots : List (Option ItemStack)} {cursor : Option ItemStack}
  {button : InventoryClickButton}

/-- What the grid of a window makes. -/
def madeIn (inputCount width : Nat) (localSlots : List (Option ItemStack)) : Option ItemStack :=
  (currentCraftingRecipe ((localSlots.drop 1).take inputCount) width).map (·.1)

theorem takeCraftingResult_kept {inputCount : Nat}
    (h : ∀ output, madeIn inputCount width localSlots = some output →
      takeOntoCursor cursor output (takenBy button output) = none) :
    ∃ localSlots', takeCraftingResult localSlots 1 inputCount width cursor button =
        (false, localSlots', cursor) ∧
      ∀ index, index ≠ 0 → localSlots'[index]? = localSlots[index]? := by
  unfold madeIn at h
  unfold takeCraftingResult
  dsimp only
  cases hmade : currentCraftingRecipe ((localSlots.drop 1).take inputCount) width with
  | none =>
    exact ⟨_, rfl, fun index hindex => recomputeCraftingResult_getElem? localSlots width hindex⟩
  | some made =>
    rw [hmade] at h
    have hrefused := h made.1 rfl
    refine ⟨localSlots, ?_, fun _ _ => rfl⟩
    cases button <;>
    · dsimp only [takenBy] at hrefused ⊢
      rw [hrefused]

theorem takeCraftingResult_took {inputCount : Nat} {held : ItemStack}
    (hmade : madeIn inputCount width localSlots = some output)
    (htake : takeOntoCursor cursor output (takenBy button output) = some held)
    (hcounted : ∀ index : Nat, Counted localSlots[index]?.join) :
    ∃ localSlots' : List (Option ItemStack),
      takeCraftingResult localSlots 1 inputCount width cursor button =
        (true, localSlots', some held) ∧ localSlots'.length = localSlots.length ∧
      ∃ index, index ≠ 0 ∧ index ≤ inputCount ∧
        localSlots'[index]?.join ≠ localSlots[index]?.join := by
  obtain ⟨⟨output', consume⟩, hrecipe, rfl⟩ := Option.map_eq_some_iff.mp hmade
  refine ⟨recomputeCraftingResult
    (consume.foldl (fun slots index => consumeOne slots (1 + index)) localSlots) width, ?_, ?_, ?_⟩
  · unfold takeCraftingResult
    dsimp only
    rw [hrecipe]
    cases button <;>
    · dsimp only [takenBy] at htake ⊢
      rw [htake]
  · rw [recomputeCraftingResult_length, consume_length]
  · obtain ⟨index, stack, hindex, hinput⟩ := currentCraftingRecipe_consumes hrecipe
    have hbound : index < inputCount := by
      have := (List.getElem?_eq_some_iff.mp hinput).1
      rw [List.length_take] at this
      omega
    have hslot : localSlots[1 + index]? = some (some stack) := by
      rw [List.getElem?_take_of_lt hbound, List.getElem?_drop] at hinput
      exact hinput
    have hpos : 0 < countAt localSlots (1 + index) := by
      unfold countAt
      have := hcounted (1 + index) stack (by rw [hslot]; rfl)
      rw [hslot]
      exact this.1
    refine ⟨1 + index, by omega, by omega, ?_⟩
    rw [recomputeCraftingResult_getElem? _ _ (by omega)]
    intro hsame
    have hless := countAt_consume_lt hindex 1 localSlots hpos
    unfold countAt at hless
    rw [hsame] at hless
    exact Nat.lt_irrefl _ hless

theorem takeOutputSlot_kept
    (h : ∀ output, localSlots[2]?.join = some output →
      takeOntoCursor cursor output (takenBy button output) = none) :
    takeOutputSlot localSlots cursor 2 button = (false, localSlots, cursor) := by
  unfold takeOutputSlot
  split
  next output hslot =>
    have hrefused := h output (by rw [hslot]; rfl)
    cases button <;>
    · dsimp only [takenBy] at hrefused ⊢
      rw [hrefused]
      exact ite_self _
  next => rfl

theorem takeOutputSlot_took {held : ItemStack} (hslot : localSlots[2]?.join = some output)
    (hpos : 1 ≤ output.count)
    (htake : takeOntoCursor cursor output (takenBy button output) = some held) :
    takeOutputSlot localSlots cursor 2 button =
      (true, localSlots.set 2 (remaining output (takenBy button output)), some held) := by
  have hat : localSlots[2]? = some (some output) := by
    cases hfound : localSlots[2]? with
    | none =>
      rw [hfound] at hslot
      cases hslot
    | some stack =>
      rw [hfound] at hslot
      exact congrArg some hslot
  have hle := takenBy_le button hpos
  have hleft : (if output.count - takenBy button output = 0 then none
      else some { output with count := output.count - takenBy button output }) =
        remaining output (takenBy button output) := by
    unfold remaining
    by_cases hall : output.count = takenBy button output
    · rw [if_pos (by omega), if_pos hall]
    · rw [if_neg (by omega), if_neg hall]
  rw [← hleft]
  unfold takeOutputSlot
  rw [hat]
  have hsome : takenBy button output ≠ 0 := by
    cases button with
    | left => exact Nat.ne_of_gt hpos
    | right => exact Nat.one_ne_zero
  cases button <;>
  · dsimp only [takenBy] at htake hsome ⊢
    rw [if_neg hsome, htake]
    rfl

end Output

/-! ### The player's slots -/

section Inventory

variable {inventory : PlayerInventory} {slot other : InventorySlot}

theorem getSlot_invalid (h : ¬ slot.Valid) : inventory.getSlot slot = none := by
  have hnone : slot.legacyWindowIndex = none := by
    rw [← Option.not_isSome_iff_eq_none]
    exact fun hsome => h (.inr hsome)
  cases slot with
  | offhand => exact absurd (.inl rfl) h
  | windowLocal index | mainInventory index | hotbar index => simp [PlayerInventory.getSlot, hnone]

theorem getSlotMut_invalid (h : ¬ slot.Valid) : inventory.getSlotMut slot = none := by
  have hnone : slot.legacyWindowIndex = none := by
    rw [← Option.not_isSome_iff_eq_none]
    exact fun hsome => h (.inr hsome)
  cases slot with
  | offhand => exact absurd (.inl rfl) h
  | windowLocal index | mainInventory index | hotbar index =>
    simp [PlayerInventory.getSlotMut, hnone]

/-- An inventory as long as it should be has each of its slots. -/
def Full (inventory : PlayerInventory) : Prop :=
  inventory.slots.length = PLAYER_INVENTORY_SLOT_COUNT

theorem getSlotMut_valid (hfull : Full inventory) (h : slot.Valid) :
    inventory.getSlotMut slot = some (inventory.getSlot slot) := by
  rcases h with rfl | hindexed
  · rfl
  · obtain ⟨index, hindex⟩ := Option.isSome_iff_exists.mp hindexed
    have hbound : index < inventory.slots.length :=
      hfull ▸ InventorySlot.legacyWindowIndex_lt hindex
    rw [PlayerInventory.getSlot_of_index hindex]
    have hmut : inventory.getSlotMut slot = inventory.slots[index]? := by
      cases slot with
      | offhand => cases hindex
      | windowLocal i | mainInventory i | hotbar i => simp [PlayerInventory.getSlotMut, hindex]
    rw [hmut, PlayerInventory.get, List.getElem?_eq_getElem hbound]
    rfl

theorem setSlot_valid (hfull : Full inventory) (h : slot.Valid) (stack : Option ItemStack) :
    inventory.setSlot slot stack = .ok (true, inventory.writeSlot slot stack) := by
  rcases h with rfl | hindexed
  · rfl
  · obtain ⟨index, hindex⟩ := Option.isSome_iff_exists.mp hindexed
    have hlt := InventorySlot.legacyWindowIndex_lt hindex
    have hwrite : inventory.writeSlot slot stack =
        { inventory with slots := inventory.slots.set index stack } := by
      cases slot with
      | offhand => cases hindex
      | windowLocal i | mainInventory i | hotbar i => simp [PlayerInventory.writeSlot, hindex]
    rw [PlayerInventory.setSlot_of_index hindex, PlayerInventory.set, if_neg (by omega),
      if_neg (by rw [hfull]; omega), hwrite]

theorem Full.writeSlot (hfull : Full inventory) (slot : InventorySlot) (stack : Option ItemStack) :
    Full (inventory.writeSlot slot stack) := by
  unfold Full at *
  unfold PlayerInventory.writeSlot
  split
  · exact hfull
  · split
    · exact hfull
    · exact (List.length_set ..).trans hfull

theorem getSlot_writeSlot (hfull : Full inventory) (h : slot.Valid) (stack : Option ItemStack) :
    (inventory.writeSlot slot stack).getSlot other =
      if other = slot then stack else inventory.getSlot other := by
  by_cases hother : other.Valid
  · exact PlayerInventory.getSlot_setSlot h (setSlot_valid hfull h stack) hother
  · have hne : other ≠ slot := by
      rintro rfl
      exact hother h
    rw [if_neg hne, getSlot_invalid hother, getSlot_invalid hother]

/-- The local slots, from the given index on, hold these stacks. -/
def writeLocals (inventory : PlayerInventory) (index : Nat) (given : List (Option ItemStack)) :
    PlayerInventory :=
  (given.zipIdx index).foldl
    (fun inventory (stack, index) => inventory.writeSlot (.windowLocal index) stack) inventory

theorem Full.writeLocals (hfull : Full inventory) (index : Nat) (given : List (Option ItemStack)) :
    Full (writeLocals inventory index given) := by
  induction given generalizing inventory index with
  | nil => exact hfull
  | cons stack rest ih => exact ih (hfull.writeSlot (.windowLocal index) stack) (index + 1)

theorem getSlot_writeLocals (hfull : Full inventory) (given : List (Option ItemStack))
    (index : Nat) (hbound : index + given.length ≤ AUXILIARY_SLOT_COUNT) :
    (∀ i, i < given.length →
      (writeLocals inventory index given).getSlot (.windowLocal (index + i)) = given[i]?.join) ∧
    ∀ other, (∀ i, i < given.length → other ≠ .windowLocal (index + i)) →
      (writeLocals inventory index given).getSlot other = inventory.getSlot other := by
  induction given generalizing inventory index with
  | nil => exact ⟨fun i hi => absurd hi (Nat.not_lt_zero i), fun _ _ => rfl⟩
  | cons stack rest ih =>
    rw [List.length_cons] at hbound
    have hvalid : (InventorySlot.windowLocal index).Valid :=
      PlayerInventory.windowLocal_valid (by omega)
    obtain ⟨hput, hkept⟩ := ih (hfull.writeSlot (.windowLocal index) stack) (index + 1) (by omega)
    constructor
    · intro i hi
      rw [List.length_cons] at hi
      cases i with
      | zero =>
        refine (hkept _ fun j _ => ?_).trans ?_
        · simp
          omega
        · rw [getSlot_writeSlot hfull hvalid]
          simp
      | succ i =>
        have hnext := hput i (by omega)
        rw [show index + 1 + i = index + (i + 1) by omega] at hnext
        rw [List.getElem?_cons_succ]
        exact hnext
    · intro other hother
      refine (hkept other fun i hi => ?_).trans ?_
      · have := hother (i + 1) (by simp [hi])
        rwa [show index + 1 + i = index + (i + 1) by omega]
      · have hfirst : other ≠ .windowLocal index := hother 0 (by simp)
        rw [getSlot_writeSlot hfull hvalid, if_neg hfirst]

theorem storePlayerLocalSlots_eq (hfull : Full inventory) (given : List (Option ItemStack))
    (index : Nat) (hbound : index + given.length ≤ AUXILIARY_SLOT_COUNT) :
    storePlayerLocalSlots inventory index given = .ok (writeLocals inventory index given) := by
  induction given generalizing inventory index with
  | nil => rfl
  | cons stack rest ih =>
    rw [List.length_cons] at hbound
    unfold AUXILIARY_SLOT_COUNT at hbound
    have hvalid : (InventorySlot.windowLocal index).Valid :=
      PlayerInventory.windowLocal_valid (by unfold AUXILIARY_SLOT_COUNT; omega)
    rw [storePlayerLocalSlots, if_neg (by unfold u16Max; omega), setSlot_valid hfull hvalid]
    exact ih (hfull.writeSlot (.windowLocal index) stack) (index + 1)
      (by unfold AUXILIARY_SLOT_COUNT; omega)

/-- The local slots of the player's window. -/
def localsOf (inventory : PlayerInventory) : List (Option ItemStack) :=
  (List.range PLAYER_LOCAL_SLOT_COUNT).map fun index => inventory.getSlot (.windowLocal index)

theorem localsOf_getElem? (h : index < PLAYER_LOCAL_SLOT_COUNT) :
    (localsOf inventory)[index]? = some (inventory.getSlot (.windowLocal index)) := by
  simp [localsOf, h]

theorem localsOf_length : (localsOf inventory).length = PLAYER_LOCAL_SLOT_COUNT := by
  simp [localsOf]

/-- The inventory's local slots hold these stacks; all but the result, when it is worked out
    again. -/
theorem getSlot_writeLocals_all (hfull : Full inventory) {given : List (Option ItemStack)}
    (hlength : given.length = PLAYER_LOCAL_SLOT_COUNT) :
    (∀ index, index < PLAYER_LOCAL_SLOT_COUNT →
      (writeLocals inventory 0 given).getSlot (.windowLocal index) = given[index]?.join) ∧
    ∀ other, (∀ index, index < PLAYER_LOCAL_SLOT_COUNT → other ≠ .windowLocal index) →
      (writeLocals inventory 0 given).getSlot other = inventory.getSlot other := by
  obtain ⟨hput, hkept⟩ := getSlot_writeLocals hfull given 0 (by rw [Nat.zero_add, hlength]; decide)
  simp only [Nat.zero_add, hlength] at hput hkept
  exact ⟨hput, hkept⟩

theorem getSlot_normalize (hfull : Full inventory) (h : other ≠ .windowLocal 0) :
    (normalizePlayerInventory inventory).getSlot other = inventory.getSlot other := by
  have hlength : (recomputeCraftingResult (localsOf inventory) 2).length =
      PLAYER_LOCAL_SLOT_COUNT := by
    rw [recomputeCraftingResult_length, localsOf_length]
  obtain ⟨hput, hkept⟩ := getSlot_writeLocals_all hfull hlength
  change (writeLocals inventory 0 (recomputeCraftingResult (localsOf inventory) 2)).getSlot other = _
  by_cases hlocal : ∃ index, index < PLAYER_LOCAL_SLOT_COUNT ∧ other = .windowLocal index
  · obtain ⟨index, hindex, rfl⟩ := hlocal
    have hne : index ≠ 0 := by
      rintro rfl
      exact h rfl
    rw [hput index hindex, recomputeCraftingResult_getElem? _ _ hne, localsOf_getElem? hindex]
    rfl
  · exact hkept other fun index hindex hsame => hlocal ⟨index, hindex, hsame⟩

theorem applyInventorySlotClick_valid (hfull : Full inventory) (h : slot.Valid)
    {button : InventoryClickButton} {cursor stack : Option ItemStack}
    (hclick : applyClickSlotValue button cursor (inventory.getSlot slot) =
      .ok (applied, cursor', stack)) : applyInventorySlotClick inventory cursor slot button =
      .ok (applied, cursor', inventory.writeSlot slot stack) := by
  unfold applyInventorySlotClick
  rw [getSlotMut_valid hfull h]
  dsimp only
  rw [hclick]
  rfl

theorem applyInventorySlotClick_invalid (h : ¬ slot.Valid) (cursor : Option ItemStack)
    (button : InventoryClickButton) :
    applyInventorySlotClick inventory cursor slot button = .ok (false, cursor, inventory) := by
  unfold applyInventorySlotClick
  rw [getSlotMut_invalid h]

end Inventory

/-! ### The slots of a window -/

/-- The slots whose contents are worked out from the others. -/
def derived (kind : ContainerKindId) (slot : InventorySlot) : Prop :=
  (kind = Ids.PLAYER ∨ kind = Ids.CRAFTING_TABLE) ∧ slot = .windowLocal 0

/-- What the output slot of a window is. -/
def outputOf (kind : ContainerKindId) (localSlots : List (Option ItemStack)) : Place :=
  if kind = Ids.FURNACE then .smelted
  else if kind = Ids.PLAYER then .crafted (madeIn 4 2 localSlots)
  else .crafted (madeIn 9 3 localSlots)

/-- What each slot of a window is to a click. -/
def placeOf (kind : ContainerKindId) (localSlots : List (Option ItemStack)) (slot : InventorySlot) :
    Place :=
  match containerSpec kind with
  | none => .closed
  | some spec =>
    match slot with
    | .windowLocal index =>
      if index < spec.localSlotCount then
        match spec.slotRole index with
        | .unavailable => .closed
        | .outputOnly => outputOf kind localSlots
        | .generic => if index < localSlots.length then .free else .closed
      else .closed
    | slot => if slot.Valid then .free else .closed

section Spec

variable {kind : ContainerKindId} {spec : ContainerSpec} {index : Nat}

theorem getElem?_ofList_single (key : Nat) (role : ContainerSlotRole) :
    (Std.ExtTreeMap.ofList [(key, role)] compare)[index]? =
      if key = index then some role else none := by
  simp only [Std.ExtTreeMap.ofList_cons, Std.ExtTreeMap.insertMany_nil,
    Std.ExtTreeMap.getElem?_insert, Std.ExtTreeMap.getElem?_empty, Nat.compare_eq_eq]

theorem containerSpec_cases (h : containerSpec kind = some spec) :
    (kind = Ids.PLAYER ∧ spec.localSlotCount = PLAYER_LOCAL_SLOT_COUNT ∧
      ∀ index, spec.slotRole index = if index = 0 then .outputOnly
        else if 5 ≤ index ∧ index ≤ 8 then .unavailable else .generic) ∨
    (kind = Ids.CRAFTING_TABLE ∧
      ∀ index, spec.slotRole index = if index = 0 then .outputOnly else .generic) ∨
    (kind = Ids.CHEST_27 ∧ ∀ index, spec.slotRole index = .generic) ∨
    (kind = Ids.FURNACE ∧
      ∀ index, spec.slotRole index = if index = 2 then .outputOnly else .generic) := by
  unfold containerSpec at h
  by_cases hplayer : kind = Ids.PLAYER
  · rw [if_pos hplayer] at h
    cases h
    refine .inl ⟨hplayer, rfl, fun index => ?_⟩
    simp only [ContainerSpec.slotRole, Std.ExtTreeMap.ofList_cons, Std.ExtTreeMap.insertMany_cons,
      Std.ExtTreeMap.insertMany_nil, Std.ExtTreeMap.getElem?_insert,
      Std.ExtTreeMap.getElem?_empty, Nat.compare_eq_eq]
    split_ifs <;> first | rfl | omega
  · rw [if_neg hplayer] at h
    by_cases htable : kind = Ids.CRAFTING_TABLE
    · rw [if_pos htable] at h
      cases h
      refine .inr (.inl ⟨htable, fun index => ?_⟩)
      simp only [ContainerSpec.slotRole, getElem?_ofList_single]
      split_ifs <;> first | rfl | omega
    · rw [if_neg htable] at h
      by_cases hchest : kind = Ids.CHEST_27
      · rw [if_pos hchest] at h
        cases h
        refine .inr (.inr (.inl ⟨hchest, fun index => ?_⟩))
        simp [ContainerSpec.slotRole]
      · rw [if_neg hchest] at h
        by_cases hfurnace : kind = Ids.FURNACE
        · rw [if_pos hfurnace] at h
          cases h
          refine .inr (.inr (.inr ⟨hfurnace, fun index => ?_⟩))
          simp only [ContainerSpec.slotRole, getElem?_ofList_single]
          split_ifs <;> first | rfl | omega
        · rw [if_neg hfurnace] at h
          cases h

theorem generic_not_derived (hspec : containerSpec kind = some spec)
    (hrole : spec.slotRole index = .generic) : ¬ derived kind (.windowLocal index) := by
  rintro ⟨hkind, hslot⟩
  cases hslot
  rcases containerSpec_cases hspec with ⟨-, -, hroles⟩ | ⟨-, hroles⟩ | ⟨hchest, -⟩ | ⟨hfurnace, -⟩
  · rw [hroles] at hrole
    cases hrole
  · rw [hroles] at hrole
    cases hrole
  · subst hchest
    revert hkind
    decide
  · subst hfurnace
    revert hkind
    decide

theorem output_cases (hspec : containerSpec kind = some spec)
    (hrole : spec.slotRole index = .outputOnly) :
    (kind = Ids.PLAYER ∧ index = 0) ∨ (kind = Ids.CRAFTING_TABLE ∧ index = 0) ∨
      (kind = Ids.FURNACE ∧ index = 2) := by
  rcases containerSpec_cases hspec with ⟨hkind, -, hroles⟩ | ⟨hkind, hroles⟩ | ⟨-, hroles⟩ |
    ⟨hkind, hroles⟩
  · rw [hroles] at hrole
    split_ifs at hrole with h
    exact .inl ⟨hkind, h⟩
  · rw [hroles] at hrole
    split_ifs at hrole with h
    exact .inr (.inl ⟨hkind, h⟩)
  · rw [hroles] at hrole
    cases hrole
  · rw [hroles] at hrole
    split_ifs at hrole with h
    exact .inr (.inr ⟨hkind, h⟩)

end Spec

/-! ### The player's own window -/

section PlayerWindow

variable {inventory : PlayerInventory} {cursor : Option ItemStack} {slot : InventorySlot}
  {button : InventoryClickButton}

def PlayerClicked (inventory : PlayerInventory) (cursor : Option ItemStack) (slot : InventorySlot)
    (button : InventoryClickButton) : Prop :=
  ∃ applied cursor' inventory',
    applyPlayerWindowClick canonicalContent inventory cursor (some slot) button =
      .ok (applied, cursor', inventory') ∧
    Clicked (derived Ids.PLAYER) slot button ⟨inventory.getSlot, cursor⟩
      ⟨inventory'.getSlot, cursor'⟩ applied (placeOf Ids.PLAYER (localsOf inventory) slot)

theorem Kept.refl {derived : InventorySlot → Prop} {before : View} : Kept derived before before :=
  ⟨rfl, fun _ _ => rfl⟩

theorem derived_player : derived Ids.PLAYER slot ↔ slot = .windowLocal 0 := by
  simp [derived]

theorem clicked_inventory (button : InventoryClickButton) {kind : ContainerKindId}
    (hfull : Full inventory) (h : slot.Valid)
    (hfree : ¬ derived kind slot) (hcursor : FitsU8 cursor)
    (hcounted : Counted (inventory.getSlot slot)) :
    ∃ applied cursor' inventory',
      applyInventorySlotClick inventory cursor slot button = .ok (applied, cursor', inventory') ∧
      Full inventory' ∧
      Clicked (derived kind) slot button ⟨inventory.getSlot, cursor⟩
        ⟨inventory'.getSlot, cursor'⟩ applied .free := by
  obtain ⟨⟨applied, cursor', stack⟩, hclick⟩ := applyClickSlotValue_ok button hcursor hcounted
  have hat : (inventory.writeSlot slot stack).getSlot slot = stack := by
    rw [getSlot_writeSlot hfull h, if_pos rfl]
  refine ⟨applied, cursor', _, applyInventorySlotClick_valid hfull h hclick,
    hfull.writeSlot slot stack, .free hfree ?_ fun other hother _ => ?_⟩
  · dsimp only
    rw [hat]
    exact hclick
  · exact (getSlot_writeSlot hfull h stack).trans (if_neg hother)

theorem Clicked.normalize {before : View} (hfull : Full inventory') (hslot : slot ≠ .windowLocal 0)
    (h : Clicked (derived Ids.PLAYER) slot button before ⟨inventory'.getSlot, cursor'⟩
      applied .free) : Clicked (derived Ids.PLAYER) slot button before
      ⟨(normalizePlayerInventory inventory').getSlot, cursor'⟩ applied .free := by
  cases h with
  | free hfree hclick hkept =>
    refine .free hfree ?_ fun other hother hnot => ?_
    · dsimp only at hclick ⊢
      rw [getSlot_normalize hfull hslot]
      exact hclick
    · dsimp only
      rw [getSlot_normalize hfull fun hsame => hnot (derived_player.mpr hsame)]
      exact hkept other hother hnot

theorem applyPlayerWindowClick_output (hspec : C.containerSpec C.playerContainerKind = some spec)
    (hbound : index < spec.localSlotCount) (hrole : spec.slotRole index = .outputOnly)
    {localSlots' : List (Option ItemStack)}
    (htake : C.tryTakeOutput C.playerContainerKind
      (collectPlayerLocalSlots inventory spec.localSlotCount) cursor button =
        (applied, localSlots', cursor')) :
    applyPlayerWindowClick C inventory cursor (some (.windowLocal index)) button =
      if applied then (storePlayerLocalSlots inventory 0 localSlots').map
          fun inventory => (true, cursor', C.normalizePlayerInventory inventory)
      else .ok (false, cursor', inventory) := by
  unfold applyPlayerWindowClick
  rw [hspec]
  simp only [if_pos hbound, hrole, htake]
  cases applied with
  | false => rfl
  | true =>
    simp only [if_true]
    cases storePlayerLocalSlots inventory 0 localSlots' <;> rfl

theorem applyPlayerWindowClick_plain (hspec : C.containerSpec C.playerContainerKind = some spec)
    (hlocal : ∀ index, slot ≠ .windowLocal index) :
    applyPlayerWindowClick C inventory cursor (some slot) button =
      applyInventorySlotClick inventory cursor slot button := by
  unfold applyPlayerWindowClick
  rw [hspec]
  cases slot with
  | windowLocal index => exact absurd rfl (hlocal index)
  | _ => rfl

theorem applyPlayerWindowClick_closed (hspec : C.containerSpec C.playerContainerKind = some spec)
    (hrole : index < spec.localSlotCount → spec.slotRole index = .unavailable) :
    applyPlayerWindowClick C inventory cursor (some (.windowLocal index)) button =
      .ok (false, cursor, inventory) := by
  unfold applyPlayerWindowClick
  rw [hspec]
  dsimp only
  by_cases hbound : index < spec.localSlotCount
  · rw [if_pos hbound, hrole hbound]
  · rw [if_neg hbound]

theorem applyPlayerWindowClick_generic (hspec : C.containerSpec C.playerContainerKind = some spec)
    (hbound : index < spec.localSlotCount) (hrole : spec.slotRole index = .generic)
    (happlied : applyInventorySlotClick inventory cursor (.windowLocal index) button =
      .ok (applied, cursor', inventory')) :
    applyPlayerWindowClick C inventory cursor (some (.windowLocal index)) button =
      .ok (applied, cursor',
        if applied then C.normalizePlayerInventory inventory' else inventory') := by
  unfold applyPlayerWindowClick
  rw [hspec]
  dsimp only
  rw [if_pos hbound, hrole]
  dsimp only
  rw [happlied]
  rfl

/-- A click on the result takes it when the grid makes something that the cursor has room for. -/
theorem clicked_result (hfull : Full inventory)
    (hcounted : ∀ slot, Counted (inventory.getSlot slot))
    (hspec : containerSpec Ids.PLAYER = some spec) (hbound : 0 < spec.localSlotCount)
    (hcount : spec.localSlotCount = PLAYER_LOCAL_SLOT_COUNT)
    (hrole : spec.slotRole 0 = .outputOnly) : ∃ applied cursor' inventory',
      applyPlayerWindowClick canonicalContent inventory cursor (some (.windowLocal 0)) button =
        .ok (applied, cursor', inventory') ∧
      Clicked (derived Ids.PLAYER) (.windowLocal 0) button ⟨inventory.getSlot, cursor⟩
        ⟨inventory'.getSlot, cursor'⟩ applied (.crafted (madeIn 4 2 (localsOf inventory))) := by
  have hlocals : collectPlayerLocalSlots inventory spec.localSlotCount = localsOf inventory := by
    rw [hcount]
    rfl
  have hclick : ∀ applied localSlots' cursor',
      takeCraftingResult (localsOf inventory) 1 4 2 cursor button =
        (applied, localSlots', cursor') →
      applyPlayerWindowClick canonicalContent inventory cursor (some (.windowLocal 0)) button =
        if applied then (storePlayerLocalSlots inventory 0 localSlots').map
            fun inventory => (true, cursor', normalizePlayerInventory inventory)
        else .ok (false, cursor', inventory) := by
    intro applied localSlots' cursor' htake
    exact applyPlayerWindowClick_output hspec hbound hrole (by rw [hlocals]; exact htake)
  cases hmade : madeIn 4 2 (localsOf inventory) with
  | none =>
    have hnone : ∀ output, madeIn 4 2 (localsOf inventory) = some output →
        takeOntoCursor cursor output (takenBy button output) = none := by
      intro output hsome
      rw [hmade] at hsome
      cases hsome
    obtain ⟨localSlots', htake, -⟩ := takeCraftingResult_kept hnone
    exact ⟨false, cursor, inventory, hclick _ _ _ htake, .uncrafted (hmade ▸ hnone) .refl⟩
  | some output =>
    cases hroom : takeOntoCursor cursor output (takenBy button output) with
    | none =>
      have hnone : ∀ output', madeIn 4 2 (localsOf inventory) = some output' →
          takeOntoCursor cursor output' (takenBy button output') = none := by
        intro output' hsome
        rw [hmade] at hsome
        cases hsome
        exact hroom
      obtain ⟨localSlots', htake, -⟩ := takeCraftingResult_kept hnone
      exact ⟨false, cursor, inventory, hclick _ _ _ htake, .uncrafted (hmade ▸ hnone) .refl⟩
    | some held =>
      have hlocal : ∀ index : Nat, Counted (localsOf inventory)[index]?.join := by
        intro index stack hstack
        by_cases hindex : index < PLAYER_LOCAL_SLOT_COUNT
        · rw [localsOf_getElem? hindex] at hstack
          exact hcounted (.windowLocal index) stack hstack
        · rw [List.getElem?_eq_none (by rw [localsOf_length]; omega)] at hstack
          cases hstack
      obtain ⟨localSlots', htake, hlength, index, hne, hle, hchanged⟩ :=
        takeCraftingResult_took hmade hroom hlocal
      rw [localsOf_length] at hlength
      have hindex : index < PLAYER_LOCAL_SLOT_COUNT := by
        unfold PLAYER_LOCAL_SLOT_COUNT
        omega
      have hother : InventorySlot.windowLocal index ≠ .windowLocal 0 := by
        simpa using hne
      refine ⟨true, some held, normalizePlayerInventory (writeLocals inventory 0 localSlots'),
        (hclick _ _ _ htake).trans ?_,
        .crafted hroom hother
          (fun hderived => hother (derived_player.mp hderived)) ?_⟩
      · rw [if_pos rfl, storePlayerLocalSlots_eq hfull _ _ (by rw [hlength]; decide)]
        rfl
      · dsimp only
        rw [getSlot_normalize (hfull.writeLocals 0 localSlots') hother,
          (getSlot_writeLocals_all hfull hlength).1 index hindex]
        rw [localsOf_getElem? hindex] at hchanged
        exact hchanged

theorem playerClicked_plain (hspec : containerSpec Ids.PLAYER = some spec) (hfull : Full inventory)
    (hcursor : FitsU8 cursor) (hcounted : ∀ slot, Counted (inventory.getSlot slot))
    (hlocal : ∀ index, slot ≠ .windowLocal index) : PlayerClicked inventory cursor slot button := by
  have hplace : placeOf Ids.PLAYER (localsOf inventory) slot =
      if slot.Valid then .free else .closed := by
    unfold placeOf
    rw [hspec]
    cases slot with
    | windowLocal index => exact absurd rfl (hlocal index)
    | _ => rfl
  unfold PlayerClicked
  rw [hplace, applyPlayerWindowClick_plain hspec hlocal]
  by_cases hvalid : slot.Valid
  · rw [if_pos hvalid]
    obtain ⟨applied, cursor', inventory', happlied, -, hclicked⟩ :=
      clicked_inventory button hfull hvalid
        (fun hderived => hlocal 0 (derived_player.mp hderived)) hcursor (hcounted slot)
    exact ⟨applied, cursor', inventory', happlied, hclicked⟩
  · rw [if_neg hvalid]
    exact ⟨false, cursor, inventory, applyInventorySlotClick_invalid hvalid cursor button,
      .closed .refl⟩

theorem playerClicked_generic (hspec : containerSpec Ids.PLAYER = some spec)
    (hcount : spec.localSlotCount = PLAYER_LOCAL_SLOT_COUNT) (hbound : index < spec.localSlotCount)
    (hrole : spec.slotRole index = .generic) (hfull : Full inventory) (hcursor : FitsU8 cursor)
    (hcounted : ∀ slot, Counted (inventory.getSlot slot)) :
    PlayerClicked inventory cursor (.windowLocal index) button := by
  have hvalid : (InventorySlot.windowLocal index).Valid :=
    PlayerInventory.windowLocal_valid (by rw [hcount] at hbound; exact hbound)
  have hplace : placeOf Ids.PLAYER (localsOf inventory) (.windowLocal index) = .free := by
    unfold placeOf
    rw [hspec]
    dsimp only
    rw [if_pos hbound, hrole]
    dsimp only
    rw [localsOf_length, ← hcount, if_pos hbound]
  have hfree := generic_not_derived hspec hrole
  obtain ⟨applied, cursor', inventory', happlied, hfull', hclicked⟩ :=
    clicked_inventory button hfull hvalid hfree hcursor (hcounted (.windowLocal index))
  refine ⟨applied, cursor', if applied then normalizePlayerInventory inventory' else inventory',
    applyPlayerWindowClick_generic hspec hbound hrole happlied, ?_⟩
  rw [hplace]
  cases applied with
  | false => exact hclicked
  | true =>
    rw [if_pos rfl]
    exact hclicked.normalize hfull' fun hsame => hfree (derived_player.mpr hsame)

theorem playerClicked (hfull : Full inventory) (hcursor : FitsU8 cursor)
    (hcounted : ∀ slot, Counted (inventory.getSlot slot)) :
    PlayerClicked inventory cursor slot button := by
  obtain ⟨spec, hspec⟩ : ∃ spec, containerSpec Ids.PLAYER = some spec := ⟨_, rfl⟩
  obtain ⟨-, hcount, hroles⟩ | ⟨hkind, -⟩ | ⟨hkind, -⟩ | ⟨hkind, -⟩ := containerSpec_cases hspec
  · cases slot with
    | offhand | mainInventory i | hotbar i =>
      exact playerClicked_plain hspec hfull hcursor hcounted (fun _ => by simp)
    | windowLocal index =>
      by_cases hclosed : index < spec.localSlotCount → spec.slotRole index = .unavailable
      · have hplace : placeOf Ids.PLAYER (localsOf inventory) (.windowLocal index) = .closed := by
          unfold placeOf
          rw [hspec]
          dsimp only
          by_cases hbound : index < spec.localSlotCount
          · rw [if_pos hbound, hclosed hbound]
          · rw [if_neg hbound]
        refine ⟨false, cursor, inventory, applyPlayerWindowClick_closed hspec hclosed,
          ?_⟩
        rw [hplace]
        exact .closed .refl
      · obtain ⟨hbound, hopen⟩ := Classical.not_imp.mp hclosed
        cases hrole : spec.slotRole index with
        | unavailable => exact absurd hrole hopen
        | generic =>
          exact playerClicked_generic hspec hcount hbound hrole hfull hcursor hcounted
        | outputOnly =>
          obtain ⟨-, rfl⟩ | ⟨hkind, -⟩ | ⟨hkind, -⟩ := output_cases hspec hrole
          · have hplace : placeOf Ids.PLAYER (localsOf inventory) (.windowLocal 0) =
                .crafted (madeIn 4 2 (localsOf inventory)) := by
              unfold placeOf
              rw [hspec]
              dsimp only
              rw [if_pos hbound, hrole]
              rfl
            unfold PlayerClicked
            rw [hplace]
            exact clicked_result hfull hcounted hspec hbound hcount hrole
          · exact absurd hkind (by decide)
          · exact absurd hkind (by decide)
  · exact absurd hkind (by decide)
  · exact absurd hkind (by decide)
  · exact absurd hkind (by decide)

end PlayerWindow

/-! ### An open container -/

section ContainerWindow

/-- What the client sees of a container's window. -/
def windowView (inventory : PlayerInventory) (localSlots : List (Option ItemStack))
    (cursor : Option ItemStack) : View :=
  ⟨InventoryWindowContents.getSlot ⟨inventory, localSlots⟩, cursor⟩

variable {C : ContentBehavior} {session : PlayerSessionState} {inventory : PlayerInventory}
  {window : OpenInventoryWindow} {spec : ContainerSpec} {slot : InventorySlot} {index : Nat}
  {button : InventoryClickButton} {cursor cursor' : Option ItemStack}
  {localSlots localSlots' : List (Option ItemStack)} {applied : Bool}

/-- The window before and after a click. -/
def ContainerClicked (session : PlayerSessionState) (inventory : PlayerInventory)
    (window : OpenInventoryWindow) (slot : InventorySlot) (button : InventoryClickButton) : Prop :=
  ∃ applied session' inventory' window',
    applyActiveContainerClick canonicalContent session inventory window.windowId (some slot)
        (.slot slot) button = .ok (applied, session', inventory') ∧
    session'.activeContainer = some window' ∧ window'.windowId = window.windowId ∧
    Clicked (derived window.container.kind) slot button
      (windowView inventory window.container.localSlots session.cursor)
      (windowView inventory' window'.container.localSlots session'.cursor) applied
      (placeOf window.container.kind window.container.localSlots slot)

theorem applyActiveContainerClick_closed (hopen : session.activeContainer = some window)
    (hclosed : ∀ spec, C.containerSpec window.container.kind = some spec →
      ∃ index, slot = .windowLocal index ∧ ¬ index < spec.localSlotCount) :
    applyActiveContainerClick C session inventory window.windowId (some slot) (.slot slot) button =
      .ok (false, session, inventory) := by
  unfold applyActiveContainerClick
  rw [if_neg (by simp), hopen]
  dsimp only
  rw [if_neg (by simp)]
  cases hspec : C.containerSpec window.container.kind with
  | none => rfl
  | some spec =>
    obtain ⟨index, rfl, hbound⟩ := hclosed spec hspec
    dsimp only
    rw [if_neg hbound]

theorem applyActiveContainerClick_plain (hopen : session.activeContainer = some window)
    (hspec : C.containerSpec window.container.kind = some spec)
    (hlocal : ∀ index, slot ≠ .windowLocal index)
    (happlied : applyInventorySlotClick inventory session.cursor slot button =
      .ok (applied, cursor', inventory')) :
    applyActiveContainerClick C session inventory window.windowId (some slot) (.slot slot) button =
      .ok (applied, { session with cursor := cursor' }, inventory') := by
  unfold applyActiveContainerClick
  rw [if_neg (by simp), hopen]
  dsimp only
  rw [if_neg (by simp), hspec]
  cases slot with
  | windowLocal index => exact absurd rfl (hlocal index)
  | _ =>
    dsimp only
    rw [happlied]
    rfl

theorem applyActiveContainerClick_local {window' : OpenInventoryWindow}
    (hopen : session.activeContainer = some window)
    (hspec : C.containerSpec window.container.kind = some spec)
    (hbound : index < spec.localSlotCount)
    (happlied : applyContainerSlotClick C window spec index session.cursor button =
      .ok (applied, cursor', window')) :
    applyActiveContainerClick C session inventory window.windowId (some (.windowLocal index))
        (.slot (.windowLocal index)) button =
      .ok (applied, { session with cursor := cursor', activeContainer := some window' },
        inventory) := by
  unfold applyActiveContainerClick
  rw [if_neg (by simp), hopen]
  dsimp only
  rw [if_neg (by simp), hspec]
  dsimp only
  rw [if_pos hbound, happlied]
  rfl

theorem applyContainerSlotClick_output (hrole : spec.slotRole index = .outputOnly)
    (htake : C.tryTakeOutput window.container.kind window.container.localSlots cursor button =
      (applied, localSlots', cursor')) :
    applyContainerSlotClick C window spec index cursor button =
      .ok (applied, cursor', { window with
        container :=
          if applied then C.normalizeContainer { window.container with localSlots := localSlots' }
          else { window.container with localSlots := localSlots' } }) := by
  unfold applyContainerSlotClick
  rw [hrole]
  simp only [htake]

theorem applyContainerSlotClick_generic {stack stack' : Option ItemStack}
    (hrole : spec.slotRole index = .generic)
    (hat : window.container.localSlots[index]? = some stack)
    (hclick : applyClickSlotValue button cursor stack = .ok (applied, cursor', stack')) :
    applyContainerSlotClick C window spec index cursor button =
      .ok (applied, cursor', { window with
        container :=
          if applied then C.normalizeContainer { window.container with
            localSlots := window.container.localSlots.set index stack' }
          else { window.container with
            localSlots := window.container.localSlots.set index stack' } }) := by
  unfold applyContainerSlotClick
  rw [hrole]
  dsimp only
  rw [hat]
  dsimp only
  rw [hclick]
  rfl

/-- The slots of a container that are not derived are left as they are when it is worked out
    again. -/
theorem normalizeContainer_getElem? (state : OpenContainerState)
    (h : ¬ derived state.kind (.windowLocal index)) :
    (normalizeContainer state).localSlots[index]? = state.localSlots[index]? := by
  unfold normalizeContainer
  by_cases htable : state.kind = Ids.CRAFTING_TABLE
  · rw [if_pos htable]
    refine recomputeCraftingResult_getElem? _ _ ?_
    rintro rfl
    exact h ⟨.inr htable, rfl⟩
  · rw [if_neg htable]
    split
    · unfold normalizeFurnace setProperty
      dsimp only
      split_ifs <;> rfl
    · rfl

theorem Kept.locals {kind : ContainerKindId}
    (h : ∀ index, ¬ derived kind (.windowLocal index) → localSlots'[index]? = localSlots[index]?) :
    Kept (derived kind) (windowView inventory localSlots cursor)
      (windowView inventory localSlots' cursor) := by
  refine ⟨rfl, fun other hother => ?_⟩
  cases other with
  | windowLocal index => exact congrArg Option.join (h index hother)
  | _ => rfl

theorem containerClicked_local (hopen : session.activeContainer = some window)
    (hspec : containerSpec window.container.kind = some spec) (hbound : index < spec.localSlotCount)
    {container : OpenContainerState}
    (happlied : applyContainerSlotClick canonicalContent window spec index session.cursor button =
      .ok (applied, cursor', { window with container := container }))
    (hclicked : Clicked (derived window.container.kind) (.windowLocal index) button
      (windowView inventory window.container.localSlots session.cursor)
      (windowView inventory container.localSlots cursor') applied
      (placeOf window.container.kind window.container.localSlots (.windowLocal index))) :
    ContainerClicked session inventory window (.windowLocal index) button :=
  ⟨applied, _, inventory, { window with container := container },
    applyActiveContainerClick_local hopen hspec hbound happlied, rfl, rfl, hclicked⟩

theorem containerClicked_plain (hopen : session.activeContainer = some window)
    (hspec : containerSpec window.container.kind = some spec)
    (hlocal : ∀ index, slot ≠ .windowLocal index) (hfull : Full inventory)
    (hcursor : FitsU8 session.cursor) (hcounted : Counted (inventory.getSlot slot)) :
    ContainerClicked session inventory window slot button := by
  have hplace : placeOf window.container.kind window.container.localSlots slot =
      if slot.Valid then .free else .closed := by
    unfold placeOf
    rw [hspec]
    cases slot with
    | windowLocal index => exact absurd rfl (hlocal index)
    | _ => rfl
  have hseen : ∀ (inventory : PlayerInventory) (cursor : Option ItemStack),
      (windowView inventory window.container.localSlots cursor).slots slot =
        inventory.getSlot slot := by
    intro inventory cursor
    cases slot with
    | windowLocal index => exact absurd rfl (hlocal index)
    | _ => rfl
  unfold ContainerClicked
  rw [hplace]
  by_cases hvalid : slot.Valid
  · obtain ⟨⟨applied, cursor', stack⟩, hclick⟩ :=
      applyClickSlotValue_ok button hcursor hcounted
    have hput : (inventory.writeSlot slot stack).getSlot slot = stack := by
      rw [getSlot_writeSlot hfull hvalid, if_pos rfl]
    refine ⟨applied, _, _, window, applyActiveContainerClick_plain hopen hspec hlocal
      (applyInventorySlotClick_valid hfull hvalid hclick), hopen, rfl, ?_⟩
    rw [if_pos hvalid]
    refine .free (fun hderived => hlocal 0 hderived.2) ?_
      fun other hother _ => ?_
    · rw [hseen, hseen, hput]
      exact hclick
    · cases other with
      | windowLocal index => rfl
      | _ => exact (getSlot_writeSlot hfull hvalid stack).trans (if_neg hother)
  · refine ⟨false, _, _, window, applyActiveContainerClick_plain hopen hspec hlocal
      (applyInventorySlotClick_invalid hvalid _ _), hopen, rfl, ?_⟩
    rw [if_neg hvalid]
    exact .closed .refl

theorem containerClicked_generic (hopen : session.activeContainer = some window)
    (hspec : containerSpec window.container.kind = some spec) (hbound : index < spec.localSlotCount)
    (hrole : spec.slotRole index = .generic) (hcursor : FitsU8 session.cursor)
    (hcounted : ∀ index : Nat, Counted window.container.localSlots[index]?.join) :
    ContainerClicked session inventory window (.windowLocal index) button := by
  have hfree := generic_not_derived hspec hrole
  cases hat : window.container.localSlots[index]? with
  | none =>
    have hplace : placeOf window.container.kind window.container.localSlots (.windowLocal index) =
        .closed := by
      unfold placeOf
      rw [hspec]
      dsimp only
      rw [if_pos hbound, hrole]
      dsimp only
      rw [if_neg (Nat.not_lt.mpr (List.getElem?_eq_none_iff.mp hat))]
    have happlied : applyContainerSlotClick canonicalContent window spec index session.cursor button =
        .ok (false, session.cursor, window) := by
      unfold applyContainerSlotClick
      rw [hrole]
      dsimp only
      rw [hat]
    refine containerClicked_local hopen hspec hbound happlied ?_
    rw [hplace]
    exact .closed .refl
  | some stack =>
    have hin := (List.getElem?_eq_some_iff.mp hat).1
    have hplace : placeOf window.container.kind window.container.localSlots (.windowLocal index) =
        .free := by
      unfold placeOf
      rw [hspec]
      dsimp only
      rw [if_pos hbound, hrole]
      dsimp only
      rw [if_pos hin]
    have hstack : Counted stack := by
      have := hcounted index
      rw [hat] at this
      exact this
    obtain ⟨⟨applied, cursor', stack'⟩, hclick⟩ := applyClickSlotValue_ok button hcursor hstack
    refine containerClicked_local hopen hspec hbound
      (applyContainerSlotClick_generic hrole hat hclick) ?_
    rw [hplace]
    generalize hcontainer : (if applied then canonicalContent.normalizeContainer
        { window.container with localSlots := window.container.localSlots.set index stack' }
      else { window.container with localSlots := window.container.localSlots.set index stack' }) =
        container
    have hslots : ∀ i, ¬ derived window.container.kind (.windowLocal i) →
        container.localSlots[i]? = (window.container.localSlots.set index stack')[i]? := by
      intro i hi
      rw [← hcontainer]
      cases applied with
      | false => rfl
      | true => exact normalizeContainer_getElem? _ hi
    have hbefore : (windowView inventory window.container.localSlots session.cursor).slots
        (.windowLocal index) = stack := congrArg Option.join hat
    have hafter : (windowView inventory container.localSlots cursor').slots (.windowLocal index) =
        stack' := by
      refine (congrArg Option.join (hslots index hfree)).trans ?_
      rw [List.getElem?_set_self hin]
      rfl
    refine .free hfree ?_ fun other hother hnot => ?_
    · rw [hbefore, hafter]
      exact hclick
    · cases other with
      | windowLocal i =>
        refine congrArg Option.join ((hslots i hnot).trans (List.getElem?_set_ne ?_))
        rintro rfl
        exact hother rfl
      | _ => rfl

theorem containerClicked_crafted (inputCount width : Nat)
    (hopen : session.activeContainer = some window)
    (hspec : containerSpec window.container.kind = some spec) (hbound : 0 < spec.localSlotCount)
    (hrole : spec.slotRole 0 = .outputOnly)
    (htry : tryTakeOutput window.container.kind window.container.localSlots session.cursor button =
      takeCraftingResult window.container.localSlots 1 inputCount width session.cursor button)
    (hplace : placeOf window.container.kind window.container.localSlots (.windowLocal 0) =
      .crafted (madeIn inputCount width window.container.localSlots))
    (hkind : window.container.kind = Ids.PLAYER ∨ window.container.kind = Ids.CRAFTING_TABLE)
    (hcounted : ∀ index : Nat, Counted window.container.localSlots[index]?.join) :
    ContainerClicked session inventory window (.windowLocal 0) button := by
  have hkept : (∀ output, madeIn inputCount width window.container.localSlots = some output →
      takeOntoCursor session.cursor output (takenBy button output) = none) →
      ContainerClicked session inventory window (.windowLocal 0) button := by
    intro hnone
    obtain ⟨localSlots', htake, hsame⟩ := takeCraftingResult_kept hnone
    refine containerClicked_local hopen hspec hbound
      (applyContainerSlotClick_output hrole (htry.trans htake)) ?_
    rw [hplace]
    refine .uncrafted hnone (Kept.locals fun index hindex => hsame index ?_)
    rintro rfl
    exact hindex ⟨hkind, rfl⟩
  cases hmade : madeIn inputCount width window.container.localSlots with
  | none =>
    refine hkept fun output hsome => ?_
    rw [hmade] at hsome
    cases hsome
  | some output =>
    cases hroom : takeOntoCursor session.cursor output (takenBy button output) with
    | none =>
      refine hkept fun output' hsome => ?_
      rw [hmade] at hsome
      cases hsome
      exact hroom
    | some held =>
      obtain ⟨localSlots', htake, -, index, hne, -, hchanged⟩ :=
        takeCraftingResult_took hmade hroom hcounted
      refine containerClicked_local hopen hspec hbound
        (applyContainerSlotClick_output hrole (htry.trans htake)) ?_
      rw [hplace, hmade, if_pos rfl]
      have hfree : ¬ derived window.container.kind (.windowLocal index) := by
        rintro ⟨-, hslot⟩
        cases hslot
        exact hne rfl
      have hother : InventorySlot.windowLocal index ≠ .windowLocal 0 := by simpa using hne
      refine .crafted hroom hother hfree ?_
      intro hsame
      refine hchanged (Eq.trans ?_ hsame)
      exact (congrArg Option.join (normalizeContainer_getElem?
        { window.container with localSlots := localSlots' } hfree)).symm

theorem containerClicked_smelted (hopen : session.activeContainer = some window)
    (hspec : containerSpec window.container.kind = some spec) (hbound : 2 < spec.localSlotCount)
    (hrole : spec.slotRole 2 = .outputOnly) (hkind : window.container.kind = Ids.FURNACE)
    (hcounted : ∀ index : Nat, Counted window.container.localSlots[index]?.join) :
    ContainerClicked session inventory window (.windowLocal 2) button := by
  have hplace : placeOf window.container.kind window.container.localSlots (.windowLocal 2) =
      .smelted := by
    unfold placeOf outputOf
    rw [hspec]
    dsimp only
    rw [if_pos hbound, hrole, if_pos hkind]
  have htry : tryTakeOutput window.container.kind window.container.localSlots session.cursor
      button = takeOutputSlot window.container.localSlots session.cursor 2 button := by
    rw [hkind]
    rfl
  have hfree : ∀ index, ¬ derived window.container.kind (.windowLocal index) := by
    rintro index ⟨hgrid, -⟩
    rw [hkind] at hgrid
    revert hgrid
    decide
  have hkept : (∀ output, window.container.localSlots[2]?.join = some output →
      takeOntoCursor session.cursor output (takenBy button output) = none) →
      ContainerClicked session inventory window (.windowLocal 2) button := by
    intro hnone
    refine containerClicked_local hopen hspec hbound
      (applyContainerSlotClick_output hrole (htry.trans (takeOutputSlot_kept hnone))) ?_
    rw [hplace]
    exact .unsmelted (hfree 2) hnone .refl
  cases hslot : window.container.localSlots[2]?.join with
  | none =>
    refine hkept fun output hsome => ?_
    rw [hslot] at hsome
    cases hsome
  | some output =>
    cases hroom : takeOntoCursor session.cursor output (takenBy button output) with
    | none =>
      refine hkept fun output' hsome => ?_
      rw [hslot] at hsome
      cases hsome
      exact hroom
    | some held =>
      have hin : 2 < window.container.localSlots.length := by
        by_contra hout
        rw [List.getElem?_eq_none (Nat.le_of_not_lt hout)] at hslot
        cases hslot
      refine containerClicked_local hopen hspec hbound
        (applyContainerSlotClick_output hrole
          (htry.trans (takeOutputSlot_took hslot (hcounted 2 output hslot).1 hroom))) ?_
      rw [hplace, if_pos rfl]
      have hslots : ∀ index, (canonicalContent.normalizeContainer { window.container with
          localSlots := window.container.localSlots.set 2
            (remaining output (takenBy button output)) }).localSlots[index]? =
          (window.container.localSlots.set 2 (remaining output (takenBy button output)))[index]? :=
        fun index => normalizeContainer_getElem? _ (hfree index)
      refine .smelted (hfree 2) hslot hroom rfl ?_ fun other hother _ => ?_
      · refine (congrArg Option.join (hslots 2)).trans ?_
        rw [List.getElem?_set_self hin]
        rfl
      · cases other with
        | windowLocal index =>
          refine congrArg Option.join ((hslots index).trans (List.getElem?_set_ne ?_))
          rintro rfl
          exact hother rfl
        | _ => rfl

theorem containerClicked (hopen : session.activeContainer = some window) (hfull : Full inventory)
    (hcursor : FitsU8 session.cursor)
    (hcounted : ∀ slot, (∀ index, slot ≠ .windowLocal index) → Counted (inventory.getSlot slot))
    (hlocals : ∀ index : Nat, Counted window.container.localSlots[index]?.join) :
    ContainerClicked session inventory window slot button := by
  cases hspec : containerSpec window.container.kind with
  | none =>
    have hplace : placeOf window.container.kind window.container.localSlots slot = .closed := by
      unfold placeOf
      rw [hspec]
    refine ⟨false, session, inventory, window,
      applyActiveContainerClick_closed hopen fun spec hsome => ?_, hopen, rfl, ?_⟩
    · change containerSpec window.container.kind = some spec at hsome
      rw [hspec] at hsome
      cases hsome
    · rw [hplace]
      exact .closed .refl
  | some spec =>
    cases slot with
    | offhand | mainInventory i | hotbar i =>
      exact containerClicked_plain hopen hspec (by simp) hfull hcursor (hcounted _ (by simp))
    | windowLocal index =>
      by_cases hbound : index < spec.localSlotCount
      · cases hrole : spec.slotRole index with
        | unavailable =>
          have hplace : placeOf window.container.kind window.container.localSlots
              (.windowLocal index) = .closed := by
            unfold placeOf
            rw [hspec]
            dsimp only
            rw [if_pos hbound, hrole]
          have happlied : applyContainerSlotClick canonicalContent window spec index session.cursor
              button = .ok (false, session.cursor, window) := by
            unfold applyContainerSlotClick
            rw [hrole]
          refine containerClicked_local hopen hspec hbound happlied ?_
          rw [hplace]
          exact .closed .refl
        | generic => exact containerClicked_generic hopen hspec hbound hrole hcursor hlocals
        | outputOnly =>
          have hplace : placeOf window.container.kind window.container.localSlots
              (.windowLocal index) = outputOf window.container.kind window.container.localSlots := by
            unfold placeOf
            rw [hspec]
            dsimp only
            rw [if_pos hbound, hrole]
          obtain ⟨hkind, rfl⟩ | ⟨hkind, rfl⟩ | ⟨hkind, rfl⟩ := output_cases hspec hrole
          · refine containerClicked_crafted 4 2 hopen hspec hbound hrole
              ?_ (hplace.trans ?_) (.inl hkind) hlocals
            · rw [hkind]
              rfl
            · rw [hkind]
              rfl
          · refine containerClicked_crafted 9 3 hopen hspec hbound hrole
              ?_ (hplace.trans ?_) (.inr hkind) hlocals
            · rw [hkind]
              rfl
            · rw [hkind]
              rfl
          · exact containerClicked_smelted hopen hspec hbound hrole hkind hlocals
      · have hplace : placeOf window.container.kind window.container.localSlots
            (.windowLocal index) = .closed := by
          unfold placeOf
          rw [hspec]
          dsimp only
          rw [if_neg hbound]
        refine ⟨false, session, inventory, window,
          applyActiveContainerClick_closed hopen fun spec' hsome => ⟨index, rfl, ?_⟩, hopen, rfl, ?_⟩
        · change containerSpec window.container.kind = some spec' at hsome
          rw [hspec] at hsome
          cases hsome
          exact hbound
        · rw [hplace]
          exact .closed .refl

end ContainerWindow

/-! ### The windows of a session -/

/-- The contents of a window that the client has open. -/
def contentsOf (windowId : Nat) (held : PlayerSessionState × PlayerInventory) :
    InventoryWindowContents :=
  if windowId = 0 then .player held.2
  else
    match held.1.activeContainer.filter fun window => window.windowId = windowId with
    | some window => window.contents held.2
    | none => ⟨held.2, []⟩

def viewOf (windowId : Nat) (held : PlayerSessionState × PlayerInventory) : View :=
  ⟨(contentsOf windowId held).getSlot, held.1.cursor⟩

section Session

variable {held : PlayerSessionState × PlayerInventory} {windowId : Nat} {kind : ContainerKindId}
  {slot : InventorySlot} {button : InventoryClickButton}

theorem playerContents_getSlot (inventory : PlayerInventory) :
    (InventoryWindowContents.player inventory).getSlot = inventory.getSlot := by
  funext slot
  cases slot with
  | windowLocal index =>
    change (localsOf inventory)[index]?.join = _
    by_cases hindex : index < PLAYER_LOCAL_SLOT_COUNT
    · rw [localsOf_getElem? hindex]
      rfl
    · rw [List.getElem?_eq_none (by rw [localsOf_length]; omega), getSlot_invalid]
      · rfl
      · rintro (hoffhand | hindexed)
        · cases hoffhand
        · have hnone : (InventorySlot.windowLocal index).legacyWindowIndex = none := if_neg hindex
          rw [hnone] at hindexed
          cases hindexed
  | _ => rfl

theorem clickHeld_player (kind : ContainerKindId)
    (h : applyPlayerWindowClick C held.2 held.1.cursor (some slot) button =
      .ok (applied, cursor', inventory')) : ∃ rest, clickHeld C 0 (.slot slot) button kind held =
      .ok ((applied, rest), { held.1 with cursor := cursor' }, inventory') := by
  unfold clickHeld
  rw [if_pos rfl, if_neg (by simp), show resolveInventoryTarget (.slot slot) = some slot from rfl, h]
  exact ⟨_, rfl⟩

theorem clickHeld_container {session' : PlayerSessionState} (kind : ContainerKindId)
    (hne : windowId ≠ 0)
    (h : applyActiveContainerClick C held.1 held.2 windowId (some slot) (.slot slot) button =
      .ok (applied, session', inventory')) :
    ∃ rest, clickHeld C windowId (.slot slot) button kind held =
      .ok ((applied, rest), session', inventory') := by
  unfold clickHeld
  rw [if_neg hne, show resolveInventoryTarget (.slot slot) = some slot from rfl, h]
  exact ⟨_, rfl⟩

theorem viewOf_player (held : PlayerSessionState × PlayerInventory) :
    viewOf 0 held = ⟨held.2.getSlot, held.1.cursor⟩ := by
  unfold viewOf contentsOf
  rw [if_pos rfl, playerContents_getSlot]

theorem contentsOf_container {window : OpenInventoryWindow} (hne : windowId ≠ 0)
    (hopen : held.1.activeContainer = some window) (hid : window.windowId = windowId) :
    contentsOf windowId held = ⟨held.2, window.container.localSlots⟩ := by
  unfold contentsOf
  rw [if_neg hne, hopen, Option.filter_some, if_pos (by simpa using hid)]
  rfl

theorem viewOf_container {window : OpenInventoryWindow} (hne : windowId ≠ 0)
    (hopen : held.1.activeContainer = some window) (hid : window.windowId = windowId) :
    viewOf windowId held = windowView held.2 window.container.localSlots held.1.cursor := by
  unfold viewOf
  rw [contentsOf_container hne hopen hid]
  rfl

theorem clickHeld_clicked (slot : InventorySlot) (button : InventoryClickButton)
    (hopen : activeWindowContainer canonicalContent held.1 windowId = some kind)
    (hfull : Full held.2) (hcursor : FitsU8 held.1.cursor)
    (hslots : ∀ slot, Counted ((viewOf windowId held).slots slot)) :
    ∃ applied rest held',
      clickHeld canonicalContent windowId (.slot slot) button kind held =
        .ok ((applied, rest), held') ∧
      Clicked (derived kind) slot button (viewOf windowId held) (viewOf windowId held') applied
        (placeOf kind (contentsOf windowId held).localSlots slot) := by
  unfold activeWindowContainer at hopen
  by_cases hplayer : windowId = 0
  · subst hplayer
    rw [if_pos rfl] at hopen
    cases hopen
    rw [viewOf_player] at hslots ⊢
    have hclicked : PlayerClicked held.2 held.1.cursor slot button :=
      playerClicked hfull hcursor hslots
    obtain ⟨applied, cursor', inventory', hclick, hclicked⟩ := hclicked
    obtain ⟨rest, hheld⟩ := clickHeld_player canonicalContent.playerContainerKind hclick
    refine ⟨applied, rest, _, hheld, ?_⟩
    rw [viewOf_player]
    exact hclicked
  · rw [if_neg hplayer] at hopen
    obtain ⟨window, hwindow, rfl⟩ := Option.map_eq_some_iff.mp hopen
    obtain ⟨hactive, hid⟩ := Option.filter_eq_some_iff.mp hwindow
    have hid' : window.windowId = windowId := by simpa using hid
    subst hid'
    have hview := viewOf_container hplayer hactive rfl
    rw [hview] at hslots ⊢
    have hcounted : ∀ slot : InventorySlot, (∀ index, slot ≠ .windowLocal index) →
        Counted (held.2.getSlot slot) := by
      intro slot hlocal
      cases slot with
      | windowLocal index => exact absurd rfl (hlocal index)
      | offhand => exact hslots .offhand
      | mainInventory index => exact hslots (.mainInventory index)
      | hotbar index => exact hslots (.hotbar index)
    have hclicked : ContainerClicked held.1 held.2 window slot button :=
      containerClicked hactive hfull hcursor hcounted fun index => hslots (.windowLocal index)
    obtain ⟨applied, session', inventory', window', hclick, hactive', hid', hclicked⟩ := hclicked
    obtain ⟨rest, hheld⟩ := clickHeld_container window.container.kind hplayer hclick
    refine ⟨applied, rest, _, hheld, ?_⟩
    rw [contentsOf_container hplayer hactive rfl, viewOf_container hplayer hactive' hid']
    exact hclicked

theorem clickHeld_outside (C : ContentBehavior) (kind : ContainerKindId) :
    ∃ rest, clickHeld C windowId .outside button kind held =
      .ok ((true, rest),
        { held.1 with cursor := (applyOutsideClick held.1.cursor button).2 }, held.2) := by
  have happlied : applyOutsideClick held.1.cursor button =
      (true, (applyOutsideClick held.1.cursor button).2) := by
    cases button <;> rfl
  unfold clickHeld
  by_cases hplayer : windowId = 0
  · rw [if_pos hplayer, if_pos rfl, happlied]
    exact ⟨_, rfl⟩
  · rw [if_neg hplayer]
    unfold applyActiveContainerClick
    rw [if_pos rfl, happlied]
    exact ⟨_, rfl⟩

end Session

end RevyCraft.WindowClicks
