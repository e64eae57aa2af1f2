/-
  RevyCraft/ItemTotals.lean
  =========================
  **How many of an item a player has**, and what closing a window,
  disconnecting and being saved do to that number.

  The slots of an inventory are read as slots of bounded stacks
  (`Stacks.lean`): returning stacks to a player is `putAll` on the storage
  slots.  So nothing is created but what was drawn from a slot that held no
  real item, and nothing is lost as long as the returned stacks find room.
-/
import RevyCraft.Stacks
import RevyCraft.CanonicalContent
import RevyCraft.Footprints
import RevyCraft.Command
import RevyCraft.WindowRuns

namespace RevyCraft

open Std
open RevyCraft.Core
open Stacks (Slot fill place put putAll amount held leftover total FitsAll demand)

/-! ### Items and slots -/

/-- What makes two items the same. -/
structure ItemIdentity where
  key : String
  damage : Nat
  components : BTreeMap String ItemDataValue
  extra : BTreeMap String ItemDataValue
  deriving DecidableEq

namespace ItemStack

def identity (stack : ItemStack) : ItemIdentity :=
  ⟨stack.key, stack.damage, stack.components, stack.extra⟩

def pile (stack : ItemStack) : ItemIdentity × Nat := (stack.identity, stack.count)

theorem stackKeysMatch_iff (left right : ItemStack) :
    stackKeysMatch left right = true ↔ left.identity = right.identity := by
  simp [stackKeysMatch, identity, and_assoc]

end ItemStack

/-- What a slot holds, as a bounded stack. -/
def pileOf (stack : Option ItemStack) : Slot ItemIdentity := stack.map ItemStack.pile

/-- How many of the item the stacks hold. -/
def countOf (item : ItemIdentity) (given : List ItemStack) : Nat :=
  total item (given.map ItemStack.pile)

variable {index : Nat} {inventory inventory' : PlayerInventory}

namespace InventorySlot

/-- Slots that an inventory has. -/
def Valid (slot : InventorySlot) : Prop := slot = .offhand ∨ slot.legacyWindowIndex.isSome

instance (slot : InventorySlot) : Decidable slot.Valid := inferInstanceAs (Decidable (_ ∨ _))

theorem legacyWindowIndex_inj {slot other : InventorySlot}
    (hslot : slot.legacyWindowIndex = some index) (hother : other.legacyWindowIndex = some index) :
    slot = other := by
  unfold legacyWindowIndex AUXILIARY_SLOT_COUNT MAIN_INVENTORY_SLOT_COUNT HOTBAR_SLOT_COUNT
    HOTBAR_START_SLOT at hslot hother
  cases slot <;> cases other <;> simp at hslot hother ⊢ <;> omega

theorem legacyWindowIndex_lt {slot : InventorySlot} (h : slot.legacyWindowIndex = some index) :
    index < PLAYER_INVENTORY_SLOT_COUNT := by
  unfold legacyWindowIndex AUXILIARY_SLOT_COUNT MAIN_INVENTORY_SLOT_COUNT HOTBAR_SLOT_COUNT
    HOTBAR_START_SLOT at h
  unfold PLAYER_INVENTORY_SLOT_COUNT
  cases slot <;> simp at h <;> omega

end InventorySlot

variable {order : List InventorySlot} {C : ContentBehavior} {core : ServerCore}
  {playerId : PlayerId}

namespace PlayerInventory

variable {inventory inventory' : PlayerInventory} {slot other : InventorySlot}
  {stack : Option ItemStack}

theorem getSlot_of_index (h : slot.legacyWindowIndex = some index) :
    inventory.getSlot slot = inventory.get index := by
  cases slot with
  | offhand => cases h
  | windowLocal i => simp [getSlot, h]
  | mainInventory i => simp [getSlot, h]
  | hotbar i => simp [getSlot, h]

theorem setSlot_of_index (h : slot.legacyWindowIndex = some index) :
    inventory.setSlot slot stack = inventory.set index stack := by
  cases slot with
  | offhand => cases h
  | windowLocal i => simp [setSlot, h]
  | mainInventory i => simp [setSlot, h]
  | hotbar i => simp [setSlot, h]

theorem getSlot_setSlot (hvalid : slot.Valid) {answer : Bool}
    (h : inventory.setSlot slot stack = .ok (answer, inventory')) (hother : other.Valid) :
    inventory'.getSlot other = if other = slot then stack else inventory.getSlot other := by
  rcases hvalid with rfl | hindexed
  · cases h
    rcases hother with rfl | hindexed
    · rfl
    · obtain ⟨index, hindex⟩ := Option.isSome_iff_exists.mp hindexed
      have hne : other ≠ .offhand := by
        rintro rfl
        cases hindex
      rw [if_neg hne, getSlot_of_index hindex, getSlot_of_index hindex]
      rfl
  · obtain ⟨index, hindex⟩ := Option.isSome_iff_exists.mp hindexed
    rw [setSlot_of_index hindex] at h
    unfold set at h
    rw [if_neg (Nat.not_le.mpr (InventorySlot.legacyWindowIndex_lt hindex))] at h
    split at h
    · cases h
    · next hbound =>
      cases h
      rcases hother with rfl | hotherIndexed
      · have hne : InventorySlot.offhand ≠ slot := by
          rintro rfl
          cases hindex
        rw [if_neg hne]
        rfl
      · obtain ⟨index', hat⟩ := Option.isSome_iff_exists.mp hotherIndexed
        rw [getSlot_of_index hat, getSlot_of_index hat]
        unfold get
        dsimp only
        rw [List.getElem?_set]
        by_cases hsame : index = index'
        · subst hsame
          rw [if_pos (InventorySlot.legacyWindowIndex_inj hat hindex), if_pos rfl,
            if_pos (Nat.lt_of_not_le hbound)]
          rfl
        · have hne : other ≠ slot := by
            rintro rfl
            rw [hindex] at hat
            exact hsame (Option.some.inj hat)
          rw [if_neg hsame, if_neg hne]

/-! ### Returning a stack -/

/-- What the slots of a list hold. -/
def pilesAt (inventory : PlayerInventory) (order : List InventorySlot) : List (Slot ItemIdentity) :=
  order.map fun slot => pileOf (inventory.getSlot slot)

/-- The inventories agree outside the slots of a list. -/
def SameOutside (order : List InventorySlot) (inventory inventory' : PlayerInventory) : Prop :=
  ∀ slot : InventorySlot, slot.Valid → slot ∉ order → inventory'.getSlot slot = inventory.getSlot slot

section Merging

variable {inventory inventory' : PlayerInventory} {stack : ItemStack} {left : Option ItemStack}

theorem pilesAt_congr (h : ∀ slot ∈ order, inventory'.getSlot slot = inventory.getSlot slot) :
    pilesAt inventory' order = pilesAt inventory order := by
  apply List.map_congr_left
  intro slot hmem
  rw [h slot hmem]

theorem fillMatchingStacks_fill (hnodup : order.Nodup) (hvalid : ∀ slot ∈ order, slot.Valid)
    (h : fillMatchingStacks order inventory stack = .ok (left, inventory')) :
    pilesAt inventory' order =
        (fill MAX_STACK_SIZE stack.identity (pilesAt inventory order) stack.count).2 ∧
      pileOf left = leftover stack.identity
        (fill MAX_STACK_SIZE stack.identity (pilesAt inventory order) stack.count).1 ∧
      SameOutside order inventory inventory' := by
  induction order generalizing inventory stack with
  | nil =>
    cases h
    exact ⟨rfl, rfl, fun _ _ _ => rfl⟩
  | cons slot rest ih =>
    rw [List.nodup_cons] at hnodup
    have hslot := hvalid slot (List.mem_cons_self ..)
    have hrestValid : ∀ slot ∈ rest, slot.Valid :=
      fun slot hmem => hvalid slot (List.mem_cons_of_mem _ hmem)
    -- a slot the loop passes by keeps its stack
    have hpass : fillMatchingStacks rest inventory stack = .ok (left, inventory') →
        pilesAt inventory' rest =
            (fill MAX_STACK_SIZE stack.identity (pilesAt inventory rest) stack.count).2 ∧
          pileOf left = leftover stack.identity
            (fill MAX_STACK_SIZE stack.identity (pilesAt inventory rest) stack.count).1 ∧
          inventory'.getSlot slot = inventory.getSlot slot ∧
          SameOutside (slot :: rest) inventory inventory' := by
      intro hrest
      obtain ⟨hpiles, hleft, hsame⟩ := ih hnodup.2 hrestValid hrest
      refine ⟨hpiles, hleft, hsame slot hslot hnodup.1, ?_⟩
      intro other hother hout
      exact hsame other hother fun hmem => hout (List.mem_cons_of_mem _ hmem)
    unfold fillMatchingStacks at h
    cases hheld : inventory.getSlot slot with
    | none =>
      rw [hheld] at h
      obtain ⟨hpiles, hleft, hkept, hsame⟩ := hpass h
      rw [hheld] at hkept
      have hhead : pileOf none = (none : Slot ItemIdentity) := rfl
      simp only [pilesAt, List.map_cons, hheld, hkept, hhead, fill] at hpiles hleft ⊢
      exact ⟨by rw [hpiles], hleft, hsame⟩
    | some existing =>
      rw [hheld] at h
      have hhead : pileOf (some existing) = some (existing.identity, existing.count) := rfl
      dsimp only at h
      split at h
      · next hskip =>
        obtain ⟨hpiles, hleft, hkept, hsame⟩ := hpass h
        rw [hheld] at hkept
        have hother : existing.identity ≠ stack.identity ∨ MAX_STACK_SIZE ≤ existing.count := by
          rw [Bool.or_eq_true, Bool.not_eq_true', decide_eq_true_eq] at hskip
          rcases hskip with hne | hfull
          · left
            intro hsame'
            rw [(ItemStack.stackKeysMatch_iff existing stack).mpr hsame'] at hne
            cases hne
          · exact .inr hfull
        simp only [pilesAt, List.map_cons, hheld, hkept, hhead, fill, if_pos hother] at hpiles hleft ⊢
        exact ⟨by rw [hpiles], hleft, hsame⟩
      · next htake =>
        have hmatch : ¬ (existing.identity ≠ stack.identity ∨ MAX_STACK_SIZE ≤ existing.count) := by
          rintro (hne | hfull)
          · apply htake
            rw [Bool.or_eq_true, Bool.not_eq_true']
            left
            rw [Bool.eq_false_iff]
            intro hkeys
            exact hne ((ItemStack.stackKeysMatch_iff existing stack).mp hkeys)
          · exact htake (by simp [hfull])
        have hbelow : existing.count < MAX_STACK_SIZE := by
          by_contra hfull
          exact hmatch (.inr (Nat.le_of_not_lt hfull))
        obtain ⟨⟨answer, filled⟩, hset, hloop⟩ := except_bind_eq_ok.mp h
        have hget := fun (other : InventorySlot) (hother : other.Valid) =>
          getSlot_setSlot hslot hset hother
        have hcount : min (existing.count + min (MAX_STACK_SIZE - existing.count) stack.count) u8Max =
            existing.count + min (MAX_STACK_SIZE - existing.count) stack.count := by
          unfold u8Max MAX_STACK_SIZE at *
          omega
        rw [hcount] at hget
        have hrestPiles : pilesAt filled rest = pilesAt inventory rest := by
          apply pilesAt_congr
          intro other hmem
          rw [hget other (hrestValid other hmem), if_neg]
          rintro rfl
          exact hnodup.1 hmem
        have hfilled : pileOf (filled.getSlot slot) = some (existing.identity,
            existing.count + min (MAX_STACK_SIZE - existing.count) stack.count) := by
          rw [hget slot hslot, if_pos rfl]
          rfl
        have houtside : SameOutside (slot :: rest) inventory filled := by
          intro other hother hout
          rw [hget other hother, if_neg]
          rintro rfl
          exact hout (List.mem_cons_self ..)
        have hstart : pilesAt inventory (slot :: rest) =
            some (existing.identity, existing.count) :: pilesAt inventory rest := by
          unfold pilesAt
          rw [List.map_cons, hheld]
          rfl
        rw [hstart]
        unfold fill
        rw [if_neg hmatch]
        dsimp only at hloop ⊢
        split at hloop
        · next hdone =>
          cases hloop
          rw [if_pos hdone]
          refine ⟨?_, rfl, houtside⟩
          unfold pilesAt
          rw [List.map_cons, hfilled]
          exact congrArg _ hrestPiles
        · next hmore =>
          rw [if_neg hmore]
          obtain ⟨hpiles, hleft, hsame⟩ := ih hnodup.2 hrestValid hloop
          have hidentity : ({ stack with
              count := stack.count - min (MAX_STACK_SIZE - existing.count) stack.count } :
              ItemStack).identity = stack.identity := rfl
          rw [hidentity, hrestPiles] at hpiles hleft
          refine ⟨?_, hleft, ?_⟩
          · have hkept := hsame slot hslot hnodup.1
            unfold pilesAt
            rw [List.map_cons, hkept, hfilled]
            exact congrArg _ hpiles
          · intro other hother hout
            rw [hsame other hother fun hmem => hout (List.mem_cons_of_mem _ hmem)]
            exact houtside other hother hout

theorem placeInEmptySlot_place (hnodup : order.Nodup) (hvalid : ∀ slot ∈ order, slot.Valid)
    (h : placeInEmptySlot order inventory stack = .ok (left, inventory')) :
    pilesAt inventory' order = (place stack.identity stack.count (pilesAt inventory order)).2 ∧
      pileOf left = leftover stack.identity
        (place stack.identity stack.count (pilesAt inventory order)).1 ∧
      SameOutside order inventory inventory' := by
  induction order with
  | nil =>
    cases h
    exact ⟨rfl, rfl, fun _ _ _ => rfl⟩
  | cons slot rest ih =>
    rw [List.nodup_cons] at hnodup
    have hslot := hvalid slot (List.mem_cons_self ..)
    have hrestValid : ∀ slot ∈ rest, slot.Valid :=
      fun slot hmem => hvalid slot (List.mem_cons_of_mem _ hmem)
    unfold placeInEmptySlot at h
    cases hheld : inventory.getSlot slot with
    | some existing =>
      rw [hheld, Option.isSome_some, if_pos rfl] at h
      obtain ⟨hpiles, hleft, hsame⟩ := ih hnodup.2 hrestValid h
      have hkept := hsame slot hslot hnodup.1
      have hhead : pileOf (some existing) = some existing.pile := rfl
      rw [hheld] at hkept
      simp only [pilesAt, List.map_cons, hheld, hkept, hhead, place] at hpiles hleft ⊢
      refine ⟨by rw [hpiles], hleft, ?_⟩
      intro other hother hout
      exact hsame other hother fun hmem => hout (List.mem_cons_of_mem _ hmem)
    | none =>
      rw [hheld, Option.isSome_none, if_neg (by simp)] at h
      obtain ⟨⟨answer, placed⟩, hset, hdone⟩ := except_bind_eq_ok.mp h
      cases hdone
      have hget := fun (other : InventorySlot) (hother : other.Valid) =>
        getSlot_setSlot hslot hset hother
      have hstart : pilesAt inventory (slot :: rest) = none :: pilesAt inventory rest := by
        unfold pilesAt
        rw [List.map_cons, hheld]
        rfl
      rw [hstart]
      refine ⟨?_, rfl, ?_⟩
      · unfold place pilesAt
        rw [List.map_cons, hget slot hslot, if_pos rfl]
        refine congrArg _ (pilesAt_congr fun other hmem => ?_)
        rw [hget other (hrestValid other hmem), if_neg]
        rintro rfl
        exact hnodup.1 hmem
      · intro other hother hout
        rw [hget other hother, if_neg]
        rintro rfl
        exact hout (List.mem_cons_self ..)

/-- The storage slots, in the order in which they are filled. -/
def storage (inventory : PlayerInventory) : List (Slot ItemIdentity) :=
  pilesAt inventory persistentSlotOrder

theorem persistentSlotOrder_nodup : persistentSlotOrder.Nodup := by decide

theorem persistentSlotOrder_valid : ∀ slot ∈ persistentSlotOrder, slot.Valid := by decide

theorem windowLocal_not_storage (index : Nat) :
    InventorySlot.windowLocal index ∉ persistentSlotOrder := by
  simp [persistentSlotOrder]

/-- The local slots hold the same. -/
def SameLocals (inventory inventory' : PlayerInventory) : Prop :=
  ∀ index < AUXILIARY_SLOT_COUNT,
    inventory'.getSlot (.windowLocal index) = inventory.getSlot (.windowLocal index)

theorem windowLocal_valid (h : index < AUXILIARY_SLOT_COUNT) :
    (InventorySlot.windowLocal index).Valid := by
  right
  simp [InventorySlot.legacyWindowIndex, h]

theorem SameOutside.locals (h : SameOutside persistentSlotOrder inventory inventory') :
    SameLocals inventory inventory' := by
  intro index hindex
  exact h _ (windowLocal_valid hindex) (windowLocal_not_storage index)

/-- **Returning a stack is `put` on the storage slots.** -/
theorem mergeStackIntoPlayerInventory_put
    (h : mergeStackIntoPlayerInventory inventory stack = .ok (left, inventory')) :
    inventory'.storage = (put MAX_STACK_SIZE stack.identity stack.count inventory.storage).2 ∧
      SameLocals inventory inventory' := by
  unfold mergeStackIntoPlayerInventory at h
  obtain ⟨⟨remaining, filled⟩, hfill, hrest⟩ := except_bind_eq_ok.mp h
  obtain ⟨hpiles, hleft, hsame⟩ :=
    fillMatchingStacks_fill persistentSlotOrder_nodup persistentSlotOrder_valid hfill
  unfold put storage
  rcases hfilled : fill MAX_STACK_SIZE stack.identity (pilesAt inventory persistentSlotOrder)
      stack.count with ⟨count, slots⟩
  rw [hfilled] at hpiles hleft
  dsimp only at hpiles hleft hrest ⊢
  cases remaining with
  | none =>
    cases hrest
    cases count with
    | some count => cases hleft
    | none => exact ⟨hpiles, hsame.locals⟩
  | some remaining =>
    cases count with
    | none => cases hleft
    | some count =>
      obtain ⟨hidentity, hcount⟩ := Prod.mk.inj (Option.some.inj hleft)
      obtain ⟨hplaced, -, hsame'⟩ :=
        placeInEmptySlot_place persistentSlotOrder_nodup persistentSlotOrder_valid hrest
      rw [hidentity, hcount, hpiles] at hplaced
      refine ⟨hplaced, ?_⟩
      intro index hindex
      rw [hsame'.locals index hindex, hsame.locals index hindex]

theorem SameLocals.trans {inventory'' : PlayerInventory} (h : SameLocals inventory inventory')
    (h' : SameLocals inventory' inventory'') : SameLocals inventory inventory'' := by
  intro index hindex
  rw [h' index hindex, h index hindex]

theorem mergeStacks_putAll {given : List ItemStack}
    (h : mergeStacks inventory given = .ok inventory') :
    inventory'.storage = putAll MAX_STACK_SIZE (given.map ItemStack.pile) inventory.storage ∧
      SameLocals inventory inventory' := by
  induction given generalizing inventory with
  | nil =>
    cases h
    exact ⟨rfl, fun _ _ => rfl⟩
  | cons first rest ih =>
    unfold mergeStacks at h
    obtain ⟨⟨leftover, merged⟩, hmerge, hrest⟩ := except_bind_eq_ok.mp h
    obtain ⟨hfirst, hsame⟩ := mergeStackIntoPlayerInventory_put hmerge
    obtain ⟨hstorage, hsame'⟩ := ih hrest
    refine ⟨?_, hsame.trans hsame'⟩
    rw [hstorage, hfirst]
    rfl

end Merging

end PlayerInventory

open PlayerInventory

/-! ### Windows -/

/-- The stacks of a window that are returned to the player: all but an output in the first slot. -/
def returnedFrom (spec : Option ContainerSpec) (index : Nat) :
    List (Option ItemStack) → List ItemStack
  | [] => []
  | none :: rest => returnedFrom spec (index + 1) rest
  | some stack :: rest =>
    if spec.any fun spec => spec.slotRole index = .outputOnly && index = 0 then
      returnedFrom spec (index + 1) rest
    else stack :: returnedFrom spec (index + 1) rest

theorem foldContainerStacks_putAll {spec : Option ContainerSpec} {slots : List (Option ItemStack)}
    (h : foldContainerStacks spec index slots inventory = .ok inventory') :
    inventory'.storage = putAll MAX_STACK_SIZE
        ((returnedFrom spec index slots).map ItemStack.pile) inventory.storage ∧
      SameLocals inventory inventory' := by
  induction slots generalizing index inventory with
  | nil =>
    cases h
    exact ⟨rfl, fun _ _ => rfl⟩
  | cons slot rest ih =>
    cases slot with
    | none => exact ih h
    | some stack =>
      unfold foldContainerStacks at h
      unfold returnedFrom
      dsimp only at h
      split at h
      · cases h
      · split at h
        · next hskip =>
          rw [if_pos hskip]
          exact ih h
        · next hreturn =>
          rw [if_neg hreturn]
          obtain ⟨⟨leftover, merged⟩, hmerge, hrest⟩ := except_bind_eq_ok.mp h
          obtain ⟨hfirst, hsame⟩ := mergeStackIntoPlayerInventory_put hmerge
          obtain ⟨hstorage, hsame'⟩ := ih hrest
          refine ⟨?_, hsame.trans hsame'⟩
          rw [hstorage, hfirst]
          rfl

/-- The stacks of a window that its player gets back when it is closed. -/
def returnedStacks (C : ContentBehavior) (window : OpenInventoryWindow) : List ItemStack :=
  match window.container.binding with
  | .block _ _ => []
  | .virtual => returnedFrom (C.containerSpec window.container.kind) 0 window.container.localSlots

theorem foldActiveContainerItemsIntoPlayer_putAll {window : OpenInventoryWindow}
    (h : foldActiveContainerItemsIntoPlayer C inventory window = .ok inventory') :
    inventory'.storage = putAll MAX_STACK_SIZE
        ((returnedStacks C window).map ItemStack.pile) inventory.storage ∧
      SameLocals inventory inventory' := by
  unfold foldActiveContainerItemsIntoPlayer at h
  unfold returnedStacks
  cases hbinding : window.container.binding with
  | block position kind =>
    rw [hbinding] at h
    cases h
    exact ⟨rfl, fun _ _ => rfl⟩
  | virtual =>
    rw [hbinding] at h
    exact foldContainerStacks_putAll h

/-! ### Saving a player -/

/-- What the local slots hold. -/
def localStacks (inventory : PlayerInventory) (indices : List Nat) : List ItemStack :=
  indices.filterMap fun index => inventory.getSlot (.windowLocal index)

theorem pilesAt_setLocal (hindex : index < AUXILIARY_SLOT_COUNT) {answer : Bool}
    {stack : Option ItemStack}
    (h : inventory.setSlot (.windowLocal index) stack = .ok (answer, inventory')) :
    inventory'.storage = inventory.storage := by
  apply pilesAt_congr
  intro slot hmem
  rw [getSlot_setSlot (windowLocal_valid hindex) h (persistentSlotOrder_valid slot hmem), if_neg]
  rintro rfl
  exact windowLocal_not_storage index hmem

theorem drainLocalSlots_spec {indices : List Nat} (hnodup : indices.Nodup)
    (hindices : ∀ index ∈ indices, index < AUXILIARY_SLOT_COUNT) {overflow : List ItemStack}
    (h : drainLocalSlots indices inventory = .ok (overflow, inventory')) :
    overflow = localStacks inventory indices ∧ inventory'.storage = inventory.storage ∧
      ∀ index < AUXILIARY_SLOT_COUNT, inventory'.getSlot (.windowLocal index) =
        if index ∈ indices then none else inventory.getSlot (.windowLocal index) := by
  induction indices generalizing inventory overflow with
  | nil =>
    cases h
    exact ⟨rfl, rfl, by simp⟩
  | cons first rest ih =>
    rw [List.nodup_cons] at hnodup
    have hfirst := hindices first (List.mem_cons_self ..)
    have hrestIndices : ∀ index ∈ rest, index < AUXILIARY_SLOT_COUNT :=
      fun index hmem => hindices index (List.mem_cons_of_mem _ hmem)
    unfold drainLocalSlots at h
    obtain ⟨⟨answer, cleared⟩, hset, hrest⟩ := except_bind_eq_ok.mp h
    obtain ⟨⟨others, drained⟩, hdrain, hdone⟩ := except_bind_eq_ok.mp hrest
    cases hdone
    have hget := fun index (hindex : index < AUXILIARY_SLOT_COUNT) =>
      getSlot_setSlot (windowLocal_valid hfirst) hset (windowLocal_valid hindex)
    obtain ⟨hothers, hstorage, hlocals⟩ := ih hnodup.2 hrestIndices hdrain
    refine ⟨?_, hstorage.trans (pilesAt_setLocal hfirst hset), ?_⟩
    · have hrestStacks : localStacks cleared rest = localStacks inventory rest := by
        apply List.filterMap_congr
        intro index hmem
        rw [hget index (hrestIndices index hmem), if_neg]
        intro hsame
        cases hsame
        exact hnodup.1 hmem
      rw [hothers, hrestStacks]
      unfold localStacks
      cases hstack : inventory.getSlot (.windowLocal first) with
      | none => simp [hstack]
      | some stack => simp [hstack]
    · intro index hindex
      rw [hlocals index hindex, hget index hindex]
      by_cases hmem : index ∈ rest
      · simp [hmem]
      · by_cases hsame : index = first
        · subst hsame
          simp
        · simp [hmem, hsame]

/-- Nothing lies in the local slots. -/
def NoLocals (inventory : PlayerInventory) : Prop :=
  ∀ index < AUXILIARY_SLOT_COUNT, inventory.getSlot (.windowLocal index) = none

theorem getSlot_writeSlot_none (hindex : index < AUXILIARY_SLOT_COUNT) {other : InventorySlot}
    (hother : other.Valid) : (inventory.writeSlot (.windowLocal index) none).getSlot other =
      if other = .windowLocal index then none else inventory.getSlot other := by
  have hlegacy : (InventorySlot.windowLocal index).legacyWindowIndex = some index := by
    simp [InventorySlot.legacyWindowIndex, hindex]
  have hwrite : inventory.writeSlot (.windowLocal index) none =
      { inventory with slots := inventory.slots.set index none } := by
    simp [writeSlot, hlegacy]
  rw [hwrite]
  rcases hother with rfl | hindexed
  · rfl
  · obtain ⟨index', hindex'⟩ := Option.isSome_iff_exists.mp hindexed
    rw [getSlot_of_index hindex', getSlot_of_index hindex']
    unfold PlayerInventory.get
    dsimp only
    rw [List.getElem?_set]
    by_cases hsame : index = index'
    · subst hsame
      rw [if_pos rfl, if_pos (InventorySlot.legacyWindowIndex_inj hindex' hlegacy)]
      split <;> rfl
    · have hne : other ≠ .windowLocal index := by
        rintro rfl
        rw [hlegacy] at hindex'
        exact hsame (Option.some.inj hindex')
      rw [if_neg hsame, if_neg hne]

theorem writeNone_all (hempty : NoLocals inventory) (writes : List (Option ItemStack × Nat))
    (hwrites : ∀ write ∈ writes, write.1 = none ∧ write.2 < AUXILIARY_SLOT_COUNT) :
    (writes.foldl (fun inventory (stack, index) =>
        inventory.writeSlot (.windowLocal index) stack) inventory).storage = inventory.storage ∧
      NoLocals (writes.foldl (fun inventory (stack, index) =>
        inventory.writeSlot (.windowLocal index) stack) inventory) := by
  induction writes generalizing inventory with
  | nil => exact ⟨rfl, hempty⟩
  | cons write rest ih =>
    rcases write with ⟨stack, index⟩
    obtain ⟨hnone, hindex⟩ := hwrites (stack, index) (List.mem_cons_self ..)
    dsimp only at hnone hindex
    subst hnone
    have hnext : NoLocals (inventory.writeSlot (.windowLocal index) none) := by
      intro other hother
      rw [getSlot_writeSlot_none hindex (windowLocal_valid hother), hempty other hother]
      split <;> rfl
    obtain ⟨hstorage, hlocals⟩ := ih hnext fun write hmem =>
      hwrites write (List.mem_cons_of_mem _ hmem)
    refine ⟨?_, hlocals⟩
    rw [List.foldl_cons, hstorage]
    apply pilesAt_congr
    intro slot hmem
    rw [getSlot_writeSlot_none hindex (persistentSlotOrder_valid slot hmem), if_neg]
    rintro rfl
    exact windowLocal_not_storage index hmem

theorem normalizePlayerInventory_empty (h : NoLocals inventory) :
    (Canonical.normalizePlayerInventory inventory).storage = inventory.storage ∧
      NoLocals (Canonical.normalizePlayerInventory inventory) := by
  have hgrid : (List.range Canonical.PLAYER_LOCAL_SLOT_COUNT).map
      (fun index => inventory.getSlot (.windowLocal index)) = List.replicate 9 none := by
    rw [List.eq_replicate_iff]
    refine ⟨by simp [Canonical.PLAYER_LOCAL_SLOT_COUNT], ?_⟩
    intro stack hmem
    obtain ⟨index, hindex, rfl⟩ := List.mem_map.mp hmem
    exact h index (List.mem_range.mp hindex)
  have hnothing : Canonical.recomputeCraftingResult (List.replicate 9 none) 2 =
      List.replicate 9 none := by
    decide
  unfold Canonical.normalizePlayerInventory
  dsimp only
  rw [hgrid, hnothing]
  apply writeNone_all h
  decide

/-- The stacks that a saved player gets back into the storage slots: those of the window, those
    of the local slots, the crafting result included, and the cursor. -/
def foldedStacks (inventory : PlayerInventory) (cursor : Option ItemStack)
    (activeContainer : Option OpenInventoryWindow) : List ItemStack :=
  (activeContainer.map (returnedStacks canonicalContent)).getD [] ++
    localStacks inventory (List.range AUXILIARY_SLOT_COUNT) ++ cursor.toList

theorem putAll_append (left right : List (ItemIdentity × Nat)) (slots : List (Slot ItemIdentity)) :
    putAll MAX_STACK_SIZE (left ++ right) slots =
      putAll MAX_STACK_SIZE right (putAll MAX_STACK_SIZE left slots) := by
  induction left generalizing slots with
  | nil => rfl
  | cons first rest ih => exact ih _

/-- **What a player is saved with.** -/
theorem persistLivePlayerState_putAll {snapshot persisted : PlayerSnapshot}
    {cursor : Option ItemStack} {activeContainer : Option OpenInventoryWindow}
    (h : persistLivePlayerState canonicalContent snapshot cursor activeContainer =
      .ok persisted) :
    persisted.inventory.storage = putAll MAX_STACK_SIZE
        ((foldedStacks snapshot.inventory cursor activeContainer).map ItemStack.pile)
        snapshot.inventory.storage ∧
      NoLocals persisted.inventory := by
  obtain ⟨opened, hwindow, hrest⟩ : ∃ opened : PlayerInventory,
      (opened.storage = putAll MAX_STACK_SIZE
        (((activeContainer.map (returnedStacks canonicalContent)).getD []).map ItemStack.pile)
        snapshot.inventory.storage ∧ SameLocals snapshot.inventory opened) ∧
      (drainLocalSlots (List.range AUXILIARY_SLOT_COUNT) opened >>= fun drained =>
        mergeStacks drained.2 (drained.1 ++ cursor.toList) >>= fun inventory =>
          pure { snapshot with
            inventory := Canonical.normalizePlayerInventory inventory }) = .ok persisted := by
    cases activeContainer with
    | none => exact ⟨snapshot.inventory, ⟨rfl, fun _ _ => rfl⟩, h⟩
    | some window =>
      obtain ⟨opened, hopened, hrest⟩ := except_bind_eq_ok.mp h
      exact ⟨opened, foldActiveContainerItemsIntoPlayer_putAll hopened, hrest⟩
  obtain ⟨⟨overflow, drained⟩, hdrain, hmerged⟩ := except_bind_eq_ok.mp hrest
  obtain ⟨merged, hmerge, hdone⟩ := except_bind_eq_ok.mp hmerged
  cases hdone
  obtain ⟨hoverflow, hstorage, hlocals⟩ := drainLocalSlots_spec List.nodup_range
    (fun index hmem => List.mem_range.mp hmem) hdrain
  obtain ⟨hputAll, hsame⟩ := mergeStacks_putAll hmerge
  have hempty : NoLocals merged := by
    intro index hindex
    rw [hsame index hindex, hlocals index hindex, if_pos (List.mem_range.mpr hindex)]
  have hoverflow' : overflow = localStacks snapshot.inventory (List.range AUXILIARY_SLOT_COUNT) := by
    rw [hoverflow]
    apply List.filterMap_congr
    intro index hmem
    exact hwindow.2 index (List.mem_range.mp hmem)
  obtain ⟨hnormalized, hnoLocals⟩ := normalizePlayerInventory_empty hempty
  refine ⟨?_, hnoLocals⟩
  change (Canonical.normalizePlayerInventory merged).storage = _
  rw [hnormalized, hputAll]
  dsimp only
  rw [hstorage, hwindow.1, hoverflow', ← putAll_append, ← List.map_append, ← List.append_assoc]
  rfl

/-! ### Totals -/

/-- How many of an item lie in the slots of an inventory. -/
def PlayerInventory.holds (inventory : PlayerInventory) (item : ItemIdentity) : Nat :=
  amount item inventory.storage +
    countOf item (localStacks inventory (List.range AUXILIARY_SLOT_COUNT))

@[simp] theorem countOf_nil (item : ItemIdentity) : countOf item [] = 0 := rfl

@[simp] theorem countOf_cons (item : ItemIdentity) (stack : ItemStack) (rest : List ItemStack) :
    countOf item (stack :: rest) = held item (some stack.pile) + countOf item rest := rfl

theorem countOf_append (item : ItemIdentity) (left right : List ItemStack) :
    countOf item (left ++ right) = countOf item left + countOf item right := by
  unfold countOf
  rw [List.map_append, Stacks.total_append]

theorem countOf_eq_zero (given : List ItemStack) :
    (∀ item, countOf item given = 0) ↔ ∀ stack ∈ given, stack.count = 0 := by
  constructor
  · intro h stack hmem
    have hzero := h stack.identity
    obtain ⟨before, after, rfl⟩ := List.append_of_mem hmem
    rw [countOf_append, countOf_cons] at hzero
    have hheld : held stack.identity (some stack.pile) = stack.count := by
      simp [held, ItemStack.pile]
    omega
  · intro h item
    induction given with
    | nil => rfl
    | cons first rest ih =>
      have hfirst : first.pile = (first.identity, 0) := by
        unfold ItemStack.pile
        rw [h first (List.mem_cons_self ..)]
      rw [countOf_cons, ih fun stack hmem => h stack (List.mem_cons_of_mem _ hmem), hfirst]
      simp [held]

/-- The slots of a window that hold real items, and the later output slots. -/
def windowStacks (spec : Option ContainerSpec) (output : Bool) (index : Nat) :
    List (Option ItemStack) → List ItemStack
  | [] => []
  | none :: rest => windowStacks spec output (index + 1) rest
  | some stack :: rest =>
    if (spec.any fun spec => spec.slotRole index = .outputOnly) = output ∧
        (output = true → index ≠ 0) then
      stack :: windowStacks spec output (index + 1) rest
    else windowStacks spec output (index + 1) rest

def virtualWindowStacks (output : Bool) (activeContainer : Option OpenInventoryWindow) :
    List ItemStack :=
  match activeContainer with
  | none => []
  | some window =>
    match window.container.binding with
    | .block _ _ => []
    | .virtual => windowStacks (canonicalContent.containerSpec window.container.kind) output 0
        window.container.localSlots

/-- The stacks of the slots that are no outputs. -/
def virtualStacks (activeContainer : Option OpenInventoryWindow) : List ItemStack :=
  virtualWindowStacks false activeContainer

/-- The stacks of the output slots behind the first slot, which are returned like any other. -/
def strayOutputs (activeContainer : Option OpenInventoryWindow) : List ItemStack :=
  virtualWindowStacks true activeContainer

theorem countOf_returnedFrom (item : ItemIdentity) (spec : Option ContainerSpec) (index : Nat)
    (slots : List (Option ItemStack)) :
    countOf item (returnedFrom spec index slots) =
      countOf item (windowStacks spec false index slots) +
        countOf item (windowStacks spec true index slots) := by
  induction slots generalizing index with
  | nil => rfl
  | cons slot rest ih =>
    cases slot with
    | none => exact ih (index + 1)
    | some stack =>
      have hrest := ih (index + 1)
      unfold returnedFrom windowStacks
      cases spec with
      | none =>
        simp only [Option.any_none] at hrest ⊢
        simp
        omega
      | some spec =>
        by_cases houtput : spec.slotRole index = .outputOnly
        · by_cases hfirst : index = 0
          · subst hfirst
            simp [houtput]
            omega
          · simp [houtput, hfirst]
            omega
        · simp [houtput]
          omega

theorem countOf_returned (item : ItemIdentity) (activeContainer : Option OpenInventoryWindow) :
    countOf item ((activeContainer.map (returnedStacks canonicalContent)).getD []) =
      countOf item (virtualStacks activeContainer) +
        countOf item (strayOutputs activeContainer) := by
  cases activeContainer with
  | none => rfl
  | some window =>
    change countOf item (returnedStacks canonicalContent window) = _
    unfold returnedStacks virtualStacks strayOutputs virtualWindowStacks
    dsimp only
    cases window.container.binding with
    | block position kind => rfl
    | virtual => exact countOf_returnedFrom ..

/-- What a player carries: the storage slots, the crafting inputs and the reserved slots, the
    cursor, and the slots of an open virtual window that are no outputs. -/
def carried (inventory : PlayerInventory) (session : PlayerSessionState) (item : ItemIdentity) :
    Nat :=
  amount item inventory.storage + countOf item (localStacks inventory [1, 2, 3, 4, 5, 6, 7, 8]) +
    countOf item session.cursor.toList + countOf item (virtualStacks session.activeContainer)

/-- What is folded into the storage of a saved player without being carried: the crafting result,
    and the output slots of a virtual window behind its first slot. -/
def drawn (inventory : PlayerInventory) (session : PlayerSessionState) : List ItemStack :=
  localStacks inventory [0] ++ strayOutputs session.activeContainer

theorem countOf_folded (inventory : PlayerInventory) (session : PlayerSessionState)
    (item : ItemIdentity) :
    amount item inventory.storage +
        countOf item (foldedStacks inventory session.cursor session.activeContainer) =
      carried inventory session item + countOf item (drawn inventory session) := by
  have hlocals : localStacks inventory (List.range AUXILIARY_SLOT_COUNT) =
      localStacks inventory [0] ++ localStacks inventory [1, 2, 3, 4, 5, 6, 7, 8] := by
    unfold localStacks
    rw [← List.filterMap_append]
    rfl
  unfold foldedStacks carried drawn
  rw [countOf_append, countOf_append, countOf_append, hlocals, countOf_append, countOf_returned]
  omega

theorem NoLocals.holds (h : NoLocals inventory) (item : ItemIdentity) :
    inventory.holds item = amount item inventory.storage := by
  have hnone : localStacks inventory (List.range AUXILIARY_SLOT_COUNT) = [] := by
    unfold localStacks
    rw [List.filterMap_eq_nil_iff]
    intro index hmem
    exact h index (List.mem_range.mp hmem)
  unfold PlayerInventory.holds
  rw [hnone, countOf_nil, Nat.add_zero]

section Saved

variable {snapshot persisted : PlayerSnapshot} {session : PlayerSessionState}

theorem persisted_holds_le
    (h : persistLivePlayerState canonicalContent snapshot session.cursor session.activeContainer =
      .ok persisted) (item : ItemIdentity) :
    persisted.inventory.holds item ≤
      carried snapshot.inventory session item +
        countOf item (drawn snapshot.inventory session) := by
  obtain ⟨hstorage, hempty⟩ := persistLivePlayerState_putAll h
  rw [hempty.holds, hstorage, ← countOf_folded]
  exact Stacks.putAll_amount_le ..

theorem persisted_holds_eq
    (h : persistLivePlayerState canonicalContent snapshot session.cursor session.activeContainer =
      .ok persisted)
    (hfits : FitsAll MAX_STACK_SIZE ((foldedStacks snapshot.inventory session.cursor
      session.activeContainer).map ItemStack.pile) snapshot.inventory.storage)
    (item : ItemIdentity) :
    persisted.inventory.holds item =
      carried snapshot.inventory session item +
        countOf item (drawn snapshot.inventory session) := by
  obtain ⟨hstorage, hempty⟩ := persistLivePlayerState_putAll h
  rw [hempty.holds, hstorage, ← countOf_folded]
  exact Stacks.putAll_amount hfits item

end Saved

/-! ### Saved players -/

/-- The ways in which an online player is saved: as the live player, by a disconnect, and in a
    snapshot of the world. -/
inductive SavedAs (core : ServerCore) (playerId : PlayerId) : PlayerSnapshot → Prop where
  | live {saved : PlayerSnapshot} {core' : ServerCore}
      (h : Prog.run (baseState canonicalContent)
        (persistedOnlinePlayerSnapshotState canonicalContent playerId) core =
          .ok (some saved, core')) :
      SavedAs core playerId saved
  | disconnected {saved : PlayerSnapshot} {delta : DisconnectDelta} {core' : ServerCore}
      (h : Prog.run (baseState canonicalContent) (disconnectPlayerState canonicalContent playerId)
        core = .ok (some delta, core'))
      (hsaved : core'.world.savedPlayers[playerId]? = some saved) :
      SavedAs core playerId saved
  | snapshot {saved : PlayerSnapshot} {world : WorldSnapshot}
      (h : core.snapshot canonicalContent = .ok world)
      (hsaved : world.players[playerId]? = some saved) :
      SavedAs core playerId saved

theorem disconnectPlayerState_saved {core' : ServerCore} {delta : DisconnectDelta}
    (h : Prog.run (baseState C) (disconnectPlayerState C playerId) core = .ok (some delta, core')) :
    ∃ snapshot session saved, core.playerSnapshot playerId = some snapshot ∧
      core.sessions.playerSessions[playerId]? = some session ∧
      persistLivePlayerState C snapshot session.cursor session.activeContainer = .ok saved ∧
      core'.world.savedPlayers[playerId]? = some saved := by
  unfold disconnectPlayerState at h
  obtain ⟨cleared, s₁, hclear, h₁⟩ := Prog.run_bind_ok h
  obtain ⟨hplayer, hsessions⟩ := stateClearActiveMining_player hclear playerId
  obtain ⟨answer, s₂, hpersisted, h₂⟩ := Prog.run_bind_ok h₁
  obtain ⟨rfl, hanswer⟩ := persistedOnline_ok hpersisted
  rw [hplayer, hsessions] at hanswer
  rcases hanswer with ⟨-, rfl⟩ | ⟨snapshot, session, saved, hsnapshot, hsession, rfl, hpersist⟩
  · cases h₂
  · refine ⟨snapshot, session, saved, hsnapshot, hsession, hpersist, ?_⟩
    obtain ⟨removed, s₃, hremove, h₃⟩ := Prog.run_bind_ok h₂
    cases removed with
    | none => cases h₃
    | some session' =>
      dsimp only at h₃
      have hsave : ∀ s t : ServerCore, Prog.run (baseState C) (do
          setSavedPlayer playerId (some saved)
          pure (some (⟨playerId, session'.entityId, cleared⟩ : DisconnectDelta))) s =
            .ok (some delta, t) → t.world.savedPlayers[playerId]? = some saved := by
        intro s t hrun
        cases hrun
        change (s.world.savedPlayers.insert playerId saved)[playerId]? = some saved
        simp
      cases hwindow : session'.activeContainer with
      | none =>
        rw [hwindow] at h₃
        exact hsave _ _ h₃
      | some window =>
        rw [hwindow] at h₃
        obtain ⟨-, s₄, -, h₄⟩ := Prog.run_bind_ok h₃
        obtain ⟨-, s₅, -, h₅⟩ := Prog.run_bind_ok h₄
        exact hsave _ _ h₅

theorem snapshotPlayers_saved {saved snapshot : PlayerSnapshot} {session : PlayerSessionState}
    (hsnapshot : core.playerSnapshot playerId = some snapshot)
    (hsession : core.sessions.playerSessions[playerId]? = some session) (ids : List PlayerId)
    (players after : BTreeMap PlayerId PlayerSnapshot)
    (h : core.snapshotPlayers C ids players = .ok after) (hsaved : after[playerId]? = some saved) :
    persistLivePlayerState C snapshot session.cursor session.activeContainer = .ok saved ∨
      (playerId ∉ ids ∧ players[playerId]? = some saved) := by
  induction ids generalizing players with
  | nil =>
    cases h
    exact .inr ⟨List.not_mem_nil, hsaved⟩
  | cons first rest ih =>
    unfold ServerCore.snapshotPlayers at h
    obtain ⟨answer, hask, hrest⟩ := except_bind_eq_ok.mp h
    unfold ServerCore.ask at hask
    obtain ⟨⟨answer', core'⟩, hrun, rfl⟩ := except_map_eq_ok.mp hask
    obtain ⟨-, hanswer⟩ := persistedOnline_ok hrun
    rcases hanswer with
      ⟨hmissing, rfl⟩ | ⟨snapshot', session', saved', hsnapshot', hsession', rfl, hpersist⟩
    · have hother : playerId ≠ first := by
        rintro rfl
        rcases hmissing with hnone | hnone
        · rw [hsnapshot] at hnone
          cases hnone
        · rw [hsession] at hnone
          cases hnone
      rcases ih players hrest with hlive | ⟨hmem, hbefore⟩
      · exact .inl hlive
      · exact .inr ⟨by simp [hmem, hother], hbefore⟩
    · rcases ih _ hrest with hlive | ⟨hmem, hbefore⟩
      · exact .inl hlive
      · rw [BTreeMap.getElem?_insert_eq] at hbefore
        split at hbefore
        · next hsame =>
          subst hsame
          cases hbefore
          rw [hsnapshot] at hsnapshot'
          rw [hsession] at hsession'
          cases hsnapshot'
          cases hsession'
          exact .inl hpersist
        · next hother =>
          exact .inr ⟨by simp [hmem, Ne.symm hother], hbefore⟩

theorem SavedAs.persisted {saved : PlayerSnapshot} (h : SavedAs core playerId saved)
    {session : PlayerSessionState}
    (hsession : core.sessions.playerSessions[playerId]? = some session)
    (hinventory : core.inventoryOf playerId = some inventory)
    (honline : (core.playerSnapshot playerId).isSome) : ∃ snapshot, snapshot.inventory = inventory ∧
      persistLivePlayerState canonicalContent snapshot session.cursor session.activeContainer =
        .ok saved := by
  obtain ⟨snapshot, hsnapshot⟩ := Option.isSome_iff_exists.mp honline
  have hsame : snapshot.inventory = inventory := by
    have hfound := ServerCore.playerSnapshot_inventory hsnapshot
    rw [hinventory] at hfound
    exact (Option.some.inj hfound).symm
  refine ⟨snapshot, hsame, ?_⟩
  have hunique : ∀ {snapshot' : PlayerSnapshot} {session' : PlayerSessionState},
      core.playerSnapshot playerId = some snapshot' →
      core.sessions.playerSessions[playerId]? = some session' →
      snapshot' = snapshot ∧ session' = session := by
    intro snapshot' session' hsnapshot' hsession'
    rw [hsnapshot] at hsnapshot'
    rw [hsession] at hsession'
    cases hsnapshot'
    cases hsession'
    exact ⟨rfl, rfl⟩
  cases h with
  | live hrun =>
    obtain ⟨-, hanswer⟩ := persistedOnline_ok hrun
    rcases hanswer with ⟨-, hnone⟩ | ⟨snapshot', session', saved', hsnapshot', hsession', hsome, hpersist⟩
    · cases hnone
    · cases hsome
      obtain ⟨rfl, rfl⟩ := hunique hsnapshot' hsession'
      exact hpersist
  | disconnected hrun hsaved =>
    obtain ⟨snapshot', session', saved', hsnapshot', hsession', hpersist, hsaved'⟩ :=
      disconnectPlayerState_saved hrun
    obtain ⟨rfl, rfl⟩ := hunique hsnapshot' hsession'
    rw [hsaved] at hsaved'
    cases hsaved'
    exact hpersist
  | snapshot hrun hsaved =>
    unfold ServerCore.snapshot at hrun
    obtain ⟨players, hplayers, hdone⟩ := except_bind_eq_ok.mp hrun
    cases hdone
    rcases snapshotPlayers_saved hsnapshot hsession _ _ _ hplayers hsaved with hlive | ⟨hmem, -⟩
    · exact hlive
    · have honline : playerId ∈ core.sessions.playerSessions := by
        rw [ExtTreeMap.mem_iff_isSome_getElem?, hsession]
        rfl
      exact absurd (ExtTreeMap.mem_keys.mpr honline) hmem

/-- **Saving a player creates no items**, unless one is drawn from the crafting result or from an
    output slot of a virtual window; and when everything folded finds room, exactly then. -/
theorem saved_player_creates_nothing (core : ServerCore) (playerId : PlayerId)
    (session : PlayerSessionState) (inventory : PlayerInventory) (saved : PlayerSnapshot)
    (hsession : core.sessions.playerSessions[playerId]? = some session)
    (hinventory : core.inventoryOf playerId = some inventory)
    (honline : (core.playerSnapshot playerId).isSome) (hsaved : SavedAs core playerId saved) :
    ((∀ stack ∈ drawn inventory session, stack.count = 0) →
        ∀ item, saved.inventory.holds item ≤ carried inventory session item) ∧
      (FitsAll MAX_STACK_SIZE ((foldedStacks inventory session.cursor
          session.activeContainer).map ItemStack.pile) inventory.storage →
        (∀ item, saved.inventory.holds item ≤ carried inventory session item) →
        ∀ stack ∈ drawn inventory session, stack.count = 0) := by
  obtain ⟨snapshot, rfl, hpersist⟩ := hsaved.persisted hsession hinventory honline
  constructor
  · intro hdrawn item
    have hle := persisted_holds_le hpersist item
    have hzero := (countOf_eq_zero (drawn snapshot.inventory session)).mpr hdrawn item
    omega
  · intro hfits hle
    rw [← countOf_eq_zero]
    intro item
    have heq := persisted_holds_eq hpersist hfits item
    have hbound := hle item
    omega

def clickPlayerWindow (slot : InventorySlot) (button : InventoryClickButton) : CoreStep :=
  .apply (.inventoryClick ⟨7⟩ ⟨0, 0⟩ (.slot slot) button .authoritative) 5

/-- Two planks of the hotbar laid above each other in the player's crafting grid. -/
def sticksLaidOut : List CoreStep :=
  [.apply (.loginStart ⟨1⟩ "alice" ⟨7⟩) 5, clickPlayerWindow (.hotbar 4) .left,
    clickPlayerWindow (.windowLocal 1) .right, clickPlayerWindow (.windowLocal 3) .right,
    clickPlayerWindow (.hotbar 4) .left]

def sticks : ItemIdentity := (ItemStack.new "minecraft:stick" 1 0).identity

/-- A stack of dirt in the cursor, in the player's own grid and on a crafting table. -/
def dirtLaidOut : List CoreStep :=
  [.apply (.loginStart ⟨1⟩ "alice" ⟨7⟩) 5, clickPlayerWindow (.hotbar 1) .left,
    clickPlayerWindow (.windowLocal 1) .right,
    .effects ⟨5, ⟨none, ∅, ∅, ∅, ∅⟩, [.openVirtualContainer ⟨7⟩ "canonical:crafting_table"]⟩,
    .apply (.inventoryClick ⟨7⟩ ⟨1, 0⟩ (.slot (.windowLocal 2)) .right .authoritative) 5]

def dirt : ItemIdentity := (ItemStack.new "minecraft:dirt" 1 0).identity

theorem saved_player_creates_nothing_laidOut :
    ∃ events core session inventory saved,
      (ServerCore.new .default).runSteps canonicalContent dirtLaidOut = .ok (events, core) ∧
      core.sessions.playerSessions[(⟨7⟩ : PlayerId)]? = some session ∧
      core.inventoryOf ⟨7⟩ = some inventory ∧ SavedAs core ⟨7⟩ saved ∧
      (countOf dirt (localStacks inventory [1, 2, 3, 4]), countOf dirt session.cursor.toList,
        countOf dirt (virtualStacks session.activeContainer)) = (1, 62, 1) ∧
      ∀ item, saved.inventory.holds item ≤ carried inventory session item := by
  have hrun : endsWith (fun ran =>
      endsWith (fun persisted => decide (persisted.1.isSome ∧ (ran.2.playerSnapshot ⟨7⟩).isSome ∧
        ∃ session ∈ ran.2.sessions.playerSessions[(⟨7⟩ : PlayerId)]?,
          ∃ inventory ∈ ran.2.inventoryOf ⟨7⟩, drawn inventory session = [] ∧
            (countOf dirt (localStacks inventory [1, 2, 3, 4]), countOf dirt session.cursor.toList,
              countOf dirt (virtualStacks session.activeContainer)) = (1, 62, 1)))
        (Prog.run (baseState canonicalContent)
          (persistedOnlinePlayerSnapshotState canonicalContent ⟨7⟩) ran.2))
      ((ServerCore.new .default).runSteps canonicalContent dirtLaidOut) = true := by decide +kernel
  obtain ⟨⟨events, core⟩, hsteps, hsaves⟩ := endsWith_iff.mp hrun
  obtain ⟨⟨answer, core'⟩, hsaved, hchecks⟩ := endsWith_iff.mp hsaves
  obtain ⟨hanswer, honline, session, hsession, inventory, hinventory, hdrawn, hcounts⟩ :=
    of_decide_eq_true hchecks
  obtain ⟨saved, rfl⟩ := Option.isSome_iff_exists.mp hanswer
  refine ⟨events, core, session, inventory, saved, hsteps, hsession, hinventory, .live hsaved,
    hcounts, ?_⟩
  refine (saved_player_creates_nothing core ⟨7⟩ session inventory saved hsession hinventory
    honline (.live hsaved)).1 ?_
  intro stack hstack
  rw [hdrawn] at hstack
  cases hstack

theorem disconnect_turns_result_into_items :
    ∃ events core session inventory delta core' saved,
      (ServerCore.new .default).runSteps canonicalContent sticksLaidOut = .ok (events, core) ∧
      core.sessions.playerSessions[(⟨7⟩ : PlayerId)]? = some session ∧
      core.inventoryOf ⟨7⟩ = some inventory ∧
      Prog.run (baseState canonicalContent) (disconnectPlayerState canonicalContent ⟨7⟩) core =
        .ok (some delta, core') ∧
      core'.world.savedPlayers[(⟨7⟩ : PlayerId)]? = some saved ∧
      carried inventory session sticks = 0 ∧ saved.inventory.holds sticks = 4 := by
  have hrun : endsWith (fun ran =>
      endsWith (fun left => decide (left.1.isSome ∧
        ∃ session ∈ ran.2.sessions.playerSessions[(⟨7⟩ : PlayerId)]?,
          ∃ inventory ∈ ran.2.inventoryOf ⟨7⟩,
            ∃ saved ∈ left.2.world.savedPlayers[(⟨7⟩ : PlayerId)]?,
              carried inventory session sticks = 0 ∧ saved.inventory.holds sticks = 4))
        (Prog.run (baseState canonicalContent) (disconnectPlayerState canonicalContent ⟨7⟩) ran.2))
      ((ServerCore.new .default).runSteps canonicalContent sticksLaidOut) = true := by
    decide +kernel
  obtain ⟨⟨events, core⟩, hsteps, hdisconnects⟩ := endsWith_iff.mp hrun
  obtain ⟨⟨answer, core'⟩, hdisconnect, hchecks⟩ := endsWith_iff.mp hdisconnects
  obtain ⟨hanswer, session, hsession, inventory, hinventory, saved, hsaved, hcounts⟩ :=
    of_decide_eq_true hchecks
  obtain ⟨delta, rfl⟩ := Option.isSome_iff_exists.mp hanswer
  exact ⟨events, core, session, inventory, delta, core', saved, hsteps, hsession, hinventory,
    hdisconnect, hsaved, hcounts⟩

end RevyCraft
