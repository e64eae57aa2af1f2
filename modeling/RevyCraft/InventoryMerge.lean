/-
  RevyCraft/InventoryMerge.lean
  =============================
  **Merging a stack into an inventory** (`merge_stack_into_player_inventory` in
  `util.rs`), over every place of the inventory.

    * `Merging`: what may have happened to the places of an inventory while a
      stack is merged, and what is left of the stack.
    * `setSlot_merging`: one slot that takes some of the stack; both loops are
      made of these steps.
    * `merge_uses_all_space`: nothing is lost, and a rest means there was no room.
-/
import RevyCraft.WindowClicks

namespace RevyCraft

open Stacks (fill place amount held leftover room spare free fill_room fill_free place_cases)
open WindowClicks (Counted)

/-! ### Places -/

variable {answer : Bool} {existing : ItemStack} {inventory : PlayerInventory}

namespace PlayerInventory

/-- Every place of an inventory, the offhand last. -/
def places (inventory : PlayerInventory) : List (Option ItemStack) :=
  inventory.slots ++ [inventory.offhand]

/-- How many of an item an inventory holds. -/
def amountOf (inventory : PlayerInventory) (item : ItemIdentity) : Nat :=
  amount item (inventory.places.map pileOf)

/-- No count of an inventory is zero or above a full stack. -/
def AllCounted (inventory : PlayerInventory) : Prop := ∀ stack ∈ inventory.places, Counted stack

variable {inventory inventory' : PlayerInventory} {slot : InventorySlot}
  {stack old new left : Option ItemStack}

theorem setSlot_places (hvalid : slot.Valid)
    (h : inventory.setSlot slot new = .ok (answer, inventory')) :
    ∃ i : Nat, inventory.places[i]? = some (inventory.getSlot slot) ∧
      inventory'.places = inventory.places.set i new := by
  rcases hvalid with rfl | hindexed
  · cases h
    refine ⟨inventory.slots.length, ?_, ?_⟩
    · simp [places, getSlot]
    · simp [places]
  · obtain ⟨index, hindex⟩ := Option.isSome_iff_exists.mp hindexed
    rw [setSlot_of_index hindex] at h
    unfold set at h
    rw [if_neg (Nat.not_le.mpr (InventorySlot.legacyWindowIndex_lt hindex))] at h
    split at h
    · cases h
    · next hbound =>
      cases h
      have hlt : index < inventory.slots.length := Nat.lt_of_not_le hbound
      refine ⟨index, ?_, ?_⟩
      · rw [getSlot_of_index hindex, get, places, List.getElem?_append_left hlt,
          List.getElem?_eq_getElem hlt]
        rfl
      · exact (List.set_append_left _ _ hlt).symm

theorem setSlot_ok (hvalid : slot.Valid) (new : Option ItemStack)
    (hlength : PLAYER_INVENTORY_SLOT_COUNT ≤ inventory.slots.length) :
    ∃ inventory', inventory.setSlot slot new = .ok (true, inventory') ∧
      inventory'.slots.length = inventory.slots.length := by
  rcases hvalid with rfl | hindexed
  · exact ⟨_, rfl, rfl⟩
  · obtain ⟨index, hindex⟩ := Option.isSome_iff_exists.mp hindexed
    have hlt := InventorySlot.legacyWindowIndex_lt hindex
    rw [setSlot_of_index hindex, set, if_neg (Nat.not_le.mpr hlt),
      if_neg (Nat.not_le.mpr (Nat.lt_of_lt_of_le hlt hlength))]
    exact ⟨_, rfl, List.length_set ..⟩

end PlayerInventory

open PlayerInventory

/-! ### What merging does to the places -/

/-- Some of the stack went into the inventory and `left` is the rest. -/
structure Merging (inventory : PlayerInventory) (stack : ItemStack) (left : Option ItemStack)
    (inventory' : PlayerInventory) : Prop where
  conserved : ∀ item, inventory'.amountOf item + held item (pileOf left) =
    inventory.amountOf item + held item (pileOf (some stack))
  counted : inventory.AllCounted → Counted (some stack) → inventory'.AllCounted ∧ Counted left
  others : ∀ (i : Nat) (there : ItemStack), inventory.places[i]? = some (some there) →
    there.identity ≠ stack.identity → inventory'.places[i]? = some (some there)
  same : ∀ rest, left = some rest → rest.identity = stack.identity

namespace Merging

variable {inventory inventory' inventory'' : PlayerInventory} {stack mid : ItemStack}
  {left : Option ItemStack}

theorem refl (inventory : PlayerInventory) (stack : ItemStack) :
    Merging inventory stack (some stack) inventory where
  conserved := fun _ => rfl
  counted := fun hall hstack => ⟨hall, hstack⟩
  others := fun _ _ hthere _ => hthere
  same := fun _ hrest => congrArg ItemStack.identity (Option.some.inj hrest).symm

theorem trans (h : Merging inventory stack (some mid) inventory')
    (h' : Merging inventory' mid left inventory'') : Merging inventory stack left inventory'' where
  conserved := fun item => (h'.conserved item).trans (h.conserved item)
  counted := fun hall hstack => by
    obtain ⟨hall', hmid⟩ := h.counted hall hstack
    exact h'.counted hall' hmid
  others := fun i there hthere hne => by
    refine h'.others i there (h.others i there hthere hne) ?_
    rw [h.same mid rfl]
    exact hne
  same := fun rest hrest => (h'.same rest hrest).trans (h.same mid rfl)

end Merging

section Slot

variable {inventory inventory' : PlayerInventory} {slot : InventorySlot} {stack : ItemStack}
  {new left : Option ItemStack}

theorem setSlot_merging (hvalid : slot.Valid)
    (h : inventory.setSlot slot new = .ok (answer, inventory'))
    (hmoved : ∀ item, held item (pileOf new) + held item (pileOf left) =
      held item (pileOf (inventory.getSlot slot)) + held item (pileOf (some stack)))
    (hcounted : Counted (inventory.getSlot slot) → Counted (some stack) →
      Counted new ∧ Counted left)
    (hkind : ∀ there, inventory.getSlot slot = some there → there.identity = stack.identity)
    (hsame : ∀ rest, left = some rest → rest.identity = stack.identity) :
    Merging inventory stack left inventory' := by
  obtain ⟨i, hread, hwritten⟩ := setSlot_places hvalid h
  refine ⟨fun item => ?_, fun hall hstack => ?_, fun j there hthere hne => ?_, hsame⟩
  · have hpile : (inventory.places.map pileOf)[i]? = some (pileOf (inventory.getSlot slot)) := by
      rw [List.getElem?_map, hread]
      rfl
    have hset := Stacks.amount_set item hpile (pileOf new)
    have hitem := hmoved item
    rw [amountOf, amountOf, hwritten, List.map_set]
    omega
  · have hslot : Counted (inventory.getSlot slot) := hall _ (List.mem_of_getElem? hread)
    obtain ⟨hnew, hleft⟩ := hcounted hslot hstack
    refine ⟨fun place hplace => ?_, hleft⟩
    rw [hwritten] at hplace
    rcases List.mem_or_eq_of_mem_set hplace with hbefore | rfl
    · exact hall place hbefore
    · exact hnew
  · have hother : i ≠ j := by
      rintro rfl
      rw [hread] at hthere
      exact hne (hkind there (Option.some.inj hthere))
    rw [hwritten, List.getElem?_set_ne hother]
    exact hthere

end Slot

/-! ### The two loops -/

section Loops

variable {inventory inventory' : PlayerInventory} {slot : InventorySlot} {stack : ItemStack}
  {left : Option ItemStack} {order : List InventorySlot}

/-- A matching slot below a full stack takes what fits; the rest is a stack unless it is empty. -/
theorem topUp_merging {moved : Nat} (hvalid : slot.Valid)
    (hheld : inventory.getSlot slot = some existing) (hkind : existing.identity = stack.identity)
    (hmoved : moved = min (MAX_STACK_SIZE - existing.count) stack.count)
    (hbelow : existing.count < MAX_STACK_SIZE)
    (h : inventory.setSlot slot (some { existing with count := existing.count + moved }) =
      .ok (answer, inventory'))
    (hleft : (stack.count - moved = 0 ∧ left = none) ∨
      (stack.count - moved ≠ 0 ∧ left = some { stack with count := stack.count - moved })) :
    Merging inventory stack left inventory' := by
  have hle : moved ≤ stack.count := hmoved ▸ Nat.min_le_right _ _
  have hfits : existing.count + moved ≤ MAX_STACK_SIZE := by omega
  refine setSlot_merging hvalid h (fun item => ?_) (fun hslot hstack => ?_) (fun there hthere => ?_)
    fun rest hrest => ?_
  · have hboth := Stacks.held_moved existing.identity item existing.count stack.count hle
    have hrest : held item (pileOf left) =
        held item (some (existing.identity, stack.count - moved)) := by
      rcases hleft with ⟨hzero, rfl⟩ | ⟨-, rfl⟩
      · rw [hzero]
        simp [held, pileOf]
      · rw [hkind]
        rfl
    rw [hrest, hheld]
    change held item (some (existing.identity, existing.count + moved)) + _ =
      held item (some (existing.identity, existing.count)) +
        held item (some (stack.identity, stack.count))
    rw [← hkind]
    exact hboth
  · rw [hheld] at hslot
    obtain ⟨hpos, -⟩ := hslot existing rfl
    obtain ⟨-, hstackLe⟩ := hstack stack rfl
    refine ⟨fun there hthere => ?_, fun rest hrest => ?_⟩
    · cases hthere
      exact ⟨Nat.le_trans hpos (Nat.le_add_right _ _), hfits⟩
    · rcases hleft with ⟨-, rfl⟩ | ⟨hmore, rfl⟩
      · cases hrest
      · cases hrest
        exact ⟨Nat.pos_of_ne_zero hmore, Nat.le_trans (Nat.sub_le _ _) hstackLe⟩
  · rw [hheld] at hthere
    exact Option.some.inj hthere ▸ hkind
  · rcases hleft with ⟨-, rfl⟩ | ⟨-, rfl⟩
    · cases hrest
    · cases hrest
      rfl

theorem takes_iff : ¬ (!stackKeysMatch existing stack || existing.count ≥ MAX_STACK_SIZE) = true ↔
      existing.identity = stack.identity ∧ existing.count < MAX_STACK_SIZE := by
  rw [← ItemStack.stackKeysMatch_iff]
  cases stackKeysMatch existing stack <;> simp

theorem count_topUp (hbelow : existing.count < MAX_STACK_SIZE) :
    min (existing.count + min (MAX_STACK_SIZE - existing.count) stack.count) u8Max =
      existing.count + min (MAX_STACK_SIZE - existing.count) stack.count := by
  unfold u8Max
  unfold MAX_STACK_SIZE at *
  omega

theorem fillMatchingStacks_merging (hvalid : ∀ slot ∈ order, slot.Valid)
    (h : fillMatchingStacks order inventory stack = .ok (left, inventory')) :
    Merging inventory stack left inventory' := by
  induction order generalizing inventory stack with
  | nil =>
    cases h
    exact Merging.refl _ _
  | cons slot rest ih =>
    have hslot := hvalid slot (List.mem_cons_self ..)
    have hrest : ∀ slot ∈ rest, slot.Valid :=
      fun slot hmem => hvalid slot (List.mem_cons_of_mem _ hmem)
    unfold fillMatchingStacks at h
    cases hheld : inventory.getSlot slot with
    | none =>
      rw [hheld] at h
      exact ih hrest h
    | some existing =>
      rw [hheld] at h
      dsimp only at h
      split at h
      · exact ih hrest h
      · next htake =>
        obtain ⟨hkind, hbelow⟩ := takes_iff.mp htake
        obtain ⟨⟨answer, filled⟩, hset, hloop⟩ := except_bind_eq_ok.mp h
        rw [count_topUp hbelow] at hset
        dsimp only at hloop
        split at hloop
        · next hdone =>
          cases hloop
          exact topUp_merging hslot hheld hkind rfl hbelow hset (.inl ⟨hdone, rfl⟩)
        · next hmore =>
          exact (topUp_merging hslot hheld hkind rfl hbelow hset (.inr ⟨hmore, rfl⟩)).trans
            (ih hrest hloop)

theorem placeInEmptySlot_merging (hvalid : ∀ slot ∈ order, slot.Valid)
    (h : placeInEmptySlot order inventory stack = .ok (left, inventory')) :
    Merging inventory stack left inventory' := by
  induction order with
  | nil =>
    cases h
    exact Merging.refl _ _
  | cons slot rest ih =>
    have hrest : ∀ slot ∈ rest, slot.Valid :=
      fun slot hmem => hvalid slot (List.mem_cons_of_mem _ hmem)
    unfold placeInEmptySlot at h
    cases hheld : inventory.getSlot slot with
    | some existing =>
      rw [hheld, Option.isSome_some, if_pos rfl] at h
      exact ih hrest h
    | none =>
      rw [hheld, Option.isSome_none, if_neg (by simp)] at h
      obtain ⟨⟨answer, placed⟩, hset, hdone⟩ := except_bind_eq_ok.mp h
      cases hdone
      refine setSlot_merging (hvalid slot (List.mem_cons_self ..)) hset (fun item => ?_)
        (fun _ hstack => ⟨hstack, fun _ hnone => by cases hnone⟩) (fun there hthere => ?_)
        fun _ hnone => by cases hnone
      · rw [hheld]
        exact Nat.add_comm _ _
      · rw [hheld] at hthere
        cases hthere

/-! ### Panics -/

theorem fillMatchingStacks_ok (stack : ItemStack) (hvalid : ∀ slot ∈ order, slot.Valid)
    (hlength : PLAYER_INVENTORY_SLOT_COUNT ≤ inventory.slots.length) :
    ∃ left inventory', fillMatchingStacks order inventory stack = .ok (left, inventory') ∧
      PLAYER_INVENTORY_SLOT_COUNT ≤ inventory'.slots.length := by
  induction order generalizing inventory stack with
  | nil => exact ⟨_, _, rfl, hlength⟩
  | cons slot rest ih =>
    have hrest : ∀ slot ∈ rest, slot.Valid :=
      fun slot hmem => hvalid slot (List.mem_cons_of_mem _ hmem)
    unfold fillMatchingStacks
    cases inventory.getSlot slot with
    | none => exact ih _ hrest hlength
    | some existing =>
      dsimp only
      split
      · exact ih _ hrest hlength
      · obtain ⟨filled, hset, hsame⟩ := setSlot_ok (hvalid slot (List.mem_cons_self ..))
          (some { existing with
            count := min
              (existing.count + min (MAX_STACK_SIZE - existing.count) stack.count) u8Max })
          hlength
        have hfilled : PLAYER_INVENTORY_SLOT_COUNT ≤ filled.slots.length := hsame ▸ hlength
        simp only [hset, bind, Except.bind]
        split
        · exact ⟨_, _, rfl, hfilled⟩
        · exact ih _ hrest hfilled

theorem placeInEmptySlot_ok (hvalid : ∀ slot ∈ order, slot.Valid)
    (hlength : PLAYER_INVENTORY_SLOT_COUNT ≤ inventory.slots.length) :
    ∃ left inventory', placeInEmptySlot order inventory stack = .ok (left, inventory') := by
  induction order with
  | nil => exact ⟨_, _, rfl⟩
  | cons slot rest ih =>
    unfold placeInEmptySlot
    split
    · exact ih fun slot hmem => hvalid slot (List.mem_cons_of_mem _ hmem)
    · obtain ⟨placed, hset, -⟩ := setSlot_ok (hvalid slot (List.mem_cons_self ..)) (some stack)
        hlength
      simp only [hset, bind, Except.bind]
      exact ⟨_, _, rfl⟩

end Loops

/-! ### Room -/

section Room

variable {inventory inventory' : PlayerInventory} {stack : ItemStack} {left : Option ItemStack}
  {order : List InventorySlot}

/-- The slots of a list have no room for an item: none is empty, and its stacks are full. -/
def NoRoom (order : List InventorySlot) (inventory : PlayerInventory) (item : ItemIdentity) :
    Prop :=
  ∀ slot ∈ order, ∃ there, inventory.getSlot slot = some there ∧
    (there.identity = item → MAX_STACK_SIZE ≤ there.count)

theorem noRoom_of_piles {item : ItemIdentity}
    (hroom : room MAX_STACK_SIZE item (pilesAt inventory order) = 0)
    (hfree : free (pilesAt inventory order) = 0) : NoRoom order inventory item := by
  intro slot hslot
  have hpile : pileOf (inventory.getSlot slot) ∈ pilesAt inventory order :=
    List.mem_map_of_mem hslot
  have hsome := List.countP_eq_zero.mp hfree _ hpile
  cases hheld : inventory.getSlot slot with
  | none =>
    rw [hheld] at hsome
    exact absurd rfl hsome
  | some there =>
    refine ⟨there, rfl, fun hitem => ?_⟩
    have hspare : spare MAX_STACK_SIZE item (pileOf (inventory.getSlot slot)) = 0 :=
      List.sum_eq_zero_iff_forall_eq_nat.mp hroom _ (List.mem_map_of_mem hpile)
    rw [hheld, pileOf, Option.map_some, ItemStack.pile, spare, if_pos hitem] at hspare
    exact Nat.sub_eq_zero_iff_le.mp hspare

/-- **A stack is left over only when there was no room for it.** -/
theorem merge_noRoom (hpos : 0 < stack.count) {rest : ItemStack}
    (h : mergeStackIntoPlayerInventory inventory stack = .ok (some rest, inventory')) :
    NoRoom persistentSlotOrder inventory' stack.identity ∧
      ∀ slot ∈ persistentSlotOrder, inventory.getSlot slot ≠ none := by
  unfold mergeStackIntoPlayerInventory at h
  obtain ⟨⟨remaining, filled⟩, hfill, hrest⟩ := except_bind_eq_ok.mp h
  cases remaining with
  | none => cases hrest
  | some remaining =>
    obtain ⟨hpiles, hleft, -⟩ :=
      fillMatchingStacks_fill persistentSlotOrder_nodup persistentSlotOrder_valid hfill
    obtain ⟨hplaced, hover, -⟩ :=
      placeInEmptySlot_place persistentSlotOrder_nodup persistentSlotOrder_valid hrest
    have hfree := fill_free MAX_STACK_SIZE stack.identity (pilesAt inventory persistentSlotOrder)
      stack.count
    rw [← hpiles] at hfree
    -- something is left of the first loop, so it used the room of the item up
    have hroom : room MAX_STACK_SIZE stack.identity (pilesAt filled persistentSlotOrder) = 0 := by
      rcases fill_room MAX_STACK_SIZE stack.identity (pilesAt inventory persistentSlotOrder) hpos
        with ⟨-, hnone, -⟩ | ⟨-, -, hroom⟩
      · rw [hnone] at hleft
        cases hleft
      · rwa [hpiles]
    -- and something of the second, so no slot was empty
    rcases place_cases MAX_STACK_SIZE remaining.identity remaining.count
      (pilesAt filled persistentSlotOrder) with ⟨hfull, hsame⟩ | ⟨-, hnone, -⟩
    · rw [hsame] at hplaced
      refine ⟨noRoom_of_piles (hplaced ▸ hroom) (hplaced ▸ hfull), fun slot hslot hnone => ?_⟩
      have hempty := List.countP_eq_zero.mp (hfree.symm.trans hfull)
        (pileOf (inventory.getSlot slot)) (List.mem_map_of_mem hslot)
      rw [hnone] at hempty
      exact hempty rfl
    · rw [hnone] at hover
      cases hover

end Room

/-! ### Merging -/

theorem merge_merging {inventory' : PlayerInventory} {stack : ItemStack} {left : Option ItemStack}
    (h : mergeStackIntoPlayerInventory inventory stack = .ok (left, inventory')) :
    Merging inventory stack left inventory' := by
  unfold mergeStackIntoPlayerInventory at h
  obtain ⟨⟨remaining, filled⟩, hfill, hrest⟩ := except_bind_eq_ok.mp h
  have hfilled := fillMatchingStacks_merging persistentSlotOrder_valid hfill
  cases remaining with
  | none =>
    cases hrest
    exact hfilled
  | some remaining =>
    exact hfilled.trans (placeInEmptySlot_merging persistentSlotOrder_valid hrest)

theorem merge_ok (stack : ItemStack)
    (hlength : PLAYER_INVENTORY_SLOT_COUNT ≤ inventory.slots.length) :
    ∃ left inventory', mergeStackIntoPlayerInventory inventory stack = .ok (left, inventory') := by
  obtain ⟨left, filled, hfill, hfilled⟩ :=
    fillMatchingStacks_ok stack persistentSlotOrder_valid hlength
  unfold mergeStackIntoPlayerInventory
  simp only [hfill, bind, Except.bind]
  cases left with
  | none => exact ⟨_, _, rfl⟩
  | some rest => exact placeInEmptySlot_ok persistentSlotOrder_valid hfilled

theorem mem_places_of_getSlot {slot : InventorySlot} {there : ItemStack}
    (h : inventory.getSlot slot = some there) : some there ∈ inventory.places := by
  have hslots : ∀ i : Nat, inventory.slots[i]?.join = some there → some there ∈ inventory.places :=
    fun i hi => List.mem_append_left _ (List.mem_of_getElem? (Option.join_eq_some_iff.mp hi))
  cases hindex : slot.legacyWindowIndex with
  | some index =>
    rw [getSlot_of_index hindex] at h
    exact hslots index h
  | none =>
    cases slot with
    | offhand => exact List.mem_append_right _ (List.mem_singleton.mpr h.symm)
    | windowLocal i | mainInventory i | hotbar i => simp [getSlot, hindex] at h

/-- **Merging a stack loses nothing and uses all space.**  It does not panic in an inventory with
    all its slots.  The amount of every item is conserved, all counts stay those of stacks, the
    stacks of other items stay where they are, and a rest means that no storage slot was empty and
    the stacks of the item there are full. -/
theorem merge_uses_all_space (inventory : PlayerInventory) (stack : ItemStack)
    (hinventory : inventory.AllCounted) (hstack : Counted (some stack)) :
    (PLAYER_INVENTORY_SLOT_COUNT ≤ inventory.slots.length →
      ∃ left inventory',
        mergeStackIntoPlayerInventory inventory stack = .ok (left, inventory')) ∧
    ∀ left inventory', mergeStackIntoPlayerInventory inventory stack = .ok (left, inventory') →
      (∀ item, inventory'.amountOf item + held item (pileOf left) =
        inventory.amountOf item + held item (pileOf (some stack))) ∧
      (inventory'.AllCounted ∧ Counted left) ∧
      (∀ (i : Nat) (there : ItemStack), inventory.places[i]? = some (some there) →
        there.identity ≠ stack.identity → inventory'.places[i]? = some (some there)) ∧
      ∀ rest, left = some rest → rest.identity = stack.identity ∧
        ∀ slot ∈ persistentSlotOrder, inventory.getSlot slot ≠ none ∧
          ∃ there, inventory'.getSlot slot = some there ∧
            (there.identity = stack.identity → there.count = MAX_STACK_SIZE) := by
  refine ⟨merge_ok stack, fun left inventory' h => ?_⟩
  have hmerging := merge_merging h
  obtain ⟨hall, hleft⟩ := hmerging.counted hinventory hstack
  refine ⟨hmerging.conserved, ⟨hall, hleft⟩, hmerging.others,
    fun rest hrest => ⟨hmerging.same rest hrest, fun slot hslot => ?_⟩⟩
  subst hrest
  obtain ⟨hpos, -⟩ := hstack stack rfl
  obtain ⟨hfull, hbefore⟩ := merge_noRoom hpos h
  obtain ⟨there, hthere, hcount⟩ := hfull slot hslot
  obtain ⟨-, hle⟩ := hall _ (mem_places_of_getSlot hthere) there rfl
  exact ⟨hbefore slot hslot, there, hthere, fun hitem => Nat.le_antisymm hle (hcount hitem)⟩

/-- Two of 64 stones fit into an inventory of stones. -/
theorem merge_uses_all_space_stones :
    (∃ left inventory', mergeStackIntoPlayerInventory .newEmpty (.new "stone" 64 0) =
      .ok (left, inventory')) ∧
    ∀ item, amountOf ⟨List.replicate 45 (some (.new "stone" 64 0)), some (.new "stone" 64 0)⟩ item +
        held item (pileOf (some (.new "stone" 62 0))) =
      amountOf ⟨List.replicate 45 (some (.new "stone" 64 0)), some (.new "stone" 62 0)⟩ item +
        held item (pileOf (some (.new "stone" 64 0))) := by
  have hstack : ∀ count, 1 ≤ count → count ≤ 64 →
      Counted (some (ItemStack.new "stone" count 0)) := by
    intro count hpos hle held hheld
    cases hheld
    exact ⟨hpos, hle⟩
  constructor
  · refine (merge_uses_all_space .newEmpty (.new "stone" 64 0) (fun place hplace => ?_)
      (hstack 64 (by decide) (by decide))).1 (by decide)
    have hnone : place = none :=
      List.eq_of_mem_replicate (n := PLAYER_INVENTORY_SLOT_COUNT + 1) hplace
    rw [hnone]
    exact fun _ hheld => by cases hheld
  · refine ((merge_uses_all_space _ (.new "stone" 64 0) (fun place hplace => ?_)
      (hstack 64 (by decide) (by decide))).2 _ _ (by rfl)).1
    rw [places, List.mem_append, List.mem_singleton] at hplace
    rcases hplace with hslot | rfl
    · rw [List.eq_of_mem_replicate hslot]
      exact hstack 64 (by decide) (by decide)
    · exact hstack 62 (by decide) (by decide)

end RevyCraft
