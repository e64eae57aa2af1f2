/-
  RevyCraft/ClickTotals.lean
  ==========================
  **What a click on an ordinary slot leaves of the items of a window** (`click.rs` of the
  core): as many of each as before, in stacks of one to sixty-four.

    * `Ordinary`: the slots of a window that give and take.
    * `itemsIn`: how many of an item the cursor and some slots hold.
    * `applyClickSlotValue_conserves`: one slot and the cursor.
    * `clickHeld_result`: the derived slots hold what they held, or what the grid makes.
    * `ordinary_click_conserves`: the window.
-/
import RevyCraft.StackRequests

namespace RevyCraft.ClickTotals

open Canonical WindowClicks StackRequests
open Stacks (amount held amount_cons)

/-! ### The items of a window -/

def windowSlots (kind : ContainerKindId) : List InventorySlot :=
  (match containerSpec kind with
    | some spec => (List.range spec.localSlotCount).map .windowLocal
    | none => []) ++
  (List.range MAIN_INVENTORY_SLOT_COUNT).map .mainInventory ++
  (List.range HOTBAR_SLOT_COUNT).map .hotbar ++ [.offhand]

instance (kind : ContainerKindId) : DecidablePred (derived kind) :=
  fun _ => inferInstanceAs (Decidable (_ ∧ _))

/-- The slots of a window that are not worked out from others. -/
def ownSlots (kind : ContainerKindId) : List InventorySlot :=
  (windowSlots kind).filter fun slot => ¬ derived kind slot

/-- How many of an item the cursor and these slots hold. -/
def itemsIn (item : ItemIdentity) (slots : List InventorySlot) (view : View) : Nat :=
  amount item (pileOf view.cursor :: slots.map fun slot => pileOf (view.slots slot))

/-- A slot that gives and takes: a generic slot of the window, or one of the player's. -/
def Ordinary (kind : ContainerKindId) : InventorySlot → Prop
  | .windowLocal index => ∃ spec, containerSpec kind = some spec ∧ index < spec.localSlotCount ∧
      spec.slotRole index = .generic
  | .mainInventory index => index < MAIN_INVENTORY_SLOT_COUNT
  | .hotbar index => index < HOTBAR_SLOT_COUNT
  | .offhand => True

section Ordinary

variable {kind : ContainerKindId} {slot : InventorySlot}

theorem Ordinary.not_derived (h : Ordinary kind slot) : ¬ derived kind slot := by
  cases slot with
  | windowLocal index =>
    obtain ⟨spec, hspec, -, hrole⟩ := h
    exact generic_not_derived hspec hrole
  | mainInventory index | hotbar index | offhand => exact fun hderived => by cases hderived.2

theorem Ordinary.mem_ownSlots (h : Ordinary kind slot) : slot ∈ ownSlots kind := by
  unfold ownSlots
  refine List.mem_filter.mpr ⟨?_, decide_eq_true h.not_derived⟩
  unfold windowSlots
  cases slot with
  | windowLocal index =>
    obtain ⟨spec, hspec, hbound, -⟩ := h
    simp [hspec, hbound]
  | mainInventory index =>
    have hbound : index < MAIN_INVENTORY_SLOT_COUNT := h
    simp [hbound]
  | hotbar index =>
    have hbound : index < HOTBAR_SLOT_COUNT := h
    simp [hbound]
  | offhand => simp

theorem ownSlots_nodup (kind : ContainerKindId) : (ownSlots kind).Nodup := by
  unfold ownSlots
  refine List.Nodup.filter _ ?_
  have hlocals : ∀ make : Nat → InventorySlot, Function.Injective make → ∀ n,
      ((List.range n).map make).Nodup := fun make hmake n => List.nodup_range.map hmake
  have hmain := hlocals .mainInventory (fun _ _ h => by cases h; rfl) MAIN_INVENTORY_SLOT_COUNT
  have hhotbar := hlocals .hotbar (fun _ _ h => by cases h; rfl) HOTBAR_SLOT_COUNT
  unfold windowSlots
  cases containerSpec kind with
  | none =>
    simp only [List.nil_append, List.append_assoc, List.nodup_append, hmain, hhotbar]
    simp
    rintro _ - _ (⟨_, -, rfl⟩ | rfl) <;> simp
  | some spec =>
    have hlocal := hlocals .windowLocal (fun _ _ h => by cases h; rfl) spec.localSlotCount
    simp only [List.append_assoc, List.nodup_append, hmain, hhotbar, hlocal]
    simp
    constructor
    · rintro _ - _ (⟨_, -, rfl⟩ | rfl) <;> simp
    · rintro _ - _ (⟨_, -, rfl⟩ | ⟨_, -, rfl⟩ | rfl) <;> simp

theorem Ordinary.place (h : Ordinary kind slot) (localSlots : List (Option ItemStack)) :
    placeOf kind localSlots slot = .free ∨ placeOf kind localSlots slot = .closed := by
  unfold placeOf
  cases slot with
  | windowLocal index =>
    obtain ⟨spec, hspec, hbound, hrole⟩ := h
    rw [hspec]
    dsimp only
    rw [if_pos hbound, hrole]
    exact ite_eq_or_eq ..
  | mainInventory index | hotbar index | offhand =>
    cases containerSpec kind with
    | none => exact .inr rfl
    | some spec => exact ite_eq_or_eq ..

end Ordinary

/-- Slots that change in one place hold as many items as that place and the cursor do. -/
theorem itemsIn_changed {item : ItemIdentity} {slots : List InventorySlot} {slot : InventorySlot}
    {before after : View} (hnodup : slots.Nodup) (hmem : slot ∈ slots)
    (hkept : ∀ other ∈ slots, other ≠ slot → after.slots other = before.slots other)
    (hmoved : held item (pileOf after.cursor) + held item (pileOf (after.slots slot)) =
      held item (pileOf before.cursor) + held item (pileOf (before.slots slot))) :
    itemsIn item slots after = itemsIn item slots before := by
  obtain ⟨left, right, rfl⟩ := List.append_of_mem hmem
  have hout : slot ∉ left ++ right := (List.nodup_middle.mp hnodup).notMem
  have hsame : ∀ part : List InventorySlot, (∀ other ∈ part, other ∈ left ++ right) →
      part.map (fun slot => pileOf (after.slots slot)) =
        part.map fun slot => pileOf (before.slots slot) := by
    intro part hpart
    refine List.map_congr_left fun other hother => congrArg pileOf (hkept other ?_ ?_)
    · have := hpart other hother
      simp only [List.mem_append, List.mem_cons] at this ⊢
      tauto
    · rintro rfl
      exact hout (hpart _ hother)
  have hleft := hsame left fun _ h => List.mem_append_left _ h
  have hright := hsame right fun _ h => List.mem_append_right _ h
  unfold itemsIn amount
  simp only [List.map_append, List.map_cons, hleft, hright, List.sum_cons, List.sum_append]
  omega

/-! ### One slot -/

section Value

variable {button : InventoryClickButton} {cursor slot cursor' slot' : Option ItemStack}
  {applied : Bool}

@[simp] theorem counted_none : Counted none := fun _ h => by cases h

theorem counted_some {stack : ItemStack} :
    Counted (some stack) ↔ 1 ≤ stack.count ∧ stack.count ≤ MAX_STACK_SIZE :=
  ⟨fun h => h stack rfl, fun h _ hheld => by cases hheld; exact h⟩

theorem fitsU8_of_counted (h : Counted cursor) : FitsU8 cursor := by
  intro stack hstack
  have := (h stack hstack).2
  unfold MAX_STACK_SIZE at this
  unfold u8Max
  omega

theorem held_pileOf (item : ItemIdentity) (stack : ItemStack) :
    held item (pileOf (some stack)) = if stack.identity = item then stack.count else 0 := rfl

theorem held_remaining (item : ItemIdentity) (stack : ItemStack) (n : Nat) :
    held item (pileOf (remaining stack n)) =
      if stack.identity = item then stack.count - n else 0 := by
  unfold remaining
  by_cases hall : stack.count = n
  · rw [if_pos hall, hall, Nat.sub_self, ite_self]
    rfl
  · rw [if_neg hall]
    rfl

theorem remaining_counted {stack : ItemStack} {n : Nat} (h : Counted (some stack))
    (hn : n ≤ stack.count) : Counted (remaining stack n) := by
  obtain ⟨hlow, hhigh⟩ := counted_some.mp h
  unfold remaining
  split
  next => exact counted_none
  next hne => exact counted_some.mpr ⟨by dsimp only; omega, by dsimp only; omega⟩

/-- A click moves items between the cursor and the slot, and makes stacks of one to sixty-four. -/
theorem applyClickSlotValue_conserves (hcursor : Counted cursor) (hslot : Counted slot)
    (h : applyClickSlotValue button cursor slot = .ok (applied, cursor', slot')) :
    Counted cursor' ∧ Counted slot' ∧ ∀ item,
      held item (pileOf cursor') + held item (pileOf slot') =
        held item (pileOf cursor) + held item (pileOf slot) := by
  rcases cursor with _ | stack <;> rcases slot with _ | there
  · cases button <;>
    · cases h
      exact ⟨counted_none, counted_none, fun _ => rfl⟩
  · have hcount := counted_some.mp hslot
    cases button with
    | left =>
      rw [left_take] at h
      cases h
      exact ⟨hslot, counted_none, fun item => Nat.add_comm _ _⟩
    | right =>
      rw [right_take hslot] at h
      cases h
      refine ⟨counted_some.mpr ⟨?_, ?_⟩, remaining_counted hslot ?_, fun item => ?_⟩
      · dsimp only
        omega
      · dsimp only
        omega
      · omega
      · rw [held_remaining, held_pileOf, held_pileOf]
        change (if there.identity = item then _ else 0) + _ = 0 + _
        dsimp only
        split <;> omega
  · have hcount := counted_some.mp hcursor
    cases button with
    | left =>
      cases h
      exact ⟨counted_none, hcursor, fun item => Nat.add_comm _ _⟩
    | right =>
      rw [right_place hcount.1] at h
      cases h
      refine ⟨remaining_counted hcursor hcount.1, counted_some.mpr ⟨?_, ?_⟩, fun item => ?_⟩
      · exact Nat.le_refl _
      · exact Nat.le_trans hcount.1 hcount.2
      · rw [held_remaining, held_pileOf, held_pileOf]
        change _ + (if stack.identity = item then _ else 0) = _ + 0
        dsimp only
        split <;> omega
  · have hcount := counted_some.mp hcursor
    have hthere := counted_some.mp hslot
    cases button with
    | left =>
      by_cases hsame : there.identity = stack.identity
      · rw [left_add (fitsU8_of_counted hcursor) hslot hsame] at h
        cases h
        refine ⟨remaining_counted hcursor (Nat.min_le_left ..), counted_some.mpr ⟨?_, ?_⟩,
          fun item => ?_⟩
        · dsimp only
          omega
        · dsimp only
          omega
        · rw [held_remaining, held_pileOf, held_pileOf, held_pileOf, hsame]
          change _ + (if there.identity = item then _ else 0) = _
          rw [hsame]
          dsimp only
          split <;> omega
      · rw [left_swap hsame] at h
        cases h
        exact ⟨hslot, hcursor, fun item => Nat.add_comm _ _⟩
    | right =>
      by_cases hfits : there.identity = stack.identity ∧ there.count < MAX_STACK_SIZE
      · rw [right_add hfits.1 hfits.2, decrementCursor_eq stack hcount.1] at h
        cases h
        refine ⟨remaining_counted hcursor hcount.1, counted_some.mpr ⟨?_, ?_⟩, fun item => ?_⟩
        · dsimp only
          omega
        · exact hfits.2
        · rw [held_remaining, held_pileOf, held_pileOf, held_pileOf]
          change _ + (if there.identity = item then _ else 0) = _
          rw [hfits.1]
          dsimp only
          split <;> omega
      · rw [right_refused] at h
        · cases h
          exact ⟨hcursor, hslot, fun _ => rfl⟩
        · by_cases hsame : there.identity = stack.identity
          · exact .inr (Nat.le_of_not_lt fun hlt => hfits ⟨hsame, hlt⟩)
          · exact .inl hsame

end Value

/-! ### The result of a grid -/

section Result

variable {inventory inventory' : PlayerInventory} {cursor cursor' : Option ItemStack}
  {slot : InventorySlot} {button : InventoryClickButton} {applied : Bool}

theorem recipes_counted : ∀ recipe ∈ recipes,
    1 ≤ recipe.outputCount ∧ recipe.outputCount ≤ MAX_STACK_SIZE := by
  simp [recipes, MAX_STACK_SIZE]

theorem currentCraftingRecipe_counted (inputs : List (Option ItemStack)) (width : Nat) :
    Counted ((currentCraftingRecipe inputs width).map (·.1)) := by
  intro made hmade
  obtain ⟨⟨output, consume⟩, hrecipe, rfl⟩ := Option.map_eq_some_iff.mp hmade
  unfold currentCraftingRecipe at hrecipe
  dsimp only at hrecipe
  split at hrecipe
  · obtain ⟨recipe, hfound, houtput⟩ := Option.map_eq_some_iff.mp hrecipe
    cases houtput
    exact recipes_counted recipe (List.mem_of_find?_eq_some hfound)
  · cases hrecipe

theorem recomputeCraftingResult_counted (localSlots : List (Option ItemStack)) (width : Nat) :
    Counted (recomputeCraftingResult localSlots width)[0]?.join := by
  unfold recomputeCraftingResult
  cases localSlots with
  | nil => exact counted_none
  | cons stack rest => exact currentCraftingRecipe_counted _ width

theorem normalizePlayerInventory_counted (hfull : Full inventory) :
    Counted ((normalizePlayerInventory inventory).getSlot (.windowLocal 0)) := by
  have hlength : (recomputeCraftingResult (localsOf inventory) 2).length =
      PLAYER_LOCAL_SLOT_COUNT := by
    rw [recomputeCraftingResult_length, localsOf_length]
  change Counted ((writeLocals inventory 0
    (recomputeCraftingResult (localsOf inventory) 2)).getSlot (.windowLocal 0))
  rw [(getSlot_writeLocals_all hfull hlength).1 0 (by decide)]
  exact recomputeCraftingResult_counted _ 2

theorem applyInventorySlotClick_frame (hfull : Full inventory)
    (h : applyInventorySlotClick inventory cursor slot button = .ok (applied, cursor', inventory')) :
    Full inventory' ∧
      ∀ other, other ≠ slot → inventory'.getSlot other = inventory.getSlot other := by
  by_cases hvalid : slot.Valid
  · unfold applyInventorySlotClick at h
    rw [getSlotMut_valid hfull hvalid] at h
    obtain ⟨⟨applied, cursor', stack⟩, -, happlied⟩ := except_bind_eq_ok.mp h
    cases happlied
    exact ⟨hfull.writeSlot slot stack, fun other hother =>
      (getSlot_writeSlot hfull hvalid stack).trans (if_neg hother)⟩
  · rw [applyInventorySlotClick_invalid hvalid] at h
    cases h
    exact ⟨hfull, fun _ _ => rfl⟩

theorem applyPlayerWindowClick_result (hfull : Full inventory) (hslot : Ordinary Ids.PLAYER slot)
    (hcounted : Counted (inventory.getSlot (.windowLocal 0)))
    (h : applyPlayerWindowClick canonicalContent inventory cursor (some slot) button =
      .ok (applied, cursor', inventory')) :
    Counted (inventory'.getSlot (.windowLocal 0)) := by
  have hne : .windowLocal 0 ≠ slot := by
    rintro rfl
    exact hslot.not_derived (derived_player.mpr rfl)
  obtain ⟨spec, hspec⟩ : ∃ spec, canonicalContent.containerSpec
    canonicalContent.playerContainerKind = some spec := ⟨_, rfl⟩
  cases slot with
  | windowLocal index =>
    obtain ⟨spec', hspec', hbound, hrole⟩ := hslot
    cases hspec'.symm.trans hspec
    unfold applyPlayerWindowClick at h
    rw [hspec] at h
    dsimp only at h
    rw [if_pos hbound, hrole] at h
    obtain ⟨⟨applied, cursor', written⟩, hclick, happlied⟩ := except_bind_eq_ok.mp h
    obtain ⟨hfull', hframe⟩ := applyInventorySlotClick_frame hfull hclick
    cases applied with
    | false =>
      cases happlied
      rw [if_neg Bool.false_ne_true, hframe _ hne]
      exact hcounted
    | true =>
      cases happlied
      exact normalizePlayerInventory_counted hfull'
  | mainInventory index | hotbar index | offhand =>
    rw [applyPlayerWindowClick_plain hspec (by simp)] at h
    rw [(applyInventorySlotClick_frame hfull h).2 _ hne]
    exact hcounted

variable {session session' : PlayerSessionState} {window : OpenInventoryWindow}

theorem normalizeContainer_counted {state : OpenContainerState}
    (h : Counted state.localSlots[0]?.join) :
    Counted (normalizeContainer state).localSlots[0]?.join := by
  by_cases hgrid : state.kind = Ids.CRAFTING_TABLE
  · unfold normalizeContainer
    rw [if_pos hgrid]
    exact recomputeCraftingResult_counted _ 3
  · unfold normalizeContainer
    rw [if_neg hgrid]
    split
    · unfold normalizeFurnace setProperty
      dsimp only
      split_ifs <;> exact h
    · exact h

theorem applyActiveContainerClick_result (hopen : session.activeContainer = some window)
    (hslot : Ordinary window.container.kind slot)
    (hderived : derived window.container.kind (.windowLocal 0))
    (hcounted : Counted window.container.localSlots[0]?.join)
    (h : applyActiveContainerClick canonicalContent session inventory window.windowId (some slot)
      (.slot slot) button = .ok (applied, session', inventory')) :
    ∃ window', session'.activeContainer = some window' ∧ window'.windowId = window.windowId ∧
      Counted window'.container.localSlots[0]?.join := by
  have hne : .windowLocal 0 ≠ slot := by
    rintro rfl
    exact hslot.not_derived hderived
  unfold applyActiveContainerClick at h
  rw [if_neg (by simp), hopen] at h
  dsimp only at h
  rw [if_neg (by simp)] at h
  cases hspec : canonicalContent.containerSpec window.container.kind with
  | none =>
    rw [hspec] at h
    cases h
    exact ⟨window, hopen, rfl, hcounted⟩
  | some spec =>
    rw [hspec] at h
    cases slot with
    | windowLocal index =>
      obtain ⟨spec', hspec', hbound, hrole⟩ := hslot
      cases hspec'.symm.trans hspec
      have hfirst : ¬ index = 0 := by
        rintro rfl
        exact hne rfl
      dsimp only at h
      rw [if_pos hbound] at h
      obtain ⟨⟨applied, cursor', window'⟩, hclick, happlied⟩ := except_bind_eq_ok.mp h
      cases happlied
      refine ⟨window', rfl, ?_⟩
      unfold applyContainerSlotClick at hclick
      rw [hrole] at hclick
      dsimp only at hclick
      cases hat : window.container.localSlots[index]? with
      | none =>
        rw [hat] at hclick
        cases hclick
        exact ⟨rfl, hcounted⟩
      | some stack =>
        rw [hat] at hclick
        obtain ⟨⟨applied, cursor', stack'⟩, -, hput⟩ := except_bind_eq_ok.mp hclick
        have hset : (window.container.localSlots.set index stack')[0]? =
            window.container.localSlots[0]? := List.getElem?_set_ne hfirst
        cases hput
        refine ⟨rfl, ?_⟩
        cases applied with
        | false => exact hset ▸ hcounted
        | true =>
          refine normalizeContainer_counted ?_
          exact hset ▸ hcounted
    | mainInventory index | hotbar index | offhand =>
      obtain ⟨⟨applied, cursor', written⟩, -, happlied⟩ := except_bind_eq_ok.mp h
      cases happlied
      exact ⟨window, rfl, rfl, hcounted⟩

end Result

/-! ### The window -/

section Window

variable {held : PlayerSessionState × PlayerInventory} {windowId : Nat} {kind : ContainerKindId}
  {slot : InventorySlot}

theorem clickHeld_result {button : InventoryClickButton} {applied : Bool}
    {rest : InventoryWindowContents × List (ContainerPropertyKey × Int) × Option ItemStack}
    {held' : PlayerSessionState × PlayerInventory}
    (hopen : activeWindowContainer canonicalContent held.1 windowId = some kind)
    (hfull : Full held.2) (hslot : Ordinary kind slot)
    (hslots : ∀ slot, Counted ((viewOf windowId held).slots slot))
    (hclick : clickHeld canonicalContent windowId (.slot slot) button kind held =
      .ok ((applied, rest), held')) :
    ∀ other, derived kind other → Counted ((viewOf windowId held').slots other) := by
  intro other hderived
  obtain rfl : other = .windowLocal 0 := hderived.2
  unfold activeWindowContainer at hopen
  unfold clickHeld at hclick
  have hresolve : resolveInventoryTarget (.slot slot) = some slot := rfl
  by_cases hplayer : windowId = 0
  · subst hplayer
    rw [if_pos rfl] at hopen hclick
    rw [if_neg (by simp), hresolve] at hclick
    cases hopen
    obtain ⟨⟨applied', cursor', inventory'⟩, happlied, hheld⟩ := except_bind_eq_ok.mp hclick
    cases hheld
    rw [viewOf_player] at hslots ⊢
    exact applyPlayerWindowClick_result hfull hslot (hslots (.windowLocal 0)) happlied
  · rw [if_neg hplayer] at hopen hclick
    rw [hresolve] at hclick
    obtain ⟨window, hwindow, rfl⟩ := Option.map_eq_some_iff.mp hopen
    obtain ⟨hactive, hid⟩ := Option.filter_eq_some_iff.mp hwindow
    have hid' : window.windowId = windowId := by simpa using hid
    subst hid'
    obtain ⟨⟨applied', session', inventory'⟩, happlied, hheld⟩ := except_bind_eq_ok.mp hclick
    cases hheld
    rw [viewOf_container hplayer hactive rfl] at hslots
    obtain ⟨window', hactive', hid', hcounted⟩ := applyActiveContainerClick_result hactive hslot
      hderived (hslots (.windowLocal 0)) happlied
    rw [viewOf_container hplayer hactive' hid']
    exact hcounted

/-- A click on an ordinary slot of a window that is open moves items between the slot and the
    cursor; every other slot keeps its stack, but for the result of a grid. -/
theorem ordinary_click_conserves (button : InventoryClickButton) (hslot : Ordinary kind slot)
    (hopen : activeWindowContainer canonicalContent held.1 windowId = some kind)
    (hfull : Full held.2) (hcursor : Counted held.1.cursor)
    (hslots : ∀ slot, Counted ((viewOf windowId held).slots slot)) :
    ∃ applied window held',
      clickHeld canonicalContent windowId (.slot slot) button kind held =
        .ok ((applied, window), held') ∧
      (∀ item, itemsIn item (ownSlots kind) (viewOf windowId held') =
        itemsIn item (ownSlots kind) (viewOf windowId held)) ∧
      Counted (viewOf windowId held').cursor ∧
      (∀ slot, Counted ((viewOf windowId held').slots slot)) ∧
      KeptBut (derived kind) slot (viewOf windowId held) (viewOf windowId held') := by
  obtain ⟨applied, window, held', hclick, hclicked⟩ :=
    clickHeld_clicked slot button hopen hfull (fitsU8_of_counted hcursor) hslots
  have hresult := clickHeld_result hopen hfull hslot hslots hclick
  have hown : ∀ other ∈ ownSlots kind, ¬ derived kind other := fun other hother =>
    of_decide_eq_true (List.mem_filter.mp hother).2
  refine ⟨applied, window, held', hclick, ?_⟩
  rcases hslot.place (contentsOf windowId held).localSlots with hplace | hplace
  · rw [hplace] at hclicked
    cases hclicked with
    | free hfree hvalue hkept =>
      obtain ⟨hcursor', hslot', hmoved⟩ :=
        applyClickSlotValue_conserves hcursor (hslots slot) hvalue
      refine ⟨fun item => itemsIn_changed (ownSlots_nodup kind) hslot.mem_ownSlots
        (fun other hother hne => hkept other hne (hown other hother)) (hmoved item), hcursor',
        fun other => ?_, hkept⟩
      by_cases hderived : derived kind other
      · exact hresult other hderived
      · by_cases hsame : other = slot
        · exact hsame ▸ hslot'
        · exact hkept other hsame hderived ▸ hslots other
  · rw [hplace] at hclicked
    cases hclicked with
    | closed hkept =>
      obtain ⟨hcursor', hkept⟩ := hkept
      refine ⟨fun item => itemsIn_changed (ownSlots_nodup kind) hslot.mem_ownSlots
        (fun other hother _ => hkept other (hown other hother)) ?_, hcursor' ▸ hcursor,
        fun other => ?_, fun other _ => hkept other⟩
      · rw [hcursor', hkept slot hslot.not_derived]
      · by_cases hderived : derived kind other
        · exact hresult other hderived
        · exact hkept other hderived ▸ hslots other

/-- A player with an oak log on the cursor. -/
def logHeld : PlayerSessionState × PlayerInventory :=
  (⟨⟨1⟩, some (ItemStack.new Catalog.OAK_LOG 1 0), none, 1, ⟨⟨0, 0⟩, 2, ∅⟩, none, none, 0⟩,
    ⟨List.replicate PLAYER_INVENTORY_SLOT_COUNT none, none⟩)

def planks : ItemIdentity := (ItemStack.new Catalog.OAK_PLANKS 1 0).identity

theorem logHeld_empty (slot : InventorySlot) : (viewOf 0 logHeld).slots slot = none := by
  rw [viewOf_player]
  by_cases hvalid : slot.Valid
  · rcases hvalid with rfl | hindexed
    · rfl
    · obtain ⟨index, hindex⟩ := Option.isSome_iff_exists.mp hindexed
      have hat := List.getElem?_replicate (a := (none : Option ItemStack))
        (n := PLAYER_INVENTORY_SLOT_COUNT) (i := index)
      rw [if_pos (InventorySlot.legacyWindowIndex_lt hindex)] at hat
      refine (PlayerInventory.getSlot_of_index hindex).trans ?_
      exact congrArg Option.join hat
  · exact getSlot_invalid hvalid

theorem logHeld_cursor : Counted logHeld.1.cursor := fun _ h => by
  cases h
  decide

theorem first_cell_ordinary : Ordinary Ids.PLAYER (.windowLocal 1) :=
  ⟨_, rfl, by decide, rfl⟩

theorem ordinary_click_conserves_log :
    ∃ applied window held',
      clickHeld canonicalContent 0 (.slot (.windowLocal 1)) .left Ids.PLAYER logHeld =
        .ok ((applied, window), held') ∧
      itemsIn planks (ownSlots Ids.PLAYER) (viewOf 0 held') =
        itemsIn planks (ownSlots Ids.PLAYER) (viewOf 0 logHeld) := by
  obtain ⟨applied, window, held', hclick, hitems, -⟩ :=
    @ordinary_click_conserves logHeld 0 _ _ .left first_cell_ordinary rfl rfl logHeld_cursor
      fun slot => by rw [logHeld_empty]; exact counted_none
  exact ⟨applied, window, held', hclick, hitems planks⟩

/-- A log that is laid in the grid makes four planks appear. -/
theorem laid_log_shows_planks :
    ∃ window held',
      Ordinary Ids.PLAYER (.windowLocal 1) ∧ Full logHeld.2 ∧ Counted logHeld.1.cursor ∧
      (∀ slot, Counted ((viewOf 0 logHeld).slots slot)) ∧
      clickHeld canonicalContent 0 (.slot (.windowLocal 1)) .left Ids.PLAYER logHeld =
        .ok ((true, window), held') ∧
      itemsIn planks (windowSlots Ids.PLAYER) (viewOf 0 logHeld) = 0 ∧
      itemsIn planks (windowSlots Ids.PLAYER) (viewOf 0 held') = 4 := by
  refine ⟨_, _, first_cell_ordinary, rfl, logHeld_cursor, fun slot => ?_, rfl, ?_, ?_⟩
  · rw [logHeld_empty]
    exact counted_none
  · rfl
  · rfl

end Window

end RevyCraft.ClickTotals
