/-
  RevyCraft/InventoryRules.lean
  =============================
  **Stacks, clicks and window contents** (`core/inventory/util.rs`,
  `click.rs`, `sync.rs`): the part of the inventory code that works on values.

  A click returns whether it was applied together with the values it leaves in
  the places it was given.
-/
import RevyCraft.CoreOps

namespace RevyCraft

def MAX_STACK_SIZE : Nat := 64
def u8Max : Nat := 255
def u16Max : Nat := 65535

/-! ### Stacks -/

def decrementCursor : Option ItemStack → Option ItemStack
  | none => none
  | some stack =>
    if stack.count - 1 = 0 then none else some { stack with count := stack.count - 1 }

def stackKeysMatch (left right : ItemStack) : Bool :=
  left.key = right.key && left.damage = right.damage && left.components = right.components &&
    left.extra = right.extra

def persistentSlotOrder : List InventorySlot :=
  (List.range 9).map .hotbar ++ (List.range 27).map .mainInventory ++ [.offhand]

/-- The first loop of `merge_stack_into_player_inventory`: tops up the stacks that match. -/
def fillMatchingStacks : List InventorySlot → PlayerInventory → ItemStack →
    Panics (Option ItemStack × PlayerInventory)
  | [], inventory, stack => .ok (some stack, inventory)
  | slot :: rest, inventory, stack =>
    match inventory.getSlot slot with
    | none => fillMatchingStacks rest inventory stack
    | some existing =>
      if !stackKeysMatch existing stack || existing.count ≥ MAX_STACK_SIZE then
        fillMatchingStacks rest inventory stack
      else do
        let moved := min (MAX_STACK_SIZE - existing.count) stack.count
        let next := { existing with count := min (existing.count + moved) u8Max }
        let (_, inventory) ← inventory.setSlot slot (some next)
        let stack := { stack with count := stack.count - moved }
        if stack.count = 0 then pure (none, inventory)
        else fillMatchingStacks rest inventory stack

/-- The second loop: the first empty slot takes what is left. -/
def placeInEmptySlot : List InventorySlot → PlayerInventory → ItemStack →
    Panics (Option ItemStack × PlayerInventory)
  | [], inventory, stack => .ok (some stack, inventory)
  | slot :: rest, inventory, stack =>
    if (inventory.getSlot slot).isSome then placeInEmptySlot rest inventory stack
    else do
      let (_, inventory) ← inventory.setSlot slot (some stack)
      pure (none, inventory)

def mergeStackIntoPlayerInventory (inventory : PlayerInventory) (stack : ItemStack) :
    Panics (Option ItemStack × PlayerInventory) := do
  let (leftover, inventory) ← fillMatchingStacks persistentSlotOrder inventory stack
  match leftover with
  | none => pure (none, inventory)
  | some stack => placeInEmptySlot persistentSlotOrder inventory stack

def mergeStacks (inventory : PlayerInventory) : List ItemStack → Panics PlayerInventory
  | [] => .ok inventory
  | stack :: rest => do
    let (_, inventory) ← mergeStackIntoPlayerInventory inventory stack
    mergeStacks inventory rest

/-! ### Clicks -/

def applyOutsideClick (cursor : Option ItemStack) (button : InventoryClickButton) :
    Bool × Option ItemStack :=
  match button with
  | .left => (true, none)
  | .right => (true, decrementCursor cursor)

/-- Whether the click was applied, the cursor and the slot after it. -/
def applyLeftClickSlotValue (cursor slotStack : Option ItemStack) :
    Panics (Bool × Option ItemStack × Option ItemStack) :=
  match cursor, slotStack with
  | none, none => .ok (true, none, none)
  | none, some existingStack => .ok (true, some existingStack, none)
  | some cursorStack, none => .ok (true, none, some cursorStack)
  | some cursorStack, some existingStack =>
    if stackKeysMatch cursorStack existingStack then
      let total := cursorStack.count + existingStack.count
      let placed := min total MAX_STACK_SIZE
      let remainder := total - placed
      let nextSlot := { existingStack with count := placed }
      if remainder = 0 then .ok (true, none, some nextSlot)
      else if remainder > u8Max then .error "cursor remainder should fit into u8"
      else .ok (true, some { cursorStack with count := remainder }, some nextSlot)
    else .ok (true, some existingStack, some cursorStack)

def applyRightClickSlotValue (cursor slotStack : Option ItemStack) :
    Bool × Option ItemStack × Option ItemStack :=
  match cursor, slotStack with
  | none, none => (true, none, none)
  | none, some existingStack =>
    let cursorCount := min (existingStack.count + 1) u8Max / 2
    let slotCount := existingStack.count / 2
    (true, some { existingStack with count := cursorCount },
      if slotCount = 0 then none else some { existingStack with count := slotCount })
  | some cursorStack, none =>
    (true, decrementCursor (some cursorStack), some { cursorStack with count := 1 })
  | some cursorStack, some existingStack =>
    if stackKeysMatch cursorStack existingStack && existingStack.count < MAX_STACK_SIZE then
      (true, decrementCursor (some cursorStack),
        some { existingStack with count := min (existingStack.count + 1) u8Max })
    else (false, some cursorStack, some existingStack)

def applyClickSlotValue (button : InventoryClickButton) (cursor slotStack : Option ItemStack) :
    Panics (Bool × Option ItemStack × Option ItemStack) :=
  match button with
  | .left => applyLeftClickSlotValue cursor slotStack
  | .right => .ok (applyRightClickSlotValue cursor slotStack)

def collectPlayerLocalSlots (inventory : PlayerInventory) (localSlotCount : Nat) :
    List (Option ItemStack) :=
  (List.range localSlotCount).map fun index => inventory.getSlot (.windowLocal index)

/-- `store_player_local_slots`, from the given index on. -/
def storePlayerLocalSlots (inventory : PlayerInventory) (index : Nat) :
    List (Option ItemStack) → Panics PlayerInventory
  | [] => .ok inventory
  | stack :: rest => do
    if index > u16Max then .error "player local slot index fits into u16"
    else
      let (_, inventory) ← inventory.setSlot (.windowLocal index) stack
      storePlayerLocalSlots inventory (index + 1) rest

def applyInventorySlotClick (inventory : PlayerInventory) (cursor : Option ItemStack)
    (slot : InventorySlot) (button : InventoryClickButton) :
    Panics (Bool × Option ItemStack × PlayerInventory) :=
  match inventory.getSlotMut slot with
  | none => .ok (false, cursor, inventory)
  | some slotStack => do
    let (applied, cursor, slotStack) ← applyClickSlotValue button cursor slotStack
    pure (applied, cursor, inventory.writeSlot slot slotStack)

section Content

variable (C : ContentBehavior)

def applyPlayerWindowClick (inventory : PlayerInventory) (cursor : Option ItemStack)
    (slot : Option InventorySlot) (button : InventoryClickButton) :
    Panics (Bool × Option ItemStack × PlayerInventory) :=
  match slot, C.containerSpec C.playerContainerKind with
  | none, _ => .ok (false, cursor, inventory)
  | some _, none => .ok (false, cursor, inventory)
  | some (.windowLocal index), some spec =>
    if index < spec.localSlotCount then
      match spec.slotRole index with
      | .unavailable => .ok (false, cursor, inventory)
      | .outputOnly => do
        let localSlots := collectPlayerLocalSlots inventory spec.localSlotCount
        let (applied, localSlots, cursor) :=
          C.tryTakeOutput C.playerContainerKind localSlots cursor button
        if applied then
          let inventory ← storePlayerLocalSlots inventory 0 localSlots
          pure (true, cursor, C.normalizePlayerInventory inventory)
        else pure (false, cursor, inventory)
      | .generic => do
        let (applied, cursor, inventory) ←
          applyInventorySlotClick inventory cursor (.windowLocal index) button
        pure (applied, cursor,
          if applied then C.normalizePlayerInventory inventory else inventory)
    else .ok (false, cursor, inventory)
  | some slot, some _ => applyInventorySlotClick inventory cursor slot button

def applyContainerSlotClick (window : OpenInventoryWindow) (spec : ContainerSpec) (index : Nat)
    (cursor : Option ItemStack) (button : InventoryClickButton) :
    Panics (Bool × Option ItemStack × OpenInventoryWindow) :=
  match spec.slotRole index with
  | .unavailable => .ok (false, cursor, window)
  | .outputOnly =>
    let (applied, localSlots, cursor) :=
      C.tryTakeOutput window.container.kind window.container.localSlots cursor button
    let container := { window.container with localSlots := localSlots }
    .ok (applied, cursor,
      { window with container := if applied then C.normalizeContainer container else container })
  | .generic =>
    match window.container.localSlots[index]? with
    | none => .ok (false, cursor, window)
    | some slotStack => do
      let (applied, cursor, slotStack) ← applyClickSlotValue button cursor slotStack
      let container :=
        { window.container with localSlots := window.container.localSlots.set index slotStack }
      pure (applied, cursor,
        { window with container := if applied then C.normalizeContainer container else container })

def applyActiveContainerClick (session : PlayerSessionState) (inventory : PlayerInventory)
    (windowId : Nat) (slot : Option InventorySlot) (target : InventoryClickTarget)
    (button : InventoryClickButton) : Panics (Bool × PlayerSessionState × PlayerInventory) :=
  if target = .outside then
    let (applied, cursor) := applyOutsideClick session.cursor button
    .ok (applied, { session with cursor := cursor }, inventory)
  else
    match slot, session.activeContainer with
    | none, _ => .ok (false, session, inventory)
    | some _, none => .ok (false, session, inventory)
    | some slot, some window =>
      if window.windowId ≠ windowId then .ok (false, session, inventory)
      else
        match C.containerSpec window.container.kind with
        | none => .ok (false, session, inventory)
        | some spec =>
          match slot with
          | .windowLocal index =>
            if index < spec.localSlotCount then do
              let (applied, cursor, window) ←
                applyContainerSlotClick C window spec index session.cursor button
              pure (applied, { session with cursor := cursor, activeContainer := some window },
                inventory)
            else .ok (false, session, inventory)
          | slot => do
            let (applied, cursor, inventory) ←
              applyInventorySlotClick inventory session.cursor slot button
            pure (applied, { session with cursor := cursor }, inventory)

/-! ### Windows -/

def activeWindowContainer (session : PlayerSessionState) (windowId : Nat) :
    Option ContainerKindId :=
  if windowId = 0 then some C.playerContainerKind
  else (session.activeContainer.filter fun window => window.windowId = windowId).map
    fun window => window.container.kind

def windowContents (session : PlayerSessionState) (inventory : PlayerInventory)
    (container : ContainerKindId) : InventoryWindowContents :=
  if container = C.playerContainerKind then .player inventory
  else
    match session.activeContainer.filter fun window => window.container.kind = container with
    | some window => window.contents inventory
    | none => ⟨inventory, []⟩

end Content

def resolveInventoryTarget : InventoryClickTarget → Option InventorySlot
  | .slot slot => some slot
  | .outside => none
  | .unsupported => none

section Events

variable (C : ContentBehavior)

def visibleSlots (container : ContainerKindId) : List InventorySlot :=
  (match C.containerSpec container with
    | some spec => (List.range spec.localSlotCount).map .windowLocal
    | none => []) ++
  (List.range 27).map .mainInventory ++ (List.range 9).map .hotbar ++
  (if container = C.playerContainerKind then [.offhand] else [])

def inventoryDiffEvents (windowId : Nat) (container : ContainerKindId) (playerId : PlayerId)
    (before after : InventoryWindowContents) : List TargetedEvent :=
  (visibleSlots C container).filterMap fun slot =>
    if before.getSlot slot ≠ after.getSlot slot then
      some ⟨.player playerId, .inventorySlotChanged windowId container slot (after.getSlot slot)⟩
    else none

def propertyEvents (windowId : Nat) (playerId : PlayerId)
    (entries : List (ContainerPropertyKey × Int)) : List TargetedEvent :=
  entries.map fun (property, value) =>
    ⟨.player playerId, .containerPropertyChanged windowId property value⟩

def propertyDiffEvents (windowId : Nat) (playerId : PlayerId)
    (before after : List (ContainerPropertyKey × Int)) : List TargetedEvent :=
  after.filterMap fun (property, value) =>
    let beforeValue := (before.find? fun entry => entry.1 = property).map (·.2)
    if beforeValue ≠ some value then
      some ⟨.player playerId, .containerPropertyChanged windowId property value⟩
    else none

def windowResyncEvents (playerId : PlayerId) (windowId : Nat) (container : ContainerKindId)
    (contents : InventoryWindowContents) (selectedHotbarSlot : Nat) (cursor : Option ItemStack)
    (slot : Option InventorySlot) : List TargetedEvent :=
  [⟨.player playerId, .inventoryContents windowId container contents⟩] ++
  (match slot with
    | some slot =>
      [⟨.player playerId, .inventorySlotChanged windowId container slot (contents.getSlot slot)⟩]
    | none => []) ++
  (if container = C.playerContainerKind then
    [⟨.player playerId, .selectedHotbarSlotChanged selectedHotbarSlot⟩] else []) ++
  [⟨.player playerId, .cursorChanged cursor⟩]

end Events

end RevyCraft
