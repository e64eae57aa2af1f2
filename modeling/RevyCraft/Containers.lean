/-
  RevyCraft/Containers.lean
  =========================
  **Open containers and dropped items** (`core/inventory/lifecycle.rs`): how
  windows are opened, synchronised between their viewers, written back to the
  block entity and closed, and how a dropped item moves and is picked up.
-/
import RevyCraft.InventoryRules

namespace RevyCraft

open Prog (perform lift filterMap fold)
open RevyCraft.Core

def DROPPED_ITEM_PICKUP_RADIUS_SQUARED : Float := 1.5 * 1.5
def DROPPED_ITEM_PHYSICS_STEP_MS : Nat := 50
def DROPPED_ITEM_GRAVITY_PER_STEP : Float := 0.04
def DROPPED_ITEM_DRAG : Float := 0.98
def DROPPED_ITEM_REST_HEIGHT : Float := 0.25

variable (C : ContentBehavior)

/-! ### Folding a window into the player's inventory -/

/-- The loop of `fold_active_container_items_into_player`, from the given index on. -/
def foldContainerStacks (spec : Option ContainerSpec) (index : Nat) :
    List (Option ItemStack) → PlayerInventory → Panics PlayerInventory
  | [], inventory => .ok inventory
  | none :: rest, inventory => foldContainerStacks spec (index + 1) rest inventory
  | some stack :: rest, inventory => do
    if spec.isSome ∧ index > u16Max then .error "local slot index fits"
    else if spec.any fun spec => spec.slotRole index = .outputOnly && index = 0 then
      foldContainerStacks spec (index + 1) rest inventory
    else
      let (_, inventory) ← mergeStackIntoPlayerInventory inventory stack
      foldContainerStacks spec (index + 1) rest inventory

def foldActiveContainerItemsIntoPlayer (inventory : PlayerInventory)
    (window : OpenInventoryWindow) : Panics PlayerInventory :=
  match window.container.binding with
  | .block _ _ => .ok inventory
  | .virtual =>
    foldContainerStacks (C.containerSpec window.container.kind) 0 window.container.localSlots
      inventory

def closeActiveContainerWindow (held : PlayerSessionState × PlayerInventory) :
    Panics (Option OpenInventoryWindow × PlayerSessionState × PlayerInventory) :=
  match held.1.activeContainer with
  | none => .ok (none, held)
  | some window => do
    let inventory ← foldActiveContainerItemsIntoPlayer C held.2 window
    pure (some window, { held.1 with activeContainer := none }, inventory)

/-- Empties the local slots of a player's inventory and returns what they held. -/
def drainLocalSlots : List Nat → PlayerInventory → Panics (List ItemStack × PlayerInventory)
  | [], inventory => .ok ([], inventory)
  | index :: rest, inventory => do
    let stack := inventory.getSlot (.windowLocal index)
    let (_, inventory) ← inventory.setSlot (.windowLocal index) none
    let (overflow, inventory) ← drainLocalSlots rest inventory
    pure (stack.toList ++ overflow, inventory)

def persistLivePlayerState (snapshot : PlayerSnapshot) (cursor : Option ItemStack)
    (activeContainer : Option OpenInventoryWindow) : Panics PlayerSnapshot := do
  let inventory ← match activeContainer with
    | some window => foldActiveContainerItemsIntoPlayer C snapshot.inventory window
    | none => .ok snapshot.inventory
  let inventory ← match C.containerSpec C.playerContainerKind with
    | some spec => do
      let (overflow, inventory) ← drainLocalSlots (List.range spec.localSlotCount) inventory
      mergeStacks inventory (overflow ++ cursor.toList)
    | none => .ok inventory
  pure { snapshot with inventory := C.normalizePlayerInventory inventory }

def persistedOnlinePlayerSnapshotState (playerId : PlayerId) : CoreM (Option PlayerSnapshot) := do
  let some snapshot ← composePlayerSnapshot playerId | pure none
  let some session ← playerSession playerId | pure none
  let persisted ← lift (persistLivePlayerState C snapshot session.cursor session.activeContainer)
  pure (some persisted)

/-! ### Viewers of a world container -/

def registerWorldContainerViewerState (position : BlockPos) (playerId : PlayerId)
    (windowId : Nat) (kind : ContainerKindId) : CoreM Unit := do
  let entry := (← containerViewers position).getD ⟨kind, ∅⟩
  setContainerViewers position (some { entry with viewers := entry.viewers.insert playerId windowId })

def unregisterWorldContainerViewerAtState (position : BlockPos) (playerId : PlayerId) :
    CoreM Unit := do
  let some entry ← containerViewers position | pure ()
  let viewers := entry.viewers.erase playerId
  setContainerViewers position
    (if viewers.isEmpty then none else some { entry with viewers := viewers })

def unregisterWorldContainerViewerState (window : OpenInventoryWindow) (playerId : PlayerId) :
    CoreM Unit :=
  match window.worldPosition with
  | some position => unregisterWorldContainerViewerAtState position playerId
  | none => pure ()

def writebackWorldContainerState (window : OpenInventoryWindow) : CoreM Unit :=
  match window.worldBlockEntity with
  | none => pure ()
  | some (position, blockEntity) => do
    let some block ← blockState position | pure ()
    if C.containerKindForBlock block ≠ some window.container.kind then pure ()
    else setBlockEntity position (some (.container blockEntity))

/-! ### Closing -/

def closePlayerActiveContainerState (playerId : PlayerId) (includePlayerContents : Bool) :
    CoreM (Option CloseContainerDelta) := do
  let some (some window) ← playerSessionInventoryMut playerId (closeActiveContainerWindow C)
    | pure none
  let contents ←
    if includePlayerContents then do
      let inventory ← playerInventory playerId
      pure (some (InventoryWindowContents.player (inventory.getD .newEmpty)))
    else pure none
  writebackWorldContainerState C window
  unregisterWorldContainerViewerState window playerId
  pure (some ⟨playerId, window.windowId, contents⟩)

def activeWindowId (playerId : PlayerId) : CoreM (Option Nat) := do
  let session ← playerSession playerId
  pure (session.bind fun session => session.activeContainer.map fun window => window.windowId)

def closeInventoryWindowState (playerId : PlayerId) (windowId : Nat) :
    CoreM (Option CloseContainerDelta) := do
  if windowId = 0 then pure none
  else
    let some active ← activeWindowId playerId | pure none
    if active ≠ windowId then pure none
    else closePlayerActiveContainerState C playerId true

def closeWorldContainerViewersState (position : BlockPos) : CoreM (List CloseContainerDelta) := do
  let viewerIds := match ← containerViewers position with
    | some viewers => viewers.viewers.keys
    | none => []
  let deltas ← filterMap (fun viewerId => closePlayerActiveContainerState C viewerId true) viewerIds
  setContainerViewers position none
  pure deltas

def closeWorldContainerIfInvalidState (position : BlockPos) (block : Option BlockState) :
    CoreM (List CloseContainerDelta) := do
  let currentKind := block.bind C.containerKindForBlock
  let expectedBlockEntityKind := currentKind.bind C.blockEntityKindForContainer
  let entity ← blockEntity position
  if entity.any fun entity => some entity.containerState.kind ≠ expectedBlockEntityKind then
    setBlockEntity position none
  let some viewers ← containerViewers position | pure []
  if currentKind = some viewers.kind then pure []
  else closeWorldContainerViewersState C position

/-! ### Synchronising the viewers -/

/-- One turn of the loop of `sync_world_container_viewers_state`: `none` for a stale viewer. -/
def syncViewer (position : BlockPos) (source : OpenContainerState) (viewerId : PlayerId) :
    CoreM (Option WindowDiffDelta) := do
  let some beforeInventory ← playerInventory viewerId | pure none
  let some beforeSession ← playerSession viewerId | pure none
  let some beforeWindow := beforeSession.activeContainer | pure none
  if beforeWindow.worldPosition ≠ some position ∨ beforeWindow.container.kind ≠ source.kind then
    pure none
  else
    let delta ← playerSessionMut viewerId fun session =>
      match session.activeContainer with
      | none => .ok (none, session)
      | some window =>
        if window.worldPosition ≠ some position ∨ window.container.kind ≠ source.kind then
          .ok (none, session)
        else
          let window := { window with
            container.localSlots := source.localSlots, container.properties := source.properties }
          .ok (some
            { playerId := viewerId
              windowId := window.windowId
              container := source.kind
              beforeContents := beforeWindow.contents beforeInventory
              afterContents := window.contents beforeInventory
              beforeProperties := beforeWindow.propertyEntries
              afterProperties := window.propertyEntries },
            { session with activeContainer := some window })
    pure delta.join

def syncWorldContainerViewersState (position : BlockPos) (actorPlayerId : PlayerId) :
    CoreM WorldContainerSyncDelta := do
  let session ← playerSession actorPlayerId
  let some sourceWindow := (session.bind fun session => session.activeContainer).filter
      fun window => window.worldPosition = some position
    | pure .default
  writebackWorldContainerState C sourceWindow
  let some viewers ← containerViewers position | pure .default
  let others := viewers.viewers.keys.filter fun viewerId => viewerId ≠ actorPlayerId
  let outcomes ← Prog.traverse (fun viewerId => do
    let delta ← syncViewer position sourceWindow.container viewerId
    pure (viewerId, delta)) others
  let stale := (outcomes.filter fun outcome => outcome.2.isNone).map (·.1)
  let _ ← Prog.traverse (unregisterWorldContainerViewerAtState position) stale
  pure ⟨outcomes.filterMap (·.2)⟩

def tickActiveContainerState (playerId : PlayerId) : CoreM (Option WindowDiffDelta) := do
  let some beforeSession ← playerSession playerId | pure none
  let some beforeWindow := beforeSession.activeContainer | pure none
  let some beforeInventory ← playerInventory playerId | pure none
  let some (some (afterContents, afterProperties)) ←
      playerSessionInventoryMut playerId fun (session, inventory) =>
        match session.activeContainer with
        | none => .ok (none, session, inventory)
        | some window =>
          let window := { window with container := C.tickContainer window.container }
          .ok (some (window.contents inventory, window.propertyEntries),
            { session with activeContainer := some window }, inventory)
    | pure none
  let session ← playerSession playerId
  match session.bind fun session => session.activeContainer with
    | some window =>
      if window.worldPosition.isSome then writebackWorldContainerState C window else pure ()
    | none => pure ()
  if beforeWindow.contents beforeInventory = afterContents ∧
      beforeWindow.propertyEntries = afterProperties then pure none
  else
    match beforeWindow.worldPosition with
      | some position => do let _ ← syncWorldContainerViewersState C position playerId
      | none => pure ()
    pure (some
      { playerId := playerId
        windowId := beforeWindow.windowId
        container := beforeWindow.container.kind
        beforeContents := beforeWindow.contents beforeInventory
        afterContents := afterContents
        beforeProperties := beforeWindow.propertyEntries
        afterProperties := afterProperties })

/-! ### Opening -/

def allocateNonPlayerWindowId (playerId : PlayerId) : CoreM (Option Nat) :=
  playerSessionMut playerId fun session =>
    let windowId := max session.nextNonPlayerWindowId 1
    .ok (windowId,
      { session with nextNonPlayerWindowId := if windowId = u8Max then 1 else windowId + 1 })

def defaultContainerContents (kind : ContainerKindId) (localSlotCount : Nat) :
    List (Option ItemStack) × BTreeMap ContainerPropertyKey Int :=
  match (C.blockEntityKindForContainer kind).bind C.defaultBlockEntityForKind with
  | some blockEntity => (blockEntity.slots, blockEntity.properties)
  | none => (List.replicate localSlotCount none, ∅)

def buildVirtualContainerState (kind : ContainerKindId) : Option OpenContainerState :=
  (C.containerSpec kind).map fun spec =>
    let (localSlots, properties) := defaultContainerContents C kind spec.localSlotCount
    ⟨kind, .virtual, localSlots, properties⟩

def buildWorldContainerState (position : BlockPos) (kind : ContainerKindId) :
    CoreM (Option OpenContainerState) := do
  let some spec := C.containerSpec kind | pure none
  match C.blockEntityKindForContainer kind with
  | none => pure (some ⟨kind, .virtual, List.replicate spec.localSlotCount none, ∅⟩)
  | some blockEntityKind => do
    let entity ← Core.blockEntity position
    let stored := (entity.map BlockEntityState.containerState).filter
      fun entity => entity.kind = blockEntityKind
    let some entity := stored.or (C.defaultBlockEntityForKind blockEntityKind) | pure none
    setBlockEntity position (some (.container entity))
    pure (some ⟨kind, .block position blockEntityKind, entity.slots, entity.properties⟩)

def openNonPlayerWindowState (playerId : PlayerId) (window : OpenInventoryWindow)
    (title : String) : CoreM (Option OpenContainerDelta) := do
  let some _ ← playerSession playerId | pure none
  let window := { window with container := C.normalizeContainer window.container }
  let closed ← closePlayerActiveContainerState C playerId false
  let some entityId ← playerEntityId playerId | pure none
  let some inventory ← playerInventoryByEntity entityId | pure none
  let some _ ← playerSessionMut playerId fun session =>
      .ok ((), { session with activeContainer := some window })
    | pure none
  match window.worldPosition with
    | some position =>
      registerWorldContainerViewerState position playerId window.windowId window.container.kind
    | none => pure ()
  pure (some
    { closed := closed.toList
      playerId := playerId
      windowId := window.windowId
      container := window.container.kind
      title := title
      contents := window.contents inventory
      properties := window.propertyEntries })

def openVirtualContainerState (playerId : PlayerId) (kind : ContainerKindId) :
    CoreM (Option OpenContainerDelta) := do
  let some windowId ← allocateNonPlayerWindowId playerId | pure none
  let some container := buildVirtualContainerState C kind | pure none
  let window : OpenInventoryWindow := ⟨windowId, C.normalizeContainer container⟩
  openNonPlayerWindowState C playerId window (C.containerTitle window.container.kind)

def openWorldContainerState (playerId : PlayerId) (position : BlockPos) :
    CoreM (Option OpenContainerDelta) := do
  let some block ← blockState position | pure none
  let some kind := C.containerKindForBlock block | pure none
  let some windowId ← allocateNonPlayerWindowId playerId | pure none
  let some container ← buildWorldContainerState C position kind | pure none
  let window : OpenInventoryWindow := ⟨windowId, C.normalizeContainer container⟩
  openNonPlayerWindowState C playerId window (C.containerTitle window.container.kind)

/-! ### Dropped items -/

def distanceSquared (left right : Vec3) : Float :=
  let dx := left.x - right.x
  let dy := left.y - right.y
  let dz := left.z - right.z
  dx * dx + dy * dy + dz * dz

/-- Looks for ground from a height downwards. -/
def restYFrom (blockX blockZ : Int) : Nat → CoreM (Option Float)
  | 0 => do
    let block ← blockState ⟨blockX, 0, blockZ⟩
    if block.all C.isAirBlock then pure none
    else pure (some (Float.ofInt 0 + 1.0 + DROPPED_ITEM_REST_HEIGHT))
  | blockY + 1 => do
    let block ← blockState ⟨blockX, blockY + 1, blockZ⟩
    if block.all C.isAirBlock then restYFrom blockX blockZ blockY
    else pure (some (Float.ofInt (blockY + 1) + 1.0 + DROPPED_ITEM_REST_HEIGHT))

def droppedItemRestY (x y z : Float) : CoreM (Option Float) :=
  restYFrom C (floorAsI32 x) (floorAsI32 z) (max 0 (min (floorAsI32 y) 255)).toNat

def advanceDroppedItemStep (item : DroppedItemState) : CoreM DroppedItemState := do
  let nextVelocityY :=
    (item.snapshot.velocity.y - DROPPED_ITEM_GRAVITY_PER_STEP) * DROPPED_ITEM_DRAG
  let nextY := item.snapshot.position.y + nextVelocityY
  let restY ← droppedItemRestY C item.snapshot.position.x nextY item.snapshot.position.z
  match restY with
  | some restY =>
    if nextY ≤ restY then
      pure { item with snapshot.position.y := restY, snapshot.velocity.y := 0.0 }
    else
      pure { item with snapshot.position.y := nextY, snapshot.velocity.y := nextVelocityY }
  | none => pure { item with snapshot.position.y := nextY, snapshot.velocity.y := nextVelocityY }

def advanceDroppedItemSteps : Nat → DroppedItemState → CoreM DroppedItemState
  | 0, item => pure item
  | steps + 1, item => do
    let item ← advanceDroppedItemStep C item
    advanceDroppedItemSteps steps item

def advanceDroppedItemEntity (item : DroppedItemState) (nowMs : Nat) : CoreM DroppedItemState := do
  let stepCount := (nowMs - item.lastUpdatedAtMs) / DROPPED_ITEM_PHYSICS_STEP_MS
  if stepCount = 0 then pure item
  else
    let item ← advanceDroppedItemSteps C stepCount item
    let elapsed := min (stepCount * DROPPED_ITEM_PHYSICS_STEP_MS) u64Max
    pure { item with lastUpdatedAtMs := saturatingAddU64 item.lastUpdatedAtMs elapsed }

def nearestPickupPlayerIn (position : Vec3) : CoreM (Option PlayerId) := do
  let best ← fold (fun (best : Option (PlayerId × Float)) playerId => do
    let some transform ← playerTransform playerId | pure best
    let distance := distanceSquared transform.position position
    if distance > DROPPED_ITEM_PICKUP_RADIUS_SQUARED then pure best
    else if best.any fun (_, bestDistance) => distance ≥ bestDistance then pure best
    else pure (some (playerId, distance))) none (← playerIds)
  pure (best.map (·.1))

/-- What a player's current window shows. -/
def shownContents (session : PlayerSessionState) (inventory : PlayerInventory) :
    InventoryWindowContents :=
  match session.activeContainer with
  | some window => window.contents inventory
  | none => .player inventory

def mergeStackIntoOnlinePlayerInventoryState (playerId : PlayerId) (stack : ItemStack) :
    CoreM (Option WindowDiffDelta × Option ItemStack) := do
  let some beforeSession ← playerSession playerId | pure (none, some stack)
  let some beforeInventory ← playerInventory playerId | pure (none, some stack)
  let (windowId, container) := match beforeSession.activeContainer with
    | some window => (window.windowId, window.container.kind)
    | none => (0, C.playerContainerKind)
  let some entityId ← playerEntityId playerId | pure (none, some stack)
  let some leftover ← playerInventoryMut entityId fun inventory =>
      mergeStackIntoPlayerInventory inventory stack
    | pure (none, some stack)
  let some afterSession ← playerSession playerId | pure (none, leftover)
  let some afterInventory ← playerInventory playerId | pure (none, leftover)
  pure (some
    { playerId := playerId
      windowId := windowId
      container := container
      beforeContents := shownContents beforeSession beforeInventory
      afterContents := shownContents afterSession afterInventory
      beforeProperties := []
      afterProperties := [] }, leftover)

def tickDroppedItemState (entityId : EntityId) (nowMs : Nat) : CoreM DroppedItemTickDelta := do
  let some item ← takeDroppedItem entityId | pure ⟨none, none⟩
  let item ← advanceDroppedItemEntity C item nowMs
  if nowMs ≥ item.despawnAtMs then
    setEntityKind entityId none
    pure ⟨none, some ⟨[entityId]⟩⟩
  else if nowMs < item.pickupAllowedAtMs then
    setDroppedItem entityId (some item)
    pure ⟨none, none⟩
  else
    match ← nearestPickupPlayerIn item.snapshot.position with
    | none => do
      setDroppedItem entityId (some item)
      pure ⟨none, none⟩
    | some playerId => do
      let (inventoryDelta, leftover) ←
        mergeStackIntoOnlinePlayerInventoryState C playerId item.snapshot.item
      match leftover with
      | some leftover => do
        setDroppedItem entityId (some { item with snapshot.item := leftover })
        pure ⟨inventoryDelta, none⟩
      | none => do
        setEntityKind entityId none
        pure ⟨inventoryDelta, some ⟨[entityId]⟩⟩

end RevyCraft
