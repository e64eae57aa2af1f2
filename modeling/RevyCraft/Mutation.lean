/-
  RevyCraft/Mutation.lean
  =======================
  **What each operation does to the state** (`core/mutation.rs`,
  `core/mining.rs`, `core/login.rs`, `core/inventory/click.rs` and the state
  functions of `core/tick.rs`).

  `debug_assert` checks are not part of the model.
-/
import RevyCraft.Containers

namespace RevyCraft

open Prog (perform lift filterMap fold)
open RevyCraft.Core

def DROPPED_ITEM_PICKUP_DELAY_MS : Nat := 500
def DROPPED_ITEM_DESPAWN_MS : Nat := 5 * 60 * 1000

variable (C : ContentBehavior)

/-! ### Movement -/

/-- What a player and one of the others could and can see of each other. -/
structure MutualSight where
  otherId : PlayerId
  otherEntityId : EntityId
  otherPlayer : PlayerSnapshot
  viewerSawPlayer : Bool
  viewerSeesPlayer : Bool
  playerSawOther : Bool
  playerSeesOther : Bool

def poseTransform (transform : PlayerTransform) (position : Option Vec3)
    (yaw pitch : Option Float32) (onGround : Bool) : PlayerTransform :=
  { transform with
    position := position.getD transform.position
    yaw := yaw.getD transform.yaw
    pitch := pitch.getD transform.pitch
    onGround := onGround }

/-- One turn of the loop over the other players. -/
def mutualSight (previousPlayer snapshot : PlayerSnapshot) (previousView currentView : ClientView)
    (otherId : PlayerId) : CoreM (Option MutualSight) := do
  let some otherSession ← playerSession otherId | pure none
  let some otherPlayer ← composePlayerSnapshot otherId | pure none
  let previousChunk ← lift previousPlayer.position.chunkPos
  let currentChunk ← lift snapshot.position.chunkPos
  let otherChunk ← lift otherPlayer.position.chunkPos
  pure (some
    { otherId := otherId
      otherEntityId := otherSession.entityId
      otherPlayer := otherPlayer
      viewerSawPlayer := otherSession.view.loadedChunks.contains previousChunk
      viewerSeesPlayer := otherSession.view.loadedChunks.contains currentChunk
      playerSawOther := previousView.loadedChunks.contains otherChunk
      playerSeesOther := currentView.loadedChunks.contains otherChunk })

/-- One turn of the loop over the dropped items: whether the item was and is in view. -/
def itemSight (previousView currentView : ClientView) (entityId : EntityId) :
    CoreM (Option (EntityId × DroppedItemSnapshot × Bool × Bool)) := do
  let some item ← droppedItemByEntity entityId | pure none
  let chunk ← lift item.snapshot.position.chunkPos
  pure (some (entityId, item.snapshot, previousView.loadedChunks.contains chunk,
    currentView.loadedChunks.contains chunk))

def statePlayerPose (playerId : PlayerId) (position : Option Vec3) (yaw pitch : Option Float32)
    (onGround : Bool) : CoreM (Option PlayerPoseDelta) := do
  let some entityId ← playerEntityId playerId | pure none
  let some previousPlayer ← composePlayerSnapshot playerId | pure none
  let some previousSession ← playerSession playerId | pure none
  let previousView := previousSession.view
  let some currentChunk ← playerTransformMut entityId fun transform => do
      let transform := poseTransform transform position yaw pitch onGround
      let chunk ← transform.position.chunkPos
      pure (chunk, transform)
    | pure none
  let some (addedChunks, currentView) ← playerSessionMut playerId fun session =>
      let (delta, view) := session.view.retarget currentChunk session.view.viewDistance
      .ok ((delta.added, view), { session with view := view })
    | pure none
  let some snapshot ← composePlayerSnapshot playerId | pure none
  let otherIds := (← playerIds).filter fun otherId => otherId ≠ playerId
  let sights ← filterMap (mutualSight previousPlayer snapshot previousView currentView) otherIds
  let items ← filterMap (itemSight previousView currentView) (← droppedItemIds)
  let chunks ← Prog.traverse ensureChunk addedChunks
  pure (some
    { playerId := playerId
      entityId := entityId
      player := snapshot
      chunks := chunks
      movedForViewers :=
        (sights.filter fun s => s.viewerSawPlayer && s.viewerSeesPlayer).map (·.otherId)
      spawnedForViewers :=
        (sights.filter fun s => !s.viewerSawPlayer && s.viewerSeesPlayer).map (·.otherId)
      despawnedForViewers :=
        (sights.filter fun s => s.viewerSawPlayer && !s.viewerSeesPlayer).map (·.otherId)
      observedPlayersEntered :=
        ((sights.filter fun s => !s.playerSawOther && s.playerSeesOther).map
          fun s => (s.otherEntityId, s.otherPlayer))
      observedItemsEntered :=
        ((items.filter fun (_, _, saw, sees) => !saw && sees).map
          fun (entityId, item, _) => (entityId, item))
      observedEntitiesLeft :=
        ((sights.filter fun s => s.playerSawOther && !s.playerSeesOther).map (·.otherEntityId) ++
          (items.filter fun (_, _, saw, sees) => saw && !sees).map (·.1)) })

def stateSelectedHotbarSlot (playerId : PlayerId) (slot : Nat) :
    CoreM (Option SelectedHotbarDelta) := do
  let some entityId ← playerEntityId playerId | pure none
  let some written ← playerSelectedHotbarMut entityId fun selected =>
      if slot ≥ HOTBAR_SLOT_COUNT then .ok (false, selected) else .ok (true, slot)
    | pure none
  pure (if written then some ⟨playerId, slot⟩ else none)

def stateInventorySlot (playerId : PlayerId) (slot : InventorySlot) (stack : Option ItemStack) :
    CoreM (Option InventorySlotDelta) := do
  let some entityId ← playerEntityId playerId | pure none
  let some (beforeResult, afterResult) ← playerInventoryMut entityId fun inventory => do
      let beforeResult := inventory.craftingResult
      let (_, inventory) ← inventory.setSlot slot stack
      let inventory := C.normalizePlayerInventory inventory
      pure ((beforeResult, inventory.craftingResult), inventory)
    | pure none
  pure (some
    { playerId := playerId
      slot := slot
      stack := stack
      craftingResult :=
        if beforeResult ≠ afterResult ∧ !slot.isCraftingResult then some afterResult else none })

/-! ### Mining -/

def stateClearActiveMining (playerId : PlayerId) : CoreM (Option ClearMiningDelta) := do
  let some entityId ← playerEntityId playerId | pure none
  let some miningState ← removePlayerActiveMining entityId | pure none
  pure (some ⟨entityId, miningState.position, none, miningState.durationMs⟩)

/-- Whether the player mines at the position. -/
def minesAt (position : BlockPos) (playerId : PlayerId) : CoreM (Option PlayerId) := do
  let mining ← playerActiveMining playerId
  pure (if mining.any fun mining => mining.position = position then some playerId else none)

def stateClearActiveMiningAt (position : BlockPos) : CoreM (List ClearMiningDelta) := do
  let miners ← filterMap (minesAt position) (← playerIds)
  filterMap stateClearActiveMining miners

/-- What `state_begin_mining` returns when the miner has no inventory. -/
def clearedOnly (cleared : Option ClearMiningDelta) : Option BeginMiningDelta :=
  cleared.map fun cleared => ⟨some cleared, cleared.progress⟩

def stateBeginMining (playerId : PlayerId) (position : BlockPos) (durationMs nowMs : Nat) :
    CoreM (Option BeginMiningDelta) := do
  let some entityId ← playerEntityId playerId | pure none
  let mining ← playerActiveMiningByEntity entityId
  if mining.any fun mining => mining.position = position then pure none
  else
    let cleared ← stateClearActiveMining playerId
    let some inventory ← playerInventory playerId | pure (clearedOnly cleared)
    let some selectedHotbarSlot ← playerSelectedHotbar playerId | pure (clearedOnly cleared)
    setPlayerActiveMining entityId (some
      { position := position
        startedAtMs := nowMs
        durationMs := durationMs
        lastStage := some 0
        toolContext := C.toolSpecForItem (inventory.selectedHotbarStack selectedHotbarSlot) })
    pure (some ⟨cleared, entityId, position, some 0, durationMs⟩)

def stateAdvanceMiningStage (playerId : PlayerId) (entityId : EntityId) (position : BlockPos)
    (stage durationMs : Nat) : CoreM (Option MiningProgressDelta) := do
  let currentEntityId ← playerEntityId playerId
  let some advanced ← playerActiveMiningMut entityId fun mining =>
      if currentEntityId ≠ some entityId ∨ mining.position ≠ position ∨
          some stage = mining.lastStage then .ok (false, mining)
      else .ok (true, { mining with lastStage := some stage })
    | pure none
  pure (if advanced then some ⟨entityId, position, some stage, durationMs⟩ else none)

/-! ### Blocks and items -/

def stateSetBlock (position : BlockPos) (block : Option BlockState) : CoreM BlockDelta := do
  let clearedMining ← stateClearActiveMiningAt position
  setBlockState position block
  let closedContainers ← closeWorldContainerIfInvalidState C position block
  match block with
  | some block =>
    match C.defaultBlockEntityForBlock block with
    | some blockEntity => setBlockEntity position (some (.container blockEntity))
    | none => pure ()
  | none => setBlockEntity position none
  pure ⟨position, clearedMining, closedContainers⟩

def stateSpawnDroppedItem (position : Vec3) (item : ItemStack) (nowMs : Nat) :
    CoreM (Option DroppedItemSpawnDelta) := do
  let entityId ← allocateEntityId
  let snapshot : DroppedItemSnapshot := ⟨item, position, ⟨0.0, 0.0, 0.0⟩⟩
  setEntityKind entityId (some .droppedItem)
  setDroppedItem entityId (some
    { snapshot := snapshot
      lastUpdatedAtMs := nowMs
      pickupAllowedAtMs := saturatingAddU64 nowMs DROPPED_ITEM_PICKUP_DELAY_MS
      despawnAtMs := saturatingAddU64 nowMs DROPPED_ITEM_DESPAWN_MS })
  pure (some ⟨entityId, snapshot⟩)

/-- The refusals of `state_complete_survival_mining`. -/
def miningRefused (player : PlayerSnapshot) (position : BlockPos) (current : Option BlockState) :
    CoreM Bool := do
  if !(← canEditBlockForSnapshot player position) then pure true
  else if current.all C.isAirBlock then pure true
  else if current.any C.isUnbreakableBlock then pure true
  else
    let entity ← blockEntity position
    pure (entity.any BlockEntityState.hasInventoryContents)

def stateCompleteSurvivalMining (playerId : PlayerId) (position : BlockPos) (nowMs : Nat) :
    CoreM (Option CompleteMiningDelta) := do
  let some player ← composePlayerSnapshot playerId | pure none
  let some miningState ← playerActiveMining playerId | pure none
  if miningState.position ≠ position then pure none
  else
    let current ← blockState position
    if ← miningRefused C player position current then
      let cleared ← stateClearActiveMining playerId
      pure (cleared.map .cleared)
    else
      let block ← stateSetBlock C position none
      let some current := current | pure none
      let spawnedItem ← match C.survivalDropForBlock current with
        | none => pure none
        | some item =>
          stateSpawnDroppedItem
            ⟨Float.ofInt position.x + 0.5, Float.ofInt position.y + 0.5,
              Float.ofInt position.z + 0.5⟩ item nowMs
      pure (some (.completed block spawnedItem))

/-! ### Login -/

def stateUpdateClientSettings (playerId : PlayerId) (viewDistance : Nat) :
    CoreM (Option ViewUpdateDelta) := do
  let cappedViewDistance := max (min viewDistance (← config).viewDistance) 1
  let some player ← composePlayerSnapshot playerId | pure none
  let some added ← playerSessionMut playerId fun session => do
      let center ← player.position.chunkPos
      let (delta, view) := session.view.retarget center cappedViewDistance
      pure (delta.added, { session with view := view })
    | pure none
  let chunks ← Prog.traverse ensureChunk added
  pure (some ⟨playerId, chunks⟩)

/-- One turn of the loop of `finalize_login_delta`: the other player, whether the new one sees
    it and whether it sees the new one. -/
def loginSight (view : ClientView) (player : PlayerSnapshot) (otherId : PlayerId) :
    CoreM (Option (PlayerId × EntityId × PlayerSnapshot × Bool × Bool)) := do
  let some session ← playerSession otherId | pure none
  let some snapshot ← composePlayerSnapshot otherId | pure none
  let otherChunk ← lift snapshot.position.chunkPos
  let playerChunk ← lift player.position.chunkPos
  pure (some (otherId, session.entityId, snapshot, view.loadedChunks.contains otherChunk,
    session.view.loadedChunks.contains playerChunk))

def loginItem (view : ClientView) (entityId : EntityId) :
    CoreM (Option (EntityId × DroppedItemSnapshot)) := do
  let some item ← droppedItemByEntity entityId | pure none
  let chunk ← lift item.snapshot.position.chunkPos
  pure (if view.loadedChunks.contains chunk then some (entityId, item.snapshot) else none)

def finalizeLoginDelta (connectionId : ConnectionId) (playerId : PlayerId) :
    CoreM (Option LoginFinalizeDelta) := do
  let some player ← composePlayerSnapshot playerId | pure none
  let some session ← playerSession playerId | pure none
  let center ← lift player.position.chunkPos
  let visibleChunks ← initialVisibleChunks center session.view.viewDistance
  let otherIds := (← playerIds).filter fun otherId => otherId ≠ playerId
  let others ← filterMap (loginSight session.view player) otherIds
  let droppedItems ← filterMap (loginItem session.view) (← droppedItemIds)
  pure (some
    { connectionId := connectionId
      playerId := playerId
      entityId := session.entityId
      player := player
      visibleChunks := visibleChunks
      existingPlayers :=
        ((others.filter fun (_, _, _, sees, _) => sees).map
          fun (_, entityId, snapshot, _, _) => (entityId, snapshot))
      droppedItems := droppedItems
      newPlayerViewers :=
        (others.filter fun (_, _, _, _, seen) => seen).map (·.1) })

def defaultPlayer (playerId : PlayerId) (username : String) (spawn : BlockPos)
    (inventory : PlayerInventory) : PlayerSnapshot where
  id := playerId
  username := username
  position := ⟨Float.ofInt spawn.x + 0.5, Float.ofInt spawn.y, Float.ofInt spawn.z + 0.5⟩
  yaw := 0.0
  pitch := 0.0
  onGround := true
  dimension := .overworld
  health := 20.0
  food := 20
  foodSaturation := 5.0
  inventory := inventory
  selectedHotbarSlot := 0

/-! ### Clicks -/

/-- The mutation of a click: whether it was applied, and the window and cursor after it. -/
def clickHeld (windowId : Nat) (target : InventoryClickTarget) (button : InventoryClickButton)
    (container : ContainerKindId) (held : PlayerSessionState × PlayerInventory) :
    Panics ((Bool × InventoryWindowContents × List (ContainerPropertyKey × Int) ×
      Option ItemStack) × PlayerSessionState × PlayerInventory) := do
  let (applied, session, inventory) ←
    if windowId = 0 then
      if target = .outside then
        let (applied, cursor) := applyOutsideClick held.1.cursor button
        .ok (applied, { held.1 with cursor := cursor }, held.2)
      else do
        let (applied, cursor, inventory) ← applyPlayerWindowClick C held.2 held.1.cursor
          (resolveInventoryTarget target) button
        pure (applied, { held.1 with cursor := cursor }, inventory)
    else
      applyActiveContainerClick C held.1 held.2 windowId (resolveInventoryTarget target) target
        button
  let properties := match session.activeContainer.filter fun w => w.windowId = windowId with
    | some window => window.propertyEntries
    | none => []
  pure ((applied, windowContents C session inventory container, properties, session.cursor),
    session, inventory)

def clickAccepted (validation : InventoryClickValidation) (applied : Bool)
    (resolvedSlot : Option InventorySlot) (afterContents : InventoryWindowContents) : Bool :=
  match validation with
  | .authoritative => applied
  | .strictSlotEcho clickedItem =>
    applied && resolvedSlot.isSome && clickedItem = resolvedSlot.bind afterContents.getSlot

def applyInventoryClickState (playerId : PlayerId) (transaction : InventoryTransactionContext)
    (target : InventoryClickTarget) (button : InventoryClickButton)
    (validation : InventoryClickValidation) : CoreM (Option InventoryClickDelta) := do
  let some beforeSession ← playerSession playerId | pure none
  let some beforeSnapshot ← composePlayerSnapshot playerId | pure none
  let some beforeInventory ← playerInventory playerId | pure none
  match activeWindowContainer C beforeSession transaction.windowId with
  | none =>
    pure (some
      { playerId := playerId
        transaction := transaction
        accepted := false
        shouldResyncOnReject := false
        container := C.playerContainerKind
        windowId := transaction.windowId
        resolvedSlot := none
        beforeContents := .player beforeInventory
        afterContents := .player beforeInventory
        beforeProperties := []
        afterProperties := []
        beforeCursor := beforeSession.cursor
        afterCursor := beforeSession.cursor
        selectedHotbarBefore := beforeSnapshot.selectedHotbarSlot
        selectedHotbarAfter := beforeSnapshot.selectedHotbarSlot
        worldSync := .default })
  | some container => do
    let openWindow := beforeSession.activeContainer.filter
      fun window => window.windowId = transaction.windowId
    let resolvedSlot := resolveInventoryTarget target
    let some (applied, afterContents, afterProperties, afterCursor) ←
        playerSessionInventoryMut playerId
          (clickHeld C transaction.windowId target button container)
      | pure none
    let accepted := clickAccepted validation applied resolvedSlot afterContents
    let selectedHotbarSlot ← playerSelectedHotbar playerId
    let worldSync ← match openWindow.bind OpenInventoryWindow.worldPosition with
      | some position =>
        if accepted then syncWorldContainerViewersState C position playerId else pure .default
      | none => pure .default
    pure (some
      { playerId := playerId
        transaction := transaction
        accepted := accepted
        shouldResyncOnReject := true
        container := container
        windowId := transaction.windowId
        resolvedSlot := resolvedSlot
        beforeContents := windowContents C beforeSession beforeInventory container
        afterContents := afterContents
        beforeProperties := (openWindow.map OpenInventoryWindow.propertyEntries).getD []
        afterProperties := afterProperties
        beforeCursor := beforeSession.cursor
        afterCursor := afterCursor
        selectedHotbarBefore := beforeSnapshot.selectedHotbarSlot
        selectedHotbarAfter := selectedHotbarSlot.getD 0
        worldSync := worldSync })

/-! ### Keep-alive and departure -/

def acceptKeepAliveState (playerId : PlayerId) (keepAliveId : Int) :
    CoreM AcknowledgeKeepAliveDelta := do
  let session ← playerSession playerId
  let accepted := session.any fun session => session.pendingKeepAliveId = some keepAliveId
  if accepted then
    let _ ← playerSessionMut playerId fun session =>
      .ok ((), { session with pendingKeepAliveId := none, lastKeepAliveSentAt := none })
  pure ⟨accepted⟩

def scheduleKeepAliveState (playerId : PlayerId) (nowMs : Nat) : CoreM (Option KeepAliveDelta) := do
  let some _ ← playerSession playerId | pure none
  let keepAliveId ← allocateKeepAliveId
  let interval ← keepaliveIntervalMs
  let some _ ← playerSessionMut playerId fun session =>
      .ok ((), { session with
        pendingKeepAliveId := some keepAliveId
        lastKeepAliveSentAt := some nowMs
        nextKeepAliveAt := saturatingAddU64 nowMs interval })
    | pure none
  pure (some ⟨playerId, keepAliveId⟩)

def disconnectPlayerState (playerId : PlayerId) : CoreM (Option DisconnectDelta) := do
  let clearedMining ← stateClearActiveMining playerId
  let some persistedSnapshot ← persistedOnlinePlayerSnapshotState C playerId | pure none
  let some session ← removeOnlinePlayer playerId | pure none
  match session.activeContainer with
    | some window => do
      writebackWorldContainerState C window
      unregisterWorldContainerViewerState window playerId
    | none => pure ()
  setSavedPlayer playerId (some persistedSnapshot)
  pure (some ⟨playerId, session.entityId, clearedMining⟩)

end RevyCraft
