/-
  RevyCraft/Canonical.lean
  ========================
  **Reducing operations and building their events** (`core/canonical.rs`).

  `reduceCoreOp` is generic over the state, so it is a program; `applyCoreOps`
  runs it on a core and turns every applied operation into events at once,
  before the next operation is reduced.
-/
import RevyCraft.Mutation

namespace RevyCraft

open Std
open RevyCraft.Core

variable (C : ContentBehavior)

/-! ### Reducing -/

def closeContainerState (playerId : PlayerId) (windowId : Nat) (includePlayerContents : Bool) :
    CoreM (Option CloseContainerDelta) := do
  if windowId = 0 then closePlayerActiveContainerState C playerId includePlayerContents
  else if includePlayerContents then closeInventoryWindowState C playerId windowId
  else
    let active ← activeWindowId playerId
    if active = some windowId then closePlayerActiveContainerState C playerId false
    else pure none

/-- `reduce_core_op`.  A prepared login takes effect only for a player among
    `materializedPlayers`. -/
def reduceCoreOp (op : CoreOp) (nowMs : Nat) (materializedPlayers : BTreeSet PlayerId) :
    CoreM AppliedCoreOp :=
  match op with
  | .prepareLogin playerId player expectedEntityId => do
    if materializedPlayers.contains playerId then
      let _ ← spawnOnlinePlayer player nowMs (some expectedEntityId)
    pure (.prepareLogin playerId expectedEntityId)
  | .finalizeLogin connectionId playerId => do
    pure (.finalizeLogin playerId (← finalizeLoginDelta connectionId playerId))
  | .setPlayerPose playerId position yaw pitch onGround => do
    pure (.setPlayerPose (← statePlayerPose playerId position yaw pitch onGround))
  | .setSelectedHotbarSlot playerId slot => do
    pure (.setSelectedHotbarSlot (← stateSelectedHotbarSlot playerId slot))
  | .setInventorySlot playerId slot stack => do
    pure (.setInventorySlot (← stateInventorySlot C playerId slot stack))
  | .setViewDistance playerId viewDistance => do
    pure (.setViewDistance (← stateUpdateClientSettings playerId viewDistance))
  | .inventoryClick playerId transaction target button validation => do
    pure (.inventoryClick
      (← applyInventoryClickState C playerId transaction target button validation))
  | .openContainerAt playerId position => do
    pure (.openContainer (← openWorldContainerState C playerId position))
  | .openVirtualContainer playerId kind => do
    pure (.openContainer (← openVirtualContainerState C playerId kind))
  | .closeContainer playerId windowId includePlayerContents => do
    pure (.closeContainer (← closeContainerState C playerId windowId includePlayerContents))
  | .clearMining playerId => do
    pure (.clearMining (← stateClearActiveMining playerId))
  | .beginMining playerId position durationMs => do
    pure (.beginMining (← stateBeginMining C playerId position durationMs nowMs))
  | .advanceMiningStage playerId entityId position stage durationMs => do
    pure (.advanceMiningStage
      (← stateAdvanceMiningStage playerId entityId position stage durationMs))
  | .completeMining playerId position => do
    pure (.completeMining (← stateCompleteSurvivalMining C playerId position nowMs))
  | .tickActiveContainer playerId => do
    pure (.windowDiff (← tickActiveContainerState C playerId))
  | .tickDroppedItem entityId => do
    pure (.droppedItemTick (← tickDroppedItemState C entityId nowMs))
  | .requestKeepAlive playerId => do
    pure (.keepAliveRequested (← scheduleKeepAliveState playerId nowMs))
  | .acknowledgeKeepAlive playerId keepAliveId => do
    pure (.acknowledgeKeepAlive (← acceptKeepAliveState playerId keepAliveId))
  | .setBlock position block => do
    pure (.setBlock (← stateSetBlock C position block))
  | .spawnDroppedItem _ position item => do
    pure (.spawnDroppedItem (← stateSpawnDroppedItem position item nowMs))
  | .disconnectPlayer playerId => do
    pure (.disconnectPlayer (← disconnectPlayerState C playerId))
  | .emitEvent event => pure (.emitEvent event)

/-! ### Events -/

def loginInitialEvents (core : ServerCore) (connectionId : ConnectionId) (playerId : PlayerId)
    (entityId : EntityId) (player : PlayerSnapshot) (visibleChunks : List ChunkColumn) :
    List TargetedEvent :=
  [⟨.connection connectionId, .loginAccepted playerId entityId player⟩,
    ⟨.connection connectionId, .playBootstrap player entityId core.world.worldMeta
      core.world.config.viewDistance⟩,
    ⟨.connection connectionId, .chunkBatch visibleChunks⟩,
    ⟨.connection connectionId,
      .inventoryContents 0 C.playerContainerKind (.player player.inventory)⟩,
    ⟨.connection connectionId, .selectedHotbarSlotChanged player.selectedHotbarSlot⟩]

def existingPlayerSpawnEvents (connectionId : ConnectionId)
    (existingPlayers : List (EntityId × PlayerSnapshot)) : List TargetedEvent :=
  existingPlayers.map fun (entityId, player) =>
    ⟨.connection connectionId, .entitySpawned entityId player⟩

/-- One event for every session that has the chunk of the position loaded. -/
def viewerEvents (core : ServerCore) (position : BlockPos) (event : CoreEvent) :
    List TargetedEvent :=
  (core.sessions.playerSessions.toList.filter fun (_, session) =>
    session.view.loadedChunks.contains position.chunkPos).map
      fun (playerId, _) => ⟨.player playerId, event⟩

def everySessionEvents (core : ServerCore) (event : CoreEvent) : List TargetedEvent :=
  core.sessions.playerSessions.keys.map fun playerId => ⟨.player playerId, event⟩

def blockChangeEvents (core : ServerCore) (position : BlockPos) : List TargetedEvent :=
  viewerEvents core position (.blockChanged position (core.blockAt C position))

def droppedItemSpawnEvents (core : ServerCore) (entityId : EntityId)
    (item : DroppedItemSnapshot) : List TargetedEvent :=
  everySessionEvents core (.droppedItemSpawned entityId item)

def blockBreakProgressEvents (core : ServerCore) (delta : MiningProgressDelta) :
    List TargetedEvent :=
  viewerEvents core delta.position
    (.blockBreakingProgress delta.breakerEntityId delta.position delta.stage delta.durationMs)

def buildFinalizeLogin (core : ServerCore) (delta : LoginFinalizeDelta) : List TargetedEvent :=
  loginInitialEvents C core delta.connectionId delta.playerId delta.entityId delta.player
      delta.visibleChunks ++
    existingPlayerSpawnEvents delta.connectionId delta.existingPlayers ++
    delta.droppedItems.map (fun (entityId, item) =>
      ⟨.connection delta.connectionId, .droppedItemSpawned entityId item⟩) ++
    delta.newPlayerViewers.map (fun viewer =>
      ⟨.player viewer, .entitySpawned delta.entityId delta.player⟩)

def buildPlayerPose (delta : PlayerPoseDelta) : List TargetedEvent :=
  delta.chunks.map (fun chunk => ⟨.player delta.playerId, .chunkBatch [chunk]⟩) ++
    delta.movedForViewers.map (fun viewer =>
      ⟨.player viewer, .entityMoved delta.entityId delta.player⟩) ++
    delta.spawnedForViewers.map (fun viewer =>
      ⟨.player viewer, .entitySpawned delta.entityId delta.player⟩) ++
    delta.despawnedForViewers.map (fun viewer =>
      ⟨.player viewer, .entityDespawned [delta.entityId]⟩) ++
    delta.observedPlayersEntered.map (fun (entityId, player) =>
      ⟨.player delta.playerId, .entitySpawned entityId player⟩) ++
    delta.observedItemsEntered.map (fun (entityId, item) =>
      ⟨.player delta.playerId, .droppedItemSpawned entityId item⟩) ++
    (if delta.observedEntitiesLeft.isEmpty then []
      else [⟨.player delta.playerId, .entityDespawned delta.observedEntitiesLeft⟩])

def buildSelectedHotbar (delta : SelectedHotbarDelta) : List TargetedEvent :=
  [⟨.player delta.playerId, .selectedHotbarSlotChanged delta.slot⟩]

def buildInventorySlot (delta : InventorySlotDelta) : List TargetedEvent :=
  ⟨.player delta.playerId,
      .inventorySlotChanged 0 C.playerContainerKind delta.slot delta.stack⟩ ::
    (delta.craftingResult.toList.map fun craftingResult =>
      ⟨.player delta.playerId,
        .inventorySlotChanged 0 C.playerContainerKind .craftingResult craftingResult⟩)

def buildViewUpdate (delta : ViewUpdateDelta) : List TargetedEvent :=
  delta.chunks.map fun chunk => ⟨.player delta.playerId, .chunkBatch [chunk]⟩

def buildWindowDiff (delta : WindowDiffDelta) : List TargetedEvent :=
  inventoryDiffEvents C delta.windowId delta.container delta.playerId delta.beforeContents
      delta.afterContents ++
    propertyDiffEvents delta.windowId delta.playerId delta.beforeProperties delta.afterProperties

def buildInventoryClick (delta : InventoryClickDelta) : List TargetedEvent :=
  ⟨.player delta.playerId, .inventoryTransactionProcessed delta.transaction delta.accepted⟩ ::
    if !delta.accepted then
      if !delta.shouldResyncOnReject then []
      else
        windowResyncEvents C delta.playerId delta.windowId delta.container delta.afterContents
            delta.selectedHotbarAfter delta.afterCursor delta.resolvedSlot ++
          propertyDiffEvents delta.windowId delta.playerId delta.beforeProperties
            delta.afterProperties
    else
      inventoryDiffEvents C delta.windowId delta.container delta.playerId delta.beforeContents
          delta.afterContents ++
        propertyDiffEvents delta.windowId delta.playerId delta.beforeProperties
          delta.afterProperties ++
        (if delta.beforeCursor ≠ delta.afterCursor then
          [⟨.player delta.playerId, .cursorChanged delta.afterCursor⟩] else []) ++
        (if delta.container = C.playerContainerKind ∧
            delta.selectedHotbarBefore ≠ delta.selectedHotbarAfter then
          [⟨.player delta.playerId, .selectedHotbarSlotChanged delta.selectedHotbarAfter⟩]
          else []) ++
        delta.worldSync.windowDiffs.flatMap (buildWindowDiff C)

def buildCloseContainer (delta : CloseContainerDelta) : List TargetedEvent :=
  ⟨.player delta.playerId, .containerClosed delta.windowId⟩ ::
    (delta.contents.toList.map fun contents =>
      ⟨.player delta.playerId, .inventoryContents 0 C.playerContainerKind contents⟩)

def buildOpenContainer (delta : OpenContainerDelta) : List TargetedEvent :=
  delta.closed.flatMap (buildCloseContainer C) ++
    [⟨.player delta.playerId, .containerOpened delta.windowId delta.container delta.title⟩,
      ⟨.player delta.playerId, .inventoryContents delta.windowId delta.container delta.contents⟩] ++
    propertyEvents delta.windowId delta.playerId delta.properties

def buildClearMining (core : ServerCore) (delta : ClearMiningDelta) : List TargetedEvent :=
  blockBreakProgressEvents core delta.progress

def buildBeginMining (core : ServerCore) (delta : BeginMiningDelta) : List TargetedEvent :=
  delta.cleared.toList.flatMap (buildClearMining core) ++
    blockBreakProgressEvents core delta.progress

def buildSetBlock (core : ServerCore) (delta : BlockDelta) : List TargetedEvent :=
  delta.clearedMining.flatMap (buildClearMining core) ++
    delta.closedContainers.flatMap (buildCloseContainer C) ++
    blockChangeEvents C core delta.position

def buildDroppedItemSpawn (core : ServerCore) (delta : DroppedItemSpawnDelta) :
    List TargetedEvent := droppedItemSpawnEvents core delta.entityId delta.item

def buildEntityDespawn (core : ServerCore) (delta : EntityDespawnDelta) : List TargetedEvent :=
  everySessionEvents core (.entityDespawned delta.entityIds)

def buildCompleteMining (core : ServerCore) : CompleteMiningDelta → List TargetedEvent
  | .cleared delta => buildClearMining core delta
  | .completed block spawnedItem =>
    buildSetBlock C core block ++ spawnedItem.toList.flatMap (buildDroppedItemSpawn core)

def buildDroppedItemTick (core : ServerCore) (delta : DroppedItemTickDelta) :
    List TargetedEvent :=
  delta.inventoryDelta.toList.flatMap (buildWindowDiff C) ++
    delta.despawn.toList.flatMap (buildEntityDespawn core)

def buildKeepAlive (delta : KeepAliveDelta) : List TargetedEvent :=
  [⟨.player delta.playerId, .keepAliveRequested delta.keepAliveId⟩]

def buildDisconnect (core : ServerCore) (delta : DisconnectDelta) : List TargetedEvent :=
  delta.clearedMining.toList.flatMap (buildClearMining core) ++
    [⟨.everyoneExcept delta.playerId, .entityDespawned [delta.entityId]⟩]

/-- The events of an applied operation, before hidden players are filtered out. -/
def buildApplied (core : ServerCore) : AppliedCoreOp → List TargetedEvent
  | .prepareLogin _ _ => []
  | .finalizeLogin _ delta => delta.toList.flatMap (buildFinalizeLogin C core)
  | .setPlayerPose delta => delta.toList.flatMap buildPlayerPose
  | .setSelectedHotbarSlot delta => delta.toList.flatMap buildSelectedHotbar
  | .setInventorySlot delta => delta.toList.flatMap (buildInventorySlot C)
  | .setViewDistance delta => delta.toList.flatMap buildViewUpdate
  | .inventoryClick delta => delta.toList.flatMap (buildInventoryClick C)
  | .openContainer delta => delta.toList.flatMap (buildOpenContainer C)
  | .closeContainer delta => delta.toList.flatMap (buildCloseContainer C)
  | .clearMining delta => delta.toList.flatMap (buildClearMining core)
  | .beginMining delta => delta.toList.flatMap (buildBeginMining core)
  | .advanceMiningStage delta => delta.toList.flatMap (blockBreakProgressEvents core)
  | .completeMining delta => delta.toList.flatMap (buildCompleteMining C core)
  | .windowDiff delta => delta.toList.flatMap (buildWindowDiff C)
  | .droppedItemTick delta => buildDroppedItemTick C core delta
  | .setBlock delta => buildSetBlock C core delta
  | .spawnDroppedItem delta => delta.toList.flatMap (buildDroppedItemSpawn core)
  | .keepAliveRequested delta => delta.toList.flatMap buildKeepAlive
  | .acknowledgeKeepAlive _ => []
  | .disconnectPlayer delta => delta.toList.flatMap (buildDisconnect core)
  | .emitEvent event => [event]

/-! ### The event builder -/

structure CoreEventBuilder where
  hiddenPlayers : BTreeSet PlayerId
  hiddenPlayerEntities : BTreeMap PlayerId EntityId

namespace CoreEventBuilder

def new (hiddenPlayers : BTreeSet PlayerId) : CoreEventBuilder := ⟨hiddenPlayers, ∅⟩

/-- A prepared player is hidden until its login is finalized. -/
def observe (builder : CoreEventBuilder) : AppliedCoreOp → CoreEventBuilder
  | .prepareLogin playerId entityId =>
    { hiddenPlayers := builder.hiddenPlayers.insert playerId
      hiddenPlayerEntities := builder.hiddenPlayerEntities.insert playerId entityId }
  | .finalizeLogin playerId _ =>
    { hiddenPlayers := builder.hiddenPlayers.erase playerId
      hiddenPlayerEntities := builder.hiddenPlayerEntities.erase playerId }
  | _ => builder

def sanitizeHiddenEvent (builder : CoreEventBuilder) (hiddenEntities : BTreeSet EntityId)
    (targeted : TargetedEvent) : Option TargetedEvent :=
  let hiddenTarget := match targeted.target with
    | .player playerId => builder.hiddenPlayers.contains playerId
    | .everyoneExcept playerId => builder.hiddenPlayers.contains playerId
    | .connection _ => false
  if hiddenTarget then none
  else
    match targeted.event with
    | .entityMoved entityId _ => if hiddenEntities.contains entityId then none else some targeted
    | .entitySpawned entityId _ => if hiddenEntities.contains entityId then none else some targeted
    | .blockBreakingProgress breakerEntityId _ _ _ =>
      if hiddenEntities.contains breakerEntityId then none else some targeted
    | .entityDespawned entityIds =>
      let entityIds := entityIds.filter fun entityId => !hiddenEntities.contains entityId
      if entityIds.isEmpty then none
      else some { targeted with event := .entityDespawned entityIds }
    | _ => some targeted

def hiddenEntities (builder : CoreEventBuilder) (core : ServerCore) : BTreeSet EntityId :=
  ExtTreeSet.ofList (builder.hiddenPlayerEntities.values ++
    builder.hiddenPlayers.toList.filterMap fun playerId =>
      core.entities.playersByPlayerId[playerId]?) compare

def filterHiddenEvents (builder : CoreEventBuilder) (core : ServerCore)
    (events : List TargetedEvent) : List TargetedEvent :=
  events.filterMap (builder.sanitizeHiddenEvent (builder.hiddenEntities core))

def build (builder : CoreEventBuilder) (core : ServerCore) (applied : AppliedCoreOp) :
    List TargetedEvent × CoreEventBuilder :=
  let builder := builder.observe applied
  (builder.filterHiddenEvents core (buildApplied C core applied), builder)

end CoreEventBuilder

/-! ### Applying -/

def finalizedPlayersOf (ops : List CoreOp) : BTreeSet PlayerId :=
  ExtTreeSet.ofList (ops.filterMap fun op =>
    match op with
    | .finalizeLogin _ playerId => some playerId
    | _ => none) compare

/-- The loop of `apply_core_ops`. -/
def applyOpsFrom (nowMs : Nat) (finalizedPlayers : BTreeSet PlayerId) :
    List CoreOp → CoreEventBuilder → ServerCore → Panics (List TargetedEvent × ServerCore)
  | [], _, core => .ok ([], core)
  | op :: rest, builder, core => do
    let (applied, core) ← (reduceCoreOp C op nowMs finalizedPlayers).run (baseState C) core
    let (events, builder) := builder.build C core applied
    let (later, core) ← applyOpsFrom nowMs finalizedPlayers rest builder core
    pure (events ++ later, core)

/-- `apply_core_ops` with `ApplyCoreOpsOptions::default()`, as every caller has it. -/
def applyCoreOps (core : ServerCore) (ops : List CoreOp) (nowMs : Nat) :
    Panics (List TargetedEvent × ServerCore) :=
  applyOpsFrom C nowMs (finalizedPlayersOf ops) ops (.new ∅) core

end RevyCraft
