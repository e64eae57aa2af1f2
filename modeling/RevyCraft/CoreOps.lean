/-
  RevyCraft/CoreOps.lean
  ======================
  **The core operations and what they report** (the types of
  `core/canonical.rs`).

  Every change of a core is a `CoreOp`.  Reducing one yields an
  `AppliedCoreOp`, the record from which the outgoing events are built.
-/
import RevyCraft.StateAccess

namespace RevyCraft

inductive CoreOp where
  | prepareLogin (playerId : PlayerId) (player : PlayerSnapshot) (expectedEntityId : EntityId)
  | finalizeLogin (connectionId : ConnectionId) (playerId : PlayerId)
  | setPlayerPose (playerId : PlayerId) (position : Option Vec3) (yaw pitch : Option Float32)
      (onGround : Bool)
  | setSelectedHotbarSlot (playerId : PlayerId) (slot : Nat)
  | setInventorySlot (playerId : PlayerId) (slot : InventorySlot) (stack : Option ItemStack)
  | setViewDistance (playerId : PlayerId) (viewDistance : Nat)
  | inventoryClick (playerId : PlayerId) (transaction : InventoryTransactionContext)
      (target : InventoryClickTarget) (button : InventoryClickButton)
      (validation : InventoryClickValidation)
  | openContainerAt (playerId : PlayerId) (position : BlockPos)
  | openVirtualContainer (playerId : PlayerId) (kind : ContainerKindId)
  | closeContainer (playerId : PlayerId) (windowId : Nat) (includePlayerContents : Bool)
  | clearMining (playerId : PlayerId)
  | beginMining (playerId : PlayerId) (position : BlockPos) (durationMs : Nat)
  | advanceMiningStage (playerId : PlayerId) (entityId : EntityId) (position : BlockPos)
      (stage durationMs : Nat)
  | completeMining (playerId : PlayerId) (position : BlockPos)
  | tickActiveContainer (playerId : PlayerId)
  | tickDroppedItem (entityId : EntityId)
  | requestKeepAlive (playerId : PlayerId)
  | acknowledgeKeepAlive (playerId : PlayerId) (keepAliveId : Int)
  | setBlock (position : BlockPos) (block : Option BlockState)
  | spawnDroppedItem (expectedEntityId : Option EntityId) (position : Vec3) (item : ItemStack)
  | disconnectPlayer (playerId : PlayerId)
  | emitEvent (event : TargetedEvent)

/-! ### Deltas -/

structure ViewUpdateDelta where
  playerId : PlayerId
  chunks : List ChunkColumn

structure PlayerPoseDelta where
  playerId : PlayerId
  entityId : EntityId
  player : PlayerSnapshot
  chunks : List ChunkColumn
  movedForViewers : List PlayerId
  spawnedForViewers : List PlayerId
  despawnedForViewers : List PlayerId
  observedPlayersEntered : List (EntityId × PlayerSnapshot)
  observedItemsEntered : List (EntityId × DroppedItemSnapshot)
  observedEntitiesLeft : List EntityId

structure SelectedHotbarDelta where
  playerId : PlayerId
  slot : Nat

structure InventorySlotDelta where
  playerId : PlayerId
  slot : InventorySlot
  stack : Option ItemStack
  craftingResult : Option (Option ItemStack)

structure MiningProgressDelta where
  breakerEntityId : EntityId
  position : BlockPos
  stage : Option Nat
  durationMs : Nat

structure ClearMiningDelta where
  progress : MiningProgressDelta

structure BeginMiningDelta where
  cleared : Option ClearMiningDelta
  progress : MiningProgressDelta

structure CloseContainerDelta where
  playerId : PlayerId
  windowId : Nat
  contents : Option InventoryWindowContents

structure OpenContainerDelta where
  closed : List CloseContainerDelta
  playerId : PlayerId
  windowId : Nat
  container : ContainerKindId
  title : String
  contents : InventoryWindowContents
  properties : List (ContainerPropertyKey × Int)

structure WindowDiffDelta where
  playerId : PlayerId
  windowId : Nat
  container : ContainerKindId
  beforeContents : InventoryWindowContents
  afterContents : InventoryWindowContents
  beforeProperties : List (ContainerPropertyKey × Int)
  afterProperties : List (ContainerPropertyKey × Int)

structure WorldContainerSyncDelta where
  windowDiffs : List WindowDiffDelta

def WorldContainerSyncDelta.default : WorldContainerSyncDelta := ⟨[]⟩

structure BlockDelta where
  position : BlockPos
  clearedMining : List ClearMiningDelta
  closedContainers : List CloseContainerDelta

structure DroppedItemSpawnDelta where
  entityId : EntityId
  item : DroppedItemSnapshot

structure EntityDespawnDelta where
  entityIds : List EntityId

structure InventoryClickDelta where
  playerId : PlayerId
  transaction : InventoryTransactionContext
  accepted : Bool
  shouldResyncOnReject : Bool
  container : ContainerKindId
  windowId : Nat
  resolvedSlot : Option InventorySlot
  beforeContents : InventoryWindowContents
  afterContents : InventoryWindowContents
  beforeProperties : List (ContainerPropertyKey × Int)
  afterProperties : List (ContainerPropertyKey × Int)
  beforeCursor : Option ItemStack
  afterCursor : Option ItemStack
  selectedHotbarBefore : Nat
  selectedHotbarAfter : Nat
  worldSync : WorldContainerSyncDelta

structure LoginFinalizeDelta where
  connectionId : ConnectionId
  playerId : PlayerId
  entityId : EntityId
  player : PlayerSnapshot
  visibleChunks : List ChunkColumn
  existingPlayers : List (EntityId × PlayerSnapshot)
  droppedItems : List (EntityId × DroppedItemSnapshot)
  newPlayerViewers : List PlayerId

inductive CompleteMiningDelta where
  | cleared (delta : ClearMiningDelta)
  | completed (block : BlockDelta) (spawnedItem : Option DroppedItemSpawnDelta)

structure DroppedItemTickDelta where
  inventoryDelta : Option WindowDiffDelta
  despawn : Option EntityDespawnDelta

structure KeepAliveDelta where
  playerId : PlayerId
  keepAliveId : Int

structure AcknowledgeKeepAliveDelta where
  accepted : Bool

structure DisconnectDelta where
  playerId : PlayerId
  entityId : EntityId
  clearedMining : Option ClearMiningDelta

inductive AppliedCoreOp where
  | prepareLogin (playerId : PlayerId) (entityId : EntityId)
  | finalizeLogin (playerId : PlayerId) (delta : Option LoginFinalizeDelta)
  | setPlayerPose (delta : Option PlayerPoseDelta)
  | setSelectedHotbarSlot (delta : Option SelectedHotbarDelta)
  | setInventorySlot (delta : Option InventorySlotDelta)
  | setViewDistance (delta : Option ViewUpdateDelta)
  | inventoryClick (delta : Option InventoryClickDelta)
  | openContainer (delta : Option OpenContainerDelta)
  | closeContainer (delta : Option CloseContainerDelta)
  | clearMining (delta : Option ClearMiningDelta)
  | beginMining (delta : Option BeginMiningDelta)
  | advanceMiningStage (delta : Option MiningProgressDelta)
  | completeMining (delta : Option CompleteMiningDelta)
  | windowDiff (delta : Option WindowDiffDelta)
  | droppedItemTick (delta : DroppedItemTickDelta)
  | setBlock (delta : BlockDelta)
  | spawnDroppedItem (delta : Option DroppedItemSpawnDelta)
  | keepAliveRequested (delta : Option KeepAliveDelta)
  | acknowledgeKeepAlive (delta : AcknowledgeKeepAliveDelta)
  | disconnectPlayer (delta : Option DisconnectDelta)
  | emitEvent (event : TargetedEvent)

end RevyCraft
