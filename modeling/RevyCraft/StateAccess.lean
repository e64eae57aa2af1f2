/-
  RevyCraft/StateAccess.lean
  ==========================
  **Calling the state interface** (`core/state_backend.rs`): the methods of
  the traits as programs, the provided methods of `CoreStateRead`, and the
  block geometry they use.
-/
import RevyCraft.StateBackend

namespace RevyCraft

open Std
open Prog (perform lift filterMap fold)

namespace Core

/-! ### Required methods -/

def config : CoreM CoreConfig := perform (S := CoreState) .config
def worldMeta : CoreM WorldMeta := perform (S := CoreState) .worldMeta

def blockState (position : BlockPos) : CoreM (Option BlockState) :=
  perform (S := CoreState) (.blockState position)
def blockEntity (position : BlockPos) : CoreM (Option BlockEntityState) :=
  perform (S := CoreState) (.blockEntity position)
def savedPlayer (playerId : PlayerId) : CoreM (Option PlayerSnapshot) :=
  perform (S := CoreState) (.savedPlayer playerId)
def playerEntityId (playerId : PlayerId) : CoreM (Option EntityId) :=
  perform (S := CoreState) (.playerEntityId playerId)
def playerSession (playerId : PlayerId) : CoreM (Option PlayerSessionState) :=
  perform (S := CoreState) (.playerSession playerId)
def playerIdentityByEntity (entityId : EntityId) : CoreM (Option PlayerIdentity) :=
  perform (S := CoreState) (.playerIdentityByEntity entityId)
def playerTransformByEntity (entityId : EntityId) : CoreM (Option PlayerTransform) :=
  perform (S := CoreState) (.playerTransformByEntity entityId)
def playerVitalsByEntity (entityId : EntityId) : CoreM (Option PlayerVitals) :=
  perform (S := CoreState) (.playerVitalsByEntity entityId)
def playerInventoryByEntity (entityId : EntityId) : CoreM (Option PlayerInventory) :=
  perform (S := CoreState) (.playerInventoryByEntity entityId)
def playerSelectedHotbarByEntity (entityId : EntityId) : CoreM (Option Nat) :=
  perform (S := CoreState) (.playerSelectedHotbarByEntity entityId)
def playerActiveMiningByEntity (entityId : EntityId) : CoreM (Option ActiveMiningState) :=
  perform (S := CoreState) (.playerActiveMiningByEntity entityId)
def droppedItemByEntity (entityId : EntityId) : CoreM (Option DroppedItemState) :=
  perform (S := CoreState) (.droppedItemByEntity entityId)
def playerIds : CoreM (List PlayerId) := perform (S := CoreState) .playerIds
def playerEntityIds : CoreM (BTreeSet EntityId) := perform (S := CoreState) .playerEntityIds
def droppedItemIds : CoreM (List EntityId) := perform (S := CoreState) .droppedItemIds
def containerViewers (position : BlockPos) : CoreM (Option WorldContainerViewers) :=
  perform (S := CoreState) (.containerViewers position)
def keepaliveIntervalMs : CoreM Nat := perform (S := CoreState) .keepaliveIntervalMs

def ensureChunk (chunkPos : ChunkPos) : CoreM ChunkColumn :=
  perform (S := CoreState) (.ensureChunk chunkPos)
def setBlockState (position : BlockPos) (block : Option BlockState) : CoreM Unit :=
  perform (S := CoreState) (.setBlockState position block)
def setBlockEntity (position : BlockPos) (blockEntity : Option BlockEntityState) : CoreM Unit :=
  perform (S := CoreState) (.setBlockEntity position blockEntity)
/-- What an edit through a mutable reference leaves behind; after a panic nothing reads it. -/
def committed {α V : Type} (edit : V → Panics (α × V)) (value : V) : V :=
  match edit value with
  | .ok (_, after) => after
  | .error _ => value

/-- What the holder of the reference returns, or `None` without a reference. -/
def answer {α V : Type} (edit : V → Panics (α × V)) : Option V → CoreM (Option α)
  | none => pure none
  | some value => do
    let (a, _) ← lift (edit value)
    pure (some a)

section Mut

variable {α : Type}

def playerSessionMut (playerId : PlayerId)
    (edit : PlayerSessionState → Panics (α × PlayerSessionState)) : CoreM (Option α) := do
  answer edit (← perform (S := CoreState) (.playerSessionMut playerId (committed edit)))

def playerSessionInventoryMut (playerId : PlayerId)
    (edit : PlayerSessionState × PlayerInventory → Panics (α × PlayerSessionState × PlayerInventory)) :
    CoreM (Option α) := do
  answer edit (← perform (S := CoreState) (.playerSessionInventoryMut playerId (committed edit)))

def playerTransformMut (entityId : EntityId)
    (edit : PlayerTransform → Panics (α × PlayerTransform)) : CoreM (Option α) := do
  answer edit (← perform (S := CoreState) (.playerTransformMut entityId (committed edit)))

def playerInventoryMut (entityId : EntityId)
    (edit : PlayerInventory → Panics (α × PlayerInventory)) : CoreM (Option α) := do
  answer edit (← perform (S := CoreState) (.playerInventoryMut entityId (committed edit)))

def playerSelectedHotbarMut (entityId : EntityId) (edit : Nat → Panics (α × Nat)) :
    CoreM (Option α) := do
  answer edit (← perform (S := CoreState) (.playerSelectedHotbarMut entityId (committed edit)))

def playerActiveMiningMut (entityId : EntityId)
    (edit : ActiveMiningState → Panics (α × ActiveMiningState)) : CoreM (Option α) := do
  answer edit (← perform (S := CoreState) (.playerActiveMiningMut entityId (committed edit)))

end Mut

def removePlayerActiveMining (entityId : EntityId) : CoreM (Option ActiveMiningState) :=
  perform (S := CoreState) (.removePlayerActiveMining entityId)
def setPlayerActiveMining (entityId : EntityId) (state : Option ActiveMiningState) : CoreM Unit :=
  perform (S := CoreState) (.setPlayerActiveMining entityId state)
def allocateEntityId : CoreM EntityId := perform (S := CoreState) .allocateEntityId
def allocateKeepAliveId : CoreM Int := perform (S := CoreState) .allocateKeepAliveId
def setEntityKind (entityId : EntityId) (kind : Option EntityKind) : CoreM Unit :=
  perform (S := CoreState) (.setEntityKind entityId kind)
def setDroppedItem (entityId : EntityId) (item : Option DroppedItemState) : CoreM Unit :=
  perform (S := CoreState) (.setDroppedItem entityId item)
def takeDroppedItem (entityId : EntityId) : CoreM (Option DroppedItemState) :=
  perform (S := CoreState) (.takeDroppedItem entityId)
def setSavedPlayer (playerId : PlayerId) (snapshot : Option PlayerSnapshot) : CoreM Unit :=
  perform (S := CoreState) (.setSavedPlayer playerId snapshot)
def setContainerViewers (position : BlockPos) (viewers : Option WorldContainerViewers) :
    CoreM Unit :=
  perform (S := CoreState) (.setContainerViewers position viewers)
def removeOnlinePlayer (playerId : PlayerId) : CoreM (Option PlayerSessionState) :=
  perform (S := CoreState) (.removeOnlinePlayer playerId)

/-- `spawn_online_player`; finding the player's chunk may panic. -/
def spawnOnlinePlayer (player : PlayerSnapshot) (nowMs : Nat)
    (expectedEntityId : Option EntityId) : CoreM EntityId := do
  let center ← lift player.position.chunkPos
  perform (S := CoreState) (.spawnOnlinePlayer player center nowMs expectedEntityId)

/-! ### Provided methods -/

def composePlayerSnapshotByEntity (entityId : EntityId) : CoreM (Option PlayerSnapshot) := do
  let some identity ← playerIdentityByEntity entityId | pure none
  let some transform ← playerTransformByEntity entityId | pure none
  let some vitals ← playerVitalsByEntity entityId | pure none
  let some inventory ← playerInventoryByEntity entityId | pure none
  let some selectedHotbarSlot ← playerSelectedHotbarByEntity entityId | pure none
  pure (some
    { id := identity.playerId
      username := identity.username
      position := transform.position
      yaw := transform.yaw
      pitch := transform.pitch
      onGround := transform.onGround
      dimension := transform.dimension
      health := vitals.health
      food := vitals.food
      foodSaturation := vitals.foodSaturation
      inventory := inventory
      selectedHotbarSlot := selectedHotbarSlot })

def composePlayerSnapshot (playerId : PlayerId) : CoreM (Option PlayerSnapshot) := do
  let some entityId ← playerEntityId playerId | pure none
  composePlayerSnapshotByEntity entityId

def playerInventory (playerId : PlayerId) : CoreM (Option PlayerInventory) := do
  let some entityId ← playerEntityId playerId | pure none
  playerInventoryByEntity entityId

def playerSelectedHotbar (playerId : PlayerId) : CoreM (Option Nat) := do
  let some entityId ← playerEntityId playerId | pure none
  playerSelectedHotbarByEntity entityId

def playerTransform (playerId : PlayerId) : CoreM (Option PlayerTransform) := do
  let some entityId ← playerEntityId playerId | pure none
  playerTransformByEntity entityId

def playerActiveMining (playerId : PlayerId) : CoreM (Option ActiveMiningState) := do
  let some entityId ← playerEntityId playerId | pure none
  playerActiveMiningByEntity entityId

def onlinePlayerCount : CoreM Nat := do
  pure (← playerIds).length

end Core

/-! ### Geometry -/

def distanceSquaredToBlockCenter (position : Vec3) (block : BlockPos) : Float :=
  let eyeX := position.x
  let eyeY := position.y + 1.62
  let eyeZ := position.z
  let centerX := Float.ofInt block.x + 0.5
  let centerY := Float.ofInt block.y + 0.5
  let centerZ := Float.ofInt block.z + 0.5
  let dx := eyeX - centerX
  let dy := eyeY - centerY
  let dz := eyeZ - centerZ
  dx * dx + dy * dy + dz * dz

def blockIntersectsPlayer (block : BlockPos) (player : PlayerTransform) : Bool :=
  let halfWidth := PLAYER_WIDTH / 2.0
  let playerMinX := player.position.x - halfWidth
  let playerMaxX := player.position.x + halfWidth
  let playerMinY := player.position.y
  let playerMaxY := player.position.y + PLAYER_HEIGHT
  let playerMinZ := player.position.z - halfWidth
  let playerMaxZ := player.position.z + halfWidth
  let blockMinX := Float.ofInt block.x
  let blockMaxX := blockMinX + 1.0
  let blockMinY := Float.ofInt block.y
  let blockMaxY := blockMinY + 1.0
  let blockMinZ := Float.ofInt block.z
  let blockMaxZ := blockMinZ + 1.0
  playerMinX < blockMaxX && playerMaxX > blockMinX && playerMinY < blockMaxY &&
    playerMaxY > blockMinY && playerMinZ < blockMaxZ && playerMaxZ > blockMinZ

namespace Core

/-- Whether any of the entities is a player that stands in the block. -/
def anyPlayerIntersects (position : BlockPos) : List EntityId → CoreM Bool
  | [] => pure false
  | entityId :: rest => do
    let transform ← playerTransformByEntity entityId
    if transform.any (blockIntersectsPlayer position) then pure true
    else anyPlayerIntersects position rest

def canEditBlockForSnapshot (actor : PlayerSnapshot) (position : BlockPos) : CoreM Bool := do
  if ¬ (0 ≤ position.y ∧ position.y ≤ 255) then pure false
  else if distanceSquaredToBlockCenter actor.position position >
      BLOCK_EDIT_REACH * BLOCK_EDIT_REACH then pure false
  else do
    let entityIds ← playerEntityIds
    let intersects ← anyPlayerIntersects position entityIds.toList
    pure !intersects

def initialVisibleChunks (center : ChunkPos) (viewDistance : Nat) : CoreM (List ChunkColumn) :=
  Prog.traverse ensureChunk (requiredChunks center viewDistance).toList

end Core

end RevyCraft
