/-
  RevyCraft/StateBackend.lean
  ===========================
  **The state interface and its two implementations**
  (`core/state_backend.rs`, `core/world.rs`).

  `baseState` works on the maps of a core in place; `overlayState` leaves the
  core alone and records every change, with `none` for a removed entry, in a
  `TxOverlay`.
-/
import RevyCraft.CoreState

namespace RevyCraft

open Std

/-! ### The interface -/

/-- The methods of `CoreStateRead` and `CoreStateMut`.  A method that returns a mutable reference
    takes what is done through the reference and returns the value it found. -/
inductive StateOp where
  | config
  | worldMeta
  | blockState (position : BlockPos)
  | blockEntity (position : BlockPos)
  | savedPlayer (playerId : PlayerId)
  | playerEntityId (playerId : PlayerId)
  | playerSession (playerId : PlayerId)
  | playerIdentityByEntity (entityId : EntityId)
  | playerTransformByEntity (entityId : EntityId)
  | playerVitalsByEntity (entityId : EntityId)
  | playerInventoryByEntity (entityId : EntityId)
  | playerSelectedHotbarByEntity (entityId : EntityId)
  | playerActiveMiningByEntity (entityId : EntityId)
  | droppedItemByEntity (entityId : EntityId)
  | playerIds
  | playerEntityIds
  | droppedItemIds
  | containerViewers (position : BlockPos)
  | keepaliveIntervalMs
  | ensureChunk (chunkPos : ChunkPos)
  | setBlockState (position : BlockPos) (block : Option BlockState)
  | setBlockEntity (position : BlockPos) (blockEntity : Option BlockEntityState)
  | playerSessionMut (playerId : PlayerId) (edit : PlayerSessionState → PlayerSessionState)
  | playerSessionInventoryMut (playerId : PlayerId)
      (edit : PlayerSessionState × PlayerInventory → PlayerSessionState × PlayerInventory)
  | playerTransformMut (entityId : EntityId) (edit : PlayerTransform → PlayerTransform)
  | playerInventoryMut (entityId : EntityId) (edit : PlayerInventory → PlayerInventory)
  | playerSelectedHotbarMut (entityId : EntityId) (edit : Nat → Nat)
  | playerActiveMiningMut (entityId : EntityId) (edit : ActiveMiningState → ActiveMiningState)
  | removePlayerActiveMining (entityId : EntityId)
  | setPlayerActiveMining (entityId : EntityId) (state : Option ActiveMiningState)
  | allocateEntityId
  | allocateKeepAliveId
  | setEntityKind (entityId : EntityId) (kind : Option EntityKind)
  | setDroppedItem (entityId : EntityId) (item : Option DroppedItemState)
  | takeDroppedItem (entityId : EntityId)
  | setSavedPlayer (playerId : PlayerId) (snapshot : Option PlayerSnapshot)
  | setContainerViewers (position : BlockPos) (viewers : Option WorldContainerViewers)
  | spawnOnlinePlayer (player : PlayerSnapshot) (center : ChunkPos) (nowMs : Nat)
      (expectedEntityId : Option EntityId)
  | removeOnlinePlayer (playerId : PlayerId)

/-- What each method returns. -/
@[reducible] def StateOp.Res : StateOp → Type
  | .config => CoreConfig
  | .worldMeta => WorldMeta
  | .blockState _ => Option BlockState
  | .blockEntity _ => Option BlockEntityState
  | .savedPlayer _ => Option PlayerSnapshot
  | .playerEntityId _ => Option EntityId
  | .playerSession _ => Option PlayerSessionState
  | .playerIdentityByEntity _ => Option PlayerIdentity
  | .playerTransformByEntity _ => Option PlayerTransform
  | .playerVitalsByEntity _ => Option PlayerVitals
  | .playerInventoryByEntity _ => Option PlayerInventory
  | .playerSelectedHotbarByEntity _ => Option Nat
  | .playerActiveMiningByEntity _ => Option ActiveMiningState
  | .droppedItemByEntity _ => Option DroppedItemState
  | .playerIds => List PlayerId
  | .playerEntityIds => BTreeSet EntityId
  | .droppedItemIds => List EntityId
  | .containerViewers _ => Option WorldContainerViewers
  | .keepaliveIntervalMs => Nat
  | .ensureChunk _ => ChunkColumn
  | .playerSessionMut _ _ => Option PlayerSessionState
  | .playerSessionInventoryMut _ _ => Option (PlayerSessionState × PlayerInventory)
  | .playerTransformMut _ _ => Option PlayerTransform
  | .playerInventoryMut _ _ => Option PlayerInventory
  | .playerSelectedHotbarMut _ _ => Option Nat
  | .playerActiveMiningMut _ _ => Option ActiveMiningState
  | .removePlayerActiveMining _ => Option ActiveMiningState
  | .allocateEntityId => EntityId
  | .allocateKeepAliveId => Int
  | .takeDroppedItem _ => Option DroppedItemState
  | .spawnOnlinePlayer _ _ _ _ => EntityId
  | .removeOnlinePlayer _ => Option PlayerSessionState
  | .setBlockState _ _ => Unit
  | .setBlockEntity _ _ => Unit
  | .setPlayerActiveMining _ _ => Unit
  | .setEntityKind _ _ => Unit
  | .setDroppedItem _ _ => Unit
  | .setSavedPlayer _ _ => Unit
  | .setContainerViewers _ _ => Unit

def CoreState : Interface := ⟨StateOp, StateOp.Res⟩

/-- A function generic over `impl CoreStateMut`. -/
abbrev CoreM (α : Type) : Type := Prog CoreState α

/-! ### Parts shared by both implementations -/

/-- `apply_optional_entry`. -/
def applyOptionalEntry {K V : Type} [Ord K] [TransOrd K] (map : BTreeMap K V) (key : K)
    (value : Option V) : BTreeMap K V :=
  match value with
  | some value => map.insert key value
  | none => map.erase key

/-- A map after an edit through `get_mut`. -/
def edited {K V : Type} [Ord K] [TransOrd K] (map : BTreeMap K V) (key : K) (edit : V → V) :
    BTreeMap K V :=
  match map[key]? with
  | none => map
  | some value => map.insert key (edit value)

def playerIdentityOf (player : PlayerSnapshot) : PlayerIdentity := ⟨player.id, player.username⟩

def playerTransformOf (player : PlayerSnapshot) : PlayerTransform :=
  ⟨player.position, player.yaw, player.pitch, player.onGround, player.dimension⟩

def playerVitalsOf (player : PlayerSnapshot) : PlayerVitals :=
  ⟨player.health, player.food, player.foodSaturation⟩

/-- The session of a player that just came online. -/
def newSession (entityId : EntityId) (view : ClientView) (nextKeepAliveAt : Nat) :
    PlayerSessionState where
  entityId := entityId
  cursor := none
  activeContainer := none
  nextNonPlayerWindowId := 1
  view := view
  pendingKeepAliveId := none
  lastKeepAliveSentAt := none
  nextKeepAliveAt := nextKeepAliveAt

section Base

variable (C : ContentBehavior)

namespace ServerCore

/-- The stored chunk, or the generated one. -/
def chunkAt (core : ServerCore) (chunkPos : ChunkPos) : ChunkColumn :=
  (core.world.chunks[chunkPos]?).getD (C.generateChunk core.world.worldMeta chunkPos)

def blockAt (core : ServerCore) (position : BlockPos) : Option BlockState :=
  (core.chunkAt C position.chunkPos).getBlock (localBlockX position) position.y
    (localBlockZ position)

/-- Stores a generated chunk where there is none. -/
def ensureChunk (core : ServerCore) (chunkPos : ChunkPos) : ServerCore :=
  if core.world.chunks.contains chunkPos then core
  else { core with world.chunks :=
    (core.world.chunks.insert chunkPos (C.generateChunk core.world.worldMeta chunkPos)) }

def setBlockAt (core : ServerCore) (position : BlockPos) (state : Option BlockState) :
    ServerCore :=
  let core := core.ensureChunk C position.chunkPos
  let chunk := (core.chunkAt C position.chunkPos).setBlock (localBlockX position) position.y
    (localBlockZ position) state
  { core with world.chunks := core.world.chunks.insert position.chunkPos chunk }

def claimEntityId (nextEntityId : Int) (expectedEntityId : Option EntityId) : EntityId × Int :=
  let (entityId, nextEntityId) := match expectedEntityId with
    | some entityId => (entityId, nextEntityId)
    | none => (⟨nextEntityId⟩, saturatingSuccI32 nextEntityId)
  (entityId, if nextEntityId ≤ entityId.value then saturatingSuccI32 entityId.value
    else nextEntityId)

def spawnOnlinePlayer (core : ServerCore) (player : PlayerSnapshot) (center : ChunkPos)
    (nowMs : Nat) (expectedEntityId : Option EntityId) : EntityId × ServerCore :=
  let (entityId, nextEntityId) := claimEntityId core.entities.nextEntityId expectedEntityId
  (entityId, { core with
    entities.nextEntityId := nextEntityId
    entities.entityKinds := core.entities.entityKinds.insert entityId .player
    entities.playersByPlayerId := core.entities.playersByPlayerId.insert player.id entityId
    entities.playerIdentity :=
      (core.entities.playerIdentity.insert entityId (playerIdentityOf player))
    entities.playerTransform :=
      (core.entities.playerTransform.insert entityId (playerTransformOf player))
    entities.playerVitals := core.entities.playerVitals.insert entityId (playerVitalsOf player)
    entities.playerInventory := core.entities.playerInventory.insert entityId player.inventory
    entities.playerSelectedHotbar :=
      (core.entities.playerSelectedHotbar.insert entityId player.selectedHotbarSlot)
    entities.playerActiveMining := core.entities.playerActiveMining.erase entityId
    sessions.playerSessions := (core.sessions.playerSessions.insert player.id
      (newSession entityId (ClientView.new center core.world.config.viewDistance)
        (saturatingAddU64 nowMs core.sessions.keepaliveIntervalMs))) })

def removeOnlinePlayer (core : ServerCore) (playerId : PlayerId) :
    Option PlayerSessionState × ServerCore :=
  match core.sessions.playerSessions[playerId]? with
  | none => (none, core)
  | some session =>
    (some session, { core with
      sessions.playerSessions := core.sessions.playerSessions.erase playerId
      entities.playersByPlayerId := core.entities.playersByPlayerId.erase playerId
      entities.entityKinds := core.entities.entityKinds.erase session.entityId
      entities.playerIdentity := core.entities.playerIdentity.erase session.entityId
      entities.playerTransform := core.entities.playerTransform.erase session.entityId
      entities.playerVitals := core.entities.playerVitals.erase session.entityId
      entities.playerInventory := core.entities.playerInventory.erase session.entityId
      entities.playerSelectedHotbar := core.entities.playerSelectedHotbar.erase session.entityId
      entities.playerActiveMining := core.entities.playerActiveMining.erase session.entityId })

/-- `player_session_inventory_mut`. -/
def editSessionInventory (core : ServerCore) (playerId : PlayerId)
    (edit : PlayerSessionState × PlayerInventory → PlayerSessionState × PlayerInventory) :
    Option (PlayerSessionState × PlayerInventory) × ServerCore :=
  match core.entities.playersByPlayerId[playerId]? with
  | none => (none, core)
  | some entityId =>
    match core.sessions.playerSessions[playerId]?, core.entities.playerInventory[entityId]? with
    | some session, some inventory =>
      let after := edit (session, inventory)
      (some (session, inventory), { core with
        sessions.playerSessions := core.sessions.playerSessions.insert playerId after.1
        entities.playerInventory := core.entities.playerInventory.insert entityId after.2 })
    | _, _ => (none, core)

end ServerCore

/-- `BaseState`. -/
def baseState : Prog.Handler CoreState ServerCore
  | .config, s => (s.world.config, s)
  | .worldMeta, s => (s.world.worldMeta, s)
  | .blockState position, s => (s.blockAt C position, s)
  | .blockEntity position, s => (s.world.blockEntities[position]?, s)
  | .savedPlayer playerId, s => (s.world.savedPlayers[playerId]?, s)
  | .playerEntityId playerId, s => (s.entities.playersByPlayerId[playerId]?, s)
  | .playerSession playerId, s => (s.sessions.playerSessions[playerId]?, s)
  | .playerIdentityByEntity entityId, s => (s.entities.playerIdentity[entityId]?, s)
  | .playerTransformByEntity entityId, s => (s.entities.playerTransform[entityId]?, s)
  | .playerVitalsByEntity entityId, s => (s.entities.playerVitals[entityId]?, s)
  | .playerInventoryByEntity entityId, s => (s.entities.playerInventory[entityId]?, s)
  | .playerSelectedHotbarByEntity entityId, s => (s.entities.playerSelectedHotbar[entityId]?, s)
  | .playerActiveMiningByEntity entityId, s => (s.entities.playerActiveMining[entityId]?, s)
  | .droppedItemByEntity entityId, s => (s.entities.droppedItems[entityId]?, s)
  | .playerIds, s => (s.sessions.playerSessions.keys, s)
  | .playerEntityIds, s => (ExtTreeSet.ofList s.entities.playersByPlayerId.values compare, s)
  | .droppedItemIds, s => (s.entities.droppedItems.keys, s)
  | .containerViewers position, s => (s.world.containerViewers[position]?, s)
  | .keepaliveIntervalMs, s => (s.sessions.keepaliveIntervalMs, s)
  | .ensureChunk chunkPos, s =>
    let s := s.ensureChunk C chunkPos
    (s.chunkAt C chunkPos, s)
  | .setBlockState position block, s => ((), s.setBlockAt C position block)
  | .setBlockEntity position blockEntity, s =>
    ((), { s with world.blockEntities :=
      (applyOptionalEntry s.world.blockEntities position blockEntity) })
  | .playerSessionMut playerId edit, s =>
    (s.sessions.playerSessions[playerId]?,
      { s with sessions.playerSessions := edited s.sessions.playerSessions playerId edit })
  | .playerSessionInventoryMut playerId edit, s => s.editSessionInventory playerId edit
  | .playerTransformMut entityId edit, s =>
    (s.entities.playerTransform[entityId]?,
      { s with entities.playerTransform := edited s.entities.playerTransform entityId edit })
  | .playerInventoryMut entityId edit, s =>
    (s.entities.playerInventory[entityId]?,
      { s with entities.playerInventory := edited s.entities.playerInventory entityId edit })
  | .playerSelectedHotbarMut entityId edit, s =>
    (s.entities.playerSelectedHotbar[entityId]?,
      { s with entities.playerSelectedHotbar :=
        (edited s.entities.playerSelectedHotbar entityId edit) })
  | .playerActiveMiningMut entityId edit, s =>
    (s.entities.playerActiveMining[entityId]?,
      { s with entities.playerActiveMining :=
        (edited s.entities.playerActiveMining entityId edit) })
  | .removePlayerActiveMining entityId, s =>
    (s.entities.playerActiveMining[entityId]?,
      { s with entities.playerActiveMining := s.entities.playerActiveMining.erase entityId })
  | .setPlayerActiveMining entityId state, s =>
    ((), { s with entities.playerActiveMining :=
      (applyOptionalEntry s.entities.playerActiveMining entityId state) })
  | .allocateEntityId, s =>
    (⟨s.entities.nextEntityId⟩,
      { s with entities.nextEntityId := saturatingSuccI32 s.entities.nextEntityId })
  | .allocateKeepAliveId, s =>
    (s.sessions.nextKeepAliveId,
      { s with sessions.nextKeepAliveId := saturatingSuccI32 s.sessions.nextKeepAliveId })
  | .setEntityKind entityId kind, s =>
    ((), { s with entities.entityKinds :=
      (applyOptionalEntry s.entities.entityKinds entityId kind) })
  | .setDroppedItem entityId item, s =>
    ((), { s with entities.droppedItems :=
      (applyOptionalEntry s.entities.droppedItems entityId item) })
  | .takeDroppedItem entityId, s =>
    (s.entities.droppedItems[entityId]?,
      { s with entities.droppedItems := s.entities.droppedItems.erase entityId })
  | .setSavedPlayer playerId snapshot, s =>
    ((), { s with world.savedPlayers :=
      (applyOptionalEntry s.world.savedPlayers playerId snapshot) })
  | .setContainerViewers position viewers, s =>
    ((), { s with world.containerViewers :=
      (applyOptionalEntry s.world.containerViewers position viewers) })
  | .spawnOnlinePlayer player center nowMs expectedEntityId, s =>
    s.spawnOnlinePlayer player center nowMs expectedEntityId
  | .removeOnlinePlayer playerId, s => s.removeOnlinePlayer playerId

end Base

/-! ### The overlay -/

structure TxOverlay where
  chunks : BTreeMap ChunkPos ChunkColumn
  blockEntities : BTreeMap BlockPos (Option BlockEntityState)
  containerViewers : BTreeMap BlockPos (Option WorldContainerViewers)
  savedPlayers : BTreeMap PlayerId (Option PlayerSnapshot)
  playersByPlayerId : BTreeMap PlayerId (Option EntityId)
  entityKinds : BTreeMap EntityId (Option EntityKind)
  playerIdentity : BTreeMap EntityId (Option PlayerIdentity)
  playerTransform : BTreeMap EntityId (Option PlayerTransform)
  playerVitals : BTreeMap EntityId (Option PlayerVitals)
  playerInventory : BTreeMap EntityId (Option PlayerInventory)
  playerSelectedHotbar : BTreeMap EntityId (Option Nat)
  playerActiveMining : BTreeMap EntityId (Option ActiveMiningState)
  droppedItems : BTreeMap EntityId (Option DroppedItemState)
  playerSessions : BTreeMap PlayerId (Option PlayerSessionState)
  nextEntityId : Option Int
  nextKeepAliveId : Option Int

def TxOverlay.default : TxOverlay where
  chunks := ∅
  blockEntities := ∅
  containerViewers := ∅
  savedPlayers := ∅
  playersByPlayerId := ∅
  entityKinds := ∅
  playerIdentity := ∅
  playerTransform := ∅
  playerVitals := ∅
  playerInventory := ∅
  playerSelectedHotbar := ∅
  playerActiveMining := ∅
  droppedItems := ∅
  playerSessions := ∅
  nextEntityId := none
  nextKeepAliveId := none

/-- `OverlayState`: the core below and the changes above it. -/
structure OverlayState where
  base : ServerCore
  overlay : TxOverlay

section Entries

variable {K V : Type} [Ord K] [TransOrd K]

/-- The read of every overlaid map: the recorded entry, else the one below. -/
def overlaid (entries : BTreeMap K (Option V)) (below : BTreeMap K V) (key : K) : Option V :=
  (entries[key]?).getD below[key]?

/-- Copy on first touch: the entry below is recorded before it is handed out for writing. -/
def touched (entries : BTreeMap K (Option V)) (below : BTreeMap K V) (key : K) :
    BTreeMap K (Option V) :=
  if entries.contains key then entries
  else
    match below[key]? with
    | none => entries
    | some value => entries.insert key (some value)

/-- An edit through the reference to a recorded entry. -/
def overlaidEdit (entries : BTreeMap K (Option V)) (key : K) (edit : V → V) :
    BTreeMap K (Option V) :=
  match entries[key]? with
  | some (some value) => entries.insert key (some (edit value))
  | _ => entries

def overlaidKeys (entries : BTreeMap K (Option V)) (below : BTreeMap K V) : BTreeSet K :=
  entries.toList.foldl (fun keys (key, entry) =>
    match entry with
    | some _ => keys.insert key
    | none => keys.erase key) (ExtTreeSet.ofList below.keys compare)

end Entries

section Overlay

variable (C : ContentBehavior)

namespace OverlayState

def chunkAt (s : OverlayState) (chunkPos : ChunkPos) : ChunkColumn :=
  (s.overlay.chunks[chunkPos]?).getD (s.base.chunkAt C chunkPos)

def blockAt (s : OverlayState) (position : BlockPos) : Option BlockState :=
  (s.chunkAt C position.chunkPos).getBlock (localBlockX position) position.y
    (localBlockZ position)

def ensureChunk (s : OverlayState) (chunkPos : ChunkPos) : OverlayState :=
  if s.overlay.chunks.contains chunkPos then s
  else { s with overlay.chunks :=
    (s.overlay.chunks.insert chunkPos (s.base.chunkAt C chunkPos)) }

def setBlockAt (s : OverlayState) (position : BlockPos) (state : Option BlockState) :
    OverlayState :=
  let s := s.ensureChunk C position.chunkPos
  let chunk := (s.chunkAt C position.chunkPos).setBlock (localBlockX position) position.y
    (localBlockZ position) state
  { s with overlay.chunks := s.overlay.chunks.insert position.chunkPos chunk }

def playerEntityId (s : OverlayState) (playerId : PlayerId) : Option EntityId :=
  overlaid s.overlay.playersByPlayerId s.base.entities.playersByPlayerId playerId

def playerSession (s : OverlayState) (playerId : PlayerId) : Option PlayerSessionState :=
  overlaid s.overlay.playerSessions s.base.sessions.playerSessions playerId

def playerEntityIds (s : OverlayState) : BTreeSet EntityId :=
  s.overlay.playersByPlayerId.toList.foldl (fun entityIds (playerId, entry) =>
    match entry with
    | some entityId => entityIds.insert entityId
    | none =>
      match s.base.entities.playersByPlayerId[playerId]? with
      | some entityId => entityIds.erase entityId
      | none => entityIds)
    (ExtTreeSet.ofList s.base.entities.playersByPlayerId.values compare)

def nextEntityId (s : OverlayState) : Int :=
  s.overlay.nextEntityId.getD s.base.entities.nextEntityId

def nextKeepAliveId (s : OverlayState) : Int :=
  s.overlay.nextKeepAliveId.getD s.base.sessions.nextKeepAliveId

/-- The allocation at the head of `spawn_online_player`. -/
def claimEntityId (s : OverlayState) (expectedEntityId : Option EntityId) :
    EntityId × Option Int :=
  let (entityId, recorded) := match expectedEntityId with
    | some entityId => (entityId, s.overlay.nextEntityId)
    | none => (⟨s.nextEntityId⟩, some (saturatingSuccI32 s.nextEntityId))
  (entityId, match recorded with
    | some nextEntityId => some (max nextEntityId (saturatingSuccI32 entityId.value))
    | none =>
      if s.base.entities.nextEntityId ≤ entityId.value then
        some (saturatingSuccI32 entityId.value)
      else none)

def spawnOnlinePlayer (s : OverlayState) (player : PlayerSnapshot) (center : ChunkPos)
    (nowMs : Nat) (expectedEntityId : Option EntityId) : EntityId × OverlayState :=
  let (entityId, nextEntityId) := s.claimEntityId expectedEntityId
  (entityId, { s with
    overlay.nextEntityId := nextEntityId
    overlay.entityKinds := s.overlay.entityKinds.insert entityId (some .player)
    overlay.playersByPlayerId := s.overlay.playersByPlayerId.insert player.id (some entityId)
    overlay.playerIdentity :=
      (s.overlay.playerIdentity.insert entityId (some (playerIdentityOf player)))
    overlay.playerTransform :=
      (s.overlay.playerTransform.insert entityId (some (playerTransformOf player)))
    overlay.playerVitals :=
      (s.overlay.playerVitals.insert entityId (some (playerVitalsOf player)))
    overlay.playerInventory :=
      (s.overlay.playerInventory.insert entityId (some player.inventory))
    overlay.playerSelectedHotbar :=
      (s.overlay.playerSelectedHotbar.insert entityId (some player.selectedHotbarSlot))
    overlay.playerActiveMining := s.overlay.playerActiveMining.insert entityId none
    overlay.playerSessions := (s.overlay.playerSessions.insert player.id
      (some (newSession entityId (ClientView.new center s.base.world.config.viewDistance)
        (saturatingAddU64 nowMs s.base.sessions.keepaliveIntervalMs)))) })

def removeOnlinePlayer (s : OverlayState) (playerId : PlayerId) :
    Option PlayerSessionState × OverlayState :=
  match s.playerSession playerId with
  | none => (none, s)
  | some session =>
    (some session, { s with
      overlay.playerSessions := s.overlay.playerSessions.insert playerId none
      overlay.playersByPlayerId := s.overlay.playersByPlayerId.insert playerId none
      overlay.entityKinds := s.overlay.entityKinds.insert session.entityId none
      overlay.playerIdentity := s.overlay.playerIdentity.insert session.entityId none
      overlay.playerTransform := s.overlay.playerTransform.insert session.entityId none
      overlay.playerVitals := s.overlay.playerVitals.insert session.entityId none
      overlay.playerInventory := s.overlay.playerInventory.insert session.entityId none
      overlay.playerSelectedHotbar := s.overlay.playerSelectedHotbar.insert session.entityId none
      overlay.playerActiveMining := s.overlay.playerActiveMining.insert session.entityId none })

/-- `player_session_inventory_mut`: the session may be copied before the inventory is missed. -/
def editSessionInventory (s : OverlayState) (playerId : PlayerId)
    (edit : PlayerSessionState × PlayerInventory → PlayerSessionState × PlayerInventory) :
    Option (PlayerSessionState × PlayerInventory) × OverlayState :=
  match s.playerEntityId playerId with
  | none => (none, s)
  | some entityId =>
    let sessions := touched s.overlay.playerSessions s.base.sessions.playerSessions playerId
    match sessions[playerId]? with
    | none => (none, s)
    | some entry =>
      let inventories := touched s.overlay.playerInventory s.base.entities.playerInventory entityId
      match entry, (inventories[entityId]?).join with
      | some session, some inventory =>
        let after := edit (session, inventory)
        (some (session, inventory), { s with
          overlay.playerSessions := sessions.insert playerId (some after.1)
          overlay.playerInventory := inventories.insert entityId (some after.2) })
      | _, _ => (none, { s with
          overlay.playerSessions := sessions, overlay.playerInventory := inventories })

end OverlayState

/-- `OverlayState` as an implementation of the interface. -/
def overlayState : Prog.Handler CoreState OverlayState
  | .config, s => (s.base.world.config, s)
  | .worldMeta, s => (s.base.world.worldMeta, s)
  | .blockState position, s => (s.blockAt C position, s)
  | .blockEntity position, s =>
    (overlaid s.overlay.blockEntities s.base.world.blockEntities position, s)
  | .savedPlayer playerId, s =>
    (overlaid s.overlay.savedPlayers s.base.world.savedPlayers playerId, s)
  | .playerEntityId playerId, s => (s.playerEntityId playerId, s)
  | .playerSession playerId, s => (s.playerSession playerId, s)
  | .playerIdentityByEntity entityId, s =>
    (overlaid s.overlay.playerIdentity s.base.entities.playerIdentity entityId, s)
  | .playerTransformByEntity entityId, s =>
    (overlaid s.overlay.playerTransform s.base.entities.playerTransform entityId, s)
  | .playerVitalsByEntity entityId, s =>
    (overlaid s.overlay.playerVitals s.base.entities.playerVitals entityId, s)
  | .playerInventoryByEntity entityId, s =>
    (overlaid s.overlay.playerInventory s.base.entities.playerInventory entityId, s)
  | .playerSelectedHotbarByEntity entityId, s =>
    (overlaid s.overlay.playerSelectedHotbar s.base.entities.playerSelectedHotbar entityId, s)
  | .playerActiveMiningByEntity entityId, s =>
    (overlaid s.overlay.playerActiveMining s.base.entities.playerActiveMining entityId, s)
  | .droppedItemByEntity entityId, s =>
    (overlaid s.overlay.droppedItems s.base.entities.droppedItems entityId, s)
  | .playerIds, s =>
    ((overlaidKeys s.overlay.playerSessions s.base.sessions.playerSessions).toList, s)
  | .playerEntityIds, s => (s.playerEntityIds, s)
  | .droppedItemIds, s =>
    ((overlaidKeys s.overlay.droppedItems s.base.entities.droppedItems).toList, s)
  | .containerViewers position, s =>
    (overlaid s.overlay.containerViewers s.base.world.containerViewers position, s)
  | .keepaliveIntervalMs, s => (s.base.sessions.keepaliveIntervalMs, s)
  | .ensureChunk chunkPos, s =>
    let s := s.ensureChunk C chunkPos
    (s.chunkAt C chunkPos, s)
  | .setBlockState position block, s => ((), s.setBlockAt C position block)
  | .setBlockEntity position blockEntity, s =>
    ((), { s with overlay.blockEntities := s.overlay.blockEntities.insert position blockEntity })
  | .playerSessionMut playerId edit, s =>
    let entries := touched s.overlay.playerSessions s.base.sessions.playerSessions playerId
    ((entries[playerId]?).join, { s with overlay.playerSessions := overlaidEdit entries playerId edit })
  | .playerSessionInventoryMut playerId edit, s => s.editSessionInventory playerId edit
  | .playerTransformMut entityId edit, s =>
    let entries := touched s.overlay.playerTransform s.base.entities.playerTransform entityId
    ((entries[entityId]?).join, { s with overlay.playerTransform := overlaidEdit entries entityId edit })
  | .playerInventoryMut entityId edit, s =>
    let entries := touched s.overlay.playerInventory s.base.entities.playerInventory entityId
    ((entries[entityId]?).join, { s with overlay.playerInventory := overlaidEdit entries entityId edit })
  | .playerSelectedHotbarMut entityId edit, s =>
    let entries :=
      touched s.overlay.playerSelectedHotbar s.base.entities.playerSelectedHotbar entityId
    ((entries[entityId]?).join,
      { s with overlay.playerSelectedHotbar := overlaidEdit entries entityId edit })
  | .playerActiveMiningMut entityId edit, s =>
    let entries := touched s.overlay.playerActiveMining s.base.entities.playerActiveMining entityId
    ((entries[entityId]?).join,
      { s with overlay.playerActiveMining := overlaidEdit entries entityId edit })
  | .removePlayerActiveMining entityId, s =>
    match overlaid s.overlay.playerActiveMining s.base.entities.playerActiveMining entityId with
    | none => (none, s)
    | some current =>
      (some current, { s with overlay.playerActiveMining :=
        (s.overlay.playerActiveMining.insert entityId none) })
  | .setPlayerActiveMining entityId state, s =>
    ((), { s with overlay.playerActiveMining := s.overlay.playerActiveMining.insert entityId state })
  | .allocateEntityId, s =>
    (⟨s.nextEntityId⟩, { s with overlay.nextEntityId := some (saturatingSuccI32 s.nextEntityId) })
  | .allocateKeepAliveId, s =>
    (s.nextKeepAliveId,
      { s with overlay.nextKeepAliveId := some (saturatingSuccI32 s.nextKeepAliveId) })
  | .setEntityKind entityId kind, s =>
    ((), { s with overlay.entityKinds := s.overlay.entityKinds.insert entityId kind })
  | .setDroppedItem entityId item, s =>
    ((), { s with overlay.droppedItems := s.overlay.droppedItems.insert entityId item })
  | .takeDroppedItem entityId, s =>
    match overlaid s.overlay.droppedItems s.base.entities.droppedItems entityId with
    | none => (none, s)
    | some item =>
      (some item, { s with overlay.droppedItems := s.overlay.droppedItems.insert entityId none })
  | .setSavedPlayer playerId snapshot, s =>
    ((), { s with overlay.savedPlayers := s.overlay.savedPlayers.insert playerId snapshot })
  | .setContainerViewers position viewers, s =>
    ((), { s with overlay.containerViewers := s.overlay.containerViewers.insert position viewers })
  | .spawnOnlinePlayer player center nowMs expectedEntityId, s =>
    s.spawnOnlinePlayer player center nowMs expectedEntityId
  | .removeOnlinePlayer playerId, s => s.removeOnlinePlayer playerId

end Overlay

end RevyCraft
