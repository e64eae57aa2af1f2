/-
  RevyCraft/CoreState.lean
  ========================
  **The state of a server core and the interface to it** (`core/mod.rs`,
  `core/world.rs`, `core/state_backend.rs`).

  The gameplay functions of the core are generic over the traits
  `CoreStateRead` and `CoreStateMut`.  Here the traits are the interface
  `CoreState` and a generic function is a program over it; the two
  implementations are the handlers `baseState` (the maps of a `ServerCore`)
  and `overlayState` (copy on first touch over an unchanged core).

  A method that returns `&mut T` is a pair of operations: the lookup, which
  may copy an entry into the overlay, and the write through the reference.
  Shared components (`VersionComponent`) are values.
-/
import RevyCraft.SemanticRules
import RevyCraft.Program

namespace RevyCraft

open Std

def DEFAULT_KEEPALIVE_INTERVAL_MS : Nat := 10000
def DEFAULT_KEEPALIVE_TIMEOUT_MS : Nat := 30000
def PLAYER_WIDTH : Float := 0.6
def PLAYER_HEIGHT : Float := 1.8
def BLOCK_EDIT_REACH : Float := 6.0

/-! ### The stores -/

structure ClientView where
  center : ChunkPos
  viewDistance : Nat
  loadedChunks : BTreeSet ChunkPos
  deriving DecidableEq

namespace ClientView

def new (center : ChunkPos) (viewDistance : Nat) : ClientView :=
  ⟨center, viewDistance, requiredChunks center viewDistance⟩

/-- The elements of `a` that are not in `b`, in order. -/
def difference (a b : BTreeSet ChunkPos) : List ChunkPos :=
  a.toList.filter fun pos => !b.contains pos

/-- `retarget`: the chunks that come into view and leave it, and the new view. -/
def retarget (view : ClientView) (center : ChunkPos) (viewDistance : Nat) :
    ChunkDelta × ClientView :=
  let nextLoaded := requiredChunks center viewDistance
  (⟨difference nextLoaded view.loadedChunks, difference view.loadedChunks nextLoaded⟩,
    ⟨center, viewDistance, nextLoaded⟩)

end ClientView

structure WorldContainerViewers where
  kind : ContainerKindId
  viewers : BTreeMap PlayerId Nat
  deriving DecidableEq

structure WorldStore where
  config : CoreConfig
  worldMeta : WorldMeta
  chunks : BTreeMap ChunkPos ChunkColumn
  blockEntities : BTreeMap BlockPos BlockEntityState
  containerViewers : BTreeMap BlockPos WorldContainerViewers
  savedPlayers : BTreeMap PlayerId PlayerSnapshot
  deriving DecidableEq

inductive EntityKind where
  | player
  | droppedItem
  deriving DecidableEq

structure PlayerIdentity where
  playerId : PlayerId
  username : String
  deriving DecidableEq

structure PlayerTransform where
  position : Vec3
  yaw : Float32
  pitch : Float32
  onGround : Bool
  dimension : DimensionId
  deriving DecidableEq

structure PlayerVitals where
  health : Float32
  food : Int
  foodSaturation : Float32
  deriving DecidableEq

structure DroppedItemState where
  snapshot : DroppedItemSnapshot
  lastUpdatedAtMs : Nat
  pickupAllowedAtMs : Nat
  despawnAtMs : Nat
  deriving DecidableEq

structure ActiveMiningState where
  position : BlockPos
  startedAtMs : Nat
  durationMs : Nat
  lastStage : Option Nat
  toolContext : Option MiningToolSpec
  deriving DecidableEq

structure EntityStore where
  entityKinds : BTreeMap EntityId EntityKind
  playersByPlayerId : BTreeMap PlayerId EntityId
  playerIdentity : BTreeMap EntityId PlayerIdentity
  playerTransform : BTreeMap EntityId PlayerTransform
  playerVitals : BTreeMap EntityId PlayerVitals
  playerInventory : BTreeMap EntityId PlayerInventory
  playerSelectedHotbar : BTreeMap EntityId Nat
  playerActiveMining : BTreeMap EntityId ActiveMiningState
  droppedItems : BTreeMap EntityId DroppedItemState
  nextEntityId : Int
  deriving DecidableEq

structure OpenInventoryWindow where
  windowId : Nat
  container : OpenContainerState
  deriving DecidableEq

namespace OpenInventoryWindow

def contents (window : OpenInventoryWindow) (playerInventory : PlayerInventory) :
    InventoryWindowContents := ⟨playerInventory, window.container.localSlots⟩

def propertyEntries (window : OpenInventoryWindow) : List (ContainerPropertyKey × Int) :=
  window.container.propertyEntries

def worldPosition (window : OpenInventoryWindow) : Option BlockPos :=
  window.container.worldPosition

def worldBlockEntity (window : OpenInventoryWindow) :
    Option (BlockPos × ContainerBlockEntityState) :=
  window.worldPosition.bind fun position =>
    window.container.blockEntityState.map fun entity => (position, entity)

end OpenInventoryWindow

structure PlayerSessionState where
  entityId : EntityId
  cursor : Option ItemStack
  activeContainer : Option OpenInventoryWindow
  nextNonPlayerWindowId : Nat
  view : ClientView
  pendingKeepAliveId : Option Int
  lastKeepAliveSentAt : Option Nat
  nextKeepAliveAt : Nat
  deriving DecidableEq

structure SessionStore where
  playerSessions : BTreeMap PlayerId PlayerSessionState
  nextKeepAliveId : Int
  keepaliveIntervalMs : Nat
  keepaliveTimeoutMs : Nat
  deriving DecidableEq

structure ServerCore where
  world : WorldStore
  entities : EntityStore
  sessions : SessionStore
  deriving DecidableEq

namespace ServerCore

def new (config : CoreConfig) : ServerCore where
  world :=
    { config := config
      worldMeta :=
        { levelName := config.levelName
          seed := config.seed
          spawn := config.spawn
          dimension := .overworld
          age := 0
          time := 6000
          levelType := "FLAT"
          gameMode := config.gameMode
          difficulty := config.difficulty
          maxPlayers := config.maxPlayers }
      chunks := ∅
      blockEntities := ∅
      containerViewers := ∅
      savedPlayers := ∅ }
  entities :=
    { entityKinds := ∅
      playersByPlayerId := ∅
      playerIdentity := ∅
      playerTransform := ∅
      playerVitals := ∅
      playerInventory := ∅
      playerSelectedHotbar := ∅
      playerActiveMining := ∅
      droppedItems := ∅
      nextEntityId := 1 }
  sessions :=
    { playerSessions := ∅
      nextKeepAliveId := 1
      keepaliveIntervalMs := DEFAULT_KEEPALIVE_INTERVAL_MS
      keepaliveTimeoutMs := DEFAULT_KEEPALIVE_TIMEOUT_MS }

def fromSnapshot (config : CoreConfig) (snapshot : WorldSnapshot) : ServerCore :=
  let core := new config
  { core with
    world.worldMeta := snapshot.worldMeta
    world.chunks := snapshot.chunks
    world.blockEntities := snapshot.blockEntities
    world.savedPlayers := snapshot.players }

def setMaxPlayers (core : ServerCore) (maxPlayers : Nat) : ServerCore :=
  { core with world.config.maxPlayers := maxPlayers, world.worldMeta.maxPlayers := maxPlayers }

def reconfigure (core : ServerCore) (config : CoreConfig) : ServerCore :=
  { core with
    world.worldMeta.levelName := config.levelName
    world.worldMeta.gameMode := config.gameMode
    world.worldMeta.difficulty := config.difficulty
    world.worldMeta.maxPlayers := config.maxPlayers
    world.config := config }

end ServerCore

end RevyCraft
