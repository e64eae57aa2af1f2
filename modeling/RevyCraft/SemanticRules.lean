/-
  RevyCraft/SemanticRules.lean
  ============================
  **Containers, content and traffic** (`rules.rs`, `events.rs`,
  `gameplay.rs`, `config.rs`, `world.rs` of `revy-voxel-semantic`).

  The content plugin is the structure `ContentBehavior`: one pure function for
  each method of the trait that the core calls.  A method that takes `&mut`
  returns the new value.
-/
import RevyCraft.Semantic

namespace RevyCraft

open Std

/-! ### Containers -/

inductive ToolClass where
  | pickaxe
  | shovel
  | axe
  deriving DecidableEq

structure MiningToolSpec where
  toolClass : ToolClass
  tier : Nat
  deriving DecidableEq

inductive ContainerSlotRole where
  | generic
  | outputOnly
  | unavailable
  deriving DecidableEq

structure ContainerSpec where
  localSlotCount : Nat
  slotRoles : BTreeMap Nat ContainerSlotRole

def ContainerSpec.slotRole (spec : ContainerSpec) (index : Nat) : ContainerSlotRole :=
  (spec.slotRoles[index]?).getD .generic

inductive ContainerBinding where
  | virtual
  | block (position : BlockPos) (blockEntityKind : BlockEntityKindId)
  deriving DecidableEq

structure ContainerBlockEntityState where
  kind : BlockEntityKindId
  slots : List (Option ItemStack)
  properties : BTreeMap ContainerPropertyKey Int
  deriving DecidableEq

inductive BlockEntityState where
  | container (state : ContainerBlockEntityState)
  deriving DecidableEq

namespace BlockEntityState

def containerState : BlockEntityState → ContainerBlockEntityState
  | .container state => state

def hasInventoryContents : BlockEntityState → Bool
  | .container state => state.slots.any Option.isSome

end BlockEntityState

structure OpenContainerState where
  kind : ContainerKindId
  binding : ContainerBinding
  localSlots : List (Option ItemStack)
  properties : BTreeMap ContainerPropertyKey Int
  deriving DecidableEq

namespace OpenContainerState

def worldPosition (container : OpenContainerState) : Option BlockPos :=
  match container.binding with
  | .virtual => none
  | .block position _ => some position

def blockEntityKind (container : OpenContainerState) : Option BlockEntityKindId :=
  match container.binding with
  | .virtual => none
  | .block _ kind => some kind

def blockEntityState (container : OpenContainerState) : Option ContainerBlockEntityState :=
  container.blockEntityKind.map fun kind => ⟨kind, container.localSlots, container.properties⟩

def propertyEntries (container : OpenContainerState) : List (ContainerPropertyKey × Int) :=
  container.properties.toList

end OpenContainerState

/-! ### The content plugin -/

structure ContentBehavior where
  generateChunk : WorldMeta → ChunkPos → ChunkColumn
  playerContainerKind : ContainerKindId
  containerSpec : ContainerKindId → Option ContainerSpec
  containerTitle : ContainerKindId → String
  containerKindForBlock : BlockState → Option ContainerKindId
  defaultBlockEntityForBlock : BlockState → Option ContainerBlockEntityState
  defaultBlockEntityForKind : BlockEntityKindId → Option ContainerBlockEntityState
  blockEntityKindForContainer : ContainerKindId → Option BlockEntityKindId
  isAirBlock : BlockState → Bool
  isUnbreakableBlock : BlockState → Bool
  placeableBlockStateFromItemKey : String → Option BlockState
  isSupportedInventoryItem : String → Bool
  starterInventory : PlayerInventory
  toolSpecForItem : Option ItemStack → Option MiningToolSpec
  survivalMiningDurationMs : BlockState → Option MiningToolSpec → Option Nat
  survivalDropForBlock : BlockState → Option ItemStack
  normalizeContainer : OpenContainerState → OpenContainerState
  normalizePlayerInventory : PlayerInventory → PlayerInventory
  tryTakeOutput : ContainerKindId → List (Option ItemStack) → Option ItemStack →
    InventoryClickButton → Bool × List (Option ItemStack) × Option ItemStack
  tickContainer : OpenContainerState → OpenContainerState

/-! ### Commands, effects and events -/

structure CoreConfig where
  levelName : String
  seed : Nat
  maxPlayers : Nat
  viewDistance : Nat
  gameMode : Nat
  difficulty : Nat
  spawn : BlockPos
  deriving DecidableEq

def CoreConfig.default : CoreConfig where
  levelName := "world"
  seed := 0
  maxPlayers := 20
  viewDistance := 2
  gameMode := 0
  difficulty := 1
  spawn := ⟨0, 4, 0⟩

structure WorldSnapshot where
  worldMeta : WorldMeta
  chunks : BTreeMap ChunkPos ChunkColumn
  blockEntities : BTreeMap BlockPos BlockEntityState
  players : BTreeMap PlayerId PlayerSnapshot

inductive GameplayCommand where
  | moveIntent (playerId : PlayerId) (position : Option Vec3) (yaw pitch : Option Float32)
      (onGround : Bool)
  | setHeldSlot (playerId : PlayerId) (slot : Int)
  | creativeInventorySet (playerId : PlayerId) (slot : InventorySlot) (stack : Option ItemStack)
  | digBlock (playerId : PlayerId) (position : BlockPos) (status : Nat) (face : Option BlockFace)
  | placeBlock (playerId : PlayerId) (hand : InteractionHand) (position : BlockPos)
      (face : Option BlockFace) (heldItem : Option ItemStack)
  | useBlock (playerId : PlayerId) (hand : InteractionHand) (position : BlockPos)
      (face : Option BlockFace) (heldItem : Option ItemStack)
  deriving DecidableEq

inductive CoreCommand where
  | loginStart (connectionId : ConnectionId) (username : String) (playerId : PlayerId)
  | updateClientView (playerId : PlayerId) (viewDistance : Nat)
  | gameplay (command : GameplayCommand)
  | keepAliveResponse (playerId : PlayerId) (keepAliveId : Int)
  | inventoryClick (playerId : PlayerId) (transaction : InventoryTransactionContext)
      (target : InventoryClickTarget) (button : InventoryClickButton)
      (validation : InventoryClickValidation)
  | closeContainer (playerId : PlayerId) (windowId : Nat)
  | disconnect (playerId : PlayerId)
  deriving DecidableEq

inductive EventTarget where
  | connection (connectionId : ConnectionId)
  | player (playerId : PlayerId)
  | everyoneExcept (playerId : PlayerId)
  deriving DecidableEq

inductive CoreEvent where
  | loginAccepted (playerId : PlayerId) (entityId : EntityId) (player : PlayerSnapshot)
  | playBootstrap (player : PlayerSnapshot) (entityId : EntityId) (worldMeta : WorldMeta)
      (viewDistance : Nat)
  | chunkBatch (chunks : List ChunkColumn)
  | entitySpawned (entityId : EntityId) (player : PlayerSnapshot)
  | entityMoved (entityId : EntityId) (player : PlayerSnapshot)
  | droppedItemSpawned (entityId : EntityId) (item : DroppedItemSnapshot)
  | blockBreakingProgress (breakerEntityId : EntityId) (position : BlockPos)
      (stage : Option Nat) (durationMs : Nat)
  | entityDespawned (entityIds : List EntityId)
  | inventoryContents (windowId : Nat) (container : ContainerKindId)
      (contents : InventoryWindowContents)
  | containerOpened (windowId : Nat) (container : ContainerKindId) (title : String)
  | containerClosed (windowId : Nat)
  | containerPropertyChanged (windowId : Nat) (property : ContainerPropertyKey) (value : Int)
  | inventorySlotChanged (windowId : Nat) (container : ContainerKindId) (slot : InventorySlot)
      (stack : Option ItemStack)
  | inventoryTransactionProcessed (transaction : InventoryTransactionContext) (accepted : Bool)
  | cursorChanged (stack : Option ItemStack)
  | selectedHotbarSlotChanged (slot : Nat)
  | blockChanged (position : BlockPos) (block : Option BlockState)
  | keepAliveRequested (keepAliveId : Int)
  | disconnect (reason : String)
  deriving DecidableEq

structure TargetedEvent where
  target : EventTarget
  event : CoreEvent
  deriving DecidableEq

structure GameplayCanEditBlockKey where
  playerId : PlayerId
  position : BlockPos

instance : Ord GameplayCanEditBlockKey :=
  ⟨compareLex (compareOn GameplayCanEditBlockKey.playerId)
    (compareOn GameplayCanEditBlockKey.position)⟩
instance : TransOrd GameplayCanEditBlockKey :=
  inferInstanceAs <| TransCmp (compareLex (compareOn GameplayCanEditBlockKey.playerId)
    (compareOn GameplayCanEditBlockKey.position))
instance : LawfulEqOrd GameplayCanEditBlockKey := lawfulEqCmp_compareLex fun a b hp hq => by
  have hp : a.playerId = b.playerId := @LawfulEqCmp.eq_of_compare _ compare _ _ _ hp
  have hq : a.position = b.position := @LawfulEqCmp.eq_of_compare _ compare _ _ _ hq
  cases a
  cases b
  cases hp
  cases hq
  rfl

structure SemanticReadSet where
  worldMeta : Option WorldMeta
  playerSnapshots : BTreeMap PlayerId (Option PlayerSnapshot)
  blockStates : BTreeMap BlockPos (Option BlockState)
  blockEntities : BTreeMap BlockPos (Option BlockEntityState)
  canEditBlock : BTreeMap GameplayCanEditBlockKey Bool
  deriving DecidableEq

inductive GameplayEffect where
  | setPlayerPose (playerId : PlayerId) (position : Option Vec3) (yaw pitch : Option Float32)
      (onGround : Bool)
  | setSelectedHotbarSlot (playerId : PlayerId) (slot : Nat)
  | setInventorySlot (playerId : PlayerId) (slot : InventorySlot) (stack : Option ItemStack)
  | clearMining (playerId : PlayerId)
  | beginMining (playerId : PlayerId) (position : BlockPos) (durationMs : Nat)
  | openContainerAt (playerId : PlayerId) (position : BlockPos)
  | openVirtualContainer (playerId : PlayerId) (kind : ContainerKindId)
  | setBlock (position : BlockPos) (block : Option BlockState)
  | spawnDroppedItem (position : Vec3) (item : ItemStack)
  | emitEvent (event : TargetedEvent)
  deriving DecidableEq

structure GameplayEffectBatch where
  nowMs : Nat
  reads : SemanticReadSet
  effects : List GameplayEffect
  deriving DecidableEq

end RevyCraft
