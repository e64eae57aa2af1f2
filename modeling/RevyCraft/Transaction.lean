/-
  RevyCraft/Transaction.lean
  ==========================
  **Gameplay transactions** (`core/transaction.rs`): a preview over an
  overlay, the journal and the read set it leaves, and the commit to a core.

  A method on `&mut GameplayTransaction` is an action in `TxM`.  The live core
  a transaction is committed to is an argument of `commit`; the transaction
  holds the snapshot it was forked from.
-/
import RevyCraft.Canonical

namespace RevyCraft

open Std
open RevyCraft.Core

/-! ### Read sets -/

/-- What a transaction read from the state below its overlay. -/
structure GameplayReadSet extends SemanticReadSet where
  onlinePlayerCount : Option Nat
  savedPlayers : BTreeMap PlayerId (Option PlayerSnapshot)
  playerEntityIds : BTreeMap PlayerId (Option EntityId)
  nextEntityId : Option Int

def SemanticReadSet.default : SemanticReadSet := ⟨none, ∅, ∅, ∅, ∅⟩

def GameplayReadSet.default : GameplayReadSet := ⟨.default, none, ∅, ∅, none⟩

/-- Checks the entries one by one and stops at the first that fails. -/
def allMatch {α : Type} (matching : α → CoreM Bool) : List α → CoreM Bool
  | [] => pure true
  | entry :: rest => do
    if ← matching entry then allMatch matching rest else pure false

def canEditBlockNow (playerId : PlayerId) (position : BlockPos) : CoreM Bool := do
  match ← composePlayerSnapshot playerId with
  | some player => canEditBlockForSnapshot player position
  | none => pure false

/-- `semantic_reads_match`. -/
def semanticReadsMatch (reads : SemanticReadSet) : CoreM Bool := do
  let current ← worldMeta
  if reads.worldMeta.any fun expected => current ≠ expected then pure false
  else if !(← allMatch (fun (entry : PlayerId × Option PlayerSnapshot) => do
      pure (samePlayer (← composePlayerSnapshot entry.1) entry.2))
      reads.playerSnapshots.toList) then pure false
  else if !(← allMatch (fun (entry : BlockPos × Option BlockState) => do
      pure (decide ((← blockState entry.1) = entry.2)))
      reads.blockStates.toList) then pure false
  else if !(← allMatch (fun (entry : BlockPos × Option BlockEntityState) => do
      pure (decide ((← blockEntity entry.1) = entry.2)))
      reads.blockEntities.toList) then pure false
  else
    allMatch (fun (entry : GameplayCanEditBlockKey × Bool) => do
      pure (decide ((← canEditBlockNow entry.1.playerId entry.1.position) = entry.2)))
      reads.canEditBlock.toList

/-- The part of `GameplayReadSet::matches` that goes through the view. -/
def GameplayReadSet.viewMatches (reads : GameplayReadSet) : CoreM Bool := do
  if !(← semanticReadsMatch reads.toSemanticReadSet) then pure false
  else
    let count ← Core.onlinePlayerCount
    if reads.onlinePlayerCount.any fun expected => count ≠ expected then pure false
    else if !(← allMatch (fun (entry : PlayerId × Option PlayerSnapshot) => do
        pure (samePlayer (← savedPlayer entry.1) entry.2))
        reads.savedPlayers.toList) then pure false
    else
      allMatch (fun (entry : PlayerId × Option EntityId) => do
        pure (decide ((← playerEntityId entry.1) = entry.2)))
        reads.playerEntityIds.toList

section Content

variable (C : ContentBehavior)

/-- The answer of a program that only reads. -/
def ServerCore.ask {α : Type} (core : ServerCore) (p : CoreM α) : Panics α :=
  (p.run (baseState C) core).map (·.1)

def GameplayReadSet.matches (reads : GameplayReadSet) (core : ServerCore) : Panics Bool := do
  if ← core.ask C reads.viewMatches then
    pure (reads.nextEntityId.all fun expected => core.entities.nextEntityId = expected)
  else pure false

/-! ### Transactions -/

structure GameplayJournal where
  nowMs : Nat
  ops : List CoreOp
  readSet : GameplayReadSet

inductive GameplayJournalApplyResult where
  | applied (events : List TargetedEvent)
  | conflict

inductive GameplayEffectApplyResult where
  | applied (events : List TargetedEvent)
  | conflict

def gameplayEffectApplyResult : GameplayJournalApplyResult → GameplayEffectApplyResult
  | .applied events => .applied events
  | .conflict => .conflict

structure GameplayTransaction where
  snapshot : ServerCore
  overlay : TxOverlay
  nowMs : Nat
  preparedPlayers : BTreeMap PlayerId EntityId
  finalizedPlayers : BTreeSet PlayerId
  journal : List CoreOp
  readSet : GameplayReadSet

/-- An action on a transaction, which may panic. -/
abbrev TxM (α : Type) : Type := StateT GameplayTransaction (Except String) α

namespace GameplayTransaction

/-- `new` and `detached`: both start on a fork of the core. -/
def new (base : ServerCore) (nowMs : Nat) : GameplayTransaction where
  snapshot := base
  overlay := .default
  nowMs := nowMs
  preparedPlayers := ∅
  finalizedPlayers := ∅
  journal := []
  readSet := .default

def currentNextEntityId (tx : GameplayTransaction) : Int :=
  tx.overlay.nextEntityId.getD tx.snapshot.entities.nextEntityId

def overlayTouchesBlock (tx : GameplayTransaction) (position : BlockPos) : Bool :=
  tx.overlay.chunks.contains position.chunkPos

def overlayTouchesBlockEntity (tx : GameplayTransaction) (position : BlockPos) : Bool :=
  tx.overlay.blockEntities.contains position || tx.overlayTouchesBlock position

def overlayTouchesPlayer (tx : GameplayTransaction) (playerId : PlayerId) : Bool :=
  if tx.overlay.savedPlayers.contains playerId || tx.overlay.playersByPlayerId.contains playerId ||
      tx.overlay.playerSessions.contains playerId then true
  else
    match (tx.overlay.playersByPlayerId[playerId]?).join.or
        tx.snapshot.entities.playersByPlayerId[playerId]? with
    | none => false
    | some entityId =>
      tx.overlay.playerIdentity.contains entityId || tx.overlay.playerTransform.contains entityId ||
        tx.overlay.playerVitals.contains entityId || tx.overlay.playerInventory.contains entityId ||
        tx.overlay.playerSelectedHotbar.contains entityId ||
        tx.overlay.playerActiveMining.contains entityId

def overlayMayAffectCanEditBlock (tx : GameplayTransaction) (playerId : PlayerId)
    (position : BlockPos) : Bool :=
  tx.overlayTouchesPlayer playerId || tx.overlayTouchesBlock position ||
    !tx.overlay.playerTransform.isEmpty || !tx.overlay.playersByPlayerId.isEmpty ||
    !tx.overlay.entityKinds.isEmpty

def materializedPreviewPlayers (tx : GameplayTransaction) : BTreeSet PlayerId :=
  ExtTreeSet.ofList tx.preparedPlayers.keys compare

def intoJournal (tx : GameplayTransaction) : GameplayJournal := ⟨tx.nowMs, tx.journal, tx.readSet⟩

end GameplayTransaction

/-! ### Transaction methods -/

namespace Tx

/-- A read through `overlay_view`. -/
def overlayView {α : Type} (p : CoreM α) : TxM α := fun tx => do
  let (a, _) ← p.run (overlayState C) ⟨tx.snapshot, tx.overlay⟩
  pure (a, tx)

/-- A change through `overlay_state`. -/
def onOverlay {α : Type} (p : CoreM α) : TxM α := fun tx => do
  let (a, s) ← p.run (overlayState C) ⟨tx.snapshot, tx.overlay⟩
  pure (a, { tx with snapshot := s.base, overlay := s.overlay })

/-- Records a read, unless the overlay decides it or it is recorded already. -/
def record (update : GameplayReadSet → GameplayReadSet) : TxM Unit :=
  modify fun tx => { tx with readSet := update tx.readSet }

def pushPreviewedOp (op : CoreOp) : TxM Unit := do
  let tx ← get
  let _ ← onOverlay C (reduceCoreOp C op tx.nowMs tx.materializedPreviewPlayers)
  modify fun tx => { tx with journal := tx.journal ++ [op] }

def worldMeta : TxM WorldMeta := do
  let current ← overlayView C Core.worldMeta
  record fun reads => { reads with worldMeta := reads.worldMeta.or (some current) }
  pure current

def playerSnapshot (playerId : PlayerId) : TxM (Option PlayerSnapshot) := do
  let snapshot ← overlayView C (composePlayerSnapshot playerId)
  if !(← get).overlayTouchesPlayer playerId then
    record fun reads => { reads with
      playerSnapshots := reads.playerSnapshots.insertIfNew playerId snapshot }
  pure snapshot

def blockState (position : BlockPos) : TxM (Option BlockState) := do
  let block ← overlayView C (Core.blockState position)
  if !(← get).overlayTouchesBlock position then
    record fun reads => { reads with blockStates := reads.blockStates.insertIfNew position block }
  pure block

def blockEntity (position : BlockPos) : TxM (Option BlockEntityState) := do
  let entity ← overlayView C (Core.blockEntity position)
  if !(← get).overlayTouchesBlockEntity position then
    record fun reads => { reads with
      blockEntities := reads.blockEntities.insertIfNew position entity }
  pure entity

def canEditBlock (playerId : PlayerId) (position : BlockPos) : TxM Bool := do
  let allowed ← overlayView C (canEditBlockNow playerId position)
  if !(← get).overlayMayAffectCanEditBlock playerId position then
    record fun reads => { reads with
      canEditBlock := reads.canEditBlock.insertIfNew ⟨playerId, position⟩ allowed }
  pure allowed

def setPlayerPose (playerId : PlayerId) (position : Option Vec3) (yaw pitch : Option Float32)
    (onGround : Bool) : TxM Unit :=
  pushPreviewedOp C (.setPlayerPose playerId position yaw pitch onGround)

def setSelectedHotbarSlot (playerId : PlayerId) (slot : Nat) : TxM Unit :=
  pushPreviewedOp C (.setSelectedHotbarSlot playerId slot)

def setInventorySlot (playerId : PlayerId) (slot : InventorySlot) (stack : Option ItemStack) :
    TxM Unit := pushPreviewedOp C (.setInventorySlot playerId slot stack)

def clearMining (playerId : PlayerId) : TxM Unit := pushPreviewedOp C (.clearMining playerId)

def beginMining (playerId : PlayerId) (position : BlockPos) (durationMs : Nat) : TxM Unit :=
  pushPreviewedOp C (.beginMining playerId position durationMs)

def openContainerAt (playerId : PlayerId) (position : BlockPos) : TxM Unit :=
  pushPreviewedOp C (.openContainerAt playerId position)

def openVirtualContainer (playerId : PlayerId) (kind : ContainerKindId) : TxM Unit :=
  pushPreviewedOp C (.openVirtualContainer playerId kind)

def setBlock (position : BlockPos) (block : Option BlockState) : TxM Unit :=
  pushPreviewedOp C (.setBlock position block)

def spawnDroppedItem (position : Vec3) (item : ItemStack) : TxM Unit :=
  pushPreviewedOp C (.spawnDroppedItem none position item)

def emitEvent (target : EventTarget) (event : CoreEvent) : TxM Unit :=
  pushPreviewedOp C (.emitEvent ⟨target, event⟩)

/-- `reject_connection`. -/
def rejectConnection (connectionId : ConnectionId) (reason : String) : List TargetedEvent :=
  [⟨.connection connectionId, .disconnect reason⟩]

def loginPlayer (config : CoreConfig) (savedPlayer : Option PlayerSnapshot) (username : String)
    (playerId : PlayerId) : PlayerSnapshot :=
  let player := savedPlayer.getD
    (defaultPlayer playerId username config.spawn C.starterInventory)
  { player with
    username := username, inventory := C.normalizePlayerInventory player.inventory }

/-- `begin_login`, which never returns `Err`: the rejection, if there is one. -/
def beginLogin (connectionId : ConnectionId) (username : String) (playerId : PlayerId) :
    TxM (Option (List TargetedEvent)) := do
  if username.isEmpty ∨ username.utf8ByteSize > 16 then
    return some (rejectConnection connectionId "Invalid username")
  let onlinePlayerCount ← overlayView C onlinePlayerCount
  record fun reads => { reads with
    onlinePlayerCount := reads.onlinePlayerCount.or (some onlinePlayerCount) }
  if onlinePlayerCount ≥ (← get).snapshot.world.config.maxPlayers then
    return some (rejectConnection connectionId "Server is full")
  let existingEntityId ← overlayView C (playerEntityId playerId)
  record fun reads => { reads with
    playerEntityIds := reads.playerEntityIds.insertIfNew playerId existingEntityId }
  if existingEntityId.isSome then
    return some (rejectConnection connectionId "Player is already online")
  let savedPlayer ← overlayView C (savedPlayer playerId)
  record fun reads => { reads with
    savedPlayers := reads.savedPlayers.insertIfNew playerId savedPlayer }
  let player := loginPlayer C (← get).snapshot.world.config savedPlayer username playerId
  let nextEntityId := (← get).currentNextEntityId
  record fun reads => { reads with
    nextEntityId := reads.nextEntityId.or (some nextEntityId) }
  let entityId ← onOverlay C allocateEntityId
  let tx ← get
  let prepareLogin := CoreOp.prepareLogin playerId player entityId
  let _ ← onOverlay C
    (reduceCoreOp C prepareLogin tx.nowMs (tx.materializedPreviewPlayers.insert playerId))
  modify fun tx => { tx with
    preparedPlayers := tx.preparedPlayers.insert playerId entityId
    journal := tx.journal ++ [prepareLogin] }
  return none

def finalizeLogin (connectionId : ConnectionId) (playerId : PlayerId) :
    TxM (Except String Unit) := do
  if (← overlayView C (composePlayerSnapshot playerId)).isNone then
    return .error "cannot finalize login for missing player"
  if (← overlayView C (playerSession playerId)).isNone then
    return .error "cannot finalize login for missing player session"
  modify fun tx => { tx with finalizedPlayers := tx.finalizedPlayers.insert playerId }
  pushPreviewedOp C (.finalizeLogin connectionId playerId)
  return .ok ()

end Tx

/-! ### Effects -/

def coreOpFromEffect : GameplayEffect → CoreOp
  | .setPlayerPose playerId position yaw pitch onGround =>
    .setPlayerPose playerId position yaw pitch onGround
  | .setSelectedHotbarSlot playerId slot => .setSelectedHotbarSlot playerId slot
  | .setInventorySlot playerId slot stack => .setInventorySlot playerId slot stack
  | .clearMining playerId => .clearMining playerId
  | .beginMining playerId position durationMs => .beginMining playerId position durationMs
  | .openContainerAt playerId position => .openContainerAt playerId position
  | .openVirtualContainer playerId kind => .openVirtualContainer playerId kind
  | .setBlock position block => .setBlock position block
  | .spawnDroppedItem position item => .spawnDroppedItem none position item
  | .emitEvent event => .emitEvent event

def applyEffectToTransaction : GameplayEffect → TxM Unit
  | .setPlayerPose playerId position yaw pitch onGround =>
    Tx.setPlayerPose C playerId position yaw pitch onGround
  | .setSelectedHotbarSlot playerId slot => Tx.setSelectedHotbarSlot C playerId slot
  | .setInventorySlot playerId slot stack => Tx.setInventorySlot C playerId slot stack
  | .clearMining playerId => Tx.clearMining C playerId
  | .beginMining playerId position durationMs => Tx.beginMining C playerId position durationMs
  | .openContainerAt playerId position => Tx.openContainerAt C playerId position
  | .openVirtualContainer playerId kind => Tx.openVirtualContainer C playerId kind
  | .setBlock position block => Tx.setBlock C position block
  | .spawnDroppedItem position item => Tx.spawnDroppedItem C position item
  | .emitEvent event => Tx.emitEvent C event.target event.event

def applyEffects : List GameplayEffect → TxM Unit
  | [] => pure ()
  | effect :: rest => do
    applyEffectToTransaction C effect
    applyEffects rest

/-! ### Built-in gameplay -/

namespace Builtin

def setHeldSlot (playerId : PlayerId) (slot : Int) : TxM Unit := do
  let some player ← Tx.playerSnapshot C playerId | pure ()
  if 0 ≤ slot ∧ slot < HOTBAR_SLOT_COUNT then
    Tx.clearMining C playerId
    Tx.setSelectedHotbarSlot C playerId slot.toNat
  else
    Tx.emitEvent C (.player playerId) (.selectedHotbarSlotChanged player.selectedHotbarSlot)

def rejectInventorySlotEvents (playerId : PlayerId) (slot : InventorySlot)
    (player : PlayerSnapshot) : TxM Unit := do
  Tx.emitEvent C (.player playerId)
    (.inventorySlotChanged 0 C.playerContainerKind slot (player.inventory.getSlot slot))
  Tx.emitEvent C (.player playerId) (.selectedHotbarSlotChanged player.selectedHotbarSlot)

def creativeInventorySet (playerId : PlayerId) (slot : InventorySlot) (stack : Option ItemStack) :
    TxM Unit := do
  let some player ← Tx.playerSnapshot C playerId | pure ()
  if (← Tx.worldMeta C).gameMode ≠ 1 ∨ !slot.isStorageSlot ∨ stack.any fun stack =>
      !C.isSupportedInventoryItem stack.key || stack.count = 0 || stack.count > 64 then
    rejectInventorySlotEvents C playerId slot player
  else Tx.setInventorySlot C playerId slot stack

def digBlock (playerId : PlayerId) (position : BlockPos) (status : Nat) : TxM Unit := do
  if status > 2 then return
  let some player ← Tx.playerSnapshot C playerId | pure ()
  if status = 1 then
    Tx.clearMining C playerId
    return
  let current ← Tx.blockState C position
  let protectedContainer ←
    if (current.bind C.containerKindForBlock).isSome then do
      let entity ← Tx.blockEntity C position
      pure (entity.any BlockEntityState.hasInventoryContents)
    else pure false
  let isEmpty := current.all C.isAirBlock
  let isUnbreakable := current.any C.isUnbreakableBlock
  if !(← Tx.canEditBlock C playerId position) || isEmpty || isUnbreakable ||
      protectedContainer then
    Tx.clearMining C playerId
    Tx.emitEvent C (.player playerId) (.blockChanged position current)
    return
  if (← Tx.worldMeta C).gameMode = 1 then
    Tx.clearMining C playerId
    Tx.setBlock C position none
    return
  match current with
  | none => throw "non-empty breakable block after validation"
  | some current =>
    let tool := C.toolSpecForItem
      (player.inventory.selectedHotbarStack player.selectedHotbarSlot)
    Tx.beginMining C playerId position ((C.survivalMiningDurationMs current tool).getD 50)

def heldInventorySlot (selectedHotbarSlot : Nat) : InteractionHand → InventorySlot
  | .main => .hotbar selectedHotbarSlot
  | .offhand => .offhand

def placeInventoryCorrection (playerId : PlayerId) (hand : InteractionHand)
    (player : PlayerSnapshot) : List TargetedEvent :=
  let selectedSlot := heldInventorySlot player.selectedHotbarSlot hand
  [⟨.player playerId, .inventorySlotChanged 0 C.playerContainerKind selectedSlot
      (player.inventory.getSlot selectedSlot)⟩,
    ⟨.player playerId, .selectedHotbarSlotChanged player.selectedHotbarSlot⟩]

def placeRejection (playerId : PlayerId) (hand : InteractionHand) (placePos : BlockPos)
    (player : PlayerSnapshot) : TxM Unit := do
  let block ← Tx.blockState C placePos
  Tx.emitEvent C (.player playerId) (.blockChanged placePos block)
  applyEffects C ((placeInventoryCorrection C playerId hand player).map .emitEvent)

def consumedStack (stack : ItemStack) : Option ItemStack :=
  if stack.count - 1 > 0 then some { stack with count := stack.count - 1 } else none

def placeBlock (playerId : PlayerId) (hand : InteractionHand) (position : BlockPos)
    (face : Option BlockFace) (heldItem : Option ItemStack) : TxM Unit := do
  let some face := face | pure ()
  let some player ← Tx.playerSnapshot C playerId | pure ()
  let placePos := position.offset face
  let some selectedStack := player.inventory.selectedStack player.selectedHotbarSlot hand
    | placeRejection C playerId hand placePos player
  if heldItem.any fun heldItem => heldItem ≠ selectedStack then
    placeRejection C playerId hand placePos player
    return
  let some block := C.placeableBlockStateFromItemKey selectedStack.key
    | placeRejection C playerId hand placePos player
  let targetBlock ← Tx.blockState C position
  let occupant ← Tx.blockState C placePos
  let targetIsEmpty := targetBlock.all C.isAirBlock
  let placeIsEmpty := occupant.all C.isAirBlock
  if !(← Tx.canEditBlock C playerId placePos) || targetIsEmpty || !placeIsEmpty then
    placeRejection C playerId hand placePos player
    return
  Tx.clearMining C playerId
  Tx.setBlock C placePos (some block)
  if (← Tx.worldMeta C).gameMode ≠ 1 then
    Tx.setInventorySlot C playerId (heldInventorySlot player.selectedHotbarSlot hand)
      (consumedStack selectedStack)

def useBlock (playerId : PlayerId) (hand : InteractionHand) (position : BlockPos)
    (face : Option BlockFace) (heldItem : Option ItemStack) : TxM Unit := do
  let targetBlock ← Tx.blockState C position
  if (targetBlock.bind C.containerKindForBlock).isSome then
    if !(← Tx.canEditBlock C playerId position) then
      Tx.emitEvent C (.player playerId) (.blockChanged position targetBlock)
    else
      Tx.clearMining C playerId
      Tx.openContainerAt C playerId position
  else placeBlock C playerId hand position face heldItem

end Builtin

def applyBuiltinGameplayCommand : GameplayCommand → TxM Unit
  | .moveIntent playerId position yaw pitch onGround =>
    Tx.setPlayerPose C playerId position yaw pitch onGround
  | .setHeldSlot playerId slot => Builtin.setHeldSlot C playerId slot
  | .creativeInventorySet playerId slot stack => Builtin.creativeInventorySet C playerId slot stack
  | .digBlock playerId position status _ => Builtin.digBlock C playerId position status
  | .placeBlock playerId hand position face heldItem =>
    Builtin.placeBlock C playerId hand position face heldItem
  | .useBlock playerId hand position face heldItem =>
    Builtin.useBlock C playerId hand position face heldItem

/-! ### Committing to a core -/

namespace ServerCore

def validateAndApplyGameplayJournal (core : ServerCore) (journal : GameplayJournal) :
    Panics (GameplayJournalApplyResult × ServerCore) := do
  if ← journal.readSet.matches C core then
    let (events, core) ← applyCoreOps C core journal.ops journal.nowMs
    pure (.applied events, core)
  else pure (.conflict, core)

/-- `commit` of a transaction that borrowed the core. -/
def commitTransaction (core : ServerCore) (tx : GameplayTransaction) :
    Panics (List TargetedEvent × ServerCore) := do
  match ← core.validateAndApplyGameplayJournal C tx.intoJournal with
  | (.applied events, core) => pure (events, core)
  | (.conflict, _) =>
    .error "gameplay transaction conflicted while committing to an exclusive core"

def applyBuiltinGameplayCommand (core : ServerCore) (command : GameplayCommand) (nowMs : Nat) :
    Panics (List TargetedEvent × ServerCore) := do
  let (_, tx) ← (RevyCraft.applyBuiltinGameplayCommand C command).run (.new core nowMs)
  core.commitTransaction C tx

def applyCommittedGameplayEffects (core : ServerCore) (nowMs : Nat)
    (effects : List GameplayEffect) : Panics (List TargetedEvent × ServerCore) :=
  applyCoreOps C core (effects.map coreOpFromEffect) nowMs

def validateAndApplyGameplayEffects (core : ServerCore) (batch : GameplayEffectBatch) :
    Panics (GameplayEffectApplyResult × ServerCore) := do
  if ← core.ask C (semanticReadsMatch batch.reads) then
    let (events, core) ← core.applyCommittedGameplayEffects C batch.nowMs batch.effects
    pure (.applied events, core)
  else pure (.conflict, core)

/-- `GameplayLoginPreview::new`: the transaction of the preview, or `none` when rejected. -/
def loginPreview (core : ServerCore) (connectionId : ConnectionId) (username : String)
    (playerId : PlayerId) (nowMs : Nat) : Panics (Option GameplayTransaction) := do
  match ← (Tx.beginLogin C connectionId username playerId).run (.new core nowMs) with
  | (some _, _) => pure none
  | (none, tx) => pure (some tx)

def finishLoginEffects (core : ServerCore) (preview : GameplayTransaction)
    (connectionId : ConnectionId) (playerId : PlayerId) (effects : List GameplayEffect) :
    Panics (GameplayEffectApplyResult × ServerCore) := do
  let (_, tx) ← (applyEffects C effects).run preview
  match ← (Tx.finalizeLogin C connectionId playerId).run tx with
  | (.error _, _) => pure (.conflict, core)
  | (.ok (), tx) => do
    let (result, core) ← core.validateAndApplyGameplayJournal C tx.intoJournal
    pure (gameplayEffectApplyResult result, core)

def validateAndApplyLoginEffects (core : ServerCore) (connectionId : ConnectionId)
    (username : String) (playerId : PlayerId) (batch : GameplayEffectBatch) :
    Panics (GameplayEffectApplyResult × ServerCore) := do
  match ← core.loginPreview C connectionId username playerId batch.nowMs with
  | none => pure (.conflict, core)
  | some preview => do
    let (matching, _) ← (Tx.overlayView C (semanticReadsMatch batch.reads)).run preview
    if matching then
      core.finishLoginEffects C preview connectionId playerId batch.effects
    else pure (.conflict, core)

def applyCommittedLoginEffects (core : ServerCore) (connectionId : ConnectionId)
    (username : String) (playerId : PlayerId) (nowMs : Nat) (effects : List GameplayEffect) :
    Panics (GameplayEffectApplyResult × ServerCore) := do
  match ← core.loginPreview C connectionId username playerId nowMs with
  | none => pure (.conflict, core)
  | some preview => core.finishLoginEffects C preview connectionId playerId effects

end ServerCore

end Content

end RevyCraft
