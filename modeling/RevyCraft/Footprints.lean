/-
  RevyCraft/Footprints.lean
  =========================
  **The parts of the state each function touches**, from the reads up to
  `reduceCoreOp` (`reduceCoreOp_within`).

  Every proof takes the program apart into its steps and finds each of them
  within the list.  The proofs about whole runs use these lemmas instead of
  the functions, wherever a function stays away from what they are about.
-/
import RevyCraft.Frames

namespace RevyCraft

open Std
open Prog (uses_perform)
open RevyCraft.Core

variable {C : ContentBehavior}

/-! ### Reading -/

section Reading

variable {parts : List Part}

theorem composePlayerSnapshotByEntity_within (entityId : EntityId) :
    Within parts (composePlayerSnapshotByEntity entityId) := by
  unfold composePlayerSnapshotByEntity
  repeat' with_reducible first | apply Within.bind | split | intro _
  all_goals first
    | exact Within.pure _
    | exact Within.reads fun _ h => h

theorem composePlayerSnapshot_within (playerId : PlayerId) :
    Within parts (composePlayerSnapshot playerId) := by
  unfold composePlayerSnapshot
  repeat' with_reducible first | apply Within.bind | split | intro _
  all_goals first
    | exact Within.pure _
    | exact Within.reads fun _ h => h
    | exact composePlayerSnapshotByEntity_within _

theorem playerInventory_within (playerId : PlayerId) :
    Within parts (Core.playerInventory playerId) := by
  unfold Core.playerInventory
  repeat' with_reducible first | apply Within.bind | split | intro _
  all_goals first
    | exact Within.pure _
    | exact Within.reads fun _ h => h

theorem playerSelectedHotbar_within (playerId : PlayerId) :
    Within parts (Core.playerSelectedHotbar playerId) := by
  unfold Core.playerSelectedHotbar
  repeat' with_reducible first | apply Within.bind | split | intro _
  all_goals first
    | exact Within.pure _
    | exact Within.reads fun _ h => h

theorem playerTransform_within (playerId : PlayerId) :
    Within parts (Core.playerTransform playerId) := by
  unfold Core.playerTransform
  repeat' with_reducible first | apply Within.bind | split | intro _
  all_goals first
    | exact Within.pure _
    | exact Within.reads fun _ h => h

theorem playerActiveMining_within (playerId : PlayerId) :
    Within parts (Core.playerActiveMining playerId) := by
  unfold Core.playerActiveMining
  repeat' with_reducible first | apply Within.bind | split | intro _
  all_goals first
    | exact Within.pure _
    | exact Within.reads fun _ h => h

theorem activeWindowId_within (playerId : PlayerId) :
    Within parts (activeWindowId playerId) := by
  unfold activeWindowId
  repeat' with_reducible first | apply Within.bind | split | intro _
  all_goals first
    | exact Within.pure _
    | exact Within.reads fun _ h => h

theorem ensureChunk_within (chunkPos : ChunkPos) : Within parts (ensureChunk chunkPos) :=
  Within.reads fun _ h => h

theorem initialVisibleChunks_within (center : ChunkPos) (viewDistance : Nat) :
    Within parts (initialVisibleChunks center viewDistance) :=
  Within.traverse ensureChunk_within _

theorem persistedOnlinePlayerSnapshotState_within (playerId : PlayerId) :
    Within parts (persistedOnlinePlayerSnapshotState C playerId) := by
  unfold persistedOnlinePlayerSnapshotState
  repeat' with_reducible first | apply Within.bind | split | intro _
  all_goals first
    | exact Within.pure _
    | exact Within.reads fun _ h => h
    | exact Within.lift _
    | exact composePlayerSnapshot_within _

theorem minesAt_within (position : BlockPos) (playerId : PlayerId) :
    Within parts (minesAt position playerId) := by
  unfold minesAt
  repeat' with_reducible first | apply Within.bind | split | intro _
  all_goals first
    | exact Within.pure _
    | exact playerActiveMining_within _

theorem mutualSight_within (previousPlayer snapshot : PlayerSnapshot)
    (previousView currentView : ClientView) (otherId : PlayerId) :
    Within parts (mutualSight previousPlayer snapshot previousView currentView otherId) := by
  unfold mutualSight
  repeat' with_reducible first | apply Within.bind | split | intro _
  all_goals first
    | exact Within.pure _
    | exact Within.reads fun _ h => h
    | exact Within.lift _
    | exact composePlayerSnapshot_within _

theorem itemSight_within (previousView currentView : ClientView) (entityId : EntityId) :
    Within parts (itemSight previousView currentView entityId) := by
  unfold itemSight
  repeat' with_reducible first | apply Within.bind | split | intro _
  all_goals first
    | exact Within.pure _
    | exact Within.reads fun _ h => h
    | exact Within.lift _

theorem loginSight_within (view : ClientView) (player : PlayerSnapshot) (otherId : PlayerId) :
    Within parts (loginSight view player otherId) := by
  unfold loginSight
  repeat' with_reducible first | apply Within.bind | split | intro _
  all_goals first
    | exact Within.pure _
    | exact Within.reads fun _ h => h
    | exact Within.lift _
    | exact composePlayerSnapshot_within _

theorem loginItem_within (view : ClientView) (entityId : EntityId) :
    Within parts (loginItem view entityId) := by
  unfold loginItem
  repeat' with_reducible first | apply Within.bind | split | intro _
  all_goals first
    | exact Within.pure _
    | exact Within.reads fun _ h => h
    | exact Within.lift _

theorem finalizeLoginDelta_within (connectionId : ConnectionId) (playerId : PlayerId) :
    Within parts (finalizeLoginDelta connectionId playerId) := by
  unfold finalizeLoginDelta
  dsimp only
  repeat' with_reducible first | apply Within.bind | split | intro _
  all_goals first
    | exact Within.pure _
    | exact Within.reads fun _ h => h
    | exact Within.lift _
    | exact composePlayerSnapshot_within _
    | exact initialVisibleChunks_within _ _
    | exact Within.filterMap (fun _ => loginSight_within _ _ _) _
    | exact Within.filterMap (fun _ => loginItem_within _ _) _

theorem restYFrom_within (blockX blockZ : Int) (blockY : Nat) :
    Within parts (restYFrom C blockX blockZ blockY) := by
  induction blockY with
  | zero =>
    apply Within.bind
    · exact Within.reads fun _ h => h
    intro block
    split
    · exact Within.pure _
    · exact Within.pure _
  | succ blockY ih =>
    apply Within.bind
    · exact Within.reads fun _ h => h
    intro block
    split
    · exact ih
    · exact Within.pure _

theorem advanceDroppedItemStep_within (item : DroppedItemState) :
    Within parts (advanceDroppedItemStep C item) := by
  unfold advanceDroppedItemStep
  dsimp only
  repeat' with_reducible first | apply Within.bind | split | intro _
  all_goals first
    | exact Within.pure _
    | exact restYFrom_within _ _ _

theorem advanceDroppedItemSteps_within (steps : Nat) (item : DroppedItemState) :
    Within parts (advanceDroppedItemSteps C steps item) := by
  induction steps generalizing item with
  | zero => exact Within.pure _
  | succ steps ih => exact (advanceDroppedItemStep_within item).bind fun _ => ih _

theorem advanceDroppedItemEntity_within (item : DroppedItemState) (nowMs : Nat) :
    Within parts (advanceDroppedItemEntity C item nowMs) := by
  unfold advanceDroppedItemEntity
  dsimp only
  repeat' with_reducible first | apply Within.bind | split | intro _
  all_goals first
    | exact Within.pure _
    | exact advanceDroppedItemSteps_within _ _

theorem nearestPickupPlayerIn_within (position : Vec3) :
    Within parts (nearestPickupPlayerIn position) := by
  unfold nearestPickupPlayerIn
  apply Within.bind
  · exact Within.reads fun _ h => h
  intro playerIds
  refine (Within.fold (fun best playerId => ?_) _ _).bind fun _ => Within.pure _
  refine (playerTransform_within _).bind fun transform => ?_
  dsimp only
  repeat' split
  all_goals exact Within.pure _

end Reading

theorem anyPlayerIntersects_within {parts : List Part} (position : BlockPos)
    (entityIds : List EntityId) : Within parts (anyPlayerIntersects position entityIds) := by
  induction entityIds with
  | nil => exact Within.pure _
  | cons entityId rest ih =>
    apply Within.bind
    · exact Within.reads fun _ h => h
    intro transform
    split
    · exact Within.pure _
    · exact ih

theorem canEditBlockForSnapshot_within (actor : PlayerSnapshot) (position : BlockPos) :
    Within [.entityListing] (canEditBlockForSnapshot actor position) := by
  unfold canEditBlockForSnapshot
  split
  · exact Within.pure _
  · split
    · exact Within.pure _
    · apply Within.bind
      · exact Within.writes (List.mem_singleton_self _) fun _ h => h
      intro entityIds
      exact (anyPlayerIntersects_within _ _).bind fun _ => Within.pure _

/-! ### Windows -/

/-- The parts that opening, changing and closing a window touches. -/
def windowParts : List Part :=
  [.inventory, .activeContainer, .sessionRest, .blockEntities, .containerViewers]

theorem registerWorldContainerViewerState_within (position : BlockPos) (playerId : PlayerId)
    (windowId : Nat) (kind : ContainerKindId) :
    Within windowParts (registerWorldContainerViewerState position playerId windowId kind) := by
  unfold registerWorldContainerViewerState
  dsimp only
  repeat' with_reducible first | apply Within.bind | split | intro _
  all_goals first
    | exact Within.reads fun _ h => h
    | exact Within.writes (by decide) fun _ h => h

theorem unregisterWorldContainerViewerAtState_within (position : BlockPos) (playerId : PlayerId) :
    Within windowParts (unregisterWorldContainerViewerAtState position playerId) := by
  unfold unregisterWorldContainerViewerAtState
  dsimp only
  repeat' with_reducible first | apply Within.bind | split | intro _
  all_goals first
    | exact Within.pure _
    | exact Within.reads fun _ h => h
    | exact Within.writes (by decide) fun _ h => h

theorem unregisterWorldContainerViewerState_within (window : OpenInventoryWindow) (playerId : PlayerId) :
    Within windowParts (unregisterWorldContainerViewerState window playerId) := by
  unfold unregisterWorldContainerViewerState
  repeat' with_reducible first | apply Within.bind | split | intro _
  all_goals first
    | exact Within.pure _
    | exact unregisterWorldContainerViewerAtState_within _ _

theorem writebackWorldContainerState_within (window : OpenInventoryWindow) :
    Within windowParts (writebackWorldContainerState C window) := by
  unfold writebackWorldContainerState
  repeat' with_reducible first | apply Within.bind | split | intro _
  all_goals first
    | exact Within.pure _
    | exact Within.reads fun _ h => h
    | exact Within.writes (by decide) fun _ h => h

theorem closeActiveContainerWindow_edit :
    SessionEdit windowParts Prod.fst (closeActiveContainerWindow C) := by
  have hkept : ∀ held window held',
      closeActiveContainerWindow C held = .ok (window, held') →
      held'.1.entityId = held.1.entityId ∧ held'.1.view = held.1.view := by
    intro held window held' h
    unfold closeActiveContainerWindow at h
    split at h
    · cases h
      exact ⟨rfl, rfl⟩
    · obtain ⟨inventory, -, h⟩ := except_bind_eq_ok.mp h
      cases h
      exact ⟨rfl, rfl⟩
  exact
    { entityId := fun v a v' h => (hkept v a v' h).1
      view := .inr fun v a v' h => (hkept v a v' h).2
      activeContainer := .inl (by decide)
      rest := by decide }

theorem closePlayerActiveContainerState_within (playerId : PlayerId) (includePlayerContents : Bool) :
    Within windowParts (closePlayerActiveContainerState C playerId includePlayerContents) := by
  unfold closePlayerActiveContainerState
  dsimp only
  repeat' with_reducible first | apply Within.bind | split | intro _
  all_goals first
    | exact Within.pure _
    | exact playerInventory_within _
    | exact playerSessionInventoryMut_within (by decide) closeActiveContainerWindow_edit
    | exact writebackWorldContainerState_within _
    | exact unregisterWorldContainerViewerState_within _ _

theorem closeInventoryWindowState_within (playerId : PlayerId) (windowId : Nat) :
    Within windowParts (closeInventoryWindowState C playerId windowId) := by
  unfold closeInventoryWindowState
  repeat' with_reducible first | apply Within.bind | split | intro _
  all_goals first
    | exact Within.pure _
    | exact activeWindowId_within _
    | exact closePlayerActiveContainerState_within _ _

theorem closeWorldContainerViewersState_within (position : BlockPos) :
    Within windowParts (closeWorldContainerViewersState C position) := by
  unfold closeWorldContainerViewersState
  dsimp only
  repeat' with_reducible first | apply Within.bind | split | intro _
  all_goals first
    | exact Within.pure _
    | exact Within.reads fun _ h => h
    | exact Within.filterMap (fun _ => closePlayerActiveContainerState_within _ _) _
    | exact Within.writes (by decide) fun _ h => h

theorem closeWorldContainerIfInvalidState_within (position : BlockPos) (block : Option BlockState) :
    Within windowParts (closeWorldContainerIfInvalidState C position block) := by
  unfold closeWorldContainerIfInvalidState
  dsimp only
  repeat' with_reducible first | apply Within.bind | split | intro _
  all_goals first
    | exact Within.pure _
    | exact Within.reads fun _ h => h
    | exact closeWorldContainerViewersState_within _
    | exact Within.writes (by decide) fun _ h => h

theorem closeContainerState_within (playerId : PlayerId) (windowId : Nat) (includePlayerContents : Bool) :
    Within windowParts (closeContainerState C playerId windowId includePlayerContents) := by
  unfold closeContainerState
  repeat' with_reducible first | apply Within.bind | split | intro _
  all_goals first
    | exact Within.pure _
    | exact activeWindowId_within _
    | exact closePlayerActiveContainerState_within _ _
    | exact closeInventoryWindowState_within _ _

/-! ### Viewers of a container -/

theorem syncViewer_within (position : BlockPos) (source : OpenContainerState)
    (viewerId : PlayerId) : Within windowParts (syncViewer position source viewerId) := by
  unfold syncViewer
  dsimp only
  repeat' with_reducible first | apply Within.bind | split | intro _
  all_goals first
    | exact Within.pure _
    | exact Within.reads fun _ h => h
    | exact playerInventory_within _
    | apply playerSessionMut_within
  refine ⟨?_, .inr ?_, .inl (by decide), by decide⟩
  all_goals
    intro session delta session' h
    repeat' split at h
    all_goals
      cases h
      rfl

theorem syncWorldContainerViewersState_within (position : BlockPos) (actorPlayerId : PlayerId) :
    Within windowParts (syncWorldContainerViewersState C position actorPlayerId) := by
  unfold syncWorldContainerViewersState
  dsimp only
  repeat' with_reducible first | apply Within.bind | split | intro _
  all_goals first
    | exact Within.pure _
    | exact Within.reads fun _ h => h
    | exact writebackWorldContainerState_within _
    | exact Within.traverse (fun _ => (syncViewer_within _ _ _).bind fun _ => Within.pure _) _
    | exact Within.traverse (unregisterWorldContainerViewerAtState_within _) _

theorem tickActiveContainerState_within (playerId : PlayerId) :
    Within windowParts (tickActiveContainerState C playerId) := by
  unfold tickActiveContainerState
  dsimp only
  repeat' with_reducible first | apply Within.bind | split | intro _
  all_goals first
    | exact Within.pure _
    | exact Within.reads fun _ h => h
    | exact playerInventory_within _
    | exact writebackWorldContainerState_within _
    | exact syncWorldContainerViewersState_within _ _
    | apply playerSessionInventoryMut_within (by decide)
  all_goals refine ⟨?_, .inr ?_, .inl (by decide), by decide⟩
  all_goals
    intro held delta held' h
    split at h
    all_goals
      cases h
      rfl

/-! ### Opening -/

theorem allocateNonPlayerWindowId_within (playerId : PlayerId) :
    Within [.sessionRest] (allocateNonPlayerWindowId playerId) := by
  refine playerSessionMut_within ⟨?_, .inr ?_, .inr ?_, by decide⟩
  all_goals
    intro session windowId session' h
    cases h
    rfl

theorem buildWorldContainerState_within (position : BlockPos) (kind : ContainerKindId) :
    Within windowParts (buildWorldContainerState C position kind) := by
  unfold buildWorldContainerState
  dsimp only
  repeat' with_reducible first | apply Within.bind | split | intro _
  all_goals first
    | exact Within.pure _
    | exact Within.reads fun _ h => h
    | exact Within.writes (by decide) fun _ h => h

theorem openNonPlayerWindowState_within (playerId : PlayerId) (window : OpenInventoryWindow)
    (title : String) : Within windowParts (openNonPlayerWindowState C playerId window title) := by
  unfold openNonPlayerWindowState
  dsimp only
  repeat' with_reducible first | apply Within.bind | split | intro _
  all_goals first
    | exact Within.pure _
    | exact Within.reads fun _ h => h
    | exact closePlayerActiveContainerState_within _ _
    | exact registerWorldContainerViewerState_within _ _ _ _
    | apply playerSessionMut_within
  all_goals refine ⟨?_, .inr ?_, .inl (by decide), by decide⟩
  all_goals
    intro session done session' h
    cases h
    rfl

theorem openVirtualContainerState_within (playerId : PlayerId) (kind : ContainerKindId) :
    Within windowParts (openVirtualContainerState C playerId kind) := by
  unfold openVirtualContainerState
  dsimp only
  repeat' with_reducible first | apply Within.bind | split | intro _
  all_goals first
    | exact Within.pure _
    | exact (allocateNonPlayerWindowId_within _).mono (by decide)
    | exact openNonPlayerWindowState_within _ _ _

theorem openWorldContainerState_within (playerId : PlayerId) (position : BlockPos) :
    Within windowParts (openWorldContainerState C playerId position) := by
  unfold openWorldContainerState
  dsimp only
  repeat' with_reducible first | apply Within.bind | split | intro _
  all_goals first
    | exact Within.pure _
    | exact Within.reads fun _ h => h
    | exact (allocateNonPlayerWindowId_within _).mono (by decide)
    | exact buildWorldContainerState_within _ _
    | exact openNonPlayerWindowState_within _ _ _

/-! ### Dropped items -/

theorem mergeStackIntoOnlinePlayerInventoryState_within (playerId : PlayerId) (stack : ItemStack) :
    Within [.inventory] (mergeStackIntoOnlinePlayerInventoryState C playerId stack) := by
  unfold mergeStackIntoOnlinePlayerInventoryState
  dsimp only
  repeat' with_reducible first | apply Within.bind | split | intro _
  all_goals first
    | exact Within.pure _
    | exact Within.reads fun _ h => h
    | exact playerInventory_within _
    | exact playerInventoryMut_within (by decide) _ _

theorem tickDroppedItemState_within (entityId : EntityId) (nowMs : Nat) :
    Within [.inventory, .droppedItems, .entityKinds] (tickDroppedItemState C entityId nowMs) := by
  unfold tickDroppedItemState
  dsimp only
  repeat' with_reducible first | apply Within.bind | split | intro _
  all_goals first
    | exact Within.pure _
    | exact advanceDroppedItemEntity_within _ _
    | exact nearestPickupPlayerIn_within _
    | exact (mergeStackIntoOnlinePlayerInventoryState_within _ _).mono (by decide)
    | exact Within.writes (by decide) fun _ h => h

/-! ### Players and blocks -/

theorem statePlayerPose_within (playerId : PlayerId) (position : Option Vec3)
    (yaw pitch : Option Float32) (onGround : Bool) :
    Within [.transform, .view, .sessionRest]
      (statePlayerPose playerId position yaw pitch onGround) := by
  unfold statePlayerPose
  dsimp only
  repeat' with_reducible first | apply Within.bind | split | intro _
  all_goals first
    | exact Within.pure _
    | exact Within.reads fun _ h => h
    | exact composePlayerSnapshot_within _
    | exact playerTransformMut_within (by decide) _ _
    | exact Within.filterMap (fun _ => mutualSight_within _ _ _ _ _) _
    | exact Within.filterMap (fun _ => itemSight_within _ _ _) _
    | exact Within.traverse ensureChunk_within _
    | apply playerSessionMut_within
  refine ⟨?_, .inl (by decide), .inr ?_, by decide⟩
  all_goals
    intro session found session' h
    cases h
    rfl

theorem stateSelectedHotbarSlot_within (playerId : PlayerId) (slot : Nat) :
    Within [.selectedHotbar] (stateSelectedHotbarSlot playerId slot) := by
  unfold stateSelectedHotbarSlot
  repeat' with_reducible first | apply Within.bind | split | intro _
  all_goals first
    | exact Within.pure _
    | exact Within.reads fun _ h => h
    | exact playerSelectedHotbarMut_within (by decide) _ _

theorem stateInventorySlot_within (playerId : PlayerId) (slot : InventorySlot)
    (stack : Option ItemStack) :
    Within [.inventory] (stateInventorySlot C playerId slot stack) := by
  unfold stateInventorySlot
  repeat' with_reducible first | apply Within.bind | split | intro _
  all_goals first
    | exact Within.pure _
    | exact Within.reads fun _ h => h
    | exact playerInventoryMut_within (by decide) _ _

theorem stateClearActiveMining_within (playerId : PlayerId) :
    Within [.activeMining] (stateClearActiveMining playerId) := by
  unfold stateClearActiveMining
  repeat' with_reducible first | apply Within.bind | split | intro _
  all_goals first
    | exact Within.pure _
    | exact Within.reads fun _ h => h
    | exact Within.writes (by decide) fun _ h => h

theorem stateClearActiveMiningAt_within (position : BlockPos) :
    Within [.activeMining] (stateClearActiveMiningAt position) := by
  unfold stateClearActiveMiningAt
  repeat' with_reducible first | apply Within.bind | split | intro _
  all_goals first
    | exact Within.reads fun _ h => h
    | exact Within.filterMap (minesAt_within _) _
    | exact Within.filterMap stateClearActiveMining_within _

theorem setPlayerActiveMining_within (entityId : EntityId) (state : Option ActiveMiningState) :
    Within [.activeMining, .miningStart] (setPlayerActiveMining entityId state) := by
  refine uses_perform fun part htouch => ?_
  rcases htouch with rfl | rfl <;> decide

theorem stateBeginMining_within (playerId : PlayerId) (position : BlockPos) (durationMs nowMs : Nat) :
    Within [.activeMining, .miningStart] (stateBeginMining C playerId position durationMs nowMs) := by
  unfold stateBeginMining
  repeat' with_reducible first | apply Within.bind | split | intro _
  all_goals first
    | exact Within.pure _
    | exact Within.reads fun _ h => h
    | exact (stateClearActiveMining_within _).mono (by decide)
    | exact playerInventory_within _
    | exact playerSelectedHotbar_within _
    | exact setPlayerActiveMining_within _ _

theorem stateAdvanceMiningStage_within (playerId : PlayerId) (entityId : EntityId)
    (position : BlockPos) (stage durationMs : Nat) :
    Within [.activeMining] (stateAdvanceMiningStage playerId entityId position stage durationMs) := by
  unfold stateAdvanceMiningStage
  repeat' with_reducible first | apply Within.bind | split | intro _
  all_goals first
    | exact Within.pure _
    | exact Within.reads fun _ h => h
    | exact playerActiveMiningMut_within (by decide) _ _

def blockParts : List Part := .activeMining :: .blocks :: windowParts

theorem stateSetBlock_within (position : BlockPos) (block : Option BlockState) :
    Within blockParts (stateSetBlock C position block) := by
  unfold stateSetBlock
  repeat' with_reducible first | apply Within.bind | split | intro _
  all_goals first
    | exact Within.pure _
    | exact (stateClearActiveMiningAt_within _).mono (by decide)
    | exact (closeWorldContainerIfInvalidState_within _ _).mono (by decide)
    | exact Within.writes (by decide) fun _ h => h

theorem stateSpawnDroppedItem_within (position : Vec3) (item : ItemStack) (nowMs : Nat) :
    Within [.entityCounter, .entityKinds, .droppedItems] (stateSpawnDroppedItem position item nowMs) := by
  unfold stateSpawnDroppedItem
  dsimp only
  repeat' with_reducible first | apply Within.bind | split | intro _
  all_goals first
    | exact Within.pure _
    | exact Within.writes (by decide) fun _ h => h

theorem miningRefused_within (player : PlayerSnapshot) (position : BlockPos)
    (current : Option BlockState) :
    Within [.entityListing] (miningRefused C player position current) := by
  unfold miningRefused
  repeat' with_reducible first | apply Within.bind | split | intro _
  all_goals first
    | exact Within.pure _
    | exact Within.reads fun _ h => h
    | exact canEditBlockForSnapshot_within _ _

theorem stateCompleteSurvivalMining_within (playerId : PlayerId) (position : BlockPos) (nowMs : Nat) :
    Within (.entityListing :: .entityCounter :: .entityKinds :: .droppedItems :: blockParts)
      (stateCompleteSurvivalMining C playerId position nowMs) := by
  unfold stateCompleteSurvivalMining
  repeat' with_reducible first | apply Within.bind | split | intro _
  all_goals first
    | exact Within.pure _
    | exact Within.reads fun _ h => h
    | exact composePlayerSnapshot_within _
    | exact playerActiveMining_within _
    | exact (miningRefused_within _ _ _).mono (by decide)
    | exact (stateClearActiveMining_within _).mono (by decide)
    | exact (stateSetBlock_within _ _).mono (by decide)
    | exact (stateSpawnDroppedItem_within _ _ _).mono (by decide)

theorem stateUpdateClientSettings_within (playerId : PlayerId) (viewDistance : Nat) :
    Within [.view, .sessionRest] (stateUpdateClientSettings playerId viewDistance) := by
  unfold stateUpdateClientSettings
  dsimp only
  repeat' with_reducible first | apply Within.bind | split | intro _
  all_goals first
    | exact Within.pure _
    | exact Within.reads fun _ h => h
    | exact composePlayerSnapshot_within _
    | exact Within.traverse ensureChunk_within _
    | apply playerSessionMut_within
  refine ⟨?_, .inl (by decide), .inr ?_, by decide⟩
  all_goals
    intro session added session' h
    obtain ⟨center, -, h⟩ := except_bind_eq_ok.mp h
    cases h
    rfl

/-! ### Clicks -/

theorem applyActiveContainerClick_keeps {session session' : PlayerSessionState}
    {inventory inventory' : PlayerInventory} {windowId : Nat} {slot : Option InventorySlot}
    {target : InventoryClickTarget} {button : InventoryClickButton} {applied : Bool}
    (h : applyActiveContainerClick C session inventory windowId slot target button =
      .ok (applied, session', inventory')) :
    session'.entityId = session.entityId ∧ session'.view = session.view := by
  unfold applyActiveContainerClick at h
  repeat' split at h
  all_goals first
    | (cases h; exact ⟨rfl, rfl⟩)
    | (obtain ⟨clicked, -, h⟩ := except_bind_eq_ok.mp h; cases h; exact ⟨rfl, rfl⟩)

theorem clickHeld_keeps {windowId : Nat} {target : InventoryClickTarget}
    {button : InventoryClickButton} {container : ContainerKindId}
    {held held' : PlayerSessionState × PlayerInventory}
    {outcome : Bool × InventoryWindowContents × List (ContainerPropertyKey × Int) ×
      Option ItemStack}
    (h : clickHeld C windowId target button container held = .ok (outcome, held')) :
    held'.1.entityId = held.1.entityId ∧ held'.1.view = held.1.view := by
  unfold clickHeld at h
  split at h
  · split at h
    · cases h
      exact ⟨rfl, rfl⟩
    · obtain ⟨clicked, -, h⟩ := except_bind_eq_ok.mp h
      cases h
      exact ⟨rfl, rfl⟩
  · obtain ⟨⟨applied, session, inventory⟩, hclick, h⟩ := except_bind_eq_ok.mp h
    cases h
    exact applyActiveContainerClick_keeps hclick

theorem applyInventoryClickState_within (playerId : PlayerId)
    (transaction : InventoryTransactionContext) (target : InventoryClickTarget)
    (button : InventoryClickButton) (validation : InventoryClickValidation) :
    Within windowParts
      (applyInventoryClickState C playerId transaction target button validation) := by
  unfold applyInventoryClickState
  dsimp only
  repeat' with_reducible first | apply Within.bind | split | intro _
  all_goals first
    | exact Within.pure _
    | exact Within.reads fun _ h => h
    | exact composePlayerSnapshot_within _
    | exact playerInventory_within _
    | exact playerSelectedHotbar_within _
    | exact syncWorldContainerViewersState_within _ _
    | exact playerSessionInventoryMut_within (by decide)
        { entityId := fun _ _ _ h => (clickHeld_keeps h).1
          view := .inr fun _ _ _ h => (clickHeld_keeps h).2
          activeContainer := .inl (by decide)
          rest := by decide }

/-! ### Keep-alive and departure -/

theorem acceptKeepAliveState_within (playerId : PlayerId) (keepAliveId : Int) :
    Within [.sessionRest] (acceptKeepAliveState playerId keepAliveId) := by
  unfold acceptKeepAliveState
  dsimp only
  repeat' with_reducible first | apply Within.bind | split | intro _
  all_goals first
    | exact Within.pure _
    | exact Within.reads fun _ h => h
    | apply playerSessionMut_within
  refine ⟨?_, .inr ?_, .inr ?_, by decide⟩
  all_goals
    intro session done session' h
    cases h
    rfl

theorem scheduleKeepAliveState_within (playerId : PlayerId) (nowMs : Nat) :
    Within [.sessionRest, .keepAliveCounter] (scheduleKeepAliveState playerId nowMs) := by
  unfold scheduleKeepAliveState
  repeat' with_reducible first | apply Within.bind | split | intro _
  all_goals first
    | exact Within.pure _
    | exact Within.reads fun _ h => h
    | exact Within.writes (by decide) fun _ h => h
    | apply playerSessionMut_within
  refine ⟨?_, .inr ?_, .inr ?_, by decide⟩
  all_goals
    intro session done session' h
    cases h
    rfl

def playerParts : List Part :=
  [.online, .entityKinds, .transform, .inventory, .selectedHotbar, .activeMining, .view,
    .activeContainer, .sessionRest]

theorem removeOnlinePlayer_within (playerId : PlayerId) :
    Within playerParts (removeOnlinePlayer playerId) :=
  uses_perform fun _ h => h

theorem spawnOnlinePlayer_within (player : PlayerSnapshot) (nowMs : Nat)
    (expectedEntityId : Option EntityId) :
    Within (.entityCounter :: playerParts) (spawnOnlinePlayer player nowMs expectedEntityId) := by
  refine (Within.lift _).bind fun center => uses_perform fun part h => ?_
  change part ∈ _ at h
  revert part
  decide

theorem disconnectPlayerState_within (playerId : PlayerId) :
    Within (.savedPlayers :: .blockEntities :: .containerViewers :: playerParts)
      (disconnectPlayerState C playerId) := by
  unfold disconnectPlayerState
  repeat' with_reducible first | apply Within.bind | split | intro _
  all_goals first
    | exact Within.pure _
    | exact (stateClearActiveMining_within _).mono (by decide)
    | exact persistedOnlinePlayerSnapshotState_within _
    | exact (removeOnlinePlayer_within _).mono (by decide)
    | exact (writebackWorldContainerState_within _).mono (by decide)
    | exact (unregisterWorldContainerViewerState_within _ _).mono (by decide)
    | exact Within.writes (by decide) fun _ h => h

/-! ### Operations -/

def CoreOp.parts : CoreOp → List Part
  | .prepareLogin _ _ _ => .entityCounter :: playerParts
  | .finalizeLogin _ _ => []
  | .setPlayerPose _ _ _ _ _ => [.transform, .view, .sessionRest]
  | .setSelectedHotbarSlot _ _ => [.selectedHotbar]
  | .setInventorySlot _ _ _ => [.inventory]
  | .setViewDistance _ _ => [.view, .sessionRest]
  | .inventoryClick _ _ _ _ _ => windowParts
  | .openContainerAt _ _ => windowParts
  | .openVirtualContainer _ _ => windowParts
  | .closeContainer _ _ _ => windowParts
  | .clearMining _ => [.activeMining]
  | .beginMining _ _ _ => [.activeMining, .miningStart]
  | .advanceMiningStage _ _ _ _ _ => [.activeMining]
  | .completeMining _ _ =>
    .entityListing :: .entityCounter :: .entityKinds :: .droppedItems :: blockParts
  | .tickActiveContainer _ => windowParts
  | .tickDroppedItem _ => [.inventory, .droppedItems, .entityKinds]
  | .requestKeepAlive _ => [.sessionRest, .keepAliveCounter]
  | .acknowledgeKeepAlive _ _ => [.sessionRest]
  | .setBlock _ _ => blockParts
  | .spawnDroppedItem _ _ _ => [.entityCounter, .entityKinds, .droppedItems]
  | .disconnectPlayer _ => .savedPlayers :: .blockEntities :: .containerViewers :: playerParts
  | .emitEvent _ => []

theorem reduceCoreOp_within (op : CoreOp) (nowMs : Nat) (players : BTreeSet PlayerId) :
    Within op.parts (reduceCoreOp C op nowMs players) := by
  cases op
  case prepareLogin playerId player expectedEntityId =>
    unfold reduceCoreOp
    dsimp only
    split
    · exact (spawnOnlinePlayer_within _ _ _).bind fun _ => Within.pure _
    · exact Within.pure _
  case emitEvent event => exact Within.pure _
  all_goals refine Within.bind ?_ fun _ => Within.pure _
  case finalizeLogin => exact finalizeLoginDelta_within _ _
  case setPlayerPose => exact statePlayerPose_within _ _ _ _ _
  case setSelectedHotbarSlot => exact stateSelectedHotbarSlot_within _ _
  case setInventorySlot => exact stateInventorySlot_within _ _ _
  case setViewDistance => exact stateUpdateClientSettings_within _ _
  case inventoryClick => exact applyInventoryClickState_within _ _ _ _ _
  case openContainerAt => exact openWorldContainerState_within _ _
  case openVirtualContainer => exact openVirtualContainerState_within _ _
  case closeContainer => exact closeContainerState_within _ _ _
  case clearMining => exact stateClearActiveMining_within _
  case beginMining => exact stateBeginMining_within _ _ _ _
  case advanceMiningStage => exact stateAdvanceMiningStage_within _ _ _ _ _
  case completeMining => exact stateCompleteSurvivalMining_within _ _ _
  case tickActiveContainer => exact tickActiveContainerState_within _
  case tickDroppedItem => exact tickDroppedItemState_within _ _
  case requestKeepAlive => exact scheduleKeepAliveState_within _ _
  case acknowledgeKeepAlive => exact acceptKeepAliveState_within _ _
  case setBlock => exact stateSetBlock_within _ _
  case spawnDroppedItem => exact stateSpawnDroppedItem_within _ _ _
  case disconnectPlayer => exact disconnectPlayerState_within _

end RevyCraft
