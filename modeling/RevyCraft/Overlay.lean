/-
  RevyCraft/Overlay.lean
  ======================
  **The overlay simulates the core below it.**

  An overlaid map shows, key by key, what the map of a core holds
  (`Shows`); a transaction's overlay simulates a core when all its maps and
  counters do.  Every method but the listing of the players' entities keeps
  the simulation and answers alike (`overlay_step`), so every program within
  the other parts runs alike on both.
-/
import RevyCraft.Footprints
import RevyCraft.Transaction

namespace RevyCraft

open Std

/-! ### One map -/

section Entries

variable {K V : Type} [Ord K] [TransOrd K] [LawfulEqOrd K] [DecidableEq K]

/-- The entries above a map show the contents of another map. -/
def Shows (entries : BTreeMap K (Option V)) (below map : BTreeMap K V) : Prop :=
  ∀ key : K, overlaid entries below key = map[key]?

variable {entries : BTreeMap K (Option V)} {below map : BTreeMap K V}

omit [LawfulEqOrd K] [DecidableEq K] in
theorem Shows.empty : Shows ∅ below below := by
  intro key
  simp [overlaid]

theorem getElem?_applyOptionalEntry (m : BTreeMap K V) (key other : K) (value : Option V) :
    (applyOptionalEntry m key value)[other]? = if key = other then value else m[other]? := by
  cases value with
  | none => exact BTreeMap.getElem?_erase_eq m key other
  | some value => exact BTreeMap.getElem?_insert_eq m key other value

theorem overlaid_insert (key other : K) (value : Option V) :
    overlaid (entries.insert key value) below other =
      if key = other then value else overlaid entries below other := by
  unfold overlaid
  rw [BTreeMap.getElem?_insert_eq]
  split <;> rfl

theorem Shows.set (h : Shows entries below map) (key : K) (value : Option V) :
    Shows (entries.insert key value) below (applyOptionalEntry map key value) := by
  intro other
  rw [overlaid_insert, getElem?_applyOptionalEntry, h other]

theorem Shows.insert (h : Shows entries below map) (key : K) (value : V) :
    Shows (entries.insert key (some value)) below (map.insert key value) :=
  h.set key (some value)

theorem Shows.erase (h : Shows entries below map) (key : K) :
    Shows (entries.insert key none) below (map.erase key) :=
  h.set key none

theorem erase_absent {m : BTreeMap K V} {key : K} (h : m[key]? = none) : m.erase key = m := by
  refine ExtTreeMap.ext_getElem? fun other => ?_
  rw [BTreeMap.getElem?_erase_eq]
  split
  · rename_i heq
    rw [← heq, h]
  · rfl

theorem Shows.touch (h : Shows entries below map) (key : K) :
    Shows (touched entries below key) below map := by
  unfold touched
  split
  · exact h
  · rename_i habsent
    split
    · exact h
    · rename_i value hbelow
      intro other
      rw [overlaid_insert]
      split
      · rename_i heq
        subst heq
        have hentry : entries[key]? = none := by simpa using habsent
        rw [← h key, overlaid, hentry]
        exact hbelow.symm
      · exact h other

omit [DecidableEq K] in
theorem join_touched (h : Shows entries below map) (key : K) :
    ((touched entries below key)[key]?).join = map[key]? := by
  rw [← h key]
  unfold touched overlaid
  split
  · rename_i hpresent
    obtain ⟨entry, hentry⟩ : ∃ entry, entries[key]? = some entry := by
      rw [ExtTreeMap.contains_eq_isSome_getElem?] at hpresent
      exact Option.isSome_iff_exists.mp hpresent
    simp [hentry]
  · rename_i habsent
    have hentry : entries[key]? = none := by simpa using habsent
    split
    · rename_i hbelow
      simp [hentry, hbelow]
    · rename_i value hbelow
      simp [hentry, hbelow]

omit [LawfulEqOrd K] [DecidableEq K] in
theorem overlaidEdit_eq (key : K) (edit : V → V) :
    overlaidEdit entries key edit = match (entries[key]?).join with
      | some value => entries.insert key (some (edit value))
      | none => entries := by
  unfold overlaidEdit
  rcases entries[key]? with _ | _ | value <;> rfl

theorem Shows.edit (h : Shows entries below map) (key : K) (edit : V → V) :
    Shows (overlaidEdit (touched entries below key) key edit) below (edited map key edit) := by
  rw [overlaidEdit_eq, join_touched h]
  unfold edited
  cases map[key]? with
  | none => exact h.touch key
  | some value => exact (h.touch key).insert key (edit value)

/-! ### Keys -/

omit [DecidableEq K] in
theorem mem_foldl_overlaid (list : List (K × Option V)) (keys : BTreeSet K) (key : K)
    (hdistinct : (list.map (·.1)).Nodup) :
    key ∈ list.foldl (fun keys (entry : K × Option V) =>
        match entry.2 with
        | some _ => keys.insert entry.1
        | none => keys.erase entry.1) keys ↔
      (∃ value, (key, some value) ∈ list) ∨ ((key, none) ∉ list ∧ key ∈ keys) := by
  induction list generalizing keys with
  | nil => simp
  | cons entry rest ih =>
    obtain ⟨other, value⟩ := entry
    rw [List.map_cons, List.nodup_cons] at hdistinct
    rw [List.foldl_cons, ih _ hdistinct.2]
    have hfresh : ∀ value', other = key → (key, value') ∉ rest := by
      rintro value' rfl hmem
      exact hdistinct.1 (List.mem_map.mpr ⟨_, hmem, rfl⟩)
    cases value with
    | none =>
      by_cases heq : other = key
      · subst heq
        simp [hfresh none rfl, fun value => hfresh (some value) rfl]
      · simp [heq, Ne.symm heq, ExtTreeSet.mem_erase]
    | some value =>
      by_cases heq : other = key
      · subst heq
        simp [hfresh none rfl]
      · simp [heq, Ne.symm heq, ExtTreeSet.mem_insert]

omit [DecidableEq K] in
theorem eq_of_ascending {l₁ l₂ : List K}
    (h₁ : l₁.Pairwise fun a b => compare a b = .lt) (h₂ : l₂.Pairwise fun a b => compare a b = .lt)
    (hmem : ∀ a, a ∈ l₁ ↔ a ∈ l₂) : l₁ = l₂ := by
  have hnodup : ∀ {l : List K}, l.Pairwise (fun a b => compare a b = .lt) → l.Nodup := by
    intro l h
    refine h.imp ?_
    rintro a b hlt rfl
    rw [@ReflCmp.compare_self K compare _ a] at hlt
    cases hlt
  have hperm := (List.perm_ext_iff_of_nodup (hnodup h₁) (hnodup h₂)).mpr hmem
  refine hperm.eq_of_pairwise ?_ h₁ h₂
  intro a b _ _ hab hba
  rw [@OrientedCmp.eq_swap K compare _ a b, hba] at hab
  cases hab

theorem Shows.keys (h : Shows entries below map) :
    (overlaidKeys entries below).toList = map.keys := by
  refine eq_of_ascending ExtTreeSet.ordered_toList ExtTreeMap.ordered_keys fun key => ?_
  have hdistinct : (entries.toList.map (·.1)).Nodup := by
    rw [ExtTreeMap.map_fst_toList_eq_keys]
    exact ExtTreeMap.nodup_keys
  rw [ExtTreeSet.mem_toList, ExtTreeMap.mem_keys]
  refine (mem_foldl_overlaid entries.toList _ key hdistinct).trans ?_
  rw [ExtTreeMap.mem_iff_isSome_getElem?, ← h key]
  simp only [BTreeMap.mem_toList]
  unfold overlaid
  rcases entries[key]? with _ | _ | value
  · simp
  · simp
  · simp

end Entries

/-! ### The whole overlay -/

variable {C : ContentBehavior}

variable (C) in
/-- The overlay shows what the core holds. -/
structure Simulates (s : OverlayState) (t : ServerCore) : Prop where
  config : s.base.world.config = t.world.config
  worldMeta : s.base.world.worldMeta = t.world.worldMeta
  keepaliveIntervalMs : s.base.sessions.keepaliveIntervalMs = t.sessions.keepaliveIntervalMs
  chunks : ∀ pos, s.chunkAt C pos = t.chunkAt C pos
  blockEntities : Shows s.overlay.blockEntities s.base.world.blockEntities t.world.blockEntities
  containerViewers :
    Shows s.overlay.containerViewers s.base.world.containerViewers t.world.containerViewers
  savedPlayers : Shows s.overlay.savedPlayers s.base.world.savedPlayers t.world.savedPlayers
  playersByPlayerId : Shows s.overlay.playersByPlayerId s.base.entities.playersByPlayerId
    t.entities.playersByPlayerId
  entityKinds : Shows s.overlay.entityKinds s.base.entities.entityKinds t.entities.entityKinds
  playerIdentity :
    Shows s.overlay.playerIdentity s.base.entities.playerIdentity t.entities.playerIdentity
  playerTransform :
    Shows s.overlay.playerTransform s.base.entities.playerTransform t.entities.playerTransform
  playerVitals : Shows s.overlay.playerVitals s.base.entities.playerVitals t.entities.playerVitals
  playerInventory :
    Shows s.overlay.playerInventory s.base.entities.playerInventory t.entities.playerInventory
  playerSelectedHotbar : Shows s.overlay.playerSelectedHotbar
    s.base.entities.playerSelectedHotbar t.entities.playerSelectedHotbar
  playerActiveMining : Shows s.overlay.playerActiveMining s.base.entities.playerActiveMining
    t.entities.playerActiveMining
  droppedItems : Shows s.overlay.droppedItems s.base.entities.droppedItems t.entities.droppedItems
  playerSessions :
    Shows s.overlay.playerSessions s.base.sessions.playerSessions t.sessions.playerSessions
  nextEntityId : s.nextEntityId = t.entities.nextEntityId
  nextKeepAliveId : s.nextKeepAliveId = t.sessions.nextKeepAliveId

namespace Simulates

variable {s : OverlayState} {t : ServerCore}

theorem fresh (core : ServerCore) : Simulates C ⟨core, .default⟩ core where
  config := rfl
  worldMeta := rfl
  keepaliveIntervalMs := rfl
  chunks := fun pos => by simp [OverlayState.chunkAt, TxOverlay.default]
  blockEntities := .empty
  containerViewers := .empty
  savedPlayers := .empty
  playersByPlayerId := .empty
  entityKinds := .empty
  playerIdentity := .empty
  playerTransform := .empty
  playerVitals := .empty
  playerInventory := .empty
  playerSelectedHotbar := .empty
  playerActiveMining := .empty
  droppedItems := .empty
  playerSessions := .empty
  nextEntityId := rfl
  nextKeepAliveId := rfl

/-! ### Chunks -/

theorem chunkAt_ensureChunk_overlay (s : OverlayState) (pos other : ChunkPos) :
    (s.ensureChunk C pos).chunkAt C other = s.chunkAt C other := by
  unfold OverlayState.ensureChunk
  split
  · rfl
  · rename_i habsent
    unfold OverlayState.chunkAt
    simp only [BTreeMap.getElem?_insert_eq]
    split
    · rename_i heq
      subst heq
      have hentry : s.overlay.chunks[pos]? = none := by simpa using habsent
      simp [hentry]
    · rfl

theorem ensureChunk (h : Simulates C s t) (pos : ChunkPos) :
    Simulates C (s.ensureChunk C pos) (t.ensureChunk C pos) := by
  have hchunks : ∀ other, (s.ensureChunk C pos).chunkAt C other =
      (t.ensureChunk C pos).chunkAt C other := by
    intro other
    rw [chunkAt_ensureChunk_overlay, chunkAt_ensureChunk, h.chunks]
  obtain ⟨chunks, ht⟩ := ensureChunk_eq (C := C) t pos
  rw [ht] at hchunks ⊢
  unfold OverlayState.ensureChunk at hchunks ⊢
  split at hchunks
  · rename_i hpresent
    rw [if_pos hpresent]
    exact { h with chunks := hchunks }
  · rename_i habsent
    rw [if_neg habsent]
    exact { h with chunks := hchunks }

theorem storeChunk (h : Simulates C s t) (pos : ChunkPos) (chunk : ChunkColumn) :
    Simulates C { s with overlay.chunks := s.overlay.chunks.insert pos chunk }
      { t with world.chunks := t.world.chunks.insert pos chunk } := by
  refine { h with chunks := fun other => ?_ }
  have hother := h.chunks other
  unfold OverlayState.chunkAt ServerCore.chunkAt at hother ⊢
  simp only [BTreeMap.getElem?_insert_eq]
  split
  · rfl
  · exact hother

theorem setBlockAt (h : Simulates C s t) (position : BlockPos) (block : Option BlockState) :
    Simulates C (s.setBlockAt C position block) (t.setBlockAt C position block) := by
  have hensured := h.ensureChunk position.chunkPos
  unfold OverlayState.setBlockAt ServerCore.setBlockAt
  dsimp only
  rw [← hensured.chunks]
  exact hensured.storeChunk position.chunkPos _

theorem blockAt (h : Simulates C s t) (position : BlockPos) :
    s.blockAt C position = t.blockAt C position := by
  unfold OverlayState.blockAt ServerCore.blockAt
  rw [h.chunks]

/-! ### Players -/

theorem claimEntityId (h : Simulates C s t) (expectedEntityId : Option EntityId) :
    (s.claimEntityId expectedEntityId).1 =
        (ServerCore.claimEntityId t.entities.nextEntityId expectedEntityId).1 ∧
      ((s.claimEntityId expectedEntityId).2.getD s.base.entities.nextEntityId) =
        (ServerCore.claimEntityId t.entities.nextEntityId expectedEntityId).2 := by
  have hnext := h.nextEntityId
  unfold OverlayState.claimEntityId ServerCore.claimEntityId
  unfold OverlayState.nextEntityId at hnext ⊢
  cases expectedEntityId with
  | none =>
    rw [hnext]
    refine ⟨rfl, ?_⟩
    simp only [saturatingSuccI32, Option.getD_some]
    split <;> split <;> omega
  | some entityId =>
    refine ⟨rfl, ?_⟩
    cases hrecorded : s.overlay.nextEntityId with
    | none =>
      rw [hrecorded] at hnext
      simp only [Option.getD_none] at hnext
      rw [hnext]
      simp only
      split <;> rfl
    | some next =>
      rw [hrecorded] at hnext
      simp only [Option.getD_some] at hnext ⊢
      rw [hnext]
      simp only [saturatingSuccI32]
      split <;> split <;> omega

theorem spawnOnlinePlayer (h : Simulates C s t) (player : PlayerSnapshot) (center : ChunkPos)
    (nowMs : Nat) (expectedEntityId : Option EntityId) :
    (s.spawnOnlinePlayer player center nowMs expectedEntityId).1 =
        (t.spawnOnlinePlayer player center nowMs expectedEntityId).1 ∧
      Simulates C (s.spawnOnlinePlayer player center nowMs expectedEntityId).2
        (t.spawnOnlinePlayer player center nowMs expectedEntityId).2 := by
  obtain ⟨hid, hnext⟩ := h.claimEntityId expectedEntityId
  unfold OverlayState.spawnOnlinePlayer ServerCore.spawnOnlinePlayer
  dsimp only
  rw [hid, h.config, h.keepaliveIntervalMs]
  refine ⟨rfl, ?_⟩
  exact { h with
    entityKinds := h.entityKinds.insert _ _
    playersByPlayerId := h.playersByPlayerId.insert _ _
    playerIdentity := h.playerIdentity.insert _ _
    playerTransform := h.playerTransform.insert _ _
    playerVitals := h.playerVitals.insert _ _
    playerInventory := h.playerInventory.insert _ _
    playerSelectedHotbar := h.playerSelectedHotbar.insert _ _
    playerActiveMining := h.playerActiveMining.erase _
    playerSessions := h.playerSessions.insert _ _
    nextEntityId := hnext }

theorem removeOnlinePlayer (h : Simulates C s t) (playerId : PlayerId) :
    (s.removeOnlinePlayer playerId).1 = (t.removeOnlinePlayer playerId).1 ∧
      Simulates C (s.removeOnlinePlayer playerId).2 (t.removeOnlinePlayer playerId).2 := by
  have hsession : s.playerSession playerId = t.sessions.playerSessions[playerId]? :=
    h.playerSessions playerId
  unfold OverlayState.removeOnlinePlayer ServerCore.removeOnlinePlayer
  rw [hsession]
  cases t.sessions.playerSessions[playerId]? with
  | none => exact ⟨rfl, h⟩
  | some session =>
    refine ⟨rfl, ?_⟩
    exact { h with
      playerSessions := h.playerSessions.erase _
      playersByPlayerId := h.playersByPlayerId.erase _
      entityKinds := h.entityKinds.erase _
      playerIdentity := h.playerIdentity.erase _
      playerTransform := h.playerTransform.erase _
      playerVitals := h.playerVitals.erase _
      playerInventory := h.playerInventory.erase _
      playerSelectedHotbar := h.playerSelectedHotbar.erase _
      playerActiveMining := h.playerActiveMining.erase _ }

/-- Editing session and inventory together; an overlay may copy the session before it finds
    no inventory. -/
theorem editSessionInventory (h : Simulates C s t) (playerId : PlayerId)
    (edit : PlayerSessionState × PlayerInventory → PlayerSessionState × PlayerInventory) :
    (s.editSessionInventory playerId edit).1 = (t.editSessionInventory playerId edit).1 ∧
      Simulates C (s.editSessionInventory playerId edit).2
        (t.editSessionInventory playerId edit).2 := by
  have hindex : s.playerEntityId playerId = t.entities.playersByPlayerId[playerId]? :=
    h.playersByPlayerId playerId
  unfold OverlayState.editSessionInventory ServerCore.editSessionInventory
  rw [hindex]
  cases t.entities.playersByPlayerId[playerId]? with
  | none => exact ⟨rfl, h⟩
  | some entityId =>
    have hsession := join_touched h.playerSessions playerId
    have hinventory := join_touched h.playerInventory entityId
    have hsessions := h.playerSessions.touch playerId
    have hinventories := h.playerInventory.touch entityId
    dsimp only
    rw [← hsession]
    rw [hinventory]
    rcases (touched s.overlay.playerSessions s.base.sessions.playerSessions playerId)[playerId]?
      with _ | _ | session
    · exact ⟨rfl, h⟩
    · exact ⟨rfl, { h with playerSessions := hsessions, playerInventory := hinventories }⟩
    · cases t.entities.playerInventory[entityId]? with
      | none =>
        exact ⟨rfl, { h with playerSessions := hsessions, playerInventory := hinventories }⟩
      | some inventory =>
        exact ⟨rfl, { h with
          playerSessions := hsessions.insert _ _
          playerInventory := hinventories.insert _ _ }⟩

theorem takeEntry {K V : Type} [Ord K] [TransOrd K] [LawfulEqOrd K] [DecidableEq K]
    {entries : BTreeMap K (Option V)} {below map : BTreeMap K V} (h : Shows entries below map)
    {key : K} (hnone : overlaid entries below key = none) : map.erase key = map :=
  erase_absent ((h key).symm.trans hnone)

end Simulates

/-- **One method.**  Every method but the listing of the players' entities is answered alike
    and keeps the simulation. -/
theorem overlay_step (o : StateOp) (ho : ¬ o.Touches .entityListing) {s : OverlayState}
    {t : ServerCore} (h : Simulates C s t) :
    (overlayState C o s).1 = (baseState C o t).1 ∧
      Simulates C (overlayState C o s).2 (baseState C o t).2 := by
  cases o
  case config => exact ⟨h.config, h⟩
  case worldMeta => exact ⟨h.worldMeta, h⟩
  case blockState position => exact ⟨h.blockAt position, h⟩
  case blockEntity position => exact ⟨h.blockEntities position, h⟩
  case savedPlayer playerId => exact ⟨h.savedPlayers playerId, h⟩
  case playerEntityId playerId => exact ⟨h.playersByPlayerId playerId, h⟩
  case playerSession playerId => exact ⟨h.playerSessions playerId, h⟩
  case playerIdentityByEntity entityId => exact ⟨h.playerIdentity entityId, h⟩
  case playerTransformByEntity entityId => exact ⟨h.playerTransform entityId, h⟩
  case playerVitalsByEntity entityId => exact ⟨h.playerVitals entityId, h⟩
  case playerInventoryByEntity entityId => exact ⟨h.playerInventory entityId, h⟩
  case playerSelectedHotbarByEntity entityId => exact ⟨h.playerSelectedHotbar entityId, h⟩
  case playerActiveMiningByEntity entityId => exact ⟨h.playerActiveMining entityId, h⟩
  case droppedItemByEntity entityId => exact ⟨h.droppedItems entityId, h⟩
  case playerIds => exact ⟨h.playerSessions.keys, h⟩
  case playerEntityIds => exact absurd rfl ho
  case droppedItemIds => exact ⟨h.droppedItems.keys, h⟩
  case containerViewers position => exact ⟨h.containerViewers position, h⟩
  case keepaliveIntervalMs => exact ⟨h.keepaliveIntervalMs, h⟩
  case ensureChunk pos => exact ⟨(h.ensureChunk pos).chunks pos, h.ensureChunk pos⟩
  case setBlockState position block => exact ⟨rfl, h.setBlockAt position block⟩
  case setBlockEntity position entity =>
    exact ⟨rfl, { h with blockEntities := h.blockEntities.set position entity }⟩
  case playerSessionMut playerId edit =>
    exact ⟨join_touched h.playerSessions playerId,
      { h with playerSessions := h.playerSessions.edit playerId edit }⟩
  case playerSessionInventoryMut playerId edit => exact h.editSessionInventory playerId edit
  case playerTransformMut entityId edit =>
    exact ⟨join_touched h.playerTransform entityId,
      { h with playerTransform := h.playerTransform.edit entityId edit }⟩
  case playerInventoryMut entityId edit =>
    exact ⟨join_touched h.playerInventory entityId,
      { h with playerInventory := h.playerInventory.edit entityId edit }⟩
  case playerSelectedHotbarMut entityId edit =>
    exact ⟨join_touched h.playerSelectedHotbar entityId,
      { h with playerSelectedHotbar := h.playerSelectedHotbar.edit entityId edit }⟩
  case playerActiveMiningMut entityId edit =>
    exact ⟨join_touched h.playerActiveMining entityId,
      { h with playerActiveMining := h.playerActiveMining.edit entityId edit }⟩
  case removePlayerActiveMining entityId =>
    have hshown := h.playerActiveMining entityId
    simp only [overlayState, baseState, ← hshown]
    cases hentry : overlaid s.overlay.playerActiveMining s.base.entities.playerActiveMining
        entityId with
    | none =>
      rw [Simulates.takeEntry h.playerActiveMining hentry]
      exact ⟨rfl, h⟩
    | some mining =>
      exact ⟨rfl, { h with playerActiveMining := h.playerActiveMining.erase entityId }⟩
  case setPlayerActiveMining entityId state =>
    exact ⟨rfl, { h with playerActiveMining := h.playerActiveMining.set entityId state }⟩
  case allocateEntityId =>
    refine ⟨congrArg EntityId.mk h.nextEntityId, { h with nextEntityId := ?_ }⟩
    exact congrArg saturatingSuccI32 h.nextEntityId
  case allocateKeepAliveId =>
    refine ⟨h.nextKeepAliveId, { h with nextKeepAliveId := ?_ }⟩
    exact congrArg saturatingSuccI32 h.nextKeepAliveId
  case setEntityKind entityId kind =>
    exact ⟨rfl, { h with entityKinds := h.entityKinds.set entityId kind }⟩
  case setDroppedItem entityId item =>
    exact ⟨rfl, { h with droppedItems := h.droppedItems.set entityId item }⟩
  case takeDroppedItem entityId =>
    have hshown := h.droppedItems entityId
    simp only [overlayState, baseState, ← hshown]
    cases hentry : overlaid s.overlay.droppedItems s.base.entities.droppedItems entityId with
    | none =>
      rw [Simulates.takeEntry h.droppedItems hentry]
      exact ⟨rfl, h⟩
    | some item =>
      exact ⟨rfl, { h with droppedItems := h.droppedItems.erase entityId }⟩
  case setSavedPlayer playerId snapshot =>
    exact ⟨rfl, { h with savedPlayers := h.savedPlayers.set playerId snapshot }⟩
  case setContainerViewers position viewers =>
    exact ⟨rfl, { h with containerViewers := h.containerViewers.set position viewers }⟩
  case spawnOnlinePlayer player center nowMs expectedEntityId =>
    exact h.spawnOnlinePlayer player center nowMs expectedEntityId
  case removeOnlinePlayer playerId => exact h.removeOnlinePlayer playerId

theorem overlay_base (o : StateOp) (s : OverlayState) : (overlayState C o s).2.base = s.base := by
  cases o <;> simp only [overlayState]
  case ensureChunk pos =>
    unfold OverlayState.ensureChunk
    split <;> rfl
  case setBlockState position block =>
    unfold OverlayState.setBlockAt OverlayState.ensureChunk
    dsimp only
    split <;> rfl
  case playerSessionInventoryMut playerId edit =>
    unfold OverlayState.editSessionInventory
    dsimp only
    repeat' split
    all_goals rfl
  case removePlayerActiveMining entityId => split <;> rfl
  case takeDroppedItem entityId => split <;> rfl
  case spawnOnlinePlayer player center nowMs expectedEntityId => rfl
  case removeOnlinePlayer playerId =>
    unfold OverlayState.removeOnlinePlayer
    split <;> rfl

theorem overlay_run_base {α : Type} (p : CoreM α) {s s' : OverlayState} {a : α}
    (hrun : p.run (overlayState C) s = .ok (a, s')) : s'.base = s.base := by
  induction p generalizing s with
  | pure b =>
    cases hrun
    rfl
  | op o next ih => exact (ih _ hrun).trans (overlay_base o s)
  | panic message => cases hrun

theorem overlay_run {α : Type} {parts : List Part} {p : CoreM α} (hp : Within parts p)
    (hparts : .entityListing ∉ parts) {s : OverlayState} {t : ServerCore} (h : Simulates C s t) :
    Prog.Agree (Simulates C) (p.run (overlayState C) s) (p.run (baseState C) t) := by
  refine Prog.run_simulates (fun o ho s t hst => ?_) hp h
  exact overlay_step o (fun htouch => hparts (ho _ htouch)) hst

end RevyCraft
