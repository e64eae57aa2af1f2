/-
  RevyCraft/BaseRuns.lean
  =======================
  **The state interface on a core.**

  What every read answers and every write leaves when a program runs on a core
  itself, as equations for `simp`, and the compound reads as functions of the
  core.
-/
import RevyCraft.StateAccess
import RevyCraft.Frames

namespace RevyCraft

open Std
open RevyCraft.Core
open Prog (run)

variable {C : ContentBehavior} (s : ServerCore)

/-! ### Reads -/

@[simp] theorem blockState_run (position : BlockPos) :
    run (baseState C) (blockState position) s = .ok (s.blockAt C position, s) := rfl

@[simp] theorem blockEntity_run (position : BlockPos) :
    run (baseState C) (blockEntity position) s = .ok (s.world.blockEntities[position]?, s) := rfl

@[simp] theorem playerEntityId_run (playerId : PlayerId) :
    run (baseState C) (playerEntityId playerId) s =
      .ok (s.entities.playersByPlayerId[playerId]?, s) := rfl

@[simp] theorem playerSession_run (playerId : PlayerId) :
    run (baseState C) (playerSession playerId) s =
      .ok (s.sessions.playerSessions[playerId]?, s) := rfl

@[simp] theorem playerIdentityByEntity_run (entityId : EntityId) :
    run (baseState C) (playerIdentityByEntity entityId) s =
      .ok (s.entities.playerIdentity[entityId]?, s) := rfl

@[simp] theorem playerTransformByEntity_run (entityId : EntityId) :
    run (baseState C) (playerTransformByEntity entityId) s =
      .ok (s.entities.playerTransform[entityId]?, s) := rfl

@[simp] theorem playerVitalsByEntity_run (entityId : EntityId) :
    run (baseState C) (playerVitalsByEntity entityId) s =
      .ok (s.entities.playerVitals[entityId]?, s) := rfl

@[simp] theorem playerInventoryByEntity_run (entityId : EntityId) :
    run (baseState C) (playerInventoryByEntity entityId) s =
      .ok (s.entities.playerInventory[entityId]?, s) := rfl

@[simp] theorem playerSelectedHotbarByEntity_run (entityId : EntityId) :
    run (baseState C) (playerSelectedHotbarByEntity entityId) s =
      .ok (s.entities.playerSelectedHotbar[entityId]?, s) := rfl

@[simp] theorem playerIds_run :
    run (baseState C) playerIds s = .ok (s.sessions.playerSessions.keys, s) := rfl

@[simp] theorem containerViewers_run (position : BlockPos) :
    run (baseState C) (containerViewers position) s =
      .ok (s.world.containerViewers[position]?, s) := rfl

theorem run_bind_of {α β : Type} {p : CoreM α} {f : α → CoreM β} {s t : ServerCore} {a : α}
    (h : run (baseState C) p s = .ok (a, t)) :
    run (baseState C) (p >>= f) s = run (baseState C) (f a) t := by
  rw [Prog.run_bind, h]
  rfl

theorem run_pure_bind {α β : Type} (a : α) (f : α → CoreM β) (s : ServerCore) :
    run (baseState C) (pure a >>= f) s = run (baseState C) (f a) s := rfl

/-- `compose_player_snapshot` of a core. -/
def ServerCore.playerSnapshot (playerId : PlayerId) : Option PlayerSnapshot :=
  (s.entities.playersByPlayerId[playerId]?).bind fun entityId =>
  (s.entities.playerIdentity[entityId]?).bind fun identity =>
  (s.entities.playerTransform[entityId]?).bind fun transform =>
  (s.entities.playerVitals[entityId]?).bind fun vitals =>
  (s.entities.playerInventory[entityId]?).bind fun inventory =>
  (s.entities.playerSelectedHotbar[entityId]?).map fun selectedHotbarSlot =>
    { id := identity.playerId
      username := identity.username
      position := transform.position
      yaw := transform.yaw
      pitch := transform.pitch
      onGround := transform.onGround
      dimension := transform.dimension
      health := vitals.health
      food := vitals.food
      foodSaturation := vitals.foodSaturation
      inventory := inventory
      selectedHotbarSlot := selectedHotbarSlot }

def ServerCore.inventoryOf (playerId : PlayerId) : Option PlayerInventory :=
  (s.entities.playersByPlayerId[playerId]?).bind fun entityId =>
    s.entities.playerInventory[entityId]?

@[simp] theorem composePlayerSnapshot_run (playerId : PlayerId) :
    run (baseState C) (composePlayerSnapshot playerId) s = .ok (s.playerSnapshot playerId, s) := by
  unfold composePlayerSnapshot ServerCore.playerSnapshot
  rw [run_bind_of (playerEntityId_run s playerId)]
  cases s.entities.playersByPlayerId[playerId]? with
  | none => rfl
  | some entityId =>
    dsimp only [Option.bind_some]
    unfold composePlayerSnapshotByEntity
    rw [run_bind_of (playerIdentityByEntity_run s entityId)]
    cases s.entities.playerIdentity[entityId]? with
    | none => rfl
    | some identity =>
      dsimp only [Option.bind_some]
      rw [run_bind_of (playerTransformByEntity_run s entityId)]
      cases s.entities.playerTransform[entityId]? with
      | none => rfl
      | some transform =>
        dsimp only [Option.bind_some]
        rw [run_bind_of (playerVitalsByEntity_run s entityId)]
        cases s.entities.playerVitals[entityId]? with
        | none => rfl
        | some vitals =>
          dsimp only [Option.bind_some]
          rw [run_bind_of (playerInventoryByEntity_run s entityId)]
          cases s.entities.playerInventory[entityId]? with
          | none => rfl
          | some inventory =>
            dsimp only [Option.bind_some]
            rw [run_bind_of (playerSelectedHotbarByEntity_run s entityId)]
            cases s.entities.playerSelectedHotbar[entityId]? with
            | none => rfl
            | some selectedHotbarSlot => rfl

@[simp] theorem playerInventory_run (playerId : PlayerId) :
    run (baseState C) (playerInventory playerId) s = .ok (s.inventoryOf playerId, s) := by
  unfold playerInventory ServerCore.inventoryOf
  rw [run_bind_of (playerEntityId_run s playerId)]
  cases s.entities.playersByPlayerId[playerId]? with
  | none => rfl
  | some entityId => rfl

theorem ServerCore.playerSnapshot_inventory {s : ServerCore} {playerId : PlayerId}
    {snapshot : PlayerSnapshot} (h : s.playerSnapshot playerId = some snapshot) :
    s.inventoryOf playerId = some snapshot.inventory := by
  unfold ServerCore.playerSnapshot at h
  unfold ServerCore.inventoryOf
  simp only [Option.bind_eq_some_iff, Option.map_eq_some_iff] at h
  obtain ⟨entityId, hentity, identity, -, transform, -, vitals, -, inventory, hinventory, slot, -,
    rfl⟩ := h
  rw [hentity]
  exact hinventory

/-! ### Blocks -/

theorem flattenBlockIndex_inj {x y z x' y' z' : Nat} (hx : x < 16) (hz : z < 16) (hx' : x' < 16)
    (hz' : z' < 16) (h : flattenBlockIndex x y z = flattenBlockIndex x' y' z') :
    x = x' ∧ y = y' ∧ z = z' := by
  unfold flattenBlockIndex at h
  omega

namespace ChunkColumn

variable (c : ChunkColumn)

theorem getBlock_putSection (x : Nat) (y : Int) (z : Nat) (sectionY : Int) (chunk : ChunkSection) :
    (c.putSection sectionY chunk).getBlock x y z =
      if sectionY = y / SECTION_HEIGHT then chunk.getBlock x (sectionLocalY y) z
      else c.getBlock x y z := by
  unfold getBlock putSection
  by_cases hsection : sectionY = y / SECTION_HEIGHT
  · rw [if_pos hsection]
    split
    · next hempty =>
      rw [BTreeMap.getElem?_erase_eq, if_pos hsection, Option.bind_none]
      unfold ChunkSection.getBlock
      rw [show chunk.blocks = ∅ from ExtTreeMap.isEmpty_iff.mp hempty]
      simp
    · rw [BTreeMap.getElem?_insert_eq, if_pos hsection, Option.bind_some]
  · rw [if_neg hsection]
    split
    · rw [BTreeMap.getElem?_erase_eq, if_neg hsection]
    · rw [BTreeMap.getElem?_insert_eq, if_neg hsection]

theorem getBlock_section_setBlock (chunk : ChunkSection) (x y z x' y' z' : Nat)
    (block : Option BlockState) :
    (chunk.setBlock x y z block).getBlock x' y' z' =
      if flattenBlockIndex x y z = flattenBlockIndex x' y' z' then block
      else chunk.getBlock x' y' z' := by
  cases block with
  | none => exact BTreeMap.getElem?_erase_eq ..
  | some block => exact BTreeMap.getElem?_insert_eq ..

theorem getBlock_setBlock {x : Nat} {y : Int} {z : Nat} {x' : Nat} {y' : Int} {z' : Nat}
    (hx : x < 16) (hz : z < 16) (hx' : x' < 16) (hz' : z' < 16) (block : Option BlockState) :
    (c.setBlock x y z block).getBlock x' y' z' =
      if x = x' ∧ y = y' ∧ z = z' then block else c.getBlock x' y' z' := by
  have hsame : y / SECTION_HEIGHT = y' / SECTION_HEIGHT ∧
      flattenBlockIndex x (sectionLocalY y) z = flattenBlockIndex x' (sectionLocalY y') z' ↔
        x = x' ∧ y = y' ∧ z = z' := by
    constructor
    · rintro ⟨hsection, hindex⟩
      obtain ⟨rfl, hy, rfl⟩ := flattenBlockIndex_inj hx hz hx' hz' hindex
      refine ⟨rfl, ?_, rfl⟩
      unfold sectionLocalY SECTION_HEIGHT at hy
      unfold SECTION_HEIGHT at hsection
      omega
    · rintro ⟨rfl, rfl, rfl⟩
      exact ⟨rfl, rfl⟩
  have hput : ∀ chunk : ChunkSection,
      (c.sections[y / SECTION_HEIGHT]? = some chunk ∨
        c.sections[y / SECTION_HEIGHT]? = none ∧ chunk.blocks = ∅) →
      (c.putSection (y / SECTION_HEIGHT) (chunk.setBlock x (sectionLocalY y) z block)).getBlock
          x' y' z' = if x = x' ∧ y = y' ∧ z = z' then block else c.getBlock x' y' z' := by
    intro chunk hchunk
    rw [getBlock_putSection, getBlock_section_setBlock]
    by_cases hsection : y / SECTION_HEIGHT = y' / SECTION_HEIGHT
    · rw [if_pos hsection]
      by_cases hindex : flattenBlockIndex x (sectionLocalY y) z =
          flattenBlockIndex x' (sectionLocalY y') z'
      · rw [if_pos hindex, if_pos (hsame.mp ⟨hsection, hindex⟩)]
      · rw [if_neg hindex, if_neg fun heq => hindex (hsame.mpr heq).2]
        unfold getBlock
        rw [← hsection]
        rcases hchunk with hsome | ⟨hnone, hempty⟩
        · rw [hsome]
          rfl
        · rw [hnone]
          unfold ChunkSection.getBlock
          rw [hempty]
          simp
    · rw [if_neg hsection, if_neg fun heq => hsection (hsame.mpr heq).1]
  unfold setBlock
  dsimp only
  cases hstored : c.sections[y / SECTION_HEIGHT]? with
  | some chunk =>
    cases block with
    | some block | none => exact hput chunk (.inl hstored)
  | none =>
    cases block with
    | some block => exact hput (.new (y / SECTION_HEIGHT)) (.inr ⟨hstored, rfl⟩)
    | none =>
      dsimp only
      by_cases heq : x = x' ∧ y = y' ∧ z = z'
      · rw [if_pos heq]
        unfold getBlock
        rw [← heq.2.1, hstored]
        rfl
      · rw [if_neg heq]

end ChunkColumn

theorem localBlockX_lt (pos : BlockPos) : localBlockX pos < 16 := by
  unfold localBlockX CHUNK_WIDTH
  omega

theorem localBlockZ_lt (pos : BlockPos) : localBlockZ pos < 16 := by
  unfold localBlockZ CHUNK_WIDTH
  omega

theorem ServerCore.chunkAt_setBlockAt (position : BlockPos) (block : Option BlockState)
    (chunkPos : ChunkPos) :
    (s.setBlockAt C position block).chunkAt C chunkPos =
      if position.chunkPos = chunkPos then
        (s.chunkAt C chunkPos).setBlock (localBlockX position) position.y (localBlockZ position)
          block
      else s.chunkAt C chunkPos := by
  have hensure := chunkAt_ensureChunk (C := C) s position.chunkPos
  unfold ServerCore.setBlockAt
  dsimp only
  conv_lhs => unfold ServerCore.chunkAt
  dsimp only
  rw [BTreeMap.getElem?_insert_eq]
  by_cases hchunk : position.chunkPos = chunkPos
  · subst hchunk
    rw [if_pos rfl, if_pos rfl, Option.getD_some, ← hensure position.chunkPos]
    rfl
  · rw [if_neg hchunk, if_neg hchunk]
    exact hensure chunkPos

/-- **The blocks after one was set.** -/
theorem ServerCore.blockAt_setBlockAt (position other : BlockPos) (block : Option BlockState) :
    (s.setBlockAt C position block).blockAt C other =
      if position = other then block else s.blockAt C other := by
  unfold ServerCore.blockAt
  rw [ServerCore.chunkAt_setBlockAt]
  by_cases hchunk : position.chunkPos = other.chunkPos
  · rw [if_pos hchunk, ChunkColumn.getBlock_setBlock _ (localBlockX_lt position)
      (localBlockZ_lt position) (localBlockX_lt other) (localBlockZ_lt other)]
    have hiff : localBlockX position = localBlockX other ∧ position.y = other.y ∧
        localBlockZ position = localBlockZ other ↔ position = other := by
      constructor
      · rintro ⟨hx, hy, hz⟩
        unfold BlockPos.chunkPos at hchunk
        unfold localBlockX CHUNK_WIDTH at hx
        unfold localBlockZ CHUNK_WIDTH at hz
        unfold CHUNK_WIDTH at hchunk
        obtain ⟨px, py, pz⟩ := position
        obtain ⟨ox, oy, oz⟩ := other
        simp only [ChunkPos.mk.injEq] at hchunk
        simp only [BlockPos.mk.injEq]
        dsimp only at hx hy hz
        omega
      · rintro rfl
        exact ⟨rfl, rfl, rfl⟩
    simp only [hiff]
  · rw [if_neg hchunk, if_neg]
    rintro rfl
    exact hchunk rfl

/-! ### Edits -/

theorem answer_ok {α V : Type} {edit : V → Panics (α × V)} {found : Option V} {s t : ServerCore}
    {a : Option α} (h : run (baseState C) (answer edit found) s = .ok (a, t)) :
    t = s ∧ (found = none ∧ a = none ∨
      ∃ value b after, found = some value ∧ edit value = .ok (b, after) ∧ a = some b) := by
  cases found with
  | none =>
    cases h
    exact ⟨rfl, .inl ⟨rfl, rfl⟩⟩
  | some value =>
    obtain ⟨⟨b, after⟩, t', hlift, hdone⟩ := Prog.run_bind_ok h
    obtain ⟨hedit, rfl⟩ := Prog.run_lift_ok hlift
    cases hdone
    exact ⟨rfl, .inr ⟨value, b, after, rfl, hedit, rfl⟩⟩

theorem playerSessionMut_ok {α : Type} {playerId : PlayerId}
    {edit : PlayerSessionState → Panics (α × PlayerSessionState)} {s t : ServerCore} {a : Option α}
    (h : run (baseState C) (playerSessionMut playerId edit) s = .ok (a, t)) :
    s.sessions.playerSessions[playerId]? = none ∧ a = none ∧ t = s ∨
      ∃ session b after, s.sessions.playerSessions[playerId]? = some session ∧
        edit session = .ok (b, after) ∧ a = some b ∧
        t = { s with sessions.playerSessions := s.sessions.playerSessions.insert playerId after } := by
  obtain ⟨found, s', hperform, hanswer⟩ := Prog.run_bind_ok h
  cases hperform
  obtain ⟨rfl, hcases⟩ := answer_ok hanswer
  change (s.sessions.playerSessions[playerId]? = none ∧ a = none ∨ _) at hcases
  rcases hcases with ⟨hnone, rfl⟩ | ⟨session, b, after, hsession, hedit, rfl⟩
  · refine .inl ⟨hnone, rfl, ?_⟩
    change { s with sessions.playerSessions := edited s.sessions.playerSessions playerId _ } = s
    unfold edited
    rw [hnone]
  · replace hsession : s.sessions.playerSessions[playerId]? = some session := hsession
    refine .inr ⟨session, b, after, hsession, hedit, rfl, ?_⟩
    change { s with sessions.playerSessions := edited s.sessions.playerSessions playerId _ } = _
    unfold edited committed
    rw [hsession]
    dsimp only
    rw [hedit]

theorem playerSessionInventoryMut_ok {α : Type} {playerId : PlayerId}
    {edit : PlayerSessionState × PlayerInventory → Panics (α × PlayerSessionState × PlayerInventory)}
    {s t : ServerCore} {a : Option α}
    (h : run (baseState C) (playerSessionInventoryMut playerId edit) s = .ok (a, t)) :
    (s.sessions.playerSessions[playerId]? = none ∨ s.inventoryOf playerId = none) ∧ a = none ∧
        t = s ∨
      ∃ entityId session inventory b session' inventory',
        s.entities.playersByPlayerId[playerId]? = some entityId ∧
        s.sessions.playerSessions[playerId]? = some session ∧
        s.entities.playerInventory[entityId]? = some inventory ∧
        edit (session, inventory) = .ok (b, session', inventory') ∧ a = some b ∧
        t = { s with
          sessions.playerSessions := s.sessions.playerSessions.insert playerId session'
          entities.playerInventory := s.entities.playerInventory.insert entityId inventory' } := by
  obtain ⟨found, s', hperform, hanswer⟩ := Prog.run_bind_ok h
  have hedited : (found, s') = s.editSessionInventory playerId (committed edit) := by
    cases hperform
    rfl
  obtain ⟨rfl, hcases⟩ := answer_ok hanswer
  unfold ServerCore.editSessionInventory at hedited
  unfold ServerCore.inventoryOf
  cases hentity : s.entities.playersByPlayerId[playerId]? with
  | none =>
    rw [hentity] at hedited
    cases hedited
    rcases hcases with ⟨-, rfl⟩ | ⟨value, b, after, hfound, -⟩
    · exact .inl ⟨.inr rfl, rfl, rfl⟩
    · cases hfound
  | some entityId =>
    rw [hentity] at hedited
    dsimp only [Option.bind_some] at hedited ⊢
    split at hedited
    · next session inventory hsession hinventory =>
      cases hedited
      rcases hcases with ⟨hnone, -⟩ | ⟨value, b, ⟨session', inventory'⟩, hfound, hedit, rfl⟩
      · cases hnone
      · cases hfound
        refine .inr ⟨entityId, session, inventory, b, session', inventory', rfl, hsession,
          hinventory, hedit, rfl, ?_⟩
        unfold committed
        rw [hedit]
    · next hmissing =>
      cases hedited
      rcases hcases with ⟨-, rfl⟩ | ⟨value, b, after, hfound, -⟩
      · refine .inl ⟨?_, rfl, rfl⟩
        cases hsession : s.sessions.playerSessions[playerId]? with
        | none => exact .inl rfl
        | some session =>
          cases hinventory : s.entities.playerInventory[entityId]? with
          | none => exact .inr rfl
          | some inventory => exact absurd hinventory (hmissing session inventory hsession)
      · cases hfound

end RevyCraft
