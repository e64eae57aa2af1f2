/-
  RevyCraft/FurnaceTicks.lean
  ===========================
  **A furnace and its viewers in one tick.**

  A tick schedules one operation for every player with an open window.  Each of
  them ticks the player's own copy of the container, writes it back and hands it
  to the other viewers, so a furnace with several viewers is ticked several
  times.  Once the windows agree with the furnace (`Settled`), the rest of the
  tick leaves it as they made it.
-/
import RevyCraft.WindowFrames

namespace RevyCraft

open Std
open RevyCraft.Core
open Prog (run Keeps Triple triple_bind triple_pure)
open ServerCore

variable {C : ContentBehavior}

/-! ### A settled container -/

variable {s t core : ServerCore} {nowMs : Nat} {ops : List CoreOp}

section Settled

variable (C) (position : BlockPos) (state : OpenContainerState)

/-- As long as the container stands at the position, its block entity and every window that shows
    it hold the given state. -/
def Settled (core : ServerCore) : Prop :=
  core.containerKindAt C position = some state.kind →
    core.world.blockEntities[position]? = state.blockEntityState.map .container ∧
      ∀ playerId window, (core.inventoryOf playerId).isSome →
        core.windowOf playerId = some window → window.worldPosition = some position →
        window.container = state

variable {C} {position} {state}

theorem Settled.of_within {α : Type} {parts : List Part} {p : CoreM α} (hp : Within parts p)
    (hparts : ∀ part ∈ [Part.blocks, .blockEntities, .activeContainer, .online], part ∉ parts) :
    Keeps (baseState C) (Settled C position state) p := by
  intro s hs a t hrun hkind
  rw [containerKindAt_of_same (hp.same (hparts .blocks (by decide)) hrun)] at hkind
  obtain ⟨hentity, hwindows⟩ := hs hkind
  refine ⟨?_, fun playerId window hinventory hwindow => ?_⟩
  · rw [show t.world.blockEntities = _ from hp.same (hparts .blockEntities (by decide)) hrun]
    exact hentity
  · rw [windowOf_of_same (hp.same (hparts .activeContainer (by decide)) hrun)] at hwindow
    rw [hp.inventoryOf_isSome (hparts .online (by decide)) hrun] at hinventory
    exact hwindows playerId window hinventory hwindow

theorem aboutWindows_settled : AboutWindows C (Settled C position state) :=
  fun hp hparts => Settled.of_within hp fun part hpart =>
    hparts part ((by decide : [Part.blocks, .blockEntities, .activeContainer, .online] ⊆
      containerParts) hpart)

theorem Settled.writtenBack {u : ServerCore} (hs : Settled C position state s)
    (hblocks : ∀ place, u.blockAt C place = s.blockAt C place)
    (hentities : u.world.blockEntities = s.world.blockEntities)
    (hwindows : ∀ playerId window, (u.inventoryOf playerId).isSome →
      u.windowOf playerId = some window →
      (s.inventoryOf playerId).isSome ∧ s.windowOf playerId = some window) {ownerId : PlayerId}
    {window : OpenInventoryWindow} (howner : (s.inventoryOf ownerId).isSome)
    (hwindow : s.windowOf ownerId = some window) :
    Settled C position state (withoutWindowViewer window ownerId (writtenBack C window u)) := by
  intro hkind
  have hkind' : s.containerKindAt C position = some state.kind := by
    unfold ServerCore.containerKindAt at hkind ⊢
    rw [blockAt_withoutWindowViewer, blockAt_writtenBack, hblocks] at hkind
    exact hkind
  obtain ⟨hentity, hstates⟩ := hs hkind'
  refine ⟨?_, fun playerId shown hinventory hshown hposition => ?_⟩
  · rw [blockEntities_withoutWindowViewer, blockEntities_writtenBack, hentities]
    split
    · next hhere => rw [hstates ownerId window howner hwindow hhere.1]
    · exact hentity
  · unfold ServerCore.inventoryOf at hinventory
    unfold ServerCore.windowOf at hshown
    rw [withoutWindowViewer_entities, writtenBack_entities] at hinventory
    rw [withoutWindowViewer_sessions, writtenBack_sessions] at hshown
    obtain ⟨hinventory', hshown'⟩ := hwindows playerId shown hinventory hshown
    exact hstates playerId shown hinventory' hshown' hposition

theorem closePlayerActiveContainerState_settled (playerId : PlayerId)
    (includePlayerContents : Bool) :
    Keeps (baseState C) (Settled C position state)
      (closePlayerActiveContainerState C playerId includePlayerContents) := by
  intro s hs answer t hrun
  rcases closePlayerActiveContainerState_ok hrun with ⟨-, -, rfl⟩ |
    ⟨window, contents, ⟨entityId, session, inventory, inventory', hentity, hsession, hinventory,
      hwindow, -, rfl⟩, -, -⟩
  · exact hs
  · have howner : (s.inventoryOf playerId).isSome := by
      unfold ServerCore.inventoryOf
      rw [hentity, Option.bind_some, hinventory]
      rfl
    have howned : s.windowOf playerId = some window := by
      unfold ServerCore.windowOf
      rw [hsession]
      exact hwindow
    apply Settled.writtenBack hs _ _ _ howner howned
    · intro place
      rfl
    · rfl
    intro other shown hother hshown
    unfold ServerCore.windowOf at hshown
    dsimp only at hshown
    rw [BTreeMap.getElem?_insert_eq] at hshown
    split at hshown
    · cases hshown
    · refine ⟨?_, hshown⟩
      unfold ServerCore.inventoryOf at hother ⊢
      dsimp only at hother
      cases hindex : s.entities.playersByPlayerId[other]? with
      | none =>
        rw [hindex] at hother
        cases hother
      | some otherEntity =>
        rw [hindex, Option.bind_some, BTreeMap.getElem?_insert_eq] at hother
        rw [Option.bind_some]
        split at hother
        · next hsame =>
          rw [← hsame, hinventory]
          rfl
        · exact hother

theorem setBlockEntity_settled {place : BlockPos} (hplace : place ≠ position)
    (blockEntity : Option BlockEntityState) :
    Keeps (baseState C) (Settled C position state) (setBlockEntity place blockEntity) := by
  intro s hs answer t hrun
  cases hrun
  intro hkind
  obtain ⟨hentity, hwindows⟩ := hs hkind
  refine ⟨?_, hwindows⟩
  change (applyOptionalEntry s.world.blockEntities place blockEntity)[position]? = _
  unfold applyOptionalEntry
  cases blockEntity with
  | none =>
    dsimp only
    rw [BTreeMap.getElem?_erase_eq, if_neg hplace]
    exact hentity
  | some blockEntity =>
    dsimp only
    rw [BTreeMap.getElem?_insert_eq, if_neg hplace]
    exact hentity

theorem closeWorldContainerViewersState_settled (place : BlockPos) :
    Keeps (baseState C) (Settled C position state) (closeWorldContainerViewersState C place) := by
  unfold closeWorldContainerViewersState
  refine triple_bind (aboutWindows_settled.reads (Within.reads fun _ h => h)) fun viewers => ?_
  refine triple_bind (Prog.keeps_filterMap _ fun viewerId _ =>
    closePlayerActiveContainerState_settled viewerId true) fun deltas => ?_
  have hviewers : Within [.containerViewers] (setContainerViewers place none) :=
    Within.writes (by decide) fun _ h => h
  refine triple_bind (Settled.of_within hviewers (by decide)) fun _ => ?_
  exact triple_pure fun _ hs => hs

theorem closeWorldContainerIfInvalidState_settled {place : BlockPos} (hplace : place ≠ position)
    (block : Option BlockState) :
    Keeps (baseState C) (Settled C position state)
      (closeWorldContainerIfInvalidState C place block) := by
  unfold closeWorldContainerIfInvalidState
  refine triple_bind (aboutWindows_settled.reads (Within.reads fun _ h => h)) fun entity => ?_
  split
  on_goal 1 => refine triple_bind (setBlockEntity_settled hplace none) fun _ => ?_
  -- What remains is the same with and without the block entity: the viewers of the place.
  all_goals
    refine triple_bind (aboutWindows_settled.reads (Within.reads fun _ h => h)) fun viewers => ?_
    cases viewers with
    | none => exact triple_pure fun _ hs => hs
    | some viewers =>
      dsimp only
      split
      · exact triple_pure fun _ hs => hs
      · exact closeWorldContainerViewersState_settled place

/-- A block that is taken away elsewhere leaves the container alone, and with the block of the
    container nothing is left to say. -/
theorem stateSetBlock_none_settled (place : BlockPos) :
    Keeps (baseState C) (Settled C position state) (stateSetBlock C place none) := by
  unfold stateSetBlock
  have hclear : Keeps (baseState C) (Settled C position state) (stateClearActiveMiningAt place) :=
    Settled.of_within (stateClearActiveMiningAt_within place) (by decide)
  refine triple_bind hclear fun cleared => ?_
  by_cases hplace : place = position
  · subst hplace
    intro s hs delta t hrun hkind
    obtain ⟨answer, s₁, hset, h₁⟩ := Prog.run_bind_ok hrun
    have hgone : s₁.containerKindAt C place = none := by
      cases hset
      unfold ServerCore.containerKindAt
      change ((s.setBlockAt C place none).blockAt C place).bind C.containerKindForBlock = none
      rw [ServerCore.blockAt_setBlockAt, if_pos rfl]
      rfl
    have hrest : Within windowParts (do
        let closedContainers ← closeWorldContainerIfInvalidState C place none
        setBlockEntity place none
        pure (⟨place, cleared, closedContainers⟩ : BlockDelta)) := by
      refine (closeWorldContainerIfInvalidState_within place none).bind fun closed => ?_
      have hset : Within windowParts (setBlockEntity place none) :=
        Within.writes (by decide) fun _ h => h
      exact hset.bind fun _ => Within.pure _
    rw [containerKindAt_of_same (hrest.same (by decide) h₁), hgone] at hkind
    cases hkind
  · have hset : Keeps (baseState C) (Settled C position state) (setBlockState place none) := by
      intro s hs answer t hrun
      cases hrun
      intro hkind
      have hsame : (s.setBlockAt C place none).blockAt C position = s.blockAt C position := by
        rw [ServerCore.blockAt_setBlockAt, if_neg hplace]
      change (s.setBlockAt C place none).containerKindAt C position = _ at hkind
      unfold ServerCore.containerKindAt at hkind
      rw [hsame] at hkind
      obtain ⟨hentity, hwindows⟩ := hs hkind
      obtain ⟨chunks, hchunks⟩ := setBlockAt_eq (C := C) s place none
      change (s.setBlockAt C place none).world.blockEntities[position]? = _ ∧
        ∀ playerId window, ((s.setBlockAt C place none).inventoryOf playerId).isSome →
          (s.setBlockAt C place none).windowOf playerId = some window → _
      rw [hchunks]
      exact ⟨hentity, hwindows⟩
    refine triple_bind hset fun _ => ?_
    refine triple_bind (closeWorldContainerIfInvalidState_settled hplace none) fun closed => ?_
    refine triple_bind (setBlockEntity_settled hplace none) fun _ => ?_
    exact triple_pure fun _ hs => hs

theorem removeOnlinePlayer_left (s : ServerCore) (ownerId playerId : PlayerId)
    (window : OpenInventoryWindow)
    (hinventory : ((s.removeOnlinePlayer ownerId).2.inventoryOf playerId).isSome)
    (hwindow : (s.removeOnlinePlayer ownerId).2.windowOf playerId = some window) :
    (s.inventoryOf playerId).isSome ∧ s.windowOf playerId = some window := by
  unfold ServerCore.removeOnlinePlayer at hinventory hwindow
  cases hsession : s.sessions.playerSessions[ownerId]? with
  | none =>
    rw [hsession] at hinventory hwindow
    exact ⟨hinventory, hwindow⟩
  | some session =>
    rw [hsession] at hinventory hwindow
    unfold ServerCore.windowOf at hwindow
    unfold ServerCore.inventoryOf at hinventory ⊢
    dsimp only at hinventory hwindow
    rw [BTreeMap.getElem?_erase_eq] at hinventory hwindow
    split at hwindow
    · cases hwindow
    · next hother =>
      rw [if_neg hother] at hinventory
      refine ⟨?_, hwindow⟩
      cases hindex : s.entities.playersByPlayerId[playerId]? with
      | none =>
        rw [hindex] at hinventory
        cases hinventory
      | some entityId =>
        rw [hindex, Option.bind_some, BTreeMap.getElem?_erase_eq] at hinventory
        rw [Option.bind_some]
        split at hinventory
        · cases hinventory
        · exact hinventory

theorem disconnectPlayerState_settled (playerId : PlayerId) :
    Keeps (baseState C) (Settled C position state) (disconnectPlayerState C playerId) := by
  intro s hs answer t hrun
  obtain ⟨cleared, s₁, hclear, hcases⟩ := disconnectPlayerState_ok hrun
  have hs₁ := aboutWindows_settled (stateClearActiveMining_within playerId) (by decide) s hs
    cleared s₁ hclear
  rcases hcases with ⟨-, rfl⟩ | ⟨session, saved, left, hsnapshot, hsession, rfl, rfl⟩
  · exact hs₁
  · have hleft := removeOnlinePlayer_left s₁ playerId
    have hworld := removeOnlinePlayer_world s₁ playerId
    have hblocks : ∀ place, (s₁.removeOnlinePlayer playerId).2.blockAt C place =
        s₁.blockAt C place := by
      intro place
      unfold ServerCore.blockAt ServerCore.chunkAt
      rw [hworld]
    change Settled C position state ((s₁.removeOnlinePlayer playerId).2.withoutWindow C
      session.activeContainer playerId)
    cases hwindow : session.activeContainer with
    | none =>
      intro hkind
      change ((s₁.removeOnlinePlayer playerId).2.blockAt C position).bind _ = _ at hkind
      rw [hblocks] at hkind
      obtain ⟨hentity, hwindows⟩ := hs₁ hkind
      change (s₁.removeOnlinePlayer playerId).2.world.blockEntities[position]? = _ ∧
        ∀ other window, ((s₁.removeOnlinePlayer playerId).2.inventoryOf other).isSome →
          (s₁.removeOnlinePlayer playerId).2.windowOf other = some window → _
      rw [hworld]
      refine ⟨hentity, fun other window hinventory hshown => ?_⟩
      obtain ⟨hinventory', hshown'⟩ := hleft other window hinventory hshown
      exact hwindows other window hinventory' hshown'
    | some window =>
      have howner : (s₁.inventoryOf playerId).isSome := by
        obtain ⟨snapshot, hsnapshot⟩ := Option.isSome_iff_exists.mp hsnapshot
        rw [ServerCore.playerSnapshot_inventory hsnapshot]
        rfl
      have howned : s₁.windowOf playerId = some window := by
        unfold ServerCore.windowOf
        rw [hsession]
        exact hwindow
      exact Settled.writtenBack hs₁ hblocks (by rw [hworld]) hleft howner howned

theorem reduceCoreOp_settled {op : CoreOp} (hop : op.Scheduled) (hwindow : ¬ op.TicksWindow)
    (nowMs : Nat) (players : BTreeSet PlayerId) :
    Keeps (baseState C) (Settled C position state) (reduceCoreOp C op nowMs players) := by
  cases op
  case tickActiveContainer => exact absurd trivial hwindow
  case completeMining playerId place =>
    exact triple_bind (aboutWindows_settled.stateCompleteSurvivalMining
      (stateSetBlock_none_settled place) playerId nowMs) fun _ => triple_pure fun _ h => h
  case disconnectPlayer playerId =>
    exact triple_bind (disconnectPlayerState_settled playerId) fun _ => triple_pure fun _ h => h
  case tickDroppedItem entityId =>
    exact Settled.of_within (reduceCoreOp_within (.tickDroppedItem entityId) nowMs players)
      (by simp [CoreOp.parts])
  case advanceMiningStage playerId entityId place stage durationMs =>
    exact Settled.of_within (reduceCoreOp_within
      (.advanceMiningStage playerId entityId place stage durationMs) nowMs players)
      (by simp [CoreOp.parts])
  case requestKeepAlive playerId =>
    exact Settled.of_within (reduceCoreOp_within (.requestKeepAlive playerId) nowMs players)
      (by simp [CoreOp.parts])
  all_goals exact hop.elim

theorem reduceOps_settled {players : BTreeSet PlayerId}
    (hops : ∀ op ∈ ops, op.Scheduled ∧ ¬ op.TicksWindow) (hs : Settled C position state s)
    (hrun : reduceOps C nowMs players ops s = .ok t) : Settled C position state t := by
  induction ops generalizing s with
  | nil =>
    cases hrun
    exact hs
  | cons op rest ih =>
    obtain ⟨⟨applied, u⟩, hop, hrest⟩ := except_bind_eq_ok.mp hrun
    obtain ⟨hscheduled, hwindow⟩ := hops op List.mem_cons_self
    refine ih (fun op' hop' => hops op' (List.mem_cons_of_mem _ hop')) ?_ hrest
    exact reduceCoreOp_settled hscheduled hwindow nowMs players s hs applied u hop

end Settled

/-! ### Ticking the windows -/

section Ticking

/-- Ticking leaves a container where it is, and what it is. -/
structure TicksInPlace (C : ContentBehavior) : Prop where
  kind : ∀ container, (C.tickContainer container).kind = container.kind
  binding : ∀ container, (C.tickContainer container).binding = container.binding

theorem TicksInPlace.worldPosition (hC : TicksInPlace C) (container : OpenContainerState) :
    (C.tickContainer container).worldPosition = container.worldPosition := by
  unfold OpenContainerState.worldPosition
  rw [hC.binding]

theorem reduceOps_append {players : BTreeSet PlayerId} {first second : List CoreOp}
    (h : reduceOps C nowMs players (first ++ second) s = .ok t) :
    ∃ u, reduceOps C nowMs players first s = .ok u ∧
      reduceOps C nowMs players second u = .ok t := by
  induction first generalizing s with
  | nil => exact ⟨s, rfl, h⟩
  | cons op rest ih =>
    obtain ⟨⟨applied, v⟩, hop, hrest⟩ := except_bind_eq_ok.mp h
    obtain ⟨u, hfirst, hsecond⟩ := ih hrest
    refine ⟨u, ?_, hsecond⟩
    unfold reduceOps
    rw [hop]
    exact hfirst

theorem activeContainerOps_ok {playerIds : List PlayerId}
    (h : run (baseState C) (Prog.filterMap activeContainerOp playerIds) s = .ok (ops, t)) :
    t = s ∧ ops = (playerIds.filter fun playerId => (s.windowOf playerId).isSome).map
      .tickActiveContainer := by
  induction playerIds generalizing ops with
  | nil =>
    cases h
    exact ⟨rfl, rfl⟩
  | cons first rest ih =>
    obtain ⟨found, u, hfirst, h₁⟩ := Prog.run_bind_ok h
    obtain ⟨others, v, hrest, h₂⟩ := Prog.run_bind_ok h₁
    cases h₂
    have hfound : u = s ∧ found =
        if (s.windowOf first).isSome then some (.tickActiveContainer first) else none := by
      cases hfirst
      refine ⟨rfl, ?_⟩
      unfold ServerCore.windowOf
      change (if (s.sessions.playerSessions[first]?).any fun session =>
        session.activeContainer.isSome then _ else _) = _
      cases s.sessions.playerSessions[first]? with
      | none => rfl
      | some session => rfl
    obtain ⟨rfl, rfl⟩ := hfound
    obtain ⟨rfl, rfl⟩ := ih hrest
    refine ⟨rfl, ?_⟩
    rw [List.filter_cons]
    split
    · rfl
    · rfl

theorem schedulerTick_ops {keepaliveTimeoutMs : Nat}
    (h : core.ask C (schedulerTick nowMs keepaliveTimeoutMs) = .ok ops) :
    ∃ later, ops = (core.sessions.playerSessions.keys.filter
        fun playerId => (core.windowOf playerId).isSome).map .tickActiveContainer ++ later ∧
      ∀ op ∈ later, op.Scheduled ∧ ¬ op.TicksWindow := by
  obtain ⟨⟨ops', core'⟩, hrun, rfl⟩ := except_map_eq_ok.mp h
  unfold schedulerTick at hrun
  rw [run_bind_of (playerIds_run core)] at hrun
  obtain ⟨containerOps, s₁, hcontainers, h₁⟩ := Prog.run_bind_ok hrun
  obtain ⟨rfl, rfl⟩ := activeContainerOps_ok hcontainers
  obtain ⟨items, s₂, -, h₂⟩ := Prog.run_bind_ok h₁
  obtain ⟨miningOps, s₃, hmining, h₃⟩ := Prog.run_bind_ok h₂
  obtain ⟨keepaliveOps, s₄, hkeepalive, h₄⟩ := Prog.run_bind_ok h₃
  cases h₄
  obtain ⟨entityIds, s₅, -, hmining⟩ := Prog.run_bind_ok hmining
  obtain ⟨playerIds, s₆, -, hkeepalive⟩ := Prog.run_bind_ok hkeepalive
  refine ⟨items.map .tickDroppedItem ++ miningOps ++ keepaliveOps, ?_, ?_⟩
  · simp [List.append_assoc]
  · intro op hop
    simp only [List.mem_append, List.mem_map] at hop
    rcases hop with (⟨entityId, -, rfl⟩ | hop) | hop
    · exact ⟨trivial, id⟩
    · exact Prog.triple_filterMap (activeMiningOp_scheduled nowMs) _ _ trivial _ _ hmining op hop
    · exact Prog.triple_filterMap (keepaliveOp_scheduled nowMs _) _ _ trivial _ _ hkeepalive op hop

end Ticking

/-! ### The furnace -/

section Furnace

open Canonical

/-- Two containers of one kind at one place. -/
def SamePlace (before after : OpenContainerState) : Prop :=
  after.kind = before.kind ∧ after.binding = before.binding

theorem SamePlace.trans {a b c : OpenContainerState} (hab : SamePlace a b) (hbc : SamePlace b c) :
    SamePlace a c :=
  ⟨hbc.1.trans hab.1, hbc.2.trans hab.2⟩

theorem setProperty_place (state : OpenContainerState) (key : ContainerPropertyKey)
    (value : Int) : SamePlace state (setProperty state key value) := ⟨rfl, rfl⟩

theorem normalizeFurnace_place (state : OpenContainerState) :
    SamePlace state (normalizeFurnace state) := by
  unfold normalizeFurnace
  dsimp only
  repeat' split
  all_goals exact ⟨rfl, rfl⟩

theorem lightFurnace_place (state : OpenContainerState) : SamePlace state (lightFurnace state) := by
  unfold lightFurnace
  repeat' split
  all_goals exact ⟨rfl, rfl⟩

theorem cookFurnace_place (cookTotal : Int) (state : OpenContainerState) :
    SamePlace state (cookFurnace cookTotal state) := by
  unfold cookFurnace
  dsimp only
  repeat' split
  all_goals exact ⟨rfl, rfl⟩

theorem tickFurnace_place (state : OpenContainerState) : SamePlace state (tickFurnace state) := by
  have hburns : ∀ burnLeft : Int, SamePlace state (lightFurnace
      (if burnLeft > 0 then setProperty (normalizeFurnace state) Ids.FURNACE_BURN_LEFT (burnLeft - 1)
        else normalizeFurnace state)) := by
    intro burnLeft
    refine SamePlace.trans ?_ (lightFurnace_place _)
    split
    · exact (normalizeFurnace_place state).trans (setProperty_place ..)
    · exact normalizeFurnace_place state
  have hends : ∀ (cookTotal : Int) (lit : OpenContainerState), SamePlace state lit →
      SamePlace state (if property lit Ids.FURNACE_BURN_LEFT > 0 then cookFurnace cookTotal lit
        else setProperty (setProperty lit Ids.FURNACE_COOK_PROGRESS 0) Ids.FURNACE_BURN_MAX 0) := by
    intro cookTotal lit hlit
    split
    · exact hlit.trans (cookFurnace_place cookTotal lit)
    · exact (hlit.trans (setProperty_place ..)).trans (setProperty_place ..)
  exact hends _ _ (hburns _)

end Furnace

theorem canonical_ticksInPlace : TicksInPlace canonicalContent := by
  constructor
  · intro container
    change (if container.kind = Ids.FURNACE then Canonical.tickFurnace container
      else container).kind = _
    split
    · exact (tickFurnace_place container).1
    · rfl
  · intro container
    change (if container.kind = Ids.FURNACE then Canonical.tickFurnace container
      else container).binding = _
    split
    · exact (tickFurnace_place container).2
    · rfl

theorem tick_windows {core' : ServerCore} {events : List TargetedEvent}
    (htick : core.tick C nowMs = .ok (events, core')) :
    ∃ players core₁ later, reduceOps C nowMs players ((core.sessions.playerSessions.keys.filter
        fun playerId => (core.windowOf playerId).isSome).map .tickActiveContainer) core =
          .ok core₁ ∧
      (∀ op ∈ later, op.Scheduled ∧ ¬ op.TicksWindow) ∧
      reduceOps C nowMs players later core₁ = .ok core' := by
  unfold ServerCore.tick at htick
  obtain ⟨ops, hops, happly⟩ := except_bind_eq_ok.mp htick
  obtain ⟨later, rfl, hlater⟩ := schedulerTick_ops hops
  obtain ⟨core₁, hwindows, hrest⟩ := reduceOps_append (applyCoreOps_reduce happly)
  exact ⟨_, core₁, later, hwindows, hlater, hrest⟩

theorem mem_keys_of_window {playerId : PlayerId} {window : OpenInventoryWindow}
    (hwindow : core.windowOf playerId = some window) :
    playerId ∈ core.sessions.playerSessions.keys.filter
      fun playerId => (core.windowOf playerId).isSome := by
  rw [List.mem_filter, hwindow]
  refine ⟨?_, rfl⟩
  rw [ExtTreeMap.mem_keys, ExtTreeMap.mem_iff_isSome_getElem?]
  obtain ⟨session, hsession, -⟩ := Option.bind_eq_some_iff.mp hwindow
  rw [hsession]
  rfl

def furnacePosition : BlockPos := ⟨1, 4, 1⟩

/-- A stored world with a furnace next to the spawn. -/
def furnaceWorld : WorldSnapshot where
  worldMeta := (ServerCore.new .default).world.worldMeta
  chunks := ExtTreeMap.ofList [(⟨0, 0⟩, (ChunkColumn.new ⟨0, 0⟩).setBlock 1 4 1
    (some (.new "minecraft:furnace")))] compare
  blockEntities := ∅
  players := ∅

def useFurnace (playerId : PlayerId) : CoreStep :=
  .apply (.gameplay (.useBlock playerId .main furnacePosition (some .top) none)) 5

def furnaceViewers : List CoreStep :=
  [.apply (.loginStart ⟨1⟩ "alice" ⟨7⟩) 5, .apply (.loginStart ⟨2⟩ "bob" ⟨8⟩) 5,
    useFurnace ⟨7⟩, useFurnace ⟨8⟩]

def clickFurnace (slot : InventorySlot) : CoreStep :=
  .apply (.inventoryClick ⟨7⟩ ⟨1, 0⟩ (.slot slot) .left .authoritative) 5

/-- One of the viewers puts sand and planks into the furnace. -/
def furnaceFed : List CoreStep :=
  furnaceViewers ++ [clickFurnace (.hotbar 5), clickFurnace (.windowLocal 0),
    clickFurnace (.hotbar 4), clickFurnace (.windowLocal 1)]

end RevyCraft
