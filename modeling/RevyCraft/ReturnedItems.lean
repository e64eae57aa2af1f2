/-
  RevyCraft/ReturnedItems.lean
  ============================
  **What a window gives back.**

  When a window is closed, when another one takes its place and when its player
  disconnects, the stacks that lie in it are merged into the player's storage.
  What finds no room there is forgotten.  So everything is still there exactly
  as long as the stacks need no more free slots than there are.
-/
import RevyCraft.ItemTotals

namespace RevyCraft

open Std
open Prog (run)
open PlayerInventory
open Stacks

/-! ### Totals afterwards -/

/-- How many of an item lie in the block entities and among the dropped items of the world. -/
def ServerCore.worldHolds (core : ServerCore) (item : ItemIdentity) : Nat :=
  (core.world.blockEntities.values.map fun entity =>
    countOf item (entity.containerState.slots.filterMap id)).sum +
  countOf item (core.entities.droppedItems.values.map fun dropped => dropped.snapshot.item)

/-- How many a player has, on the cursor included, and the world. -/
def ServerCore.keeps (core : ServerCore) (playerId : PlayerId) (item : ItemIdentity) : Nat :=
  ((core.inventoryOf playerId).map fun inventory => inventory.holds item).getD 0 +
    countOf item ((core.sessions.playerSessions[playerId]?).bind (·.cursor)).toList +
    core.worldHolds item

/-- The ways in which a player's window ends: the stacks that are returned then, and how many of
    an item there are afterwards. -/
inductive PutsAway (core : ServerCore) (playerId : PlayerId) (session : PlayerSessionState)
    (inventory : PlayerInventory) : List ItemStack → (ItemIdentity → Nat) → Prop where
  | closed {window : OpenInventoryWindow} {nowMs : Nat} {events : List TargetedEvent}
      {core' : ServerCore} (hwindow : session.activeContainer = some window)
      (h : core.applyCommand canonicalContent (.closeContainer playerId window.windowId) nowMs =
        .ok (events, core')) :
      PutsAway core playerId session inventory (returnedStacks canonicalContent window)
        (core'.keeps playerId)
  | replacedByWorld {window : OpenInventoryWindow} {position : BlockPos}
      {delta : OpenContainerDelta} {core' : ServerCore}
      (hwindow : session.activeContainer = some window)
      (h : run (baseState canonicalContent)
        (openWorldContainerState canonicalContent playerId position) core =
          .ok (some delta, core')) :
      PutsAway core playerId session inventory (returnedStacks canonicalContent window)
        (core'.keeps playerId)
  | replacedByVirtual {window : OpenInventoryWindow} {kind : ContainerKindId}
      {delta : OpenContainerDelta} {core' : ServerCore}
      (hwindow : session.activeContainer = some window)
      (h : run (baseState canonicalContent)
        (openVirtualContainerState canonicalContent playerId kind) core =
          .ok (some delta, core')) :
      PutsAway core playerId session inventory (returnedStacks canonicalContent window)
        (core'.keeps playerId)
  | disconnected {nowMs : Nat} {events : List TargetedEvent} {core' : ServerCore}
      {saved : PlayerSnapshot}
      (h : core.applyCommand canonicalContent (.disconnect playerId) nowMs = .ok (events, core'))
      (hsaved : core'.world.savedPlayers[playerId]? = some saved) :
      PutsAway core playerId session inventory
        (foldedStacks inventory session.cursor session.activeContainer) saved.inventory.holds

/-! ### Closing and replacing -/

theorem localStacks_congr {inventory inventory' : PlayerInventory}
    (h : SameLocals inventory inventory') {indices : List Nat}
    (hindices : ∀ index ∈ indices, index < AUXILIARY_SLOT_COUNT) :
    localStacks inventory' indices = localStacks inventory indices := by
  apply List.filterMap_congr
  intro index hmem
  exact h index (hindices index hmem)

/-- A player after the window's stacks were merged into the storage, with room for all. -/
theorem carried_le_keeps {core' : ServerCore} {playerId : PlayerId}
    {session session' : PlayerSessionState} {inventory inventory' : PlayerInventory}
    {window : OpenInventoryWindow} (hwindow : session.activeContainer = some window)
    (hfold : foldActiveContainerItemsIntoPlayer canonicalContent inventory window =
      .ok inventory')
    (hinventory : core'.inventoryOf playerId = some inventory')
    (hsession : core'.sessions.playerSessions[playerId]? = some session')
    (hcursor : session'.cursor = session.cursor)
    (hfits : FitsAll MAX_STACK_SIZE
      ((returnedStacks canonicalContent window).map ItemStack.pile) inventory.storage)
    (item : ItemIdentity) : carried inventory session item ≤ core'.keeps playerId item := by
  obtain ⟨hstorage, hlocals⟩ := foldActiveContainerItemsIntoPlayer_putAll hfold
  have hamount : amount item inventory'.storage =
      amount item inventory.storage + countOf item (returnedStacks canonicalContent window) := by
    rw [hstorage]
    exact putAll_amount hfits item
  have hreturned := countOf_returned item session.activeContainer
  rw [hwindow] at hreturned
  change countOf item (returnedStacks canonicalContent window) = _ at hreturned
  have hsplit : localStacks inventory' (List.range AUXILIARY_SLOT_COUNT) =
      localStacks inventory [0] ++ localStacks inventory [1, 2, 3, 4, 5, 6, 7, 8] := by
    rw [localStacks_congr hlocals fun index => List.mem_range.mp]
    unfold localStacks
    rw [← List.filterMap_append]
    rfl
  have hholds : inventory'.holds item = amount item inventory'.storage +
      (countOf item (localStacks inventory [0]) +
        countOf item (localStacks inventory [1, 2, 3, 4, 5, 6, 7, 8])) := by
    unfold PlayerInventory.holds
    rw [hsplit, countOf_append]
  unfold carried ServerCore.keeps
  rw [hinventory, hsession, Option.map_some, Option.getD_some, Option.bind_some, hcursor, hholds,
    hamount, hreturned, hwindow]
  omega

theorem applyCoreOps_single {C : ContentBehavior} {core core' : ServerCore} {op : CoreOp}
    {nowMs : Nat} {events : List TargetedEvent}
    (h : applyCoreOps C core [op] nowMs = .ok (events, core')) :
    ∃ applied, run (baseState C) (reduceCoreOp C op nowMs (finalizedPlayersOf [op])) core =
      .ok (applied, core') := by
  obtain ⟨⟨applied, core₁⟩, hreduce, hrest⟩ := except_bind_eq_ok.mp h
  obtain ⟨⟨later, core₂⟩, hnothing, hdone⟩ := except_bind_eq_ok.mp hrest
  cases hnothing
  cases hdone
  exact ⟨applied, hreduce⟩

section

variable {C : ContentBehavior} {core core' : ServerCore} {playerId : PlayerId}
  {session : PlayerSessionState} {inventory : PlayerInventory} {window : OpenInventoryWindow}

variable (C playerId inventory window session core') in
/-- The stacks of the window are back in the inventory, and the cursor has not changed. -/
def GivesBack : Prop :=
  ∃ inventory' session', foldActiveContainerItemsIntoPlayer C inventory window = .ok inventory' ∧
    core'.inventoryOf playerId = some inventory' ∧
    core'.sessions.playerSessions[playerId]? = some session' ∧ session'.cursor = session.cursor

section Closes

variable (hsession : core.sessions.playerSessions[playerId]? = some session)
  (hinventory : core.inventoryOf playerId = some inventory)
  (hwindow : session.activeContainer = some window)

include hsession hinventory hwindow

theorem closePlayerActiveContainerState_closes {includePlayerContents : Bool}
    {answer : Option CloseContainerDelta}
    (h : run (baseState C) (closePlayerActiveContainerState C playerId includePlayerContents)
      core = .ok (answer, core')) :
    ∃ inventory', foldActiveContainerItemsIntoPlayer C inventory window = .ok inventory' ∧
      core'.inventoryOf playerId = some inventory' ∧
      core'.sessions.playerSessions[playerId]? =
        some { session with activeContainer := none } := by
  rcases closePlayerActiveContainerState_ok h with ⟨hmissing, -, -⟩ |
    ⟨closedWindow, contents, hcloses, -, -⟩
  · rw [hsession, hinventory, Option.bind_some, hwindow] at hmissing
    rcases hmissing with hnone | hnone
    · cases hnone
    · cases hnone
  · obtain ⟨session', inventory₀, inventory', hsession', hwindow', hinventory', hfold, hafter,
      hreturned⟩ := hcloses.player
    rw [hsession] at hsession'
    cases hsession'
    rw [hinventory] at hinventory'
    cases hinventory'
    rw [hwindow] at hwindow'
    cases hwindow'
    exact ⟨inventory', hfold, hreturned, hafter⟩

theorem closeContainerState_closes {includePlayerContents : Bool}
    {answer : Option CloseContainerDelta}
    (h : run (baseState C)
      (closeContainerState C playerId window.windowId includePlayerContents) core =
        .ok (answer, core')) :
    ∃ inventory', foldActiveContainerItemsIntoPlayer C inventory window = .ok inventory' ∧
      core'.inventoryOf playerId = some inventory' ∧
      core'.sessions.playerSessions[playerId]? =
        some { session with activeContainer := none } := by
  have hactive : run (baseState C) (activeWindowId playerId) core =
      .ok (some window.windowId, core) := by
    unfold activeWindowId
    rw [run_bind_of (playerSession_run core playerId), hsession, Option.bind_some, hwindow]
    rfl
  unfold closeContainerState at h
  split at h
  · exact closePlayerActiveContainerState_closes hsession hinventory hwindow h
  · next hzero =>
    split at h
    · unfold closeInventoryWindowState at h
      rw [if_neg hzero, run_bind_of hactive] at h
      dsimp only at h
      rw [if_neg (fun hne => hne rfl)] at h
      exact closePlayerActiveContainerState_closes hsession hinventory hwindow h
    · rw [run_bind_of hactive, if_pos rfl] at h
      exact closePlayerActiveContainerState_closes hsession hinventory hwindow h

theorem openNonPlayerWindowState_closes {opened : OpenInventoryWindow} {title : String}
    {delta : OpenContainerDelta}
    (h : run (baseState C) (openNonPlayerWindowState C playerId opened title) core =
      .ok (some delta, core')) :
    GivesBack C core' playerId session inventory window := by
  rcases openNonPlayerWindowState_ok h with ⟨-, hnone, -⟩ | ⟨closed, core₁, hclose, hopened⟩
  · cases hnone
  · obtain ⟨inventory', hfold, hreturned, hafter⟩ :=
      closePlayerActiveContainerState_closes hsession hinventory hwindow hclose
    rcases hopened with ⟨-, hnone, -⟩ | ⟨session₁, inventory₁, hsession₁, -, rfl, -⟩
    · cases hnone
    · rw [hafter] at hsession₁
      cases hsession₁
      refine ⟨inventory', { session with
        activeContainer := some ⟨opened.windowId, C.normalizeContainer opened.container⟩ },
        hfold, ?_, ?_, rfl⟩
      · unfold ServerCore.inventoryOf at hreturned ⊢
        rw [withOpen_entities]
        exact hreturned
      · rw [withOpen_sessions]
        simp

omit hwindow in
theorem allocateNonPlayerWindowId_player {windowId : Nat}
    (h : run (baseState C) (allocateNonPlayerWindowId playerId) core =
      .ok (some windowId, core')) :
    core'.sessions.playerSessions[playerId]? = some session.withNextWindowId ∧
      core'.inventoryOf playerId = some inventory := by
  rcases allocateNonPlayerWindowId_ok h with ⟨-, hnone, -⟩ | ⟨session', hsession', -, rfl⟩
  · cases hnone
  · rw [hsession] at hsession'
    cases hsession'
    refine ⟨?_, hinventory⟩
    simp

theorem openVirtualContainerState_closes {kind : ContainerKindId} {delta : OpenContainerDelta}
    (h : run (baseState C) (openVirtualContainerState C playerId kind) core =
      .ok (some delta, core')) :
    GivesBack C core' playerId session inventory window := by
  unfold openVirtualContainerState at h
  obtain ⟨allocated, core₁, hallocate, h₁⟩ := Prog.run_bind_ok h
  cases allocated with
  | none => cases h₁
  | some windowId =>
    obtain ⟨hsession₁, hinventory₁⟩ :=
      allocateNonPlayerWindowId_player hsession hinventory hallocate
    dsimp only at h₁
    cases hbuild : buildVirtualContainerState C kind with
    | none =>
      rw [hbuild] at h₁
      cases h₁
    | some container =>
      rw [hbuild] at h₁
      have hcloses := openNonPlayerWindowState_closes hsession₁ hinventory₁ hwindow h₁
      exact hcloses

theorem openWorldContainerState_closes {position : BlockPos} {delta : OpenContainerDelta}
    (h : run (baseState C) (openWorldContainerState C playerId position) core =
      .ok (some delta, core')) :
    GivesBack C core' playerId session inventory window := by
  rcases openWorldContainerState_ok h with ⟨hnone, -⟩ | ⟨kind, windowId, core₁, -, hallocate, hrest⟩
  · cases hnone
  rcases hrest with ⟨hnone, -⟩ | ⟨id, container, core₂, rfl, hbuild, hopened⟩
  · cases hnone
  obtain ⟨hsession₁, hinventory₁⟩ := allocateNonPlayerWindowId_player hsession hinventory hallocate
  have hplayer : core₂.sessions = core₁.sessions ∧ core₂.entities = core₁.entities := by
    rcases buildWorldContainerState_ok hbuild with ⟨rfl, -⟩ |
      ⟨spec, entityKind, entity, -, -, -, rfl, -⟩
    · exact ⟨rfl, rfl⟩
    · exact ⟨rfl, rfl⟩
  rcases hopened with ⟨hnone, -⟩ | ⟨built, -, h₂⟩
  · cases hnone
  · rw [← hplayer.1] at hsession₁
    unfold ServerCore.inventoryOf at hinventory₁
    rw [← hplayer.2] at hinventory₁
    have hcloses := openNonPlayerWindowState_closes hsession₁ hinventory₁ hwindow h₂
    exact hcloses

end Closes

theorem disconnectPlayerState_answers {answer : Option DisconnectDelta}
    (hsession : core.sessions.playerSessions[playerId]? = some session)
    (honline : (core.playerSnapshot playerId).isSome)
    (h : run (baseState C) (disconnectPlayerState C playerId) core = .ok (answer, core')) :
    ∃ delta, answer = some delta := by
  unfold disconnectPlayerState at h
  obtain ⟨cleared, core₁, hclear, h₁⟩ := Prog.run_bind_ok h
  obtain ⟨hplayer, hsessions⟩ := stateClearActiveMining_player hclear playerId
  obtain ⟨persisted, core₂, hpersisted, h₂⟩ := Prog.run_bind_ok h₁
  obtain ⟨rfl, hanswer⟩ := persistedOnline_ok hpersisted
  rw [hplayer, hsessions, hsession] at hanswer
  rcases hanswer with ⟨hnone | hnone, -⟩ | ⟨snapshot, session', saved, -, -, rfl, -⟩
  · rw [hnone] at honline
    cases honline
  · cases hnone
  · obtain ⟨removed, core₃, hremove, h₃⟩ := Prog.run_bind_ok h₂
    have hremoved : removed = some session := by
      have hrun : (removed, core₃) = core₂.removeOnlinePlayer playerId := by
        cases hremove
        rfl
      unfold ServerCore.removeOnlinePlayer at hrun
      rw [hsessions, hsession] at hrun
      exact congrArg Prod.fst hrun
    subst hremoved
    dsimp only at h₃
    cases hwindow : session.activeContainer with
    | none =>
      rw [hwindow] at h₃
      cases h₃
      exact ⟨_, rfl⟩
    | some window =>
      rw [hwindow] at h₃
      dsimp only at h₃
      rw [run_bind_of (writebackWorldContainerState_run _ window),
        run_bind_of (unregisterWorldContainerViewerState_run _ window playerId)] at h₃
      cases h₃
      exact ⟨_, rfl⟩

end

/-! ### The theorem -/

/-- **Ending a window destroys nothing** as long as the stacks it gives back need no more free
    slots than the player's storage has. -/
theorem put_away_destroys_nothing (core : ServerCore) (playerId : PlayerId)
    (session : PlayerSessionState) (inventory : PlayerInventory)
    (hsession : core.sessions.playerSessions[playerId]? = some session)
    (hinventory : core.inventoryOf playerId = some inventory)
    (honline : (core.playerSnapshot playerId).isSome) {returned : List ItemStack}
    {after : ItemIdentity → Nat} (h : PutsAway core playerId session inventory returned after)
    (hcounts : ∀ stack ∈ returned, 1 ≤ stack.count ∧ stack.count ≤ MAX_STACK_SIZE)
    (hroom : demand MAX_STACK_SIZE (returned.map ItemStack.pile) inventory.storage ≤
      free inventory.storage) (item : ItemIdentity) :
    carried inventory session item ≤ after item := by
  have hfits : FitsAll MAX_STACK_SIZE (returned.map ItemStack.pile) inventory.storage := by
    rw [fitsAll_iff]
    · exact hroom
    · intro pile hpile
      obtain ⟨stack, hmem, rfl⟩ := List.mem_map.mp hpile
      exact hcounts stack hmem
  cases h with
  | closed hwindow hrun =>
    obtain ⟨applied, hreduce⟩ := applyCoreOps_single hrun
    obtain ⟨answer, t, hclose, hdone⟩ := Prog.run_bind_ok hreduce
    cases hdone
    obtain ⟨inventory', hfold, hreturned, hafter⟩ :=
      closeContainerState_closes hsession hinventory hwindow hclose
    exact carried_le_keeps hwindow hfold hreturned hafter rfl hfits item
  | replacedByVirtual hwindow hrun =>
    obtain ⟨inventory', session', hfold, hreturned, hafter, hcursor⟩ :=
      openVirtualContainerState_closes hsession hinventory hwindow hrun
    exact carried_le_keeps hwindow hfold hreturned hafter hcursor hfits item
  | replacedByWorld hwindow hrun =>
    obtain ⟨inventory', session', hfold, hreturned, hafter, hcursor⟩ :=
      openWorldContainerState_closes hsession hinventory hwindow hrun
    exact carried_le_keeps hwindow hfold hreturned hafter hcursor hfits item
  | disconnected hrun hsaved =>
    obtain ⟨applied, hreduce⟩ := applyCoreOps_single hrun
    obtain ⟨answer, t, hdisconnect, hdone⟩ := Prog.run_bind_ok hreduce
    cases hdone
    obtain ⟨delta, rfl⟩ := disconnectPlayerState_answers hsession honline hdisconnect
    obtain ⟨snapshot, rfl, hpersist⟩ :=
      (SavedAs.disconnected hdisconnect hsaved).persisted hsession hinventory honline
    have heq := persisted_holds_eq hpersist hfits item
    omega

def setStone (slot : InventorySlot) : CoreStep :=
  .apply (.gameplay (.creativeInventorySet ⟨7⟩ slot (some (.new "minecraft:stone" 64 0)))) 5

/-- The planks of the hotbar in the cursor, and not one free slot. -/
def planksOverFullStorage : List CoreStep :=
  [.apply (.loginStart ⟨1⟩ "alice" ⟨7⟩) 5, clickPlayerWindow (.hotbar 4) .left,
    setStone (.hotbar 4), setStone .offhand] ++
    (List.range 27).map fun index => setStone (.mainInventory index)

def planks : ItemIdentity := (ItemStack.new "minecraft:oak_planks" 1 0).identity

theorem put_away_destroys_nothing_cursor :
    ∃ events core session inventory events' core' saved,
      (ServerCore.new .default).runSteps canonicalContent
        [.apply (.loginStart ⟨1⟩ "alice" ⟨7⟩) 5, clickPlayerWindow (.hotbar 4) .left] =
          .ok (events, core) ∧
      core.sessions.playerSessions[(⟨7⟩ : PlayerId)]? = some session ∧
      core.inventoryOf ⟨7⟩ = some inventory ∧
      core.applyCommand canonicalContent (.disconnect ⟨7⟩) 5 = .ok (events', core') ∧
      core'.world.savedPlayers[(⟨7⟩ : PlayerId)]? = some saved ∧
      ∀ item, carried inventory session item ≤ saved.inventory.holds item := by
  have hrun : endsWith (fun ran =>
      endsWith (fun left => decide ((ran.2.playerSnapshot ⟨7⟩).isSome ∧
        ∃ session ∈ ran.2.sessions.playerSessions[(⟨7⟩ : PlayerId)]?,
          ∃ inventory ∈ ran.2.inventoryOf ⟨7⟩,
            left.2.world.savedPlayers[(⟨7⟩ : PlayerId)]?.isSome ∧
            (∀ stack ∈ foldedStacks inventory session.cursor session.activeContainer,
              1 ≤ stack.count ∧ stack.count ≤ MAX_STACK_SIZE) ∧
            demand MAX_STACK_SIZE ((foldedStacks inventory session.cursor
              session.activeContainer).map ItemStack.pile) inventory.storage ≤
                free inventory.storage))
        (ran.2.applyCommand canonicalContent (.disconnect ⟨7⟩) 5))
      ((ServerCore.new .default).runSteps canonicalContent
        [.apply (.loginStart ⟨1⟩ "alice" ⟨7⟩) 5, clickPlayerWindow (.hotbar 4) .left]) = true := by
    decide +kernel
  obtain ⟨⟨events, core⟩, hsteps, hdisconnects⟩ := endsWith_iff.mp hrun
  obtain ⟨⟨events', core'⟩, hdisconnect, hchecks⟩ := endsWith_iff.mp hdisconnects
  obtain ⟨honline, session, hsession, inventory, hinventory, hsome, hcounts, hroom⟩ :=
    of_decide_eq_true hchecks
  obtain ⟨saved, hsaved⟩ := Option.isSome_iff_exists.mp hsome
  exact ⟨events, core, session, inventory, events', core', saved, hsteps, hsession, hinventory,
    hdisconnect, hsaved, put_away_destroys_nothing core ⟨7⟩ session inventory hsession hinventory
      honline (.disconnected hdisconnect hsaved) hcounts hroom⟩

theorem disconnect_destroys_planks :
    ∃ events core session inventory events' core' saved,
      (ServerCore.new { CoreConfig.default with gameMode := 1 }).runSteps canonicalContent
        planksOverFullStorage = .ok (events, core) ∧
      core.sessions.playerSessions[(⟨7⟩ : PlayerId)]? = some session ∧
      core.inventoryOf ⟨7⟩ = some inventory ∧
      core.applyCommand canonicalContent (.disconnect ⟨7⟩) 5 = .ok (events', core') ∧
      core'.world.savedPlayers[(⟨7⟩ : PlayerId)]? = some saved ∧
      carried inventory session planks = 64 ∧ saved.inventory.holds planks = 0 := by
  have hrun : endsWith (fun ran =>
      endsWith (fun left => decide (
        ∃ session ∈ ran.2.sessions.playerSessions[(⟨7⟩ : PlayerId)]?,
          ∃ inventory ∈ ran.2.inventoryOf ⟨7⟩,
            ∃ saved ∈ left.2.world.savedPlayers[(⟨7⟩ : PlayerId)]?,
              carried inventory session planks = 64 ∧ saved.inventory.holds planks = 0))
        (ran.2.applyCommand canonicalContent (.disconnect ⟨7⟩) 5))
      ((ServerCore.new { CoreConfig.default with gameMode := 1 }).runSteps canonicalContent
        planksOverFullStorage) = true := by
    decide +kernel
  obtain ⟨⟨events, core⟩, hsteps, hdisconnects⟩ := endsWith_iff.mp hrun
  obtain ⟨⟨events', core'⟩, hdisconnect, hchecks⟩ := endsWith_iff.mp hdisconnects
  obtain ⟨session, hsession, inventory, hinventory, saved, hsaved, hcounts⟩ :=
    of_decide_eq_true hchecks
  exact ⟨events, core, session, inventory, events', core', saved, hsteps, hsession, hinventory,
    hdisconnect, hsaved, hcounts⟩

end RevyCraft
