/-
  RevyCraft/WindowRuns.lean
  =========================
  **Windows on a core.**

  What opening, closing and synchronising a window does to a core, as functions
  of the core and as inversions of the runs: which block entity and which
  viewers are written, which window, inventory and cursor a player is left with.
-/
import RevyCraft.BaseRuns

namespace RevyCraft

open Std
open RevyCraft.Core
open Prog (run)

variable {C : ContentBehavior}

/-! ### Block entities and viewers -/

namespace ServerCore

/-- A core after a window was written back to its block entity. -/
def writtenBack (C : ContentBehavior) (window : OpenInventoryWindow) (core : ServerCore) :
    ServerCore :=
  match window.worldBlockEntity with
  | none => core
  | some (position, blockEntity) =>
    if (core.blockAt C position).bind C.containerKindForBlock = some window.container.kind then
      { core with world.blockEntities :=
        (core.world.blockEntities.insert position (.container blockEntity)) }
    else core

def withViewer (position : BlockPos) (playerId : PlayerId) (windowId : Nat)
    (kind : ContainerKindId) (core : ServerCore) : ServerCore :=
  let entry := (core.world.containerViewers[position]?).getD ⟨kind, ∅⟩
  { core with world.containerViewers := (core.world.containerViewers.insert position
      { entry with viewers := entry.viewers.insert playerId windowId }) }

def withoutViewer (position : BlockPos) (playerId : PlayerId) (core : ServerCore) : ServerCore :=
  match core.world.containerViewers[position]? with
  | none => core
  | some entry =>
    let viewers := entry.viewers.erase playerId
    { core with world.containerViewers := (applyOptionalEntry core.world.containerViewers position
        (if viewers.isEmpty then none else some { entry with viewers := viewers })) }

/-- A core after a window was closed at its position. -/
def withoutWindowViewer (window : OpenInventoryWindow) (playerId : PlayerId) (core : ServerCore) :
    ServerCore :=
  match window.worldPosition with
  | some position => core.withoutViewer position playerId
  | none => core

end ServerCore

open ServerCore

section Viewers

variable (s : ServerCore)

@[simp] theorem writebackWorldContainerState_run (window : OpenInventoryWindow) :
    run (baseState C) (writebackWorldContainerState C window) s =
      .ok ((), s.writtenBack C window) := by
  unfold writebackWorldContainerState writtenBack
  cases window.worldBlockEntity with
  | none => rfl
  | some found =>
    rcases found with ⟨position, blockEntity⟩
    dsimp only
    rw [run_bind_of (blockState_run s position)]
    cases s.blockAt C position with
    | none => rfl
    | some block =>
      dsimp only [Option.bind_some]
      by_cases hkind : C.containerKindForBlock block = some window.container.kind
      · rw [if_neg (not_not.mpr hkind), if_pos hkind]
        rfl
      · rw [if_pos hkind, if_neg hkind]
        rfl

@[simp] theorem registerWorldContainerViewerState_run (position : BlockPos) (playerId : PlayerId)
    (windowId : Nat) (kind : ContainerKindId) :
    run (baseState C) (registerWorldContainerViewerState position playerId windowId kind) s =
      .ok ((), s.withViewer position playerId windowId kind) := rfl

@[simp] theorem unregisterWorldContainerViewerAtState_run (position : BlockPos)
    (playerId : PlayerId) :
    run (baseState C) (unregisterWorldContainerViewerAtState position playerId) s =
      .ok ((), s.withoutViewer position playerId) := by
  unfold unregisterWorldContainerViewerAtState withoutViewer
  rw [run_bind_of (containerViewers_run s position)]
  cases s.world.containerViewers[position]? with
  | none => rfl
  | some entry => rfl

@[simp] theorem unregisterWorldContainerViewerState_run (window : OpenInventoryWindow)
    (playerId : PlayerId) :
    run (baseState C) (unregisterWorldContainerViewerState window playerId) s =
      .ok ((), s.withoutWindowViewer window playerId) := by
  unfold unregisterWorldContainerViewerState withoutWindowViewer
  cases window.worldPosition with
  | none => rfl
  | some position => exact unregisterWorldContainerViewerAtState_run s position playerId

@[simp] theorem writtenBack_entities (window : OpenInventoryWindow) :
    (s.writtenBack C window).entities = s.entities := by
  unfold writtenBack
  repeat' split
  all_goals rfl

@[simp] theorem writtenBack_sessions (window : OpenInventoryWindow) :
    (s.writtenBack C window).sessions = s.sessions := by
  unfold writtenBack
  repeat' split
  all_goals rfl

@[simp] theorem writtenBack_viewers (s : ServerCore) (window : OpenInventoryWindow) :
    (s.writtenBack C window).world.containerViewers = s.world.containerViewers := by
  unfold writtenBack
  repeat' split
  all_goals rfl

def ServerCore.containerKindAt (C : ContentBehavior) (core : ServerCore) (position : BlockPos) :
    Option ContainerKindId :=
  (core.blockAt C position).bind C.containerKindForBlock

@[simp] theorem blockAt_writtenBack (window : OpenInventoryWindow) (position : BlockPos) :
    (s.writtenBack C window).blockAt C position = s.blockAt C position := by
  unfold writtenBack
  repeat' split
  all_goals rfl

theorem blockEntities_writtenBack (window : OpenInventoryWindow) (position : BlockPos) :
    (s.writtenBack C window).world.blockEntities[position]? =
      if window.worldPosition = some position ∧
          s.containerKindAt C position = some window.container.kind then
        window.container.blockEntityState.map .container
      else s.world.blockEntities[position]? := by
  unfold writtenBack OpenInventoryWindow.worldBlockEntity OpenInventoryWindow.worldPosition
  unfold OpenContainerState.worldPosition OpenContainerState.blockEntityState
  unfold OpenContainerState.blockEntityKind ServerCore.containerKindAt
  cases window.container.binding with
  | virtual => simp
  | block place kind =>
    dsimp only [Option.bind_some, Option.map_some]
    by_cases hplace : place = position
    · subst hplace
      simp only [true_and]
      split
      · exact ExtTreeMap.getElem?_insert_self
      · rfl
    · have hnot : ¬ (some place = some position ∧
          (s.blockAt C position).bind C.containerKindForBlock = some window.container.kind) :=
        fun h => hplace (Option.some.inj h.1)
      rw [if_neg hnot]
      split
      · exact (BTreeMap.getElem?_insert_eq ..).trans (if_neg hplace)
      · rfl

@[simp] theorem blockAt_withoutViewer (position : BlockPos) (playerId : PlayerId)
    (other : BlockPos) :
    (s.withoutViewer position playerId).blockAt C other = s.blockAt C other := by
  unfold withoutViewer
  split <;> rfl

@[simp] theorem blockEntities_withoutViewer (position : BlockPos) (playerId : PlayerId) :
    (s.withoutViewer position playerId).world.blockEntities = s.world.blockEntities := by
  unfold withoutViewer
  split <;> rfl

@[simp] theorem blockAt_withoutWindowViewer (window : OpenInventoryWindow) (playerId : PlayerId)
    (other : BlockPos) :
    (s.withoutWindowViewer window playerId).blockAt C other = s.blockAt C other := by
  unfold withoutWindowViewer
  split
  · exact blockAt_withoutViewer ..
  · rfl

@[simp] theorem blockEntities_withoutWindowViewer (window : OpenInventoryWindow)
    (playerId : PlayerId) :
    (s.withoutWindowViewer window playerId).world.blockEntities = s.world.blockEntities := by
  unfold withoutWindowViewer
  split
  · exact blockEntities_withoutViewer ..
  · rfl

@[simp] theorem withoutViewer_entities (position : BlockPos) (playerId : PlayerId) :
    (s.withoutViewer position playerId).entities = s.entities := by
  unfold withoutViewer
  split <;> rfl

@[simp] theorem withoutViewer_sessions (position : BlockPos) (playerId : PlayerId) :
    (s.withoutViewer position playerId).sessions = s.sessions := by
  unfold withoutViewer
  split <;> rfl

@[simp] theorem withoutWindowViewer_entities (window : OpenInventoryWindow) (playerId : PlayerId) :
    (s.withoutWindowViewer window playerId).entities = s.entities := by
  unfold withoutWindowViewer
  split
  · exact withoutViewer_entities s _ playerId
  · rfl

@[simp] theorem withoutWindowViewer_sessions (window : OpenInventoryWindow) (playerId : PlayerId) :
    (s.withoutWindowViewer window playerId).sessions = s.sessions := by
  unfold withoutWindowViewer
  split
  · exact withoutViewer_sessions s _ playerId
  · rfl

end Viewers

/-! ### Closing -/

/-- The window is the one the player has open, and the second core is the first without it. -/
def ClosesWindow (C : ContentBehavior) (s : ServerCore) (playerId : PlayerId)
    (window : OpenInventoryWindow) (t : ServerCore) : Prop :=
  ∃ entityId session inventory inventory',
    s.entities.playersByPlayerId[playerId]? = some entityId ∧
    s.sessions.playerSessions[playerId]? = some session ∧
    s.entities.playerInventory[entityId]? = some inventory ∧
    session.activeContainer = some window ∧
    foldActiveContainerItemsIntoPlayer C inventory window = .ok inventory' ∧
    t = withoutWindowViewer window playerId (writtenBack C window
      { s with
        sessions.playerSessions :=
          (s.sessions.playerSessions.insert playerId { session with activeContainer := none })
        entities.playerInventory := s.entities.playerInventory.insert entityId inventory' })

theorem insert_self {K V : Type} [Ord K] [TransOrd K] [LawfulEqOrd K] {m : BTreeMap K V} {k : K}
    {v : V} (h : m[k]? = some v) : m.insert k v = m := by
  apply ExtTreeMap.ext_getElem?
  intro a
  rw [ExtTreeMap.getElem?_insert]
  split
  · next heq =>
    rw [← LawfulEqOrd.eq_of_compare heq, h]
  · rfl

variable {s t : ServerCore} {playerId : PlayerId} {position : BlockPos}

theorem closePlayerActiveContainerState_ok {includePlayerContents : Bool}
    {answer : Option CloseContainerDelta}
    (h : run (baseState C) (closePlayerActiveContainerState C playerId includePlayerContents) s =
      .ok (answer, t)) : ((s.sessions.playerSessions[playerId]?).bind (·.activeContainer) = none ∨
        s.inventoryOf playerId = none) ∧ answer = none ∧ t = s ∨
      ∃ window contents, ClosesWindow C s playerId window t ∧
        answer = some ⟨playerId, window.windowId, contents⟩ ∧
        contents = if includePlayerContents then
          some (.player ((t.inventoryOf playerId).getD .newEmpty)) else none := by
  unfold closePlayerActiveContainerState at h
  obtain ⟨found, s₁, hedit, h₁⟩ := Prog.run_bind_ok h
  rcases playerSessionInventoryMut_ok hedit with ⟨hmissing, rfl, rfl⟩ |
    ⟨entityId, session, inventory, closed, session', inventory', hentity, hsession, hinventory,
      hclose, rfl, rfl⟩
  · cases h₁
    refine .inl ⟨?_, rfl, rfl⟩
    rcases hmissing with hnone | hnone
    · exact .inl (by rw [hnone]; rfl)
    · exact .inr hnone
  · unfold closeActiveContainerWindow at hclose
    cases hwindow : session.activeContainer with
    | none =>
      rw [hwindow] at hclose
      cases hclose
      cases h₁
      refine .inl ⟨.inl ?_, rfl, ?_⟩
      · rw [hsession]
        exact hwindow
      · rw [insert_self hsession, insert_self hinventory]
    | some window =>
      rw [hwindow] at hclose
      obtain ⟨folded, hfold, hdone⟩ := except_bind_eq_ok.mp hclose
      cases hdone
      have hcloses : ∀ u : ServerCore, u = _ → ClosesWindow C s playerId window u := fun u hu =>
        ⟨entityId, session, inventory, inventory', hentity, hsession, hinventory, hwindow, hfold, hu⟩
      cases includePlayerContents with
      | false =>
        dsimp only at h₁
        rw [if_neg Bool.false_ne_true, run_pure_bind,
          run_bind_of (writebackWorldContainerState_run _ window),
          run_bind_of (unregisterWorldContainerViewerState_run _ window playerId)] at h₁
        cases h₁
        exact .inr ⟨window, none, hcloses _ rfl, rfl, rfl⟩
      | true =>
        dsimp only at h₁
        rw [if_pos rfl, run_bind_of (playerInventory_run _ playerId),
          run_pure_bind, run_bind_of (writebackWorldContainerState_run _ window),
          run_bind_of (unregisterWorldContainerViewerState_run _ window playerId)] at h₁
        cases h₁
        refine .inr ⟨window, _, hcloses _ rfl, rfl, ?_⟩
        simp [ServerCore.inventoryOf]

variable {window : OpenInventoryWindow} {answer : Option WindowDiffDelta}

theorem ClosesWindow.player (h : ClosesWindow C s playerId window t) :
    ∃ session inventory inventory', s.sessions.playerSessions[playerId]? = some session ∧
      session.activeContainer = some window ∧ s.inventoryOf playerId = some inventory ∧
      foldActiveContainerItemsIntoPlayer C inventory window = .ok inventory' ∧
      t.sessions.playerSessions[playerId]? = some { session with activeContainer := none } ∧
      t.inventoryOf playerId = some inventory' := by
  obtain ⟨entityId, session, inventory, inventory', hentity, hsession, hinventory, hwindow, hfold,
    rfl⟩ := h
  refine ⟨session, inventory, inventory', hsession, hwindow, ?_, hfold, ?_, ?_⟩
  · unfold ServerCore.inventoryOf
    rw [hentity]
    exact hinventory
  · simp
  · simp [ServerCore.inventoryOf, hentity]

/-! ### Opening -/

/-- A core after a player was given a window. -/
def ServerCore.withOpen (playerId : PlayerId) (session : PlayerSessionState)
    (window : OpenInventoryWindow) (core : ServerCore) : ServerCore :=
  let core := { core with sessions.playerSessions := (core.sessions.playerSessions.insert playerId
    { session with activeContainer := some window }) }
  match window.worldPosition with
  | some position => core.withViewer position playerId window.windowId window.container.kind
  | none => core

theorem withOpen_entities (playerId : PlayerId) (session : PlayerSessionState)
    (window : OpenInventoryWindow) (core : ServerCore) :
    (core.withOpen playerId session window).entities = core.entities := by
  unfold ServerCore.withOpen
  dsimp only
  split <;> rfl

theorem withOpen_sessions (playerId : PlayerId) (session : PlayerSessionState)
    (window : OpenInventoryWindow) (core : ServerCore) :
    (core.withOpen playerId session window).sessions.playerSessions =
      core.sessions.playerSessions.insert playerId
        { session with activeContainer := some window } := by
  unfold ServerCore.withOpen
  dsimp only
  split <;> rfl

theorem openNonPlayerWindowState_ok {title : String} {answer : Option OpenContainerDelta}
    (h : run (baseState C) (openNonPlayerWindowState C playerId window title) s = .ok (answer, t)) :
    s.sessions.playerSessions[playerId]? = none ∧ answer = none ∧ t = s ∨
      ∃ closed u, run (baseState C) (closePlayerActiveContainerState C playerId false) s =
          .ok (closed, u) ∧
        (u.inventoryOf playerId = none ∧ answer = none ∧ t = u ∨
          ∃ session inventory, u.sessions.playerSessions[playerId]? = some session ∧
            u.inventoryOf playerId = some inventory ∧
            t = u.withOpen playerId session
              { window with container := C.normalizeContainer window.container } ∧
            answer = some
              { closed := closed.toList
                playerId := playerId
                windowId := window.windowId
                container := (C.normalizeContainer window.container).kind
                title := title
                contents := ⟨inventory, (C.normalizeContainer window.container).localSlots⟩
                properties := (C.normalizeContainer window.container).propertyEntries }) := by
  unfold openNonPlayerWindowState at h
  rw [run_bind_of (playerSession_run s playerId)] at h
  cases hsession : s.sessions.playerSessions[playerId]? with
  | none =>
    rw [hsession] at h
    cases h
    exact .inl ⟨rfl, rfl, rfl⟩
  | some session₀ =>
    rw [hsession] at h
    dsimp only at h
    obtain ⟨closed, u, hclose, h₁⟩ := Prog.run_bind_ok h
    refine .inr ⟨closed, u, hclose, ?_⟩
    have hstays : u.sessions.playerSessions[playerId]?.isSome := by
      rcases closePlayerActiveContainerState_ok hclose with ⟨-, -, rfl⟩ |
        ⟨closedWindow, contents, hcloses, -, -⟩
      · rw [hsession]
        rfl
      · obtain ⟨session', inventory, inventory', -, -, -, -, hafter, -⟩ := hcloses.player
        rw [hafter]
        rfl
    obtain ⟨session, hafter⟩ := Option.isSome_iff_exists.mp hstays
    unfold ServerCore.inventoryOf
    rw [run_bind_of (playerEntityId_run u playerId)] at h₁
    cases hentity : u.entities.playersByPlayerId[playerId]? with
    | none =>
      rw [hentity] at h₁
      cases h₁
      exact .inl ⟨rfl, rfl, rfl⟩
    | some entityId =>
      rw [hentity] at h₁
      dsimp only at h₁
      rw [run_bind_of (playerInventoryByEntity_run u entityId)] at h₁
      cases hinventory : u.entities.playerInventory[entityId]? with
      | none =>
        rw [hinventory] at h₁
        cases h₁
        exact .inl ⟨hinventory, rfl, rfl⟩
      | some inventory =>
        rw [hinventory] at h₁
        dsimp only at h₁
        obtain ⟨done, v, hopen, h₂⟩ := Prog.run_bind_ok h₁
        rcases playerSessionMut_ok hopen with ⟨hnone, -, -⟩ |
          ⟨session', b, after, hsession', hedit, rfl, rfl⟩
        · rw [hafter] at hnone
          cases hnone
        · rw [hafter] at hsession'
          cases hsession'
          cases hedit
          dsimp only at h₂
          refine .inr ⟨session, inventory, hafter, hinventory, ?_⟩
          unfold ServerCore.withOpen
          dsimp only
          cases hposition : OpenInventoryWindow.worldPosition
              ⟨window.windowId, C.normalizeContainer window.container⟩ with
          | none =>
            rw [hposition] at h₂
            cases h₂
            exact ⟨rfl, rfl⟩
          | some position =>
            rw [hposition] at h₂
            dsimp only at h₂
            rw [run_bind_of (registerWorldContainerViewerState_run ..)] at h₂
            cases h₂
            exact ⟨rfl, rfl⟩

def PlayerSessionState.withNextWindowId (session : PlayerSessionState) : PlayerSessionState :=
  let windowId := max session.nextNonPlayerWindowId 1
  { session with nextNonPlayerWindowId := if windowId = u8Max then 1 else windowId + 1 }

theorem allocateNonPlayerWindowId_ok {answer : Option Nat}
    (h : run (baseState C) (allocateNonPlayerWindowId playerId) s = .ok (answer, t)) :
    s.sessions.playerSessions[playerId]? = none ∧ answer = none ∧ t = s ∨
      ∃ session, s.sessions.playerSessions[playerId]? = some session ∧
        answer = some (max session.nextNonPlayerWindowId 1) ∧
        t = { s with sessions.playerSessions :=
          (s.sessions.playerSessions.insert playerId session.withNextWindowId) } := by
  rcases playerSessionMut_ok h with hnone | ⟨session, b, after, hsession, hedit, rfl, rfl⟩
  · exact .inl hnone
  · cases hedit
    exact .inr ⟨session, hsession, rfl, rfl⟩

theorem buildWorldContainerState_ok {kind : ContainerKindId} {answer : Option OpenContainerState}
    (h : run (baseState C) (buildWorldContainerState C position kind) s = .ok (answer, t)) :
    t = s ∧ (answer = none ∨ ∃ spec, C.containerSpec kind = some spec ∧
        C.blockEntityKindForContainer kind = none ∧
        answer = some ⟨kind, .virtual, List.replicate spec.localSlotCount none, ∅⟩) ∨
      ∃ spec entityKind entity, C.containerSpec kind = some spec ∧
        C.blockEntityKindForContainer kind = some entityKind ∧
        (((s.world.blockEntities[position]?).map BlockEntityState.containerState).filter
            (fun entity => entity.kind = entityKind)).or (C.defaultBlockEntityForKind entityKind) =
          some entity ∧
        t = { s with world.blockEntities :=
          (s.world.blockEntities.insert position (.container entity)) } ∧
        answer = some ⟨kind, .block position entityKind, entity.slots, entity.properties⟩ := by
  unfold buildWorldContainerState at h
  cases hspec : C.containerSpec kind with
  | none =>
    rw [hspec] at h
    cases h
    exact .inl ⟨rfl, .inl rfl⟩
  | some spec =>
    rw [hspec] at h
    dsimp only at h
    cases hkind : C.blockEntityKindForContainer kind with
    | none =>
      rw [hkind] at h
      cases h
      exact .inl ⟨rfl, .inr ⟨spec, rfl, rfl, rfl⟩⟩
    | some entityKind =>
      rw [hkind] at h
      dsimp only at h
      rw [run_bind_of (blockEntity_run s position)] at h
      cases hentity : (((s.world.blockEntities[position]?).map
          BlockEntityState.containerState).filter (fun entity => entity.kind = entityKind)).or
            (C.defaultBlockEntityForKind entityKind) with
      | none =>
        rw [hentity] at h
        cases h
        exact .inl ⟨rfl, .inl rfl⟩
      | some entity =>
        rw [hentity] at h
        dsimp only at h
        cases h
        exact .inr ⟨spec, entityKind, entity, rfl, rfl, hentity, rfl, rfl⟩

theorem openWorldContainerState_ok {place : BlockPos} {answer : Option OpenContainerDelta}
    (h : run (baseState C) (openWorldContainerState C playerId place) s = .ok (answer, t)) :
    answer = none ∧ t = s ∨ ∃ kind windowId s₁, s.containerKindAt C place = some kind ∧
      run (baseState C) (allocateNonPlayerWindowId playerId) s = .ok (windowId, s₁) ∧
      (answer = none ∧ t = s₁ ∨ ∃ id container s₂, windowId = some id ∧
        run (baseState C) (buildWorldContainerState C place kind) s₁ = .ok (container, s₂) ∧
        (answer = none ∧ t = s₂ ∨ ∃ built, container = some built ∧
          run (baseState C) (openNonPlayerWindowState C playerId ⟨id, C.normalizeContainer built⟩
            (C.containerTitle (C.normalizeContainer built).kind)) s₂ = .ok (answer, t))) := by
  unfold openWorldContainerState at h
  rw [run_bind_of (blockState_run s place)] at h
  unfold ServerCore.containerKindAt
  cases hblock : s.blockAt C place with
  | none =>
    rw [hblock] at h
    cases h
    exact .inl ⟨rfl, rfl⟩
  | some block =>
    rw [hblock] at h
    dsimp only at h
    cases hkind : C.containerKindForBlock block with
    | none =>
      rw [hkind] at h
      cases h
      exact .inl ⟨rfl, rfl⟩
    | some kind =>
      rw [hkind] at h
      dsimp only at h
      obtain ⟨windowId, s₁, hid, h₁⟩ := Prog.run_bind_ok h
      refine .inr ⟨kind, windowId, s₁, hkind, hid, ?_⟩
      cases windowId with
      | none =>
        cases h₁
        exact .inl ⟨rfl, rfl⟩
      | some id =>
        obtain ⟨container, s₂, hbuild, h₂⟩ := Prog.run_bind_ok h₁
        refine .inr ⟨id, container, s₂, rfl, hbuild, ?_⟩
        cases container with
        | none =>
          cases h₂
          exact .inl ⟨rfl, rfl⟩
        | some built => exact .inr ⟨built, rfl, h₂⟩

/-! ### Synchronising -/

/-- The window a player has open. -/
def ServerCore.windowOf (core : ServerCore) (playerId : PlayerId) : Option OpenInventoryWindow :=
  (core.sessions.playerSessions[playerId]?).bind (·.activeContainer)

/-- A window with the contents of another one of its container. -/
def OpenInventoryWindow.showing (window : OpenInventoryWindow) (source : OpenContainerState) :
    OpenInventoryWindow :=
  { window with
    container.localSlots := source.localSlots, container.properties := source.properties }

/-- The window shows the container at the position, and is of the given kind. -/
def OpenInventoryWindow.ShowsAt (window : OpenInventoryWindow) (position : BlockPos)
    (kind : ContainerKindId) : Prop :=
  window.worldPosition = some position ∧ window.container.kind = kind

instance (window : OpenInventoryWindow) (position : BlockPos) (kind : ContainerKindId) :
    Decidable (window.ShowsAt position kind) :=
  inferInstanceAs (Decidable (_ ∧ _))

/-- A core after one viewer of the container at the position was brought up to date. -/
def ServerCore.synced (position : BlockPos) (source : OpenContainerState) (core : ServerCore)
    (viewerId : PlayerId) : ServerCore :=
  if (core.inventoryOf viewerId).isSome then
    match core.sessions.playerSessions[viewerId]? with
    | none => core
    | some session =>
      match session.activeContainer with
      | none => core
      | some window =>
        if window.ShowsAt position source.kind then
          { core with sessions.playerSessions := (core.sessions.playerSessions.insert viewerId
            { session with activeContainer := some (window.showing source) }) }
        else core
  else core

theorem syncViewer_ok {source : OpenContainerState} {viewerId : PlayerId}
    (h : run (baseState C) (syncViewer position source viewerId) s = .ok (answer, t)) :
    t = s.synced position source viewerId ∧
      (answer.isSome ↔ (s.inventoryOf viewerId).isSome ∧
        ∃ window, s.windowOf viewerId = some window ∧ window.ShowsAt position source.kind) := by
  unfold syncViewer at h
  unfold ServerCore.synced ServerCore.windowOf
  rw [run_bind_of (playerInventory_run s viewerId)] at h
  cases hinventory : s.inventoryOf viewerId with
  | none =>
    rw [hinventory] at h
    cases h
    simp
  | some inventory =>
    rw [hinventory] at h
    dsimp only at h
    rw [run_bind_of (playerSession_run s viewerId)] at h
    rw [if_pos Option.isSome_some]
    cases hsession : s.sessions.playerSessions[viewerId]? with
    | none =>
      rw [hsession] at h
      cases h
      simp
    | some session =>
      rw [hsession] at h
      dsimp only at h ⊢
      cases hwindow : session.activeContainer with
      | none =>
        rw [hwindow] at h
        cases h
        simp [hwindow]
      | some window =>
        rw [hwindow] at h
        dsimp only at h ⊢
        by_cases hshows : window.ShowsAt position source.kind
        · rw [if_neg (by rw [not_or, not_not, not_not]; exact hshows)] at h
          rw [if_pos hshows]
          obtain ⟨delta, u, hedit, hdone⟩ := Prog.run_bind_ok h
          rcases playerSessionMut_ok hedit with ⟨hnone, -, -⟩ |
            ⟨session', b, after, hsession', hchange, rfl, rfl⟩
          · rw [hsession] at hnone
            cases hnone
          · rw [hsession] at hsession'
            cases hsession'
            rw [hwindow] at hchange
            dsimp only at hchange
            rw [if_neg (by rw [not_or, not_not, not_not]; exact hshows)] at hchange
            cases hchange
            cases hdone
            refine ⟨rfl, ?_⟩
            simp [hwindow, hshows]
        · rw [if_pos (by rw [← not_and_or]; exact hshows)] at h
          cases h
          rw [if_neg hshows]
          simp [hwindow, hshows]

@[simp] theorem synced_entities (position : BlockPos) (source : OpenContainerState)
    (s : ServerCore) (viewerId : PlayerId) :
    (s.synced position source viewerId).entities = s.entities := by
  unfold ServerCore.synced
  repeat' split
  all_goals rfl

@[simp] theorem synced_world (position : BlockPos) (source : OpenContainerState)
    (s : ServerCore) (viewerId : PlayerId) :
    (s.synced position source viewerId).world = s.world := by
  unfold ServerCore.synced
  repeat' split
  all_goals rfl

/-- What a player's window shows after it was brought up to date, if it shows that container. -/
def ServerCore.shownAfter (position : BlockPos) (source : OpenContainerState) (core : ServerCore)
    (playerId : PlayerId) : Option OpenInventoryWindow :=
  (core.windowOf playerId).map fun window =>
    if (core.inventoryOf playerId).isSome ∧ window.ShowsAt position source.kind then
      window.showing source else window

theorem windowOf_synced (position : BlockPos) (source : OpenContainerState) (s : ServerCore)
    (viewerId playerId : PlayerId) :
    (s.synced position source viewerId).windowOf playerId =
      if playerId = viewerId then s.shownAfter position source playerId
      else s.windowOf playerId := by
  unfold ServerCore.synced
  by_cases hsame : playerId = viewerId
  · subst hsame
    rw [if_pos rfl]
    unfold ServerCore.shownAfter ServerCore.windowOf
    cases hinventory : s.inventoryOf playerId with
    | none => simp
    | some inventory =>
      cases hsession : s.sessions.playerSessions[playerId]? with
      | none => simp [hsession]
      | some session =>
        cases hwindow : session.activeContainer with
        | none => simp [hsession, hwindow]
        | some window =>
          by_cases hshows : window.ShowsAt position source.kind
          · simp [hwindow, hshows]
          · simp [hsession, hwindow, hshows]
  · rw [if_neg hsame]
    unfold ServerCore.windowOf
    repeat' split
    all_goals try rfl
    simp [BTreeMap.getElem?_insert_eq, Ne.symm hsame]

theorem windowOf_syncedAll (position : BlockPos) (source : OpenContainerState)
    (viewerIds : List PlayerId) (s : ServerCore) (playerId : PlayerId) :
    (viewerIds.foldl (ServerCore.synced position source) s).windowOf playerId =
      if playerId ∈ viewerIds then s.shownAfter position source playerId
      else s.windowOf playerId := by
  induction viewerIds generalizing s with
  | nil => simp
  | cons first rest ih =>
    rw [List.foldl_cons, ih]
    have hinventory : (s.synced position source first).inventoryOf playerId =
        s.inventoryOf playerId := by
      unfold ServerCore.inventoryOf
      rw [synced_entities]
    have hafter : playerId = first →
        (s.synced position source first).shownAfter position source playerId =
          s.shownAfter position source playerId := by
      intro hsame
      unfold ServerCore.shownAfter
      rw [windowOf_synced, if_pos hsame, hinventory]
      unfold ServerCore.shownAfter
      rw [Option.map_map]
      congr 1
      funext window
      by_cases hshows : (s.inventoryOf playerId).isSome ∧ window.ShowsAt position source.kind
      · have hstill : (s.inventoryOf playerId).isSome ∧
            (window.showing source).ShowsAt position source.kind := hshows
        rw [Function.comp_apply, if_pos hshows, if_pos hstill]
        rfl
      · rw [Function.comp_apply, if_neg hshows, if_neg hshows]
    have hother : playerId ≠ first →
        (s.synced position source first).shownAfter position source playerId =
          s.shownAfter position source playerId := by
      intro hother
      unfold ServerCore.shownAfter
      rw [windowOf_synced, if_neg hother, hinventory]
    by_cases hsame : playerId = first
    · have hmem : playerId ∈ first :: rest := by simp [hsame]
      rw [hafter hsame, windowOf_synced, if_pos hsame, if_pos hmem]
      split <;> rfl
    · rw [hother hsame, windowOf_synced, if_neg hsame]
      simp [hsame]

/-- The player is online and looks into the container of the given kind at the position. -/
def ServerCore.Sees (core : ServerCore) (position : BlockPos) (kind : ContainerKindId)
    (playerId : PlayerId) : Prop :=
  (core.inventoryOf playerId).isSome ∧
    ∃ window, core.windowOf playerId = some window ∧ window.ShowsAt position kind

theorem sees_synced (position : BlockPos) (source : OpenContainerState) (s : ServerCore)
    (viewerId playerId : PlayerId) :
    (s.synced position source viewerId).Sees position source.kind playerId ↔
      s.Sees position source.kind playerId := by
  unfold ServerCore.Sees
  have hinventory : (s.synced position source viewerId).inventoryOf playerId =
      s.inventoryOf playerId := by
    unfold ServerCore.inventoryOf
    rw [synced_entities]
  rw [hinventory, windowOf_synced]
  split
  · unfold ServerCore.shownAfter
    cases s.windowOf playerId with
    | none => simp
    | some window =>
      by_cases hshows : (s.inventoryOf playerId).isSome ∧ window.ShowsAt position source.kind
      · have hstill : (window.showing source).ShowsAt position source.kind := hshows.2
        simp [hshows.1, hshows.2, hstill]
      · simp [hshows]
  · rfl

theorem syncViewers_ok {source : OpenContainerState} {viewerIds : List PlayerId}
    {outcomes : List (PlayerId × Option WindowDiffDelta)}
    (h : run (baseState C) (Prog.traverse (fun viewerId => do
      let delta ← syncViewer position source viewerId
      pure (viewerId, delta)) viewerIds) s = .ok (outcomes, t)) :
    t = viewerIds.foldl (ServerCore.synced position source) s ∧
      outcomes.map Prod.fst = viewerIds ∧
      ∀ outcome ∈ outcomes, outcome.2.isSome ↔ s.Sees position source.kind outcome.1 := by
  induction viewerIds generalizing s outcomes with
  | nil =>
    cases h
    simp
  | cons first rest ih =>
    obtain ⟨outcome, s₁, hfirst, h₁⟩ := Prog.run_bind_ok h
    obtain ⟨others, s₂, hrest, h₂⟩ := Prog.run_bind_ok h₁
    cases h₂
    obtain ⟨delta, s₃, hsync, hpure⟩ := Prog.run_bind_ok hfirst
    cases hpure
    obtain ⟨rfl, hdelta⟩ := syncViewer_ok hsync
    obtain ⟨hstate, hids, hseen⟩ := ih hrest
    refine ⟨hstate, by rw [List.map_cons, hids], ?_⟩
    intro outcome hmem
    rcases List.mem_cons.mp hmem with rfl | hmem
    · exact hdelta
    · rw [hseen outcome hmem]
      exact sees_synced ..

theorem unregisterViewers_ok {viewerIds : List PlayerId} {answers : List Unit}
    (h : run (baseState C) (Prog.traverse (unregisterWorldContainerViewerAtState position)
      viewerIds) s = .ok (answers, t)) :
    t = viewerIds.foldl (fun core viewerId => core.withoutViewer position viewerId) s := by
  induction viewerIds generalizing s answers with
  | nil =>
    cases h
    rfl
  | cons first rest ih =>
    obtain ⟨answer, s₁, hfirst, h₁⟩ := Prog.run_bind_ok h
    obtain ⟨others, s₂, hrest, h₂⟩ := Prog.run_bind_ok h₁
    cases h₂
    rw [unregisterWorldContainerViewerAtState_run] at hfirst
    cases hfirst
    exact ih hrest

def ServerCore.otherViewers (core : ServerCore) (position : BlockPos) (actorId : PlayerId) :
    List PlayerId :=
  (((core.world.containerViewers[position]?).map fun entry => entry.viewers.keys).getD []).filter
    fun viewerId => viewerId ≠ actorId

/-- What one viewer of a container does to the others: the container is written back, those who
    look into it see what the actor sees, and those who do not are struck off. -/
theorem syncWorldContainerViewersState_ok {actorId : PlayerId} {delta : WorldContainerSyncDelta}
    (h : run (baseState C) (syncWorldContainerViewersState C position actorId) s = .ok (delta, t)) :
    (¬ ∃ window, s.windowOf actorId = some window ∧ window.worldPosition = some position) ∧
        t = s ∨
      ∃ (window : OpenInventoryWindow) (stale : List PlayerId),
        s.windowOf actorId = some window ∧ window.worldPosition = some position ∧
        (∀ viewerId, viewerId ∈ stale ↔ viewerId ∈ s.otherViewers position actorId ∧
          ¬ s.Sees position window.container.kind viewerId) ∧
        t = stale.foldl (fun core viewerId => core.withoutViewer position viewerId)
          ((s.otherViewers position actorId).foldl (ServerCore.synced position window.container)
            (s.writtenBack C window)) := by
  unfold syncWorldContainerViewersState at h
  rw [run_bind_of (playerSession_run s actorId)] at h
  have hwindowOf : (s.sessions.playerSessions[actorId]?).bind
      (fun session => session.activeContainer) = s.windowOf actorId := rfl
  rw [hwindowOf] at h
  cases hsource : (s.windowOf actorId).filter fun window => window.worldPosition = some position with
  | none =>
    rw [hsource] at h
    cases h
    refine .inl ⟨?_, rfl⟩
    rintro ⟨window, hwindow, hposition⟩
    rw [hwindow] at hsource
    simp [hposition] at hsource
  | some window =>
    rw [hsource] at h
    obtain ⟨hwindow, hposition⟩ := Option.filter_eq_some_iff.mp hsource
    have hposition := of_decide_eq_true hposition
    dsimp only at h
    rw [run_bind_of (writebackWorldContainerState_run s window),
      run_bind_of (containerViewers_run _ position)] at h
    have hothers : (s.writtenBack C window).otherViewers position actorId =
        s.otherViewers position actorId := by
      unfold ServerCore.otherViewers
      rw [writtenBack_viewers]
    have hsees : ∀ viewerId, (s.writtenBack C window).Sees position window.container.kind viewerId ↔
        s.Sees position window.container.kind viewerId := by
      intro viewerId
      unfold ServerCore.Sees ServerCore.inventoryOf ServerCore.windowOf
      rw [writtenBack_entities, writtenBack_sessions]
    refine .inr ⟨window, ?_⟩
    rw [← hothers]
    unfold ServerCore.otherViewers
    cases hentry : (s.writtenBack C window).world.containerViewers[position]? with
    | none =>
      rw [hentry] at h
      cases h
      exact ⟨[], hwindow, hposition, by simp, rfl⟩
    | some entry =>
      rw [hentry] at h
      dsimp only at h
      obtain ⟨outcomes, s₁, hsync, h₁⟩ := Prog.run_bind_ok h
      obtain ⟨answers, s₂, hstale, h₂⟩ := Prog.run_bind_ok h₁
      cases h₂
      obtain ⟨rfl, hids, hseen⟩ := syncViewers_ok hsync
      refine ⟨_, hwindow, hposition, ?_, unregisterViewers_ok hstale⟩
      intro viewerId
      rw [Option.map_some, Option.getD_some, ← hids]
      constructor
      · intro hmem
        obtain ⟨outcome, hfiltered, rfl⟩ := List.mem_map.mp hmem
        obtain ⟨houtcome, hnone⟩ := List.mem_filter.mp hfiltered
        refine ⟨List.mem_map_of_mem houtcome, ?_⟩
        rw [← hsees, ← hseen outcome houtcome]
        simpa using hnone
      · rintro ⟨hmem, hnot⟩
        obtain ⟨outcome, houtcome, rfl⟩ := List.mem_map.mp hmem
        refine List.mem_map_of_mem (List.mem_filter.mpr ⟨houtcome, ?_⟩)
        rw [← hsees, ← hseen outcome houtcome] at hnot
        simpa using hnot

theorem withoutViewers_same (position : BlockPos) (viewerIds : List PlayerId) (s : ServerCore) :
    (viewerIds.foldl (fun core viewerId => core.withoutViewer position viewerId) s).entities =
        s.entities ∧
      (viewerIds.foldl (fun core viewerId => core.withoutViewer position viewerId) s).sessions =
        s.sessions ∧
      (viewerIds.foldl (fun core viewerId => core.withoutViewer position viewerId)
        s).world.blockEntities = s.world.blockEntities ∧
      ∀ other, (viewerIds.foldl (fun core viewerId => core.withoutViewer position viewerId)
        s).blockAt C other = s.blockAt C other := by
  induction viewerIds generalizing s with
  | nil => exact ⟨rfl, rfl, rfl, fun _ => rfl⟩
  | cons first rest ih =>
    obtain ⟨hentities, hsessions, hblockEntities, hblocks⟩ := ih (s.withoutViewer position first)
    refine ⟨hentities.trans ?_, hsessions.trans ?_, hblockEntities.trans ?_,
      fun other => (hblocks other).trans ?_⟩
    · exact withoutViewer_entities ..
    · exact withoutViewer_sessions ..
    · exact blockEntities_withoutViewer ..
    · exact blockAt_withoutViewer ..

theorem syncedAll_same (position : BlockPos) (source : OpenContainerState)
    (viewerIds : List PlayerId) (s : ServerCore) :
    (viewerIds.foldl (ServerCore.synced position source) s).entities = s.entities ∧
      (viewerIds.foldl (ServerCore.synced position source) s).world = s.world := by
  induction viewerIds generalizing s with
  | nil => exact ⟨rfl, rfl⟩
  | cons first rest ih =>
    obtain ⟨hentities, hworld⟩ := ih (s.synced position source first)
    exact ⟨hentities.trans (synced_entities ..), hworld.trans (synced_world ..)⟩

/-! ### Ticking -/

def OpenInventoryWindow.ticked (C : ContentBehavior) (window : OpenInventoryWindow) :
    OpenInventoryWindow :=
  { window with container := C.tickContainer window.container }

def ServerCore.withWindow (playerId : PlayerId) (session : PlayerSessionState)
    (window : OpenInventoryWindow) (core : ServerCore) : ServerCore :=
  { core with sessions.playerSessions := (core.sessions.playerSessions.insert playerId
    { session with activeContainer := some window }) }

/-- The window shows the same after the tick as before. -/
def OpenInventoryWindow.Unchanged (C : ContentBehavior) (window : OpenInventoryWindow)
    (inventory : PlayerInventory) : Prop :=
  window.contents inventory = (window.ticked C).contents inventory ∧
    window.propertyEntries = (window.ticked C).propertyEntries

theorem tickActiveContainerState_ok
    (h : run (baseState C) (tickActiveContainerState C playerId) s = .ok (answer, t)) :
    (s.windowOf playerId = none ∨ s.inventoryOf playerId = none) ∧ answer = none ∧ t = s ∨
      ∃ session window inventory, s.sessions.playerSessions[playerId]? = some session ∧
        session.activeContainer = some window ∧ s.inventoryOf playerId = some inventory ∧
        (window.Unchanged C inventory ∧ answer = none ∧
            t = (s.withWindow playerId session (window.ticked C)).writtenBack C (window.ticked C) ∨
          ¬ window.Unchanged C inventory ∧
            (window.worldPosition = none ∧
                t = (s.withWindow playerId session (window.ticked C)).writtenBack C
                  (window.ticked C) ∨
              ∃ position delta, window.worldPosition = some position ∧
                run (baseState C) (syncWorldContainerViewersState C position playerId)
                  ((s.withWindow playerId session (window.ticked C)).writtenBack C
                    (window.ticked C)) = .ok (delta, t)) ∧
            answer = some
              { playerId := playerId
                windowId := window.windowId
                container := window.container.kind
                beforeContents := window.contents inventory
                afterContents := (window.ticked C).contents inventory
                beforeProperties := window.propertyEntries
                afterProperties := (window.ticked C).propertyEntries }) := by
  unfold tickActiveContainerState at h
  unfold ServerCore.windowOf
  rw [run_bind_of (playerSession_run s playerId)] at h
  cases hsession : s.sessions.playerSessions[playerId]? with
  | none =>
    rw [hsession] at h
    cases h
    exact .inl ⟨.inl rfl, rfl, rfl⟩
  | some session =>
    rw [hsession] at h
    dsimp only [Option.bind_some] at h ⊢
    cases hwindow : session.activeContainer with
    | none =>
      rw [hwindow] at h
      cases h
      exact .inl ⟨.inl rfl, rfl, rfl⟩
    | some window =>
      rw [hwindow] at h
      dsimp only at h
      rw [run_bind_of (playerInventory_run s playerId)] at h
      cases hinventory : s.inventoryOf playerId with
      | none =>
        rw [hinventory] at h
        cases h
        exact .inl ⟨.inr rfl, rfl, rfl⟩
      | some inventory =>
        rw [hinventory] at h
        dsimp only at h
        refine .inr ⟨session, window, inventory, rfl, hwindow, rfl, ?_⟩
        obtain ⟨found, s₁, hedit, h₁⟩ := Prog.run_bind_ok h
        rcases playerSessionInventoryMut_ok hedit with ⟨hmissing, -, -⟩ |
          ⟨entityId, session', inventory₀, b, session'', inventory', hentity, hsession',
            hinventory', hchange, rfl, rfl⟩
        · rw [hsession, hinventory] at hmissing
          rcases hmissing with hnone | hnone
          · cases hnone
          · cases hnone
        · rw [hsession] at hsession'
          cases hsession'
          have hsame : s.inventoryOf playerId = some inventory₀ := by
            unfold ServerCore.inventoryOf
            rw [hentity]
            exact hinventory'
          rw [hinventory] at hsame
          cases hsame
          rw [hwindow] at hchange
          cases hchange
          dsimp only at h₁
          rw [insert_self hinventory'] at h₁
          change run (baseState C) _ (s.withWindow playerId session (window.ticked C)) = _ at h₁
          have hafter : (s.withWindow playerId session
              (window.ticked C)).sessions.playerSessions[playerId]? =
              some { session with activeContainer := some (window.ticked C) } := by
            unfold ServerCore.withWindow
            simp
          rw [run_bind_of (playerSession_run _ playerId), hafter] at h₁
          dsimp only [Option.bind_some] at h₁
          have hrest : run (baseState C) (if window.contents inventory =
                (window.ticked C).contents inventory ∧
                window.propertyEntries = (window.ticked C).propertyEntries then pure none
              else
                match window.worldPosition with
                | some position => do
                  let _ ← syncWorldContainerViewersState C position playerId
                  pure (some ⟨playerId, window.windowId, window.container.kind,
                    window.contents inventory, (window.ticked C).contents inventory,
                    window.propertyEntries, (window.ticked C).propertyEntries⟩)
                | none => pure (some ⟨playerId, window.windowId, window.container.kind,
                    window.contents inventory, (window.ticked C).contents inventory,
                    window.propertyEntries, (window.ticked C).propertyEntries⟩))
              ((s.withWindow playerId session (window.ticked C)).writtenBack C
                (window.ticked C)) = .ok (answer, t) := by
            split at h₁
            · rw [run_bind_of (writebackWorldContainerState_run ..)] at h₁
              exact h₁
            · next hnowhere =>
              have hnothing : (s.withWindow playerId session (window.ticked C)).writtenBack C
                  (window.ticked C) = s.withWindow playerId session (window.ticked C) := by
                unfold writtenBack OpenInventoryWindow.worldBlockEntity
                rw [Option.not_isSome_iff_eq_none.mp hnowhere]
                rfl
              rw [hnothing]
              exact h₁
          split at hrest
          · next hunchanged =>
            cases hrest
            exact .inl ⟨hunchanged, rfl, rfl⟩
          · next hchanged =>
            refine .inr ⟨hchanged, ?_⟩
            cases hposition : window.worldPosition with
            | none =>
              rw [hposition] at hrest
              cases hrest
              exact ⟨.inl ⟨rfl, rfl⟩, rfl⟩
            | some position =>
              rw [hposition] at hrest
              obtain ⟨delta, s₂, hsync, hdone⟩ := Prog.run_bind_ok hrest
              cases hdone
              exact ⟨.inr ⟨position, delta, rfl, hsync⟩, rfl⟩

/-- Two windows hold the same slots and gauges. -/
def OpenInventoryWindow.SameContents (first second : OpenInventoryWindow) : Prop :=
  first.container.localSlots = second.container.localSlots ∧
    first.container.properties = second.container.properties

/-- **What the tick of one player's window changes.**  The player's window is ticked and written
    back, and every other window stays or shows what the player's window shows; the windows of
    the other registered viewers show it, if it is news. -/
theorem tickActiveContainerState_shows (hinventory : (s.inventoryOf playerId).isSome)
    (hwindow : s.windowOf playerId = some window)
    (h : run (baseState C) (tickActiveContainerState C playerId) s = .ok (answer, t)) :
    t.windowOf playerId = some (window.ticked C) ∧
      (∀ other, other ≠ playerId → t.windowOf other = s.windowOf other ∨
        ∃ shown place, s.windowOf other = some shown ∧
          (window.ticked C).worldPosition = some place ∧
          shown.ShowsAt place (window.ticked C).container.kind ∧
          t.windowOf other = some (shown.showing (window.ticked C).container)) ∧
      (∀ place : BlockPos, t.world.blockEntities[place]? =
        if (window.ticked C).worldPosition = some place ∧
            s.containerKindAt C place = some (window.ticked C).container.kind then
          (window.ticked C).container.blockEntityState.map .container
        else s.world.blockEntities[place]?) ∧
      ∀ (place : BlockPos) (other : PlayerId) (shown : OpenInventoryWindow),
        window.worldPosition = some place → (window.ticked C).worldPosition = some place →
        other ∈ s.otherViewers place playerId → (s.inventoryOf other).isSome →
        s.windowOf other = some shown → shown.ShowsAt place (window.ticked C).container.kind →
        (window.ticked C).SameContents window ∨
          t.windowOf other = some (shown.showing (window.ticked C).container) := by
  rcases tickActiveContainerState_ok h with ⟨hnone | hnone, -, -⟩ |
    ⟨session, window', inventory, hsession, hwindow', -, hcases⟩
  · rw [hwindow] at hnone
    cases hnone
  · rw [hnone] at hinventory
    cases hinventory
  have hsame : window' = window := by
    unfold ServerCore.windowOf at hwindow
    rw [hsession, Option.bind_some, hwindow'] at hwindow
    exact Option.some.inj hwindow
  subst hsame
  generalize hv : (s.withWindow playerId session (window'.ticked C)).writtenBack C
    (window'.ticked C) = v at hcases
  have hown : v.windowOf playerId = some (window'.ticked C) := by
    rw [← hv]
    unfold ServerCore.windowOf
    rw [writtenBack_sessions]
    simp [ServerCore.withWindow]
  have hothers : ∀ other, other ≠ playerId → v.windowOf other = s.windowOf other := by
    intro other hother
    rw [← hv]
    unfold ServerCore.windowOf
    rw [writtenBack_sessions]
    simp [ServerCore.withWindow, BTreeMap.getElem?_insert_eq, Ne.symm hother]
  have hkind : ∀ place, v.containerKindAt C place = s.containerKindAt C place := by
    intro place
    rw [← hv]
    unfold ServerCore.containerKindAt
    rw [blockAt_writtenBack]
    rfl
  have hentity : ∀ place : BlockPos, v.world.blockEntities[place]? =
      if (window'.ticked C).worldPosition = some place ∧
          s.containerKindAt C place = some (window'.ticked C).container.kind then
        (window'.ticked C).container.blockEntityState.map .container
      else s.world.blockEntities[place]? := by
    intro place
    rw [← hv, blockEntities_writtenBack]
    rfl
  have hsteps : (t = v ∧ ((window'.ticked C).SameContents window' ∨
        ∀ place, window'.worldPosition = some place →
          (window'.ticked C).worldPosition ≠ some place)) ∨
      ∃ (position : BlockPos) (stale : List PlayerId),
      (window'.ticked C).worldPosition = some position ∧
      t = stale.foldl (fun core viewerId => core.withoutViewer position viewerId)
        ((v.otherViewers position playerId).foldl
          (ServerCore.synced position (window'.ticked C).container)
          (v.writtenBack C (window'.ticked C))) := by
    rcases hcases with ⟨hunchanged, -, htv⟩ | ⟨-, ⟨hnowhere, htv⟩ | ⟨position, delta, hat, hsync⟩, -⟩
    · refine .inl ⟨htv, .inl ⟨?_, ExtTreeMap.toList_inj.mp hunchanged.2.symm⟩⟩
      exact (congrArg InventoryWindowContents.localSlots hunchanged.1).symm
    · refine .inl ⟨htv, .inr fun place hplace => ?_⟩
      rw [hnowhere] at hplace
      cases hplace
    · rcases syncWorldContainerViewersState_ok hsync with ⟨hno, htv⟩ |
        ⟨source, stale, hsource, hposition, -, hsynced⟩
      · refine .inl ⟨htv, .inr fun place hplace hticked => hno ⟨_, hown, ?_⟩⟩
        rw [hticked, ← hplace, hat]
      · rw [hown] at hsource
        cases hsource
        exact .inr ⟨position, stale, hposition, hsynced⟩
  rcases hsteps with ⟨rfl, hsame⟩ | ⟨position, stale, hposition, rfl⟩
  · refine ⟨hown, fun other hother => .inl (hothers other hother), hentity, ?_⟩
    intro place other shown hat hticked _ _ _ _
    exact .inl (hsame.resolve_right fun hmoved => hmoved place hat hticked)
  obtain ⟨-, hsessions, hblockEntities, -⟩ := withoutViewers_same (C := C) position stale
    ((v.otherViewers position playerId).foldl
      (ServerCore.synced position (window'.ticked C).container)
      (v.writtenBack C (window'.ticked C)))
  have hwindows : ∀ other, (stale.foldl (fun core viewerId => core.withoutViewer position viewerId)
      ((v.otherViewers position playerId).foldl
        (ServerCore.synced position (window'.ticked C).container)
        (v.writtenBack C (window'.ticked C)))).windowOf other =
      if other ∈ v.otherViewers position playerId then
        (v.writtenBack C (window'.ticked C)).shownAfter position (window'.ticked C).container other
      else v.windowOf other := by
    intro other
    conv_lhs => unfold ServerCore.windowOf
    rw [hsessions]
    have hsynced := windowOf_syncedAll position (window'.ticked C).container
      (v.otherViewers position playerId) (v.writtenBack C (window'.ticked C)) other
    unfold ServerCore.windowOf at hsynced ⊢
    rw [writtenBack_sessions] at hsynced
    exact hsynced
  refine ⟨?_, fun other hother => ?_, fun place => ?_, ?_⟩
  · rw [hwindows, if_neg]
    · exact hown
    · simp [ServerCore.otherViewers]
  · rw [hwindows]
    split
    · have hbefore : (v.writtenBack C (window'.ticked C)).windowOf other = s.windowOf other := by
        rw [← hothers other hother]
        unfold ServerCore.windowOf
        rw [writtenBack_sessions]
      unfold ServerCore.shownAfter
      rw [hbefore]
      cases hshown : s.windowOf other with
      | none => exact .inl rfl
      | some shown =>
        rw [Option.map_some]
        split
        · next hshows => exact .inr ⟨shown, position, rfl, hposition, hshows.2, rfl⟩
        · exact .inl rfl
    · exact .inl (hothers other hother)
  · rw [hblockEntities, (syncedAll_same ..).2, blockEntities_writtenBack, hentity, hkind]
    split <;> rfl
  · intro place other shown _ hticked hmem hinventory' hshown hshows
    rw [hposition] at hticked
    cases hticked
    have hviewers : v.otherViewers position playerId = s.otherViewers position playerId := by
      rw [← hv]
      unfold ServerCore.otherViewers
      rw [writtenBack_viewers]
      rfl
    have hother : other ≠ playerId := by
      simpa using (List.mem_filter.mp hmem).2
    have hbefore : (v.writtenBack C (window'.ticked C)).windowOf other = some shown := by
      rw [← hshown, ← hothers other hother]
      unfold ServerCore.windowOf
      rw [writtenBack_sessions]
    have hthere : (v.writtenBack C (window'.ticked C)).inventoryOf other = s.inventoryOf other := by
      rw [← hv]
      unfold ServerCore.inventoryOf
      rw [writtenBack_entities, writtenBack_entities]
      rfl
    right
    rw [hwindows, hviewers, if_pos hmem]
    unfold ServerCore.shownAfter
    rw [hbefore, Option.map_some, if_pos ⟨by rw [hthere]; exact hinventory', hshows⟩]

/-! ### Leaving -/

theorem persistedOnline_ok {core core' : ServerCore} {answer : Option PlayerSnapshot}
    (h : Prog.run (baseState C) (persistedOnlinePlayerSnapshotState C playerId) core =
      .ok (answer, core')) : core' = core ∧
      ((core.playerSnapshot playerId = none ∨ core.sessions.playerSessions[playerId]? = none) ∧
          answer = none ∨
        ∃ snapshot session saved, core.playerSnapshot playerId = some snapshot ∧
          core.sessions.playerSessions[playerId]? = some session ∧ answer = some saved ∧
          persistLivePlayerState C snapshot session.cursor session.activeContainer = .ok saved) := by
  unfold persistedOnlinePlayerSnapshotState at h
  rw [run_bind_of (composePlayerSnapshot_run core playerId)] at h
  cases hsnapshot : core.playerSnapshot playerId with
  | none =>
    rw [hsnapshot] at h
    cases h
    exact ⟨rfl, .inl ⟨.inl rfl, rfl⟩⟩
  | some snapshot =>
    rw [hsnapshot] at h
    dsimp only at h
    rw [run_bind_of (playerSession_run core playerId)] at h
    cases hsession : core.sessions.playerSessions[playerId]? with
    | none =>
      rw [hsession] at h
      cases h
      exact ⟨rfl, .inl ⟨.inr rfl, rfl⟩⟩
    | some session =>
      rw [hsession] at h
      dsimp only at h
      obtain ⟨saved, t, hlift, hdone⟩ := Prog.run_bind_ok h
      obtain ⟨hpersist, rfl⟩ := Prog.run_lift_ok hlift
      cases hdone
      exact ⟨rfl, .inr ⟨snapshot, session, saved, rfl, rfl, rfl, hpersist⟩⟩

theorem stateClearActiveMining_player {core core' : ServerCore} {cleared : Option ClearMiningDelta}
    (h : Prog.run (baseState C) (stateClearActiveMining playerId) core = .ok (cleared, core'))
    (other : PlayerId) : core'.playerSnapshot other = core.playerSnapshot other ∧
      core'.sessions = core.sessions := by
  unfold stateClearActiveMining at h
  rw [run_bind_of (playerEntityId_run core playerId)] at h
  cases hentity : core.entities.playersByPlayerId[playerId]? with
  | none =>
    rw [hentity] at h
    cases h
    exact ⟨rfl, rfl⟩
  | some entityId =>
    rw [hentity] at h
    dsimp only at h
    obtain ⟨mining, t, hremove, hrest⟩ := Prog.run_bind_ok h
    have hstate : core' = t := by
      cases mining with
      | none | some miningState =>
        cases hrest
        rfl
    subst hstate
    cases hremove
    exact ⟨rfl, rfl⟩

end RevyCraft
