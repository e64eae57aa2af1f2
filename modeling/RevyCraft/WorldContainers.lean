/-
  RevyCraft/WorldContainers.lean
  ==============================
  **Block entities fit their blocks.**

  Blocks, block entities and open windows are three maps of a core that no
  operation writes together.  What ties a window to the world is its seat: its
  id, the kind of its container and the block it is bound to.  Clicks, ticks
  and synchronisation change what a window shows and leave the seat alone; so
  what a window can write back late is known from its seat (`Seat.Bound`), and
  the guard of the write-back does the rest.
-/
import RevyCraft.FurnaceTicks

namespace RevyCraft

open Std
open RevyCraft.Core
open Prog (run Keeps Triple triple_bind triple_pure)
open ServerCore

variable {C : ContentBehavior}

/-! ### What the content agrees on -/

/-- The tables of a content agree, and no window is moved by normalising or ticking it. -/
structure ContentBehavior.Agrees (C : ContentBehavior) : Prop where
  generated : ∀ first second chunkPos, C.generateChunk first chunkPos = C.generateChunk second chunkPos
  blockDefault : ∀ block entity, C.defaultBlockEntityForBlock block = some entity →
    (C.containerKindForBlock block).bind C.blockEntityKindForContainer = some entity.kind
  kindDefault : ∀ kind entity, C.defaultBlockEntityForKind kind = some entity → entity.kind = kind
  normalizes : ∀ state, SamePlace state (C.normalizeContainer state)
  ticks : ∀ state, SamePlace state (C.tickContainer state)

theorem canonical_kindDefault {kind : BlockEntityKindId} {entity : ContainerBlockEntityState}
    (h : Canonical.defaultBlockEntityForKind kind = some entity) : entity.kind = kind := by
  unfold Canonical.defaultBlockEntityForKind at h
  split at h
  · cases h
    rfl
  · split at h
    · cases h
      rfl
    · cases h

theorem canonical_agrees : canonicalContent.Agrees where
  generated := fun _ _ _ => rfl
  blockDefault := by
    intro block entity h
    change Canonical.defaultBlockEntityForBlock block = some entity at h
    change (Canonical.containerKindForBlock block).bind Canonical.blockEntityKindForContainer = _
    unfold Canonical.defaultBlockEntityForBlock at h
    split at h
    · next hchest =>
      rw [canonical_kindDefault h]
      simp [Canonical.containerKindForBlock, Canonical.blockEntityKindForContainer, hchest,
        Catalog.CHEST, Catalog.CRAFTING_TABLE]
    · split at h
      · next hfurnace =>
        rw [canonical_kindDefault h]
        simp [Canonical.containerKindForBlock, Canonical.blockEntityKindForContainer, hfurnace,
          Catalog.FURNACE, Catalog.CHEST, Catalog.CRAFTING_TABLE, Ids.FURNACE, Ids.CHEST_27]
      · cases h
  kindDefault := fun _ _ => canonical_kindDefault
  normalizes := by
    intro state
    change SamePlace state (Canonical.normalizeContainer state)
    unfold Canonical.normalizeContainer
    split
    · exact ⟨rfl, rfl⟩
    · split
      · exact normalizeFurnace_place state
      · exact ⟨rfl, rfl⟩
  ticks := fun state => ⟨canonical_ticksInPlace.kind state, canonical_ticksInPlace.binding state⟩

/-! ### Seats -/

/-- Where a window belongs. -/
structure Seat where
  windowId : Nat
  kind : ContainerKindId
  binding : ContainerBinding

def OpenInventoryWindow.seat (window : OpenInventoryWindow) : Seat :=
  ⟨window.windowId, window.container.kind, window.container.binding⟩

def Seat.position (seat : Seat) : Option BlockPos :=
  match seat.binding with
  | .virtual => none
  | .block position _ => some position

/-- The seat is at a block whose block entity is of the kind its container has. -/
def Seat.Bound (C : ContentBehavior) (seat : Seat) : Prop :=
  ∀ position kind, seat.binding = .block position kind →
    C.blockEntityKindForContainer seat.kind = some kind

/-- The seat of a player's window. -/
def ServerCore.seatOf (core : ServerCore) (playerId : PlayerId) : Option Seat :=
  (core.windowOf playerId).map OpenInventoryWindow.seat

theorem seat_position (window : OpenInventoryWindow) :
    window.seat.position = window.worldPosition := rfl

variable {window : OpenInventoryWindow} {s : ServerCore}

theorem seat_of_place {container : OpenContainerState} (h : SamePlace window.container container) :
    OpenInventoryWindow.seat { window with container := container } = window.seat := by
  unfold OpenInventoryWindow.seat
  rw [h.1, h.2]

variable {t : ServerCore} {playerId : PlayerId} {button : InventoryClickButton}

theorem seatOf_of_same (h : Part.activeContainer.Same C s t) (playerId : PlayerId) :
    t.seatOf playerId = s.seatOf playerId := by
  unfold ServerCore.seatOf
  rw [windowOf_of_same h]

theorem seatOf_insert (s : ServerCore) (playerId other : PlayerId) (session : PlayerSessionState) :
    ServerCore.seatOf { s with
      sessions.playerSessions := s.sessions.playerSessions.insert playerId session } other =
      if playerId = other then session.activeContainer.map OpenInventoryWindow.seat
      else s.seatOf other := by
  unfold ServerCore.seatOf ServerCore.windowOf
  dsimp only
  rw [BTreeMap.getElem?_insert_eq]
  split <;> rfl

theorem seatOf_synced (position : BlockPos) (source : OpenContainerState) (s : ServerCore)
    (viewerId playerId : PlayerId) :
    (s.synced position source viewerId).seatOf playerId = s.seatOf playerId := by
  unfold ServerCore.seatOf
  rw [windowOf_synced]
  split
  · unfold ServerCore.shownAfter
    rw [Option.map_map]
    congr 1
    funext window
    dsimp only [Function.comp_apply]
    split <;> rfl
  · rfl

@[simp] theorem seatOf_writtenBack (s : ServerCore) (window : OpenInventoryWindow)
    (playerId : PlayerId) : (s.writtenBack C window).seatOf playerId = s.seatOf playerId := by
  unfold ServerCore.seatOf ServerCore.windowOf
  rw [writtenBack_sessions]

@[simp] theorem seatOf_withoutViewer (s : ServerCore) (position : BlockPos)
    (viewerId playerId : PlayerId) :
    (s.withoutViewer position viewerId).seatOf playerId = s.seatOf playerId := by
  unfold ServerCore.seatOf ServerCore.windowOf
  rw [withoutViewer_sessions]

@[simp] theorem seatOf_withoutWindowViewer (s : ServerCore) (window : OpenInventoryWindow)
    (viewerId playerId : PlayerId) :
    (s.withoutWindowViewer window viewerId).seatOf playerId = s.seatOf playerId := by
  unfold ServerCore.seatOf ServerCore.windowOf
  rw [withoutWindowViewer_sessions]

theorem ClosesWindow.seatOf (h : ClosesWindow C s playerId window t) (other : PlayerId) :
    t.seatOf other = if playerId = other then none else s.seatOf other := by
  obtain ⟨entityId, session, inventory, inventory', -, -, -, -, -, rfl⟩ := h
  rw [seatOf_withoutWindowViewer, seatOf_writtenBack]
  exact seatOf_insert s playerId other { session with activeContainer := none }

theorem applyContainerSlotClick_seat (hC : C.Agrees) {window' : OpenInventoryWindow}
    {spec : ContainerSpec} {index : Nat} {cursor cursor' : Option ItemStack} {applied : Bool}
    (h : applyContainerSlotClick C window spec index cursor button =
      .ok (applied, cursor', window')) : window'.seat = window.seat := by
  have hslots : ∀ (applied : Bool) (container : OpenContainerState),
      SamePlace window.container container → OpenInventoryWindow.seat
        ⟨window.windowId, if applied then C.normalizeContainer container else container⟩ =
          window.seat := by
    intro applied container hplace
    split
    · exact seat_of_place (hplace.trans (hC.normalizes container))
    · exact seat_of_place hplace
  unfold applyContainerSlotClick at h
  split at h
  · cases h
    rfl
  · cases h
    exact hslots _ _ ⟨rfl, rfl⟩
  · split at h
    · cases h
      rfl
    · obtain ⟨clicked, -, h⟩ := except_bind_eq_ok.mp h
      cases h
      exact hslots _ _ ⟨rfl, rfl⟩

theorem applyActiveContainerClick_seat (hC : C.Agrees) {session session' : PlayerSessionState}
    {inventory inventory' : PlayerInventory} {windowId : Nat} {slot : Option InventorySlot}
    {target : InventoryClickTarget} {applied : Bool}
    (h : applyActiveContainerClick C session inventory windowId slot target button =
      .ok (applied, session', inventory')) : session'.activeContainer.map OpenInventoryWindow.seat =
      session.activeContainer.map OpenInventoryWindow.seat := by
  unfold applyActiveContainerClick at h
  split at h
  · cases h
    rfl
  · split at h
    · cases h
      rfl
    · cases h
      rfl
    · next slot window hwindow =>
      split at h
      · cases h
        rfl
      · split at h
        · cases h
          rfl
        · split at h
          · split at h
            · obtain ⟨⟨clicked, cursor, window'⟩, hclick, h⟩ := except_bind_eq_ok.mp h
              cases h
              rw [hwindow, Option.map_some, Option.map_some,
                applyContainerSlotClick_seat hC hclick]
            · cases h
              rfl
          · obtain ⟨clicked, -, h⟩ := except_bind_eq_ok.mp h
            cases h
            rfl

theorem clickHeld_seat (hC : C.Agrees) {windowId : Nat} {target : InventoryClickTarget}
    {container : ContainerKindId} {held held' : PlayerSessionState × PlayerInventory}
    {outcome : Bool × InventoryWindowContents × List (ContainerPropertyKey × Int) ×
      Option ItemStack}
    (h : clickHeld C windowId target button container held = .ok (outcome, held')) :
    held'.1.activeContainer.map OpenInventoryWindow.seat =
      held.1.activeContainer.map OpenInventoryWindow.seat := by
  unfold clickHeld at h
  split at h
  · split at h
    · cases h
      rfl
    · obtain ⟨clicked, -, h⟩ := except_bind_eq_ok.mp h
      cases h
      rfl
  · obtain ⟨⟨applied, session, inventory⟩, hclick, h⟩ := except_bind_eq_ok.mp h
    cases h
    exact applyActiveContainerClick_seat hC hclick

/-! ### Block entities that fit -/

def ServerCore.entityKindAt (C : ContentBehavior) (core : ServerCore) (position : BlockPos) :
    Option BlockEntityKindId :=
  (core.containerKindAt C position).bind C.blockEntityKindForContainer

/-- The block entities outside some positions are of the kind that belongs there, and no window
    can write back another one. -/
structure HousedBut (C : ContentBehavior) (apart : BlockPos → Prop) (core : ServerCore) : Prop where
  fits : ∀ position entity, ¬ apart position → core.world.blockEntities[position]? = some entity →
    core.entityKindAt C position = some entity.containerState.kind
  bound : ∀ playerId seat, core.seatOf playerId = some seat → seat.Bound C

/-- Every block entity is of the kind that belongs at its position. -/
abbrev Housed (C : ContentBehavior) : ServerCore → Prop := HousedBut C fun _ => False

section Housed

variable {s t : ServerCore}

theorem entityKindAt_of_same (h : Part.blocks.Same C s t) (position : BlockPos) :
    t.entityKindAt C position = s.entityKindAt C position := by
  unfold ServerCore.entityKindAt
  rw [containerKindAt_of_same h]

theorem Housed.of_same (h : Housed C s)
    (hkinds : ∀ position, t.entityKindAt C position = s.entityKindAt C position)
    (hentities : t.world.blockEntities = s.world.blockEntities)
    (hbound : ∀ playerId seat, t.seatOf playerId = some seat → seat.Bound C) : Housed C t := by
  refine ⟨fun position entity hapart hentity => ?_, hbound⟩
  rw [hkinds]
  rw [hentities] at hentity
  exact h.fits position entity hapart hentity

theorem Housed.of_within {α : Type} {parts : List Part} {p : CoreM α} (hp : Within parts p)
    (hparts : ∀ part ∈ [Part.blocks, .blockEntities, .activeContainer], part ∉ parts) :
    Keeps (baseState C) (Housed C) p := by
  intro s hs a t hrun
  have hblocks := hp.same (hparts .blocks (by decide)) hrun
  have hwindows := hp.same (hparts .activeContainer (by decide)) hrun
  refine hs.of_same (entityKindAt_of_same hblocks)
    (hp.same (hparts .blockEntities (by decide)) hrun) fun playerId seat hseat => ?_
  rw [seatOf_of_same hwindows] at hseat
  exact hs.bound playerId seat hseat

theorem aboutWindows_housed : AboutWindows C (Housed C) :=
  fun hp hparts => Housed.of_within hp fun part hpart =>
    hparts part ((by decide : [Part.blocks, .blockEntities, .activeContainer] ⊆ containerParts)
      hpart)

theorem Housed.windowOf (h : Housed C s) (hwindow : s.windowOf playerId = some window) :
    window.seat.Bound C := by
  apply h.bound playerId
  unfold ServerCore.seatOf
  rw [hwindow]
  rfl

theorem Housed.writtenBack (h : Housed C s) (hwindow : window.seat.Bound C) :
    Housed C (s.writtenBack C window) := by
  refine ⟨fun position entity hapart hentity => ?_, fun playerId seat hseat => ?_⟩
  · have hkind : (s.writtenBack C window).entityKindAt C position = s.entityKindAt C position := by
      unfold ServerCore.entityKindAt ServerCore.containerKindAt
      rw [blockAt_writtenBack]
    rw [hkind]
    rw [blockEntities_writtenBack] at hentity
    split at hentity
    · next hhere =>
      obtain ⟨state, hstate, rfl⟩ := Option.map_eq_some_iff.mp hentity
      obtain ⟨kind, hbinding, rfl⟩ := Option.map_eq_some_iff.mp hstate
      unfold ServerCore.entityKindAt
      rw [hhere.2, Option.bind_some]
      unfold OpenContainerState.blockEntityKind at hbinding
      split at hbinding
      · cases hbinding
      · next place bound hplace =>
        cases hbinding
        exact hwindow place kind hplace
    · exact h.fits position entity hapart hentity
  · rw [seatOf_writtenBack] at hseat
    exact h.bound playerId seat hseat

theorem Housed.withoutViewer (h : Housed C s) (position : BlockPos) (playerId : PlayerId) :
    Housed C (s.withoutViewer position playerId) := by
  refine h.of_same (fun place => ?_) (blockEntities_withoutViewer ..) fun other seat hseat => ?_
  · unfold ServerCore.entityKindAt ServerCore.containerKindAt
    rw [blockAt_withoutViewer]
  · rw [seatOf_withoutViewer] at hseat
    exact h.bound other seat hseat

theorem Housed.withoutWindowViewer (h : Housed C s) (window : OpenInventoryWindow)
    (playerId : PlayerId) : Housed C (s.withoutWindowViewer window playerId) := by
  unfold ServerCore.withoutWindowViewer
  split
  · exact h.withoutViewer ..
  · exact h

theorem Housed.synced (h : Housed C s) (position : BlockPos) (source : OpenContainerState)
    (viewerId : PlayerId) : Housed C (s.synced position source viewerId) := by
  refine h.of_same (fun place => ?_) (by rw [synced_world]) fun other seat hseat => ?_
  · unfold ServerCore.entityKindAt ServerCore.containerKindAt ServerCore.blockAt ServerCore.chunkAt
    rw [synced_world]
  · rw [seatOf_synced] at hseat
    exact h.bound other seat hseat

theorem Housed.withSession (h : Housed C s) {session : PlayerSessionState}
    (hsession : ∀ window, session.activeContainer = some window → window.seat.Bound C) :
    Housed C { s with
      sessions.playerSessions := s.sessions.playerSessions.insert playerId session } := by
  refine h.of_same (fun _ => rfl) rfl fun other seat hseat => ?_
  rw [seatOf_insert] at hseat
  split at hseat
  · obtain ⟨window, hwindow, rfl⟩ := Option.map_eq_some_iff.mp hseat
    exact hsession window hwindow
  · exact h.bound other seat hseat

theorem Housed.withEntities (h : Housed C s) (entities : EntityStore) :
    Housed C { s with entities := entities } :=
  ⟨h.fits, h.bound⟩

theorem Housed.withEntity (h : Housed C s) {position : BlockPos}
    {entity : ContainerBlockEntityState} (hfits : s.entityKindAt C position = some entity.kind) :
    Housed C { s with world.blockEntities :=
      (s.world.blockEntities.insert position (.container entity)) } := by
  refine ⟨fun place found hapart hfound => ?_, h.bound⟩
  change (s.world.blockEntities.insert position (.container entity))[place]? = some found at hfound
  rw [BTreeMap.getElem?_insert_eq] at hfound
  split at hfound
  · next hplace =>
    cases hfound
    rw [← hplace]
    exact hfits
  · exact h.fits place found hapart hfound

theorem HousedBut.withoutEntity {position : BlockPos} (h : HousedBut C (· = position) s) :
    Housed C { s with world.blockEntities := s.world.blockEntities.erase position } := by
  refine ⟨fun place found _ hfound => ?_, h.bound⟩
  change (s.world.blockEntities.erase position)[place]? = some found at hfound
  rw [BTreeMap.getElem?_erase_eq] at hfound
  split at hfound
  · cases hfound
  · next hplace => exact h.fits place found (fun heq => hplace heq.symm) hfound

end Housed

/-! ### Windows -/

theorem closePlayerActiveContainerState_housed (playerId : PlayerId)
    (includePlayerContents : Bool) :
    Keeps (baseState C) (Housed C)
      (closePlayerActiveContainerState C playerId includePlayerContents) := by
  intro s hs answer t hrun
  rcases closePlayerActiveContainerState_ok hrun with ⟨-, -, rfl⟩ |
    ⟨window, contents, ⟨entityId, session, inventory, inventory', -, hsession, -, hwindow, -, rfl⟩,
      -, -⟩
  · exact hs
  · have howned : s.windowOf playerId = some window := by
      unfold ServerCore.windowOf
      rw [hsession]
      exact hwindow
    have hclosed : Housed C { s with sessions.playerSessions :=
        (s.sessions.playerSessions.insert playerId { session with activeContainer := none }) } :=
      hs.withSession fun window hnone => by cases hnone
    apply Housed.withoutWindowViewer
    exact (hclosed.withEntities _).writtenBack (hs.windowOf howned)

theorem closeWorldContainerViewersState_housed (place : BlockPos) :
    Keeps (baseState C) (Housed C) (closeWorldContainerViewersState C place) := by
  unfold closeWorldContainerViewersState
  refine triple_bind (aboutWindows_housed.reads (Within.reads fun _ h => h)) fun viewers => ?_
  refine triple_bind (Prog.keeps_filterMap _ fun viewerId _ =>
    closePlayerActiveContainerState_housed viewerId true) fun deltas => ?_
  have hviewers : Within [.containerViewers] (setContainerViewers place none) :=
    Within.writes (by decide) fun _ h => h
  refine triple_bind (Housed.of_within hviewers (by decide)) fun _ => ?_
  exact triple_pure fun _ hs => hs

theorem syncWorldContainerViewersState_housed (place : BlockPos) (actorId : PlayerId) :
    Keeps (baseState C) (Housed C) (syncWorldContainerViewersState C place actorId) := by
  intro s hs delta t hrun
  rcases syncWorldContainerViewersState_ok hrun with ⟨-, rfl⟩ | ⟨window, stale, hwindow, -, -, rfl⟩
  · exact hs
  · refine List.foldlRecOn stale _ ?_ fun core hcore viewerId _ => hcore.withoutViewer place viewerId
    refine List.foldlRecOn _ _ ?_ fun core hcore viewerId _ => hcore.synced place _ viewerId
    exact hs.writtenBack (hs.windowOf hwindow)

theorem tickActiveContainerState_housed (hC : C.Agrees) (playerId : PlayerId) :
    Keeps (baseState C) (Housed C) (tickActiveContainerState C playerId) := by
  intro s hs answer t hrun
  rcases tickActiveContainerState_ok hrun with ⟨-, -, rfl⟩ |
    ⟨session, window, inventory, hsession, hwindow, -, hcases⟩
  · exact hs
  · have howned : s.windowOf playerId = some window := by
      unfold ServerCore.windowOf
      rw [hsession]
      exact hwindow
    have hbound : (window.ticked C).seat.Bound C := by
      rw [show (window.ticked C).seat = window.seat from seat_of_place (hC.ticks _)]
      exact hs.windowOf howned
    have hticked : Housed C ((s.withWindow playerId session (window.ticked C)).writtenBack C
        (window.ticked C)) := by
      refine Housed.writtenBack ?_ hbound
      refine hs.withSession fun shown hshown => ?_
      cases hshown
      exact hbound
    rcases hcases with ⟨-, -, rfl⟩ | ⟨-, ⟨-, rfl⟩ | ⟨position, delta, -, hsync⟩, -⟩
    · exact hticked
    · exact hticked
    · exact syncWorldContainerViewersState_housed position playerId _ hticked _ _ hsync

theorem openNonPlayerWindowState_housed (hC : C.Agrees) (playerId : PlayerId)
    (hwindow : window.seat.Bound C) (title : String) :
    Keeps (baseState C) (Housed C) (openNonPlayerWindowState C playerId window title) := by
  intro s hs answer t hrun
  rcases openNonPlayerWindowState_ok hrun with ⟨-, -, rfl⟩ | ⟨closed, u, hclose, hcases⟩
  · exact hs
  · have hu := closePlayerActiveContainerState_housed playerId false s hs closed u hclose
    rcases hcases with ⟨-, -, rfl⟩ | ⟨session, inventory, -, -, rfl, -⟩
    · exact hu
    · have hgiven : Housed C (u.withWindow playerId session
          { window with container := C.normalizeContainer window.container }) := by
        refine hu.withSession fun shown hshown => ?_
        cases hshown
        rw [seat_of_place (hC.normalizes window.container)]
        exact hwindow
      unfold ServerCore.withOpen
      dsimp only
      split
      · exact ⟨hgiven.fits, hgiven.bound⟩
      · exact hgiven

theorem allocateNonPlayerWindowId_housed (playerId : PlayerId) :
    Keeps (baseState C) (Housed C) (allocateNonPlayerWindowId playerId) :=
  Housed.of_within (allocateNonPlayerWindowId_within playerId) (by decide)

theorem openVirtualContainerState_housed (hC : C.Agrees) (playerId : PlayerId)
    (kind : ContainerKindId) :
    Keeps (baseState C) (Housed C) (openVirtualContainerState C playerId kind) := by
  unfold openVirtualContainerState
  refine triple_bind (allocateNonPlayerWindowId_housed playerId) fun windowId => ?_
  cases windowId with
  | none => exact triple_pure fun _ hs => hs
  | some windowId =>
    dsimp only
    cases hbuild : buildVirtualContainerState C kind with
    | none => exact triple_pure fun _ hs => hs
    | some container =>
      obtain ⟨spec, -, rfl⟩ := Option.map_eq_some_iff.mp hbuild
      refine openNonPlayerWindowState_housed hC playerId ?_ _
      intro position entityKind hbinding
      change (C.normalizeContainer _).binding = _ at hbinding
      rw [(hC.normalizes _).2] at hbinding
      cases hbinding

theorem buildWorldContainerState_housed (hC : C.Agrees) {place : BlockPos} {kind : ContainerKindId}
    {answer : Option OpenContainerState} (hs : Housed C s)
    (hkind : s.containerKindAt C place = some kind)
    (hrun : run (baseState C) (buildWorldContainerState C place kind) s = .ok (answer, t)) :
    Housed C t ∧ ∀ container, answer = some container → ∀ windowId,
      Seat.Bound C (OpenInventoryWindow.seat ⟨windowId, container⟩) := by
  rcases buildWorldContainerState_ok hrun with ⟨rfl, rfl | ⟨spec, -, -, rfl⟩⟩ |
    ⟨spec, entityKind, entity, -, hentityKind, hentity, rfl, rfl⟩
  · exact ⟨hs, fun container hnone => by cases hnone⟩
  · refine ⟨hs, fun container hbuilt windowId position bound hbinding => ?_⟩
    cases hbuilt
    cases hbinding
  · have hfits : entity.kind = entityKind := by
      rcases Option.or_eq_some_iff.mp hentity with hstored | ⟨-, hdefault⟩
      · exact of_decide_eq_true (Option.filter_eq_some_iff.mp hstored).2
      · exact hC.kindDefault entityKind entity hdefault
    refine ⟨hs.withEntity ?_, fun container hbuilt windowId position bound hbinding => ?_⟩
    · unfold ServerCore.entityKindAt
      rw [hkind, Option.bind_some, hentityKind, hfits]
    · cases hbuilt
      cases hbinding
      exact hentityKind

theorem openWorldContainerState_housed (hC : C.Agrees) (playerId : PlayerId) (place : BlockPos) :
    Keeps (baseState C) (Housed C) (openWorldContainerState C playerId place) := by
  intro s hs answer t hrun
  rcases openWorldContainerState_ok hrun with ⟨-, rfl⟩ | ⟨kind, windowId, s₁, hkind, hid, hrest⟩
  · exact hs
  have hs₁ := allocateNonPlayerWindowId_housed playerId s hs windowId s₁ hid
  rcases hrest with ⟨-, rfl⟩ | ⟨id, container, s₂, rfl, hbuild, hopened⟩
  · exact hs₁
  have hstands : s₁.containerKindAt C place = some kind := by
    rw [containerKindAt_of_same ((allocateNonPlayerWindowId_within playerId).same (by decide) hid)]
    exact hkind
  obtain ⟨hs₂, hbound⟩ := buildWorldContainerState_housed hC hs₁ hstands hbuild
  rcases hopened with ⟨-, rfl⟩ | ⟨container, rfl, h₂⟩
  · exact hs₂
  · refine openNonPlayerWindowState_housed hC playerId ?_ _ s₂ hs₂ answer t h₂
    rw [@seat_of_place ⟨id, container⟩ _ (hC.normalizes container)]
    exact hbound container rfl id

theorem clickHeld_housed (hC : C.Agrees) (playerId : PlayerId) (windowId : Nat)
    (target : InventoryClickTarget) (button : InventoryClickButton)
    (container : ContainerKindId) :
    Keeps (baseState C) (Housed C)
      (playerSessionInventoryMut playerId (clickHeld C windowId target button container)) := by
  intro s hs answer t hrun
  rcases playerSessionInventoryMut_ok hrun with ⟨-, -, rfl⟩ |
    ⟨entityId, session, inventory, outcome, session', inventory', -, hsession, -, hheld, -, rfl⟩
  · exact hs
  · have hclicked : Housed C { s with sessions.playerSessions :=
        (s.sessions.playerSessions.insert playerId session') } := by
      refine hs.withSession fun window hwindow => ?_
      apply hs.bound playerId
      have hseat := clickHeld_seat hC hheld
      unfold ServerCore.seatOf ServerCore.windowOf
      rw [hsession, Option.bind_some, ← hseat, hwindow]
      rfl
    exact hclicked.withEntities _

/-! ### Blocks -/

theorem entityKindAt_setBlockAt (s : ServerCore) (place position : BlockPos)
    (block : Option BlockState) :
    (s.setBlockAt C place block).entityKindAt C position =
      if place = position then (block.bind C.containerKindForBlock).bind C.blockEntityKindForContainer
      else s.entityKindAt C position := by
  unfold ServerCore.entityKindAt ServerCore.containerKindAt
  rw [ServerCore.blockAt_setBlockAt]
  split <;> rfl

theorem Housed.setBlockAt (h : Housed C s) (place : BlockPos) (block : Option BlockState) :
    HousedBut C (· = place) (s.setBlockAt C place block) := by
  obtain ⟨chunks, hchunks⟩ := setBlockAt_eq (C := C) s place block
  refine ⟨fun position entity hapart hentity => ?_, fun playerId seat hseat => ?_⟩
  · rw [entityKindAt_setBlockAt, if_neg (Ne.symm hapart)]
    rw [hchunks] at hentity
    exact h.fits position entity not_false hentity
  · rw [hchunks] at hseat
    exact h.bound playerId seat hseat

variable (C) in
/-- The end of `closeWorldContainerIfInvalidState`, which is about the viewers. -/
def closeInvalidViewers (place : BlockPos) (block : Option BlockState) :
    CoreM (List CloseContainerDelta) := do
  let some viewers ← containerViewers place | pure []
  if block.bind C.containerKindForBlock = some viewers.kind then pure []
  else closeWorldContainerViewersState C place

theorem closeWorldContainerIfInvalidState_housed (place : BlockPos) (block : Option BlockState) :
    Triple (baseState C)
      (fun s => HousedBut C (· = place) s ∧ s.entityKindAt C place =
        (block.bind C.containerKindForBlock).bind C.blockEntityKindForContainer)
      (closeWorldContainerIfInvalidState C place block) fun _ => Housed C := by
  have hviewers : Keeps (baseState C) (Housed C) (closeInvalidViewers C place block) := by
    refine triple_bind (aboutWindows_housed.reads (Within.reads fun _ h => h)) fun viewers => ?_
    cases viewers with
    | none => exact triple_pure fun _ hs => hs
    | some viewers =>
      dsimp only
      split
      · exact triple_pure fun _ hs => hs
      · exact closeWorldContainerViewersState_housed place
  unfold closeWorldContainerIfInvalidState
  refine triple_bind (R := fun entity s => (HousedBut C (· = place) s ∧ s.entityKindAt C place =
      (block.bind C.containerKindForBlock).bind C.blockEntityKindForContainer) ∧
      s.world.blockEntities[place]? = entity) ?_ fun entity => ?_
  · exact Prog.triple_perform fun s hs => ⟨hs, rfl⟩
  dsimp only
  split
  · refine triple_bind (R := fun _ => Housed C) ?_ fun _ => hviewers
    exact Prog.triple_perform fun s hs => hs.1.1.withoutEntity
  · next hfits =>
    -- The block entity that was found, if any, is of the kind of the new block.
    refine Prog.Triple.mono hviewers ?_ fun _ _ hs => hs
    rintro s ⟨⟨hbut, hkind⟩, rfl⟩
    refine ⟨fun position found _ hfound => ?_, hbut.bound⟩
    by_cases hplace : position = place
    · subst hplace
      rw [hfound] at hfits
      rw [hkind]
      apply Eq.symm
      simpa using hfits
    · exact hbut.fits position found hplace hfound

theorem stateSetBlock_housed (hC : C.Agrees) (place : BlockPos) (block : Option BlockState) :
    Keeps (baseState C) (Housed C) (stateSetBlock C place block) := by
  unfold stateSetBlock
  refine triple_bind (Housed.of_within (stateClearActiveMiningAt_within place) (by decide))
    fun cleared => ?_
  intro s hs delta t hrun
  obtain ⟨answer, s₁, hset, h₁⟩ := Prog.run_bind_ok hrun
  cases hset
  obtain ⟨closed, s₂, hclose, h₂⟩ := Prog.run_bind_ok h₁
  have hkind : (s.setBlockAt C place block).entityKindAt C place =
      (block.bind C.containerKindForBlock).bind C.blockEntityKindForContainer := by
    rw [entityKindAt_setBlockAt, if_pos rfl]
  have hs₂ := closeWorldContainerIfInvalidState_housed place block _
    ⟨hs.setBlockAt place block, hkind⟩ closed s₂ hclose
  have hkind₂ : s₂.entityKindAt C place =
      (block.bind C.containerKindForBlock).bind C.blockEntityKindForContainer := by
    rw [← hkind]
    exact entityKindAt_of_same
      ((closeWorldContainerIfInvalidState_within place block).same (by decide) hclose) place
  cases block with
  | none =>
    cases h₂
    exact HousedBut.withoutEntity ⟨fun position entity _ => hs₂.fits position entity not_false,
      hs₂.bound⟩
  | some block =>
    dsimp only at h₂
    cases hdefault : C.defaultBlockEntityForBlock block with
    | none =>
      rw [hdefault] at h₂
      cases h₂
      exact hs₂
    | some entity =>
      rw [hdefault] at h₂
      cases h₂
      refine hs₂.withEntity ?_
      rw [hkind₂]
      exact hC.blockDefault block entity hdefault

/-! ### Players -/

theorem seatOf_removeOnlinePlayer (s : ServerCore) (playerId other : PlayerId) :
    (s.removeOnlinePlayer playerId).2.seatOf other =
      if playerId = other then none else s.seatOf other := by
  unfold ServerCore.removeOnlinePlayer ServerCore.seatOf ServerCore.windowOf
  cases hsession : s.sessions.playerSessions[playerId]? with
  | none =>
    dsimp only
    split
    · next hsame =>
      rw [← hsame, hsession]
      rfl
    · rfl
  | some session =>
    dsimp only
    rw [BTreeMap.getElem?_erase_eq]
    split <;> rfl

theorem Housed.removeOnlinePlayer (h : Housed C s) (playerId : PlayerId) :
    Housed C (s.removeOnlinePlayer playerId).2 := by
  refine h.of_same (fun position => ?_) (by rw [removeOnlinePlayer_world]) fun other seat hseat => ?_
  · unfold ServerCore.entityKindAt ServerCore.containerKindAt ServerCore.blockAt ServerCore.chunkAt
    rw [removeOnlinePlayer_world]
  · rw [seatOf_removeOnlinePlayer] at hseat
    split at hseat
    · cases hseat
    · exact h.bound other seat hseat

theorem disconnectPlayerState_housed (playerId : PlayerId) :
    Keeps (baseState C) (Housed C) (disconnectPlayerState C playerId) := by
  intro s hs answer t hrun
  obtain ⟨cleared, s₁, hclear, hcases⟩ := disconnectPlayerState_ok hrun
  have hs₁ := Housed.of_within (stateClearActiveMining_within playerId) (by decide) s hs cleared s₁
    hclear
  rcases hcases with ⟨-, rfl⟩ | ⟨session, saved, left, -, hsession, rfl, rfl⟩
  · exact hs₁
  · have hremoved := hs₁.removeOnlinePlayer playerId
    have hleft : Housed C ((s₁.removeOnlinePlayer playerId).2.withoutWindow C
        session.activeContainer playerId) := by
      unfold ServerCore.withoutWindow
      split
      · exact hremoved
      · next window hwindow =>
        apply Housed.withoutWindowViewer
        have hopen : s₁.windowOf playerId = some window := by
          unfold ServerCore.windowOf
          rw [hsession]
          exact hwindow
        exact hremoved.writtenBack (hs₁.windowOf hopen)
    exact ⟨hleft.fits, hleft.bound⟩

theorem seatOf_spawnOnlinePlayer (s : ServerCore) (player : PlayerSnapshot) (center : ChunkPos)
    (nowMs : Nat) (expected : Option EntityId) (other : PlayerId) :
    (s.spawnOnlinePlayer player center nowMs expected).2.seatOf other =
      if player.id = other then none else s.seatOf other := by
  unfold ServerCore.spawnOnlinePlayer ServerCore.seatOf ServerCore.windowOf
  dsimp only
  rw [BTreeMap.getElem?_insert_eq]
  split <;> rfl

theorem Housed.spawnOnlinePlayer (h : Housed C s) (player : PlayerSnapshot) (center : ChunkPos)
    (nowMs : Nat) (expected : Option EntityId) :
    Housed C (s.spawnOnlinePlayer player center nowMs expected).2 := by
  refine h.of_same (fun _ => rfl) rfl fun other seat hseat => ?_
  rw [seatOf_spawnOnlinePlayer] at hseat
  split at hseat
  · cases hseat
  · exact h.bound other seat hseat

/-! ### Operations and runs -/

/-- **One operation** keeps every block entity in the block it belongs to. -/
theorem reduceCoreOp_housed (hC : C.Agrees) (op : CoreOp) (nowMs : Nat)
    (players : BTreeSet PlayerId) :
    Keeps (baseState C) (Housed C) (reduceCoreOp C op nowMs players) := by
  have hplain : (∀ part ∈ [Part.blocks, .blockEntities, .activeContainer], part ∉ op.parts) →
      Keeps (baseState C) (Housed C) (reduceCoreOp C op nowMs players) := fun hparts =>
    Housed.of_within (reduceCoreOp_within op nowMs players) hparts
  have hanswer : ∀ {α : Type} {p : CoreM α} {f : α → AppliedCoreOp},
      Keeps (baseState C) (Housed C) p →
      Keeps (baseState C) (Housed C) (p >>= fun answer => pure (f answer)) := fun hp =>
    triple_bind hp fun _ => triple_pure fun _ hs => hs
  cases op
  case prepareLogin playerId player expected =>
    unfold reduceCoreOp
    dsimp only
    split
    · have hspawn : Keeps (baseState C) (Housed C)
          (Core.spawnOnlinePlayer player nowMs (some expected)) := by
        refine triple_bind (R := fun _ => Housed C) ?_ fun center => ?_
        · exact Prog.triple_lift fun _ _ _ hs => hs
        · exact Prog.triple_perform fun s hs => hs.spawnOnlinePlayer player center nowMs _
      exact hanswer hspawn
    · exact triple_pure fun _ hs => hs
  case inventoryClick playerId transaction target button validation =>
    exact hanswer (aboutWindows_housed.applyInventoryClickState
      (clickHeld_housed hC playerId transaction.windowId target button)
      (fun position => syncWorldContainerViewersState_housed position playerId) validation)
  case openContainerAt playerId position =>
    exact hanswer (openWorldContainerState_housed hC playerId position)
  case openVirtualContainer playerId kind =>
    exact hanswer (openVirtualContainerState_housed hC playerId kind)
  case closeContainer playerId windowId includePlayerContents =>
    exact hanswer (aboutWindows_housed.closeContainerState
      (closePlayerActiveContainerState_housed playerId) windowId includePlayerContents)
  case completeMining playerId position =>
    exact hanswer (aboutWindows_housed.stateCompleteSurvivalMining
      (stateSetBlock_housed hC position none) playerId nowMs)
  case tickActiveContainer playerId =>
    exact hanswer (tickActiveContainerState_housed hC playerId)
  case setBlock position block => exact hanswer (stateSetBlock_housed hC position block)
  case disconnectPlayer playerId => exact hanswer (disconnectPlayerState_housed playerId)
  all_goals exact hplain (by simp [CoreOp.parts])

theorem stable_housed (hC : C.Agrees) : Stable C (Housed C) := by
  constructor
  · intro op nowMs players s t applied hrun _ hs
    exact reduceCoreOp_housed hC op nowMs players s hs applied t hrun
  · intro s config worldMeta hs
    refine hs.of_same (fun position => ?_) rfl hs.bound
    have hchunk : (s.withSettings config worldMeta).chunkAt C position.chunkPos =
        s.chunkAt C position.chunkPos := by
      unfold ServerCore.chunkAt
      rw [hC.generated _ s.world.worldMeta]
      rfl
    unfold ServerCore.entityKindAt ServerCore.containerKindAt ServerCore.blockAt
    rw [hchunk]

theorem housed_new (config : CoreConfig) : Housed C (.new config) := by
  constructor <;> simp [ServerCore.new, ServerCore.seatOf, ServerCore.windowOf]

/-- **Block entities always fit their block.**  After any batches of commands, effects, logins,
    ticks and changes of the settings on a new core, a block entity is of the kind that belongs
    to the container its block is. -/
theorem reachable_block_entities_fit (config : CoreConfig) (batches : List MutationBatch)
    (last : CoreVersion) (commits : List CoreCommit)
    (hrun : runBatches canonicalContent (.initial (.new config)) batches = .ok (last, commits))
    (position : BlockPos) (entity : BlockEntityState)
    (hentity : last.state.world.blockEntities[position]? = some entity) :
    ∃ block kind state, last.state.blockAt canonicalContent position = some block ∧
      canonicalContent.containerKindForBlock block = some kind ∧ entity = .container state ∧
      canonicalContent.blockEntityKindForContainer kind = some state.kind := by
  have hhoused := (stable_housed canonical_agrees).leads (runBatches_leads hrun)
    (housed_new config)
  have hfits := hhoused.fits position entity not_false hentity
  obtain ⟨kind, hkind, hentityKind⟩ := Option.bind_eq_some_iff.mp hfits
  obtain ⟨block, hblock, hcontainer⟩ := Option.bind_eq_some_iff.mp hkind
  obtain ⟨state⟩ := entity
  exact ⟨block, kind, state, hblock, hcontainer, rfl, hentityKind⟩

def chestPosition : BlockPos := ⟨1, 4, 1⟩

/-- An effect puts a chest next to the spawn. -/
def placeChest : MutationBatch :=
  ⟨[.validateAndApplyGameplayEffects
    ⟨0, .default, [.setBlock chestPosition (some (.new Catalog.CHEST))]⟩], [], true⟩

theorem reachable_block_entities_fit_chest :
    ∃ last commits entity block kind state,
      runBatches canonicalContent (.initial (.new .default)) [placeChest] = .ok (last, commits) ∧
      last.state.world.blockEntities[chestPosition]? = some entity ∧
      last.state.blockAt canonicalContent chestPosition = some block ∧
      canonicalContent.containerKindForBlock block = some kind ∧ entity = .container state ∧
      canonicalContent.blockEntityKindForContainer kind = some state.kind := by
  have hrun : endsWith (fun ran => (ran.1.state.world.blockEntities[chestPosition]?).isSome)
      (runBatches canonicalContent (.initial (.new .default)) [placeChest]) = true := by
    decide +kernel
  obtain ⟨⟨last, commits⟩, hlast, hfound⟩ := endsWith_iff.mp hrun
  obtain ⟨entity, hentity⟩ := Option.isSome_iff_exists.mp hfound
  obtain ⟨block, kind, state, hblock, hkind, hstate, hfits⟩ :=
    reachable_block_entities_fit .default [placeChest] last commits hlast chestPosition entity hentity
  exact ⟨last, commits, entity, block, kind, state, hlast, hentity, hblock, hkind, hstate, hfits⟩

end RevyCraft
