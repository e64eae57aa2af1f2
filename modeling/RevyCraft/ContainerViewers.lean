/-
  RevyCraft/ContainerViewers.lean
  ===============================
  **The registry of the viewers is exact.**

  A core keeps who looks into a container twice: every session has its window,
  and every position with viewers has an entry.  `Registered` says that the
  entries are what the seats of the windows give, position by position; a
  player takes a seat (`Registered.sit`) and gives it up (`Registered.leave`),
  and every operation on windows is made of these two.  The entry's kind is
  that of the block as long as a change of the block closes all windows at it
  (`Standing`), which takes an inventory for every player with a session.
-/
import RevyCraft.WorldContainers

namespace RevyCraft

open Std
open RevyCraft.Core
open Prog (run Keeps triple_bind triple_pure)
open ServerCore

variable {C : ContentBehavior}

/-! ### Entries -/

def Seat.windowAt (seat : Seat) (position : BlockPos) : Option Nat :=
  if seat.position = some position then some seat.windowId else none

/-- The window an entry lists for a player. -/
def listedAt (viewers : BTreeMap BlockPos WorldContainerViewers) (position : BlockPos)
    (playerId : PlayerId) : Option Nat :=
  match viewers[position]? with
  | none => none
  | some entry => entry.viewers[playerId]?

/-- The entries after a viewer was struck off. -/
def dropViewer (viewers : BTreeMap BlockPos WorldContainerViewers) (position : BlockPos)
    (playerId : PlayerId) : BTreeMap BlockPos WorldContainerViewers :=
  match viewers[position]? with
  | none => viewers
  | some entry => applyOptionalEntry viewers position
      (if (entry.viewers.erase playerId).isEmpty then none
        else some { entry with viewers := entry.viewers.erase playerId })

/-- The entries after a viewer was listed. -/
def addViewer (viewers : BTreeMap BlockPos WorldContainerViewers) (position : BlockPos)
    (playerId : PlayerId) (windowId : Nat) (kind : ContainerKindId) :
    BTreeMap BlockPos WorldContainerViewers :=
  let entry := (viewers[position]?).getD ⟨kind, ∅⟩
  viewers.insert position { entry with viewers := entry.viewers.insert playerId windowId }

/-- The entries after a player gave up its seat. -/
def dropSeat (viewers : BTreeMap BlockPos WorldContainerViewers) (seat : Option Seat)
    (playerId : PlayerId) : BTreeMap BlockPos WorldContainerViewers :=
  match seat.bind Seat.position with
  | none => viewers
  | some position => dropViewer viewers position playerId

/-- The entries after a player took a seat. -/
def addSeat (viewers : BTreeMap BlockPos WorldContainerViewers) (seat : Seat)
    (playerId : PlayerId) : BTreeMap BlockPos WorldContainerViewers :=
  match seat.position with
  | none => viewers
  | some position => addViewer viewers position playerId seat.windowId seat.kind

section Entries

variable {viewers : BTreeMap BlockPos WorldContainerViewers}

/-- What an entry is after a viewer was struck off: gone, or of its kind and with the others. -/
theorem getElem?_dropViewer (place : BlockPos) (viewerId : PlayerId) (position : BlockPos) :
    (dropViewer viewers place viewerId)[position]? =
      if place = position then ((viewers[position]?).map fun entry =>
          { entry with viewers := entry.viewers.erase viewerId }).filter
            fun entry => !entry.viewers.isEmpty
      else viewers[position]? := by
  unfold dropViewer
  by_cases hplace : place = position
  · subst hplace
    rw [if_pos rfl]
    cases hentry : viewers[place]? with
    | none => simp [hentry]
    | some entry =>
      dsimp only
      by_cases hempty : (entry.viewers.erase viewerId).isEmpty
      · rw [if_pos hempty]
        simp [applyOptionalEntry, Option.filter, hempty]
      · rw [if_neg hempty]
        simp [applyOptionalEntry, Option.filter, hempty]
  · rw [if_neg hplace]
    split
    · rfl
    · unfold applyOptionalEntry
      split
      · rw [BTreeMap.getElem?_insert_eq, if_neg hplace]
      · rw [BTreeMap.getElem?_erase_eq, if_neg hplace]

theorem getElem?_addViewer (place : BlockPos) (viewerId : PlayerId) (windowId : Nat)
    (kind : ContainerKindId) (position : BlockPos) :
    (addViewer viewers place viewerId windowId kind)[position]? =
      if place = position then
        let entry := (viewers[position]?).getD ⟨kind, ∅⟩
        some { entry with viewers := entry.viewers.insert viewerId windowId }
      else viewers[position]? := by
  unfold addViewer
  dsimp only
  rw [BTreeMap.getElem?_insert_eq]
  split
  · next hplace => rw [hplace]
  · rfl

theorem listedAt_dropViewer (place : BlockPos) (viewerId : PlayerId) (position : BlockPos)
    (playerId : PlayerId) :
    listedAt (dropViewer viewers place viewerId) position playerId =
      if place = position ∧ viewerId = playerId then none
      else listedAt viewers position playerId := by
  unfold listedAt
  rw [getElem?_dropViewer]
  by_cases hhere : place = position
  · simp only [hhere, if_true, true_and]
    cases hentry : viewers[position]? with
    | none => simp
    | some entry =>
      have hrest := BTreeMap.getElem?_erase_eq entry.viewers viewerId playerId
      by_cases hempty : (entry.viewers.erase viewerId).isEmpty
      · have hgone : (entry.viewers.erase viewerId)[playerId]? = none := by
          rw [ExtTreeMap.isEmpty_iff.mp hempty]
          simp
        rw [hgone] at hrest
        simpa [Option.filter, hempty] using hrest
      · simpa [Option.filter, hempty] using hrest
  · simp [hhere]

theorem listedAt_addViewer (place : BlockPos) (viewerId : PlayerId) (windowId : Nat)
    (kind : ContainerKindId) (position : BlockPos) (playerId : PlayerId) :
    listedAt (addViewer viewers place viewerId windowId kind) position playerId =
      if place = position ∧ viewerId = playerId then some windowId
      else listedAt viewers position playerId := by
  unfold listedAt
  rw [getElem?_addViewer]
  by_cases hhere : place = position
  · simp only [hhere, if_true, true_and]
    rw [BTreeMap.getElem?_insert_eq]
    cases viewers[position]? with
    | none => simp
    | some entry => rfl
  · simp [hhere]

end Entries

/-! ### The registry and the seats -/

/-- The entries list exactly the seats, none is empty, and all seats at an entry are of its kind. -/
structure Registered (viewers : BTreeMap BlockPos WorldContainerViewers)
    (seats : PlayerId → Option Seat) : Prop where
  listed : ∀ position playerId, listedAt viewers position playerId =
    (seats playerId).bind fun seat => seat.windowAt position
  occupied : ∀ (position : BlockPos) (entry : WorldContainerViewers),
    viewers[position]? = some entry → entry.viewers.isEmpty = false
  kinds : ∀ (position : BlockPos) (entry : WorldContainerViewers) (playerId : PlayerId)
    (seat : Seat), viewers[position]? = some entry → seats playerId = some seat →
    seat.position = some position → seat.kind = entry.kind

/-- The entries are at blocks of their kind. -/
def Standing (viewers : BTreeMap BlockPos WorldContainerViewers)
    (kindAt : BlockPos → Option ContainerKindId) : Prop :=
  ∀ (position : BlockPos) (entry : WorldContainerViewers),
    viewers[position]? = some entry → kindAt position = some entry.kind

variable {playerId : PlayerId}

variable {position place : BlockPos} {window : OpenInventoryWindow}
  {deltas : List CloseContainerDelta}

section Registry

variable {viewers : BTreeMap BlockPos WorldContainerViewers} {seats : PlayerId → Option Seat}
variable {kindAt : BlockPos → Option ContainerKindId}

theorem Registered.congr {others : PlayerId → Option Seat} (h : Registered viewers seats)
    (hsame : ∀ playerId, others playerId = seats playerId) : Registered viewers others := by
  rw [show others = seats from funext hsame]
  exact h

theorem Registered.none_of_free (h : Registered viewers seats)
    (hfree : ∀ playerId seat, seats playerId = some seat → seat.position ≠ some position) :
    viewers[position]? = none := by
  by_contra hsome
  obtain ⟨entry, hentry⟩ := Option.ne_none_iff_exists'.mp hsome
  apply Bool.false_ne_true
  rw [← h.occupied position entry hentry, ExtTreeMap.isEmpty_iff]
  apply ExtTreeMap.ext_getElem?
  intro playerId
  have hlisted := h.listed position playerId
  unfold listedAt at hlisted
  rw [hentry] at hlisted
  dsimp only at hlisted
  rw [hlisted]
  cases hseat : seats playerId with
  | none => simp
  | some seat => simp [Seat.windowAt, hfree playerId seat hseat]

/-- **Giving up a seat.** -/
theorem Registered.leave (h : Registered viewers seats) (playerId : PlayerId) :
    Registered (dropSeat viewers (seats playerId) playerId)
      fun other => if playerId = other then none else seats other := by
  unfold dropSeat
  split
  · next hnowhere =>
    -- The seat was at no block: nothing was listed for the player.
    have hfree : ∀ position, (seats playerId).bind (fun seat => seat.windowAt position) = none := by
      intro position
      cases hseat : seats playerId with
      | none => rfl
      | some seat =>
        rw [hseat, Option.bind_some] at hnowhere
        simp [Seat.windowAt, hnowhere]
    refine ⟨fun position other => ?_, h.occupied, fun position entry other seat hentry hseat => ?_⟩
    · split
      · next hsame =>
        rw [← hsame, h.listed, hfree]
        rfl
      · exact h.listed position other
    · split at hseat
      · cases hseat
      · exact h.kinds position entry other seat hentry hseat
  · next place hplace =>
    obtain ⟨seat, hseat, hposition⟩ := Option.bind_eq_some_iff.mp hplace
    constructor
    · intro position other
      rw [listedAt_dropViewer, h.listed]
      by_cases hsame : playerId = other
      · subst hsame
        rw [hseat]
        simp [Seat.windowAt, hposition, eq_comm]
      · simp [hsame]
    · intro position entry hentry
      rw [getElem?_dropViewer] at hentry
      split at hentry
      · simpa using (Option.filter_eq_some_iff.mp hentry).2
      · exact h.occupied position entry hentry
    · intro position entry other taken hentry htaken hthere
      split at htaken
      · cases htaken
      · rw [getElem?_dropViewer] at hentry
        split at hentry
        · obtain ⟨before, hbefore, rfl⟩ :=
            Option.map_eq_some_iff.mp (Option.filter_eq_some_iff.mp hentry).1
          exact h.kinds position before other taken hbefore htaken hthere
        · exact h.kinds position entry other taken hentry htaken hthere

/-- **Taking a seat** that is of the kind of those already there. -/
theorem Registered.sit (h : Registered viewers seats) {seat : Seat} (hfree : seats playerId = none)
    (hkind : ∀ (position : BlockPos) entry, seat.position = some position →
      viewers[position]? = some entry → entry.kind = seat.kind) : Registered (addSeat viewers seat playerId)
      fun other => if playerId = other then some seat else seats other := by
  have hothers : ∀ position other, playerId = other → listedAt viewers position other = none := by
    rintro position other rfl
    rw [h.listed, hfree]
    rfl
  unfold addSeat
  split
  · next hnowhere =>
    refine ⟨fun position other => ?_, h.occupied,
      fun position entry other taken hentry htaken hthere => ?_⟩
    · split
      · next hsame =>
        rw [hothers position other hsame]
        simp [Seat.windowAt, hnowhere]
      · exact h.listed position other
    · split at htaken
      · cases htaken
        rw [hnowhere] at hthere
        cases hthere
      · exact h.kinds position entry other taken hentry htaken hthere
  · next place hplace =>
    constructor
    · intro position other
      rw [listedAt_addViewer]
      by_cases hsame : playerId = other
      · simp [hsame, Seat.windowAt, hplace, hothers position other hsame]
      · simp [hsame, h.listed]
    · intro position entry hentry
      rw [getElem?_addViewer] at hentry
      split at hentry
      · cases hentry
        simp
      · exact h.occupied position entry hentry
    · intro position entry other taken hentry htaken hthere
      rw [getElem?_addViewer] at hentry
      have hsitting : playerId = other → taken = seat := by
        intro hsame
        rw [if_pos hsame] at htaken
        exact (Option.some.inj htaken).symm
      split at hentry
      · next hhere =>
        subst hhere
        cases hentry
        cases hbefore : viewers[place]? with
        | none =>
          by_cases hsame : playerId = other
          · rw [hsitting hsame]
            rfl
          · rw [if_neg hsame] at htaken
            have hlisted := h.listed place other
            unfold listedAt at hlisted
            rw [hbefore, htaken] at hlisted
            simp [Seat.windowAt, hthere] at hlisted
        | some before =>
          by_cases hsame : playerId = other
          · rw [hsitting hsame]
            exact (hkind place before hplace hbefore).symm
          · rw [if_neg hsame] at htaken
            exact h.kinds place before other taken hbefore htaken hthere
      · next hhere =>
        by_cases hsame : playerId = other
        · rw [hsitting hsame, hplace] at hthere
          exact absurd (Option.some.inj hthere) hhere
        · rw [if_neg hsame] at htaken
          exact h.kinds position entry other taken hentry htaken hthere

theorem Standing.dropViewer (h : Standing viewers kindAt) (place : BlockPos)
    (viewerId : PlayerId) : Standing (RevyCraft.dropViewer viewers place viewerId) kindAt := by
  intro position entry hentry
  rw [getElem?_dropViewer] at hentry
  split at hentry
  · obtain ⟨before, hbefore, rfl⟩ :=
      Option.map_eq_some_iff.mp (Option.filter_eq_some_iff.mp hentry).1
    exact h position before hbefore
  · exact h position entry hentry

theorem Standing.dropSeat (h : Standing viewers kindAt) (seat : Option Seat)
    (playerId : PlayerId) : Standing (RevyCraft.dropSeat viewers seat playerId) kindAt := by
  unfold RevyCraft.dropSeat
  split
  · exact h
  · exact h.dropViewer _ playerId

theorem Standing.addSeat (h : Standing viewers kindAt) {seat : Seat}
    (hstands : ∀ position, seat.position = some position → kindAt position = some seat.kind)
    (playerId : PlayerId) : Standing (RevyCraft.addSeat viewers seat playerId) kindAt := by
  unfold RevyCraft.addSeat
  split
  · exact h
  · next place hplace =>
    intro position entry hentry
    rw [getElem?_addViewer] at hentry
    split at hentry
    · next hhere =>
      subst hhere
      cases hentry
      cases hbefore : viewers[place]? with
      | none => exact hstands place hplace
      | some before => exact h place before hbefore
    · exact h position entry hentry

end Registry

/-! ### The registry of a core -/

/-- Who has a window has an inventory. -/
def ServerCore.Attended (core : ServerCore) : Prop :=
  ∀ playerId, (core.seatOf playerId).isSome → (core.inventoryOf playerId).isSome

/-- The registry of a core is exact. -/
structure Exact (C : ContentBehavior) (core : ServerCore) : Prop where
  registered : Registered core.world.containerViewers core.seatOf
  standing : Standing core.world.containerViewers (core.containerKindAt C)

/-- The registry is exact, and the windows can be closed. -/
structure Seated (C : ContentBehavior) (core : ServerCore) : Prop extends Exact C core where
  attended : core.Attended

/-- Nobody took a seat or gave one up, and every block is the container it was. -/
structure Unmoved (C : ContentBehavior) (s t : ServerCore) : Prop where
  seats : ∀ playerId, t.seatOf playerId = s.seatOf playerId
  viewers : t.world.containerViewers = s.world.containerViewers
  kinds : ∀ position, t.containerKindAt C position = s.containerKindAt C position
  inventories : ∀ playerId, (s.inventoryOf playerId).isSome → (t.inventoryOf playerId).isSome

/-- One player gave up its seat. -/
structure Leaves (C : ContentBehavior) (playerId : PlayerId) (s t : ServerCore) : Prop where
  seats : ∀ other, t.seatOf other = if playerId = other then none else s.seatOf other
  viewers : t.world.containerViewers =
    dropSeat s.world.containerViewers (s.seatOf playerId) playerId
  kinds : ∀ position, t.containerKindAt C position = s.containerKindAt C position

section Core

variable {s t u : ServerCore}

theorem Unmoved.trans (hst : Unmoved C s t) (htu : Unmoved C t u) : Unmoved C s u where
  seats playerId := (htu.seats playerId).trans (hst.seats playerId)
  viewers := htu.viewers.trans hst.viewers
  kinds position := (htu.kinds position).trans (hst.kinds position)
  inventories playerId h := htu.inventories playerId (hst.inventories playerId h)

theorem Unmoved.seated (h : Unmoved C s t) (hs : Seated C s) : Seated C t := by
  refine ⟨⟨?_, ?_⟩, ?_⟩
  · rw [h.viewers]
    exact hs.registered.congr h.seats
  · rw [h.viewers, show t.containerKindAt C = s.containerKindAt C from funext h.kinds]
    exact hs.standing
  · intro playerId hseat
    rw [h.seats] at hseat
    exact h.inventories playerId (hs.attended playerId hseat)

theorem Leaves.exact (h : Leaves C playerId s t) (hs : Exact C s) : Exact C t := by
  constructor
  · rw [h.viewers]
    exact (hs.registered.leave playerId).congr h.seats
  · rw [h.viewers, show t.containerKindAt C = s.containerKindAt C from funext h.kinds]
    exact hs.standing.dropSeat _ playerId

theorem Leaves.of_unseated (h : s.seatOf playerId = none) : Leaves C playerId s s := by
  refine ⟨fun other => ?_, ?_, fun _ => rfl⟩
  · split
    · next hsame => rw [← hsame, h]
    · rfl
  · rw [h]
    rfl

theorem Unmoved.of_within {α : Type} {parts : List Part} {p : CoreM α} (hp : Within parts p)
    (hparts : ∀ part ∈ [Part.blocks, .containerViewers, .activeContainer, .online], part ∉ parts)
    {a : α} (hrun : run (baseState C) p s = .ok (a, t)) : Unmoved C s t where
  seats := seatOf_of_same (hp.same (hparts .activeContainer (by decide)) hrun)
  viewers := hp.same (hparts .containerViewers (by decide)) hrun
  kinds := containerKindAt_of_same (hp.same (hparts .blocks (by decide)) hrun)
  inventories playerId h := by
    rw [hp.inventoryOf_isSome (hparts .online (by decide)) hrun]
    exact h

theorem Seated.of_within {α : Type} {parts : List Part} {p : CoreM α} (hp : Within parts p)
    (hparts : ∀ part ∈ [Part.blocks, .containerViewers, .activeContainer, .online],
      part ∉ parts) : Keeps (baseState C) (Seated C) p :=
  fun _ hs _ _ hrun => (Unmoved.of_within hp hparts hrun).seated hs

theorem aboutWindows_seated : AboutWindows C (Seated C) :=
  fun hp hparts => Seated.of_within hp fun part hpart =>
    hparts part ((by decide : [Part.blocks, .containerViewers, .activeContainer, .online] ⊆
      containerParts) hpart)

/-! ### What the functions on windows do to the registry -/

theorem withoutViewer_viewers (s : ServerCore) (position : BlockPos) (playerId : PlayerId) :
    (s.withoutViewer position playerId).world.containerViewers =
      dropViewer s.world.containerViewers position playerId := by
  unfold ServerCore.withoutViewer dropViewer
  cases s.world.containerViewers[position]? with
  | none => rfl
  | some entry => rfl

theorem withoutWindowViewer_viewers (s : ServerCore) (window : OpenInventoryWindow)
    (playerId : PlayerId) : (s.withoutWindowViewer window playerId).world.containerViewers =
      dropSeat s.world.containerViewers (some window.seat) playerId := by
  unfold ServerCore.withoutWindowViewer dropSeat
  rw [Option.bind_some, seat_position]
  cases window.worldPosition with
  | none => rfl
  | some position => exact withoutViewer_viewers s position playerId

theorem containerKindAt_writtenBack (s : ServerCore) (window : OpenInventoryWindow)
    (position : BlockPos) :
    (s.writtenBack C window).containerKindAt C position = s.containerKindAt C position := by
  unfold ServerCore.containerKindAt
  rw [blockAt_writtenBack]

theorem containerKindAt_withoutWindowViewer (s : ServerCore) (window : OpenInventoryWindow)
    (playerId : PlayerId) (position : BlockPos) :
    (s.withoutWindowViewer window playerId).containerKindAt C position =
      s.containerKindAt C position := by
  unfold ServerCore.containerKindAt
  rw [blockAt_withoutWindowViewer]

theorem withOpen_viewers (s : ServerCore) (playerId : PlayerId) (session : PlayerSessionState)
    (window : OpenInventoryWindow) :
    (s.withOpen playerId session window).world.containerViewers =
      addSeat s.world.containerViewers window.seat playerId := by
  unfold ServerCore.withOpen addSeat
  rw [seat_position]
  cases window.worldPosition with
  | none => rfl
  | some position => rfl

theorem seatOf_withOpen (s : ServerCore) (playerId other : PlayerId)
    (session : PlayerSessionState) (window : OpenInventoryWindow) :
    (s.withOpen playerId session window).seatOf other =
      if playerId = other then some window.seat else s.seatOf other := by
  unfold ServerCore.seatOf ServerCore.windowOf
  rw [withOpen_sessions, BTreeMap.getElem?_insert_eq]
  split <;> rfl

theorem containerKindAt_withOpen (s : ServerCore) (playerId : PlayerId)
    (session : PlayerSessionState) (window : OpenInventoryWindow) (position : BlockPos) :
    (s.withOpen playerId session window).containerKindAt C position =
      s.containerKindAt C position := by
  unfold ServerCore.withOpen
  dsimp only
  split <;> rfl

theorem ClosesWindow.leaves (h : ClosesWindow C s playerId window t) : Leaves C playerId s t := by
  refine ⟨h.seatOf, ?_, ?_⟩
  · obtain ⟨session, inventory, inventory', hsession, hwindow, -⟩ := h.player
    obtain ⟨entityId, session, inventory, inventory', -, -, -, -, -, rfl⟩ := h
    have hseat : s.seatOf playerId = some window.seat := by
      unfold ServerCore.seatOf ServerCore.windowOf
      rw [hsession, Option.bind_some, hwindow]
      rfl
    rw [withoutWindowViewer_viewers, writtenBack_viewers, hseat]
  · obtain ⟨entityId, session, inventory, inventory', -, -, -, -, -, rfl⟩ := h
    intro position
    rw [containerKindAt_withoutWindowViewer, containerKindAt_writtenBack]
    rfl

theorem closePlayerActiveContainerState_leaves {includePlayerContents : Bool}
    {answer : Option CloseContainerDelta}
    (hrun : run (baseState C) (closePlayerActiveContainerState C playerId includePlayerContents) s =
      .ok (answer, t)) : Leaves C playerId s t ∨ s.inventoryOf playerId = none ∧ t = s := by
  rcases closePlayerActiveContainerState_ok hrun with ⟨hnone | hnone, -, rfl⟩ |
    ⟨window, contents, hcloses, -, -⟩
  · refine .inl (Leaves.of_unseated ?_)
    unfold ServerCore.seatOf ServerCore.windowOf
    rw [hnone]
    rfl
  · exact .inr ⟨hnone, rfl⟩
  · exact .inl hcloses.leaves

theorem closePlayerActiveContainerState_seated (playerId : PlayerId)
    (includePlayerContents : Bool) :
    Keeps (baseState C) (Seated C)
      (closePlayerActiveContainerState C playerId includePlayerContents) := by
  intro s hs answer t hrun
  rcases closePlayerActiveContainerState_leaves hrun with hleaves | ⟨-, rfl⟩
  · refine ⟨hleaves.exact hs.toExact, fun other hseat => ?_⟩
    rw [(closePlayerActiveContainerState_within playerId
      includePlayerContents).inventoryOf_isSome (by decide) hrun]
    apply hs.attended
    rw [hleaves.seats] at hseat
    split at hseat
    · cases hseat
    · exact hseat
  · exact hs

/-! ### Synchronising and ticking -/

theorem Unmoved.writtenBack (s : ServerCore) (window : OpenInventoryWindow) :
    Unmoved C s (s.writtenBack C window) where
  seats := seatOf_writtenBack s window
  viewers := writtenBack_viewers s window
  kinds := containerKindAt_writtenBack s window
  inventories playerId h := by
    unfold ServerCore.inventoryOf
    rw [writtenBack_entities]
    exact h

theorem Unmoved.synced (s : ServerCore) (position : BlockPos) (source : OpenContainerState)
    (viewerId : PlayerId) : Unmoved C s (s.synced position source viewerId) where
  seats := seatOf_synced position source s viewerId
  viewers := by rw [synced_world]
  kinds place := by
    unfold ServerCore.containerKindAt ServerCore.blockAt ServerCore.chunkAt
    rw [synced_world]
  inventories playerId h := by
    unfold ServerCore.inventoryOf
    rw [synced_entities]
    exact h

theorem Unmoved.withSession {session session' : PlayerSessionState}
    (hsession : s.sessions.playerSessions[playerId]? = some session)
    (hseat : session'.activeContainer.map OpenInventoryWindow.seat =
      session.activeContainer.map OpenInventoryWindow.seat) : Unmoved C s { s with
      sessions.playerSessions := s.sessions.playerSessions.insert playerId session' } where
  seats other := by
    rw [seatOf_insert]
    split
    · next hsame =>
      rw [← hsame, hseat]
      unfold ServerCore.seatOf ServerCore.windowOf
      rw [hsession, Option.bind_some]
    · rfl
  viewers := rfl
  kinds _ := rfl
  inventories _ h := h

theorem Seated.sees (hs : Seated C s) {actorId viewerId : PlayerId}
    (hactor : s.windowOf actorId = some window) (hposition : window.worldPosition = some position)
    (hviewer : viewerId ∈ s.otherViewers position actorId) :
    s.Sees position window.container.kind viewerId := by
  have hkeys := (List.mem_filter.mp hviewer).1
  cases hentry : s.world.containerViewers[position]? with
  | none =>
    rw [hentry] at hkeys
    cases hkeys
  | some entry =>
    rw [hentry, Option.map_some, Option.getD_some] at hkeys
    have hactorSeat : s.seatOf actorId = some window.seat := by
      unfold ServerCore.seatOf
      rw [hactor]
      rfl
    have hactorKind := hs.registered.kinds position entry actorId window.seat hentry hactorSeat
      hposition
    have hlisted := hs.registered.listed position viewerId
    unfold listedAt at hlisted
    rw [hentry] at hlisted
    obtain ⟨windowId, hwindowId⟩ := Option.isSome_iff_exists.mp
      (ExtTreeMap.isSome_getElem?_iff_mem.mpr (ExtTreeMap.mem_keys.mp hkeys))
    dsimp only at hlisted
    rw [hwindowId] at hlisted
    obtain ⟨seat, hseat, hwindowAt⟩ := Option.bind_eq_some_iff.mp hlisted.symm
    have hthere : seat.position = some position := by
      unfold Seat.windowAt at hwindowAt
      split at hwindowAt
      · next h => exact h
      · cases hwindowAt
    have hkind := hs.registered.kinds position entry viewerId seat hentry hseat hthere
    refine ⟨hs.attended viewerId (by rw [hseat]; rfl), ?_⟩
    obtain ⟨shown, hshown, rfl⟩ := Option.map_eq_some_iff.mp hseat
    exact ⟨shown, hshown, hthere, hkind.trans hactorKind.symm⟩

theorem syncWorldContainerViewersState_unmoved {actorId : PlayerId}
    {delta : WorldContainerSyncDelta} (hs : Seated C s)
    (hrun : run (baseState C) (syncWorldContainerViewersState C position actorId) s =
      .ok (delta, t)) : Unmoved C s t := by
  rcases syncWorldContainerViewersState_ok hrun with ⟨-, rfl⟩ |
    ⟨window, stale, hwindow, hposition, hstale, rfl⟩
  · exact ⟨fun _ => rfl, rfl, fun _ => rfl, fun _ h => h⟩
  · have hnone : stale = [] := by
      apply List.eq_nil_iff_forall_not_mem.mpr
      intro viewerId hviewer
      obtain ⟨hother, hblind⟩ := (hstale viewerId).mp hviewer
      exact hblind (hs.sees hwindow hposition hother)
    rw [hnone, List.foldl_nil]
    refine List.foldlRecOn (motive := fun core => Unmoved C s core) _ _ ?_
      fun core hcore viewerId _ => hcore.trans (Unmoved.synced core position _ viewerId)
    exact Unmoved.writtenBack s window

theorem syncWorldContainerViewersState_seated (position : BlockPos) (actorId : PlayerId) :
    Keeps (baseState C) (Seated C) (syncWorldContainerViewersState C position actorId) :=
  fun _ hs _ _ hrun => (syncWorldContainerViewersState_unmoved hs hrun).seated hs

theorem tickActiveContainerState_seated (hC : C.Agrees) (playerId : PlayerId) :
    Keeps (baseState C) (Seated C) (tickActiveContainerState C playerId) := by
  intro s hs answer t hrun
  rcases tickActiveContainerState_ok hrun with ⟨-, -, rfl⟩ |
    ⟨session, window, inventory, hsession, hwindow, -, hcases⟩
  · exact hs
  · have hmoved : Unmoved C s ((s.withWindow playerId session (window.ticked C)).writtenBack C
        (window.ticked C)) := by
      refine Unmoved.trans (Unmoved.withSession hsession ?_) (Unmoved.writtenBack _ _)
      rw [hwindow, Option.map_some, Option.map_some]
      exact congrArg some (seat_of_place (hC.ticks _))
    have hticked := hmoved.seated hs
    rcases hcases with ⟨-, -, rfl⟩ | ⟨-, ⟨-, rfl⟩ | ⟨position, delta, -, hsync⟩, -⟩
    · exact hticked
    · exact hticked
    · exact syncWorldContainerViewersState_seated position playerId _ hticked _ _ hsync

theorem clickHeld_seated (hC : C.Agrees) (playerId : PlayerId) (windowId : Nat)
    (target : InventoryClickTarget) (button : InventoryClickButton)
    (container : ContainerKindId) :
    Keeps (baseState C) (Seated C)
      (playerSessionInventoryMut playerId (clickHeld C windowId target button container)) := by
  intro s hs answer t hrun
  rcases playerSessionInventoryMut_ok hrun with ⟨-, -, rfl⟩ |
    ⟨entityId, session, inventory, outcome, session', inventory', -, hsession, -, hheld, -, rfl⟩
  · exact hs
  · have hclicked : Unmoved C s { s with sessions.playerSessions :=
        (s.sessions.playerSessions.insert playerId session') } :=
      Unmoved.withSession hsession (clickHeld_seat hC hheld)
    refine Unmoved.seated ⟨hclicked.seats, hclicked.viewers, hclicked.kinds, fun other h => ?_⟩ hs
    unfold ServerCore.inventoryOf at h ⊢
    dsimp only
    cases hindex : s.entities.playersByPlayerId[other]? with
    | none =>
      rw [hindex] at h
      cases h
    | some otherEntity =>
      rw [hindex, Option.bind_some] at h
      rw [Option.bind_some, BTreeMap.getElem?_insert_eq]
      split
      · rfl
      · exact h

/-! ### Opening -/

theorem openNonPlayerWindowState_seated (hC : C.Agrees) {title : String}
    {answer : Option OpenContainerDelta} (hs : Seated C s)
    (hstands : ∀ position, window.worldPosition = some position →
      s.containerKindAt C position = some window.container.kind)
    (hrun : run (baseState C) (openNonPlayerWindowState C playerId window title) s =
      .ok (answer, t)) : Seated C t := by
  rcases openNonPlayerWindowState_ok hrun with ⟨-, -, rfl⟩ | ⟨closed, u, hclose, hcases⟩
  · exact hs
  · have hu := closePlayerActiveContainerState_seated playerId false s hs closed u hclose
    rcases hcases with ⟨-, -, rfl⟩ | ⟨session, inventory, -, hinventory, rfl, -⟩
    · exact hu
    · have hleaves : Leaves C playerId s u := by
        rcases closePlayerActiveContainerState_leaves hclose with hleaves | ⟨hnone, rfl⟩
        · exact hleaves
        · rw [hnone] at hinventory
          cases hinventory
      have hfree : u.seatOf playerId = none := by
        rw [hleaves.seats, if_pos rfl]
      have hseat := seat_of_place (hC.normalizes window.container)
      have hkinds : ∀ position, window.seat.position = some position →
          u.containerKindAt C position = some window.seat.kind := fun position hposition =>
        (hleaves.kinds position).trans (hstands position hposition)
      refine ⟨⟨?_, ?_⟩, fun other hother => ?_⟩
      · rw [withOpen_viewers, hseat]
        refine Registered.congr (hu.registered.sit hfree fun position entry hposition hentry => ?_)
          fun other => by rw [seatOf_withOpen, hseat]
        have hentryKind := hu.standing position entry hentry
        rw [hkinds position hposition] at hentryKind
        exact (Option.some.inj hentryKind).symm
      · rw [withOpen_viewers, hseat]
        intro position entry hentry
        rw [containerKindAt_withOpen]
        exact hu.standing.addSeat hkinds playerId position entry hentry
      · unfold ServerCore.inventoryOf
        rw [withOpen_entities]
        rw [seatOf_withOpen] at hother
        split at hother
        · next hsame =>
          rw [← hsame]
          exact Option.isSome_iff_exists.mpr ⟨inventory, hinventory⟩
        · exact hu.attended other hother

theorem allocateNonPlayerWindowId_seated (playerId : PlayerId) :
    Keeps (baseState C) (Seated C) (allocateNonPlayerWindowId playerId) :=
  Seated.of_within (allocateNonPlayerWindowId_within playerId) (by decide)

theorem openVirtualContainerState_seated (hC : C.Agrees) (playerId : PlayerId)
    (kind : ContainerKindId) :
    Keeps (baseState C) (Seated C) (openVirtualContainerState C playerId kind) := by
  unfold openVirtualContainerState
  refine triple_bind (allocateNonPlayerWindowId_seated playerId) fun windowId => ?_
  cases windowId with
  | none => exact triple_pure fun _ hs => hs
  | some windowId =>
    dsimp only
    cases hbuild : buildVirtualContainerState C kind with
    | none => exact triple_pure fun _ hs => hs
    | some container =>
      obtain ⟨spec, -, rfl⟩ := Option.map_eq_some_iff.mp hbuild
      intro s hs answer t hrun
      refine openNonPlayerWindowState_seated hC hs (fun position hposition => ?_) hrun
      have hnowhere : ∀ state : OpenContainerState, state.binding = .virtual →
          OpenInventoryWindow.worldPosition ⟨windowId, C.normalizeContainer state⟩ = none := by
        intro state hvirtual
        unfold OpenInventoryWindow.worldPosition OpenContainerState.worldPosition
        rw [(hC.normalizes state).2, hvirtual]
      rw [hnowhere _ rfl] at hposition
      cases hposition

theorem buildWorldContainerState_seated {kind : ContainerKindId}
    {answer : Option OpenContainerState}
    (hrun : run (baseState C) (buildWorldContainerState C place kind) s = .ok (answer, t)) :
    Unmoved C s t ∧ ∀ container, answer = some container → container.kind = kind ∧
      ∀ position, container.worldPosition = some position → position = place := by
  rcases buildWorldContainerState_ok hrun with ⟨rfl, rfl | ⟨spec, -, -, rfl⟩⟩ |
    ⟨spec, entityKind, entity, -, -, -, rfl, rfl⟩
  · exact ⟨⟨fun _ => rfl, rfl, fun _ => rfl, fun _ h => h⟩, fun container hnone => by cases hnone⟩
  · refine ⟨⟨fun _ => rfl, rfl, fun _ => rfl, fun _ h => h⟩, fun container hbuilt => ?_⟩
    cases hbuilt
    exact ⟨rfl, fun position hnowhere => by cases hnowhere⟩
  · refine ⟨⟨fun _ => rfl, rfl, fun _ => rfl, fun _ h => h⟩, fun container hbuilt => ?_⟩
    cases hbuilt
    exact ⟨rfl, fun position hplace => (Option.some.inj hplace).symm⟩

theorem openWorldContainerState_seated (hC : C.Agrees) (playerId : PlayerId) (place : BlockPos) :
    Keeps (baseState C) (Seated C) (openWorldContainerState C playerId place) := by
  intro s hs answer t hrun
  rcases openWorldContainerState_ok hrun with ⟨-, rfl⟩ | ⟨kind, windowId, s₁, hkind, hid, hrest⟩
  · exact hs
  have hmoved₁ : Unmoved C s s₁ :=
    Unmoved.of_within (allocateNonPlayerWindowId_within playerId) (by decide) hid
  rcases hrest with ⟨-, rfl⟩ | ⟨id, container, s₂, rfl, hbuild, hopened⟩
  · exact hmoved₁.seated hs
  obtain ⟨hmoved₂, hbuilt⟩ := buildWorldContainerState_seated hbuild
  have hmoved := hmoved₁.trans hmoved₂
  rcases hopened with ⟨-, rfl⟩ | ⟨container, rfl, h₂⟩
  · exact hmoved.seated hs
  · refine openNonPlayerWindowState_seated hC (hmoved.seated hs) (fun position hposition => ?_) h₂
    obtain ⟨hcontainer, hplace⟩ := hbuilt container rfl
    have hnormal := hC.normalizes container
    have hthere : container.worldPosition = some position := by
      unfold OpenInventoryWindow.worldPosition at hposition
      unfold OpenContainerState.worldPosition at hposition ⊢
      rw [hnormal.2] at hposition
      exact hposition
    rw [hmoved.kinds, hplace position hthere, hkind]
    exact congrArg some (hnormal.1.trans hcontainer).symm

/-! ### Blocks -/

theorem closeAll_leaves {viewerIds : List PlayerId} (hs : s.Attended)
    (hregistered : Registered s.world.containerViewers s.seatOf)
    (hrun : run (baseState C) (Prog.filterMap
      (fun viewerId => closePlayerActiveContainerState C viewerId true) viewerIds) s =
        .ok (deltas, t)) : t.Attended ∧ Registered t.world.containerViewers t.seatOf ∧
      (∀ playerId, t.seatOf playerId = if playerId ∈ viewerIds then none else s.seatOf playerId) ∧
      (∀ position, t.containerKindAt C position = s.containerKindAt C position) ∧
      ∀ kindAt, Standing s.world.containerViewers kindAt →
        Standing t.world.containerViewers kindAt := by
  induction viewerIds generalizing s deltas with
  | nil =>
    cases hrun
    exact ⟨hs, hregistered, fun _ => by simp, fun _ => rfl, fun _ h => h⟩
  | cons first rest ih =>
    obtain ⟨delta, s₁, hfirst, h₁⟩ := Prog.run_bind_ok hrun
    obtain ⟨others, s₂, hrest, h₂⟩ := Prog.run_bind_ok h₁
    cases h₂
    have hleaves : Leaves C first s s₁ := by
      rcases closePlayerActiveContainerState_leaves hfirst with hleaves | ⟨hnone, rfl⟩
      · exact hleaves
      · apply Leaves.of_unseated
        rw [← Option.not_isSome_iff_eq_none]
        intro hseat
        have hinventory := hs first hseat
        rw [hnone] at hinventory
        cases hinventory
    have hattended : s₁.Attended := by
      intro playerId hseat
      rw [(closePlayerActiveContainerState_within first true).inventoryOf_isSome (by decide) hfirst]
      apply hs
      rw [hleaves.seats] at hseat
      split at hseat
      · cases hseat
      · exact hseat
    have hregistered₁ : Registered s₁.world.containerViewers s₁.seatOf := by
      rw [hleaves.viewers]
      exact (hregistered.leave first).congr hleaves.seats
    obtain ⟨hattended₂, hregistered₂, hseats, hkinds, hstanding⟩ := ih hattended hregistered₁ hrest
    refine ⟨hattended₂, hregistered₂, fun playerId => ?_,
      fun position => (hkinds position).trans (hleaves.kinds position), fun kindAt h => ?_⟩
    · rw [hseats, hleaves.seats]
      by_cases hsame : playerId = first
      · simp [hsame]
      · simp [hsame, Ne.symm hsame]
    · apply hstanding
      rw [hleaves.viewers]
      exact h.dropSeat _ first

theorem closeWorldContainerViewersState_leaves (hs : s.Attended)
    (hregistered : Registered s.world.containerViewers s.seatOf)
    (hrun : run (baseState C) (closeWorldContainerViewersState C place) s = .ok (deltas, t)) :
    t.Attended ∧ Registered t.world.containerViewers t.seatOf ∧
      t.world.containerViewers[place]? = none ∧
      (∀ position, t.containerKindAt C position = s.containerKindAt C position) ∧
      ∀ kindAt, Standing s.world.containerViewers kindAt →
        Standing t.world.containerViewers kindAt := by
  unfold closeWorldContainerViewersState at hrun
  rw [run_bind_of (containerViewers_run s place)] at hrun
  obtain ⟨closed, u, hclose, h₁⟩ := Prog.run_bind_ok hrun
  obtain ⟨hattended, hregistered', hseats, hkinds, hstanding⟩ := closeAll_leaves hs hregistered hclose
  have hfree : u.world.containerViewers[place]? = none := by
    refine hregistered'.none_of_free fun playerId seat hseat hthere => ?_
    rw [hseats] at hseat
    rcases ite_eq_iff.mp hseat with ⟨-, hnone⟩ | ⟨hunlisted, hseat⟩
    · cases hnone
    · -- A seat at the place would have been listed in its entry.
      have hlisted := hregistered.listed place playerId
      rw [hseat, Option.bind_some] at hlisted
      unfold Seat.windowAt listedAt at hlisted
      rw [if_pos hthere] at hlisted
      cases hentry : s.world.containerViewers[place]? with
      | none =>
        rw [hentry] at hlisted
        cases hlisted
      | some entry =>
        rw [hentry] at hlisted hunlisted
        apply hunlisted
        apply ExtTreeMap.mem_keys.mpr
        rw [ExtTreeMap.mem_iff_isSome_getElem?]
        exact Option.isSome_iff_exists.mpr ⟨_, hlisted⟩
  cases h₁
  have hsame : u.world.containerViewers.erase place = u.world.containerViewers := by
    apply ExtTreeMap.ext_getElem?
    intro position
    rw [BTreeMap.getElem?_erase_eq]
    split
    · next h => rw [← h, hfree]
    · rfl
  have hviewers : (applyOptionalEntry u.world.containerViewers place none) =
      u.world.containerViewers := hsame
  refine ⟨hattended, ?_, ?_, hkinds, fun kindAt h => ?_⟩
  · change Registered (applyOptionalEntry u.world.containerViewers place none) u.seatOf
    rw [hviewers]
    exact hregistered'
  · change (applyOptionalEntry u.world.containerViewers place none)[place]? = none
    rw [hviewers]
    exact hfree
  · change Standing (applyOptionalEntry u.world.containerViewers place none) kindAt
    rw [hviewers]
    exact hstanding kindAt h

/-- The check after a block was set, on a registry that stood before: the windows at the block
    are closed unless it is still the container they show. -/
theorem closeWorldContainerIfInvalidState_seated {block : Option BlockState}
    {kindAt : BlockPos → Option ContainerKindId} (hattended : s.Attended)
    (hregistered : Registered s.world.containerViewers s.seatOf)
    (hstanding : Standing s.world.containerViewers kindAt)
    (hothers : ∀ position, place ≠ position → s.containerKindAt C position = kindAt position)
    (hblock : s.containerKindAt C place = block.bind C.containerKindForBlock)
    (hrun : run (baseState C) (closeWorldContainerIfInvalidState C place block) s =
      .ok (deltas, t)) : Seated C t := by
  have hviewers : ∀ u : ServerCore, u.Attended → Registered u.world.containerViewers u.seatOf →
      Standing u.world.containerViewers kindAt →
      (∀ position, u.containerKindAt C position = s.containerKindAt C position) →
      run (baseState C) (closeInvalidViewers C place block) u = .ok (deltas, t) → Seated C t := by
    intro u huAttended huRegistered huStanding hukinds hrest
    unfold closeInvalidViewers at hrest
    rw [run_bind_of (containerViewers_run u place)] at hrest
    cases hentry : u.world.containerViewers[place]? with
    | none =>
      rw [hentry] at hrest
      cases hrest
      refine ⟨⟨huRegistered, fun position entry hfound => ?_⟩, huAttended⟩
      have hplace : place ≠ position := by
        rintro rfl
        rw [hentry] at hfound
        cases hfound
      rw [hukinds, hothers position hplace]
      exact huStanding position entry hfound
    | some entry =>
      rw [hentry] at hrest
      dsimp only at hrest
      split at hrest
      · next hkind =>
        cases hrest
        refine ⟨⟨huRegistered, fun position found hfound => ?_⟩, huAttended⟩
        rw [hukinds]
        by_cases hplace : place = position
        · subst hplace
          rw [hentry] at hfound
          cases hfound
          rw [hblock, hkind]
        · rw [hothers position hplace]
          exact huStanding position found hfound
      · obtain ⟨htAttended, htRegistered, hfree, htkinds, htStanding⟩ :=
          closeWorldContainerViewersState_leaves huAttended huRegistered hrest
        refine ⟨⟨htRegistered, fun position found hfound => ?_⟩, htAttended⟩
        have hplace : place ≠ position := by
          rintro rfl
          rw [hfree] at hfound
          cases hfound
        rw [htkinds, hukinds, hothers position hplace]
        exact htStanding kindAt huStanding position found hfound
  unfold closeWorldContainerIfInvalidState at hrun
  dsimp only at hrun
  rw [run_bind_of (blockEntity_run s place)] at hrun
  split at hrun
  · obtain ⟨answer, u, herase, hrest⟩ := Prog.run_bind_ok hrun
    cases herase
    exact hviewers (baseState C (.setBlockEntity place none) s).2 hattended hregistered hstanding
      (fun _ => rfl) hrest
  · exact hviewers s hattended hregistered hstanding (fun _ => rfl) hrun

theorem stateSetBlock_seated (place : BlockPos) (block : Option BlockState) :
    Keeps (baseState C) (Seated C) (stateSetBlock C place block) := by
  unfold stateSetBlock
  refine triple_bind (aboutWindows_seated (stateClearActiveMiningAt_within place) (by decide))
    fun cleared => ?_
  have hentity : ∀ entity : Option BlockEntityState,
      Keeps (baseState C) (Seated C) (setBlockEntity place entity) := by
    intro entity
    have hwithin : Within [.blockEntities] (setBlockEntity place entity) :=
      Within.writes (by decide) fun _ h => h
    exact Seated.of_within hwithin (by decide)
  refine triple_bind (R := fun _ s => ∃ before : ServerCore, Seated C before ∧
      s = before.setBlockAt C place block) ?_ fun _ => ?_
  · exact Prog.triple_perform fun s hs => ⟨s, hs, rfl⟩
  refine triple_bind (R := fun _ => Seated C) ?_ fun closed => ?_
  · rintro s ⟨before, hbefore, rfl⟩ deltas t hrun
    obtain ⟨chunks, hchunks⟩ := setBlockAt_eq (C := C) before place block
    have hkinds : ∀ position, (before.setBlockAt C place block).containerKindAt C position =
        if place = position then block.bind C.containerKindForBlock
        else before.containerKindAt C position := by
      intro position
      unfold ServerCore.containerKindAt
      rw [ServerCore.blockAt_setBlockAt]
      split <;> rfl
    have hothers : ∀ position, place ≠ position →
        (before.setBlockAt C place block).containerKindAt C position =
          before.containerKindAt C position :=
      fun position hplace => by rw [hkinds, if_neg hplace]
    refine closeWorldContainerIfInvalidState_seated ?_ ?_ ?_ hothers (by rw [hkinds, if_pos rfl])
      hrun
    · rw [hchunks]
      exact hbefore.attended
    · rw [hchunks]
      exact hbefore.registered
    · rw [hchunks]
      exact hbefore.standing
  split
  · split
    · exact triple_bind (hentity _) fun _ => triple_pure fun _ hs => hs
    · exact triple_pure fun _ hs => hs
  · exact triple_bind (hentity _) fun _ => triple_pure fun _ hs => hs

/-! ### Players -/

theorem disconnectPlayerState_exact {answer : Option DisconnectDelta} (hs : Seated C s)
    (hrun : run (baseState C) (disconnectPlayerState C playerId) s = .ok (answer, t)) :
    Exact C t := by
  obtain ⟨cleared, s₁, hclear, hcases⟩ := disconnectPlayerState_ok hrun
  have hs₁ := aboutWindows_seated (stateClearActiveMining_within playerId) (by decide) s hs cleared
    s₁ hclear
  rcases hcases with ⟨-, rfl⟩ | ⟨session, saved, left, -, hsession, rfl, rfl⟩
  · exact hs₁.toExact
  · have hworld := removeOnlinePlayer_world s₁ playerId
    have hkinds : ∀ position, (s₁.removeOnlinePlayer playerId).2.containerKindAt C position =
        s₁.containerKindAt C position := by
      intro position
      unfold ServerCore.containerKindAt ServerCore.blockAt ServerCore.chunkAt
      rw [hworld]
    have hseat : s₁.seatOf playerId = session.activeContainer.map OpenInventoryWindow.seat := by
      unfold ServerCore.seatOf ServerCore.windowOf
      rw [hsession, Option.bind_some]
    have hleaves : Leaves C playerId s₁ ((s₁.removeOnlinePlayer playerId).2.withoutWindow C
        session.activeContainer playerId) := by
      unfold ServerCore.withoutWindow
      cases hwindow : session.activeContainer with
      | none =>
        refine ⟨seatOf_removeOnlinePlayer s₁ playerId, ?_, hkinds⟩
        rw [hworld, hseat, hwindow]
        rfl
      | some window =>
        refine ⟨fun other => ?_, ?_, fun position => ?_⟩
        · rw [seatOf_withoutWindowViewer, seatOf_writtenBack, seatOf_removeOnlinePlayer]
        · rw [withoutWindowViewer_viewers, writtenBack_viewers, hworld, hseat, hwindow]
          rfl
        · rw [containerKindAt_withoutWindowViewer, containerKindAt_writtenBack, hkinds]
    have hexact := hleaves.exact hs₁.toExact
    exact ⟨hexact.registered, hexact.standing⟩

theorem Consistent.attended (h : Consistent s) : s.Attended := by
  intro playerId hseat
  obtain ⟨seat, hseat⟩ := Option.isSome_iff_exists.mp hseat
  obtain ⟨window, hwindow, -⟩ := Option.map_eq_some_iff.mp hseat
  obtain ⟨session, hsession, -⟩ := Option.bind_eq_some_iff.mp hwindow
  have hindex := h.connected playerId session hsession
  obtain ⟨-, -, -, -, hinventory, -⟩ := h.indexed playerId _ hindex
  unfold ServerCore.inventoryOf
  rw [hindex]
  exact hinventory

theorem Consistent.unseated (h : Consistent s)
    (hoffline : s.entities.playersByPlayerId[playerId]? = none) : s.seatOf playerId = none := by
  unfold ServerCore.seatOf ServerCore.windowOf
  cases hsession : s.sessions.playerSessions[playerId]? with
  | none => rfl
  | some session =>
    rw [h.connected playerId session hsession] at hoffline
    cases hoffline

theorem Exact.spawnOnlinePlayer (hs : Exact C s) {player : PlayerSnapshot}
    (hfree : s.seatOf player.id = none) (center : ChunkPos) (nowMs : Nat)
    (expected : Option EntityId) :
    Exact C (s.spawnOnlinePlayer player center nowMs expected).2 := by
  have hleaves : Leaves C player.id s (s.spawnOnlinePlayer player center nowMs expected).2 := by
    refine ⟨seatOf_spawnOnlinePlayer s player center nowMs expected, ?_, fun _ => rfl⟩
    rw [hfree]
    rfl
  exact hleaves.exact hs

/-! ### Operations and runs -/

/-- **One operation** keeps the registry exact on a consistent core. -/
theorem reduceCoreOp_exact (hC : C.Agrees) {op : CoreOp} {nowMs : Nat}
    {players : BTreeSet PlayerId} {applied : AppliedCoreOp} (hconsistent : Consistent s)
    (hs : Exact C s) (hfits : op.LoginFits s)
    (hrun : run (baseState C) (reduceCoreOp C op nowMs players) s = .ok (applied, t)) :
    Exact C t := by
  have hseated : Seated C s := ⟨hs, hconsistent.attended⟩
  have hkept : Keeps (baseState C) (Seated C) (reduceCoreOp C op nowMs players) → Exact C t :=
    fun hkeeps => (hkeeps s hseated applied t hrun).toExact
  have hplain : (∀ part ∈ containerParts, part ∉ op.parts) → Exact C t := fun hparts =>
    hkept (aboutWindows_seated (reduceCoreOp_within op nowMs players) hparts)
  have hanswer : ∀ {α : Type} {p : CoreM α} {f : α → AppliedCoreOp},
      Keeps (baseState C) (Seated C) p →
      Keeps (baseState C) (Seated C) (p >>= fun answer => pure (f answer)) := fun hp =>
    triple_bind hp fun _ => triple_pure fun _ hs => hs
  cases op
  case prepareLogin playerId player expected =>
    by_cases hplayer : playerId ∈ players
    · rw [reduce_prepareLogin hplayer] at hrun
      obtain ⟨center, -, hspawned⟩ := except_map_eq_ok.mp hrun
      cases hspawned
      exact hs.spawnOnlinePlayer (hconsistent.unseated hfits.1) center nowMs _
    · unfold reduceCoreOp at hrun
      dsimp only at hrun
      rw [if_neg (by simpa using hplayer)] at hrun
      cases hrun
      exact hs
  case inventoryClick playerId transaction target button validation =>
    exact hkept (hanswer (aboutWindows_seated.applyInventoryClickState
      (clickHeld_seated hC playerId transaction.windowId target button)
      (fun position => syncWorldContainerViewersState_seated position playerId) validation))
  case openContainerAt playerId position =>
    exact hkept (hanswer (openWorldContainerState_seated hC playerId position))
  case openVirtualContainer playerId kind =>
    exact hkept (hanswer (openVirtualContainerState_seated hC playerId kind))
  case closeContainer playerId windowId includePlayerContents =>
    exact hkept (hanswer (aboutWindows_seated.closeContainerState
      (closePlayerActiveContainerState_seated playerId) windowId includePlayerContents))
  case completeMining playerId position =>
    exact hkept (hanswer (aboutWindows_seated.stateCompleteSurvivalMining
      (stateSetBlock_seated position none) playerId nowMs))
  case tickActiveContainer playerId =>
    exact hkept (hanswer (tickActiveContainerState_seated hC playerId))
  case setBlock position block => exact hkept (hanswer (stateSetBlock_seated position block))
  case disconnectPlayer playerId =>
    obtain ⟨delta, u, hleave, hrest⟩ := Prog.run_bind_ok hrun
    cases hrest
    exact disconnectPlayerState_exact hseated hleave
  all_goals exact hplain (by simp [CoreOp.parts, containerParts])

theorem stable_exact (hC : C.Agrees) :
    Stable C fun s => s.entities.nextEntityId < i32Max → Consistent s ∧ Exact C s := by
  constructor
  · intro op nowMs players s t applied hrun hfits h hids
    have hcounter := counter_le hrun
    obtain ⟨hconsistent, hexact⟩ := h (by omega)
    exact ⟨reduceCoreOp_consistent hrun hfits hconsistent hids,
      reduceCoreOp_exact hC hconsistent hexact hfits hrun⟩
  · intro s config worldMeta h hids
    obtain ⟨hconsistent, hexact⟩ := h hids
    refine ⟨hconsistent.withWorld _, hexact.registered, fun position entry hentry => ?_⟩
    have hchunk : (s.withSettings config worldMeta).chunkAt C position.chunkPos =
        s.chunkAt C position.chunkPos := by
      unfold ServerCore.chunkAt
      rw [hC.generated _ s.world.worldMeta]
      rfl
    unfold ServerCore.containerKindAt ServerCore.blockAt
    rw [hchunk]
    exact hexact.standing position entry hentry

end Core

/-! ### Whole runs -/

/-- The registry of a core at one position is what the windows of the players online make it:
    their windows bound to the position are listed with their ids, there is an entry exactly
    when there is such a window, and entry, windows and block are of one kind. -/
structure ViewersExact (C : ContentBehavior) (core : ServerCore) (position : BlockPos) : Prop where
  listed : ∀ (playerId : PlayerId) (windowId : Nat),
    (∃ entry : WorldContainerViewers, core.world.containerViewers[position]? = some entry ∧
      entry.viewers[playerId]? = some windowId) ↔
    ∃ window, core.windowOf playerId = some window ∧ window.worldPosition = some position ∧
      window.windowId = windowId
  present : (core.world.containerViewers[position]?).isSome ↔
    ∃ playerId window, core.windowOf playerId = some window ∧
      window.worldPosition = some position
  kinds : ∀ entry : WorldContainerViewers, core.world.containerViewers[position]? = some entry →
    (core.blockAt C position).bind C.containerKindForBlock = some entry.kind ∧
    ∀ playerId window, core.windowOf playerId = some window →
      window.worldPosition = some position → window.container.kind = entry.kind

theorem Exact.viewersExact {core : ServerCore} (h : Exact C core) (position : BlockPos) :
    ViewersExact C core position := by
  have hlisted : ∀ (playerId : PlayerId) (windowId : Nat),
      listedAt core.world.containerViewers position playerId = some windowId ↔
        ∃ window, core.windowOf playerId = some window ∧ window.worldPosition = some position ∧
          window.windowId = windowId := by
    intro playerId windowId
    rw [h.registered.listed]
    unfold ServerCore.seatOf Seat.windowAt
    cases core.windowOf playerId with
    | none => simp
    | some window =>
      rw [Option.map_some, Option.bind_some, seat_position]
      change (if _ then some window.windowId else none) = _ ↔ _
      simp
  have hentry : ∀ (playerId : PlayerId) (windowId : Nat),
      (∃ entry : WorldContainerViewers, core.world.containerViewers[position]? = some entry ∧
        entry.viewers[playerId]? = some windowId) ↔
      listedAt core.world.containerViewers position playerId = some windowId := by
    intro playerId windowId
    unfold listedAt
    cases core.world.containerViewers[position]? with
    | none => simp
    | some entry => simp
  refine ⟨fun playerId windowId => (hentry playerId windowId).trans (hlisted playerId windowId),
    ⟨fun hsome => ?_, ?_⟩, fun entry hfound => ⟨h.standing position entry hfound, ?_⟩⟩
  · by_contra hnobody
    rw [h.registered.none_of_free] at hsome
    · cases hsome
    · intro playerId seat hseat hthere
      obtain ⟨window, hwindow, rfl⟩ := Option.map_eq_some_iff.mp hseat
      exact hnobody ⟨playerId, window, hwindow, hthere⟩
  · rintro ⟨playerId, window, hwindow, hthere⟩
    obtain ⟨entry, hfound, -⟩ := (hentry playerId window.windowId).mpr
      ((hlisted playerId window.windowId).mpr ⟨window, hwindow, hthere, rfl⟩)
    rw [hfound]
    rfl
  · intro playerId window hwindow hthere
    refine h.registered.kinds position entry playerId window.seat hfound ?_ hthere
    unfold ServerCore.seatOf
    rw [hwindow]
    rfl

theorem ServerCore.Started.exact {core : ServerCore} (h : core.Started) : Exact C core := by
  have hnone : core.world.containerViewers = ∅ ∧ core.sessions.playerSessions = ∅ := by
    cases h with
    | new config => exact ⟨rfl, rfl⟩
    | fromSnapshot config snapshot => exact ⟨rfl, rfl⟩
  constructor
  · constructor <;> simp [hnone, listedAt, ServerCore.seatOf, ServerCore.windowOf]
  · intro position entry hentry
    simp [hnone] at hentry

/-- **The registry of the viewers is exact** after every run in which the ids of the entities do
    not run out. -/
theorem reachable_viewers_exact (core : ServerCore) (hstart : core.Started)
    (batches : List MutationBatch) (last : CoreVersion) (commits : List CoreCommit)
    (hrun : runBatches canonicalContent (.initial core) batches = .ok (last, commits))
    (hids : last.state.allocatedEntityIds < 2 ^ 31 - 2) (position : BlockPos) :
    ViewersExact canonicalContent last.state position := by
  have hleads := (stable_exact canonical_agrees).leads (runBatches_leads hrun)
    fun _ => ⟨hstart.consistent, hstart.exact⟩
  have hleft : last.state.entities.nextEntityId < i32Max := by
    unfold ServerCore.allocatedEntityIds at hids
    unfold i32Max
    omega
  exact (hleads hleft).2.viewersExact position

/-- A player logs in and opens the furnace. -/
def visitFurnace : MutationBatch :=
  ⟨[.applyCommand (.loginStart ⟨1⟩ "alice" ⟨7⟩) 5,
    .applyCommand (.gameplay (.useBlock ⟨7⟩ .main furnacePosition (some .top) none)) 5], [], true⟩

theorem reachable_viewers_exact_visit :
    ∃ last commits entry,
      runBatches canonicalContent (.initial (.fromSnapshot .default furnaceWorld)) [visitFurnace] =
        .ok (last, commits) ∧
      last.state.allocatedEntityIds < 2 ^ 31 - 2 ∧
      last.state.world.containerViewers[furnacePosition]? = some entry ∧
      ViewersExact canonicalContent last.state furnacePosition := by
  have hrun : endsWith (fun ran => decide (ran.1.state.allocatedEntityIds < 2 ^ 31 - 2 ∧
      (ran.1.state.world.containerViewers[furnacePosition]?).isSome))
      (runBatches canonicalContent (.initial (.fromSnapshot .default furnaceWorld))
        [visitFurnace]) = true := by
    decide +kernel
  obtain ⟨⟨last, commits⟩, hlast, hchecks⟩ := endsWith_iff.mp hrun
  obtain ⟨hids, hsome⟩ := of_decide_eq_true hchecks
  obtain ⟨entry, hentry⟩ := Option.isSome_iff_exists.mp hsome
  exact ⟨last, commits, entry, hlast, hids, hentry,
    reachable_viewers_exact _ (.fromSnapshot .default furnaceWorld) [visitFurnace] last commits
      hlast hids furnacePosition⟩

/-! ### When the ids run out -/

section Expiry

variable (s : ServerCore)

theorem restYFrom_run (blockX blockZ : Int) (blockY : Nat) :
    ∃ restY, run (baseState C) (restYFrom C blockX blockZ blockY) s = .ok (restY, s) := by
  induction blockY with
  | zero =>
    unfold restYFrom
    rw [run_bind_of (blockState_run s _)]
    split
    · exact ⟨_, rfl⟩
    · exact ⟨_, rfl⟩
  | succ blockY ih =>
    unfold restYFrom
    rw [run_bind_of (blockState_run s _)]
    split
    · exact ih
    · exact ⟨_, rfl⟩

theorem advanceDroppedItemStep_run (item : DroppedItemState) :
    ∃ item', run (baseState C) (advanceDroppedItemStep C item) s = .ok (item', s) ∧
      item'.despawnAtMs = item.despawnAtMs := by
  unfold advanceDroppedItemStep droppedItemRestY
  obtain ⟨restY, hrest⟩ := restYFrom_run (C := C) s (floorAsI32 item.snapshot.position.x)
    (floorAsI32 item.snapshot.position.z) (max 0 (min (floorAsI32 (item.snapshot.position.y +
      (item.snapshot.velocity.y - DROPPED_ITEM_GRAVITY_PER_STEP) * DROPPED_ITEM_DRAG)) 255)).toNat
  rw [run_bind_of hrest]
  split
  · split
    · exact ⟨_, rfl, rfl⟩
    · exact ⟨_, rfl, rfl⟩
  · exact ⟨_, rfl, rfl⟩

theorem advanceDroppedItemSteps_run (steps : Nat) (item : DroppedItemState) :
    ∃ item', run (baseState C) (advanceDroppedItemSteps C steps item) s = .ok (item', s) ∧
      item'.despawnAtMs = item.despawnAtMs := by
  induction steps generalizing item with
  | zero => exact ⟨item, rfl, rfl⟩
  | succ steps ih =>
    obtain ⟨item₁, hstep, hdespawn₁⟩ := advanceDroppedItemStep_run (C := C) s item
    obtain ⟨item₂, hsteps, hdespawn₂⟩ := ih item₁
    refine ⟨item₂, ?_, hdespawn₂.trans hdespawn₁⟩
    unfold advanceDroppedItemSteps
    rw [run_bind_of hstep]
    exact hsteps

theorem advanceDroppedItemEntity_run (item : DroppedItemState) (nowMs : Nat) :
    ∃ item', run (baseState C) (advanceDroppedItemEntity C item nowMs) s = .ok (item', s) ∧
      item'.despawnAtMs = item.despawnAtMs := by
  unfold advanceDroppedItemEntity
  dsimp only
  split
  · exact ⟨item, rfl, rfl⟩
  · obtain ⟨item', hsteps, hdespawn⟩ := advanceDroppedItemSteps_run (C := C) s
      ((nowMs - item.lastUpdatedAtMs) / DROPPED_ITEM_PHYSICS_STEP_MS) item
    rw [run_bind_of hsteps]
    exact ⟨_, rfl, hdespawn⟩

theorem tickDroppedItemState_expired {entityId : EntityId} {item : DroppedItemState}
    (hitem : s.entities.droppedItems[entityId]? = some item) {nowMs : Nat}
    (hexpired : item.despawnAtMs ≤ nowMs) :
    run (baseState C) (tickDroppedItemState C entityId nowMs) s =
      .ok (⟨none, some ⟨[entityId]⟩⟩, { s with
        entities.droppedItems := s.entities.droppedItems.erase entityId
        entities.entityKinds := s.entities.entityKinds.erase entityId }) := by
  unfold tickDroppedItemState
  have htake : run (baseState C) (takeDroppedItem entityId) s = .ok (some item,
      { s with entities.droppedItems := s.entities.droppedItems.erase entityId }) := by
    rw [← hitem]
    rfl
  rw [run_bind_of htake]
  dsimp only
  obtain ⟨item', hadvance, hdespawn⟩ := advanceDroppedItemEntity_run (C := C)
    { s with entities.droppedItems := s.entities.droppedItems.erase entityId } item nowMs
  rw [run_bind_of hadvance, if_pos (by rw [hdespawn]; exact hexpired)]
  rfl

end Expiry

/-- The world with the furnace when some ids have been given out and nothing of it is left. -/
def furnaceCore (nextEntityId : Int) : ServerCore :=
  { ServerCore.fromSnapshot .default furnaceWorld with entities.nextEntityId := nextEntityId }

def dropStone (nowMs : Nat) : GameplayEffectBatch :=
  ⟨nowMs, .default, [.spawnDroppedItem ⟨0, 0, 0⟩ (.new "minecraft:stone" 1 0)]⟩

/-- The same world with the stone that was dropped. -/
def stoneCore (entityId : Int) (nowMs : Nat) : ServerCore :=
  { furnaceCore (saturatingSuccI32 entityId) with
    entities.entityKinds := (∅ : BTreeMap EntityId EntityKind).insert ⟨entityId⟩ .droppedItem
    entities.droppedItems := (∅ : BTreeMap EntityId DroppedItemState).insert ⟨entityId⟩
      ⟨⟨.new "minecraft:stone" 1 0, ⟨0, 0, 0⟩, ⟨0.0, 0.0, 0.0⟩⟩, nowMs,
        saturatingAddU64 nowMs DROPPED_ITEM_PICKUP_DELAY_MS,
        saturatingAddU64 nowMs DROPPED_ITEM_DESPAWN_MS⟩ }

theorem dropStone_run (entityId : Int) (nowMs : Nat) :
    ∃ events, (furnaceCore entityId).validateAndApplyGameplayEffects canonicalContent
      (dropStone nowMs) = .ok (.applied events, stoneCore entityId nowMs) :=
  ⟨_, rfl⟩

theorem stoneCore_tick (entityId : Int) (nowMs : Nat) :
    ∃ events, (stoneCore entityId nowMs).tick canonicalContent
      (nowMs + DROPPED_ITEM_DESPAWN_MS) =
        .ok (events, furnaceCore (saturatingSuccI32 entityId)) := by
  have hops : (stoneCore entityId nowMs).ask canonicalContent
      (schedulerTick (nowMs + DROPPED_ITEM_DESPAWN_MS)
        (stoneCore entityId nowMs).sessions.keepaliveTimeoutMs) =
      .ok [.tickDroppedItem ⟨entityId⟩] := rfl
  have hitem := ExtTreeMap.getElem?_insert_self (t := (∅ : BTreeMap EntityId DroppedItemState))
    (k := ⟨entityId⟩) (v := ⟨⟨.new "minecraft:stone" 1 0, ⟨0, 0, 0⟩, ⟨0.0, 0.0, 0.0⟩⟩, nowMs,
      saturatingAddU64 nowMs DROPPED_ITEM_PICKUP_DELAY_MS,
      saturatingAddU64 nowMs DROPPED_ITEM_DESPAWN_MS⟩)
  have hexpired : saturatingAddU64 nowMs DROPPED_ITEM_DESPAWN_MS ≤
      nowMs + DROPPED_ITEM_DESPAWN_MS := Nat.min_le_left _ _
  have htick := tickDroppedItemState_expired (C := canonicalContent) (stoneCore entityId nowMs)
    hitem hexpired
  have hgone : { stoneCore entityId nowMs with
      entities.droppedItems := (stoneCore entityId nowMs).entities.droppedItems.erase ⟨entityId⟩
      entities.entityKinds := (stoneCore entityId nowMs).entities.entityKinds.erase ⟨entityId⟩ } =
      furnaceCore (saturatingSuccI32 entityId) := by
    unfold stoneCore
    dsimp only
    rw [BTreeMap.erase_insert_same, BTreeMap.erase_insert_same]
    simp [furnaceCore, ServerCore.fromSnapshot, ServerCore.new]
  rw [hgone] at htick
  have hreduce : reduceOps canonicalContent (nowMs + DROPPED_ITEM_DESPAWN_MS)
      (finalizedPlayersOf [.tickDroppedItem ⟨entityId⟩]) [.tickDroppedItem ⟨entityId⟩]
      (stoneCore entityId nowMs) = .ok (furnaceCore (saturatingSuccI32 entityId)) := by
    unfold reduceOps reduceCoreOp
    dsimp only
    rw [run_bind_of htick]
    rfl
  rw [← applyOpsFrom_state _ _ _ (.new ∅)] at hreduce
  obtain ⟨⟨events, core⟩, happly, rfl⟩ := except_map_eq_ok.mp hreduce
  refine ⟨events, ?_⟩
  unfold ServerCore.tick
  rw [hops]
  exact happly

/-- One id is given out and nothing stays. -/
def dropAndClear (nowMs : Nat) : MutationBatch :=
  ⟨[.validateAndApplyGameplayEffects (dropStone nowMs), .tick (nowMs + DROPPED_ITEM_DESPAWN_MS)],
    [], true⟩

theorem dropAndClear_run (revision : CoreRevision) (entityId : Int) (nowMs : Nat) :
    ∃ commit, runBatch canonicalContent ⟨revision, furnaceCore entityId⟩ (dropAndClear nowMs) =
      .ok (⟨revision.next, furnaceCore (saturatingSuccI32 entityId)⟩, commit) := by
  obtain ⟨events, hdrop⟩ := dropStone_run entityId nowMs
  obtain ⟨events', htick⟩ := stoneCore_tick entityId nowMs
  refine ⟨⟨revision, revision.next, true, [.gameplayEffects nowMs
    [.spawnDroppedItem ⟨0, 0, 0⟩ (.new "minecraft:stone" 1 0)],
    .builtinTick (nowMs + DROPPED_ITEM_DESPAWN_MS)]⟩, ?_⟩
  unfold runBatch dropAndClear
  simp only [runCalls, MutationCall.run, CoreMutation.validateAndApplyGameplayEffects,
    CoreMutation.fromVersion, hdrop, CoreMutation.tick]
  simp only [dropStone, bind, Except.bind, pure, Except.pure, Except.map, List.isEmpty_cons,
    Bool.false_eq_true, if_false, CoreMutation.recorded, htick]
  rfl

/-- Time and again one id is given out. -/
def dropStones : Nat → Nat → List MutationBatch
  | 0, _ => []
  | count + 1, nowMs => dropAndClear nowMs :: dropStones count (nowMs + DROPPED_ITEM_DESPAWN_MS)

theorem dropStones_run (count nowMs : Nat) (revision : CoreRevision) (entityId : Int)
    (hrevision : revision.value + count ≤ u64Max) (hids : entityId + count ≤ i32Max) :
    ∃ last commits, runBatches canonicalContent ⟨revision, furnaceCore entityId⟩
        (dropStones count nowMs) = .ok (⟨last, furnaceCore (entityId + count)⟩, commits) ∧
      last.value = revision.value + count := by
  induction count generalizing nowMs revision entityId with
  | zero => exact ⟨revision, [], by simp [dropStones, runBatches], rfl⟩
  | succ count ih =>
    obtain ⟨commit, hfirst⟩ := dropAndClear_run revision entityId nowMs
    have hsucc : saturatingSuccI32 entityId = entityId + 1 := by
      unfold saturatingSuccI32
      push_cast at hids
      split <;> omega
    have hnext : revision.next.value = revision.value + 1 := by
      rw [CoreRevision.next_value]
      omega
    obtain ⟨last, commits, hrest, hlast⟩ := ih (nowMs + DROPPED_ITEM_DESPAWN_MS) revision.next
      (entityId + 1) (by omega) (by push_cast at hids; omega)
    refine ⟨last, commit :: commits, ?_, by omega⟩
    unfold dropStones runBatches
    rw [hfirst, hsucc]
    change runBatches _ _ _ >>= _ = _
    rw [hrest]
    push_cast
    rw [show entityId + (↑count + 1) = entityId + 1 + ↑count by omega]
    rfl

/-- When the last id was given out, two players share an entity; one looks into the furnace and
    loses the inventory to the other's departure, and then the furnace is taken away. -/
def shareAndLeave (nowMs : Nat) : MutationBatch :=
  ⟨[.applyCommand (.loginStart ⟨1⟩ "alice" ⟨7⟩) nowMs,
    .applyCommand (.loginStart ⟨2⟩ "bob" ⟨8⟩) nowMs,
    .applyCommand (.gameplay (.useBlock ⟨7⟩ .main furnacePosition (some .top) none)) nowMs,
    .applyCommand (.disconnect ⟨8⟩) nowMs,
    .validateAndApplyGameplayEffects ⟨nowMs, .default, [.setBlock furnacePosition none]⟩], [], true⟩

theorem runBatches_append {version middle last : CoreVersion} {first second : List MutationBatch}
    {commits others : List CoreCommit} (hfirst : runBatches C version first = .ok (middle, commits))
    (hsecond : runBatches C middle second = .ok (last, others)) :
    runBatches C version (first ++ second) = .ok (last, commits ++ others) := by
  induction first generalizing version commits with
  | nil =>
    cases hfirst
    exact hsecond
  | cons batch rest ih =>
    obtain ⟨⟨next, commit⟩, hbatch, hafter⟩ := except_bind_eq_ok.mp hfirst
    obtain ⟨⟨middle', rest'⟩, hrest, hdone⟩ := except_bind_eq_ok.mp hafter
    cases hdone
    rw [List.cons_append]
    unfold runBatches
    rw [hbatch]
    change runBatches _ _ _ >>= _ = _
    rw [ih hrest]
    rfl

/-- The time when the ids have run out. -/
def lastIdMs : Nat := 2147483646 * DROPPED_ITEM_DESPAWN_MS

theorem window_outlives_its_registration :
    ∃ batches last commits window,
      runBatches canonicalContent (.initial (.fromSnapshot .default furnaceWorld)) batches =
        .ok (last, commits) ∧
      last.state.windowOf ⟨7⟩ = some window ∧ window.worldPosition = some furnacePosition ∧
      last.state.world.containerViewers[furnacePosition]? = none ∧
      ¬ ViewersExact canonicalContent last.state furnacePosition := by
  obtain ⟨revision, commits, hdrops, hrevision⟩ :=
    dropStones_run 2147483646 0 .initial 1 (by decide) (by decide)
  have hrevision : revision = ⟨2147483646, by decide⟩ := CoreRevision.ext_value hrevision
  subst hrevision
  have hrun : endsWith (fun ran => decide (
      (∃ window ∈ ran.1.state.windowOf ⟨7⟩, window.worldPosition = some furnacePosition) ∧
        ran.1.state.world.containerViewers[furnacePosition]? = none))
      (runBatches canonicalContent ⟨⟨2147483646, by decide⟩, furnaceCore i32Max⟩
        [shareAndLeave lastIdMs]) = true := by
    decide +kernel
  obtain ⟨⟨last, others⟩, hlast, hchecks⟩ := endsWith_iff.mp hrun
  obtain ⟨⟨window, hwindow, hposition⟩, hnone⟩ := of_decide_eq_true hchecks
  refine ⟨_, last, _, window, runBatches_append hdrops hlast, hwindow, hposition, hnone, ?_⟩
  intro hexact
  have hsome := hexact.present.mpr ⟨⟨7⟩, window, hwindow, hposition⟩
  rw [hnone] at hsome
  cases hsome

end RevyCraft
