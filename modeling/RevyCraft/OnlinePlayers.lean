/-
  RevyCraft/OnlinePlayers.lean
  ============================
  **Who is online after a call of the store.**

  Two operations change the index of the online players: a prepared login
  enters a player with the next entity id, and a disconnect takes one out.
  One operation tells a connection that its login was accepted, the end of a
  login.  From these the calls of `CoreStore` follow: only a `LoginStart` brings
  a player online, and only a `Disconnect` and the timeouts of a tick take one
  offline.
-/
import RevyCraft.EntityInvariant
import RevyCraft.CoreStore
import RevyCraft.WindowRuns

namespace RevyCraft

open Std
open RevyCraft.Core

variable {C : ContentBehavior}

/-- `player_entity_id`: the entity of a player that is online. -/
def ServerCore.onlineEntity (core : ServerCore) (playerId : PlayerId) : Option EntityId :=
  core.entities.playersByPlayerId[playerId]?

/-- `disconnect_due_to_timeout`. -/
def PlayerSessionState.overdue (session : PlayerSessionState) (nowMs keepaliveTimeoutMs : Nat) :
    Bool :=
  session.lastKeepAliveSentAt.any fun sentAt => nowMs - sentAt > keepaliveTimeoutMs

/-- Every keepalive was answered in time, or still can be. -/
def ServerCore.Punctual (core : ServerCore) (nowMs : Nat) : Prop :=
  ∀ entry ∈ core.sessions.playerSessions.toList,
    entry.2.overdue nowMs core.sessions.keepaliveTimeoutMs = false

instance (core : ServerCore) (nowMs : Nat) : Decidable (core.Punctual nowMs) :=
  inferInstanceAs (Decidable (∀ entry ∈ core.sessions.playerSessions.toList,
    entry.2.overdue nowMs core.sessions.keepaliveTimeoutMs = false))

/-! ### Accepted logins among the events -/

/-- The player and the entity of an accepted login. -/
def CoreEvent.acceptance : CoreEvent → Option (PlayerId × EntityId)
  | .loginAccepted playerId entityId _ => some (playerId, entityId)
  | _ => none

/-- No login is accepted by the events. -/
def Quiet (events : List TargetedEvent) : Prop :=
  ∀ event ∈ events, event.event.acceptance = none

instance (events : List TargetedEvent) : Decidable (Quiet events) :=
  inferInstanceAs (Decidable (∀ event ∈ events, event.event.acceptance = none))

variable {events : List TargetedEvent} {core s t core' : ServerCore} {op : CoreOp} {nowMs : Nat}
  {players : BTreeSet PlayerId} {connectionId : ConnectionId} {playerId : PlayerId}
  {ops : List CoreOp} {command : CoreCommand} {invocation : CoreInvocation}
  {preparedTicks : List PreparedGameplayTick}

@[simp] theorem quiet_nil : Quiet [] := fun _ h => by cases h

@[simp] theorem quiet_cons {event : TargetedEvent} :
    Quiet (event :: events) ↔ event.event.acceptance = none ∧ Quiet events :=
  List.forall_mem_cons

variable {α : Type} {builder : CoreEventBuilder} {username : String} {effects : List GameplayEffect}
  {mutation : CoreMutation}

@[simp] theorem quiet_append {first second : List TargetedEvent} :
    Quiet (first ++ second) ↔ Quiet first ∧ Quiet second :=
  List.forall_mem_append

theorem quiet_map {l : List α} {f : α → TargetedEvent} (h : ∀ a, (f a).event.acceptance = none) :
    Quiet (l.map f) := by
  intro event hevent
  obtain ⟨a, -, rfl⟩ := List.mem_map.mp hevent
  exact h a

theorem quiet_flatMap {l : List α} {f : α → List TargetedEvent} (h : ∀ a, Quiet (f a)) :
    Quiet (l.flatMap f) := by
  intro event hevent
  obtain ⟨a, -, hevent⟩ := List.mem_flatMap.mp hevent
  exact h a event hevent

theorem quiet_filterMap {l : List α} {f : α → Option TargetedEvent}
    (h : ∀ a event, f a = some event → event.event.acceptance = none) : Quiet (l.filterMap f) := by
  intro event hevent
  obtain ⟨a, -, hevent⟩ := List.mem_filterMap.mp hevent
  exact h a event hevent

theorem viewerEvents_quiet (core : ServerCore) (position : BlockPos) {event : CoreEvent}
    (h : event.acceptance = none) : Quiet (viewerEvents core position event) :=
  quiet_map fun _ => h

theorem everySessionEvents_quiet (core : ServerCore) {event : CoreEvent}
    (h : event.acceptance = none) : Quiet (everySessionEvents core event) :=
  quiet_map fun _ => h

theorem inventoryDiffEvents_quiet (windowId : Nat) (container : ContainerKindId)
    (playerId : PlayerId) (before after : InventoryWindowContents) :
    Quiet (inventoryDiffEvents C windowId container playerId before after) := by
  refine quiet_filterMap fun slot event hevent => ?_
  split at hevent
  · cases hevent
    rfl
  · cases hevent

theorem propertyDiffEvents_quiet (windowId : Nat) (playerId : PlayerId)
    (before after : List (ContainerPropertyKey × Int)) :
    Quiet (propertyDiffEvents windowId playerId before after) := by
  refine quiet_filterMap fun entry event hevent => ?_
  dsimp only at hevent
  split at hevent
  · cases hevent
    rfl
  · cases hevent

theorem buildWindowDiff_quiet (delta : WindowDiffDelta) : Quiet (buildWindowDiff C delta) :=
  quiet_append.mpr ⟨inventoryDiffEvents_quiet _ _ _ _ _, propertyDiffEvents_quiet _ _ _ _⟩

theorem buildInventoryClick_quiet (delta : InventoryClickDelta) :
    Quiet (buildInventoryClick C delta) := by
  unfold buildInventoryClick
  refine quiet_cons.mpr ⟨rfl, ?_⟩
  split
  · split
    · exact quiet_nil
    · refine quiet_append.mpr ⟨?_, propertyDiffEvents_quiet _ _ _ _⟩
      unfold windowResyncEvents
      simp only [quiet_append, quiet_cons, CoreEvent.acceptance, quiet_nil, and_true, true_and]
      constructor
      · split <;> simp [CoreEvent.acceptance]
      · split <;> simp [CoreEvent.acceptance]
  · simp only [quiet_append]
    refine ⟨⟨⟨⟨inventoryDiffEvents_quiet _ _ _ _ _, propertyDiffEvents_quiet _ _ _ _⟩, ?_⟩, ?_⟩,
      quiet_flatMap fun diff => buildWindowDiff_quiet diff⟩
    · split <;> simp [CoreEvent.acceptance]
    · split <;> simp [CoreEvent.acceptance]

theorem buildCloseContainer_quiet (delta : CloseContainerDelta) :
    Quiet (buildCloseContainer C delta) :=
  quiet_cons.mpr ⟨rfl, quiet_map fun _ => rfl⟩

theorem buildOpenContainer_quiet (delta : OpenContainerDelta) :
    Quiet (buildOpenContainer C delta) := by
  unfold buildOpenContainer
  simp only [quiet_append]
  refine ⟨⟨quiet_flatMap buildCloseContainer_quiet, ?_⟩, quiet_map fun _ => rfl⟩
  simp [CoreEvent.acceptance]

theorem buildClearMining_quiet (core : ServerCore) (delta : ClearMiningDelta) :
    Quiet (buildClearMining core delta) :=
  viewerEvents_quiet core _ rfl

theorem buildSetBlock_quiet (core : ServerCore) (delta : BlockDelta) :
    Quiet (buildSetBlock C core delta) := by
  unfold buildSetBlock
  simp only [quiet_append]
  exact ⟨⟨quiet_flatMap (buildClearMining_quiet core), quiet_flatMap buildCloseContainer_quiet⟩,
    viewerEvents_quiet core _ rfl⟩

theorem buildPlayerPose_quiet (delta : PlayerPoseDelta) : Quiet (buildPlayerPose delta) := by
  unfold buildPlayerPose
  simp only [quiet_append]
  refine ⟨⟨⟨⟨⟨⟨?_, ?_⟩, ?_⟩, ?_⟩, ?_⟩, ?_⟩, ?_⟩
  · exact quiet_map fun _ => rfl
  · exact quiet_map fun _ => rfl
  · exact quiet_map fun _ => rfl
  · exact quiet_map fun _ => rfl
  · exact quiet_map fun _ => rfl
  · exact quiet_map fun _ => rfl
  · split <;> simp [CoreEvent.acceptance]

theorem buildFinalizeLogin_accepts (core : ServerCore) (delta : LoginFinalizeDelta) :
    ∀ event ∈ buildFinalizeLogin C core delta, ∀ login, event.event.acceptance = some login →
      event.target = .connection delta.connectionId ∧
        login = (delta.playerId, delta.entityId) := by
  intro event hevent login hlogin
  have hrest : ∀ {events : List TargetedEvent}, Quiet events → event ∉ events := by
    intro events hquiet hmem
    rw [hquiet event hmem] at hlogin
    cases hlogin
  unfold buildFinalizeLogin at hevent
  rcases List.mem_append.mp hevent with hevent | hevent
  · rcases List.mem_append.mp hevent with hevent | hevent
    · rcases List.mem_append.mp hevent with hevent | hevent
      · rcases List.mem_cons.mp hevent with rfl | hevent
        · cases hlogin
          exact ⟨rfl, rfl⟩
        · exact absurd hevent (hrest (by simp [CoreEvent.acceptance]))
      · exact absurd hevent (hrest (quiet_map fun _ => rfl))
    · exact absurd hevent (hrest (quiet_map fun _ => rfl))
  · exact absurd hevent (hrest (quiet_map fun _ => rfl))

theorem filterHiddenEvents_acceptance {event : TargetedEvent} {login : PlayerId × EntityId}
    (h : event ∈ builder.filterHiddenEvents core events)
    (hlogin : event.event.acceptance = some login) : event ∈ events := by
  obtain ⟨original, horiginal, hsanitized⟩ := List.mem_filterMap.mp h
  unfold CoreEventBuilder.sanitizeHiddenEvent at hsanitized
  obtain ⟨-, hshown⟩ := Option.ite_none_left_eq_some.mp hsanitized
  split at hshown
  case h_4 =>
    -- despawned entities are told without the hidden ones
    obtain ⟨-, hshown⟩ := Option.ite_none_left_eq_some.mp hshown
    cases hshown
    cases hlogin
  case h_5 =>
    cases hshown
    exact horiginal
  all_goals
    obtain ⟨-, hshown⟩ := Option.ite_none_left_eq_some.mp hshown
    cases hshown
    exact horiginal

/-! ### Operations -/

/-- The login whose acceptance an operation tells as it is. -/
def CoreOp.told : CoreOp → Option (PlayerId × EntityId)
  | .emitEvent event => event.event.acceptance
  | _ => none

def CoreOp.Quiet (op : CoreOp) : Prop := op.told = none

/-- An operation that leaves the online players as they are. -/
def CoreOp.Stays : CoreOp → Prop
  | .prepareLogin _ _ _ => False
  | .disconnectPlayer _ => False
  | _ => True

instance (op : CoreOp) : Decidable op.Quiet := inferInstanceAs (Decidable (op.told = none))

theorem CoreOp.Stays.same (hop : op.Stays) {applied : AppliedCoreOp}
    (hrun : (reduceCoreOp C op nowMs players).run (baseState C) s = .ok (applied, t)) :
    Part.online.Same C s t := by
  refine (reduceCoreOp_within op nowMs players).same ?_ hrun
  cases op
  case prepareLogin => exact hop.elim
  case disconnectPlayer => exact hop.elim
  all_goals simp [CoreOp.parts, windowParts, blockParts]

theorem finalizeLoginDelta_ok {delta : LoginFinalizeDelta}
    (h : (finalizeLoginDelta connectionId playerId).run (baseState C) s = .ok (some delta, t)) :
    delta.connectionId = connectionId ∧ delta.playerId = playerId ∧
      (s.sessions.playerSessions[playerId]?).map (·.entityId) = some delta.entityId := by
  obtain ⟨player, s₁, hplayer, h₁⟩ := Prog.run_bind_ok h
  have hsame₁ : Part.online.Same C s s₁ :=
    Within.same (composePlayerSnapshot_within playerId) List.not_mem_nil hplayer
  cases player with
  | none => cases h₁
  | some player =>
    obtain ⟨session, s₂, hsession, h₂⟩ := Prog.run_bind_ok h₁
    simp only [playerSession_run, Except.ok.injEq, Prod.mk.injEq] at hsession
    obtain ⟨hsession, rfl⟩ := hsession
    cases session with
    | none => cases h₂
    | some session =>
      obtain ⟨center, s₃, -, h₃⟩ := Prog.run_bind_ok h₂
      obtain ⟨chunks, s₄, -, h₄⟩ := Prog.run_bind_ok h₃
      obtain ⟨others, s₅, -, h₅⟩ := Prog.run_bind_ok h₄
      obtain ⟨seen, s₆, -, h₆⟩ := Prog.run_bind_ok h₅
      obtain ⟨itemIds, s₇, -, h₇⟩ := Prog.run_bind_ok h₆
      obtain ⟨items, s₈, -, h₈⟩ := Prog.run_bind_ok h₇
      cases h₈
      refine ⟨rfl, rfl, ?_⟩
      rw [← hsame₁.2.2.2 playerId, hsession]
      rfl

/-- **Only the end of a login accepts it**, for its connection and with the entity of the player's
    session. -/
theorem reduceCoreOp_accepts (hop : op.Quiet) {applied : AppliedCoreOp}
    (hrun : (reduceCoreOp C op nowMs players).run (baseState C) s = .ok (applied, t)) :
    ∀ event ∈ buildApplied C t applied, ∀ login, event.event.acceptance = some login →
      ∃ connectionId, op = .finalizeLogin connectionId login.1 ∧
        event.target = .connection connectionId ∧
        (s.sessions.playerSessions[login.1]?).map (·.entityId) = some login.2 := by
  intro event hevent login hlogin
  have hquiet : ∀ {events : List TargetedEvent}, Quiet events → event ∉ events := by
    intro events hquiet hmem
    rw [hquiet event hmem] at hlogin
    cases hlogin
  cases op
  case finalizeLogin connectionId playerId =>
    obtain ⟨delta, u, hdelta, hdone⟩ := Prog.run_bind_ok hrun
    cases hdone
    obtain ⟨found, hfound, hevent⟩ := List.mem_flatMap.mp hevent
    obtain ⟨htarget, rfl⟩ := buildFinalizeLogin_accepts t found event hevent login hlogin
    rw [Option.mem_toList.mp hfound] at hdelta
    obtain ⟨hconnection, hplayer, hentity⟩ := finalizeLoginDelta_ok hdelta
    rw [hconnection] at htarget
    refine ⟨connectionId, ?_, htarget, ?_⟩
    · rw [hplayer]
    · rw [hplayer]
      exact hentity
  case emitEvent told =>
    cases hrun
    rw [List.mem_singleton.mp hevent] at hlogin
    exact absurd hlogin (by rw [show told.event.acceptance = none from hop]; simp)
  case prepareLogin playerId player entityId =>
    unfold reduceCoreOp at hrun
    dsimp only at hrun
    split at hrun
    · obtain ⟨spawned, u, -, hdone⟩ := Prog.run_bind_ok hrun
      cases hdone
      cases hevent
    · cases hrun
      cases hevent
  all_goals
    obtain ⟨delta, u, -, hdone⟩ := Prog.run_bind_ok hrun
    cases hdone
    refine absurd hevent (hquiet ?_)
    clear hevent hquiet
  case setPlayerPose => exact quiet_flatMap buildPlayerPose_quiet
  case setSelectedHotbarSlot =>
    exact quiet_flatMap fun _ => by simp [buildSelectedHotbar, CoreEvent.acceptance]
  case setInventorySlot =>
    exact quiet_flatMap fun _ => quiet_cons.mpr ⟨rfl, quiet_map fun _ => rfl⟩
  case setViewDistance => exact quiet_flatMap fun _ => quiet_map fun _ => rfl
  case inventoryClick => exact quiet_flatMap buildInventoryClick_quiet
  case openContainerAt => exact quiet_flatMap buildOpenContainer_quiet
  case openVirtualContainer => exact quiet_flatMap buildOpenContainer_quiet
  case closeContainer => exact quiet_flatMap buildCloseContainer_quiet
  case clearMining => exact quiet_flatMap (buildClearMining_quiet t)
  case beginMining =>
    exact quiet_flatMap fun _ => quiet_append.mpr
      ⟨quiet_flatMap (buildClearMining_quiet t), viewerEvents_quiet t _ rfl⟩
  case advanceMiningStage => exact quiet_flatMap fun _ => viewerEvents_quiet t _ rfl
  case completeMining =>
    refine quiet_flatMap fun completed => ?_
    cases completed with
    | cleared delta => exact buildClearMining_quiet t delta
    | completed block spawnedItem =>
      exact quiet_append.mpr ⟨buildSetBlock_quiet t block,
        quiet_flatMap fun _ => everySessionEvents_quiet t rfl⟩
  case tickActiveContainer => exact quiet_flatMap buildWindowDiff_quiet
  case tickDroppedItem =>
    exact quiet_append.mpr ⟨quiet_flatMap buildWindowDiff_quiet,
      quiet_flatMap fun _ => everySessionEvents_quiet t rfl⟩
  case requestKeepAlive =>
    exact quiet_flatMap fun _ => by simp [buildKeepAlive, CoreEvent.acceptance]
  case acknowledgeKeepAlive => exact quiet_nil
  case setBlock => exact buildSetBlock_quiet t _
  case spawnDroppedItem => exact quiet_flatMap fun _ => everySessionEvents_quiet t rfl
  case disconnectPlayer =>
    refine quiet_flatMap fun _ => quiet_append.mpr ⟨quiet_flatMap (buildClearMining_quiet t), ?_⟩
    simp [CoreEvent.acceptance]

theorem Consistent.playerSnapshot_isSome (h : Consistent s) {entityId : EntityId}
    (honline : s.onlineEntity playerId = some entityId) :
    (s.playerSnapshot playerId).isSome ∧ (s.sessions.playerSessions[playerId]?).isSome := by
  obtain ⟨-, ⟨identity, hidentity, -⟩, htransform, hvitals, hinventory, hhotbar, hsession⟩ :=
    h.indexed playerId entityId honline
  obtain ⟨transform, htransform⟩ := Option.isSome_iff_exists.mp htransform
  obtain ⟨vitals, hvitals⟩ := Option.isSome_iff_exists.mp hvitals
  obtain ⟨inventory, hinventory⟩ := Option.isSome_iff_exists.mp hinventory
  obtain ⟨hotbar, hhotbar⟩ := Option.isSome_iff_exists.mp hhotbar
  obtain ⟨session, hsession, -⟩ := Option.map_eq_some_iff.mp hsession
  constructor
  · unfold ServerCore.playerSnapshot
    rw [show s.entities.playersByPlayerId[playerId]? = some entityId from honline]
    simp [hidentity, htransform, hvitals, hinventory, hhotbar]
  · rw [hsession]
    rfl

/-- A disconnect takes the player out of the index or changes nothing there; it takes out every
    player of a consistent core. -/
theorem disconnectPlayerState_online {delta : Option DisconnectDelta}
    (hrun : (disconnectPlayerState C playerId).run (baseState C) s = .ok (delta, t)) :
    (t.entities.playersByPlayerId = s.entities.playersByPlayerId ∨
      t.entities.playersByPlayerId = s.entities.playersByPlayerId.erase playerId) ∧
    (Consistent s → t.onlineEntity playerId = none) := by
  unfold disconnectPlayerState at hrun
  obtain ⟨cleared, s₁, hclear, h₁⟩ := Prog.run_bind_ok hrun
  have hshape := (stateClearActiveMining_within playerId).sameShape (by decide) hclear
  obtain ⟨persisted, s₂, hpersisted, h₂⟩ := Prog.run_bind_ok h₁
  obtain ⟨rfl, hanswer⟩ := persistedOnline_ok hpersisted
  rcases hanswer with ⟨habsent, rfl⟩ | ⟨snapshot, session, saved, -, hsession, rfl, -⟩
  · cases h₂
    refine ⟨.inl hshape.index, fun h => ?_⟩
    by_contra honline
    obtain ⟨entityId, honline⟩ := Option.ne_none_iff_exists'.mp honline
    obtain ⟨hsnapshot, hsession⟩ := (h.sameShape hshape).playerSnapshot_isSome honline
    rcases habsent with habsent | habsent
    · rw [habsent] at hsnapshot
      cases hsnapshot
    · rw [habsent] at hsession
      cases hsession
  · obtain ⟨removed, s₃, hremove, h₃⟩ := Prog.run_bind_ok h₂
    have hremoved : removed = some session ∧
        s₃.entities.playersByPlayerId = s₂.entities.playersByPlayerId.erase playerId := by
      have hstep : s₂.removeOnlinePlayer playerId = (removed, s₃) := Except.ok.inj hremove
      unfold ServerCore.removeOnlinePlayer at hstep
      rw [hsession] at hstep
      cases hstep
      exact ⟨rfl, rfl⟩
    obtain ⟨rfl, hindex⟩ := hremoved
    dsimp only at h₃
    have hrest : Part.online.Same C s₃ t := by
      have hsave : Within (.savedPlayers :: windowParts) (do
          setSavedPlayer playerId (some saved)
          pure (some (⟨playerId, session.entityId, cleared⟩ : DisconnectDelta))) := by
        refine Within.bind ?_ fun _ => Within.pure _
        exact Within.writes (by decide) fun _ h => h
      refine Within.same (show Within (.savedPlayers :: windowParts) _ from ?_) (by decide) h₃
      split
      · refine ((writebackWorldContainerState_within _).mono (by decide)).bind fun _ => ?_
        exact ((unregisterWorldContainerViewerState_within _ _).mono (by decide)).bind
          fun _ => hsave
      · exact hsave
    have herased : t.entities.playersByPlayerId = s.entities.playersByPlayerId.erase playerId := by
      rw [hrest.1, hindex, hshape.index]
    refine ⟨.inr herased, fun _ => ?_⟩
    unfold ServerCore.onlineEntity
    rw [herased]
    simp

/-! ### Lists of operations -/

/-- Every accepted login among the events is the end of one of the operations. -/
def AcceptedBy (core : ServerCore) (ops : List CoreOp) (events : List TargetedEvent) : Prop :=
  ∀ event ∈ events, ∀ login, event.event.acceptance = some login →
    ∃ connectionId, .finalizeLogin connectionId login.1 ∈ ops ∧
      event.target = .connection connectionId ∧
      (core.sessions.playerSessions[login.1]?).map (·.entityId) = some login.2

theorem AcceptedBy.quiet (h : AcceptedBy core ops events)
    (hops : ∀ connectionId playerId, .finalizeLogin connectionId playerId ∉ ops) :
    Quiet events := by
  intro event hevent
  by_contra haccepted
  obtain ⟨login, hlogin⟩ := Option.ne_none_iff_exists'.mp haccepted
  obtain ⟨connectionId, hop, -⟩ := h event hevent login hlogin
  exact hops _ _ hop

/-- **Operations that let everybody stay** keep the index, and accept the logins that they end. -/
theorem applyOpsFrom_stays (hstays : ∀ op ∈ ops, op.Stays) (hquiet : ∀ op ∈ ops, op.Quiet)
    (h : applyOpsFrom C nowMs players ops builder core = .ok (events, core')) :
    Part.online.Same C core core' ∧ AcceptedBy core ops events := by
  induction ops generalizing builder core core' events with
  | nil =>
    cases h
    exact ⟨Part.Same.refl _ _, fun event hevent => by cases hevent⟩
  | cons op rest ih =>
    obtain ⟨⟨applied, core₁⟩, hop, h₁⟩ := except_bind_eq_ok.mp h
    obtain ⟨⟨later, core₂⟩, hrest, h₂⟩ := except_bind_eq_ok.mp h₁
    cases h₂
    have hsame := (hstays op List.mem_cons_self).same hop
    obtain ⟨hsame', hlater⟩ := ih (fun op' hop' => hstays op' (List.mem_cons_of_mem _ hop'))
      (fun op' hop' => hquiet op' (List.mem_cons_of_mem _ hop')) hrest
    refine ⟨hsame.trans hsame', ?_⟩
    intro event hevent login hlogin
    rcases List.mem_append.mp hevent with hevent | hevent
    · obtain ⟨connectionId, rfl, htarget, hsession⟩ :=
        reduceCoreOp_accepts (hquiet op List.mem_cons_self) hop event
          (filterHiddenEvents_acceptance hevent hlogin) login hlogin
      exact ⟨connectionId, List.mem_cons_self, htarget, hsession⟩
    · obtain ⟨connectionId, hfinalize, htarget, hsession⟩ := hlater event hevent login hlogin
      rw [hsame.2.2.2 login.1] at hsession
      exact ⟨connectionId, List.mem_cons_of_mem _ hfinalize, htarget, hsession⟩

/-- The players of the second core are among those of the first, under the same entities. -/
def FewerOnline (s t : ServerCore) : Prop :=
  ∀ (playerId : PlayerId) (entityId : EntityId),
    t.onlineEntity playerId = some entityId → s.onlineEntity playerId = some entityId

theorem FewerOnline.trans {u : ServerCore} (hst : FewerOnline s t) (htu : FewerOnline t u) :
    FewerOnline s u :=
  fun playerId entityId h => hst playerId entityId (htu playerId entityId h)

theorem FewerOnline.of_index (h : t.entities.playersByPlayerId = s.entities.playersByPlayerId) :
    FewerOnline s t := by
  intro playerId entityId honline
  unfold ServerCore.onlineEntity at honline ⊢
  rw [← h]
  exact honline

theorem disconnectPlayerState_fewer {delta : Option DisconnectDelta}
    (hrun : (disconnectPlayerState C playerId).run (baseState C) s = .ok (delta, t)) :
    FewerOnline s t := by
  rcases (disconnectPlayerState_online hrun).1 with hindex | hindex
  · exact .of_index hindex
  · intro other entityId honline
    unfold ServerCore.onlineEntity at honline ⊢
    rw [hindex, BTreeMap.getElem?_erase_eq] at honline
    split at honline
    · cases honline
    · exact honline

/-- An operation that ends no login, and brings nobody online. -/
def CoreOp.Lowers : CoreOp → Prop
  | .prepareLogin _ _ _ => False
  | .finalizeLogin _ _ => False
  | .emitEvent event => event.event.acceptance = none
  | _ => True

theorem CoreOp.Scheduled.lowers (hop : op.Scheduled) : op.Lowers := by
  cases op
  case prepareLogin => exact hop.elim
  case finalizeLogin => exact hop.elim
  case emitEvent => exact hop.elim
  all_goals trivial

/-- **Operations that bring nobody online** leave fewer players, and accept no login. -/
theorem applyOpsFrom_lowers (hops : ∀ op ∈ ops, op.Lowers)
    (h : applyOpsFrom C nowMs players ops builder core = .ok (events, core')) :
    FewerOnline core core' ∧ Quiet events := by
  induction ops generalizing builder core core' events with
  | nil =>
    cases h
    exact ⟨fun _ _ honline => honline, quiet_nil⟩
  | cons op rest ih =>
    obtain ⟨⟨applied, core₁⟩, hop, h₁⟩ := except_bind_eq_ok.mp h
    obtain ⟨⟨later, core₂⟩, hrest, h₂⟩ := except_bind_eq_ok.mp h₁
    cases h₂
    have hlowers := hops op List.mem_cons_self
    obtain ⟨hfewer, hlater⟩ := ih (fun op' hop' => hops op' (List.mem_cons_of_mem _ hop')) hrest
    have hfirst : FewerOnline core core₁ := by
      by_cases hstays : op.Stays
      · exact .of_index (hstays.same hop).1
      · cases op
        case prepareLogin => exact hlowers.elim
        case disconnectPlayer playerId =>
          obtain ⟨delta, u, hleave, hdone⟩ := Prog.run_bind_ok hop
          cases hdone
          exact disconnectPlayerState_fewer hleave
        all_goals exact absurd trivial hstays
    refine ⟨hfirst.trans hfewer, quiet_append.mpr ⟨?_, hlater⟩⟩
    intro event hevent
    by_contra haccepted
    obtain ⟨login, hlogin⟩ := Option.ne_none_iff_exists'.mp haccepted
    have hquiet : op.Quiet := by
      cases op
      case emitEvent event => exact hlowers
      all_goals trivial
    obtain ⟨connectionId, rfl, -⟩ := reduceCoreOp_accepts hquiet hop event
      (filterHiddenEvents_acceptance hevent hlogin) login hlogin
    exact hlowers

/-! ### Logins -/

theorem CoreOp.Pushable.stays (hop : op.Pushable) : op.Stays := by
  cases op
  case prepareLogin => exact hop.elim
  case disconnectPlayer => exact hop.elim
  all_goals trivial

theorem CoreOp.Pushable.not_finalizeLogin (hop : op.Pushable) (connectionId : ConnectionId)
    (playerId : PlayerId) : op ≠ .finalizeLogin connectionId playerId := by
  rintro rfl
  exact hop

/-- A login comes online under the next entity id, and its acceptance says so. -/
structure Joins (connectionId : ConnectionId) (playerId : PlayerId) (core core' : ServerCore)
    (events : List TargetedEvent) : Prop where
  offline : core.onlineEntity playerId = none
  index : core'.entities.playersByPlayerId =
    core.entities.playersByPlayerId.insert playerId ⟨core.entities.nextEntityId⟩
  accepted : ∀ event ∈ events, ∀ login, event.event.acceptance = some login →
    event.target = .connection connectionId ∧
      login = (playerId, ⟨core.entities.nextEntityId⟩)

theorem spawnOnlinePlayer_next (core : ServerCore) (player : PlayerSnapshot) (center : ChunkPos)
    (nowMs : Nat) :
    let spawned :=
      (core.spawnOnlinePlayer player center nowMs (some ⟨core.entities.nextEntityId⟩)).2
    spawned.entities.playersByPlayerId =
        core.entities.playersByPlayerId.insert player.id ⟨core.entities.nextEntityId⟩ ∧
      (spawned.sessions.playerSessions[player.id]?).map (·.entityId) =
        some ⟨core.entities.nextEntityId⟩ := by
  refine ⟨rfl, ?_⟩
  simp [ServerCore.spawnOnlinePlayer, ServerCore.claimEntityId, newSession]

theorem applyCoreOps_login {player : PlayerSnapshot} (hid : player.id = playerId)
    (hoffline : core.onlineEntity playerId = none) (hops : ∀ op ∈ ops, op.Pushable ∧ op.Quiet)
    (h : applyCoreOps C core (.prepareLogin playerId player ⟨core.entities.nextEntityId⟩ ::
      (ops ++ [.finalizeLogin connectionId playerId])) nowMs = .ok (events, core')) :
    Joins connectionId playerId core core' events := by
  obtain ⟨⟨applied, core₁⟩, hprepare, h₁⟩ := except_bind_eq_ok.mp h
  obtain ⟨⟨later, core₂⟩, hrest, h₂⟩ := except_bind_eq_ok.mp h₁
  have hmem : playerId ∈ finalizedPlayersOf
      (.prepareLogin playerId player ⟨core.entities.nextEntityId⟩ ::
        (ops ++ [.finalizeLogin connectionId playerId])) := by
    simp [finalizedPlayersOf]
  rw [reduce_prepareLogin hmem] at hprepare
  obtain ⟨center, -, hspawned⟩ := except_map_eq_ok.mp hprepare
  obtain ⟨rfl, rfl⟩ := Prod.mk.inj hspawned
  obtain ⟨rfl, rfl⟩ := Prod.mk.inj (Except.ok.inj h₂)
  obtain ⟨hindex, hsession⟩ := spawnOnlinePlayer_next core player center nowMs
  rw [hid] at hindex hsession
  have hstays : ∀ op ∈ ops ++ [.finalizeLogin connectionId playerId], op.Stays ∧ op.Quiet := by
    intro op hop
    rcases List.mem_append.mp hop with hop | hop
    · exact ⟨(hops op hop).1.stays, (hops op hop).2⟩
    · rw [List.mem_singleton.mp hop]
      exact ⟨trivial, rfl⟩
  obtain ⟨hsame, haccepted⟩ := applyOpsFrom_stays (fun op hop => (hstays op hop).1)
    (fun op hop => (hstays op hop).2) hrest
  refine ⟨hoffline, hsame.1.trans hindex, ?_⟩
  intro event hevent login hlogin
  rcases List.mem_append.mp hevent with hevent | hevent
  · exact absurd (filterHiddenEvents_acceptance hevent hlogin) List.not_mem_nil
  · obtain ⟨connectionId', hfinalize, htarget, hentity⟩ := haccepted event hevent login hlogin
    have hends : CoreOp.finalizeLogin connectionId' login.1 =
        .finalizeLogin connectionId playerId := by
      rcases List.mem_append.mp hfinalize with hop | hop
      · exact absurd rfl ((hops _ hop).1.not_finalizeLogin _ _)
      · exact List.mem_singleton.mp hop
    obtain ⟨rfl, hplayer⟩ := CoreOp.finalizeLogin.inj hends
    rw [hplayer] at hentity
    refine ⟨htarget, Prod.ext hplayer ?_⟩
    exact (Option.some.inj (hsession.symm.trans hentity)).symm

theorem loginStart_joins
    (h : core.loginStart C connectionId username playerId nowMs = .ok (events, core')) :
    (core' = core ∧ Quiet events) ∨ Joins connectionId playerId core core' events := by
  unfold ServerCore.loginStart at h
  obtain ⟨⟨rejection, tx⟩, hbegin, h⟩ := except_bind_eq_ok.mp h
  cases rejection with
  | some rejection =>
    cases h
    rcases Tx.beginLogin_ok hbegin with ⟨⟨reason, hreason⟩, -⟩ | ⟨hnone, -⟩
    · cases hreason
      exact .inl ⟨rfl, by simp [Tx.rejectConnection, CoreEvent.acceptance]⟩
    · cases hnone
  | none =>
    obtain ⟨⟨result, tx₁⟩, hfinalize, h⟩ := except_bind_eq_ok.mp h
    cases result with
    | error message => cases h
    | ok done =>
      obtain ⟨player, ops, hjournal, hops, hid, hoffline, -⟩ :=
        loginJournal (R := CoreOp.Quiet) hbegin (.refl _) hfinalize
      have happly := commitTransaction_apply h
      rw [hjournal] at happly
      exact .inr (applyCoreOps_login hid hoffline hops happly)

/-- A batch of a gameplay plugin that tells of no accepted login. -/
def GameplayEffectBatch.Quiet (batch : GameplayEffectBatch) : Prop :=
  ∀ effect ∈ batch.effects, (coreOpFromEffect effect).Quiet

instance (batch : GameplayEffectBatch) : Decidable batch.Quiet :=
  inferInstanceAs (Decidable (∀ effect ∈ batch.effects, (coreOpFromEffect effect).Quiet))

theorem applyCommittedLoginEffects_joins
    (heffects : ∀ effect ∈ effects, (coreOpFromEffect effect).Quiet)
    (h : core.applyCommittedLoginEffects C connectionId username playerId nowMs effects =
      .ok (.applied events, core')) : Joins connectionId playerId core core' events := by
  obtain ⟨tx, tx₁, tx₂, hbegin, hrun, hfinalize, happly⟩ := applyCommittedLoginEffects_applied h
  obtain ⟨player, ops, hjournal, hops, hid, hoffline, -⟩ :=
    loginJournal hbegin (applyEffects_gameplay heffects hrun) hfinalize
  rw [hjournal] at happly
  exact applyCoreOps_login hid hoffline hops happly

/-! ### Calls of the store -/

/-- The effects that a gameplay plugin has answered with. -/
def CoreInvocation.batch : CoreInvocation → Option GameplayEffectBatch
  | .internal => none
  | .login _ answer => answer.toOption
  | .play _ answer => answer.toOption

/-- The answer of a gameplay plugin tells of no accepted login. -/
def CoreInvocation.Quiet (invocation : CoreInvocation) : Prop :=
  ∀ batch ∈ invocation.batch, batch.Quiet

instance (invocation : CoreInvocation) : Decidable invocation.Quiet :=
  inferInstanceAs (Decidable (∀ batch ∈ invocation.batch, batch.Quiet))

/-- The events of a call accept no login. -/
def QuietOutcome (outcome : Except String CoreCommandOutcome) : Prop :=
  ∀ events, outcome = .ok (.events events) → Quiet events

namespace CoreStore

variable {store store' : CoreStore} {nowMs : Nat} {outcome : Except String CoreCommandOutcome}

theorem committed_outcome {marked : Bool} (h : CoreMutation.GoesFrom store.active mutation)
    (hdone : (pure (store.committed (mutation.prepare events marked)) : Panics _) =
      .ok (outcome, store')) : outcome = .ok (.events events) := by
  have hbase : ¬ store.active.revision ≠ (mutation.prepare events marked).baseRevision := by
    intro hne
    exact hne h.revision.symm
  rw [show outcome = (store.committed (mutation.prepare events marked)).1 from
    (congrArg Prod.fst (Except.ok.inj hdone)).symm]
  unfold committed commitLocked
  rw [if_neg hbase]
  rfl

theorem applyInternal_ok (h : store.applyInternal C command nowMs = .ok (outcome, store')) :
    ∃ events, store.active.state.applyCommand C command nowMs =
        .ok (events, store'.active.state) ∧ outcome = .ok (.events events) := by
  obtain ⟨⟨events, mutation⟩, happly, hdone⟩ := except_bind_eq_ok.mp h
  obtain ⟨⟨events', state⟩, hstate, hrecorded⟩ := except_bind_eq_ok.mp happly
  cases hrecorded
  have hfrom : CoreMutation.GoesFrom store.active
      ((CoreMutation.fromVersion store.active).recorded state (.command command nowMs)) :=
    (CoreMutation.GoesFrom.fromVersion _).recorded _ _
  refine ⟨events, ?_, committed_outcome hfrom hdone⟩
  rw [committed_state hfrom hdone]
  exact hstate

/-- **A login** is refused and changes nothing, or brings the player online. -/
theorem applyCommand_loginStart (hinvocation : invocation.Quiet)
    (h : store.applyCommand C (.loginStart connectionId username playerId) invocation nowMs =
      .ok (outcome, store')) : (store'.active.state = store.active.state ∧ QuietOutcome outcome) ∨
      ∃ events, outcome = .ok (.events events) ∧
        Joins connectionId playerId store.active.state store'.active.state events := by
  have hinternal : store.applyInternal C (.loginStart connectionId username playerId) nowMs =
      .ok (outcome, store') →
      (store'.active.state = store.active.state ∧ QuietOutcome outcome) ∨
      ∃ events, outcome = .ok (.events events) ∧
        Joins connectionId playerId store.active.state store'.active.state events := by
    intro h
    obtain ⟨events, happly, rfl⟩ := applyInternal_ok h
    rcases loginStart_joins happly with ⟨hstate, hquiet⟩ | hjoins
    · refine .inl ⟨hstate, ?_⟩
      rintro events' ⟨⟩
      exact hquiet
    · exact .inr ⟨events, rfl, hjoins⟩
  cases invocation with
  | internal => exact hinternal h
  | play player answer => exact hinternal h
  | login previewed answer =>
    obtain ⟨⟨rejection, preview⟩, hbegin, h⟩ := except_bind_eq_ok.mp h
    cases rejection with
    | some rejection =>
      cases h
      refine .inl ⟨rfl, ?_⟩
      rintro events ⟨⟩
      rcases Tx.beginLogin_ok hbegin with ⟨⟨reason, hreason⟩, -⟩ | ⟨hnone, -⟩
      · cases hreason
        simp [Tx.rejectConnection, CoreEvent.acceptance]
      · cases hnone
    | none =>
      cases answer with
      | error message =>
        cases h
        exact .inl ⟨rfl, fun events hevents => by cases hevents⟩
      | ok batch =>
        obtain ⟨⟨result, mutation⟩, heffects, h⟩ := except_bind_eq_ok.mp h
        cases result with
        | conflict =>
          cases h
          exact .inl ⟨rfl, fun events hevents => by cases hevents⟩
        | applied events =>
          obtain ⟨⟨result, state⟩, hlogin, hrecorded⟩ := except_bind_eq_ok.mp heffects
          rcases validateAndApplyLoginEffects_cases hlogin with ⟨rfl, -⟩ | ⟨events', rfl, happly⟩
          · cases hrecorded
          · cases hrecorded
            have hfrom : CoreMutation.GoesFrom store.active
                ((CoreMutation.fromVersion store.active).recorded state
                  (.loginEffects connectionId username playerId batch.nowMs batch.effects)) :=
              (CoreMutation.GoesFrom.fromVersion _).recorded _ _
            refine .inr ⟨events, committed_outcome hfrom h, ?_⟩
            rw [committed_state hfrom h]
            exact applyCommittedLoginEffects_joins (hinvocation batch rfl) happly

theorem applyCommittedGameplayEffects_stays
    (heffects : ∀ effect ∈ effects, (coreOpFromEffect effect).Quiet)
    (h : core.applyCommittedGameplayEffects C nowMs effects = .ok (events, core')) :
    core'.entities.playersByPlayerId = core.entities.playersByPlayerId ∧ Quiet events := by
  have hpushable : ∀ op ∈ effects.map coreOpFromEffect, op.Pushable ∧ op.Quiet := by
    intro op hop
    obtain ⟨effect, heffect, rfl⟩ := List.mem_map.mp hop
    exact ⟨coreOpFromEffect_pushable effect, heffects effect heffect⟩
  obtain ⟨hsame, haccepted⟩ := applyOpsFrom_stays (fun op hop => (hpushable op hop).1.stays)
    (fun op hop => (hpushable op hop).2) h
  exact ⟨hsame.1, haccepted.quiet fun connectionId playerId hop =>
    (hpushable _ hop).1.not_finalizeLogin connectionId playerId rfl⟩

theorem applyBuiltinGameplayCommand_stays {command : GameplayCommand}
    (h : core.applyBuiltinGameplayCommand C command nowMs = .ok (events, core')) :
    core'.entities.playersByPlayerId = core.entities.playersByPlayerId ∧ Quiet events := by
  unfold ServerCore.applyBuiltinGameplayCommand at h
  obtain ⟨⟨_, tx⟩, hcommand, h⟩ := except_bind_eq_ok.mp h
  obtain ⟨ops, hjournal, hops⟩ :=
    (applyBuiltinGameplayCommand_gameplay hcommand).journal_where (R := CoreOp.Quiet) (by
      intro tx op hop
      cases op
      case emitEvent event =>
        obtain ⟨-, htold⟩ := hop
        cases hevent : event.event
        case loginAccepted =>
          rw [hevent] at htold
          exact htold.elim
        all_goals simp [CoreOp.Quiet, CoreOp.told, hevent, CoreEvent.acceptance]
      all_goals trivial)
  rw [show (GameplayTransaction.new core nowMs).journal = [] from rfl, List.nil_append] at hjournal
  have happly := commitTransaction_apply h
  rw [hjournal] at happly
  obtain ⟨hsame, haccepted⟩ := applyOpsFrom_stays (fun op hop => (hops op hop).1.stays)
    (fun op hop => (hops op hop).2) happly
  exact ⟨hsame.1, haccepted.quiet fun connectionId playerId hop =>
    (hops _ hop).1.not_finalizeLogin connectionId playerId rfl⟩

theorem applyCoreOps_single (hstays : op.Stays) (hlowers : op.Lowers)
    (h : applyCoreOps C core [op] nowMs = .ok (events, core')) :
    core'.entities.playersByPlayerId = core.entities.playersByPlayerId ∧ Quiet events := by
  obtain ⟨-, hquiet⟩ := applyOpsFrom_lowers (by simpa using hlowers) h
  have hreduce := applyCoreOps_reduce h
  obtain ⟨⟨applied, core₁⟩, hop, hdone⟩ := except_bind_eq_ok.mp hreduce
  cases hdone
  exact ⟨(hstays.same hop).1, hquiet⟩

/-- The commands of a client in play. -/
def fromPlay : CoreCommand → Bool
  | .loginStart _ _ _ => false
  | .disconnect _ => false
  | _ => true

/-- **A command in play** leaves the online players as they are. -/
theorem applyCommand_fromPlay (hcommand : fromPlay command = true) (hinvocation : invocation.Quiet)
    (h : store.applyCommand C command invocation nowMs = .ok (outcome, store')) :
    store'.active.state.entities.playersByPlayerId =
        store.active.state.entities.playersByPlayerId ∧ QuietOutcome outcome := by
  have hinternal : store.applyInternal C command nowMs = .ok (outcome, store') →
      store'.active.state.entities.playersByPlayerId =
        store.active.state.entities.playersByPlayerId ∧ QuietOutcome outcome := by
    intro h
    obtain ⟨events, happly, rfl⟩ := applyInternal_ok h
    have hstays : store'.active.state.entities.playersByPlayerId =
        store.active.state.entities.playersByPlayerId ∧ Quiet events := by
      cases command
      case loginStart => cases hcommand
      case disconnect => cases hcommand
      case gameplay => exact applyBuiltinGameplayCommand_stays happly
      all_goals refine applyCoreOps_single ?_ ?_ happly <;> trivial
    refine ⟨hstays.1, ?_⟩
    rintro events' ⟨⟩
    exact hstays.2
  unfold applyCommand at h
  split at h
  · cases hcommand
  · next playerId answer =>
    unfold applyGameplay at h
    split at h
    · cases h
      exact ⟨rfl, fun events hevents => by cases hevents⟩
    · cases answer with
      | error message =>
        cases h
        exact ⟨rfl, fun events hevents => by cases hevents⟩
      | ok batch =>
        obtain ⟨⟨result, mutation⟩, heffects, h⟩ := except_bind_eq_ok.mp h
        have hfrom := (CoreMutation.GoesFrom.fromVersion store.active).effects heffects
        cases result with
        | conflict =>
          cases h
          exact ⟨rfl, fun events hevents => by cases hevents⟩
        | applied events =>
          obtain ⟨⟨result, state⟩, hrun, hrecorded⟩ := except_bind_eq_ok.mp heffects
          rcases validateAndApplyGameplayEffects_cases hrun with ⟨rfl, -⟩ | ⟨events', rfl, happly⟩
          · cases hrecorded
          · obtain ⟨hindex, hquiet⟩ :=
              applyCommittedGameplayEffects_stays (hinvocation batch rfl) happly
            have hstate : mutation.state = state ∧ events = events' := by
              cases hrecorded
              constructor
              · split <;> rfl
              · rfl
            rw [committed_state hfrom h, hstate.1, committed_outcome hfrom h]
            refine ⟨hindex, ?_⟩
            rintro events'' ⟨⟩
            rw [hstate.2]
            exact hquiet
  · exact hinternal h

/-- **A disconnect** takes nobody else out; it takes the player out of a consistent core. -/
theorem applyCommand_disconnect
    (h : store.applyCommand C (.disconnect playerId) invocation nowMs = .ok (outcome, store')) :
    (store'.active.state.entities.playersByPlayerId =
        store.active.state.entities.playersByPlayerId ∨
      store'.active.state.entities.playersByPlayerId =
        store.active.state.entities.playersByPlayerId.erase playerId) ∧
    QuietOutcome outcome ∧
    (Consistent store.active.state → store'.active.state.onlineEntity playerId = none) := by
  have hinternal : store.applyInternal C (.disconnect playerId) nowMs = .ok (outcome, store') := by
    cases invocation <;> exact h
  obtain ⟨events, happly, rfl⟩ := applyInternal_ok hinternal
  obtain ⟨-, hquiet⟩ := applyOpsFrom_lowers (by simp [CoreOp.Lowers]) happly
  have hreduce := applyCoreOps_reduce happly
  obtain ⟨⟨applied, core₁⟩, hop, hdone⟩ := except_bind_eq_ok.mp hreduce
  cases hdone
  obtain ⟨delta, u, hleave, happlied⟩ := Prog.run_bind_ok hop
  cases happlied
  obtain ⟨hindex, hgone⟩ := disconnectPlayerState_online hleave
  refine ⟨hindex, ?_, hgone⟩
  rintro events' ⟨⟩
  exact hquiet

theorem keepaliveOp_disconnects {keepaliveTimeoutMs : Nat} {other : PlayerId}
    (h : (keepaliveOp nowMs keepaliveTimeoutMs playerId).run (baseState C) core =
      .ok (some (.disconnectPlayer other), core')) :
    ∃ session, core.sessions.playerSessions[other]? = some session ∧
      session.overdue nowMs keepaliveTimeoutMs = true := by
  obtain ⟨found, s₁, hfound, h₁⟩ := Prog.run_bind_ok h
  simp only [playerSession_run, Except.ok.injEq, Prod.mk.injEq] at hfound
  obtain ⟨hsession, rfl⟩ := hfound
  cases found with
  | none => cases h₁
  | some session =>
    dsimp only at h₁
    split at h₁
    · next hoverdue =>
      cases h₁
      exact ⟨session, hsession, hoverdue⟩
    · split at h₁
      · cases h₁
      · cases h₁

theorem activeContainerOp_stays (playerId : PlayerId) :
    Prog.Triple (baseState C) (fun _ => True) (activeContainerOp playerId)
      fun found _ => ∀ op, found = some op → op.Stays := by
  intro s _ found t hrun
  cases hrun
  intro op hop
  split at hop
  · cases hop
    trivial
  · cases hop

theorem activeMiningOp_stays (nowMs : Nat) (entityId : EntityId) :
    Prog.Triple (baseState C) (fun _ => True) (activeMiningOp nowMs entityId)
      fun found _ => ∀ op, found = some op → op.Stays := by
  unfold activeMiningOp
  refine Prog.triple_bind (R := fun _ _ => True) (fun _ _ _ _ _ => trivial) fun mining => ?_
  split
  · refine Prog.triple_bind (R := fun _ _ => True) (fun _ _ _ _ _ => trivial) fun identity => ?_
    split
    · dsimp only
      repeat' split
      all_goals exact Prog.triple_pure fun _ _ op hop => by cases hop <;> trivial
    · exact Prog.triple_pure fun _ _ op hop => by cases hop
  · exact Prog.triple_pure fun _ _ op hop => by cases hop

/-! The scheduler only reads. -/

theorem activeContainerOp_within (playerId : PlayerId) : Within [] (activeContainerOp playerId) :=
  Within.bind (Within.reads fun _ h => h) fun _ => Within.pure _

theorem activeMiningOp_within (nowMs : Nat) (entityId : EntityId) :
    Within [] (activeMiningOp nowMs entityId) := by
  refine Within.bind (Within.reads fun _ h => h) fun mining => ?_
  split
  · refine Within.bind (Within.reads fun _ h => h) fun identity => ?_
    split
    · dsimp only
      repeat' split
      all_goals exact Within.pure _
    · exact Within.pure _
  · exact Within.pure _

theorem keepaliveOp_within (nowMs keepaliveTimeoutMs : Nat) (playerId : PlayerId) :
    Within [] (keepaliveOp nowMs keepaliveTimeoutMs playerId) := by
  refine Within.bind (Within.reads fun _ h => h) fun session => ?_
  repeat' split
  all_goals exact Within.pure _

/-- **A tick disconnects only players whose keepalive is overdue.** -/
theorem schedulerTick_disconnects
    (h : core.ask C (schedulerTick nowMs core.sessions.keepaliveTimeoutMs) = .ok ops)
    (playerId : PlayerId) (hop : .disconnectPlayer playerId ∈ ops) :
    ∃ session, core.sessions.playerSessions[playerId]? = some session ∧
      session.overdue nowMs core.sessions.keepaliveTimeoutMs = true := by
  obtain ⟨⟨ops', core'⟩, hrun, rfl⟩ := except_map_eq_ok.mp h
  unfold schedulerTick at hrun
  obtain ⟨players, s₁, hplayers, h₁⟩ := Prog.run_bind_ok hrun
  obtain ⟨containerOps, s₂, hcontainers, h₂⟩ := Prog.run_bind_ok h₁
  obtain ⟨items, s₃, hitems, h₃⟩ := Prog.run_bind_ok h₂
  obtain ⟨miningOps, s₄, hmining, h₄⟩ := Prog.run_bind_ok h₃
  obtain ⟨keepaliveOps, s₅, hkeepalive, h₅⟩ := Prog.run_bind_ok h₄
  cases h₅
  cases hplayers
  cases hitems
  have hsame₂ : Part.sessionRest.Same C core s₂ :=
    Within.same (Within.filterMap activeContainerOp_within _) List.not_mem_nil hcontainers
  have hsame₄ : Part.sessionRest.Same C s₂ s₄ := by
    refine Within.same (show Within [.entityListing] (collectActiveMiningOps nowMs) from ?_)
      (by decide) hmining
    refine Within.bind (Within.writes List.mem_cons_self fun _ h => h) fun entityIds => ?_
    exact Within.filterMap
      (fun entityId => (activeMiningOp_within nowMs entityId).mono (List.nil_subset _)) _
  simp only [List.mem_append] at hop
  rcases hop with ((hop | hop) | hop) | hop
  · exact (Prog.triple_filterMap activeContainerOp_stays _ _ trivial _ _ hcontainers _ hop).elim
  · obtain ⟨entityId, -, hop⟩ := List.mem_map.mp hop
    cases hop
  · obtain ⟨entityIds, s₆, -, hmining⟩ := Prog.run_bind_ok hmining
    exact (Prog.triple_filterMap (activeMiningOp_stays nowMs) _ _ trivial _ _ hmining _ hop).elim
  · obtain ⟨playerIds, s₇, hids, hkeepalive⟩ := Prog.run_bind_ok hkeepalive
    cases hids
    have hoverdue := Prog.triple_filterMap_of (h := baseState C)
      (I := Part.sessionRest.Same C core)
      (P := fun op => ∀ playerId, op = .disconnectPlayer playerId →
        ∃ session, core.sessions.playerSessions[playerId]? = some session ∧
          session.overdue nowMs core.sessions.keepaliveTimeoutMs = true)
      (f := keepaliveOp nowMs core.sessions.keepaliveTimeoutMs) (fun other => by
        intro s hs found t hfound
        refine ⟨hs.trans (Within.same (keepaliveOp_within _ _ other)
          List.not_mem_nil hfound), ?_⟩
        rintro op rfl playerId rfl
        obtain ⟨session, hsession, hlate⟩ := keepaliveOp_disconnects hfound
        have hmap := hs playerId
        rw [hsession] at hmap
        obtain ⟨before, hbefore, hrest⟩ := Option.map_eq_some_iff.mp hmap.symm
        simp only [Prod.mk.injEq] at hrest
        refine ⟨before, hbefore, ?_⟩
        unfold PlayerSessionState.overdue at hlate ⊢
        rw [hrest.2.2.2.1]
        exact hlate)
      _ _ (hsame₂.trans hsame₄) _ _ hkeepalive
    exact hoverdue.2 _ hop playerId rfl

/-- **A tick** brings nobody online, and takes nobody offline unless a keepalive is overdue. -/
theorem applyBuiltinTick_online (h : store.applyBuiltinTick C nowMs = .ok (outcome, store')) :
    FewerOnline store.active.state store'.active.state ∧ QuietOutcome outcome ∧
      (store.active.state.Punctual nowMs →
        store'.active.state.entities.playersByPlayerId =
          store.active.state.entities.playersByPlayerId) := by
  obtain ⟨⟨events, mutation⟩, htick, hdone⟩ := except_bind_eq_ok.mp h
  obtain ⟨⟨events', state⟩, hstate, hrecorded⟩ := except_bind_eq_ok.mp htick
  cases hrecorded
  have hfrom : CoreMutation.GoesFrom store.active
      ((CoreMutation.fromVersion store.active).recorded state (.builtinTick nowMs)) :=
    (CoreMutation.GoesFrom.fromVersion _).recorded _ _
  rw [committed_state hfrom hdone, committed_outcome hfrom hdone]
  obtain ⟨ops, hops, happly⟩ := except_bind_eq_ok.mp hstate
  have hscheduled := schedulerTick_scheduled hops
  obtain ⟨hfewer, hquiet⟩ :=
    applyOpsFrom_lowers (fun op hop => CoreOp.Scheduled.lowers (hscheduled op hop)) happly
  refine ⟨hfewer, ?_, fun hpunctual => ?_⟩
  · rintro events'' ⟨⟩
    exact hquiet
  · have hstays : ∀ op ∈ ops, op.Stays := by
      intro op hop
      cases op
      case prepareLogin => exact (hscheduled _ hop).elim
      case disconnectPlayer playerId =>
        obtain ⟨session, hsession, hlate⟩ := schedulerTick_disconnects hops playerId hop
        have hnot := hpunctual (playerId, session) (BTreeMap.mem_toList.mpr hsession)
        cases hnot.symm.trans hlate
      all_goals trivial
    have hquietOps : ∀ op ∈ ops, op.Quiet := by
      intro op hop
      cases op
      case emitEvent => exact (hscheduled _ hop).elim
      all_goals trivial
    exact (applyOpsFrom_stays hstays hquietOps happly).1.1

/-- **The ticks of the gameplay plugins** leave the online players as they are. -/
theorem applyTickBatches_online {mutation' : CoreMutation}
    (hprepared : ∀ prepared ∈ preparedTicks, prepared.batch.Quiet)
    (h : applyTickBatches C preparedTicks mutation = .ok (events, mutation')) :
    mutation'.state.entities.playersByPlayerId = mutation.state.entities.playersByPlayerId ∧
      Quiet events := by
  induction preparedTicks generalizing mutation mutation' events with
  | nil =>
    cases h
    exact ⟨rfl, quiet_nil⟩
  | cons prepared rest ih =>
    obtain ⟨⟨result, mutation₁⟩, heffects, h₁⟩ := except_bind_eq_ok.mp h
    obtain ⟨⟨later, mutation₂⟩, hrest, h₂⟩ := except_bind_eq_ok.mp h₁
    obtain ⟨hindex, hlater⟩ := ih (fun prepared' hprepared' =>
      hprepared prepared' (List.mem_cons_of_mem _ hprepared')) hrest
    obtain ⟨⟨result', state⟩, hrun, hdone⟩ := except_bind_eq_ok.mp heffects
    rcases validateAndApplyGameplayEffects_cases hrun with ⟨rfl, rfl⟩ | ⟨events', rfl, happly⟩
    · cases hdone
      cases h₂
      exact ⟨hindex, hlater⟩
    · obtain ⟨hstate, hquiet⟩ := applyCommittedGameplayEffects_stays
        (hprepared prepared List.mem_cons_self) happly
      cases hdone
      cases h₂
      refine ⟨hindex.trans ?_, quiet_append.mpr ⟨hquiet, hlater⟩⟩
      split
      · exact hstate
      · exact hstate

theorem commitGameplayTicks_online (hprepared : ∀ prepared ∈ preparedTicks, prepared.batch.Quiet)
    (h : store.commitGameplayTicks C preparedTicks = .ok (outcome, store')) :
    store'.active.state.entities.playersByPlayerId =
        store.active.state.entities.playersByPlayerId ∧ QuietOutcome outcome := by
  unfold commitGameplayTicks at h
  split at h
  · cases h
    refine ⟨rfl, ?_⟩
    rintro events ⟨⟩
    exact quiet_nil
  · obtain ⟨⟨events, mutation⟩, hbatches, hdone⟩ := except_bind_eq_ok.mp h
    have hfrom := applyTickBatches_goesFrom (CoreMutation.GoesFrom.fromVersion _) hbatches
    rw [committed_state hfrom hdone, committed_outcome hfrom hdone]
    obtain ⟨hindex, hquiet⟩ := applyTickBatches_online hprepared hbatches
    refine ⟨hindex, ?_⟩
    rintro events' ⟨⟩
    exact hquiet

/-! ### What the calls keep -/

theorem effects_runs
    (h : core.applyCommittedGameplayEffects C nowMs effects = .ok (events, core')) :
    RunsOps C core core' := by
  refine .applied h fun op hop => ?_
  obtain ⟨effect, -, rfl⟩ := List.mem_map.mp hop
  exact pushable_no_login (coreOpFromEffect_pushable effect)

theorem applyCommand_runs
    (h : store.applyCommand C command invocation nowMs = .ok (outcome, store')) :
    RunsOps C store.active.state store'.active.state := by
  unfold applyCommand at h
  split at h
  · next connectionId username playerId previewed answer =>
    obtain ⟨⟨rejection, preview⟩, -, h⟩ := except_bind_eq_ok.mp h
    cases rejection with
    | some rejection =>
      cases h
      exact .refl _
    | none =>
      cases answer with
      | error message =>
        cases h
        exact .refl _
      | ok batch =>
        obtain ⟨⟨result, mutation⟩, heffects, h⟩ := except_bind_eq_ok.mp h
        cases result with
        | conflict =>
          cases h
          exact .refl _
        | applied events =>
          obtain ⟨⟨result, state⟩, hlogin, hrecorded⟩ := except_bind_eq_ok.mp heffects
          rcases validateAndApplyLoginEffects_cases hlogin with ⟨rfl, -⟩ | ⟨events', rfl, happly⟩
          · cases hrecorded
          · cases hrecorded
            rw [committed_state ((CoreMutation.GoesFrom.fromVersion _).recorded _ _) h]
            exact applyCommittedLoginEffects_runs happly
  · next command playerId answer =>
    unfold applyGameplay at h
    split at h
    · cases h
      exact .refl _
    · cases answer with
      | error message =>
        cases h
        exact .refl _
      | ok batch =>
        obtain ⟨⟨result, mutation⟩, heffects, h⟩ := except_bind_eq_ok.mp h
        have hfrom := (CoreMutation.GoesFrom.fromVersion store.active).effects heffects
        cases result with
        | conflict =>
          cases h
          exact .refl _
        | applied events =>
          obtain ⟨⟨result, state⟩, hrun, hrecorded⟩ := except_bind_eq_ok.mp heffects
          rcases validateAndApplyGameplayEffects_cases hrun with ⟨rfl, -⟩ | ⟨events', rfl, happly⟩
          · cases hrecorded
          · have hstate : mutation.state = state := by
              cases hrecorded
              split <;> rfl
            rw [committed_state hfrom h, hstate]
            exact effects_runs happly
  · obtain ⟨events, happly, -⟩ := applyInternal_ok h
    exact RevyCraft.applyCommand_runs happly

section Stable

variable {I : ServerCore → Prop} (hI : Stable C I)

include hI

theorem stable_applyCommand
    (h : store.applyCommand C command invocation nowMs = .ok (outcome, store'))
    (hstate : I store.active.state) : I store'.active.state :=
  hI.runsOps (applyCommand_runs h) hstate

theorem stable_applyBuiltinTick (h : store.applyBuiltinTick C nowMs = .ok (outcome, store'))
    (hstate : I store.active.state) : I store'.active.state := by
  obtain ⟨events, core, htick, hcore⟩ := applyBuiltinTick_state h
  rw [hcore]
  exact hI.runsOps (tick_runs htick) hstate

theorem stable_applyTickBatches {mutation' : CoreMutation}
    (h : applyTickBatches C preparedTicks mutation = .ok (events, mutation'))
    (hstate : I mutation.state) : I mutation'.state := by
  induction preparedTicks generalizing mutation mutation' events with
  | nil =>
    cases h
    exact hstate
  | cons prepared rest ih =>
    obtain ⟨⟨result, mutation₁⟩, heffects, h₁⟩ := except_bind_eq_ok.mp h
    obtain ⟨⟨later, mutation₂⟩, hrest, h₂⟩ := except_bind_eq_ok.mp h₁
    have hfirst : I mutation₁.state := by
      obtain ⟨⟨result', state⟩, hrun, hdone⟩ := except_bind_eq_ok.mp heffects
      rcases validateAndApplyGameplayEffects_cases hrun with ⟨rfl, rfl⟩ | ⟨events', rfl, happly⟩
      · cases hdone
        exact hstate
      · have hrecorded : mutation₁.state = state := by
          cases hdone
          split <;> rfl
        rw [hrecorded]
        exact hI.runsOps (effects_runs happly) hstate
    have hlast : mutation'.state = mutation₂.state := by
      cases result <;> cases h₂ <;> rfl
    rw [hlast]
    exact ih hrest hfirst

theorem stable_commitGameplayTicks
    (h : store.commitGameplayTicks C preparedTicks = .ok (outcome, store'))
    (hstate : I store.active.state) : I store'.active.state := by
  rcases commitGameplayTicks_state h with rfl | ⟨events, mutation, hbatches, hmutation⟩
  · exact hstate
  · rw [hmutation]
    exact stable_applyTickBatches hI hbatches hstate

end Stable

end CoreStore

end RevyCraft
