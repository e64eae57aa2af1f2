/-
  RevyCraft/LoginAdmission.lean
  =============================
  **Logins that run beside everything else** (`CoreStore::apply_command` with a
  `LoginStart`).

  A login previews itself on the version that is published when it starts, waits
  for its gameplay profile without the lock, and is admitted a second time on
  the version that is published when it has the lock.  In between, other logins,
  commands, ticks and changes of the settings publish versions of their own.

    * `Admission`: the store and the logins that wait.
    * `ServerCore.SessionsIndexed`: who has a session is who is in the index.
    * `login_admission`: what holds after every step of every interleaving.
-/
import RevyCraft.OnlinePlayers
import RevyCraft.ContainerViewers

namespace RevyCraft

open Std
open RevyCraft.Core

variable (C : ContentBehavior)

/-! ### Interleavings -/

/-- A login that was previewed on a published version and waits for its gameplay profile. -/
structure WaitingLogin where
  connectionId : ConnectionId
  username : String
  playerId : PlayerId
  previewed : ServerCore
  nowMs : Nat

structure Admission where
  store : CoreStore
  waiting : List WaitingLogin

inductive AdmissionStep where
  /-- A `LoginStart` reads the published version and previews the login on it. -/
  | loginStarts (connectionId : ConnectionId) (username : String) (playerId : PlayerId)
      (nowMs : Nat)
  /-- The gameplay profile answers one of the waiting logins, which takes the lock. -/
  | loginAnswered (index : Nat) (answer : Except String GameplayEffectBatch)
  /-- A command without a gameplay profile, such as a disconnect. -/
  | applies (command : CoreCommand) (nowMs : Nat)
  | plays (command : GameplayCommand) (playerId : PlayerId)
      (answer : Except String GameplayEffectBatch) (nowMs : Nat)
  | builtinTick (nowMs : Nat)
  | gameplayTicks (preparedTicks : List PreparedGameplayTick)
  | limits (maxPlayers : Nat)
  /-- A reload that publishes the version with other settings. -/
  | reconfigures (config : CoreConfig)

inductive AdmissionAnswer where
  | waits
  | returns (outcome : Except String CoreCommandOutcome)
  | panics (message : String)

def AdmissionAnswer.isEvents : AdmissionAnswer → Bool
  | .returns (.ok (.events _)) => true
  | _ => false

namespace Admission

def new (core : ServerCore) : Admission := ⟨.new core, []⟩

/-- What a call leaves; one that panics has published nothing. -/
def after (a : Admission) (waiting : List WaitingLogin)
    (result : Panics (Except String CoreCommandOutcome × CoreStore)) :
    AdmissionAnswer × Admission :=
  match result with
  | .ok (outcome, store) => (.returns outcome, ⟨store, waiting⟩)
  | .error message => (.panics message, ⟨a.store, waiting⟩)

/-- The first half of a login, on the published version. -/
def start (a : Admission) (connectionId : ConnectionId) (username : String) (playerId : PlayerId)
    (nowMs : Nat) : AdmissionAnswer × Admission :=
  match (Tx.beginLogin C connectionId username playerId).run
      (.new a.store.active.state nowMs) with
  | .error message => (.panics message, a)
  | .ok (some rejection, _) => (.returns (.ok (.events rejection)), a)
  | .ok (none, _) =>
    (.waits, { a with
      waiting := a.waiting ++ [⟨connectionId, username, playerId, a.store.active.state, nowMs⟩] })

def step (a : Admission) : AdmissionStep → AdmissionAnswer × Admission
  | .loginStarts connectionId username playerId nowMs =>
    a.start C connectionId username playerId nowMs
  | .loginAnswered index answer =>
    match a.waiting[index]? with
    | none => (.waits, a)
    | some login =>
      a.after (a.waiting.eraseIdx index) (a.store.applyCommand C
        (.loginStart login.connectionId login.username login.playerId)
        (.login login.previewed answer) login.nowMs)
  | .applies command nowMs => a.after a.waiting (a.store.applyCommand C command .internal nowMs)
  | .plays command playerId answer nowMs =>
    a.after a.waiting (a.store.applyCommand C (.gameplay command) (.play playerId answer) nowMs)
  | .builtinTick nowMs => a.after a.waiting (a.store.applyBuiltinTick C nowMs)
  | .gameplayTicks preparedTicks =>
    a.after a.waiting (a.store.commitGameplayTicks C preparedTicks)
  | .limits maxPlayers =>
    a.after a.waiting (.ok (a.store.committed
      (((CoreMutation.fromVersion a.store.active).setMaxPlayers maxPlayers).prepare [] true)))
  | .reconfigures config =>
    a.after a.waiting (.ok (a.store.committed
      (((CoreMutation.fromVersion a.store.active).reconfigure config).prepare [] true)))

def run (a : Admission) (steps : List AdmissionStep) : Admission :=
  steps.foldl (fun a step => (a.step C step).2) a

end Admission

/-! ### Who is online -/

namespace ServerCore

/-- The players that have a session, as `player_ids` lists them. -/
def onlineIds (core : ServerCore) : List PlayerId := core.sessions.playerSessions.keys

/-- Every player has at most one session, and has one when the index has an entity for it. -/
def OneSessionEach (core : ServerCore) : Prop :=
  core.onlineIds.Nodup ∧
    ∀ playerId, playerId ∈ core.onlineIds ↔ (core.onlineEntity playerId).isSome

/-- The sessions of two players are of two entities. -/
def DistinctEntities (core : ServerCore) : Prop :=
  ∀ (first second : PlayerId) (session other : PlayerSessionState),
    core.sessions.playerSessions[first]? = some session →
    core.sessions.playerSessions[second]? = some other →
    session.entityId = other.entityId → first = second

def SessionsIndexed (core : ServerCore) : Prop :=
  ∀ playerId : PlayerId, core.sessions.playerSessions[playerId]?.isSome =
    core.entities.playersByPlayerId[playerId]?.isSome

/-- A login that was admitted: the player was offline, and there was a place left. -/
structure Admits (core core' : ServerCore) (playerId : PlayerId) : Prop where
  offline : playerId ∉ core.onlineIds
  online : ∀ other, other ∈ core'.onlineIds ↔ other = playerId ∨ other ∈ core.onlineIds
  count : core'.onlineIds.length = core.onlineIds.length + 1
  limit : core'.onlineIds.length ≤ core.world.config.maxPlayers

end ServerCore

variable {C}

section Sessions

variable {s t : ServerCore} {playerId : PlayerId}

theorem mem_onlineIds : playerId ∈ s.onlineIds ↔ s.sessions.playerSessions[playerId]?.isSome := by
  unfold ServerCore.onlineIds
  rw [ExtTreeMap.mem_keys, ExtTreeMap.mem_iff_isSome_getElem?]

theorem ServerCore.SessionsIndexed.oneSessionEach (h : s.SessionsIndexed) : s.OneSessionEach := by
  refine ⟨ExtTreeMap.nodup_keys, fun playerId => ?_⟩
  rw [mem_onlineIds, h playerId]
  rfl

theorem Consistent.distinctEntities (h : Consistent s) : s.DistinctEntities := by
  intro first second session other hfirst hsecond hentity
  obtain ⟨-, ⟨identity, hidentity, hself⟩, -⟩ :=
    h.indexed first session.entityId (h.connected first session hfirst)
  obtain ⟨-, ⟨identity', hidentity', hself'⟩, -⟩ :=
    h.indexed second other.entityId (h.connected second other hsecond)
  rw [← hentity, hidentity] at hidentity'
  cases hidentity'
  exact hself.symm.trans hself'

theorem ServerCore.SessionsIndexed.same (h : s.SessionsIndexed)
    (hsame : Part.online.Same C s t) : t.SessionsIndexed := by
  intro playerId
  have hsessions := congrArg Option.isSome (hsame.2.2.2 playerId)
  rw [Option.isSome_map, Option.isSome_map] at hsessions
  rw [hsessions, hsame.1]
  exact h playerId

theorem onlineIds_same (hsame : Part.online.Same C s t) : t.onlineIds = s.onlineIds :=
  keys_eq_of_sameSessions hsame.2.2.2

end Sessions

/-! ### Sessions and the index -/

section Indexed

variable {s t : ServerCore} {playerId : PlayerId}

theorem ServerCore.SessionsIndexed.spawn (h : s.SessionsIndexed) (player : PlayerSnapshot)
    (center : ChunkPos) (nowMs : Nat) (entityId : EntityId) :
    (s.spawnOnlinePlayer player center nowMs (some entityId)).2.SessionsIndexed := by
  intro other
  have hother := h other
  simp only [ServerCore.spawnOnlinePlayer, ServerCore.claimEntityId,
    BTreeMap.getElem?_insert_eq]
  split
  · rfl
  · exact hother

theorem ServerCore.SessionsIndexed.remove (h : s.SessionsIndexed) (playerId : PlayerId) :
    (s.removeOnlinePlayer playerId).2.SessionsIndexed := by
  intro other
  have hother := h other
  unfold ServerCore.removeOnlinePlayer
  split
  · exact hother
  · simp only [BTreeMap.getElem?_erase_eq]
    split
    · rfl
    · exact hother

theorem disconnectPlayerState_indexed {delta : Option DisconnectDelta}
    (hrun : (disconnectPlayerState C playerId).run (baseState C) s = .ok (delta, t))
    (h : s.SessionsIndexed) : t.SessionsIndexed := by
  unfold disconnectPlayerState at hrun
  obtain ⟨cleared, s₁, hclear, h₁⟩ := Prog.run_bind_ok hrun
  have hfirst : s₁.SessionsIndexed :=
    h.same ((stateClearActiveMining_within playerId).same (by decide) hclear)
  obtain ⟨persisted, s₂, hpersisted, h₂⟩ := Prog.run_bind_ok h₁
  have hsecond : s₂.SessionsIndexed :=
    hfirst.same ((persistedOnlinePlayerSnapshotState_within playerId).same List.not_mem_nil
      hpersisted)
  cases persisted with
  | none =>
    cases h₂
    exact hsecond
  | some saved =>
    obtain ⟨removed, s₃, hremove, h₃⟩ := Prog.run_bind_ok h₂
    have hthird : s₃.SessionsIndexed := by
      cases hremove
      exact hsecond.remove playerId
    cases removed with
    | none =>
      cases h₃
      exact hthird
    | some session =>
      dsimp only at h₃
      -- what is left writes the window back and saves the player
      have hsave : Within (.savedPlayers :: windowParts) (do
          setSavedPlayer playerId (some saved)
          pure (some (⟨playerId, session.entityId, cleared⟩ : DisconnectDelta))) := by
        refine Within.bind ?_ fun _ => Within.pure _
        exact Within.writes (by decide) fun _ h => h
      refine hthird.same (Within.same (show Within (.savedPlayers :: windowParts) _ from ?_)
        (by decide) h₃)
      split
      · refine ((writebackWorldContainerState_within _).mono (by decide)).bind fun _ => ?_
        exact ((unregisterWorldContainerViewerState_within _ _).mono (by decide)).bind
          fun _ => hsave
      · exact hsave

/-- **Sessions and index stay together**, whatever is done and however many ids are left. -/
theorem stable_sessionsIndexed : Stable C ServerCore.SessionsIndexed := by
  constructor
  · intro op nowMs players s t applied hrun hfits h
    by_cases hstays : op.Stays
    · exact h.same (hstays.same hrun)
    cases op
    case prepareLogin playerId player entityId =>
      by_cases hplayer : playerId ∈ players
      · rw [reduce_prepareLogin hplayer] at hrun
        obtain ⟨center, -, hspawned⟩ := except_map_eq_ok.mp hrun
        cases hspawned
        exact h.spawn player center nowMs entityId
      · unfold reduceCoreOp at hrun
        dsimp only at hrun
        rw [if_neg (by simpa using hplayer)] at hrun
        cases hrun
        exact h
    case disconnectPlayer playerId =>
      obtain ⟨delta, u, hleave, hrest⟩ := Prog.run_bind_ok hrun
      cases hrest
      exact disconnectPlayerState_indexed hleave h
    all_goals exact absurd trivial hstays
  · intro s config worldMeta h
    exact h

theorem ServerCore.Started.sessionsIndexed {core : ServerCore} (h : core.Started) :
    core.SessionsIndexed := by
  cases h with
  | new config => exact fun _ => by simp [ServerCore.new]
  | fromSnapshot config snapshot =>
    exact fun _ => by simp [ServerCore.fromSnapshot, ServerCore.new]

end Indexed

/-! ### Admitted logins -/

section Admitted

variable {core core' : ServerCore} {connectionId : ConnectionId} {username : String}
  {playerId : PlayerId} {nowMs : Nat}

theorem beginLogin_room {tx : GameplayTransaction}
    (h : Tx.beginLogin C connectionId username playerId (.new core nowMs) = .ok (none, tx)) :
    core.onlineIds.length < core.world.config.maxPlayers := by
  unfold Tx.beginLogin at h
  split at h
  · cases h
  obtain ⟨count, tx₁, hcount, h₁⟩ := Tx.bind_ok h
  obtain ⟨htx₁, s, hlisted⟩ := Tx.overlayView_ok hcount
  subst htx₁
  have hcountIs : count = core.onlineIds.length := by
    cases hlisted
    exact congrArg List.length (Simulates.fresh (C := C) core).playerSessions.keys
  obtain ⟨_, tx₂, hrecord, h₂⟩ := Tx.bind_ok h₁
  cases hrecord
  obtain ⟨_, tx₃, hget, h₃⟩ := Tx.bind_ok h₂
  cases hget
  split at h₃
  · cases h₃
  · next hroom =>
    rw [hcountIs] at hroom
    exact Nat.lt_of_not_le hroom

theorem reduceOps_stays {players : BTreeSet PlayerId} {ops : List CoreOp}
    (hops : ∀ op ∈ ops, op.Stays) (h : reduceOps C nowMs players ops core = .ok core') :
    Part.online.Same C core core' := by
  induction ops generalizing core with
  | nil =>
    cases h
    exact Part.Same.refl _ _
  | cons op rest ih =>
    obtain ⟨⟨applied, core₁⟩, hop, hrest⟩ := except_bind_eq_ok.mp h
    exact Part.Same.trans ((hops op List.mem_cons_self).same hop)
      (ih (fun op' hop' => hops op' (List.mem_cons_of_mem _ hop')) hrest)

theorem mem_onlineIds_spawn {player : PlayerSnapshot} {center : ChunkPos} {entityId : EntityId}
    {other : PlayerId} :
    other ∈ (core.spawnOnlinePlayer player center nowMs (some entityId)).2.onlineIds ↔
      other = player.id ∨ other ∈ core.onlineIds := by
  rw [mem_onlineIds, mem_onlineIds]
  simp only [ServerCore.spawnOnlinePlayer, ServerCore.claimEntityId, BTreeMap.getElem?_insert_eq]
  by_cases hother : player.id = other
  · simp [hother]
  · simp [hother, Ne.symm hother]

/-- The journal of a login that was begun, filled with gameplay and finalized admits the player. -/
theorem loginJournal_admits {tx tx₁ tx₂ : GameplayTransaction} {events : List TargetedEvent}
    (hindexed : core.SessionsIndexed)
    (hbegin : Tx.beginLogin C connectionId username playerId (.new core nowMs) = .ok (none, tx))
    (hgameplay : Gameplay C (fun _ _ => True) tx tx₁)
    (hfinalize : Tx.finalizeLogin C connectionId playerId tx₁ = .ok (.ok (), tx₂))
    (happly : applyCoreOps C core tx₂.journal tx₂.nowMs = .ok (events, core')) :
    core.Admits core' playerId := by
  have hroom := beginLogin_room hbegin
  obtain ⟨player, ops, hjournal, hops, hid, hoffline, -⟩ :=
    loginJournal hbegin hgameplay hfinalize
  rw [hjournal] at happly
  have hreduce := applyCoreOps_reduce happly
  obtain ⟨⟨applied, core₁⟩, hprepare, hrest⟩ := except_bind_eq_ok.mp hreduce
  rw [reduce_prepareLogin (by simp [finalizedPlayersOf])] at hprepare
  obtain ⟨center, -, hspawned⟩ := except_map_eq_ok.mp hprepare
  obtain ⟨rfl, rfl⟩ := Prod.mk.inj hspawned
  have hstays : ∀ op ∈ ops ++ [CoreOp.finalizeLogin connectionId playerId], op.Stays := by
    intro op hop
    rcases List.mem_append.mp hop with hop | hop
    · exact (hops op hop).1.stays
    · rw [List.mem_singleton.mp hop]
      trivial
  have hsame := onlineIds_same (reduceOps_stays hstays hrest)
  have habsent : playerId ∉ core.onlineIds := by
    rw [mem_onlineIds, hindexed playerId, hoffline]
    exact Bool.false_ne_true
  have hsessions : ∀ other, other ∈ core'.onlineIds ↔
      other = playerId ∨ other ∈ core.onlineIds := by
    intro other
    rw [hsame, ← hid]
    exact mem_onlineIds_spawn
  have hcount : core'.onlineIds.length = core.onlineIds.length + 1 := by
    have hperm : core'.onlineIds.Perm (playerId :: core.onlineIds) := by
      refine (List.perm_ext_iff_of_nodup ExtTreeMap.nodup_keys
        (List.nodup_cons.mpr ⟨habsent, ExtTreeMap.nodup_keys⟩)).mpr fun other => ?_
      exact (hsessions other).trans List.mem_cons.symm
    exact hperm.length_eq
  exact ⟨habsent, hsessions, hcount, hcount ▸ hroom⟩

end Admitted

section Calls

variable {store store' : CoreStore} {connectionId : ConnectionId} {username : String}
  {playerId : PlayerId} {nowMs : Nat} {outcome : Except String CoreCommandOutcome}

theorem applyCommittedLoginEffects_admits {core core' : ServerCore}
    {effects : List GameplayEffect} {events : List TargetedEvent}
    (hindexed : core.SessionsIndexed)
    (h : core.applyCommittedLoginEffects C connectionId username playerId nowMs effects =
      .ok (.applied events, core')) : core.Admits core' playerId := by
  obtain ⟨tx, tx₁, tx₂, hbegin, hrun, hfinalize, happly⟩ := applyCommittedLoginEffects_applied h
  exact loginJournal_admits hindexed hbegin
    (applyEffects_gameplay (fun _ _ => trivial) hrun) hfinalize happly

/-- A login without a gameplay profile is refused on the published version, or admitted. -/
theorem applyInternal_login (hindexed : store.active.state.SessionsIndexed)
    (h : store.applyCommand C (.loginStart connectionId username playerId) .internal nowMs =
      .ok (outcome, store')) :
    store'.active.state = store.active.state ∨
      store.active.state.Admits store'.active.state playerId := by
  obtain ⟨events, happly, -⟩ := CoreStore.applyInternal_ok h
  replace happly : store.active.state.loginStart C connectionId username playerId nowMs =
    .ok (events, store'.active.state) := happly
  unfold ServerCore.loginStart at happly
  obtain ⟨⟨rejection, tx⟩, hbegin, hrest⟩ := except_bind_eq_ok.mp happly
  cases rejection with
  | some rejection =>
    exact .inl (congrArg Prod.snd (Except.ok.inj hrest)).symm
  | none =>
    obtain ⟨⟨result, tx₁⟩, hfinalize, hcommit⟩ := except_bind_eq_ok.mp hrest
    cases result with
    | error message => cases hcommit
    | ok done =>
      exact .inr (loginJournal_admits hindexed hbegin (.refl _) hfinalize
        (commitTransaction_apply hcommit))

/-- **A login that was previewed** leaves the store as it is, unless it is answered with events:
    then the version that is published next admits the player. -/
theorem applyLogin_admits {previewed : ServerCore} {tx : GameplayTransaction}
    {answer : Except String GameplayEffectBatch} (hindexed : store.active.state.SessionsIndexed)
    (hpreviewed : Tx.beginLogin C connectionId username playerId (.new previewed nowMs) =
      .ok (none, tx))
    (h : store.applyCommand C (.loginStart connectionId username playerId)
      (.login previewed answer) nowMs = .ok (outcome, store')) :
    (store' = store ∧ (AdmissionAnswer.returns outcome).isEvents = false) ∨
      ((AdmissionAnswer.returns outcome).isEvents = true ∧
        store.active.state.Admits store'.active.state playerId) := by
  obtain ⟨⟨rejection, preview⟩, hbegin, h⟩ := except_bind_eq_ok.mp h
  obtain ⟨rfl, rfl⟩ := Prod.mk.inj (Except.ok.inj (hpreviewed.symm.trans hbegin))
  cases answer with
  | error message =>
    cases h
    exact .inl ⟨rfl, rfl⟩
  | ok batch =>
    obtain ⟨⟨result, mutation⟩, heffects, h⟩ := except_bind_eq_ok.mp h
    cases result with
    | conflict =>
      cases h
      exact .inl ⟨rfl, rfl⟩
    | applied events =>
      obtain ⟨⟨result, state⟩, hlogin, hrecorded⟩ := except_bind_eq_ok.mp heffects
      rcases validateAndApplyLoginEffects_cases hlogin with ⟨rfl, -⟩ | ⟨events', rfl, happly⟩
      · cases hrecorded
      · cases hrecorded
        have hfrom : CoreMutation.GoesFrom store.active
            ((CoreMutation.fromVersion store.active).recorded state
              (.loginEffects connectionId username playerId batch.nowMs batch.effects)) :=
          (CoreMutation.GoesFrom.fromVersion _).recorded _ _
        rw [CoreStore.committed_outcome hfrom h, CoreStore.committed_state hfrom h]
        refine .inr ⟨rfl, ?_⟩
        exact applyCommittedLoginEffects_admits hindexed happly

end Calls

/-! ### Steps and runs -/

namespace Admission

theorem run_append (a : Admission) (first second : List AdmissionStep) :
    a.run C (first ++ second) = (a.run C first).run C second := List.foldl_append

/-- Every waiting login was begun on the version it was previewed on. -/
def Previewed (C : ContentBehavior) (a : Admission) : Prop :=
  ∀ login ∈ a.waiting, ∃ tx, Tx.beginLogin C login.connectionId login.username login.playerId
    (.new login.previewed login.nowMs) = .ok (none, tx)

variable {a : Admission}

theorem after_previewed (h : a.Previewed C) {waiting : List WaitingLogin}
    (hwaiting : ∀ login ∈ waiting, login ∈ a.waiting)
    (result : Panics (Except String CoreCommandOutcome × CoreStore)) :
    (a.after waiting result).2.Previewed C := by
  rcases result with message | ⟨outcome, store⟩
  · exact fun login hlogin => h login (hwaiting login hlogin)
  · exact fun login hlogin => h login (hwaiting login hlogin)

theorem Previewed.step (h : a.Previewed C) (step : AdmissionStep) :
    (a.step C step).2.Previewed C := by
  cases step with
  | loginStarts connectionId username playerId nowMs =>
    change (a.start C connectionId username playerId nowMs).2.Previewed C
    unfold Admission.start
    split
    · exact h
    · exact h
    · next tx hbegin =>
      intro login hlogin
      rcases List.mem_append.mp hlogin with hlogin | hlogin
      · exact h login hlogin
      · rw [List.mem_singleton.mp hlogin]
        exact ⟨tx, hbegin⟩
  | loginAnswered index answer =>
    unfold Admission.step
    dsimp only
    split
    · exact h
    · exact after_previewed h (fun login hlogin => List.mem_of_mem_eraseIdx hlogin) _
  | applies command nowMs | plays command playerId answer nowMs | builtinTick nowMs
  | gameplayTicks preparedTicks | limits maxPlayers | reconfigures config =>
    exact after_previewed h (fun _ hlogin => hlogin) _

section Stable

variable {I : ServerCore → Prop}

theorem after_keeps (ha : I a.store.active.state) {waiting : List WaitingLogin}
    {result : Panics (Except String CoreCommandOutcome × CoreStore)}
    (hresult : ∀ outcome store, result = .ok (outcome, store) → I store.active.state) :
    I (a.after waiting result).2.store.active.state := by
  rcases result with message | ⟨outcome, store⟩
  · exact ha
  · exact hresult outcome store rfl

theorem step_keeps (hI : Stable C I) (ha : I a.store.active.state) (step : AdmissionStep) :
    I (a.step C step).2.store.active.state := by
  have hsettings : ∀ (state : ServerCore) (record : CoreTransferMutation), I state →
      I (a.store.committed (((CoreMutation.fromVersion a.store.active).recorded state
        record).prepare [] true)).2.active.state := by
    intro state record hstate
    have hdone : ∀ prepared, (pure (a.store.committed prepared) : Panics _) =
        .ok ((a.store.committed prepared).1, (a.store.committed prepared).2) := fun _ => rfl
    rw [CoreStore.committed_state ((CoreMutation.GoesFrom.fromVersion _).recorded _ _) (hdone _)]
    exact hstate
  cases step with
  | loginStarts connectionId username playerId nowMs =>
    change I (a.start C connectionId username playerId nowMs).2.store.active.state
    unfold Admission.start
    split
    · exact ha
    · exact ha
    · exact ha
  | loginAnswered index answer =>
    unfold Admission.step
    dsimp only
    split
    · exact ha
    · exact after_keeps ha fun outcome store h => CoreStore.stable_applyCommand hI h ha
  | applies command nowMs | plays command playerId answer nowMs =>
    exact after_keeps ha fun outcome store h => CoreStore.stable_applyCommand hI h ha
  | builtinTick nowMs =>
    exact after_keeps ha fun outcome store h => CoreStore.stable_applyBuiltinTick hI h ha
  | gameplayTicks preparedTicks =>
    exact after_keeps ha fun outcome store h => CoreStore.stable_commitGameplayTicks hI h ha
  | limits maxPlayers | reconfigures config => exact hsettings _ _ (hI.settings _ _ ha)

theorem run_keeps (hI : Stable C I) (ha : I a.store.active.state) (steps : List AdmissionStep) :
    I (a.run C steps).store.active.state := by
  induction steps generalizing a with
  | nil => exact ha
  | cons step rest ih => exact ih (step_keeps hI ha step)

end Stable

theorem Previewed.run (h : a.Previewed C) (steps : List AdmissionStep) :
    (a.run C steps).Previewed C := by
  induction steps generalizing a with
  | nil => exact h
  | cons step rest ih => exact ih (h.step step)

theorem loginAnswered_admits (hpreviewed : a.Previewed C)
    (hindexed : a.store.active.state.SessionsIndexed) {index : Nat} {login : WaitingLogin}
    (hlogin : a.waiting[index]? = some login) (answer : Except String GameplayEffectBatch) :
    ((a.step C (.loginAnswered index answer)).2.store = a.store ∧
        (a.step C (.loginAnswered index answer)).1.isEvents = false) ∨
      ((a.step C (.loginAnswered index answer)).1.isEvents = true ∧
        a.store.active.state.Admits
          (a.step C (.loginAnswered index answer)).2.store.active.state login.playerId) := by
  obtain ⟨tx, hbegin⟩ := hpreviewed login (List.mem_of_getElem? hlogin)
  have hstep : a.step C (.loginAnswered index answer) =
      a.after (a.waiting.eraseIdx index) (a.store.applyCommand C
        (.loginStart login.connectionId login.username login.playerId)
        (.login login.previewed answer) login.nowMs) := by
    unfold Admission.step
    dsimp only
    rw [hlogin]
  rw [hstep]
  rcases hcall : a.store.applyCommand C
      (.loginStart login.connectionId login.username login.playerId)
      (.login login.previewed answer) login.nowMs with message | ⟨outcome, store⟩
  · exact .inl ⟨rfl, rfl⟩
  · exact applyLogin_admits hindexed hbegin hcall

theorem loginStarts_store (connectionId : ConnectionId) (username : String) (playerId : PlayerId)
    (nowMs : Nat) :
    (a.step C (.loginStarts connectionId username playerId nowMs)).2.store = a.store := by
  change (a.start C connectionId username playerId nowMs).2.store = a.store
  unfold Admission.start
  split <;> rfl

theorem applies_login (hindexed : a.store.active.state.SessionsIndexed)
    (connectionId : ConnectionId) (username : String) (playerId : PlayerId) (nowMs : Nat) :
    (a.step C (.applies (.loginStart connectionId username playerId) nowMs)).2.store.active.state =
        a.store.active.state ∨
      a.store.active.state.Admits
        (a.step C (.applies (.loginStart connectionId username playerId)
          nowMs)).2.store.active.state playerId := by
  change (a.after a.waiting _).2.store.active.state = _ ∨
    a.store.active.state.Admits (a.after a.waiting _).2.store.active.state playerId
  rcases hcall : a.store.applyCommand C (.loginStart connectionId username playerId) .internal nowMs
    with message | ⟨outcome, store⟩
  · exact .inl rfl
  · exact applyInternal_login hindexed hcall

end Admission

/-- **Login admission holds under any interleaving.**  After every step every player has at most
    one session, and as long as ids are left the sessions are of different entities.  A login that
    is answered with events was admitted on the version that was published: the player was offline
    there, and with it there are no more players than that version allows.  Every other answer, and
    the preview, leave the store as it is. -/
theorem login_admission {core : ServerCore} (hstart : core.Started) {steps : List AdmissionStep}
    {a : Admission} (hrun : (Admission.new core).run C steps = a) :
    a.store.active.state.OneSessionEach ∧
    (a.store.active.state.entities.nextEntityId < i32Max →
      a.store.active.state.DistinctEntities) ∧
    (∀ (index : Nat) (login : WaitingLogin) (answer : Except String GameplayEffectBatch),
      a.waiting[index]? = some login →
      ((a.step C (.loginAnswered index answer)).1.isEvents = true →
        a.store.active.state.Admits
          (a.step C (.loginAnswered index answer)).2.store.active.state login.playerId) ∧
      ((a.step C (.loginAnswered index answer)).1.isEvents = false →
        (a.step C (.loginAnswered index answer)).2.store = a.store)) ∧
    (∀ connectionId username playerId nowMs,
      (a.step C (.loginStarts connectionId username playerId nowMs)).2.store = a.store) ∧
    ∀ connectionId username playerId nowMs,
      (a.step C (.applies (.loginStart connectionId username playerId)
          nowMs)).2.store.active.state = a.store.active.state ∨
      a.store.active.state.Admits (a.step C (.applies (.loginStart connectionId username playerId)
        nowMs)).2.store.active.state playerId := by
  subst hrun
  have hindexed := Admission.run_keeps (C := C) stable_sessionsIndexed
    (show (Admission.new core).store.active.state.SessionsIndexed from hstart.sessionsIndexed) steps
  have hpreviewed : ((Admission.new core).run C steps).Previewed C :=
    Admission.Previewed.run (fun login hlogin => by cases hlogin) steps
  refine ⟨hindexed.oneSessionEach, fun hids => ?_, fun index login answer hlogin => ?_,
    Admission.loginStarts_store, Admission.applies_login hindexed⟩
  · exact (Admission.run_keeps stable_consistent (fun _ => hstart.consistent) steps
      hids).distinctEntities
  · rcases Admission.loginAnswered_admits hpreviewed hindexed hlogin answer with
      ⟨hstore, hother⟩ | ⟨hevents, hadmits⟩
    · refine ⟨fun hevents => ?_, fun _ => hstore⟩
      rw [hother] at hevents
      cases hevents
    · refine ⟨fun _ => hadmits, fun hother => ?_⟩
      rw [hother] at hevents
      cases hevents

/-- One place is left and two players want it: both are previewed before one of them is admitted. -/
def lastPlace : List AdmissionStep :=
  [.limits 1, .loginStarts ⟨1⟩ "alice" ⟨7⟩ 5, .loginStarts ⟨2⟩ "bob" ⟨8⟩ 5,
    .loginAnswered 0 (.ok ⟨5, .default, []⟩)]

def afterLastPlace : Admission :=
  (Admission.new (.new .default)).run canonicalContent lastPlace

theorem login_admission_lastPlace :
    afterLastPlace.store.active.state.onlineIds = [⟨7⟩] ∧
    afterLastPlace.store.active.state.DistinctEntities ∧
    ∃ login, afterLastPlace.waiting[0]? = some login ∧ login.playerId = ⟨8⟩ ∧
      (afterLastPlace.step canonicalContent
        (.loginAnswered 0 (.ok ⟨5, .default, []⟩))).2.store = afterLastPlace.store := by
  have honline : afterLastPlace.store.active.state.onlineIds = [⟨7⟩] ∧
      afterLastPlace.store.active.state.entities.nextEntityId < i32Max ∧
      (afterLastPlace.waiting[0]?).map (·.playerId) = some ⟨8⟩ ∧
      (afterLastPlace.step canonicalContent
        (.loginAnswered 0 (.ok ⟨5, .default, []⟩))).1.isEvents = false := by
    decide +kernel
  obtain ⟨hids, hleft, hwaiting, hother⟩ := honline
  obtain ⟨login, hlogin, hplayer⟩ := Option.map_eq_some_iff.mp hwaiting
  have hrun : (Admission.new (.new .default)).run canonicalContent lastPlace = afterLastPlace := by
    unfold afterLastPlace
    rfl
  have hadmission := login_admission (.new .default) hrun
  exact ⟨hids, hadmission.2.1 hleft, login, hlogin, hplayer,
    (hadmission.2.2.1 0 login (.ok ⟨5, .default, []⟩) hlogin).2 hother⟩

/-! ### When the ids run out -/

def dropAndDespawn (nowMs : Nat) : List AdmissionStep :=
  [.gameplayTicks [⟨⟨7⟩, .initial, dropStone nowMs⟩],
    .builtinTick (nowMs + DROPPED_ITEM_DESPAWN_MS)]

def dropAndDespawns : Nat → Nat → List AdmissionStep
  | 0, _ => []
  | count + 1, nowMs =>
    dropAndDespawn nowMs ++ dropAndDespawns count (nowMs + DROPPED_ITEM_DESPAWN_MS)

/-- The store when some ids have been given out and nothing of it is left. -/
def clearedStore (revision : CoreRevision) (nextEntityId : Int) : Admission :=
  ⟨⟨⟨revision, furnaceCore nextEntityId⟩, .initial, none⟩, []⟩

theorem dropAndDespawn_run (revision : CoreRevision) (entityId : Int) (nowMs : Nat) :
    (clearedStore revision entityId).run canonicalContent (dropAndDespawn nowMs) =
      clearedStore revision.next.next (saturatingSuccI32 entityId) := by
  obtain ⟨events, hdrop⟩ := dropStone_run entityId nowMs
  obtain ⟨events', htick⟩ := stoneCore_tick entityId nowMs
  have hdropped : (clearedStore revision entityId).step canonicalContent
      (.gameplayTicks [⟨⟨7⟩, .initial, dropStone nowMs⟩]) =
      (.returns (.ok (.events events)),
        ⟨⟨⟨revision.next, stoneCore entityId nowMs⟩, .initial, none⟩, []⟩) := by
    simp only [Admission.step, CoreStore.commitGameplayTicks, CoreStore.applyTickBatches,
      CoreMutation.validateAndApplyGameplayEffects, CoreMutation.fromVersion, clearedStore, hdrop]
    simp [dropStone, bind, Except.bind, pure, Except.pure, CoreMutation.recorded,
      CoreMutation.prepare, CoreStore.committed, CoreStore.commitLocked, Admission.after]
  have hdespawned : (⟨⟨⟨revision.next, stoneCore entityId nowMs⟩, .initial, none⟩, []⟩ :
      Admission).step canonicalContent (.builtinTick (nowMs + DROPPED_ITEM_DESPAWN_MS)) =
      (.returns (.ok (.events events')),
        clearedStore revision.next.next (saturatingSuccI32 entityId)) := by
    simp only [Admission.step, CoreStore.applyBuiltinTick, CoreMutation.tick,
      CoreMutation.fromVersion, htick]
    simp [bind, Except.bind, pure, Except.pure, CoreMutation.recorded, clearedStore,
      CoreMutation.prepare, CoreStore.committed, CoreStore.commitLocked, Admission.after]
  unfold Admission.run dropAndDespawn
  rw [List.foldl_cons, hdropped, List.foldl_cons, hdespawned]
  rfl

theorem dropAndDespawns_run (count nowMs : Nat) (revision : CoreRevision) (entityId : Int)
    (hrevision : revision.value + 2 * count ≤ u64Max) (hids : entityId + count ≤ i32Max) :
    ∃ last, (clearedStore revision entityId).run canonicalContent (dropAndDespawns count nowMs) =
        clearedStore last (entityId + count) ∧ last.value = revision.value + 2 * count := by
  induction count generalizing nowMs revision entityId with
  | zero => exact ⟨revision, by simp [dropAndDespawns, Admission.run], rfl⟩
  | succ count ih =>
    have hsucc : saturatingSuccI32 entityId = entityId + 1 := by
      unfold saturatingSuccI32
      push_cast at hids
      split <;> omega
    have hnext : revision.next.next.value = revision.value + 2 := by
      rw [CoreRevision.next_value, CoreRevision.next_value]
      omega
    obtain ⟨last, hrest, hlast⟩ := ih (nowMs + DROPPED_ITEM_DESPAWN_MS) revision.next.next
      (entityId + 1) (by omega) (by push_cast at hids; omega)
    refine ⟨last, ?_, by omega⟩
    have hrun := dropAndDespawn_run revision entityId nowMs
    unfold Admission.run at hrun hrest ⊢
    unfold dropAndDespawns
    rw [List.foldl_append, hrun, hsucc, hrest]
    push_cast
    rw [show entityId + (↑count + 1) = entityId + 1 + ↑count by omega]

/-- Two players come when the last id was given out. -/
def twoLogins (nowMs : Nat) : List AdmissionStep :=
  [.loginStarts ⟨1⟩ "alice" ⟨7⟩ nowMs, .loginAnswered 0 (.ok ⟨nowMs, .default, []⟩),
    .loginStarts ⟨2⟩ "bob" ⟨8⟩ nowMs, .loginAnswered 0 (.ok ⟨nowMs, .default, []⟩)]

theorem logins_share_entity :
    ∃ steps, ¬ ((Admission.new (.fromSnapshot .default furnaceWorld)).run canonicalContent
      steps).store.active.state.DistinctEntities := by
  obtain ⟨revision, hdrops, hrevision⟩ :=
    dropAndDespawns_run 2147483646 0 .initial 1 (by decide) (by decide)
  have hrevision : revision = ⟨4294967292, by decide⟩ := CoreRevision.ext_value hrevision
  subst hrevision
  have hshared : ∀ playerId ∈ [(⟨7⟩ : PlayerId), ⟨8⟩],
      (((clearedStore ⟨4294967292, by decide⟩ i32Max).run canonicalContent
        (twoLogins lastIdMs)).store.active.state.sessions.playerSessions[playerId]?).map
          (·.entityId) = some ⟨i32Max⟩ := by
    decide +kernel
  obtain ⟨session, hsession, hfirst⟩ :=
    Option.map_eq_some_iff.mp (hshared ⟨7⟩ (List.mem_cons_self ..))
  obtain ⟨other, hother, hsecond⟩ :=
    Option.map_eq_some_iff.mp (hshared ⟨8⟩ (List.mem_cons_of_mem _ (List.mem_cons_self ..)))
  refine ⟨dropAndDespawns 2147483646 0 ++ twoLogins lastIdMs, fun hdistinct => ?_⟩
  have hlast : (1 : Int) + ((2147483646 : Nat) : Int) = i32Max := by decide
  have hstart : Admission.new (.fromSnapshot .default furnaceWorld) = clearedStore .initial 1 := rfl
  rw [hstart, Admission.run_append, hdrops, hlast] at hdistinct
  have hsame := hdistinct ⟨7⟩ ⟨8⟩ session other hsession hother (hfirst.trans hsecond.symm)
  cases hsame

end RevyCraft
