/-
  RevyCraft/CoreStore.lean
  ========================
  **The store that publishes versions and decides what is saved**
  (`runtime/core_store.rs`).

  A commit publishes the next version and, when its caller says so, marks its
  revision as one that has to be saved; `maybe_save` writes the active version
  when the marked revision is newer than the persisted one.  Whether a commit
  is marked depends on the kind of the call and not on what it changed.

  A save runs beside the commits: it captures the version, the world goes on,
  and the snapshot of the captured version is written later.  The server loop
  starts no save while one is running.  The version that a login was previewed
  on and the answer of the gameplay plugin come from before the lock is taken,
  so they are arguments of the call.  The transfer journal, the storage profile
  and the directory have no part in what is saved and are left out.
-/
import RevyCraft.FurnaceTicks
import RevyCraft.ReturnedItems
import RevyCraft.Replay

namespace RevyCraft

open Std
open RevyCraft.Core
open Prog (run)

variable (C : ContentBehavior)

/-! ### The store -/

structure CoreStore where
  active : CoreVersion
  persistedRevision : CoreRevision
  latestDirtyRevision : Option CoreRevision

inductive CoreInvocation where
  | internal
  | login (previewed : ServerCore) (answer : Except String GameplayEffectBatch)
  | play (playerId : PlayerId) (answer : Except String GameplayEffectBatch)

inductive CoreCommandOutcome where
  | events (events : List TargetedEvent)
  | staleGameplayCommand (playerId : PlayerId)
  | staleLogin (connectionId : ConnectionId)

structure PreparedGameplayTick where
  playerId : PlayerId
  sourceRevision : CoreRevision
  batch : GameplayEffectBatch

def GameplayCommand.playerId : GameplayCommand → PlayerId
  | .moveIntent playerId _ _ _ _ => playerId
  | .setHeldSlot playerId _ => playerId
  | .creativeInventorySet playerId _ _ => playerId
  | .digBlock playerId _ _ _ => playerId
  | .placeBlock playerId _ _ _ _ => playerId
  | .useBlock playerId _ _ _ _ => playerId

/-- The `requires_persistence` of `apply_command`. -/
def CoreCommand.requiresPersistence : CoreCommand → Bool
  | .loginStart _ _ _ => true
  | .gameplay _ => true
  | .inventoryClick _ _ _ _ _ => true
  | .closeContainer _ _ => true
  | .disconnect _ => true
  | .updateClientView _ _ => false
  | .keepAliveResponse _ _ => false

namespace CoreStore

def new (core : ServerCore) : CoreStore := ⟨.initial core, CoreRevision.initial, none⟩

/-- `commit_locked`. -/
def commitLocked (store : CoreStore) (prepared : PreparedCoreCommit) :
    Except String (List TargetedEvent × CoreStore) :=
  if store.active.revision ≠ prepared.baseRevision then
    .error s!"stale core commit: expected revision {prepared.baseRevision.value}, active revision {store.active.revision.value}"
  else
    .ok (prepared.events,
      { store with
        active := prepared.nextVersion
        latestDirtyRevision :=
          if prepared.requiresPersistence then some prepared.nextVersion.revision
          else store.latestDirtyRevision })

/-- The outcome of a call that ends in a commit. -/
def committed (store : CoreStore) (prepared : PreparedCoreCommit) :
    Except String CoreCommandOutcome × CoreStore :=
  match store.commitLocked prepared with
  | .ok (events, store) => (.ok (.events events), store)
  | .error message => (.error message, store)

/-- The last branch of `apply_command`. -/
def applyInternal (store : CoreStore) (command : CoreCommand) (nowMs : Nat) :
    Panics (Except String CoreCommandOutcome × CoreStore) := do
  let (events, mutation) ← (CoreMutation.fromVersion store.active).applyCommand C command nowMs
  pure (store.committed (mutation.prepare events command.requiresPersistence))

/-- A login through the gameplay plugin. -/
def applyLogin (store : CoreStore) (connectionId : ConnectionId) (username : String)
    (playerId : PlayerId) (previewed : ServerCore) (answer : Except String GameplayEffectBatch)
    (nowMs : Nat) : Panics (Except String CoreCommandOutcome × CoreStore) := do
  match ← (Tx.beginLogin C connectionId username playerId).run (.new previewed nowMs) with
  | (some rejection, _) => pure (.ok (.events rejection), store)
  | (none, _) =>
    match answer with
    | .error message => pure (.error message, store)
    | .ok batch =>
      match ← (CoreMutation.fromVersion store.active).validateAndApplyLoginEffects C connectionId
          username playerId batch with
      | (.applied events, mutation) => pure (store.committed (mutation.prepare events true))
      | (.conflict, _) => pure (.ok (.staleLogin connectionId), store)

def applyGameplay (store : CoreStore) (command : GameplayCommand) (playerId : PlayerId)
    (answer : Except String GameplayEffectBatch) :
    Panics (Except String CoreCommandOutcome × CoreStore) :=
  if command.playerId ≠ playerId then .ok (.ok (.staleGameplayCommand playerId), store)
  else
    match answer with
    | .error message => .ok (.error message, store)
    | .ok batch => do
      match ← (CoreMutation.fromVersion store.active).validateAndApplyGameplayEffects C batch with
      | (.applied events, mutation) => pure (store.committed (mutation.prepare events true))
      | (.conflict, _) => pure (.ok (.staleGameplayCommand playerId), store)

def applyCommand (store : CoreStore) (command : CoreCommand) (invocation : CoreInvocation)
    (nowMs : Nat) : Panics (Except String CoreCommandOutcome × CoreStore) :=
  match command, invocation with
  | .loginStart connectionId username playerId, .login previewed answer =>
    store.applyLogin C connectionId username playerId previewed answer nowMs
  | .gameplay command, .play playerId answer => store.applyGameplay C command playerId answer
  | command, _ => store.applyInternal C command nowMs

def applyBuiltinTick (store : CoreStore) (nowMs : Nat) :
    Panics (Except String CoreCommandOutcome × CoreStore) := do
  let (events, mutation) ← (CoreMutation.fromVersion store.active).tick C nowMs
  pure (store.committed (mutation.prepare events false))

/-- The loop of `commit_gameplay_ticks`. -/
def applyTickBatches :
    List PreparedGameplayTick → CoreMutation → Panics (List TargetedEvent × CoreMutation)
  | [], mutation => .ok ([], mutation)
  | prepared :: rest, mutation => do
    let (result, mutation) ← mutation.validateAndApplyGameplayEffects C prepared.batch
    let (later, mutation) ← applyTickBatches rest mutation
    match result with
    | .applied events => pure (events ++ later, mutation)
    | .conflict => pure (later, mutation)

def commitGameplayTicks (store : CoreStore) (preparedTicks : List PreparedGameplayTick) :
    Panics (Except String CoreCommandOutcome × CoreStore) :=
  if preparedTicks.isEmpty then .ok (.ok (.events []), store)
  else do
    let (events, mutation) ← applyTickBatches C preparedTicks (.fromVersion store.active)
    pure (store.committed (mutation.prepare events false))

def dirty (store : CoreStore) : Bool :=
  store.latestDirtyRevision.any fun revision => decide (store.persistedRevision < revision)

end CoreStore

/-! ### Runs -/

/-- A store, the version that a running save has captured, and what the storage holds. -/
structure SavingStore where
  store : CoreStore
  saving : Option CoreVersion
  written : WorldSnapshot

inductive StoreStep where
  | apply (command : CoreCommand) (invocation : CoreInvocation) (nowMs : Nat)
  | builtinTick (nowMs : Nat)
  | gameplayTicks (preparedTicks : List PreparedGameplayTick)
  /-- `maybe_save` up to the capture of the version. -/
  | saveBegins
  /-- The rest of a `maybe_save`; it ends without writing when the snapshot panics. -/
  | saveEnds

namespace SavingStore

def new (core : ServerCore) (stored : WorldSnapshot) : SavingStore := ⟨.new core, none, stored⟩

/-- The store after a call; a call that panics has published nothing. -/
def after (s : SavingStore) (result : Panics (Except String CoreCommandOutcome × CoreStore)) :
    SavingStore :=
  match result with
  | .ok (_, store) => { s with store := store }
  | .error _ => s

def step (s : SavingStore) : StoreStep → SavingStore
  | .apply command invocation nowMs => s.after (s.store.applyCommand C command invocation nowMs)
  | .builtinTick nowMs => s.after (s.store.applyBuiltinTick C nowMs)
  | .gameplayTicks preparedTicks => s.after (s.store.commitGameplayTicks C preparedTicks)
  | .saveBegins =>
    if s.saving.isNone ∧ s.store.dirty then { s with saving := some s.store.active } else s
  | .saveEnds =>
    match s.saving with
    | none => s
    | some version =>
      match version.state.snapshot C with
      | .error _ => { s with saving := none }
      | .ok snapshot =>
        { store :=
            { s.store with
              persistedRevision :=
                if s.store.persistedRevision < version.revision then version.revision
                else s.store.persistedRevision }
          saving := none
          written := snapshot }

def run (s : SavingStore) (steps : List StoreStep) : SavingStore := steps.foldl (step C) s

end SavingStore

/-! ### The saved part of a core -/

def WorldSnapshot.blockAt (snapshot : WorldSnapshot) (position : BlockPos) : Option BlockState :=
  ((snapshot.chunks[position.chunkPos]?).getD
    (C.generateChunk snapshot.worldMeta position.chunkPos)).getBlock (localBlockX position)
    position.y (localBlockZ position)

/-- Two snapshots have the same blocks, block entities and players. -/
structure WorldSnapshot.SameWorld (a b : WorldSnapshot) : Prop where
  blocks : ∀ position, a.blockAt C position = b.blockAt C position
  blockEntities : a.blockEntities = b.blockEntities
  players : a.players = b.players

/-- The players that a snapshot of the core would have, or the panic it would end in. -/
def ServerCore.persistedPlayers (core : ServerCore) : Panics (BTreeMap PlayerId PlayerSnapshot) :=
  core.snapshotPlayers C core.sessions.playerSessions.keys core.world.savedPlayers

structure SavedAlike (s t : ServerCore) : Prop where
  blocks : ∀ position, s.blockAt C position = t.blockAt C position
  blockEntities : s.world.blockEntities = t.world.blockEntities
  players : s.persistedPlayers C = t.persistedPlayers C

variable {C}

theorem SavedAlike.refl (s : ServerCore) : SavedAlike C s s := ⟨fun _ => rfl, rfl, rfl⟩

variable {s t : ServerCore} {command : CoreCommand} {nowMs : Nat} {events : List TargetedEvent}
  {mutation : CoreMutation} {store store' : CoreStore} {outcome : Except String CoreCommandOutcome}

theorem SavedAlike.trans {u : ServerCore} (h : SavedAlike C s t) (h' : SavedAlike C t u) :
    SavedAlike C s u :=
  ⟨fun position => (h.blocks position).trans (h'.blocks position),
    h.blockEntities.trans h'.blockEntities, h.players.trans h'.players⟩

theorem SavedAlike.snapshot (h : SavedAlike C s t) {written : WorldSnapshot}
    (hwritten : t.snapshot C = .ok written) :
    ∃ snapshot, s.snapshot C = .ok snapshot ∧ snapshot.SameWorld C written := by
  obtain ⟨players, hplayers, hdone⟩ := except_bind_eq_ok.mp hwritten
  have hsame : s.persistedPlayers C = .ok players := h.players.trans hplayers
  cases hdone
  refine ⟨⟨s.world.worldMeta, s.world.chunks, s.world.blockEntities, players⟩, ?_,
    h.blocks, h.blockEntities, rfl⟩
  exact except_bind_eq_ok.mpr ⟨players, hsame, rfl⟩

/-! ### Calls that change nothing that is saved -/

theorem keys_eq_of_sameSessions {β : Type} {f : PlayerSessionState → β} (h : SameSessions f s t) :
    t.sessions.playerSessions.keys = s.sessions.playerSessions.keys := by
  apply eq_of_ascending ExtTreeMap.ordered_keys ExtTreeMap.ordered_keys
  intro playerId
  have hmap := congrArg Option.isSome (h playerId)
  rw [Option.isSome_map, Option.isSome_map] at hmap
  rw [ExtTreeMap.mem_keys, ExtTreeMap.mem_keys, ExtTreeMap.mem_iff_isSome_getElem?,
    ExtTreeMap.mem_iff_isSome_getElem?, hmap]

/-- What is saved of an online player is read off its snapshot, its cursor and its window. -/
theorem ask_persistedOnline_congr {playerId : PlayerId}
    (hsnapshot : t.playerSnapshot playerId = s.playerSnapshot playerId)
    (hsession : (t.sessions.playerSessions[playerId]?).map
        (fun session => (session.cursor, session.activeContainer)) =
      (s.sessions.playerSessions[playerId]?).map
        fun session => (session.cursor, session.activeContainer)) :
    t.ask C (persistedOnlinePlayerSnapshotState C playerId) =
      s.ask C (persistedOnlinePlayerSnapshotState C playerId) := by
  unfold ServerCore.ask persistedOnlinePlayerSnapshotState
  rw [run_bind_of (composePlayerSnapshot_run t playerId),
    run_bind_of (composePlayerSnapshot_run s playerId), hsnapshot]
  cases s.playerSnapshot playerId with
  | none => rfl
  | some snapshot =>
    dsimp only
    rw [run_bind_of (playerSession_run t playerId), run_bind_of (playerSession_run s playerId)]
    cases hs : s.sessions.playerSessions[playerId]? with
    | none =>
      rw [hs, Option.map_none, Option.map_eq_none_iff] at hsession
      rw [hsession]
      rfl
    | some session =>
      rw [hs, Option.map_some] at hsession
      obtain ⟨session', ht, heq⟩ := Option.map_eq_some_iff.mp hsession
      rw [Prod.mk.injEq] at heq
      rw [ht]
      dsimp only
      rw [heq.1, heq.2]
      cases persistLivePlayerState C snapshot session.cursor session.activeContainer with
      | ok saved => rfl
      | error message => rfl

theorem snapshotPlayers_congr
    (h : ∀ playerId, t.ask C (persistedOnlinePlayerSnapshotState C playerId) =
      s.ask C (persistedOnlinePlayerSnapshotState C playerId)) (playerIds : List PlayerId)
    (players : BTreeMap PlayerId PlayerSnapshot) :
    t.snapshotPlayers C playerIds players = s.snapshotPlayers C playerIds players := by
  induction playerIds generalizing players with
  | nil => rfl
  | cons playerId rest ih =>
    unfold ServerCore.snapshotPlayers
    rw [h playerId]
    cases s.ask C (persistedOnlinePlayerSnapshotState C playerId) with
    | error message => rfl
    | ok answer =>
      cases answer with
      | none => exact ih players
      | some snapshot => exact ih (players.insert playerId snapshot)

theorem Within.savedAlike {α : Type} {parts : List Part} {p : CoreM α} (hp : Within parts p)
    (hparts : ∀ part ∈ [Part.blocks, .blockEntities, .savedPlayers, .online, .transform,
      .inventory, .selectedHotbar, .activeContainer], part ∉ parts) {a : α}
    (hrun : run (baseState C) p s = .ok (a, t)) (hcursor : SameSessions (·.cursor) s t) :
    SavedAlike C t s := by
  have hsame : ∀ part ∈ [Part.blocks, .blockEntities, .savedPlayers, .online, .transform,
      .inventory, .selectedHotbar, .activeContainer], part.Same C s t :=
    fun part hpart => hp.same (hparts part hpart) hrun
  have hblocks : ∀ chunkPos, t.chunkAt C chunkPos = s.chunkAt C chunkPos :=
    hsame .blocks (by decide)
  have hsaved : t.world.savedPlayers = s.world.savedPlayers := hsame .savedPlayers (by decide)
  obtain ⟨hindex, hidentity, hvitals, -⟩ := hsame .online (by decide)
  have htransform : t.entities.playerTransform = s.entities.playerTransform :=
    hsame .transform (by decide)
  have hinventory : t.entities.playerInventory = s.entities.playerInventory :=
    hsame .inventory (by decide)
  have hhotbar : t.entities.playerSelectedHotbar = s.entities.playerSelectedHotbar :=
    hsame .selectedHotbar (by decide)
  have hwindow : SameSessions (·.activeContainer) s t := hsame .activeContainer (by decide)
  constructor
  · intro position
    unfold ServerCore.blockAt
    rw [hblocks]
  · exact hsame .blockEntities (by decide)
  · unfold ServerCore.persistedPlayers
    rw [keys_eq_of_sameSessions hcursor, hsaved]
    apply snapshotPlayers_congr
    intro playerId
    apply ask_persistedOnline_congr
    · unfold ServerCore.playerSnapshot
      rw [hindex, hidentity, hvitals, htransform, hinventory, hhotbar]
    · have hheld := hcursor playerId
      have hshown := hwindow playerId
      cases hs : s.sessions.playerSessions[playerId]? with
      | none =>
        rw [hs, Option.map_none, Option.map_eq_none_iff] at hheld
        rw [hheld]
      | some session =>
        rw [hs, Option.map_some] at hheld hshown
        obtain ⟨session', ht, heq⟩ := Option.map_eq_some_iff.mp hheld
        rw [ht, Option.map_some, Option.some_inj] at hshown
        rw [ht, Option.map_some, Option.map_some, heq, hshown]

theorem playerSessionMut_same {α β : Type} {f : PlayerSessionState → β} {playerId : PlayerId}
    {edit : PlayerSessionState → Panics (α × PlayerSessionState)} {a : Option α}
    (hedit : ∀ session b after, edit session = .ok (b, after) → f after = f session)
    (h : run (baseState C) (playerSessionMut playerId edit) s = .ok (a, t)) :
    SameSessions f s t := by
  rcases playerSessionMut_ok h with ⟨-, -, rfl⟩ | ⟨session, b, after, hsession, hafter, -, rfl⟩
  · intro other
    rfl
  · intro other
    dsimp only
    rw [BTreeMap.getElem?_insert_eq]
    by_cases heq : playerId = other
    · subst heq
      rw [if_pos rfl, hsession, Option.map_some, Option.map_some, hedit session b after hafter]
    · rw [if_neg heq]

theorem stateUpdateClientSettings_cursor {playerId : PlayerId} {viewDistance : Nat}
    {delta : Option ViewUpdateDelta}
    (h : run (baseState C) (stateUpdateClientSettings playerId viewDistance) s = .ok (delta, t)) :
    SameSessions (·.cursor) s t := by
  unfold stateUpdateClientSettings at h
  obtain ⟨settings, s₁, hconfig, h⟩ := Prog.run_bind_ok h
  cases hconfig
  replace h : run (baseState C) (composePlayerSnapshot playerId >>= _) s = .ok (delta, t) := h
  rw [run_bind_of (composePlayerSnapshot_run s playerId)] at h
  cases hplayer : s.playerSnapshot playerId with
  | none =>
    rw [hplayer] at h
    cases h
    exact fun _ => rfl
  | some player =>
    rw [hplayer] at h
    obtain ⟨added, s₂, hedit, h⟩ := Prog.run_bind_ok h
    have hsame : SameSessions (·.cursor) s s₂ := by
      apply playerSessionMut_same _ hedit
      intro session b after hafter
      obtain ⟨center, -, hdone⟩ := except_bind_eq_ok.mp hafter
      cases hdone
      rfl
    cases added with
    | none =>
      cases h
      exact hsame
    | some added =>
      obtain ⟨chunks, s₃, hchunks, hdone⟩ := Prog.run_bind_ok h
      cases hdone
      have hrest : Part.sessionRest.Same C s₂ t :=
        (Within.traverse ensureChunk_within added : Within [] _).same List.not_mem_nil hchunks
      refine hsame.trans fun other => ?_
      have hother := congrArg (Option.map Prod.fst) (hrest other)
      simpa only [Option.map_map, Function.comp_def] using hother

theorem acceptKeepAliveState_cursor {playerId : PlayerId} {keepAliveId : Int}
    {delta : AcknowledgeKeepAliveDelta}
    (h : run (baseState C) (acceptKeepAliveState playerId keepAliveId) s = .ok (delta, t)) :
    SameSessions (·.cursor) s t := by
  unfold acceptKeepAliveState at h
  rw [run_bind_of (playerSession_run s playerId)] at h
  dsimp only at h
  split at h
  · obtain ⟨edited, s₁, hedit, hdone⟩ := Prog.run_bind_ok h
    cases hdone
    apply playerSessionMut_same _ hedit
    intro session b after hafter
    cases hafter
    rfl
  · cases h
    exact fun _ => rfl

theorem applyCommand_savedAlike (hcommand : command.requiresPersistence = false)
    (h : s.applyCommand C command nowMs = .ok (events, t)) : SavedAlike C t s := by
  cases command with
  | updateClientView playerId viewDistance =>
    obtain ⟨applied, hreduce⟩ := applyCoreOps_single h
    obtain ⟨delta, t', hrun, hdone⟩ := Prog.run_bind_ok hreduce
    cases hdone
    exact (stateUpdateClientSettings_within playerId viewDistance).savedAlike (by decide) hrun
      (stateUpdateClientSettings_cursor hrun)
  | keepAliveResponse playerId keepAliveId =>
    obtain ⟨applied, hreduce⟩ := applyCoreOps_single h
    obtain ⟨delta, t', hrun, hdone⟩ := Prog.run_bind_ok hreduce
    cases hdone
    exact (acceptKeepAliveState_within playerId keepAliveId).savedAlike (by decide) hrun
      (acceptKeepAliveState_cursor hrun)
  | loginStart connectionId username playerId => cases hcommand
  | gameplay command => cases hcommand
  | inventoryClick playerId transaction target button validation => cases hcommand
  | closeContainer playerId windowId => cases hcommand
  | disconnect playerId => cases hcommand

/-! ### What a call publishes -/

/-- A mutation that goes out from a version; without a record it has changed nothing. -/
structure CoreMutation.GoesFrom (base : CoreVersion) (mutation : CoreMutation) : Prop where
  revision : mutation.baseRevision = base.revision
  unrecorded : mutation.transferMutations = [] → mutation.state = base.state

theorem CoreMutation.GoesFrom.fromVersion (base : CoreVersion) :
    GoesFrom base (CoreMutation.fromVersion base) := ⟨rfl, fun _ => rfl⟩

variable {base next : CoreVersion} {preparedTicks : List PreparedGameplayTick}

theorem CoreMutation.GoesFrom.recorded (h : GoesFrom base mutation) (state : ServerCore)
    (record : CoreTransferMutation) : GoesFrom base (mutation.recorded state record) := by
  refine ⟨h.revision, fun hnone => ?_⟩
  exact absurd hnone (List.append_ne_nil_of_right_ne_nil _ (List.cons_ne_nil _ _))

theorem CoreMutation.GoesFrom.effects {mutation' : CoreMutation} {batch : GameplayEffectBatch}
    {result : GameplayEffectApplyResult} (h : GoesFrom base mutation)
    (hrun : mutation.validateAndApplyGameplayEffects C batch = .ok (result, mutation')) :
    GoesFrom base mutation' := by
  obtain ⟨⟨result', state⟩, heffects, hdone⟩ := except_bind_eq_ok.mp hrun
  rcases validateAndApplyGameplayEffects_cases heffects with ⟨rfl, rfl⟩ | ⟨events, rfl, happly⟩
  · cases hdone
    exact h
  · cases hdone
    split
    · next hempty =>
      rw [List.isEmpty_iff] at hempty
      rw [hempty] at happly
      cases happly
      exact h
    · exact h.recorded state _

variable (C) in
inductive CoreStore.Publishes (store : CoreStore) (marked : Bool) : CoreStore → Prop where
  | nothing : Publishes store marked store
  | version (next : CoreVersion)
      (hrevision : next.revision = store.active.revision.next ∨
        next.revision = store.active.revision ∧ next.state = store.active.state) :
      Publishes store marked
        { store with
          active := next
          latestDirtyRevision :=
            if marked then some next.revision else store.latestDirtyRevision }

theorem CoreStore.committed_publishes {marked : Bool}
    (h : CoreMutation.GoesFrom store.active mutation)
    (hdone : (pure (store.committed (mutation.prepare events marked)) : Panics _) =
      .ok (outcome, store')) : store.Publishes marked store' := by
  rw [show store' = (store.committed (mutation.prepare events marked)).2 from
    (congrArg Prod.snd (Except.ok.inj hdone)).symm]
  have hbase : ¬ store.active.revision ≠ (mutation.prepare events marked).baseRevision := by
    intro hne
    exact hne h.revision.symm
  unfold CoreStore.committed CoreStore.commitLocked
  rw [if_neg hbase]
  refine .version _ ?_
  show (if mutation.transferMutations.isEmpty then _ else _) = _ ∨
    (if mutation.transferMutations.isEmpty then _ else _) = _ ∧ mutation.state = _
  rw [h.revision]
  cases hrecord : mutation.transferMutations with
  | nil => exact .inr ⟨rfl, h.unrecorded hrecord⟩
  | cons record rest => exact .inl rfl

theorem CoreStore.committed_state {marked : Bool} (h : CoreMutation.GoesFrom store.active mutation)
    (hdone : (pure (store.committed (mutation.prepare events marked)) : Panics _) =
      .ok (outcome, store')) : store'.active.state = mutation.state := by
  have hbase : ¬ store.active.revision ≠ (mutation.prepare events marked).baseRevision := by
    intro hne
    exact hne h.revision.symm
  rw [show store' = (store.committed (mutation.prepare events marked)).2 from
    (congrArg Prod.snd (Except.ok.inj hdone)).symm]
  unfold CoreStore.committed CoreStore.commitLocked
  rw [if_neg hbase]
  rfl

theorem CoreStore.applyInternal_publishes
    (h : store.applyInternal C command nowMs = .ok (outcome, store')) :
    store.Publishes command.requiresPersistence store' := by
  obtain ⟨⟨events, mutation⟩, happly, hdone⟩ := except_bind_eq_ok.mp h
  obtain ⟨⟨events', state⟩, -, hrecorded⟩ := except_bind_eq_ok.mp happly
  cases hrecorded
  exact committed_publishes ((CoreMutation.GoesFrom.fromVersion _).recorded _ _) hdone

theorem CoreStore.applyLogin_publishes {connectionId : ConnectionId} {username : String}
    {playerId : PlayerId} {previewed : ServerCore} {answer : Except String GameplayEffectBatch}
    (h : store.applyLogin C connectionId username playerId previewed answer nowMs =
      .ok (outcome, store')) : store.Publishes true store' := by
  obtain ⟨⟨rejection, preview⟩, -, h⟩ := except_bind_eq_ok.mp h
  cases rejection with
  | some rejection =>
    cases h
    exact .nothing
  | none =>
    cases answer with
    | error message =>
      cases h
      exact .nothing
    | ok batch =>
      obtain ⟨⟨result, mutation⟩, heffects, h⟩ := except_bind_eq_ok.mp h
      cases result with
      | conflict =>
        cases h
        exact .nothing
      | applied events =>
        obtain ⟨⟨result, state⟩, -, hrecorded⟩ := except_bind_eq_ok.mp heffects
        cases result with
        | conflict => cases hrecorded
        | applied events =>
          cases hrecorded
          exact committed_publishes ((CoreMutation.GoesFrom.fromVersion _).recorded _ _) h

theorem CoreStore.applyGameplay_publishes {command : GameplayCommand} {playerId : PlayerId}
    {answer : Except String GameplayEffectBatch}
    (h : store.applyGameplay C command playerId answer = .ok (outcome, store')) :
    store.Publishes true store' := by
  unfold CoreStore.applyGameplay at h
  split at h
  · cases h
    exact .nothing
  · cases answer with
    | error message =>
      cases h
      exact .nothing
    | ok batch =>
      obtain ⟨⟨result, mutation⟩, heffects, h⟩ := except_bind_eq_ok.mp h
      cases result with
      | conflict =>
        cases h
        exact .nothing
      | applied events =>
        exact committed_publishes ((CoreMutation.GoesFrom.fromVersion _).effects heffects) h

theorem CoreStore.applyCommand_publishes {invocation : CoreInvocation}
    (h : store.applyCommand C command invocation nowMs = .ok (outcome, store')) :
    store.Publishes command.requiresPersistence store' := by
  unfold CoreStore.applyCommand at h
  split at h
  · exact applyLogin_publishes h
  · exact applyGameplay_publishes h
  · exact applyInternal_publishes h

theorem CoreStore.applyBuiltinTick_publishes
    (h : store.applyBuiltinTick C nowMs = .ok (outcome, store')) :
    store.Publishes false store' := by
  obtain ⟨⟨events, mutation⟩, htick, hdone⟩ := except_bind_eq_ok.mp h
  obtain ⟨⟨events', state⟩, -, hrecorded⟩ := except_bind_eq_ok.mp htick
  cases hrecorded
  exact committed_publishes ((CoreMutation.GoesFrom.fromVersion _).recorded _ _) hdone

theorem CoreStore.applyBuiltinTick_state
    (h : store.applyBuiltinTick C nowMs = .ok (outcome, store')) :
    ∃ events core, store.active.state.tick C nowMs = .ok (events, core) ∧
      store'.active.state = core := by
  obtain ⟨⟨events, mutation⟩, htick, hdone⟩ := except_bind_eq_ok.mp h
  obtain ⟨⟨events', state⟩, hstate, hrecorded⟩ := except_bind_eq_ok.mp htick
  cases hrecorded
  exact ⟨events, state, hstate,
    committed_state ((CoreMutation.GoesFrom.fromVersion _).recorded _ _) hdone⟩

theorem CoreStore.applyTickBatches_goesFrom {mutation' : CoreMutation}
    (hbase : CoreMutation.GoesFrom base mutation)
    (h : applyTickBatches C preparedTicks mutation = .ok (events, mutation')) :
    CoreMutation.GoesFrom base mutation' := by
  induction preparedTicks generalizing mutation mutation' events with
  | nil =>
    cases h
    exact hbase
  | cons prepared rest ih =>
    obtain ⟨⟨result, mutation₁⟩, heffects, h⟩ := except_bind_eq_ok.mp h
    obtain ⟨⟨later, mutation₂⟩, hrest, h⟩ := except_bind_eq_ok.mp h
    have hlast : CoreMutation.GoesFrom base mutation₂ := ih (hbase.effects heffects) hrest
    cases result with
    | applied events | conflict =>
      cases h
      exact hlast

theorem CoreStore.commitGameplayTicks_publishes
    (h : store.commitGameplayTicks C preparedTicks = .ok (outcome, store')) :
    store.Publishes false store' := by
  unfold CoreStore.commitGameplayTicks at h
  split at h
  · cases h
    exact .nothing
  · obtain ⟨⟨events, mutation⟩, hbatches, hdone⟩ := except_bind_eq_ok.mp h
    exact committed_publishes
      (applyTickBatches_goesFrom (CoreMutation.GoesFrom.fromVersion _) hbatches) hdone

theorem CoreStore.commitGameplayTicks_state
    (h : store.commitGameplayTicks C preparedTicks = .ok (outcome, store')) :
    store' = store ∨ ∃ events mutation,
      applyTickBatches C preparedTicks (.fromVersion store.active) = .ok (events, mutation) ∧
        store'.active.state = mutation.state := by
  unfold CoreStore.commitGameplayTicks at h
  split at h
  · cases h
    exact .inl rfl
  · obtain ⟨⟨events, mutation⟩, hbatches, hdone⟩ := except_bind_eq_ok.mp h
    exact .inr ⟨events, mutation, hbatches, committed_state
      (applyTickBatches_goesFrom (CoreMutation.GoesFrom.fromVersion _) hbatches) hdone⟩

theorem CoreStore.applyCommand_savedAlike {invocation : CoreInvocation}
    (hcommand : command.requiresPersistence = false)
    (h : store.applyCommand C command invocation nowMs = .ok (outcome, store')) :
    SavedAlike C store'.active.state store.active.state := by
  have hinternal : store.applyInternal C command nowMs = .ok (outcome, store') := by
    unfold CoreStore.applyCommand at h
    split at h
    · cases hcommand
    · cases hcommand
    · exact h
  obtain ⟨⟨events, mutation⟩, happly, hdone⟩ := except_bind_eq_ok.mp hinternal
  obtain ⟨⟨events', state⟩, hstate, hrecorded⟩ := except_bind_eq_ok.mp happly
  cases hrecorded
  rw [committed_state ((CoreMutation.GoesFrom.fromVersion _).recorded _ _) hdone]
  exact RevyCraft.applyCommand_savedAlike hcommand hstate

/-! ### Nothing that was changed is forgotten -/

/-- A marked revision is neither persisted nor captured by the running save, so that a save is
    still to come. -/
def SavingStore.Pending (s : SavingStore) : Prop :=
  ∃ revision ∈ s.store.latestDirtyRevision, s.store.persistedRevision < revision ∧
    ∀ version ∈ s.saving, version.revision < revision

instance (s : SavingStore) : Decidable s.Pending :=
  match h : s.store.latestDirtyRevision with
  | none => .isFalse fun ⟨_, hmem, _⟩ => by
      rw [h] at hmem
      cases hmem
  | some revision =>
    decidable_of_iff (s.store.persistedRevision < revision ∧
      ∀ version ∈ s.saving, version.revision < revision) <| by
        unfold SavingStore.Pending
        simp [h]

variable (C) in
/-- A marked command is committed before the revisions run out, and a tick that changes what is
    saved while a save is still to come. -/
def StoreStep.Covered (s : SavingStore) : StoreStep → Prop
  | .apply command _ _ =>
    command.requiresPersistence = true → s.store.active.revision.value < u64Max
  | .builtinTick nowMs =>
    s.Pending ∨ ∀ events core, s.store.active.state.tick C nowMs = .ok (events, core) →
      SavedAlike C core s.store.active.state
  | .gameplayTicks preparedTicks =>
    s.Pending ∨ ∀ events mutation,
      CoreStore.applyTickBatches C preparedTicks (.fromVersion s.store.active) =
          .ok (events, mutation) →
        SavedAlike C mutation.state s.store.active.state
  | .saveBegins => True
  | .saveEnds => True

variable (C) in
def SavingStore.CoveredRun : SavingStore → List StoreStep → Prop
  | _, [] => True
  | s, step :: rest => step.Covered C s ∧ (s.step C step).CoveredRun rest

variable (C) in
/-- The storage, and the save that is running, are behind the active version only by what is
    marked. -/
structure SavingStore.Sound (s : SavingStore) : Prop where
  persisted : s.store.persistedRevision ≤ s.store.active.revision
  dirty : ∀ revision ∈ s.store.latestDirtyRevision, revision ≤ s.store.active.revision
  saving : ∀ version ∈ s.saving, s.store.persistedRevision < version.revision ∧
    version.revision ≤ s.store.active.revision
  captured : ∀ version ∈ s.saving,
    (∀ revision ∈ s.store.latestDirtyRevision, revision ≤ version.revision) →
      SavedAlike C s.store.active.state version.state
  written : s.store.dirty = false →
    ∃ core, core.snapshot C = .ok s.written ∧ SavedAlike C s.store.active.state core

theorem CoreStore.dirty_eq_false : store.dirty = false ↔
    ∀ revision ∈ store.latestDirtyRevision, revision ≤ store.persistedRevision := by
  unfold CoreStore.dirty
  cases store.latestDirtyRevision with
  | none => simp
  | some revision => simp [CoreRevision.lt_def, CoreRevision.le_def]

theorem SavingStore.Sound.new {core : ServerCore} {stored : WorldSnapshot}
    (h : core.snapshot C = .ok stored) : (SavingStore.new core stored).Sound C where
  persisted := Nat.le_refl _
  dirty := by
    intro revision hrevision
    cases hrevision
  saving := by
    intro version hversion
    cases hversion
  captured := by
    intro version hversion
    cases hversion
  written := fun _ => ⟨core, h, .refl core⟩

section Steps

variable {s : SavingStore}

theorem SavingStore.Sound.replaced (h : s.Sound C)
    (hrevision : s.store.active.revision ≤ next.revision)
    (halike : SavedAlike C next.state s.store.active.state) :
    SavingStore.Sound C { s with store.active := next } where
  persisted := Nat.le_trans h.persisted hrevision
  dirty := fun revision hmem => Nat.le_trans (h.dirty revision hmem) hrevision
  saving := fun version hmem =>
    ⟨(h.saving version hmem).1, Nat.le_trans (h.saving version hmem).2 hrevision⟩
  captured := fun version hmem hbehind => halike.trans (h.captured version hmem hbehind)
  written := by
    intro hclean
    obtain ⟨core, hwritten, hcore⟩ := h.written hclean
    exact ⟨core, hwritten, halike.trans hcore⟩

theorem SavingStore.Sound.pending (h : s.Sound C) (hpending : s.Pending)
    (hrevision : s.store.active.revision ≤ next.revision) :
    SavingStore.Sound C { s with store.active := next } where
  persisted := Nat.le_trans h.persisted hrevision
  dirty := fun revision hmem => Nat.le_trans (h.dirty revision hmem) hrevision
  saving := fun version hmem =>
    ⟨(h.saving version hmem).1, Nat.le_trans (h.saving version hmem).2 hrevision⟩
  captured := by
    intro version hmem hbehind
    obtain ⟨revision, hdirty, -, hcaptured⟩ := hpending
    exact absurd (hbehind revision hdirty) (Nat.not_le_of_lt (hcaptured version hmem))
  written := by
    intro hclean
    obtain ⟨revision, hdirty, hpersisted, -⟩ := hpending
    exact absurd (CoreStore.dirty_eq_false.mp hclean revision hdirty)
      (Nat.not_le_of_lt hpersisted)

theorem SavingStore.Sound.marked (h : s.Sound C) :
    SavingStore.Sound C
      { s with store.latestDirtyRevision := some s.store.active.revision } where
  persisted := h.persisted
  dirty := by
    intro revision hmem
    cases hmem
    exact Nat.le_refl _
  saving := h.saving
  captured := by
    intro version hmem hbehind
    refine h.captured version hmem fun revision hdirty => ?_
    exact Nat.le_trans (h.dirty revision hdirty) (hbehind _ rfl)
  written := by
    intro hclean
    refine h.written (CoreStore.dirty_eq_false.mpr fun revision hdirty => ?_)
    exact Nat.le_trans (h.dirty revision hdirty) (CoreStore.dirty_eq_false.mp hclean _ rfl)

theorem SavingStore.Sound.newRevision (h : s.Sound C)
    (hnext : next.revision = s.store.active.revision.next)
    (hbound : s.store.active.revision.value < u64Max) : SavingStore.Sound C
      { s with
        store.active := next
        store.latestDirtyRevision := some next.revision } := by
  have hlt : s.store.active.revision < next.revision := by
    rw [hnext, CoreRevision.lt_def, CoreRevision.next_value]
    omega
  constructor
  · exact Nat.le_of_lt (Nat.lt_of_le_of_lt h.persisted hlt)
  · intro revision hmem
    cases hmem
    exact Nat.le_refl _
  · intro version hmem
    obtain ⟨hpersisted, hle⟩ := h.saving version hmem
    exact ⟨hpersisted, Nat.le_of_lt (Nat.lt_of_le_of_lt hle hlt)⟩
  · intro version hmem hbehind
    have hcaptured := Nat.lt_of_le_of_lt (h.saving version hmem).2 hlt
    exact absurd (hbehind _ rfl) (Nat.not_le_of_lt hcaptured)
  · intro hclean
    have hpersisted := Nat.lt_of_le_of_lt h.persisted hlt
    exact absurd (CoreStore.dirty_eq_false.mp hclean _ rfl) (Nat.not_le_of_lt hpersisted)

theorem CoreStore.Publishes.revision_le {marked : Bool} (h : store.Publishes marked store') :
    store.active.revision ≤ store'.active.revision := by
  cases h with
  | nothing => exact Nat.le_refl _
  | version next hrevision =>
    rcases hrevision with hnext | ⟨hsame, -⟩
    · show store.active.revision ≤ next.revision
      rw [hnext]
      exact CoreRevision.le_next _
    · show store.active.revision ≤ next.revision
      rw [hsame]
      exact Nat.le_refl _

theorem SavingStore.Sound.unmarked (h : s.Sound C) (hpublish : s.store.Publishes false store')
    (hcovered : s.Pending ∨ SavedAlike C store'.active.state s.store.active.state) :
    SavingStore.Sound C { s with store := store' } := by
  have hrevision := hpublish.revision_le
  cases hpublish with
  | nothing => exact h
  | version next hnext =>
    rcases hcovered with hpending | halike
    · exact h.pending hpending hrevision
    · exact h.replaced hrevision halike

theorem SavingStore.Sound.markedCommit (h : s.Sound C) (hpublish : s.store.Publishes true store')
    (hbound : s.store.active.revision.value < u64Max) :
    SavingStore.Sound C { s with store := store' } := by
  cases hpublish with
  | nothing => exact h
  | version next hnext =>
    rcases hnext with hnext | ⟨hrevision, hstate⟩
    · exact h.newRevision hnext hbound
    · have hsame : next = s.store.active := by
        cases next
        cases hactive : s.store.active
        simp_all
      subst hsame
      exact h.marked

theorem SavingStore.Sound.saveBegins (h : s.Sound C) : (s.step C .saveBegins).Sound C := by
  unfold SavingStore.step
  dsimp only
  split
  · next hbegins =>
    have hdirty : ¬ s.store.dirty = false := by
      rw [hbegins.2]
      simp
    constructor
    · exact h.persisted
    · exact h.dirty
    · intro version hmem
      cases hmem
      refine ⟨?_, Nat.le_refl _⟩
      rw [CoreStore.dirty_eq_false] at hdirty
      push Not at hdirty
      obtain ⟨revision, hmem, hlt⟩ := hdirty
      exact Nat.lt_of_lt_of_le (Nat.lt_of_not_le hlt) (h.dirty revision hmem)
    · intro version hmem _
      cases hmem
      exact .refl _
    · intro hclean
      exact absurd hclean hdirty
  · exact h

theorem SavingStore.Sound.saveEnds (h : s.Sound C) : (s.step C .saveEnds).Sound C := by
  unfold SavingStore.step
  cases hsaving : s.saving with
  | none => exact h
  | some version =>
    obtain ⟨hpersisted, hle⟩ := h.saving version hsaving
    dsimp only
    cases hsnapshot : version.state.snapshot C with
    | error message =>
      constructor
      · exact h.persisted
      · exact h.dirty
      · intro other hmem
        cases hmem
      · intro other hmem
        cases hmem
      · exact h.written
    | ok snapshot =>
      dsimp only
      rw [if_pos hpersisted]
      constructor
      · exact hle
      · exact h.dirty
      · intro other hmem
        cases hmem
      · intro other hmem
        cases hmem
      · intro hclean
        refine ⟨version.state, hsnapshot, h.captured version hsaving ?_⟩
        exact CoreStore.dirty_eq_false.mp hclean

/-- A call that runs to its end keeps the store sound; one that panics publishes nothing. -/
theorem SavingStore.Sound.after (h : s.Sound C)
    {result : Panics (Except String CoreCommandOutcome × CoreStore)}
    (hcall : ∀ outcome store', result = .ok (outcome, store') →
      SavingStore.Sound C { s with store := store' }) : (s.after result).Sound C := by
  rcases result with message | ⟨outcome, store'⟩
  · exact h
  · exact hcall outcome store' rfl

theorem SavingStore.Sound.step (h : s.Sound C) {step : StoreStep} (hcovered : step.Covered C s) :
    (s.step C step).Sound C := by
  cases step with
  | apply command invocation nowMs =>
    apply h.after
    intro outcome store' hcall
    have hpublish := CoreStore.applyCommand_publishes hcall
    cases hmarked : command.requiresPersistence with
    | true =>
      rw [hmarked] at hpublish
      exact h.markedCommit hpublish (hcovered hmarked)
    | false =>
      rw [hmarked] at hpublish
      exact h.unmarked hpublish (.inr (CoreStore.applyCommand_savedAlike hmarked hcall))
  | builtinTick nowMs =>
    apply h.after
    intro outcome store' hcall
    apply h.unmarked (CoreStore.applyBuiltinTick_publishes hcall)
    rcases hcovered with hpending | halike
    · exact .inl hpending
    · obtain ⟨events, core, htick, hstate⟩ := CoreStore.applyBuiltinTick_state hcall
      rw [hstate]
      exact .inr (halike events core htick)
  | gameplayTicks preparedTicks =>
    apply h.after
    intro outcome store' hcall
    apply h.unmarked (CoreStore.commitGameplayTicks_publishes hcall)
    rcases hcovered with hpending | halike
    · exact .inl hpending
    · rcases CoreStore.commitGameplayTicks_state hcall with rfl | ⟨events, mutation, hbatches, hstate⟩
      · exact .inr (.refl _)
      · rw [hstate]
        exact .inr (halike events mutation hbatches)
  | saveBegins => exact h.saveBegins
  | saveEnds => exact h.saveEnds

theorem SavingStore.Sound.run (h : s.Sound C) {steps : List StoreStep}
    (hcovered : s.CoveredRun C steps) : (s.run C steps).Sound C := by
  induction steps generalizing s with
  | nil => exact h
  | cons step rest ih => exact ih (h.step hcovered.1) hcovered.2

theorem SavingStore.Sound.saveFails {s : SavingStore} (h : s.Sound C) :
    SavingStore.Sound C { s with saving := none } where
  persisted := h.persisted
  dirty := h.dirty
  saving := by
    intro version hversion
    cases hversion
  captured := by
    intro version hversion
    cases hversion
  written := h.written

theorem CoreStore.dirty_of_publishes {marked : Bool}
    (hbound : ∀ revision ∈ store.latestDirtyRevision, revision ≤ store.active.revision)
    (hpublish : store.Publishes marked store') (hdirty : store.dirty = true) :
    store'.dirty = true := by
  have hle := hpublish.revision_le
  rw [← Bool.not_eq_false, CoreStore.dirty_eq_false] at hdirty ⊢
  intro hclean
  apply hdirty
  intro revision hmem
  cases hpublish with
  | nothing => exact hclean revision hmem
  | version next hnext =>
    cases marked with
    | false => exact hclean revision hmem
    | true =>
      exact Nat.le_trans (hbound revision hmem) (Nat.le_trans hle (hclean _ rfl))

theorem SavingStore.after_publishes {s : SavingStore} {marked : Bool}
    {result : Panics (Except String CoreCommandOutcome × CoreStore)}
    (h : ∀ outcome store', result = .ok (outcome, store') → s.store.Publishes marked store') :
    s.store.Publishes marked (s.after result).store ∧ (s.after result).saving = s.saving ∧
      (s.after result).written = s.written := by
  rcases result with message | ⟨outcome, store'⟩
  · exact ⟨.nothing, rfl, rfl⟩
  · exact ⟨h outcome store' rfl, rfl, rfl⟩

/-- The steps of a store: a call publishes, a save begins with what is active, and a save that
    ends writes what it has captured. -/
theorem SavingStore.step_cases (s : SavingStore) (step : StoreStep) :
    (step ≠ .saveBegins ∧ step ≠ .saveEnds ∧
      ∃ marked, s.store.Publishes marked (s.step C step).store ∧
        (s.step C step).saving = s.saving ∧ (s.step C step).written = s.written) ∨
    (step = .saveBegins ∧ (s.step C step).store = s.store ∧
      (s.step C step).written = s.written ∧
      ((s.step C step).saving = s.saving ∨
        s.store.dirty = true ∧ (s.step C step).saving = some s.store.active)) ∨
    (step = .saveEnds ∧ (s.step C step).saving = none) := by
  cases step with
  | apply command invocation nowMs =>
    exact .inl ⟨nofun, nofun, _, SavingStore.after_publishes fun _ _ hcall =>
      CoreStore.applyCommand_publishes hcall⟩
  | builtinTick nowMs =>
    exact .inl ⟨nofun, nofun, _, SavingStore.after_publishes fun _ _ hcall =>
      CoreStore.applyBuiltinTick_publishes hcall⟩
  | gameplayTicks preparedTicks =>
    exact .inl ⟨nofun, nofun, _, SavingStore.after_publishes fun _ _ hcall =>
      CoreStore.commitGameplayTicks_publishes hcall⟩
  | saveBegins =>
    refine .inr (.inl ⟨rfl, ?_⟩)
    unfold SavingStore.step
    dsimp only
    split
    · next hbegins => exact ⟨rfl, rfl, .inr ⟨hbegins.2, rfl⟩⟩
    · exact ⟨rfl, rfl, .inl rfl⟩
  | saveEnds =>
    refine .inr (.inr ⟨rfl, ?_⟩)
    unfold SavingStore.step
    dsimp only
    cases hsaving : s.saving with
    | none => exact hsaving
    | some version =>
      dsimp only
      cases version.state.snapshot C with
      | error message => rfl
      | ok snapshot => rfl

end Steps

/-- **Nothing is forgotten.**  In a run in which every tick that changes what is saved is committed
    while a save is still to come, a store that is not dirty has in its storage what a snapshot of
    the active version would hold. -/
theorem clean_store_is_saved {core : ServerCore} {stored : WorldSnapshot}
    (hstored : core.snapshot C = .ok stored) {steps : List StoreStep}
    (hcovered : (SavingStore.new core stored).CoveredRun C steps)
    (hclean : ((SavingStore.new core stored).run C steps).store.dirty = false) :
    ∃ snapshot,
      ((SavingStore.new core stored).run C steps).store.active.state.snapshot C = .ok snapshot ∧
      snapshot.SameWorld C ((SavingStore.new core stored).run C steps).written := by
  obtain ⟨written, hwritten, halike⟩ := ((SavingStore.Sound.new hstored).run hcovered).written hclean
  exact halike.snapshot hwritten

theorem furnaceWorld_snapshot :
    (ServerCore.fromSnapshot .default furnaceWorld).snapshot canonicalContent =
      .ok furnaceWorld := rfl

def furnaceStore : SavingStore := .new (.fromSnapshot .default furnaceWorld) furnaceWorld

/-- A player joins, time passes, and the store is saved. -/
def joinedAndSaved : List StoreStep :=
  [.apply (.loginStart ⟨1⟩ "alice" ⟨7⟩) .internal 5, .builtinTick 55, .saveBegins, .saveEnds]

theorem clean_store_is_saved_joined :
    (furnaceStore.run canonicalContent joinedAndSaved).store.dirty = false ∧
      ∃ snapshot,
        (furnaceStore.run canonicalContent joinedAndSaved).store.active.state.snapshot
          canonicalContent = .ok snapshot ∧
        snapshot.SameWorld canonicalContent
          (furnaceStore.run canonicalContent joinedAndSaved).written := by
  have hpending : (furnaceStore.step canonicalContent
      (.apply (.loginStart ⟨1⟩ "alice" ⟨7⟩) .internal 5)).Pending := by
    decide +kernel
  have hcovered : furnaceStore.CoveredRun canonicalContent joinedAndSaved :=
    ⟨fun _ => by decide +kernel, .inl hpending, trivial, trivial, trivial⟩
  have hclean : (furnaceStore.run canonicalContent joinedAndSaved).store.dirty = false := by
    decide +kernel
  unfold furnaceStore at hcovered hclean ⊢
  exact ⟨hclean, clean_store_is_saved furnaceWorld_snapshot hcovered hclean⟩

/-- The commands of a run of a core, as internal calls of the store. -/
def internalCalls (steps : List CoreStep) : List StoreStep :=
  steps.filterMap fun step =>
    match step with
    | .apply command nowMs => some (.apply command .internal nowMs)
    | _ => none

/-- The furnace is filled and saved, and then it burns. -/
def burnedAfterSave : List StoreStep :=
  internalCalls furnaceFed ++ [.saveBegins, .saveEnds, .builtinTick 55]

theorem burned_furnace_is_forgotten :
    (furnaceStore.run canonicalContent burnedAfterSave).store.dirty = false ∧
      ¬ ∃ snapshot,
        (furnaceStore.run canonicalContent burnedAfterSave).store.active.state.snapshot
          canonicalContent = .ok snapshot ∧
        snapshot.SameWorld canonicalContent
          (furnaceStore.run canonicalContent burnedAfterSave).written := by
  have hchanged : (furnaceStore.run canonicalContent burnedAfterSave).store.dirty = false ∧
      (furnaceStore.run canonicalContent burnedAfterSave).store.active.state.world.blockEntities ≠
        (furnaceStore.run canonicalContent burnedAfterSave).written.blockEntities := by
    decide +kernel
  generalize furnaceStore.run canonicalContent burnedAfterSave = s at hchanged ⊢
  refine ⟨hchanged.1, ?_⟩
  rintro ⟨snapshot, hsnapshot, hsame⟩
  obtain ⟨players, -, hdone⟩ := except_bind_eq_ok.mp hsnapshot
  cases hdone
  exact hchanged.2 hsame.blockEntities

end RevyCraft
