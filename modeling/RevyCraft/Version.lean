/-
  RevyCraft/Version.lean
  ======================
  **Versions, mutations and their transfer** (`core/version.rs`): an immutable
  revision of a core, the batches that lead to the next one, and the two ways
  a successor process gets hold of it — the complete snapshot and the delta of
  committed mutations.

  The transfer records list the fields of the three stores, and a shared
  component is its value, so the record of a store is the store.
-/
import RevyCraft.Command

namespace RevyCraft

open Bytes

/-! ### Versions -/

structure CoreVersion where
  revision : CoreRevision
  state : ServerCore
  deriving DecidableEq

def CoreVersion.initial (state : ServerCore) : CoreVersion := ⟨.initial, state⟩

/-- A mutation as it is recorded for the successor process. -/
inductive CoreTransferMutation where
  | command (command : CoreCommand) (nowMs : Nat)
  | builtinGameplayCommand (command : GameplayCommand) (nowMs : Nat)
  | builtinTick (nowMs : Nat)
  | gameplayEffects (nowMs : Nat) (effects : List GameplayEffect)
  | loginEffects (connectionId : ConnectionId) (username : String) (playerId : PlayerId)
      (nowMs : Nat) (effects : List GameplayEffect)
  | setMaxPlayers (maxPlayers : Nat)
  | reconfigure (config : CoreConfig)
  deriving DecidableEq

abbrev CoreCommit : Type := CoreTransferCommit CoreTransferMutation

/-! ### The snapshot -/

structure CoreTransferSnapshotV1 where
  formatMajor : Nat
  revision : CoreRevision
  world : WorldStore
  entities : EntityStore
  sessions : SessionStore
  deriving DecidableEq

structure CoreTransferSnapshot where
  revision : CoreRevision
  bytes : ByteArr
  deriving DecidableEq

def hexDigits (width n : Nat) : List Char :=
  let digits := Nat.toDigits 16 n
  List.replicate (width - digits.length) '0' ++ digits

/-- A UUID is printed in hyphenated groups. -/
def PlayerId.hyphenated (playerId : PlayerId) : String :=
  let digits := hexDigits 32 playerId.uuid
  let groups := [digits.take 8, (digits.drop 8).take 4, (digits.drop 12).take 4,
    (digits.drop 16).take 4, digits.drop 20]
  "-".intercalate (groups.map String.ofList)

/-- The `Debug` text of an id. -/
def PlayerId.debug (playerId : PlayerId) : String := s!"PlayerId({playerId.hyphenated})"

def EntityId.debug (entityId : EntityId) : String := s!"EntityId({entityId.value})"

namespace CoreTransferSnapshotV1

def fromVersion (version : CoreVersion) : CoreTransferSnapshotV1 where
  formatMajor := CORE_TRANSFER_FORMAT_MAJOR
  revision := version.revision
  world := version.state.world
  entities := version.state.entities
  sessions := version.state.sessions

/-- The checks of an indexed player. -/
def validatePlayer (snapshot : CoreTransferSnapshotV1) (playerId : PlayerId)
    (entityId : EntityId) : Except CoreTransferError Unit :=
  let entities := snapshot.entities
  if entities.entityKinds[entityId]? ≠ some .player then
    .error (.invalidState
      s!"player {playerId.debug} references non-player entity {entityId.debug}")
  else if entities.playerIdentity[entityId]?.all fun identity => identity.playerId ≠ playerId then
    .error (.invalidState
      s!"player {playerId.debug} has no matching identity for entity {entityId.debug}")
  else if !entities.playerTransform.contains entityId || !entities.playerVitals.contains entityId ||
      !entities.playerInventory.contains entityId ||
      !entities.playerSelectedHotbar.contains entityId then
    .error (.invalidState s!"player entity {entityId.debug} is missing a required component")
  else if snapshot.sessions.playerSessions[playerId]?.all fun session =>
      session.entityId ≠ entityId then
    .error (.invalidState s!"player {playerId.debug} has no matching live session")
  else .ok ()

def validateIdentity (snapshot : CoreTransferSnapshotV1) (entityId : EntityId)
    (identity : PlayerIdentity) : Except CoreTransferError Unit :=
  if snapshot.entities.playersByPlayerId[identity.playerId]? ≠ some entityId then
    .error (.invalidState s!"player identity for entity {entityId.debug} is not indexed")
  else .ok ()

def validateSession (snapshot : CoreTransferSnapshotV1) (playerId : PlayerId)
    (session : PlayerSessionState) : Except CoreTransferError Unit :=
  if snapshot.entities.playersByPlayerId[playerId]? ≠ some session.entityId then
    .error (.invalidState
      s!"session for player {playerId.debug} is not indexed by its entity")
  else .ok ()

def validateDroppedItem (snapshot : CoreTransferSnapshotV1) (entityId : EntityId) :
    Except CoreTransferError Unit :=
  if snapshot.entities.entityKinds[entityId]? ≠ some .droppedItem then
    .error (.invalidState s!"dropped item {entityId.debug} has no dropped-item entity kind")
  else .ok ()

def validate (snapshot : CoreTransferSnapshotV1) : Except CoreTransferError Unit := do
  snapshot.entities.playersByPlayerId.toList.forM fun (playerId, entityId) =>
    snapshot.validatePlayer playerId entityId
  snapshot.entities.playerIdentity.toList.forM fun (entityId, identity) =>
    snapshot.validateIdentity entityId identity
  snapshot.sessions.playerSessions.toList.forM fun (playerId, session) =>
    snapshot.validateSession playerId session
  snapshot.entities.droppedItems.keys.forM fun entityId =>
    snapshot.validateDroppedItem entityId
  if snapshot.entities.entityKinds.contains ⟨snapshot.entities.nextEntityId⟩ then
    .error (.invalidState "next entity id is already occupied")
  else .ok ()

def intoVersion (snapshot : CoreTransferSnapshotV1) : Except CoreTransferError CoreVersion := do
  if snapshot.formatMajor ≠ CORE_TRANSFER_FORMAT_MAJOR then
    .error (.unsupportedFormat snapshot.formatMajor)
  else
    snapshot.validate
    pure ⟨snapshot.revision, ⟨snapshot.world, snapshot.entities, snapshot.sessions⟩⟩

end CoreTransferSnapshotV1

namespace CoreVersion

def prepareProcessTransfer (c : Codec CoreTransferSnapshotV1) (version : CoreVersion) :
    Except CoreTransferError CoreTransferSnapshot := do
  let bytes ← encodeTransfer c (.fromVersion version) MAX_CORE_TRANSFER_BYTES
  pure ⟨version.revision, bytes⟩

def importProcessTransfer (c : Codec CoreTransferSnapshotV1) (bytes : ByteArr) :
    Except CoreTransferError CoreVersion := do
  let snapshot ← decodeTransfer c bytes
  snapshot.intoVersion

end CoreVersion

/-! ### Replaying a delta -/

namespace CoreDeltaReader

/-- `CoreDeltaReader::new`. -/
def new (bytes : ByteArr) : Except CoreTransferError ByteArr :=
  if bytes.length > MAX_CORE_TRANSFER_BYTES then
    .error (.budgetExceeded bytes.length MAX_CORE_TRANSFER_BYTES)
  else if bytes.length < CORE_DELTA_HEADER_BYTES then
    .error (.invalidState "core delta header is truncated")
  else .ok bytes

/-- `read_bytes`: the bytes asked for and what remains. -/
def readBytes (remaining : ByteArr) (length : Nat) : Except CoreTransferError (ByteArr × ByteArr) :=
  if length > remaining.length then .error (.invalidState "core delta frame is truncated")
  else .ok (remaining.take length, remaining.drop length)

/-- `read_u16`, `read_u32` and `read_u64`. -/
def readUnsigned (width : Nat) (remaining : ByteArr) : Except CoreTransferError (Nat × ByteArr) := do
  let (value, remaining) ← readBytes remaining width
  pure (leValue value, remaining)

def finish (remaining : ByteArr) : Except CoreTransferError Unit :=
  if remaining.isEmpty then .ok () else .error (.trailingBytes remaining.length)

end CoreDeltaReader

/-- The errors of the transfer layer and the panics of the core, together. -/
def orFault {α : Type} : Except CoreTransferError α → Except Fault α
  | .ok a => .ok a
  | .error error => .error (.error error)

def orPanic {α : Type} : Panics α → Except Fault α
  | .ok a => .ok a
  | .error message => .error (.panic message)

variable (C : ContentBehavior)

def CoreTransferMutation.apply (mutation : CoreTransferMutation) (state : ServerCore) :
    Except Fault ServerCore :=
  match mutation with
  | .command issued nowMs => do
    let (_, state) ← orPanic (state.applyCommand C issued nowMs)
    pure state
  | .builtinGameplayCommand issued nowMs => do
    let (_, state) ← orPanic (state.applyBuiltinGameplayCommand C issued nowMs)
    pure state
  | .builtinTick nowMs => do
    let (_, state) ← orPanic (state.tick C nowMs)
    pure state
  | .gameplayEffects nowMs effects => do
    let (_, state) ← orPanic (state.applyCommittedGameplayEffects C nowMs effects)
    pure state
  | .loginEffects connectionId username playerId nowMs effects => do
    match ← orPanic
      (state.applyCommittedLoginEffects C connectionId username playerId nowMs effects) with
    | (.conflict, _) => .error (.error (.invalidState
        "committed login effects conflicted during core delta replay"))
    | (.applied _, state) => pure state
  | .setMaxPlayers maxPlayers => .ok (state.setMaxPlayers maxPlayers)
  | .reconfigure config => .ok (state.reconfigure config)

/-- The loop over the mutations of a commit. -/
def applyMutations : List CoreTransferMutation → ServerCore → Except Fault ServerCore
  | [], state => .ok state
  | mutation :: rest, state => do
    let state ← mutation.apply C state
    applyMutations rest state

def commitNotAdjacent (base next revision : CoreRevision) : CoreTransferError :=
  .invalidState s!"core delta commit {base.value} -> {next.value} is not adjacent to revision {revision.value}"

variable (c : Codec CoreCommit)

/-- The loop over the frames of a delta, and the bytes after them. -/
def applyFrames : Nat → ByteArr → CoreRevision → ServerCore →
    Except Fault (ByteArr × CoreRevision × ServerCore)
  | 0, remaining, revision, state => .ok (remaining, revision, state)
  | count + 1, remaining, revision, state => do
    let (frameLen, remaining) ← orFault (CoreDeltaReader.readUnsigned 4 remaining)
    let (frame, remaining) ← orFault (CoreDeltaReader.readBytes remaining frameLen)
    let commit ← orFault (decodeTransfer c frame)
    if commit.baseRevision ≠ revision ∨ commit.nextRevision ≠ revision.next then
      .error (.error (commitNotAdjacent commit.baseRevision commit.nextRevision revision))
    else
      let state ← applyMutations C commit.mutations state
      applyFrames count remaining commit.nextRevision state

def CoreVersion.applyProcessTransferDelta (version : CoreVersion) (bytes : ByteArr) :
    Except Fault CoreVersion := do
  let remaining ← orFault (CoreDeltaReader.new bytes)
  let (magic, remaining) ← orFault (CoreDeltaReader.readBytes remaining 8)
  if magic ≠ CORE_DELTA_MAGIC then
    .error (.error (.invalidState "core delta magic is invalid"))
  else
    let (formatMajor, remaining) ← orFault (CoreDeltaReader.readUnsigned 2 remaining)
    if formatMajor ≠ CORE_TRANSFER_FORMAT_MAJOR then
      .error (.error (.unsupportedFormat formatMajor))
    else
      let (baseRevision, remaining) ← orFault (CoreDeltaReader.readUnsigned 8 remaining)
      let (finalRevision, remaining) ← orFault (CoreDeltaReader.readUnsigned 8 remaining)
      let (commitCount, remaining) ← orFault (CoreDeltaReader.readUnsigned 4 remaining)
      if commitCount > MAX_COMMITS then
        .error (.error (.budgetExceeded commitCount MAX_COMMITS))
      else if baseRevision ≠ version.revision.value then
        .error (.error (.invalidState
          s!"core delta base revision {baseRevision} does not match imported revision {version.revision.value}"))
      else
        let (remaining, revision, state) ←
          applyFrames C c commitCount remaining version.revision version.state
        orFault (CoreDeltaReader.finish remaining)
        if revision.value ≠ finalRevision then
          .error (.error (.invalidState
            s!"core delta ended at revision {revision.value} instead of declared revision {finalRevision}"))
        else pure ⟨revision, state⟩

/-! ### Mutating a version -/

structure CoreMutation where
  baseRevision : CoreRevision
  state : ServerCore
  transferMutations : List CoreTransferMutation

structure PreparedCoreCommit where
  baseRevision : CoreRevision
  nextVersion : CoreVersion
  events : List TargetedEvent
  requiresPersistence : Bool
  transferMutations : List CoreTransferMutation

namespace CoreMutation

def fromVersion (base : CoreVersion) : CoreMutation := ⟨base.revision, base.state, []⟩

/-- The mutation with its next state, and the record of what was done. -/
def recorded (mutation : CoreMutation) (state : ServerCore) (record : CoreTransferMutation) :
    CoreMutation :=
  { mutation with
    state := state, transferMutations := mutation.transferMutations ++ [record] }

def applyCommand (mutation : CoreMutation) (command : CoreCommand) (nowMs : Nat) :
    Panics (List TargetedEvent × CoreMutation) := do
  let (events, state) ← mutation.state.applyCommand C command nowMs
  pure (events, mutation.recorded state (.command command nowMs))

def applyBuiltinGameplayCommand (mutation : CoreMutation) (command : GameplayCommand)
    (nowMs : Nat) : Panics (List TargetedEvent × CoreMutation) := do
  let (events, state) ← mutation.state.applyBuiltinGameplayCommand C command nowMs
  pure (events, mutation.recorded state (.builtinGameplayCommand command nowMs))

def tick (mutation : CoreMutation) (nowMs : Nat) :
    Panics (List TargetedEvent × CoreMutation) := do
  let (events, state) ← mutation.state.tick C nowMs
  pure (events, mutation.recorded state (.builtinTick nowMs))

def validateAndApplyGameplayEffects (mutation : CoreMutation) (batch : GameplayEffectBatch) :
    Panics (GameplayEffectApplyResult × CoreMutation) := do
  match ← mutation.state.validateAndApplyGameplayEffects C batch with
  | (.conflict, state) => pure (.conflict, { mutation with state := state })
  | (.applied events, state) =>
    pure (.applied events,
      if batch.effects.isEmpty then { mutation with state := state }
      else mutation.recorded state (.gameplayEffects batch.nowMs batch.effects))

def validateAndApplyLoginEffects (mutation : CoreMutation) (connectionId : ConnectionId)
    (username : String) (playerId : PlayerId) (batch : GameplayEffectBatch) :
    Panics (GameplayEffectApplyResult × CoreMutation) := do
  match ← mutation.state.validateAndApplyLoginEffects C connectionId username playerId batch with
  | (.conflict, state) => pure (.conflict, { mutation with state := state })
  | (.applied events, state) =>
    pure (.applied events, mutation.recorded state
      (.loginEffects connectionId username playerId batch.nowMs batch.effects))

def setMaxPlayers (mutation : CoreMutation) (maxPlayers : Nat) : CoreMutation :=
  mutation.recorded (mutation.state.setMaxPlayers maxPlayers) (.setMaxPlayers maxPlayers)

def reconfigure (mutation : CoreMutation) (config : CoreConfig) : CoreMutation :=
  mutation.recorded (mutation.state.reconfigure config) (.reconfigure config)

def prepare (mutation : CoreMutation) (events : List TargetedEvent) (requiresPersistence : Bool) :
    PreparedCoreCommit where
  baseRevision := mutation.baseRevision
  nextVersion :=
    { revision :=
        if mutation.transferMutations.isEmpty then mutation.baseRevision
        else mutation.baseRevision.next
      state := mutation.state }
  events := events
  requiresPersistence := requiresPersistence
  transferMutations := mutation.transferMutations

end CoreMutation

/-- `into_parts`. -/
def PreparedCoreCommit.intoParts (commit : PreparedCoreCommit) :
    CoreVersion × List TargetedEvent × Bool × CoreCommit :=
  (commit.nextVersion, commit.events, commit.requiresPersistence,
    ⟨commit.baseRevision, commit.nextVersion.revision, commit.requiresPersistence,
      commit.transferMutations⟩)

end RevyCraft
