/-
  RevyCraft/Command.lean
  ======================
  **Commands and ticks** (`core/command.rs`, `core/tick.rs`,
  `collect_active_mining_ops` of `core/mining.rs`): the operations that a
  client's command or the passing of time turns into.
-/
import RevyCraft.Transaction

namespace RevyCraft

open Prog (filterMap)
open RevyCraft.Core

/-! ### The scheduler -/

/-- The next step of what an entity mines, if there is one. -/
def activeMiningOp (nowMs : Nat) (entityId : EntityId) : CoreM (Option CoreOp) := do
  let some miningState ← playerActiveMiningByEntity entityId | pure none
  let some identity ← playerIdentityByEntity entityId | pure none
  let elapsedMs := nowMs - miningState.startedAtMs
  if elapsedMs ≥ miningState.durationMs then
    pure (some (.completeMining identity.playerId miningState.position))
  else
    let nextStage := min (elapsedMs * 10) u64Max / miningState.durationMs % 256
    if some nextStage ≠ miningState.lastStage then
      pure (some (.advanceMiningStage identity.playerId entityId miningState.position
        (min nextStage 9) miningState.durationMs))
    else pure none

def collectActiveMiningOps (nowMs : Nat) : CoreM (List CoreOp) := do
  filterMap (activeMiningOp nowMs) (← playerEntityIds).toList

def keepaliveOp (nowMs keepaliveTimeoutMs : Nat) (playerId : PlayerId) :
    CoreM (Option CoreOp) := do
  let some session ← playerSession playerId | pure none
  if session.lastKeepAliveSentAt.any fun sentAt => nowMs - sentAt > keepaliveTimeoutMs then
    pure (some (.disconnectPlayer playerId))
  else if session.pendingKeepAliveId.isNone ∧ nowMs ≥ session.nextKeepAliveAt then
    pure (some (.requestKeepAlive playerId))
  else pure none

def collectKeepaliveOps (nowMs keepaliveTimeoutMs : Nat) : CoreM (List CoreOp) := do
  filterMap (keepaliveOp nowMs keepaliveTimeoutMs) (← playerIds)

def activeContainerOp (playerId : PlayerId) : CoreM (Option CoreOp) := do
  let session ← playerSession playerId
  pure (if session.any fun session => session.activeContainer.isSome then
    some (.tickActiveContainer playerId) else none)

/-- `SystemScheduler::tick`. -/
def schedulerTick (nowMs keepaliveTimeoutMs : Nat) : CoreM (List CoreOp) := do
  let containerOps ← filterMap activeContainerOp (← playerIds)
  let itemOps := (← droppedItemIds).map .tickDroppedItem
  let miningOps ← collectActiveMiningOps nowMs
  let keepaliveOps ← collectKeepaliveOps nowMs keepaliveTimeoutMs
  pure (containerOps ++ itemOps ++ miningOps ++ keepaliveOps)

namespace ServerCore

variable (C : ContentBehavior)

def tick (core : ServerCore) (nowMs : Nat) : Panics (List TargetedEvent × ServerCore) := do
  let ops ← core.ask C (schedulerTick nowMs core.sessions.keepaliveTimeoutMs)
  applyCoreOps C core ops nowMs

/-- The built-in login: begun, finalized and committed in one transaction. -/
def loginStart (core : ServerCore) (connectionId : ConnectionId) (username : String)
    (playerId : PlayerId) (nowMs : Nat) : Panics (List TargetedEvent × ServerCore) := do
  match ← (Tx.beginLogin C connectionId username playerId).run (.new core nowMs) with
  | (some rejection, _) => pure (rejection, core)
  | (none, tx) =>
    match ← (Tx.finalizeLogin C connectionId playerId).run tx with
    | (.error _, _) => .error "built-in login finalize should succeed"
    | (.ok (), tx) => core.commitTransaction C tx

def applyCommand (core : ServerCore) (command : CoreCommand) (nowMs : Nat) :
    Panics (List TargetedEvent × ServerCore) :=
  match command with
  | .loginStart connectionId username playerId =>
    core.loginStart C connectionId username playerId nowMs
  | .updateClientView playerId viewDistance =>
    applyCoreOps C core [.setViewDistance playerId viewDistance] nowMs
  | .inventoryClick playerId transaction target button validation =>
    applyCoreOps C core [.inventoryClick playerId transaction target button validation] nowMs
  | .closeContainer playerId windowId =>
    applyCoreOps C core [.closeContainer playerId windowId true] nowMs
  | .gameplay command => core.applyBuiltinGameplayCommand C command nowMs
  | .keepAliveResponse playerId keepAliveId =>
    applyCoreOps C core [.acknowledgeKeepAlive playerId keepAliveId] nowMs
  | .disconnect playerId => applyCoreOps C core [.disconnectPlayer playerId] nowMs

/-- The players of a snapshot: those saved before, and those online as they would be saved now. -/
def snapshotPlayers (core : ServerCore) :
    List PlayerId → BTreeMap PlayerId PlayerSnapshot → Panics (BTreeMap PlayerId PlayerSnapshot)
  | [], players => .ok players
  | playerId :: rest, players => do
    match ← core.ask C (persistedOnlinePlayerSnapshotState C playerId) with
    | some snapshot => core.snapshotPlayers rest (players.insert playerId snapshot)
    | none => core.snapshotPlayers rest players

def snapshot (core : ServerCore) : Panics WorldSnapshot := do
  let players ← core.snapshotPlayers C core.sessions.playerSessions.keys core.world.savedPlayers
  pure
    { worldMeta := core.world.worldMeta
      chunks := core.world.chunks
      blockEntities := core.world.blockEntities
      players := players }

end ServerCore

/-! ### Runs -/

/-- What makes a core move on: a client's command, the passing of time, or the effects of a
    gameplay plugin. -/
inductive CoreStep where
  | apply (command : CoreCommand) (nowMs : Nat)
  | tick (nowMs : Nat)
  | effects (batch : GameplayEffectBatch)

def CoreStep.run (C : ContentBehavior) (core : ServerCore) :
    CoreStep → Panics (List TargetedEvent × ServerCore)
  | .apply command nowMs => core.applyCommand C command nowMs
  | .tick nowMs => core.tick C nowMs
  | .effects batch => do
    match ← core.validateAndApplyGameplayEffects C batch with
    | (.applied events, core) => pure (events, core)
    | (.conflict, core) => pure ([], core)

/-- The events of a run of steps, in the order in which they are delivered, and the core that it
    ends in. -/
def ServerCore.runSteps (C : ContentBehavior) (core : ServerCore) :
    List CoreStep → Panics (List TargetedEvent × ServerCore)
  | [] => .ok ([], core)
  | step :: rest => do
    let (events, core) ← step.run C core
    let (later, core) ← core.runSteps C rest
    pure (events ++ later, core)

/-- Whether a computation ends normally, in a value that passes the test. -/
def endsWith {α : Type} (p : α → Bool) : Panics α → Bool
  | .ok a => p a
  | .error _ => false

theorem endsWith_iff {α : Type} {p : α → Bool} {x : Panics α} :
    endsWith p x = true ↔ ∃ a, x = .ok a ∧ p a = true := by
  cases x with
  | error message => simp [endsWith]
  | ok a => simp [endsWith]

end RevyCraft
