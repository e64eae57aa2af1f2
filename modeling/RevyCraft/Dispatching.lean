/-
  RevyCraft/Dispatching.lean
  ==========================
  **The way of committed events to the sessions** — `dispatch_events` of
  `runtime/core_loop/events.rs`, the routing of `SessionRegistry`, and the
  directory that the sessions publish themselves in.

  A commit is one step, under the writer lock of the store; its events are then
  routed one by one and sent batch by batch, in steps of their own.  The tasks
  of the sessions and the tick take these steps in any order.  The data-plane
  permits only bound how many tasks are at it, and any number may be here; the
  connection ids count up, and a session is found under its number.

  What a session was sent carries the revision of its commit, which the source
  does not write down.
-/
import RevyCraft.SemanticRules
import RevyCraft.Tasks

namespace RevyCraft.Dispatch

def SESSION_OUTBOUND_QUEUE_CAPACITY : Nat := 256

/-! ### The state -/

/-- An event in a queue, with the revision of its commit; a resynchronisation has none. -/
abbrev Enqueued : Type := Option Nat × CoreEvent

/-- `SessionPhase`, as far as the directory and the events tell phases apart. -/
inductive ActorPhase where
  | login
  | play (playerId : PlayerId)
  | closing
  deriving DecidableEq

def ActorPhase.playerId : ActorPhase → Option PlayerId
  | .play playerId => some playerId
  | _ => none

/-- A session: its handle in the registry, its phase, the player of its directory entry, the
    messages it has handled and those that wait. -/
structure SessionActor where
  registered : Bool
  phase : ActorPhase
  entry : Option PlayerId
  handled : List Enqueued
  queue : List (List Enqueued)
  terminated : Bool

def SessionActor.new : SessionActor := ⟨true, .login, none, [], [], false⟩

/-- All events that were ever put into the queue. -/
def SessionActor.enqueued (actor : SessionActor) : List Enqueued :=
  actor.handled ++ actor.queue.flatten

/-- The commits so far, the sessions, and the `SessionPlayerProjection`. -/
structure RuntimeState where
  log : List (List TargetedEvent)
  sessions : List SessionActor
  players : PlayerId → Option ConnectionId

namespace RuntimeState

def new : RuntimeState := ⟨[], [], fun _ => none⟩

def actor (state : RuntimeState) (connection : ConnectionId) : Option SessionActor :=
  state.sessions[connection.value]?

def update (state : RuntimeState) (connection : ConnectionId) (actor : SessionActor) :
    RuntimeState :=
  { state with sessions := state.sessions.set connection.value actor }

def registered (state : RuntimeState) (connection : ConnectionId) : Bool :=
  (state.actor connection).any SessionActor.registered

/-- `session_entries`. -/
def entries (state : RuntimeState) : List ConnectionId :=
  ((List.range state.sessions.length).map ConnectionId.mk).filter state.registered

/-- `SessionPlayerProjection::publish`. -/
def publishPlayers (state : RuntimeState) (connection : ConnectionId)
    (previous next : Option PlayerId) : RuntimeState :=
  if previous = next then state
  else
    let removed : PlayerId → Option ConnectionId := fun playerId =>
      if some playerId = previous ∧ state.players playerId = some connection then none
      else state.players playerId
    let inserted : PlayerId → Option ConnectionId := fun playerId =>
      if some playerId = next then some connection else removed playerId
    { state with players := inserted }

end RuntimeState

/-! ### The batches of a dispatch -/

/-- `batches`: one batch for each recipient. -/
abbrev Batches : Type := List (ConnectionId × List CoreEvent)

namespace Batches

/-- `entry(..).or_insert_with(..)` and `push`. -/
def push (connection : ConnectionId) (event : CoreEvent) : Batches → Batches
  | [] => [(connection, [event])]
  | (key, batch) :: rest =>
    if key = connection then (key, batch ++ [event]) :: rest
    else (key, batch) :: push connection event rest

/-- The batch for a connection, empty if there is none. -/
def batch (connection : ConnectionId) : Batches → List CoreEvent
  | [] => []
  | (key, batch') :: rest => if key = connection then batch' else batch connection rest

def remove (connection : ConnectionId) (batches : Batches) : Batches :=
  batches.filter fun entry => entry.1 ≠ connection

theorem batch_push (connection other : ConnectionId) (event : CoreEvent) (batches : Batches) :
    (push other event batches).batch connection =
      batches.batch connection ++ if other = connection then [event] else [] := by
  induction batches with
  | nil =>
    by_cases h : other = connection
    · simp [push, batch, h]
    · simp [push, batch, h]
  | cons entry rest ih =>
    obtain ⟨key, events⟩ := entry
    by_cases hkey : key = other
    · by_cases h : other = connection
      · simp [push, batch, hkey, h]
      · simp [push, batch, hkey, h]
    · by_cases h : key = connection
      · have hne : other ≠ connection := fun heq => hkey (h.trans heq.symm)
        simp [push, batch, h, hne, hne.symm]
      · simp [push, batch, hkey, h, ih]

@[simp] theorem batch_remove_self (connection : ConnectionId) (batches : Batches) :
    (batches.remove connection).batch connection = [] := by
  induction batches with
  | nil => rfl
  | cons entry rest ih =>
    obtain ⟨key, events⟩ := entry
    by_cases h : key = connection
    · simpa [remove, h] using ih
    · simpa [remove, batch, h] using ih

theorem batch_remove_of_ne {connection other : ConnectionId} (h : other ≠ connection)
    (batches : Batches) : (batches.remove other).batch connection = batches.batch connection := by
  induction batches with
  | nil => rfl
  | cons entry rest ih =>
    obtain ⟨key, events⟩ := entry
    by_cases hkey : key = other
    · have hne : key ≠ connection := hkey ▸ h
      simpa [remove, batch, hkey, hne, h] using ih
    · by_cases hc : key = connection
      · simp [remove, batch, hc, h.symm]
      · simpa [remove, batch, hkey, hc] using ih

end Batches

/-! ### The tasks -/

/-- Where a task stands. -/
inductive Doing where
  /-- The task of a session before `SessionRegistry::insert`. -/
  | unregistered
  | idle
  /-- In the first loop of `dispatch_events`. -/
  | routing (revision : Option Nat) (events : List TargetedEvent) (batches : Batches)
  /-- In `recipients_for_target` for everyone, with entries that are not read yet. -/
  | reading (revision : Option Nat) (excluded : PlayerId) (event : CoreEvent)
      (entries : List ConnectionId) (events : List TargetedEvent) (batches : Batches)
  /-- In the second loop of `dispatch_events`. -/
  | sending (revision : Option Nat) (batches : Batches)
  /-- In `SessionDirectoryProjection::publish`, before and after the player projection. -/
  | publishing (entry : Option PlayerId)
  | published (entry : Option PlayerId)

/-- The task of a session, or another one that commits. -/
structure RuntimeTask where
  connection : Option ConnectionId
  doing : Doing

inductive RuntimeMove where
  | register
  /-- `CoreStore::apply_command` or a tick commits, with these events. -/
  | commit (events : List TargetedEvent)
  /-- The events of a stale command or a stale login. -/
  | resync (events : List TargetedEvent)
  /-- `recipients_for_target` of the next event, up to the entries for everyone. -/
  | route
  /-- Reads one of these entries; a hash map has them in any order. -/
  | read (connection : ConnectionId)
  /-- `try_send` of one of the batches, in any order as well. -/
  | send (connection : ConnectionId)
  /-- The end of a loop. -/
  | proceed
  /-- The session handles the next message. -/
  | handle
  /-- The player projection is updated, then the entry. -/
  | publish
  | store
  /-- The session ends, and leaves the registry. -/
  | close
  | remove

/-- `handle_outgoing_event`; an error ends the session. -/
def ActorPhase.receive : ActorPhase → CoreEvent → ActorPhase
  | .login, .loginAccepted playerId _ _ => .play playerId
  | .login, _ => .closing
  | .play _, .loginAccepted _ _ _ => .closing
  | .play _, .disconnect _ => .closing
  | .play playerId, _ => .play playerId
  | .closing, _ => .closing

def acceptedPlayer : CoreEvent → Option PlayerId
  | .loginAccepted playerId _ _ => some playerId
  | _ => none

/-- A login is accepted for the connection whose task commits it (`login_initial_events`). -/
def RuntimeTask.mayCommit (task : RuntimeTask) (events : List TargetedEvent) : Bool :=
  events.all fun event =>
    (acceptedPlayer event.event).isNone ||
      decide (some event.target = task.connection.map .connection)

/-- The recipient of an event for one connection. -/
def RuntimeState.pushTo (state : RuntimeState) (connection : ConnectionId) (event : CoreEvent)
    (batches : Batches) : Batches :=
  if state.registered connection then batches.push connection event else batches

def RuntimeState.readEntry (state : RuntimeState) (connection : ConnectionId) (excluded : PlayerId)
    (event : CoreEvent) (batches : Batches) : Batches :=
  match (state.actor connection).bind SessionActor.entry with
  | some playerId => if playerId ≠ excluded then batches.push connection event else batches
  | none => batches

/-- `try_send`. -/
def SessionActor.trySend (actor : SessionActor) (message : List Enqueued) : SessionActor :=
  if SESSION_OUTBOUND_QUEUE_CAPACITY ≤ actor.queue.length then { actor with terminated := true }
  else { actor with queue := actor.queue ++ [message] }

def RuntimeTask.step (state : RuntimeState) (task : RuntimeTask) :
    RuntimeMove → Option (RuntimeState × RuntimeTask)
  | .register =>
    match task.doing with
    | .unregistered =>
      some ({ state with sessions := state.sessions ++ [.new] },
        ⟨some ⟨state.sessions.length⟩, .idle⟩)
    | _ => none
  | .commit events =>
    match task.doing with
    | .idle =>
      if task.mayCommit events then
        some ({ state with log := state.log ++ [events] },
          { task with doing := .routing (some state.log.length) events [] })
      else none
    | _ => none
  | .resync events =>
    match task.doing with
    | .idle =>
      if events.any fun event => (acceptedPlayer event.event).isSome then none
      else some (state, { task with doing := .routing none events [] })
    | _ => none
  | .route =>
    match task.doing with
    | .routing revision (⟨target, event⟩ :: events) batches =>
      match target with
      | .connection connection =>
        some (state,
          { task with doing := .routing revision events (state.pushTo connection event batches) })
      | .player playerId =>
        match state.players playerId with
        | some connection =>
          some (state,
            { task with doing := .routing revision events (state.pushTo connection event batches) })
        | none => some (state, { task with doing := .routing revision events batches })
      | .everyoneExcept excluded =>
        some (state,
          { task with doing := .reading revision excluded event state.entries events batches })
    | _ => none
  | .read connection =>
    match task.doing with
    | .reading revision excluded event entries events batches =>
      if connection ∈ entries then
        some (state, { task with
          doing := .reading revision excluded event (entries.filter (· ≠ connection)) events
            (state.readEntry connection excluded event batches) })
      else none
    | _ => none
  | .send connection =>
    match task.doing with
    | .sending revision batches =>
      match state.actor connection with
      | some actor =>
        if connection ∈ batches.map Prod.fst then
          some (state.update connection
              (actor.trySend ((batches.batch connection).map (revision, ·))),
            { task with doing := .sending revision (batches.remove connection) })
        else none
      | none => none
    | _ => none
  | .proceed =>
    match task.doing with
    | .routing revision [] batches => some (state, { task with doing := .sending revision batches })
    | .reading revision _ _ [] events batches =>
      some (state, { task with doing := .routing revision events batches })
    | .sending _ [] => some (state, { task with doing := .idle })
    | _ => none
  | .handle =>
    match task.doing, task.connection with
    | .idle, some connection =>
      match state.actor connection with
      | some actor =>
        if actor.phase = .closing then none
        else
          match actor.queue with
          | [] => none
          | message :: queue =>
            let phase := (message.map Prod.snd).foldl ActorPhase.receive actor.phase
            some (state.update connection
                { actor with phase := phase, handled := actor.handled ++ message, queue := queue },
              { task with doing := .publishing phase.playerId })
      | none => none
    | _, _ => none
  | .publish =>
    match task.doing, task.connection with
    | .publishing entry, some connection =>
      match state.actor connection with
      | some actor =>
        if actor.entry = entry then some (state, { task with doing := .idle })
        else some (state.publishPlayers connection actor.entry entry,
          { task with doing := .published entry })
      | none => none
    | _, _ => none
  | .store =>
    match task.doing, task.connection with
    | .published entry, some connection =>
      match state.actor connection with
      | some actor =>
        some (state.update connection { actor with entry := entry }, { task with doing := .idle })
      | none => none
    | _, _ => none
  | .close =>
    match task.doing, task.connection with
    | .idle, some connection =>
      match state.actor connection with
      | some actor =>
        if actor.phase = .closing then none
        else some (state.update connection { actor with phase := .closing },
          { task with doing := .publishing none })
      | none => none
    | _, _ => none
  | .remove =>
    match task.doing, task.connection with
    | .idle, some connection =>
      match state.actor connection with
      | some actor =>
        if actor.phase = .closing then
          some (state.update connection { actor with registered := false }, task)
        else none
      | none => none
    | _, _ => none

/-- Sessions start before their registration; the tick and other tasks have no connection. -/
def runtime : Program RuntimeState RuntimeTask RuntimeMove where
  starts task :=
    match task with
    | ⟨none, .unregistered⟩ => true
    | ⟨none, .idle⟩ => true
    | _ => false
  step := RuntimeTask.step

abbrev Runtime : Type := Config RuntimeState RuntimeTask

def Runtime.new : Runtime := ⟨.new, []⟩

/-! ### What a move can do -/

inductive Moves (state : RuntimeState) (connection : Option ConnectionId) :
    Doing → RuntimeMove → RuntimeState → RuntimeTask → Prop where
  | register :
    Moves state connection .unregistered .register
      { state with sessions := state.sessions ++ [.new] }
      ⟨some ⟨state.sessions.length⟩, .idle⟩
  | commit {events : List TargetedEvent}
      (may : RuntimeTask.mayCommit ⟨connection, .idle⟩ events = true) :
    Moves state connection .idle (.commit events) { state with log := state.log ++ [events] }
      ⟨connection, .routing (some state.log.length) events []⟩
  | resync {events : List TargetedEvent} :
    Moves state connection .idle (.resync events) state ⟨connection, .routing none events []⟩
  | toConnection {revision events batches recipient event} :
    Moves state connection (.routing revision (⟨.connection recipient, event⟩ :: events) batches)
      .route state ⟨connection, .routing revision events (state.pushTo recipient event batches)⟩
  | toPlayer {revision events batches playerId recipient event}
      (known : state.players playerId = some recipient) :
    Moves state connection (.routing revision (⟨.player playerId, event⟩ :: events) batches)
      .route state ⟨connection, .routing revision events (state.pushTo recipient event batches)⟩
  | toNobody {revision events batches playerId event} (unknown : state.players playerId = none) :
    Moves state connection (.routing revision (⟨.player playerId, event⟩ :: events) batches)
      .route state ⟨connection, .routing revision events batches⟩
  | toEveryone {revision events batches excluded event} :
    Moves state connection (.routing revision (⟨.everyoneExcept excluded, event⟩ :: events) batches)
      .route state ⟨connection, .reading revision excluded event state.entries events batches⟩
  | read {revision excluded event entries events batches recipient}
      (left : recipient ∈ entries) :
    Moves state connection (.reading revision excluded event entries events batches)
      (.read recipient) state ⟨connection, .reading revision excluded event
        (entries.filter (· ≠ recipient)) events (state.readEntry recipient excluded event batches)⟩
  | send {revision batches recipient actor} (known : state.actor recipient = some actor) :
    Moves state connection (.sending revision batches) (.send recipient)
      (state.update recipient (actor.trySend ((batches.batch recipient).map (revision, ·))))
      ⟨connection, .sending revision (batches.remove recipient)⟩
  | routed {revision batches} :
    Moves state connection (.routing revision [] batches) .proceed state
      ⟨connection, .sending revision batches⟩
  | wasRead {revision excluded event events batches} :
    Moves state connection (.reading revision excluded event [] events batches) .proceed state
      ⟨connection, .routing revision events batches⟩
  | sent {revision} :
    Moves state connection (.sending revision []) .proceed state ⟨connection, .idle⟩
  | handle {own actor message queue} (mine : connection = some own)
      (known : state.actor own = some actor) (running : actor.phase ≠ .closing)
      (next : actor.queue = message :: queue) :
    Moves state connection .idle .handle
      (state.update own { actor with
        phase := (message.map Prod.snd).foldl ActorPhase.receive actor.phase
        handled := actor.handled ++ message, queue := queue })
      ⟨connection,
        .publishing ((message.map Prod.snd).foldl ActorPhase.receive actor.phase).playerId⟩
  | unchanged {own actor entry} (mine : connection = some own)
      (known : state.actor own = some actor) (same : actor.entry = entry) :
    Moves state connection (.publishing entry) .publish state ⟨connection, .idle⟩
  | publish {own actor entry} (mine : connection = some own)
      (known : state.actor own = some actor) (differ : actor.entry ≠ entry) :
    Moves state connection (.publishing entry) .publish
      (state.publishPlayers own actor.entry entry) ⟨connection, .published entry⟩
  | store {own actor entry} (mine : connection = some own)
      (known : state.actor own = some actor) :
    Moves state connection (.published entry) .store
      (state.update own { actor with entry := entry }) ⟨connection, .idle⟩
  | close {own actor} (mine : connection = some own) (known : state.actor own = some actor) :
    Moves state connection .idle .close (state.update own { actor with phase := .closing })
      ⟨connection, .publishing none⟩
  | remove {own actor} (mine : connection = some own) (known : state.actor own = some actor)
      (closing : actor.phase = .closing) :
    Moves state connection .idle .remove (state.update own { actor with registered := false })
      ⟨connection, .idle⟩

theorem RuntimeTask.moves {state state' : RuntimeState} {task task' : RuntimeTask}
    {move : RuntimeMove} (h : task.step state move = some (state', task')) :
    Moves state task.connection task.doing move state' task' := by
  obtain ⟨connection, doing⟩ := task
  cases move <;> simp only [RuntimeTask.step] at h
  case register =>
    split at h <;> cases h
    exact .register
  case commit events =>
    split at h
    · split_ifs at h with hmay
      cases h
      exact .commit hmay
    · cases h
  case resync events =>
    split at h
    · split_ifs at h
      cases h
      exact .resync
    · cases h
  case route =>
    split at h
    · split at h
      · cases h
        exact .toConnection
      · split at h
        · rename_i hknown
          cases h
          exact .toPlayer hknown
        · rename_i hunknown
          cases h
          exact .toNobody hunknown
      · cases h
        exact .toEveryone
    · cases h
  case read recipient =>
    split at h
    · split_ifs at h with hleft
      cases h
      exact .read hleft
    · cases h
  case send recipient =>
    split at h
    · split at h
      · rename_i hknown
        split_ifs at h
        cases h
        exact .send hknown
      · cases h
    · cases h
  case proceed =>
    split at h <;> cases h
    · exact .routed
    · exact .wasRead
    · exact .sent
  case handle =>
    split at h
    · split at h
      · rename_i hknown
        split_ifs at h with hclosing
        split at h
        · cases h
        · rename_i hnext
          cases h
          exact .handle rfl hknown hclosing hnext
      · cases h
    · cases h
  case publish =>
    split at h
    · split at h
      · rename_i hknown
        split_ifs at h with hsame
        · cases h
          exact .unchanged rfl hknown hsame
        · cases h
          exact .publish rfl hknown hsame
      · cases h
    · cases h
  case store =>
    split at h
    · split at h
      · rename_i hknown
        cases h
        exact .store rfl hknown
      · cases h
    · cases h
  case close =>
    split at h
    · split at h
      · rename_i hknown
        split_ifs at h
        cases h
        exact .close rfl hknown
      · cases h
    · cases h
  case remove =>
    split at h
    · split at h
      · rename_i hknown
        split_ifs at h with hclosing
        cases h
        exact .remove rfl hknown hclosing
      · cases h
    · cases h

/-! ### What never goes back -/

/-- The log and a session only go forward. -/
structure Grows (connection : ConnectionId) (state state' : RuntimeState) : Prop where
  log : state.log <+: state'.log
  actor : ∀ actor, state.actor connection = some actor →
    ∃ actor', state'.actor connection = some actor' ∧ actor.handled <+: actor'.handled ∧
      (actor.phase = .closing → actor'.phase = .closing) ∧
      (actor.terminated = true → actor'.terminated = true)

section Growth

variable {connection : ConnectionId} {state state' state'' : RuntimeState}

theorem Grows.refl (connection : ConnectionId) (state : RuntimeState) :
    Grows connection state state :=
  ⟨List.prefix_rfl, fun actor h => ⟨actor, h, List.prefix_rfl, id, id⟩⟩

theorem Grows.trans (h : Grows connection state state') (h' : Grows connection state' state'') :
    Grows connection state state'' := by
  refine ⟨h.log.trans h'.log, ?_⟩
  intro actor hactor
  obtain ⟨actor', hactor', hhandled, hclosing, hterminated⟩ := h.actor actor hactor
  obtain ⟨actor'', hactor'', hhandled', hclosing', hterminated'⟩ := h'.actor actor' hactor'
  exact ⟨actor'', hactor'', hhandled.trans hhandled', hclosing' ∘ hclosing,
    hterminated' ∘ hterminated⟩

theorem actor_lt {actor : SessionActor} (h : state.actor connection = some actor) :
    connection.value < state.sessions.length :=
  (List.getElem?_eq_some_iff.mp h).1

@[simp] theorem actor_update_self {actor actor' : SessionActor}
    (h : state.actor connection = some actor) :
    (state.update connection actor').actor connection = some actor' := by
  simp [RuntimeState.actor, RuntimeState.update, actor_lt h]

theorem actor_update_of_ne {other : ConnectionId} (hne : other ≠ connection)
    (actor' : SessionActor) :
    (state.update other actor').actor connection = state.actor connection := by
  have hvalue : other.value ≠ connection.value := by
    intro heq
    cases other
    cases connection
    exact hne (congrArg ConnectionId.mk heq)
  simp [RuntimeState.actor, RuntimeState.update, hvalue]

@[simp] theorem publishPlayers_actor (own : ConnectionId) (previous next : Option PlayerId) :
    (state.publishPlayers own previous next).actor connection = state.actor connection := by
  unfold RuntimeState.publishPlayers
  split_ifs <;> rfl

@[simp] theorem publishPlayers_log (own : ConnectionId) (previous next : Option PlayerId) :
    (state.publishPlayers own previous next).log = state.log := by
  unfold RuntimeState.publishPlayers
  split_ifs <;> rfl

theorem Grows.update {own : ConnectionId} {actor actor' : SessionActor}
    (hown : state.actor own = some actor) (hhandled : actor.handled <+: actor'.handled)
    (hclosing : actor.phase = .closing → actor'.phase = .closing)
    (hterminated : actor.terminated = true → actor'.terminated = true) :
    Grows connection state (state.update own actor') := by
  refine ⟨List.prefix_rfl, ?_⟩
  intro found hfound
  by_cases hne : own = connection
  · subst hne
    rw [hown] at hfound
    cases hfound
    exact ⟨actor', actor_update_self hown, hhandled, hclosing, hterminated⟩
  · exact ⟨found, by rw [actor_update_of_ne hne, hfound], List.prefix_rfl, id, id⟩

theorem SessionActor.trySend_handled (actor : SessionActor) (message : List Enqueued) :
    (actor.trySend message).handled = actor.handled := by
  unfold SessionActor.trySend
  split_ifs <;> rfl

theorem SessionActor.trySend_phase (actor : SessionActor) (message : List Enqueued) :
    (actor.trySend message).phase = actor.phase := by
  unfold SessionActor.trySend
  split_ifs <;> rfl

theorem SessionActor.trySend_entry (actor : SessionActor) (message : List Enqueued) :
    (actor.trySend message).entry = actor.entry := by
  unfold SessionActor.trySend
  split_ifs <;> rfl

theorem SessionActor.trySend_registered (actor : SessionActor) (message : List Enqueued) :
    (actor.trySend message).registered = actor.registered := by
  unfold SessionActor.trySend
  split_ifs <;> rfl

theorem SessionActor.trySend_terminated {actor : SessionActor} {message : List Enqueued}
    (h : actor.terminated = true) : (actor.trySend message).terminated = true := by
  unfold SessionActor.trySend
  split_ifs
  · rfl
  · exact h

theorem Moves.grows {own : Option ConnectionId} {doing : Doing} {move : RuntimeMove}
    {task' : RuntimeTask} (h : Moves state own doing move state' task')
    (connection : ConnectionId) : Grows connection state state' := by
  cases h with
  | register =>
    refine ⟨List.prefix_rfl, ?_⟩
    intro actor hactor
    refine ⟨actor, ?_, List.prefix_rfl, id, id⟩
    have hlt := actor_lt hactor
    simpa [RuntimeState.actor, List.getElem?_append_left hlt] using hactor
  | commit may =>
    refine ⟨List.prefix_append _ _, ?_⟩
    intro actor hactor
    exact ⟨actor, hactor, List.prefix_rfl, id, id⟩
  | resync => exact .refl _ _
  | toConnection => exact .refl _ _
  | toPlayer known => exact .refl _ _
  | toNobody unknown => exact .refl _ _
  | toEveryone => exact .refl _ _
  | read left => exact .refl _ _
  | send known =>
    refine Grows.update known ?_ ?_ SessionActor.trySend_terminated
    · rw [SessionActor.trySend_handled]
    · rw [SessionActor.trySend_phase]
      exact id
  | routed => exact .refl _ _
  | wasRead => exact .refl _ _
  | sent => exact .refl _ _
  | handle mine known running next =>
    exact Grows.update known (List.prefix_append _ _) (fun hclosing => absurd hclosing running) id
  | unchanged mine known same => exact .refl _ _
  | publish mine known differ =>
    refine ⟨?_, ?_⟩
    · rw [publishPlayers_log]
    · intro found hfound
      exact ⟨found, by rw [publishPlayers_actor, hfound], List.prefix_rfl, id, id⟩
  | store mine known => exact Grows.update known List.prefix_rfl id id
  | close mine known => exact Grows.update known List.prefix_rfl (fun _ => rfl) id
  | remove mine known closing => exact Grows.update known List.prefix_rfl id id

theorem step_grows {d d' : Runtime} {event : TaskEvent RuntimeTask RuntimeMove}
    (h : d.step runtime event = some d') (connection : ConnectionId) :
    Grows connection d.shared d'.shared := by
  cases event with
  | spawn task =>
    obtain ⟨-, rfl⟩ := Config.step_spawn h
    exact .refl _ _
  | move i move =>
    obtain ⟨task, state', task', -, hstep, rfl⟩ := Config.step_move h
    exact (RuntimeTask.moves hstep).grows connection

theorem run_grows {d d' : Runtime} {events : List (TaskEvent RuntimeTask RuntimeMove)}
    (h : d.run runtime events = some d') (connection : ConnectionId) :
    Grows connection d.shared d'.shared := by
  refine Config.run_keeps (I := fun e => Grows connection d.shared e.shared) ?_ (.refl _ _) h
  intro e e' event _ hgrows hstep
  exact hgrows.trans (step_grows hstep connection)

end Growth

end RevyCraft.Dispatch
