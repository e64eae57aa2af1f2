/-
  RevyCraft/SessionLife.lean
  ==========================
  **A session from its first frame to its cleanup** — `run_session`,
  `handle_login_frame`, `handle_outgoing_event` and `unregister_session`, with
  the core that the sessions share.

  The core accepts a login before the session learns of it: the acceptance is
  committed by `apply_command`, dispatched into the session's own queue, and
  handled later like any other message.  The cleanup looks at the phase in which
  the session was left.  A task takes its steps in any order with the others; it
  does nothing else while it dispatches the events of its commit.  A session can
  be left at any point: its connection ends, a write or a plugin fails, or the
  server terminates it.

  The accepted logins are written down with their connections, which the source
  does not do.
-/
import RevyCraft.OnlinePlayers
import RevyCraft.Dispatching
import RevyCraft.Steps

namespace RevyCraft.SessionLife

open RevyCraft.Dispatch (Batches SESSION_OUTBOUND_QUEUE_CAPACITY)

/-! ### The state -/

/-- `SessionPhase` and `LoginSession`, without the bindings. -/
inductive SessionPhase where
  | handshaking
  | status
  | login
  | acceptedWritePending (playerId : PlayerId) (entityId : EntityId)
  | play (playerId : PlayerId) (entityId : EntityId)
  deriving DecidableEq

/-- The player of the directory entry. -/
def SessionPhase.playerId : SessionPhase → Option PlayerId
  | .play playerId _ => some playerId
  | _ => none

/-- The login that the phase is about. -/
def SessionPhase.accepted : SessionPhase → Option (PlayerId × EntityId)
  | .acceptedWritePending playerId entityId => some (playerId, entityId)
  | .play playerId entityId => some (playerId, entityId)
  | _ => none

/-- How far the task of a session has come. -/
inductive Stage where
  /-- In the loop of `run_session`. -/
  | running
  /-- Behind the loop. -/
  | left
  /-- The directory says `Closing`. -/
  | closing
  /-- In `unregister_session`, no longer in the registry. -/
  | removed
  /-- `unregister_session` has returned `Ok`. -/
  | finished
  /-- `unregister_session` has returned an error, or the task has panicked. -/
  | failed
  deriving DecidableEq

structure SessionTask where
  stage : Stage
  registered : Bool
  phase : SessionPhase
  entry : Option PlayerId
  queue : List (List CoreEvent)

/-- A call of `dispatch_events`: who is in it, what it has still to route, and what to send. -/
structure Delivery where
  owner : Option ConnectionId
  events : List TargetedEvent
  batches : Batches

/-- The connection of an accepted login, its player and its entity. -/
abbrev LoginRecord : Type := ConnectionId × PlayerId × EntityId

structure RuntimeServer where
  store : CoreStore
  tasks : List SessionTask
  players : PlayerId → Option ConnectionId
  deliveries : List Delivery
  logins : List LoginRecord

namespace RuntimeServer

def new (store : CoreStore) : RuntimeServer := ⟨store, [], fun _ => none, [], []⟩

def core (server : RuntimeServer) : ServerCore := server.store.active.state

def task (server : RuntimeServer) (connection : ConnectionId) : Option SessionTask :=
  server.tasks[connection.value]?

def update (server : RuntimeServer) (connection : ConnectionId) (task : SessionTask) : RuntimeServer :=
  { server with tasks := server.tasks.set connection.value task }

/-- The task is in `dispatch_events`. -/
def busy (server : RuntimeServer) (connection : ConnectionId) : Bool :=
  server.deliveries.any fun delivery => delivery.owner = some connection

/-- `SessionDirectoryProjection::publish`, as far as the players go. -/
def publish (server : RuntimeServer) (connection : ConnectionId) (task : SessionTask)
    (entry : Option PlayerId) : RuntimeServer :=
  let server := server.update connection { task with entry := entry }
  if task.entry = entry then server
  else
    let removed : PlayerId → Option ConnectionId := fun playerId =>
      if some playerId = task.entry ∧ server.players playerId = some connection then none
      else server.players playerId
    let inserted : PlayerId → Option ConnectionId := fun playerId =>
      if some playerId = entry then some connection else removed playerId
    { server with players := inserted }

/-! ### Dispatching -/

/-- `recipients_for_target`. -/
def recipients (server : RuntimeServer) : EventTarget → List ConnectionId
  | .connection connection => [connection].filter fun c => (server.task c).any (·.registered)
  | .player playerId =>
    (server.players playerId).toList.filter fun c => (server.task c).any (·.registered)
  | .everyoneExcept excluded =>
    ((List.range server.tasks.length).map ConnectionId.mk).filter fun c =>
      (server.task c).any fun task => task.registered && task.entry.any (· ≠ excluded)

end RuntimeServer

def Delivery.route (delivery : Delivery) (recipients : List ConnectionId) (event : CoreEvent)
    (rest : List TargetedEvent) : Delivery :=
  { delivery with
    events := rest
    batches := recipients.foldl (fun batches c => batches.push c event) delivery.batches }

/-- `try_send`; a batch that finds the queue full is dropped, and the session terminated. -/
def SessionTask.trySend (task : SessionTask) (batch : List CoreEvent) : SessionTask :=
  if SESSION_OUTBOUND_QUEUE_CAPACITY ≤ task.queue.length then task
  else { task with queue := task.queue ++ [batch] }

/-! ### The events of a queue -/

inductive Received where
  | goesOn (phase : SessionPhase)
  /-- `Ok(true)`. -/
  | closes (phase : SessionPhase)
  /-- An error. -/
  | fails (phase : SessionPhase)

/-- `handle_outgoing_event`; `works` says whether its encoding and writing do. -/
def SessionPhase.receive (phase : SessionPhase) (event : CoreEvent) (works : Bool) : Received :=
  match phase with
  | .handshaking => .fails .handshaking
  | phase =>
    match event with
    | .loginAccepted playerId entityId _ =>
      match phase with
      | .login | .acceptedWritePending _ _ =>
        if works then .goesOn (.play playerId entityId)
        else .fails (.acceptedWritePending playerId entityId)
      | phase => .fails phase
    | .disconnect _ => if works then .closes phase else .fails phase
    | _ =>
      match phase with
      | .play playerId entityId =>
        if works then .goesOn (.play playerId entityId) else .fails (.play playerId entityId)
      | phase => .fails phase

/-- The loop of `handle_outgoing_message`. -/
def SessionPhase.receiveAll : SessionPhase → List CoreEvent → List Bool → Received
  | phase, [], _ => .goesOn phase
  | phase, event :: rest, works =>
    match phase.receive event (works.headD true) with
    | .goesOn phase => phase.receiveAll rest works.tail
    | received => received

/-! ### Steps -/

inductive RuntimeStep where
  /-- A connection is accepted, in its first phase. -/
  | accept (phase : SessionPhase)
  /-- A handshake or a status frame, with the next phase. -/
  | handshake (connection : ConnectionId) (next : SessionPhase)
  /-- A frame that ends in a `LoginStart`. -/
  | login (connection : ConnectionId) (username : String) (playerId : PlayerId)
      (invocation : CoreInvocation) (nowMs : Nat)
  /-- A frame in play; `resync` are the events for a stale command. -/
  | command (connection : ConnectionId) (command : CoreCommand) (invocation : CoreInvocation)
      (nowMs : Nat) (resync : List TargetedEvent)
  | builtinTick (nowMs : Nat)
  | gameplayTicks (preparedTicks : List PreparedGameplayTick)
  /-- The next event of a dispatch finds its recipients. -/
  | route (index : Nat)
  /-- One batch of a dispatch is sent. -/
  | send (index : Nat) (connection : ConnectionId)
  /-- A dispatch is over. -/
  | dispatched (index : Nat)
  /-- The session handles the next message of its queue. -/
  | handle (connection : ConnectionId) (works : List Bool)
  | leave (connection : ConnectionId)
  | close (connection : ConnectionId)
  /-- `unregister_session` up to the removal; `closes` says whether the plugins' `session_closed`
      worked. -/
  | remove (connection : ConnectionId) (closes : Bool)
  /-- The rest of `unregister_session`. -/
  | unregister (connection : ConnectionId) (nowMs : Nat)

namespace RuntimeServer

variable (C : ContentBehavior)

/-- The session of a task that is in its loop and not dispatching. -/
def idle (server : RuntimeServer) (connection : ConnectionId) : Option SessionTask :=
  match server.task connection with
  | some task => if task.stage = .running ∧ !server.busy connection then some task else none
  | none => none

def staleLoginReason : String :=
  "login state changed while processing your request; please try again"

/-- What a task dispatches after a call of the store; an error ends its session. -/
def outcomeEvents (resync : List TargetedEvent) :
    CoreCommandOutcome → List TargetedEvent
  | .events events => events
  | .staleGameplayCommand _ => resync
  | .staleLogin connection => [⟨.connection connection, .disconnect staleLoginReason⟩]

/-- The login that a call of the store has accepted. -/
def newLogin (connection : ConnectionId) (playerId : PlayerId) (before after : ServerCore) :
    List LoginRecord :=
  match before.onlineEntity playerId, after.onlineEntity playerId with
  | none, some entityId => [(connection, playerId, entityId)]
  | _, _ => []

/-- A call of the store by a session, which goes on to dispatch or is left. -/
def called (server : RuntimeServer) (connection : ConnectionId) (task : SessionTask)
    (resync : List TargetedEvent) :
    Panics (Except String CoreCommandOutcome × CoreStore) → RuntimeServer
  | .error _ => server.update connection { task with stage := .failed }
  | .ok (.error _, store) =>
    { server with store := store }.update connection { task with stage := .left }
  | .ok (.ok outcome, store) =>
    { server with
      store := store
      deliveries := server.deliveries ++ [⟨some connection, outcomeEvents resync outcome, []⟩] }

/-- A call of the store by the tick. -/
def ticked (server : RuntimeServer) :
    Panics (Except String CoreCommandOutcome × CoreStore) → RuntimeServer
  | .error _ => server
  | .ok (.error _, store) => { server with store := store }
  | .ok (.ok outcome, store) =>
    { server with
      store := store
      deliveries := server.deliveries ++ [⟨none, outcomeEvents [] outcome, []⟩] }

/-- `handle_outgoing_message` of the first message, and what `run_session` does with the result. -/
def handled (server : RuntimeServer) (connection : ConnectionId) (task : SessionTask) :
    Received → RuntimeServer
  | .goesOn phase => server.publish connection { task with phase := phase } phase.playerId
  | .closes phase =>
    server.publish connection { task with phase := phase, stage := .left } phase.playerId
  | .fails phase => server.update connection { task with phase := phase, stage := .left }

def step (server : RuntimeServer) : RuntimeStep → Option RuntimeServer
  | .accept phase =>
    if phase = .handshaking ∨ phase = .login then
      some { server with tasks := server.tasks ++ [⟨.running, true, phase, none, []⟩] }
    else none
  | .handshake connection next => do
    let task ← server.idle connection
    if task.phase = .handshaking ∧ (next = .status ∨ next = .login) then
      some (server.update connection { task with phase := next })
    else none
  | .login connection username playerId invocation nowMs => do
    let task ← server.idle connection
    if task.phase = .login ∧ invocation.Quiet then
      let result := server.store.applyCommand C (.loginStart connection username playerId)
        invocation nowMs
      let after := server.called connection task [] result
      some { after with
        logins := server.logins ++ newLogin connection playerId server.core after.core }
    else none
  | .command connection command invocation nowMs resync => do
    let task ← server.idle connection
    if task.phase.playerId.isSome ∧ CoreStore.fromPlay command ∧ invocation.Quiet ∧
        Quiet resync then
      some (server.called connection task resync
        (server.store.applyCommand C command invocation nowMs))
    else none
  | .builtinTick nowMs => some (server.ticked (server.store.applyBuiltinTick C nowMs))
  | .gameplayTicks preparedTicks =>
    if ∀ prepared ∈ preparedTicks, prepared.batch.Quiet then
      some (server.ticked (server.store.commitGameplayTicks C preparedTicks))
    else none
  | .route index => do
    let delivery ← server.deliveries[index]?
    match delivery.events with
    | [] => none
    | event :: rest =>
      some { server with
        deliveries := server.deliveries.set index
          (delivery.route (server.recipients event.target) event.event rest) }
  | .send index connection => do
    let delivery ← server.deliveries[index]?
    let task ← server.task connection
    if delivery.events.isEmpty ∧ connection ∈ delivery.batches.map Prod.fst then
      some { server.update connection (task.trySend (delivery.batches.batch connection)) with
        deliveries := server.deliveries.set index
          { delivery with batches := delivery.batches.remove connection } }
    else none
  | .dispatched index => do
    let delivery ← server.deliveries[index]?
    if delivery.events.isEmpty ∧ delivery.batches.isEmpty then
      some { server with deliveries := server.deliveries.eraseIdx index }
    else none
  | .handle connection works => do
    let task ← server.idle connection
    match task.queue with
    | [] => none
    | message :: rest =>
      some (server.handled connection { task with queue := rest }
        (task.phase.receiveAll message works))
  | .leave connection => do
    let task ← server.idle connection
    some (server.update connection { task with stage := .left })
  | .close connection => do
    let task ← server.task connection
    if task.stage = .left then
      some (server.publish connection { task with stage := .closing } none)
    else none
  | .remove connection closes => do
    let task ← server.task connection
    if task.stage = .closing then
      some (server.update connection
        (if closes then { task with stage := .removed, registered := false }
          else { task with stage := .failed }))
    else none
  | .unregister connection nowMs => do
    let task ← server.task connection
    if task.stage = .removed then
      match task.phase with
      | .play playerId _ =>
        match server.store.applyCommand C (.disconnect playerId) .internal nowMs with
        | .ok (.ok outcome, store) =>
          some { server.update connection { task with stage := .finished } with
            store := store
            deliveries := server.deliveries ++ [⟨some connection, outcomeEvents [] outcome, []⟩] }
        | _ => some (server.update connection { task with stage := .failed })
      | _ => some (server.update connection { task with stage := .finished })
    else none

def run (server : RuntimeServer) (steps : List RuntimeStep) : Option RuntimeServer :=
  Steps.run (step C) server steps

end RuntimeServer

/-! ### The fields after a step -/

variable {known task' : SessionTask} {entry : Option PlayerId} {events : List TargetedEvent}

namespace RuntimeServer

variable {C : ContentBehavior} {server : RuntimeServer} {connection : ConnectionId}
  {task : SessionTask}

theorem task_update (h : server.task connection = some known) (task : SessionTask)
    (other : ConnectionId) : (server.update connection task).task other =
      if other = connection then some task else server.task other := by
  unfold RuntimeServer.task update at *
  have hlength : connection.value < server.tasks.length := by
    by_contra hlength
    rw [List.getElem?_eq_none (by omega)] at h
    cases h
  by_cases hother : other = connection
  · subst hother
    simp [hlength]
  · have hvalue : connection.value ≠ other.value := by
      intro hvalue
      apply hother
      cases other
      cases connection
      exact congrArg ConnectionId.mk hvalue.symm
    simp [hvalue, hother]

theorem task_publish (h : server.task connection = some known) (task : SessionTask)
    (entry : Option PlayerId) (other : ConnectionId) :
    (server.publish connection task entry).task other =
      if other = connection then some { task with entry := entry } else server.task other := by
  unfold publish
  dsimp only
  split
  · exact task_update h _ other
  · exact task_update h _ other

@[simp] theorem update_store : (server.update connection task).store = server.store := rfl
@[simp] theorem update_deliveries :
    (server.update connection task).deliveries = server.deliveries := rfl
@[simp] theorem update_logins : (server.update connection task).logins = server.logins := rfl

@[simp] theorem publish_store : (server.publish connection task entry).store = server.store := by
  unfold publish
  dsimp only
  split <;> rfl

@[simp] theorem publish_deliveries :
    (server.publish connection task entry).deliveries = server.deliveries := by
  unfold publish
  dsimp only
  split <;> rfl

@[simp] theorem publish_logins : (server.publish connection task entry).logins = server.logins := by
  unfold publish
  dsimp only
  split <;> rfl

theorem handled_store (received : Received) :
    (server.handled connection task received).store = server.store := by
  cases received <;> simp [handled]

theorem handled_deliveries (received : Received) :
    (server.handled connection task received).deliveries = server.deliveries := by
  cases received <;> simp [handled]

theorem handled_logins (received : Received) :
    (server.handled connection task received).logins = server.logins := by
  cases received <;> simp [handled]

theorem idle_ok (h : server.idle connection = some task) :
    server.task connection = some task ∧ task.stage = .running := by
  unfold idle at h
  cases hfound : server.task connection with
  | none =>
    rw [hfound] at h
    cases h
  | some found =>
    rw [hfound] at h
    dsimp only at h
    split at h
    · next hidle =>
      cases h
      exact ⟨rfl, hidle.1⟩
    · cases h

end RuntimeServer

/-! ### What a step does to the core and the logins -/

/-- The online players and the logins change with a login, with a tick, and with the end of a
    session that was in play. -/
inductive CoreChange (C : ContentBehavior) (server server' : RuntimeServer) : RuntimeStep → Prop where
  | same {step : RuntimeStep}
      (index : server'.core.entities.playersByPlayerId = server.core.entities.playersByPlayerId)
      (logins : server'.logins = server.logins)
      (unfinished : ∀ connection nowMs, step = .unregister connection nowMs →
        ∀ task, server.task connection = some task → task.phase.playerId.isSome →
          server'.task connection = some { task with stage := .failed }) :
      CoreChange C server server' step
  | joins {connection : ConnectionId} {username : String} {playerId : PlayerId}
      {invocation : CoreInvocation} {nowMs : Nat} {events : List TargetedEvent}
      {task : SessionTask} (known : server.task connection = some task)
      (running : task.stage = .running) (phase : task.phase = .login)
      (waits : server'.task connection = some task)
      (joined : Joins connection playerId server.core server'.core events)
      (logins : server'.logins =
        server.logins ++ [(connection, playerId, ⟨server.core.entities.nextEntityId⟩)]) :
      CoreChange C server server' (.login connection username playerId invocation nowMs)
  | ticks {nowMs : Nat} (fewer : FewerOnline server.core server'.core)
      (punctual : server.core.Punctual nowMs →
        server'.core.entities.playersByPlayerId = server.core.entities.playersByPlayerId)
      (logins : server'.logins = server.logins) : CoreChange C server server' (.builtinTick nowMs)
  | leaves {connection : ConnectionId} {nowMs : Nat} {task : SessionTask} {playerId : PlayerId}
      {entityId : EntityId} (known : server.task connection = some task)
      (removed : task.stage = .removed) (phase : task.phase = .play playerId entityId)
      (finished : server'.task connection = some { task with stage := .finished })
      (index : server'.core.entities.playersByPlayerId = server.core.entities.playersByPlayerId ∨
        server'.core.entities.playersByPlayerId =
          server.core.entities.playersByPlayerId.erase playerId)
      (gone : Consistent server.core → server'.core.onlineEntity playerId = none)
      (logins : server'.logins = server.logins) :
      CoreChange C server server' (.unregister connection nowMs)

variable {connection : ConnectionId} {resync : List TargetedEvent}
  {result : Panics (Except String CoreCommandOutcome × CoreStore)} {delivery : Delivery}
  {logins : List LoginRecord}

section

variable {C : ContentBehavior} {server server' : RuntimeServer}

theorem called_store (server : RuntimeServer) (connection : ConnectionId) (task : SessionTask)
    (resync : List TargetedEvent)
    (result : Panics (Except String CoreCommandOutcome × CoreStore)) :
    (∃ outcome store, result = .ok (outcome, store) ∧
      (server.called connection task resync result).store = store) ∨
    (server.called connection task resync result).store = server.store := by
  match result with
  | .error message => exact .inr rfl
  | .ok (.error message, store) => exact .inl ⟨_, store, rfl, rfl⟩
  | .ok (.ok outcome, store) => exact .inl ⟨_, store, rfl, rfl⟩

@[simp] theorem called_logins {task : SessionTask} :
    (server.called connection task resync result).logins = server.logins := by
  match result with
  | .error message => rfl
  | .ok (.error message, store) => rfl
  | .ok (.ok outcome, store) => rfl

theorem ticked_store (server : RuntimeServer)
    (result : Panics (Except String CoreCommandOutcome × CoreStore)) :
    (∃ outcome store, result = .ok (outcome, store) ∧ (server.ticked result).store = store) ∨
    (server.ticked result).store = server.store := by
  match result with
  | .error message => exact .inr rfl
  | .ok (.error message, store) => exact .inl ⟨_, store, rfl, rfl⟩
  | .ok (.ok outcome, store) => exact .inl ⟨_, store, rfl, rfl⟩

theorem ticked_tasks : (server.ticked result).tasks = server.tasks := by
  match result with
  | .error message => rfl
  | .ok (.error message, store) => rfl
  | .ok (.ok outcome, store) => rfl

@[simp] theorem ticked_logins : (server.ticked result).logins = server.logins := by
  match result with
  | .error message => rfl
  | .ok (.error message, store) => rfl
  | .ok (.ok outcome, store) => rfl

theorem newLogin_same {playerId : PlayerId} {before after : ServerCore}
    (h : after.onlineEntity playerId = before.onlineEntity playerId) :
    RuntimeServer.newLogin connection playerId before after = [] := by
  unfold RuntimeServer.newLogin
  rw [h]
  cases before.onlineEntity playerId <;> rfl

theorem newLogin_joins {playerId : PlayerId} {before after : ServerCore}
    (h : Joins connection playerId before after events) :
    RuntimeServer.newLogin connection playerId before after =
      [(connection, playerId, ⟨before.entities.nextEntityId⟩)] := by
  have hafter : after.onlineEntity playerId = some ⟨before.entities.nextEntityId⟩ := by
    unfold ServerCore.onlineEntity
    rw [h.index]
    simp
  unfold RuntimeServer.newLogin
  rw [h.offline, hafter]

/-- **What a step does to the core and the logins.** -/
theorem step_core {step : RuntimeStep} (h : server.step C step = some server') :
    CoreChange C server server' step := by
  cases step with
  | accept phase =>
    obtain ⟨-, rfl⟩ := by simpa [RuntimeServer.step] using h
    exact .same rfl rfl (fun _ _ hother => by cases hother)
  | handshake | dispatched | remove =>
    obtain ⟨task, -, h⟩ := Option.bind_eq_some_iff.mp h
    obtain ⟨-, ⟨⟩⟩ := Option.ite_none_right_eq_some.mp h
    exact .same rfl rfl (fun _ _ hother => by cases hother)
  | login connection username playerId invocation nowMs =>
    obtain ⟨task, hidle, h⟩ := Option.bind_eq_some_iff.mp h
    obtain ⟨⟨hphase, hquiet⟩, ⟨⟩⟩ := Option.ite_none_right_eq_some.mp h
    obtain ⟨hknown, hrunning⟩ := RuntimeServer.idle_ok hidle
    generalize hresult : server.store.applyCommand C (.loginStart connection username playerId)
      invocation nowMs = result
    have hsame : (server.called connection task [] result).core = server.core → CoreChange C server
        { server.called connection task [] result with
          logins := server.logins ++ RuntimeServer.newLogin connection playerId server.core
            (server.called connection task [] result).core }
        (.login connection username playerId invocation nowMs) := by
      intro hcore
      refine .same (congrArg (fun core => core.entities.playersByPlayerId) hcore) ?_
        (fun _ _ hother => by cases hother)
      dsimp only
      rw [hcore, newLogin_same rfl, List.append_nil]
    rcases called_store server connection task [] result with ⟨outcome, store, rfl, hstore⟩ | hstore
    · rcases CoreStore.applyCommand_loginStart hquiet hresult with
        ⟨hstate, -⟩ | ⟨events, rfl, hjoins⟩
      · exact hsame ((congrArg (fun store => store.active.state) hstore).trans hstate)
      · have hjoined : Joins connection playerId server.core
            (server.called connection task [] (.ok (.ok (.events events), store))).core events := by
          unfold RuntimeServer.core
          rw [hstore]
          exact hjoins
        refine .joins hknown hrunning hphase hknown hjoined ?_
        dsimp only
        rw [newLogin_joins hjoined]
    · exact hsame (congrArg (fun store => store.active.state) hstore)
  | command connection command invocation nowMs resync =>
    obtain ⟨task, -, h⟩ := Option.bind_eq_some_iff.mp h
    obtain ⟨⟨-, hcommand, hquiet, -⟩, ⟨⟩⟩ := Option.ite_none_right_eq_some.mp h
    refine .same ?_ called_logins (fun _ _ hother => by cases hother)
    unfold RuntimeServer.core
    generalize hresult : server.store.applyCommand C command invocation nowMs = result
    rcases called_store server connection task resync result with
      ⟨outcome, store, rfl, hstore⟩ | hstore
    · rw [hstore]
      exact (CoreStore.applyCommand_fromPlay hcommand hquiet hresult).1
    · rw [hstore]
  | builtinTick nowMs =>
    obtain ⟨⟩ := h
    generalize hresult : server.store.applyBuiltinTick C nowMs = result
    rcases ticked_store server result with
      ⟨outcome, store, rfl, hstore⟩ | hstore
    · obtain ⟨hfewer, -, hpunctual⟩ := CoreStore.applyBuiltinTick_online hresult
      refine .ticks ?_ ?_ ticked_logins
      · unfold RuntimeServer.core
        rw [hstore]
        exact hfewer
      · unfold RuntimeServer.core
        rw [hstore]
        exact hpunctual
    · refine .same ?_ ticked_logins (fun _ _ hother => by cases hother)
      unfold RuntimeServer.core
      rw [hstore]
  | gameplayTicks preparedTicks =>
    obtain ⟨hquiet, ⟨⟩⟩ := Option.ite_none_right_eq_some.mp h
    refine .same ?_ ticked_logins (fun _ _ hother => by cases hother)
    unfold RuntimeServer.core
    generalize hresult : server.store.commitGameplayTicks C preparedTicks = result
    rcases ticked_store server result with
      ⟨outcome, store, rfl, hstore⟩ | hstore
    · rw [hstore]
      exact (CoreStore.commitGameplayTicks_online hquiet hresult).1
    · rw [hstore]
  | route index =>
    obtain ⟨delivery, -, h⟩ := Option.bind_eq_some_iff.mp h
    split at h
    · cases h
    · cases h
      exact .same rfl rfl (fun _ _ hother => by cases hother)
  | send index connection =>
    obtain ⟨delivery, -, h⟩ := Option.bind_eq_some_iff.mp h
    obtain ⟨task, -, h⟩ := Option.bind_eq_some_iff.mp h
    obtain ⟨-, ⟨⟩⟩ := Option.ite_none_right_eq_some.mp h
    exact .same rfl rfl (fun _ _ hother => by cases hother)
  | handle connection works =>
    obtain ⟨task, -, h⟩ := Option.bind_eq_some_iff.mp h
    split at h
    · cases h
    · cases h
      refine .same ?_ (RuntimeServer.handled_logins _) (fun _ _ hother => by cases hother)
      unfold RuntimeServer.core
      rw [RuntimeServer.handled_store]
  | leave connection =>
    obtain ⟨task, -, ⟨⟩⟩ := Option.bind_eq_some_iff.mp h
    exact .same rfl rfl (fun _ _ hother => by cases hother)
  | close connection =>
    obtain ⟨task, -, h⟩ := Option.bind_eq_some_iff.mp h
    obtain ⟨-, ⟨⟩⟩ := Option.ite_none_right_eq_some.mp h
    refine .same ?_ RuntimeServer.publish_logins (fun _ _ hother => by cases hother)
    unfold RuntimeServer.core
    rw [RuntimeServer.publish_store]
  | unregister connection nowMs =>
    obtain ⟨task, htask, h⟩ := Option.bind_eq_some_iff.mp h
    obtain ⟨hremoved, h⟩ := Option.ite_none_right_eq_some.mp h
    split at h
    · next playerId entityId hphase =>
      split at h
      · next outcome store hresult =>
        cases h
        obtain ⟨hindex, -, hgone⟩ := CoreStore.applyCommand_disconnect hresult
        refine .leaves htask hremoved hphase ?_ hindex hgone rfl
        exact (RuntimeServer.task_update htask _ connection).trans (if_pos rfl)
      · cases h
        refine .same rfl rfl ?_
        rintro connection nowMs ⟨⟩ known hknown -
        cases htask.symm.trans hknown
        exact (RuntimeServer.task_update htask _ connection).trans (if_pos rfl)
    · next hphase =>
      cases h
      refine .same rfl rfl ?_
      rintro connection nowMs ⟨⟩ known hknown hplay
      cases htask.symm.trans hknown
      cases hfound : task.phase
      case play playerId entityId => exact absurd hfound (hphase playerId entityId)
      all_goals
        rw [hfound] at hplay
        cases hplay

/-! ### What a step does to a session -/

/-- The stage after a message was handled. -/
def Received.stage : Received → Stage
  | .goesOn _ => .running
  | .closes _ => .left
  | .fails _ => .left

def Received.phase : Received → SessionPhase
  | .goesOn phase => phase
  | .closes phase => phase
  | .fails phase => phase

/-- What becomes of one session. -/
inductive TaskChange (step : RuntimeStep) (connection : ConnectionId) (task : SessionTask) :
    SessionTask → Prop where
  /-- At most its queue has grown, or its directory entry has changed. -/
  | rests {task' : SessionTask} (phase : task'.phase = task.phase)
      (stage : task'.stage = task.stage) : TaskChange step connection task task'
  | handshake {task' : SessionTask} (first : task.phase = .handshaking)
      (running : task.stage = .running) (stage : task'.stage = .running) :
      TaskChange step connection task task'
  | handles {task' : SessionTask} {works : List Bool} {message : List CoreEvent}
      {rest : List (List CoreEvent)} (handle : step = .handle connection works)
      (running : task.stage = .running) (queue : task.queue = message :: rest)
      (phase : task'.phase = (task.phase.receiveAll message works).phase)
      (stage : task'.stage = (task.phase.receiveAll message works).stage) :
      TaskChange step connection task task'
  /-- The loop is left, on request or by an error in play or in a login that was not accepted. -/
  | stops {task' : SessionTask} (phase : task'.phase = task.phase)
      (running : task.stage = .running) (stage : task'.stage = .left ∨ task'.stage = .failed)
      (cause : step = .leave connection ∨ task.phase.playerId.isSome ∨
        ∃ username playerId invocation nowMs,
          step = .login connection username playerId invocation nowMs) :
      TaskChange step connection task task'
  | cleans {task' : SessionTask} (phase : task'.phase = task.phase)
      (past : task.stage = .left ∨ task.stage = .closing ∨ task.stage = .removed)
      (stage : task'.stage ≠ .running)
      (ends : task'.stage = .finished → ∃ nowMs, step = .unregister connection nowMs) :
      TaskChange step connection task task'

/-- An acceptance that a session has handled or will find in its queue. -/
def SessionTask.Tells (task : SessionTask) (login : PlayerId × EntityId) : Prop :=
  task.phase.accepted = some login ∨
    ∃ message ∈ task.queue, ∃ event ∈ message, event.acceptance = some login

/-- An acceptance on its way to a connection. -/
def Delivery.Tells (delivery : Delivery) (connection : ConnectionId)
    (login : PlayerId × EntityId) : Prop :=
  (∃ event ∈ delivery.batches.batch connection, event.acceptance = some login) ∨
    ∃ event ∈ delivery.events, event.event.acceptance = some login ∧
      event.target = .connection connection

/-- A session tells what it told before or what a dispatch had for it. -/
def Heard (server : RuntimeServer) (connection : ConnectionId) (task task' : SessionTask) : Prop :=
  ∀ login, task'.Tells login → task.Tells login ∨
    ∃ delivery ∈ server.deliveries, delivery.Tells connection login

theorem Heard.same {task : SessionTask} (hphase : task'.phase = task.phase)
    (hqueue : task'.queue = task.queue) : Heard server connection task task' := by
  intro login htells
  unfold SessionTask.Tells at htells
  rw [hphase, hqueue] at htells
  exact .inl htells

theorem receive_accepted {phase : SessionPhase} {event : CoreEvent} {works : Bool}
    {login : PlayerId × EntityId}
    (h : (phase.receive event works).phase.accepted = some login) :
    phase.accepted = some login ∨ event.acceptance = some login := by
  cases event
  case loginAccepted playerId entityId player =>
    cases phase
    case login => cases works <;> exact .inr h
    case acceptedWritePending => cases works <;> exact .inr h
    all_goals exact .inl h
  all_goals
    refine .inl ?_
    cases phase <;> cases works <;> exact h

theorem receiveAll_accepted {phase : SessionPhase} {message : List CoreEvent} {works : List Bool}
    {login : PlayerId × EntityId}
    (h : (phase.receiveAll message works).phase.accepted = some login) :
    phase.accepted = some login ∨ ∃ event ∈ message, event.acceptance = some login := by
  induction message generalizing phase works with
  | nil => exact .inl h
  | cons event rest ih =>
    have hreceive : ∀ {received : Received},
        phase.receive event (works.headD true) = received →
        received.phase.accepted = some login →
        phase.accepted = some login ∨ ∃ event' ∈ event :: rest, event'.acceptance = some login := by
      intro received hreceived haccepted
      subst hreceived
      rcases receive_accepted haccepted with haccepted | haccepted
      · exact .inl haccepted
      · exact .inr ⟨event, List.mem_cons_self, haccepted⟩
    unfold SessionPhase.receiveAll at h
    cases hreceived : phase.receive event (works.headD true) with
    | goesOn next =>
      rw [hreceived] at h
      rcases ih h with haccepted | ⟨event', hevent', haccepted⟩
      · exact hreceive hreceived haccepted
      · exact .inr ⟨event', List.mem_cons_of_mem _ hevent', haccepted⟩
    | closes next | fails next =>
      rw [hreceived] at h
      exact hreceive hreceived h

theorem Heard.handled {task : SessionTask} {message : List CoreEvent} {rest : List (List CoreEvent)}
    {works : List Bool} (hqueue : task.queue = message :: rest)
    (hphase : task'.phase = (task.phase.receiveAll message works).phase)
    (hrest : task'.queue = rest) : Heard server connection task task' := by
  rintro login (haccepted | ⟨told, htold, hevent⟩)
  · rw [hphase] at haccepted
    rcases receiveAll_accepted haccepted with haccepted | ⟨event, hevent, hlogin⟩
    · exact .inl (.inl haccepted)
    · exact .inl (.inr ⟨message, hqueue ▸ List.mem_cons_self, event, hevent, hlogin⟩)
  · rw [hrest] at htold
    exact .inl (.inr ⟨told, hqueue ▸ List.mem_cons_of_mem _ htold, hevent⟩)

theorem Heard.sent {task : SessionTask} (hdelivery : delivery ∈ server.deliveries) :
    Heard server connection task (task.trySend (delivery.batches.batch connection)) := by
  unfold SessionTask.trySend
  split
  · exact .same rfl rfl
  · rintro login (haccepted | ⟨message, hmessage, event, hevent, hlogin⟩)
    · exact .inl (.inl haccepted)
    · rcases List.mem_append.mp hmessage with hmessage | hmessage
      · exact .inl (.inr ⟨message, hmessage, event, hevent, hlogin⟩)
      · rw [List.mem_singleton.mp hmessage] at hevent
        exact .inr ⟨delivery, hdelivery, .inl ⟨event, hevent, hlogin⟩⟩

theorem called_task {task : SessionTask} (htask : server.task connection = some task)
    (other : ConnectionId) :
    (server.called connection task resync result).task other = server.task other ∨
      ∃ stage, (stage = .left ∨ stage = .failed) ∧
        (server.called connection task resync result).task other =
          if other = connection then some { task with stage := stage } else server.task other := by
  match result with
  | .error message =>
    exact .inr ⟨.failed, .inr rfl, RuntimeServer.task_update htask { task with stage := .failed } other⟩
  | .ok (.error message, store) =>
    exact .inr ⟨.left, .inl rfl, RuntimeServer.task_update htask { task with stage := .left } other⟩
  | .ok (.ok outcome, store) => exact .inl rfl

/-- What a step does to the session of a connection, if there is one. -/
def Follows (server server' : RuntimeServer) (step : RuntimeStep) (connection : ConnectionId) :
    Prop :=
  match server.task connection with
  | some task => ∃ task', server'.task connection = some task' ∧
      TaskChange step connection task task' ∧ Heard server connection task task'
  | none => ∀ task', server'.task connection = some task' →
      task'.stage = .running ∧ task'.phase.accepted = none ∧ task'.queue = []

theorem Follows.same {step : RuntimeStep} (h : server'.task connection = server.task connection) :
    Follows server server' step connection := by
  unfold Follows
  rw [h]
  cases server.task connection with
  | none => exact fun task' htask' => by cases htask'
  | some task => exact ⟨task, rfl, .rests rfl rfl, .same rfl rfl⟩

theorem Follows.one {step : RuntimeStep} {changed : ConnectionId} {task : SessionTask}
    (hknown : server.task changed = some known)
    (hupdate : server'.task connection =
      if connection = changed then some task else server.task connection)
    (hchange : connection = changed →
      TaskChange step connection known task ∧ Heard server connection known task) :
    Follows server server' step connection := by
  by_cases hconnection : connection = changed
  · rw [if_pos hconnection] at hupdate
    have hchanged := hchange hconnection
    unfold Follows
    subst hconnection
    rw [hknown]
    exact ⟨task, hupdate, hchanged⟩
  · rw [if_neg hconnection] at hupdate
    exact .same hupdate

theorem step_follows {step : RuntimeStep} (h : server.step C step = some server')
    (connection : ConnectionId) : Follows server server' step connection := by
  cases step with
  | accept phase =>
    obtain ⟨hphase, rfl⟩ := by simpa [RuntimeServer.step] using h
    unfold Follows RuntimeServer.task
    rcases Nat.lt_or_ge connection.value server.tasks.length with hlength | hlength
    · refine Follows.same ?_
      exact List.getElem?_append_left hlength
    · rw [List.getElem?_eq_none hlength]
      intro task' htask'
      rw [List.getElem?_append_right hlength] at htask'
      have hnew := List.mem_singleton.mp (List.mem_of_getElem? htask')
      subst hnew
      refine ⟨rfl, ?_, rfl⟩
      rcases hphase with rfl | rfl <;> rfl
  | handshake changed next =>
    obtain ⟨known, hidle, h⟩ := Option.bind_eq_some_iff.mp h
    obtain ⟨⟨hfirst, hnext⟩, ⟨⟩⟩ := Option.ite_none_right_eq_some.mp h
    obtain ⟨hknown, hrunning⟩ := RuntimeServer.idle_ok hidle
    refine .one hknown (RuntimeServer.task_update hknown _ connection)
      fun _ => ⟨.handshake hfirst hrunning hrunning, ?_⟩
    rintro login (haccepted | hqueued)
    · rcases hnext with rfl | rfl <;> cases haccepted
    · exact .inl (.inr hqueued)
  | login changed username playerId invocation nowMs =>
    obtain ⟨known, hidle, h⟩ := Option.bind_eq_some_iff.mp h
    obtain ⟨-, ⟨⟩⟩ := Option.ite_none_right_eq_some.mp h
    obtain ⟨hknown, hrunning⟩ := RuntimeServer.idle_ok hidle
    rcases called_task hknown connection with hsame | ⟨stage, hstage, hupdate⟩
    · exact .same hsame
    · refine .one hknown hupdate ?_
      rintro rfl
      exact ⟨.stops rfl hrunning hstage (.inr (.inr ⟨_, _, _, _, rfl⟩)), .same rfl rfl⟩
  | command changed command invocation nowMs resync =>
    obtain ⟨known, hidle, h⟩ := Option.bind_eq_some_iff.mp h
    obtain ⟨⟨hplay, -⟩, ⟨⟩⟩ := Option.ite_none_right_eq_some.mp h
    obtain ⟨hknown, hrunning⟩ := RuntimeServer.idle_ok hidle
    rcases called_task hknown connection with hsame | ⟨stage, hstage, hupdate⟩
    · exact .same hsame
    · exact .one hknown hupdate
        fun _ => ⟨.stops rfl hrunning hstage (.inr (.inl hplay)), .same rfl rfl⟩
  | builtinTick nowMs =>
    obtain ⟨⟩ := h
    exact .same (congrArg (·[connection.value]?) ticked_tasks)
  | gameplayTicks preparedTicks =>
    obtain ⟨-, ⟨⟩⟩ := Option.ite_none_right_eq_some.mp h
    exact .same (congrArg (·[connection.value]?) ticked_tasks)
  | route index =>
    obtain ⟨delivery, -, h⟩ := Option.bind_eq_some_iff.mp h
    split at h
    · cases h
    · cases h
      exact .same rfl
  | send index changed =>
    obtain ⟨delivery, hdelivery, h⟩ := Option.bind_eq_some_iff.mp h
    obtain ⟨known, hknown, h⟩ := Option.bind_eq_some_iff.mp h
    obtain ⟨-, ⟨⟩⟩ := Option.ite_none_right_eq_some.mp h
    refine .one hknown (RuntimeServer.task_update hknown _ connection) ?_
    rintro rfl
    refine ⟨?_, .sent (List.mem_of_getElem? hdelivery)⟩
    unfold SessionTask.trySend
    split <;> exact .rests rfl rfl
  | dispatched index =>
    obtain ⟨delivery, -, h⟩ := Option.bind_eq_some_iff.mp h
    obtain ⟨-, ⟨⟩⟩ := Option.ite_none_right_eq_some.mp h
    exact .same rfl
  | handle changed works =>
    obtain ⟨known, hidle, h⟩ := Option.bind_eq_some_iff.mp h
    obtain ⟨hknown, hrunning⟩ := RuntimeServer.idle_ok hidle
    split at h
    · cases h
    · next message rest hqueue =>
      cases h
      have hhandled : ∀ {task' : SessionTask},
          task'.phase = (known.phase.receiveAll message works).phase →
          task'.stage = (known.phase.receiveAll message works).stage → task'.queue = rest →
          connection = changed →
          TaskChange (.handle changed works) connection known task' ∧
            Heard server connection known task' := by
        rintro task' hphase hstage hrest rfl
        exact ⟨.handles rfl hrunning hqueue hphase hstage, .handled hqueue hphase hrest⟩
      cases hreceived : known.phase.receiveAll message works with
      | goesOn phase =>
        rw [hreceived] at hhandled
        exact .one hknown (RuntimeServer.task_publish hknown _ _ connection)
          (hhandled rfl hrunning rfl)
      | closes phase =>
        rw [hreceived] at hhandled
        exact .one hknown (RuntimeServer.task_publish hknown _ _ connection) (hhandled rfl rfl rfl)
      | fails phase =>
        rw [hreceived] at hhandled
        exact .one hknown (RuntimeServer.task_update hknown _ connection) (hhandled rfl rfl rfl)
  | leave changed =>
    obtain ⟨known, hidle, ⟨⟩⟩ := Option.bind_eq_some_iff.mp h
    obtain ⟨hknown, hrunning⟩ := RuntimeServer.idle_ok hidle
    refine .one hknown (RuntimeServer.task_update hknown _ connection) ?_
    rintro rfl
    exact ⟨.stops rfl hrunning (.inl rfl) (.inl rfl), .same rfl rfl⟩
  | close changed =>
    obtain ⟨known, hknown, h⟩ := Option.bind_eq_some_iff.mp h
    obtain ⟨hleft, ⟨⟩⟩ := Option.ite_none_right_eq_some.mp h
    exact .one hknown (RuntimeServer.task_publish hknown _ _ connection)
      fun _ => ⟨.cleans rfl (.inl hleft) (by simp) (by simp), .same rfl rfl⟩
  | remove changed closes =>
    obtain ⟨known, hknown, h⟩ := Option.bind_eq_some_iff.mp h
    obtain ⟨hclosing, ⟨⟩⟩ := Option.ite_none_right_eq_some.mp h
    refine .one hknown (RuntimeServer.task_update hknown _ connection) fun _ => ?_
    split <;> exact ⟨.cleans rfl (.inr (.inl hclosing)) (by simp) (by simp), .same rfl rfl⟩
  | unregister changed nowMs =>
    obtain ⟨known, hknown, h⟩ := Option.bind_eq_some_iff.mp h
    obtain ⟨hremoved, h⟩ := Option.ite_none_right_eq_some.mp h
    have hcleaned : ∀ {task' : SessionTask}, task'.phase = known.phase →
        task'.queue = known.queue → task'.stage = .finished ∨ task'.stage = .failed →
        connection = changed →
        TaskChange (.unregister changed nowMs) connection known task' ∧
          Heard server connection known task' := by
      rintro task' hphase hqueue hstage rfl
      refine ⟨.cleans hphase (.inr (.inr hremoved)) ?_ (fun _ => ⟨nowMs, rfl⟩),
        .same hphase hqueue⟩
      rcases hstage with hstage | hstage <;> simp [hstage]
    split at h
    · split at h
      · cases h
        exact .one hknown (RuntimeServer.task_update hknown _ connection)
          (hcleaned rfl rfl (.inl rfl))
      · cases h
        exact .one hknown (RuntimeServer.task_update hknown _ connection)
          (hcleaned rfl rfl (.inr rfl))
    · cases h
      exact .one hknown (RuntimeServer.task_update hknown _ connection)
        (hcleaned rfl rfl (.inl rfl))

/-- **What a step does to a session**: it is new, as it was, or changed. -/
theorem step_task {step : RuntimeStep} (h : server.step C step = some server')
    (connection : ConnectionId) (htask' : server'.task connection = some task') :
    (server.task connection = none ∧ task'.stage = .running ∧ task'.phase.accepted = none ∧
        task'.queue = []) ∨
      ∃ task, server.task connection = some task ∧ TaskChange step connection task task' ∧
        Heard server connection task task' := by
  have hfollows := step_follows h connection
  unfold Follows at hfollows
  cases htask : server.task connection with
  | none =>
    rw [htask] at hfollows
    exact .inl ⟨rfl, hfollows task' htask'⟩
  | some task =>
    rw [htask] at hfollows
    obtain ⟨found, hfound, hchange, hheard⟩ := hfollows
    cases hfound.symm.trans htask'
    exact .inr ⟨task, rfl, hchange, hheard⟩

theorem step_known {step : RuntimeStep} (h : server.step C step = some server')
    (hknown : (server.task connection).isSome) : (server'.task connection).isSome := by
  obtain ⟨task, htask⟩ := Option.isSome_iff_exists.mp hknown
  have hfollows := step_follows h connection
  unfold Follows at hfollows
  rw [htask] at hfollows
  obtain ⟨task', htask', -⟩ := hfollows
  rw [htask']
  rfl

/-! ### Every acceptance on its way was committed -/

/-- A dispatch tells of logins that are written down, and each of them to one connection. -/
def Delivery.Honest (logins : List LoginRecord) (delivery : Delivery) : Prop :=
  (∀ connection login, delivery.Tells connection login → (connection, login) ∈ logins) ∧
    ∀ event ∈ delivery.events, ∀ login, event.event.acceptance = some login →
      ∃ connection, event.target = .connection connection

/-- Every acceptance is of a login that was written down with its connection. -/
structure Honest (server : RuntimeServer) : Prop where
  tasks : ∀ connection task login, server.task connection = some task → task.Tells login →
    (connection, login) ∈ server.logins
  deliveries : ∀ delivery ∈ server.deliveries, delivery.Honest server.logins
  known : ∀ record ∈ server.logins, (server.task record.1).isSome

theorem Honest.new (store : CoreStore) : Honest (.new store) where
  tasks := fun connection task login htask => by cases htask
  deliveries := fun delivery hdelivery => by cases hdelivery
  known := fun record hrecord => by cases hrecord

theorem batch_foldl_push (connection : ConnectionId) (event : CoreEvent)
    (recipients : List ConnectionId) (batches : Batches) :
    ∀ told ∈ (recipients.foldl (fun batches c => batches.push c event) batches).batch connection,
      told ∈ batches.batch connection ∨ (told = event ∧ connection ∈ recipients) := by
  induction recipients generalizing batches with
  | nil => exact fun told htold => .inl htold
  | cons recipient rest ih =>
    intro told htold
    rcases ih (batches.push recipient event) told htold with htold | ⟨rfl, hrest⟩
    · rw [Batches.batch_push] at htold
      rcases List.mem_append.mp htold with htold | htold
      · exact .inl htold
      · split at htold
        · next hrecipient =>
          rw [List.mem_singleton.mp htold, ← hrecipient]
          exact .inr ⟨rfl, List.mem_cons_self⟩
        · cases htold
    · exact .inr ⟨rfl, List.mem_cons_of_mem _ hrest⟩

theorem step_logins {step : RuntimeStep} (h : server.step C step = some server') :
    (∀ record ∈ server.logins, record ∈ server'.logins) ∧
      ∀ record ∈ server'.logins, record ∈ server.logins ∨ (server.task record.1).isSome := by
  cases step_core h with
  | same _ logins _ | ticks _ _ logins | leaves _ _ _ _ _ _ logins =>
    rw [logins]
    exact ⟨fun _ hrecord => hrecord, fun _ hrecord => .inl hrecord⟩
  | joins known _ _ _ _ logins =>
    rw [logins]
    refine ⟨fun _ hrecord => List.mem_append_left _ hrecord, fun record hrecord => ?_⟩
    rcases List.mem_append.mp hrecord with hrecord | hrecord
    · exact .inl hrecord
    · rw [List.mem_singleton.mp hrecord]
      exact .inr (by rw [known]; rfl)

theorem outcomeEvents_quiet {outcome : CoreCommandOutcome} (hresync : Quiet resync)
    (h : QuietOutcome (.ok outcome)) : Quiet (RuntimeServer.outcomeEvents resync outcome) := by
  cases outcome with
  | events events => exact h events rfl
  | staleGameplayCommand playerId => exact hresync
  | staleLogin stale => exact quiet_cons.mpr ⟨rfl, quiet_nil⟩

theorem Delivery.Honest.of_events (connection : ConnectionId) (owner : Option ConnectionId)
    (h : ∀ event ∈ events, ∀ login, event.event.acceptance = some login →
      event.target = .connection connection ∧ (connection, login) ∈ logins) :
    Delivery.Honest logins ⟨owner, events, []⟩ := by
  refine ⟨?_, fun event hevent login hlogin => ⟨connection, (h event hevent login hlogin).1⟩⟩
  rintro other login (⟨event, hevent, -⟩ | ⟨event, hevent, hlogin, htarget⟩)
  · cases hevent
  · obtain ⟨htarget', hrecord⟩ := h event hevent login hlogin
    rw [htarget] at htarget'
    cases htarget'
    exact hrecord

theorem Delivery.Honest.of_quiet (owner : Option ConnectionId) (h : Quiet events) :
    Delivery.Honest logins ⟨owner, events, []⟩ := by
  refine .of_events ⟨0⟩ owner fun event hevent login hlogin => ?_
  rw [h event hevent] at hlogin
  cases hlogin

theorem Delivery.Honest.route (h : delivery.Honest logins) {event : TargetedEvent}
    {rest : List TargetedEvent} (hevents : delivery.events = event :: rest) :
    (delivery.route (server.recipients event.target) event.event rest).Honest logins := by
  have hrest : ∀ told ∈ rest, told ∈ delivery.events := fun told htold =>
    hevents ▸ List.mem_cons_of_mem _ htold
  have hevent : event ∈ delivery.events := hevents ▸ List.mem_cons_self
  refine ⟨?_, fun told htold => h.2 told (hrest told htold)⟩
  rintro connection login (⟨told, htold, hlogin⟩ | ⟨told, htold, hlogin, htarget⟩)
  · rcases batch_foldl_push connection _ _ _ told htold with htold | ⟨rfl, hrecipient⟩
    · exact h.1 connection login (.inl ⟨told, htold, hlogin⟩)
    · obtain ⟨target, htarget⟩ := h.2 event hevent login hlogin
      rw [htarget] at hrecipient
      unfold RuntimeServer.recipients at hrecipient
      have hconnection := List.mem_singleton.mp (List.mem_of_mem_filter hrecipient)
      exact h.1 connection login (.inr ⟨event, hevent, hlogin, hconnection ▸ htarget⟩)
  · exact h.1 connection login (.inr ⟨told, hrest told htold, hlogin, htarget⟩)

theorem Delivery.Honest.remove (h : delivery.Honest logins) (sent : ConnectionId) :
    Delivery.Honest logins { delivery with batches := delivery.batches.remove sent } := by
  refine ⟨?_, h.2⟩
  rintro connection login (⟨told, htold, hlogin⟩ | hevent)
  · by_cases hconnection : sent = connection
    · subst hconnection
      rw [Batches.batch_remove_self] at htold
      cases htold
    · rw [Batches.batch_remove_of_ne hconnection] at htold
      exact h.1 connection login (.inl ⟨told, htold, hlogin⟩)
  · exact h.1 connection login (.inr hevent)

section Honest

variable {logins : List LoginRecord}
  (hkept : ∀ delivery ∈ server.deliveries, delivery.Honest logins)

include hkept

theorem deliveries_append (h : delivery.Honest logins) :
    ∀ known ∈ server.deliveries ++ [delivery], known.Honest logins := by
  intro known hknown
  rcases List.mem_append.mp hknown with hknown | hknown
  · exact hkept known hknown
  · exact List.mem_singleton.mp hknown ▸ h

theorem deliveries_set {index : Nat} (h : delivery.Honest logins) :
    ∀ known ∈ server.deliveries.set index delivery, known.Honest logins := by
  intro known hknown
  rcases List.mem_or_eq_of_mem_set hknown with hknown | rfl
  · exact hkept known hknown
  · exact h

/-- The dispatch after a call: the acceptance of a login that was just written down, or none. -/
theorem called_honest {task : SessionTask} (hresync : Quiet resync)
    (hresult : ∀ events store, result = .ok (.ok (.events events), store) →
      ∀ event ∈ events, ∀ login, event.event.acceptance = some login →
        event.target = .connection connection ∧ (connection, login) ∈ logins) :
    ∀ delivery ∈ (server.called connection task resync result).deliveries,
      delivery.Honest logins := by
  match result with
  | .error message => exact hkept
  | .ok (.error message, store) => exact hkept
  | .ok (.ok outcome, store) =>
    refine deliveries_append hkept ?_
    cases outcome with
    | events events => exact .of_events _ _ (hresult events store rfl)
    | staleGameplayCommand playerId => exact .of_quiet _ hresync
    | staleLogin stale => exact .of_quiet _ (quiet_cons.mpr ⟨rfl, quiet_nil⟩)

theorem ticked_honest
    (hresult : ∀ outcome store, result = .ok (outcome, store) → QuietOutcome outcome) :
    ∀ delivery ∈ (server.ticked result).deliveries, delivery.Honest logins := by
  match result with
  | .error message => exact hkept
  | .ok (.error message, store) => exact hkept
  | .ok (.ok outcome, store) =>
    exact deliveries_append hkept
      (.of_quiet none (outcomeEvents_quiet quiet_nil (hresult (.ok outcome) store rfl)))

/-- **What is dispatched after a step** tells only of logins that are written down. -/
theorem step_delivers {step : RuntimeStep} (h : server.step C step = some server')
    (hlogins : server'.logins = logins) :
    ∀ delivery ∈ server'.deliveries, delivery.Honest logins := by
  cases step with
  | accept phase =>
    obtain ⟨-, rfl⟩ := by simpa [RuntimeServer.step] using h
    exact hkept
  | handshake | remove =>
    obtain ⟨known, -, h⟩ := Option.bind_eq_some_iff.mp h
    obtain ⟨-, ⟨⟩⟩ := Option.ite_none_right_eq_some.mp h
    exact hkept
  | login changed username playerId invocation nowMs =>
    obtain ⟨known, -, h⟩ := Option.bind_eq_some_iff.mp h
    obtain ⟨⟨-, hquiet⟩, ⟨⟩⟩ := Option.ite_none_right_eq_some.mp h
    refine called_honest hkept quiet_nil ?_
    intro events store hresult event hevent login hlogin
    rcases CoreStore.applyCommand_loginStart hquiet hresult with
      ⟨-, hnone⟩ | ⟨events', hevents', hjoins⟩
    · rw [hnone events rfl event hevent] at hlogin
      cases hlogin
    · cases hevents'
      obtain ⟨htarget, rfl⟩ := hjoins.accepted event hevent login hlogin
      refine ⟨htarget, ?_⟩
      rw [← hlogins]
      refine List.mem_append_right _ ?_
      rw [hresult]
      change _ ∈ RuntimeServer.newLogin changed playerId server.store.active.state
        store.active.state
      rw [newLogin_joins hjoins]
      exact List.mem_singleton_self _
  | command changed command invocation nowMs resync =>
    obtain ⟨known, -, h⟩ := Option.bind_eq_some_iff.mp h
    obtain ⟨⟨-, hcommand, hquiet, hresync⟩, ⟨⟩⟩ := Option.ite_none_right_eq_some.mp h
    refine called_honest hkept hresync fun events store hresult event hevent login hlogin => ?_
    have hnone := (CoreStore.applyCommand_fromPlay hcommand hquiet hresult).2 events rfl
    rw [hnone event hevent] at hlogin
    cases hlogin
  | builtinTick nowMs =>
    obtain ⟨⟩ := h
    exact ticked_honest hkept fun outcome store hresult =>
      (CoreStore.applyBuiltinTick_online hresult).2.1
  | gameplayTicks preparedTicks =>
    obtain ⟨hquiet, ⟨⟩⟩ := Option.ite_none_right_eq_some.mp h
    exact ticked_honest hkept fun outcome store hresult =>
      (CoreStore.commitGameplayTicks_online hquiet hresult).2
  | route index =>
    obtain ⟨delivery, hdelivery, h⟩ := Option.bind_eq_some_iff.mp h
    split at h
    · cases h
    · next event rest hevents =>
      cases h
      exact deliveries_set hkept ((hkept delivery (List.mem_of_getElem? hdelivery)).route hevents)
  | send index changed =>
    obtain ⟨delivery, hdelivery, h⟩ := Option.bind_eq_some_iff.mp h
    obtain ⟨known, -, h⟩ := Option.bind_eq_some_iff.mp h
    obtain ⟨-, ⟨⟩⟩ := Option.ite_none_right_eq_some.mp h
    exact deliveries_set hkept ((hkept delivery (List.mem_of_getElem? hdelivery)).remove changed)
  | dispatched index =>
    obtain ⟨delivery, -, h⟩ := Option.bind_eq_some_iff.mp h
    obtain ⟨-, ⟨⟩⟩ := Option.ite_none_right_eq_some.mp h
    exact fun delivery hdelivery => hkept delivery (List.mem_of_mem_eraseIdx hdelivery)
  | handle changed works =>
    obtain ⟨known, -, h⟩ := Option.bind_eq_some_iff.mp h
    split at h
    · cases h
    · cases h
      rwa [RuntimeServer.handled_deliveries]
  | leave changed =>
    obtain ⟨known, -, ⟨⟩⟩ := Option.bind_eq_some_iff.mp h
    exact hkept
  | close changed =>
    obtain ⟨known, -, h⟩ := Option.bind_eq_some_iff.mp h
    obtain ⟨-, ⟨⟩⟩ := Option.ite_none_right_eq_some.mp h
    rwa [RuntimeServer.publish_deliveries]
  | unregister changed nowMs =>
    obtain ⟨known, -, h⟩ := Option.bind_eq_some_iff.mp h
    obtain ⟨-, h⟩ := Option.ite_none_right_eq_some.mp h
    split at h
    · split at h
      · next outcome store hresult =>
        cases h
        exact deliveries_append hkept (.of_quiet _ (outcomeEvents_quiet quiet_nil
          (CoreStore.applyCommand_disconnect hresult).2.1))
      · cases h
        exact hkept
    · cases h
      exact hkept

end Honest

/-- **One step** accepts only logins that it writes down. -/
theorem Honest.step (hserver : Honest server) {step : RuntimeStep}
    (h : server.step C step = some server') : Honest server' := by
  obtain ⟨hmore, hnew⟩ := step_logins h
  refine ⟨?_, step_delivers ?_ h rfl, ?_⟩
  · intro connection task' login htask' htells
    rcases step_task h connection htask' with
      ⟨-, -, haccepted, hqueue⟩ | ⟨task, htask, -, hheard⟩
    · rcases htells with htold | ⟨message, hmessage, -⟩
      · rw [haccepted] at htold
        cases htold
      · rw [hqueue] at hmessage
        cases hmessage
    · rcases hheard login htells with htold | ⟨delivery, hdelivery, htold⟩
      · exact hmore _ (hserver.tasks connection task login htask htold)
      · exact hmore _ ((hserver.deliveries delivery hdelivery).1 connection login htold)
  · intro delivery hdelivery
    obtain ⟨htells, htargeted⟩ := hserver.deliveries delivery hdelivery
    exact ⟨fun connection login htold => hmore _ (htells connection login htold), htargeted⟩
  · intro record hrecord
    rcases hnew record hrecord with hbefore | hbefore
    · exact step_known h (hserver.known record hbefore)
    · exact step_known h hbefore

end

end RevyCraft.SessionLife
