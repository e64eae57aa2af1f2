/-
  RevyCraft/CutoverRuns.lean
  ==========================
  **Reloads of a running server** — `StagedCutover` and its successors of
  `cutover.rs`, the fan-outs of `session_registry.rs`, and any number of
  sessions (`SessionCutover`) that go on in between.

  A reload is serialised with itself.  It stages a candidate, has every session
  prepare for it until the directory stands still, closes the data plane, seals
  the sessions, and publishes the candidate or aborts; each stage can fail.
  A frame or a message is handled in two steps, with the data-plane permit held
  between them: the session changes its phase, and later publishes it.
-/
import RevyCraft.SessionCutover
import RevyCraft.DataPlane
import RevyCraft.Steps

namespace RevyCraft.Cutover

/-! ### The state -/

def SESSION_PREPARE_STABILITY_LIMIT : Nat := 8

/-- A control on its way to all sessions: those it was not sent to, those that have not answered,
    and whether an answer was an error. -/
structure FanOut where
  unsent : List Nat
  sent : List Nat
  failed : Bool

namespace FanOut

def new (sessions : List Nat) : FanOut := ⟨sessions, [], false⟩

def send (fan : FanOut) (connection : Nat) : FanOut :=
  { fan with unsent := fan.unsent.filter (· ≠ connection), sent := connection :: fan.sent }

/-- The session is gone. -/
def skip (fan : FanOut) (connection : Nat) (works : Bool) : FanOut :=
  { fan with unsent := fan.unsent.filter (· ≠ connection), failed := fan.failed || !works }

def answer (fan : FanOut) (connection : Nat) (works : Bool) : FanOut :=
  { fan with sent := fan.sent.filter (· ≠ connection), failed := fan.failed || !works }

def done (fan : FanOut) : Bool := fan.unsent.isEmpty && fan.sent.isEmpty

end FanOut

/-- Where a reload stands; `mark` is the revision of the directory that the sessions are prepared
    at. -/
inductive ReloadStage where
  /-- A `StagedCutover`. -/
  | staged
  | preparing (attempt mark : Nat) (fan : FanOut)
  /-- A `PreparingCutover`. -/
  | prepared (mark : Nat)
  /-- In `freeze`; waits for the operations that hold a permit. -/
  | freezing (mark : Nat)
  /-- A `FrozenCutover`. -/
  | frozen (mark : Nat)
  | sealing (mark : Nat) (events : List TargetedEvent) (fan : FanOut)
  /-- A `PreparedCutover`. -/
  | sealed
  | published
  | resumed
  | aborting (fan : FanOut)

namespace ReloadStage

/-- The fan-out that is going on. -/
def fan : ReloadStage → Option FanOut
  | .preparing _ _ fan => some fan
  | .sealing _ _ fan => some fan
  | .aborting fan => some fan
  | _ => none

def withFan (stage : ReloadStage) (fan : FanOut) : ReloadStage :=
  match stage with
  | .preparing attempt mark _ => .preparing attempt mark fan
  | .sealing mark events _ => .sealing mark events fan
  | .aborting _ => .aborting fan
  | stage => stage

end ReloadStage

structure Reload where
  candidate : RuntimeEpoch
  forceResync : Bool
  stage : ReloadStage

structure RuntimeServer where
  sessions : List SessionActor
  /-- `directory_revision`. -/
  revision : Nat
  active : RuntimeEpoch
  latch : Nat
  admission : AdmissionState
  journal : Option (List TargetedEvent)
  reload : Option Reload

namespace RuntimeServer

def new (active : RuntimeEpoch) : RuntimeServer :=
  ⟨[], 0, active, active.revision, .opened, none, none⟩

def session (server : RuntimeServer) (connection : Nat) : Option SessionActor :=
  server.sessions[connection]?

/-- A session after a step, with the revision of the directory after it. -/
def update (server : RuntimeServer) (connection : Nat) (next : SessionActor × Nat) :
    RuntimeServer :=
  { server with sessions := server.sessions.set connection next.1, revision := next.2 }

/-- `session_entries`. -/
def registered (server : RuntimeServer) : List Nat :=
  (List.range server.sessions.length).filter fun connection =>
    (server.session connection).any fun actor => actor.stage ≠ .removed

def withStage (server : RuntimeServer) (reload : Reload) (stage : ReloadStage) : RuntimeServer :=
  { server with reload := some { reload with stage := stage } }

/-- `abort_cutover`. -/
def abort (server : RuntimeServer) (reload : Reload) : RuntimeServer :=
  server.withStage reload (.aborting (.new server.registered))

end RuntimeServer

/-! ### The steps of a session -/

/-- The phases in which a connection is accepted. -/
def SessionPhase.first : SessionPhase → Bool
  | .handshaking _ => true
  | .login (.negotiating binding) =>
    binding = .new binding.generation .udp binding.adapter binding.gameplay none
  | _ => false

/-- The session is left, and its entry says so. -/
def SessionActor.leave (actor : SessionActor) (revision : Nat) : SessionActor × Nat :=
  let left : SessionActor := { actor with stage := .leaving, busy := false }
  match actor.lifecycle.active with
  | some phase =>
    left.publishDirectory revision (.closing phase.generationId phase.transport phase.phase)
  | none => (left, revision)

def SessionLifecycle.withActive (lifecycle : SessionLifecycle) (phase : SessionPhase) :
    SessionLifecycle :=
  match lifecycle with
  | .running epochRevision _ => .running epochRevision phase
  | .cutoverPrepared activeEpochRevision _ pending =>
    .cutoverPrepared activeEpochRevision phase pending
  | lifecycle => lifecycle

/-- After a frame or a message. -/
def SessionActor.settle (actor : SessionActor) (revision : Nat) :
    FrameResult → SessionActor × Nat
  | .goesOn => ({ actor with busy := true }, revision)
  | _ => actor.leave revision

/-- The task is in its loop, and not in an operation. -/
def SessionActor.idle (actor : SessionActor) : Bool := actor.stage = .running && !actor.busy

def SessionActor.handleFrame (actor : SessionActor) (active : RuntimeEpoch) (revision : Nat)
    (frame : IncomingFrame) (calls : FrameCalls) : SessionActor × Nat :=
  let activated := actor.activateCommittedCutover active.revision revision
  match activated.2.2, activated.1.lifecycle.active with
  | true, some phase =>
    let handled := handleIncomingFrame active calls phase frame
    { activated.1 with lifecycle := activated.1.lifecycle.withActive handled.1 }.settle
      activated.2.1 handled.2
  | _, _ => activated.1.leave activated.2.1

/-- The next message, after the session was admitted to the data plane. -/
def SessionActor.handleMessage (encoders : Encoders) (actor : SessionActor) (active : RuntimeEpoch)
    (revision : Nat) (message : List CoreEvent) (rest : List (List CoreEvent)) (works : List Bool) :
    SessionActor × Nat :=
  let activated := actor.activateCommittedCutover active.revision revision
  match activated.2.2, activated.1.lifecycle.active with
  | true, some phase =>
    let outgoing := handleOutgoingEvents encoders phase [] message works
    { activated.1 with
      lifecycle := activated.1.lifecycle.withActive outgoing.1
      messages := rest
      handled := activated.1.handled ++ message
      io := activated.1.io.enqueue outgoing.2.1 }.settle activated.2.1 outgoing.2.2
  | _, _ => activated.1.leave activated.2.1

/-- An admission to the data plane without a frame or a message. -/
def SessionActor.enter (actor : SessionActor) (active : RuntimeEpoch) (revision : Nat) :
    SessionActor × Nat :=
  let activated := actor.activateCommittedCutover active.revision revision
  if activated.2.2 then (activated.1, activated.2.1) else activated.1.leave activated.2.1

/-- The end of a frame or a message. -/
def SessionActor.publish (actor : SessionActor) (revision : Nat) : SessionActor × Nat :=
  let done : SessionActor := { actor with busy := false }
  match actor.lifecycle.active with
  | some phase => done.publishDirectory revision phase
  | none => (done, revision)

/-- A frozen session sees the epoch latch change. -/
def SessionActor.observe (actor : SessionActor) (active : RuntimeEpoch) (latch revision : Nat) :
    Option (SessionActor × Nat) :=
  match actor.lifecycle with
  | .transferFrozen _ _ pending =>
    if actor.seen = latch then none
    else
      let actor : SessionActor := { actor with seen := latch }
      if latch = pending.epochRevision then some (actor.enter active revision)
      else some (actor, revision)
  | _ => none

/-! ### Steps -/

inductive CutoverStep where
  /-- A connection is accepted. -/
  | spawn (phase : SessionPhase)
  | frame (connection : Nat) (frame : IncomingFrame) (calls : FrameCalls)
  | message (connection : Nat) (works : List Bool)
  | enter (connection : Nat)
  | publish (connection : Nat)
  /-- A batch of events reaches the queue of a session. -/
  | dispatch (connection : Nat) (events : List CoreEvent)
  /-- A commit of the core. -/
  | commit (events : List TargetedEvent)
  | write (connection : Nat)
  | observe (connection : Nat)
  | leave (connection : Nat)
  | remove (connection : Nat)
  /-- The session handles its next control. -/
  | control (connection : Nat) (calls : ControlCalls)
  | stage (candidate : RuntimeEpoch) (forceResync : Bool)
  | stageFails
  | prepare
  /-- A control is sent; `resyncEvents` is what the candidate core has for the player. -/
  | send (connection : Nat) (resyncEvents : List CoreEvent)
  /-- All sessions have answered. -/
  | finish
  | close
  | freeze
  | freezeFails
  | sealCutover
  | publishEpoch
  | resume
  | activateEpoch

namespace RuntimeServer

variable (encoders : Encoders)

/-- The session of a connection, as long as its task is in its loop and in no operation. -/
def idle (server : RuntimeServer) (connection : Nat) : Option SessionActor :=
  (server.session connection).filter SessionActor.idle

def fan (server : RuntimeServer) : Option FanOut :=
  server.reload.bind fun reload => reload.stage.fan

def withFan (server : RuntimeServer) (reload : Reload) (fan : FanOut) : RuntimeServer :=
  server.withStage reload (reload.stage.withFan fan)

/-- An answer of a session, or the loss of one. -/
def answered (server : RuntimeServer) (connection : Nat) (works : Bool) : RuntimeServer :=
  match server.reload, server.fan with
  | some reload, some fan =>
    if connection ∈ fan.sent then server.withFan reload (fan.answer connection works) else server
  | _, _ => server

/-- The control that the reload sends to a session. -/
def nextControl (reload : Reload) (connection : Nat) (actor : SessionActor)
    (resyncEvents : List CoreEvent) : Option SessionControl :=
  match reload.stage with
  | .preparing _ _ _ =>
    some (.prepareCutover reload.candidate
      (if actor.entry.playerId.isSome then resyncEvents else []) reload.forceResync)
  | .sealing _ events _ =>
    some (.sealCutover reload.candidate.revision
      (actor.entry.eventsForSession ⟨connection⟩ events))
  | .aborting _ => some (.abortCutover reload.candidate.revision)
  | _ => none

/-- Whether a fan-out takes a session that is gone for an error. -/
def needsAnswer (reload : Reload) : Bool :=
  match reload.stage with
  | .aborting _ => true
  | _ => false

def send (server : RuntimeServer) (connection : Nat) (resyncEvents : List CoreEvent) :
    Option RuntimeServer := do
  let reload ← server.reload
  let fan ← server.fan
  let actor ← server.session connection
  let control ← nextControl reload connection actor resyncEvents
  if connection ∉ fan.unsent then none
  else if actor.stage = .removed then
    some (server.withFan reload (fan.skip connection (!needsAnswer reload)))
  else
    some ((server.update connection
      ({ actor with controls := actor.controls ++ [control] }, server.revision)).withFan reload
        (fan.send connection))

/-- All sessions have answered the control of the stage. -/
def finish (server : RuntimeServer) : Option RuntimeServer := do
  let reload ← server.reload
  let fan ← server.fan
  if !fan.done then none
  else
    match reload.stage with
    | .preparing attempt mark fan =>
      if fan.failed then some (server.abort reload)
      else if mark = server.revision then some (server.withStage reload (.prepared mark))
      else if attempt = SESSION_PREPARE_STABILITY_LIMIT then some (server.abort reload)
      else
        some (server.withStage reload
          (.preparing (attempt + 1) server.revision (.new server.registered)))
    | .sealing mark _ fan =>
      if fan.failed || server.revision ≠ mark then some (server.abort reload)
      else some (server.withStage reload .sealed)
    | .aborting _ =>
      some { server with admission := .opened, journal := none, reload := none }
    | _ => none

/-- `handle_session_control` in the loop of `run_session`. -/
def control (server : RuntimeServer) (connection : Nat) (actor : SessionActor)
    (calls : ControlCalls) : Option RuntimeServer :=
  match actor.controls with
  | [] => none
  | next :: rest =>
    let controlled := { actor with controls := rest }.handleSessionControl encoders
      server.active.revision server.revision calls next
    let next :=
      if controlled.leaves then controlled.actor.leave controlled.revision
      else (controlled.actor, controlled.revision)
    some ((server.update connection next).answered connection controlled.acknowledged)

def step (server : RuntimeServer) : CutoverStep → Option RuntimeServer
  | .spawn phase =>
    if phase.first ∧ server.admission = .opened then
      some { server with
        sessions := server.sessions ++ [.new server.active.revision server.latch phase]
        revision := server.revision + 1 }
    else none
  | .frame connection frame calls => do
    let actor ← server.idle connection
    if server.admission = .opened then
      some (server.update connection
        (actor.handleFrame server.active server.revision frame calls))
    else none
  | .message connection works => do
    let actor ← server.idle connection
    match server.admission, actor.messages with
    | .opened, message :: rest =>
      some (server.update connection
        (actor.handleMessage encoders server.active server.revision message rest works))
    | _, _ => none
  | .enter connection => do
    let actor ← server.idle connection
    if server.admission = .opened then
      some (server.update connection (actor.enter server.active server.revision))
    else none
  | .publish connection => do
    let actor ← server.session connection
    if actor.busy then
      some (server.update connection (actor.publish server.revision))
    else none
  | .dispatch connection events => do
    let actor ← server.session connection
    some (server.update connection
      ({ actor with messages := actor.messages ++ [events] }, server.revision))
  | .commit events => some { server with journal := server.journal.map (· ++ events) }
  | .write connection => do
    let actor ← server.session connection
    let io ← actor.io.write
    some (server.update connection ({ actor with io := io }, server.revision))
  | .observe connection => do
    let actor ← server.idle connection
    let next ← actor.observe server.active server.latch server.revision
    some (server.update connection next)
  | .leave connection => do
    let actor ← server.session connection
    if actor.stage = .running then
      some (server.update connection (actor.leave server.revision))
    else none
  | .remove connection => do
    let actor ← server.session connection
    if actor.stage = .leaving ∧ server.admission = .opened then
      some ((server.update connection
        ({ actor with stage := .removed, controls := [] }, server.revision + 1)).answered
          connection false)
    else none
  | .control connection calls => do
    let actor ← server.idle connection
    server.control encoders connection actor calls
  | .stage candidate forceResync =>
    if server.reload.isNone ∧ candidate.revision = server.active.revision + 1 then
      some { server with journal := some [], reload := some ⟨candidate, forceResync, .staged⟩ }
    else none
  | .stageFails => do
    let reload ← server.reload
    match reload.stage with
    | .staged => some { server with journal := none, reload := none }
    | _ => none
  | .prepare => do
    let reload ← server.reload
    match reload.stage with
    | .staged =>
      some (server.withStage reload (.preparing 1 server.revision (.new server.registered)))
    | _ => none
  | .send connection resyncEvents => server.send connection resyncEvents
  | .finish => server.finish
  | .close => do
    let reload ← server.reload
    match reload.stage with
    | .prepared mark => some ({ server with admission := .closed }.withStage reload (.freezing mark))
    | _ => none
  | .freeze => do
    let reload ← server.reload
    match reload.stage with
    | .freezing mark =>
      if server.sessions.all fun actor => !actor.busy then
        some (server.withStage reload (.frozen mark))
      else none
    | _ => none
  | .freezeFails => do
    let reload ← server.reload
    match reload.stage with
    | .frozen _ => some (server.abort reload)
    | _ => none
  | .sealCutover => do
    let reload ← server.reload
    match reload.stage, server.journal with
    | .frozen mark, some events =>
      if server.revision = mark then
        some ({ server with journal := none }.withStage reload
          (.sealing mark events (.new server.registered)))
      else some ({ server with journal := none }.abort reload)
    | _, _ => none
  | .publishEpoch => do
    let reload ← server.reload
    match reload.stage with
    | .sealed => some ({ server with active := reload.candidate }.withStage reload .published)
    | _ => none
  | .resume => do
    let reload ← server.reload
    match reload.stage with
    | .published => some ({ server with admission := .opened }.withStage reload .resumed)
    | _ => none
  | .activateEpoch => do
    let reload ← server.reload
    match reload.stage with
    | .resumed => some { server with latch := reload.candidate.revision, reload := none }
    | _ => none

def run (server : RuntimeServer) (steps : List CutoverStep) : Option RuntimeServer :=
  Steps.run (step encoders) server steps

end RuntimeServer

end RevyCraft.Cutover
