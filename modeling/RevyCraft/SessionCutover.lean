/-
  RevyCraft/SessionCutover.lean
  =============================
  **A session in a reload** — the lifecycle of `session/types.rs`, the controls
  `PrepareCutover`, `SealCutover` and `AbortCutover` of `session/spawn.rs`, and
  what the session does between them: frames, queued messages, and the
  activation of a committed epoch.

  A session that has prepared goes on with its active phase, next to the
  pending one that was built for the candidate.  Others see its phase only
  through its directory entry.

  What the plugins answer (an adapter that cannot import its state, an event
  that cannot be encoded) and whether the transport can be paused and frozen
  are inputs of each call.  The asynchronous writer task is the subject of
  `TransportWriter`; here a pause is acknowledged at once, and resuming a
  frozen peer works.
-/
import RevyCraft.Canonical
import RevyCraft.JavaDecoding
import RevyCraft.ProtocolRegistry

namespace RevyCraft.Cutover

abbrev Frame : Type := List UInt8

/-! ### Adapters, profiles and epochs -/

/-- `Arc<dyn ProtocolAdapter>`; `object` is the identity of the object behind it. -/
structure ProtocolAdapter where
  object : Nat
  adapterId : String
  transport : TransportKind
  edition : Edition
  protocolNumber : Int
  capabilitySet : List String
  pluginGenerationId : Option Nat
  deriving DecidableEq

/-- `Arc<dyn GameplayProfileHandle>`. -/
structure GameplayProfileHandle where
  object : Nat
  profileId : String
  capabilitySet : List String
  pluginGenerationId : Option Nat
  deriving DecidableEq

structure ActiveGeneration where
  generationId : Nat
  protocolRegistry : List ProtocolAdapter
  defaultAdapter : ProtocolAdapter
  deriving DecidableEq

def ActiveGeneration.resolveAdapter (generation : ActiveGeneration) (adapterId : String) :
    Option ProtocolAdapter :=
  generation.protocolRegistry.find? fun adapter => adapter.adapterId = adapterId

def ActiveGeneration.resolveRoute (generation : ActiveGeneration) (transport : TransportKind)
    (edition : Edition) (protocolNumber : Int) : Option ProtocolAdapter :=
  generation.protocolRegistry.find? fun adapter =>
    adapter.transport = transport ∧ adapter.edition = edition ∧
      adapter.protocolNumber = protocolNumber

/-- `RuntimeEpoch`, with what its selection says about gameplay. -/
structure RuntimeEpoch where
  revision : Nat
  topology : ActiveGeneration
  gameplayMap : List (String × String)
  defaultGameplay : String
  gameplayProfiles : List GameplayProfileHandle

def RuntimeEpoch.gameplayProfileForAdapter (epoch : RuntimeEpoch) (adapterId : String) : String :=
  (epoch.gameplayMap.lookup adapterId).getD epoch.defaultGameplay

/-- `resolve_gameplay_for_adapter`. -/
def RuntimeEpoch.resolveGameplay (epoch : RuntimeEpoch) (adapterId : String) :
    Option GameplayProfileHandle :=
  epoch.gameplayProfiles.find? fun gameplay =>
    gameplay.profileId = epoch.gameplayProfileForAdapter adapterId

/-! ### Phases -/

structure SessionCapabilitySet where
  protocol : List String
  gameplay : List String
  gameplayProfile : String
  entityId : Option EntityId
  protocolGeneration : Option Nat
  gameplayGeneration : Option Nat
  deriving DecidableEq

structure BoundSession where
  generation : ActiveGeneration
  transport : TransportKind
  adapter : ProtocolAdapter
  gameplay : GameplayProfileHandle
  capabilities : SessionCapabilitySet
  deriving DecidableEq

def BoundSession.new (generation : ActiveGeneration) (transport : TransportKind)
    (adapter : ProtocolAdapter) (gameplay : GameplayProfileHandle) (entityId : Option EntityId) :
    BoundSession where
  generation := generation
  transport := transport
  adapter := adapter
  gameplay := gameplay
  capabilities := {
    protocol := adapter.capabilitySet
    gameplay := gameplay.capabilitySet
    gameplayProfile := gameplay.profileId
    entityId := entityId
    protocolGeneration := adapter.pluginGenerationId
    gameplayGeneration := gameplay.pluginGenerationId }

def BoundSession.withEntityId (binding : BoundSession) (entityId : EntityId) : BoundSession :=
  .new binding.generation binding.transport binding.adapter binding.gameplay (some entityId)

structure LoginChallenge where
  username : String
  verifyToken : List UInt8
  authGeneration : Nat
  deriving DecidableEq

inductive LoginSession where
  | negotiating (binding : BoundSession)
  | authenticating (binding : BoundSession) (challenge : LoginChallenge)
  | acceptedWritePending (binding : BoundSession) (playerId : PlayerId) (entityId : EntityId)

def LoginSession.binding : LoginSession → BoundSession
  | .negotiating binding => binding
  | .authenticating binding _ => binding
  | .acceptedWritePending binding _ _ => binding

inductive SessionPhase where
  | handshaking (generation : ActiveGeneration)
  | status (binding : BoundSession)
  | login (login : LoginSession)
  | play (binding : BoundSession) (playerId : PlayerId) (entityId : EntityId)
  | closing (generationId : Nat) (transport : TransportKind) (phase : ConnectionPhase)

namespace SessionPhase

def phase : SessionPhase → ConnectionPhase
  | .handshaking _ => .handshaking
  | .status _ => .status
  | .login _ => .login
  | .play _ _ _ => .play
  | .closing _ _ phase => phase

def generationId : SessionPhase → Nat
  | .handshaking generation => generation.generationId
  | .status binding => binding.generation.generationId
  | .login session => session.binding.generation.generationId
  | .play binding _ _ => binding.generation.generationId
  | .closing generationId _ _ => generationId

def binding : SessionPhase → Option BoundSession
  | .status binding => some binding
  | .login session => some session.binding
  | .play binding _ _ => some binding
  | _ => none

def transport : SessionPhase → TransportKind
  | .handshaking _ => .tcp
  | .status binding => binding.transport
  | .login session => session.binding.transport
  | .play binding _ _ => binding.transport
  | .closing _ transport _ => transport

end SessionPhase

/-! ### The directory -/

inductive SessionDirectoryPhase where
  | handshaking
  | status (adapterId : String)
  | login (adapterId : String)
  | play (adapterId : String) (playerId : PlayerId) (entityId : EntityId)
      (gameplay : GameplayProfileHandle) (capabilities : SessionCapabilitySet)
  | closing (phase : ConnectionPhase)

structure SessionDirectoryEntry where
  generationId : Nat
  transport : TransportKind
  phase : SessionDirectoryPhase

def SessionPhase.directoryEntry (session : SessionPhase) : SessionDirectoryEntry where
  generationId := session.generationId
  transport := session.transport
  phase :=
    match session with
    | .handshaking _ => .handshaking
    | .status binding => .status binding.adapter.adapterId
    | .login session => .login session.binding.adapter.adapterId
    | .play binding playerId entityId =>
      .play binding.adapter.adapterId playerId entityId binding.gameplay binding.capabilities
    | .closing _ _ phase => .closing phase

def SessionDirectoryPhase.sameProjection : SessionDirectoryPhase → SessionDirectoryPhase → Bool
  | .handshaking, .handshaking => true
  | .status left, .status right => left = right
  | .login left, .login right => left = right
  | .play leftAdapter leftPlayer leftEntity leftGameplay leftCapabilities,
    .play rightAdapter rightPlayer rightEntity rightGameplay rightCapabilities =>
    leftAdapter = rightAdapter && leftPlayer = rightPlayer && leftEntity = rightEntity &&
      leftGameplay.object = rightGameplay.object && leftCapabilities = rightCapabilities
  | .closing left, .closing right => left = right
  | _, _ => false

def SessionDirectoryEntry.sameProjection (entry other : SessionDirectoryEntry) : Bool :=
  entry.generationId = other.generationId && entry.transport = other.transport &&
    entry.phase.sameProjection other.phase

def SessionDirectoryEntry.playerId (entry : SessionDirectoryEntry) : Option PlayerId :=
  match entry.phase with
  | .play _ playerId _ _ _ => some playerId
  | _ => none

/-- `events_for_session`. -/
def SessionDirectoryEntry.eventsForSession (entry : SessionDirectoryEntry)
    (connection : ConnectionId) (events : List TargetedEvent) : List CoreEvent :=
  (events.filter fun event =>
    match event.target with
    | .connection target => target = connection
    | .player target => entry.playerId = some target
    | .everyoneExcept excluded => entry.playerId.any fun current => current ≠ excluded).map
      (·.event)

/-! ### The transport -/

inductive BedrockPeerAuthority where
  | running
  | frozen
  | transitioning

/-- A frame on its way to the client, and whether it encodes a play event. -/
structure WireFrame where
  play : Bool
  bytes : Frame

/-- The transport of a session: the writer with the frames it was given, and the Bedrock peer. -/
structure TransportSessionIo where
  writerPaused : Bool
  /-- The frames that the writer was resumed with. -/
  front : List WireFrame
  queue : List WireFrame
  written : List WireFrame
  peer : Option BedrockPeerAuthority

namespace TransportSessionIo

def new (bedrock : Bool) : TransportSessionIo where
  writerPaused := false
  front := []
  queue := []
  written := []
  peer := if bedrock then some .running else none

/-- The frames that are not written yet, in the order in which they will be. -/
def unwritten (io : TransportSessionIo) : List WireFrame := io.front ++ io.queue

def enqueue (io : TransportSessionIo) (frames : List WireFrame) : TransportSessionIo :=
  { io with queue := io.queue ++ frames }

def write (io : TransportSessionIo) : Option TransportSessionIo :=
  if io.writerPaused then none
  else
    match io.front, io.queue with
    | frame :: front, _ => some { io with front := front, written := io.written ++ [frame] }
    | [], frame :: queue => some { io with queue := queue, written := io.written ++ [frame] }
    | [], [] => none

def pauseWriter (io : TransportSessionIo) (works : Bool) : TransportSessionIo × Bool :=
  if io.writerPaused then (io, true)
  else if works then ({ io with writerPaused := true }, true)
  else (io, false)

def freezeTransport (io : TransportSessionIo) (works : Bool) : TransportSessionIo × Bool :=
  match io.peer with
  | none => (io, true)
  | some .running =>
    if works then ({ io with peer := some .frozen }, true)
    else ({ io with peer := some .transitioning }, false)
  | some .frozen => (io, true)
  | some .transitioning => (io, false)

def resumeTransport (io : TransportSessionIo) : TransportSessionIo × Bool :=
  match io.peer with
  | none => (io, true)
  | some .frozen => ({ io with peer := some .running }, true)
  | some .running => (io, true)
  | some .transitioning => (io, false)

def resumeWriterWithFront (io : TransportSessionIo) (frames : List WireFrame) :
    TransportSessionIo :=
  if !io.writerPaused && frames.isEmpty then io
  else { io with writerPaused := false, front := frames ++ io.front }

end TransportSessionIo

/-! ### The lifecycle -/

structure PendingSessionState where
  epochRevision : Nat
  phase : SessionPhase
  resyncFrames : List WireFrame

inductive SessionLifecycle where
  | running (epochRevision : Nat) (phase : SessionPhase)
  | cutoverPrepared (activeEpochRevision : Nat) (active : SessionPhase)
      (pending : PendingSessionState)
  | transferFrozen (activeEpochRevision : Nat) (active : SessionPhase)
      (pending : PendingSessionState)
  | transferred

/-- The phase of a session that has not given its authority away. -/
def SessionLifecycle.active : SessionLifecycle → Option SessionPhase
  | .running _ phase => some phase
  | .cutoverPrepared _ active _ => some active
  | .transferFrozen _ active _ => some active
  | .transferred => none

inductive SessionControl where
  | prepareCutover (candidate : RuntimeEpoch) (resyncEvents : List CoreEvent) (forceResync : Bool)
  | sealCutover (epochRevision : Nat) (finalEvents : List CoreEvent)
  | abortCutover (epochRevision : Nat)

inductive Stage where
  /-- In the loop of `run_session`. -/
  | running
  /-- Behind the loop, and still registered. -/
  | leaving
  /-- No longer in the registry. -/
  | removed
  deriving DecidableEq

structure SessionActor where
  stage : Stage
  lifecycle : SessionLifecycle
  /-- Holds a data-plane permit, for a frame or a message. -/
  busy : Bool
  entry : SessionDirectoryEntry
  controls : List SessionControl
  messages : List (List CoreEvent)
  /-- The value of the epoch latch that the session has seen. -/
  seen : Nat
  io : TransportSessionIo
  /-- The events of the messages handled so far. -/
  handled : List CoreEvent

def SessionActor.new (epochRevision latch : Nat) (phase : SessionPhase) : SessionActor where
  stage := .running
  lifecycle := .running epochRevision phase
  busy := false
  entry := phase.directoryEntry
  controls := []
  messages := []
  seen := latch
  io := .new (phase.transport = .udp)
  handled := []

/-- `SessionDirectoryProjection::publish`, with the revision of the directory. -/
def SessionActor.publishDirectory (actor : SessionActor) (revision : Nat) (phase : SessionPhase) :
    SessionActor × Nat :=
  if actor.entry.sameProjection phase.directoryEntry then (actor, revision)
  else ({ actor with entry := phase.directoryEntry }, revision + 1)

/-! ### Frames -/

inductive LoginRequest where
  | bedrockNetworkSettingsRequest (protocolNumber : Int)
  | bedrockLogin (protocolNumber : Int)
  | loginStart (username : String)
  /-- The two blobs as the server's key decrypts them, if it does. -/
  | encryptionResponse (sharedSecret verifyToken : Option (List UInt8))

/-- A frame as the adapter of the session decodes it. -/
inductive IncomingFrame where
  | handshake (intent : Option HandshakeIntent)
  | status (ping : Bool)
  | login (request : LoginRequest)
  | play
  /-- What cannot be decoded. -/
  | invalid

structure FrameCalls where
  onlineMode : Bool
  onlineAuthKeys : Bool
  /-- Writes that the session waits for. -/
  writes : Bool
  verifyToken : List UInt8
  authGeneration : Option Nat
  authenticates : Bool
  /-- `apply_command`, or enabling compression or encryption. -/
  works : Bool

/-- `Ok(false)`, `Ok(true)` or an error. -/
inductive FrameResult where
  | goesOn
  | closes
  | fails

def FrameResult.ofBool (works : Bool) : FrameResult := if works then .goesOn else .fails

/-- `disconnect_login`. -/
def disconnectLogin (calls : FrameCalls) : FrameResult := if calls.writes then .closes else .fails

section Frames

variable (epoch : RuntimeEpoch) (calls : FrameCalls)

def handleHandshakeFrame (generation : ActiveGeneration) (intent : HandshakeIntent) :
    SessionPhase × FrameResult :=
  let here : SessionPhase := .handshaking generation
  match generation.resolveRoute .tcp intent.edition intent.protocolNumber with
  | some adapter =>
    match epoch.resolveGameplay adapter.adapterId with
    | none => (here, .fails)
    | some gameplay =>
      let binding := BoundSession.new generation .tcp adapter gameplay none
      match intent.nextState with
      | .status => (.status binding, .goesOn)
      | .login => (.login (.negotiating binding), .goesOn)
  | none =>
    let fallback := generation.defaultAdapter
    match intent.nextState with
    | .status =>
      match epoch.resolveGameplay fallback.adapterId with
      | none => (here, .fails)
      | some gameplay => (.status (.new generation .tcp fallback gameplay none), .goesOn)
    | .login => (here, disconnectLogin calls)

def handleBedrockNetworkSettingsRequest (login : LoginSession) (protocolNumber : Int) :
    SessionPhase × FrameResult :=
  let binding := login.binding
  match binding.generation.resolveRoute .udp .be protocolNumber with
  | none => (.login login, disconnectLogin calls)
  | some adapter =>
    match epoch.resolveGameplay adapter.adapterId with
    | none => (.login login, .fails)
    | some gameplay =>
      (.login (.negotiating (.new binding.generation .udp adapter gameplay none)),
        .ofBool (calls.writes && calls.works))

def handleBedrockLogin (login : LoginSession) (protocolNumber : Int) :
    SessionPhase × FrameResult :=
  let current := login.binding
  let adapter? :=
    if current.adapter.edition = .be ∧ current.adapter.protocolNumber = protocolNumber then
      some current.adapter
    else current.generation.resolveRoute .udp .be protocolNumber
  match adapter? with
  | none => (.login login, .fails)
  | some adapter =>
    match epoch.resolveGameplay adapter.adapterId with
    | none => (.login login, .fails)
    | some gameplay =>
      (.login (.negotiating (.new current.generation .udp adapter gameplay none)),
        .ofBool (calls.authenticates && calls.works))

def handleLoginStart (login : LoginSession) (username : String) : SessionPhase × FrameResult :=
  if calls.onlineMode then
    match login with
    | .authenticating _ _ => (.login login, disconnectLogin calls)
    | login =>
      if !calls.onlineAuthKeys then (.login login, .fails)
      else
        match calls.authGeneration with
        | none => (.login login, .fails)
        | some authGeneration =>
          (.login (.authenticating login.binding ⟨username, calls.verifyToken, authGeneration⟩),
            .ofBool calls.writes)
  else (.login login, .ofBool (calls.authenticates && calls.works))

def handleEncryptionResponse (login : LoginSession)
    (sharedSecret verifyToken : Option (List UInt8)) : SessionPhase × FrameResult :=
  match login with
  | .authenticating binding challenge =>
    if !calls.onlineMode then (.login login, disconnectLogin calls)
    else if !calls.onlineAuthKeys then (.login login, .fails)
    else
      match sharedSecret, verifyToken with
      | some sharedSecret, some verifyToken =>
        if sharedSecret.length ≠ 16 then (.login login, disconnectLogin calls)
        else if !calls.works then (.login login, .fails)
        else if verifyToken ≠ challenge.verifyToken then (.login login, disconnectLogin calls)
        else if !calls.authenticates then (.login login, disconnectLogin calls)
        else (.login (.negotiating binding), .goesOn)
      | _, _ => (.login login, disconnectLogin calls)
  | login => (.login login, disconnectLogin calls)

def handleLoginFrame (login : LoginSession) : LoginRequest → SessionPhase × FrameResult
  | .bedrockNetworkSettingsRequest protocolNumber =>
    handleBedrockNetworkSettingsRequest epoch calls login protocolNumber
  | .bedrockLogin protocolNumber => handleBedrockLogin epoch calls login protocolNumber
  | .loginStart username => handleLoginStart calls login username
  | .encryptionResponse sharedSecret verifyToken =>
    handleEncryptionResponse calls login sharedSecret verifyToken

def handleIncomingFrame (session : SessionPhase) (frame : IncomingFrame) :
    SessionPhase × FrameResult :=
  match session, frame with
  | .handshaking generation, .handshake (some intent) =>
    handleHandshakeFrame epoch calls generation intent
  | .handshaking _, .handshake none => (session, .closes)
  | .status _, .status ping =>
    (session, if !calls.writes then .fails else if ping then .closes else .goesOn)
  | .login login, .login request => handleLoginFrame epoch calls login request
  | .play _ _ _, .play => (session, .ofBool calls.works)
  | .closing _ _ _, _ => (session, .closes)
  | _, _ => (session, .fails)

end Frames

/-! ### Queued messages -/

/-- The encoders of the protocol plugins: an adapter of a plugin generation, the player and its
    entity, and the event. -/
structure Encoders where
  playEvent : String → Option Nat → PlayerId → EntityId → CoreEvent → List Frame
  loginSuccess : String → Option Nat → PlayerSnapshot → Frame
  disconnect : String → Option Nat → ConnectionPhase → String → Frame

section Messages

variable (encoders : Encoders)

/-- `encode_play_event`, and `encode_frame` of its packets. -/
def BoundSession.encodePlayEvent (binding : BoundSession) (playerId : PlayerId)
    (entityId : EntityId) (event : CoreEvent) : List WireFrame :=
  (encoders.playEvent binding.adapter.adapterId binding.adapter.pluginGenerationId playerId
    entityId event).map fun bytes => ⟨true, bytes⟩

def BoundSession.encodePlayEvents (binding : BoundSession) (playerId : PlayerId)
    (entityId : EntityId) : List CoreEvent → List Bool → Option (List WireFrame)
  | [], _ => some []
  | event :: rest, works =>
    if works.headD true then
      (binding.encodePlayEvents playerId entityId rest works.tail).map fun frames =>
        binding.encodePlayEvent encoders playerId entityId event ++ frames
    else none

/-- `handle_outgoing_message` of events; `pending` are the payloads not written yet.  The frames
    are those that were given to the writer. -/
def handleOutgoingEvents : SessionPhase → List WireFrame → List CoreEvent → List Bool →
    SessionPhase × List WireFrame × FrameResult
  | session, pending, [], works =>
    if pending.isEmpty then (session, [], .goesOn)
    else if works.headD true then (session, pending, .goesOn)
    else (session, [], .fails)
  | session, pending, event :: rest, works =>
    match session, event with
    | .handshaking _, _ => (session, [], .fails)
    | .closing _ _ _, _ => (session, [], .fails)
    | .login login, .loginAccepted playerId entityId player =>
      let binding := login.binding.withEntityId entityId
      if works.headD true then
        let adapter := login.binding.adapter
        let success : WireFrame :=
          ⟨false, encoders.loginSuccess adapter.adapterId adapter.pluginGenerationId player⟩
        let later := handleOutgoingEvents (.play binding playerId entityId) [] rest works.tail
        (later.1, pending ++ [success] ++ later.2.1, later.2.2)
      else (.login (.acceptedWritePending binding playerId entityId), [], .fails)
    | session, .loginAccepted _ _ _ => (session, [], .fails)
    | session, .disconnect reason =>
      if works.headD true then
        (session, pending ++ (session.binding.toList.map fun binding =>
          ⟨false, encoders.disconnect binding.adapter.adapterId binding.adapter.pluginGenerationId
            session.phase reason⟩), .closes)
      else (session, [], .fails)
    | .play binding playerId entityId, event =>
      if works.headD true then
        handleOutgoingEvents (.play binding playerId entityId)
          (pending ++ binding.encodePlayEvent encoders playerId entityId event) rest works.tail
      else (.play binding playerId entityId, [], .fails)
    | session, _ => (session, [], .fails)

end Messages

/-! ### The cutover -/

structure ControlCalls where
  pauses : Bool
  freezes : Bool
  /-- Export and import of the plugins' session state. -/
  transfers : Bool
  encodes : List Bool

def candidateBinding (candidate : RuntimeEpoch) (binding : BoundSession)
    (entityId : Option EntityId) : Option BoundSession := do
  let adapterId := binding.adapter.adapterId
  let adapter ← candidate.topology.resolveAdapter adapterId
  if adapter.transport ≠ binding.transport then none
  else do
    let gameplay ← candidate.resolveGameplay adapterId
    some (.new candidate.topology binding.transport adapter gameplay entityId)

/-- `build_candidate_session_phase`; `none` is one of its configuration errors. -/
def buildCandidateSessionPhase (active : SessionPhase) (candidate : RuntimeEpoch) :
    Option SessionPhase :=
  match active with
  | .handshaking _ => some (.handshaking candidate.topology)
  | .status binding => (candidateBinding candidate binding none).map .status
  | .login (.negotiating binding) =>
    (candidateBinding candidate binding none).map fun binding => .login (.negotiating binding)
  | .login (.authenticating binding challenge) =>
    (candidateBinding candidate binding none).map fun binding =>
      .login (.authenticating binding challenge)
  | .login (.acceptedWritePending binding playerId entityId) =>
    (candidateBinding candidate binding (some entityId)).map fun binding =>
      .login (.acceptedWritePending binding playerId entityId)
  | .play binding playerId entityId =>
    (candidateBinding candidate binding (some entityId)).map fun binding =>
      .play binding playerId entityId
  | .closing _ transport phase => some (.closing candidate.topology.generationId transport phase)

def bindingChanged : SessionPhase → SessionPhase → Bool
  | .play active _ _, .play pending _ _ =>
    active.capabilities.protocolGeneration ≠ pending.capabilities.protocolGeneration ||
      active.capabilities.gameplayGeneration ≠ pending.capabilities.gameplayGeneration
  | _, _ => false

section Controls

variable (encoders : Encoders)

/-- The frames that a session in play is brought up to date with. -/
def resyncFramesFor (active pending : SessionPhase) (resyncEvents : List CoreEvent)
    (forceResync : Bool) (calls : ControlCalls) : Option (List WireFrame) :=
  match pending with
  | .play binding playerId entityId =>
    if forceResync || bindingChanged active pending then
      binding.encodePlayEvents encoders playerId entityId resyncEvents calls.encodes
    else some []
  | _ => some []

/-- The pending state for a candidate; `none` is one of the errors. -/
def pendingFor (active : SessionPhase) (candidate : RuntimeEpoch) (resyncEvents : List CoreEvent)
    (forceResync : Bool) (calls : ControlCalls) : Option PendingSessionState := do
  let phase ← buildCandidateSessionPhase active candidate
  let resyncFrames ← resyncFramesFor encoders active phase resyncEvents forceResync calls
  if calls.transfers then some ⟨candidate.revision, phase, resyncFrames⟩ else none

/-- `prepare_session_cutover`: the lifecycle after it, and whether it worked. -/
def prepareSessionCutover (lifecycle : SessionLifecycle) (candidate : RuntimeEpoch)
    (resyncEvents : List CoreEvent) (forceResync : Bool) (calls : ControlCalls) :
    SessionLifecycle × Bool :=
  let prepare (activeEpochRevision : Nat) (active : SessionPhase) : SessionLifecycle × Bool :=
    match pendingFor encoders active candidate resyncEvents forceResync calls with
    | some pending => (.cutoverPrepared activeEpochRevision active pending, true)
    | none => (.running activeEpochRevision active, false)
  match lifecycle with
  | .running epochRevision phase => prepare epochRevision phase
  | .cutoverPrepared activeEpochRevision active pending =>
    if pending.epochRevision = candidate.revision then prepare activeEpochRevision active
    else (lifecycle, false)
  | .transferFrozen _ _ _ => (lifecycle, false)
  | .transferred => (lifecycle, false)

/-- `seal_session_cutover`. -/
def sealSessionCutover (lifecycle : SessionLifecycle) (epochRevision : Nat)
    (finalEvents : List CoreEvent) (calls : ControlCalls) : SessionLifecycle × Bool :=
  match lifecycle with
  | .cutoverPrepared activeEpochRevision active pending =>
    let frozen : SessionLifecycle := .transferFrozen activeEpochRevision active pending
    if pending.epochRevision ≠ epochRevision then (frozen, false)
    else if !calls.transfers then (frozen, false)
    else
      match pending.phase with
      | .play binding playerId entityId =>
        match binding.encodePlayEvents encoders playerId entityId finalEvents calls.encodes with
        | some frames =>
          (.transferFrozen activeEpochRevision active
            { pending with resyncFrames := pending.resyncFrames ++ frames }, true)
        | none => (frozen, false)
      | _ => (frozen, true)
  | lifecycle => (lifecycle, false)

/-- `activate_committed_cutover`, with the revision of the active epoch. -/
def SessionActor.activateCommittedCutover (actor : SessionActor) (activeRevision revision : Nat) :
    SessionActor × Nat × Bool :=
  match actor.lifecycle with
  | .cutoverPrepared activeEpochRevision _ pending =>
    (actor, revision, pending.epochRevision ≠ activeRevision && activeEpochRevision = activeRevision)
  | .transferFrozen _ _ pending =>
    if pending.epochRevision = activeRevision then
      let published := actor.publishDirectory revision pending.phase
      let resumed := published.1.io.resumeTransport
      if resumed.2 then
        ({ published.1 with
            lifecycle := .running activeRevision pending.phase
            io := resumed.1.resumeWriterWithFront pending.resyncFrames }, published.2, true)
      else
        ({ published.1 with lifecycle := .running activeRevision pending.phase, io := resumed.1 },
          published.2, false)
    else (actor, revision, false)
  | .running epochRevision _ =>
    if epochRevision = activeRevision then
      ({ actor with io := actor.io.resumeWriterWithFront [] }, revision, true)
    else (actor, revision, false)
  | .transferred => (actor, revision, false)

/-- What a control comes to: the session, the revision of the directory, the acknowledgement, and
    whether the session is left. -/
structure Controlled where
  actor : SessionActor
  revision : Nat
  acknowledged : Bool
  leaves : Bool

/-- `handle_session_control`. -/
def SessionActor.handleSessionControl (actor : SessionActor) (activeRevision revision : Nat)
    (calls : ControlCalls) : SessionControl → Controlled
  | .prepareCutover candidate resyncEvents forceResync =>
    let activated := actor.activateCommittedCutover activeRevision revision
    if activated.2.2 then
      let prepared := prepareSessionCutover encoders activated.1.lifecycle candidate resyncEvents
        forceResync calls
      ⟨{ activated.1 with lifecycle := prepared.1 }, activated.2.1, prepared.2, false⟩
    else ⟨activated.1, activated.2.1, false, false⟩
  | .sealCutover epochRevision finalEvents =>
    let paused := actor.io.pauseWriter calls.pauses
    if !paused.2 then ⟨{ actor with io := paused.1 }, revision, false, false⟩
    else
      let frozen := paused.1.freezeTransport calls.freezes
      if !frozen.2 then ⟨{ actor with io := frozen.1 }, revision, false, false⟩
      else
        let sealed := sealSessionCutover encoders actor.lifecycle epochRevision finalEvents calls
        ⟨{ actor with io := frozen.1, lifecycle := sealed.1 }, revision, sealed.2, false⟩
  | .abortCutover epochRevision =>
    let resume (activeEpochRevision : Nat) (active : SessionPhase) : Controlled :=
      let resumed := actor.io.resumeTransport
      ⟨{ actor with
          lifecycle := .running activeEpochRevision active
          io := resumed.1.resumeWriterWithFront [] }, revision, resumed.2, !resumed.2⟩
    match actor.lifecycle with
    | .cutoverPrepared activeEpochRevision active pending =>
      if pending.epochRevision = epochRevision then resume activeEpochRevision active
      else ⟨actor, revision, true, false⟩
    | .transferFrozen activeEpochRevision active pending =>
      if pending.epochRevision = epochRevision then resume activeEpochRevision active
      else ⟨actor, revision, true, false⟩
    | _ => ⟨actor, revision, true, false⟩

end Controls

end RevyCraft.Cutover
