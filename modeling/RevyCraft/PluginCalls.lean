/-
  RevyCraft/PluginCalls.lean
  ==========================
  **The calls of plugins under the failure policy** (`host/profiles/`): a
  protocol plugin through `HotSwappableProtocolAdapter`, a gameplay plugin
  through `HotSwappableGameplayProfile` and an auth plugin through
  `HotSwappableAuthProfile`.

  Whatever a plugin refuses crosses the ABI as a text, and the host cannot
  tell a client's mistake from the plugin's own.  The main result says which
  calls the policy does not notice: a run of calls leaves no plugin
  quarantined and no fatal error exactly when every call of it is one of
  these, and then every call is handled as if it were alone.
-/
import RevyCraft.JavaDecoding
import RevyCraft.Transaction

namespace RevyCraft

/-! ### Calls across the ABI -/

structure PluginBufferLimits where
  protocolResponseBytes : Nat
  gameplayResponseBytes : Nat
  authResponseBytes : Nat
  metadataBytes : Nat

def PluginBufferLimits.default : PluginBufferLimits :=
  ⟨4 * 1024 * 1024, 1024 * 1024, 256 * 1024, 64 * 1024⟩

/-- The statuses that the exported entry point of a plugin reports when it fails. -/
inductive PluginStatus where
  | invalidInput
  | internal

def PluginStatus.debug : PluginStatus → String
  | .invalidInput => "InvalidInput"
  | .internal => "Internal"

/-- The contract codec of one kind of plugin: either side reads what the other wrote. -/
structure PluginCodec (Request Response : Type) where
  encodeRequest : Request → Except String (List UInt8)
  decodeRequest : List UInt8 → Except String Request
  encodeResponse : Request → Response → Except String (List UInt8)
  decodeResponse : Request → List UInt8 → Except String Response
  requestRead : ∀ request bytes,
    encodeRequest request = .ok bytes → decodeRequest bytes = .ok request
  responseRead : ∀ request response bytes,
    encodeResponse request response = .ok bytes → decodeResponse request bytes = .ok response

/-- `take_owned_buffer` of the bytes of a `Vec`, which are never more than can be addressed. -/
def takeOwnedBuffer (bytes : List UInt8) (maxBytes : Nat) (what : String) :
    Except String (List UInt8) :=
  if bytes.length > maxBytes then
    .error s!"{what} exceeded configured limit: {bytes.length} bytes > {maxBytes} bytes"
  else .ok bytes

def decodePluginError (pluginId : String) (status : PluginStatus) (message : String)
    (maxBytes : Nat) : String :=
  match takeOwnedBuffer message.toUTF8.data.toList maxBytes "plugin error buffer" with
  | .error error => s!"plugin `{pluginId}` returned invalid error buffer: {error}"
  | .ok bytes =>
    if bytes.isEmpty then s!"plugin `{pluginId}` returned {status.debug}" else message

namespace PluginCodec

variable {Request Response : Type} (codec : PluginCodec Request Response)

/-- `mc_plugin_invoke`, the entry point that the SDK exports. -/
def pluginInvoke (handle : Request → Except String Response) (input : List UInt8) :
    Except (PluginStatus × String) (List UInt8) := do
  let request ← (codec.decodeRequest input).mapError fun error => (.invalidInput, error)
  let response ← (handle request).mapError fun message => (.internal, message)
  (codec.encodeResponse request response).mapError fun message => (.internal, message)

/-- `invoke` of a generation: `what` names the response buffer and `maxBytes` is its limit. -/
def invoke (pluginId what : String) (maxBytes metadataBytes : Nat)
    (handle : Request → Except String Response) (request : Request) : Except String Response := do
  let input ← codec.encodeRequest request
  match codec.pluginInvoke handle input with
  | .error (status, error) => .error (decodePluginError pluginId status error metadataBytes)
  | .ok output =>
    let bytes ← takeOwnedBuffer output maxBytes what
    codec.decodeResponse request bytes

/-- The plugin answers, and its answer reaches the host: both have an encoding, and that of the
    answer fits the host's buffer. -/
structure Answers (maxBytes : Nat) (handle : Request → Except String Response)
    (request : Request) (response : Response) : Prop where
  sent : ∃ input, codec.encodeRequest request = .ok input
  handled : handle request = .ok response
  fits : ∃ output, codec.encodeResponse request response = .ok output ∧ output.length ≤ maxBytes

variable {codec} {pluginId what : String} {maxBytes metadataBytes : Nat}
  {handle : Request → Except String Response} {request : Request} {response : Response}

theorem invoke_eq_ok_iff :
    codec.invoke pluginId what maxBytes metadataBytes handle request = .ok response ↔
      codec.Answers maxBytes handle request response := by
  rcases hsent : codec.encodeRequest request with error | input
  · constructor
    · intro h
      simp [invoke, hsent, bind, Except.bind] at h
    · rintro ⟨⟨input, h⟩, -, -⟩
      rw [hsent] at h
      cases h
  have hread := codec.requestRead request input hsent
  rcases hhandled : handle request with message | answer
  · constructor
    · intro h
      simp [invoke, pluginInvoke, hsent, hread, hhandled, bind, Except.bind, Except.mapError] at h
    · rintro ⟨-, h, -⟩
      rw [hhandled] at h
      cases h
  rcases hencoded : codec.encodeResponse request answer with message | output
  · constructor
    · intro h
      simp [invoke, pluginInvoke, hsent, hread, hhandled, hencoded, bind, Except.bind,
        Except.mapError] at h
    · rintro ⟨-, h, output, hfits, -⟩
      cases hhandled.symm.trans h
      rw [hencoded] at hfits
      cases hfits
  have hinvoke : codec.invoke pluginId what maxBytes metadataBytes handle request =
      (takeOwnedBuffer output maxBytes what).bind (codec.decodeResponse request) := by
    simp only [invoke, pluginInvoke, hsent, hread, hhandled, hencoded, bind, Except.bind,
      Except.mapError]
  rw [hinvoke, takeOwnedBuffer]
  by_cases hfits : output.length > maxBytes
  · rw [if_pos hfits]
    constructor
    · intro h
      cases h
    · rintro ⟨-, h, other, hother, hbound⟩
      cases hhandled.symm.trans h
      cases hencoded.symm.trans hother
      omega
  · rw [if_neg hfits]
    have hdecoded := codec.responseRead request answer output hencoded
    constructor
    · intro h
      cases hdecoded.symm.trans h
      exact ⟨⟨input, hsent⟩, hhandled, output, hencoded, by omega⟩
    · rintro ⟨-, h, -⟩
      cases hhandled.symm.trans h
      exact hdecoded

/-- A codec as far as one exchange goes. -/
def single [DecidableEq Request] [DecidableEq Response] (request : Request)
    (input : List UInt8) (response : Response) (output : List UInt8) :
    PluginCodec Request Response where
  encodeRequest r := if r = request then .ok input else .error "another request"
  decodeRequest bytes := if bytes = input then .ok request else .error "another request"
  encodeResponse _ r := if r = response then .ok output else .error "another response"
  decodeResponse _ bytes := if bytes = output then .ok response else .error "another response"
  requestRead := by
    intro r bytes h
    split at h
    · next hr =>
      cases h
      rw [if_pos rfl, hr]
    · cases h
  responseRead := by
    intro _ r bytes h
    split at h
    · next hr =>
      cases h
      rw [if_pos rfl, hr]
    · cases h

end PluginCodec

/-! ### Protocol plugins -/

structure ServerListStatus where
  version : ProtocolDescriptor
  playersOnline : Nat
  maxPlayers : Nat
  description : String
  deriving DecidableEq

/-- `{:02x}` of an `i32`. -/
def hexI32 (value : Int) : String :=
  let digits := Nat.toDigits 16 (value % 2 ^ 32).toNat
  String.ofList (if digits.length < 2 then '0' :: digits else digits)

/-- The texts of `ProtocolError`. -/
def ProtocolError.text : ProtocolError → String
  | .unexpectedEof => "unexpected end of packet"
  | .invalidVarInt => "invalid varint encoding"
  | .invalidUtf8 => "invalid utf-8 string"
  | .stringTooLong length => s!"string too long: {length}"
  | .invalidPacket message => s!"invalid packet: {message}"
  | .unsupportedPacket id => s!"unsupported packet id 0x{hexI32 id}"
  | .plugin message => s!"plugin error: {message}"

/-- `RustProtocolPlugin`: how the plugin answers at the time of the call.  Its own memory of the
    sessions is part of the answers. -/
structure RustProtocolPlugin where
  tryRoute : List UInt8 → Except ProtocolError (Option HandshakeIntent)
  tryDecodeFrame : List UInt8 → Except ProtocolError (Option (List UInt8) × List UInt8)
  encodeFrame : List UInt8 → Except ProtocolError (List UInt8)
  decodeStatus : List UInt8 → Except ProtocolError StatusRequest
  decodeLogin : List UInt8 → Except ProtocolError LoginRequest
  decodePlay : ProtocolSessionSnapshot → List UInt8 → Except ProtocolError (Option RuntimeCommand)
  encodeStatusResponse : ServerListStatus → Except ProtocolError (List UInt8)
  encodeStatusPong : Int → Except ProtocolError (List UInt8)
  encodeDisconnect : ConnectionPhase → String → Except ProtocolError (List UInt8)
  encodeEncryptionRequest : String → List UInt8 → List UInt8 → Except ProtocolError (List UInt8)
  encodeLoginSuccess : PlayerSnapshot → Except ProtocolError (List UInt8)
  encodePlayEvent : CoreEvent → ProtocolSessionSnapshot →
    Except ProtocolError (List (List UInt8))
  sessionClosed : ProtocolSessionSnapshot → Except ProtocolError Unit

/-- The requests that a session of a client makes. -/
inductive ProtocolRequest where
  | tryRoute (frame : List UInt8)
  | tryDecodeWireFrame (buffer : List UInt8)
  | encodeWireFrame (payload : List UInt8)
  | decodeStatus (frame : List UInt8)
  | decodeLogin (frame : List UInt8)
  | decodePlay (session : ProtocolSessionSnapshot) (frame : List UInt8)
  | encodeStatusResponse (status : ServerListStatus)
  | encodeStatusPong (payload : Int)
  | encodeDisconnect (phase : ConnectionPhase) (reason : String)
  | encodeEncryptionRequest (serverId : String) (publicKeyDer verifyToken : List UInt8)
  | encodeLoginSuccess (player : PlayerSnapshot)
  | encodePlayEvent (session : ProtocolSessionSnapshot) (event : CoreEvent)
  | sessionClosed (session : ProtocolSessionSnapshot)
  deriving DecidableEq

inductive ProtocolResponse where
  | handshakeIntent (intent : Option HandshakeIntent)
  | wireFrameDecodeResult (result : Option (List UInt8 × Nat))
  | statusRequest (request : StatusRequest)
  | loginRequest (request : LoginRequest)
  | runtimeCommand (command : Option RuntimeCommand)
  | frame (frame : List UInt8)
  | frames (frames : List (List UInt8))
  | empty
  deriving DecidableEq

/-- An answer of the plugin as the SDK hands it out: the error becomes its text. -/
def respond {α : Type} (wrap : α → ProtocolResponse) (answer : Except ProtocolError α) :
    Except String ProtocolResponse :=
  (answer.map wrap).mapError ProtocolError.text

/-- `handle_protocol_request`. -/
def handleProtocolRequest (plugin : RustProtocolPlugin) :
    ProtocolRequest → Except String ProtocolResponse
  | .tryRoute frame => respond .handshakeIntent (plugin.tryRoute frame)
  | .tryDecodeWireFrame buffer =>
    respond (fun decoded =>
      .wireFrameDecodeResult (decoded.1.map fun frame => (frame, buffer.length - decoded.2.length)))
      (plugin.tryDecodeFrame buffer)
  | .encodeWireFrame payload => respond .frame (plugin.encodeFrame payload)
  | .decodeStatus frame => respond .statusRequest (plugin.decodeStatus frame)
  | .decodeLogin frame => respond .loginRequest (plugin.decodeLogin frame)
  | .decodePlay session frame => respond .runtimeCommand (plugin.decodePlay session frame)
  | .encodeStatusResponse status => respond .frame (plugin.encodeStatusResponse status)
  | .encodeStatusPong payload => respond .frame (plugin.encodeStatusPong payload)
  | .encodeDisconnect phase reason => respond .frame (plugin.encodeDisconnect phase reason)
  | .encodeEncryptionRequest serverId publicKeyDer verifyToken =>
    respond .frame (plugin.encodeEncryptionRequest serverId publicKeyDer verifyToken)
  | .encodeLoginSuccess player => respond .frame (plugin.encodeLoginSuccess player)
  | .encodePlayEvent session event => respond .frames (plugin.encodePlayEvent event session)
  | .sessionClosed session => respond (fun _ => .empty) (plugin.sessionClosed session)

/-- The adapter of a plugin together with the plugin. -/
structure SessionAdapter where
  pluginId : String
  descriptor : ProtocolDescriptor
  named : descriptor.adapterId = pluginId
  plugin : RustProtocolPlugin
  codec : PluginCodec ProtocolRequest ProtocolResponse
  limits : PluginBufferLimits

/-- `ProtocolGeneration::invoke`, before the text becomes a `ProtocolError::Plugin`. -/
def SessionAdapter.invoke (adapter : SessionAdapter) (request : ProtocolRequest) :
    Except String ProtocolResponse :=
  adapter.codec.invoke adapter.pluginId "protocol response buffer"
    adapter.limits.protocolResponseBytes adapter.limits.metadataBytes
    (handleProtocolRequest adapter.plugin) request

/-- What the adapter still checks of an answer.  The SDK answers a request with the variant that
    belongs to it, so the `unexpected` branches of the adapter are not reached. -/
def checkResponse (request : ProtocolRequest) (response : ProtocolResponse) :
    Except ProtocolError ProtocolResponse :=
  match request, response with
  | .tryDecodeWireFrame buffer, .wireFrameDecodeResult (some (_, bytesConsumed)) =>
    if bytesConsumed > buffer.length then
      .error (.plugin s!"wire codec consumed {bytesConsumed} buffered bytes but only {buffer.length} were available")
    else .ok response
  | _, _ => .ok response

def SessionAdapter.toProtocolAdapter (adapter : SessionAdapter) : ProtocolAdapter where
  pluginId := adapter.pluginId
  descriptor := adapter.descriptor
  named := adapter.named
  invokeTryRoute frame :=
    match adapter.invoke (.tryRoute frame) with
    | .ok (.handshakeIntent intent) => .ok intent
    | .ok _ => .error "unexpected try_route response"
    | .error error => .error error

/-- A method of `HotSwappableProtocolAdapter`. -/
def SessionAdapter.call (adapter : SessionAdapter) (request : ProtocolRequest) :
    HostM ProtocolResponse :=
  adapter.toProtocolAdapter.withGeneration
    (((adapter.invoke request).mapError .plugin).bind (checkResponse request))

/-! ### Gameplay plugins -/

section PartialEq

variable {α : Type}

/-- `==` on `Option`. -/
def optionEq (eq : α → α → Bool) : Option α → Option α → Bool
  | none, none => true
  | some a, some b => eq a b
  | _, _ => false

/-- `==` on sequences. -/
def listEq (eq : α → α → Bool) : List α → List α → Bool
  | [], [] => true
  | a :: as, b :: bs => eq a b && listEq eq as bs
  | _, _ => false

theorem listEq_self {eq : α → α → Bool} {as : List α} :
    listEq eq as as = true ↔ ∀ a ∈ as, eq a a = true := by
  induction as with
  | nil => simp [listEq]
  | cons a as ih => simp [listEq, ih]

end PartialEq

def DroppedItemSnapshot.partialEq (a b : DroppedItemSnapshot) : Bool :=
  a.item = b.item && a.position.partialEq b.position && a.velocity.partialEq b.velocity

/-- The derived `PartialEq` of an event: its floats are compared as IEEE 754 does. -/
def CoreEvent.partialEq : CoreEvent → CoreEvent → Bool
  | .loginAccepted p e player, .loginAccepted p' e' player' =>
    p = p' && e = e' && player.partialEq player'
  | .playBootstrap player e m d, .playBootstrap player' e' m' d' =>
    player.partialEq player' && e = e' && m = m' && d = d'
  | .entitySpawned e player, .entitySpawned e' player' => e = e' && player.partialEq player'
  | .entityMoved e player, .entityMoved e' player' => e = e' && player.partialEq player'
  | .droppedItemSpawned e item, .droppedItemSpawned e' item' => e = e' && item.partialEq item'
  | a, b => a = b

def GameplayEffect.partialEq : GameplayEffect → GameplayEffect → Bool
  | .setPlayerPose p position yaw pitch g, .setPlayerPose p' position' yaw' pitch' g' =>
    p = p' && optionEq Vec3.partialEq position position' && optionEq (· == ·) yaw yaw' &&
      optionEq (· == ·) pitch pitch' && g = g'
  | .spawnDroppedItem position item, .spawnDroppedItem position' item' =>
    position.partialEq position' && item = item'
  | .emitEvent event, .emitEvent event' =>
    event.target = event'.target && event.event.partialEq event'.event
  | a, b => a = b

instance : LawfulBEq (Option BlockState) := inferInstance
instance : LawfulBEq (Option BlockEntityState) := inferInstance

def SemanticReadSet.partialEq (a b : SemanticReadSet) : Bool :=
  a.worldMeta = b.worldMeta &&
    listEq (fun x y => x.1 = y.1 && samePlayer x.2 y.2)
      a.playerSnapshots.toList b.playerSnapshots.toList &&
    a.blockStates = b.blockStates && a.blockEntities = b.blockEntities &&
    a.canEditBlock = b.canEditBlock

def GameplayEffectBatch.partialEq (a b : GameplayEffectBatch) : Bool :=
  a.nowMs = b.nowMs && a.reads.partialEq b.reads &&
    listEq GameplayEffect.partialEq a.effects b.effects

inductive HostCallback where
  | readPlayerSnapshot (playerId : PlayerId) (snapshot : Option PlayerSnapshot)
  | readWorldMeta (worldMeta : WorldMeta)
  | readBlockState (position : BlockPos) (block : Option BlockState)
  | readBlockEntity (position : BlockPos) (entity : Option BlockEntityState)
  | canEditBlock (key : GameplayCanEditBlockKey) (allowed : Bool)
  | pushEffect (effect : GameplayEffect)

def GameplayEffectBatch.empty (nowMs : Nat) : GameplayEffectBatch := ⟨nowMs, .default, []⟩

/-- What the host records of a callback (`GameplayInvocationScope`), and the SDK on the other
    side of the ABI (`GameplayInvocationRecorder`). -/
def GameplayEffectBatch.record (batch : GameplayEffectBatch) : HostCallback → GameplayEffectBatch
  | .readPlayerSnapshot playerId snapshot =>
    { batch with reads.playerSnapshots := batch.reads.playerSnapshots.insert playerId snapshot }
  | .readWorldMeta worldMeta => { batch with reads.worldMeta := some worldMeta }
  | .readBlockState position block =>
    { batch with reads.blockStates := batch.reads.blockStates.insert position block }
  | .readBlockEntity position entity =>
    { batch with reads.blockEntities := batch.reads.blockEntities.insert position entity }
  | .canEditBlock key allowed =>
    { batch with reads.canEditBlock := batch.reads.canEditBlock.insert key allowed }
  | .pushEffect effect => { batch with effects := batch.effects ++ [effect] }

structure GameplaySessionSnapshot where
  phase : ConnectionPhase
  playerId : Option PlayerId
  entityId : Option EntityId
  protocol : List String
  gameplayProfile : String
  protocolGeneration : Option Nat
  gameplayGeneration : Option Nat
  deriving DecidableEq

/-- The requests that are answered with a batch. -/
inductive GameplayRequest where
  | handlePlayerJoin (session : GameplaySessionSnapshot) (playerId : PlayerId) (nowMs : Nat)
  | handleCommand (session : GameplaySessionSnapshot) (command : GameplayCommand) (nowMs : Nat)
  | handleTick (session : GameplaySessionSnapshot) (nowMs : Nat)
  deriving DecidableEq

def GameplayRequest.nowMs : GameplayRequest → Nat
  | .handlePlayerJoin _ _ nowMs | .handleCommand _ _ nowMs | .handleTick _ nowMs => nowMs

/-- One invocation of a gameplay plugin: what it asked its host and how it ended. -/
structure GameplayInvocation where
  pluginId : String
  request : GameplayRequest
  callbacks : List HostCallback
  result : Except String Unit
  codec : PluginCodec GameplayRequest GameplayEffectBatch
  limits : PluginBufferLimits

namespace GameplayInvocation

def nowMs (invocation : GameplayInvocation) : Nat := invocation.request.nowMs

/-- `scope.finish` of the host. -/
def recordedBatch (invocation : GameplayInvocation) : GameplayEffectBatch :=
  invocation.callbacks.foldl .record (.empty invocation.nowMs)

/-- `handle_gameplay_request`: the SDK returns what it recorded itself. -/
def handleGameplayRequest (invocation : GameplayInvocation) (request : GameplayRequest) :
    Except String GameplayEffectBatch :=
  invocation.result.map fun _ => invocation.callbacks.foldl .record (.empty request.nowMs)

/-- `generation.invoke_with_scope`. -/
def response (invocation : GameplayInvocation) : Except String GameplayEffectBatch :=
  invocation.codec.invoke invocation.pluginId "gameplay response buffer"
    invocation.limits.gameplayResponseBytes invocation.limits.metadataBytes
    invocation.handleGameplayRequest invocation.request

def mismatchedBatch : String :=
  "gameplay plugin returned an effect batch that did not match host-recorded reads/effects"

/-- `handle_runtime_failure` of the gameplay profile. -/
def handleFailure (invocation : GameplayInvocation) (message : String)
    (failures : PluginFailureDispatch) :
    Except PluginHostError GameplayEffectBatch × PluginFailureDispatch :=
  let (action, failures) :=
    failures.handleRuntimeFailure .gameplay invocation.pluginId message
  match action with
  | .skip | .quarantine => (.ok (.empty invocation.nowMs), failures)
  | .failFast => (.error ⟨message⟩, failures)

/-- `invoke_with_scope` of `HotSwappableGameplayProfile`. -/
def invokeWithScope (invocation : GameplayInvocation) (failures : PluginFailureDispatch) :
    Except PluginHostError GameplayEffectBatch × PluginFailureDispatch :=
  if failures.isActiveQuarantined invocation.pluginId then
    (.ok (.empty invocation.nowMs), failures)
  else
    match invocation.response with
    | .ok batch =>
      if !batch.partialEq invocation.recordedBatch then
        invocation.handleFailure mismatchedBatch failures
      else (.ok invocation.recordedBatch, failures)
    | .error error => invocation.handleFailure error failures

end GameplayInvocation

/-! ### Auth plugins -/

structure RustAuthPlugin where
  authenticateOffline : String → Except String PlayerId
  authenticateOnline : String → String → Except String PlayerId

inductive AuthRequest where
  | authenticateOffline (username : String)
  | authenticateOnline (username serverHash : String)

def handleAuthRequest (plugin : RustAuthPlugin) : AuthRequest → Except String PlayerId
  | .authenticateOffline username => plugin.authenticateOffline username
  | .authenticateOnline username serverHash => plugin.authenticateOnline username serverHash

/-- `HotSwappableAuthProfile`, which asks its plugin even while it is quarantined. -/
structure AuthProfile where
  pluginId : String
  plugin : RustAuthPlugin
  codec : PluginCodec AuthRequest PlayerId
  limits : PluginBufferLimits

/-- `AuthGeneration::authenticate_offline` and `authenticate_online`. -/
def AuthProfile.invoke (profile : AuthProfile) (request : AuthRequest) : Except String PlayerId :=
  profile.codec.invoke profile.pluginId "auth response buffer" profile.limits.authResponseBytes
    profile.limits.metadataBytes (handleAuthRequest profile.plugin) request

def AuthProfile.authenticate (profile : AuthProfile) (request : AuthRequest)
    (failures : PluginFailureDispatch) :
    Except PluginHostError PlayerId × PluginFailureDispatch :=
  match profile.invoke request with
  | .ok playerId => (.ok playerId, failures)
  | .error message =>
    (.error ⟨message⟩, (failures.handleRuntimeFailure .auth profile.pluginId message).2)

/-! ### Runs of calls -/

inductive PluginCall where
  | protocol (adapter : SessionAdapter) (request : ProtocolRequest)
  | gameplay (invocation : GameplayInvocation)
  | auth (profile : AuthProfile) (request : AuthRequest)

inductive PluginOutcome where
  | protocol (result : Except ProtocolError ProtocolResponse)
  | gameplay (result : Except PluginHostError GameplayEffectBatch)
  | auth (result : Except PluginHostError PlayerId)

namespace PluginCall

def kind : PluginCall → PluginKind
  | .protocol _ _ => .protocol
  | .gameplay _ => .gameplay
  | .auth _ _ => .auth

def pluginId : PluginCall → String
  | .protocol adapter _ => adapter.pluginId
  | .gameplay invocation => invocation.pluginId
  | .auth profile _ => profile.pluginId

def run (call : PluginCall) (failures : PluginFailureDispatch) :
    PluginOutcome × PluginFailureDispatch :=
  match call with
  | .protocol adapter request =>
    let (result, failures) := adapter.call request failures
    (.protocol result, failures)
  | .gameplay invocation =>
    let (result, failures) := invocation.invokeWithScope failures
    (.gameplay result, failures)
  | .auth profile request =>
    let (result, failures) := profile.authenticate request failures
    (.auth result, failures)

/-- The outcomes of a run of calls, and the policy it ends in. -/
def runAll : List PluginCall → PluginFailureDispatch → List PluginOutcome × PluginFailureDispatch
  | [], failures => ([], failures)
  | call :: rest, failures =>
    let (outcome, failures) := call.run failures
    let (outcomes, failures) := runAll rest failures
    (outcome :: outcomes, failures)

end PluginCall

/-- No plugin is quarantined and no fatal error is pending. -/
structure PluginFailureDispatch.Clean (failures : PluginFailureDispatch) : Prop where
  live : ∀ pluginId, failures.isActiveQuarantined pluginId = false
  noFatal : failures.pendingFatal = none

/-- **The policy notices nothing of a run**: it is clean in every state the run reaches, and every
    call is handled as if it were the only one. -/
structure Unnoticed (matrix : PluginFailureMatrix) (calls : List PluginCall) : Prop where
  clean : ∀ before after, calls = before ++ after →
    (PluginCall.runAll before (.new matrix)).2.Clean
  alone : (PluginCall.runAll calls (.new matrix)).1 =
    calls.map fun call => (call.run (.new matrix)).1

/-! ### What a call does to the policy -/

/-- A float that is not NaN. -/
def Ordered (value : Float) : Prop := (value == value) = true

/-- A single-precision float that is not NaN. -/
def Ordered32 (value : Float32) : Prop := (value == value) = true

def Vec3.Ordered (v : Vec3) : Prop :=
  RevyCraft.Ordered v.x ∧ RevyCraft.Ordered v.y ∧ RevyCraft.Ordered v.z

structure PlayerSnapshot.Ordered (player : PlayerSnapshot) : Prop where
  position : player.position.Ordered
  yaw : Ordered32 player.yaw
  pitch : Ordered32 player.pitch
  health : Ordered32 player.health
  foodSaturation : Ordered32 player.foodSaturation

/-- An event without a NaN in it. -/
def CoreEvent.Ordered : CoreEvent → Prop
  | .loginAccepted _ _ player => player.Ordered
  | .playBootstrap player _ _ _ => player.Ordered
  | .entitySpawned _ player => player.Ordered
  | .entityMoved _ player => player.Ordered
  | .droppedItemSpawned _ item => item.position.Ordered ∧ item.velocity.Ordered
  | _ => True

def GameplayEffect.Ordered : GameplayEffect → Prop
  | .setPlayerPose _ position yaw pitch _ =>
    (∀ v ∈ position, v.Ordered) ∧ (∀ a ∈ yaw, Ordered32 a) ∧ (∀ a ∈ pitch, Ordered32 a)
  | .spawnDroppedItem position _ => position.Ordered
  | .emitEvent event => event.event.Ordered
  | _ => True

/-- No player that the plugin read and nothing that it asked for has a NaN in it. -/
structure GameplayEffectBatch.Ordered (batch : GameplayEffectBatch) : Prop where
  players : ∀ entry ∈ batch.reads.playerSnapshots.toList, ∀ player ∈ entry.2, player.Ordered
  effects : ∀ effect ∈ batch.effects, effect.Ordered

theorem Vec3.partialEq_self {v : Vec3} : v.partialEq v = true ↔ v.Ordered := by
  simp [Vec3.partialEq, Vec3.Ordered, RevyCraft.Ordered, and_assoc]

theorem PlayerSnapshot.partialEq_self {player : PlayerSnapshot} :
    player.partialEq player = true ↔ player.Ordered := by
  constructor
  · intro h
    simp only [PlayerSnapshot.partialEq, Bool.and_eq_true] at h
    exact ⟨Vec3.partialEq_self.mp (by tauto), by unfold Ordered32; tauto,
      by unfold Ordered32; tauto, by unfold Ordered32; tauto, by unfold Ordered32; tauto⟩
  · rintro ⟨hposition, hyaw, hpitch, hhealth, hsaturation⟩
    unfold Ordered32 at hyaw hpitch hhealth hsaturation
    simp [PlayerSnapshot.partialEq, Vec3.partialEq_self.mpr hposition, hyaw, hpitch, hhealth,
      hsaturation]

theorem CoreEvent.partialEq_self {event : CoreEvent} :
    event.partialEq event = true ↔ event.Ordered := by
  cases event with
  | droppedItemSpawned entityId item =>
    simp [CoreEvent.partialEq, CoreEvent.Ordered, DroppedItemSnapshot.partialEq,
      Vec3.partialEq_self]
  | _ => simp [CoreEvent.partialEq, CoreEvent.Ordered, PlayerSnapshot.partialEq_self]

theorem optionEq_self {α : Type} {eq : α → α → Bool} {a : Option α} :
    optionEq eq a a = true ↔ ∀ b ∈ a, eq b b = true := by
  cases a with
  | none => simp [optionEq]
  | some a => simp [optionEq]

theorem GameplayEffect.partialEq_self {effect : GameplayEffect} :
    effect.partialEq effect = true ↔ effect.Ordered := by
  cases effect with
  | setPlayerPose playerId position yaw pitch onGround =>
    simp [GameplayEffect.partialEq, GameplayEffect.Ordered, optionEq_self, Vec3.partialEq_self,
      Ordered32, and_assoc]
  | _ =>
    simp [GameplayEffect.partialEq, GameplayEffect.Ordered, Vec3.partialEq_self,
      CoreEvent.partialEq_self]

theorem samePlayer_self {player : Option PlayerSnapshot} :
    samePlayer player player = true ↔ ∀ p ∈ player, p.Ordered := by
  cases player with
  | none => simp [samePlayer]
  | some player => simp [samePlayer, PlayerSnapshot.partialEq_self]

theorem GameplayEffectBatch.partialEq_self {batch : GameplayEffectBatch} :
    batch.partialEq batch = true ↔ batch.Ordered := by
  have hreads : batch.reads.partialEq batch.reads = true ↔
      ∀ entry ∈ batch.reads.playerSnapshots.toList, ∀ player ∈ entry.2, player.Ordered := by
    simp [SemanticReadSet.partialEq, listEq_self, samePlayer_self]
  have heffects : listEq GameplayEffect.partialEq batch.effects batch.effects = true ↔
      ∀ effect ∈ batch.effects, effect.Ordered := by
    simp [listEq_self, GameplayEffect.partialEq_self]
  simp only [GameplayEffectBatch.partialEq, Bool.and_eq_true, hreads, heffects, decide_true,
    true_and]
  exact ⟨fun h => ⟨h.1, h.2⟩, fun h => ⟨h.players, h.effects⟩⟩

variable {matrix : PluginFailureMatrix}

namespace PluginCall

/-- The plugin answers the call without an error, without a NaN in a gameplay batch and within
    the limit of the response buffer. -/
def Accepted : PluginCall → Prop
  | .protocol adapter request => ∃ response,
    adapter.codec.Answers adapter.limits.protocolResponseBytes
      (handleProtocolRequest adapter.plugin) request response
  | .gameplay invocation =>
    invocation.codec.Answers invocation.limits.gameplayResponseBytes
      invocation.handleGameplayRequest invocation.request invocation.recordedBatch ∧
    invocation.recordedBatch.Ordered
  | .auth profile request => ∃ playerId,
    profile.codec.Answers profile.limits.authResponseBytes (handleAuthRequest profile.plugin)
      request playerId

/-- A call that the policy does not notice: it is accepted, or failures of its kind are
    skipped. -/
def Harmless (matrix : PluginFailureMatrix) (call : PluginCall) : Prop :=
  actionForKind matrix call.kind = .skip ∨ call.Accepted

theorem new_live (matrix : PluginFailureMatrix) (pluginId : String) :
    (PluginFailureDispatch.new matrix).isActiveQuarantined pluginId = false := by
  unfold PluginFailureDispatch.isActiveQuarantined PluginFailureDispatch.activeReason
    PluginFailureDispatch.new
  simp

theorem new_clean (matrix : PluginFailureMatrix) : (PluginFailureDispatch.new matrix).Clean :=
  ⟨new_live matrix, rfl⟩

theorem handleRuntimeFailure_new (matrix : PluginFailureMatrix) (kind : PluginKind)
    (pluginId reason : String) :
    (actionForKind matrix kind = .skip ∧
      ((PluginFailureDispatch.new matrix).handleRuntimeFailure kind pluginId reason).2 =
        .new matrix) ∨
    (actionForKind matrix kind ≠ .skip ∧
      ¬ ((PluginFailureDispatch.new matrix).handleRuntimeFailure kind pluginId reason).2.Clean) := by
  rcases haction : actionForKind matrix kind with _ | _ | _
  · right
    refine ⟨by simp, ?_⟩
    intro h
    have hlive := h.live pluginId
    simp [PluginFailureDispatch.handleRuntimeFailure, PluginFailureDispatch.new, haction,
      PluginFailureDispatch.isActiveQuarantined, PluginFailureDispatch.activeReason] at hlive
  · left
    refine ⟨rfl, ?_⟩
    simp [PluginFailureDispatch.handleRuntimeFailure, PluginFailureDispatch.new, haction]
  · right
    refine ⟨by simp, ?_⟩
    intro h
    have hfatal := h.noFatal
    simp [PluginFailureDispatch.handleRuntimeFailure, PluginFailureDispatch.new, haction,
      PluginFailureDispatch.recordFatalMessage] at hfatal

theorem checkResponse_handle {plugin : RustProtocolPlugin} {request : ProtocolRequest}
    {response : ProtocolResponse} (h : handleProtocolRequest plugin request = .ok response) :
    checkResponse request response = .ok response := by
  cases request with
  | tryDecodeWireFrame buffer =>
    simp only [handleProtocolRequest, respond] at h
    rcases hdecoded : plugin.tryDecodeFrame buffer with error | ⟨frame, rest⟩
    · rw [hdecoded] at h
      cases h
    · rw [hdecoded] at h
      cases h
      cases frame with
      | none => rfl
      | some frame =>
        apply if_neg
        simp
  | _ => rfl

/-- A call of an untroubled host: it is accepted and leaves the policy as it was, or it is handed
    to the policy as a failure of its plugin. -/
theorem run_new (matrix : PluginFailureMatrix) (call : PluginCall) :
    (call.Accepted ∧ (call.run (.new matrix)).2 = .new matrix) ∨
    (¬ call.Accepted ∧ ∃ reason, (call.run (.new matrix)).2 =
      ((PluginFailureDispatch.new matrix).handleRuntimeFailure call.kind call.pluginId reason).2) := by
  cases call with
  | protocol adapter request =>
    have hlive := ProtocolAdapter.not_quarantined_new matrix adapter.toProtocolAdapter
    have hcall : adapter.call request (.new matrix) =
        adapter.toProtocolAdapter.quarantineOnError
          (((adapter.invoke request).mapError .plugin).bind (checkResponse request))
          (.new matrix) :=
      ProtocolAdapter.withGeneration_live hlive _
    rcases hanswer : adapter.invoke request with error | response
    · right
      constructor
      · rintro ⟨response, hresponse⟩
        cases hanswer.symm.trans (PluginCodec.invoke_eq_ok_iff.mpr hresponse)
      · refine ⟨error, ?_⟩
        simp only [run, hcall, hanswer]
        rfl
    · left
      have hanswers := PluginCodec.invoke_eq_ok_iff.mp hanswer
      refine ⟨⟨response, hanswers⟩, ?_⟩
      have hchecked : (Except.mapError ProtocolError.plugin (.ok response)).bind
          (checkResponse request) = .ok response := checkResponse_handle hanswers.handled
      simp only [run, hcall, hanswer, hchecked]
      rfl
  | gameplay invocation =>
    have hlive := new_live matrix invocation.pluginId
    have hfailure : ∀ message, (invocation.handleFailure message (.new matrix)).2 =
        ((PluginFailureDispatch.new matrix).handleRuntimeFailure .gameplay invocation.pluginId
          message).2 := by
      intro message
      unfold GameplayInvocation.handleFailure
      dsimp only
      split <;> rfl
    rcases hresponse : invocation.response with error | batch
    · right
      constructor
      · intro h
        cases hresponse.symm.trans (PluginCodec.invoke_eq_ok_iff.mpr h.1)
      · refine ⟨error, ?_⟩
        simp only [run, GameplayInvocation.invokeWithScope, hlive, hresponse]
        exact hfailure error
    · -- the plugin recorded what its host did
      have hanswers := PluginCodec.invoke_eq_ok_iff.mp hresponse
      obtain rfl : invocation.recordedBatch = batch := by
        have hhandled := hanswers.handled
        unfold GameplayInvocation.handleGameplayRequest at hhandled
        cases hresult : invocation.result with
        | error error =>
          rw [hresult] at hhandled
          cases hhandled
        | ok =>
          rw [hresult] at hhandled
          exact Except.ok.inj hhandled
      by_cases hordered : invocation.recordedBatch.partialEq invocation.recordedBatch = true
      · left
        refine ⟨⟨hanswers, GameplayEffectBatch.partialEq_self.mp hordered⟩, ?_⟩
        simp [run, GameplayInvocation.invokeWithScope, hlive, hresponse, hordered]
      · right
        refine ⟨fun h => hordered (GameplayEffectBatch.partialEq_self.mpr h.2), ?_⟩
        rw [Bool.not_eq_true] at hordered
        refine ⟨GameplayInvocation.mismatchedBatch, ?_⟩
        simp only [run, GameplayInvocation.invokeWithScope, hlive, hresponse, hordered]
        exact hfailure GameplayInvocation.mismatchedBatch
  | auth profile request =>
    rcases hanswer : profile.invoke request with error | playerId
    · right
      constructor
      · rintro ⟨playerId, haccepted⟩
        cases hanswer.symm.trans (PluginCodec.invoke_eq_ok_iff.mpr haccepted)
      · refine ⟨error, ?_⟩
        simp only [run, AuthProfile.authenticate, hanswer]
        rfl
    · left
      refine ⟨⟨playerId, PluginCodec.invoke_eq_ok_iff.mp hanswer⟩, ?_⟩
      simp only [run, AuthProfile.authenticate, hanswer]

theorem run_harmless {call : PluginCall} (h : call.Harmless matrix) :
    (call.run (.new matrix)).2 = .new matrix := by
  rcases run_new matrix call with ⟨-, hsame⟩ | ⟨hrefused, reason, hfailed⟩
  · exact hsame
  · rcases handleRuntimeFailure_new matrix call.kind call.pluginId reason with
      ⟨-, hsame⟩ | ⟨haction, -⟩
    · rw [hfailed, hsame]
    · rcases h with hskip | haccepted
      · exact absurd hskip haction
      · exact absurd haccepted hrefused

theorem harmless_of_clean {call : PluginCall} (h : (call.run (.new matrix)).2.Clean) :
    call.Harmless matrix := by
  rcases run_new matrix call with ⟨haccepted, -⟩ | ⟨-, reason, hfailed⟩
  · exact .inr haccepted
  · rcases handleRuntimeFailure_new matrix call.kind call.pluginId reason with
      ⟨hskip, -⟩ | ⟨-, hnoticed⟩
    · exact .inl hskip
    · rw [hfailed] at h
      exact absurd h hnoticed

theorem runAll_harmless {calls : List PluginCall} (h : ∀ call ∈ calls, call.Harmless matrix) :
    runAll calls (.new matrix) =
      (calls.map fun call => (call.run (.new matrix)).1, .new matrix) := by
  induction calls with
  | nil => rfl
  | cons call rest ih =>
    have hrun := run_harmless (h call (List.mem_cons_self ..))
    have hrest := ih fun other hmem => h other (List.mem_cons_of_mem _ hmem)
    simp only [runAll, hrun, hrest, List.map_cons]

theorem harmless_of_runAll_clean {calls : List PluginCall}
    (h : ∀ before after, calls = before ++ after → (runAll before (.new matrix)).2.Clean) :
    ∀ call ∈ calls, call.Harmless matrix := by
  induction calls with
  | nil => simp
  | cons call rest ih =>
    have hfirst : call.Harmless matrix := harmless_of_clean (h [call] rest rfl)
    have hrest : ∀ other ∈ rest, other.Harmless matrix := by
      apply ih
      intro before after hsplit
      have hclean := h (call :: before) after (by rw [hsplit]; rfl)
      simpa only [runAll, run_harmless hfirst] using hclean
    intro other hmem
    rcases List.mem_cons.mp hmem with rfl | hmem
    · exact hfirst
    · exact hrest other hmem

end PluginCall

/-- **When the policy notices nothing of a run of calls**: exactly when every call is accepted by
    its plugin or failures of its kind are skipped. -/
theorem unnoticed_iff (matrix : PluginFailureMatrix) (calls : List PluginCall) :
    Unnoticed matrix calls ↔ ∀ call ∈ calls, call.Harmless matrix := by
  constructor
  · intro h
    exact PluginCall.harmless_of_runAll_clean h.clean
  · intro h
    constructor
    · rintro before after rfl
      have hbefore := PluginCall.runAll_harmless fun call hmem =>
        h call (List.mem_append_left after hmem)
      rw [hbefore]
      exact PluginCall.new_clean matrix
    · rw [PluginCall.runAll_harmless h]

/-! ### The Java plugins -/

/-- `JavaEditionAdapter`: the decoders that all Java versions share, over the play decoder and the
    encoders of a version. -/
def javaEditionPlugin (version : RustProtocolPlugin) : RustProtocolPlugin :=
  { version with
    tryRoute := decodeHandshakeFrame
    tryDecodeFrame := tryDecodeFrame
    decodeStatus := decodeStatus
    decodeLogin := decodeLogin }

/-- The plugin of protocol 5 before any session.  The encoders are not called below and write
    empty frames here. -/
def je5Plugin : RustProtocolPlugin :=
  javaEditionPlugin
    { tryRoute := fun _ => .ok none
      tryDecodeFrame := fun buffer => .ok (none, buffer)
      encodeFrame := .ok
      decodeStatus := fun _ => .ok .query
      decodeLogin := fun _ => .ok (.loginStart "")
      decodePlay := Je5.decodePlayPacket ⟨none, none⟩
      encodeStatusResponse := fun _ => .ok []
      encodeStatusPong := fun _ => .ok []
      encodeDisconnect := fun _ _ => .ok []
      encodeEncryptionRequest := fun _ _ _ => .ok []
      encodeLoginSuccess := fun _ => .ok []
      encodePlayEvent := fun _ _ => .ok []
      sessionClosed := fun _ => .ok () }

/-- `encode_envelope`. -/
def envelope (pluginKind opCode flags : UInt8) (payload : List UInt8) : List UInt8 :=
  [9, 0, 1, 0, pluginKind, opCode, flags, 0] ++ Bytes.leBytes 4 payload.length ++ payload

/-- `encoder.write_string`. -/
def abiString (value : String) : List UInt8 :=
  Bytes.leBytes 4 value.toUTF8.data.toList.length ++ value.toUTF8.data.toList

/-- The adapter with the codec of `decode_status` of a one-byte frame. -/
def je5Adapter : SessionAdapter where
  pluginId := "je-5"
  descriptor := ⟨"je-5", .tcp, .minecraftFramed, .je, "1.7.10", 5⟩
  named := rfl
  plugin := je5Plugin
  codec := .single (.decodeStatus [0x05]) (envelope 1 5 0 [1, 0, 0, 0, 0x05])
    (.statusRequest .query) (envelope 1 5 1 [1])
  limits := .default

/-- A look packet whose yaw is NaN. -/
def nanLook : List UInt8 := [0x05, 0x7f, 0xc0, 0x00, 0x00, 0x00, 0x00, 0x00, 0x00, 0x01]

def lookingPlayer : PlayerId := ⟨1⟩

def lookingSession : ProtocolSessionSnapshot :=
  ⟨⟨1⟩, .play, some lookingPlayer, some ⟨1⟩⟩

/-- The look as a command of the session. -/
def nanLookRequest : GameplayRequest :=
  .handleCommand
    ⟨.play, some lookingPlayer, some ⟨1⟩,
      ["runtime.reload.protocol", "protocol.je", "protocol.je.5"], "canonical", some 1, some 1⟩
    (.moveIntent lookingPlayer none (some (.ofBits 0x7fc00000)) (some (.ofBits 0)) true) 0

/-- The player and the look, as the command and the effect are both written. -/
def nanPose : List UInt8 :=
  List.replicate 15 0 ++ [1, 0, 1, 0x00, 0x00, 0xc0, 0x7f, 1, 0, 0, 0, 0, 1]

def nanLookBytes : List UInt8 :=
  envelope 4 4 0
    ([4, 1] ++ List.replicate 15 0 ++ [1, 1, 1, 0, 0, 0] ++
      [3, 0, 0, 0] ++ abiString "runtime.reload.protocol" ++ abiString "protocol.je" ++
      abiString "protocol.je.5" ++ abiString "canonical" ++
      [1] ++ Bytes.leBytes 8 1 ++ [1] ++ Bytes.leBytes 8 1 ++
      [1] ++ nanPose ++ Bytes.leBytes 8 0)

/-- What the canonical gameplay plugin does about the look: `set_player_pose` with what the client
    sent. -/
def nanLookInvocation : GameplayInvocation where
  pluginId := "gameplay-canonical"
  request := nanLookRequest
  callbacks :=
    [.pushEffect (.setPlayerPose lookingPlayer none (some (.ofBits 0x7fc00000))
      (some (.ofBits 0)) true)]
  result := .ok ()
  codec := .single nanLookRequest nanLookBytes
    ⟨0, .default, [.setPlayerPose lookingPlayer none (some (.ofBits 0x7fc00000))
      (some (.ofBits 0)) true]⟩
    (envelope 4 4 1
      (Bytes.leBytes 8 0 ++ [0] ++ List.replicate 16 0 ++ [1, 0, 0, 0] ++ [1] ++ nanPose))
  limits := .default

/-- A status frame with an unknown packet number quarantines the plugin of everybody, and so does
    a look that turns to NaN for the gameplay. -/
theorem client_bytes_are_noticed :
    ¬ Unnoticed .default
        [.protocol je5Adapter (.decodeStatus [0x05]),
          .protocol je5Adapter (.tryRoute ProtocolRegistry.statusHandshake)] ∧
      je5Plugin.decodePlay lookingSession nanLook =
        .ok (some (.core (.gameplay (.moveIntent lookingPlayer none
          (some (.ofBits 0x7fc00000)) (some (.ofBits 0)) true)))) ∧
      ¬ Unnoticed .default
        [.gameplay nanLookInvocation] := by
  refine ⟨?_, by decide +kernel, ?_⟩
  · intro h
    have hlive := (h.clean _ [] (List.append_nil _).symm).live "je-5"
    revert hlive
    decide +kernel
  · intro h
    have hlive := (h.clean _ [] (List.append_nil _).symm).live "gameplay-canonical"
    revert hlive
    decide +kernel

end RevyCraft
