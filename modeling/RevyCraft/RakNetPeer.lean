/-
  RevyCraft/RakNetPeer.lean
  =========================
  **The RakNet peer actor** (`peer.rs`): reliable-ordered sending with
  fragmentation and retransmission, receiving with duplicate windows,
  reassembly and ordered holdback, the freeze/resume protocol of a transfer,
  and the snapshot a frozen peer exports together with its admission check.

  The environment of the actor — clock readings, socket results, the
  listener's accept channel — is the oracle `Host`; `Peer.reads` counts how
  often it was consulted, so that two readings in one step are independent.
  `sent` and `delivered` record what reached the socket and what was passed
  to `deliver_payload`.  Hash maps are ordered maps here: the source sorts
  them before they are observed, except for the order of retransmissions
  within one timer event, which no state component depends on.

  An `Instant` is a signed number of nanoseconds, so that subtracting a
  duration never leaves its domain; durations are natural numbers.
-/
import RevyCraft.Act
import RevyCraft.OrderedMap
import RevyCraft.RakNetWire

namespace RevyCraft.RakNet

open Std

/-! ### State -/

def RETRANSMIT_BASE_DELAY : Nat := 200 * 1000 * 1000
def RETRANSMIT_MAX_BACKOFF_SHIFT : Nat := 3
def PEER_TIMEOUT : Nat := 12 * 1000 * 1000 * 1000
def MAX_RETRANSMIT_ATTEMPTS : Nat := 60
def DATAGRAM_HEADER_BUDGET : Nat := 64

/-- `usize::MAX`. -/
def usizeMax : Nat := 2 ^ 64 - 1

/-- `usize::saturating_add`, kept for the two reassembly counters.  Adding one to the length of
    a live collection never saturates. -/
def saturatingAdd (a b : Nat) : Nat := min (a + b) usizeMax

def retransmitDelay (attempts : Nat) : Nat :=
  RETRANSMIT_BASE_DELAY * 2 ^ min (attempts - 1) RETRANSMIT_MAX_BACKOFF_SHIFT

/-- `Instant::duration_since`, which saturates at zero. -/
def durationSince (later earlier : Int) : Nat := (later - earlier).toNat

def duplicateWindowLimit (budgets : RakNetBudgets) : Nat :=
  max (min (budgets.maxUnackedDatagrams * 2) usizeMax) 1

structure UnackedDatagram where
  bytes : Payload
  sentAt : Int
  attempts : Nat

/-- The key `(channel, sequence)` of the ordered holdback. -/
structure HoldKey where
  channel : UInt8
  sequence : OrderSequence
  deriving DecidableEq

instance : Ord HoldKey := ⟨compareLex (compareOn HoldKey.channel) (compareOn HoldKey.sequence)⟩

instance : TransOrd HoldKey :=
  inferInstanceAs <| TransCmp (compareLex (compareOn HoldKey.channel) (compareOn HoldKey.sequence))

instance : LawfulEqOrd HoldKey :=
  lawfulEqCmp_compareLex fun a b h₁ h₂ => by
    have hc : a.channel = b.channel := @LawfulEqCmp.eq_of_compare _ compare _ _ _ h₁
    have hs : a.sequence = b.sequence := @LawfulEqCmp.eq_of_compare _ compare _ _ _ h₂
    cases a
    cases b
    cases hc
    cases hs
    rfl

/-- `PeerActor`, with the queue of its inbox, its activity time, and the record of what it
    handed to its environment. -/
structure Peer where
  remoteAddr : SocketAddr
  mtu : Nat
  budgets : RakNetBudgets
  accepted : Bool
  nextDatagram : DatagramSequence
  nextReliable : ReliableSequence
  nextOrdered : OrderSequence
  nextSplitId : UInt16
  lastDatagram : Option DatagramSequence
  seenDatagrams : BTreeSet DatagramSequence
  seenDatagramOrder : List DatagramSequence
  seenReliable : BTreeSet ReliableSequence
  seenReliableOrder : List ReliableSequence
  orderedExpected : BTreeMap UInt8 OrderSequence
  sequencedLatest : BTreeMap UInt8 OrderSequence
  orderedHoldback : BTreeMap HoldKey Payload
  reassembly : BTreeMap UInt16 (List (Option Payload))
  reassemblyBytes : Nat
  reassemblyParts : Nat
  unacked : BTreeMap DatagramSequence UnackedDatagram
  inbox : List Payload
  lastObserved : Int
  reads : Nat
  sent : List Payload
  delivered : List Payload

/-- `PeerActor::new`, observed at `now`. -/
def Peer.new (remoteAddr : SocketAddr) (mtu : Nat) (budgets : RakNetBudgets) (now : Int) : Peer where
  remoteAddr := remoteAddr
  mtu := mtu
  budgets := budgets
  accepted := false
  nextDatagram := 0
  nextReliable := 0
  nextOrdered := 0
  nextSplitId := 0
  lastDatagram := none
  seenDatagrams := ∅
  seenDatagramOrder := []
  seenReliable := ∅
  seenReliableOrder := []
  orderedExpected := ∅
  sequencedLatest := ∅
  orderedHoldback := ∅
  reassembly := ∅
  reassemblyBytes := 0
  reassemblyParts := 0
  unacked := ∅
  inbox := []
  lastObserved := now
  reads := 0
  sent := []
  delivered := []

/-- `Router::clamp_mtu`: the only source of a new peer's MTU. -/
def clampMtu (budgets : RakNetBudgets) (mtu : Nat) : Nat :=
  max 576 (min mtu (max (min budgets.maxDatagramBytes (2 ^ 16 - 1)) 576))

/-- The answers of the environment, indexed by how often it was consulted before. -/
structure Host where
  clock : Nat → Int
  epochMillis : Nat → Nat
  sendTo : Nat → Except String Unit
  acceptOpen : Nat → Bool

/-- A host whose clock stands still and whose sends succeed. -/
def quietHost : Host := ⟨fun _ => 0, fun _ => 0, fun _ => .ok (), fun _ => true⟩

abbrev PeerM (α : Type) : Type := Act RakNetError Peer α

section Actor

variable (host : Host)

open Act

/-- Consults the environment once. -/
def consult {α : Type} (answer : Nat → α) : PeerM α := do
  let s ← get
  modify fun s => { s with reads := s.reads + 1 }
  pure (answer s.reads)

def sendTo (bytes : Payload) : PeerM Unit := do
  match ← consult host.sendTo with
  | .error message => throw (.io message)
  | .ok _ => modify fun s => { s with sent := s.sent ++ [bytes] }

/-! ### Sending -/

def sendFrame (frame : Frame) : PeerM Unit := do
  let s ← get
  lift (ensureBudget "unacknowledged datagrams" (s.unacked.size + 1)
    s.budgets.maxUnackedDatagrams)
  let sequence := s.nextDatagram
  modify fun s => { s with nextDatagram := Sequence24.next sequence }
  let bytes := encodeDatagram sequence frame
  lift (ensureBudget "datagram bytes" bytes.length s.budgets.maxDatagramBytes)
  sendTo host bytes
  let now ← consult host.clock
  modify fun s => { s with unacked := s.unacked.insert sequence ⟨bytes, now, 1⟩ }

/-- The number of pieces of `payload.chunks(capacity)`. -/
def chunkCount (capacity : Nat) (payload : Payload) : Nat :=
  (payload.length + (capacity - 1)) / capacity

/-- The pieces of `payload.chunks(capacity)`. -/
def chunks (capacity : Nat) (payload : Payload) : List Payload :=
  (List.range (chunkCount capacity payload)).map fun i => (payload.drop (i * capacity)).take capacity

/-- The body of the fragment loop of `send_reliable_ordered`. -/
def sendFragment (order : OrderSequence) (split : Option SplitHeader) (payload : Payload) :
    PeerM Unit := do
  let s ← get
  modify fun s => { s with nextReliable := Sequence24.next s.nextReliable }
  sendFrame host (orderedFrame s.nextReliable order split payload)

def sendReliableOrdered (payload : Payload) : PeerM Unit := do
  let s ← get
  let capacity := s.mtu - DATAGRAM_HEADER_BUDGET
  if capacity = 0 then throw (.wire "negotiated mtu is too small")
  else do
    let order := s.nextOrdered
    modify fun s => { s with nextOrdered := Sequence24.next order }
    let count := max (chunkCount capacity payload) 1
    if count ≥ 2 ^ 32 then throw (.wire "fragment count exceeded u32")
    else do
      let splitId := s.nextSplitId
      modify fun s => { s with nextSplitId := splitId + 1 }
      forEach (fun (chunk, index) =>
        sendFragment host order (if count > 1 then some ⟨count, splitId, index⟩ else none) chunk)
        (chunks capacity payload).zipIdx
      if payload.isEmpty then sendFragment host order none payload else pure ()

def sendApplication (payload : Payload) : PeerM Unit := do
  let s ← get
  if !s.accepted then
    throw (.wire "application payload sent before online handshake completed")
  else do
    lift (ensureBudget "application payload bytes" payload.length s.budgets.maxPayloadBytes)
    sendReliableOrdered host payload

def retransmit (sequence : DatagramSequence) : PeerM Unit := do
  let s ← get
  match s.unacked[sequence]? with
  | none => pure ()
  | some datagram =>
    if datagram.attempts ≥ MAX_RETRANSMIT_ATTEMPTS then
      throw (.retransmitExhausted sequence.val datagram.attempts)
    else do
      sendTo host datagram.bytes
      let now ← consult host.clock
      modify fun s => { s with
        unacked := s.unacked.insert sequence ⟨datagram.bytes, now, datagram.attempts + 1⟩ }

/-! ### Receiving -/

/-- `PeerInbox::push`. -/
def inboxPush (payload : Payload) : PeerM Unit := do
  let s ← get
  lift (ensureBudget "application queue entries" (s.inbox.length + 1)
    s.budgets.applicationQueue)
  modify fun s => { s with inbox := s.inbox ++ [payload] }

def deliverPayload (payload : Payload) : PeerM Unit := do
  modify fun s => { s with delivered := s.delivered ++ [payload] }
  match ← lift (decodeConnectionRequest payload) with
  | some requestTime => do
    let s ← get
    let now ← consult host.epochMillis
    sendReliableOrdered host (encodeConnectionAccept s.remoteAddr requestTime now)
  | none =>
    match ← lift (decodeConnectedPing payload) with
    | some pingTime => do
      let now ← consult host.epochMillis
      sendReliableOrdered host (encodeConnectedPong pingTime now)
    | none => do
      let s ← get
      match payload with
      | [] => if s.accepted then inboxPush payload else pure ()
      | id :: _ =>
        if id = 0x13 ∧ !s.accepted then do
          modify fun s => { s with accepted := true }
          if ← consult host.acceptOpen then pure () else throw .closed
        else if id = 0x13 ∨ id = 0x03 then pure ()
        else if id = 0x15 ∨ id = 0x1c then throw .closed
        else if s.accepted then inboxPush payload
        else pure ()

/-- The parts collected so far for a split id, or a fresh empty table of `count` parts. -/
def assemblyFor (s : Peer) (split : SplitHeader) : List (Option Payload) :=
  (s.reassembly[split.id]?).getD (List.replicate split.count none)

/-- An assembly after a fragment arrived: the first copy of a part is kept. -/
def storePart (parts : List (Option Payload)) (index : Nat) (payload : Payload) :
    List (Option Payload) :=
  if parts[index]?.join.isSome then parts else parts.set index (some payload)

/-- The total payload carried by the parts of an assembly. -/
def partBytes (parts : List (Option Payload)) : Nat :=
  (parts.map fun part => part.elim 0 List.length).sum

/-- The slots a fragment adds to the reassembly table: `count` when its split id is new. -/
def freshParts (s : Peer) (split : SplitHeader) : Nat :=
  if (s.reassembly[split.id]?).isNone then split.count else 0

/-- The part of `accept_fragment` that stores the fragment into its slot of `parts`. -/
def storeFragment (split : SplitHeader) (parts : List (Option Payload)) (payload : Payload) :
    PeerM Unit := do
  if parts[split.index]?.join.isSome then pure ()
  else do
    let s ← get
    lift (ensureBudget "reassembly bytes per peer" (saturatingAdd s.reassemblyBytes payload.length)
      s.budgets.maxReassemblyBytesPerPeer)
    if s.reassemblyBytes + payload.length > usizeMax then throw .outOfMemory
    else modify fun s => { s with
      reassemblyBytes := s.reassemblyBytes + payload.length,
      reassembly := s.reassembly.insert split.id (storePart parts split.index payload) }

/-- The part of `accept_fragment` that joins a complete assembly. -/
def finishAssembly (split : SplitHeader) (parts : List (Option Payload)) :
    PeerM (Option Payload) := do
  if parts.any Option.isNone then pure none
  else do
    modify fun s => { s with
      reassembly := s.reassembly.erase split.id,
      reassemblyParts := s.reassemblyParts - parts.length,
      reassemblyBytes := s.reassemblyBytes - partBytes parts }
    pure (some (parts.filterMap id).flatten)

def acceptFragment (split : SplitHeader) (payload : Payload) : PeerM (Option Payload) := do
  if split.count = 0 ∨ split.index ≥ split.count then throw (.wire "invalid fragment range")
  else do
    let s ← get
    lift (ensureBudget "reassembly parts per peer"
      (saturatingAdd s.reassemblyParts (freshParts s split)) s.budgets.maxReassemblyPartsPerPeer)
    -- `vec![None; count]`: an assembly table beyond the address space cannot be allocated
    if s.reassemblyParts + freshParts s split > usizeMax then throw .outOfMemory
    else do
      modify fun s => { s with
        reassemblyParts := s.reassemblyParts + freshParts s split,
        reassembly := s.reassembly.insert split.id (assemblyFor s split) }
      if (assemblyFor s split).length ≠ split.count then
        throw (.wire "fragment count changed within split sequence")
      else do
        storeFragment split (assemblyFor s split) payload
        finishAssembly split (storePart (assemblyFor s split) split.index payload)

/-- The draining loop of `accept_ordered`.  Every turn removes a held payload, so the number
    of held payloads bounds the turns. -/
def drainHoldback (channel : UInt8) : Nat → PeerM Unit
  | 0 => pure ()
  | turns + 1 => do
    let s ← get
    let expected := s.orderedExpected[channel]?.getD 0
    match s.orderedHoldback[(⟨channel, expected⟩ : HoldKey)]? with
    | none => pure ()
    | some payload => do
      modify fun s => { s with
        orderedHoldback := s.orderedHoldback.erase ⟨channel, expected⟩,
        orderedExpected := s.orderedExpected.insert channel (Sequence24.next expected) }
      deliverPayload host payload
      drainHoldback channel turns

def acceptOrdered (channel : UInt8) (sequence : OrderSequence) (payload : Payload) :
    PeerM Unit := do
  let s ← get
  let expected := s.orderedExpected[channel]?.getD 0
  modify fun s => { s with orderedExpected := s.orderedExpected.insert channel expected }
  if sequence = expected then do
    modify fun s => { s with
      orderedExpected := s.orderedExpected.insert channel (Sequence24.next expected) }
    deliverPayload host payload
    drainHoldback host channel s.orderedHoldback.size
  else if Sequence24.isNewerThan sequence expected then do
    lift (ensureBudget "ordered holdback entries" (s.orderedHoldback.size + 1)
      s.budgets.maxOrderedHoldback)
    modify fun s => { s with
      orderedHoldback := s.orderedHoldback.insertIfNew ⟨channel, sequence⟩ payload }
  else pure ()

/-- The eviction loop of a duplicate window: the oldest entries leave both structures until the
    window is within its limit. -/
def expireWindow (limit : Nat) :
    List Sequence24 → BTreeSet Sequence24 → List Sequence24 × BTreeSet Sequence24
  | [], seen => ([], seen)
  | expired :: rest, seen =>
    if rest.length + 1 > limit then expireWindow limit rest (seen.erase expired)
    else (expired :: rest, seen)

/-- The part of `receive_frame` after the duplicate check and reassembly. -/
def routeFrame (frame : Frame) (payload : Payload) : PeerM Unit := do
  if frame.reliability.isSequenced then
    match frame.sequenceIndex with
    | none => throw (.wire "sequenced frame lacked sequence index")
    | some sequence => do
      let s ← get
      if (s.sequencedLatest[frame.orderChannel]?).any
          (fun latest => !Sequence24.isNewerThan sequence latest) then pure ()
      else do
        modify fun s => { s with
          sequencedLatest := s.sequencedLatest.insert frame.orderChannel sequence }
        deliverPayload host payload
  else if frame.reliability.isOrdered then
    match frame.orderIndex with
    | none => throw (.wire "ordered frame lacked order index")
    | some sequence => acceptOrdered host frame.orderChannel sequence payload
  else deliverPayload host payload

/-- The part of `receive_frame` after the reliable duplicate check. -/
def assembleFrame (frame : Frame) : PeerM Unit := do
  match frame.split with
  | none => routeFrame host frame frame.payload
  | some split =>
    match ← acceptFragment split frame.payload with
    | none => pure ()
    | some payload => routeFrame host frame payload

def receiveFrame (frame : Frame) : PeerM Unit := do
  match frame.reliableIndex with
  | none => assembleFrame host frame
  | some index => do
    let s ← get
    if s.seenReliable.contains index then pure ()
    else do
      modify fun s =>
        let window := expireWindow (duplicateWindowLimit s.budgets)
          (s.seenReliableOrder ++ [index]) (s.seenReliable.insert index)
        { s with seenReliableOrder := window.1, seenReliable := window.2 }
      assembleFrame host frame

def inRange (sequence : DatagramSequence) (range : SequenceRange) : Bool :=
  Sequence24.wrappingDistanceFrom sequence range.1 ≤ Sequence24.wrappingDistanceFrom range.2 range.1

def applyAcknowledgement : Acknowledgement → PeerM Unit
  | .ack ranges => modify fun s => { s with
      unacked := s.unacked.filter fun sequence _ => !ranges.any (inRange sequence) }
  | .nack ranges => do
    let s ← get
    forEach (retransmit host) (s.unacked.keys.filter fun sequence => ranges.any (inRange sequence))

/-- `PeerActivity::observe`. -/
def observe (now : Int) : PeerM Unit :=
  modify fun s => { s with lastObserved := max s.lastObserved now }

/-- The gap check of `receive_datagram` and its update of the newest datagram. -/
def noteDatagram (sequence : DatagramSequence) : PeerM Unit := do
  let s ← get
  match s.lastDatagram with
  | none => modify fun s => { s with lastDatagram := some sequence }
  | some previous => do
    if Sequence24.isNewerThan sequence previous ∧
        Sequence24.wrappingDistanceFrom sequence previous > 1 then
      sendTo host (encodeNack (Sequence24.next previous) (Sequence24.previous sequence))
    else pure ()
    if Sequence24.isNewerThan sequence previous then
      modify fun s => { s with lastDatagram := some sequence }
    else pure ()

/-- `receive_datagram` up to its loop over frames: the frames of a datagram that is neither an
    acknowledgement nor a duplicate. -/
def admitDatagram (bytes : Payload) : PeerM (List Frame) := do
  observe (← consult host.clock)
  match ← lift (decodeAcknowledgement bytes) with
  | some acknowledgement => do
    applyAcknowledgement host acknowledgement
    pure []
  | none => do
    let s ← get
    let datagram ← lift (decodeDatagram bytes s.budgets)
    sendTo host (encodeAck datagram.sequence)
    let s ← get
    if s.seenDatagrams.contains datagram.sequence then pure []
    else do
      modify fun s =>
        let window := expireWindow (duplicateWindowLimit s.budgets)
          (s.seenDatagramOrder ++ [datagram.sequence]) (s.seenDatagrams.insert datagram.sequence)
        { s with seenDatagramOrder := window.1, seenDatagrams := window.2 }
      noteDatagram host datagram.sequence
      pure datagram.frames

def receiveDatagram (bytes : Payload) : PeerM Unit := do
  let frames ← admitDatagram host bytes
  forEach (receiveFrame host) frames

/-! ### Timers, freezing and resuming -/

def onTimer : PeerM Unit := do
  let now ← consult host.clock
  let s ← get
  if durationSince now s.lastObserved ≥ PEER_TIMEOUT then throw .peerTimeout
  else
    forEach (retransmit host) ((s.unacked.toList.filter fun entry =>
      durationSince now entry.2.sentAt ≥ retransmitDelay entry.2.attempts).map Prod.fst)

def resumeTimers (frozenAt resumedAt : Int) : PeerM Unit :=
  modify fun s => { s with
    lastObserved := resumedAt - durationSince frozenAt s.lastObserved,
    unacked := s.unacked.map fun _ datagram =>
      { datagram with sentAt := resumedAt - durationSince frozenAt datagram.sentAt } }

inductive PeerCommand where
  | send (payload : Payload)
  | freeze
  | sealTransfer
  | resume
  | transfer

inductive PeerExecution where
  | running
  | frozen (since : Int)

/-- The locals of `run_with_state` around the actor.  Only `Send` commands are deferred. -/
structure PeerRun where
  actor : Peer
  execution : PeerExecution
  deferred : List Payload

/-- What wakes the actor's loop, and the two operations other tasks perform on its shared
    state: the router's `PeerControl::deliver` records activity, and the session's `recv_raw`
    takes a payload out of the inbox. -/
inductive PeerEvent where
  | command (command : PeerCommand)
  | deferred
  | ingress (bytes : Payload)
  | timer
  | observed (at_ : Int)
  | received

/-- Runs one actor operation; the loop ends when it fails. -/
def PeerRun.perform (run : PeerRun) (operation : PeerM Unit) : Option PeerRun :=
  match operation run.actor with
  | (.ok _, actor) => some { run with actor := actor }
  | (.error _, _) => none

/-- `apply_command`, in the running state. -/
def PeerRun.applyCommand (run : PeerRun) : PeerCommand → Option PeerRun
  | .send payload => run.perform (sendApplication host payload)
  | .freeze =>
    match consult host.clock run.actor with
    | (.ok now, actor) => some { run with actor := actor, execution := .frozen now }
    | (.error _, _) => none
  | .sealTransfer => some run
  | .resume => some run
  | .transfer => none

def PeerRun.frozenCommand (run : PeerRun) (since : Int) : PeerCommand → Option PeerRun
  | .send payload =>
    if run.deferred.length < run.actor.budgets.peerCommandQueue then
      some { run with deferred := run.deferred ++ [payload] }
    else some run
  | .freeze => some run
  | .sealTransfer => some run
  | .resume =>
    ({ run with execution := .running }).perform do
      let now ← consult host.clock
      resumeTimers since now
  | .transfer => none

/-- One turn of `run_with_state`, or one operation of another task.  `none` means that the
    loop ends, or that the loop does not wait for this event now. -/
def PeerRun.step (run : PeerRun) (event : PeerEvent) : Option PeerRun :=
  match event with
  | .observed at_ => run.perform (observe at_)
  | .received => some { run with actor := { run.actor with inbox := run.actor.inbox.tail } }
  | .command command =>
    match run.execution with
    | .frozen since => run.frozenCommand host since command
    | .running => if run.deferred.isEmpty then run.applyCommand host command else none
  | .deferred =>
    match run.execution, run.deferred with
    | .running, payload :: rest =>
      ({ run with deferred := rest }).applyCommand host (.send payload)
    | _, _ => none
  | .ingress bytes =>
    match run.execution with
    | .running => if run.deferred.isEmpty then run.perform (receiveDatagram host bytes) else none
    | .frozen _ => none
  | .timer =>
    match run.execution with
    | .running => if run.deferred.isEmpty then run.perform (onTimer host) else none
    | .frozen _ => none

def PeerRun.stepAll (run : PeerRun) : List PeerEvent → Option PeerRun
  | [] => some run
  | event :: rest =>
    match run.step host event with
    | none => none
    | some run' => run'.stepAll rest

end Actor

/-! ### The transfer snapshot -/

structure UnackedDatagramSnapshot where
  sequence : DatagramSequence
  bytes : Payload
  retransmitRemaining : Nat
  attempts : Nat

structure ReassemblySnapshot where
  splitId : UInt16
  parts : List (Option Payload)

structure OrderedPayloadSnapshot where
  channel : UInt8
  sequence : OrderSequence
  payload : Payload

structure PeerSnapshot where
  remoteAddr : SocketAddr
  mtu : Nat
  accepted : Bool
  nextDatagram : DatagramSequence
  nextReliable : ReliableSequence
  nextOrdered : OrderSequence
  nextSplitId : UInt16
  lastDatagram : Option DatagramSequence
  seenDatagramOrder : SequenceHistory
  seenReliableOrder : SequenceHistory
  orderedExpected : List (UInt8 × OrderSequence)
  sequencedLatest : List (UInt8 × OrderSequence)
  queuedPayloads : List Payload
  unackedDatagrams : List UnackedDatagramSnapshot
  reassembly : List ReassemblySnapshot
  orderedHoldback : List OrderedPayloadSnapshot
  timeoutRemaining : Nat

/-- `PeerActor::snapshot`.  Ordered maps list their entries by key, which is the order the
    source sorts them into. -/
def Peer.snapshot (s : Peer) (now : Int) : PeerSnapshot where
  remoteAddr := s.remoteAddr
  mtu := s.mtu
  accepted := s.accepted
  nextDatagram := s.nextDatagram
  nextReliable := s.nextReliable
  nextOrdered := s.nextOrdered
  nextSplitId := s.nextSplitId
  lastDatagram := s.lastDatagram
  seenDatagramOrder := .fromSequences s.seenDatagramOrder
  seenReliableOrder := .fromSequences s.seenReliableOrder
  orderedExpected := s.orderedExpected.toList
  sequencedLatest := s.sequencedLatest.toList
  queuedPayloads := s.inbox
  unackedDatagrams := s.unacked.toList.map fun (sequence, datagram) =>
    ⟨sequence, datagram.bytes,
      retransmitDelay datagram.attempts - durationSince now datagram.sentAt, datagram.attempts⟩
  reassembly := s.reassembly.toList.map fun (splitId, parts) => ⟨splitId, parts⟩
  orderedHoldback := s.orderedHoldback.toList.map fun (key, payload) =>
    ⟨key.channel, key.sequence, payload⟩
  timeoutRemaining := PEER_TIMEOUT - durationSince now s.lastObserved

/-! ### Admission of a snapshot -/

/-- A loop over `xs` that inserts a key of every element into a fresh `HashSet`, failing with
    `repeated` when it is already there, and then checks the element. -/
def checkDistinct {α κ : Type} [DecidableEq κ] (key : α → κ) (repeated : RakNetError)
    (check : α → Except RakNetError Unit) : List κ → List α → Except RakNetError Unit
  | _, [] => .ok ()
  | seen, x :: rest => do
    if key x ∈ seen then .error repeated
    else do
      check x
      checkDistinct key repeated check (key x :: seen) rest

/-- A `for` loop that only checks. -/
def checkAll {α : Type} (check : α → Except RakNetError Unit) : List α → Except RakNetError Unit
  | [] => .ok ()
  | x :: rest => do
    check x
    checkAll check rest

def checkedAdd (message : String) (a b : Nat) : Except RakNetError Nat :=
  if a + b > usizeMax then .error (.wire message) else .ok (a + b)

/-- The inner loop of the reassembly check, over the parts that have arrived. -/
def checkParts (budgets : RakNetBudgets) : Nat → List (Option Payload) → Except RakNetError Nat
  | bytes, [] => .ok bytes
  | bytes, none :: rest => checkParts budgets bytes rest
  | bytes, some part :: rest => do
    ensureBudget "application payload bytes" part.length budgets.maxPayloadBytes
    let bytes ← checkedAdd "fragment byte count overflow" bytes part.length
    checkParts budgets bytes rest

/-- The reassembly loop, with its set of split ids and its two running totals. -/
def checkReassembly (budgets : RakNetBudgets) : List UInt16 → Nat → Nat →
    List ReassemblySnapshot → Except RakNetError (Nat × Nat)
  | _, parts, bytes, [] => .ok (parts, bytes)
  | ids, parts, bytes, split :: rest => do
    if split.splitId ∈ ids ∨ split.parts = [] then
      .error (.wire "transferred peer has an invalid or duplicate fragment assembly")
    else do
      let parts ← checkedAdd "fragment part count overflow" parts split.parts.length
      let bytes ← checkParts budgets bytes split.parts
      checkReassembly budgets (split.splitId :: ids) parts bytes rest

def checkUnacked (budgets : RakNetBudgets) (datagram : UnackedDatagramSnapshot) :
    Except RakNetError Unit := do
  ensureBudget "datagram bytes" datagram.bytes.length budgets.maxDatagramBytes
  if datagram.retransmitRemaining > retransmitDelay datagram.attempts ∨ datagram.attempts = 0 ∨
      datagram.attempts > MAX_RETRANSMIT_ATTEMPTS then
    .error (.wire "transferred peer has an invalid retransmit timer or attempt count")
  else .ok ()

def historyCount (history : SequenceHistory) : Except RakNetError Nat :=
  match history.sequenceCount with
  | some count => .ok count
  | none => .error (.wire "sequence history count exceeds the target's count domain")

def validateChannelSequences (name : String) (sequences : List (UInt8 × OrderSequence)) :
    Except RakNetError Unit :=
  checkDistinct Prod.fst (.wire s!"transferred peer repeats a {name} channel") (fun _ => .ok ())
    [] sequences

/-- `PeerSnapshot::validate_structure`.  The duplicate indexes it returns are the sets of the
    two histories. -/
def PeerSnapshot.validateStructure (p : PeerSnapshot) (budgets : RakNetBudgets) :
    Except RakNetError (BTreeSet DatagramSequence × BTreeSet ReliableSequence) := do
  let maximumMtu := max (min budgets.maxDatagramBytes (2 ^ 16 - 1)) 576
  if p.mtu < 576 ∨ maximumMtu < p.mtu then
    .error (.wire s!"transferred peer MTU {p.mtu} is outside 576..={maximumMtu}")
  else do
    ensureBudget "application queue entries" p.queuedPayloads.length budgets.applicationQueue
    checkAll (fun payload : Payload =>
      ensureBudget "application payload bytes" payload.length budgets.maxPayloadBytes)
      p.queuedPayloads
    ensureBudget "unacknowledged datagrams" p.unackedDatagrams.length budgets.maxUnackedDatagrams
    checkDistinct UnackedDatagramSnapshot.sequence
      (.wire "transferred peer repeats an unacknowledged datagram sequence")
      (checkUnacked budgets) [] p.unackedDatagrams
    let (parts, bytes) ← checkReassembly budgets [] 0 0 p.reassembly
    ensureBudget "reassembly parts per peer" parts budgets.maxReassemblyPartsPerPeer
    ensureBudget "reassembly bytes per peer" bytes budgets.maxReassemblyBytesPerPeer
    ensureBudget "ordered holdback entries" p.orderedHoldback.length budgets.maxOrderedHoldback
    checkDistinct (fun held : OrderedPayloadSnapshot => (held.channel, held.sequence))
      (.wire "transferred peer repeats an ordered holdback sequence")
      (fun held => ensureBudget "application payload bytes" held.payload.length
        budgets.maxPayloadBytes) [] p.orderedHoldback
    let datagramCount ← historyCount p.seenDatagramOrder
    let reliableCount ← historyCount p.seenReliableOrder
    ensureBudget "datagram duplicate window" datagramCount (duplicateWindowLimit budgets)
    ensureBudget "reliable duplicate window" reliableCount (duplicateWindowLimit budgets)
    if p.seenDatagramOrder.sequences.dedup.length ≠ datagramCount then
      .error (.wire "transferred peer repeats a datagram duplicate-window sequence")
    else if p.seenReliableOrder.sequences.dedup.length ≠ reliableCount then
      .error (.wire "transferred peer repeats a reliable duplicate-window sequence")
    else do
      validateChannelSequences "ordered expected" p.orderedExpected
      validateChannelSequences "sequenced latest" p.sequencedLatest
      if p.timeoutRemaining > PEER_TIMEOUT then
        .error (.wire "transferred peer timeout exceeds the protocol timeout")
      else
        .ok (ExtTreeSet.ofList p.seenDatagramOrder.sequences,
          ExtTreeSet.ofList p.seenReliableOrder.sequences)

structure ValidatedPeerSnapshot where
  checkpoint : PeerSnapshot
  datagrams : BTreeSet DatagramSequence
  reliable : BTreeSet ReliableSequence
  budgets : RakNetBudgets

/-- `PeerSnapshot::into_validated`. -/
def PeerSnapshot.intoValidated (p : PeerSnapshot) (budgets : RakNetBudgets) :
    Except RakNetError ValidatedPeerSnapshot := do
  let (datagrams, reliable) ← p.validateStructure budgets
  pure ⟨p, datagrams, reliable, budgets⟩

/-! ### Consulting the environment changes nothing else -/

section Environment

variable {I E : Peer → Prop}

/-- A property of the peer that does not look at the record of its environment. -/
def Unobserved (I : Peer → Prop) : Prop :=
  ∀ (s : Peer) (reads : Nat) (sent : List Payload), I s → I { s with reads := reads, sent := sent }

theorem consult_spec {α : Type} (answer : Nat → α) (hI : Unobserved I) :
    Act.Spec I (consult answer) (fun _ => I) E := by
  intro s hs
  exact hI s (s.reads + 1) s.sent hs

theorem sendTo_spec (host : Host) (bytes : Payload) (hI : Unobserved I) (hE : ∀ s, I s → E s) :
    Act.Spec I (sendTo host bytes) (fun _ => I) E := by
  refine Act.spec_bind (consult_spec _ hI) fun answer => ?_
  cases answer with
  | error message => exact Act.spec_throw hE
  | ok u => exact Act.spec_modify fun s hs => hI s s.reads (s.sent ++ [bytes]) hs

end Environment

end RevyCraft.RakNet
