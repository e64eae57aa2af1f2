/-
  RevyCraft/BedrockBatches.lean
  =============================
  **From the packets of a Bedrock client to the commands of the runtime**
  (`mc-proto-be-common/src/wire.rs`, `RawPacketStreamWireCodec`,
  `TransportReader::Bedrock` and the decoder of `mc-proto-be-924`).

  A client sends its packets in batches, each batch in one RakNet payload.  The
  transport appends the packets of a payload to the read buffer, the wire codec
  hands over whatever the buffer holds as one frame, and `decode_play_packet`
  looks at the first packet of a frame.

  The packets come from the `bedrock_protocol` crate, which is not part of this
  repository: `BedrockCodec` stands for its serialisation, and `RoundTrips` for
  what is relied on.
-/
import RevyCraft.JavaDecoding
import RevyCraft.StoredDeflate

namespace RevyCraft.Bedrock

/-! ### Packets -/

inductive PlayerActionType where
  | startDestroyBlock
  | continueDestroyBlock
  | abortDestroyBlock
  | stopDestroyBlock
  | creativeDestroyBlock
  | predictDestroyBlock
  | other

inductive ContainerEnumName where
  | cursorContainer
  | inventoryContainer
  | hotbarContainer
  | combinedHotbarAndInventoryContainer
  | offhandContainer
  | craftingOutputPreviewContainer
  | craftingInputContainer
  | levelEntityContainer
  | furnaceIngredientContainer
  | furnaceFuelContainer
  | furnaceResultContainer
  | other

structure NetworkBlockPosition where
  x : Int
  y : Int
  z : Int

/-- `ItemStackRequestSlotInfo`.  The container name is the result of `decode_container_enum_name`. -/
structure ItemStackRequestSlotInfo where
  containerName : Option ContainerEnumName
  slot : Int

inductive ItemStackRequestAction where
  | take (amount : Int) (source destination : ItemStackRequestSlotInfo)
  | place (amount : Int) (source destination : ItemStackRequestSlotInfo)
  | swap (source destination : ItemStackRequestSlotInfo)
  | drop (amount : Int) (source : ItemStackRequestSlotInfo)
  | other

structure ItemStackRequest where
  clientRequestId : Int
  actions : List ItemStackRequestAction

inductive ItemUseActionType where
  | place
  | use
  | destroy

/-- The fields of `PackedItemUseLegacyInventoryTransaction` that are read. -/
structure ItemUseTransaction where
  actionType : ItemUseActionType
  position : NetworkBlockPosition
  face : Int

/-- The packets of the play phase, with the fields that the decoder reads. -/
inductive V924 where
  | movePlayer (x y z yaw pitch : Float32) (onGround : Bool)
  | mobEquipment (slot : Int)
  | playerAction (action : PlayerActionType) (position : NetworkBlockPosition) (face : Int)
  | itemStackRequest (requests : List ItemStackRequest)
  | playerAuthInput (stackRequest : Option ItemStackRequest) (itemUse : Option ItemUseTransaction)
      (x y z yaw pitch : Float32)
  | containerClose (isFirst : Bool)
  | networkStackLatency (creationTime : Int) (isFromServer : Bool)
  /-- `InventoryTransactionPacket`, with its transaction if it is an item use. -/
  | inventoryTransaction (itemUse : Option ItemUseTransaction)
  | other

/-! ### The packet codec of the library -/

inductive ComplexInventoryTransactionType where
  | itemUseTransaction
  | other

abbrev BedrockRead (α : Type) : Type := StateT (List UInt8) (Except String) α

structure BedrockCodec where
  serialize : V924 → List UInt8
  deserialize : List UInt8 → Except String V924
  serializeU32 : Nat → List UInt8
  deserializeU32 : BedrockRead Nat
  /-- `PacketHeader::deserialize`, as far as its packet id. -/
  packetHeader : BedrockRead Nat
  rawId : BedrockRead Int
  legacySetItemSlots : BedrockRead Unit
  transactionType : BedrockRead ComplexInventoryTransactionType
  itemUseTransaction : BedrockRead ItemUseTransaction

/-- `DeflateEncoder` and `DeflateDecoder`. -/
structure Deflate where
  deflate : List UInt8 → List UInt8
  inflate : List UInt8 → Except String (List UInt8)

section Wire

variable (codec : BedrockCodec) (zlib : Deflate)

/-! ### Batches -/

def BEDROCK_GAME_PACKET_ID : UInt8 := 0xfe
def ZLIB_METHOD_ID : UInt8 := 0
def UNCOMPRESSED_METHOD_ID : UInt8 := 255

inductive BedrockWireError where
  | packet (message : String)
  | primitive (message : String)
  | packetTooLarge (length : Nat)
  | missingCompressionMethod
  | unsupportedCompressionMethod (method : UInt8)
  | io (message : String)

/-- `BedrockCompression::compress` with a threshold. -/
def compress (threshold : Nat) (payload : List UInt8) : List UInt8 :=
  if threshold ≥ payload.length then UNCOMPRESSED_METHOD_ID :: payload
  else ZLIB_METHOD_ID :: zlib.deflate payload

def decompress : List UInt8 → Except BedrockWireError (List UInt8)
  | [] => .error .missingCompressionMethod
  | method :: encoded =>
    if method = UNCOMPRESSED_METHOD_ID then .ok encoded
    else if method = ZLIB_METHOD_ID then (zlib.inflate encoded).mapError .io
    else .error (.unsupportedCompressionMethod method)

/-- One packet of a batch, behind its length. -/
def encodePacket (packet : V924) : List UInt8 :=
  codec.serializeU32 (codec.serialize packet).length ++ codec.serialize packet

def encodePackets (packets : List V924) : List UInt8 := packets.flatMap (encodePacket codec)

/-- `encode_packet_batch`. -/
def encodePacketBatch (packets : List V924) (compression : Option Nat) :
    Except BedrockWireError (List UInt8) :=
  match packets.find? fun packet => (codec.serialize packet).length ≥ 2 ^ 32 with
  | some packet => .error (.packetTooLarge (codec.serialize packet).length)
  | none =>
    match compression with
    | some threshold => .ok (compress zlib threshold (encodePackets codec packets))
    | none => .ok (encodePackets codec packets)

/-- The loop of `decode_packet_batch`.  Every turn reads at least the length of a packet, so that
    the bytes left bound the turns. -/
def decodePackets : Nat → List UInt8 → Except BedrockWireError (List V924)
  | _, [] => .ok []
  | 0, _ => .ok []
  | turns + 1, payload =>
    match codec.deserializeU32 payload with
    | .error message => .error (.primitive message)
    | .ok (packetLen, rest) =>
      if rest.length < packetLen then .error (.io "failed to fill whole buffer")
      else
        match codec.deserialize (rest.take packetLen) with
        | .error message => .error (.packet message)
        | .ok packet => do
          let packets ← decodePackets turns (rest.drop packetLen)
          pure (packet :: packets)

/-- `decode_packet_batch` without compression, as `decode_v924` calls it. -/
def decodePacketBatch (payload : List UInt8) : Except BedrockWireError (List V924) :=
  decodePackets codec payload.length payload

/-! ### The transport and the wire codec -/

/-- `TransportReader::Bedrock` of `read_into`: the buffer with the packets of one more payload. -/
def readInto (compression : Option Nat) (buffer : List UInt8) :
    List UInt8 → Except BedrockWireError (List UInt8)
  | [] => .error (.io "empty RakNet application payload")
  | packetId :: packetStream =>
    if packetId ≠ BEDROCK_GAME_PACKET_ID then .error (.io "invalid Bedrock RakNet payload id")
    else do
      let packetStream ←
        match compression with
        | some _ => decompress zlib packetStream
        | none => .ok packetStream
      pure (buffer ++ packetStream)

/-- `RawPacketStreamWireCodec::try_decode_frame`: the frame and the buffer it leaves. -/
def rawTryDecodeFrame (buffer : List UInt8) : Option (List UInt8) × List UInt8 :=
  if buffer.isEmpty then (none, buffer) else (some buffer, [])

end Wire

/-! ### The decoder of the play phase -/

def BedrockWireError.message : BedrockWireError → String
  | .packet message => s!"packet codec failed: {message}"
  | .primitive message => s!"primitive codec failed: {message}"
  | .packetTooLarge length => s!"packet payload is too large to encode: {length} bytes"
  | .missingCompressionMethod => "compressed batch does not contain a compression method"
  | .unsupportedCompressionMethod method => s!"unsupported compression method {method}"
  | .io message => s!"compression stream failed: {message}"

/-- `BedrockProtocolSessionState`, what the plugin remembers of one connection. -/
structure BedrockProtocolSessionState where
  activeWindow : Option (Nat × ContainerKindId)

def BedrockProtocolSessionState.activeWindowId (state : BedrockProtocolSessionState) : Option Nat :=
  state.activeWindow.map Prod.fst

def blockFaceFromI32 : Int → Option BlockFace
  | 0 => some .bottom
  | 1 => some .top
  | 2 => some .north
  | 3 => some .south
  | 4 => some .west
  | 5 => some .east
  | _ => none

/-- The height of a network position is unsigned. -/
def blockPosFromNetwork (position : NetworkBlockPosition) : BlockPos :=
  ⟨position.x, if position.y < 2 ^ 31 then position.y else 2 ^ 31 - 1, position.z⟩

inductive RequestSlot where
  | slot (slot : InventorySlot)
  | cursor

def playerStorageSlot (slotIndex : Nat) : Option InventorySlot :=
  if slotIndex ≤ 26 then some (.mainInventory slotIndex)
  else if slotIndex ≤ 35 then some (.hotbar (slotIndex - 27))
  else none

def decodeRequestSlot (info : ItemStackRequestSlotInfo) : Option RequestSlot := do
  let slotIndex ← if 0 ≤ info.slot ∧ info.slot < 256 then some info.slot.toNat else none
  match ← info.containerName with
  | .cursorContainer => some .cursor
  | .inventoryContainer => some (.slot (.mainInventory slotIndex))
  | .hotbarContainer => some (.slot (.hotbar slotIndex))
  | .combinedHotbarAndInventoryContainer => (playerStorageSlot slotIndex).map .slot
  | .offhandContainer => if slotIndex = 0 then some (.slot .offhand) else none
  | .craftingOutputPreviewContainer =>
    if slotIndex = 0 then some (.slot (.windowLocal 0)) else none
  | .craftingInputContainer =>
    if slotIndex < 9 then some (.slot (.windowLocal (slotIndex + 1))) else none
  | .levelEntityContainer => some (.slot (.windowLocal slotIndex))
  | .furnaceIngredientContainer => if slotIndex = 0 then some (.slot (.windowLocal 0)) else none
  | .furnaceFuelContainer => if slotIndex = 0 then some (.slot (.windowLocal 1)) else none
  | .furnaceResultContainer => if slotIndex = 0 then some (.slot (.windowLocal 2)) else none
  | .other => none

def amountToButton (amount : Int) : InventoryClickButton := if amount ≤ 1 then .right else .left

abbrev TranslatedAction : Type :=
  InventoryTransactionContext × InventoryClickTarget × InventoryClickButton

def translateTakeAction (transaction : InventoryTransactionContext)
    (source destination : ItemStackRequestSlotInfo) (amount : Int) : Option TranslatedAction := do
  match ← decodeRequestSlot source, ← decodeRequestSlot destination with
  | .slot slot, .cursor => some (transaction, .slot slot, amountToButton amount)
  | _, _ => none

def translatePlaceAction (transaction : InventoryTransactionContext)
    (source destination : ItemStackRequestSlotInfo) (amount : Int) : Option TranslatedAction := do
  match ← decodeRequestSlot source, ← decodeRequestSlot destination with
  | .cursor, .slot slot => some (transaction, .slot slot, amountToButton amount)
  | _, _ => none

def translateSwapAction (transaction : InventoryTransactionContext)
    (source destination : ItemStackRequestSlotInfo) : Option TranslatedAction := do
  match ← decodeRequestSlot source, ← decodeRequestSlot destination with
  | .cursor, .slot slot => some (transaction, .slot slot, .left)
  | .slot slot, .cursor => some (transaction, .slot slot, .left)
  | _, _ => none

def translateDropAction (transaction : InventoryTransactionContext)
    (source : ItemStackRequestSlotInfo) (amount : Int) : Option TranslatedAction := do
  match ← decodeRequestSlot source with
  | .cursor => some (transaction, .outside, amountToButton amount)
  | .slot _ => none

/-- `request_transaction`: the request id is clamped to an `i16`. -/
def requestTransaction (windowId : Nat) (clientRequestId : Int) : InventoryTransactionContext :=
  ⟨windowId, max (-2 ^ 15) (min clientRequestId (2 ^ 15 - 1))⟩

def translateAction (transaction : InventoryTransactionContext) :
    ItemStackRequestAction → Option TranslatedAction
  | .take amount source destination => translateTakeAction transaction source destination amount
  | .place amount source destination => translatePlaceAction transaction source destination amount
  | .swap source destination => translateSwapAction transaction source destination
  | .drop amount source => translateDropAction transaction source amount
  | .other => none

def decodeRequestActions (playerId : PlayerId) (transaction : InventoryTransactionContext)
    (actions : List ItemStackRequestAction) : Option CoreCommand :=
  (actions.head?.bind (translateAction transaction)).map fun translated =>
    .inventoryClick playerId translated.1 translated.2.1 translated.2.2 .authoritative

def decodeItemUseTransaction (playerId : PlayerId) (transaction : ItemUseTransaction) :
    CoreCommand :=
  let position := blockPosFromNetwork transaction.position
  let face := blockFaceFromI32 transaction.face
  match transaction.actionType with
  | .place => .gameplay (.placeBlock playerId .main position face none)
  | .use => .gameplay (.useBlock playerId .main position face none)
  | .destroy => .gameplay (.digBlock playerId position 2 face)

/-- The status of `DigBlock` for a player action. -/
def PlayerActionType.status : PlayerActionType → Option Nat
  | .startDestroyBlock => some 0
  | .continueDestroyBlock => some 0
  | .abortDestroyBlock => some 1
  | .stopDestroyBlock => some 1
  | .creativeDestroyBlock => some 2
  | .predictDestroyBlock => some 2
  | .other => none

def moveIntent (playerId : PlayerId) (x y z yaw pitch : Float32) (onGround : Bool) : CoreCommand :=
  .gameplay (.moveIntent playerId (some ⟨x.toFloat, y.toFloat, z.toFloat⟩) (some yaw) (some pitch)
    onGround)

/-- The `match` of `decode_play_packet` on the first packet. -/
def decodePacket (state : BedrockProtocolSessionState) (playerId : PlayerId) :
    V924 → Except ProtocolError (Option CoreCommand)
  | .movePlayer x y z yaw pitch onGround => .ok (some (moveIntent playerId x y z yaw pitch onGround))
  | .mobEquipment slot => .ok (some (.gameplay (.setHeldSlot playerId slot)))
  | .playerAction action position face =>
    .ok (action.status.map fun status => .gameplay
      (.digBlock playerId (blockPosFromNetwork position) status (blockFaceFromI32 face)))
  | .itemStackRequest requests =>
    .ok (requests.head?.bind fun request => decodeRequestActions playerId
      (requestTransaction (state.activeWindowId.getD 0) request.clientRequestId) request.actions)
  | .playerAuthInput (some request) _ _ _ _ _ _ =>
    .ok (decodeRequestActions playerId
      (requestTransaction (state.activeWindowId.getD 0) request.clientRequestId) request.actions)
  | .playerAuthInput none (some transaction) _ _ _ _ _ =>
    .ok (some (decodeItemUseTransaction playerId transaction))
  | .playerAuthInput none none x y z yaw pitch =>
    .ok (some (moveIntent playerId x y z yaw pitch true))
  | .containerClose isFirst =>
    .ok (if isFirst then state.activeWindowId.map (.closeContainer playerId) else none)
  | .networkStackLatency creationTime isFromServer =>
    if isFromServer then .error (.invalidPacket "client sent a server-origin keepalive packet")
    else if -2 ^ 31 ≤ creationTime ∧ creationTime < 2 ^ 31 then
      .ok (some (.keepAliveResponse playerId creationTime))
    else .error (.invalidPacket "keepalive id out of range")
  | .inventoryTransaction _ => .ok none
  | .other => .ok none

section Decoder

variable (codec : BedrockCodec)

/-- The body of an inventory transaction, up to the item use it may carry. -/
def readItemUse : BedrockRead (Option ItemUseTransaction) := do
  let _ ← codec.rawId
  let _ ← codec.legacySetItemSlots
  match ← codec.transactionType with
  | .other => return none
  | .itemUseTransaction => return some (← codec.itemUseTransaction)

/-- `decode_inventory_transaction_frame`, of the first packet of the frame. -/
def decodeInventoryTransactionFrame (playerId : PlayerId) (frame : List UInt8) :
    Except ProtocolError (Option CoreCommand) := do
  let (packetLen, rest) ← (codec.deserializeU32 frame).mapError .plugin
  if rest.length < packetLen then .error (.invalidPacket "bedrock frame truncated")
  else
    let (packetId, body) ← (codec.packetHeader (rest.take packetLen)).mapError .plugin
    if packetId ≠ 30 then .ok none
    else
      let (transaction, _) ← (readItemUse codec body).mapError .plugin
      .ok (transaction.map (decodeItemUseTransaction playerId))

/-- `decode_play_packet`. -/
def decodePlayPacket (state : BedrockProtocolSessionState) (session : ProtocolSessionSnapshot)
    (frame : List UInt8) : Except ProtocolError (Option RuntimeCommand) :=
  match session.playerId with
  | none => .error (.invalidPacket "play session is missing player id")
  | some playerId => do
    match ← decodeInventoryTransactionFrame codec playerId frame with
    | some command => .ok (some (.core command))
    | none =>
      let packets ← (decodePacketBatch codec frame).mapError fun error =>
        .plugin s!"bedrock decode failed: {error.message}"
      match packets.head? with
      | none => .ok none
      | some packet => return (← decodePacket state playerId packet).map .core

end Decoder

/-! ### What is relied on of the packet codec -/

/-- Only an inventory transaction has the packet id 30, and its body says whether it is an item
    use. -/
def HeaderOf (codec : BedrockCodec) (packetId : Nat) (body : List UInt8) : V924 → Prop
  | .inventoryTransaction itemUse =>
    packetId = 30 ∧ ∃ rest, readItemUse codec body = .ok (itemUse, rest)
  | _ => packetId ≠ 30

/-- The library reads back what it wrote of this packet: the packet itself, its length, its id, and
    the item use of an inventory transaction. -/
structure RoundTrips (codec : BedrockCodec) (packet : V924) : Prop where
  length : (codec.serialize packet).length < 2 ^ 32
  reads : codec.deserialize (codec.serialize packet) = .ok packet
  prefixed : ∀ rest, codec.deserializeU32
    (codec.serializeU32 (codec.serialize packet).length ++ rest) =
      .ok ((codec.serialize packet).length, rest)
  nonempty : codec.serializeU32 (codec.serialize packet).length ≠ []
  header : ∃ packetId body, codec.packetHeader (codec.serialize packet) = .ok (packetId, body) ∧
    HeaderOf codec packetId body packet

variable {playerId : PlayerId} {packets : List V924} {amount : Int} {packet : V924}

section Frames

variable {codec : BedrockCodec} {packet : V924} {packets : List V924}

theorem encodePackets_cons : encodePackets codec (packet :: packets) =
    codec.serializeU32 (codec.serialize packet).length ++
      (codec.serialize packet ++ encodePackets codec packets) := by
  simp [encodePackets, encodePacket]

theorem encodePackets_append (more : List V924) :
    encodePackets codec (packets ++ more) =
      encodePackets codec packets ++ encodePackets codec more := by
  simp [encodePackets]

theorem encodePackets_ne_nil (hround : RoundTrips codec packet) :
    encodePackets codec (packet :: packets) ≠ [] := by
  rw [encodePackets_cons]
  intro hnil
  exact hround.nonempty (List.append_eq_nil_iff.mp hnil).1

theorem decodePackets_cons (hround : RoundTrips codec packet) (turns : Nat) :
    decodePackets codec (turns + 1) (encodePackets codec (packet :: packets)) =
      (decodePackets codec turns (encodePackets codec packets)).map (packet :: ·) := by
  have hne : encodePackets codec (packet :: packets) ≠ [] := encodePackets_ne_nil hround
  cases hbytes : encodePackets codec (packet :: packets) with
  | nil => exact absurd hbytes hne
  | cons byte bytes =>
    rw [decodePackets, ← hbytes, encodePackets_cons, hround.prefixed]
    · simp [hround.reads]
      rfl
    · intro h
      cases h

theorem decodePackets_encodePackets (hround : ∀ packet ∈ packets, RoundTrips codec packet)
    {turns : Nat} (hturns : (encodePackets codec packets).length ≤ turns) :
    decodePackets codec turns (encodePackets codec packets) = .ok packets := by
  induction packets generalizing turns with
  | nil => cases turns <;> rfl
  | cons packet rest ih =>
    have hpacket := hround packet List.mem_cons_self
    have hpos := List.length_pos_iff.mpr hpacket.nonempty
    rw [encodePackets_cons] at hturns
    simp only [List.length_append] at hturns
    obtain ⟨turns, rfl⟩ : ∃ left, turns = left + 1 := ⟨turns - 1, by omega⟩
    rw [decodePackets_cons hpacket, ih (fun p hp => hround p (List.mem_cons_of_mem _ hp)) (by omega)]
    rfl

def V924.itemUse : V924 → Option ItemUseTransaction
  | .inventoryTransaction itemUse => itemUse
  | _ => none

/-- What a packet asks for when it is the first of its frame. -/
def firstCommand (state : BedrockProtocolSessionState) (playerId : PlayerId) (packet : V924) :
    Except ProtocolError (Option CoreCommand) :=
  match packet.itemUse with
  | some transaction => .ok (some (decodeItemUseTransaction playerId transaction))
  | none => decodePacket state playerId packet

theorem decodeInventoryTransactionFrame_encodePackets (hround : RoundTrips codec packet)
    (playerId : PlayerId) :
    decodeInventoryTransactionFrame codec playerId (encodePackets codec (packet :: packets)) =
      .ok (packet.itemUse.map (decodeItemUseTransaction playerId)) := by
  obtain ⟨packetId, body, hheader, hid⟩ := hround.header
  have htake : (codec.serialize packet ++ encodePackets codec packets).take
      (codec.serialize packet).length = codec.serialize packet := List.take_left
  rw [encodePackets_cons, decodeInventoryTransactionFrame, hround.prefixed]
  simp only [Except.mapError, bind, Except.bind, List.length_append, htake, hheader]
  rw [if_neg (by omega)]
  cases packet with
  | inventoryTransaction itemUse =>
    obtain ⟨rfl, rest, hread⟩ := hid
    simp [hread, V924.itemUse]
  | _ => exact if_pos hid

/-- **The decoder looks at the first packet of a frame.** -/
theorem decodePlayPacket_encodePackets (state : BedrockProtocolSessionState)
    {session : ProtocolSessionSnapshot} (hplayer : session.playerId = some playerId)
    (hround : ∀ p ∈ packet :: packets, RoundTrips codec p) :
    decodePlayPacket codec state session (encodePackets codec (packet :: packets)) =
      (firstCommand state playerId packet).map (Option.map .core) := by
  have hbatch : decodePacketBatch codec (encodePackets codec (packet :: packets)) =
      .ok (packet :: packets) := decodePackets_encodePackets hround (Nat.le_refl _)
  simp only [decodePlayPacket, hplayer, bind, Except.bind,
    decodeInventoryTransactionFrame_encodePackets (hround packet List.mem_cons_self), firstCommand]
  cases packet.itemUse with
  | some transaction => rfl
  | none =>
    simp only [Option.map_none, hbatch, Except.mapError, List.head?_cons]
    cases decodePacket state playerId packet <;> rfl

end Frames

/-! ### Payloads, buffers and frames -/

/-- What happens at the reading side of a session: a payload with a batch of packets arrives, or
    the buffer is handed to the wire codec. -/
inductive Handing where
  | payload (first : V924) (more : List V924)
  | poll

section Reading

variable (codec : BedrockCodec) (zlib : Deflate) (compression : Option Nat)

def payloadBytes (packets : List V924) : Except BedrockWireError (List UInt8) :=
  (encodePacketBatch codec zlib packets compression).map (BEDROCK_GAME_PACKET_ID :: ·)

/-- The frames handed over, from a buffer that holds `buffer`.  What is left in the end is handed
    over too. -/
def framesOf (buffer : List UInt8) : List Handing → Except BedrockWireError (List (List UInt8))
  | [] => .ok (rawTryDecodeFrame buffer).1.toList
  | .payload first more :: rest => do
    let payload ← payloadBytes codec zlib compression (first :: more)
    let buffer ← readInto zlib compression buffer payload
    framesOf buffer rest
  | .poll :: rest => do
    let (frame, buffer) := rawTryDecodeFrame buffer
    let frames ← framesOf buffer rest
    pure (frame.toList ++ frames)

/-- The commands that decoding the frames produces. -/
def commandsOf (state : BedrockProtocolSessionState) (session : ProtocolSessionSnapshot)
    (frames : List (List UInt8)) : List RuntimeCommand :=
  frames.filterMap fun frame => (decodePlayPacket codec state session frame).toOption.join

end Reading

/-- All packets sent, in order. -/
def packetsOf (events : List Handing) : List V924 :=
  events.flatMap fun event =>
    match event with
    | .payload first more => first :: more
    | .poll => []

/-- The packets that are handed over together. -/
def batchesOf (buffered : List V924) : List Handing → List (List V924)
  | [] => if buffered.isEmpty then [] else [buffered]
  | .payload first more :: rest => batchesOf (buffered ++ first :: more) rest
  | .poll :: rest =>
    if buffered.isEmpty then batchesOf [] rest else buffered :: batchesOf [] rest

section Reading

variable {codec : BedrockCodec} {zlib : Deflate} {compression : Option Nat}

theorem decompress_compress (hzlib : ∀ bytes, zlib.inflate (zlib.deflate bytes) = .ok bytes)
    (threshold : Nat) (payload : List UInt8) :
    decompress zlib (compress zlib threshold payload) = .ok payload := by
  unfold compress
  split
  · simp [decompress]
  · simp [decompress, ZLIB_METHOD_ID, UNCOMPRESSED_METHOD_ID, hzlib, Except.mapError]

theorem readInto_payloadBytes (hzlib : ∀ bytes, zlib.inflate (zlib.deflate bytes) = .ok bytes)
    (hround : ∀ p ∈ packets, RoundTrips codec p) (compression : Option Nat) (buffer : List UInt8) :
    ∃ payload, payloadBytes codec zlib compression packets = .ok payload ∧
      readInto zlib compression buffer payload = .ok (buffer ++ encodePackets codec packets) := by
  have hfits : packets.find? (fun p => (codec.serialize p).length ≥ 2 ^ 32) = none := by
    rw [List.find?_eq_none]
    intro p hp
    simpa using (hround p hp).length
  simp only [payloadBytes, encodePacketBatch, hfits]
  cases compression with
  | none => exact ⟨_, rfl, by simp [readInto, bind, Except.bind, pure, Except.pure]⟩
  | some threshold =>
    refine ⟨_, rfl, ?_⟩
    simp [readInto, bind, Except.bind, pure, Except.pure, decompress_compress hzlib]

theorem isEmpty_encodePackets (hround : ∀ p ∈ packets, RoundTrips codec p) :
    (encodePackets codec packets).isEmpty = packets.isEmpty := by
  cases packets with
  | nil => rfl
  | cons packet rest =>
    have hne : encodePackets codec (packet :: rest) ≠ [] :=
      encodePackets_ne_nil (hround packet List.mem_cons_self)
    simpa using hne

/-- **The frames are the batches.** -/
theorem framesOf_eq (hzlib : ∀ bytes, zlib.inflate (zlib.deflate bytes) = .ok bytes)
    (events : List Handing) (buffered : List V924)
    (hround : ∀ p ∈ buffered ++ packetsOf events, RoundTrips codec p) :
    framesOf codec zlib compression (encodePackets codec buffered) events =
      .ok ((batchesOf buffered events).map (encodePackets codec)) := by
  induction events generalizing buffered with
  | nil =>
    have hempty := isEmpty_encodePackets fun p hp => hround p (List.mem_append_left _ hp)
    simp only [framesOf, rawTryDecodeFrame, hempty, batchesOf]
    split <;> rfl
  | cons event rest ih =>
    cases event with
    | payload first more =>
      have hall : ∀ p ∈ (buffered ++ first :: more) ++ packetsOf rest, RoundTrips codec p := by
        simpa [packetsOf] using hround
      have hsent : ∀ p ∈ first :: more, RoundTrips codec p := fun p hp =>
        hall p (List.mem_append_left _ (List.mem_append_right _ hp))
      obtain ⟨payload, hpayload, hread⟩ :=
        readInto_payloadBytes hzlib hsent compression (encodePackets codec buffered)
      have hnext := ih (buffered ++ first :: more) hall
      rw [encodePackets_append] at hnext
      simp only [framesOf, hpayload, hread, bind, Except.bind, batchesOf]
      exact hnext
    | poll =>
      have hempty := isEmpty_encodePackets fun p hp => hround p (List.mem_append_left _ hp)
      have hleft : ∀ p ∈ [] ++ packetsOf rest, RoundTrips codec p := fun p hp =>
        hround p (List.mem_append_right _ (by simpa [packetsOf] using hp))
      have hrest : framesOf codec zlib compression [] rest =
          .ok ((batchesOf [] rest).map (encodePackets codec)) := ih [] hleft
      simp only [framesOf, rawTryDecodeFrame, hempty, batchesOf]
      by_cases hbuffered : buffered.isEmpty
      · obtain rfl := List.isEmpty_iff.mp hbuffered
        have hnil : encodePackets codec [] = [] := rfl
        simp [hnil, hrest, bind, Except.bind, pure, Except.pure]
      · simp [hbuffered, hrest, bind, Except.bind, pure, Except.pure]

theorem batchesOf_nonempty {events : List Handing} {buffered batch : List V924}
    (h : batch ∈ batchesOf buffered events) : batch ≠ [] := by
  induction events generalizing buffered with
  | nil =>
    simp only [batchesOf] at h
    split at h
    · cases h
    · rename_i hne
      obtain rfl := List.mem_singleton.mp h
      simpa using hne
  | cons event rest ih =>
    cases event with
    | payload first more => exact ih h
    | poll =>
      simp only [batchesOf] at h
      split at h
      · exact ih h
      · rename_i hne
        rcases List.mem_cons.mp h with rfl | h
        · simpa using hne
        · exact ih h

theorem flatten_batchesOf (events : List Handing) (buffered : List V924) :
    (batchesOf buffered events).flatten = buffered ++ packetsOf events := by
  induction events generalizing buffered with
  | nil =>
    simp only [batchesOf]
    split
    · rename_i hempty
      simp [List.isEmpty_iff.mp hempty, packetsOf]
    · simp [packetsOf]
  | cons event rest ih =>
    cases event with
    | payload first more => simp [batchesOf, ih, packetsOf]
    | poll =>
      simp only [batchesOf]
      split
      · rename_i hempty
        simp [ih, List.isEmpty_iff.mp hempty, packetsOf]
      · simp [ih, packetsOf]

end Reading

/-! ### First packets and all packets -/

section Heads

variable {α β : Type} {f : α → Option β}

theorem length_filterMap_heads_le (f : α → Option β) (batches : List (List α)) :
    ((batches.filterMap List.head?).filterMap f).length ≤ (batches.flatten.filterMap f).length := by
  induction batches with
  | nil => simp
  | cons batch rest ih =>
    cases batch with
    | nil => exact ih
    | cons a tail =>
      simp only [List.filterMap_cons, List.head?_cons, List.flatten_cons, List.cons_append,
        List.filterMap_append]
      split
      · simp only [List.length_append]
        omega
      · simp only [List.length_cons, List.length_append]
        omega

theorem filterMap_heads_eq_iff {batches : List (List α)} :
    (batches.filterMap List.head?).filterMap f = batches.flatten.filterMap f ↔
      ∀ batch ∈ batches, ∀ a ∈ batch.tail, f a = none := by
  induction batches with
  | nil => simp
  | cons batch rest ih =>
    cases batch with
    | nil =>
      rw [List.forall_mem_cons]
      exact ih.trans ⟨fun h => ⟨fun a ha => (List.not_mem_nil ha).elim, h⟩, And.right⟩
    | cons a tail =>
      have hle := length_filterMap_heads_le f rest
      have hsplit : (rest.filterMap List.head?).filterMap f =
          tail.filterMap f ++ rest.flatten.filterMap f ↔
            tail.filterMap f = [] ∧
              (rest.filterMap List.head?).filterMap f = rest.flatten.filterMap f := by
        constructor
        · intro heq
          have hlength := congrArg List.length heq
          rw [List.length_append] at hlength
          have hnil : tail.filterMap f = [] := List.length_eq_zero_iff.mp (by omega)
          rw [hnil, List.nil_append] at heq
          exact ⟨hnil, heq⟩
        · rintro ⟨hnil, heq⟩
          rw [hnil, heq, List.nil_append]
      have hcons : ((a :: tail) :: rest).filterMap List.head? =
          a :: rest.filterMap List.head? := rfl
      rw [hcons, List.flatten_cons, List.cons_append, List.filterMap_cons, List.filterMap_cons,
        List.filterMap_append, List.forall_mem_cons, List.tail_cons, ← List.filterMap_eq_nil_iff,
        ← ih, ← hsplit]
      cases f a with
      | none => rfl
      | some b => exact List.cons_inj_right b

end Heads

/-! ### Packets that ask for something -/

/-- The stack request action is one of those that become a click. -/
def ItemStackRequestAction.Clicks : ItemStackRequestAction → Prop
  | .take _ source destination =>
    (∃ slot, decodeRequestSlot source = some (.slot slot)) ∧
      decodeRequestSlot destination = some .cursor
  | .place _ source destination =>
    decodeRequestSlot source = some .cursor ∧
      ∃ slot, decodeRequestSlot destination = some (.slot slot)
  | .swap source destination =>
    ((∃ slot, decodeRequestSlot source = some (.slot slot)) ∧
      decodeRequestSlot destination = some .cursor) ∨
    (decodeRequestSlot source = some .cursor ∧
      ∃ slot, decodeRequestSlot destination = some (.slot slot))
  | .drop _ source => decodeRequestSlot source = some .cursor
  | .other => False

def ItemStackRequest.Clicks (request : ItemStackRequest) : Prop :=
  ∃ action ∈ request.actions.head?, action.Clicks

/-- **The packet asks for a command**: a move, a change of the held slot, a block to be dug, placed
    or used, a click, a window to be closed, or an answer to a keepalive. -/
def V924.Asks (state : BedrockProtocolSessionState) : V924 → Prop
  | .movePlayer _ _ _ _ _ _ => True
  | .mobEquipment _ => True
  | .playerAction action _ _ => action ≠ .other
  | .itemStackRequest requests => ∃ request ∈ requests.head?, request.Clicks
  | .playerAuthInput (some request) _ _ _ _ _ _ => request.Clicks
  | .playerAuthInput none _ _ _ _ _ _ => True
  | .containerClose isFirst => isFirst = true ∧ state.activeWindow.isSome
  | .networkStackLatency creationTime isFromServer =>
    isFromServer = false ∧ -2 ^ 31 ≤ creationTime ∧ creationTime < 2 ^ 31
  | .inventoryTransaction itemUse => itemUse.isSome
  | .other => False

section Asks

variable {state : BedrockProtocolSessionState} {playerId : PlayerId}

variable {transaction : InventoryTransactionContext} {source destination : ItemStackRequestSlotInfo}

theorem translateTakeAction_isSome :
    (translateTakeAction transaction source destination amount).isSome ↔
      (∃ slot, decodeRequestSlot source = some (.slot slot)) ∧
        decodeRequestSlot destination = some .cursor := by
  unfold translateTakeAction
  rcases decodeRequestSlot source with _ | (_ | _) <;>
    rcases decodeRequestSlot destination with _ | (_ | _) <;> simp

theorem translatePlaceAction_isSome :
    (translatePlaceAction transaction source destination amount).isSome ↔
      decodeRequestSlot source = some .cursor ∧
        ∃ slot, decodeRequestSlot destination = some (.slot slot) := by
  unfold translatePlaceAction
  rcases decodeRequestSlot source with _ | (_ | _) <;>
    rcases decodeRequestSlot destination with _ | (_ | _) <;> simp

theorem translateSwapAction_isSome :
    (translateSwapAction transaction source destination).isSome ↔
      ((∃ slot, decodeRequestSlot source = some (.slot slot)) ∧
        decodeRequestSlot destination = some .cursor) ∨
      (decodeRequestSlot source = some .cursor ∧
        ∃ slot, decodeRequestSlot destination = some (.slot slot)) := by
  unfold translateSwapAction
  rcases decodeRequestSlot source with _ | (_ | _) <;>
    rcases decodeRequestSlot destination with _ | (_ | _) <;> simp

theorem translateDropAction_isSome : (translateDropAction transaction source amount).isSome ↔
      decodeRequestSlot source = some .cursor := by
  unfold translateDropAction
  rcases decodeRequestSlot source with _ | (_ | _) <;> simp

theorem translateAction_isSome {action : ItemStackRequestAction} :
    (translateAction transaction action).isSome ↔ action.Clicks := by
  cases action with
  | take amount source destination => exact translateTakeAction_isSome
  | place amount source destination => exact translatePlaceAction_isSome
  | swap source destination => exact translateSwapAction_isSome
  | drop amount source => exact translateDropAction_isSome
  | other => simp [translateAction, ItemStackRequestAction.Clicks]

theorem decodeRequestActions_isSome {request : ItemStackRequest} :
    (decodeRequestActions playerId transaction request.actions).isSome ↔ request.Clicks := by
  unfold ItemStackRequest.Clicks decodeRequestActions
  rw [Option.isSome_map]
  cases request.actions.head? with
  | none => simp
  | some action => simpa using translateAction_isSome

theorem firstCommand_isSome_iff :
    (firstCommand state playerId packet).toOption.join.isSome ↔ packet.Asks state := by
  cases packet with
  | movePlayer x y z yaw pitch onGround | mobEquipment slot =>
    exact ⟨fun _ => trivial, fun _ => rfl⟩
  | playerAction action position face =>
    cases action <;> simp [firstCommand, V924.itemUse, decodePacket, PlayerActionType.status,
      V924.Asks, Except.toOption]
  | itemStackRequest requests =>
    cases requests with
    | nil => simp [firstCommand, V924.itemUse, decodePacket, V924.Asks, Except.toOption]
    | cons request rest =>
      simpa [firstCommand, V924.itemUse, decodePacket, V924.Asks, Except.toOption] using
        decodeRequestActions_isSome
  | playerAuthInput stackRequest itemUse x y z yaw pitch =>
    cases stackRequest with
    | some request => exact decodeRequestActions_isSome
    | none =>
      cases itemUse with
      | some transaction | none => exact ⟨fun _ => trivial, fun _ => rfl⟩
  | containerClose isFirst =>
    cases isFirst <;> simp [firstCommand, V924.itemUse, decodePacket, V924.Asks, Except.toOption,
      BedrockProtocolSessionState.activeWindowId]
  | networkStackLatency creationTime isFromServer =>
    simp only [firstCommand, V924.itemUse, decodePacket, V924.Asks]
    split
    · simp_all [Except.toOption]
    · split <;> simp_all [Except.toOption]
  | inventoryTransaction itemUse =>
    cases itemUse <;> simp [firstCommand, V924.itemUse, decodePacket, V924.Asks, Except.toOption]
  | other => simp [firstCommand, V924.itemUse, decodePacket, V924.Asks, Except.toOption]

end Asks

/-! ### What takes effect of a batch -/

/-- The command of a packet that is the first of its frame. -/
def command (state : BedrockProtocolSessionState) (playerId : PlayerId) (packet : V924) :
    Option RuntimeCommand :=
  (firstCommand state playerId packet).toOption.join.map .core

theorem command_eq_none_iff {state : BedrockProtocolSessionState} :
    command state playerId packet = none ↔ ¬ packet.Asks state := by
  rw [command, Option.map_eq_none_iff, ← Option.not_isSome_iff_eq_none, firstCommand_isSome_iff]

theorem decodePlayPacket_command {codec : BedrockCodec} (state : BedrockProtocolSessionState)
    {session : ProtocolSessionSnapshot} (hplayer : session.playerId = some playerId)
    (hround : ∀ p ∈ packet :: packets, RoundTrips codec p) : (decodePlayPacket codec state session
      (encodePackets codec (packet :: packets))).toOption.join = command state playerId packet := by
  rw [decodePlayPacket_encodePackets state hplayer hround, command]
  cases firstCommand state playerId packet <;> rfl

/-- **A packet takes effect exactly when it comes first.**  The commands of a session are those of
    its packets one by one, exactly when nothing that asks for a command is handed over behind
    another packet. -/
theorem batches_take_effect_iff {codec : BedrockCodec} {zlib : Deflate} (compression : Option Nat)
    (state : BedrockProtocolSessionState) (session : ProtocolSessionSnapshot)
    (events : List Handing) (hzlib : ∀ bytes, zlib.inflate (zlib.deflate bytes) = .ok bytes)
    (hround : ∀ packet ∈ packetsOf events, RoundTrips codec packet) :
    ∃ frames, framesOf codec zlib compression [] events = .ok frames ∧
      (commandsOf codec state session frames = commandsOf codec state session
          ((packetsOf events).map fun packet => encodePackets codec [packet]) ↔
        session.playerId = none ∨
          ∀ batch ∈ batchesOf [] events, ∀ packet ∈ batch.tail, ¬ packet.Asks state) := by
  have hframes : framesOf codec zlib compression [] events =
      .ok ((batchesOf [] events).map (encodePackets codec)) :=
    framesOf_eq hzlib events [] (by simpa using hround)
  refine ⟨_, hframes, ?_⟩
  have hflat : (batchesOf [] events).flatten = packetsOf events := flatten_batchesOf events []
  cases hplayer : session.playerId with
  | none => simp [commandsOf, decodePlayPacket, hplayer, Except.toOption]
  | some playerId =>
    have hheads : commandsOf codec state session ((batchesOf [] events).map (encodePackets codec)) =
        ((batchesOf [] events).filterMap List.head?).filterMap (command state playerId) := by
      rw [commandsOf, List.filterMap_map, List.filterMap_filterMap]
      refine List.filterMap_congr fun batch hbatch => ?_
      obtain ⟨packet, packets, rfl⟩ := List.exists_cons_of_ne_nil (batchesOf_nonempty hbatch)
      refine decodePlayPacket_command state hplayer fun p hp => hround p ?_
      rw [← hflat]
      exact List.mem_flatten_of_mem hbatch hp
    have hsingles : commandsOf codec state session
        ((packetsOf events).map fun packet => encodePackets codec [packet]) =
          (packetsOf events).filterMap (command state playerId) := by
      rw [commandsOf, List.filterMap_map]
      refine List.filterMap_congr fun packet hpacket => ?_
      refine decodePlayPacket_command state hplayer fun p hp => ?_
      rw [List.mem_singleton.mp hp]
      exact hround packet hpacket
    rw [hheads, hsingles, ← hflat, filterMap_heads_eq_iff]
    simp only [command_eq_none_iff, reduceCtorEq, false_or]

/-! ### A batch of two answers -/

/-- The library's codec of `NetworkStackLatencyPacket`, number 115: the time in eight bytes, least
    significant first, and the origin in one. -/
def latencyCodec : BedrockCodec where
  serialize
    | .networkStackLatency creationTime isFromServer =>
      115 :: Bytes.leBytes 8 (creationTime % 2 ^ 64).toNat ++ [if isFromServer then 1 else 0]
    | _ => []
  deserialize
    | 115 :: fields =>
      .ok (.networkStackLatency (Bytes.leValue (fields.take 8)) (fields.drop 8 == [1]))
    | _ => .error "unknown packet"
  serializeU32 value := [UInt8.ofNat value]
  deserializeU32
    | [] => .error "unexpected end of input"
    | byte :: rest => if byte < 128 then .ok (byte.toNat, rest) else .error "number too long"
  packetHeader
    | [] => .error "unexpected end of input"
    | byte :: rest => .ok (byte.toNat, rest)
  rawId := fun _ => .error "unexpected end of input"
  legacySetItemSlots := fun _ => .error "unexpected end of input"
  transactionType := fun _ => .error "unexpected end of input"
  itemUseTransaction := fun _ => .error "unexpected end of input"

def storedOnly : Deflate := ⟨StoredDeflate.deflate, StoredDeflate.inflate⟩

def playSession : ProtocolSessionSnapshot := ⟨⟨1⟩, .play, some ⟨7⟩, some ⟨1⟩⟩

theorem latencyCodec_deserialize (fields : List UInt8) :
    latencyCodec.deserialize (115 :: fields) =
      .ok (.networkStackLatency (Bytes.leValue (fields.take 8)) (fields.drop 8 == [1])) := rfl

theorem latency_roundTrips {time : Nat} (h : time < 2 ^ 64) :
    RoundTrips latencyCodec (.networkStackLatency time false) := by
  have htime : ((time : Int) % 2 ^ 64).toNat = time := by omega
  have hbytes : latencyCodec.serialize (.networkStackLatency time false) =
      115 :: (Bytes.leBytes 8 time ++ [0]) := by
    simp only [latencyCodec, htime]
    rfl
  have hlength : (latencyCodec.serialize (.networkStackLatency time false)).length = 10 := by
    simp [hbytes]
  have htake : (Bytes.leBytes 8 time ++ [0]).take 8 = Bytes.leBytes 8 time :=
    List.take_left' (Bytes.length_leBytes 8 time)
  have hdrop : (Bytes.leBytes 8 time ++ [0]).drop 8 = [0] :=
    List.drop_left' (Bytes.length_leBytes 8 time)
  have h115 : (115 : Nat) ≠ 30 := by decide
  refine ⟨by omega, ?_, ?_, by simp [latencyCodec], ⟨115, Bytes.leBytes 8 time ++ [0], ?_, h115⟩⟩
  · rw [hbytes, latencyCodec_deserialize, htake, hdrop, Bytes.leValue_leBytes 8 time (by omega)]
    rfl
  · intro rest
    rw [hlength]
    rfl
  · rw [hbytes]
    rfl

/-- Two keepalive answers in one payload. -/
def answeredTogether : List Handing :=
  [.payload (.networkStackLatency 3 false) [.networkStackLatency 4 false]]

/-- The second answer is lost. -/
theorem second_packet_is_lost :
    (∀ packet ∈ packetsOf answeredTogether, RoundTrips latencyCodec packet) ∧
    ∃ frames, framesOf latencyCodec storedOnly none [] answeredTogether = .ok frames ∧
      commandsOf latencyCodec ⟨none⟩ playSession frames ≠
        commandsOf latencyCodec ⟨none⟩ playSession
          ((packetsOf answeredTogether).map fun packet => encodePackets latencyCodec [packet]) := by
  have hround : ∀ packet ∈ packetsOf answeredTogether, RoundTrips latencyCodec packet := by
    intro packet hpacket
    rcases List.mem_pair.mp hpacket with rfl | rfl
    · exact @latency_roundTrips 3 (by decide)
    · exact @latency_roundTrips 4 (by decide)
  have hbytes : framesOf latencyCodec storedOnly none [] answeredTogether =
      .ok [encodePackets latencyCodec [.networkStackLatency 3 false, .networkStackLatency 4 false]] :=
    rfl
  exact ⟨hround, _, hbytes, by decide +kernel⟩

/-- The same answers, each handed over before the next arrives. -/
def answeredApart : List Handing :=
  [.payload (.networkStackLatency 3 false) [], .poll, .payload (.networkStackLatency 4 false) []]

/-- Under the threshold of eight bytes both answers are compressed. -/
theorem batches_take_effect_iff_apart :
    ∃ frames, framesOf latencyCodec storedOnly (some 8) [] answeredApart = .ok frames ∧
      commandsOf latencyCodec ⟨none⟩ playSession frames = commandsOf latencyCodec ⟨none⟩ playSession
        ((packetsOf answeredApart).map fun packet => encodePackets latencyCodec [packet]) := by
  have hround : ∀ packet ∈ packetsOf answeredApart, RoundTrips latencyCodec packet := by
    intro packet hpacket
    rcases List.mem_pair.mp hpacket with rfl | rfl
    · exact @latency_roundTrips 3 (by decide)
    · exact @latency_roundTrips 4 (by decide)
  have hzlib : ∀ bytes, storedOnly.inflate (storedOnly.deflate bytes) = .ok bytes :=
    StoredDeflate.inflate_deflate
  obtain ⟨frames, hframes, hiff⟩ :=
    batches_take_effect_iff (some 8) ⟨none⟩ playSession answeredApart hzlib hround
  refine ⟨frames, hframes, hiff.mpr (.inr ?_)⟩
  intro batch hbatch packet hpacket
  have hsingle : batchesOf [] answeredApart =
      [[.networkStackLatency 3 false], [.networkStackLatency 4 false]] := rfl
  rw [hsingle] at hbatch
  rcases List.mem_pair.mp hbatch with rfl | rfl <;> cases hpacket

end RevyCraft.Bedrock
