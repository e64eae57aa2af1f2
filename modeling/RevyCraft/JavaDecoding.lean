/-
  RevyCraft/JavaDecoding.lean
  ===========================
  **What the Java protocol plugins read from a client's bytes**
  (`mc-proto-common/src/packet.rs`, `mc-proto-je-common` and the decoder of
  `mc-proto-je-5`).

  A reader is a function of the bytes that are left.  Every decoder is total:
  a frame is read as a request or refused with a `ProtocolError`.
-/
import RevyCraft.Bytes
import RevyCraft.ProtocolRegistry
import RevyCraft.CanonicalContent

namespace RevyCraft

open Bytes

/-! ### The packet reader -/

/-- `PacketReader`: the bytes behind the cursor. -/
abbrev PacketReader (α : Type) : Type := StateT (List UInt8) (Except ProtocolError) α

namespace PacketReader

def fail {α : Type} (error : ProtocolError) : PacketReader α := fun _ => .error error

def readU8 : PacketReader UInt8
  | [] => .error .unexpectedEof
  | byte :: rest => .ok (byte, rest)

def readBytes (length : Nat) : PacketReader (List UInt8) := fun payload =>
  if payload.length < length then .error .unexpectedEof
  else .ok (payload.take length, payload.drop length)

/-- A big-endian unsigned integer of `width` bytes. -/
def readUnsigned (width : Nat) : PacketReader Nat := return beValue (← readBytes width)

/-- A big-endian integer of `width` bytes in two's complement. -/
def readSigned (width : Nat) : PacketReader Int := do
  let value ← readUnsigned width
  return if value < 2 ^ (8 * width - 1) then (value : Int) else value - 2 ^ (8 * width)

def readBool : PacketReader Bool := return (← readU8) ≠ 0
def readI8 : PacketReader Int := readSigned 1
def readI16 : PacketReader Int := readSigned 2
def readU16 : PacketReader Nat := readUnsigned 2
def readI32 : PacketReader Int := readSigned 4
def readI64 : PacketReader Int := readSigned 8
def readF32 : PacketReader Float32 := return Float32.ofBits (UInt32.ofNat (← readUnsigned 4))
def readF64 : PacketReader Float := return Float.ofBits (UInt64.ofNat (← readUnsigned 8))

/-- The loop of `read_varint` with `left` of the five bytes still to come.  A sixth byte is read
    before it is refused. -/
def readVarintLoop : Nat → Nat → Nat → PacketReader Int
  | 0, _, _ => do
    let _ ← readU8
    fail .invalidVarInt
  | left + 1, shift, result => do
    let byte ← readU8
    let result : Nat := result ||| ((byte &&& 0x7f).toNat <<< shift) % 2 ^ 32
    if byte &&& 0x80 = 0 then return wrapI32 result
    else readVarintLoop left (shift + 7) result

def readVarint : PacketReader Int := readVarintLoop 5 0 0

def readString (maxLen : Nat) : PacketReader String := do
  let length ← readVarint
  if length < 0 then fail (.invalidPacket "negative string length")
  else if length.toNat > maxLen * 4 then fail (.stringTooLong length.toNat)
  else
    let bytes ← readBytes length.toNat
    match String.fromUTF8? ⟨bytes.toArray⟩ with
    | none => fail .invalidUtf8
    | some value =>
      if value.length > maxLen then fail (.stringTooLong value.utf8ByteSize) else return value

/-- What a decoder makes of a whole frame; the bytes it leaves are ignored. -/
def decode {α : Type} (reader : PacketReader α) (frame : List UInt8) : Except ProtocolError α :=
  (reader frame).map Prod.fst

end PacketReader

/-! ### Handshake, status and login -/

open PacketReader

inductive StatusRequest where
  | query
  | ping (payload : Int)
  deriving DecidableEq

inductive LoginRequest where
  | loginStart (username : String)
  | encryptionResponse (sharedSecretEncrypted verifyTokenEncrypted : List UInt8)
  deriving DecidableEq

def handshakeIntent : PacketReader (Option HandshakeIntent) := do
  let packetId ← readVarint
  if packetId ≠ 0 then return none
  let protocolNumber ← readVarint
  let serverHost ← readString 255
  let serverPort ← readU16
  let nextState ← match ← readVarint with
    | 1 => pure HandshakeNextState.status
    | 2 => pure HandshakeNextState.login
    | _ => fail (.invalidPacket "unsupported handshake next state")
  return some ⟨.je, protocolNumber, serverHost, serverPort, nextState⟩

def decodeHandshakeFrame (frame : List UInt8) : Except ProtocolError (Option HandshakeIntent) :=
  handshakeIntent.decode frame

def statusRequest : PacketReader StatusRequest := do
  match ← readVarint with
  | 0x00 => return .query
  | 0x01 => return .ping (← readI64)
  | packetId => fail (.unsupportedPacket packetId)

def decodeStatus (frame : List UInt8) : Except ProtocolError StatusRequest :=
  statusRequest.decode frame

def readLoginByteArray : PacketReader (List UInt8) := do
  let length ← readVarint
  if length < 0 then fail (.invalidPacket "negative login byte array length")
  else readBytes length.toNat

def loginRequest : PacketReader LoginRequest := do
  match ← readVarint with
  | 0x00 => return .loginStart (← readString 16)
  | 0x01 => return .encryptionResponse (← readLoginByteArray) (← readLoginByteArray)
  | packetId => fail (.unsupportedPacket packetId)

def decodeLogin (frame : List UInt8) : Except ProtocolError LoginRequest :=
  loginRequest.decode frame

/-! ### The wire -/

/-- `peek_varint`, with `left` of the five bytes still to come. -/
def peekVarintLoop : Nat → Nat → Nat → List UInt8 → Option (Int × Nat)
  | left + 1, numRead, result, byte :: rest =>
    let result : Nat := result ||| ((byte &&& 0x7f).toNat <<< (7 * numRead)) % 2 ^ 32
    if byte &&& 0x80 = 0 then some (wrapI32 result, numRead + 1)
    else peekVarintLoop left (numRead + 1) result rest
  | _, _, _, _ => none

def peekVarint (buffer : List UInt8) : Option (Int × Nat) := peekVarintLoop 5 0 0 buffer

/-- `MinecraftWireCodec::try_decode_frame`: the frame at the head of the buffer, if it is
    complete, and what it leaves in the buffer. -/
def tryDecodeFrame (buffer : List UInt8) : Except ProtocolError (Option (List UInt8) × List UInt8) :=
  match peekVarint buffer with
  | none => .ok (none, buffer)
  | some (length, headerLen) =>
    if length < 0 then .error (.invalidPacket "negative frame length")
    else if buffer.length < headerLen + length.toNat then .ok (none, buffer)
    else
      .ok (some ((buffer.take (headerLen + length.toNat)).drop headerLen),
        buffer.drop (headerLen + length.toNat))

/-! ### Slots -/

/-- `semantic_item`. -/
def semanticItem (itemId : Int) (damage count : Nat) : ItemStack :=
  match itemId, damage with
  | 1, damage => .new Catalog.STONE count damage
  | 2, damage => .new Catalog.GRASS_BLOCK count damage
  | 3, damage => .new Catalog.DIRT count damage
  | 4, damage => .new Catalog.COBBLESTONE count damage
  | 5, 0 => .new Catalog.OAK_PLANKS count 0
  | 17, 0 => .new Catalog.OAK_LOG count 0
  | 12, 0 => .new Catalog.SAND count 0
  | 20, damage => .new Catalog.GLASS count damage
  | 24, 0 => .new Catalog.SANDSTONE count 0
  | 45, damage => .new Catalog.BRICKS count damage
  | 58, 0 => .new Catalog.CRAFTING_TABLE count 0
  | 54, 0 => .new Catalog.CHEST count 0
  | 61, 0 => .new Catalog.FURNACE count 0
  | 280, 0 => .new Catalog.STICK count 0
  | _, damage => .new "minecraft:unsupported" count damage

def skipSlotNbtBlob : PacketReader Unit := do
  let length ← readI16
  if length < 0 then return ()
  let _ ← readBytes length.toNat

/-- `read_slot` of the legacy encodings, in a monad that reads packets and skips the tag. -/
def readLegacySlot {m : Type → Type} [Monad m] (read : {α : Type} → PacketReader α → m α)
    (skipSlotNbt : m Unit) : m (Option ItemStack) := do
  let itemId ← read readI16
  if itemId < 0 then return none
  else
    let count ← read readU8
    let damage ← read readU16
    skipSlotNbt
    return some (semanticItem itemId damage count.toNat)

/-- `read_slot` under `JE_1_7_10_INVENTORY_SPEC`: a legacy slot with a length-prefixed tag. -/
def readSlot : PacketReader (Option ItemStack) :=
  readLegacySlot (fun reader => reader) skipSlotNbtBlob

/-- `legacy_player_inventory_slot`, for an index that fits a byte. -/
def legacyPlayerInventorySlot (index : Nat) : Option InventorySlot :=
  if index < 9 then some (.windowLocal index)
  else if index < 36 then some (.mainInventory (index - 9))
  else if index < 45 then some (.hotbar (index - 36))
  else none

/-- The number of local slots of a window that is not the player's, which the main inventory and
    the hotbar follow.  The source panics on a kind it does not know; the kinds of the content
    are known. -/
def localSlotCount (container : ContainerKindId) : Option Int :=
  if container = Ids.CRAFTING_TABLE then some 10
  else if container = Ids.CHEST_27 then some 27
  else if container = Ids.FURNACE then some 3
  else none

/-- `inventory_slot` under the legacy layout. -/
def inventorySlot (container : ContainerKindId) (rawSlot : Int) : Option InventorySlot :=
  if container = Ids.PLAYER then
    if 0 ≤ rawSlot ∧ rawSlot ≤ 255 then legacyPlayerInventorySlot rawSlot.toNat else none
  else do
    let start ← localSlotCount container
    if 0 ≤ rawSlot ∧ rawSlot < start then some (.windowLocal rawSlot.toNat)
    else if start ≤ rawSlot ∧ rawSlot < start + 27 then
      some (.mainInventory (rawSlot - start).toNat)
    else if start + 27 ≤ rawSlot ∧ rawSlot < start + 36 then
      some (.hotbar (rawSlot - start - 27).toNat)
    else none

/-! ### The play phase -/

inductive ConnectionPhase where
  | handshaking
  | status
  | login
  | play
  deriving DecidableEq

structure ProtocolSessionSnapshot where
  connectionId : ConnectionId
  phase : ConnectionPhase
  playerId : Option PlayerId
  entityId : Option EntityId
  deriving DecidableEq

inductive SessionCommand where
  | clientStatus (playerId : PlayerId) (actionId : Int)
  | inventoryTransactionAck (playerId : PlayerId) (transaction : InventoryTransactionContext)
      (accepted : Bool)
  deriving DecidableEq

inductive RuntimeCommand where
  | core (command : CoreCommand)
  | session (command : SessionCommand)
  deriving DecidableEq

/-- `JavaProtocolSessionState`, what the plugin remembers of one connection. -/
structure JavaProtocolSessionState where
  activeWindow : Option (Nat × ContainerKindId)
  pendingRejectedTransaction : Option InventoryTransactionContext

def JavaProtocolSessionState.resolveContainer (state : JavaProtocolSessionState) (windowId : Nat) :
    Option ContainerKindId :=
  if windowId = 0 then some Ids.PLAYER
  else (state.activeWindow.filter fun window => window.1 = windowId).map Prod.snd

def JavaProtocolSessionState.shouldGateClick (state : JavaProtocolSessionState)
    (transaction : InventoryTransactionContext) : Bool :=
  state.pendingRejectedTransaction.any fun pending => pending.windowId = transaction.windowId

def BlockFace.fromProtocolByte : UInt8 → Option BlockFace
  | 0 => some .bottom
  | 1 => some .top
  | 2 => some .north
  | 3 => some .south
  | 4 => some .west
  | 5 => some .east
  | _ => none

namespace Je5

def gameplay (command : GameplayCommand) : Option RuntimeCommand := some (.core (.gameplay command))

def positionPacket (playerId : PlayerId) : PacketReader (Option RuntimeCommand) := do
  let x ← readF64
  let _stance ← readF64
  let y ← readF64
  let z ← readF64
  let onGround ← readBool
  return gameplay (.moveIntent playerId (some ⟨x, y, z⟩) none none onGround)

def positionLookPacket (playerId : PlayerId) : PacketReader (Option RuntimeCommand) := do
  let x ← readF64
  let _stance ← readF64
  let y ← readF64
  let z ← readF64
  let yaw ← readF32
  let pitch ← readF32
  let onGround ← readBool
  return gameplay (.moveIntent playerId (some ⟨x, y, z⟩) (some yaw) (some pitch) onGround)

def lookPacket (playerId : PlayerId) : PacketReader (Option RuntimeCommand) := do
  let yaw ← readF32
  let pitch ← readF32
  let onGround ← readBool
  return gameplay (.moveIntent playerId none (some yaw) (some pitch) onGround)

def readBlockPos : PacketReader BlockPos := do
  let x ← readI32
  let y ← readU8
  let z ← readI32
  return ⟨x, y.toNat, z⟩

def diggingPacket (playerId : PlayerId) : PacketReader (Option RuntimeCommand) := do
  let status ← readU8
  let position ← readBlockPos
  let face ← readU8
  return gameplay (.digBlock playerId position status.toNat (BlockFace.fromProtocolByte face))

def placeBlockPacket (playerId : PlayerId) : PacketReader (Option RuntimeCommand) := do
  let position ← readBlockPos
  let direction ← readU8
  let heldItem ← readSlot
  let _cursor ← readBytes 3
  if position = ⟨-1, 255, -1⟩ ∧ direction = 255 then return none
  return gameplay (.useBlock playerId .main position (BlockFace.fromProtocolByte direction) heldItem)

def clientSettingsPacket (playerId : PlayerId) : PacketReader (Option RuntimeCommand) := do
  let _locale ← readString 16
  let viewDistance ← readI8
  let _flagsColorsDifficultyCape ← readBytes 4
  return some (.core (.updateClientView playerId (max viewDistance.toNat 1)))

def clickWindowPacket (state : JavaProtocolSessionState) (playerId : PlayerId) :
    PacketReader (Option RuntimeCommand) := do
  let windowId ← readU8
  let rawSlot ← readI16
  let rawButton ← readI8
  let actionNumber ← readI16
  let mode ← readI8
  let clickedItem ← readSlot
  let button := if rawButton = 1 then InventoryClickButton.right else .left
  let target :=
    if mode ≠ 0 ∨ ¬ (rawButton = 0 ∨ rawButton = 1) then InventoryClickTarget.unsupported
    else if rawSlot = -999 then .outside
    else
      match (state.resolveContainer windowId.toNat).bind (inventorySlot · rawSlot) with
      | some slot => .slot slot
      | none => .unsupported
  let transaction : InventoryTransactionContext := ⟨windowId.toNat, actionNumber⟩
  if state.shouldGateClick transaction then return none
  return some (.core (.inventoryClick playerId transaction target button
    (.strictSlotEcho clickedItem)))

/-- The acknowledgement also clears what the plugin remembers of the transaction, which
    `observe_transaction_ack` does behind this decoder. -/
def confirmTransactionPacket (playerId : PlayerId) : PacketReader (Option RuntimeCommand) := do
  let windowId ← readU8
  let actionNumber ← readI16
  let accepted ← readBool
  return some (.session (.inventoryTransactionAck playerId ⟨windowId.toNat, actionNumber⟩ accepted))

def creativeInventoryPacket (playerId : PlayerId) : PacketReader (Option RuntimeCommand) := do
  let slot ← readI16
  let stack ← readSlot
  return (inventorySlot Ids.PLAYER slot).bind fun slot =>
    gameplay (.creativeInventorySet playerId slot stack)

def playPacket (state : JavaProtocolSessionState) (playerId : PlayerId) :
    PacketReader (Option RuntimeCommand) := do
  match ← readVarint with
  | 0x00 => return some (.core (.keepAliveResponse playerId (← readI32)))
  | 0x03 => return gameplay (.moveIntent playerId none none none (← readBool))
  | 0x04 => positionPacket playerId
  | 0x05 => lookPacket playerId
  | 0x06 => positionLookPacket playerId
  | 0x07 => diggingPacket playerId
  | 0x08 => placeBlockPacket playerId
  | 0x09 => return gameplay (.setHeldSlot playerId (← readI16))
  | 0x0d => return some (.core (.closeContainer playerId (← readU8).toNat))
  | 0x0e => clickWindowPacket state playerId
  | 0x0f => confirmTransactionPacket playerId
  | 0x10 => creativeInventoryPacket playerId
  | 0x15 => clientSettingsPacket playerId
  | 0x16 => return some (.session (.clientStatus playerId (← readI8)))
  | _ => return none

/-- `decode_play_packet`. -/
def decodePlayPacket (state : JavaProtocolSessionState) (session : ProtocolSessionSnapshot)
    (frame : List UInt8) : Except ProtocolError (Option RuntimeCommand) :=
  match session.playerId with
  | none => .error (.invalidPacket "play session is missing player id")
  | some playerId => (playPacket state playerId).decode frame

end Je5

end RevyCraft
