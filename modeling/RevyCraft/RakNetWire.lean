/-
  RevyCraft/RakNetWire.lean
  =========================
  **The RakNet wire format** (`wire.rs`, `budget.rs`): datagrams and their
  frames, acknowledgements, and the three online messages the peer answers
  itself.

  A `Reader` of the source is the list of bytes it has not consumed.  The
  module proves the one fact the delivery argument needs from the format:
  the receiver decodes a datagram of the peer's own encoder to the frame it
  was built from, unless a resource budget refuses it
  (`decodeDatagram_encodeDatagram`).
-/
import RevyCraft.Bytes
import RevyCraft.Sequence

namespace RevyCraft.RakNet

open Bytes

abbrev Payload : Type := List UInt8

/-! ### Budgets and errors -/

structure RakNetBudgets where
  maxPeers : Nat
  peerIngressQueue : Nat
  peerCommandQueue : Nat
  applicationQueue : Nat
  maxDatagramBytes : Nat
  maxPayloadBytes : Nat
  maxReassemblyBytesPerPeer : Nat
  maxReassemblyPartsPerPeer : Nat
  maxOrderedHoldback : Nat
  maxUnackedDatagrams : Nat
  deriving DecidableEq

/-- `RakNetBudgets::default`. -/
def RakNetBudgets.default : RakNetBudgets where
  maxPeers := 4096
  peerIngressQueue := 256
  peerCommandQueue := 256
  applicationQueue := 256
  maxDatagramBytes := 2048
  maxPayloadBytes := 4 * 1024 * 1024
  maxReassemblyBytesPerPeer := 8 * 1024 * 1024
  maxReassemblyPartsPerPeer := 4096
  maxOrderedHoldback := 1024
  maxUnackedDatagrams := 2048

/-- `RakNetError`, with one more constructor for an allocation that the address space cannot
    hold, where the process aborts. -/
inductive RakNetError where
  | wire (message : String)
  | budget (resource : String) (requested limit : Nat)
  | closed
  | peerTimeout
  | retransmitExhausted (sequence attempts : Nat)
  | queueFull
  | io (message : String)
  | outOfMemory
  deriving DecidableEq

def ensureBudget (resource : String) (requested limit : Nat) : Except RakNetError Unit :=
  if requested > limit then .error (.budget resource requested limit) else .ok ()

theorem ensureBudget_ok {resource : String} {requested limit : Nat}
    (h : requested ≤ limit) : ensureBudget resource requested limit = .ok () :=
  if_neg (Nat.not_lt.mpr h)

theorem le_of_ensureBudget {resource : String} {requested limit : Nat} {u : Unit}
    (h : ensureBudget resource requested limit = .ok u) : requested ≤ limit := by
  unfold ensureBudget at h
  split at h
  · cases h
  · omega

/-! ### Frames -/

inductive Reliability where
  | unreliable
  | unreliableSequenced
  | reliable
  | reliableOrdered
  | reliableSequenced
  | unreliableWithReceipt
  | reliableWithReceipt
  | reliableOrderedWithReceipt
  deriving DecidableEq

namespace Reliability

def fromTag (tag : UInt8) : Except RakNetError Reliability :=
  match tag.toNat with
  | 0 => .ok .unreliable
  | 1 => .ok .unreliableSequenced
  | 2 => .ok .reliable
  | 3 => .ok .reliableOrdered
  | 4 => .ok .reliableSequenced
  | 5 => .ok .unreliableWithReceipt
  | 6 => .ok .reliableWithReceipt
  | 7 => .ok .reliableOrderedWithReceipt
  | n => .error (.wire s!"invalid reliability tag {n}")

def tag : Reliability → UInt8
  | unreliable => 0
  | unreliableSequenced => 1
  | reliable => 2
  | reliableOrdered => 3
  | reliableSequenced => 4
  | unreliableWithReceipt => 5
  | reliableWithReceipt => 6
  | reliableOrderedWithReceipt => 7

def isReliable : Reliability → Bool
  | reliable | reliableOrdered | reliableSequenced | reliableWithReceipt
  | reliableOrderedWithReceipt => true
  | _ => false

def isSequenced : Reliability → Bool
  | unreliableSequenced | reliableSequenced => true
  | _ => false

def isOrdered : Reliability → Bool
  | unreliableSequenced | reliableOrdered | reliableSequenced | reliableOrderedWithReceipt => true
  | _ => false

end Reliability

structure SplitHeader where
  count : Nat
  id : UInt16
  index : Nat
  deriving DecidableEq

structure Frame where
  reliability : Reliability
  reliableIndex : Option ReliableSequence
  sequenceIndex : Option OrderSequence
  orderIndex : Option OrderSequence
  orderChannel : UInt8
  split : Option SplitHeader
  payload : Payload
  deriving DecidableEq

structure Datagram where
  sequence : DatagramSequence
  frames : List Frame

/-! ### The reader -/

/-- A read takes a value off the front of the unread bytes. -/
abbrev Read (α : Type) : Type := Payload → Except RakNetError (α × Payload)

def Read.bytes (len : Nat) : Read Payload := fun r =>
  if len ≤ r.length then .ok (r.take len, r.drop len) else .error (.wire "truncated raknet packet")

def Read.number (decode : Payload → Nat) (len : Nat) : Read Nat := fun r =>
  match Read.bytes len r with
  | .ok (bs, r) => .ok (decode bs, r)
  | .error e => .error e

def Read.u8 : Read UInt8 := fun r =>
  match Read.number leValue 1 r with
  | .ok (v, r) => .ok (UInt8.ofNat v, r)
  | .error e => .error e

def Read.u16be : Read Nat := Read.number beValue 2
def Read.u24le : Read Nat := Read.number leValue 3
def Read.u32be : Read Nat := Read.number beValue 4
def Read.u64be : Read Nat := Read.number beValue 8

def Read.sequence : Read Sequence24 := fun r =>
  match Read.u24le r with
  | .ok (v, r) => .ok (Sequence24.new v, r)
  | .error e => .error e

/-- A field that is present only under a condition. -/
def Read.optional {α : Type} (present : Bool) (read : Read α) : Read (Option α) := fun r =>
  if present then
    match read r with
    | .ok (v, r) => .ok (some v, r)
    | .error e => .error e
  else .ok (none, r)

def Read.ordered : Read (OrderSequence × UInt8) := fun r => do
  let (index, r) ← Read.sequence r
  let (channel, r) ← Read.u8 r
  pure ((index, channel), r)

def Read.split : Read SplitHeader := fun r => do
  let (count, r) ← Read.u32be r
  let (id, r) ← Read.u16be r
  let (index, r) ← Read.u32be r
  pure (⟨count, UInt16.ofNat id, index⟩, r)

/-! ### Datagrams -/

/-- The two hexadecimal digits of a byte, as `{:02x}` prints them. -/
def hexByte (b : UInt8) : String :=
  String.ofList [Nat.digitChar (b.toNat / 16), Nat.digitChar (b.toNat % 16)]

/-- One turn of the loop of `decode_datagram`. -/
def decodeFrame (budgets : RakNetBudgets) : Read Frame := fun r => do
  let (flags, r) ← Read.u8 r
  let reliability ← Reliability.fromTag (flags >>> 5)
  let (bitLen, r) ← Read.u16be r
  let byteLen := (bitLen + 7) / 8
  ensureBudget "frame payload bytes" byteLen budgets.maxPayloadBytes
  let (reliableIndex, r) ← Read.optional reliability.isReliable Read.sequence r
  let (sequenceIndex, r) ← Read.optional reliability.isSequenced Read.sequence r
  let (order, r) ← Read.optional reliability.isOrdered Read.ordered r
  let (split, r) ← Read.optional (flags &&& 0x10 != 0) Read.split r
  let (payload, r) ← Read.bytes byteLen r
  pure (⟨reliability, reliableIndex, sequenceIndex, order.map Prod.fst,
    (order.map Prod.snd).getD 0, split, payload⟩, r)

/-- The loop of `decode_datagram`.  Every turn consumes at least the three bytes of a frame
    header, so the number of unread bytes bounds the number of turns. -/
def decodeFrames (budgets : RakNetBudgets) : Nat → Payload → Except RakNetError (List Frame)
  | _, [] => .ok []
  | 0, _ => .ok []
  | turns + 1, r => do
    let (frame, r) ← decodeFrame budgets r
    let rest ← decodeFrames budgets turns r
    pure (frame :: rest)

@[simp] theorem decodeFrames_nil (budgets : RakNetBudgets) (turns : Nat) :
    decodeFrames budgets turns [] = .ok [] := by
  cases turns <;> rfl

def decodeDatagram (bytes : Payload) (budgets : RakNetBudgets) : Except RakNetError Datagram := do
  ensureBudget "datagram bytes" bytes.length budgets.maxDatagramBytes
  let (flags, r) ← Read.u8 bytes
  if flags &&& 0x80 == 0 || flags &&& 0x60 != 0 then
    .error (.wire s!"invalid datagram flags 0x{hexByte flags}")
  else do
    let (sequence, r) ← Read.sequence r
    let frames ← decodeFrames budgets r.length r
    pure ⟨sequence, frames⟩

def writeU24le (s : Sequence24) : Payload := leBytes 3 s.val

/-- The part of `encode_datagram` that writes the frame. -/
def encodeFrame (frame : Frame) : Payload :=
  let splitFlag : UInt8 := if frame.split.isSome then 0x10 else 0
  let bitLen := min (frame.payload.length * 8) (2 ^ 16 - 1)
  [(frame.reliability.tag <<< 5) ||| splitFlag] ++ beBytes 2 bitLen ++
    (frame.reliableIndex.elim [] writeU24le) ++
    (frame.sequenceIndex.elim [] writeU24le) ++
    (frame.orderIndex.elim [] fun index => writeU24le index ++ [frame.orderChannel]) ++
    (frame.split.elim [] fun split =>
      beBytes 4 split.count ++ beBytes 2 split.id.toNat ++ beBytes 4 split.index) ++
    frame.payload

def encodeDatagram (sequence : DatagramSequence) (frame : Frame) : Payload :=
  [0x84] ++ writeU24le sequence ++ encodeFrame frame

/-! ### Reading back an encoded datagram -/

theorem Read.bytes_append (bs r : Payload) : Read.bytes bs.length (bs ++ r) = .ok (bs, r) := by
  simp [Read.bytes]

theorem Read.number_append (decode : Payload → Nat) (len : Nat) (bs r : Payload)
    (h : bs.length = len) : Read.number decode len (bs ++ r) = .ok (decode bs, r) := by
  subst h
  simp only [Read.number, Read.bytes_append]

@[simp] theorem Read.u8_cons (b : UInt8) (r : Payload) : Read.u8 (b :: r) = .ok (b, r) := by
  have h := Read.number_append leValue 1 [b] r rfl
  rw [List.singleton_append] at h
  simp [Read.u8, h, leValue]

@[simp] theorem Read.sequence_append (s : Sequence24) (r : Payload) :
    Read.sequence (writeU24le s ++ r) = .ok (s, r) := by
  have hlt : s.val < 256 ^ 3 := Nat.lt_of_lt_of_eq s.isLt (by decide)
  have hnew : Sequence24.new s.val = s := Fin.ext (Nat.mod_eq_of_lt s.isLt)
  simp only [Read.sequence, Read.u24le, writeU24le,
    Read.number_append leValue 3 (leBytes 3 s.val) r (length_leBytes 3 _), leValue_leBytes 3 _ hlt,
    hnew]

theorem Read.u16be_append {n : Nat} (h : n < 2 ^ 16) (r : Payload) :
    Read.u16be (beBytes 2 n ++ r) = .ok (n, r) := by
  rw [Read.u16be, Read.number_append beValue 2 _ r (length_beBytes 2 n),
    beValue_beBytes 2 n (by omega)]

theorem Read.u32be_append {n : Nat} (h : n < 2 ^ 32) (r : Payload) :
    Read.u32be (beBytes 4 n ++ r) = .ok (n, r) := by
  rw [Read.u32be, Read.number_append beValue 4 _ r (length_beBytes 4 n),
    beValue_beBytes 4 n (by omega)]

theorem Read.split_append {split : SplitHeader} (hc : split.count < 2 ^ 32)
    (hi : split.index < 2 ^ 32) (r : Payload) :
    Read.split (beBytes 4 split.count ++ beBytes 2 split.id.toNat ++ beBytes 4 split.index ++ r) =
      .ok (split, r) := by
  have hid : split.id.toNat < 2 ^ 16 := split.id.toNat_lt
  simp only [Read.split, List.append_assoc, Read.u32be_append hc, Read.u16be_append hid,
    Read.u32be_append hi, bind, Except.bind, pure, Except.pure, UInt16.ofNat_toNat]

/-- The optional parts of a frame are those its reliability asks for. -/
structure Frame.Matches (frame : Frame) : Prop where
  reliable : frame.reliableIndex.isSome = frame.reliability.isReliable
  sequenced : frame.sequenceIndex.isSome = frame.reliability.isSequenced
  ordered : frame.orderIndex.isSome = frame.reliability.isOrdered

/-- What the wire keeps of a frame: the channel is written with the order index only. -/
def Frame.onWire (frame : Frame) : Frame :=
  { frame with orderChannel := (frame.orderIndex.map fun _ => frame.orderChannel).getD 0 }

/-- The longest payload whose length in bits, cut to 16 bits, is rounded up to itself. -/
def maxFramePayload : Nat := 8192

theorem Read.optional_sequence {present : Bool} {index : Option Sequence24}
    (h : index.isSome = present) (r : Payload) :
    Read.optional present Read.sequence (index.elim [] writeU24le ++ r) = .ok (index, r) := by
  subst h
  cases index <;> simp [Read.optional]

theorem Read.optional_ordered {present : Bool} {index : Option OrderSequence} (channel : UInt8)
    (h : index.isSome = present) (r : Payload) :
    Read.optional present Read.ordered
        ((index.elim [] fun index => writeU24le index ++ [channel]) ++ r) =
      .ok (index.map fun index => (index, channel), r) := by
  subst h
  cases index <;>
    simp [Read.optional, Read.ordered, bind, Except.bind, pure, Except.pure]

theorem Read.optional_split {split : Option SplitHeader}
    (h : ∀ header ∈ split, header.count < 2 ^ 32 ∧ header.index < 2 ^ 32) (r : Payload) :
    Read.optional split.isSome Read.split
        ((split.elim [] fun split =>
          beBytes 4 split.count ++ beBytes 2 split.id.toNat ++ beBytes 4 split.index) ++ r) =
      .ok (split, r) := by
  cases split with
  | none => simp [Read.optional]
  | some header =>
    obtain ⟨hcount, hindex⟩ := h header rfl
    simp only [Read.optional, Option.isSome_some, if_true, Option.elim,
      Read.split_append hcount hindex]

theorem frameFlags (reliability : Reliability) (split : Bool) :
    Reliability.fromTag (((reliability.tag <<< 5) ||| if split then 0x10 else 0) >>> 5) =
        .ok reliability ∧
      (((reliability.tag <<< 5) ||| if split then 0x10 else 0) &&& 0x10 != 0) = split := by
  cases reliability <;> cases split <;> decide

variable {frame : Frame} {r : Payload} {budgets : RakNetBudgets}

theorem decodeFrame_encodeFrame (budgets : RakNetBudgets) (hmatch : frame.Matches)
    (hbits : frame.payload.length ≤ maxFramePayload)
    (hsplit : ∀ header ∈ frame.split, header.count < 2 ^ 32 ∧ header.index < 2 ^ 32) :
    decodeFrame budgets (encodeFrame frame) =
      (ensureBudget "frame payload bytes" frame.payload.length budgets.maxPayloadBytes).map
        fun _ => (frame.onWire, []) := by
  rw [maxFramePayload] at hbits
  have hlen : (min (frame.payload.length * 8) (2 ^ 16 - 1) + 7) / 8 = frame.payload.length := by
    omega
  have hcut : min (frame.payload.length * 8) (2 ^ 16 - 1) < 2 ^ 16 := by omega
  have hbody : Read.bytes frame.payload.length frame.payload = .ok (frame.payload, []) := by
    simpa using Read.bytes_append frame.payload []
  obtain ⟨htag, hflag⟩ := frameFlags frame.reliability frame.split.isSome
  have hchannel : (frame.orderIndex.map fun index => (index, frame.orderChannel)).map Prod.fst =
      frame.orderIndex ∧ (frame.orderIndex.map fun index => (index, frame.orderChannel)).map
        Prod.snd = frame.orderIndex.map fun _ => frame.orderChannel := by
    cases frame.orderIndex <;> simp
  simp only [decodeFrame, encodeFrame, List.append_assoc, List.cons_append, List.nil_append,
    Read.u8_cons, htag, hflag, Read.u16be_append hcut, hlen,
    Read.optional_sequence hmatch.reliable, Read.optional_sequence hmatch.sequenced,
    Read.optional_ordered frame.orderChannel hmatch.ordered, bind, Except.bind]
  cases ensureBudget "frame payload bytes" frame.payload.length budgets.maxPayloadBytes with
  | error e => rfl
  | ok u =>
    have hread := Read.optional_split hsplit frame.payload
    simp only [List.append_assoc] at hread
    simp only [hread, hbody, hchannel, Except.map, pure, Except.pure, Frame.onWire]

theorem decodeDatagram_encodeDatagram_eq (budgets : RakNetBudgets) (sequence : DatagramSequence)
    (hmatch : frame.Matches) (hbits : frame.payload.length ≤ maxFramePayload)
    (hsplit : ∀ header ∈ frame.split, header.count < 2 ^ 32 ∧ header.index < 2 ^ 32) :
    decodeDatagram (encodeDatagram sequence frame) budgets =
      (ensureBudget "datagram bytes" (encodeDatagram sequence frame).length
        budgets.maxDatagramBytes).bind fun _ =>
      (ensureBudget "frame payload bytes" frame.payload.length budgets.maxPayloadBytes).map
        fun _ => ⟨sequence, [frame.onWire]⟩ := by
  have hne : encodeFrame frame ≠ [] := by simp [encodeFrame]
  have hflags : ((0x84 : UInt8) &&& 0x80 == 0 || (0x84 : UInt8) &&& 0x60 != 0) = false := by decide
  have hdecode := decodeFrame_encodeFrame budgets hmatch hbits hsplit
  have hframes : decodeFrames budgets (encodeFrame frame).length (encodeFrame frame) =
      (ensureBudget "frame payload bytes" frame.payload.length budgets.maxPayloadBytes).map
        fun _ => [frame.onWire] := by
    generalize encodeFrame frame = r at hne hdecode
    match r, hne with
    | b :: rest, _ =>
      simp only [List.length_cons, decodeFrames, hdecode]
      cases ensureBudget "frame payload bytes" frame.payload.length budgets.maxPayloadBytes with
      | error e => rfl
      | ok u => simp [Except.map, bind, Except.bind, pure, Except.pure]
  have hbytes : encodeDatagram sequence frame =
      0x84 :: (writeU24le sequence ++ encodeFrame frame) := by
    simp [encodeDatagram]
  unfold decodeDatagram
  cases ensureBudget "datagram bytes" (encodeDatagram sequence frame).length
    budgets.maxDatagramBytes with
  | error e => rfl
  | ok u =>
    simp only [hbytes, bind, Except.bind, Read.u8_cons, Read.sequence_append, hflags,
      Bool.false_eq_true, if_false, hframes]
    cases ensureBudget "frame payload bytes" frame.payload.length budgets.maxPayloadBytes <;> rfl

/-- A frame of `send_reliable_ordered`. -/
def orderedFrame (reliable : ReliableSequence) (order : OrderSequence)
    (split : Option SplitHeader) (payload : Payload) : Frame where
  reliability := .reliableOrdered
  reliableIndex := some reliable
  sequenceIndex := none
  orderIndex := some order
  orderChannel := 0
  split := split
  payload := payload

structure FitsWire (split : Option SplitHeader) (payload : Payload) : Prop where
  payload_bits : payload.length * 8 < 2 ^ 16
  split_fits : ∀ header ∈ split, header.count < 2 ^ 32 ∧ header.index < 2 ^ 32

theorem orderedFrame_matches (reliable : ReliableSequence) (order : OrderSequence)
    (split : Option SplitHeader) (payload : Payload) :
    (orderedFrame reliable order split payload).Matches := ⟨rfl, rfl, rfl⟩

/-- **Round trip.**  A datagram of the peer's encoder is decoded to its frame, unless it
    exceeds the receiver's datagram or payload budget. -/
theorem decodeDatagram_encodeDatagram (budgets : RakNetBudgets) (sequence : DatagramSequence)
    (reliable : ReliableSequence) (order : OrderSequence) {split : Option SplitHeader}
    {payload : Payload} (hfit : FitsWire split payload) :
    decodeDatagram (encodeDatagram sequence (orderedFrame reliable order split payload)) budgets =
        .ok ⟨sequence, [orderedFrame reliable order split payload]⟩ ∨
      ∃ resource requested limit,
        decodeDatagram (encodeDatagram sequence (orderedFrame reliable order split payload))
          budgets = .error (.budget resource requested limit) := by
  have hbits : (orderedFrame reliable order split payload).payload.length ≤ maxFramePayload := by
    have := hfit.payload_bits
    simp only [orderedFrame, maxFramePayload]
    omega
  rw [decodeDatagram_encodeDatagram_eq budgets sequence (orderedFrame_matches _ _ _ _) hbits
    hfit.split_fits]
  unfold ensureBudget
  split
  · exact .inr ⟨_, _, _, rfl⟩
  · split
    · exact .inr ⟨_, _, _, rfl⟩
    · exact .inl rfl

/-! ### Decoded payloads are within the payload budget -/

theorem except_bind_ok {α β : Type} {x : Except RakNetError α} {f : α → Except RakNetError β} {r : β}
    (h : x >>= f = .ok r) : ∃ a, x = .ok a ∧ f a = .ok r := by
  cases x with
  | error e => cases h
  | ok a => exact ⟨a, rfl, h⟩

theorem Read.length_bytes {len : Nat} {rest bs : Payload} (h : Read.bytes len r = .ok (bs, rest)) :
    bs.length = len := by
  unfold Read.bytes at h
  split at h
  · cases h
    simpa using ‹len ≤ r.length›
  · cases h

theorem decodeFrame_payload_le {rest : Payload} (h : decodeFrame budgets r = .ok (frame, rest)) :
    frame.payload.length ≤ budgets.maxPayloadBytes := by
  unfold decodeFrame at h
  obtain ⟨flags, -, h⟩ := except_bind_ok h
  obtain ⟨reliability, -, h⟩ := except_bind_ok h
  obtain ⟨bitLen, -, h⟩ := except_bind_ok h
  obtain ⟨_, hbudget, h⟩ := except_bind_ok h
  obtain ⟨reliable, -, h⟩ := except_bind_ok h
  obtain ⟨sequence, -, h⟩ := except_bind_ok h
  obtain ⟨order, -, h⟩ := except_bind_ok h
  obtain ⟨split, -, h⟩ := except_bind_ok h
  obtain ⟨⟨payload, rest'⟩, hbytes, h⟩ := except_bind_ok h
  cases h
  rw [Read.length_bytes hbytes]
  exact le_of_ensureBudget hbudget

theorem decodeFrames_forall {P : Frame → Prop} {turns : Nat} {frames : List Frame}
    (hframe : ∀ {r frame rest}, decodeFrame budgets r = .ok (frame, rest) → P frame)
    (h : decodeFrames budgets turns r = .ok frames) : ∀ frame ∈ frames, P frame := by
  induction turns generalizing r frames with
  | zero =>
    cases r <;> cases h <;> exact fun _ hf => by cases hf
  | succ turns ih =>
    cases r with
    | nil =>
      cases h
      exact fun _ hf => by cases hf
    | cons byte r =>
      simp only [decodeFrames] at h
      obtain ⟨⟨frame, rest⟩, hfirst, h⟩ := except_bind_ok h
      obtain ⟨more, hmore, h⟩ := except_bind_ok h
      cases h
      intro f hf
      rcases List.mem_cons.mp hf with rfl | hf
      · exact hframe hfirst
      · exact ih hmore f hf

theorem decodeDatagram_forall {P : Frame → Prop} {bytes : Payload} {datagram : Datagram}
    (hframe : ∀ {r frame rest}, decodeFrame budgets r = .ok (frame, rest) → P frame)
    (h : decodeDatagram bytes budgets = .ok datagram) : ∀ frame ∈ datagram.frames, P frame := by
  unfold decodeDatagram at h
  obtain ⟨_, -, h⟩ := except_bind_ok h
  obtain ⟨⟨flags, r⟩, -, h⟩ := except_bind_ok h
  dsimp only at h
  split at h
  · cases h
  · obtain ⟨⟨sequence, r'⟩, -, h⟩ := except_bind_ok h
    obtain ⟨frames, hframes, h⟩ := except_bind_ok h
    cases h
    exact decodeFrames_forall hframe hframes

theorem decodeDatagram_payload_le {bytes : Payload} {datagram : Datagram}
    (h : decodeDatagram bytes budgets = .ok datagram) :
    ∀ frame ∈ datagram.frames, frame.payload.length ≤ budgets.maxPayloadBytes :=
  decodeDatagram_forall decodeFrame_payload_le h

/-! ### Acknowledgements -/

abbrev SequenceRange : Type := DatagramSequence × DatagramSequence

inductive Acknowledgement where
  | ack (ranges : List SequenceRange)
  | nack (ranges : List SequenceRange)
  deriving DecidableEq

def decodeRange : Read SequenceRange := fun r => do
  let (single, r) ← Read.u8 r
  let (start, r) ← Read.sequence r
  if single != 0 then pure ((start, start), r)
  else do
    let (stop, r) ← Read.sequence r
    pure ((start, stop), r)

def decodeRanges : Nat → Payload → Except RakNetError (List SequenceRange)
  | 0, _ => .ok []
  | count + 1, r => do
    let (range, r) ← decodeRange r
    let rest ← decodeRanges count r
    pure (range :: rest)

def decodeAcknowledgement (bytes : Payload) : Except RakNetError (Option Acknowledgement) :=
  match bytes with
  | [] => .ok none
  | id :: r =>
    if id ≠ 0xa0 ∧ id ≠ 0xc0 then .ok none
    else do
      let (count, r) ← Read.u16be r
      let ranges ← decodeRanges count r
      pure (some (if id = 0xc0 then .ack ranges else .nack ranges))

def encodeAckRange (id : UInt8) (start stop : DatagramSequence) : Payload :=
  [id] ++ beBytes 2 1 ++ [if start = stop then 1 else 0] ++ writeU24le start ++
    (if start ≠ stop then writeU24le stop else [])

def encodeAck (sequence : DatagramSequence) : Payload := encodeAckRange 0xc0 sequence sequence
def encodeNack (start stop : DatagramSequence) : Payload := encodeAckRange 0xa0 start stop

/-! ### Online messages -/

inductive SocketAddr where
  | v4 (octets : Vector UInt8 4) (port : UInt16)
  | v6 (octets : Vector UInt8 16) (port : UInt16) (flowinfo scopeId : UInt32)
  deriving DecidableEq

def writeAddress : SocketAddr → Payload
  | .v4 octets port => [4] ++ octets.toList.map (~~~ ·) ++ beBytes 2 port.toNat
  | .v6 octets port flowinfo scopeId =>
    [6] ++ leBytes 2 23 ++ beBytes 2 port.toNat ++ beBytes 4 flowinfo.toNat ++ octets.toList ++
      beBytes 4 scopeId.toNat

/-- `0.0.0.0:0`. -/
def unspecifiedAddress : SocketAddr := .v4 #v[0, 0, 0, 0] 0

def encodeConnectionAccept (clientAddr : SocketAddr) (requestTime timestamp : Nat) : Payload :=
  [0x10] ++ writeAddress clientAddr ++ beBytes 2 0 ++
    (List.replicate 10 (writeAddress unspecifiedAddress)).flatten ++
    beBytes 8 requestTime ++ beBytes 8 timestamp

def encodeConnectedPong (pingTime pongTime : Nat) : Payload :=
  [0x03] ++ beBytes 8 pingTime ++ beBytes 8 pongTime

/-- `decode_connection_request`; the 64-bit times are kept as their wire patterns. -/
def decodeConnectionRequest (payload : Payload) : Except RakNetError (Option Nat) :=
  match payload with
  | 0x09 :: r => do
    let (_, r) ← Read.u64be r
    let (requestTime, r) ← Read.u64be r
    let _ ← Read.u8 r
    pure (some requestTime)
  | _ => .ok none

def decodeConnectedPing (payload : Payload) : Except RakNetError (Option Nat) :=
  match payload with
  | 0x00 :: r => do
    let (pingTime, _) ← Read.u64be r
    pure (some pingTime)
  | _ => .ok none

end RevyCraft.RakNet
