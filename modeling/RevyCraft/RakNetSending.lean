/-
  RevyCraft/RakNetSending.lean
  ============================
  **What a sending peer puts on the wire.**

  A sender that is handed payloads `p₀, p₁, …` emits one datagram for each
  fragment.  `entries` lists these fragments in order, so that datagram
  number `m` carries entry `m` under sequence and reliable index `m` and
  under the order index of its payload.  `senderRun_sent` says that a run of
  sends, acknowledgements and timer events emits exactly the datagrams of
  its payloads: every byte string handed to the socket is one of them, first
  transmissions and retransmissions alike, and each of them was handed to it.
-/
import RevyCraft.RakNetPeer

namespace RevyCraft.RakNet

open Std Act

/-! ### Fragments of a payload -/

variable {payload : Payload} {s s' : Peer} {u : Unit} {capacity : Nat}

section Chunks

variable {capacity : Nat}

theorem chunkCount_nil : chunkCount capacity [] = 0 := by
  unfold chunkCount
  rcases Nat.eq_zero_or_pos capacity with rfl | h
  · rfl
  · exact Nat.div_eq_of_lt (by simp; omega)

theorem chunkCount_step (hc : 0 < capacity) (hp : payload ≠ []) :
    chunkCount capacity payload = chunkCount capacity (payload.drop capacity) + 1 := by
  have hlen : 0 < payload.length := List.length_pos_iff.mpr hp
  unfold chunkCount
  rw [List.length_drop]
  rcases Nat.lt_or_ge capacity payload.length with h | h
  · rw [show payload.length + (capacity - 1) =
      (payload.length - capacity + (capacity - 1)) + capacity by omega, Nat.add_div_right _ hc]
  · rw [Nat.sub_eq_zero_of_le h, Nat.zero_add, Nat.div_eq_of_lt (show capacity - 1 < capacity by omega),
      show payload.length + (capacity - 1) = (payload.length - 1) + capacity by omega,
      Nat.add_div_right _ hc, Nat.div_eq_of_lt (by omega)]

theorem chunks_step (hc : 0 < capacity) (hp : payload ≠ []) :
    chunks capacity payload = payload.take capacity :: chunks capacity (payload.drop capacity) := by
  unfold chunks
  rw [chunkCount_step hc hp, List.range_succ_eq_map, List.map_cons, List.map_map]
  congr 1
  · simp
  · refine List.map_congr_left fun i _ => ?_
    simp only [Function.comp_apply, List.drop_drop]
    congr 2
    rw [Nat.succ_mul, Nat.add_comm]

theorem chunks_nil : chunks capacity [] = [] := by
  simp [chunks, chunkCount_nil]

@[simp] theorem length_chunks (payload : Payload) :
    (chunks capacity payload).length = chunkCount capacity payload := by
  simp [chunks]

theorem flatten_chunks (hc : 0 < capacity) (payload : Payload) :
    (chunks capacity payload).flatten = payload := by
  induction h : payload.length using Nat.strong_induction_on generalizing payload with
  | _ n ih =>
    by_cases hp : payload = []
    · rw [hp, chunks_nil]
      rfl
    · have hlen : 0 < payload.length := List.length_pos_iff.mpr hp
      rw [chunks_step hc hp, List.flatten_cons,
        ih (payload.drop capacity).length (by rw [List.length_drop]; omega) _ rfl,
        List.take_append_drop]

theorem length_le_of_mem_chunks {chunk : Payload} (h : chunk ∈ chunks capacity payload) :
    chunk.length ≤ capacity := by
  obtain ⟨i, -, rfl⟩ := List.mem_map.mp h
  exact Nat.le_trans (List.length_take_le _ _) (Nat.le_refl _)

theorem chunkCount_pos (hc : 0 < capacity) (hp : payload ≠ []) :
    0 < chunkCount capacity payload := by
  rw [chunkCount_step hc hp]
  exact Nat.succ_pos _

end Chunks

/-! ### The datagrams of a run -/

/-- One fragment of the run: the index of its payload, its split header and its bytes. -/
structure Entry where
  order : Nat
  split : Option SplitHeader
  chunk : Payload

/-- The split header of fragment `index` of payload number `order`. -/
def splitHeader (capacity order : Nat) (payload : Payload) (index : Nat) : Option SplitHeader :=
  if chunkCount capacity payload > 1 then
    some ⟨chunkCount capacity payload, UInt16.ofNat order, index⟩
  else none

/-- The fragments of payload number `order`. -/
def fragments (capacity order : Nat) (payload : Payload) : List Entry :=
  if payload.isEmpty then [⟨order, none, payload⟩]
  else (chunks capacity payload).zipIdx.map fun (chunk, index) =>
    ⟨order, splitHeader capacity order payload index, chunk⟩

/-- The fragments of all payloads, numbered from `order`. -/
def entriesFrom (capacity : Nat) : Nat → List Payload → List Entry
  | _, [] => []
  | order, payload :: rest => fragments capacity order payload ++ entriesFrom capacity (order + 1) rest

def entries (capacity : Nat) (payloads : List Payload) : List Entry :=
  entriesFrom capacity 0 payloads

/-- Datagram number `m` of the run. -/
def datagramBytes (m : Nat) (e : Entry) : Payload :=
  encodeDatagram (Sequence24.new m)
    (orderedFrame (Sequence24.new m) (Sequence24.new e.order) e.split e.chunk)

/-- The bytes are those of a datagram of the run. -/
def IsDatagram (es : List Entry) (bytes : Payload) : Prop :=
  ∃ m e, es[m]? = some e ∧ bytes = datagramBytes m e

theorem IsDatagram.append {es : List Entry} {bytes : Payload} (h : IsDatagram es bytes)
    (more : List Entry) : IsDatagram (es ++ more) bytes := by
  obtain ⟨m, e, he, hb⟩ := h
  refine ⟨m, e, ?_, hb⟩
  rw [List.getElem?_append_left (List.getElem?_eq_some_iff.mp he).1, he]

theorem entriesFrom_append (capacity order : Nat) (ps : List Payload) (p : Payload) :
    entriesFrom capacity order (ps ++ [p]) =
      entriesFrom capacity order ps ++ fragments capacity (order + ps.length) p := by
  induction ps generalizing order with
  | nil => simp [entriesFrom]
  | cons q rest ih =>
    simp only [List.cons_append, entriesFrom, ih, List.append_assoc, List.length_cons]
    rw [show order + 1 + rest.length = order + (rest.length + 1) by omega]

theorem entries_append (capacity : Nat) (ps : List Payload) (p : Payload) :
    entries capacity (ps ++ [p]) = entries capacity ps ++ fragments capacity ps.length p := by
  simp [entries, entriesFrom_append]

/-! ### The sender emits exactly these datagrams -/

section Sender

variable (host : Host)

/-- The sender has emitted the entries `es`: its counters stand after them, everything it put on
    the wire or keeps for retransmission is one of their datagrams, and each was put there. -/
structure Emits (es : List Entry) (s : Peer) : Prop where
  datagram : s.nextDatagram = Sequence24.new es.length
  reliable : s.nextReliable = Sequence24.new es.length
  sent_sound : ∀ bytes ∈ s.sent, IsDatagram es bytes
  sent_all : ∀ m e, es[m]? = some e → datagramBytes m e ∈ s.sent
  unacked : ∀ (k : DatagramSequence) (d : UnackedDatagram), s.unacked[k]? = some d →
    IsDatagram es d.bytes

theorem sendTo_eq_ok {bytes : Payload} (h : sendTo host bytes s = (.ok u, s')) :
    s' = { s with reads := s.reads + 1, sent := s.sent ++ [bytes] } := by
  obtain ⟨answer, t, hconsult, h⟩ := bind_eq_ok h
  cases hconsult
  cases hanswer : host.sendTo s.reads with
  | error message =>
    rw [hanswer] at h
    cases h
  | ok v =>
    rw [hanswer] at h
    cases h
    rfl

theorem sendFrame_eq_ok {frame : Frame} (h : sendFrame host frame s = (.ok u, s')) :
    ∃ now, s' = { s with
      nextDatagram := Sequence24.next s.nextDatagram
      unacked := s.unacked.insert s.nextDatagram ⟨encodeDatagram s.nextDatagram frame, now, 1⟩
      reads := s.reads + 1 + 1
      sent := s.sent ++ [encodeDatagram s.nextDatagram frame] } := by
  obtain ⟨_, _, hget, h⟩ := bind_eq_ok h
  cases hget
  obtain ⟨_, _, hroom, h⟩ := bind_eq_ok h
  obtain ⟨-, rfl⟩ := lift_eq_ok hroom
  obtain ⟨_, _, hmodify, h⟩ := bind_eq_ok h
  cases hmodify
  obtain ⟨_, _, hbytes, h⟩ := bind_eq_ok h
  obtain ⟨-, rfl⟩ := lift_eq_ok hbytes
  obtain ⟨_, _, hsend, h⟩ := bind_eq_ok h
  rw [sendTo_eq_ok host hsend] at h
  obtain ⟨now, _, hclock, h⟩ := bind_eq_ok h
  cases hclock
  cases h
  exact ⟨_, rfl⟩

theorem sendFragment_emits {es : List Entry} {order : Nat} {split : Option SplitHeader}
    {chunk : Payload} (hs : Emits es s)
    (h : sendFragment host (Sequence24.new order) split chunk s = (.ok u, s')) :
    Emits (es ++ [⟨order, split, chunk⟩]) s' ∧ s'.mtu = s.mtu ∧ s'.nextOrdered = s.nextOrdered ∧
      s'.nextSplitId = s.nextSplitId := by
  obtain ⟨_, _, hget, h⟩ := bind_eq_ok h
  cases hget
  obtain ⟨_, _, hmodify, h⟩ := bind_eq_ok h
  cases hmodify
  obtain ⟨now, rfl⟩ := sendFrame_eq_ok host h
  have hlast : (es ++ [(⟨order, split, chunk⟩ : Entry)])[es.length]? = some ⟨order, split, chunk⟩ := by
    simp
  have hbytes : encodeDatagram s.nextDatagram
      (orderedFrame s.nextReliable (Sequence24.new order) split chunk) =
        datagramBytes es.length ⟨order, split, chunk⟩ := by
    rw [hs.datagram, hs.reliable]
    rfl
  refine ⟨⟨?_, ?_, ?_, ?_, ?_⟩, rfl, rfl, rfl⟩
  · simp [hs.datagram, Sequence24.next_new]
  · simp [hs.reliable, Sequence24.next_new]
  · intro bytes hmem
    rcases List.mem_append.mp hmem with hmem | hmem
    · exact (hs.sent_sound bytes hmem).append _
    · rw [List.mem_singleton.mp hmem]
      exact ⟨es.length, _, hlast, hbytes⟩
  · intro m e he
    rcases Nat.lt_or_ge m es.length with hm | hm
    · rw [List.getElem?_append_left hm] at he
      exact List.mem_append_left _ (hs.sent_all m e he)
    · rw [List.getElem?_append_right hm] at he
      obtain ⟨hzero, rfl⟩ : m - es.length = 0 ∧ e = ⟨order, split, chunk⟩ := by
        rcases hk : m - es.length with _ | k
        · rw [hk] at he
          exact ⟨rfl, (Option.some.inj he).symm⟩
        · rw [hk] at he
          cases he
      obtain rfl : m = es.length := by omega
      exact List.mem_append_right _ (List.mem_singleton.mpr hbytes.symm)
  · intro k d hk
    dsimp only at hk
    rw [BTreeMap.getElem?_insert_eq] at hk
    split at hk
    · cases hk
      exact ⟨es.length, _, hlast, hbytes⟩
    · exact (hs.unacked k d hk).append _

theorem sendFragments_emits {order : Nat} (split : Nat → Option SplitHeader)
    (pieces : List (Payload × Nat)) {es : List Entry} (hs : Emits es s)
    (h : forEach (fun (chunk, index) => sendFragment host (Sequence24.new order) (split index) chunk)
      pieces s = (.ok u, s')) :
    Emits (es ++ pieces.map fun (chunk, index) => ⟨order, split index, chunk⟩) s' ∧
      s'.mtu = s.mtu ∧ s'.nextOrdered = s.nextOrdered ∧ s'.nextSplitId = s.nextSplitId := by
  induction pieces generalizing es s with
  | nil =>
    cases h
    exact ⟨by simpa using hs, rfl, rfl, rfl⟩
  | cons piece rest ih =>
    obtain ⟨_, t, hfirst, hrest⟩ := bind_eq_ok h
    obtain ⟨ht, hmtu, hord, hsplit⟩ := sendFragment_emits host hs hfirst
    obtain ⟨hs', hmtu', hord', hsplit'⟩ := ih ht hrest
    refine ⟨by simpa [List.append_assoc] using hs', ?_, ?_, ?_⟩
    · rw [hmtu', hmtu]
    · rw [hord', hord]
    · rw [hsplit', hsplit]

/-- The sender after it sent `payloads` over an MTU with `capacity` bytes for each fragment. -/
structure Sent (capacity : Nat) (payloads : List Payload) (s : Peer) : Prop where
  emits : Emits (entries capacity payloads) s
  capacity_eq : s.mtu - DATAGRAM_HEADER_BUDGET = capacity
  ordered : s.nextOrdered = Sequence24.new payloads.length
  splitId : s.nextSplitId = UInt16.ofNat payloads.length
  counts : ∀ p ∈ payloads, chunkCount capacity p < 2 ^ 32

theorem sendReliableOrdered_sent {payloads : List Payload} (hs : Sent capacity payloads s)
    (h : sendReliableOrdered host payload s = (.ok u, s')) :
    Sent capacity (payloads ++ [payload]) s' := by
  obtain ⟨_, _, hget, h⟩ := bind_eq_ok h
  cases hget
  dsimp only at h
  rw [hs.capacity_eq, hs.ordered] at h
  split at h
  · cases h
  obtain ⟨_, _, hmodify, h⟩ := bind_eq_ok h
  cases hmodify
  split at h
  · cases h
  rename_i hcount
  obtain ⟨_, _, hmodify, h⟩ := bind_eq_ok h
  cases hmodify
  obtain ⟨_, t, hloop, h⟩ := bind_eq_ok h
  -- the counters moved; nothing that `Emits` speaks about did
  have hstart : Emits (entries capacity payloads) { s with
      nextOrdered := Sequence24.next (Sequence24.new payloads.length)
      nextSplitId := s.nextSplitId + 1 } :=
    ⟨hs.emits.datagram, hs.emits.reliable, hs.emits.sent_sound, hs.emits.sent_all,
      hs.emits.unacked⟩
  obtain ⟨ht, hmtu, hord, hsplit⟩ := sendFragments_emits host
    (fun index => if max (chunkCount capacity payload) 1 > 1 then
      some ⟨max (chunkCount capacity payload) 1, s.nextSplitId, index⟩ else none) _ hstart hloop
  have hcounts : ∀ p ∈ payloads ++ [payload], chunkCount capacity p < 2 ^ 32 := by
    intro p hp
    rcases List.mem_append.mp hp with hp | hp
    · exact hs.counts p hp
    · rw [List.mem_singleton.mp hp]
      omega
  have hheaders : ∀ index, (if max (chunkCount capacity payload) 1 > 1 then
      some (SplitHeader.mk (max (chunkCount capacity payload) 1) s.nextSplitId index) else none) =
        splitHeader capacity payloads.length payload index := by
    intro index
    rw [splitHeader, hs.splitId]
    by_cases hone : chunkCount capacity payload > 1
    · rw [if_pos hone, if_pos (by omega), Nat.max_eq_left (by omega)]
    · rw [if_neg hone, if_neg (by omega)]
  have hordered : Sequence24.next (Sequence24.new payloads.length) =
      Sequence24.new (payloads ++ [payload]).length := by
    rw [Sequence24.next_new, List.length_append, List.length_singleton]
  have hsplitId : s.nextSplitId + 1 = UInt16.ofNat (payloads ++ [payload]).length := by
    rw [hs.splitId, List.length_append, List.length_singleton, UInt16.ofNat_add]
    rfl
  by_cases hempty : payload = []
  · subst hempty
    have hnochunks : chunks capacity [] = [] := chunks_nil
    rw [hnochunks] at ht
    rw [if_pos (show ([] : Payload).isEmpty = true from rfl)] at h
    obtain ⟨hs', hmtu', hord', hsplit'⟩ := sendFragment_emits host ht h
    refine ⟨?_, ?_, ?_, ?_, hcounts⟩
    · rw [entries_append]
      simpa [fragments] using hs'
    · rw [hmtu', hmtu]
      exact hs.capacity_eq
    · rw [hord', hord]
      exact hordered
    · rw [hsplit', hsplit]
      exact hsplitId
  · have hne : payload.isEmpty = false := by simpa using hempty
    rw [hne] at h
    cases h
    simp only [hheaders] at ht
    refine ⟨?_, ?_, ?_, ?_, hcounts⟩
    · rw [entries_append, fragments, hne]
      exact ht
    · rw [hmtu]
      exact hs.capacity_eq
    · rw [hord]
      exact hordered
    · rw [hsplit]
      exact hsplitId

theorem retransmit_sent {payloads : List Payload} (sequence : DatagramSequence) :
    Spec (Sent capacity payloads) (retransmit host sequence) (fun _ => Sent capacity payloads)
      fun _ => True := by
  refine spec_get_bind fun s hs => ?_
  cases hd : s.unacked[sequence]? with
  | none => exact spec_pure (by rintro t rfl; exact hs)
  | some datagram =>
    dsimp only
    split
    · exact spec_throw fun _ _ => trivial
    have hemitted := hs.emits.unacked sequence datagram hd
    rintro t rfl
    rcases hrun : (sendTo host datagram.bytes >>= fun _ => _) t with ⟨r, s'⟩
    cases r with
    | error e => trivial
    | ok u =>
      obtain ⟨_, _, hsend, h⟩ := bind_eq_ok hrun
      rw [sendTo_eq_ok host hsend] at h
      obtain ⟨now, _, hclock, h⟩ := bind_eq_ok h
      cases hclock
      cases h
      refine ⟨⟨hs.emits.datagram, hs.emits.reliable, ?_, ?_, ?_⟩, hs.capacity_eq, hs.ordered,
        hs.splitId, hs.counts⟩
      · intro bytes hmem
        rcases List.mem_append.mp hmem with hmem | hmem
        · exact hs.emits.sent_sound bytes hmem
        · rw [List.mem_singleton.mp hmem]
          exact hemitted
      · intro m e he
        exact List.mem_append_left _ (hs.emits.sent_all m e he)
      · intro k d hk
        dsimp only at hk
        rw [BTreeMap.getElem?_insert_eq] at hk
        split at hk
        · cases hk
          exact hemitted
        · exact hs.emits.unacked k d hk

/-- What the sending actor does between its sends: it is acknowledged, and its timer fires. -/
inductive SenderEvent where
  | send (payload : Payload)
  | acknowledge (acknowledgement : Acknowledgement)
  | timer
  deriving DecidableEq

def SenderEvent.run : SenderEvent → PeerM Unit
  | .send payload => sendReliableOrdered host payload
  | .acknowledge acknowledgement => applyAcknowledgement host acknowledgement
  | .timer => onTimer host

/-- The payloads handed to `send_reliable_ordered`, in order. -/
def SenderEvent.payloads (events : List SenderEvent) : List Payload :=
  events.filterMap fun event =>
    match event with
    | .send payload => some payload
    | _ => none

theorem senderEvent_sent {payloads : List Payload} (event : SenderEvent)
    (hs : Sent capacity payloads s) (h : event.run host s = (.ok u, s')) :
    Sent capacity (payloads ++ SenderEvent.payloads [event]) s' := by
  cases event with
  | send payload => exact sendReliableOrdered_sent host hs h
  | acknowledge acknowledgement =>
    rw [show payloads ++ SenderEvent.payloads [.acknowledge acknowledgement] = payloads by
      simp [SenderEvent.payloads]]
    cases acknowledgement with
    | ack ranges =>
      cases h
      refine ⟨⟨hs.emits.datagram, hs.emits.reliable, hs.emits.sent_sound, hs.emits.sent_all, ?_⟩,
        hs.capacity_eq, hs.ordered, hs.splitId, hs.counts⟩
      intro k d hk
      dsimp only at hk
      rw [ExtTreeMap.getElem?_filter'] at hk
      exact hs.emits.unacked k d (Option.filter_eq_some_iff.mp hk).1
    | nack ranges =>
      obtain ⟨_, _, hget, h⟩ := bind_eq_ok h
      cases hget
      exact (spec_forEach fun sequence _ => retransmit_sent host sequence).ok hs h
  | timer =>
    rw [show payloads ++ SenderEvent.payloads [.timer] = payloads by simp [SenderEvent.payloads]]
    obtain ⟨now, _, hclock, h⟩ := bind_eq_ok h
    cases hclock
    obtain ⟨_, _, hget, h⟩ := bind_eq_ok h
    cases hget
    dsimp only at h
    split at h
    · cases h
    · have hs' : Sent capacity payloads { s with reads := s.reads + 1 } :=
        ⟨⟨hs.emits.datagram, hs.emits.reliable, hs.emits.sent_sound, hs.emits.sent_all,
          hs.emits.unacked⟩, hs.capacity_eq, hs.ordered, hs.splitId, hs.counts⟩
      exact (spec_forEach fun sequence _ => retransmit_sent host sequence).ok hs' h

def senderRun (events : List SenderEvent) : PeerM Unit := forEach (SenderEvent.run host) events

theorem senderRun_sent {payloads : List Payload} (events : List SenderEvent)
    (hs : Sent capacity payloads s) (h : senderRun host events s = (.ok u, s')) :
    Sent capacity (payloads ++ SenderEvent.payloads events) s' := by
  induction events generalizing s payloads with
  | nil =>
    cases h
    simpa [SenderEvent.payloads] using hs
  | cons event rest ih =>
    obtain ⟨_, t, hfirst, hrest⟩ := bind_eq_ok h
    have ht := ih (senderEvent_sent host event hs hfirst) hrest
    have happ : SenderEvent.payloads (event :: rest) =
        SenderEvent.payloads [event] ++ SenderEvent.payloads rest := by
      rw [SenderEvent.payloads, ← List.singleton_append, List.filterMap_append]
      rfl
    rw [happ, ← List.append_assoc]
    exact ht

theorem sent_new (remoteAddr : SocketAddr) (mtu : Nat) (budgets : RakNetBudgets) (now : Int) :
    Sent (mtu - DATAGRAM_HEADER_BUDGET) [] (Peer.new remoteAddr mtu budgets now) := by
  refine ⟨⟨rfl, rfl, ?_, ?_, ?_⟩, rfl, rfl, rfl, ?_⟩
  · intro bytes hmem
    cases hmem
  · intro m e he
    simp [entries, entriesFrom] at he
  · intro k d hk
    simp [Peer.new] at hk
  · intro p hp
    cases hp

end Sender

end RevyCraft.RakNet
