/-
  RevyCraft/RakNetEmissions.lean
  ==============================
  **What one send puts on the wire, and what the receiver makes of it.**

  `fragmentsOf` lists the frames of a payload with their sequences; a send hands a prefix
  of their datagrams to the socket (`sendReliableOrdered_emits`).  The length field of a
  frame holds 16 bits of a length in bits and is cut to them, so a frame is read back when
  its payload has at most `maxFramePayload` bytes and not otherwise:

  * `decodeDatagram_encodeDatagram_iff`: when a datagram of any frame is read back;
  * `emitted_decodes_iff`: when all datagrams of a send are, for an MTU of `clampMtu`;
  * `acknowledgements_are_exact`: which datagrams an answer settles or asks for again.
-/
import RevyCraft.RakNetSending

namespace RevyCraft.RakNet

open Std Act

/-! ### Reading back -/

theorem decodeFrame_payload_le_max {budgets : RakNetBudgets} {r rest : Payload} {frame : Frame}
    (h : decodeFrame budgets r = .ok (frame, rest)) :
    frame.payload.length ≤ maxFramePayload := by
  unfold decodeFrame at h
  obtain ⟨flags, -, h⟩ := except_bind_ok h
  obtain ⟨reliability, -, h⟩ := except_bind_ok h
  obtain ⟨⟨bitLen, r'⟩, hbits, h⟩ := except_bind_ok h
  obtain ⟨_, -, h⟩ := except_bind_ok h
  obtain ⟨reliable, -, h⟩ := except_bind_ok h
  obtain ⟨sequence, -, h⟩ := except_bind_ok h
  obtain ⟨order, -, h⟩ := except_bind_ok h
  obtain ⟨split, -, h⟩ := except_bind_ok h
  obtain ⟨⟨payload, rest'⟩, hbytes, h⟩ := except_bind_ok h
  cases h
  rw [Read.length_bytes hbytes, maxFramePayload]
  have hlt : bitLen < 2 ^ 16 := by
    unfold Read.u16be Read.number at hbits
    split at hbits
    next bs r'' hread =>
      cases hbits
      have hlen := Read.length_bytes hread
      have := Bytes.beValue_lt bs
      rw [hlen] at this
      omega
    next => cases hbits
  omega

theorem decodeDatagram_payload_le_max {budgets : RakNetBudgets} {bytes : Payload}
    {datagram : Datagram} (h : decodeDatagram bytes budgets = .ok datagram) :
    ∀ frame ∈ datagram.frames, frame.payload.length ≤ maxFramePayload :=
  decodeDatagram_forall decodeFrame_payload_le_max h

theorem Frame.onWire_eq_iff {frame : Frame} :
    frame.onWire = frame ↔ (frame.orderIndex = none → frame.orderChannel = 0) := by
  cases frame with
  | mk reliability reliable sequence order channel split payload =>
    cases order <;> simp [Frame.onWire, eq_comm]

theorem decodeDatagram_encodeDatagram_iff (budgets : RakNetBudgets)
    (sequence : DatagramSequence) {frame : Frame} (hmatch : frame.Matches)
    (hsplit : ∀ header ∈ frame.split, header.count < 2 ^ 32 ∧ header.index < 2 ^ 32) :
    decodeDatagram (encodeDatagram sequence frame) budgets = .ok ⟨sequence, [frame]⟩ ↔
      frame.payload.length ≤ maxFramePayload ∧
      (frame.orderIndex = none → frame.orderChannel = 0) ∧
      (encodeDatagram sequence frame).length ≤ budgets.maxDatagramBytes ∧
      frame.payload.length ≤ budgets.maxPayloadBytes := by
  by_cases hbits : frame.payload.length ≤ maxFramePayload
  · rw [decodeDatagram_encodeDatagram_eq budgets sequence hmatch hbits hsplit,
      ← Frame.onWire_eq_iff]
    unfold ensureBudget
    split
    case isTrue hlong => simp [Except.bind, Nat.not_le.2 hlong]
    case isFalse hshort =>
      split
      case isTrue hlong => simp [Except.bind, Except.map, Nat.not_le.2 hlong]
      case isFalse hfits =>
        simp [Except.bind, Except.map, hbits, Nat.le_of_not_lt hshort, Nat.le_of_not_lt hfits]
  · constructor
    · intro h
      exact absurd (decodeDatagram_payload_le_max h frame (by simp)) hbits
    · exact fun h => absurd h.1 hbits

/-! ### The frames of a payload -/

/-- The pieces of a payload: an empty payload is sent as one empty frame. -/
def pieces (capacity : Nat) (payload : Payload) : List Payload :=
  if payload.isEmpty then [payload] else chunks capacity payload

/-- The number of fragments a peer makes of a payload. -/
def fragmentCount (s : Peer) (payload : Payload) : Nat :=
  max (chunkCount (s.mtu - DATAGRAM_HEADER_BUDGET) payload) 1

/-- Piece number `index` with its sequence and in its frame. -/
def fragmentOf (s : Peer) (count index : Nat) (piece : Payload) : DatagramSequence × Frame :=
  (Sequence24.new (s.nextDatagram.val + index),
    orderedFrame (Sequence24.new (s.nextReliable.val + index)) s.nextOrdered
      (if count > 1 then some ⟨count, s.nextSplitId, index⟩ else none) piece)

/-- The frames a peer makes of a payload, each with the sequence of its datagram. -/
def fragmentsOf (s : Peer) (payload : Payload) : List (DatagramSequence × Frame) :=
  (pieces (s.mtu - DATAGRAM_HEADER_BUDGET) payload).mapIdx
    (fragmentOf s (fragmentCount s payload))

/-- The frames that a send hands to the socket, each in a datagram of its own. -/
def emitted (host : Host) (payload : Payload) (s : Peer) : List (DatagramSequence × Frame) :=
  (fragmentsOf s payload).take
    ((sendReliableOrdered host payload s).2.sent.length - s.sent.length)

/-- Nothing is sent at all: there are too many fragments to number, or no room to remember
a datagram until it is acknowledged. -/
def Refuses (s : Peer) (payload : Payload) : Prop :=
  2 ^ 32 ≤ fragmentCount s payload ∨ s.budgets.maxUnackedDatagrams ≤ s.unacked.size

/-! ### What is handed to the socket -/

section Sends

variable (host : Host)

/-- A peer that has sent the frames `done` since `s₀`. -/
structure Sending (s₀ : Peer) (done : List (DatagramSequence × Frame)) (s : Peer) : Prop where
  sent : s.sent = s₀.sent ++ done.map fun e => encodeDatagram e.1 e.2
  datagram : s.nextDatagram = Sequence24.new (s₀.nextDatagram.val + done.length)
  reliable : s.nextReliable = Sequence24.new (s₀.nextReliable.val + done.length)
  budgets : s.budgets = s₀.budgets
  small : ∀ e ∈ done, (encodeDatagram e.1 e.2).length ≤ s₀.budgets.maxDatagramBytes

/-- A peer whose send has failed after the frames `done`. -/
structure Stopped (s₀ : Peer) (done : List (DatagramSequence × Frame)) (s : Peer) : Prop where
  sent : s.sent = s₀.sent ++ done.map fun e => encodeDatagram e.1 e.2
  small : ∀ e ∈ done, (encodeDatagram e.1 e.2).length ≤ s₀.budgets.maxDatagramBytes

theorem Sending.stopped {s₀ s : Peer} {done : List (DatagramSequence × Frame)}
    (h : Sending s₀ done s) : Stopped s₀ done s := ⟨h.sent, h.small⟩

theorem sendTo_cases (bytes : Payload) (s : Peer) :
    (∃ message, sendTo host bytes s = (.error (.io message), { s with reads := s.reads + 1 })) ∨
      sendTo host bytes s = (.ok (), { s with reads := s.reads + 1, sent := s.sent ++ [bytes] }) := by
  rcases hanswer : host.sendTo s.reads with message | u
  · exact .inl ⟨message, by
      simp [sendTo, consult, bind_apply, Act.get, Act.modify, Act.throw, hanswer]⟩
  · exact .inr (by simp [sendTo, consult, bind_apply, Act.get, Act.modify, hanswer])

theorem sending_fragment {s₀ : Peer} {done : List (DatagramSequence × Frame)} (count : Nat)
    (piece : Payload) :
    Spec (Sending s₀ done)
      (sendFragment host s₀.nextOrdered
        (if count > 1 then some ⟨count, s₀.nextSplitId, done.length⟩ else none) piece)
      (fun _ => Sending s₀ (done ++ [fragmentOf s₀ count done.length piece]))
      (Stopped s₀ done) := by
  refine spec_get_bind fun s hs => ?_
  refine spec_bind (R := fun _ t => t = { s with nextReliable := Sequence24.next s.nextReliable })
    (spec_modify (by rintro t rfl; rfl)) fun _ => ?_
  refine spec_get_bind fun t ht => ?_
  subst ht
  refine spec_lift_bind (by rintro t rfl; exact ⟨hs.sent, hs.small⟩) fun _ _ => ?_
  refine spec_bind (R := fun _ t => t = { s with
      nextReliable := Sequence24.next s.nextReliable
      nextDatagram := Sequence24.next s.nextDatagram })
    (spec_modify (by rintro t rfl; rfl)) fun _ => ?_
  refine spec_lift_bind (by rintro t rfl; exact ⟨hs.sent, hs.small⟩) fun _ hbytes => ?_
  have hbytes := le_of_ensureBudget hbytes
  have hframe : fragmentOf s₀ count done.length piece =
      (s.nextDatagram, orderedFrame s.nextReliable s₀.nextOrdered
        (if count > 1 then some ⟨count, s₀.nextSplitId, done.length⟩ else none) piece) := by
    rw [hs.datagram, hs.reliable]
    rfl
  have hbudget : s.budgets = s₀.budgets := hs.budgets
  refine spec_bind (R := fun _ => Sending s₀ (done ++ [fragmentOf s₀ count done.length piece]))
    ?_ fun _ => ?_
  · rintro t rfl
    rcases sendTo_cases host _ _ with ⟨message, hsend⟩ | hsend
    · rw [hsend]
      exact ⟨hs.sent, hs.small⟩
    · rw [hsend, hframe]
      refine ⟨?_, ?_, ?_, hbudget, ?_⟩
      · simp [hs.sent]
      · simp [hs.datagram, Sequence24.next_new, Nat.add_assoc]
      · simp [hs.reliable, Sequence24.next_new, Nat.add_assoc]
      · intro e he
        rcases List.mem_append.1 he with he | he
        · exact hs.small e he
        · rw [List.mem_singleton.1 he, ← hbudget]
          exact hbytes
  · refine spec_bind (R := fun _ => Sending s₀ (done ++ [fragmentOf s₀ count done.length piece]))
      (fun t ht => ?_) fun _ => spec_modify fun t ht => ?_
    all_goals exact ⟨ht.sent, ht.datagram, ht.reliable, ht.budgets, ht.small⟩

theorem sending_pieces {s₀ : Peer} (count : Nat) (pieces : List Payload)
    (done : List (DatagramSequence × Frame)) :
    Spec (Sending s₀ done)
      (forEach (fun piece => sendFragment host s₀.nextOrdered
        (if count > 1 then some ⟨count, s₀.nextSplitId, piece.2⟩ else none) piece.1)
        (pieces.zipIdx done.length))
      (fun _ => Sending s₀ (done ++ pieces.mapIdx fun i => fragmentOf s₀ count (done.length + i)))
      (fun s => ∃ k, Stopped s₀
        (done ++ (pieces.mapIdx fun i => fragmentOf s₀ count (done.length + i)).take k) s) := by
  induction pieces generalizing done with
  | nil => exact spec_pure fun s hs => by simpa using hs
  | cons piece pieces ih =>
    have hfirst := @sending_fragment host s₀ done count piece
    have hrest := ih (done ++ [fragmentOf s₀ count done.length piece])
    have hlist : (piece :: pieces).mapIdx (fun i => fragmentOf s₀ count (done.length + i)) =
        fragmentOf s₀ count done.length piece :: pieces.mapIdx fun i =>
          fragmentOf s₀ count ((done ++ [fragmentOf s₀ count done.length piece]).length + i) := by
      simp only [List.mapIdx_cons, List.length_append, List.length_singleton, Nat.add_zero,
        Nat.add_assoc, Nat.add_comm 1]
    rw [hlist, List.zipIdx_cons]
    refine spec_bind (hfirst.mono (fun _ h => h) (fun _ _ h => h) fun s hs =>
      ⟨0, by simpa using hs⟩) fun _ => ?_
    rw [List.length_append, List.length_singleton] at hrest
    refine hrest.mono (fun _ h => h) (fun _ s hs => ?_) fun s hs => ?_
    · simpa using hs
    · obtain ⟨k, hs⟩ := hs
      exact ⟨k + 1, by simpa using hs⟩

theorem bind_pure_unit (x : PeerM Unit) (s : Peer) : (x >>= fun _ => pure ()) s = x s := by
  rw [bind_apply]
  rcases x s with ⟨_ | _, _⟩ <;> rfl

def sendPieces (host : Host) (s : Peer) (payload : Payload) : PeerM Unit :=
  forEach (fun piece => sendFragment host s.nextOrdered
    (if fragmentCount s payload > 1 then
      some ⟨fragmentCount s payload, s.nextSplitId, piece.2⟩ else none) piece.1)
    ((pieces (s.mtu - DATAGRAM_HEADER_BUDGET) payload).zipIdx 0)

/-- The peer when the loop starts. -/
def Peer.numbered (s : Peer) : Peer :=
  { s with nextOrdered := Sequence24.next s.nextOrdered, nextSplitId := s.nextSplitId + 1 }

theorem sendReliableOrdered_eq {s : Peer} {payload : Payload}
    (hcap : s.mtu - DATAGRAM_HEADER_BUDGET ≠ 0) (hcount : fragmentCount s payload < 2 ^ 32) :
    sendReliableOrdered host payload s = sendPieces host s payload s.numbered := by
  have hcount' : ¬ max (chunkCount (s.mtu - DATAGRAM_HEADER_BUDGET) payload) 1 ≥ 2 ^ 32 :=
    Nat.not_le.2 hcount
  simp only [sendReliableOrdered, bind_apply, Act.get, Act.modify, hcap, if_false, hcount',
    sendPieces, pieces]
  by_cases hempty : payload = []
  · subst hempty
    have hone : fragmentCount s [] = 1 := by simp [fragmentCount, chunkCount_nil]
    simp only [chunks_nil, hone, List.isEmpty_nil, if_true]
    exact (bind_pure_unit (sendFragment host s.nextOrdered none []) s.numbered).symm
  · have hne : payload.isEmpty = false := by simpa using hempty
    simp only [hne, Bool.false_eq_true, if_false]
    exact bind_pure_unit _ _

theorem sending_numbered (s : Peer) : Sending s [] s.numbered where
  sent := by simp [Peer.numbered]
  datagram := Fin.ext (Nat.mod_eq_of_lt s.nextDatagram.isLt).symm
  reliable := Fin.ext (Nat.mod_eq_of_lt s.nextReliable.isLt).symm
  budgets := rfl
  small := by simp

theorem stopped_pieces {s₀ s : Peer} {done : List (DatagramSequence × Frame)} (count : Nat)
    (pieces : List Payload) (hs : Sending s₀ done s) :
    ∃ k, Stopped s₀
      (done ++ (pieces.mapIdx fun i => fragmentOf s₀ count (done.length + i)).take k)
      (forEach (fun piece => sendFragment host s₀.nextOrdered
        (if count > 1 then some ⟨count, s₀.nextSplitId, piece.2⟩ else none) piece.1)
        (pieces.zipIdx done.length) s).2 := by
  have hloop := sending_pieces host count pieces done s hs
  generalize forEach (fun piece : Payload × Nat => sendFragment host s₀.nextOrdered
    (if count > 1 then some ⟨count, s₀.nextSplitId, piece.2⟩ else none) piece.1)
    (pieces.zipIdx done.length) s = run at hloop ⊢
  rcases run with ⟨e | u, s'⟩
  · exact hloop
  · refine ⟨pieces.length, ?_⟩
    rw [List.take_of_length_le (by simp)]
    exact Sending.stopped hloop

theorem stopped_sendPieces (s : Peer) (payload : Payload) :
    ∃ k, Stopped s ((fragmentsOf s payload).take k) (sendPieces host s payload s.numbered).2 := by
  have hloop := stopped_pieces host (fragmentCount s payload)
    (pieces (s.mtu - DATAGRAM_HEADER_BUDGET) payload) (sending_numbered s)
  simp only [List.length_nil, List.nil_append, Nat.zero_add] at hloop
  exact hloop

theorem pieces_ne_nil {capacity : Nat} (hcap : capacity ≠ 0) (payload : Payload) :
    pieces capacity payload ≠ [] := by
  unfold pieces
  split
  · simp
  · next hne =>
    intro hnil
    have hcount : (chunks capacity payload).length = chunkCount capacity payload :=
      length_chunks payload
    rw [hnil] at hcount
    have : 0 < chunkCount capacity payload :=
      chunkCount_pos (Nat.pos_of_ne_zero hcap) (by simpa using hne)
    simp at hcount
    omega

theorem sendFragment_refused {s : Peer} (hfull : s.budgets.maxUnackedDatagrams ≤ s.unacked.size)
    (order : OrderSequence) (split : Option SplitHeader) (piece : Payload) :
    ∃ e, sendFragment host order split piece s =
      (.error e, { s with nextReliable := Sequence24.next s.nextReliable }) := by
  have hbudget : ensureBudget "unacknowledged datagrams" (s.unacked.size + 1)
      s.budgets.maxUnackedDatagrams = .error (.budget "unacknowledged datagrams"
        (s.unacked.size + 1) s.budgets.maxUnackedDatagrams) := if_pos (by omega)
  exact ⟨.budget "unacknowledged datagrams" (s.unacked.size + 1) s.budgets.maxUnackedDatagrams,
    by simp [sendFragment, sendFrame, bind_apply, Act.get, Act.modify, Act.lift, hbudget]⟩

/-- A send puts the first frames of its payload on the wire: all of them, or those before
the one it failed at, and none when it refuses. -/
theorem sendReliableOrdered_emits (host : Host) (s : Peer) (payload : Payload) :
    ∃ k, Stopped s ((fragmentsOf s payload).take k) (sendReliableOrdered host payload s).2 ∧
      (Refuses s payload → k = 0) := by
  by_cases hcap : s.mtu - DATAGRAM_HEADER_BUDGET = 0
  · refine ⟨0, ⟨?_, by simp⟩, fun _ => rfl⟩
    simp [sendReliableOrdered, bind_apply, Act.get, Act.throw, hcap]
  by_cases hcount : 2 ^ 32 ≤ fragmentCount s payload
  · refine ⟨0, ⟨?_, by simp⟩, fun _ => rfl⟩
    have hcount' : max (chunkCount (s.mtu - DATAGRAM_HEADER_BUDGET) payload) 1 ≥ 2 ^ 32 := hcount
    simp only [sendReliableOrdered, bind_apply, Act.get, Act.modify, Act.throw, hcap, if_false,
      hcount', if_true, List.take_zero, List.map_nil, List.append_nil]
  rw [sendReliableOrdered_eq _ hcap (Nat.lt_of_not_le hcount)]
  by_cases hfull : s.budgets.maxUnackedDatagrams ≤ s.unacked.size
  · refine ⟨0, ⟨?_, by simp⟩, fun _ => rfl⟩
    obtain ⟨piece, rest, hpieces⟩ := List.exists_cons_of_ne_nil (pieces_ne_nil hcap payload)
    obtain ⟨e, hfirst⟩ := sendFragment_refused host (s := s.numbered) hfull
      s.nextOrdered (if fragmentCount s payload > 1 then
        some ⟨fragmentCount s payload, s.nextSplitId, 0⟩ else none) piece
    simp only [sendPieces, hpieces, List.zipIdx_cons, forEach, bind_apply, hfirst]
    simp [Peer.numbered]
  · obtain ⟨k, hk⟩ := stopped_sendPieces host s payload
    refine ⟨k, hk, fun h => ?_⟩
    rcases h with h | h
    · exact absurd h hcount
    · exact absurd h hfull

theorem emitted_spec (host : Host) (s : Peer) (payload : Payload) :
    Stopped s (emitted host payload s) (sendReliableOrdered host payload s).2 ∧
      (Refuses s payload → emitted host payload s = []) := by
  obtain ⟨k, hk, hrefuses⟩ := sendReliableOrdered_emits host s payload
  have hemitted : emitted host payload s = (fragmentsOf s payload).take k := by
    rw [emitted, hk.sent, List.length_append, List.length_map, List.length_take,
      Nat.add_sub_cancel_left, List.take_eq_take_iff]
    omega
  rw [hemitted]
  exact ⟨hk, fun h => by rw [hrefuses h, List.take_zero]⟩

theorem sendFragment_quiet {s : Peer} {order : OrderSequence} {split : Option SplitHeader}
    {piece : Payload} (hroom : s.unacked.size < s.budgets.maxUnackedDatagrams)
    (hsmall : (encodeDatagram s.nextDatagram (orderedFrame s.nextReliable order split
      piece)).length ≤ s.budgets.maxDatagramBytes) :
    ∃ s', sendFragment quietHost order split piece s = (.ok (), s') := by
  simp [sendFragment, sendFrame, sendTo, consult, bind_apply, Act.get, Act.modify, Act.lift,
    quietHost, ensureBudget_ok hroom, ensureBudget_ok hsmall]

theorem first_mem_emitted {s : Peer} {payload piece : Payload} {rest : List Payload}
    (hcap : s.mtu - DATAGRAM_HEADER_BUDGET ≠ 0) (hrefuses : ¬ Refuses s payload)
    (hpieces : pieces (s.mtu - DATAGRAM_HEADER_BUDGET) payload = piece :: rest)
    (hsmall : (encodeDatagram (fragmentOf s (fragmentCount s payload) 0 piece).1
      (fragmentOf s (fragmentCount s payload) 0 piece).2).length ≤ s.budgets.maxDatagramBytes) :
    fragmentOf s (fragmentCount s payload) 0 piece ∈ emitted quietHost payload s := by
  obtain ⟨hcount, hroom⟩ := not_or.1 hrefuses
  have hnumbered := sending_numbered s
  obtain ⟨s', hfirst⟩ := @sendFragment_quiet s.numbered s.nextOrdered
    (if fragmentCount s payload > 1 then
      some ⟨fragmentCount s payload, s.nextSplitId, 0⟩ else none) piece
    (Nat.lt_of_not_le hroom) (by
      rw [hnumbered.datagram, hnumbered.reliable, hnumbered.budgets]
      exact hsmall)
  have hsending : Sending s [fragmentOf s (fragmentCount s payload) 0 piece] s' :=
    (sending_fragment quietHost (fragmentCount s payload) piece).ok hnumbered hfirst
  obtain ⟨k, hrest⟩ := stopped_pieces quietHost (fragmentCount s payload) rest hsending
  have hrun : sendReliableOrdered quietHost payload s =
      forEach (fun piece => sendFragment quietHost s.nextOrdered
        (if fragmentCount s payload > 1 then
          some ⟨fragmentCount s payload, s.nextSplitId, piece.2⟩ else none) piece.1)
        (rest.zipIdx 1) s' := by
    rw [sendReliableOrdered_eq _ hcap (Nat.lt_of_not_le hcount)]
    simp only [sendPieces, hpieces, List.zipIdx_cons, forEach, bind_apply, hfirst]
  have hlonger : s.sent.length < (sendReliableOrdered quietHost payload s).2.sent.length := by
    rw [List.length_singleton] at hrest
    rw [hrun, hrest.sent]
    simp
  have hfragments : fragmentsOf s payload = fragmentOf s (fragmentCount s payload) 0 piece ::
      rest.mapIdx fun i => fragmentOf s (fragmentCount s payload) (i + 1) := by
    rw [fragmentsOf, hpieces, List.mapIdx_cons]
  rw [emitted, hfragments]
  obtain ⟨n, hn⟩ : ∃ n, (sendReliableOrdered quietHost payload s).2.sent.length - s.sent.length =
      n + 1 := ⟨_, (Nat.succ_pred_eq_of_pos (by omega)).symm⟩
  rw [hn, List.take_succ_cons]
  exact List.mem_cons_self

end Sends

/-! ### What the receiver reads of a send -/

section Received

variable {s : Peer} {payload : Payload}

theorem length_le_of_mem_pieces {capacity : Nat} {piece : Payload} (hcap : capacity ≠ 0)
    (h : piece ∈ pieces capacity payload) :
    piece.length ≤ payload.length ∧ piece.length ≤ capacity := by
  unfold pieces at h
  split at h
  · next hempty =>
    rw [List.mem_singleton.1 h]
    simp [List.isEmpty_iff.1 hempty]
  · refine ⟨?_, length_le_of_mem_chunks h⟩
    have hsum := List.length_flatten (L := chunks capacity payload)
    rw [flatten_chunks (Nat.pos_of_ne_zero hcap)] at hsum
    rw [hsum]
    exact List.single_le_sum (fun _ _ => Nat.zero_le _) _ (List.mem_map_of_mem h)

theorem first_piece {capacity : Nat} (hcap : capacity ≠ 0) (payload : Payload) :
    ∃ rest, pieces capacity payload = payload.take capacity :: rest := by
  unfold pieces
  split
  · next hempty => exact ⟨[], by simp [List.isEmpty_iff.1 hempty]⟩
  · next hne =>
    exact ⟨_, chunks_step (Nat.pos_of_ne_zero hcap) (by simpa using hne)⟩

theorem index_lt_of_mem_fragmentsOf {e : DatagramSequence × Frame}
    (h : e ∈ fragmentsOf s payload) :
    ∃ index piece, piece ∈ pieces (s.mtu - DATAGRAM_HEADER_BUDGET) payload ∧
      index < fragmentCount s payload ∧
      e = fragmentOf s (fragmentCount s payload) index piece := by
  obtain ⟨index, hindex, rfl⟩ := List.mem_mapIdx.1 h
  refine ⟨index, _, List.getElem_mem hindex, ?_, rfl⟩
  unfold pieces at hindex
  split at hindex
  · simp only [List.length_singleton] at hindex
    unfold fragmentCount
    omega
  · rw [length_chunks] at hindex
    unfold fragmentCount
    omega

theorem length_encodeDatagram_fragmentOf (count index : Nat) (piece : Payload) :
    (encodeDatagram (fragmentOf s count index piece).1 (fragmentOf s count index piece).2).length ≤
      piece.length + 24 := by
  simp only [fragmentOf]
  split <;> simp [encodeDatagram, encodeFrame, orderedFrame, writeU24le] <;> omega

theorem emitted_decodes {host : Host} {e : DatagramSequence × Frame}
    (hcap : s.mtu - DATAGRAM_HEADER_BUDGET ≠ 0)
    (hpayload : payload.length ≤ s.budgets.maxPayloadBytes)
    (hshort : min payload.length (s.mtu - DATAGRAM_HEADER_BUDGET) ≤ maxFramePayload)
    (he : e ∈ emitted host payload s) :
    decodeDatagram (encodeDatagram e.1 e.2) s.budgets = .ok ⟨e.1, [e.2]⟩ := by
  obtain ⟨hstopped, hrefuses⟩ := emitted_spec host s payload
  have hcount : fragmentCount s payload < 2 ^ 32 := by
    by_contra hmany
    rw [hrefuses (.inl (Nat.le_of_not_lt hmany))] at he
    cases he
  have hsmall := hstopped.small e he
  obtain ⟨index, piece, hpiece, hindex, rfl⟩ :=
    index_lt_of_mem_fragmentsOf (List.mem_of_mem_take he)
  obtain ⟨hle, hcapacity⟩ := length_le_of_mem_pieces hcap hpiece
  refine (decodeDatagram_encodeDatagram_iff _ _ (orderedFrame_matches _ _ _ _) ?_).2
    ⟨?_, ?_, hsmall, Nat.le_trans hle hpayload⟩
  · intro header hheader
    simp only [orderedFrame] at hheader
    split at hheader
    · cases hheader
      exact ⟨hcount, Nat.lt_trans hindex hcount⟩
    · cases hheader
  · exact Nat.le_trans (by simp only [orderedFrame]; omega) hshort
  · intro hnone
    cases hnone

/-- A first fragment longer than a frame can say is sent and is not read back. -/
theorem long_fragment_lost {budgets : RakNetBudgets} {requestedMtu : Nat}
    (hmtu : s.mtu = clampMtu budgets requestedMtu) (hbudgets : s.budgets = budgets)
    (hlong : maxFramePayload < min payload.length (s.mtu - DATAGRAM_HEADER_BUDGET))
    (hrefuses : ¬ Refuses s payload) :
    ∃ e ∈ emitted quietHost payload s,
      decodeDatagram (encodeDatagram e.1 e.2) budgets ≠ .ok ⟨e.1, [e.2]⟩ := by
  have hcap : s.mtu - DATAGRAM_HEADER_BUDGET ≠ 0 := by
    intro hzero
    rw [hzero] at hlong
    simp at hlong
  obtain ⟨rest, hpieces⟩ := first_piece hcap payload
  have hroom : s.mtu ≤ budgets.maxDatagramBytes := by
    rw [maxFramePayload, DATAGRAM_HEADER_BUDGET] at hlong
    rw [hmtu, clampMtu] at hlong ⊢
    omega
  have hlength : (payload.take (s.mtu - DATAGRAM_HEADER_BUDGET)).length =
      min (s.mtu - DATAGRAM_HEADER_BUDGET) payload.length := List.length_take
  refine ⟨_, first_mem_emitted hcap hrefuses hpieces ?_, fun h => ?_⟩
  · refine Nat.le_trans (length_encodeDatagram_fragmentOf _ _ _) ?_
    rw [hbudgets, hlength]
    rw [DATAGRAM_HEADER_BUDGET] at hcap ⊢
    omega
  · have hle := decodeDatagram_payload_le_max h _ (List.mem_singleton.2 rfl)
    simp only [fragmentOf, orderedFrame, hlength] at hle
    omega

/-- What is handed to the socket, when all of it is read back by a receiver with the same
budgets, and when a datagram of any frame is. -/
theorem emitted_decodes_iff (budgets : RakNetBudgets) :
    (∀ (host : Host) (s : Peer) (payload : Payload),
      (sendReliableOrdered host payload s).2.sent =
        s.sent ++ (emitted host payload s).map fun e => encodeDatagram e.1 e.2) ∧
    (∀ (requestedMtu : Nat) (s : Peer) (payload : Payload),
      s.mtu = clampMtu budgets requestedMtu → s.budgets = budgets →
      payload.length ≤ budgets.maxPayloadBytes →
      ((∀ host : Host, ∀ e ∈ emitted host payload s,
          decodeDatagram (encodeDatagram e.1 e.2) budgets = .ok ⟨e.1, [e.2]⟩) ↔
        min payload.length (s.mtu - DATAGRAM_HEADER_BUDGET) ≤ maxFramePayload ∨
          Refuses s payload)) ∧
    (∀ (sequence : DatagramSequence) (frame : Frame),
      frame.Matches →
      (∀ header ∈ frame.split, header.count < 2 ^ 32 ∧ header.index < 2 ^ 32) →
      (decodeDatagram (encodeDatagram sequence frame) budgets = .ok ⟨sequence, [frame]⟩ ↔
        frame.payload.length ≤ maxFramePayload ∧
        (frame.orderIndex = none → frame.orderChannel = 0) ∧
        (encodeDatagram sequence frame).length ≤ budgets.maxDatagramBytes ∧
        frame.payload.length ≤ budgets.maxPayloadBytes)) := by
  refine ⟨fun host s payload => (emitted_spec host s payload).1.sent, ?_,
    fun sequence frame => decodeDatagram_encodeDatagram_iff budgets sequence⟩
  intro requestedMtu s payload hmtu hbudgets hpayload
  have hcap : s.mtu - DATAGRAM_HEADER_BUDGET ≠ 0 := by
    rw [hmtu, clampMtu, DATAGRAM_HEADER_BUDGET]
    omega
  constructor
  · intro hall
    by_contra hbad
    obtain ⟨hlong, hrefuses⟩ := not_or.1 hbad
    obtain ⟨e, he, hlost⟩ :=
      long_fragment_lost hmtu hbudgets (Nat.lt_of_not_le hlong) hrefuses
    exact hlost (hall quietHost e he)
  · rintro (hshort | hrefuses) host e he
    · rw [← hbudgets] at hpayload ⊢
      exact emitted_decodes hcap hpayload hshort he
    · rw [(emitted_spec host s payload).2 hrefuses] at he
      cases he

/-- A payload of 2000 bytes leaves in two fragments, and both are read back. -/
theorem emitted_decodes_iff_fragments : ∀ host : Host, ∀ e ∈ emitted host (List.replicate 2000 7)
    (Peer.new unspecifiedAddress (clampMtu .default 1492) .default 0),
      decodeDatagram (encodeDatagram e.1 e.2) .default = .ok ⟨e.1, [e.2]⟩ := by
  refine ((emitted_decodes_iff .default).2.1 1492 _ _ rfl rfl ?_).mpr (.inl ?_)
  · rw [List.length_replicate]
    decide
  · rw [List.length_replicate]
    decide

/-- Datagrams of 20000 bytes allowed, and all of them asked for. -/
def wideBudgets : RakNetBudgets := { RakNetBudgets.default with maxDatagramBytes := 20000 }

/-- A payload of 10000 bytes goes out in one frame, whose length field says less. -/
theorem wide_datagram_lost :
    (List.replicate 10000 (0 : UInt8)).length ≤ wideBudgets.maxPayloadBytes ∧
    ∃ e ∈ emitted quietHost (List.replicate 10000 0)
        (Peer.new unspecifiedAddress (clampMtu wideBudgets 20000) wideBudgets 0),
      decodeDatagram (encodeDatagram e.1 e.2) wideBudgets ≠ .ok ⟨e.1, [e.2]⟩ := by
  have hmtu : clampMtu wideBudgets 20000 = 20000 := by decide
  refine ⟨by rw [List.length_replicate]; decide, long_fragment_lost rfl rfl ?_ ?_⟩
  · rw [List.length_replicate]
    decide
  · rintro (hmany | hfull)
    · simp only [fragmentCount, chunkCount, List.length_replicate, Peer.new, hmtu,
        DATAGRAM_HEADER_BUDGET] at hmany
      omega
    · simp [Peer.new, wideBudgets, RakNetBudgets.default] at hfull

end Received

/-! ### Acknowledgements -/

theorem decodeAcknowledgement_encodeAckRange (start stop : DatagramSequence) {id : UInt8}
    (hid : id = 0xc0 ∨ id = 0xa0) :
    decodeAcknowledgement (encodeAckRange id start stop) =
      .ok (some (if id = 0xc0 then .ack [(start, stop)] else .nack [(start, stop)])) := by
  have hrange : decodeRange ((if start = stop then 1 else 0) :: (writeU24le start ++
      if start ≠ stop then writeU24le stop else [])) = .ok ((start, stop), []) := by
    by_cases hsame : start = stop
    · subst hsame
      have hread := Read.sequence_append start []
      simp_all [decodeRange, bind, Except.bind, pure, Except.pure]
    · have hread := Read.sequence_append stop []
      simp_all [decodeRange, bind, Except.bind, pure, Except.pure]
  have hknown : ¬ (id ≠ 0xa0 ∧ id ≠ 0xc0) := by
    rintro ⟨hnack, hack⟩
    exact hid.elim hack hnack
  have hbytes : encodeAckRange id start stop = id :: (Bytes.beBytes 2 1 ++
      (if start = stop then 1 else 0) :: (writeU24le start ++
        if start ≠ stop then writeU24le stop else [])) := by
    simp [encodeAckRange]
  simp only [hbytes, decodeAcknowledgement, if_neg hknown, bind, Except.bind,
    Read.u16be_append (n := 1) (by decide), decodeRanges, hrange, pure, Except.pure]

theorem any_inRange (s start stop : DatagramSequence) : [(start, stop)].any (inRange s) = true ↔
    s.wrappingDistanceFrom start ≤ stop.wrappingDistanceFrom start := by
  simp [inRange]

/-- **What an acknowledgement says.**  The one for a datagram settles that datagram alone; the one
    for a gap names the datagrams between the newest one and the one that came after it. -/
theorem acknowledgements_are_exact (previous sequence : DatagramSequence) :
    (∀ (host : Host) (s : Peer) (k : DatagramSequence),
      (receiveDatagram host (encodeAck sequence) s).2.unacked[k]? =
        if k = sequence then none else s.unacked[k]?) ∧
    (1 < sequence.wrappingDistanceFrom previous → ∃ ranges,
      decodeAcknowledgement (encodeNack previous.next sequence.previous) =
        .ok (some (.nack ranges)) ∧
      ∀ k, ranges.any (inRange k) = true ↔ 0 < k.wrappingDistanceFrom previous ∧
        k.wrappingDistanceFrom previous < sequence.wrappingDistanceFrom previous) := by
  constructor
  · intro host s k
    have hread : decodeAcknowledgement (encodeAck sequence) =
        .ok (some (.ack [(sequence, sequence)])) := decodeAcknowledgement_encodeAckRange _ _ (.inl rfl)
    have hnamed : ∀ k, [(sequence, sequence)].any (inRange k) = decide (k = sequence) := by
      intro k
      rw [Bool.eq_iff_iff, any_inRange, decide_eq_true_eq, Fin.ext_iff]
      unfold Sequence24.wrappingDistanceFrom
      omega
    have hafter : (receiveDatagram host (encodeAck sequence) s).2.unacked =
        s.unacked.filter fun k _ => !([(sequence, sequence)].any (inRange k)) := by
      unfold receiveDatagram admitDatagram
      rw [hread]
      rfl
    rw [hafter, ExtTreeMap.getElem?_filter', hnamed]
    cases s.unacked[k]? <;> by_cases hsame : k = sequence <;> simp [hsame]
  · intro hgap
    refine ⟨[(previous.next, sequence.previous)],
      decodeAcknowledgement_encodeAckRange _ _ (.inr rfl), fun k => ?_⟩
    rw [any_inRange]
    simp only [Sequence24.wrappingDistanceFrom, Sequence24.next, Sequence24.previous,
      Sequence24.new_val] at hgap ⊢
    omega

end RevyCraft.RakNet
