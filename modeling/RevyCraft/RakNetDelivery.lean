/-
  RevyCraft/RakNetDelivery.lean
  =============================
  **Reliable-ordered delivery is exact under any network schedule.**

  The network may lose, repeat and reorder the datagrams of a sender
  (`RevyCraft.RakNetSending`) in any way.  Safety needs nothing about the
  duplicate windows: whatever re-enters the pipeline is a fragment of the
  payload its split id names, and an order index below the expected one is
  dropped (`Faithful`).  Completeness needs that a datagram is processed
  when it first arrives, which holds as long as the 24-bit sequence numbers
  of the run are distinct (`Tracks`).
-/
import RevyCraft.RakNetSending

namespace RevyCraft.RakNet

open Std Act

/-! ### The entries of a run -/

section Entries

variable {capacity : Nat} {payloads : List Payload}

theorem mem_entriesFrom {order : Nat} {ps : List Payload} {e : Entry} :
    e ∈ entriesFrom capacity order ps ↔
      ∃ k p, ps[k]? = some p ∧ e ∈ fragments capacity (order + k) p := by
  induction ps generalizing order with
  | nil => simp [entriesFrom]
  | cons q rest ih =>
    simp only [entriesFrom, List.mem_append, ih]
    constructor
    · rintro (h | ⟨k, p, hp, h⟩)
      · exact ⟨0, q, rfl, by simpa using h⟩
      · refine ⟨k + 1, p, by simpa using hp, ?_⟩
        rw [show order + (k + 1) = order + 1 + k by omega]
        exact h
    · rintro ⟨k, p, hp, h⟩
      cases k with
      | zero =>
        obtain rfl : q = p := by simpa using hp
        exact .inl (by simpa using h)
      | succ k =>
        refine .inr ⟨k, p, by simpa using hp, ?_⟩
        rw [show order + 1 + k = order + (k + 1) by omega]
        exact h

theorem mem_entries {e : Entry} :
    e ∈ entries capacity payloads ↔ ∃ i p, payloads[i]? = some p ∧ e ∈ fragments capacity i p := by
  simp [entries, mem_entriesFrom]

theorem fragment_cases (hc : 0 < capacity) {i : Nat} {p : Payload} {e : Entry}
    (h : e ∈ fragments capacity i p) : e.order = i ∧
      ((e.split = none ∧ e.chunk = p) ∨
        ∃ j, e.split = some ⟨chunkCount capacity p, UInt16.ofNat i, j⟩ ∧
          (chunks capacity p)[j]? = some e.chunk ∧ 1 < chunkCount capacity p) := by
  unfold fragments at h
  split at h
  · obtain rfl := List.mem_singleton.mp h
    exact ⟨rfl, .inl ⟨rfl, rfl⟩⟩
  · rename_i hne
    obtain ⟨⟨chunk, j⟩, hmem, rfl⟩ := List.mem_map.mp h
    have hj : (chunks capacity p)[j]? = some chunk := List.mem_zipIdx_iff_getElem?.mp hmem
    refine ⟨rfl, ?_⟩
    dsimp only [splitHeader]
    split
    · exact .inr ⟨j, rfl, hj, ‹_›⟩
    · -- a single piece is the payload itself
      have hlen : (chunks capacity p).length = 1 := by
        have := chunkCount_pos hc (show p ≠ [] by simpa using hne)
        rw [length_chunks]
        omega
      obtain ⟨only, honly⟩ := List.length_eq_one_iff.mp hlen
      have hflat := flatten_chunks hc p
      rw [honly] at hj hflat
      have hchunk : only = chunk := by
        cases j with
        | zero => simpa using hj
        | succ j => simp at hj
      refine .inl ⟨rfl, ?_⟩
      rw [← hchunk, ← hflat]
      simp

theorem exists_fragment (hc : 0 < capacity) (i : Nat) (p : Payload) :
    ∃ e, e ∈ fragments capacity i p := by
  unfold fragments
  split
  · exact ⟨_, List.mem_singleton_self _⟩
  · rename_i hne
    have hpos := chunkCount_pos hc (show p ≠ [] by simpa using hne)
    have hlt : 0 < (chunks capacity p).length := by rwa [length_chunks]
    have hmem : ((chunks capacity p)[0], 0) ∈ (chunks capacity p).zipIdx :=
      List.mem_zipIdx_iff_getElem?.mpr (List.getElem?_eq_getElem hlt)
    exact ⟨_, List.mem_map_of_mem hmem⟩

theorem piece_mem_fragments {i j : Nat} {p : Payload}
    (hsplit : 1 < chunkCount capacity p) (hj : j < chunkCount capacity p) :
    ∃ e ∈ fragments capacity i p,
      e.split = some ⟨chunkCount capacity p, UInt16.ofNat i, j⟩ := by
  have hne : p.isEmpty = false := by
    cases p with
    | nil => simp [chunkCount_nil] at hsplit
    | cons b rest => rfl
  have hlt : j < (chunks capacity p).length := by rwa [length_chunks]
  have hmem : ((chunks capacity p)[j], j) ∈ (chunks capacity p).zipIdx :=
    List.mem_zipIdx_iff_getElem?.mpr (List.getElem?_eq_getElem hlt)
  unfold fragments
  rw [hne]
  refine ⟨_, List.mem_map_of_mem hmem, ?_⟩
  simp [splitHeader, hsplit]

end Entries

/-! ### The receiving side of a peer -/

/-- The part of a peer that receiving works on. -/
structure Recv where
  delivered : List Payload
  expected : BTreeMap UInt8 OrderSequence
  holdback : BTreeMap HoldKey Payload
  reassembly : BTreeMap UInt16 (List (Option Payload))
  seenDatagrams : BTreeSet DatagramSequence
  seenReliable : BTreeSet ReliableSequence

def Peer.recv (s : Peer) : Recv :=
  ⟨s.delivered, s.orderedExpected, s.orderedHoldback, s.reassembly, s.seenDatagrams, s.seenReliable⟩

section Frame

variable {host : Host} {r : Recv}

/-- An operation that leaves the receiving side alone, whether it succeeds or fails. -/
abbrev LeavesRecv {α : Type} (x : PeerM α) : Prop :=
  ∀ r, Spec (fun s => s.recv = r) x (fun _ s => s.recv = r) fun s => s.recv = r

theorem sendTo_leavesRecv (bytes : Payload) : LeavesRecv (sendTo host bytes) := fun _ =>
  sendTo_spec host bytes (fun _ _ _ hs => hs) fun _ hs => hs

theorem consult_leavesRecv {α : Type} (answer : Nat → α) : LeavesRecv (consult answer) := fun _ =>
  consult_spec answer fun _ _ _ hs => hs

theorem modify_leavesRecv {f : Peer → Peer} (h : ∀ s, (f s).recv = s.recv) :
    LeavesRecv (Act.modify f : PeerM Unit) := by
  intro r
  refine spec_modify fun s hs => ?_
  rw [h, hs]

theorem bind_leavesRecv {α β : Type} {x : PeerM α} {f : α → PeerM β} (hx : LeavesRecv x)
    (hf : ∀ a, LeavesRecv (f a)) : LeavesRecv (x >>= f) :=
  fun r => spec_bind (hx r) fun a => hf a r

theorem get_bind_leavesRecv {β : Type} {f : Peer → PeerM β} (hf : ∀ s, LeavesRecv (f s)) :
    LeavesRecv (Act.get >>= f) := by
  intro r
  refine spec_get_bind fun s hs => ?_
  exact (hf s r).mono (by rintro t rfl; exact hs) (fun _ _ h => h) fun _ h => h

theorem lift_leavesRecv {α : Type} (x : Except RakNetError α) :
    LeavesRecv (Act.lift x : PeerM α) := by
  intro r s hs
  cases x <;> exact hs

theorem throw_leavesRecv {α : Type} (e : RakNetError) : LeavesRecv (Act.throw e : PeerM α) :=
  fun _ => spec_throw fun _ hs => hs

theorem pure_leavesRecv {α : Type} (a : α) : LeavesRecv (pure a : PeerM α) :=
  fun _ => spec_pure fun _ hs => hs

theorem forEach_leavesRecv {β : Type} {f : β → PeerM Unit} (xs : List β)
    (hf : ∀ b, LeavesRecv (f b)) : LeavesRecv (Act.forEach f xs) :=
  fun r => spec_forEach fun b _ => hf b r

theorem sendFrame_leavesRecv (frame : Frame) : LeavesRecv (sendFrame host frame) := by
  refine get_bind_leavesRecv fun s => ?_
  refine bind_leavesRecv (lift_leavesRecv _) fun _ => ?_
  refine bind_leavesRecv (modify_leavesRecv fun _ => rfl) fun _ => ?_
  refine bind_leavesRecv (lift_leavesRecv _) fun _ => ?_
  refine bind_leavesRecv (sendTo_leavesRecv _) fun _ => ?_
  exact bind_leavesRecv (consult_leavesRecv _) fun _ => modify_leavesRecv fun _ => rfl

theorem sendFragment_leavesRecv (order : OrderSequence) (split : Option SplitHeader)
    (payload : Payload) : LeavesRecv (sendFragment host order split payload) :=
  get_bind_leavesRecv fun _ =>
    bind_leavesRecv (modify_leavesRecv fun _ => rfl) fun _ => sendFrame_leavesRecv _

theorem sendReliableOrdered_leavesRecv (payload : Payload) :
    LeavesRecv (sendReliableOrdered host payload) := by
  refine get_bind_leavesRecv fun s => ?_
  dsimp only
  split
  · exact throw_leavesRecv _
  refine bind_leavesRecv (modify_leavesRecv fun _ => rfl) fun _ => ?_
  split
  · exact throw_leavesRecv _
  refine bind_leavesRecv (modify_leavesRecv fun _ => rfl) fun _ => ?_
  refine bind_leavesRecv (forEach_leavesRecv _ fun _ => sendFragment_leavesRecv _ _ _) fun _ => ?_
  split
  · exact sendFragment_leavesRecv _ _ _
  · exact pure_leavesRecv _

theorem retransmit_leavesRecv (sequence : DatagramSequence) :
    LeavesRecv (retransmit host sequence) := by
  refine get_bind_leavesRecv fun s => ?_
  cases s.unacked[sequence]? with
  | none => exact pure_leavesRecv _
  | some datagram =>
    dsimp only
    split
    · exact throw_leavesRecv _
    refine bind_leavesRecv (sendTo_leavesRecv _) fun _ => ?_
    exact bind_leavesRecv (consult_leavesRecv _) fun _ => modify_leavesRecv fun _ => rfl

theorem applyAcknowledgement_leavesRecv (acknowledgement : Acknowledgement) :
    LeavesRecv (applyAcknowledgement host acknowledgement) := by
  cases acknowledgement with
  | ack ranges => exact modify_leavesRecv fun _ => rfl
  | nack ranges => exact get_bind_leavesRecv fun _ => forEach_leavesRecv _ retransmit_leavesRecv

theorem onTimer_leavesRecv : LeavesRecv (onTimer host) := by
  refine bind_leavesRecv (consult_leavesRecv _) fun _ => get_bind_leavesRecv fun s => ?_
  split
  · exact throw_leavesRecv _
  · exact forEach_leavesRecv _ retransmit_leavesRecv

theorem noteDatagram_leavesRecv (sequence : DatagramSequence) :
    LeavesRecv (noteDatagram host sequence) := by
  refine get_bind_leavesRecv fun s => ?_
  cases s.lastDatagram with
  | none => exact modify_leavesRecv fun _ => rfl
  | some previous =>
    have hupdate : LeavesRecv (if Sequence24.isNewerThan sequence previous = true then
        Act.modify fun s : Peer => { s with lastDatagram := some sequence } else pure ()) := by
      split
      · exact modify_leavesRecv fun _ => rfl
      · exact pure_leavesRecv _
    dsimp only
    split
    · exact bind_leavesRecv (sendTo_leavesRecv _) fun _ => hupdate
    · exact hupdate

theorem inboxPush_leavesRecv (payload : Payload) : LeavesRecv (inboxPush payload) :=
  get_bind_leavesRecv fun _ =>
    bind_leavesRecv (lift_leavesRecv _) fun _ => modify_leavesRecv fun _ => rfl

/-- Delivering a payload appends it to what was delivered and does nothing else to the
    receiving side. -/
theorem deliverPayload_recv (payload : Payload) :
    Spec (fun s => s.recv = r) (deliverPayload host payload)
      (fun _ s => s.recv = { r with delivered := r.delivered ++ [payload] })
      fun s => s.recv = { r with delivered := r.delivered ++ [payload] } := by
  refine spec_bind (R := fun _ s => s.recv = { r with delivered := r.delivered ++ [payload] })
    (spec_modify fun s hs => by rw [← hs]; rfl) fun _ => ?_
  suffices h : LeavesRecv (_ : PeerM Unit) from h _
  refine bind_leavesRecv (lift_leavesRecv _) fun request => ?_
  cases request with
  | some requestTime =>
    exact get_bind_leavesRecv fun _ => bind_leavesRecv (consult_leavesRecv _) fun _ =>
      sendReliableOrdered_leavesRecv _
  | none =>
    refine bind_leavesRecv (lift_leavesRecv _) fun ping => ?_
    cases ping with
    | some pingTime =>
      exact bind_leavesRecv (consult_leavesRecv _) fun _ => sendReliableOrdered_leavesRecv _
    | none =>
      refine get_bind_leavesRecv fun s => ?_
      have hpush : LeavesRecv (if s.accepted then inboxPush payload else pure ()) := by
        split
        · exact inboxPush_leavesRecv _
        · exact pure_leavesRecv _
      cases payload with
      | nil => exact hpush
      | cons id rest =>
        dsimp only
        split
        · refine bind_leavesRecv (modify_leavesRecv fun _ => rfl) fun _ => ?_
          refine bind_leavesRecv (consult_leavesRecv _) fun acceptOpen => ?_
          split
          · exact pure_leavesRecv _
          · exact throw_leavesRecv _
        · split
          · exact pure_leavesRecv _
          · split
            · exact throw_leavesRecv _
            · exact hpush

end Frame

/-! ### What the receiver holds is what was sent -/

section Faithful

variable {host : Host} {capacity : Nat} {payloads : List Payload}

/-- Every assembly collects pieces of the payload its split id names. -/
def AssembliesFaithful (capacity : Nat) (payloads : List Payload)
    (table : BTreeMap UInt16 (List (Option Payload))) : Prop :=
  ∀ (id : UInt16) (parts : List (Option Payload)), table[id]? = some parts →
    ∃ i p, payloads[i]? = some p ∧ id = UInt16.ofNat i ∧ parts.length = chunkCount capacity p ∧
      ∀ (j : Nat) (c : Payload), parts[j]? = some (some c) → (chunks capacity p)[j]? = some c

/-- **The safety invariant.**  What was delivered is a prefix of what was sent, the next expected
    order index is the number of delivered payloads, and every held payload and every collected
    piece is the sender's. -/
structure Faithful (capacity : Nat) (payloads : List Payload) (r : Recv) : Prop where
  delivered : r.delivered <+: payloads
  expected : r.expected[(0 : UInt8)]?.getD 0 = Sequence24.new r.delivered.length
  held : ∀ (k : HoldKey) (p : Payload), r.holdback[k]? = some p →
    ∃ i, k = ⟨0, Sequence24.new i⟩ ∧ r.delivered.length ≤ i ∧ payloads[i]? = some p
  assemblies : AssembliesFaithful capacity payloads r.reassembly

theorem lt_of_getElem? {i : Nat} {p : Payload} (h : payloads[i]? = some p) : i < payloads.length :=
  (List.getElem?_eq_some_iff.mp h).1

theorem order_injective (hn : payloads.length < 65536) {i j : Nat} (hi : i ≤ payloads.length)
    (hj : j ≤ payloads.length) (h : Sequence24.new i = Sequence24.new j) : i = j := by
  have h := congrArg Fin.val h
  simp only [Sequence24.new_val] at h
  omega

theorem splitId_injective (hn : payloads.length < 65536) {i j : Nat} (hi : i < payloads.length)
    (hj : j < payloads.length) (h : UInt16.ofNat i = UInt16.ofNat j) : i = j := by
  have h := congrArg UInt16.toNat h
  simp only [UInt16.toNat_ofNat'] at h
  omega

theorem prefix_snoc {delivered : List Payload} {p : Payload} (h : delivered <+: payloads)
    (hp : payloads[delivered.length]? = some p) : delivered ++ [p] <+: payloads := by
  obtain ⟨rest, rfl⟩ := h
  cases rest with
  | nil => simp at hp
  | cons q rest =>
    obtain rfl : q = p := by simpa using hp
    exact ⟨rest, by simp⟩

/-- Payload `i` has passed reassembly for good: it is delivered or held back. -/
def Done (r : Recv) (i : Nat) : Prop :=
  i < r.delivered.length ∨ (r.holdback[(⟨0, Sequence24.new i⟩ : HoldKey)]?).isSome

/-- Nothing deliverable is held back. -/
def Drained (r : Recv) : Prop :=
  r.holdback[(⟨0, Sequence24.new r.delivered.length⟩ : HoldKey)]? = none

/-- Ordered delivery from `r` to `t`: payloads stay done, and the earlier stages are untouched. -/
structure Advances (payloads : List Payload) (r t : Recv) : Prop where
  done : ∀ i < payloads.length, Done r i → Done t i
  reassembly : t.reassembly = r.reassembly
  datagrams : t.seenDatagrams = r.seenDatagrams
  reliable : t.seenReliable = r.seenReliable

theorem Advances.refl (r : Recv) : Advances payloads r r := ⟨fun _ _ h => h, rfl, rfl, rfl⟩

theorem Advances.trans {r s t : Recv} (h : Advances payloads r s) (h' : Advances payloads s t) :
    Advances payloads r t :=
  ⟨fun i hi hd => h'.done i hi (h.done i hi hd), h'.reassembly.trans h.reassembly,
    h'.datagrams.trans h.datagrams, h'.reliable.trans h.reliable⟩

/-- The receiving side after delivering the expected payload out of `holdback`. -/
def Recv.deliver (r : Recv) (holdback : BTreeMap HoldKey Payload) (p : Payload) : Recv :=
  { r with
    delivered := r.delivered ++ [p]
    expected := r.expected.insert 0 (Sequence24.next (Sequence24.new r.delivered.length))
    holdback := holdback }

theorem Faithful.deliver {r : Recv} (h : Faithful capacity payloads r) {p : Payload}
    (holdback : BTreeMap HoldKey Payload) (hp : payloads[r.delivered.length]? = some p)
    (hhold : ∀ (k : HoldKey) (q : Payload), holdback[k]? = some q →
      r.holdback[k]? = some q ∧ k ≠ ⟨0, Sequence24.new r.delivered.length⟩) :
    Faithful capacity payloads (r.deliver holdback p) := by
  refine ⟨prefix_snoc h.delivered hp, ?_, ?_, h.assemblies⟩
  · simp [Recv.deliver, Sequence24.next_new]
  · intro k q hk
    obtain ⟨hk, hne⟩ := hhold k q hk
    obtain ⟨i, rfl, hi, hq⟩ := h.held k q hk
    refine ⟨i, rfl, ?_, hq⟩
    have hne : i ≠ r.delivered.length := by
      rintro rfl
      exact hne rfl
    simp only [Recv.deliver, List.length_append, List.length_singleton]
    omega

theorem Faithful.delivered_le {r : Recv} (h : Faithful capacity payloads r) :
    r.delivered.length ≤ payloads.length := h.delivered.length_le

theorem advances_deliver {r : Recv} (holdback : BTreeMap HoldKey Payload) (p : Payload)
    (h : ∀ i < payloads.length, i ≠ r.delivered.length →
      holdback[(⟨0, Sequence24.new i⟩ : HoldKey)]? =
        r.holdback[(⟨0, Sequence24.new i⟩ : HoldKey)]?) :
    Advances payloads r (r.deliver holdback p) := by
  refine ⟨fun i hi hd => ?_, rfl, rfl, rfl⟩
  by_cases heq : i = r.delivered.length
  · left
    simp [Recv.deliver, heq]
  · rcases hd with hd | hd
    · left
      simp only [Recv.deliver, List.length_append]
      omega
    · right
      simp only [Recv.deliver, h i hi heq]
      exact hd

theorem Faithful.drainStep (hn : payloads.length < 65536) {r : Recv}
    (h : Faithful capacity payloads r) {p : Payload}
    (hheld : r.holdback[(⟨0, Sequence24.new r.delivered.length⟩ : HoldKey)]? = some p) :
    Faithful capacity payloads
        (r.deliver (r.holdback.erase ⟨0, Sequence24.new r.delivered.length⟩) p) ∧
      Advances payloads r
        (r.deliver (r.holdback.erase ⟨0, Sequence24.new r.delivered.length⟩) p) := by
  obtain ⟨i, hkey, -, hp⟩ := h.held _ p hheld
  have hieq : r.delivered.length = i := order_injective hn h.delivered_le
    (Nat.le_of_lt (lt_of_getElem? hp)) (congrArg HoldKey.sequence hkey)
  have hp : payloads[r.delivered.length]? = some p := by
    rw [hieq]
    exact hp
  refine ⟨h.deliver _ hp ?_, advances_deliver _ _ ?_⟩
  · intro k q hk
    rw [BTreeMap.getElem?_erase_eq] at hk
    split at hk
    · cases hk
    · rename_i hne
      exact ⟨hk, Ne.symm hne⟩
  · intro k hk hne
    rw [BTreeMap.getElem?_erase_eq, if_neg]
    intro heq
    exact hne (order_injective hn (Nat.le_of_lt hk) h.delivered_le
      (congrArg HoldKey.sequence heq).symm)

theorem drainHoldback_spec (hn : payloads.length < 65536) (turns : Nat) {r : Recv}
    (h : Faithful capacity payloads r) (hsize : r.holdback.size ≤ turns) :
    Spec (fun s => s.recv = r) (drainHoldback host 0 turns)
      (fun _ s => Faithful capacity payloads s.recv ∧ Drained s.recv ∧ Advances payloads r s.recv)
      fun s => Faithful capacity payloads s.recv := by
  induction turns generalizing r with
  | zero =>
    refine spec_pure fun s hs => ?_
    rw [hs]
    refine ⟨h, ?_, Advances.refl r⟩
    have hempty : r.holdback = ∅ :=
      ExtTreeMap.eq_empty_iff_size_eq_zero.mpr (Nat.le_zero.mp hsize)
    simp [Drained, hempty]
  | succ turns ih =>
    refine spec_get_bind fun s hs => ?_
    have hexpected : s.orderedExpected[(0 : UInt8)]?.getD 0 =
        Sequence24.new r.delivered.length := by
      rw [← h.expected, ← hs]
      rfl
    have hhold : s.orderedHoldback = r.holdback := by
      rw [← hs]
      rfl
    dsimp only
    rw [hexpected, hhold]
    cases hheld : r.holdback[(⟨0, Sequence24.new r.delivered.length⟩ : HoldKey)]? with
    | none =>
      refine spec_pure ?_
      rintro t rfl
      rw [hs]
      exact ⟨h, hheld, Advances.refl r⟩
    | some p =>
      obtain ⟨hnext, hadv⟩ := h.drainStep hn hheld
      refine spec_bind (R := fun _ t => t.recv = { r with
          holdback := r.holdback.erase ⟨0, Sequence24.new r.delivered.length⟩
          expected := r.expected.insert 0
            (Sequence24.next (Sequence24.new r.delivered.length)) }) (spec_modify ?_) fun _ => ?_
      · rintro t rfl
        rw [← hs]
        rfl
      refine spec_bind ((deliverPayload_recv p).mono (fun _ ht => ht) (fun _ _ ht => ht)
        fun t ht => ?_) fun _ => ?_
      · rw [ht]
        exact hnext
      have hless : (r.holdback.erase ⟨0, Sequence24.new r.delivered.length⟩).size ≤ turns := by
        rw [ExtTreeMap.size_erase, ExtTreeMap.contains_eq_isSome_getElem?, hheld]
        simp only [Option.isSome_some, if_true]
        omega
      exact (ih hnext hless).mono (fun _ ht => ht)
        (fun _ _ ht => ⟨ht.1, ht.2.1, hadv.trans ht.2.2⟩) fun _ ht => ht

theorem Faithful.hold (hn : payloads.length < 65536) {r : Recv}
    (h : Faithful capacity payloads r) (hd : Drained r) {i : Nat} {p : Payload}
    (hp : payloads[i]? = some p) (hlt : r.delivered.length < i) :
    Faithful capacity payloads
        { r with holdback := r.holdback.insertIfNew ⟨0, Sequence24.new i⟩ p } ∧
      Drained { r with holdback := r.holdback.insertIfNew ⟨0, Sequence24.new i⟩ p } ∧
      Advances payloads r { r with holdback := r.holdback.insertIfNew ⟨0, Sequence24.new i⟩ p } ∧
      Done { r with holdback := r.holdback.insertIfNew ⟨0, Sequence24.new i⟩ p } i := by
  have hget : ∀ k : HoldKey, (r.holdback.insertIfNew ⟨0, Sequence24.new i⟩ p)[k]? =
      if k = ⟨0, Sequence24.new i⟩ ∧ r.holdback[k]? = none then some p else r.holdback[k]? :=
    fun k => BTreeMap.getElem?_insertIfNew_eq _ _ k p
  refine ⟨⟨h.delivered, h.expected, ?_, h.assemblies⟩, ?_, ⟨?_, rfl, rfl, rfl⟩, ?_⟩
  · intro k q hk
    rw [hget] at hk
    split at hk
    · rename_i hkey
      cases hk
      exact ⟨i, hkey.1, Nat.le_of_lt hlt, hp⟩
    · exact h.held k q hk
  · rw [Drained, hget, if_neg]
    · exact hd
    · rintro ⟨hkey, -⟩
      have := order_injective hn h.delivered_le (Nat.le_of_lt (lt_of_getElem? hp))
        (congrArg HoldKey.sequence hkey)
      omega
  · rintro k - (hk | hk)
    · exact .inl hk
    · right
      rw [hget]
      split
      · rfl
      · exact hk
  · right
    rw [hget]
    split
    · rfl
    · rename_i hne
      cases hq : r.holdback[(⟨0, Sequence24.new i⟩ : HoldKey)]? with
      | none => exact absurd ⟨rfl, hq⟩ hne
      | some q => rfl

theorem acceptOrdered_spec (hn : payloads.length < 65536) {i : Nat} {p : Payload}
    (hp : payloads[i]? = some p) {r : Recv} (h : Faithful capacity payloads r) (hd : Drained r) :
    Spec (fun s => s.recv = r) (acceptOrdered host 0 (Sequence24.new i) p)
      (fun _ s => Faithful capacity payloads s.recv ∧ Drained s.recv ∧
        Advances payloads r s.recv ∧ Done s.recv i)
      fun s => Faithful capacity payloads s.recv := by
  have hi := lt_of_getElem? hp
  have hle := h.delivered_le
  refine spec_get_bind fun s hs => ?_
  have hexpected : s.orderedExpected[(0 : UInt8)]?.getD 0 = Sequence24.new r.delivered.length := by
    rw [← h.expected, ← hs]
    rfl
  have hhold : s.orderedHoldback = r.holdback := by
    rw [← hs]
    rfl
  dsimp only
  rw [hexpected, hhold]
  -- writing the expected index back to its channel is the only change so far
  obtain ⟨t, ht⟩ : ∃ t : Recv, t =
    { r with expected := r.expected.insert 0 (Sequence24.new r.delivered.length) } := ⟨_, rfl⟩
  have hdel : t.delivered = r.delivered := by rw [ht]
  have hheld : t.holdback = r.holdback := by rw [ht]
  have hf : Faithful capacity payloads t := by
    rw [ht]
    exact ⟨h.delivered, by simp, h.held, h.assemblies⟩
  have hdt : Drained t := by
    rw [ht]
    exact hd
  have hrt : Advances payloads r t := by
    rw [ht]
    exact ⟨fun _ _ hdone => hdone, rfl, rfl, rfl⟩
  refine spec_bind (R := fun _ u => u.recv = t) (spec_modify ?_) fun _ => ?_
  · rintro u rfl
    rw [ht, ← hs]
    rfl
  rw [← hdel, ← hheld]
  rw [← hdel] at hle
  by_cases heq : i = t.delivered.length
  · rw [if_pos (by rw [heq])]
    have hp : payloads[t.delivered.length]? = some p := by
      rw [← heq]
      exact hp
    have hnext := hf.deliver t.holdback hp (by
      intro k q hk
      refine ⟨hk, ?_⟩
      rintro rfl
      rw [Drained] at hdt
      rw [hdt] at hk
      cases hk)
    have hadv : Advances payloads t (t.deliver t.holdback p) :=
      advances_deliver t.holdback p fun _ _ _ => rfl
    have hdone : Done (t.deliver t.holdback p) i := by
      left
      simp [Recv.deliver, heq]
    refine spec_bind (R := fun _ u => u.recv = { t with
        expected := t.expected.insert 0 (Sequence24.next (Sequence24.new t.delivered.length)) })
      (spec_modify fun u hu => by rw [← hu]; rfl) fun _ => ?_
    refine spec_bind ((deliverPayload_recv p).mono (fun _ hu => hu) (fun _ _ hu => hu)
      fun u hu => ?_) fun _ => ?_
    · rw [hu]
      exact hnext
    · exact (drainHoldback_spec hn _ hnext (Nat.le_refl _)).mono (fun _ hu => hu)
        (fun _ _ hu => ⟨hu.1, hu.2.1, hrt.trans (hadv.trans hu.2.2), hu.2.2.done i hi hdone⟩)
        fun _ hu => hu
  · have hne : ¬ Sequence24.new i = Sequence24.new t.delivered.length := fun hseq =>
      heq (order_injective hn (Nat.le_of_lt hi) hle hseq)
    have hhalf : HALF_RANGE = 8388608 := by decide
    rw [if_neg hne, Sequence24.isNewerThan_new (by omega) (by omega)]
    by_cases hlt : t.delivered.length < i
    · rw [if_pos (decide_eq_true hlt)]
      refine spec_lift_bind (fun u hu => by rw [hu]; exact hf) fun _ _ => ?_
      refine spec_modify fun u hu => ?_
      obtain ⟨hf', hd', hadv, hdone⟩ := hf.hold hn hdt hp hlt
      have hrecv : ({ u with orderedHoldback :=
          (u.orderedHoldback.insertIfNew ⟨0, Sequence24.new i⟩ p) } : Peer).recv =
            { t with holdback := t.holdback.insertIfNew ⟨0, Sequence24.new i⟩ p } := by
        rw [← hu]
        rfl
      rw [hrecv]
      exact ⟨hf', hd', hrt.trans hadv, hdone⟩
    · rw [if_neg (by simpa using hlt)]
      refine spec_pure fun u hu => ?_
      rw [hu]
      exact ⟨hf, hdt, hrt, .inl (by omega)⟩

end Faithful

/-! ### Fragments -/

section Fragments

variable {host : Host} {capacity : Nat} {payloads : List Payload}

/-- The assembly of a split id, empty when there is none. -/
def Recv.parts (r : Recv) (split : SplitHeader) : List (Option Payload) :=
  (r.reassembly[split.id]?).getD (List.replicate split.count none)

/-- The assembly of a split id after one more fragment. -/
def Recv.collect (r : Recv) (split : SplitHeader) (chunk : Payload) : List (Option Payload) :=
  storePart (r.parts split) split.index chunk

/-- The receiving side with the assembly of one split id replaced. -/
def Recv.withParts (r : Recv) (id : UInt16) (parts : List (Option Payload)) : Recv :=
  { r with reassembly := r.reassembly.insert id parts }

/-- The receiving side without the assembly of one split id. -/
def Recv.withoutParts (r : Recv) (id : UInt16) : Recv :=
  { r with reassembly := r.reassembly.erase id }

/-- What `accept_fragment` does to the receiving side when it succeeds. -/
inductive Collects (r : Recv) (split : SplitHeader) (chunk : Payload) :
    Option Payload → Recv → Prop where
  | more (h : (r.collect split chunk).any Option.isNone = true) :
      Collects r split chunk none (r.withParts split.id (r.collect split chunk))
  | complete (h : (r.collect split chunk).any Option.isNone = false) :
      Collects r split chunk (some ((r.collect split chunk).filterMap id).flatten)
        (r.withoutParts split.id)

theorem storeFragment_recv {split : SplitHeader} {parts : List (Option Payload)}
    {chunk : Payload} {r : Recv} :
    Spec (fun s => s.recv = r.withParts split.id parts)
      (storeFragment split parts chunk)
      (fun _ s => s.recv = r.withParts split.id (storePart parts split.index chunk))
      fun s => s.recv = r.withParts split.id parts := by
  unfold storeFragment
  split
  · rename_i hstored
    refine spec_pure fun s hs => ?_
    rw [hs, storePart, if_pos hstored]
  · refine spec_get_bind fun s hs => ?_
    refine spec_lift_bind (by rintro t rfl; exact hs) fun _ _ => ?_
    split
    · exact spec_throw (by rintro t rfl; exact hs)
    · refine spec_modify ?_
      rintro t rfl
      have hre : t.reassembly = r.reassembly.insert split.id parts := congrArg Recv.reassembly hs
      rw [Recv.withParts, ← BTreeMap.insert_insert_same r.reassembly split.id parts, ← hre]
      simp only [Recv.withParts, Peer.recv, Recv.mk.injEq] at hs ⊢
      tauto

theorem finishAssembly_recv {split : SplitHeader} {parts : List (Option Payload)} {r : Recv}
    {chunk : Payload} (hparts : parts = r.collect split chunk) :
    Spec (fun s => s.recv = r.withParts split.id parts)
      (finishAssembly split parts) (fun res s => Collects r split chunk res s.recv)
      fun _ => False := by
  subst hparts
  unfold finishAssembly
  split
  · rename_i hmissing
    refine spec_pure fun s hs => ?_
    rw [hs]
    exact .more hmissing
  · rename_i hcomplete
    refine spec_bind (R := fun _ s => s.recv = r.withoutParts split.id)
      (spec_modify fun s hs => ?_) fun _ => spec_pure fun s hs => ?_
    · have hre : s.reassembly = r.reassembly.insert split.id (r.collect split chunk) :=
        congrArg Recv.reassembly hs
      rw [Recv.withoutParts,
        ← BTreeMap.erase_insert_same r.reassembly split.id (r.collect split chunk), ← hre]
      simp only [Recv.withParts, Peer.recv, Recv.mk.injEq] at hs ⊢
      tauto
    · rw [hs]
      exact .complete (Bool.eq_false_iff.mpr hcomplete)

/-- A piece of payload `i`: its split header is that of the payload. -/
structure PieceOf (capacity : Nat) (payloads : List Payload) (i : Nat) (p : Payload)
    (split : SplitHeader) (chunk : Payload) : Prop where
  payload : payloads[i]? = some p
  count : split.count = chunkCount capacity p
  id : split.id = UInt16.ofNat i
  chunk : (chunks capacity p)[split.index]? = some chunk

theorem Faithful.parts {r : Recv} (h : Faithful capacity payloads r)
    (hn : payloads.length < 65536) {i : Nat} {p : Payload} {split : SplitHeader} {chunk : Payload}
    (hpiece : PieceOf capacity payloads i p split chunk) :
    (r.parts split).length = chunkCount capacity p ∧
      ∀ (j : Nat) (c : Payload), (r.parts split)[j]? = some (some c) →
        (chunks capacity p)[j]? = some c := by
  unfold Recv.parts
  cases hold : r.reassembly[split.id]? with
  | none =>
    rw [Option.getD_none]
    refine ⟨by rw [List.length_replicate, hpiece.count], ?_⟩
    intro j c hj
    rw [List.getElem?_replicate] at hj
    split at hj <;> cases hj
  | some parts =>
    rw [Option.getD_some]
    obtain ⟨i', p', hp', hid', hlen, hfaithful⟩ := h.assemblies _ _ hold
    obtain rfl : i' = i := splitId_injective hn (lt_of_getElem? hp')
      (lt_of_getElem? hpiece.payload) (hid'.symm.trans hpiece.id)
    obtain rfl : p' = p := Option.some.inj (hp'.symm.trans hpiece.payload)
    exact ⟨hlen, hfaithful⟩

theorem Faithful.collect {r : Recv} (h : Faithful capacity payloads r)
    (hn : payloads.length < 65536) {i : Nat} {p : Payload} {split : SplitHeader} {chunk : Payload}
    (hpiece : PieceOf capacity payloads i p split chunk) :
    (r.collect split chunk).length = chunkCount capacity p ∧
      ∀ (j : Nat) (c : Payload), (r.collect split chunk)[j]? = some (some c) →
        (chunks capacity p)[j]? = some c := by
  obtain ⟨hlen, hfaithful⟩ := h.parts hn hpiece
  unfold Recv.collect storePart
  split
  · exact ⟨hlen, hfaithful⟩
  · refine ⟨by rw [List.length_set, hlen], ?_⟩
    intro j c hj
    rw [List.getElem?_set] at hj
    split at hj
    · rename_i heq
      split at hj
      · cases hj
        rw [← heq]
        exact hpiece.chunk
      · cases hj
    · exact hfaithful j c hj

theorem Faithful.withParts {r : Recv} (h : Faithful capacity payloads r) {i : Nat} {p : Payload}
    {split : SplitHeader} {chunk : Payload} (hpiece : PieceOf capacity payloads i p split chunk)
    {parts : List (Option Payload)} (hlen : parts.length = chunkCount capacity p)
    (hparts : ∀ (j : Nat) (c : Payload), parts[j]? = some (some c) →
      (chunks capacity p)[j]? = some c) :
    Faithful capacity payloads (r.withParts split.id parts) := by
  refine ⟨h.delivered, h.expected, h.held, ?_⟩
  intro id ps hget
  simp only [Recv.withParts] at hget
  rw [BTreeMap.getElem?_insert_eq] at hget
  split at hget
  · rename_i heq
    cases hget
    exact ⟨i, p, hpiece.payload, heq ▸ hpiece.id, hlen, hparts⟩
  · exact h.assemblies id ps hget

theorem Faithful.withoutParts {r : Recv} (h : Faithful capacity payloads r) (id : UInt16) :
    Faithful capacity payloads (r.withoutParts id) := by
  refine ⟨h.delivered, h.expected, h.held, ?_⟩
  intro id' ps hget
  simp only [Recv.withoutParts] at hget
  rw [BTreeMap.getElem?_erase_eq] at hget
  split at hget
  · cases hget
  · exact h.assemblies id' ps hget

theorem join_complete (hc : 0 < capacity) {p : Payload} {parts : List (Option Payload)}
    (hlen : parts.length = chunkCount capacity p)
    (hparts : ∀ (j : Nat) (c : Payload), parts[j]? = some (some c) →
      (chunks capacity p)[j]? = some c)
    (hcomplete : parts.any Option.isNone = false) : (parts.filterMap id).flatten = p := by
  have heq : parts = (chunks capacity p).map some := by
    refine List.ext_getElem? fun j => ?_
    rw [List.getElem?_map]
    rcases Nat.lt_or_ge j parts.length with hj | hj
    · rw [List.getElem?_eq_getElem hj]
      cases hpart : parts[j] with
      | none =>
        have := List.any_eq_false.mp hcomplete parts[j] (List.getElem_mem hj)
        rw [hpart] at this
        exact absurd rfl this
      | some c =>
        rw [hparts j c (by rw [List.getElem?_eq_getElem hj, hpart])]
        rfl
    · rw [List.getElem?_eq_none hj, List.getElem?_eq_none (by rw [length_chunks]; omega)]
      rfl
  rw [heq, List.filterMap_map]
  simp [flatten_chunks hc]

theorem acceptFragment_recv (hn : payloads.length < 65536) {i : Nat} {p : Payload}
    {split : SplitHeader} {chunk : Payload} (hpiece : PieceOf capacity payloads i p split chunk)
    {r : Recv} (h : Faithful capacity payloads r) :
    Spec (fun s => s.recv = r) (acceptFragment split chunk)
      (fun res s => Collects r split chunk res s.recv)
      fun s => Faithful capacity payloads s.recv := by
  obtain ⟨hlen, hparts⟩ := h.parts hn hpiece
  have hopened := h.withParts hpiece hlen hparts
  unfold acceptFragment
  split
  · exact spec_throw fun s hs => by rw [hs]; exact h
  refine spec_get_bind fun s hs => ?_
  have hassembly : assemblyFor s split = r.parts split := by
    rw [← hs]
    rfl
  refine spec_lift_bind (by rintro t rfl; rw [hs]; exact h) fun _ _ => ?_
  split
  · exact spec_throw (by rintro t rfl; rw [hs]; exact h)
  rw [hassembly]
  refine spec_bind (R := fun _ t => t.recv = r.withParts split.id (r.parts split))
    (spec_modify ?_) fun _ => ?_
  · rintro t rfl
    rw [hassembly, ← hs]
    rfl
  split
  · exact spec_throw fun t ht => by rw [ht]; exact hopened
  · exact spec_bind (storeFragment_recv.mono (fun _ ht => ht) (fun _ _ ht => ht)
      fun t ht => by rw [ht]; exact hopened) fun _ =>
        (finishAssembly_recv rfl).mono (fun _ ht => ht) (fun _ _ ht => ht) fun _ ht => ht.elim

end Fragments

/-! ### Progress -/

section Progress

variable {host : Host} {capacity : Nat} {payloads : List Payload} {A : Nat → Prop}

/-- Payload `i` is still on its way: one of its datagrams has not arrived, and every piece that
    has arrived is in its assembly. -/
def Waiting (capacity : Nat) (payloads : List Payload) (A : Nat → Prop) (r : Recv) (i : Nat) :
    Prop :=
  (∃ m e, (entries capacity payloads)[m]? = some e ∧ e.order = i ∧ ¬ A m) ∧
    ∀ m e split, (entries capacity payloads)[m]? = some e → A m → e.order = i →
      e.split = some split → ∃ parts c, r.reassembly[split.id]? = some parts ∧
        parts[split.index]? = some (some c)

/-- Every payload is done or still on its way, when the datagrams in `A` have arrived. -/
def Progress (capacity : Nat) (payloads : List Payload) (A : Nat → Prop) (r : Recv) : Prop :=
  ∀ i < payloads.length, Done r i ∨ Waiting capacity payloads A r i

/-- One more arrival. -/
def Arrive (A : Nat → Prop) (m : Nat) : Nat → Prop := fun k => A k ∨ k = m

theorem entry_cases (hc : 0 < capacity) {m : Nat} {e : Entry}
    (he : (entries capacity payloads)[m]? = some e) :
    ∃ p, payloads[e.order]? = some p ∧
      ((e.split = none ∧ e.chunk = p) ∨
        ∃ split, e.split = some split ∧ PieceOf capacity payloads e.order p split e.chunk ∧
          1 < chunkCount capacity p) := by
  obtain ⟨i, p, hp, hfrag⟩ := mem_entries.mp (List.mem_of_getElem? he)
  obtain ⟨rfl, h⟩ := fragment_cases hc hfrag
  refine ⟨p, hp, ?_⟩
  rcases h with h | ⟨j, hsplit, hchunk, hcount⟩
  · exact .inl h
  · exact .inr ⟨_, hsplit, ⟨hp, rfl, rfl, hchunk⟩, hcount⟩

theorem Waiting.other (hc : 0 < capacity) (hn : payloads.length < 65536) {r t : Recv} {i k m : Nat}
    {e : Entry} (he : (entries capacity payloads)[m]? = some e) (hi : e.order = i) (hk : k ≠ i)
    (hsame : ∀ id, id ≠ UInt16.ofNat i → t.reassembly[id]? = r.reassembly[id]?)
    (h : Waiting capacity payloads A r k) : Waiting capacity payloads (Arrive A m) t k := by
  obtain ⟨⟨m', e', he', horder, hna⟩, hall⟩ := h
  have hne : ∀ {m' : Nat} {e' : Entry}, (entries capacity payloads)[m']? = some e' →
      e'.order = k → m' ≠ m := by
    rintro m' e' he' horder rfl
    rw [he] at he'
    cases he'
    exact hk (horder.symm.trans hi)
  refine ⟨⟨m', e', he', horder, ?_⟩, ?_⟩
  · rintro (ha | rfl)
    · exact hna ha
    · exact hne he' horder rfl
  · intro m'' e'' split he'' ha horder'' hsplit
    have ha : A m'' := ha.resolve_right (hne he'' horder'')
    obtain ⟨parts, c, hparts, hc'⟩ := hall m'' e'' split he'' ha horder'' hsplit
    refine ⟨parts, c, ?_, hc'⟩
    rw [hsame]
    · exact hparts
    · obtain ⟨p, hp, hcase⟩ := entry_cases hc he''
      rcases hcase with ⟨hnone, -⟩ | ⟨split', hsplit', hpiece, -⟩
      · rw [hnone] at hsplit
        cases hsplit
      · rw [hsplit] at hsplit'
        cases hsplit'
        rw [hpiece.id, horder'']
        intro hid
        obtain ⟨p', hp', -⟩ := entry_cases hc he
        rw [hi] at hp'
        exact hk (splitId_injective hn (by rw [← horder'']; exact lt_of_getElem? hp)
          (lt_of_getElem? hp') hid)

/-- Progress survives a fragment of payload `i` once payload `i` itself is accounted for. -/
theorem Progress.arrive (hc : 0 < capacity) (hn : payloads.length < 65536) {r t : Recv} {m : Nat}
    {e : Entry} (he : (entries capacity payloads)[m]? = some e)
    (hdone : ∀ k < payloads.length, Done r k → Done t k)
    (hsame : ∀ id, id ≠ UInt16.ofNat e.order → t.reassembly[id]? = r.reassembly[id]?)
    (hself : Done t e.order ∨ (Waiting capacity payloads A r e.order →
      Waiting capacity payloads (Arrive A m) t e.order))
    (h : Progress capacity payloads A r) : Progress capacity payloads (Arrive A m) t := by
  intro k hk
  rcases h k hk with hd | hw
  · exact .inl (hdone k hk hd)
  · by_cases heq : k = e.order
    · subst heq
      exact hself.imp_right fun hself => hself hw
    · exact .inr (hw.other hc hn he rfl heq hsame)

theorem collect_present {r : Recv} {split : SplitHeader} (chunk : Payload)
    (hlt : split.index < (r.parts split).length) :
    (∃ c, (r.collect split chunk)[split.index]? = some (some c)) ∧
      ∀ (j : Nat) (c : Payload), (r.parts split)[j]? = some (some c) →
        (r.collect split chunk)[j]? = some (some c) := by
  unfold Recv.collect storePart
  split
  · rename_i hstored
    refine ⟨?_, fun _ _ h => h⟩
    rw [List.getElem?_eq_getElem hlt] at hstored ⊢
    cases hpart : (r.parts split)[split.index] with
    | none => simp [hpart] at hstored
    | some c => exact ⟨c, rfl⟩
  · rename_i hstored
    refine ⟨⟨chunk, by simp [hlt]⟩, ?_⟩
    intro j c hj
    rw [List.getElem?_set]
    split
    · rename_i heq
      rw [heq, hj] at hstored
      exact absurd rfl hstored
    · exact hj

theorem Waiting.collect (hc : 0 < capacity) (hn : payloads.length < 65536) {r : Recv} {m : Nat}
    {e : Entry} {split : SplitHeader} {p : Payload}
    (he : (entries capacity payloads)[m]? = some e) (hsplit : e.split = some split)
    (hf : Faithful capacity payloads r)
    (hpiece : PieceOf capacity payloads e.order p split e.chunk)
    (hcount : 1 < chunkCount capacity p)
    (hmore : (r.collect split e.chunk).any Option.isNone = true)
    (h : Waiting capacity payloads A r e.order) :
    Waiting capacity payloads (Arrive A m) (r.withParts split.id (r.collect split e.chunk))
      e.order := by
  obtain ⟨hlen, -⟩ := hf.parts hn hpiece
  have hindex : split.index < (r.parts split).length := by
    rw [hlen, ← length_chunks]
    exact (List.getElem?_eq_some_iff.mp hpiece.chunk).1
  obtain ⟨hstored, hkept⟩ := collect_present e.chunk hindex
  -- every fragment of this payload names the same split id
  have hsplits : ∀ {m' : Nat} {e' : Entry} {split' : SplitHeader},
      (entries capacity payloads)[m']? = some e' →
      e'.order = e.order → e'.split = some split' → split'.id = split.id ∧
        split'.count = split.count := by
    intro m' e' split' he' horder hsplit'
    obtain ⟨p', hp', hcase⟩ := entry_cases hc he'
    rcases hcase with ⟨hnone, -⟩ | ⟨split'', hs'', hpiece', -⟩
    · rw [hnone] at hsplit'
      cases hsplit'
    · rw [hsplit'] at hs''
      cases hs''
      rw [horder] at hp'
      obtain rfl : p' = p := Option.some.inj (hp'.symm.trans hpiece.payload)
      exact ⟨by rw [hpiece'.id, hpiece.id, horder], by rw [hpiece'.count, hpiece.count]⟩
  -- the pieces that had arrived, and this one, are present
  have hpresent : ∀ m' e' split', (entries capacity payloads)[m']? = some e' → Arrive A m m' →
      e'.order = e.order → e'.split = some split' →
      ∃ c, (r.collect split e.chunk)[split'.index]? = some (some c) := by
    intro m' e' split' he' ha horder hsplit'
    obtain ⟨hid, hcnt⟩ := hsplits he' horder hsplit'
    rcases ha with ha | rfl
    · obtain ⟨parts, c, hparts, hj⟩ := h.2 m' e' split' he' ha horder hsplit'
      refine ⟨c, hkept _ c ?_⟩
      rw [Recv.parts, ← hid, hparts]
      exact hj
    · rw [he] at he'
      cases he'
      rw [hsplit] at hsplit'
      cases hsplit'
      exact hstored
  refine ⟨?_, ?_⟩
  · obtain ⟨part, hmem, hnone⟩ := List.any_eq_true.mp hmore
    obtain ⟨j, hj, hget⟩ := List.mem_iff_getElem.mp hmem
    have hj' : j < chunkCount capacity p := by
      rw [(hf.collect hn hpiece).1] at hj
      exact hj
    obtain ⟨e', hmem', hsplit'⟩ := piece_mem_fragments (i := e.order) hcount hj'
    obtain ⟨m', hm', hget'⟩ := List.mem_iff_getElem.mp
      (mem_entries.mpr ⟨e.order, p, hpiece.payload, hmem'⟩)
    have he' : (entries capacity payloads)[m']? = some e' := by
      rw [List.getElem?_eq_getElem hm', hget']
    have horder : e'.order = e.order := (fragment_cases hc hmem').1
    refine ⟨m', e', he', horder, ?_⟩
    intro ha
    obtain ⟨c, hc'⟩ := hpresent m' e' _ he' ha horder hsplit'
    rw [List.getElem?_eq_getElem hj, hget] at hc'
    cases hc'
    cases hnone
  · intro m' e' split' he' ha horder hsplit'
    obtain ⟨c, hc'⟩ := hpresent m' e' split' he' ha horder hsplit'
    refine ⟨r.collect split e.chunk, c, ?_, hc'⟩
    rw [(hsplits he' horder hsplit').1]
    simp [Recv.withParts]

end Progress

end RevyCraft.RakNet
