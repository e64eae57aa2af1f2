/-
  RevyCraft/RakNetSchedule.lean
  =============================
  **Reliable-ordered delivery over whole network schedules.**

  A schedule hands the receiver datagrams of the sender, any number of times
  and in any order, between the other things its actor does.  One arrival
  keeps the safety invariant of `RevyCraft.RakNetDelivery`; while the 24-bit
  datagram numbers of the run are distinct it also accounts for the fragment
  it carries (`Tracks`), so a receiver that met no error has everything once
  every datagram has arrived.
-/
import RevyCraft.RakNetDelivery

namespace RevyCraft.RakNet

open Std Act

/-! ### One frame -/

section Frames

variable {host : Host} {capacity : Nat} {payloads : List Payload} {A : Nat → Prop}

theorem arrive_of_mem {m : Nat} (h : A m) : Arrive A m = A := by
  funext k
  refine propext ⟨?_, .inl⟩
  rintro (hk | rfl)
  · exact hk
  · exact h

/-- What a fragment leaves behind once it passed the duplicate windows. -/
structure Settles (capacity : Nat) (payloads : List Payload) (A : Nat → Prop) (m : Nat)
    (r t : Recv) : Prop where
  faithful : Faithful capacity payloads t
  drained : Drained t
  datagrams : t.seenDatagrams = r.seenDatagrams
  reliable : t.seenReliable = r.seenReliable
  progress : Progress capacity payloads A r → Progress capacity payloads (Arrive A m) t

theorem acceptOrdered_settles (hc : 0 < capacity) (hn : payloads.length < 65536) {m : Nat}
    {e : Entry} (he : (entries capacity payloads)[m]? = some e) {p : Payload}
    (hp : payloads[e.order]? = some p) {r t : Recv} (hf : Faithful capacity payloads t)
    (hd : Drained t) (hdatagrams : t.seenDatagrams = r.seenDatagrams)
    (hreliable : t.seenReliable = r.seenReliable)
    (hdone : ∀ k < payloads.length, Done r k → Done t k)
    (hsame : ∀ id, id ≠ UInt16.ofNat e.order → t.reassembly[id]? = r.reassembly[id]?) :
    Spec (fun s => s.recv = t) (acceptOrdered host 0 (Sequence24.new e.order) p)
      (fun _ s => Settles capacity payloads A m r s.recv)
      fun s => Faithful capacity payloads s.recv := by
  refine (acceptOrdered_spec hn hp hf hd).mono (fun _ h => h) ?_ fun _ h => h
  rintro _ s ⟨hf', hd', hadv, hself⟩
  refine ⟨hf', hd', hadv.datagrams.trans hdatagrams, hadv.reliable.trans hreliable, ?_⟩
  refine Progress.arrive hc hn he (fun k hk h => hadv.done k hk (hdone k hk h)) ?_ (.inl hself)
  intro id hid
  rw [hadv.reassembly]
  exact hsame id hid

theorem assembleFrame_settles (hc : 0 < capacity) (hn : payloads.length < 65536) {m : Nat}
    {e : Entry} (he : (entries capacity payloads)[m]? = some e) (reliable : ReliableSequence)
    {r : Recv} (hf : Faithful capacity payloads r) (hd : Drained r) :
    Spec (fun s => s.recv = r)
      (assembleFrame host (orderedFrame reliable (Sequence24.new e.order) e.split e.chunk))
      (fun _ s => Settles capacity payloads A m r s.recv)
      fun s => Faithful capacity payloads s.recv := by
  obtain ⟨p, hp, ⟨hnone, rfl⟩ | ⟨split, hsome, hpiece, hcount⟩⟩ := entry_cases hc he
  · rw [hnone]
    exact acceptOrdered_settles hc hn he hp hf hd rfl rfl (fun _ _ h => h) fun _ _ => rfl
  · rw [hsome]
    refine spec_bind (acceptFragment_recv hn hpiece hf) fun joined => ?_
    obtain ⟨hlen, hparts⟩ := hf.collect hn hpiece
    cases joined with
    | none =>
      refine spec_pure fun s hs => ?_
      obtain ⟨t, ht⟩ : ∃ t, t = s.recv := ⟨_, rfl⟩
      rw [← ht] at hs ⊢
      cases hs with
      | more hmore =>
        refine ⟨hf.withParts hpiece hlen hparts, hd, rfl, rfl, fun hprogress => ?_⟩
        refine hprogress.arrive (r := r) hc hn he (fun _ _ h => h) ?_
          (.inr fun hw => hw.collect hc hn he hsome hf hpiece hcount hmore)
        intro id hid
        rw [Recv.withParts, BTreeMap.getElem?_insert_eq, if_neg]
        rw [hpiece.id]
        exact Ne.symm hid
    | some whole =>
      intro s hs
      obtain ⟨t, ht⟩ : ∃ t, t = s.recv := ⟨_, rfl⟩
      rw [← ht] at hs
      cases hs with
      | complete hcomplete =>
        rw [join_complete hc hlen hparts hcomplete]
        refine acceptOrdered_settles (r := r) hc hn he hp (hf.withoutParts split.id) hd rfl rfl
          (fun _ _ h => h) ?_ s ht.symm
        intro id hid
        rw [Recv.withoutParts, BTreeMap.getElem?_erase_eq, if_neg]
        rw [hpiece.id]
        exact Ne.symm hid

end Frames

/-! ### Duplicate windows -/

section Windows

variable {capacity : Nat} {payloads : List Payload} {A : Nat → Prop}

theorem length_le_of_mem_fragments {i : Nat} {p : Payload} {e : Entry}
    (h : e ∈ fragments capacity i p) : e.chunk.length ≤ capacity := by
  unfold fragments at h
  split at h
  · rename_i hempty
    rw [List.mem_singleton.mp h, List.isEmpty_iff.mp hempty]
    exact Nat.zero_le _
  · obtain ⟨⟨chunk, j⟩, hmem, rfl⟩ := List.mem_map.mp h
    exact length_le_of_mem_chunks (List.fst_mem_of_mem_zipIdx hmem)

theorem mem_expireWindow {limit : Nat} {order : List Sequence24} {seen : BTreeSet Sequence24}
    {s : Sequence24} (h : s ∈ (expireWindow limit order seen).2) : s ∈ seen := by
  induction order generalizing seen with
  | nil => exact h
  | cons expired rest ih =>
    unfold expireWindow at h
    split at h
    · exact (ExtTreeSet.mem_erase.mp (ih h)).2
    · exact h

/-- Every remembered number is that of a datagram that has arrived. -/
def SeenWithin (A : Nat → Prop) (count : Nat) (seen : BTreeSet Sequence24) : Prop :=
  ∀ q ∈ seen, ∃ m, A m ∧ m < count ∧ q = Sequence24.new m

/-- The windows remember arrived datagrams only, and every payload is accounted for. -/
structure Tracks (capacity : Nat) (payloads : List Payload) (A : Nat → Prop) (r : Recv) :
    Prop where
  datagrams : SeenWithin A (entries capacity payloads).length r.seenDatagrams
  reliable : SeenWithin A (entries capacity payloads).length r.seenReliable
  progress : Progress capacity payloads A r

theorem SeenWithin.arrive {count m : Nat} {seen : BTreeSet Sequence24}
    (h : SeenWithin A count seen) : SeenWithin (Arrive A m) count seen := by
  intro q hq
  obtain ⟨k, hk, hlt, rfl⟩ := h q hq
  exact ⟨k, .inl hk, hlt, rfl⟩

theorem SeenWithin.remember {limit count m : Nat} {order : List Sequence24}
    {seen : BTreeSet Sequence24} (h : SeenWithin A count seen) (hm : m < count) :
    SeenWithin (Arrive A m) count
      (expireWindow limit order (seen.insert (Sequence24.new m))).2 := by
  intro q hq
  rcases ExtTreeSet.mem_insert.mp (mem_expireWindow hq) with heq | hq
  · exact ⟨m, .inr rfl, hm, (LawfulEqCmp.eq_of_compare heq).symm⟩
  · exact h.arrive q hq

theorem SeenWithin.arrived {count m : Nat} {seen : BTreeSet Sequence24}
    (h : SeenWithin A count seen) (hcount : count ≤ 2 ^ 24) (hm : m < count)
    (hseen : Sequence24.new m ∈ seen) : A m := by
  obtain ⟨k, hk, hlt, heq⟩ := h _ hseen
  have hval := congrArg Fin.val heq
  simp only [Sequence24.new_val] at hval
  obtain rfl : m = k := by omega
  exact hk

end Windows

/-! ### One datagram -/

section Datagrams

variable {host : Host} {capacity : Nat} {payloads : List Payload} {A : Nat → Prop}

/-- The invariant of a receiver that met no error: safe, and complete as far as the datagrams in
    `A` go, while the datagram numbers of the run are distinct. -/
structure Receives (capacity : Nat) (payloads : List Payload) (A : Nat → Prop) (r : Recv) :
    Prop where
  faithful : Faithful capacity payloads r
  drained : Drained r
  tracks : (entries capacity payloads).length ≤ 2 ^ 24 → Tracks capacity payloads A r

theorem Receives.again {m : Nat} {r : Recv} (h : Receives capacity payloads A r)
    (hseen : (entries capacity payloads).length ≤ 2 ^ 24 → A m) :
    Receives capacity payloads (Arrive A m) r := by
  refine ⟨h.faithful, h.drained, fun hcount => ?_⟩
  rw [arrive_of_mem (hseen hcount)]
  exact h.tracks hcount

variable (host) in
theorem receiveFrame_receives (hc : 0 < capacity) (hn : payloads.length < 65536) {m : Nat}
    {e : Entry} (he : (entries capacity payloads)[m]? = some e) {r : Recv}
    (hf : Faithful capacity payloads r) (hd : Drained r)
    (htracks : (entries capacity payloads).length ≤ 2 ^ 24 →
      SeenWithin (Arrive A m) (entries capacity payloads).length r.seenDatagrams ∧
      SeenWithin A (entries capacity payloads).length r.seenReliable ∧
      Progress capacity payloads A r) :
    Spec (fun s => s.recv = r)
      (receiveFrame host
        (orderedFrame (Sequence24.new m) (Sequence24.new e.order) e.split e.chunk))
      (fun _ s => Receives capacity payloads (Arrive A m) s.recv)
      fun s => Faithful capacity payloads s.recv := by
  have hm := (List.getElem?_eq_some_iff.mp he).1
  refine spec_get_bind fun s hs => ?_
  split
  · rename_i hcontains
    refine spec_pure ?_
    rintro t rfl
    rw [hs]
    refine ⟨hf, hd, fun hcount => ?_⟩
    obtain ⟨hdatagrams, hreliable, hprogress⟩ := htracks hcount
    have hseen : Sequence24.new m ∈ r.seenReliable := by
      rw [← hs]
      exact hcontains
    have ha := hreliable.arrived hcount hm hseen
    rw [arrive_of_mem ha] at hdatagrams ⊢
    exact ⟨hdatagrams, hreliable, hprogress⟩
  · obtain ⟨window, hwindow⟩ : ∃ window, window = (expireWindow (duplicateWindowLimit s.budgets)
      (s.seenReliableOrder ++ [Sequence24.new m]) (s.seenReliable.insert (Sequence24.new m))).2 :=
      ⟨_, rfl⟩
    have hseen : s.seenReliable = r.seenReliable := congrArg Recv.seenReliable hs
    refine spec_bind (R := fun _ t => t.recv = { r with seenReliable := window })
      (spec_modify ?_) fun _ => ?_
    · rintro t rfl
      rw [← hs, hwindow]
      rfl
    have hf' : Faithful capacity payloads { r with seenReliable := window } :=
      ⟨hf.delivered, hf.expected, hf.held, hf.assemblies⟩
    refine (assembleFrame_settles (A := A) hc hn he _ hf' hd).mono (fun _ h => h) ?_ fun _ h => h
    rintro _ t ⟨hf', hd', hdatagrams', hreliable', hprogress'⟩
    refine ⟨hf', hd', fun hcount => ?_⟩
    obtain ⟨hdatagrams, hreliable, hprogress⟩ := htracks hcount
    refine ⟨?_, ?_, hprogress' hprogress⟩
    · rw [hdatagrams']
      exact hdatagrams
    · rw [hreliable', hwindow, hseen]
      exact hreliable.remember hm

/-- The numbers of an entry fit the wire: a capacity below `2^13` bounds the piece, and the number
    of pieces was checked when it was sent. -/
theorem entry_fitsWire (hc : 0 < capacity) (hcap : capacity < 2 ^ 13)
    (hcounts : ∀ p ∈ payloads, chunkCount capacity p < 2 ^ 32) {m : Nat} {e : Entry}
    (he : (entries capacity payloads)[m]? = some e) : FitsWire e.split e.chunk := by
  obtain ⟨i, p, hp, hfrag⟩ := mem_entries.mp (List.mem_of_getElem? he)
  have hchunk := length_le_of_mem_fragments hfrag
  refine ⟨by omega, ?_⟩
  intro header hheader
  obtain ⟨-, ⟨hnone, -⟩ | ⟨j, hsome, hj, -⟩⟩ := fragment_cases hc hfrag
  · rw [hnone] at hheader
    cases hheader
  · rw [hsome] at hheader
    cases hheader
    have hcount := hcounts p (List.mem_of_getElem? hp)
    have hlt := (List.getElem?_eq_some_iff.mp hj).1
    rw [length_chunks] at hlt
    exact ⟨hcount, by dsimp only; omega⟩

theorem decodeAcknowledgement_datagram (m : Nat) (e : Entry) :
    decodeAcknowledgement (datagramBytes m e) = .ok none := by
  have hid : (0x84 : UInt8) ≠ 0xa0 ∧ (0x84 : UInt8) ≠ 0xc0 := by decide
  simp only [datagramBytes, encodeDatagram, List.cons_append, List.nil_append,
    decodeAcknowledgement, if_pos hid]

/-- The frame of datagram number `m`. -/
def entryFrame (m : Nat) (e : Entry) : Frame :=
  orderedFrame (Sequence24.new m) (Sequence24.new e.order) e.split e.chunk

/-- What the datagram window does with datagram number `m`: a remembered number is dropped, a new
    one is remembered and its frame handed on. -/
inductive Admits (r : Recv) (m : Nat) (e : Entry) : List Frame → Recv → Prop where
  | duplicate (h : Sequence24.new m ∈ r.seenDatagrams) : Admits r m e [] r
  | fresh (limit : Nat) (order : List Sequence24) : Admits r m e [entryFrame m e]
      { r with seenDatagrams :=
        (expireWindow limit order (r.seenDatagrams.insert (Sequence24.new m))).2 }

theorem admitDatagram_admits {m : Nat} {e : Entry} (hfit : FitsWire e.split e.chunk) {r : Recv}
    (hf : Faithful capacity payloads r) :
    Spec (fun s => s.recv = r) (admitDatagram host (datagramBytes m e))
      (fun frames s => Admits r m e frames s.recv)
      fun s => Faithful capacity payloads s.recv := by
  have hkeep : ∀ s : Peer, s.recv = r → Faithful capacity payloads s.recv := by
    rintro s rfl
    exact hf
  refine spec_bind ((consult_leavesRecv host.clock r).mono (fun _ h => h) (fun _ _ h => h) hkeep)
    fun now => ?_
  refine spec_bind (R := fun _ s => s.recv = r) (spec_modify fun _ h => h) fun _ => ?_
  rw [decodeAcknowledgement_datagram]
  refine spec_lift_bind hkeep fun acknowledgement hack => ?_
  cases hack
  refine spec_get_bind fun s hs => ?_
  refine spec_lift_bind (by rintro t rfl; exact hkeep t hs) fun datagram hdecoded => ?_
  obtain rfl : datagram = ⟨Sequence24.new m, [entryFrame m e]⟩ := by
    rcases decodeDatagram_encodeDatagram s.budgets (Sequence24.new m) (Sequence24.new m)
      (Sequence24.new e.order) hfit with hok | ⟨_, _, _, herr⟩
    · exact Except.ok.inj (hdecoded.symm.trans hok)
    · cases hdecoded.symm.trans herr
  refine spec_bind ((sendTo_leavesRecv _ r).mono (by rintro t rfl; exact hs) (fun _ _ h => h) hkeep)
    fun _ => spec_get_bind fun s hs => ?_
  split
  · rename_i hcontains
    refine spec_pure ?_
    rintro t rfl
    rw [hs]
    refine .duplicate ?_
    rw [← hs]
    exact hcontains
  · refine spec_bind (R := fun _ t => t.recv = { r with seenDatagrams :=
        (expireWindow (duplicateWindowLimit s.budgets) (s.seenDatagramOrder ++ [Sequence24.new m])
          (r.seenDatagrams.insert (Sequence24.new m))).2 }) (spec_modify ?_) fun _ => ?_
    · rintro t rfl
      rw [← hs]
      rfl
    refine spec_bind ((noteDatagram_leavesRecv _ _).mono (fun _ h => h) (fun _ _ h => h) ?_)
      fun _ => spec_pure fun t ht => ?_
    · intro t ht
      rw [ht]
      exact ⟨hf.delivered, hf.expected, hf.held, hf.assemblies⟩
    · rw [ht]
      exact .fresh _ _

theorem receiveDatagram_receives (hc : 0 < capacity) (hn : payloads.length < 65536) {m : Nat}
    {e : Entry} (he : (entries capacity payloads)[m]? = some e) (hfit : FitsWire e.split e.chunk)
    {r : Recv} (h : Receives capacity payloads A r) :
    Spec (fun s => s.recv = r) (receiveDatagram host (datagramBytes m e))
      (fun _ s => Receives capacity payloads (Arrive A m) s.recv)
      fun s => Faithful capacity payloads s.recv := by
  have hm := (List.getElem?_eq_some_iff.mp he).1
  refine spec_bind (admitDatagram_admits hfit h.faithful) fun frames s hs => ?_
  obtain ⟨t, ht⟩ : ∃ t, t = s.recv := ⟨_, rfl⟩
  rw [← ht] at hs
  cases hs with
  | duplicate hseen =>
    change Receives capacity payloads (Arrive A m) s.recv
    rw [← ht]
    exact h.again fun hcount => (h.tracks hcount).datagrams.arrived hcount hm hseen
  | fresh limit order =>
    have hframe := receiveFrame_receives host (A := A) hc hn he
      (r := { r with seenDatagrams :=
        (expireWindow limit order (r.seenDatagrams.insert (Sequence24.new m))).2 })
      ⟨h.faithful.delivered, h.faithful.expected, h.faithful.held, h.faithful.assemblies⟩ h.drained
      fun hcount => ⟨(h.tracks hcount).datagrams.remember hm, (h.tracks hcount).reliable,
        (h.tracks hcount).progress⟩
    exact spec_bind hframe (fun _ => spec_pure fun _ hs => hs) s ht.symm

end Datagrams

/-! ### Whole schedules -/

section Schedules

variable {capacity : Nat} {payloads : List Payload} {A : Nat → Prop}

/-- What the receiving actor does: a datagram arrives, or it sends on its own account. -/
inductive ReceiverEvent where
  | arrive (bytes : Payload)
  | act (event : SenderEvent)
  deriving DecidableEq

def ReceiverEvent.run (host : Host) : ReceiverEvent → PeerM Unit
  | .arrive bytes => receiveDatagram host bytes
  | .act event => event.run host

def receiverRun (host : Host) (schedule : List ReceiverEvent) : PeerM Unit :=
  forEach (ReceiverEvent.run host) schedule

theorem senderEvent_leavesRecv (host : Host) (event : SenderEvent) :
    LeavesRecv (event.run host) := by
  cases event with
  | send payload => exact sendReliableOrdered_leavesRecv payload
  | acknowledge acknowledgement => exact applyAcknowledgement_leavesRecv acknowledgement
  | timer => exact onTimer_leavesRecv

theorem datagramBytes_number {m m' : Nat} {e e' : Entry} (hm : m < 2 ^ 24) (hm' : m' < 2 ^ 24)
    (h : datagramBytes m e = datagramBytes m' e') : m = m' := by
  have hread : ∀ k f, Read.sequence ((datagramBytes k f).drop 1) =
      .ok (Sequence24.new k, encodeFrame (entryFrame k f)) := by
    intro k f
    simp only [datagramBytes, encodeDatagram, List.cons_append, List.nil_append,
      List.drop_succ_cons, List.drop_zero, Read.sequence_append]
    rfl
  have heq := (hread m e).symm.trans (h ▸ hread m' e')
  have hval := congrArg Fin.val (congrArg Prod.fst (Except.ok.inj heq))
  simp only [Sequence24.new_val] at hval
  omega

/-- Every datagram of the schedule has arrived in `A`. -/
def ArrivedIn (capacity : Nat) (payloads : List Payload) (A : Nat → Prop)
    (schedule : List ReceiverEvent) : Prop :=
  ∀ m e, (entries capacity payloads)[m]? = some e → .arrive (datagramBytes m e) ∈ schedule → A m

/-- The run lemma: from a good receiver every schedule of the sender's datagrams leads to a good
    receiver, and to a safe one when it stops early. -/
theorem receiverRun_receives (host : Host) (hc : 0 < capacity) (hn : payloads.length < 65536)
    (hfit : ∀ (m : Nat) (e : Entry), (entries capacity payloads)[m]? = some e →
      FitsWire e.split e.chunk)
    (schedule : List ReceiverEvent)
    (hfed : ∀ bytes, .arrive bytes ∈ schedule → IsDatagram (entries capacity payloads) bytes)
    {r : Recv} (h : Receives capacity payloads A r) :
    Spec (fun s => s.recv = r) (receiverRun host schedule)
      (fun _ s => ∃ A' : Nat → Prop, (∀ k, A k → A' k) ∧
        ((entries capacity payloads).length ≤ 2 ^ 24 →
          ArrivedIn capacity payloads A' schedule) ∧
        Receives capacity payloads A' s.recv)
      fun s => Faithful capacity payloads s.recv := by
  induction schedule generalizing A r with
  | nil =>
    refine spec_pure fun s hs => ⟨A, fun _ hk => hk, fun _ m e _ hmem => ?_, hs ▸ h⟩
    cases hmem
  | cons event rest ih =>
    have hrest : ∀ bytes, .arrive bytes ∈ rest → IsDatagram (entries capacity payloads) bytes :=
      fun bytes hmem => hfed bytes (List.mem_cons_of_mem _ hmem)
    cases event with
    | act event =>
      refine spec_bind ((senderEvent_leavesRecv host event r).mono (fun _ hs => hs)
        (fun _ _ hs => hs) fun s hs => hs ▸ h.faithful) fun _ => ?_
      refine (ih hrest h).mono (fun _ hs => hs) ?_ fun _ hs => hs
      rintro _ s ⟨A', hsub, harrived, hgood⟩
      refine ⟨A', hsub, fun hcount m e he hmem => ?_, hgood⟩
      exact harrived hcount m e he ((List.mem_cons.mp hmem).resolve_left (by simp))
    | arrive bytes =>
      obtain ⟨m, e, he, rfl⟩ := hfed bytes List.mem_cons_self
      refine spec_bind (receiveDatagram_receives hc hn he (hfit m e he) h) fun _ t ht => ?_
      refine (ih hrest ht).mono (fun s hs => hs) ?_ (fun _ hs => hs) t rfl
      rintro _ s ⟨A', hsub, harrived, hgood⟩
      refine ⟨A', fun k hk => hsub k (.inl hk), fun hcount m' e' he' hmem => ?_, hgood⟩
      rcases List.mem_cons.mp hmem with heq | hmem
      · have hlt := (List.getElem?_eq_some_iff.mp he).1
        have hlt' := (List.getElem?_eq_some_iff.mp he').1
        obtain rfl : m' = m := datagramBytes_number (by omega) (by omega)
          (ReceiverEvent.arrive.inj heq)
        exact hsub m' (.inr rfl)
      · exact harrived hcount m' e' he' hmem

theorem Receives.complete {r : Recv} (h : Receives capacity payloads A r)
    (hcount : (entries capacity payloads).length ≤ 2 ^ 24)
    (hall : ∀ m e, (entries capacity payloads)[m]? = some e → A m) : r.delivered = payloads := by
  have hle := h.faithful.delivered_le
  refine h.faithful.delivered.eq_of_length (Nat.le_antisymm hle (Nat.le_of_not_lt fun hlt => ?_))
  rcases (h.tracks hcount).progress _ hlt with hdone | ⟨⟨m, e, he, -, hna⟩, -⟩
  · rcases hdone with hlt' | hheld
    · exact Nat.lt_irrefl _ hlt'
    · rw [h.drained] at hheld
      cases hheld
  · exact hna (hall m e he)

theorem receives_new (hc : 0 < capacity) (remoteAddr : SocketAddr) (mtu : Nat)
    (budgets : RakNetBudgets) (now : Int) :
    Receives capacity payloads (fun _ => False) (Peer.new remoteAddr mtu budgets now).recv := by
  refine ⟨⟨List.nil_prefix, ?_, ?_, ?_⟩, ?_, fun _ => ⟨?_, ?_, ?_⟩⟩
  · simp [Peer.recv, Peer.new]
    rfl
  · intro k p hk
    simp [Peer.recv, Peer.new] at hk
  · intro id parts hid
    simp [Peer.recv, Peer.new] at hid
  · simp [Drained, Peer.recv, Peer.new]
  · intro q hq
    simp [Peer.recv, Peer.new] at hq
  · intro q hq
    simp [Peer.recv, Peer.new] at hq
  · intro i hi
    refine .inr ⟨?_, fun _ _ _ _ hm => hm.elim⟩
    obtain ⟨e, hmem⟩ := exists_fragment hc i payloads[i]
    obtain ⟨m, hm, hget⟩ := List.mem_iff_getElem.mp
      (mem_entries.mpr ⟨i, _, List.getElem?_eq_getElem hi, hmem⟩)
    exact ⟨m, e, by rw [List.getElem?_eq_getElem hm, hget], (fragment_cases hc hmem).1, id⟩

/-- **Reliable-ordered delivery is exact.**  The sender sent `SenderEvent.payloads events`; the
    schedule hands its datagrams to the receiver in any order and number.  Whatever happens, what
    was delivered is a prefix of what was sent, and it is everything once every datagram has
    arrived at a receiver that met no error, if the datagrams of the run have distinct numbers. -/
theorem receiverRun_delivers_exactly (sendHost recvHost : Host) (sendAddr recvAddr : SocketAddr)
    (sendBudgets recvBudgets : RakNetBudgets) (sendNow recvNow : Int) {mtu recvMtu : Nat}
    (hlow : 576 ≤ mtu) (hhigh : mtu ≤ 8255) (events : List SenderEvent)
    (hn : (SenderEvent.payloads events).length < 65536) {sender : Peer}
    (hsender : senderRun sendHost events (Peer.new sendAddr mtu sendBudgets sendNow) =
      (.ok (), sender))
    (schedule : List ReceiverEvent)
    (hfed : ∀ bytes, .arrive bytes ∈ schedule → bytes ∈ sender.sent)
    {result : Except RakNetError Unit} {receiver : Peer}
    (hreceiver : receiverRun recvHost schedule (Peer.new recvAddr recvMtu recvBudgets recvNow) =
      (result, receiver)) :
    receiver.delivered <+: SenderEvent.payloads events ∧
      (result = .ok () → (∀ bytes ∈ sender.sent, .arrive bytes ∈ schedule) →
        (entries (mtu - DATAGRAM_HEADER_BUDGET) (SenderEvent.payloads events)).length ≤ 2 ^ 24 →
        receiver.delivered = SenderEvent.payloads events) := by
  have hheader : DATAGRAM_HEADER_BUDGET = 64 := rfl
  have hc : 0 < mtu - DATAGRAM_HEADER_BUDGET := by omega
  have hsent := senderRun_sent sendHost events (sent_new sendAddr mtu sendBudgets sendNow) hsender
  rw [List.nil_append] at hsent
  have hrun := receiverRun_receives recvHost hc hn
    (fun _ _ he => entry_fitsWire hc (by omega) hsent.counts he) schedule
    (fun bytes hmem => hsent.emits.sent_sound bytes (hfed bytes hmem))
    (receives_new hc recvAddr recvMtu recvBudgets recvNow)
  cases result with
  | error e =>
    exact ⟨(hrun.error rfl hreceiver).delivered, fun hok => by cases hok⟩
  | ok u =>
    obtain ⟨A, -, harrived, hgood⟩ := hrun.ok rfl hreceiver
    refine ⟨hgood.faithful.delivered, fun _ hall hcount => hgood.complete hcount ?_⟩
    intro m e he
    exact harrived hcount m e he (hall _ (hsent.emits.sent_all m e he))

/-- A run of three payloads; the second is RakNet's disconnection notification. -/
def closingEvents : List SenderEvent := [.send [0xfe], .send [0x15], .send [0xff]]

def closingSender : Except RakNetError Unit × Peer :=
  senderRun quietHost closingEvents (Peer.new unspecifiedAddress 576 .default 0)

/-- Every datagram of the run arrives, the last one first. -/
def closingSchedule : List ReceiverEvent := closingSender.2.sent.reverse.map .arrive

def closingReceiver : Except RakNetError Unit × Peer :=
  receiverRun quietHost closingSchedule (Peer.new unspecifiedAddress 576 .default 0)

/-- No budget is exceeded and every datagram arrives, but a disconnection notification among the
    payloads stops the receiver: the payload held back behind it is never delivered. -/
theorem disconnection_stops_delivery :
    closingSender.1 = .ok () ∧ (∀ bytes ∈ closingSender.2.sent, .arrive bytes ∈ closingSchedule) ∧
      closingReceiver.1 = .error .closed ∧
      closingReceiver.2.delivered = [[0xfe], [0x15]] ∧
      closingReceiver.2.delivered ≠ SenderEvent.payloads closingEvents := by
  decide +kernel

/-- Two payloads, the first in two fragments, whose datagrams arrive in reverse order. -/
def splitEvents : List SenderEvent := [.send (List.replicate 513 0xfe), .send [0xff]]

def splitSender : Except RakNetError Unit × Peer :=
  senderRun quietHost splitEvents (Peer.new unspecifiedAddress 576 .default 0)

def splitReceiver : Except RakNetError Unit × Peer :=
  receiverRun quietHost (splitSender.2.sent.reverse.map .arrive)
    (Peer.new unspecifiedAddress 576 .default 0)

theorem receiverRun_delivers_exactly_reversed :
    splitReceiver.2.delivered = SenderEvent.payloads splitEvents := by
  have hsender : splitSender = (.ok (), splitSender.2) :=
    Prod.fst_eq_iff.mp (by decide +kernel)
  have hreceiver : splitReceiver = (.ok (), splitReceiver.2) :=
    Prod.fst_eq_iff.mp (by decide +kernel)
  have hexact := receiverRun_delivers_exactly quietHost quietHost unspecifiedAddress
    unspecifiedAddress .default .default 0 0 (by decide) (by decide) splitEvents (by decide +kernel)
    hsender (splitSender.2.sent.reverse.map .arrive) (by simp) hreceiver
  exact hexact.2 rfl (by simp) (by decide +kernel)

end Schedules

end RevyCraft.RakNet
