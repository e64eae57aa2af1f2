/-
  RevyCraft/RakNetTransfer.lean
  =============================
  **Every live RakNet peer can be transferred** — as long as no fragment
  assembly grows past the payload budget.

  `validate_structure` re-checks some fifteen limits that the running actor
  enforces under other names.  `Peer.Inv` collects what the actor maintains
  for them; each operation of `RakNetPeer` keeps it, and it implies
  admission.  One check is not maintained: a reassembled payload is limited
  only by `max_reassembly_bytes_per_peer`, while the snapshot admits queued
  and held payloads up to `max_payload_bytes`.  `FrameWithin` is the exact
  condition on a received fragment under which this does not happen, and
  `oversized_assembly_is_refused` is a run that violates it.
-/
import RevyCraft.RakNetPeer

namespace RevyCraft.RakNet

open Std Act

/-! ### What the actor maintains -/

def MtuOk (b : RakNetBudgets) (mtu : Nat) : Prop :=
  576 ≤ mtu ∧ mtu ≤ max (min b.maxDatagramBytes (2 ^ 16 - 1)) 576

def DatagramOk (b : RakNetBudgets) (d : UnackedDatagram) : Prop :=
  d.bytes.length ≤ b.maxDatagramBytes ∧ 1 ≤ d.attempts ∧ d.attempts ≤ MAX_RETRANSMIT_ATTEMPTS

def UnackedOk (b : RakNetBudgets) (unacked : BTreeMap DatagramSequence UnackedDatagram) : Prop :=
  unacked.size ≤ b.maxUnackedDatagrams ∧
    ∀ (k : DatagramSequence) (d : UnackedDatagram), unacked[k]? = some d → DatagramOk b d

/-- An assembly table has parts, and no part exceeds the payload budget. -/
def PartsOk (b : RakNetBudgets) (parts : List (Option Payload)) : Prop :=
  parts ≠ [] ∧ ∀ part, some part ∈ parts → part.length ≤ b.maxPayloadBytes

/-- The two counters are the totals of the reassembly table and within their budgets. -/
def ReassemblyOk (b : RakNetBudgets) (table : BTreeMap UInt16 (List (Option Payload)))
    (bytes parts : Nat) : Prop :=
  parts = BTreeMap.total List.length table ∧ bytes = BTreeMap.total partBytes table ∧
    parts ≤ min b.maxReassemblyPartsPerPeer usizeMax ∧
    bytes ≤ min b.maxReassemblyBytesPerPeer usizeMax ∧
    ∀ (id : UInt16) (ps : List (Option Payload)), table[id]? = some ps → PartsOk b ps

/-- A duplicate window lists each remembered sequence once, within the limit. -/
def WindowOk (b : RakNetBudgets) (order : List Sequence24) (seen : BTreeSet Sequence24) : Prop :=
  order.Nodup ∧ order.length ≤ duplicateWindowLimit b ∧ ∀ s, s ∈ seen ↔ s ∈ order

def HoldbackOk (b : RakNetBudgets) (held : BTreeMap HoldKey Payload) : Prop :=
  held.size ≤ b.maxOrderedHoldback ∧
    ∀ (k : HoldKey) (p : Payload), held[k]? = some p → p.length ≤ b.maxPayloadBytes

def InboxOk (b : RakNetBudgets) (inbox : List Payload) : Prop :=
  inbox.length ≤ b.applicationQueue ∧ ∀ p ∈ inbox, p.length ≤ b.maxPayloadBytes

def Peer.Inv (b : RakNetBudgets) (s : Peer) : Prop :=
  s.budgets = b ∧ MtuOk b s.mtu ∧ UnackedOk b s.unacked ∧
    ReassemblyOk b s.reassembly s.reassemblyBytes s.reassemblyParts ∧
    WindowOk b s.seenDatagramOrder s.seenDatagrams ∧
    WindowOk b s.seenReliableOrder s.seenReliable ∧
    HoldbackOk b s.orderedHoldback ∧ InboxOk b s.inbox

/-! ### Sending keeps the invariant -/

section Sending

variable {b : RakNetBudgets} (host : Host)

/-- "Keeps the invariant, and says nothing after a failure." -/
abbrev Keeps {α : Type} (b : RakNetBudgets) (x : PeerM α) : Prop :=
  Spec (Peer.Inv b) x (fun _ => Peer.Inv b) fun _ => True

theorem unobserved_inv : Unobserved (Peer.Inv b) := fun _ _ _ hs => hs

theorem UnackedOk.insert {unacked : BTreeMap DatagramSequence UnackedDatagram}
    (h : UnackedOk b unacked) {k : DatagramSequence} {d : UnackedDatagram} (hd : DatagramOk b d)
    (hsize : (unacked.insert k d).size ≤ b.maxUnackedDatagrams) :
    UnackedOk b (unacked.insert k d) := by
  refine ⟨hsize, ?_⟩
  intro k' d' hk'
  rw [BTreeMap.getElem?_insert_eq] at hk'
  split at hk'
  · cases hk'
    exact hd
  · exact h.2 k' d' hk'

theorem one_le_attempts : 1 ≤ MAX_RETRANSMIT_ATTEMPTS := by decide

theorem sendFrame_keeps (frame : Frame) : Keeps b (sendFrame host frame) := by
  refine spec_get_bind fun s hs => ?_
  refine spec_lift_bind (fun _ _ => trivial) fun _ hroom => ?_
  have hroom := le_of_ensureBudget hroom
  -- the table is not touched between the room check and the insertion
  refine spec_bind (R := fun _ t => Peer.Inv b t ∧ t.unacked = s.unacked)
    (spec_modify (by rintro t rfl; exact ⟨hs, rfl⟩)) fun _ => ?_
  refine spec_lift_bind (fun _ _ => trivial) fun _ hbytes => ?_
  have hbytes := le_of_ensureBudget hbytes
  refine spec_bind (sendTo_spec host _ (fun _ _ _ ht => ht) fun _ _ => trivial) fun _ => ?_
  refine spec_bind (consult_spec _ fun _ _ _ ht => ht) fun now => ?_
  refine spec_modify ?_
  rintro t ⟨⟨hbud, hmtu, hun, hrest⟩, heq⟩
  obtain ⟨hb, -⟩ := hs
  rw [hb] at hroom hbytes
  rw [← heq] at hroom
  refine ⟨hbud, hmtu, hun.insert ⟨hbytes, Nat.le_refl 1, one_le_attempts⟩ ?_, hrest⟩
  exact Nat.le_trans ExtTreeMap.size_insert_le hroom

theorem sendFragment_keeps (order : OrderSequence) (split : Option SplitHeader)
    (payload : Payload) : Keeps b (sendFragment host order split payload) := by
  refine spec_get_bind fun s hs => ?_
  refine spec_bind (R := fun _ => Peer.Inv b) (spec_modify ?_) fun _ => sendFrame_keeps host _
  rintro t rfl
  exact hs

theorem sendReliableOrdered_keeps (payload : Payload) :
    Keeps b (sendReliableOrdered host payload) := by
  refine spec_get_bind fun s hs => ?_
  dsimp only
  split
  · exact spec_throw fun _ _ => trivial
  refine spec_bind (R := fun _ => Peer.Inv b) (spec_modify (by rintro t rfl; exact hs)) fun _ => ?_
  split
  · exact spec_throw fun _ _ => trivial
  refine spec_bind (R := fun _ => Peer.Inv b) (spec_modify fun _ ht => ht) fun _ => ?_
  refine spec_bind (R := fun _ => Peer.Inv b) (spec_forEach ?_) fun _ => ?_
  · rintro ⟨chunk, index⟩ -
    exact sendFragment_keeps host _ _ _
  · split
    · exact sendFragment_keeps host _ _ _
    · exact spec_pure fun _ ht => ht

theorem sendApplication_keeps (payload : Payload) : Keeps b (sendApplication host payload) := by
  refine spec_get_bind fun s hs => ?_
  split
  · exact spec_throw fun _ _ => trivial
  refine spec_lift_bind (fun _ _ => trivial) fun _ _ => ?_
  exact (sendReliableOrdered_keeps host payload).mono (by rintro t rfl; exact hs)
    (fun _ _ h => h) fun _ h => h

theorem retransmit_keeps (sequence : DatagramSequence) : Keeps b (retransmit host sequence) := by
  refine spec_get_bind fun s hs => ?_
  cases hd : s.unacked[sequence]? with
  | none => exact spec_pure (by rintro t rfl; exact hs)
  | some datagram =>
    dsimp only
    split
    · exact spec_throw fun _ _ => trivial
    rename_i hattempts
    refine Spec.mono (P := fun t => Peer.Inv b t ∧ t.unacked = s.unacked) ?_
      (by rintro t rfl; exact ⟨hs, rfl⟩) (fun _ _ h => h) fun _ h => h
    refine spec_bind (sendTo_spec host _ (fun _ _ _ ht => ht) fun _ _ => trivial) fun _ => ?_
    refine spec_bind (consult_spec _ fun _ _ _ ht => ht) fun now => ?_
    refine spec_modify ?_
    rintro t ⟨⟨hbud, hmtu, hun, hrest⟩, heq⟩
    rw [← heq] at hd
    have hok := hun.2 sequence datagram hd
    refine ⟨hbud, hmtu, hun.insert ⟨hok.1, Nat.succ_pos _, Nat.lt_of_not_le hattempts⟩ ?_, hrest⟩
    rw [ExtTreeMap.size_insert, ExtTreeMap.contains_eq_isSome_getElem?, hd]
    exact hun.1

end Sending

/-! ### Duplicate windows -/

theorem expireWindow_ok (limit : Nat) (order : List Sequence24) (seen : BTreeSet Sequence24)
    (hnd : order.Nodup) (hmem : ∀ s, s ∈ seen ↔ s ∈ order) :
    (expireWindow limit order seen).1.Nodup ∧ (expireWindow limit order seen).1.length ≤ limit ∧
      ∀ s, s ∈ (expireWindow limit order seen).2 ↔ s ∈ (expireWindow limit order seen).1 := by
  induction order generalizing seen with
  | nil => exact ⟨List.nodup_nil, Nat.zero_le _, hmem⟩
  | cons expired rest ih =>
    unfold expireWindow
    split
    · obtain ⟨hout, hrest⟩ := List.nodup_cons.mp hnd
      refine ih _ hrest fun s => ?_
      rw [ExtTreeSet.mem_erase, hmem, List.mem_cons]
      constructor
      · rintro ⟨hne, rfl | hs⟩
        · exact absurd ReflCmp.compare_self hne
        · exact hs
      · intro hs
        refine ⟨fun heq => hout ?_, .inr hs⟩
        rw [LawfulEqCmp.eq_of_compare heq]
        exact hs
    · rename_i hlen
      exact ⟨hnd, Nat.le_of_not_lt hlen, hmem⟩

/-- A set holds the sequences of the queue beside it. -/
def Mirrors (order : List Sequence24) (seen : BTreeSet Sequence24) : Prop :=
  order.Nodup ∧ ∀ k, k ∈ seen ↔ k ∈ order

theorem Mirrors.insert {order : List Sequence24} {seen : BTreeSet Sequence24}
    (h : Mirrors order seen) {k : Sequence24} (hk : seen.contains k = false) :
    Mirrors (order ++ [k]) (seen.insert k) := by
  obtain ⟨hnd, hmem⟩ := h
  have hk : k ∉ order := by
    rw [← hmem, ← ExtTreeSet.contains_iff_mem, hk]
    exact Bool.false_ne_true
  refine ⟨?_, fun s => ?_⟩
  · exact List.nodup_append.mpr ⟨hnd, List.nodup_singleton k, by
      rintro a ha c hc rfl
      exact hk (List.mem_singleton.mp hc ▸ ha)⟩
  · rw [ExtTreeSet.mem_insert, hmem, List.mem_append, List.mem_singleton]
    constructor
    · rintro (heq | hs)
      · exact .inr (LawfulEqCmp.eq_of_compare heq).symm
      · exact .inl hs
    · rintro (hs | rfl)
      · exact .inr hs
      · exact .inl ReflCmp.compare_self

theorem WindowOk.remember {b : RakNetBudgets} {order : List Sequence24}
    {seen : BTreeSet Sequence24} (h : WindowOk b order seen) {k : Sequence24}
    (hk : seen.contains k = false) :
    WindowOk b (expireWindow (duplicateWindowLimit b) (order ++ [k]) (seen.insert k)).1
      (expireWindow (duplicateWindowLimit b) (order ++ [k]) (seen.insert k)).2 := by
  obtain ⟨hnd, -, hmem⟩ := h
  have hinsert := Mirrors.insert ⟨hnd, hmem⟩ hk
  exact expireWindow_ok _ _ _ hinsert.1 hinsert.2

/-! ### The reassembly table -/

variable {ps parts : List (Option Payload)} {index : Nat} {split : SplitHeader} {payload : Payload}
  {run run' : PeerRun}

section Reassembly

variable {b : RakNetBudgets} {table : BTreeMap UInt16 (List (Option Payload))} {bytes parts : Nat}

@[simp] theorem partBytes_replicate_none (count : Nat) : partBytes (List.replicate count none) = 0 := by
  simp [partBytes]

theorem partBytes_set (h : ps[index]? = some none) (payload : Payload) :
    partBytes (ps.set index (some payload)) = partBytes ps + payload.length := by
  induction ps generalizing index with
  | nil => simp at h
  | cons part rest ih =>
    cases index with
    | zero =>
      obtain rfl : part = none := by simpa using h
      simp [partBytes, Nat.add_comm]
    | succ index =>
      have := @ih index (by simpa using h)
      simp only [partBytes, List.set_cons_succ, List.map_cons, List.sum_cons] at this ⊢
      omega

theorem length_joined (ps : List (Option Payload)) :
    (ps.filterMap id).flatten.length = partBytes ps := by
  induction ps with
  | nil => rfl
  | cons part rest ih =>
    cases part with
    | none | some part => simpa [partBytes] using ih

/-- The two counters are the totals of the reassembly table. -/
def Counted (table : BTreeMap UInt16 (List (Option Payload))) (bytes parts : Nat) : Prop :=
  parts = BTreeMap.total List.length table ∧ bytes = BTreeMap.total partBytes table

theorem Counted.opened (h : Counted table bytes parts) {fresh : Nat}
    (hfresh : fresh = if (table[split.id]?).isNone then split.count else 0) :
    Counted (table.insert split.id ((table[split.id]?).getD (List.replicate split.count none)))
      bytes (parts + fresh) := by
  obtain ⟨hparts, hbytes⟩ := h
  cases hid : table[split.id]? with
  | some ps =>
    have hzero : fresh = 0 := by simpa [hid] using hfresh
    subst hzero
    rw [Option.getD_some, BTreeMap.insert_same hid]
    exact ⟨hparts, hbytes⟩
  | none =>
    have hfresh : fresh = split.count := by simpa [hid] using hfresh
    subst hfresh
    rw [Option.getD_none]
    constructor
    · rw [BTreeMap.total_insert_new _ hid, List.length_replicate, hparts, Nat.add_comm]
    · rw [BTreeMap.total_insert_new _ hid, partBytes_replicate_none, hbytes, Nat.zero_add]

theorem Counted.stored (h : Counted table bytes parts) {id : UInt16} (hid : table[id]? = some ps)
    (hindex : ps[index]? = some none) (payload : Payload) :
    Counted (table.insert id (ps.set index (some payload))) (bytes + payload.length) parts := by
  obtain ⟨hparts, hbytes⟩ := h
  constructor
  · have htotal := BTreeMap.total_replace List.length hid (ps.set index (some payload))
    rw [List.length_set] at htotal
    omega
  · have htotal := BTreeMap.total_replace partBytes hid (ps.set index (some payload))
    rw [partBytes_set hindex] at htotal
    omega

theorem Counted.closed (h : Counted table bytes parts) {id : UInt16} (hid : table[id]? = some ps) :
    Counted (table.erase id) (bytes - partBytes ps) (parts - ps.length) := by
  obtain ⟨hparts, hbytes⟩ := h
  have htp := BTreeMap.total_erase List.length hid
  have htb := BTreeMap.total_erase partBytes hid
  exact ⟨by omega, by omega⟩

/-- Looking up a split id, or opening a fresh table for it within the parts budget. -/
theorem ReassemblyOk.opened (h : ReassemblyOk b table bytes parts) (hcount : split.count ≠ 0)
    {fresh : Nat} (hfresh : fresh = if (table[split.id]?).isNone then split.count else 0)
    (hroom : parts + fresh ≤ min b.maxReassemblyPartsPerPeer usizeMax) :
    ReassemblyOk b (table.insert split.id
      ((table[split.id]?).getD (List.replicate split.count none))) bytes (parts + fresh) := by
  obtain ⟨hparts, hbytes, -, hble, hok⟩ := h
  have hcounted := Counted.opened ⟨hparts, hbytes⟩ hfresh
  refine ⟨hcounted.1, hcounted.2, hroom, hble, ?_⟩
  intro id ps hget
  rw [BTreeMap.getElem?_insert_eq] at hget
  split at hget
  · cases hget
    cases hid : table[split.id]? with
    | some ps => exact hok split.id ps hid
    | none =>
      refine ⟨by simpa using hcount, ?_⟩
      intro part hmem
      cases (List.mem_replicate.mp hmem).2
  · exact hok id ps hget

theorem ReassemblyOk.stored (h : ReassemblyOk b table bytes parts) {id : UInt16}
    (hid : table[id]? = some ps) (hindex : ps[index]? = some none)
    (hp : payload.length ≤ b.maxPayloadBytes)
    (hroom : bytes + payload.length ≤ min b.maxReassemblyBytesPerPeer usizeMax) :
    ReassemblyOk b (table.insert id (ps.set index (some payload))) (bytes + payload.length)
      parts := by
  obtain ⟨hparts, hbytes, hple, -, hok⟩ := h
  have hcounted := Counted.stored ⟨hparts, hbytes⟩ hid hindex payload
  refine ⟨hcounted.1, hcounted.2, hple, hroom, ?_⟩
  intro id' ps' hget
  rw [BTreeMap.getElem?_insert_eq] at hget
  split at hget
  · cases hget
    obtain ⟨hne, hle⟩ := hok id ps hid
    refine ⟨by simpa using hne, ?_⟩
    intro part hmem
    rcases List.mem_or_eq_of_mem_set hmem with hmem | heq
    · exact hle part hmem
    · cases heq
      exact hp
  · exact hok id' ps' hget

theorem ReassemblyOk.closed (h : ReassemblyOk b table bytes parts) {id : UInt16}
    (hid : table[id]? = some ps) :
    ReassemblyOk b (table.erase id) (bytes - partBytes ps) (parts - ps.length) := by
  obtain ⟨hparts, hbytes, hple, hble, hok⟩ := h
  have hcounted := Counted.closed ⟨hparts, hbytes⟩ hid
  refine ⟨hcounted.1, hcounted.2, by omega, by omega, ?_⟩
  intro id' ps' hget
  rw [BTreeMap.getElem?_erase_eq] at hget
  split at hget
  · cases hget
  · exact hok id' ps' hget

end Reassembly

/-! ### Delivery keeps the invariant -/

section Receiving

variable {b : RakNetBudgets} (host : Host)

theorem inboxPush_keeps (hp : payload.length ≤ b.maxPayloadBytes) :
    Keeps b (inboxPush payload) := by
  refine spec_get_bind fun s hs => ?_
  refine spec_lift_bind (fun _ _ => trivial) fun _ hroom => ?_
  have hroom := le_of_ensureBudget hroom
  refine spec_modify ?_
  rintro t rfl
  obtain ⟨hb, hmtu, hun, hre, hwd, hwr, hh, hin⟩ := hs
  refine ⟨hb, hmtu, hun, hre, hwd, hwr, hh, ?_, ?_⟩
  · rw [hb] at hroom
    simpa using hroom
  · intro p hmem
    rcases List.mem_append.mp hmem with hmem | hmem
    · exact hin.2 p hmem
    · rw [List.mem_singleton.mp hmem]
      exact hp

theorem deliverPayload_keeps (hp : payload.length ≤ b.maxPayloadBytes) :
    Keeps b (deliverPayload host payload) := by
  refine spec_bind (R := fun _ => Peer.Inv b) (spec_modify fun _ hs => hs) fun _ => ?_
  refine spec_lift_bind (fun _ _ => trivial) fun request _ => ?_
  cases request with
  | some requestTime =>
    refine spec_get_bind fun s hs => ?_
    refine Spec.mono (P := Peer.Inv b) ?_ (by rintro t rfl; exact hs) (fun _ _ h => h) fun _ h => h
    exact spec_bind (consult_spec _ unobserved_inv) fun _ => sendReliableOrdered_keeps host _
  | none =>
    refine spec_lift_bind (fun _ _ => trivial) fun ping _ => ?_
    cases ping with
    | some pingTime =>
      exact spec_bind (consult_spec _ unobserved_inv) fun _ => sendReliableOrdered_keeps host _
    | none =>
      refine spec_get_bind fun s hs => ?_
      refine Spec.mono (P := Peer.Inv b) ?_ (by rintro t rfl; exact hs) (fun _ _ h => h)
        fun _ h => h
      have hpush : Keeps b (if s.accepted then inboxPush payload else pure ()) := by
        split
        · exact inboxPush_keeps hp
        · exact spec_pure fun _ ht => ht
      cases payload with
      | nil => exact hpush
      | cons id rest =>
        dsimp only
        split
        · refine spec_bind (R := fun _ => Peer.Inv b) (spec_modify fun _ ht => ht) fun _ => ?_
          refine spec_bind (consult_spec _ unobserved_inv) fun acceptOpen => ?_
          split
          · exact spec_pure fun _ ht => ht
          · exact spec_throw fun _ _ => trivial
        · split
          · exact spec_pure fun _ ht => ht
          · split
            · exact spec_throw fun _ _ => trivial
            · exact hpush

theorem drainHoldback_keeps (channel : UInt8) (turns : Nat) :
    Keeps b (drainHoldback host channel turns) := by
  induction turns with
  | zero => exact spec_pure fun _ hs => hs
  | succ turns ih =>
    refine spec_get_bind fun s hs => ?_
    dsimp only
    cases hheld : s.orderedHoldback[(⟨channel, s.orderedExpected[channel]?.getD 0⟩ : HoldKey)]? with
    | none => exact spec_pure (by rintro t rfl; exact hs)
    | some payload =>
      obtain ⟨hb, hmtu, hun, hre, hwd, hwr, hh, hin⟩ := hs
      refine spec_bind (R := fun _ => Peer.Inv b) (spec_modify ?_) fun _ => ?_
      · rintro t rfl
        refine ⟨hb, hmtu, hun, hre, hwd, hwr, ⟨?_, ?_⟩, hin⟩
        · exact Nat.le_trans ExtTreeMap.size_erase_le hh.1
        · intro k p hk
          rw [BTreeMap.getElem?_erase_eq] at hk
          split at hk
          · cases hk
          · exact hh.2 k p hk
      · exact spec_bind (deliverPayload_keeps host (hh.2 _ _ hheld)) fun _ => ih

theorem acceptOrdered_keeps (channel : UInt8) (sequence : OrderSequence)
    (hp : payload.length ≤ b.maxPayloadBytes) :
    Keeps b (acceptOrdered host channel sequence payload) := by
  refine spec_get_bind fun s hs => ?_
  refine spec_bind (R := fun _ t => Peer.Inv b t ∧ t.orderedHoldback = s.orderedHoldback)
    (spec_modify (by rintro t rfl; exact ⟨hs, rfl⟩)) fun _ => ?_
  split
  · refine spec_bind (R := fun _ => Peer.Inv b) (spec_modify fun _ ht => ht.1) fun _ => ?_
    exact spec_bind (deliverPayload_keeps host hp) fun _ => drainHoldback_keeps host channel _
  · split
    · refine spec_lift_bind (fun _ _ => trivial) fun _ hroom => ?_
      have hroom := le_of_ensureBudget hroom
      refine spec_modify ?_
      rintro t ⟨⟨hb, hmtu, hun, hre, hwd, hwr, hh, hin⟩, heq⟩
      obtain ⟨hsb, -⟩ := hs
      rw [hsb, ← heq] at hroom
      refine ⟨hb, hmtu, hun, hre, hwd, hwr, ⟨?_, ?_⟩, hin⟩
      · exact Nat.le_trans ExtTreeMap.size_insertIfNew_le hroom
      · intro k p hk
        rw [ExtTreeMap.getElem?_insertIfNew] at hk
        split at hk
        · cases hk
          exact hp
        · exact hh.2 k p hk
    · exact spec_pure fun _ ht => ht.1

/-! ### Fragments -/

/-- If this fragment completes its assembly, the assembly is within the payload budget. -/
def FragmentWithin (b : RakNetBudgets) (s : Peer) (split : SplitHeader) (payload : Payload) : Prop :=
  (storePart (assemblyFor s split) split.index payload).any Option.isNone = false →
    partBytes (storePart (assemblyFor s split) split.index payload) ≤ b.maxPayloadBytes

theorem saturatingAdd_le {n m limit : Nat} (h : saturatingAdd n m ≤ limit)
    (hfit : n + m ≤ usizeMax) : n + m ≤ min limit usizeMax := by
  unfold saturatingAdd at h
  omega

theorem join_none_of_lt (hlt : index < parts.length) (h : ¬ parts[index]?.join.isSome = true) :
    parts[index]? = some none := by
  rw [List.getElem?_eq_getElem hlt] at h ⊢
  cases hp : parts[index] with
  | none => rfl
  | some p => simp [hp] at h

theorem storeFragment_spec (hp : payload.length ≤ b.maxPayloadBytes)
    (hindex : split.index < parts.length) :
    Spec (fun s => Peer.Inv b s ∧ s.reassembly[split.id]? = some parts)
      (storeFragment split parts payload)
      (fun _ s => Peer.Inv b s ∧ s.reassembly[split.id]? =
        some (storePart parts split.index payload)) fun _ => True := by
  unfold storeFragment
  split
  · rename_i hstored
    refine spec_pure fun t ht => ⟨ht.1, ?_⟩
    rw [storePart, if_pos hstored]
    exact ht.2
  · rename_i hstored
    refine spec_get_bind fun s hs => ?_
    refine spec_lift_bind (fun _ _ => trivial) fun _ hbytes => ?_
    have hbytes := le_of_ensureBudget hbytes
    split
    · exact spec_throw fun _ _ => trivial
    rename_i hfit
    refine spec_modify ?_
    rintro t rfl
    obtain ⟨⟨hb, hmtu, hun, hre, hrest⟩, hid⟩ := hs
    have hroom := saturatingAdd_le (hb ▸ hbytes) (Nat.le_of_not_lt hfit)
    have hset : storePart parts split.index payload = parts.set split.index (some payload) :=
      if_neg hstored
    refine ⟨⟨hb, hmtu, hun, ?_, hrest⟩, by simp⟩
    rw [hset]
    exact hre.stored hid (join_none_of_lt hindex hstored) hp hroom

theorem finishAssembly_spec
    (hwithin : parts.any Option.isNone = false → partBytes parts ≤ b.maxPayloadBytes) :
    Spec (fun s => Peer.Inv b s ∧ s.reassembly[split.id]? = some parts)
      (finishAssembly split parts)
      (fun r s => Peer.Inv b s ∧ ∀ p ∈ r, p.length ≤ b.maxPayloadBytes) fun _ => True := by
  unfold finishAssembly
  split
  · exact spec_pure fun t ht => ⟨ht.1, fun p hp => by cases hp⟩
  · rename_i hcomplete
    refine spec_bind (R := fun _ => Peer.Inv b) (spec_modify ?_) fun _ => ?_
    · rintro t ⟨⟨hb, hmtu, hun, hre, hrest⟩, hid⟩
      exact ⟨hb, hmtu, hun, hre.closed hid, hrest⟩
    · refine spec_pure fun t ht => ⟨ht, ?_⟩
      intro p hmem
      cases hmem
      rw [length_joined]
      exact hwithin (Bool.eq_false_iff.mpr hcomplete)

theorem acceptFragment_spec (hp : payload.length ≤ b.maxPayloadBytes) :
    Spec (fun s => Peer.Inv b s ∧ FragmentWithin b s split payload) (acceptFragment split payload)
      (fun r s => Peer.Inv b s ∧ ∀ p ∈ r, p.length ≤ b.maxPayloadBytes) fun _ => True := by
  unfold acceptFragment
  split
  · exact spec_throw fun _ _ => trivial
  rename_i hrange
  rw [not_or, Nat.not_le] at hrange
  refine spec_get_bind fun s hs => ?_
  obtain ⟨⟨hb, hmtu, hun, hre, hrest⟩, hwithin⟩ := hs
  refine spec_lift_bind (fun _ _ => trivial) fun _ hroom => ?_
  have hroom := le_of_ensureBudget hroom
  split
  · exact spec_throw fun _ _ => trivial
  rename_i hfit
  have hopen := hre.opened hrange.1 rfl
    (saturatingAdd_le (hb ▸ hroom) (Nat.le_of_not_lt hfit))
  refine spec_bind (R := fun _ t => Peer.Inv b t ∧
      t.reassembly[split.id]? = some (assemblyFor s split)) (spec_modify ?_) fun _ => ?_
  · rintro t rfl
    exact ⟨⟨hb, hmtu, hun, hopen, hrest⟩, by simp⟩
  split
  · exact spec_throw fun _ _ => trivial
  rename_i hlen
  rw [Decidable.not_not] at hlen
  exact spec_bind (storeFragment_spec hp (hlen ▸ hrange.2)) fun _ => finishAssembly_spec hwithin

theorem routeFrame_keeps (frame : Frame) (hp : payload.length ≤ b.maxPayloadBytes) :
    Keeps b (routeFrame host frame payload) := by
  unfold routeFrame
  split
  · cases frame.sequenceIndex with
    | none => exact spec_throw fun _ _ => trivial
    | some sequence =>
      refine spec_get_bind fun s hs => ?_
      refine Spec.mono (P := Peer.Inv b) ?_ (by rintro t rfl; exact hs) (fun _ _ h => h)
        fun _ h => h
      split
      · exact spec_pure fun _ ht => ht
      · exact spec_bind (R := fun _ => Peer.Inv b) (spec_modify fun _ ht => ht) fun _ =>
          deliverPayload_keeps host hp
  · split
    · cases frame.orderIndex with
      | none => exact spec_throw fun _ _ => trivial
      | some sequence => exact acceptOrdered_keeps host _ _ hp
    · exact deliverPayload_keeps host hp

/-- **The condition on a received frame.**  A fragment that is not dropped as a duplicate and
    completes its assembly completes one of at most `max_payload_bytes`. -/
def FrameWithin (b : RakNetBudgets) (s : Peer) (frame : Frame) : Prop :=
  ∀ split ∈ frame.split, (frame.reliableIndex.all fun index => !s.seenReliable.contains index) →
    FragmentWithin b s split frame.payload

theorem assembleFrame_spec {frame : Frame} (hp : frame.payload.length ≤ b.maxPayloadBytes) :
    Spec (fun s => Peer.Inv b s ∧ ∀ split ∈ frame.split, FragmentWithin b s split frame.payload)
      (assembleFrame host frame) (fun _ => Peer.Inv b) fun _ => True := by
  unfold assembleFrame
  cases hsplit : frame.split with
  | none => exact (routeFrame_keeps host frame hp).mono (fun _ h => h.1) (fun _ _ h => h) fun _ h => h
  | some split =>
    refine spec_bind ((acceptFragment_spec hp).mono (fun s hs => ⟨hs.1, hs.2 split rfl⟩)
      (fun _ _ h => h) fun _ h => h) fun r => ?_
    cases r with
    | none => exact spec_pure fun _ ht => ht.1
    | some payload =>
      intro t ht
      exact routeFrame_keeps host frame (ht.2 payload rfl) t ht.1

theorem receiveFrame_spec {frame : Frame} (hp : frame.payload.length ≤ b.maxPayloadBytes) :
    Spec (fun s => Peer.Inv b s ∧ FrameWithin b s frame) (receiveFrame host frame)
      (fun _ => Peer.Inv b) fun _ => True := by
  unfold receiveFrame
  cases hindex : frame.reliableIndex with
  | none =>
    refine (assembleFrame_spec host hp).mono (fun s hs => ⟨hs.1, ?_⟩) (fun _ _ h => h) fun _ h => h
    intro split hsplit
    exact hs.2 split hsplit (by rw [hindex]; rfl)
  | some index =>
    refine spec_get_bind fun s hs => ?_
    dsimp only
    split
    · exact spec_pure (by rintro t rfl; exact hs.1)
    · rename_i hnew
      have hnew : s.seenReliable.contains index = false := Bool.eq_false_iff.mpr hnew
      refine spec_bind (spec_modify ?_) fun _ => assembleFrame_spec host hp
      rintro t rfl
      obtain ⟨⟨hb, hmtu, hun, hre, hwd, hwr, hrest⟩, hwithin⟩ := hs
      refine ⟨⟨hb, hmtu, hun, hre, hwd, ?_, hrest⟩, ?_⟩
      · dsimp only
        rw [hb]
        exact hwr.remember hnew
      · intro split hsplit
        exact hwithin split hsplit (by rw [hindex, Option.all_some, hnew]; rfl)

/-! ### Datagrams, acknowledgements and timers -/

theorem applyAcknowledgement_keeps (acknowledgement : Acknowledgement) :
    Keeps b (applyAcknowledgement host acknowledgement) := by
  cases acknowledgement with
  | ack ranges =>
    refine spec_modify fun s hs => ?_
    obtain ⟨hb, hmtu, hun, hrest⟩ := hs
    refine ⟨hb, hmtu, ⟨?_, ?_⟩, hrest⟩
    · exact Nat.le_trans ExtTreeMap.size_filter_le_size hun.1
    · intro k d hk
      rw [ExtTreeMap.getElem?_filter'] at hk
      obtain ⟨hget, -⟩ := Option.filter_eq_some_iff.mp hk
      exact hun.2 k d hget
  | nack ranges =>
    refine spec_get_bind fun s hs => ?_
    refine (spec_forEach fun sequence _ => retransmit_keeps host sequence).mono
      (by rintro t rfl; exact hs) (fun _ _ h => h) fun _ h => h

theorem noteDatagram_keeps (sequence : DatagramSequence) : Keeps b (noteDatagram host sequence) := by
  refine spec_get_bind fun s hs => ?_
  refine Spec.mono (P := Peer.Inv b) ?_ (by rintro t rfl; exact hs) (fun _ _ h => h) fun _ h => h
  cases s.lastDatagram with
  | none => exact spec_modify fun _ ht => ht
  | some previous =>
    have hupdate : Keeps b (if Sequence24.isNewerThan sequence previous = true then
        Act.modify fun s : Peer => { s with lastDatagram := some sequence } else pure ()) := by
      split
      · exact spec_modify fun _ ht => ht
      · exact spec_pure fun _ ht => ht
    dsimp only
    split
    · exact spec_bind (sendTo_spec host _ unobserved_inv fun _ _ => trivial) fun _ => hupdate
    · exact hupdate

/-- The first half of `receive_datagram` keeps the invariant and hands on decoded frames. -/
theorem admitDatagram_spec (bytes : Payload) :
    Spec (Peer.Inv b) (admitDatagram host bytes)
      (fun frames s => Peer.Inv b s ∧ ∀ f ∈ frames, f.payload.length ≤ b.maxPayloadBytes)
      fun _ => True := by
  refine spec_bind (consult_spec _ unobserved_inv) fun now => ?_
  refine spec_bind (R := fun _ => Peer.Inv b) (spec_modify fun _ hs => hs) fun _ => ?_
  refine spec_lift_bind (fun _ _ => trivial) fun acknowledgement _ => ?_
  cases acknowledgement with
  | some acknowledgement =>
    exact spec_bind (applyAcknowledgement_keeps host acknowledgement) fun _ =>
      spec_pure fun t ht => ⟨ht, fun f hf => by cases hf⟩
  | none =>
    refine spec_get_bind fun s hs => ?_
    refine spec_lift_bind (fun _ _ => trivial) fun datagram hdecode => ?_
    have hframes := decodeDatagram_payload_le hdecode
    rw [hs.1] at hframes
    refine Spec.mono (P := Peer.Inv b) ?_ (by rintro t rfl; exact hs) (fun _ _ h => h) fun _ h => h
    refine spec_bind (sendTo_spec host _ unobserved_inv fun _ _ => trivial) fun _ => ?_
    refine spec_get_bind fun t ht => ?_
    split
    · exact spec_pure (by rintro u rfl; exact ⟨ht, fun f hf => by cases hf⟩)
    · rename_i hnew
      have hnew : t.seenDatagrams.contains datagram.sequence = false := Bool.eq_false_iff.mpr hnew
      refine spec_bind (R := fun _ => Peer.Inv b) (spec_modify ?_) fun _ => ?_
      · rintro u rfl
        obtain ⟨hb, hmtu, hun, hre, hwd, hrest⟩ := ht
        refine ⟨hb, hmtu, hun, hre, ?_, hrest⟩
        dsimp only
        rw [hb]
        exact hwd.remember hnew
      · exact spec_bind (noteDatagram_keeps host _) fun _ => spec_pure fun u hu => ⟨hu, hframes⟩

/-- The condition on the frames of a datagram, each in the state it is handled in. -/
def FramesWithin (b : RakNetBudgets) : Peer → List Frame → Prop
  | _, [] => True
  | s, frame :: rest => FrameWithin b s frame ∧
      ∀ s', receiveFrame host frame s = (.ok (), s') → FramesWithin b s' rest

theorem receiveFrames_inv {frames : List Frame} {s s' : Peer} (hs : Peer.Inv b s)
    (hp : ∀ f ∈ frames, f.payload.length ≤ b.maxPayloadBytes)
    (hwithin : FramesWithin host b s frames)
    (hrun : forEach (receiveFrame host) frames s = (.ok (), s')) : Peer.Inv b s' := by
  induction frames generalizing s with
  | nil =>
    cases hrun
    exact hs
  | cons frame rest ih =>
    rw [forEach, bind_apply] at hrun
    rcases hframe : receiveFrame host frame s with ⟨r, t⟩
    rw [hframe] at hrun
    cases r with
    | error e => cases hrun
    | ok u =>
      have ht := (receiveFrame_spec host (hp frame List.mem_cons_self)).ok ⟨hs, hwithin.1⟩ hframe
      exact ih ht (fun f hf => hp f (List.mem_cons_of_mem _ hf)) (hwithin.2 t hframe) hrun

/-- The condition on a received datagram, on the state before it is received. -/
def DatagramWithin (b : RakNetBudgets) (s : Peer) (bytes : Payload) : Prop :=
  ∀ frames s', admitDatagram host bytes s = (.ok frames, s') → FramesWithin host b s' frames

theorem receiveDatagram_inv {bytes : Payload} {s s' : Peer} (hs : Peer.Inv b s)
    (hwithin : DatagramWithin host b s bytes)
    (hrun : receiveDatagram host bytes s = (.ok (), s')) : Peer.Inv b s' := by
  rw [receiveDatagram, bind_apply] at hrun
  rcases hframes : admitDatagram host bytes s with ⟨r, t⟩
  rw [hframes] at hrun
  cases r with
  | error e => cases hrun
  | ok frames =>
    obtain ⟨ht, hp⟩ := (admitDatagram_spec host bytes).ok hs hframes
    exact receiveFrames_inv host ht hp (hwithin frames t hframes) hrun

theorem onTimer_keeps : Keeps b (onTimer host) := by
  refine spec_bind (consult_spec _ unobserved_inv) fun now => ?_
  refine spec_get_bind fun s hs => ?_
  split
  · exact spec_throw fun _ _ => trivial
  · exact (spec_forEach fun sequence _ => retransmit_keeps host sequence).mono
      (by rintro t rfl; exact hs) (fun _ _ h => h) fun _ h => h

theorem resumeTimers_keeps (frozenAt resumedAt : Int) :
    Keeps b (resumeTimers frozenAt resumedAt) := by
  refine spec_modify fun s hs => ?_
  obtain ⟨hb, hmtu, hun, hrest⟩ := hs
  refine ⟨hb, hmtu, ⟨?_, ?_⟩, hrest⟩
  · rw [ExtTreeMap.size_map]
    exact hun.1
  · intro k d hk
    rw [ExtTreeMap.getElem?_map] at hk
    obtain ⟨d', hd', rfl⟩ := Option.map_eq_some_iff.mp hk
    exact hun.2 k d' hd'

end Receiving

/-! ### Admission -/

section Admission

variable {b : RakNetBudgets}

theorem checkAll_ok {α : Type} {check : α → Except RakNetError Unit} {xs : List α}
    (h : ∀ x ∈ xs, check x = .ok ()) : checkAll check xs = .ok () := by
  induction xs with
  | nil => rfl
  | cons x rest ih =>
    simp only [checkAll, h x List.mem_cons_self, bind, Except.bind]
    exact ih fun y hy => h y (List.mem_cons_of_mem _ hy)

theorem checkDistinct_ok {α κ : Type} [DecidableEq κ] {key : α → κ} {repeated : RakNetError}
    {check : α → Except RakNetError Unit} {xs : List α} (h : ∀ x ∈ xs, check x = .ok ())
    (hnd : (xs.map key).Nodup) (seen : List κ) (hnew : ∀ x ∈ xs, key x ∉ seen) :
    checkDistinct key repeated check seen xs = .ok () := by
  induction xs generalizing seen with
  | nil => rfl
  | cons x rest ih =>
    obtain ⟨hout, hrest⟩ := List.nodup_cons.mp hnd
    simp only [checkDistinct, if_neg (hnew x List.mem_cons_self), h x List.mem_cons_self, bind,
      Except.bind]
    refine ih (fun y hy => h y (List.mem_cons_of_mem _ hy)) hrest _ ?_
    intro y hy hmem
    rcases List.mem_cons.mp hmem with heq | hmem
    · exact hout (heq ▸ List.mem_map_of_mem hy)
    · exact hnew y (List.mem_cons_of_mem _ hy) hmem

theorem checkParts_ok {bytes : Nat}
    (h : ∀ part, some part ∈ parts → part.length ≤ b.maxPayloadBytes)
    (hfit : bytes + partBytes parts ≤ usizeMax) :
    checkParts b bytes parts = .ok (bytes + partBytes parts) := by
  induction parts generalizing bytes with
  | nil => rfl
  | cons part rest ih =>
    have hrest : ∀ part, some part ∈ rest → part.length ≤ b.maxPayloadBytes := fun p hp =>
      h p (List.mem_cons_of_mem _ hp)
    cases part with
    | none =>
      have hbytes : partBytes (none :: rest) = partBytes rest := by simp [partBytes]
      rw [hbytes] at hfit ⊢
      exact ih hrest hfit
    | some part =>
      have hbytes : partBytes (some part :: rest) = part.length + partBytes rest := rfl
      rw [hbytes] at hfit ⊢
      have hadd : ¬ bytes + part.length > usizeMax := by omega
      simp only [checkParts, ensureBudget_ok (h part List.mem_cons_self), checkedAdd, if_neg hadd,
        bind, Except.bind]
      rw [ih hrest (by omega), Nat.add_assoc]

/-- The slots and bytes of a list of assemblies. -/
def slotTotal (splits : List ReassemblySnapshot) : Nat := (splits.map fun r => r.parts.length).sum
def byteTotal (splits : List ReassemblySnapshot) : Nat := (splits.map fun r => partBytes r.parts).sum

theorem checkReassembly_ok (ids : List UInt16) (parts bytes : Nat)
    {splits : List ReassemblySnapshot} (h : ∀ r ∈ splits, PartsOk b r.parts)
    (hnd : (splits.map ReassemblySnapshot.splitId).Nodup) (hnew : ∀ r ∈ splits, r.splitId ∉ ids)
    (hparts : parts + slotTotal splits ≤ usizeMax) (hbytes : bytes + byteTotal splits ≤ usizeMax) :
    checkReassembly b ids parts bytes splits =
      .ok (parts + slotTotal splits, bytes + byteTotal splits) := by
  induction splits generalizing ids parts bytes with
  | nil => rfl
  | cons r rest ih =>
    obtain ⟨hout, hrest⟩ := List.nodup_cons.mp hnd
    obtain ⟨hne, hle⟩ := h r List.mem_cons_self
    have hs : slotTotal (r :: rest) = r.parts.length + slotTotal rest := rfl
    have hb : byteTotal (r :: rest) = partBytes r.parts + byteTotal rest := rfl
    rw [hs] at hparts ⊢
    rw [hb] at hbytes ⊢
    have hvalid : ¬ (r.splitId ∈ ids ∨ r.parts = []) :=
      not_or.mpr ⟨hnew r List.mem_cons_self, hne⟩
    have hadd : ¬ parts + r.parts.length > usizeMax := by omega
    simp only [checkReassembly, if_neg hvalid, checkedAdd, if_neg hadd, checkParts_ok hle
      (show bytes + partBytes r.parts ≤ usizeMax by omega), bind, Except.bind]
    rw [ih _ _ _ (fun y hy => h y (List.mem_cons_of_mem _ hy)) hrest ?_ (by omega) (by omega),
      Nat.add_assoc, Nat.add_assoc]
    intro y hy hmem
    rcases List.mem_cons.mp hmem with heq | hmem
    · exact hout (heq ▸ List.mem_map_of_mem hy)
    · exact hnew y (List.mem_cons_of_mem _ hy) hmem

theorem validateChannelSequences_ok (name : String) (m : BTreeMap UInt8 OrderSequence) :
    validateChannelSequences name m.toList = .ok () :=
  checkDistinct_ok (fun _ _ => rfl) (BTreeMap.nodup_keys m) [] fun _ _ h => by cases h

theorem checkUnacked_ok {d : UnackedDatagram} (h : DatagramOk b d) (sequence : DatagramSequence)
    (now : Int) : checkUnacked b ⟨sequence, d.bytes,
      retransmitDelay d.attempts - durationSince now d.sentAt, d.attempts⟩ = .ok () := by
  obtain ⟨hbytes, hlo, hhi⟩ := h
  have htimer : ¬ (retransmitDelay d.attempts - durationSince now d.sentAt >
      retransmitDelay d.attempts ∨ d.attempts = 0 ∨ d.attempts > MAX_RETRANSMIT_ATTEMPTS) := by
    omega
  simp only [checkUnacked, ensureBudget_ok hbytes, if_neg htimer, bind, Except.bind]

theorem historyCount_ok {order : List Sequence24} {seen : BTreeSet Sequence24}
    (h : WindowOk b order seen) :
    historyCount (.fromSequences order) = .ok order.length ∧
      order.dedup.length = order.length ∧
      order.length ≤ duplicateWindowLimit b := by
  obtain ⟨hnd, hlen, -⟩ := h
  have hsmall := SequenceHistory.length_le_of_nodup hnd
  refine ⟨?_, ?_, hlen⟩
  · rw [historyCount, SequenceHistory.sequenceCount_fromSequences (by omega)]
  · rw [hnd.dedup]

theorem Peer.Inv.intoValidated_ok {s : Peer} (h : Peer.Inv b s) (now : Int) :
    ∃ validated, (s.snapshot now).intoValidated b = .ok validated := by
  obtain ⟨-, hmtu, hun, hre, hwd, hwr, hh, hin⟩ := h
  obtain ⟨hparts, hbytes, hple, hble, hpok⟩ := hre
  obtain ⟨hcd, hdd, hld⟩ := historyCount_ok hwd
  obtain ⟨hcr, hdr, hlr⟩ := historyCount_ok hwr
  have hmtu : ¬ (s.mtu < 576 ∨ max (min b.maxDatagramBytes (2 ^ 16 - 1)) 576 < s.mtu) := by
    unfold MtuOk at hmtu
    omega
  have hslots : slotTotal (s.reassembly.toList.map fun e => ⟨e.1, e.2⟩) = s.reassemblyParts := by
    rw [hparts, slotTotal, BTreeMap.total, List.map_map]
    rfl
  have hsum : byteTotal (s.reassembly.toList.map fun e => ⟨e.1, e.2⟩) = s.reassemblyBytes := by
    rw [hbytes, byteTotal, BTreeMap.total, List.map_map]
    rfl
  have hsplits : ∀ r ∈ s.reassembly.toList.map (fun e => ReassemblySnapshot.mk e.1 e.2),
      PartsOk b r.parts := by
    intro r hr
    obtain ⟨⟨id, ps⟩, he, rfl⟩ := List.mem_map.mp hr
    exact hpok id ps (BTreeMap.mem_toList.mp he)
  have hreassembly := checkReassembly_ok [] 0 0 hsplits
    (by simpa [List.map_map, Function.comp_def] using BTreeMap.nodup_keys s.reassembly)
    (fun _ _ h => by cases h) (by omega) (by omega)
  rw [hslots, hsum, Nat.zero_add, Nat.zero_add] at hreassembly
  have hqueue : checkAll (fun payload : Payload => ensureBudget "application payload bytes"
      payload.length b.maxPayloadBytes) s.inbox = .ok () :=
    checkAll_ok fun p hp => ensureBudget_ok (hin.2 p hp)
  have hunacked : ∀ repeated, checkDistinct UnackedDatagramSnapshot.sequence repeated
      (checkUnacked b) [] (s.snapshot now).unackedDatagrams = .ok () := by
    intro repeated
    refine checkDistinct_ok ?_ ?_ [] fun _ _ h => by cases h
    · intro r hr
      obtain ⟨⟨k, d⟩, he, rfl⟩ := List.mem_map.mp hr
      exact checkUnacked_ok (hun.2 k d (BTreeMap.mem_toList.mp he)) k now
    · simpa [Peer.snapshot, List.map_map, Function.comp_def] using BTreeMap.nodup_keys s.unacked
  have hheld : ∀ repeated, checkDistinct (fun held : OrderedPayloadSnapshot =>
      (held.channel, held.sequence)) repeated (fun held => ensureBudget "application payload bytes"
        held.payload.length b.maxPayloadBytes) [] (s.snapshot now).orderedHoldback = .ok () := by
    intro repeated
    refine checkDistinct_ok ?_ ?_ [] fun _ _ h => by cases h
    · intro r hr
      obtain ⟨⟨k, p⟩, he, rfl⟩ := List.mem_map.mp hr
      exact ensureBudget_ok (hh.2 k p (BTreeMap.mem_toList.mp he))
    · have hkeys := (BTreeMap.nodup_keys s.orderedHoldback).map (f := fun k => (k.channel, k.sequence))
        (by
          rintro ⟨c, q⟩ ⟨c', q'⟩ heq
          cases heq
          rfl)
      rw [List.map_map] at hkeys
      simp only [Peer.snapshot, List.map_map]
      exact hkeys
  have hlenU : (s.snapshot now).unackedDatagrams.length ≤ b.maxUnackedDatagrams := by
    simpa [Peer.snapshot] using hun.1
  have hlenH : (s.snapshot now).orderedHoldback.length ≤ b.maxOrderedHoldback := by
    simpa [Peer.snapshot] using hh.1
  have htime : ¬ (s.snapshot now).timeoutRemaining > PEER_TIMEOUT := by
    simp only [Peer.snapshot]
    omega
  refine ⟨⟨s.snapshot now, ExtTreeSet.ofList s.seenDatagramOrder,
    ExtTreeSet.ofList s.seenReliableOrder, b⟩, ?_⟩
  simp only [PeerSnapshot.intoValidated, PeerSnapshot.validateStructure]
  simp only [Peer.snapshot] at hunacked hheld hlenU hlenH htime ⊢
  simp only [if_neg hmtu, ensureBudget_ok hin.1, hqueue, ensureBudget_ok hlenU, hunacked,
    hreassembly, ensureBudget_ok (Nat.le_trans hple (Nat.min_le_left _ _)),
    ensureBudget_ok (Nat.le_trans hble (Nat.min_le_left _ _)), ensureBudget_ok hlenH, hheld, hcd,
    hcr, ensureBudget_ok hld, ensureBudget_ok hlr,
    SequenceHistory.sequences_fromSequences, hdd, hdr, ne_eq, not_true_eq_false, if_false,
    validateChannelSequences_ok, if_neg htime, bind, Except.bind, pure, Except.pure]

end Admission

/-! ### Runs of the actor -/

section Runs

variable (host : Host) (b : RakNetBudgets)

/-- The condition on a step, on its input and the state before it: a received datagram
    completes no fragment assembly of more than `max_payload_bytes`. -/
def StepWithin (run : PeerRun) : PeerEvent → Prop
  | .ingress bytes => DatagramWithin host b run.actor bytes
  | _ => True

/-- The states a peer created by the router reaches while its loop runs, by steps that meet
    `Admits`. -/
inductive Reaches (Admits : PeerRun → PeerEvent → Prop) : PeerRun → Prop where
  | new (remoteAddr : SocketAddr) (mtu : Nat) (now : Int) :
      Reaches Admits ⟨Peer.new remoteAddr (clampMtu b mtu) b now, .running, []⟩
  | step {run run' : PeerRun} (event : PeerEvent) (h : Reaches Admits run)
      (ha : Admits run event) (hs : run.step host event = some run') : Reaches Admits run'

variable {b}

theorem inv_new (remoteAddr : SocketAddr) (mtu : Nat) (now : Int) :
    Peer.Inv b (Peer.new remoteAddr (clampMtu b mtu) b now) := by
  have hwindow : WindowOk b [] ∅ := by
    refine ⟨List.nodup_nil, Nat.zero_le _, fun s => ?_⟩
    simp
  refine ⟨rfl, ?_, ⟨Nat.zero_le _, ?_⟩, ⟨?_, ?_, Nat.zero_le _, Nat.zero_le _, ?_⟩, hwindow, hwindow,
    ⟨Nat.zero_le _, ?_⟩, Nat.zero_le _, ?_⟩
  · simp only [MtuOk, Peer.new, clampMtu]
    omega
  · intro k d hk
    simp [Peer.new] at hk
  · exact (BTreeMap.total_empty _).symm
  · exact (BTreeMap.total_empty _).symm
  · intro id ps hid
    simp [Peer.new] at hid
  · intro k p hk
    simp [Peer.new] at hk
  · intro p hp
    cases hp

theorem perform_inv {operation : PeerM Unit} (hop : Keeps b operation) (h : Peer.Inv b run.actor)
    (hs : run.perform operation = some run') : Peer.Inv b run'.actor := by
  unfold PeerRun.perform at hs
  split at hs
  · cases hs
    exact hop.ok h ‹_›
  · cases hs

theorem applyCommand_inv (command : PeerCommand) (h : Peer.Inv b run.actor)
    (hs : run.applyCommand host command = some run') : Peer.Inv b run'.actor := by
  cases command with
  | send payload => exact perform_inv (sendApplication_keeps host payload) h hs
  | freeze =>
    simp only [PeerRun.applyCommand] at hs
    split at hs
    · cases hs
      exact (consult_spec _ unobserved_inv (E := fun _ => True)).ok h ‹_›
    · cases hs
  | sealTransfer | resume =>
    cases hs
    exact h
  | transfer => cases hs

theorem frozenCommand_inv (since : Int) (command : PeerCommand) (h : Peer.Inv b run.actor)
    (hs : run.frozenCommand host since command = some run') : Peer.Inv b run'.actor := by
  cases command with
  | send payload =>
    simp only [PeerRun.frozenCommand] at hs
    split at hs <;> cases hs <;> exact h
  | freeze | sealTransfer =>
    cases hs
    exact h
  | resume =>
    have hresume : Keeps b (consult host.clock >>= fun now => resumeTimers since now) :=
      spec_bind (consult_spec _ unobserved_inv) fun now => resumeTimers_keeps since now
    have h' : Peer.Inv b ({ run with execution := .running } : PeerRun).actor := h
    exact perform_inv hresume h' hs
  | transfer => cases hs

theorem step_inv {event : PeerEvent} (h : Peer.Inv b run.actor)
    (hwithin : StepWithin host b run event) (hs : run.step host event = some run') :
    Peer.Inv b run'.actor := by
  cases event with
  | observed at_ =>
    have hobserve : Keeps b (observe at_) := spec_modify fun _ ht => ht
    exact perform_inv hobserve h hs
  | received =>
    cases hs
    obtain ⟨hb, hmtu, hun, hre, hwd, hwr, hh, hin⟩ := h
    refine ⟨hb, hmtu, hun, hre, hwd, hwr, hh, ?_, ?_⟩
    · exact Nat.le_trans (by simp) hin.1
    · exact fun p hp => hin.2 p (List.mem_of_mem_tail hp)
  | command command =>
    simp only [PeerRun.step] at hs
    split at hs
    · exact frozenCommand_inv host _ command h hs
    · split at hs
      · exact applyCommand_inv host command h hs
      · cases hs
  | deferred =>
    simp only [PeerRun.step] at hs
    split at hs
    · rename_i payload rest _ _
      exact applyCommand_inv host (.send payload) (show Peer.Inv b { run with deferred := rest }.actor
        from h) hs
    · cases hs
  | ingress bytes =>
    simp only [PeerRun.step] at hs
    split at hs
    · split at hs
      · unfold PeerRun.perform at hs
        split at hs
        · rename_i u actor hrun
          cases hs
          exact receiveDatagram_inv host h hwithin hrun
        · cases hs
      · cases hs
    · cases hs
  | timer =>
    simp only [PeerRun.step] at hs
    split at hs
    · split at hs
      · exact perform_inv (onTimer_keeps host) h hs
      · cases hs
    · cases hs

theorem reaches_inv (h : Reaches host b (StepWithin host b) run) : Peer.Inv b run.actor := by
  induction h with
  | new remoteAddr mtu now => exact inv_new remoteAddr mtu now
  | step event _ ha hs ih => exact step_inv host ih ha hs

/-- **A live peer's snapshot is admitted** by the same budgets, in every state reached without
    completing a fragment assembly of more than `max_payload_bytes`. -/
theorem reaches_intoValidated_ok {run : PeerRun} (h : Reaches host b (StepWithin host b) run)
    (now : Int) : ∃ validated, (run.actor.snapshot now).intoValidated b = .ok validated :=
  (reaches_inv host h).intoValidated_ok now

theorem reaches_stepAll {events : List PeerEvent} (h : Reaches host b (fun _ _ => True) run)
    (hs : run.stepAll host events = some run') : Reaches host b (fun _ _ => True) run' := by
  induction events generalizing run with
  | nil =>
    cases hs
    exact h
  | cons event rest ih =>
    simp only [PeerRun.stepAll] at hs
    split at hs
    · cases hs
    · exact ih (.step event h trivial ‹_›) hs

end Runs

/-! ### The check the actor does not maintain -/

/-- The default budgets with a payload limit of one byte. -/
def tightBudgets : RakNetBudgets := { RakNetBudgets.default with maxPayloadBytes := 1 }

def tightPeer : PeerRun :=
  ⟨Peer.new unspecifiedAddress (clampMtu tightBudgets 1492) tightBudgets 0, .running, []⟩

def unreliableFrame (split : Option SplitHeader) (payload : Payload) : Frame :=
  ⟨.unreliable, none, none, none, 0, split, payload⟩

/-- The datagram of the client's `NewIncomingConnection` message. -/
def handshakeDatagram : Payload := encodeDatagram 0 (unreliableFrame none [0x13])

def fragmentDatagram (index : Nat) (byte : UInt8) : Payload :=
  encodeDatagram (Sequence24.new (1 + index)) (unreliableFrame (some ⟨2, 0, index⟩) [byte])

def pairBudgets : RakNetBudgets := { RakNetBudgets.default with maxPayloadBytes := 2 }

/-- The handshake, and then two one-byte fragments of a two-byte payload. -/
def oversizedEvents : List PeerEvent :=
  [.ingress handshakeDatagram,
    .ingress (fragmentDatagram 0 0xfe), .ingress (fragmentDatagram 1 0x01)]

/-- Whether a peer's snapshot is refused by its own budgets. -/
def refusal (b : RakNetBudgets) (run : PeerRun) : Option RakNetError :=
  match (run.actor.snapshot 0).intoValidated b with
  | .ok _ => none
  | .error error => some error

/-- A live peer whose snapshot is refused: each fragment is within `max_payload_bytes`, the
    payload they join to is not, and nothing between reassembly and the inbox checks it. -/
theorem oversized_assembly_is_refused :
    ∃ (host : Host) (b : RakNetBudgets) (run : PeerRun), 576 ≤ b.maxDatagramBytes ∧
      Reaches host b (fun _ _ => True) run ∧
      ∃ error, (run.actor.snapshot 0).intoValidated b = .error error := by
  have hrefused : (tightPeer.stepAll quietHost oversizedEvents).map (refusal tightBudgets) =
      some (some (.budget "application payload bytes" 2 1)) := by decide
  obtain ⟨run, hrun, href⟩ := Option.map_eq_some_iff.mp hrefused
  refine ⟨quietHost, tightBudgets, run, by decide, ?_, ?_⟩
  · exact reaches_stepAll quietHost (.new unspecifiedAddress 1492 0) hrun
  · unfold refusal at href
    split at href
    · cases href
    · exact ⟨_, ‹_›⟩

theorem stepWithin_ingress {run : PeerRun} {bytes : Payload} {b : RakNetBudgets} (frame : Frame)
    (hframes : (admitDatagram host bytes run.actor).1 = .ok [frame])
    (h : FrameWithin b (admitDatagram host bytes run.actor).2 frame) :
    StepWithin host b run (.ingress bytes) := by
  intro frames s' hadmitted
  rw [hadmitted] at hframes h
  cases hframes
  exact ⟨h, fun _ _ => trivial⟩

/-- Two fragments join to a payload of the two bytes that the budgets allow, and the peer that has
    it in its inbox is admitted. -/
theorem reaches_intoValidated_ok_fragments :
    ∃ run, Reaches quietHost pairBudgets (StepWithin quietHost pairBudgets) run ∧
      run.actor.inbox = [[0xfe, 0x01]] ∧
      ∃ validated, (run.actor.snapshot 5).intoValidated pairBudgets = .ok validated := by
  let peer : PeerRun :=
    ⟨Peer.new unspecifiedAddress (clampMtu pairBudgets 1492) pairBudgets 0, .running, []⟩
  let accepted := (peer.step quietHost (.ingress handshakeDatagram)).get (by decide +kernel)
  let begun :=
    (accepted.step quietHost (.ingress (fragmentDatagram 0 0xfe))).get (by decide +kernel)
  let joined :=
    (begun.step quietHost (.ingress (fragmentDatagram 1 0x01))).get (by decide +kernel)
  have hhandshake : StepWithin quietHost pairBudgets peer (.ingress handshakeDatagram) :=
    stepWithin_ingress (unreliableFrame none [0x13]) (by decide +kernel)
      (by unfold FrameWithin FragmentWithin; decide +kernel)
  have hfirst : StepWithin quietHost pairBudgets accepted (.ingress (fragmentDatagram 0 0xfe)) :=
    stepWithin_ingress (unreliableFrame (some ⟨2, 0, 0⟩) [0xfe]) (by decide +kernel)
      (by unfold FrameWithin FragmentWithin; decide +kernel)
  have hsecond : StepWithin quietHost pairBudgets begun (.ingress (fragmentDatagram 1 0x01)) :=
    stepWithin_ingress (unreliableFrame (some ⟨2, 0, 1⟩) [0x01]) (by decide +kernel)
      (by unfold FrameWithin FragmentWithin; decide +kernel)
  have hreach : Reaches quietHost pairBudgets (StepWithin quietHost pairBudgets) joined :=
    .step _ (.step _ (.step _ (.new unspecifiedAddress 1492 0) hhandshake
      (Option.some_get _).symm) hfirst (Option.some_get _).symm) hsecond (Option.some_get _).symm
  exact ⟨joined, hreach, by decide +kernel, reaches_intoValidated_ok quietHost hreach 5⟩

end RevyCraft.RakNet
