/-
  RevyCraft/RakNetRestore.lean
  ============================
  **A transferred RakNet peer goes on as if nothing had happened**
  (`prepare_peer_snapshot`, `from_validated_snapshot` and `resume_timers` of
  `peer.rs`).

  The snapshot lists hash maps, run-length-encodes the histories, turns
  instants into remaining times and leaves out the counters and the duplicate
  sets.  `Peer.Consistent` says that what is left out can be recomputed; every
  live peer has it.  The restored peer then differs from the frozen one in the
  instants alone, and no operation but the timer looks at these: `Timeless` is
  the relation that every such operation respects.
-/
import RevyCraft.RakNetAccounts

namespace RevyCraft.RakNet

open Std Act

/-! ### Restoring a snapshot -/

/-- `prepare_peer_snapshot` at the instant `restoredAt`, with `from_validated_snapshot`. -/
def Peer.fromValidatedSnapshot (validated : ValidatedPeerSnapshot) (budgets : RakNetBudgets)
    (restoredAt : Int) : Peer :=
  let snapshot := validated.checkpoint
  { remoteAddr := snapshot.remoteAddr
    mtu := snapshot.mtu
    budgets := budgets
    accepted := snapshot.accepted
    nextDatagram := snapshot.nextDatagram
    nextReliable := snapshot.nextReliable
    nextOrdered := snapshot.nextOrdered
    nextSplitId := snapshot.nextSplitId
    lastDatagram := snapshot.lastDatagram
    seenDatagrams := validated.datagrams
    seenDatagramOrder := snapshot.seenDatagramOrder.sequences
    seenReliable := validated.reliable
    seenReliableOrder := snapshot.seenReliableOrder.sequences
    orderedExpected := ExtTreeMap.ofList snapshot.orderedExpected compare
    sequencedLatest := ExtTreeMap.ofList snapshot.sequencedLatest compare
    orderedHoldback := ExtTreeMap.ofList (snapshot.orderedHoldback.map fun held =>
      ((⟨held.channel, held.sequence⟩ : HoldKey), held.payload)) compare
    reassembly := ExtTreeMap.ofList (snapshot.reassembly.map fun split =>
      (split.splitId, split.parts)) compare
    reassemblyBytes := (snapshot.reassembly.map fun split => partBytes split.parts).sum
    reassemblyParts := (snapshot.reassembly.map fun split => split.parts.length).sum
    unacked := ExtTreeMap.ofList (snapshot.unackedDatagrams.map fun datagram =>
      (datagram.sequence, (⟨datagram.bytes,
        restoredAt - ↑(retransmitDelay datagram.attempts - datagram.retransmitRemaining),
        datagram.attempts⟩ : UnackedDatagram))) compare
    inbox := snapshot.queuedPayloads
    lastObserved := restoredAt - ↑(PEER_TIMEOUT - snapshot.timeoutRemaining)
    reads := 0
    sent := []
    delivered := [] }

/-- What the snapshot leaves out follows from what it holds. -/
def Peer.Consistent (s : Peer) : Prop :=
  Mirrors s.seenDatagramOrder s.seenDatagrams ∧ Mirrors s.seenReliableOrder s.seenReliable ∧
    Counted s.reassembly s.reassemblyBytes s.reassemblyParts

theorem ofList_sequences {order : List Sequence24} {seen : BTreeSet Sequence24}
    (h : ∀ k, k ∈ seen ↔ k ∈ order) : ExtTreeSet.ofList order compare = seen := by
  refine ExtTreeSet.ext_mem fun k => ?_
  rw [h, ExtTreeSet.mem_ofList]
  simp

theorem historyCount_eq {history : SequenceHistory} {count : Nat}
    (h : historyCount history = .ok count) : history.sequences.length = count := by
  have hfold : ∀ (runs : List SequenceRun) (start count : Nat),
      runs.foldlM (fun count run =>
        if count + run.length.count < 2 ^ 64 then some (count + run.length.count) else none)
        start = some count → start + (runs.flatMap SequenceRun.sequences).length = count := by
    intro runs
    induction runs with
    | nil =>
      intro start count h
      cases h
      rfl
    | cons run rest ih =>
      intro start count h
      have hrun : run.sequences.length = run.length.count := List.length_iterate _ _ _
      rw [List.foldlM_cons] at h
      split at h
      · rw [List.flatMap_cons, List.length_append, hrun, ← ih _ _ h]
        omega
      · cases h
  unfold historyCount at h
  split at h
  · next hcount =>
    cases h
    have hlength := hfold history.runs 0 _ hcount
    rw [Nat.zero_add] at hlength
    exact hlength
  · cases h

theorem nodup_of_dedup_length {α : Type} [DecidableEq α] {l : List α}
    (h : l.dedup.length = l.length) : l.Nodup := by
  rw [← (List.dedup_sublist l).eq_of_length h]
  exact List.nodup_dedup l

theorem bytes_of_checkParts {b : RakNetBudgets} {parts : List (Option Payload)} {bytes total : Nat}
    (h : checkParts b bytes parts = .ok total) : total = bytes + partBytes parts := by
  induction parts generalizing bytes with
  | nil =>
    cases h
    rfl
  | cons part rest ih =>
    cases part with
    | none => simpa [partBytes] using ih h
    | some part =>
      obtain ⟨-, -, h⟩ := except_bind_ok h
      obtain ⟨sum, hsum, h⟩ := except_bind_ok h
      rw [checkedAdd] at hsum
      split at hsum
      · cases hsum
      · cases hsum
        rw [ih h]
        simp [partBytes, Nat.add_assoc]

theorem checkReassembly_cases {b : RakNetBudgets} {splits : List ReassemblySnapshot}
    {ids : List UInt16} {parts bytes : Nat} {totals : Nat × Nat}
    (h : checkReassembly b ids parts bytes splits = .ok totals) :
    (splits.map ReassemblySnapshot.splitId).Nodup ∧
      (∀ split ∈ splits, split.splitId ∉ ids) ∧
      totals = (parts + (splits.map fun split => split.parts.length).sum,
        bytes + (splits.map fun split => partBytes split.parts).sum) := by
  induction splits generalizing ids parts bytes with
  | nil =>
    cases h
    simp
  | cons split rest ih =>
    rw [checkReassembly] at h
    split at h
    · cases h
    · rename_i hnew
      rw [not_or] at hnew
      obtain ⟨parts', hparts, h⟩ := except_bind_ok h
      obtain ⟨bytes', hbytes, h⟩ := except_bind_ok h
      obtain ⟨hnodup, hrest, htotals⟩ := ih h
      refine ⟨?_, ?_, ?_⟩
      · rw [List.map_cons, List.nodup_cons]
        refine ⟨?_, hnodup⟩
        intro hmem
        obtain ⟨other, hother, hsame⟩ := List.mem_map.mp hmem
        exact hrest other hother (hsame ▸ List.mem_cons_self ..)
      · intro other hother
        rcases List.mem_cons.mp hother with rfl | hother
        · exact hnew.1
        · exact fun hmem => hrest other hother (List.mem_cons_of_mem _ hmem)
      · rw [checkedAdd] at hparts
        split at hparts
        · cases hparts
        · cases hparts
          simp [htotals, bytes_of_checkParts hbytes, Nat.add_assoc]

/-- The counts of an admitted snapshot are within the budgets it was admitted under. -/
structure PeerSnapshot.Within (p : PeerSnapshot) (b : RakNetBudgets) : Prop where
  parts : (p.reassembly.map fun split => split.parts.length).sum ≤ b.maxReassemblyPartsPerPeer
  bytes : (p.reassembly.map fun split => partBytes split.parts).sum ≤ b.maxReassemblyBytesPerPeer
  holdback : p.orderedHoldback.length ≤ b.maxOrderedHoldback
  unacked : p.unackedDatagrams.length ≤ b.maxUnackedDatagrams
  inbox : p.queuedPayloads.length ≤ b.applicationQueue
  datagrams : p.seenDatagramOrder.sequences.length ≤ duplicateWindowLimit b
  reliable : p.seenReliableOrder.sequences.length ≤ duplicateWindowLimit b

structure PeerSnapshot.Admitted (p : PeerSnapshot) (validated : ValidatedPeerSnapshot) : Prop where
  checkpoint : validated.checkpoint = p
  datagrams : validated.datagrams = ExtTreeSet.ofList p.seenDatagramOrder.sequences compare
  reliable : validated.reliable = ExtTreeSet.ofList p.seenReliableOrder.sequences compare
  datagramOrder : p.seenDatagramOrder.sequences.Nodup
  reliableOrder : p.seenReliableOrder.sequences.Nodup
  splits : (p.reassembly.map ReassemblySnapshot.splitId).Nodup

variable {validated : ValidatedPeerSnapshot}

theorem intoValidated_admitted {p : PeerSnapshot} {b : RakNetBudgets}
    (h : p.intoValidated b = .ok validated) : p.Admitted validated ∧ p.Within b := by
  obtain ⟨⟨datagrams, reliable⟩, hstructure, h⟩ := except_bind_ok h
  cases h
  unfold PeerSnapshot.validateStructure at hstructure
  dsimp only at hstructure
  split at hstructure
  · cases hstructure
  obtain ⟨_, hinbox, hstructure⟩ := except_bind_ok hstructure
  obtain ⟨-, -, hstructure⟩ := except_bind_ok hstructure
  obtain ⟨_, hunacked, hstructure⟩ := except_bind_ok hstructure
  obtain ⟨-, -, hstructure⟩ := except_bind_ok hstructure
  obtain ⟨totals, hreassembly, hstructure⟩ := except_bind_ok hstructure
  obtain ⟨hsplits, -, rfl⟩ := checkReassembly_cases hreassembly
  simp only [Nat.zero_add] at hstructure
  obtain ⟨_, hparts, hstructure⟩ := except_bind_ok hstructure
  obtain ⟨_, hbytes, hstructure⟩ := except_bind_ok hstructure
  obtain ⟨_, hholdback, hstructure⟩ := except_bind_ok hstructure
  obtain ⟨-, -, hstructure⟩ := except_bind_ok hstructure
  obtain ⟨datagramCount, hdatagramCount, hstructure⟩ := except_bind_ok hstructure
  obtain ⟨reliableCount, hreliableCount, hstructure⟩ := except_bind_ok hstructure
  obtain ⟨_, hdatagramRoom, hstructure⟩ := except_bind_ok hstructure
  obtain ⟨_, hreliableRoom, hstructure⟩ := except_bind_ok hstructure
  obtain rfl := historyCount_eq hdatagramCount
  obtain rfl := historyCount_eq hreliableCount
  split at hstructure
  · cases hstructure
  rename_i hdatagrams
  split at hstructure
  · cases hstructure
  rename_i hreliable
  obtain ⟨-, -, hstructure⟩ := except_bind_ok hstructure
  obtain ⟨-, -, hstructure⟩ := except_bind_ok hstructure
  split at hstructure
  · cases hstructure
  cases hstructure
  rw [ne_eq, Decidable.not_not] at hdatagrams hreliable
  exact ⟨⟨rfl, rfl, rfl, nodup_of_dedup_length hdatagrams, nodup_of_dedup_length hreliable, hsplits⟩,
    le_of_ensureBudget hparts, le_of_ensureBudget hbytes, le_of_ensureBudget hholdback,
    le_of_ensureBudget hunacked, le_of_ensureBudget hinbox, le_of_ensureBudget hdatagramRoom,
    le_of_ensureBudget hreliableRoom⟩

/-- A datagram whose timer was stopped at `frozenAt` and set again at `restoredAt`. -/
def UnackedDatagram.restored (frozenAt restoredAt : Int) (datagram : UnackedDatagram) :
    UnackedDatagram :=
  { datagram with
    sentAt := restoredAt -
      ↑(min (retransmitDelay datagram.attempts) (durationSince frozenAt datagram.sentAt)) }

/-- **A restored peer is the frozen one with other instants**, and with a fresh record of what it
    handed to its environment. -/
theorem restored_eq {a : Peer} (hc : a.Consistent) {frozenAt : Int}
    (h : (a.snapshot frozenAt).Admitted validated) (b : RakNetBudgets) (restoredAt : Int) :
    Peer.fromValidatedSnapshot validated b restoredAt =
      { a with
        budgets := b
        unacked := a.unacked.map fun _ datagram => datagram.restored frozenAt restoredAt
        lastObserved := restoredAt - ↑(min PEER_TIMEOUT (durationSince frozenAt a.lastObserved))
        reads := 0
        sent := []
        delivered := [] } := by
  obtain ⟨hdatagrams, hreliable, hparts, hbytes⟩ := hc
  have hexpected : (ExtTreeMap.ofList a.orderedExpected.toList compare :
      BTreeMap UInt8 OrderSequence) = a.orderedExpected := BTreeMap.ofList_toList _
  have hlatest : (ExtTreeMap.ofList a.sequencedLatest.toList compare :
      BTreeMap UInt8 OrderSequence) = a.sequencedLatest := BTreeMap.ofList_toList _
  have hheld := BTreeMap.ofList_toList a.orderedHoldback
  have htable := BTreeMap.ofList_toList a.reassembly
  have hunacked := BTreeMap.ofList_map_toList (fun _ (datagram : UnackedDatagram) =>
    datagram.restored frozenAt restoredAt) a.unacked
  unfold UnackedDatagram.restored at hunacked
  have hmin : ∀ delay elapsed : Nat, delay - (delay - elapsed) = min delay elapsed := by
    intro delay elapsed
    omega
  unfold Peer.fromValidatedSnapshot
  rw [h.checkpoint, h.datagrams, h.reliable]
  simp only [Peer.snapshot, SequenceHistory.sequences_fromSequences, List.map_map,
    Function.comp_def, hexpected, hlatest, hmin, ofList_sequences hdatagrams.2,
    ofList_sequences hreliable.2, List.map_id', hheld, htable, hunacked]
  rw [hparts, hbytes]
  rfl

/-! ### Exporting again -/

/-- The peer after `resume_timers`. -/
def Peer.resumed (s : Peer) (frozenAt resumedAt : Int) : Peer :=
  (resumeTimers frozenAt resumedAt s).2

theorem durationSince_sub (now : Int) (elapsed : Nat) :
    durationSince now (now - elapsed) = elapsed := by
  unfold durationSince
  omega

theorem sub_min_eq (delay elapsed : Nat) : delay - min delay elapsed = delay - elapsed := by
  omega

section Export

variable {a : Peer} {frozenAt : Int} {validated : ValidatedPeerSnapshot}

theorem restored_snapshot (hc : a.Consistent) (h : (a.snapshot frozenAt).Admitted validated)
    (b : RakNetBudgets) (restoredAt : Int) :
    (Peer.fromValidatedSnapshot validated b restoredAt).snapshot restoredAt =
      a.snapshot frozenAt := by
  rw [restored_eq hc h]
  simp only [Peer.snapshot, ExtTreeMap.toList_map, List.map_map, Function.comp_def,
    UnackedDatagram.restored, durationSince_sub, sub_min_eq]

theorem resumed_snapshot (hc : a.Consistent) (h : (a.snapshot frozenAt).Admitted validated)
    (b : RakNetBudgets) (restoredAt resumedAt : Int) :
    ((Peer.fromValidatedSnapshot validated b restoredAt).resumed restoredAt resumedAt).snapshot
      resumedAt = a.snapshot frozenAt := by
  rw [restored_eq hc h]
  simp only [Peer.resumed, resumeTimers, Act.modify, Peer.snapshot, ExtTreeMap.toList_map, List.map_map,
    Function.comp_def, UnackedDatagram.restored, durationSince_sub, sub_min_eq]

end Export

/-! ### Operations that do not look at the instants -/

def UnackedDatagram.untimed (datagram : UnackedDatagram) : UnackedDatagram :=
  { datagram with sentAt := 0 }

/-- The two tables hold the same datagrams, sent at any time. -/
def SameDatagrams (m m' : BTreeMap DatagramSequence UnackedDatagram) : Prop :=
  m.map (fun _ => UnackedDatagram.untimed) = m'.map fun _ => UnackedDatagram.untimed

/-- The second peer is the first one with other instants. -/
def Timeless (s s' : Peer) : Prop :=
  ∃ at_ unacked, SameDatagrams s.unacked unacked ∧
    s' = { s with lastObserved := at_, unacked := unacked }

namespace SameDatagrams

variable {m m' : BTreeMap DatagramSequence UnackedDatagram}

theorem size_eq (h : SameDatagrams m m') : m.size = m'.size := by
  have hsize := congrArg ExtTreeMap.size h
  rwa [ExtTreeMap.size_map, ExtTreeMap.size_map] at hsize

theorem keys_eq (h : SameDatagrams m m') : m.keys = m'.keys := by
  have hkeys := congrArg ExtTreeMap.keys h
  rwa [ExtTreeMap.keys_map, ExtTreeMap.keys_map] at hkeys

theorem lookup_eq (h : SameDatagrams m m') (k : DatagramSequence) :
    (m[k]?).map UnackedDatagram.untimed = (m'[k]?).map UnackedDatagram.untimed := by
  have hlookup := congrArg (fun t : BTreeMap DatagramSequence UnackedDatagram => t[k]?) h
  simpa only [ExtTreeMap.getElem?_map] using hlookup

theorem of_lookup (h : ∀ k : DatagramSequence,
    (m[k]?).map UnackedDatagram.untimed = (m'[k]?).map UnackedDatagram.untimed) :
    SameDatagrams m m' := by
  refine ExtTreeMap.ext_getElem? fun k => ?_
  simpa only [ExtTreeMap.getElem?_map] using h k

theorem insert (h : SameDatagrams m m') (k : DatagramSequence) {d d' : UnackedDatagram}
    (hd : d.untimed = d'.untimed) : SameDatagrams (m.insert k d) (m'.insert k d') := by
  apply of_lookup
  intro a
  rw [BTreeMap.getElem?_insert_eq, BTreeMap.getElem?_insert_eq]
  split
  · simp [hd]
  · exact h.lookup_eq a

theorem filter (h : SameDatagrams m m') (keep : DatagramSequence → Bool) :
    SameDatagrams (m.filter fun k _ => keep k) (m'.filter fun k _ => keep k) := by
  apply of_lookup
  intro a
  have ha := h.lookup_eq a
  rw [ExtTreeMap.getElem?_filter', ExtTreeMap.getElem?_filter']
  cases hm : m[a]? with
  | none =>
    rw [hm] at ha
    rw [Option.map_eq_none_iff.mp ha.symm]
  | some d =>
    rw [hm] at ha
    obtain ⟨d', hd', hsame⟩ := Option.map_eq_some_iff.mp ha.symm
    rw [hd']
    by_cases hkeep : keep a = true
    · simp [Option.filter, hkeep, hsame]
    · simp [Option.filter, hkeep]

end SameDatagrams

section Timeless

variable (host : Host)

theorem timeless_modify {f : Peer → Peer}
    (h : ∀ (s : Peer) (at_ : Int) (unacked : BTreeMap DatagramSequence UnackedDatagram),
      f { s with lastObserved := at_, unacked := unacked } =
        { f s with lastObserved := at_, unacked := unacked })
    (hsame : ∀ s, (f s).unacked = s.unacked) :
    Related Timeless (Act.modify f : PeerM Unit) := by
  apply related_modify
  rintro s _ ⟨at_, unacked, hunacked, rfl⟩
  refine ⟨at_, unacked, ?_, h s at_ unacked⟩
  rw [hsame]
  exact hunacked

theorem timeless_get {β : Type} {f : Peer → PeerM β}
    (hsame : ∀ (s : Peer) (at_ : Int) (unacked : BTreeMap DatagramSequence UnackedDatagram),
      SameDatagrams s.unacked unacked → f s = f { s with lastObserved := at_, unacked := unacked })
    (hf : ∀ s, Related Timeless (f s)) : Related Timeless (Act.get >>= f) := by
  refine related_get_bind ?_ hf
  rintro s _ ⟨at_, unacked, hunacked, rfl⟩
  exact hsame s at_ unacked hunacked

theorem consult_timeless {α : Type} (answer : Nat → α) : Related Timeless (consult answer) := by
  refine timeless_get (fun _ _ _ _ => rfl) fun s => ?_
  exact related_bind (timeless_modify (fun _ _ _ => rfl) fun _ => rfl) fun _ => related_pure _

theorem sendTo_timeless (bytes : Payload) : Related Timeless (sendTo host bytes) := by
  refine related_bind (consult_timeless _) fun answer => ?_
  cases answer with
  | error message => exact related_throw _
  | ok u => exact timeless_modify (fun _ _ _ => rfl) fun _ => rfl

theorem insert_timeless (sequence : DatagramSequence) (datagram : UnackedDatagram) :
    Related Timeless (Act.modify fun s : Peer =>
      { s with unacked := s.unacked.insert sequence datagram } : PeerM Unit) := by
  apply related_modify
  rintro s _ ⟨at_, unacked, hunacked, rfl⟩
  exact ⟨at_, unacked.insert sequence datagram, hunacked.insert sequence rfl, rfl⟩

theorem sendFrame_timeless (frame : Frame) : Related Timeless (sendFrame host frame) := by
  refine timeless_get ?_ fun s => ?_
  · intro s at_ unacked hunacked
    simp only [hunacked.size_eq]
  · refine related_bind (related_lift _) fun _ => ?_
    refine related_bind (timeless_modify (fun _ _ _ => rfl) fun _ => rfl) fun _ => ?_
    refine related_bind (related_lift _) fun _ => ?_
    refine related_bind (sendTo_timeless host _) fun _ => ?_
    exact related_bind (consult_timeless _) fun now => insert_timeless _ _

theorem sendFragment_timeless (order : OrderSequence) (split : Option SplitHeader)
    (payload : Payload) : Related Timeless (sendFragment host order split payload) := by
  refine timeless_get (fun _ _ _ _ => rfl) fun s => ?_
  exact related_bind (timeless_modify (fun _ _ _ => rfl) fun _ => rfl) fun _ =>
    sendFrame_timeless host _

theorem sendReliableOrdered_timeless (payload : Payload) :
    Related Timeless (sendReliableOrdered host payload) := by
  refine timeless_get (fun _ _ _ _ => rfl) fun s => ?_
  dsimp only
  split
  · exact related_throw _
  refine related_bind (timeless_modify (fun _ _ _ => rfl) fun _ => rfl) fun _ => ?_
  split
  · exact related_throw _
  refine related_bind (timeless_modify (fun _ _ _ => rfl) fun _ => rfl) fun _ => ?_
  refine related_bind (related_forEach ?_) fun _ => ?_
  · rintro ⟨chunk, index⟩
    exact sendFragment_timeless host _ _ _
  · split
    · exact sendFragment_timeless host _ _ _
    · exact related_pure _

theorem sendApplication_timeless (payload : Payload) :
    Related Timeless (sendApplication host payload) := by
  refine timeless_get (fun _ _ _ _ => rfl) fun s => ?_
  split
  · exact related_throw _
  · exact related_bind (related_lift _) fun _ => sendReliableOrdered_timeless host payload

theorem retransmit_timeless (sequence : DatagramSequence) :
    Related Timeless (retransmit host sequence) := by
  refine timeless_get ?_ fun s => ?_
  · intro s at_ unacked hunacked
    have hlookup := hunacked.lookup_eq sequence
    cases hd : s.unacked[sequence]? with
    | none =>
      rw [hd] at hlookup
      simp only [Option.map_eq_none_iff.mp hlookup.symm]
    | some datagram =>
      rw [hd] at hlookup
      obtain ⟨other, hother, hsame⟩ := Option.map_eq_some_iff.mp hlookup.symm
      cases datagram
      cases other
      cases hsame
      simp only [hother]
  · cases s.unacked[sequence]? with
    | none => exact related_pure _
    | some datagram =>
      dsimp only
      split
      · exact related_throw _
      · refine related_bind (sendTo_timeless host _) fun _ => ?_
        exact related_bind (consult_timeless _) fun now => insert_timeless _ _

theorem inboxPush_timeless (payload : Payload) : Related Timeless (inboxPush payload) := by
  refine timeless_get (fun _ _ _ _ => rfl) fun s => ?_
  exact related_bind (related_lift _) fun _ => timeless_modify (fun _ _ _ => rfl) fun _ => rfl

theorem deliverPayload_timeless (payload : Payload) :
    Related Timeless (deliverPayload host payload) := by
  refine related_bind (timeless_modify (fun _ _ _ => rfl) fun _ => rfl) fun _ => ?_
  refine related_bind (related_lift _) fun request => ?_
  cases request with
  | some requestTime =>
    refine timeless_get (fun _ _ _ _ => rfl) fun s => ?_
    exact related_bind (consult_timeless _) fun _ => sendReliableOrdered_timeless host _
  | none =>
    refine related_bind (related_lift _) fun ping => ?_
    cases ping with
    | some pingTime =>
      exact related_bind (consult_timeless _) fun _ => sendReliableOrdered_timeless host _
    | none =>
      refine timeless_get (fun _ _ _ _ => rfl) fun s => ?_
      have hpush : Related Timeless (if s.accepted then inboxPush payload else pure ()) := by
        split
        · exact inboxPush_timeless payload
        · exact related_pure _
      cases payload with
      | nil => exact hpush
      | cons id rest =>
        dsimp only
        split
        · refine related_bind (timeless_modify (fun _ _ _ => rfl) fun _ => rfl) fun _ => ?_
          refine related_bind (consult_timeless _) fun acceptOpen => ?_
          split
          · exact related_pure _
          · exact related_throw _
        · split
          · exact related_pure _
          · split
            · exact related_throw _
            · exact hpush

theorem drainHoldback_timeless (channel : UInt8) (turns : Nat) :
    Related Timeless (drainHoldback host channel turns) := by
  induction turns with
  | zero => exact related_pure _
  | succ turns ih =>
    refine timeless_get (fun _ _ _ _ => rfl) fun s => ?_
    dsimp only
    split
    · exact related_pure _
    · refine related_bind (timeless_modify (fun _ _ _ => rfl) fun _ => rfl) fun _ => ?_
      exact related_bind (deliverPayload_timeless host _) fun _ => ih

theorem acceptOrdered_timeless (channel : UInt8) (sequence : OrderSequence) (payload : Payload) :
    Related Timeless (acceptOrdered host channel sequence payload) := by
  refine timeless_get (fun _ _ _ _ => rfl) fun s => ?_
  refine related_bind (timeless_modify (fun _ _ _ => rfl) fun _ => rfl) fun _ => ?_
  split
  · refine related_bind (timeless_modify (fun _ _ _ => rfl) fun _ => rfl) fun _ => ?_
    exact related_bind (deliverPayload_timeless host payload) fun _ =>
      drainHoldback_timeless host channel _
  · split
    · exact related_bind (related_lift _) fun _ => timeless_modify (fun _ _ _ => rfl) fun _ => rfl
    · exact related_pure _

theorem routeFrame_timeless (frame : Frame) (payload : Payload) :
    Related Timeless (routeFrame host frame payload) := by
  unfold routeFrame
  split
  · cases frame.sequenceIndex with
    | none => exact related_throw _
    | some sequence =>
      refine timeless_get (fun _ _ _ _ => rfl) fun s => ?_
      split
      · exact related_pure _
      · exact related_bind (timeless_modify (fun _ _ _ => rfl) fun _ => rfl) fun _ =>
          deliverPayload_timeless host payload
  · split
    · cases frame.orderIndex with
      | none => exact related_throw _
      | some sequence => exact acceptOrdered_timeless host _ _ _
    · exact deliverPayload_timeless host payload

theorem acceptFragment_timeless (split : SplitHeader) (payload : Payload) :
    Related Timeless (acceptFragment split payload) := by
  unfold acceptFragment
  split
  · exact related_throw _
  refine timeless_get (fun _ _ _ _ => rfl) fun s => ?_
  refine related_bind (related_lift _) fun _ => ?_
  split
  · exact related_throw _
  refine related_bind (timeless_modify (fun _ _ _ => rfl) fun _ => rfl) fun _ => ?_
  split
  · exact related_throw _
  refine related_bind ?_ fun _ => ?_
  · unfold storeFragment
    split
    · exact related_pure _
    · refine timeless_get (fun _ _ _ _ => rfl) fun t => ?_
      refine related_bind (related_lift _) fun _ => ?_
      split
      · exact related_throw _
      · exact timeless_modify (fun _ _ _ => rfl) fun _ => rfl
  · unfold finishAssembly
    split
    · exact related_pure _
    · exact related_bind (timeless_modify (fun _ _ _ => rfl) fun _ => rfl) fun _ => related_pure _

theorem receiveFrame_timeless (frame : Frame) : Related Timeless (receiveFrame host frame) := by
  have hassemble : Related Timeless (assembleFrame host frame) := by
    unfold assembleFrame
    cases frame.split with
    | none => exact routeFrame_timeless host frame _
    | some split =>
      refine related_bind (acceptFragment_timeless split _) fun payload => ?_
      cases payload with
      | none => exact related_pure _
      | some payload => exact routeFrame_timeless host frame payload
  unfold receiveFrame
  cases frame.reliableIndex with
  | none => exact hassemble
  | some index =>
    refine timeless_get (fun _ _ _ _ => rfl) fun s => ?_
    dsimp only
    split
    · exact related_pure _
    · exact related_bind (timeless_modify (fun _ _ _ => rfl) fun _ => rfl) fun _ => hassemble

theorem applyAcknowledgement_timeless (acknowledgement : Acknowledgement) :
    Related Timeless (applyAcknowledgement host acknowledgement) := by
  cases acknowledgement with
  | ack ranges =>
    apply related_modify
    rintro s _ ⟨at_, unacked, hunacked, rfl⟩
    exact ⟨at_, _, hunacked.filter fun sequence => !ranges.any (inRange sequence), rfl⟩
  | nack ranges =>
    refine timeless_get ?_ fun s => related_forEach fun sequence => retransmit_timeless host sequence
    intro s at_ unacked hunacked
    simp only [hunacked.keys_eq]

theorem noteDatagram_timeless (sequence : DatagramSequence) :
    Related Timeless (noteDatagram host sequence) := by
  refine timeless_get (fun _ _ _ _ => rfl) fun s => ?_
  cases s.lastDatagram with
  | none => exact timeless_modify (fun _ _ _ => rfl) fun _ => rfl
  | some previous =>
    have hupdate : Related Timeless (if Sequence24.isNewerThan sequence previous = true then
        Act.modify fun s : Peer => { s with lastDatagram := some sequence }
        else pure () : PeerM Unit) := by
      split
      · exact timeless_modify (fun _ _ _ => rfl) fun _ => rfl
      · exact related_pure _
    dsimp only
    split
    · exact related_bind (sendTo_timeless host _) fun _ => hupdate
    · exact hupdate

theorem observe_timeless (now : Int) : Related Timeless (observe now) := by
  apply related_modify
  rintro s _ ⟨at_, unacked, hunacked, rfl⟩
  exact ⟨max at_ now, unacked, hunacked, rfl⟩

theorem receiveDatagram_timeless (bytes : Payload) :
    Related Timeless (receiveDatagram host bytes) := by
  refine related_bind ?_ fun frames => related_forEach fun frame => receiveFrame_timeless host frame
  refine related_bind (consult_timeless _) fun now => ?_
  refine related_bind (observe_timeless now) fun _ => ?_
  refine related_bind (related_lift _) fun acknowledgement => ?_
  cases acknowledgement with
  | some acknowledgement =>
    exact related_bind (applyAcknowledgement_timeless host acknowledgement) fun _ => related_pure _
  | none =>
    refine timeless_get (fun _ _ _ _ => rfl) fun s => ?_
    refine related_bind (related_lift _) fun datagram => ?_
    refine related_bind (sendTo_timeless host _) fun _ => ?_
    refine timeless_get (fun _ _ _ _ => rfl) fun t => ?_
    split
    · exact related_pure _
    · refine related_bind (timeless_modify (fun _ _ _ => rfl) fun _ => rfl) fun _ => ?_
      exact related_bind (noteDatagram_timeless host _) fun _ => related_pure _

end Timeless

/-! ### Live peers are consistent -/

theorem Mirrors.remember {order : List Sequence24} {seen : BTreeSet Sequence24}
    (h : Mirrors order seen) {k : Sequence24} (hk : seen.contains k = false) (limit : Nat) :
    Mirrors (expireWindow limit (order ++ [k]) (seen.insert k)).1
      (expireWindow limit (order ++ [k]) (seen.insert k)).2 := by
  have hinsert := h.insert hk
  obtain ⟨hnodup, -, hmem⟩ := expireWindow_ok limit _ _ hinsert.1 hinsert.2
  exact ⟨hnodup, hmem⟩

theorem Change.consistent {s t : Peer} (hchange : Change s t) (h : s.Consistent) :
    t.Consistent := by
  obtain ⟨hdatagrams, hreliable, hcounted⟩ := h
  cases hchange with
  | datagramSeen k hnew => exact ⟨hdatagrams.remember hnew _, hreliable, hcounted⟩
  | reliableSeen k hnew => exact ⟨hdatagrams, hreliable.remember hnew _, hcounted⟩
  | stored hadmitted _ => exact ⟨hdatagrams, hreliable, hcounted.fragment hadmitted.index _⟩
  | completed hadmitted => exact ⟨hdatagrams, hreliable, hcounted.assembled hadmitted.index _⟩
  | _ => exact ⟨hdatagrams, hreliable, hcounted⟩

/-! ### Live peers -/

section Lives

variable (host : Host)

/-- The states of a peer's loop: of one that the router created, of one that was restored from an
    admitted snapshot, and of either after any number of steps. -/
inductive Lives : PeerRun → Prop where
  | new (remoteAddr : SocketAddr) (mtu : Nat) (b : RakNetBudgets) (now : Int) :
      Lives ⟨Peer.new remoteAddr (clampMtu b mtu) b now, .running, []⟩
  | restored {p : PeerSnapshot} {b : RakNetBudgets} {validated : ValidatedPeerSnapshot}
      (h : p.intoValidated b = .ok validated) (restoredAt : Int) :
      Lives ⟨Peer.fromValidatedSnapshot validated b restoredAt, .frozen restoredAt, []⟩
  | step {run run' : PeerRun} (event : PeerEvent) (h : Lives run)
      (hs : run.step host event = some run') : Lives run'

theorem new_consistent (remoteAddr : SocketAddr) (mtu : Nat) (b : RakNetBudgets) (now : Int) :
    (Peer.new remoteAddr mtu b now).Consistent := by
  have hempty : Mirrors [] ∅ := by
    refine ⟨List.nodup_nil, fun k => ?_⟩
    simp
  exact ⟨hempty, hempty, (BTreeMap.total_empty _).symm, (BTreeMap.total_empty _).symm⟩

theorem restored_consistent {p : PeerSnapshot} (h : p.Admitted validated) (b : RakNetBudgets)
    (restoredAt : Int) : (Peer.fromValidatedSnapshot validated b restoredAt).Consistent := by
  have hsplits : ((p.reassembly.map fun split => (split.splitId, split.parts)).map
      Prod.fst).Nodup := by
    simpa [Function.comp_def] using h.splits
  refine ⟨⟨?_, ?_⟩, ⟨?_, ?_⟩, ?_, ?_⟩
  · simpa only [Peer.fromValidatedSnapshot, h.checkpoint] using h.datagramOrder
  · intro k
    simp [Peer.fromValidatedSnapshot, h.checkpoint, h.datagrams]
  · simpa only [Peer.fromValidatedSnapshot, h.checkpoint] using h.reliableOrder
  · intro k
    simp [Peer.fromValidatedSnapshot, h.checkpoint, h.reliable]
  · simp only [Peer.fromValidatedSnapshot, h.checkpoint]
    rw [BTreeMap.total_ofList _ hsplits, List.map_map]
    rfl
  · simp only [Peer.fromValidatedSnapshot, h.checkpoint]
    rw [BTreeMap.total_ofList _ hsplits, List.map_map]
    rfl

theorem lives_consistent {run : PeerRun} (h : Lives host run) : run.actor.Consistent := by
  induction h with
  | new remoteAddr mtu b now => exact new_consistent remoteAddr _ b now
  | restored h restoredAt => exact restored_consistent (intoValidated_admitted h).1 _ restoredAt
  | step event _ hs ih =>
    exact (step_changes host hs).keeps (fun _ _ hchange => hchange.consistent) ih

/-- Peers whose budgets are `b`: created, or restored under `b` from what one with budgets of its own
    exported, after any number of steps. -/
inductive Serves : RakNetBudgets → PeerRun → Prop where
  | new (remoteAddr : SocketAddr) (mtu : Nat) (b : RakNetBudgets) (now : Int) :
      Serves b ⟨Peer.new remoteAddr (clampMtu b mtu) b now, .running, []⟩
  | restored {b b' : RakNetBudgets} {run : PeerRun} {validated : ValidatedPeerSnapshot}
      {frozenAt : Int} (h : Serves b' run)
      (hvalid : (run.actor.snapshot frozenAt).intoValidated b = .ok validated) (restoredAt : Int) :
      Serves b ⟨Peer.fromValidatedSnapshot validated b restoredAt, .frozen restoredAt, []⟩
  | step {b : RakNetBudgets} {run run' : PeerRun} (event : PeerEvent) (h : Serves b run)
      (hs : run.step host event = some run') : Serves b run'

theorem Accounted.restored {b b' : RakNetBudgets} {a : Peer} (h : Accounted b' a) {frozenAt : Int}
    {validated : ValidatedPeerSnapshot}
    (hvalid : (a.snapshot frozenAt).intoValidated b = .ok validated) (restoredAt : Int) :
    Accounted b (Peer.fromValidatedSnapshot validated b restoredAt) := by
  obtain ⟨hadmitted, hwithin⟩ := intoValidated_admitted hvalid
  obtain ⟨hdatagrams, -, hseen⟩ := h.datagrams
  obtain ⟨hreliable, -, hseenReliable⟩ := h.reliable
  have hc : a.Consistent :=
    ⟨⟨hdatagrams, hseen⟩, ⟨hreliable, hseenReliable⟩, h.partsExact, h.bytesExact⟩
  obtain ⟨hparts, hbytes, hholdback, hunacked, hinbox, hdatagramRoom, hreliableRoom⟩ := hwithin
  simp only [Peer.snapshot, SequenceHistory.sequences_fromSequences, List.length_map,
    List.map_map, Function.comp_def, ExtTreeMap.length_toList]
    at hparts hbytes hholdback hunacked hdatagramRoom hreliableRoom
  rw [restored_eq hc hadmitted]
  exact {
    budgets := rfl
    partsExact := h.partsExact
    bytesExact := h.bytesExact
    parts := h.partsExact.trans_le hparts
    bytes := h.bytesExact.trans_le hbytes
    holdback := hholdback
    unacked := ExtTreeMap.size_map.trans_le hunacked
    inbox := hinbox
    datagrams := ⟨hdatagrams, hdatagramRoom, hseen⟩
    reliable := ⟨hreliable, hreliableRoom, hseenReliable⟩
    incomplete := h.incomplete }

/-- A restored peer keeps count, too. -/
theorem serves_accounted {b : RakNetBudgets} {run : PeerRun} (h : Serves host b run) :
    Accounted b run.actor := by
  induction h with
  | new remoteAddr mtu b now => exact accounted_new remoteAddr _ now
  | restored _ hvalid restoredAt ih => exact ih.restored hvalid restoredAt
  | step event _ hs ih =>
    exact (step_changes host hs).keeps (fun _ _ hchange => hchange.accounted) ih

end Lives

/-! ### The restored peer goes on -/

/-- What reaches a running peer: a datagram from the network or a payload to send. -/
inductive PeerInput where
  | datagram (bytes : Payload)
  | send (payload : Payload)

/-- The inputs one after the other, up to the first error, which ends the loop. -/
def exchange (host : Host) (inputs : List PeerInput) : PeerM Unit :=
  forEach (fun input => match input with
    | .datagram bytes => receiveDatagram host bytes
    | .send payload => sendApplication host payload) inputs

/-- What others see of an exchange: how it ended, the payloads delivered, those waiting to be
    received, and the datagrams sent. -/
def visible (outcome : Except RakNetError Unit × Peer) :
    Except RakNetError Unit × List Payload × List Payload × List Payload :=
  (outcome.1, outcome.2.delivered, outcome.2.inbox, outcome.2.sent)

theorem exchange_timeless (host : Host) (inputs : List PeerInput) :
    Related Timeless (exchange host inputs) := by
  refine related_forEach fun input => ?_
  cases input with
  | datagram bytes => exact receiveDatagram_timeless host bytes
  | send payload => exact sendApplication_timeless host payload

theorem visible_timeless {host : Host} {s s' : Peer} (h : Timeless s s')
    (inputs : List PeerInput) :
    visible (exchange host inputs s) = visible (exchange host inputs s') := by
  obtain ⟨hresult, at_, unacked, -, hstate⟩ := exchange_timeless host inputs s s' h
  unfold visible
  rw [hresult, hstate]

/-- The peer `a` with the budgets `b` and a fresh record of its environment. -/
def Peer.under (a : Peer) (b : RakNetBudgets) : Peer :=
  { a with budgets := b, reads := 0, sent := [], delivered := [] }

/-- **Importing a checkpoint is invisible**: the peer exports the same snapshot when it is restored
    and when it is resumed, and goes on as the frozen peer would under the same budgets. -/
structure Continues (host : Host) (a : Peer) (b : RakNetBudgets)
    (validated : ValidatedPeerSnapshot) (frozenAt restoredAt resumedAt : Int) : Prop where
  exported : (Peer.fromValidatedSnapshot validated b restoredAt).snapshot restoredAt =
    a.snapshot frozenAt
  resumed : ((Peer.fromValidatedSnapshot validated b restoredAt).resumed restoredAt
    resumedAt).snapshot resumedAt = a.snapshot frozenAt
  exchanges : ∀ (inPlaceAt : Int) (inputs : List PeerInput),
    visible (exchange host inputs
      ((Peer.fromValidatedSnapshot validated b restoredAt).resumed restoredAt resumedAt)) =
    visible (exchange host inputs ((a.under b).resumed frozenAt inPlaceAt))

theorem restored_timeless {a : Peer} (hc : a.Consistent) {frozenAt : Int}
    (h : (a.snapshot frozenAt).Admitted validated) (b : RakNetBudgets)
    (restoredAt resumedAt inPlaceAt : Int) :
    Timeless ((Peer.fromValidatedSnapshot validated b restoredAt).resumed restoredAt resumedAt)
      ((a.under b).resumed frozenAt inPlaceAt) := by
  rw [restored_eq hc h]
  refine ⟨_, _, ?_, rfl⟩
  apply SameDatagrams.of_lookup
  intro k
  simp only [Peer.resumed, resumeTimers, Act.modify, Peer.under, ExtTreeMap.getElem?_map,
    Option.map_map]
  rfl

/-- **A restored peer is the peer that was frozen**, to everybody but the clock: for every live
    peer whose snapshot is admitted under `b`. -/
theorem restored_continues (host serving : Host) {run : PeerRun} (h : Lives host run)
    (b : RakNetBudgets) (frozenAt restoredAt resumedAt : Int)
    {validated : ValidatedPeerSnapshot}
    (hvalid : (run.actor.snapshot frozenAt).intoValidated b = .ok validated) :
    Continues serving run.actor b validated frozenAt restoredAt resumedAt := by
  have hc := lives_consistent host h
  have hadmitted := (intoValidated_admitted hvalid).1
  constructor
  · exact restored_snapshot hc hadmitted b restoredAt
  · exact resumed_snapshot hc hadmitted b restoredAt resumedAt
  · intro inPlaceAt inputs
    exact visible_timeless (restored_timeless hc hadmitted b restoredAt resumedAt inPlaceAt) inputs

def defaultPeer : PeerRun :=
  ⟨Peer.new unspecifiedAddress (clampMtu .default 1492) .default 0, .running, []⟩

/-- A peer that has completed its handshake is restored under the budgets it ran with. -/
theorem restored_continues_handshake :
    ∃ run validated, Lives quietHost run ∧ run.actor.accepted = true ∧
      (run.actor.snapshot 5).intoValidated .default = .ok validated ∧
      Continues quietHost run.actor .default validated 5 100 107 := by
  have haccepted : (defaultPeer.step quietHost (.ingress handshakeDatagram)).map
      (fun run => (run.actor.accepted, ((run.actor.snapshot 5).intoValidated .default).isOk)) =
        some (true, true) := by decide
  obtain ⟨run, hrun, hok⟩ := Option.map_eq_some_iff.mp haccepted
  rw [Prod.mk.injEq] at hok
  have hlives : Lives quietHost run :=
    .step (.ingress handshakeDatagram) (.new unspecifiedAddress 1492 .default 0) hrun
  cases hvalid : (run.actor.snapshot 5).intoValidated .default with
  | error error =>
    rw [hvalid] at hok
    cases hok.2
  | ok validated =>
    exact ⟨run, validated, hlives, hok.1, hvalid,
      restored_continues quietHost quietHost hlives .default 5 100 107 hvalid⟩

/-- Whether the peer restored under `b` refuses a payload that the frozen one sends. -/
def refusesSend (b : RakNetBudgets) (run : PeerRun) (payload : Payload) : Bool :=
  match (run.actor.snapshot 0).intoValidated b with
  | .error _ => false
  | .ok validated =>
    let restored := (Peer.fromValidatedSnapshot validated b 0).resumed 0 0
    let inPlace := (run.actor.under run.actor.budgets).resumed 0 0
    (exchange quietHost [.send payload] inPlace).1.isOk &&
      !(exchange quietHost [.send payload] restored).1.isOk

/-- A peer restored under a smaller payload budget refuses what it would have sent in place. -/
theorem smaller_budgets_are_visible :
    ∃ run b validated, Lives quietHost run ∧
      (run.actor.snapshot 0).intoValidated b = .ok validated ∧
      ∃ inputs, visible (exchange quietHost inputs
          ((Peer.fromValidatedSnapshot validated b 0).resumed 0 0)) ≠
        visible (exchange quietHost inputs
          ((run.actor.under run.actor.budgets).resumed 0 0)) := by
  have hrefused : (defaultPeer.step quietHost (.ingress handshakeDatagram)).map
      (refusesSend tightBudgets · [0xfe, 0x01]) = some true := by decide
  obtain ⟨run, hrun, hrefuses⟩ := Option.map_eq_some_iff.mp hrefused
  unfold refusesSend at hrefuses
  split at hrefuses
  · cases hrefuses
  · rename_i validated hvalid
    refine ⟨run, tightBudgets, validated, ?_, hvalid, [.send [0xfe, 0x01]], ?_⟩
    · exact .step (.ingress handshakeDatagram) (.new unspecifiedAddress 1492 .default 0) hrun
    · intro hsame
      have hresult := congrArg Prod.fst hsame
      simp only [visible] at hresult
      simp only [hresult] at hrefuses
      simp at hrefuses

end RevyCraft.RakNet
