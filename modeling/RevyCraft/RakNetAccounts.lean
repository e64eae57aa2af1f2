/-
  RevyCraft/RakNetAccounts.lean
  =============================
  **What a RakNet peer holds is counted and bounded** — whatever bytes the
  remote side sends, in any order.

  `Change` lists, with their guards, the writes that the actor's operations
  make to the collections it keeps for its peer: the unacknowledged datagrams,
  the reassembly table and its two counters, the two duplicate windows, the
  ordered holdback and the inbox.  Every operation is summarised once as a
  sequence of such writes; an invariant of the peer is then one case analysis
  over `Change`.

  A received fragment is one write, from the lookup of its split id to the
  removal of a complete assembly, because a complete assembly stands in the
  table for a moment in between.
-/
import RevyCraft.RakNetTransfer

namespace RevyCraft.RakNet

open Std Act

/-! ### What the actor writes -/

/-- The bytes a fragment adds: none when its part is already there. -/
def freshBytes (s : Peer) (split : SplitHeader) (payload : Payload) : Nat :=
  if (assemblyFor s split)[split.index]?.join.isSome then 0 else payload.length

/-- A fragment that `accept_fragment` admits. -/
structure FragmentAdmitted (s : Peer) (split : SplitHeader) (payload : Payload) : Prop where
  count : split.count ≠ 0
  index : split.index < (assemblyFor s split).length
  parts : s.reassemblyParts + freshParts s split ≤ min s.budgets.maxReassemblyPartsPerPeer usizeMax
  bytes : freshBytes s split payload = 0 ∨ s.reassemblyBytes + freshBytes s split payload ≤
    min s.budgets.maxReassemblyBytesPerPeer usizeMax

inductive Change (s : Peer) : Peer → Prop where
  | quiet (accepted : Bool) (nextDatagram nextReliable nextOrdered : Sequence24)
      (nextSplitId : UInt16) (lastDatagram : Option DatagramSequence)
      (orderedExpected sequencedLatest : BTreeMap UInt8 OrderSequence) (lastObserved : Int)
      (reads : Nat) (sent delivered : List Payload) :
      Change s { s with
        accepted := accepted, nextDatagram := nextDatagram, nextReliable := nextReliable,
        nextOrdered := nextOrdered, nextSplitId := nextSplitId, lastDatagram := lastDatagram,
        orderedExpected := orderedExpected, sequencedLatest := sequencedLatest,
        lastObserved := lastObserved, reads := reads, sent := sent, delivered := delivered }
  | sent (k : DatagramSequence) (d : UnackedDatagram)
      (hroom : s.unacked.size + 1 ≤ s.budgets.maxUnackedDatagrams) :
      Change s { s with unacked := s.unacked.insert k d }
  | resent {k : DatagramSequence} {d : UnackedDatagram} (d' : UnackedDatagram)
      (hk : s.unacked[k]? = some d) : Change s { s with unacked := s.unacked.insert k d' }
  | acknowledged (kept : DatagramSequence → UnackedDatagram → Bool) :
      Change s { s with unacked := s.unacked.filter kept }
  | retimed (f : DatagramSequence → UnackedDatagram → UnackedDatagram) (lastObserved : Int) :
      Change s { s with unacked := s.unacked.map f, lastObserved := lastObserved }
  | datagramSeen (k : DatagramSequence) (hnew : s.seenDatagrams.contains k = false) :
      Change s { s with
        seenDatagramOrder := (expireWindow (duplicateWindowLimit s.budgets)
          (s.seenDatagramOrder ++ [k]) (s.seenDatagrams.insert k)).1,
        seenDatagrams := (expireWindow (duplicateWindowLimit s.budgets)
          (s.seenDatagramOrder ++ [k]) (s.seenDatagrams.insert k)).2 }
  | reliableSeen (k : ReliableSequence) (hnew : s.seenReliable.contains k = false) :
      Change s { s with
        seenReliableOrder := (expireWindow (duplicateWindowLimit s.budgets)
          (s.seenReliableOrder ++ [k]) (s.seenReliable.insert k)).1,
        seenReliable := (expireWindow (duplicateWindowLimit s.budgets)
          (s.seenReliableOrder ++ [k]) (s.seenReliable.insert k)).2 }
  | queued (payload : Payload) (hroom : s.inbox.length + 1 ≤ s.budgets.applicationQueue) :
      Change s { s with inbox := s.inbox ++ [payload] }
  | received : Change s { s with inbox := s.inbox.tail }
  | held (key : HoldKey) (payload : Payload)
      (hroom : s.orderedHoldback.size + 1 ≤ s.budgets.maxOrderedHoldback) :
      Change s { s with orderedHoldback := s.orderedHoldback.insertIfNew key payload }
  | released (key : HoldKey) (orderedExpected : BTreeMap UInt8 OrderSequence) :
      Change s { s with
        orderedHoldback := s.orderedHoldback.erase key, orderedExpected := orderedExpected }
  | stored {split : SplitHeader} {payload : Payload} (hadmitted : FragmentAdmitted s split payload)
      (hmissing : (storePart (assemblyFor s split) split.index payload).any Option.isNone = true) :
      Change s { s with
        reassembly := s.reassembly.insert split.id
          (storePart (assemblyFor s split) split.index payload),
        reassemblyParts := s.reassemblyParts + freshParts s split,
        reassemblyBytes := s.reassemblyBytes + freshBytes s split payload }
  | completed {split : SplitHeader} {payload : Payload}
      (hadmitted : FragmentAdmitted s split payload) :
      Change s { s with
        reassembly := s.reassembly.erase split.id,
        reassemblyParts := s.reassemblyParts + freshParts s split -
          (storePart (assemblyFor s split) split.index payload).length,
        reassemblyBytes := s.reassemblyBytes + freshBytes s split payload -
          partBytes (storePart (assemblyFor s split) split.index payload) }

abbrev Changes : Peer → Peer → Prop := Relation.ReflTransGen Change

theorem Changes.keeps {I : Peer → Prop} (hI : ∀ s t, Change s t → I s → I t) {s t : Peer}
    (h : Changes s t) (hs : I s) : I t := by
  induction h with
  | refl => exact hs
  | tail _ hchange ih => exact hI _ _ hchange ih

/-- "When the operation succeeds, it has made such writes." -/
abbrev Changing {α : Type} (x : PeerM α) : Prop :=
  ∀ s, Spec (Changes s) x (fun _ => Changes s) fun _ => True

theorem Changing.ok {α : Type} {x : PeerM α} (h : Changing x) {s t : Peer} {a : α}
    (hrun : x s = (.ok a, t)) : Changes s t :=
  Spec.ok (h s) .refl hrun

theorem changing_pure {α : Type} (a : α) : Changing (pure a : PeerM α) :=
  fun _ => spec_pure fun _ h => h

theorem changing_throw {α : Type} (e : RakNetError) : Changing (throw e : PeerM α) :=
  fun _ => spec_throw fun _ _ => trivial

theorem changing_lift {α : Type} (x : Except RakNetError α) : Changing (lift x : PeerM α) := by
  intro s t ht
  cases x with
  | ok a => exact ht
  | error e => exact trivial

theorem changing_modify {f : Peer → Peer} (h : ∀ t, Change t (f t)) :
    Changing (Act.modify f : PeerM Unit) :=
  fun _ => spec_modify fun t ht => ht.tail (h t)

theorem changing_bind {α β : Type} {x : PeerM α} {f : α → PeerM β} (hx : Changing x)
    (hf : ∀ a, Changing (f a)) : Changing (x >>= f) :=
  fun s => spec_bind (hx s) fun a => hf a s

theorem changing_get {β : Type} {f : Peer → PeerM β} (h : ∀ t, Changing (f t)) :
    Changing (Act.get >>= f) := by
  intro s
  refine spec_get_bind fun t ht => ?_
  exact (h t s).mono (by rintro u rfl; exact ht) (fun _ _ hu => hu) fun _ hu => hu

theorem changing_forEach {β : Type} {f : β → PeerM Unit} {xs : List β} (h : ∀ b, Changing (f b)) :
    Changing (forEach f xs) :=
  fun s => spec_forEach fun b _ => h b s

/-! ### Every operation makes such writes -/

section Operations

variable (host : Host)

/-- The collections stand as at `t`, and only such writes were made since `s`. -/
def Since (s t u : Peer) : Prop :=
  Changes s u ∧ u.budgets = t.budgets ∧ u.unacked = t.unacked ∧
    u.orderedHoldback = t.orderedHoldback

theorem since_unobserved (s t : Peer) : Unobserved (Since s t) := by
  rintro u reads sent ⟨hchanges, hrest⟩
  exact ⟨hchanges.tail (.quiet ..), hrest⟩

theorem consult_changing {α : Type} (answer : Nat → α) : Changing (consult answer) :=
  changing_get fun _ => changing_bind (changing_modify fun _ => .quiet ..) fun _ => changing_pure _

theorem sendTo_changing (bytes : Payload) : Changing (sendTo host bytes) := by
  refine changing_bind (consult_changing _) fun answer => ?_
  cases answer with
  | error message => exact changing_throw _
  | ok u => exact changing_modify fun _ => .quiet ..

theorem sendFrame_changing (frame : Frame) : Changing (sendFrame host frame) := by
  intro s
  refine spec_get_bind fun t ht => ?_
  refine spec_lift_bind (fun _ _ => trivial) fun _ hroom => ?_
  have hroom := le_of_ensureBudget hroom
  refine spec_bind (R := fun _ => Since s t) (spec_modify ?_) fun _ => ?_
  · rintro u rfl
    exact ⟨ht.tail (.quiet ..), rfl, rfl, rfl⟩
  refine spec_lift_bind (fun _ _ => trivial) fun _ _ => ?_
  refine spec_bind (sendTo_spec host _ (since_unobserved s t) fun _ _ => trivial) fun _ => ?_
  refine spec_bind (consult_spec _ (since_unobserved s t)) fun now => ?_
  refine spec_modify ?_
  rintro u ⟨hchanges, hbudgets, hunacked, -⟩
  refine hchanges.tail (.sent _ _ ?_)
  rw [hbudgets, hunacked]
  exact hroom

theorem sendFragment_changing (order : OrderSequence) (split : Option SplitHeader)
    (payload : Payload) : Changing (sendFragment host order split payload) :=
  changing_get fun _ => changing_bind (changing_modify fun _ => .quiet ..) fun _ =>
    sendFrame_changing host _

theorem sendReliableOrdered_changing (payload : Payload) :
    Changing (sendReliableOrdered host payload) := by
  refine changing_get fun t => ?_
  dsimp only
  split
  · exact changing_throw _
  refine changing_bind (changing_modify fun _ => .quiet ..) fun _ => ?_
  split
  · exact changing_throw _
  refine changing_bind (changing_modify fun _ => .quiet ..) fun _ => ?_
  refine changing_bind (changing_forEach fun _ => sendFragment_changing host _ _ _) fun _ => ?_
  split
  · exact sendFragment_changing host _ _ _
  · exact changing_pure _

theorem sendApplication_changing (payload : Payload) : Changing (sendApplication host payload) := by
  refine changing_get fun t => ?_
  split
  · exact changing_throw _
  · exact changing_bind (changing_lift _) fun _ => sendReliableOrdered_changing host payload

theorem retransmit_changing (sequence : DatagramSequence) : Changing (retransmit host sequence) := by
  intro s
  refine spec_get_bind fun t ht => ?_
  cases hd : t.unacked[sequence]? with
  | none => exact spec_pure (by rintro u rfl; exact ht)
  | some datagram =>
    dsimp only
    split
    · exact spec_throw fun _ _ => trivial
    refine Spec.mono (P := Since s t) ?_ (by rintro u rfl; exact ⟨ht, rfl, rfl, rfl⟩)
      (fun _ _ h => h) fun _ h => h
    refine spec_bind (sendTo_spec host _ (since_unobserved s t) fun _ _ => trivial) fun _ => ?_
    refine spec_bind (consult_spec _ (since_unobserved s t)) fun now => ?_
    refine spec_modify ?_
    rintro u ⟨hchanges, -, hunacked, -⟩
    exact hchanges.tail (.resent _ (hunacked ▸ hd))

theorem inboxPush_changing (payload : Payload) : Changing (inboxPush payload) := by
  intro s
  refine spec_get_bind fun t ht => ?_
  refine spec_lift_bind (fun _ _ => trivial) fun _ hroom => ?_
  refine spec_modify ?_
  rintro u rfl
  exact ht.tail (.queued _ (le_of_ensureBudget hroom))

theorem deliverPayload_changing (payload : Payload) : Changing (deliverPayload host payload) := by
  refine changing_bind (changing_modify fun _ => .quiet ..) fun _ => ?_
  refine changing_bind (changing_lift _) fun request => ?_
  cases request with
  | some requestTime =>
    refine changing_get fun t => ?_
    exact changing_bind (consult_changing _) fun _ => sendReliableOrdered_changing host _
  | none =>
    refine changing_bind (changing_lift _) fun ping => ?_
    cases ping with
    | some pingTime =>
      exact changing_bind (consult_changing _) fun _ => sendReliableOrdered_changing host _
    | none =>
      refine changing_get fun t => ?_
      have hpush : Changing (if t.accepted then inboxPush payload else pure ()) := by
        split
        · exact inboxPush_changing payload
        · exact changing_pure _
      cases payload with
      | nil => exact hpush
      | cons id rest =>
        dsimp only
        split
        · refine changing_bind (changing_modify fun _ => .quiet ..) fun _ => ?_
          refine changing_bind (consult_changing _) fun acceptOpen => ?_
          split
          · exact changing_pure _
          · exact changing_throw _
        · split
          · exact changing_pure _
          · split
            · exact changing_throw _
            · exact hpush

theorem drainHoldback_changing (channel : UInt8) (turns : Nat) :
    Changing (drainHoldback host channel turns) := by
  induction turns with
  | zero => exact changing_pure _
  | succ turns ih =>
    refine changing_get fun t => ?_
    dsimp only
    split
    · exact changing_pure _
    · refine changing_bind (changing_modify fun _ => .released ..) fun _ => ?_
      exact changing_bind (deliverPayload_changing host _) fun _ => ih

theorem acceptOrdered_changing (channel : UInt8) (sequence : OrderSequence) (payload : Payload) :
    Changing (acceptOrdered host channel sequence payload) := by
  intro s
  refine spec_get_bind fun t ht => ?_
  refine spec_bind (R := fun _ => Since s t) (spec_modify ?_) fun _ => ?_
  · rintro u rfl
    exact ⟨ht.tail (.quiet ..), rfl, rfl, rfl⟩
  split
  · refine spec_bind (R := fun _ => Changes s)
      (spec_modify fun u hu => hu.1.tail (.quiet ..)) fun _ => ?_
    exact spec_bind (deliverPayload_changing host payload s) fun _ =>
      drainHoldback_changing host channel _ s
  · split
    · refine spec_lift_bind (fun _ _ => trivial) fun _ hroom => ?_
      have hroom := le_of_ensureBudget hroom
      refine spec_modify ?_
      rintro u ⟨hchanges, hbudgets, -, hheld⟩
      refine hchanges.tail (.held _ _ ?_)
      rw [hbudgets, hheld]
      exact hroom
    · exact spec_pure fun u hu => hu.1

/-! ### A fragment is one write -/

/-- The table of the fragment's split id is open. -/
def Peer.opened (t : Peer) (split : SplitHeader) : Peer :=
  { t with
    reassembly := t.reassembly.insert split.id (assemblyFor t split),
    reassemblyParts := t.reassemblyParts + freshParts t split }

/-- The fragment is in its slot. -/
def Peer.stored (t : Peer) (split : SplitHeader) (payload : Payload) : Peer :=
  { t with
    reassembly := t.reassembly.insert split.id
      (storePart (assemblyFor t split) split.index payload),
    reassemblyParts := t.reassemblyParts + freshParts t split,
    reassemblyBytes := t.reassemblyBytes + freshBytes t split payload }

theorem storeFragment_stored {t : Peer} {split : SplitHeader} {payload : Payload}
    (hcount : split.count ≠ 0) (hindex : split.index < (assemblyFor t split).length)
    (hparts : t.reassemblyParts + freshParts t split ≤
      min t.budgets.maxReassemblyPartsPerPeer usizeMax) :
    Spec (fun u => u = t.opened split) (storeFragment split (assemblyFor t split) payload)
      (fun _ u => u = t.stored split payload ∧ FragmentAdmitted t split payload)
      fun _ => True := by
  unfold storeFragment
  split
  · rename_i hthere
    have hfresh : freshBytes t split payload = 0 := if_pos hthere
    refine spec_pure ?_
    rintro u rfl
    refine ⟨?_, hcount, hindex, hparts, .inl hfresh⟩
    simp only [Peer.opened, Peer.stored, hfresh, storePart, if_pos hthere, Nat.add_zero]
  · rename_i hmissing
    have hfresh : freshBytes t split payload = payload.length := if_neg hmissing
    refine spec_get_bind fun u hu => ?_
    subst hu
    refine spec_lift_bind (fun _ _ => trivial) fun _ hbytes => ?_
    have hbytes := le_of_ensureBudget hbytes
    split
    · exact spec_throw fun _ _ => trivial
    rename_i hfit
    refine spec_modify ?_
    rintro u rfl
    refine ⟨?_, hcount, hindex, hparts, .inr ?_⟩
    · simp only [Peer.opened, Peer.stored, hfresh, BTreeMap.insert_insert_same]
    · rw [hfresh]
      exact saturatingAdd_le hbytes (Nat.le_of_not_lt hfit)

theorem acceptFragment_changing (split : SplitHeader) (payload : Payload) :
    Changing (acceptFragment split payload) := by
  intro s
  unfold acceptFragment
  split
  · exact spec_throw fun _ _ => trivial
  rename_i hrange
  rw [not_or, Nat.not_le] at hrange
  refine spec_get_bind fun t ht => ?_
  refine spec_lift_bind (fun _ _ => trivial) fun _ hroom => ?_
  have hroom := le_of_ensureBudget hroom
  split
  · exact spec_throw fun _ _ => trivial
  rename_i hfit
  have hparts := saturatingAdd_le hroom (Nat.le_of_not_lt hfit)
  refine spec_bind (R := fun _ u => u = t.opened split)
    (spec_modify (by rintro u rfl; rfl)) fun _ => ?_
  split
  · exact spec_throw fun _ _ => trivial
  rename_i hlen
  rw [Decidable.not_not] at hlen
  refine spec_bind (storeFragment_stored hrange.1 (hlen ▸ hrange.2) hparts) fun _ => ?_
  unfold finishAssembly
  split
  · rename_i hmissing
    refine spec_pure ?_
    rintro u ⟨rfl, hadmitted⟩
    exact ht.tail (.stored hadmitted hmissing)
  · refine spec_bind (R := fun _ => Changes s) (spec_modify ?_) fun _ => spec_pure fun _ hu => hu
    rintro u ⟨rfl, hadmitted⟩
    refine ht.tail ?_
    simp only [Peer.stored, BTreeMap.erase_insert_same]
    exact .completed hadmitted

/-! ### Frames, datagrams and timers -/

theorem routeFrame_changing (frame : Frame) (payload : Payload) :
    Changing (routeFrame host frame payload) := by
  unfold routeFrame
  split
  · cases frame.sequenceIndex with
    | none => exact changing_throw _
    | some sequence =>
      refine changing_get fun t => ?_
      split
      · exact changing_pure _
      · exact changing_bind (changing_modify fun _ => .quiet ..) fun _ =>
          deliverPayload_changing host payload
  · split
    · cases frame.orderIndex with
      | none => exact changing_throw _
      | some sequence => exact acceptOrdered_changing host _ _ _
    · exact deliverPayload_changing host payload

theorem receiveFrame_changing (frame : Frame) : Changing (receiveFrame host frame) := by
  have hassemble : Changing (assembleFrame host frame) := by
    unfold assembleFrame
    cases frame.split with
    | none => exact routeFrame_changing host frame _
    | some split =>
      refine changing_bind (acceptFragment_changing split _) fun payload => ?_
      cases payload with
      | none => exact changing_pure _
      | some payload => exact routeFrame_changing host frame payload
  unfold receiveFrame
  cases frame.reliableIndex with
  | none => exact hassemble
  | some index =>
    intro s
    refine spec_get_bind fun t ht => ?_
    dsimp only
    split
    · exact spec_pure (by rintro u rfl; exact ht)
    · rename_i hnew
      refine spec_bind (spec_modify ?_) fun _ => hassemble s
      rintro u rfl
      exact ht.tail (.reliableSeen index (Bool.eq_false_iff.mpr hnew))

theorem applyAcknowledgement_changing (acknowledgement : Acknowledgement) :
    Changing (applyAcknowledgement host acknowledgement) := by
  cases acknowledgement with
  | ack ranges => exact changing_modify fun _ => .acknowledged _
  | nack ranges => exact changing_get fun _ => changing_forEach fun k => retransmit_changing host k

theorem noteDatagram_changing (sequence : DatagramSequence) :
    Changing (noteDatagram host sequence) := by
  refine changing_get fun t => ?_
  cases t.lastDatagram with
  | none => exact changing_modify fun _ => .quiet ..
  | some previous =>
    have hupdate : Changing (if Sequence24.isNewerThan sequence previous = true then
        Act.modify fun s : Peer => { s with lastDatagram := some sequence } else pure ()) := by
      split
      · exact changing_modify fun _ => .quiet ..
      · exact changing_pure _
    dsimp only
    split
    · exact changing_bind (sendTo_changing host _) fun _ => hupdate
    · exact hupdate

theorem receiveDatagram_changing (bytes : Payload) : Changing (receiveDatagram host bytes) := by
  refine changing_bind ?_ fun frames => changing_forEach fun frame => receiveFrame_changing host frame
  refine changing_bind (consult_changing _) fun now => ?_
  refine changing_bind (changing_modify fun _ => .quiet ..) fun _ => ?_
  refine changing_bind (changing_lift _) fun acknowledgement => ?_
  cases acknowledgement with
  | some acknowledgement =>
    exact changing_bind (applyAcknowledgement_changing host acknowledgement) fun _ => changing_pure _
  | none =>
    refine changing_get fun t => ?_
    refine changing_bind (changing_lift _) fun datagram => ?_
    refine changing_bind (sendTo_changing host _) fun _ => ?_
    intro s
    refine spec_get_bind fun t ht => ?_
    split
    · exact spec_pure (by rintro u rfl; exact ht)
    · rename_i hnew
      refine spec_bind (R := fun _ => Changes s) (spec_modify ?_) fun _ => ?_
      · rintro u rfl
        exact ht.tail (.datagramSeen _ (Bool.eq_false_iff.mpr hnew))
      · exact changing_bind (noteDatagram_changing host _) (fun _ => changing_pure _) s

theorem onTimer_changing : Changing (onTimer host) := by
  refine changing_bind (consult_changing _) fun now => ?_
  refine changing_get fun t => ?_
  split
  · exact changing_throw _
  · exact changing_forEach fun k => retransmit_changing host k

/-! ### Turns of the loop -/

theorem perform_changes {run run' : PeerRun} {operation : PeerM Unit} (hop : Changing operation)
    (hs : run.perform operation = some run') : Changes run.actor run'.actor := by
  unfold PeerRun.perform at hs
  split at hs
  · cases hs
    exact hop.ok ‹_›
  · cases hs

theorem applyCommand_changes {run run' : PeerRun} (command : PeerCommand)
    (hs : run.applyCommand host command = some run') : Changes run.actor run'.actor := by
  cases command with
  | send payload => exact perform_changes (sendApplication_changing host payload) hs
  | freeze =>
    simp only [PeerRun.applyCommand] at hs
    split at hs
    · cases hs
      exact (consult_changing _).ok ‹_›
    · cases hs
  | sealTransfer | resume =>
    cases hs
    exact .refl
  | transfer => cases hs

theorem frozenCommand_changes {run run' : PeerRun} (since : Int) (command : PeerCommand)
    (hs : run.frozenCommand host since command = some run') : Changes run.actor run'.actor := by
  cases command with
  | send payload =>
    simp only [PeerRun.frozenCommand] at hs
    split at hs <;> cases hs <;> exact .refl
  | freeze | sealTransfer =>
    cases hs
    exact .refl
  | resume =>
    have hresume : Changing (consult host.clock >>= fun now => resumeTimers since now) :=
      changing_bind (consult_changing _) fun now => changing_modify fun _ => .retimed ..
    exact @perform_changes { run with execution := .running } _ _ hresume hs
  | transfer => cases hs

theorem step_changes {run run' : PeerRun} {event : PeerEvent}
    (hs : run.step host event = some run') : Changes run.actor run'.actor := by
  cases event with
  | observed at_ => exact perform_changes (changing_modify fun _ => .quiet ..) hs
  | received =>
    cases hs
    exact .single .received
  | command command =>
    simp only [PeerRun.step] at hs
    split at hs
    · exact frozenCommand_changes host _ command hs
    · split at hs
      · exact applyCommand_changes host command hs
      · cases hs
  | deferred =>
    simp only [PeerRun.step] at hs
    split at hs
    · rename_i payload rest _ _
      exact @applyCommand_changes host { run with deferred := rest } _ (.send payload) hs
    · cases hs
  | ingress bytes =>
    simp only [PeerRun.step] at hs
    split at hs
    · split at hs
      · exact perform_changes (receiveDatagram_changing host bytes) hs
      · cases hs
    · cases hs
  | timer =>
    simp only [PeerRun.step] at hs
    split at hs
    · split at hs
      · exact perform_changes (onTimer_changing host) hs
      · cases hs
    · cases hs

end Operations

/-! ### The accounts -/

section Accounts

variable {b : RakNetBudgets} {s : Peer}

theorem Counted.fragment (h : Counted s.reassembly s.reassemblyBytes s.reassemblyParts)
    {split : SplitHeader} (hindex : split.index < (assemblyFor s split).length)
    (payload : Payload) :
    Counted (s.stored split payload).reassembly (s.stored split payload).reassemblyBytes
      (s.stored split payload).reassemblyParts := by
  have hopened : Counted (s.reassembly.insert split.id (assemblyFor s split)) s.reassemblyBytes
      (s.reassemblyParts + freshParts s split) := h.opened rfl
  by_cases hthere : (assemblyFor s split)[split.index]?.join.isSome
  · have hfresh : freshBytes s split payload = 0 := if_pos hthere
    simp only [Peer.stored, storePart, if_pos hthere, hfresh, Nat.add_zero]
    exact hopened
  · have hfresh : freshBytes s split payload = payload.length := if_neg hthere
    have hopen : (s.reassembly.insert split.id (assemblyFor s split))[split.id]? =
        some (assemblyFor s split) := by simp
    have hstored := hopened.stored hopen (join_none_of_lt hindex hthere) payload
    rw [BTreeMap.insert_insert_same] at hstored
    simp only [Peer.stored, storePart, if_neg hthere, hfresh]
    exact hstored

theorem Counted.assembled (h : Counted s.reassembly s.reassemblyBytes s.reassemblyParts)
    {split : SplitHeader} (hindex : split.index < (assemblyFor s split).length)
    (payload : Payload) :
    Counted (s.reassembly.erase split.id)
      (s.reassemblyBytes + freshBytes s split payload -
        partBytes (storePart (assemblyFor s split) split.index payload))
      (s.reassemblyParts + freshParts s split -
        (storePart (assemblyFor s split) split.index payload).length) := by
  have hthere : (s.stored split payload).reassembly[split.id]? =
      some (storePart (assemblyFor s split) split.index payload) := by simp [Peer.stored]
  have hclosed := (h.fragment hindex payload).closed hthere
  simpa only [Peer.stored, BTreeMap.erase_insert_same] using hclosed

/-- **The accounts of a peer.**  The counters are what the reassembly table holds, every
    collection is within its budget, each duplicate window lists what its set holds, and no
    assembly waits in the table without a missing part. -/
structure Accounted (b : RakNetBudgets) (s : Peer) : Prop where
  budgets : s.budgets = b
  partsExact : s.reassemblyParts = BTreeMap.total List.length s.reassembly
  bytesExact : s.reassemblyBytes = BTreeMap.total partBytes s.reassembly
  parts : s.reassemblyParts ≤ b.maxReassemblyPartsPerPeer
  bytes : s.reassemblyBytes ≤ b.maxReassemblyBytesPerPeer
  holdback : s.orderedHoldback.size ≤ b.maxOrderedHoldback
  unacked : s.unacked.size ≤ b.maxUnackedDatagrams
  inbox : s.inbox.length ≤ b.applicationQueue
  datagrams : WindowOk b s.seenDatagramOrder s.seenDatagrams
  reliable : WindowOk b s.seenReliableOrder s.seenReliable
  incomplete : ∀ (id : UInt16) (parts : List (Option Payload)),
    s.reassembly[id]? = some parts → none ∈ parts

theorem accounted_new (remoteAddr : SocketAddr) (mtu : Nat) (now : Int) :
    Accounted b (Peer.new remoteAddr mtu b now) := by
  have hwindow : WindowOk b [] ∅ := by
    refine ⟨List.nodup_nil, Nat.zero_le _, fun s => ?_⟩
    simp
  exact {
    budgets := rfl
    partsExact := (BTreeMap.total_empty _).symm
    bytesExact := (BTreeMap.total_empty _).symm
    parts := Nat.zero_le _
    bytes := Nat.zero_le _
    holdback := Nat.zero_le _
    unacked := Nat.zero_le _
    inbox := Nat.zero_le _
    datagrams := hwindow
    reliable := hwindow
    incomplete := by
      intro id parts hid
      simp [Peer.new] at hid }

theorem Accounted.stored (h : Accounted b s) {split : SplitHeader} {payload : Payload}
    (hadmitted : FragmentAdmitted s split payload)
    (hmissing : (storePart (assemblyFor s split) split.index payload).any Option.isNone = true) :
    Accounted b (s.stored split payload) := by
  have hcounted := Counted.fragment ⟨h.partsExact, h.bytesExact⟩ hadmitted.index payload
  have hparts := hadmitted.parts
  have hbytes := hadmitted.bytes
  have hheld := h.bytes
  rw [h.budgets] at hparts hbytes
  refine { h with
    partsExact := hcounted.1
    bytesExact := hcounted.2
    parts := ?_
    bytes := ?_
    incomplete := ?_ }
  · simp only [Peer.stored]
    omega
  · simp only [Peer.stored]
    omega
  · intro id parts hid
    simp only [Peer.stored] at hid
    rw [BTreeMap.getElem?_insert_eq] at hid
    split at hid
    · cases hid
      obtain ⟨part, hmem, hnone⟩ := List.any_eq_true.mp hmissing
      rwa [Option.isNone_iff_eq_none.mp hnone] at hmem
    · exact h.incomplete id parts hid

theorem Change.accounted {t : Peer} (hchange : Change s t) (h : Accounted b s) :
    Accounted b t := by
  cases hchange with
  | quiet =>
    exact { h with }
  | sent k d hroom =>
    refine { h with unacked := ?_ }
    rw [h.budgets] at hroom
    exact Nat.le_trans ExtTreeMap.size_insert_le hroom
  | resent d' hk =>
    refine { h with unacked := ?_ }
    rw [ExtTreeMap.size_insert, ExtTreeMap.contains_eq_isSome_getElem?, hk]
    exact h.unacked
  | acknowledged kept =>
    exact { h with unacked := Nat.le_trans ExtTreeMap.size_filter_le_size h.unacked }
  | retimed f lastObserved =>
    refine { h with unacked := ?_ }
    rw [ExtTreeMap.size_map]
    exact h.unacked
  | datagramSeen k hnew =>
    refine { h with datagrams := ?_ }
    rw [h.budgets]
    exact h.datagrams.remember hnew
  | reliableSeen k hnew =>
    refine { h with reliable := ?_ }
    rw [h.budgets]
    exact h.reliable.remember hnew
  | queued payload hroom =>
    refine { h with inbox := ?_ }
    rw [h.budgets] at hroom
    simpa using hroom
  | received =>
    refine { h with inbox := ?_ }
    exact Nat.le_trans (by simp) h.inbox
  | held key payload hroom =>
    refine { h with holdback := ?_ }
    rw [h.budgets] at hroom
    exact Nat.le_trans ExtTreeMap.size_insertIfNew_le hroom
  | released key =>
    exact { h with holdback := Nat.le_trans ExtTreeMap.size_erase_le h.holdback }
  | stored hadmitted hmissing => exact h.stored hadmitted hmissing
  | completed hadmitted =>
    rename_i payload
    have hcounted := Counted.assembled ⟨h.partsExact, h.bytesExact⟩ hadmitted.index payload
    have hparts := h.parts
    have hbytes := h.bytes
    have hpartsRoom := hadmitted.parts
    have hbytesRoom := hadmitted.bytes
    rw [h.budgets] at hpartsRoom hbytesRoom
    refine { h with
      partsExact := hcounted.1
      bytesExact := hcounted.2
      parts := by dsimp only; omega
      bytes := by dsimp only; omega
      incomplete := ?_ }
    intro id parts hid
    rw [BTreeMap.getElem?_erase_eq] at hid
    split at hid
    · cases hid
    · exact h.incomplete id parts hid

/-- **A hostile peer cannot make the actor lose count.**  Whatever datagrams arrive, whatever is
    sent and acknowledged, the accounts hold after every turn that returns. -/
theorem reaches_accounted (host : Host) {run : PeerRun}
    (h : Reaches host b (fun _ _ => True) run) : Accounted b run.actor := by
  induction h with
  | new remoteAddr mtu now => exact accounted_new remoteAddr _ now
  | step event _ _ hs ih =>
    exact (step_changes host hs).keeps (fun _ _ hchange => hchange.accounted) ih

/-- The handshake and the first of two fragments: two slots are counted, one of them filled. -/
theorem reaches_accounted_fragment :
    ∃ run, Reaches quietHost tightBudgets (fun _ _ => True) run ∧
      (run.actor.reassemblyParts, run.actor.reassemblyBytes) = (2, 1) ∧
      Accounted tightBudgets run.actor := by
  have hcounts : (tightPeer.stepAll quietHost (oversizedEvents.take 2)).map
      (fun run => (run.actor.reassemblyParts, run.actor.reassemblyBytes)) = some (2, 1) := by decide
  obtain ⟨run, hrun, hcount⟩ := Option.map_eq_some_iff.mp hcounts
  have hreach := reaches_stepAll quietHost (.new unspecifiedAddress 1492 0) hrun
  exact ⟨run, hreach, hcount, reaches_accounted quietHost hreach⟩

end Accounts

end RevyCraft.RakNet
