/-
  RevyCraft/UpgradeConnections.lean
  =================================
  **Who owns a connection when an executable upgrade freezes**
  (`bootstrap/listeners.rs`, `session/spawn.rs`, `executable.rs`, `server.rs` of
  the RakNet crate).

  A connection goes from the kernel or the RakNet router to the listener
  worker, from there into the accept queue, from the queue to the runtime loop,
  which waits for the gate, and from the loop into the session registry.  The
  freeze closes the gate, then pauses the listeners, and then takes two
  checkpoints: the router's peers that nobody has claimed, and the sessions of
  the registry.  Neither the queue nor the loop is asked.

  The kernel keeps what the parent has not accepted, since the child gets the
  same listener socket.  The worker accepts a connection and queues it in one
  turn, and pauses between turns.  What a checkpoint says about one peer or one
  session is the subject of other modules; here it is the number of the
  connection.
-/
import RevyCraft.Steps

namespace RevyCraft.Upgrade

def ACCEPT_QUEUE_CAPACITY : Nat := 256

/-! ### The owners of a connection -/

inductive AdmissionState where
  | open
  | closed
  deriving DecidableEq

/-- A peer of the router: whether its handshake is over, so that it waits in the accept channel,
    and whether the listener has claimed it for a session. -/
structure RouterPeer where
  connection : Nat
  connected : Bool
  claimed : Bool

structure SealedNetwork where
  sessions : List Nat
  routerPeers : List RouterPeer

structure ChildNetwork where
  sessions : List Nat
  queuedBedrockPeers : List Nat
  /-- Peers in the handshake, which stay with the router. -/
  routerPeers : List Nat

structure Network where
  /-- The TCP connections that the kernel holds for the listener. -/
  backlog : List Nat
  peers : List RouterPeer
  acceptQueue : List Nat
  /-- The connection that the runtime loop admits. -/
  admitting : Option Nat
  sessions : List Nat
  /-- Sessions whose task has ended, and which wait to be unregistered. -/
  ended : List Nat
  admission : AdmissionState
  ingressPaused : Bool
  /-- An unclaimed peer has ended, and the paused router still has it. -/
  peerLost : Bool
  /-- The connections that were accepted and not closed when the ingress was frozen. -/
  atFreeze : List Nat
  sealed : Option SealedNetwork
  child : Option ChildNetwork

inductive NetworkStep where
  | tcpConnects (connection : Nat)
  | tcpAccept
  | peerOpens (connection : Nat)
  | peerConnects (connection : Nat)
  /-- The listener takes a peer out of the accept channel. -/
  | peerAccept (connection : Nat)
  /-- An unclaimed peer leaves or times out. -/
  | peerCloses (connection : Nat)
  | receiveAccepted
  /-- The loop gets its permit; the session is not spawned if its generation has gone. -/
  | admission (spawned : Bool)
  | sessionEnds (connection : Nat)
  | unregister (connection : Nat)
  | freezeDataPlane
  | freezeIngress
  | sealNetwork
  | resume
  | activateChild

namespace Network

def new : Network := ⟨[], [], [], none, [], [], .open, false, false, [], none, none⟩

def routerOwned (s : Network) : List RouterPeer := s.peers.filter fun peer => !peer.claimed

/-- The connections that the parent has accepted and not closed. -/
def held (s : Network) : List Nat :=
  s.routerOwned.map (·.connection) ++ s.acceptQueue ++ s.admitting.toList ++ s.sessions

/-- `accepted_tx.try_send`: a full queue drops the connection. -/
def trySend (s : Network) (connection : Nat) : Network :=
  if s.acceptQueue.length < ACCEPT_QUEUE_CAPACITY then
    { s with acceptQueue := s.acceptQueue ++ [connection] }
  else s

/-- The peer is claimed for a session. -/
def claim (s : Network) (connection : Nat) : Network :=
  { s with
    peers := s.peers.map fun peer =>
      if peer.connection = connection then { peer with claimed := true } else peer }

/-- What the child starts with: a peer that was connected waits for a session again. -/
def imported (network : SealedNetwork) : ChildNetwork where
  sessions := network.sessions
  queuedBedrockPeers := (network.routerPeers.filter (·.connected)).map (·.connection)
  routerPeers := (network.routerPeers.filter fun peer => !peer.connected).map (·.connection)

def step (s : Network) : NetworkStep → Option Network
  | .tcpConnects connection => some { s with backlog := s.backlog ++ [connection] }
  | .tcpAccept =>
    match s.ingressPaused, s.backlog with
    | false, connection :: rest => some ({ s with backlog := rest }.trySend connection)
    | _, _ => none
  | .peerOpens connection =>
    if s.ingressPaused then none
    else some { s with peers := s.peers ++ [⟨connection, false, false⟩] }
  | .peerConnects connection =>
    -- Its task works off what it has received, also while the router is paused.
    if s.sealed.isSome then none
    else
      some { s with
        peers := s.peers.map fun peer =>
          if peer.connection = connection then { peer with connected := true } else peer }
  | .peerAccept connection =>
    if s.ingressPaused then none
    else
      (s.routerOwned.find? fun peer => peer.connected && peer.connection = connection).map fun _ =>
        (s.claim connection).trySend connection
  | .peerCloses connection =>
    if s.sealed.isSome then none
    else if s.ingressPaused then
      some { s with peerLost := s.peerLost || s.routerOwned.any (·.connection = connection) }
    else
      some { s with
        peers := s.peers.filter fun peer => peer.claimed || peer.connection ≠ connection }
  | .receiveAccepted =>
    match s.admitting, s.acceptQueue with
    | none, connection :: rest => some { s with acceptQueue := rest, admitting := some connection }
    | _, _ => none
  | .admission spawned =>
    match s.admission, s.admitting with
    | .open, some connection =>
      some { s with
        admitting := none
        sessions := if spawned then s.sessions ++ [connection] else s.sessions }
    | _, _ => none
  | .sessionEnds connection =>
    if s.sealed.isSome then none else some { s with ended := s.ended ++ [connection] }
  | .unregister connection =>
    if s.admission = .open ∧ connection ∈ s.ended then
      some { s with
        sessions := s.sessions.filter (· ≠ connection)
        ended := s.ended.filter (· ≠ connection) }
    else none
  | .freezeDataPlane =>
    if s.admission = .open then some { s with admission := .closed } else none
  | .freezeIngress =>
    if s.admission = .closed ∧ s.ingressPaused = false then
      some { s with ingressPaused := true, atFreeze := s.held }
    else none
  | .sealNetwork =>
    -- A session or a peer whose task has ended does not answer, and the upgrade is given up.
    if s.ingressPaused ∧ s.sealed = none ∧ s.sessions.all (· ∉ s.ended) ∧ s.peerLost = false then
      some { s with sealed := some ⟨s.sessions, s.routerOwned⟩ }
    else none
  | .resume =>
    -- The router does not resume with a peer that has ended; its listener stops for good then.
    if s.child = none ∧ s.peerLost = false then
      some { s with admission := .open, ingressPaused := false, atFreeze := [], sealed := none }
    else none
  | .activateChild =>
    if s.child = none then
      s.sealed.map fun network => { s with child := some (imported network) }
    else none

def run (s : Network) (steps : List NetworkStep) : Option Network := Steps.run step s steps

end Network

/-! ### Nothing falls between two owners -/

def ChildNetwork.Has (child : ChildNetwork) (connection : Nat) : Prop :=
  connection ∈ child.sessions ∨ connection ∈ child.queuedBedrockPeers ∨
    connection ∈ child.routerPeers

instance (child : ChildNetwork) (connection : Nat) : Decidable (child.Has connection) :=
  inferInstanceAs (Decidable (_ ∨ _ ∨ _))

/-- The ingress is frozen with no connection between the listeners and the registry. -/
def NetworkStep.Settled (s : Network) : NetworkStep → Prop
  | .freezeIngress => s.acceptQueue = [] ∧ s.admitting = none
  | _ => True

instance (s : Network) (step : NetworkStep) : Decidable (step.Settled s) := by
  cases step <;> unfold NetworkStep.Settled <;> infer_instance

namespace Network

/-- What was held when the ingress was frozen stays with the router or the registry, goes into
    the checkpoints, and arrives in the child. -/
structure Conserves (s : Network) : Prop where
  closed : s.ingressPaused = true → s.admission = .closed
  frozen : s.sealed.isSome ∨ s.child.isSome → s.ingressPaused = true
  paused : s.ingressPaused = true → s.sealed = none → ∀ connection ∈ s.atFreeze,
    connection ∈ s.sessions ∨ connection ∈ s.routerOwned.map (·.connection)
  sealed : ∀ network ∈ s.sealed, ∀ connection ∈ s.atFreeze,
    connection ∈ network.sessions ∨ connection ∈ network.routerPeers.map (·.connection)
  child : ∀ child ∈ s.child, ∀ connection ∈ s.atFreeze, child.Has connection

theorem Conserves.new : Conserves .new where
  closed := nofun
  frozen := by simp [Network.new]
  paused := nofun
  sealed := nofun
  child := nofun

section Steps

variable {s s' : Network}

theorem imported_has {network : SealedNetwork} {connection : Nat}
    (h : connection ∈ network.sessions ∨
      connection ∈ network.routerPeers.map (·.connection)) : (imported network).Has connection := by
  rcases h with hsession | hpeer
  · exact .inl hsession
  · obtain ⟨peer, hmem, rfl⟩ := List.mem_map.mp hpeer
    cases hconnected : peer.connected with
    | true =>
      refine .inr (.inl (List.mem_map_of_mem (List.mem_filter.mpr ⟨hmem, hconnected⟩)))
    | false =>
      refine .inr (.inr (List.mem_map_of_mem (List.mem_filter.mpr ⟨hmem, ?_⟩)))
      simp [hconnected]

/-- A step that leaves the freeze alone, and while the ingress is paused loses no session and no
    unclaimed peer. -/
theorem Conserves.kept (h : s.Conserves) (hpaused : s'.ingressPaused = s.ingressPaused)
    (hadmission : s.ingressPaused = true → s'.admission = s.admission)
    (hfreeze : s'.atFreeze = s.atFreeze) (hsealed : s'.sealed = s.sealed)
    (hchild : s'.child = s.child)
    (howners : s.ingressPaused = true → s'.sessions = s.sessions ∧
      s'.routerOwned.map (·.connection) = s.routerOwned.map (·.connection)) : s'.Conserves where
  closed := by
    rw [hpaused]
    intro hpause
    rw [hadmission hpause]
    exact h.closed hpause
  frozen := by
    rw [hpaused, hsealed, hchild]
    exact h.frozen
  paused := by
    rw [hpaused, hsealed, hfreeze]
    intro hpause
    rw [(howners hpause).1, (howners hpause).2]
    exact h.paused hpause
  sealed := by
    rw [hsealed, hfreeze]
    exact h.sealed
  child := by
    rw [hchild, hfreeze]
    exact h.child

theorem trySend_kept (s : Network) (connection : Nat) :
    (s.trySend connection).ingressPaused = s.ingressPaused ∧
      (s.trySend connection).admission = s.admission ∧
      (s.trySend connection).atFreeze = s.atFreeze ∧
      (s.trySend connection).sealed = s.sealed ∧ (s.trySend connection).child = s.child := by
  unfold trySend
  split <;> exact ⟨rfl, rfl, rfl, rfl, rfl⟩

theorem routerOwned_connects (s : Network) (connection : Nat) :
    ((s.peers.map fun peer =>
      if peer.connection = connection then { peer with connected := true } else peer).filter
        fun peer => !peer.claimed).map (·.connection) = s.routerOwned.map (·.connection) := by
  unfold routerOwned
  induction s.peers with
  | nil => rfl
  | cons peer rest ih =>
    cases hclaimed : peer.claimed <;> by_cases hpeer : peer.connection = connection <;>
      simp_all

theorem Conserves.freezeIngress (h : s.Conserves) (hqueue : s.acceptQueue = [])
    (hadmitting : s.admitting = none) (hclosed : s.admission = .closed)
    (hserving : s.ingressPaused = false) :
    Conserves { s with ingressPaused := true, atFreeze := s.held } where
  closed := fun _ => hclosed
  frozen := fun _ => rfl
  paused := by
    intro _ _ connection hmem
    unfold held at hmem
    simp only [hqueue, hadmitting, Option.toList_none, List.append_nil, List.mem_append] at hmem
    exact hmem.symm
  sealed := by
    intro network hnetwork
    have hpaused := h.frozen (.inl (by rw [Option.mem_def.mp hnetwork]; rfl))
    cases hserving.symm.trans hpaused
  child := by
    intro child hchild
    have hpaused := h.frozen (.inr (by rw [Option.mem_def.mp hchild]; rfl))
    cases hserving.symm.trans hpaused

theorem Conserves.step (h : s.Conserves) {step : NetworkStep} (hsettled : step.Settled s)
    (hstep : s.step step = some s') : s'.Conserves := by
  cases step with
  | tcpConnects connection =>
    cases hstep
    exact h.kept rfl (fun _ => rfl) rfl rfl rfl fun _ => ⟨rfl, rfl⟩
  | tcpAccept =>
    dsimp only [Network.step] at hstep
    split at hstep
    · next connection rest hserving hbacklog =>
      cases hstep
      obtain ⟨hpaused, hadmission, hfreeze, hsealed, hchild⟩ :=
        trySend_kept { s with backlog := rest } connection
      refine h.kept hpaused (fun _ => hadmission) hfreeze hsealed hchild fun hpause => ?_
      cases hserving.symm.trans hpause
    · cases hstep
  | peerOpens connection =>
    obtain ⟨hserving, hdone⟩ := Option.ite_none_left_eq_some.mp hstep
    cases hdone
    exact h.kept rfl (fun _ => rfl) rfl rfl rfl fun hpause => absurd hpause hserving
  | peerConnects connection =>
    obtain ⟨-, hdone⟩ := Option.ite_none_left_eq_some.mp hstep
    cases hdone
    refine h.kept rfl (fun _ => rfl) rfl rfl rfl fun _ => ⟨rfl, ?_⟩
    exact routerOwned_connects s connection
  | peerAccept connection =>
    obtain ⟨hserving, hdone⟩ := Option.ite_none_left_eq_some.mp hstep
    obtain ⟨peer, -, rfl⟩ := Option.map_eq_some_iff.mp hdone
    obtain ⟨hpaused, hadmission, hfreeze, hsealed, hchild⟩ :=
      trySend_kept (s.claim connection) connection
    exact h.kept hpaused (fun _ => hadmission) hfreeze hsealed hchild fun hpause =>
      absurd hpause hserving
  | peerCloses connection =>
    obtain ⟨-, hdone⟩ := Option.ite_none_left_eq_some.mp hstep
    split at hdone
    · cases hdone
      exact h.kept rfl (fun _ => rfl) rfl rfl rfl fun _ => ⟨rfl, rfl⟩
    · next hserving =>
      cases hdone
      exact h.kept rfl (fun _ => rfl) rfl rfl rfl fun hpause => absurd hpause hserving
  | receiveAccepted =>
    dsimp only [Network.step] at hstep
    split at hstep
    · cases hstep
      exact h.kept rfl (fun _ => rfl) rfl rfl rfl fun _ => ⟨rfl, rfl⟩
    · cases hstep
  | admission spawned =>
    dsimp only [Network.step] at hstep
    split at hstep
    · next connection hopen hadmitting =>
      cases hstep
      refine h.kept rfl (fun _ => rfl) rfl rfl rfl fun hpause => ?_
      cases hopen.symm.trans (h.closed hpause)
    · cases hstep
  | sessionEnds connection =>
    obtain ⟨-, hdone⟩ := Option.ite_none_left_eq_some.mp hstep
    cases hdone
    exact h.kept rfl (fun _ => rfl) rfl rfl rfl fun _ => ⟨rfl, rfl⟩
  | unregister connection =>
    obtain ⟨⟨hopen, -⟩, hdone⟩ := Option.ite_none_right_eq_some.mp hstep
    cases hdone
    refine h.kept rfl (fun _ => rfl) rfl rfl rfl fun hpause => ?_
    cases hopen.symm.trans (h.closed hpause)
  | freezeDataPlane =>
    obtain ⟨hopen, hdone⟩ := Option.ite_none_right_eq_some.mp hstep
    cases hdone
    refine h.kept rfl (fun hpause => ?_) rfl rfl rfl fun _ => ⟨rfl, rfl⟩
    exact (h.closed hpause).symm
  | freezeIngress =>
    obtain ⟨⟨hclosed, hserving⟩, hdone⟩ := Option.ite_none_right_eq_some.mp hstep
    cases hdone
    exact h.freezeIngress hsettled.1 hsettled.2 hclosed hserving
  | sealNetwork =>
    obtain ⟨⟨hpause, hunsealed, -, -⟩, hdone⟩ := Option.ite_none_right_eq_some.mp hstep
    cases hdone
    refine ⟨h.closed, fun _ => hpause, nofun, ?_, h.child⟩
    intro network hnetwork
    cases hnetwork
    exact h.paused hpause hunsealed
  | resume =>
    obtain ⟨⟨hchild, -⟩, hdone⟩ := Option.ite_none_right_eq_some.mp hstep
    cases hdone
    refine ⟨nofun, ?_, nofun, nofun, nofun⟩
    rintro (hsealed | hsome)
    · cases hsealed
    · rw [hchild] at hsome
      cases hsome
  | activateChild =>
    obtain ⟨-, hdone⟩ := Option.ite_none_right_eq_some.mp hstep
    obtain ⟨network, hnetwork, rfl⟩ := Option.map_eq_some_iff.mp hdone
    have hpause := h.frozen (.inl (by rw [hnetwork]; rfl))
    refine ⟨h.closed, fun _ => hpause, h.paused, h.sealed, ?_⟩
    intro child hchild connection hmem
    cases hchild
    exact imported_has (h.sealed network hnetwork connection hmem)

theorem Conserves.run (h : s.Conserves) {steps : List NetworkStep}
    (halong : Steps.Along Network.step (fun s step => step.Settled s) s steps)
    (hrun : s.run steps = some s') : s'.Conserves :=
  Steps.run_keeps (fun _ _ _ h hsettled hstep => h.step hsettled hstep) h halong hrun

end Steps

end Network

/-- **No accepted connection is lost by a committed upgrade**, where the ingress is frozen with
    nothing between the listeners and the registry. -/
theorem upgrade_keeps_connections {steps : List NetworkStep} {s : Network}
    (hrun : Network.new.run steps = some s)
    (halong : Steps.Along Network.step (fun s step => step.Settled s) .new steps)
    {child : ChildNetwork} (hchild : s.child = some child) :
    ∀ connection ∈ s.atFreeze, child.Has connection :=
  (Network.Conserves.new.run halong hrun).child child hchild

/-- An upgrade while a Java client plays, a Bedrock peer waits to be accepted and another one is
    in its handshake; the second Java client has come `late`. -/
def upgradeWith (late : List NetworkStep) : List NetworkStep :=
  [.tcpConnects 0, .tcpAccept, .receiveAccepted, .admission true, .peerOpens 1, .peerOpens 2,
    .peerConnects 1] ++ late ++ [.freezeIngress, .sealNetwork, .activateChild]

theorem upgrade_keeps_connections_three :
    ∃ s child, Network.new.run (upgradeWith [.freezeDataPlane, .tcpConnects 3]) = some s ∧
      s.child = some child ∧ s.atFreeze = [1, 2, 0] ∧
      ∀ connection ∈ s.atFreeze, child.Has connection := by
  have hruns : ((Network.new.run (upgradeWith [.freezeDataPlane, .tcpConnects 3])).any fun s =>
      s.child.isSome && decide (s.atFreeze = [1, 2, 0])) = true := by
    decide
  obtain ⟨s, hrun, hlast⟩ := (Option.any_eq_true _ _).mp hruns
  obtain ⟨hsome, hfreeze⟩ := Bool.and_eq_true_iff.mp hlast
  obtain ⟨child, hchild⟩ := Option.isSome_iff_exists.mp hsome
  exact ⟨s, child, hrun, hchild, of_decide_eq_true hfreeze,
    upgrade_keeps_connections hrun (by decide) hchild⟩

/-- A connection that the loop has taken from the accept queue, and that waits for the closed gate,
    is in neither part of the sealed network. -/
theorem queued_connection_is_lost :
    ∃ s child,
      Network.new.run (upgradeWith [.tcpConnects 3, .tcpAccept, .freezeDataPlane,
        .receiveAccepted]) = some s ∧
      s.child = some child ∧ ¬ ∀ connection ∈ s.atFreeze, child.Has connection := by
  have hlost : ((Network.new.run (upgradeWith [.tcpConnects 3, .tcpAccept, .freezeDataPlane,
      .receiveAccepted])).any fun s => s.child.any fun child =>
        decide (¬ ∀ connection ∈ s.atFreeze, child.Has connection)) = true := by
    decide
  obtain ⟨s, hrun, hlast⟩ := (Option.any_eq_true _ _).mp hlost
  obtain ⟨child, hchild, hmissing⟩ := (Option.any_eq_true _ _).mp hlast
  exact ⟨s, child, hrun, hchild, of_decide_eq_true hmissing⟩

end RevyCraft.Upgrade
