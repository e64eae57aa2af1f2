/-
  RevyCraft/RakNetRouter.lean
  ===========================
  **The socket router** (`server.rs`, the offline requests of `wire.rs` and
  `PeerControl` of `peer.rs`).

  The first part is the freeze and resume of the peers the router owns: a
  control reaches an actor through its command channel, and an actor works off
  the channel in order.  The second part is the registry of the peers: packets
  open, feed and drop entries, and the task of an actor that ended posts a
  notice with the address of its peer.

  The peers are listed in the order in which their hash map is iterated.
-/
import RevyCraft.RakNetPeer

namespace RevyCraft.RakNet

open Bytes

/-! ### Commands to an actor -/

/-- The commands a control sends; `PeerCommand::Send` comes from a session, and the peer of a
    session is not the router's. -/
inductive ControlCommand where
  | freeze
  | sealTransfer
  | resume
  | transfer
  deriving DecidableEq

/-- An actor as its control sees it: whether its task still runs and is frozen, and the commands
    it has not taken from its channel yet. -/
structure PeerTask where
  routerOwned : Bool
  alive : Bool
  frozen : Bool
  commands : List ControlCommand
  deriving DecidableEq

namespace PeerTask

/-- One command in `run_with_state`, frozen or running. -/
def handle (task : PeerTask) : ControlCommand → PeerTask
  | .freeze => { task with frozen := true }
  | .sealTransfer => task
  | .resume => { task with frozen := false }
  | .transfer => { task with alive := false }

/-- The commands of a channel, until one of them ends the actor. -/
def handleAll (task : PeerTask) : List ControlCommand → PeerTask
  | [] => task
  | command :: rest => if task.alive then (task.handle command).handleAll rest else task

/-- The actor once it has worked off its channel. -/
def settled (task : PeerTask) : PeerTask :=
  { task with commands := [] }.handleAll task.commands

/-- A command whose reply is awaited: when the reply comes, everything before it is done. -/
def request (task : PeerTask) (command : ControlCommand) : Except RakNetError Unit × PeerTask :=
  let task := task.settled
  if task.alive then (.ok (), task.handle command) else (.error .closed, task)

def freeze (task : PeerTask) : Except RakNetError Unit × PeerTask := task.request .freeze

def freezeForTransfer (task : PeerTask) : Except RakNetError Unit × PeerTask :=
  match task.freeze with
  | (.ok (), task) => task.request .sealTransfer
  | (.error error, task) => (.error error, task)

/-- `resume_control`: `try_send` on a channel of the given capacity. -/
def resume (capacity : Nat) (task : PeerTask) : Except RakNetError Unit × PeerTask :=
  if !task.alive then (.error .closed, task)
  else if task.commands.length ≥ capacity then (.error .queueFull, task)
  else (.ok (), { task with commands := task.commands ++ [.resume] })

end PeerTask

/-! ### Freezing and resuming the peers -/

/-- `resume_peer_controls`, which stops at the first control that refuses. -/
def resumePeerControls (capacity : Nat) :
    List PeerTask → Except RakNetError Unit × List PeerTask
  | [] => (.ok (), [])
  | task :: rest =>
    if !task.routerOwned then
      let (result, rest) := resumePeerControls capacity rest
      (result, task :: rest)
    else
      match task.resume capacity with
      | (.error error, task) => (.error error, task :: rest)
      | (.ok (), task) =>
        let (result, rest) := resumePeerControls capacity rest
        (result, task :: rest)

/-- A request to every owned peer, each in a task of its own; the errors are collected. -/
def requestAll (request : PeerTask → Except RakNetError Unit × PeerTask) :
    List PeerTask → List RakNetError × List PeerTask
  | [] => ([], [])
  | task :: rest =>
    let (errors, rest) := requestAll request rest
    if !task.routerOwned then (errors, task :: rest)
    else
      match request task with
      | (.ok (), task) => (errors, task :: rest)
      | (.error error, task) => (error :: errors, task :: rest)

/-- The `Display` text of an error. -/
def RakNetError.text : RakNetError → String
  | .wire message => s!"raknet wire error: {message}"
  | .budget resource requested limit =>
    s!"raknet {resource} budget exhausted: requested {requested}, limit {limit}"
  | .closed => "raknet peer is closed"
  | .peerTimeout => "raknet peer activity timed out"
  | .retransmitExhausted sequence attempts =>
    s!"raknet datagram sequence {sequence} exhausted its retransmit budget after {attempts} attempts"
  | .queueFull => "raknet peer command queue is full"
  | .io message => message
  | .outOfMemory => "out of memory"

/-- `freeze_peer_controls`. -/
def freezePeerControls (tasks : List PeerTask) : Except RakNetError Unit × List PeerTask :=
  let (errors, tasks) := requestAll PeerTask.freeze tasks
  (if errors.isEmpty then .ok ()
    else
      let failures := "; ".intercalate (errors.map RakNetError.text)
      .error (.wire s!"raknet peer freeze compensation failed: {failures}"), tasks)

/-- `freeze_peers`, with the address the socket answers at the end. -/
def freezePeers (capacity : Nat) (localAddr : Except String SocketAddr) (tasks : List PeerTask) :
    Except RakNetError SocketAddr × List PeerTask :=
  match requestAll PeerTask.freezeForTransfer tasks with
  | (error :: _, tasks) =>
    match resumePeerControls capacity tasks with
    | (.ok (), tasks) => (.error error, tasks)
    | (.error compensation, tasks) =>
      (.error (.wire s!"raknet peer freeze failed: {error.text}; resume compensation failed: {compensation.text}"),
        tasks)
  | ([], tasks) =>
    match localAddr with
    | .ok address => (.ok address, tasks)
    | .error message => (.error (.io message), tasks)

/-- `resume_peers`. -/
def resumePeers (capacity : Nat) (tasks : List PeerTask) :
    Except RakNetError Unit × List PeerTask :=
  match resumePeerControls capacity tasks with
  | (.ok (), tasks) => (.ok (), tasks)
  | (.error error, tasks) =>
    match freezePeerControls tasks with
    | (.error compensation, tasks) =>
      (.error (.wire s!"raknet peer resume failed: {error.text}; freeze compensation failed: {compensation.text}"),
        tasks)
    | (.ok (), tasks) => (.error error, tasks)

/-! ### What a request does -/

variable {task : PeerTask} {router : Router} {remoteAddr : SocketAddr}

namespace PeerTask

theorem handleAll_kept (task : PeerTask) (commands : List ControlCommand) :
    (task.handleAll commands).routerOwned = task.routerOwned ∧
      (task.handleAll commands).commands = task.commands := by
  induction commands generalizing task with
  | nil => exact ⟨rfl, rfl⟩
  | cons command rest ih =>
    unfold handleAll
    split
    · obtain ⟨howned, hcommands⟩ := ih (task.handle command)
      rw [howned, hcommands]
      cases command <;> exact ⟨rfl, rfl⟩
    · exact ⟨rfl, rfl⟩

@[simp] theorem settled_routerOwned (task : PeerTask) :
    task.settled.routerOwned = task.routerOwned :=
  (handleAll_kept { task with commands := [] } task.commands).1

@[simp] theorem settled_commands (task : PeerTask) : task.settled.commands = [] :=
  (handleAll_kept { task with commands := [] } task.commands).2

theorem settled_of_empty (h : task.commands = []) : task.settled = task := by
  rcases task with ⟨routerOwned, alive, frozen, commands⟩
  cases h
  rfl

theorem settled_settled (task : PeerTask) : task.settled.settled = task.settled :=
  settled_of_empty (settled_commands task)

theorem settled_frozen (task : PeerTask) :
    ({ task.settled with frozen := true } : PeerTask).settled =
      { task.settled with frozen := true } :=
  settled_of_empty (settled_commands task)

/-- The actor is still there once it has worked off its channel. -/
def Live (task : PeerTask) : Prop := task.settled.alive = true

instance (task : PeerTask) : Decidable task.Live := inferInstanceAs (Decidable (_ = true))

theorem request_live (h : task.Live) (command : ControlCommand) :
    task.request command = (.ok (), task.settled.handle command) := if_pos h

theorem request_ended (h : ¬ task.Live) (command : ControlCommand) :
    task.request command = (.error .closed, task.settled) := if_neg h

theorem freezeForTransfer_live (h : task.Live) :
    task.freezeForTransfer = (.ok (), { task.settled with frozen := true }) := by
  have hlive : ({ task.settled with frozen := true } : PeerTask).Live := by
    unfold Live
    rw [settled_frozen]
    exact h
  simp only [freezeForTransfer, freeze, request_live h, handle]
  rw [request_live hlive, settled_frozen]
  rfl

theorem freezeForTransfer_ended (h : ¬ task.Live) :
    task.freezeForTransfer = (.error .closed, task.settled) := by
  simp only [freezeForTransfer, freeze, request_ended h]

end PeerTask

theorem requestAll_eq (request : PeerTask → Except RakNetError Unit × PeerTask)
    (tasks : List PeerTask) :
    (requestAll request tasks).2 =
        tasks.map (fun task => if task.routerOwned then (request task).2 else task) ∧
      ((requestAll request tasks).1 = [] ↔
        ∀ task ∈ tasks, task.routerOwned → (request task).1 = .ok ()) := by
  induction tasks with
  | nil => exact ⟨rfl, by simp [requestAll]⟩
  | cons task rest ih =>
    obtain ⟨htasks, herrors⟩ := ih
    unfold requestAll
    cases howned : task.routerOwned with
    | false =>
      simp only [Bool.not_false, if_true, List.map_cons, howned, Bool.false_eq_true, if_false,
        htasks, List.forall_mem_cons, false_implies, true_and]
      exact herrors
    | true =>
      rcases hrequest : request task with ⟨_ | _, after⟩
      · simp [howned, htasks, hrequest]
      · simp [howned, htasks, hrequest, herrors]

/-! ### Failed freezes and resumes -/

/-- The peers of the router, in the order of the map. -/
def ownedPeers (tasks : List PeerTask) : List PeerTask := tasks.filter (·.routerOwned)

/-- Every owned peer that is still there has the given execution state, once it has worked off
    its channel. -/
def OwnedAre (frozen : Bool) (tasks : List PeerTask) : Prop :=
  ∀ task ∈ tasks, task.routerOwned → task.Live → task.settled.frozen = frozen

/-- A peer after `freeze_for_transfer`. -/
def frozenForTransfer (task : PeerTask) : PeerTask :=
  if task.routerOwned then task.freezeForTransfer.2 else task

theorem frozenForTransfer_owned (howned : task.routerOwned = true) : frozenForTransfer task =
      if task.Live then { task.settled with frozen := true } else task.settled := by
  unfold frozenForTransfer
  rw [if_pos howned]
  split
  · rename_i h
    rw [PeerTask.freezeForTransfer_live h]
  · rename_i h
    rw [PeerTask.freezeForTransfer_ended h]

theorem ownedAre_frozenForTransfer (tasks : List PeerTask) :
    OwnedAre false (tasks.map frozenForTransfer) ↔ ∀ task ∈ ownedPeers tasks, ¬ task.Live := by
  unfold OwnedAre ownedPeers
  simp only [List.forall_mem_map, List.mem_filter, and_imp]
  refine forall₂_congr fun task _ => ?_
  cases howned : task.routerOwned with
  | false => simp [frozenForTransfer, howned]
  | true =>
    rw [frozenForTransfer_owned howned]
    by_cases hlive : task.Live
    · rw [if_pos hlive, PeerTask.Live, PeerTask.settled_frozen]
      constructor
      · intro h
        have hrunning := h ((PeerTask.settled_routerOwned task).trans howned) hlive
        cases hrunning
      · intro h
        exact absurd hlive (h rfl)
    · rw [if_neg hlive, PeerTask.Live, PeerTask.settled_settled]
      constructor
      · intro _ _
        exact hlive
      · intro _ _ halive
        exact absurd halive hlive

/-- **The compensation of a freeze** reaches every live peer exactly when no ended one stands
    before it. -/
theorem resumePeerControls_frozen {capacity : Nat} (hcapacity : 0 < capacity)
    (tasks : List PeerTask) :
    OwnedAre false (resumePeerControls capacity (tasks.map frozenForTransfer)).2 ↔
      (ownedPeers tasks).Pairwise fun earlier later => later.Live → earlier.Live := by
  induction tasks with
  | nil => simp [OwnedAre, resumePeerControls, ownedPeers]
  | cons task rest ih =>
    cases howned : task.routerOwned with
    | false =>
      have hkept : frozenForTransfer task = task := by
        simp [frozenForTransfer, howned]
      have hfilter : ownedPeers (task :: rest) = ownedPeers rest := by
        simp [ownedPeers, howned]
      rw [hfilter, ← ih, List.map_cons, hkept, resumePeerControls]
      simp [OwnedAre, howned]
    | true =>
      have hfilter : ownedPeers (task :: rest) = task :: ownedPeers rest := by
        simp [ownedPeers, howned]
      rw [hfilter, List.pairwise_cons, List.map_cons, frozenForTransfer_owned howned]
      have hempty : task.settled.commands = [] := PeerTask.settled_commands task
      by_cases hlive : task.Live
      · -- it is resumed, and the loop goes on
        have halive : task.settled.alive = true := hlive
        rw [if_pos hlive, resumePeerControls]
        simp only [PeerTask.settled_routerOwned, howned, Bool.not_true, Bool.false_eq_true,
          if_false, PeerTask.resume, halive, hempty, List.length_nil, ge_iff_le,
          Nat.not_le.mpr hcapacity, List.nil_append]
        rw [← ih]
        constructor
        · intro h
          exact ⟨fun _ _ _ => hlive, fun other hother => h other (List.mem_cons_of_mem _ hother)⟩
        · intro h other hother
          rcases List.mem_cons.mp hother with rfl | hother
          · intro _ _
            simp [PeerTask.settled, PeerTask.handleAll, PeerTask.handle]
          · exact h.2 other hother
      · -- it refuses, and the loop ends
        have hended : task.settled.alive = false := Bool.eq_false_iff.mpr hlive
        rw [if_neg hlive, resumePeerControls]
        simp only [PeerTask.settled_routerOwned, howned, Bool.not_true, Bool.false_eq_true,
          if_false, PeerTask.resume, hended, Bool.not_false, if_true]
        have hrest := ownedAre_frozenForTransfer rest
        constructor
        · intro h
          have hnone := hrest.mp fun other hother => h other (List.mem_cons_of_mem _ hother)
          refine ⟨fun other hother hother' => absurd hother' (hnone other hother), ?_⟩
          refine List.pairwise_of_forall_mem_list fun earlier _ later hlater hlater' => ?_
          exact absurd hlater' (hnone later hlater)
        · intro h other hother
          rcases List.mem_cons.mp hother with rfl | hother
          · intro _ halive
            unfold PeerTask.Live at halive
            rw [PeerTask.settled_settled, hended] at halive
            cases halive
          · exact hrest.mpr (fun other hother hlive' => hlive (h.1 other hother hlive')) other hother

theorem freezeForTransfer_ok_iff (task : PeerTask) :
    task.freezeForTransfer.1 = .ok () ↔ task.Live := by
  by_cases hlive : task.Live
  · simp [PeerTask.freezeForTransfer_live hlive, hlive]
  · simp [PeerTask.freezeForTransfer_ended hlive, hlive]

/-- A freeze fails when an owned peer has ended or the socket does not know its address. -/
theorem freezePeers_cases (capacity : Nat) (localAddr : Except String SocketAddr)
    (tasks : List PeerTask) :
    (¬ (∀ task ∈ ownedPeers tasks, task.Live) ∧ ∃ error,
      freezePeers capacity localAddr tasks =
        (.error error, (resumePeerControls capacity (tasks.map frozenForTransfer)).2)) ∨
    ((∀ task ∈ ownedPeers tasks, task.Live) ∧
      freezePeers capacity localAddr tasks =
        (localAddr.mapError .io, tasks.map frozenForTransfer)) := by
  obtain ⟨htasks, herrors⟩ := requestAll_eq PeerTask.freezeForTransfer tasks
  have hlive : (requestAll PeerTask.freezeForTransfer tasks).1 = [] ↔
      ∀ task ∈ ownedPeers tasks, task.Live := by
    rw [herrors]
    simp only [ownedPeers, List.mem_filter, and_imp, freezeForTransfer_ok_iff]
  have hmap : (requestAll PeerTask.freezeForTransfer tasks).2 = tasks.map frozenForTransfer := htasks
  unfold freezePeers
  rcases hall : requestAll PeerTask.freezeForTransfer tasks with ⟨_ | ⟨error, errors⟩, after⟩
  · rw [hall] at hlive hmap
    refine .inr ⟨hlive.mp rfl, ?_⟩
    cases localAddr with
    | ok address => exact congrArg _ hmap
    | error message => exact congrArg _ hmap
  · rw [hall] at hlive hmap
    refine .inl ⟨fun h => absurd (hlive.mpr h) (List.cons_ne_nil _ _), ?_⟩
    simp only at hmap
    subst hmap
    dsimp only
    rcases resumePeerControls capacity (tasks.map frozenForTransfer) with ⟨_ | _, resumed⟩
    · exact ⟨_, rfl⟩
    · exact ⟨_, rfl⟩

theorem resumePeers_error {capacity : Nat} {tasks after : List PeerTask} {error : RakNetError}
    (h : resumePeers capacity tasks = (.error error, after)) : OwnedAre true after := by
  unfold resumePeers at h
  rcases hresume : resumePeerControls capacity tasks with ⟨failure | _, resumed⟩
  · rw [hresume] at h
    dsimp only at h
    have hafter : after = resumed.map fun task =>
        if task.routerOwned then task.freeze.2 else task := by
      rw [← (requestAll_eq PeerTask.freeze resumed).1]
      rcases hfreeze : freezePeerControls resumed with ⟨_ | _, frozen⟩
      all_goals
        rw [hfreeze] at h
        cases h
        exact (congrArg Prod.snd hfreeze).symm
    rw [hafter]
    intro task htask howned halive
    obtain ⟨before, -, rfl⟩ := List.mem_map.mp htask
    by_cases hbefore : before.routerOwned = true
    · rw [if_pos hbefore] at halive ⊢
      by_cases hlive : before.Live
      · have hfreeze : before.freeze.2 = { before.settled with frozen := true } :=
          congrArg Prod.snd (PeerTask.request_live hlive .freeze)
        rw [hfreeze, PeerTask.settled_frozen]
      · have hfreeze : before.freeze.2 = before.settled :=
          congrArg Prod.snd (PeerTask.request_ended hlive .freeze)
        rw [hfreeze, PeerTask.Live, PeerTask.settled_settled] at halive
        exact absurd halive hlive
    · rw [if_neg hbefore] at howned
      exact absurd howned hbefore
  · rw [hresume] at h
    cases h

/-- **Failed freezes and resumes.**  A failed resume leaves every live peer frozen.  A failed
    freeze leaves every live peer running exactly when no ended peer of the router stands before
    a live one in the order of the map, and the failure is not that of the socket's own address
    after the peers were frozen. -/
theorem failed_freeze_and_resume_compensated {capacity : Nat} (hcapacity : 0 < capacity)
    (localAddr : Except String SocketAddr) (tasks : List PeerTask) :
    ((∀ error after, freezePeers capacity localAddr tasks = (.error error, after) →
        OwnedAre false after) ∧
      (∀ error after, resumePeers capacity tasks = (.error error, after) →
        OwnedAre true after)) ↔
    ((ownedPeers tasks).Pairwise (fun earlier later => later.Live → earlier.Live) ∧
      ∀ message, localAddr = .error message → (∀ task ∈ ownedPeers tasks, task.Live) →
        ownedPeers tasks = []) := by
  have hresume : ∀ error after, resumePeers capacity tasks = (.error error, after) →
      OwnedAre true after := fun error after h => resumePeers_error h
  rcases freezePeers_cases capacity localAddr tasks with ⟨hended, error, hfreeze⟩ | ⟨hlive, hfreeze⟩
  · rw [← resumePeerControls_frozen hcapacity tasks]
    constructor
    · intro h
      exact ⟨h.1 error _ hfreeze, fun _ _ hall => absurd hall hended⟩
    · intro h
      refine ⟨fun error' after h' => ?_, hresume⟩
      rw [hfreeze] at h'
      cases h'
      exact h.1
  · have hpairwise : (ownedPeers tasks).Pairwise fun earlier later => later.Live → earlier.Live :=
      List.pairwise_of_forall_mem_list fun earlier hearlier _ _ _ => hlive earlier hearlier
    constructor
    · intro h
      refine ⟨hpairwise, fun message hmessage _ => ?_⟩
      have hfailed := hfreeze.trans (congrArg (fun answer => (Except.mapError RakNetError.io answer,
        tasks.map frozenForTransfer)) hmessage)
      have hnone := (ownedAre_frozenForTransfer tasks).mp (h.1 (.io message) _ hfailed)
      refine List.eq_nil_iff_forall_not_mem.mpr fun task htask => ?_
      exact hnone task htask (hlive task htask)
    · intro h
      refine ⟨fun error after h' => ?_, hresume⟩
      rw [hfreeze] at h'
      cases hlocal : localAddr with
      | ok address =>
        rw [hlocal] at h'
        cases h'
      | error message =>
        rw [hlocal] at h'
        cases h'
        rw [ownedAre_frozenForTransfer, h.2 message hlocal hlive]
        simp

/-- A live peer before an ended one: the freeze fails and the live peer runs again. -/
theorem failed_freeze_and_resume_compensated_liveFirst :
    ∃ error after, freezePeers 256 (.ok unspecifiedAddress)
        [⟨true, true, false, []⟩, ⟨true, false, false, []⟩] = (.error error, after) ∧
      OwnedAre false after := by
  have hfreeze : ∃ error after, freezePeers 256 (.ok unspecifiedAddress)
      [⟨true, true, false, []⟩, ⟨true, false, false, []⟩] = (.error error, after) :=
    ⟨_, _, rfl⟩
  obtain ⟨error, after, hfreeze⟩ := hfreeze
  refine ⟨error, after, hfreeze, ?_⟩
  refine ((failed_freeze_and_resume_compensated (by decide) _ _).mpr ?_).1 error after hfreeze
  exact ⟨by decide, fun message hmessage => by cases hmessage⟩

/-- The other way round the live peer stays frozen. -/
theorem ended_peer_keeps_live_peer_frozen :
    ∃ error after, freezePeers 256 (.ok unspecifiedAddress)
        [⟨true, false, false, []⟩, ⟨true, true, false, []⟩] = (.error error, after) ∧
      after[1]? = some ⟨true, true, true, []⟩ ∧ ¬ OwnedAre false after := by
  refine ⟨_, _, rfl, rfl, ?_⟩
  intro h
  have hrunning := h ⟨true, true, true, []⟩ (by decide) rfl rfl
  cases hrunning

/-! ### Offline requests -/

def MAGIC : Payload :=
  [0x00, 0xff, 0xff, 0x00, 0xfe, 0xfe, 0xfe, 0xfe, 0xfd, 0xfd, 0xfd, 0xfd, 0x12, 0x34, 0x56, 0x78]

/-- `OfflineRequest`; the 64-bit numbers are kept as their wire patterns. -/
inductive OfflineRequest where
  | ping (time : Nat)
  | openConnection1 (protocol : UInt8) (mtu : Nat)
  | openConnection2 (mtu clientGuid : Nat)

def Read.magic : Read Unit := fun r => do
  let (magic, r) ← Read.bytes MAGIC.length r
  if magic = MAGIC then pure ((), r) else .error (.wire "invalid raknet offline magic")

def Read.address : Read SocketAddr := fun r => do
  let (version, r) ← Read.u8 r
  if version = 4 then do
    let (octets, r) ← Read.bytes 4 r
    let (port, r) ← Read.u16be r
    pure (.v4 (Vector.ofFn fun i => ~~~ octets.getD i 0) (UInt16.ofNat port), r)
  else if version = 6 then do
    let (_, r) ← Read.bytes 2 r
    let (port, r) ← Read.u16be r
    let (flowinfo, r) ← Read.u32be r
    let (octets, r) ← Read.bytes 16 r
    let (scopeId, r) ← Read.u32be r
    pure (.v6 (Vector.ofFn fun i => octets.getD i 0) (UInt16.ofNat port) (UInt32.ofNat flowinfo)
      (UInt32.ofNat scopeId), r)
  else .error (.wire s!"unsupported raknet address version {version.toNat}")

def decodeOfflineRequest (bytes : Payload) : Except RakNetError (Option OfflineRequest) :=
  match bytes with
  | [] => .ok none
  | id :: r =>
    if id = 0x01 ∨ id = 0x02 then do
      let (time, r) ← Read.u64be r
      let (_, r) ← Read.magic r
      let _ ← Read.u64be r
      pure (some (.ping time))
    else if id = 0x05 then do
      let (_, r) ← Read.magic r
      let (protocol, _) ← Read.u8 r
      pure (some (.openConnection1 protocol (min bytes.length (2 ^ 16 - 1))))
    else if id = 0x07 then do
      let (_, r) ← Read.magic r
      let (_, r) ← Read.address r
      let (mtu, r) ← Read.u16be r
      let (clientGuid, _) ← Read.u64be r
      pure (some (.openConnection2 mtu clientGuid))
    else .ok none

/-- The bytes of an `i64`. -/
def guidBytes (guid : Int) : Payload := beBytes 8 (guid % 2 ^ 64).toNat

def encodeUnconnectedPong (time : Nat) (serverGuid : Int) (motd : Payload) :
    Except RakNetError Payload :=
  if motd.length > 2 ^ 16 - 1 then .error (.wire "raknet pong motd exceeded u16 length")
  else
    .ok ([0x1c] ++ beBytes 8 time ++ guidBytes serverGuid ++ MAGIC ++ beBytes 2 motd.length ++ motd)

def encodeOpenConnectionReply1 (serverGuid : Int) (mtu : Nat) : Payload :=
  [0x06] ++ MAGIC ++ guidBytes serverGuid ++ [0] ++ beBytes 2 mtu

def encodeIncompatibleProtocol (protocol : UInt8) (serverGuid : Int) : Payload :=
  [0x19, protocol] ++ MAGIC ++ guidBytes serverGuid

def encodeOpenConnectionReply2 (serverGuid : Int) (clientAddr : SocketAddr) (mtu : Nat) :
    Payload :=
  [0x08] ++ MAGIC ++ guidBytes serverGuid ++ writeAddress clientAddr ++ beBytes 2 mtu ++ [0]

/-! ### The registry of the peers -/

structure ServerConfig where
  port : Nat
  motd : String
  serverName : String
  gameVersion : String
  protocolNumber : Nat
  raknetVersion : UInt8
  maxPlayers : Nat
  onlinePlayers : Nat
  serverGuid : Int
  budgets : RakNetBudgets

/-- The task of a spawned actor: whose peer it is, whether the actor has ended and whether the
    notice of that was sent. -/
structure PeerSpawn where
  remoteAddr : SocketAddr
  ended : Bool
  notified : Bool

/-- `Router`.  A control is the number of the actor it controls; `closed` are the notices that
    were not received yet. -/
structure Router where
  config : ServerConfig
  peers : List (SocketAddr × Nat)
  spawned : List PeerSpawn
  closed : List SocketAddr
  sent : List (SocketAddr × Payload)

abbrev RouterM (α : Type) : Type := Act RakNetError Router α

namespace Router

def new (config : ServerConfig) : Router := ⟨config, [], [], [], []⟩

/-- `peers.get`. -/
def control (router : Router) (remoteAddr : SocketAddr) : Option Nat :=
  router.peers.lookup remoteAddr

/-- `peers.remove`. -/
def remove (router : Router) (remoteAddr : SocketAddr) : Router :=
  { router with peers := router.peers.filter fun entry => entry.1 ≠ remoteAddr }

/-- The router after a peer was spawned and its control put into `peers`. -/
def registered (router : Router) (remoteAddr : SocketAddr) : Router :=
  { router with
    peers := router.peers ++ [(remoteAddr, router.spawned.length)]
    spawned := router.spawned ++ [⟨remoteAddr, false, false⟩] }

/-- `import_peers`, of the snapshots in the order of their addresses. -/
def importPeers (router : Router) (snapshots : List (SocketAddr × RakNetBudgets)) : Router :=
  let remoteAddrs := snapshots.map Prod.fst
  if snapshots.any fun snapshot => snapshot.2 ≠ router.config.budgets then router
  else if router.peers.length + snapshots.length > router.config.budgets.maxPeers then router
  else if remoteAddrs.any fun remoteAddr => (router.control remoteAddr).isSome then router
  else if ¬ remoteAddrs.Nodup then router
  else remoteAddrs.foldl registered router

/-- Whether the actor behind a control has ended. -/
def hasEnded (router : Router) (control : Nat) : Bool :=
  (router.spawned[control]?).all fun spawn => spawn.ended

def motdText (router : Router) : Payload :=
  let c := router.config
  s!"MCPE;{c.motd};{c.protocolNumber};{c.gameVersion};{c.onlinePlayers};{c.maxPlayers};{c.serverGuid};{c.serverName};Survival;1;{c.port};{c.port};".toUTF8.toList

end Router

/-- What the sockets answer while a packet is routed. -/
structure PacketHost where
  sendTo : Except String Unit
  /-- Whether the ingress channel of the peer is full. -/
  ingressFull : Bool

section Routing

open Act

variable (host : PacketHost)

def sendResponse (response : Payload) (remoteAddr : SocketAddr) : RouterM Unit := do
  match host.sendTo with
  | .ok () => modify fun router => { router with sent := router.sent ++ [(remoteAddr, response)] }
  | .error message => throw (.io message)

/-- `spawn_peer` and the registration of its control. -/
def spawnPeer (remoteAddr : SocketAddr) : RouterM Unit :=
  modify fun router => router.registered remoteAddr

def handleOffline (remoteAddr : SocketAddr) (request : OfflineRequest) : RouterM Unit := do
  let router ← get
  match request with
  | .ping time => do
    let response ← lift (encodeUnconnectedPong time router.config.serverGuid router.motdText)
    sendResponse host response remoteAddr
  | .openConnection1 protocol mtu =>
    sendResponse host
      (if protocol = router.config.raknetVersion then
        encodeOpenConnectionReply1 router.config.serverGuid (clampMtu router.config.budgets mtu)
      else encodeIncompatibleProtocol router.config.raknetVersion router.config.serverGuid)
      remoteAddr
  | .openConnection2 mtu _ => do
    if (router.control remoteAddr).isNone then
      if router.peers.length ≥ router.config.budgets.maxPeers then
        throw (.budget "raknet peers" (router.peers.length + 1) router.config.budgets.maxPeers)
      else spawnPeer remoteAddr
    sendResponse host
      (encodeOpenConnectionReply2 router.config.serverGuid remoteAddr
        (clampMtu router.config.budgets mtu)) remoteAddr

/-- `PeerControl::deliver`: the channel is closed once the actor has ended. -/
def deliver (control : Nat) : RouterM Unit := do
  let router ← get
  if router.hasEnded control then throw .closed
  else if host.ingressFull then throw .queueFull
  else pure ()

/-- A datagram that finds the channel full is dropped. -/
def dropWhenFull (delivery : RouterM Unit) : RouterM Unit := fun router =>
  match delivery router with
  | (.error .queueFull, router) => (.ok (), router)
  | answer => answer

def routePacket (remoteAddr : SocketAddr) (bytes : Payload) : RouterM Unit := do
  match ← lift (decodeOfflineRequest bytes) with
  | some request => handleOffline host remoteAddr request
  | none => do
    let router ← get
    match router.control remoteAddr with
    | none => pure ()
    | some control => dropWhenFull (deliver host control)

end Routing

/-- What happens around the router while it receives. -/
inductive RouterEvent where
  | packet (host : PacketHost) (remoteAddr : SocketAddr) (bytes : Payload)
  /-- The actor of a task ends. -/
  | terminate (spawn : Nat)
  /-- The task of an ended actor sends its notice. -/
  | notify (spawn : Nat)
  /-- The router receives a notice. -/
  | closed
  /-- A paused router imports the peers of another process. -/
  | importPeers (snapshots : List (SocketAddr × RakNetBudgets))

/-- The state and the address at which a turn of `Router::run` calls `peers.remove`. -/
def Router.removal (router : Router) : RouterEvent → Option (Router × SocketAddr)
  | .packet host remoteAddr bytes =>
    match routePacket host remoteAddr bytes router with
    | (.ok _, _) => none
    | (.error _, router) => some (router, remoteAddr)
  | .closed =>
    match router.closed with
    | [] => none
    | remoteAddr :: rest => some ({ router with closed := rest }, remoteAddr)
  | _ => none

/-- One turn of `Router::run`, or of the task of an actor. -/
def Router.step (router : Router) (event : RouterEvent) : Router :=
  match router.removal event with
  | some (router, remoteAddr) => router.remove remoteAddr
  | none =>
    match event with
    | .packet host remoteAddr bytes => (routePacket host remoteAddr bytes router).2
    | .terminate spawn =>
      { router with
        spawned := router.spawned.modify spawn fun task => { task with ended := true } }
    | .notify spawn =>
      match router.spawned[spawn]? with
      | none => router
      | some task =>
        if task.ended && !task.notified then
          { router with
            spawned := router.spawned.set spawn { task with notified := true }
            closed := router.closed ++ [task.remoteAddr] }
        else router
    | .closed => router
    | .importPeers snapshots => router.importPeers snapshots

def Router.run (router : Router) : List RouterEvent → Router
  | [] => router
  | event :: rest => (router.step event).run rest

/-! ### Who is removed -/

def Router.RemovesOnlyEnded (router : Router) (event : RouterEvent) : Prop :=
  ∀ r remoteAddr control, router.removal event = some (r, remoteAddr) →
    r.control remoteAddr = some control → r.hasEnded control = true

/-- There is a live connection from the address. -/
def Router.Connected (router : Router) (remoteAddr : SocketAddr) : Prop :=
  ∃ control, router.control remoteAddr = some control ∧ router.hasEnded control = false

/-- A packet that registers a new peer. -/
def Router.Registers (router : Router) (remoteAddr : SocketAddr) (bytes : Payload) : Prop :=
  router.control remoteAddr = none ∧ router.peers.length < router.config.budgets.maxPeers ∧
    ∃ mtu clientGuid, decodeOfflineRequest bytes = .ok (some (.openConnection2 mtu clientGuid))

/-- A packet that is no broken offline request, and whose response can be built and sent. -/
def Router.Answerable (router : Router) (host : PacketHost) (bytes : Payload) : Prop :=
  ∃ request, decodeOfflineRequest bytes = .ok request ∧
    (request.isSome → host.sendTo = .ok ()) ∧
    ∀ time, request = some (.ping time) → router.motdText.length ≤ 2 ^ 16 - 1

/-- The notice of an actor that had the address is still on its way. -/
def Router.Outstanding (router : Router) (remoteAddr : SocketAddr) : Prop :=
  remoteAddr ∈ router.closed ∨ ∃ spawn ∈ router.spawned,
    spawn.remoteAddr = remoteAddr ∧ spawn.ended = true ∧ spawn.notified = false

/-- A packet from the address of a live connection, or one that makes a connection, can be
    answered, and no address is reused before the notice of its last actor was received. -/
def RouterEvent.Orderly (router : Router) : RouterEvent → Prop
  | .packet host remoteAddr bytes =>
    (router.Connected remoteAddr ∨ router.Registers remoteAddr bytes →
      router.Answerable host bytes) ∧
    (router.Registers remoteAddr bytes → ¬ router.Outstanding remoteAddr)
  | .importPeers snapshots => ∀ snapshot ∈ snapshots, ¬ router.Outstanding snapshot.1
  | _ => True

/-- The registry of a router, which the responses it sent are not part of. -/
structure SameRegistry (router router' : Router) : Prop where
  peers : router'.peers = router.peers
  spawned : router'.spawned = router.spawned
  closed : router'.closed = router.closed

theorem SameRegistry.refl (router : Router) : SameRegistry router router := ⟨rfl, rfl, rfl⟩

theorem SameRegistry.control_eq {router' : Router} (h : SameRegistry router router')
    (remoteAddr : SocketAddr) : router'.control remoteAddr = router.control remoteAddr := by
  unfold Router.control
  rw [h.peers]

theorem SameRegistry.hasEnded_eq {router' : Router} (h : SameRegistry router router')
    (control : Nat) : router'.hasEnded control = router.hasEnded control := by
  unfold Router.hasEnded
  rw [h.spawned]

theorem sendResponse_cases (host : PacketHost) (response : Payload) (remoteAddr : SocketAddr)
    (router : Router) :
    (host.sendTo = .ok () ∧ ∃ router', sendResponse host response remoteAddr router =
      (.ok (), router') ∧ SameRegistry router router') ∨
    (host.sendTo ≠ .ok () ∧ ∃ error, sendResponse host response remoteAddr router =
      (.error error, router)) := by
  unfold sendResponse
  cases host.sendTo with
  | ok answer => exact .inl ⟨rfl, _, rfl, rfl, rfl, rfl⟩
  | error message => exact .inr ⟨by simp, _, rfl⟩

/-- **What a packet does to the registry**: it registers a peer, or nothing; and it fails only
    for a packet that cannot be answered, for a peer that has ended, or without a peer. -/
theorem routePacket_cases (host : PacketHost) (remoteAddr : SocketAddr) (bytes : Payload)
    (router : Router) :
    ∃ result router', routePacket host remoteAddr bytes router = (result, router') ∧
      ((router.Registers remoteAddr bytes ∧
          SameRegistry (router.registered remoteAddr) router' ∧
          (result = .ok () ∨ ¬ router.Answerable host bytes)) ∨
        (SameRegistry router router' ∧
          (result = .ok () ∨ ¬ router.Answerable host bytes ∨
            ¬ router.Connected remoteAddr))) := by
  unfold routePacket
  cases hdecode : decodeOfflineRequest bytes with
  | error error =>
    refine ⟨.error error, router, rfl, .inr ⟨.refl _, .inr (.inl ?_)⟩⟩
    rintro ⟨request, hrequest, -⟩
    rw [hdecode] at hrequest
    cases hrequest
  | ok request =>
    have hunsendable : ∀ request', request = some request' → host.sendTo ≠ .ok () →
        ¬ router.Answerable host bytes := by
      rintro request' rfl hsend ⟨request'', hrequest, hsendable, -⟩
      rw [hdecode] at hrequest
      cases hrequest
      exact hsend (hsendable rfl)
    cases request with
    | none =>
      change ∃ result router', (match router.control remoteAddr with
        | none => pure ()
        | some control => dropWhenFull (deliver host control)) router = (result, router') ∧ _
      cases hcontrol : router.control remoteAddr with
      | none => exact ⟨.ok (), router, rfl, .inr ⟨.refl _, .inl rfl⟩⟩
      | some control =>
        cases hended : router.hasEnded control with
        | true =>
          refine ⟨.error .closed, router, ?_, .inr ⟨.refl _, .inr (.inr ?_)⟩⟩
          · simp [dropWhenFull, deliver, Act.bind_apply, Act.get, Act.throw, hended]
          · rintro ⟨control', hcontrol', hlive⟩
            rw [hcontrol] at hcontrol'
            cases hcontrol'
            rw [hended] at hlive
            cases hlive
        | false =>
          refine ⟨.ok (), router, ?_, .inr ⟨.refl _, .inl rfl⟩⟩
          cases hfull : host.ingressFull with
          | true =>
            simp [dropWhenFull, deliver, Act.bind_apply, Act.get, Act.throw, hended, hfull]
          | false =>
            simp [dropWhenFull, deliver, Act.bind_apply, Act.get, hended, hfull]
    | some request =>
      change ∃ result router', handleOffline host remoteAddr request router = (result, router') ∧ _
      cases request with
      | ping time =>
        change ∃ result router', (Act.lift (encodeUnconnectedPong time router.config.serverGuid
          router.motdText) >>= fun response => sendResponse host response remoteAddr) router =
            (result, router') ∧ _
        cases hpong : encodeUnconnectedPong time router.config.serverGuid router.motdText with
        | error error =>
          refine ⟨.error error, router, rfl, .inr ⟨.refl _, .inr (.inl ?_)⟩⟩
          rintro ⟨request, hrequest, -, hfits⟩
          rw [hdecode] at hrequest
          cases hrequest
          unfold encodeUnconnectedPong at hpong
          rw [if_neg (Nat.not_lt.mpr (hfits time rfl))] at hpong
          cases hpong
        | ok response =>
          rcases sendResponse_cases host response remoteAddr router with
            ⟨-, router', hsent, hsame⟩ | ⟨hfailed, error, hsent⟩
          · exact ⟨_, _, hsent, .inr ⟨hsame, .inl rfl⟩⟩
          · exact ⟨_, _, hsent, .inr ⟨.refl _, .inr (.inl (hunsendable _ rfl hfailed))⟩⟩
      | openConnection1 protocol mtu =>
        rcases sendResponse_cases host
            (if protocol = router.config.raknetVersion then
              encodeOpenConnectionReply1 router.config.serverGuid
                (clampMtu router.config.budgets mtu)
            else encodeIncompatibleProtocol router.config.raknetVersion router.config.serverGuid)
            remoteAddr router with ⟨-, router', hsent, hsame⟩ | ⟨hfailed, error, hsent⟩
        · exact ⟨_, _, hsent, .inr ⟨hsame, .inl rfl⟩⟩
        · exact ⟨_, _, hsent, .inr ⟨.refl _, .inr (.inl (hunsendable _ rfl hfailed))⟩⟩
      | openConnection2 mtu clientGuid =>
        cases hcontrol : router.control remoteAddr with
        | some control =>
          have hknown : handleOffline host remoteAddr (.openConnection2 mtu clientGuid) router =
              sendResponse host (encodeOpenConnectionReply2 router.config.serverGuid remoteAddr
                (clampMtu router.config.budgets mtu)) remoteAddr router := by
            simp [handleOffline, Act.bind_apply, Act.get, hcontrol]
          rw [hknown]
          rcases sendResponse_cases host (encodeOpenConnectionReply2 router.config.serverGuid
              remoteAddr (clampMtu router.config.budgets mtu)) remoteAddr router with
            ⟨-, router', hsent, hsame⟩ | ⟨hfailed, error, hsent⟩
          · exact ⟨_, _, hsent, .inr ⟨hsame, .inl rfl⟩⟩
          · exact ⟨_, _, hsent, .inr ⟨.refl _, .inr (.inl (hunsendable _ rfl hfailed))⟩⟩
        | none =>
          by_cases hroom : router.peers.length ≥ router.config.budgets.maxPeers
          · refine ⟨.error (.budget "raknet peers" (router.peers.length + 1)
              router.config.budgets.maxPeers), router, ?_, .inr ⟨.refl _, .inr (.inr ?_)⟩⟩
            · simp [handleOffline, Act.bind_apply, Act.get, Act.throw, hcontrol, hroom]
            · rintro ⟨control, hconnected, -⟩
              rw [hcontrol] at hconnected
              cases hconnected
          · have hregisters : router.Registers remoteAddr bytes :=
              ⟨hcontrol, Nat.not_le.mp hroom, mtu, clientGuid, hdecode⟩
            have hspawned : handleOffline host remoteAddr (.openConnection2 mtu clientGuid) router =
                sendResponse host (encodeOpenConnectionReply2 router.config.serverGuid remoteAddr
                  (clampMtu router.config.budgets mtu)) remoteAddr
                  (router.registered remoteAddr) := by
              simp [handleOffline, Act.bind_apply, Act.get, Act.modify, hcontrol, hroom, spawnPeer,
                Router.registered]
            rw [hspawned]
            rcases sendResponse_cases host (encodeOpenConnectionReply2 router.config.serverGuid
                remoteAddr (clampMtu router.config.budgets mtu)) remoteAddr
                (router.registered remoteAddr) with
              ⟨-, router', hsent, hsame⟩ | ⟨hfailed, error, hsent⟩
            · exact ⟨_, _, hsent, .inl ⟨hregisters, hsame, .inl rfl⟩⟩
            · exact ⟨_, _, hsent, .inl ⟨hregisters, .refl _, .inr (hunsendable _ rfl hfailed)⟩⟩

/-! ### Orderly runs -/

/-- What orderly turns keep: a live actor has the entry of its address, and an entry whose
    address has a notice on its way is of an ended actor. -/
structure Router.Tracked (router : Router) : Prop where
  known : ∀ remoteAddr control, router.control remoteAddr = some control →
    control < router.spawned.length
  live : ∀ i spawn, router.spawned[i]? = some spawn → spawn.ended = false →
    router.control spawn.remoteAddr = some i
  late : ∀ remoteAddr control, router.Outstanding remoteAddr →
    router.control remoteAddr = some control → router.hasEnded control = true

namespace Router

theorem control_registered (router : Router) (hfree : router.control remoteAddr = none)
    (other : SocketAddr) : (router.registered remoteAddr).control other =
      if other = remoteAddr then some router.spawned.length else router.control other := by
  unfold control registered
  rw [List.lookup_append]
  by_cases h : other = remoteAddr
  · subst h
    unfold control at hfree
    simp [hfree, List.lookup]
  · have hother : (other == remoteAddr) = false := by simp [h]
    simp [h, hother, List.lookup]

theorem control_remove (router : Router) (remoteAddr other : SocketAddr) :
    (router.remove remoteAddr).control other =
      if other = remoteAddr then none else router.control other := by
  unfold control remove
  induction router.peers with
  | nil => simp
  | cons entry rest ih =>
    rcases entry with ⟨address, number⟩
    by_cases hsame : address = remoteAddr
    · subst hsame
      rw [List.filter_cons_of_neg (by simp), ih]
      by_cases h : other = address
      · simp [h]
      · have hother : (other == address) = false := by simp [h]
        simp [h, hother, List.lookup]
    · rw [List.filter_cons_of_pos (by simp [hsame])]
      by_cases h : other = address
      · subst h
        simp [hsame, List.lookup]
      · have hother : (other == address) = false := by simp [h]
        simp only [List.lookup, hother, ih]

theorem registered_spawned_lt (router : Router) (remoteAddr : SocketAddr) {i : Nat}
    (h : i < router.spawned.length) :
    (router.registered remoteAddr).spawned[i]? = router.spawned[i]? := by
  unfold registered
  simp [List.getElem?_append, h]

theorem hasEnded_registered (router : Router) (remoteAddr : SocketAddr) {control : Nat}
    (h : control < router.spawned.length) :
    (router.registered remoteAddr).hasEnded control = router.hasEnded control := by
  unfold hasEnded
  rw [router.registered_spawned_lt remoteAddr h]

theorem Outstanding.of_registered {other : SocketAddr}
    (h : (router.registered remoteAddr).Outstanding other) : router.Outstanding other := by
  rcases h with h | ⟨spawn, hmem, haddr, hended, hnotified⟩
  · exact .inl h
  · rcases List.mem_append.mp hmem with hmem | hmem
    · exact .inr ⟨spawn, hmem, haddr, hended, hnotified⟩
    · rw [List.mem_singleton.mp hmem] at hended
      cases hended

theorem Tracked.registered (h : router.Tracked) (hfree : router.control remoteAddr = none)
    (hquiet : ¬ router.Outstanding remoteAddr) : (router.registered remoteAddr).Tracked := by
  have hlength : (router.registered remoteAddr).spawned.length = router.spawned.length + 1 := by
    unfold Router.registered
    simp
  constructor
  case known =>
    intro other control hcontrol
    rw [router.control_registered hfree] at hcontrol
    rw [hlength]
    split at hcontrol
    · cases hcontrol
      exact Nat.lt_succ_self _
    · exact Nat.lt_succ_of_lt (h.known other control hcontrol)
  case live =>
    intro i spawn hspawn hlive
    rw [router.control_registered hfree]
    by_cases hi : i < router.spawned.length
    · rw [router.registered_spawned_lt remoteAddr hi] at hspawn
      have howner := h.live i spawn hspawn hlive
      have hother : spawn.remoteAddr ≠ remoteAddr := by
        intro hsame
        rw [hsame, hfree] at howner
        cases howner
      rw [if_neg hother]
      exact howner
    · have hlast : i = router.spawned.length := by
        have hbound := (List.getElem?_eq_some_iff.mp hspawn).1
        omega
      subst hlast
      have hnew : spawn = ⟨remoteAddr, false, false⟩ := by
        unfold Router.registered at hspawn
        simpa using hspawn.symm
      subst hnew
      simp
  case late =>
    intro other control hnotice hcontrol
    have hbefore := hnotice.of_registered
    rw [router.control_registered hfree] at hcontrol
    split at hcontrol
    · next hsame =>
        subst hsame
        exact absurd hbefore hquiet
    · rw [router.hasEnded_registered remoteAddr (h.known other control hcontrol)]
      exact h.late other control hbefore hcontrol

theorem Tracked.remove (h : router.Tracked)
    (hended : ∀ control, router.control remoteAddr = some control →
      router.hasEnded control = true) : (router.remove remoteAddr).Tracked := by
  constructor
  case known =>
    intro other control hcontrol
    rw [router.control_remove] at hcontrol
    split at hcontrol
    · cases hcontrol
    · exact h.known other control hcontrol
  case live =>
    intro i spawn hspawn hlive
    have howner := h.live i spawn hspawn hlive
    rw [router.control_remove]
    have hother : spawn.remoteAddr ≠ remoteAddr := by
      intro hsame
      have hdone := hended i (hsame ▸ howner)
      unfold hasEnded at hdone
      have hsaved : router.spawned[i]? = some spawn := hspawn
      rw [hsaved] at hdone
      simp [hlive] at hdone
    rw [if_neg hother]
    exact howner
  case late =>
    intro other control hnotice hcontrol
    rw [router.control_remove] at hcontrol
    split at hcontrol
    · cases hcontrol
    · exact h.late other control hnotice hcontrol

theorem Tracked.congr {router' : Router} (h : router.Tracked)
    (hsame : SameRegistry router router') : router'.Tracked := by
  rcases router with ⟨config, peers, spawned, closed, sent⟩
  rcases router' with ⟨config', peers', spawned', closed', sent'⟩
  rcases hsame with ⟨hpeers, hspawned, hclosed⟩
  dsimp only at hpeers hspawned hclosed
  subst hpeers hspawned hclosed
  exact ⟨h.known, h.live, h.late⟩

theorem registered_all_tracked (remoteAddrs : List SocketAddr) (router : Router)
    (h : router.Tracked) (hnodup : remoteAddrs.Nodup)
    (hfree : ∀ remoteAddr ∈ remoteAddrs, router.control remoteAddr = none)
    (hquiet : ∀ remoteAddr ∈ remoteAddrs, ¬ router.Outstanding remoteAddr) :
    (remoteAddrs.foldl registered router).Tracked := by
  induction remoteAddrs generalizing router with
  | nil => exact h
  | cons first rest ih =>
    have hfirst := hfree first (List.mem_cons_self ..)
    rw [List.nodup_cons] at hnodup
    apply ih
    · exact h.registered hfirst (hquiet first (List.mem_cons_self ..))
    · exact hnodup.2
    · intro remoteAddr hmem
      rw [router.control_registered hfirst, if_neg]
      · exact hfree remoteAddr (List.mem_cons_of_mem _ hmem)
      · intro hsame
        exact hnodup.1 (hsame ▸ hmem)
    · intro remoteAddr hmem hnotice
      exact hquiet remoteAddr (List.mem_cons_of_mem _ hmem) hnotice.of_registered

theorem Tracked.importPeers (h : router.Tracked) {snapshots : List (SocketAddr × RakNetBudgets)}
    (hquiet : ∀ snapshot ∈ snapshots, ¬ router.Outstanding snapshot.1) :
    (router.importPeers snapshots).Tracked := by
  unfold Router.importPeers
  dsimp only
  split
  · exact h
  split
  · exact h
  split
  · exact h
  next hfree =>
  split
  · exact h
  next hnodup =>
  apply registered_all_tracked _ _ h (by simpa using hnodup)
  · intro remoteAddr hmem
    by_contra hsome
    apply hfree
    rw [List.any_eq_true]
    exact ⟨remoteAddr, hmem, Option.isSome_iff_ne_none.mpr hsome⟩
  · intro remoteAddr hmem
    obtain ⟨snapshot, hsnapshot, rfl⟩ := List.mem_map.mp hmem
    exact hquiet snapshot hsnapshot

theorem not_connected_ended (h : ¬ router.Connected remoteAddr) (control : Nat)
    (hcontrol : router.control remoteAddr = some control) : router.hasEnded control = true := by
  cases hended : router.hasEnded control with
  | true => rfl
  | false => exact absurd ⟨control, hcontrol, hended⟩ h

theorem routePacket_tracked (h : router.Tracked) {host : PacketHost} {bytes : Payload}
    (horderly : (RouterEvent.packet host remoteAddr bytes).Orderly router) :
    ∃ result router', routePacket host remoteAddr bytes router = (result, router') ∧
      router'.Tracked ∧ (result = .ok () ∨ ∀ control, router'.control remoteAddr = some control →
        router'.hasEnded control = true) := by
  rcases horderly with ⟨hanswer, hquiet⟩
  rcases routePacket_cases host remoteAddr bytes router with
    ⟨result, router', hroute, ⟨hregisters, hsame, hresult⟩ | ⟨hsame, hresult⟩⟩
  · refine ⟨result, router', hroute, ?_, ?_⟩
    · exact (h.registered hregisters.1 (hquiet hregisters)).congr hsame
    · rcases hresult with hok | hunanswerable
      · exact .inl hok
      · exact absurd (hanswer (.inr hregisters)) hunanswerable
  · refine ⟨result, router', hroute, h.congr hsame, ?_⟩
    rcases hresult with hok | hfailed
    · exact .inl hok
    · have hgone : ¬ router.Connected remoteAddr := by
        rcases hfailed with hunanswerable | hgone
        · intro hconnected
          exact hunanswerable (hanswer (.inl hconnected))
        · exact hgone
      refine .inr fun control hcontrol => ?_
      rw [hsame.control_eq] at hcontrol
      rw [hsame.hasEnded_eq]
      exact not_connected_ended hgone control hcontrol

/-- **One orderly turn removes only the entries of ended actors.** -/
theorem Tracked.removesOnlyEnded (h : router.Tracked) {event : RouterEvent}
    (horderly : event.Orderly router) : router.RemovesOnlyEnded event := by
  intro r remoteAddr control hremoval hcontrol
  cases event with
  | packet host address bytes =>
    obtain ⟨result, router', hroute, -, hended⟩ := routePacket_tracked h horderly
    unfold Router.removal at hremoval
    dsimp only at hremoval
    rw [hroute] at hremoval
    cases result with
    | ok answer => cases hremoval
    | error error =>
      cases hremoval
      rcases hended with hok | hended
      · cases hok
      · exact hended control hcontrol
  | closed =>
    unfold Router.removal at hremoval
    dsimp only at hremoval
    split at hremoval
    · cases hremoval
    · next hclosed =>
        cases hremoval
        apply h.late remoteAddr control _ hcontrol
        exact .inl (hclosed ▸ List.mem_cons_self ..)
  | terminate spawn => cases hremoval
  | notify spawn => cases hremoval
  | importPeers snapshots => cases hremoval

/-- The actor of task `i` ends. -/
def terminated (router : Router) (i : Nat) : Router :=
  { router with spawned := router.spawned.modify i fun task => { task with ended := true } }

theorem Tracked.terminated (h : router.Tracked) (i : Nat) : (router.terminated i).Tracked := by
  have hspawned : ∀ k, (router.terminated i).spawned[k]? =
      if i = k then router.spawned[k]?.map fun task => { task with ended := true }
      else router.spawned[k]? := by
    intro k
    unfold Router.terminated
    rw [List.getElem?_modify]
    by_cases hk : i = k <;> simp [hk]
  have hkept : ∀ control, router.hasEnded control = true →
      (router.terminated i).hasEnded control = true := by
    intro control hended
    unfold hasEnded at hended ⊢
    rw [hspawned]
    split
    · cases router.spawned[control]? <;> simp
    · exact hended
  constructor
  case known =>
    intro remoteAddr control hcontrol
    have hbound := h.known remoteAddr control hcontrol
    unfold Router.terminated
    simpa using hbound
  case live =>
    intro k spawn hspawn hlive
    rw [hspawned] at hspawn
    split at hspawn
    · cases hk : router.spawned[k]? with
      | none =>
        rw [hk] at hspawn
        cases hspawn
      | some task =>
        rw [hk] at hspawn
        cases hspawn
        cases hlive
    · exact h.live k spawn hspawn hlive
  case late =>
    intro remoteAddr control hnotice hcontrol
    by_cases hbefore : router.Outstanding remoteAddr
    · exact hkept control (h.late remoteAddr control hbefore hcontrol)
    · -- the notice is that of the actor that ends, so the entry is its own
      rcases hnotice with hclosed | ⟨spawn, hmem, haddr, hended, hnotified⟩
      · exact absurd (.inl hclosed) hbefore
      · obtain ⟨k, hk⟩ := List.mem_iff_getElem?.mp hmem
        rw [hspawned] at hk
        split at hk
        · next hik =>
            subst hik
            cases htask : router.spawned[i]? with
            | none =>
              rw [htask] at hk
              cases hk
            | some task =>
              rw [htask] at hk
              cases hk
              dsimp only at haddr hnotified
              cases hlive : task.ended with
              | true =>
                exact absurd (.inr ⟨task, List.mem_of_getElem? htask, haddr, hlive, hnotified⟩)
                  hbefore
              | false =>
                have howner := h.live i task htask hlive
                rw [haddr] at howner
                have hcontrol' : router.control remoteAddr = some control := hcontrol
                rw [howner] at hcontrol'
                cases hcontrol'
                unfold hasEnded
                rw [hspawned, if_pos rfl, htask]
                rfl
        · exact absurd (.inr ⟨spawn, List.mem_of_getElem? hk, haddr, hended, hnotified⟩) hbefore

theorem Tracked.notified (h : router.Tracked) {i : Nat} {task : PeerSpawn}
    (htask : router.spawned[i]? = some task) (hended : task.ended = true)
    (hnotified : task.notified = false) : ({ router with
        spawned := router.spawned.set i { task with notified := true }
        closed := router.closed ++ [task.remoteAddr] } : Router).Tracked := by
  have hspawned : ∀ k, (router.spawned.set i { task with notified := true })[k]? =
      if i = k then some { task with notified := true } else router.spawned[k]? := by
    intro k
    rw [List.getElem?_set]
    have hi := (List.getElem?_eq_some_iff.mp htask).1
    by_cases hk : i = k
    · subst hk
      simp [hi]
    · simp [hk]
  constructor
  case known =>
    intro remoteAddr control hcontrol
    have hbound := h.known remoteAddr control hcontrol
    simpa using hbound
  case live =>
    intro k spawn hspawn hlive
    dsimp only at hspawn
    rw [hspawned] at hspawn
    split at hspawn
    · cases hspawn
      rw [hended] at hlive
      cases hlive
    · exact h.live k spawn hspawn hlive
  case late =>
    intro remoteAddr control hnotice hcontrol
    have hbefore : router.Outstanding remoteAddr := by
      rcases hnotice with hclosed | ⟨spawn, hmem, haddr, hspawnEnded, hwaiting⟩
      · rcases List.mem_append.mp hclosed with hclosed | hclosed
        · exact .inl hclosed
        · have hsame := List.mem_singleton.mp hclosed
          exact .inr ⟨task, List.mem_of_getElem? htask, hsame.symm, hended, hnotified⟩
      · obtain ⟨k, hk⟩ := List.mem_iff_getElem?.mp hmem
        dsimp only at hk
        rw [hspawned] at hk
        split at hk
        · cases hk
          cases hwaiting
        · exact .inr ⟨spawn, List.mem_of_getElem? hk, haddr, hspawnEnded, hwaiting⟩
    have hdone := h.late remoteAddr control hbefore hcontrol
    unfold hasEnded at hdone ⊢
    rw [hspawned]
    split
    · exact hended
    · exact hdone

/-- **One orderly turn keeps the registry tracked.** -/
theorem Tracked.step (h : router.Tracked) {event : RouterEvent} (horderly : event.Orderly router) :
    (router.step event).Tracked := by
  have hremoves := h.removesOnlyEnded horderly
  cases event with
  | packet host remoteAddr bytes =>
    obtain ⟨result, router', hroute, htracked, hended⟩ := routePacket_tracked h horderly
    unfold Router.step Router.removal
    dsimp only
    rw [hroute]
    cases result with
    | ok answer => exact htracked
    | error error =>
      rcases hended with hok | hended
      · cases hok
      · exact htracked.remove hended
  | closed =>
    unfold Router.step
    cases hclosed : router.closed with
    | nil =>
      have hnone : router.removal .closed = none := by
        unfold Router.removal
        dsimp only
        rw [hclosed]
      rw [hnone]
      exact h
    | cons remoteAddr rest =>
      have hsome : router.removal .closed = some ({ router with closed := rest }, remoteAddr) := by
        unfold Router.removal
        dsimp only
        rw [hclosed]
      rw [hsome]
      apply Tracked.remove
      · refine ⟨h.known, h.live, ?_⟩
        intro other control hnotice hcontrol
        apply h.late other control _ hcontrol
        rcases hnotice with hmem | hwaiting
        · exact .inl (hclosed ▸ List.mem_cons_of_mem _ hmem)
        · exact .inr hwaiting
      · intro control hcontrol
        exact hremoves _ _ control hsome hcontrol
  | terminate i => exact h.terminated i
  | notify i =>
    unfold Router.step Router.removal
    dsimp only
    split
    · exact h
    · next task htask =>
        split
        · next hdue =>
            rw [Bool.and_eq_true, Bool.not_eq_true'] at hdue
            exact h.notified htask hdue.1 hdue.2
        · exact h
  | importPeers snapshots => exact h.importPeers horderly

theorem Tracked.new (config : ServerConfig) : (Router.new config).Tracked := by
  constructor
  case known =>
    intro remoteAddr control hcontrol
    cases hcontrol
  case live =>
    intro i spawn hspawn
    cases hspawn
  case late =>
    intro remoteAddr control hnotice hcontrol
    cases hcontrol

def OrderlyRun (router : Router) : List RouterEvent → Prop
  | [] => True
  | event :: rest => event.Orderly router ∧ (router.step event).OrderlyRun rest

theorem OrderlyRun.split {before after : List RouterEvent}
    (h : router.OrderlyRun (before ++ after)) :
    router.OrderlyRun before ∧ (router.run before).OrderlyRun after := by
  induction before generalizing router with
  | nil => exact ⟨trivial, h⟩
  | cons event rest ih =>
    obtain ⟨hrest, hafter⟩ := ih h.2
    exact ⟨⟨h.1, hrest⟩, hafter⟩

theorem Tracked.run (h : router.Tracked) {events : List RouterEvent}
    (horderly : router.OrderlyRun events) : (router.run events).Tracked := by
  induction events generalizing router with
  | nil => exact h
  | cons event rest ih => exact ih (h.step horderly.1) horderly.2

end Router

/-- **In an orderly run a peer is unregistered only because its own actor ended**: every turn of
    the run finds the actor of the entry it removes ended. -/
theorem orderly_run_removes_only_ended (config : ServerConfig) {events : List RouterEvent}
    (horderly : (Router.new config).OrderlyRun events) (before after : List RouterEvent)
    (event : RouterEvent) (hturn : events = before ++ event :: after) :
    ((Router.new config).run before).RemovesOnlyEnded event := by
  subst hturn
  obtain ⟨hbefore, hevent⟩ := Router.OrderlyRun.split horderly
  exact ((Router.Tracked.new config).run hbefore).removesOnlyEnded hevent.1

/-! The address of a client and its handshake. -/

def clientAddr : SocketAddr := .v4 (Vector.ofFn fun _ => 127) 19133

def openConnection2 : Payload :=
  [0x07] ++ MAGIC ++ [4, 0x80, 0x80, 0x80, 0x80, 0x4a, 0xbd] ++ [0x05, 0xd4] ++ List.replicate 8 0

def idleServer : ServerConfig where
  port := 19132
  motd := "RevyCraft"
  serverName := "RevyCraft"
  gameVersion := "1.21"
  protocolNumber := 0
  raknetVersion := 11
  maxPlayers := 20
  onlinePlayers := 0
  serverGuid := 1
  budgets := RakNetBudgets.default

def sends : PacketHost := ⟨.ok (), false⟩

/-- A client connects, its actor ends, the notice arrives and the client connects again. -/
theorem orderly_run_removes_only_ended_reconnect :
    ((Router.new idleServer).run [.packet sends clientAddr openConnection2, .terminate 0,
      .notify 0]).RemovesOnlyEnded .closed := by
  have hanswer : ∀ router : Router, router.Answerable sends openConnection2 := by
    intro router
    refine ⟨some (.openConnection2 1492 0), rfl, fun _ => rfl, ?_⟩
    intro time hping
    cases hping
  apply orderly_run_removes_only_ended idleServer _ _ [.packet sends clientAddr openConnection2]
    .closed rfl
  refine ⟨⟨fun _ => hanswer _, fun _ => ?_⟩, trivial, trivial, trivial,
    ⟨fun _ => hanswer _, fun _ => ?_⟩, trivial⟩
  · rintro (hclosed | ⟨spawn, hspawn, -⟩)
    · cases hclosed
    · cases hspawn
  · rintro (hclosed | ⟨spawn, hspawn, -, -, hnotified⟩)
    · revert hclosed
      decide +kernel
    · revert hnotified
      have hall : ∀ spawn ∈ ((Router.new idleServer).run [.packet sends clientAddr openConnection2,
          .terminate 0, .notify 0, .closed]).spawned, spawn.notified ≠ false := by
        decide +kernel
      exact hall spawn hspawn

/-- A malformed packet from its address removes a live peer, and so does the notice of the
    actor that had the address before it. -/
theorem malformed_packet_or_late_notice_removes_live_peer :
    ¬ ((Router.new idleServer).run [.packet sends clientAddr openConnection2]).RemovesOnlyEnded
        (.packet sends clientAddr [0x05]) ∧
      ¬ ((Router.new idleServer).run [.packet sends clientAddr openConnection2, .terminate 0,
          .packet sends clientAddr [0x80], .packet sends clientAddr openConnection2,
          .notify 0]).RemovesOnlyEnded .closed := by
  constructor
  · intro h
    have hended := h _ _ 0 rfl (by decide +kernel)
    revert hended
    decide +kernel
  · intro h
    have hended := h _ _ 1 rfl (by decide +kernel)
    revert hended
    decide +kernel

end RevyCraft.RakNet
