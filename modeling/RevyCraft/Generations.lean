/-
  RevyCraft/Generations.lean
  ==========================
  **Which topology generations are still in use** (`runtime/generation.rs`,
  `runtime/topology_resources.rs`, `bootstrap/listeners.rs`,
  `session/spawn.rs`).

  A topology reload makes the active generation a draining one.  A draining
  generation is kept as long as it is found in use, which is inferred from two
  collections read one after the other: the generations that the sessions of
  the registry show, and the counts of the accepts that are queued.  The
  registry's handles are copied at once and their entries read one by one.  The
  connection itself passes from the listener, which reads the published
  generation, through the accept queue and the admission into the registry.

  Every `await`, and every place where another thread can come in between, ends
  a step.  Retirement is called by the runtime loop, by a session that is
  unregistered and by a reload that has committed; the session holds a permit
  of the gate while it does.  The gate and the listeners close in one step,
  since a connection accepted between the two is one accepted before.
-/
import RevyCraft.ProtocolRegistry
import RevyCraft.Steps
import RevyCraft.TransferWire

namespace RevyCraft.Generations

abbrev GenerationId := Nat

def ACCEPT_QUEUE_CAPACITY : Nat := 256

/-! ### The accounts -/

structure DrainingGeneration where
  generationId : GenerationId
  drainDeadlineMs : Nat

inductive GenerationAdmission where
  | active
  | draining
  | expiredDraining
  | missing

def generationAdmission (active : GenerationId) (draining : List DrainingGeneration)
    (nowMs : Nat) (generationId : GenerationId) : GenerationAdmission :=
  if active = generationId then .active
  else
    match draining.find? (·.generationId = generationId) with
    | none => .missing
    | some entry => if entry.drainDeadlineMs ≤ nowMs then .expiredDraining else .draining

/-- The counts of `QueuedAcceptTracker`; a count of zero has no entry. -/
abbrev QueuedAcceptTracker := GenerationId → Nat

namespace QueuedAcceptTracker

def increment (counts : QueuedAcceptTracker) (generationId : GenerationId) : QueuedAcceptTracker :=
  fun other => if other = generationId then counts other + 1 else counts other

def decrement (counts : QueuedAcceptTracker) (generationId : GenerationId) : QueuedAcceptTracker :=
  fun other => if other = generationId then counts other - 1 else counts other

def generationIds (counts : QueuedAcceptTracker) : GenerationId → Bool := fun id => counts id ≠ 0

end QueuedAcceptTracker

structure TopologyListenerWorker where
  transport : TransportKind
  /-- The value of `generation_tx`. -/
  generation : GenerationId
  paused : Bool
  /-- It is one of the `workers_to_shutdown`. -/
  retiring : Bool
  /-- The generation read for a connection that is accepted and not counted yet. -/
  accepted : Option GenerationId

structure Session where
  connection : Nat
  generation : GenerationId
  /-- The generation that the session installs when it activates the published epoch. -/
  pending : Option GenerationId

inductive RetireCaller where
  | loop
  | session
  | reload
  deriving DecidableEq

/-- A `live_generation_ids` that reads the entries of the handles it has copied. -/
structure RegistryRead where
  unread : List Nat
  live : GenerationId → Bool

/-- How far a `retire_drained_generations` has come, with the generations it has found live. -/
inductive RetireStage where
  | begun
  | registryRead (read : RegistryRead)
  | queueRead (live : GenerationId → Bool)

structure Retirement where
  caller : RetireCaller
  stage : RetireStage

namespace RegistryRead

/-- The entry of a handle is read. -/
def entry (read : RegistryRead) (connection : Nat) (entries : List Session) : RegistryRead where
  unread := read.unread.filter (· ≠ connection)
  live := fun id => read.live id ||
    entries.any fun session => session.connection = connection ∧ session.generation = id

/-- The session is still to be read, or a session of its generation has been. -/
def finds (read : RegistryRead) (session : Session) : Bool :=
  session.connection ∈ read.unread || read.live session.generation

end RegistryRead

/-- A reload; the candidate is `none` when the topology stays as it is. -/
inductive TopologyReload where
  | idle
  | prepared (candidate : Option GenerationId)
  | frozen (candidate : Option GenerationId)
  | committed (target : GenerationId)
  | published
  | resumed
  /-- In the retirement of `finish_committed_reload`. -/
  | finishing
  deriving DecidableEq

structure TopologyState where
  active : GenerationId
  draining : List DrainingGeneration
  nextGenerationId : Nat
  workers : List TopologyListenerWorker
  queuedAccepts : QueuedAcceptTracker
  acceptQueue : List GenerationId
  /-- The accepted connection that the loop admits, and whether its session is registered. -/
  admitting : Option (GenerationId × Bool)
  sessions : List Session
  /-- The sessions that are unregistered, with the entries that copied handles still show. -/
  ended : List Session
  nextConnection : Nat
  reload : TopologyReload
  retirements : List Retirement

inductive TopologyStep where
  | accept (worker : Nat)
  /-- `track` and `try_send`. -/
  | track (worker : Nat)
  | receiveAccepted
  /-- `spawn_transport_session_inner` up to the registration; a missing adapter or gameplay profile
      refuses the connection. -/
  | admission (nowMs : Nat) (refused : Bool)
  /-- The guard of the queued accept is dropped. -/
  | admitted
  | sessionActivates (connection : Nat)
  /-- The task of a session has ended: it activates nothing more. -/
  | sessionStops (connection : Nat)
  | unregister (connection : Nat)
  | retireBegins
  | retireReadsRegistry (retirement : Nat)
  | retireReadsEntry (retirement connection : Nat)
  | retireReadsQueue (retirement : Nat)
  | retirePrunes (retirement : Nat)
  | prepareReload (changed : Bool)
  | freeze
  | abort
  | commitGenerationResources (reused : TransportKind → Bool) (bound : List TransportKind)
      (drainDeadlineMs : Nat)
  | publish
  | resume
  | finishCommittedReload
  /-- A child takes over, with the peers that the router had queued. -/
  | handOff (queuedBedrockPeers : Nat)

namespace TopologyState

def new (transports : List TransportKind) : TopologyState where
  active := 1
  draining := []
  nextGenerationId := 2
  workers := transports.map fun transport => ⟨transport, 1, false, false, none⟩
  queuedAccepts := fun _ => 0
  acceptQueue := []
  admitting := none
  sessions := []
  ended := []
  nextConnection := 0
  reload := .idle
  retirements := []

/-- The generation that is active once the running commit is published. -/
def target (s : TopologyState) : GenerationId :=
  match s.reload with
  | .committed target => target
  | _ => s.active

/-- The gate admits operations. -/
def admits (s : TopologyState) : Bool :=
  match s.reload with
  | .idle => true
  | .prepared _ => true
  | .resumed => true
  | .finishing => true
  | _ => false

def admission (s : TopologyState) (nowMs : Nat) (generationId : GenerationId) :
    GenerationAdmission :=
  generationAdmission s.active s.draining nowMs generationId

def setWorker (s : TopologyState) (i : Nat) (worker : TopologyListenerWorker) : TopologyState :=
  { s with workers := s.workers.set i worker }

def setRetirement (s : TopologyState) (i : Nat) (retirement : Retirement) : TopologyState :=
  { s with retirements := s.retirements.set i retirement }

/-- Nobody has a permit of the gate, and no listener is in the middle of a turn. -/
def quiescent (s : TopologyState) : Bool :=
  s.admitting.all (fun admitting => !admitting.2) &&
    s.retirements.all (·.caller ≠ .session) && s.workers.all (·.accepted.isNone)

/-- The `commit_generation_resources` of a reload with a new generation. -/
def commitGeneration (s : TopologyState) (candidate : GenerationId) (reused : TransportKind → Bool)
    (bound : List TransportKind) (drainDeadlineMs : Nat) : TopologyState :=
  { s with
    draining := s.draining ++ [⟨s.active, drainDeadlineMs⟩]
    workers :=
      (s.workers.map fun worker =>
        if reused worker.transport then { worker with generation := candidate }
        else { worker with retiring := true }) ++
      bound.map fun transport => ⟨transport, candidate, false, false, none⟩
    reload := .committed candidate }

/-- The topology that a child is booted with. -/
def handedOff (s : TopologyState) (queuedBedrockPeers : Nat) : TopologyState where
  active := s.active
  draining := []
  nextGenerationId := s.active + 1
  workers := s.workers.map fun worker => ⟨worker.transport, s.active, false, false, none⟩
  queuedAccepts := fun id => if id = s.active then queuedBedrockPeers else 0
  acceptQueue := List.replicate queuedBedrockPeers s.active
  admitting := none
  sessions := s.sessions.map fun session => { session with pending := none }
  ended := []
  nextConnection := s.nextConnection
  reload := .idle
  retirements := []

def step (s : TopologyState) : TopologyStep → Option TopologyState
  | .accept i =>
    s.workers[i]?.bind fun worker =>
      if worker.paused || worker.accepted.isSome then none
      else some (s.setWorker i { worker with accepted := some worker.generation })
  | .track i =>
    s.workers[i]?.bind fun worker =>
      worker.accepted.map fun generationId =>
        let s := s.setWorker i { worker with accepted := none }
        if s.acceptQueue.length < ACCEPT_QUEUE_CAPACITY then
          { s with
            queuedAccepts := s.queuedAccepts.increment generationId
            acceptQueue := s.acceptQueue ++ [generationId] }
        else s
  | .receiveAccepted =>
    match s.admitting, s.acceptQueue with
    | none, generationId :: rest =>
      if s.retirements.all (·.caller ≠ .loop) then
        some { s with acceptQueue := rest, admitting := some (generationId, false) }
      else none
    | _, _ => none
  | .admission nowMs refused =>
    match s.admits, s.admitting with
    | true, some (generationId, false) =>
      if refused then
        some { s with
          admitting := none
          queuedAccepts := s.queuedAccepts.decrement generationId }
      else
        match s.admission nowMs generationId with
        | .expiredDraining | .missing =>
          some { s with
            admitting := none
            queuedAccepts := s.queuedAccepts.decrement generationId }
        | .active | .draining =>
          some { s with
            admitting := some (generationId, true)
            sessions := s.sessions ++ [⟨s.nextConnection, generationId, none⟩]
            nextConnection := s.nextConnection + 1 }
    | _, _ => none
  | .admitted =>
    match s.admitting with
    | some (generationId, true) =>
      some { s with
        admitting := none
        queuedAccepts := s.queuedAccepts.decrement generationId }
    | _ => none
  | .sessionActivates connection =>
    some { s with
      sessions := s.sessions.map fun session =>
        if session.connection = connection then
          { session with generation := session.pending.getD session.generation, pending := none }
        else session }
  | .sessionStops connection =>
    some { s with
      sessions := s.sessions.map fun session =>
        if session.connection = connection then { session with pending := none } else session }
  | .unregister connection =>
    if s.admits then
      some { s with
        sessions := s.sessions.filter (·.connection ≠ connection)
        ended := s.ended ++ s.sessions.filter (·.connection = connection)
        retirements := s.retirements ++ [⟨.session, .begun⟩] }
    else none
  | .retireBegins =>
    if s.admitting = none ∧ s.retirements.all (·.caller ≠ .loop) then
      some { s with retirements := s.retirements ++ [⟨.loop, .begun⟩] }
    else none
  | .retireReadsRegistry i =>
    s.retirements[i]?.bind fun retirement =>
      match retirement.stage with
      | .begun =>
        some (s.setRetirement i { retirement with
          stage := .registryRead ⟨s.sessions.map (·.connection), fun _ => false⟩ })
      | _ => none
  | .retireReadsEntry i connection =>
    s.retirements[i]?.bind fun retirement =>
      match retirement.stage with
      | .registryRead read =>
        if connection ∈ read.unread then
          some (s.setRetirement i { retirement with
            stage := .registryRead (read.entry connection (s.sessions ++ s.ended)) })
        else none
      | _ => none
  | .retireReadsQueue i =>
    s.retirements[i]?.bind fun retirement =>
      match retirement.stage with
      | .registryRead ⟨[], live⟩ =>
        some (s.setRetirement i { retirement with
          stage := .queueRead fun id => live id || s.queuedAccepts.generationIds id })
      | _ => none
  | .retirePrunes i =>
    s.retirements[i]?.bind fun retirement =>
      match retirement.stage with
      | .queueRead live =>
        some { s with
          draining := s.draining.filter fun entry => live entry.generationId
          retirements := s.retirements.eraseIdx i
          reload :=
            if retirement.caller = .reload ∧ s.reload = .finishing then .idle else s.reload }
      | _ => none
  | .prepareReload changed =>
    if s.reload = .idle then
      some { s with
        reload := .prepared (if changed then some s.nextGenerationId else none)
        nextGenerationId :=
          if changed then min (s.nextGenerationId + 1) u64Max else s.nextGenerationId }
    else none
  | .freeze =>
    match s.reload with
    | .prepared candidate =>
      -- A session prepares for the candidate only after it has activated the epoch before.
      if s.quiescent && s.sessions.all (·.pending.isNone) then
        some { s with
          reload := .frozen candidate
          workers := s.workers.map fun worker => { worker with paused := true } }
      else none
    | _ => none
  | .abort =>
    match s.reload with
    | .prepared _ | .frozen _ =>
      some { s with
        reload := .idle
        workers := s.workers.map fun worker => { worker with paused := false } }
    | _ => none
  | .commitGenerationResources reused bound drainDeadlineMs =>
    match s.reload with
    | .frozen none => some { s with reload := .committed s.active }
    | .frozen (some candidate) =>
      some (s.commitGeneration candidate reused bound drainDeadlineMs)
    | _ => none
  | .publish =>
    match s.reload with
    | .committed target =>
      some { s with
        active := target
        sessions := s.sessions.map fun session => { session with pending := some target }
        reload := .published }
    | _ => none
  | .resume =>
    if s.reload = .published then
      some { s with
        reload := .resumed
        workers := s.workers.map fun worker => { worker with paused := false } }
    else none
  | .finishCommittedReload =>
    if s.reload = .resumed ∧ s.workers.all (fun worker => !worker.retiring || worker.accepted.isNone)
    then
      some { s with
        reload := .finishing
        workers := s.workers.filter fun worker => !worker.retiring
        retirements := s.retirements ++ [⟨.reload, .begun⟩] }
    else none
  | .handOff queuedBedrockPeers =>
    if s.reload = .idle ∧ s.quiescent ∧ s.active < u64Max then
      some (s.handedOff queuedBedrockPeers)
    else none

def run (s : TopologyState) (steps : List TopologyStep) : Option TopologyState :=
  Steps.run step s steps

end TopologyState

/-! ### What a retirement must not miss -/

/-- What a retirement has of the registry before it reads the queue. -/
def RetireStage.registry : RetireStage → Option RegistryRead
  | .registryRead read => some read
  | _ => none

def RetireStage.queueLive : RetireStage → Option (GenerationId → Bool)
  | .queueRead live => some live
  | _ => none

/-- The resources of a commit are installed, and the candidate is not published. -/
def TopologyReload.isCommitted : TopologyReload → Bool
  | .committed _ => true
  | _ => false

/-- A reload that has frozen and is not published. -/
def TopologyReload.still : TopologyReload → Bool
  | .frozen _ => true
  | .committed _ => true
  | _ => false

/-- The listeners of the topology before may still be there. -/
def TopologyReload.replacing : TopologyReload → Bool
  | .committed _ => true
  | .published => true
  | .resumed => true
  | _ => false

namespace TopologyState

def drainingIds (s : TopologyState) : List GenerationId := s.draining.map (·.generationId)

/-- The generation is active, also once the running commit is published. -/
def Current (s : TopologyState) (id : GenerationId) : Prop := id = s.active ∧ id = s.target

instance (s : TopologyState) (id : GenerationId) : Decidable (s.Current id) :=
  inferInstanceAs (Decidable (_ ∧ _))

/-- The generations of the connections that are accepted and not admitted, and of the live
    sessions. -/
def connections (s : TopologyState) : List GenerationId :=
  s.workers.filterMap (·.accepted) ++ s.acceptQueue ++ (s.admitting.map (·.1)).toList ++
    s.sessions.map (·.generation)

/-- Those, and what the listeners of the topology before still hand out. -/
def inUse (s : TopologyState) : List GenerationId :=
  s.connections ++ (s.workers.filter (·.retiring)).map (·.generation)

end TopologyState

/-- No step comes between the parts of a retirement that makes it miss a connection, no listener
    accepts with a candidate that is not published, and no session of a draining generation is
    handed off. -/
def TopologyStep.settled (s : TopologyState) : TopologyStep → Bool
  | .accept _ => !s.reload.isCommitted
  | .admitted =>
    s.retirements.all fun retirement => retirement.stage.registry.all fun read =>
      s.admitting.all fun admitting => read.live admitting.1 || decide (s.Current admitting.1)
  | .retireReadsQueue i =>
    s.retirements[i]?.all fun retirement => retirement.stage.registry.all fun read =>
      s.workers.all fun worker => !worker.retiring ||
        (worker.generation :: worker.accepted.toList).all fun id =>
          read.live id || s.queuedAccepts.generationIds id || decide (s.Current id)
  | .commitGenerationResources reused _ _ =>
    s.retirements.all fun retirement =>
      (retirement.stage.registry.all fun read =>
        s.sessions.all fun session => session.generation ≠ s.active || read.finds session) &&
      (retirement.stage.queueLive.all fun live =>
        live s.active || s.inUse.all (· ≠ s.active) && s.workers.all (reused ·.transport))
  | .handOff _ => s.sessions.all (·.generation = s.active)
  | _ => true

variable {id : GenerationId} {reload : TopologyReload} {workers : List TopologyListenerWorker}
  {worker : TopologyListenerWorker} {reused : TransportKind → Bool} {bound : List TransportKind}
  {drainDeadlineMs : Nat}

namespace TopologyState

/-- **The accounts are in order**: whatever is in use is draining or current, and no retirement
    that has read is going to miss it. -/
structure Accounts (s : TopologyState) : Prop where
  counts : ∀ id, s.queuedAccepts id =
    s.acceptQueue.count id + (s.admitting.map (·.1)).toList.count id
  held : ∀ id ∈ s.inUse, id ∈ s.drainingIds ∨ s.Current id
  workers : ∀ worker ∈ s.workers, worker.retiring = false →
    worker.generation = s.target ∧ ∀ id ∈ worker.accepted, s.Current id
  pending : ∀ session ∈ s.sessions, ∀ id ∈ session.pending, s.Current id
  replaced : s.reload.replacing = false → ∀ worker ∈ s.workers, worker.retiring = false
  stillWorkers : s.reload.still = true → ∀ worker ∈ s.workers,
    worker.accepted = none
  stillPaused : s.reload.still = true → s.reload.isCommitted = false → ∀ worker ∈ s.workers,
    worker.paused = true
  stillSessions : s.reload.still = true → ∀ session ∈ s.sessions,
    session.pending = none
  stillAdmission : s.reload.still = true → ∀ admitting ∈ s.admitting,
    admitting.2 = false
  registryRead : ∀ retirement ∈ s.retirements, ∀ read ∈ retirement.stage.registry,
    ∀ session ∈ s.sessions, read.finds session = true ∨ s.Current session.generation ∨
      s.admitting = some (session.generation, true)
  queueRead : ∀ retirement ∈ s.retirements, ∀ live ∈ retirement.stage.queueLive,
    ∀ id ∈ s.inUse, live id = true ∨ s.Current id

theorem mem_inUse {s : TopologyState} : id ∈ s.inUse ↔
    (∃ worker ∈ s.workers, worker.accepted = some id) ∨ id ∈ s.acceptQueue ∨
    (∃ registered, s.admitting = some (id, registered)) ∨
    (∃ session ∈ s.sessions, session.generation = id) ∨
    ∃ worker ∈ s.workers, worker.retiring = true ∧ worker.generation = id := by
  unfold inUse connections
  simp only [List.mem_append, List.mem_filterMap, List.mem_map, List.mem_filter, or_assoc,
    Option.mem_toList, Option.map_eq_some_iff, Prod.exists, exists_and_right, exists_eq_right,
    and_assoc]

theorem Accounts.new (transports : List TransportKind) : (TopologyState.new transports).Accounts where
  counts := fun _ => rfl
  held := by
    intro id hid
    rcases mem_inUse.mp hid with ⟨worker, hworker, haccepted⟩ | hid | ⟨registered, hid⟩ |
      ⟨session, hsession, -⟩ | ⟨worker, hworker, hretiring, -⟩
    · obtain ⟨transport, -, rfl⟩ := List.mem_map.mp hworker
      cases haccepted
    · cases hid
    · cases hid
    · cases hsession
    · obtain ⟨transport, -, rfl⟩ := List.mem_map.mp hworker
      cases hretiring
  workers := by
    intro worker hworker _
    obtain ⟨transport, -, rfl⟩ := List.mem_map.mp hworker
    exact ⟨rfl, nofun⟩
  pending := nofun
  replaced := by
    intro _ worker hworker
    obtain ⟨transport, -, rfl⟩ := List.mem_map.mp hworker
    rfl
  stillWorkers := nofun
  stillPaused := nofun
  stillSessions := nofun
  stillAdmission := nofun
  registryRead := nofun
  queueRead := nofun

end TopologyState

variable {i connection : Nat}

namespace TopologyState

section Steps

variable {s s' : TopologyState}

theorem target_eq (hreload : s.reload.isCommitted = false) : s.target = s.active := by
  unfold target
  cases h : s.reload <;> simp_all [TopologyReload.isCommitted]

theorem current_active (hreload : s.reload.isCommitted = false) : s.Current s.active :=
  ⟨rfl, (target_eq hreload).symm⟩

theorem isCommitted_of_still (h : reload.still = false) : reload.isCommitted = false := by
  cases reload <;> simp_all [TopologyReload.still, TopologyReload.isCommitted]

theorem admits_not_still (h : s.admits = true) : s.reload.still = false := by
  unfold admits at h
  cases hreload : s.reload <;> simp_all [TopologyReload.still]

/-- A step at which connections move or end: nothing is pruned and no epoch is published. -/
theorem Accounts.moved (h : s.Accounts) (hactive : s'.active = s.active)
    (hdraining : s'.draining = s.draining) (hreload : s'.reload = s.reload)
    (hretirements : s'.retirements = s.retirements)
    (hcounts : ∀ id, s'.queuedAccepts id =
      s'.acceptQueue.count id + (s'.admitting.map (·.1)).toList.count id)
    (huse : ∀ id ∈ s'.inUse, id ∈ s.inUse ∨ s.Current id)
    (hworkers : ∀ worker ∈ s'.workers, worker.retiring = false →
      worker.generation = s.target ∧ ∀ id ∈ worker.accepted, s.Current id)
    (hretiring : ∀ worker ∈ s'.workers, worker.retiring = true →
      ∃ old ∈ s.workers, old.retiring = true)
    (hpending : ∀ session ∈ s'.sessions, ∀ id ∈ session.pending, s.Current id)
    (hstill : s.reload.still = true → (∀ worker ∈ s'.workers, worker.accepted = none) ∧
      (s.reload.isCommitted = false → ∀ worker ∈ s'.workers, worker.paused = true) ∧
      (∀ session ∈ s'.sessions, session.pending = none) ∧
      ∀ admitting ∈ s'.admitting, admitting.2 = false)
    (hread : ∀ retirement ∈ s.retirements, ∀ read ∈ retirement.stage.registry,
      ∀ session ∈ s'.sessions, read.finds session = true ∨ s.Current session.generation ∨
        s'.admitting = some (session.generation, true)) : s'.Accounts := by
  have htarget : s'.target = s.target := by
    unfold target
    rw [hreload, hactive]
  have hcurrent : ∀ id, s'.Current id ↔ s.Current id := by
    intro id
    unfold Current
    rw [hactive, htarget]
  constructor
  · exact hcounts
  · intro id hid
    have hids : s'.drainingIds = s.drainingIds := congrArg (List.map _) hdraining
    rw [hids, hcurrent]
    rcases huse id hid with hused | hcur
    · exact h.held id hused
    · exact .inr hcur
  · intro worker hworker hserves
    rw [htarget]
    obtain ⟨hgeneration, haccepted⟩ := hworkers worker hworker hserves
    exact ⟨hgeneration, fun id hid => (hcurrent id).mpr (haccepted id hid)⟩
  · intro session hsession id hid
    exact (hcurrent id).mpr (hpending session hsession id hid)
  · rw [hreload]
    intro hnone worker hworker
    rw [← Bool.not_eq_true]
    intro hretires
    obtain ⟨old, hold, hother⟩ := hretiring worker hworker hretires
    cases (h.replaced hnone old hold).symm.trans hother
  · rw [hreload]
    exact fun hs => (hstill hs).1
  · rw [hreload]
    exact fun hs => (hstill hs).2.1
  · rw [hreload]
    exact fun hs => (hstill hs).2.2.1
  · rw [hreload]
    exact fun hs => (hstill hs).2.2.2
  · rw [hretirements]
    intro retirement hmem read hof session hsession
    rw [hcurrent]
    exact hread retirement hmem read hof session hsession
  · rw [hretirements]
    intro retirement hmem live hlive id hid
    rw [hcurrent]
    rcases huse id hid with hused | hcur
    · exact h.queueRead retirement hmem live hlive id hused
    · exact .inr hcur

theorem retiring_same :
    ∀ worker ∈ workers, worker.retiring = true → ∃ old ∈ workers, old.retiring = true :=
  fun worker hworker hretiring => ⟨worker, hworker, hretiring⟩

theorem retiring_of_set {next : TopologyListenerWorker} (hmem : worker ∈ workers)
    (hsame : next.retiring = worker.retiring) :
    ∀ other ∈ workers.set i next, other.retiring = true →
      ∃ old ∈ workers, old.retiring = true := by
  intro other hother hretiring
  rcases List.mem_or_eq_of_mem_set hother with hother | rfl
  · exact ⟨other, hother, hretiring⟩
  · exact ⟨worker, hmem, hsame.symm.trans hretiring⟩

theorem inUse_setWorker {accepted : Option GenerationId} (hworker : s.workers[i]? = some worker)
    (hid : id ∈ (s.setWorker i { worker with accepted := accepted }).inUse) :
    id ∈ s.inUse ∨ accepted = some id := by
  have hmem : worker ∈ s.workers := List.mem_of_getElem? hworker
  rcases mem_inUse.mp hid with ⟨other, hother, haccepted⟩ | hid | hid | hid |
    ⟨other, hother, hretires, rfl⟩
  · rcases List.mem_or_eq_of_mem_set hother with hother | rfl
    · exact .inl (mem_inUse.mpr (.inl ⟨other, hother, haccepted⟩))
    · exact .inr haccepted
  · exact .inl (mem_inUse.mpr (.inr (.inl hid)))
  · exact .inl (mem_inUse.mpr (.inr (.inr (.inl hid))))
  · exact .inl (mem_inUse.mpr (.inr (.inr (.inr (.inl hid)))))
  · left
    refine mem_inUse.mpr (.inr (.inr (.inr (.inr ?_))))
    rcases List.mem_or_eq_of_mem_set hother with hother | rfl
    · exact ⟨other, hother, hretires, rfl⟩
    · exact ⟨worker, hmem, hretires, rfl⟩

theorem Accounts.accept (h : s.Accounts) (hsettled : (TopologyStep.accept i).settled s = true)
    (hstep : s.step (.accept i) = some s') : s'.Accounts := by
  obtain ⟨worker, hworker, hstep⟩ := Option.bind_eq_some_iff.mp hstep
  obtain ⟨hfree, hdone⟩ := Option.ite_none_left_eq_some.mp hstep
  cases hdone
  have hmem : worker ∈ s.workers := List.mem_of_getElem? hworker
  have hcommitted : s.reload.isCommitted = false := by
    simpa [TopologyStep.settled] using hsettled
  have hserving : ¬ worker.paused = true := by
    intro hpaused
    exact hfree (by simp [hpaused])
  have hgeneration : worker.retiring = false → s.Current worker.generation := by
    intro hretiring
    rw [(h.workers worker hmem hretiring).1, target_eq hcommitted]
    exact current_active hcommitted
  refine h.moved rfl rfl rfl rfl h.counts ?_ ?_ (retiring_of_set hmem rfl) h.pending ?_
    h.registryRead
  · intro id hid
    rcases inUse_setWorker hworker hid with hid | haccepted
    · exact .inl hid
    · cases haccepted
      cases hretiring : worker.retiring with
      | true => exact .inl (mem_inUse.mpr (.inr (.inr (.inr (.inr ⟨worker, hmem, hretiring, rfl⟩)))))
      | false => exact .inr (hgeneration hretiring)
  · intro other hother hserves
    rcases List.mem_or_eq_of_mem_set hother with hother | rfl
    · exact h.workers other hother hserves
    · refine ⟨(h.workers worker hmem hserves).1, ?_⟩
      rintro id ⟨⟩
      exact hgeneration hserves
  · intro hstill
    exact absurd (h.stillPaused hstill hcommitted worker hmem) hserving

theorem Accounts.track (h : s.Accounts) (hstep : s.step (.track i) = some s') : s'.Accounts := by
  obtain ⟨worker, hworker, hstep⟩ := Option.bind_eq_some_iff.mp hstep
  obtain ⟨generationId, haccepted, rfl⟩ := Option.map_eq_some_iff.mp hstep
  have hmem : worker ∈ s.workers := List.mem_of_getElem? hworker
  have hused : generationId ∈ s.inUse := mem_inUse.mpr (.inl ⟨worker, hmem, haccepted⟩)
  have hworkers : ∀ other ∈ s.workers.set i { worker with accepted := none },
      other.retiring = false → other.generation = s.target ∧ ∀ id ∈ other.accepted, s.Current id := by
    intro other hother hserves
    rcases List.mem_or_eq_of_mem_set hother with hother | rfl
    · exact h.workers other hother hserves
    · exact ⟨(h.workers worker hmem hserves).1, nofun⟩
  have hmoving : ¬ s.reload.still = true := by
    intro hstill
    cases (h.stillWorkers hstill worker hmem).symm.trans haccepted
  have huse : ∀ id ∈ (s.setWorker i { worker with accepted := none }).inUse, id ∈ s.inUse := by
    intro id hid
    rcases inUse_setWorker hworker hid with hid | hnone
    · exact hid
    · cases hnone
  dsimp only
  split
  · refine h.moved rfl rfl rfl rfl ?_ ?_ hworkers (retiring_of_set hmem rfl) h.pending
      (absurd · hmoving) h.registryRead
    · intro id
      show QueuedAcceptTracker.increment s.queuedAccepts generationId id =
        (s.acceptQueue ++ [generationId]).count id + (s.admitting.map (·.1)).toList.count id
      unfold QueuedAcceptTracker.increment
      rw [List.count_append, List.count_singleton, h.counts id]
      by_cases hid : id = generationId
      · simp [hid]
        omega
      · simp [hid, Ne.symm hid]
    · intro id hid
      left
      rcases mem_inUse.mp hid with hid | hid | hid
      · exact huse id (mem_inUse.mpr (.inl hid))
      · rcases List.mem_append.mp hid with hid | hid
        · exact huse id (mem_inUse.mpr (.inr (.inl hid)))
        · cases List.mem_singleton.mp hid
          exact hused
      · exact huse id (mem_inUse.mpr (.inr (.inr hid)))
  · exact h.moved rfl rfl rfl rfl h.counts (fun id hid => .inl (huse id hid)) hworkers
      (retiring_of_set hmem rfl) h.pending (absurd · hmoving) h.registryRead

theorem Accounts.receiveAccepted (h : s.Accounts) (hstep : s.step .receiveAccepted = some s') :
    s'.Accounts := by
  dsimp only [TopologyState.step] at hstep
  split at hstep
  · next generationId rest hadmitting hqueue =>
    obtain ⟨-, hdone⟩ := Option.ite_none_right_eq_some.mp hstep
    cases hdone
    refine h.moved rfl rfl rfl rfl ?_ ?_ h.workers retiring_same h.pending ?_ ?_
    · intro id
      have hid := h.counts id
      rw [hqueue, hadmitting] at hid
      simpa [List.count_cons] using hid
    · intro id hid
      left
      rcases mem_inUse.mp hid with hid | hid | ⟨registered, hid⟩ | hid
      · exact mem_inUse.mpr (.inl hid)
      · exact mem_inUse.mpr (.inr (.inl (by rw [hqueue]; exact .tail _ hid)))
      · cases hid
        exact mem_inUse.mpr (.inr (.inl (by rw [hqueue]; exact .head _)))
      · exact mem_inUse.mpr (.inr (.inr (.inr hid)))
    · intro hstill
      refine ⟨h.stillWorkers hstill, h.stillPaused hstill, h.stillSessions hstill, ?_⟩
      rintro admitting ⟨⟩
      rfl
    · intro retirement hmem read hof session hsession
      rcases h.registryRead retirement hmem read hof session hsession with hfound | hcur | hadm
      · exact .inl hfound
      · exact .inr (.inl hcur)
      · cases hadmitting.symm.trans hadm
  · cases hstep

/-- The guard of the connection that the loop admits is dropped, and with it the connection if it
    has no session. -/
theorem Accounts.dropGuard (h : s.Accounts) {generationId : GenerationId} {registered : Bool}
    (hadmitting : s.admitting = some (generationId, registered))
    (hread : ∀ retirement ∈ s.retirements, ∀ read ∈ retirement.stage.registry,
      registered = true → read.live generationId = true ∨ s.Current generationId) :
    Accounts { s with
      admitting := none
      queuedAccepts := s.queuedAccepts.decrement generationId } := by
  refine h.moved rfl rfl rfl rfl ?_ ?_ h.workers retiring_same h.pending ?_ ?_
  · intro id
    show QueuedAcceptTracker.decrement s.queuedAccepts generationId id = s.acceptQueue.count id + 0
    have hid := h.counts id
    rw [hadmitting] at hid
    unfold QueuedAcceptTracker.decrement
    by_cases hsame : id = generationId
    · simp [hsame] at hid ⊢
      omega
    · simp [hsame, Ne.symm hsame] at hid ⊢
      exact hid
  · intro id hid
    left
    rcases mem_inUse.mp hid with hid | hid | ⟨registered, hid⟩ | hid
    · exact mem_inUse.mpr (.inl hid)
    · exact mem_inUse.mpr (.inr (.inl hid))
    · cases hid
    · exact mem_inUse.mpr (.inr (.inr (.inr hid)))
  · intro hstill
    exact ⟨h.stillWorkers hstill, h.stillPaused hstill, h.stillSessions hstill, nofun⟩
  · intro retirement hmem read hof session hsession
    rcases h.registryRead retirement hmem read hof session hsession with hfound | hcur | hadm
    · exact .inl hfound
    · exact .inr (.inl hcur)
    · obtain ⟨rfl, rfl⟩ := Prod.mk.inj (Option.some.inj (hadmitting.symm.trans hadm))
      rcases hread retirement hmem read hof rfl with hlive | hcur
      · exact .inl (Bool.or_eq_true_iff.mpr (.inr hlive))
      · exact .inr (.inl hcur)

/-- The session of an admitted connection is registered while its guard still counts. -/
theorem Accounts.register (h : s.Accounts) {generationId : GenerationId}
    (hadmits : s.admits = true) (hadmitting : s.admitting = some (generationId, false)) :
    Accounts { s with
      admitting := some (generationId, true)
      sessions := s.sessions ++ [⟨s.nextConnection, generationId, none⟩]
      nextConnection := s.nextConnection + 1 } := by
  have hmoving : ¬ s.reload.still = true := by
    rw [admits_not_still hadmits]
    nofun
  refine h.moved rfl rfl rfl rfl ?_ ?_ h.workers retiring_same ?_ (absurd · hmoving) ?_
  · intro id
    have hid := h.counts id
    rw [hadmitting] at hid
    exact hid
  · intro id hid
    left
    rcases mem_inUse.mp hid with hid | hid | ⟨registered, hid⟩ | ⟨session, hsession, rfl⟩ | hid
    · exact mem_inUse.mpr (.inl hid)
    · exact mem_inUse.mpr (.inr (.inl hid))
    · cases hid
      exact mem_inUse.mpr (.inr (.inr (.inl ⟨_, hadmitting⟩)))
    · rcases List.mem_append.mp hsession with hsession | hnew
      · exact mem_inUse.mpr (.inr (.inr (.inr (.inl ⟨session, hsession, rfl⟩))))
      · cases List.mem_singleton.mp hnew
        exact mem_inUse.mpr (.inr (.inr (.inl ⟨_, hadmitting⟩)))
    · exact mem_inUse.mpr (.inr (.inr (.inr (.inr hid))))
  · intro session hsession
    rcases List.mem_append.mp hsession with hsession | hnew
    · exact h.pending session hsession
    · cases List.mem_singleton.mp hnew
      nofun
  · intro retirement hmem read hof session hsession
    rcases List.mem_append.mp hsession with hsession | hnew
    · rcases h.registryRead retirement hmem read hof session hsession with hfound | hcur | hadm
      · exact .inl hfound
      · exact .inr (.inl hcur)
      · cases hadmitting.symm.trans hadm
    · cases List.mem_singleton.mp hnew
      exact .inr (.inr rfl)

theorem Accounts.admission (h : s.Accounts) {nowMs : Nat} {refused : Bool}
    (hstep : s.step (.admission nowMs refused) = some s') : s'.Accounts := by
  dsimp only [TopologyState.step] at hstep
  split at hstep
  · next generationId hadmits hadmitting =>
    have hdropped := h.dropGuard hadmitting fun _ _ _ _ hregistered => absurd hregistered nofun
    split at hstep
    · cases hstep
      exact hdropped
    · split at hstep
      · cases hstep
        exact hdropped
      · cases hstep
        exact hdropped
      · cases hstep
        exact h.register hadmits hadmitting
      · cases hstep
        exact h.register hadmits hadmitting
  · cases hstep

theorem Accounts.admitted (h : s.Accounts) (hsettled : TopologyStep.admitted.settled s = true)
    (hstep : s.step .admitted = some s') : s'.Accounts := by
  dsimp only [TopologyState.step] at hstep
  split at hstep
  · next generationId hadmitting =>
    cases hstep
    refine h.dropGuard hadmitting fun retirement hmem read hof _ => ?_
    have hall := List.all_eq_true.mp hsettled retirement hmem
    rw [Option.mem_def.mp hof, hadmitting] at hall
    simpa using hall
  · cases hstep

/-- The sessions change what they have pending, or the one pending generation becomes theirs. -/
theorem Accounts.sessionsMapped (h : s.Accounts) {f : Session → Session}
    (hconnection : ∀ session, (f session).connection = session.connection)
    (hf : ∀ session, f session = session ∨
      (f session).pending = none ∧ ((f session).generation = session.generation ∨
        session.pending = some (f session).generation)) :
    Accounts { s with sessions := s.sessions.map f } := by
  have hgeneration : ∀ session ∈ s.sessions, (f session).generation = session.generation ∨
      s.Current (f session).generation := by
    intro session hsession
    rcases hf session with hsame | ⟨-, hsame | hpending⟩
    · exact .inl (by rw [hsame])
    · exact .inl hsame
    · exact .inr (h.pending session hsession _ hpending)
  refine h.moved rfl rfl rfl rfl h.counts ?_ h.workers retiring_same ?_ ?_ ?_
  · intro id hid
    rcases mem_inUse.mp hid with hid | hid | hid | ⟨mapped, hmapped, rfl⟩ | hid
    · exact .inl (mem_inUse.mpr (.inl hid))
    · exact .inl (mem_inUse.mpr (.inr (.inl hid)))
    · exact .inl (mem_inUse.mpr (.inr (.inr (.inl hid))))
    · obtain ⟨session, hsession, rfl⟩ := List.mem_map.mp hmapped
      rcases hgeneration session hsession with hsame | hcur
      · rw [hsame]
        exact .inl (mem_inUse.mpr (.inr (.inr (.inr (.inl ⟨session, hsession, rfl⟩)))))
      · exact .inr hcur
    · exact .inl (mem_inUse.mpr (.inr (.inr (.inr (.inr hid)))))
  · intro mapped hmapped
    obtain ⟨session, hsession, rfl⟩ := List.mem_map.mp hmapped
    rcases hf session with hsame | ⟨hnone, -⟩
    · rw [hsame]
      exact h.pending session hsession
    · rw [hnone]
      nofun
  · intro hstill
    refine ⟨h.stillWorkers hstill, h.stillPaused hstill, ?_, h.stillAdmission hstill⟩
    intro mapped hmapped
    obtain ⟨session, hsession, rfl⟩ := List.mem_map.mp hmapped
    rcases hf session with hsame | ⟨hnone, -⟩
    · rw [hsame]
      exact h.stillSessions hstill session hsession
    · exact hnone
  · intro retirement hmem read hof mapped hmapped
    obtain ⟨session, hsession, rfl⟩ := List.mem_map.mp hmapped
    rcases hgeneration session hsession with hsame | hcur
    · unfold RegistryRead.finds
      rw [hsame, hconnection]
      exact h.registryRead retirement hmem read hof session hsession
    · exact .inr (.inl hcur)

theorem Accounts.sessionActivates (h : s.Accounts)
    (hstep : s.step (.sessionActivates connection) = some s') : s'.Accounts := by
  cases hstep
  apply h.sessionsMapped
  · intro session
    split <;> rfl
  intro session
  split
  · right
    refine ⟨rfl, ?_⟩
    cases hpending : session.pending with
    | none => exact .inl rfl
    | some id => exact .inr rfl
  · exact .inl rfl

theorem Accounts.sessionStops (h : s.Accounts)
    (hstep : s.step (.sessionStops connection) = some s') : s'.Accounts := by
  cases hstep
  apply h.sessionsMapped
  · intro session
    split <;> rfl
  intro session
  split
  · exact .inr ⟨rfl, .inl rfl⟩
  · exact .inl rfl

theorem Accounts.retiring (h : s.Accounts) {retirements : List Retirement}
    (hregistry : ∀ retirement ∈ retirements, ∀ read ∈ retirement.stage.registry,
      ∀ session ∈ s.sessions, read.finds session = true ∨ s.Current session.generation ∨
        s.admitting = some (session.generation, true))
    (hqueue : ∀ retirement ∈ retirements, ∀ live ∈ retirement.stage.queueLive,
      ∀ id ∈ s.inUse, live id = true ∨ s.Current id) :
    Accounts { s with retirements := retirements } where
  counts := h.counts
  held := h.held
  workers := h.workers
  pending := h.pending
  replaced := h.replaced
  stillWorkers := h.stillWorkers
  stillPaused := h.stillPaused
  stillSessions := h.stillSessions
  stillAdmission := h.stillAdmission
  registryRead := hregistry
  queueRead := hqueue

theorem Accounts.begun (h : s.Accounts) (caller : RetireCaller) :
    Accounts { s with retirements := s.retirements ++ [⟨caller, .begun⟩] } := by
  apply h.retiring
  · intro retirement hmem read hof
    rcases List.mem_append.mp hmem with hmem | hnew
    · exact h.registryRead retirement hmem read hof
    · cases List.mem_singleton.mp hnew
      cases hof
  · intro retirement hmem live hlive
    rcases List.mem_append.mp hmem with hmem | hnew
    · exact h.queueRead retirement hmem live hlive
    · cases List.mem_singleton.mp hnew
      cases hlive

theorem Accounts.unregister (h : s.Accounts) (hstep : s.step (.unregister connection) = some s') :
    s'.Accounts := by
  obtain ⟨hadmits, hdone⟩ := Option.ite_none_right_eq_some.mp hstep
  cases hdone
  have hmoving : ¬ s.reload.still = true := by
    rw [admits_not_still hadmits]
    nofun
  have hremoved : Accounts { s with
      sessions := s.sessions.filter (·.connection ≠ connection)
      ended := s.ended ++ s.sessions.filter (·.connection = connection) } := by
    refine h.moved rfl rfl rfl rfl h.counts ?_ h.workers retiring_same ?_ (absurd · hmoving) ?_
    · intro id hid
      left
      rcases mem_inUse.mp hid with hid | hid | hid | ⟨session, hsession, rfl⟩ | hid
      · exact mem_inUse.mpr (.inl hid)
      · exact mem_inUse.mpr (.inr (.inl hid))
      · exact mem_inUse.mpr (.inr (.inr (.inl hid)))
      · exact mem_inUse.mpr
          (.inr (.inr (.inr (.inl ⟨session, List.mem_of_mem_filter hsession, rfl⟩))))
      · exact mem_inUse.mpr (.inr (.inr (.inr (.inr hid))))
    · intro session hsession
      exact h.pending session (List.mem_of_mem_filter hsession)
    · intro retirement hmem read hof session hsession
      exact h.registryRead retirement hmem read hof session (List.mem_of_mem_filter hsession)
  exact hremoved.begun .session

theorem Accounts.retireBegins (h : s.Accounts) (hstep : s.step .retireBegins = some s') :
    s'.Accounts := by
  obtain ⟨-, hdone⟩ := Option.ite_none_right_eq_some.mp hstep
  cases hdone
  exact h.begun .loop

theorem Accounts.retireReadsRegistry (h : s.Accounts)
    (hstep : s.step (.retireReadsRegistry i) = some s') : s'.Accounts := by
  obtain ⟨retirement, hretirement, hstep⟩ := Option.bind_eq_some_iff.mp hstep
  split at hstep
  · cases hstep
    apply h.retiring
    · intro other hmem read hof session hsession
      rcases List.mem_or_eq_of_mem_set hmem with hmem | rfl
      · exact h.registryRead other hmem read hof session hsession
      · cases hof
        left
        unfold RegistryRead.finds
        simp [List.mem_map_of_mem (f := Session.connection) hsession]
    · intro other hmem live hlive
      rcases List.mem_or_eq_of_mem_set hmem with hmem | rfl
      · exact h.queueRead other hmem live hlive
      · cases hlive
  · cases hstep

theorem finds_entry {read : RegistryRead} {entries : List Session} {session : Session}
    (hsession : session ∈ entries) (hfound : read.finds session = true) :
    (read.entry connection entries).finds session = true := by
  unfold RegistryRead.finds at hfound ⊢
  unfold RegistryRead.entry
  by_cases hconnection : session.connection = connection
  · have hread : (entries.any fun other =>
        other.connection = connection ∧ other.generation = session.generation) = true :=
      List.any_eq_true.mpr ⟨session, hsession, decide_eq_true ⟨hconnection, rfl⟩⟩
    exact Bool.or_eq_true_iff.mpr (.inr (Bool.or_eq_true_iff.mpr (.inr hread)))
  · rcases Bool.or_eq_true_iff.mp hfound with hunread | hlive
    · have hstays : session.connection ∈ read.unread.filter (· ≠ connection) :=
        List.mem_filter.mpr ⟨of_decide_eq_true hunread, decide_eq_true hconnection⟩
      simp only [hstays, decide_true, Bool.true_or]
    · simp [hlive]

theorem Accounts.retireReadsEntry (h : s.Accounts)
    (hstep : s.step (.retireReadsEntry i connection) = some s') : s'.Accounts := by
  obtain ⟨retirement, hretirement, hstep⟩ := Option.bind_eq_some_iff.mp hstep
  split at hstep
  · next read hstage =>
    obtain ⟨-, hdone⟩ := Option.ite_none_right_eq_some.mp hstep
    cases hdone
    have hof : read ∈ retirement.stage.registry := by
      rw [hstage]
      rfl
    apply h.retiring
    · intro other hmem read' hof' session hsession
      rcases List.mem_or_eq_of_mem_set hmem with hmem | rfl
      · exact h.registryRead other hmem read' hof' session hsession
      · cases hof'
        exact (h.registryRead retirement (List.mem_of_getElem? hretirement) read hof session
          hsession).imp_left (finds_entry (List.mem_append_left _ hsession))
    · intro other hmem live hlive
      rcases List.mem_or_eq_of_mem_set hmem with hmem | rfl
      · exact h.queueRead other hmem live hlive
      · cases hlive
  · cases hstep

theorem Accounts.counted (h : s.Accounts)
    (hid : id ∈ s.acceptQueue ∨ ∃ registered, s.admitting = some (id, registered)) :
    s.queuedAccepts.generationIds id = true := by
  have hcount := h.counts id
  have hpositive : s.queuedAccepts id ≠ 0 := by
    rcases hid with hqueue | ⟨registered, hadmitting⟩
    · have hone := List.count_pos_iff.mpr hqueue
      omega
    · rw [hadmitting] at hcount
      simp at hcount
      omega
  simpa [QueuedAcceptTracker.generationIds] using hpositive

theorem Accounts.retireReadsQueue (h : s.Accounts)
    (hsettled : (TopologyStep.retireReadsQueue i).settled s = true)
    (hstep : s.step (.retireReadsQueue i) = some s') : s'.Accounts := by
  obtain ⟨retirement, hretirement, hstep⟩ := Option.bind_eq_some_iff.mp hstep
  have hmem : retirement ∈ s.retirements := List.mem_of_getElem? hretirement
  split at hstep
  · next live hstage =>
    cases hstep
    have hof : ⟨[], live⟩ ∈ retirement.stage.registry := by
      rw [hstage]
      rfl
    have hlisteners : ∀ worker ∈ s.workers, worker.retiring = true → ∀ id,
        id = worker.generation ∨ worker.accepted = some id →
        (live id || s.queuedAccepts.generationIds id) = true ∨ s.Current id := by
      intro worker hworker hretiring id hid
      have hall := hsettled
      unfold TopologyStep.settled at hall
      dsimp only at hall
      rw [hretirement, Option.all_some, hstage] at hall
      have hthis := List.all_eq_true.mp hall worker hworker
      rw [hretiring, Bool.not_true, Bool.false_or] at hthis
      have hone := List.all_eq_true.mp hthis id (by
        rcases hid with rfl | hid
        · exact .head _
        · rw [hid]
          exact .tail _ (.head _))
      rcases Bool.or_eq_true_iff.mp hone with hone | hone
      · exact .inl hone
      · exact .inr (of_decide_eq_true hone)
    apply h.retiring
    · intro other hother read hread
      rcases List.mem_or_eq_of_mem_set hother with hother | rfl
      · exact h.registryRead other hother read hread
      · cases hread
    · intro other hother live' hlive' id hid
      rcases List.mem_or_eq_of_mem_set hother with hother | rfl
      · exact h.queueRead other hother live' hlive' id hid
      · cases hlive'
        have hcounted : s.queuedAccepts.generationIds id = true →
            (live id || s.queuedAccepts.generationIds id) = true := fun hcount =>
          Bool.or_eq_true_iff.mpr (.inr hcount)
        rcases mem_inUse.mp hid with ⟨worker, hworker, haccepted⟩ | hid | hid |
          ⟨session, hsession, rfl⟩ | ⟨worker, hworker, hretiring, rfl⟩
        · cases hretiring : worker.retiring with
          | true => exact hlisteners worker hworker hretiring id (.inr haccepted)
          | false => exact .inr ((h.workers worker hworker hretiring).2 id haccepted)
        · exact .inl (hcounted (h.counted (.inl hid)))
        · exact .inl (hcounted (h.counted (.inr hid)))
        · rcases h.registryRead retirement hmem _ hof session hsession with hfound | hcur | hadm
          · exact .inl (Bool.or_eq_true_iff.mpr (.inl hfound))
          · exact .inr hcur
          · exact .inl (hcounted (h.counted (.inr ⟨true, hadm⟩)))
        · exact hlisteners worker hworker hretiring _ (.inl rfl)
  · cases hstep

end Steps

end TopologyState

namespace TopologyState

section Commits

variable {s s' : TopologyState}

/-- A turn of the reload that publishes nothing; the listeners that stay pause or resume. -/
theorem Accounts.turned (h : s.Accounts) (hbefore : s.reload.isCommitted = false)
    (hafter : reload.isCommitted = false)
    (hworkers : ∀ worker ∈ workers, ∃ old ∈ s.workers, worker.generation = old.generation ∧
      worker.retiring = old.retiring ∧ worker.accepted = old.accepted)
    (hreplaced : reload.replacing = false → ∀ worker ∈ workers, worker.retiring = false)
    (hstill : reload.still = true → (∀ worker ∈ workers, worker.accepted = none) ∧
      (∀ worker ∈ workers, worker.paused = true) ∧
      (∀ session ∈ s.sessions, session.pending = none) ∧
      ∀ admitting ∈ s.admitting, admitting.2 = false) :
    Accounts { s with workers := workers, reload := reload } := by
  have htarget : TopologyState.target { s with workers := workers, reload := reload } = s.target := by
    rw [target_eq hbefore]
    exact target_eq (s := { s with workers := workers, reload := reload }) hafter
  have hcurrent : ∀ id, TopologyState.Current { s with workers := workers, reload := reload } id ↔
      s.Current id := by
    intro id
    unfold Current
    rw [htarget]
  have huse : ∀ id ∈ TopologyState.inUse { s with workers := workers, reload := reload },
      id ∈ s.inUse := by
    intro id hid
    rcases mem_inUse.mp hid with ⟨worker, hworker, haccepted⟩ | hid | hid | hid |
      ⟨worker, hworker, hretiring, rfl⟩
    · obtain ⟨old, hold, -, -, hsame⟩ := hworkers worker hworker
      exact mem_inUse.mpr (.inl ⟨old, hold, hsame.symm.trans haccepted⟩)
    · exact mem_inUse.mpr (.inr (.inl hid))
    · exact mem_inUse.mpr (.inr (.inr (.inl hid)))
    · exact mem_inUse.mpr (.inr (.inr (.inr (.inl hid))))
    · obtain ⟨old, hold, hgeneration, hsame, -⟩ := hworkers worker hworker
      exact mem_inUse.mpr
        (.inr (.inr (.inr (.inr ⟨old, hold, hsame.symm.trans hretiring, hgeneration.symm⟩))))
  constructor
  · exact h.counts
  · intro id hid
    rw [hcurrent]
    exact h.held id (huse id hid)
  · intro worker hworker hserves
    obtain ⟨old, hold, hgeneration, hretiring, haccepted⟩ := hworkers worker hworker
    obtain ⟨htarget', hcur⟩ := h.workers old hold (hretiring.symm.trans hserves)
    rw [htarget, hgeneration, haccepted]
    exact ⟨htarget', fun id hid => (hcurrent id).mpr (hcur id hid)⟩
  · intro session hsession id hid
    exact (hcurrent id).mpr (h.pending session hsession id hid)
  · exact hreplaced
  · exact fun hs => (hstill hs).1
  · exact fun hs _ => (hstill hs).2.1
  · exact fun hs => (hstill hs).2.2.1
  · exact fun hs => (hstill hs).2.2.2
  · intro retirement hmem read hof session hsession
    rw [hcurrent]
    exact h.registryRead retirement hmem read hof session hsession
  · intro retirement hmem live hlive id hid
    rw [hcurrent]
    exact h.queueRead retirement hmem live hlive id (huse id hid)

/-- A generation that is pruned has been missed by nobody, since the retirement has counted all
    that is in use. -/
theorem Accounts.retirePrunes (h : s.Accounts) (hstep : s.step (.retirePrunes i) = some s') :
    s'.Accounts := by
  obtain ⟨retirement, hretirement, hstep⟩ := Option.bind_eq_some_iff.mp hstep
  have hmem : retirement ∈ s.retirements := List.mem_of_getElem? hretirement
  split at hstep
  · next live hstage =>
    cases hstep
    have hlive : live ∈ retirement.stage.queueLive := by
      rw [hstage]
      rfl
    have hpruned : Accounts { s with
        draining := s.draining.filter fun entry => live entry.generationId
        retirements := s.retirements.eraseIdx i } := by
      constructor
      · exact h.counts
      · intro id hid
        rcases h.queueRead retirement hmem live hlive id hid with hfound | hcur
        · rcases h.held id hid with hdraining | hcur
          · obtain ⟨entry, hentry, rfl⟩ := List.mem_map.mp hdraining
            exact .inl (List.mem_map_of_mem (List.mem_filter.mpr ⟨hentry, hfound⟩))
          · exact .inr hcur
        · exact .inr hcur
      · exact h.workers
      · exact h.pending
      · exact h.replaced
      · exact h.stillWorkers
      · exact h.stillPaused
      · exact h.stillSessions
      · exact h.stillAdmission
      · intro other hother
        exact h.registryRead other (List.mem_of_mem_eraseIdx hother)
      · intro other hother
        exact h.queueRead other (List.mem_of_mem_eraseIdx hother)
    by_cases hreload : retirement.caller = .reload ∧ s.reload = .finishing
    · rw [if_pos hreload]
      refine hpruned.turned (by rw [hreload.2]; rfl) rfl ?_ ?_ nofun
      · exact fun worker hworker => ⟨worker, hworker, rfl, rfl, rfl⟩
      · exact fun _ => h.replaced (by rw [hreload.2]; rfl)
    · rw [if_neg hreload]
      exact hpruned
  · cases hstep

theorem Accounts.prepareReload (h : s.Accounts) {changed : Bool}
    (hstep : s.step (.prepareReload changed) = some s') : s'.Accounts := by
  obtain ⟨hidle, hdone⟩ := Option.ite_none_right_eq_some.mp hstep
  cases hdone
  have hturned : Accounts { s with
      workers := s.workers
      reload := .prepared (if changed then some s.nextGenerationId else none) } :=
    h.turned (by rw [hidle]; rfl) rfl (fun worker hworker => ⟨worker, hworker, rfl, rfl, rfl⟩)
      (fun _ => h.replaced (by rw [hidle]; rfl)) nofun
  exact ⟨hturned.counts, hturned.held, hturned.workers, hturned.pending, hturned.replaced,
    hturned.stillWorkers, hturned.stillPaused, hturned.stillSessions, hturned.stillAdmission,
    hturned.registryRead, hturned.queueRead⟩

theorem Accounts.freeze (h : s.Accounts) (hstep : s.step .freeze = some s') : s'.Accounts := by
  dsimp only [TopologyState.step] at hstep
  split at hstep
  · next candidate hreload =>
    obtain ⟨hquiet, hdone⟩ := Option.ite_none_right_eq_some.mp hstep
    cases hdone
    obtain ⟨hquiescent, hsessions⟩ := Bool.and_eq_true_iff.mp hquiet
    unfold quiescent at hquiescent
    obtain ⟨hrest, haccepted⟩ := Bool.and_eq_true_iff.mp hquiescent
    obtain ⟨hadmitting, -⟩ := Bool.and_eq_true_iff.mp hrest
    apply h.turned (by rw [hreload]; rfl) rfl
    · intro worker hworker
      obtain ⟨old, hold, rfl⟩ := List.mem_map.mp hworker
      exact ⟨old, hold, rfl, rfl, rfl⟩
    · intro _ worker hworker
      obtain ⟨old, hold, rfl⟩ := List.mem_map.mp hworker
      exact h.replaced (by rw [hreload]; rfl) old hold
    · intro _
      refine ⟨?_, ?_, ?_, ?_⟩
      · intro worker hworker
        obtain ⟨old, hold, rfl⟩ := List.mem_map.mp hworker
        exact Option.isNone_iff_eq_none.mp (List.all_eq_true.mp haccepted old hold)
      · intro worker hworker
        obtain ⟨old, hold, rfl⟩ := List.mem_map.mp hworker
        rfl
      · intro session hsession
        exact Option.isNone_iff_eq_none.mp (List.all_eq_true.mp hsessions session hsession)
      · intro admitting hadm
        rw [Option.mem_def.mp hadm] at hadmitting
        simpa using hadmitting
  · cases hstep

theorem Accounts.resumed (h : s.Accounts) (hbefore : s.reload.isCommitted = false)
    (hafter : reload.still = false)
    (hreplaced : reload.replacing = false → s.reload.replacing = false) : Accounts { s with
      reload := reload
      workers := s.workers.map fun worker => { worker with paused := false } } := by
  refine h.turned hbefore (isCommitted_of_still hafter) ?_ ?_ ?_
  · intro worker hworker
    obtain ⟨old, hold, rfl⟩ := List.mem_map.mp hworker
    exact ⟨old, hold, rfl, rfl, rfl⟩
  · intro hnone worker hworker
    obtain ⟨old, hold, rfl⟩ := List.mem_map.mp hworker
    exact h.replaced (hreplaced hnone) old hold
  · intro hstill
    cases hafter.symm.trans hstill

theorem Accounts.abort (h : s.Accounts) (hstep : s.step .abort = some s') : s'.Accounts := by
  dsimp only [TopologyState.step] at hstep
  split at hstep
  · next candidate hreload =>
    cases hstep
    exact h.resumed (by rw [hreload]; rfl) rfl fun _ => by rw [hreload]; rfl
  · next candidate hreload =>
    cases hstep
    exact h.resumed (by rw [hreload]; rfl) rfl fun _ => by rw [hreload]; rfl
  · cases hstep

theorem Accounts.resume (h : s.Accounts) (hstep : s.step .resume = some s') : s'.Accounts := by
  obtain ⟨hpublished, hdone⟩ := Option.ite_none_right_eq_some.mp hstep
  cases hdone
  exact h.resumed (by rw [hpublished]; rfl) rfl nofun

theorem Accounts.finishCommittedReload (h : s.Accounts)
    (hstep : s.step .finishCommittedReload = some s') : s'.Accounts := by
  obtain ⟨⟨hresumed, -⟩, hdone⟩ := Option.ite_none_right_eq_some.mp hstep
  cases hdone
  have hturned : Accounts { s with
      workers := s.workers.filter fun worker => !worker.retiring
      reload := .finishing } := by
    refine h.turned (by rw [hresumed]; rfl) rfl ?_ ?_ nofun
    · intro worker hworker
      exact ⟨worker, List.mem_of_mem_filter hworker, rfl, rfl, rfl⟩
    · intro _ worker hworker
      simpa using (List.mem_filter.mp hworker).2
  exact hturned.begun .reload

/-- The listeners after the resources of a new generation are installed: nobody has accepted, those
    that serve hand out the candidate, and those that were replaced the active generation. -/
theorem Accounts.committedWorkers (h : s.Accounts) {candidate : GenerationId}
    (hfrozen : s.reload = .frozen (some candidate))
    (hworker : worker ∈ (s.commitGeneration candidate reused bound drainDeadlineMs).workers) :
    worker.accepted = none ∧ (worker.retiring = false ∧ worker.generation = candidate ∨
      worker.retiring = true ∧ worker.generation = s.active ∧
        s.workers.all (reused ·.transport) = false) := by
  have hstill : s.reload.still = true := by
    rw [hfrozen]
    rfl
  have hcommitted : s.reload.isCommitted = false := by
    rw [hfrozen]
    rfl
  rcases List.mem_append.mp hworker with hmapped | hnew
  · obtain ⟨old, hold, rfl⟩ := List.mem_map.mp hmapped
    have hserves : old.retiring = false := h.replaced (by rw [hfrozen]; rfl) old hold
    have hnone := h.stillWorkers hstill old hold
    have hgeneration := (h.workers old hold hserves).1
    rw [target_eq hcommitted] at hgeneration
    split
    · exact ⟨hnone, .inl ⟨hserves, rfl⟩⟩
    · next hreplaced =>
      refine ⟨hnone, .inr ⟨rfl, hgeneration, ?_⟩⟩
      rw [← Bool.not_eq_true, List.all_eq_true]
      exact fun hall => hreplaced (hall old hold)
  · obtain ⟨transport, -, rfl⟩ := List.mem_map.mp hnew
    exact ⟨rfl, .inl ⟨rfl, rfl⟩⟩

theorem Accounts.commitGeneration (h : s.Accounts) {candidate : GenerationId}
    (hfrozen : s.reload = .frozen (some candidate))
    (hsettled : (TopologyStep.commitGenerationResources reused bound drainDeadlineMs).settled s =
      true) : (s.commitGeneration candidate reused bound drainDeadlineMs).Accounts := by
  have hstill : s.reload.still = true := by
    rw [hfrozen]
    rfl
  have hcommitted : s.reload.isCommitted = false := by
    rw [hfrozen]
    rfl
  have huse : ∀ id ∈ (s.commitGeneration candidate reused bound drainDeadlineMs).inUse,
      id ∈ s.inUse ∨ id = s.active ∧ s.workers.all (reused ·.transport) = false := by
    intro id hid
    rcases mem_inUse.mp hid with ⟨worker, hworker, haccepted⟩ | hid | hid | hid |
      ⟨worker, hworker, hretiring, rfl⟩
    · cases (h.committedWorkers hfrozen hworker).1.symm.trans haccepted
    · exact .inl (mem_inUse.mpr (.inr (.inl hid)))
    · exact .inl (mem_inUse.mpr (.inr (.inr (.inl hid))))
    · exact .inl (mem_inUse.mpr (.inr (.inr (.inr (.inl hid)))))
    · rcases (h.committedWorkers hfrozen hworker).2 with ⟨hserves, -⟩ | ⟨-, hgeneration, hreplaced⟩
      · cases hserves.symm.trans hretiring
      · exact .inr ⟨hgeneration, hreplaced⟩
  have hactive : s.active ∈
      (s.commitGeneration candidate reused bound drainDeadlineMs).drainingIds := by
    unfold drainingIds TopologyState.commitGeneration
    simp
  have hdraining : ∀ id ∈ s.drainingIds,
      id ∈ (s.commitGeneration candidate reused bound drainDeadlineMs).drainingIds := by
    intro id hid
    obtain ⟨entry, hentry, rfl⟩ := List.mem_map.mp hid
    exact List.mem_map_of_mem (List.mem_append_left _ hentry)
  have hmissed : ∀ retirement ∈ s.retirements,
      (∀ read ∈ retirement.stage.registry, ∀ session ∈ s.sessions,
        session.generation = s.active → read.finds session = true) ∧
      ∀ live ∈ retirement.stage.queueLive, live s.active = true ∨
        (∀ id ∈ s.inUse, id ≠ s.active) ∧ s.workers.all (reused ·.transport) = true := by
    intro retirement hmem
    obtain ⟨hregistry, hqueue⟩ := Bool.and_eq_true_iff.mp (List.all_eq_true.mp hsettled _ hmem)
    refine ⟨fun read hof session hsession hactive => ?_, fun live hlive => ?_⟩
    · rw [Option.mem_def.mp hof] at hregistry
      have hone := List.all_eq_true.mp hregistry session hsession
      simpa [hactive] using hone
    · rw [Option.mem_def.mp hlive] at hqueue
      simpa using hqueue
  constructor
  · exact h.counts
  · intro id hid
    left
    rcases huse id hid with hused | ⟨rfl, -⟩
    · rcases h.held id hused with hheld | ⟨rfl, -⟩
      · exact hdraining id hheld
      · exact hactive
    · exact hactive
  · intro worker hworker hserves
    obtain ⟨hnone, hkind⟩ := h.committedWorkers hfrozen hworker
    rcases hkind with ⟨-, hgeneration⟩ | ⟨hretiring, -⟩
    · refine ⟨hgeneration, ?_⟩
      rw [hnone]
      nofun
    · cases hserves.symm.trans hretiring
  · intro session hsession
    rw [show session.pending = none from h.stillSessions hstill session hsession]
    nofun
  · nofun
  · exact fun _ worker hworker => (h.committedWorkers hfrozen hworker).1
  · nofun
  · exact fun _ => h.stillSessions hstill
  · exact fun _ => h.stillAdmission hstill
  · intro retirement hmem read hof session hsession
    rcases h.registryRead retirement hmem read hof session hsession with hfound | ⟨hcur, -⟩ | hadm
    · exact .inl hfound
    · exact .inl ((hmissed retirement hmem).1 read hof session hsession hcur)
    · exact .inr (.inr hadm)
  · intro retirement hmem live hlive id hid
    left
    rcases (hmissed retirement hmem).2 live hlive with hfound | ⟨hnone, hall⟩
    · rcases huse id hid with hused | ⟨rfl, -⟩
      · rcases h.queueRead retirement hmem live hlive id hused with hlive | ⟨rfl, -⟩
        · exact hlive
        · exact hfound
      · exact hfound
    · rcases huse id hid with hused | ⟨-, hreplaced⟩
      · rcases h.queueRead retirement hmem live hlive id hused with hlive | ⟨hcur, -⟩
        · exact hlive
        · exact absurd hcur (hnone id hused)
      · cases hall.symm.trans hreplaced

theorem Accounts.commitGenerationResources (h : s.Accounts)
    (hsettled : (TopologyStep.commitGenerationResources reused bound drainDeadlineMs).settled s =
      true) (hstep : s.step (.commitGenerationResources reused bound drainDeadlineMs) = some s') :
    s'.Accounts := by
  dsimp only [TopologyState.step] at hstep
  split at hstep
  · next hfrozen =>
    cases hstep
    have hstill : s.reload.still = true := by
      rw [hfrozen]
      rfl
    have htarget : s.target = s.active := target_eq (by rw [hfrozen]; rfl)
    have hcurrent : ∀ id, s.Current id → TopologyState.Current { s with
        reload := .committed s.active } id := fun id hid => ⟨hid.1, hid.1⟩
    constructor
    · exact h.counts
    · exact fun id hid => (h.held id hid).imp_right (hcurrent id)
    · intro worker hworker hserves
      obtain ⟨hgeneration, haccepted⟩ := h.workers worker hworker hserves
      exact ⟨hgeneration.trans htarget, fun id hid => hcurrent id (haccepted id hid)⟩
    · exact fun session hsession id hid => hcurrent id (h.pending session hsession id hid)
    · nofun
    · exact fun _ => h.stillWorkers hstill
    · nofun
    · exact fun _ => h.stillSessions hstill
    · exact fun _ => h.stillAdmission hstill
    · intro retirement hmem read hof session hsession
      exact (h.registryRead retirement hmem read hof session hsession).imp_right
        (Or.imp_left (hcurrent _))
    · intro retirement hmem live hlive id hid
      exact (h.queueRead retirement hmem live hlive id hid).imp_right (hcurrent id)
  · next candidate hfrozen =>
    cases hstep
    exact h.commitGeneration hfrozen hsettled
  · cases hstep

theorem Accounts.publish (h : s.Accounts) (hstep : s.step .publish = some s') : s'.Accounts := by
  dsimp only [TopologyState.step] at hstep
  split at hstep
  · next target hcommitted =>
    cases hstep
    have hstill : s.reload.still = true := by
      rw [hcommitted]
      rfl
    have htarget : s.target = target := by
      unfold TopologyState.target
      rw [hcommitted]
    have hcurrent : ∀ id, s.Current id → TopologyState.Current { s with
        active := target
        sessions := s.sessions.map fun session => { session with pending := some target }
        reload := .published } id := fun id hid => ⟨hid.2.trans htarget, hid.2.trans htarget⟩
    have huse : ∀ id ∈ TopologyState.inUse { s with
        active := target
        sessions := s.sessions.map fun session => { session with pending := some target }
        reload := .published }, id ∈ s.inUse := by
      intro id hid
      rcases mem_inUse.mp hid with hid | hid | hid | ⟨mapped, hmapped, rfl⟩ | hid
      · exact mem_inUse.mpr (.inl hid)
      · exact mem_inUse.mpr (.inr (.inl hid))
      · exact mem_inUse.mpr (.inr (.inr (.inl hid)))
      · obtain ⟨session, hsession, rfl⟩ := List.mem_map.mp hmapped
        exact mem_inUse.mpr (.inr (.inr (.inr (.inl ⟨session, hsession, rfl⟩))))
      · exact mem_inUse.mpr (.inr (.inr (.inr (.inr hid))))
    constructor
    · exact h.counts
    · exact fun id hid => (h.held id (huse id hid)).imp_right (hcurrent id)
    · intro worker hworker hserves
      obtain ⟨hgeneration, haccepted⟩ := h.workers worker hworker hserves
      exact ⟨hgeneration.trans htarget, fun id hid => hcurrent id (haccepted id hid)⟩
    · intro mapped hmapped id hid
      obtain ⟨session, hsession, rfl⟩ := List.mem_map.mp hmapped
      cases hid
      exact ⟨rfl, rfl⟩
    · nofun
    · nofun
    · nofun
    · nofun
    · nofun
    · intro retirement hmem read hof mapped hmapped
      obtain ⟨session, hsession, rfl⟩ := List.mem_map.mp hmapped
      exact (h.registryRead retirement hmem read hof session hsession).imp_right
        (Or.imp_left (hcurrent _))
    · intro retirement hmem live hlive id hid
      exact (h.queueRead retirement hmem live hlive id (huse id hid)).imp_right (hcurrent id)
  · cases hstep

theorem Accounts.handedOff {queuedBedrockPeers : Nat}
    (hsessions : ∀ session ∈ s.sessions, session.generation = s.active) :
    (s.handedOff queuedBedrockPeers).Accounts where
  counts := by
    intro id
    show (if id = s.active then queuedBedrockPeers else 0) =
      (List.replicate queuedBedrockPeers s.active).count id + 0
    rw [List.count_replicate]
    by_cases hid : id = s.active
    · simp [hid]
    · simp [hid, Ne.symm hid]
  held := by
    intro id hid
    right
    rcases mem_inUse.mp hid with ⟨worker, hworker, haccepted⟩ | hid | ⟨registered, hid⟩ |
      ⟨mapped, hmapped, rfl⟩ | ⟨worker, hworker, hretiring, -⟩
    · obtain ⟨old, -, rfl⟩ := List.mem_map.mp hworker
      cases haccepted
    · cases List.eq_of_mem_replicate hid
      exact ⟨rfl, rfl⟩
    · cases hid
    · obtain ⟨session, hsession, rfl⟩ := List.mem_map.mp hmapped
      exact ⟨hsessions session hsession, hsessions session hsession⟩
    · obtain ⟨old, -, rfl⟩ := List.mem_map.mp hworker
      cases hretiring
  workers := by
    intro worker hworker _
    obtain ⟨old, -, rfl⟩ := List.mem_map.mp hworker
    exact ⟨rfl, nofun⟩
  pending := by
    intro mapped hmapped
    obtain ⟨session, -, rfl⟩ := List.mem_map.mp hmapped
    nofun
  replaced := by
    intro _ worker hworker
    obtain ⟨old, -, rfl⟩ := List.mem_map.mp hworker
    rfl
  stillWorkers := nofun
  stillPaused := nofun
  stillSessions := nofun
  stillAdmission := nofun
  registryRead := nofun
  queueRead := nofun

theorem Accounts.handOff {queuedBedrockPeers : Nat}
    (hsettled : (TopologyStep.handOff queuedBedrockPeers).settled s = true)
    (hstep : s.step (.handOff queuedBedrockPeers) = some s') : s'.Accounts := by
  obtain ⟨-, hdone⟩ := Option.ite_none_right_eq_some.mp hstep
  cases hdone
  apply Accounts.handedOff
  intro session hsession
  simpa using List.all_eq_true.mp hsettled session hsession

theorem Accounts.step (h : s.Accounts) {step : TopologyStep} (hsettled : step.settled s = true)
    (hstep : s.step step = some s') : s'.Accounts := by
  cases step with
  | accept worker => exact h.accept hsettled hstep
  | track worker => exact h.track hstep
  | receiveAccepted => exact h.receiveAccepted hstep
  | admission nowMs refused => exact h.admission hstep
  | admitted => exact h.admitted hsettled hstep
  | sessionActivates connection => exact h.sessionActivates hstep
  | sessionStops connection => exact h.sessionStops hstep
  | unregister connection => exact h.unregister hstep
  | retireBegins => exact h.retireBegins hstep
  | retireReadsRegistry retirement => exact h.retireReadsRegistry hstep
  | retireReadsEntry retirement connection => exact h.retireReadsEntry hstep
  | retireReadsQueue retirement => exact h.retireReadsQueue hsettled hstep
  | retirePrunes retirement => exact h.retirePrunes hstep
  | prepareReload changed => exact h.prepareReload hstep
  | freeze => exact h.freeze hstep
  | abort => exact h.abort hstep
  | commitGenerationResources reused bound drainDeadlineMs =>
    exact h.commitGenerationResources hsettled hstep
  | publish => exact h.publish hstep
  | resume => exact h.resume hstep
  | finishCommittedReload => exact h.finishCommittedReload hstep
  | handOff queuedBedrockPeers => exact Accounts.handOff hsettled hstep

theorem Accounts.run (h : s.Accounts) {steps : List TopologyStep}
    (halong : Steps.Along TopologyState.step (fun s step => step.settled s = true) s steps)
    (hrun : s.run steps = some s') : s'.Accounts :=
  Steps.run_keeps (fun _ _ _ h hsettled hstep => h.step hsettled hstep) h halong hrun

end Commits

end TopologyState

/-! ### Every generation in use is known -/

end RevyCraft.Generations
