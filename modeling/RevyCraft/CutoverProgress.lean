/-
  RevyCraft/CutoverProgress.lean
  ==============================
  **What a committed reload does to the progress of a session** — the pending
  phase is built when the session prepares, and installed as it is.

  Between preparing and sealing the session goes on.  The reload only sees a
  change of its directory entry, which hides the state of a login: a session
  that starts or ends its authentication in between is put back.  Where no
  session does, the installed phase is the one that the candidate has for the
  phase at the moment of sealing.

  The argument is about any relation between an active phase and its pending
  state that holds when the session prepares and that the steps which the
  directory does not show keep (`Keeps`).
-/
import RevyCraft.CutoverOutcome

namespace RevyCraft.Cutover

/-! ### What the directory shows -/

/-- A phase as the directory compares it: a gameplay profile is its object. -/
def SessionDirectoryPhase.shown : SessionDirectoryPhase → SessionDirectoryPhase
  | .play adapterId playerId entityId gameplay capabilities =>
    .play adapterId playerId entityId ⟨gameplay.object, "", [], none⟩ capabilities
  | phase => phase

def SessionDirectoryEntry.shown (entry : SessionDirectoryEntry) : SessionDirectoryEntry :=
  { entry with phase := entry.phase.shown }

theorem samePhase_iff (phase other : SessionDirectoryPhase) :
    phase.sameProjection other = true ↔ phase.shown = other.shown := by
  cases phase <;> cases other <;>
    simp [SessionDirectoryPhase.sameProjection, SessionDirectoryPhase.shown, and_assoc]

theorem sameProjection_iff (entry other : SessionDirectoryEntry) :
    entry.sameProjection other = true ↔ entry.shown = other.shown := by
  unfold SessionDirectoryEntry.sameProjection SessionDirectoryEntry.shown
  simp [samePhase_iff, and_assoc]

theorem publishDirectory_cases (actor : SessionActor) (revision : Nat) (phase : SessionPhase) :
    phase.directoryEntry.shown = actor.entry.shown ∧
        actor.publishDirectory revision phase = (actor, revision) ∨
      (actor.publishDirectory revision phase).1.entry = phase.directoryEntry ∧
        (actor.publishDirectory revision phase).2 = revision + 1 := by
  unfold SessionActor.publishDirectory
  split
  · next hsame => exact .inl ⟨((sameProjection_iff _ _).mp hsame).symm, rfl⟩
  · exact .inr ⟨rfl, rfl⟩

theorem publishDirectory_shown (actor : SessionActor) (revision : Nat) (phase : SessionPhase) :
    (actor.publishDirectory revision phase).1.entry.shown = phase.directoryEntry.shown := by
  rcases publishDirectory_cases actor revision phase with ⟨hsame, hnext⟩ | ⟨hentry, -⟩
  · rw [hnext, hsame]
  · rw [hentry]

/-! ### The progress of a session -/

/-- A phase without its generation and its bindings. -/
inductive SessionProgress where
  | handshaking
  | status
  | negotiating
  | authenticating (challenge : LoginChallenge)
  | accepted (playerId : PlayerId) (entityId : EntityId)
  | play (playerId : PlayerId) (entityId : EntityId)
  | closing (phase : ConnectionPhase)
  deriving DecidableEq

def SessionPhase.progress : SessionPhase → SessionProgress
  | .handshaking _ => .handshaking
  | .status _ => .status
  | .login (.negotiating _) => .negotiating
  | .login (.authenticating _ challenge) => .authenticating challenge
  | .login (.acceptedWritePending _ playerId entityId) => .accepted playerId entityId
  | .play _ playerId entityId => .play playerId entityId
  | .closing _ _ phase => .closing phase

section Build

variable {active pending : SessionPhase} {candidate : RuntimeEpoch}

theorem build_progress (h : buildCandidateSessionPhase active candidate = some pending) :
    pending.progress = active.progress := by
  cases active with
  | handshaking generation =>
    cases h
    rfl
  | closing generationId transport phase =>
    cases h
    rfl
  | login session =>
    cases session with
    | negotiating binding | authenticating binding challenge
    | acceptedWritePending binding playerId entityId =>
      obtain ⟨binding, -, rfl⟩ := Option.map_eq_some_iff.mp h
      rfl
  | status binding | play binding playerId entityId =>
    obtain ⟨binding, -, rfl⟩ := Option.map_eq_some_iff.mp h
    rfl

theorem candidateBinding_congr {binding other : BoundSession} (entityId : Option EntityId)
    (hadapter : binding.adapter.adapterId = other.adapter.adapterId)
    (htransport : binding.transport = other.transport) :
    candidateBinding candidate binding entityId = candidateBinding candidate other entityId := by
  unfold candidateBinding
  rw [hadapter, htransport]

def SessionDirectoryPhase.adapterId : SessionDirectoryPhase → Option String
  | .status adapterId => some adapterId
  | .login adapterId => some adapterId
  | .play adapterId _ _ _ _ => some adapterId
  | _ => none

theorem shown_adapterId (phase : SessionDirectoryPhase) : phase.shown.adapterId = phase.adapterId := by
  cases phase <;> rfl

/-- The candidate's phase depends on what the directory shows, and on the progress. -/
theorem build_congr {other : SessionPhase}
    (hshown : active.directoryEntry.shown = other.directoryEntry.shown)
    (hprogress : active.progress = other.progress) (candidate : RuntimeEpoch) :
    buildCandidateSessionPhase active candidate = buildCandidateSessionPhase other candidate := by
  have htransport : active.transport = other.transport := congrArg (·.transport) hshown
  have hadapter : active.directoryEntry.phase.adapterId = other.directoryEntry.phase.adapterId := by
    have hphase := congrArg (·.phase.adapterId) hshown
    exact (shown_adapterId _).symm.trans (hphase.trans (shown_adapterId _))
  have hbinding : ∀ {binding binding' : BoundSession} (entityId : Option EntityId),
      some binding.adapter.adapterId = some binding'.adapter.adapterId →
      binding.transport = binding'.transport →
      candidateBinding candidate binding entityId = candidateBinding candidate binding' entityId :=
    fun entityId hadapter htransport =>
      candidateBinding_congr entityId (Option.some.inj hadapter) htransport
  cases active with
  | handshaking generation =>
    cases other with
    | handshaking _ => rfl
    | login session => cases session <;> cases hprogress
    | _ => cases hprogress
  | status binding =>
    cases other with
    | status _ => exact congrArg (Option.map _) (hbinding none hadapter htransport)
    | login session => cases session <;> cases hprogress
    | _ => cases hprogress
  | login session =>
    cases session with
    | negotiating binding =>
      cases other with
      | login session' =>
        cases session' with
        | negotiating _ => exact congrArg (Option.map _) (hbinding none hadapter htransport)
        | _ => cases hprogress
      | _ => cases hprogress
    | authenticating binding challenge =>
      cases other with
      | login session' =>
        cases session' with
        | authenticating _ _ =>
          cases hprogress
          exact congrArg (Option.map _) (hbinding none hadapter htransport)
        | _ => cases hprogress
      | _ => cases hprogress
    | acceptedWritePending binding playerId entityId =>
      cases other with
      | login session' =>
        cases session' with
        | acceptedWritePending _ _ _ =>
          cases hprogress
          exact congrArg (Option.map _) (hbinding (some entityId) hadapter htransport)
        | _ => cases hprogress
      | _ => cases hprogress
  | play binding playerId entityId =>
    cases other with
    | play _ _ _ =>
      cases hprogress
      exact congrArg (Option.map _) (hbinding (some entityId) hadapter htransport)
    | login session => cases session <;> cases hprogress
    | _ => cases hprogress
  | closing generationId transport phase =>
    cases other with
    | closing _ _ _ =>
      cases hprogress
      cases htransport
      rfl
    | login session => cases session <;> cases hprogress
    | _ => cases hprogress

end Build

/-! ### Messages -/

variable {events : List CoreEvent} {works : List Bool}

section Outgoing

variable {encoders : Encoders}

def isPlayEvent : CoreEvent → Bool
  | .loginAccepted _ _ _ => false
  | .disconnect _ => false
  | _ => true

theorem outgoing_play_cons (encoders : Encoders) (binding : BoundSession) (playerId : PlayerId)
    (entityId : EntityId) (unsent : List WireFrame) (event : CoreEvent) (rest : List CoreEvent)
    (works : List Bool)
    (h : (handleOutgoingEvents encoders (.play binding playerId entityId) unsent (event :: rest)
      works).2.2 = .goesOn) :
    isPlayEvent event = true ∧
      handleOutgoingEvents encoders (.play binding playerId entityId) unsent (event :: rest) works =
        handleOutgoingEvents encoders (.play binding playerId entityId)
          (unsent ++ binding.encodePlayEvent encoders playerId entityId event) rest works.tail := by
  cases event with
  | loginAccepted player entity snapshot => cases h
  | disconnect reason =>
    simp only [handleOutgoingEvents] at h
    split at h <;> cases h
  | _ =>
    refine ⟨rfl, ?_⟩
    simp only [handleOutgoingEvents] at h ⊢
    split at h
    · next hworks => rw [if_pos hworks]
    · cases h

theorem outgoing_play {binding : BoundSession} {playerId : PlayerId} {entityId : EntityId}
    {unsent : List WireFrame}
    (h : (handleOutgoingEvents encoders (.play binding playerId entityId) unsent events
      works).2.2 = .goesOn) : (∀ event ∈ events, isPlayEvent event = true) ∧
    handleOutgoingEvents encoders (.play binding playerId entityId) unsent events works =
      (.play binding playerId entityId,
        unsent ++ events.flatMap (binding.encodePlayEvent encoders playerId entityId), .goesOn) := by
  induction events generalizing unsent works with
  | nil =>
    refine ⟨fun event hmem => by simp at hmem, ?_⟩
    rw [handleOutgoingEvents] at h ⊢
    split
    · next hempty => simp [List.isEmpty_iff.mp hempty]
    · next hsome =>
      rw [if_neg hsome] at h
      split at h
      · next hworks =>
        rw [if_pos hworks, List.flatMap_nil, List.append_nil]
      · cases h
  | cons event rest ih =>
    obtain ⟨hplay, hcons⟩ := outgoing_play_cons encoders binding playerId entityId unsent event rest
      works h
    rw [hcons] at h
    obtain ⟨hrest, hresult⟩ := ih h
    refine ⟨List.forall_mem_cons.mpr ⟨hplay, hrest⟩, ?_⟩
    rw [hcons, hresult, List.flatMap_cons, List.append_assoc]

theorem outgoing_login {session : SessionPhase}
    (hsession : ∀ binding playerId entityId, session ≠ .play binding playerId entityId)
    (h : (handleOutgoingEvents encoders session [] events works).2.2 = .goesOn) :
    events = [] ∧ handleOutgoingEvents encoders session [] events works = (session, [], .goesOn) ∨
      ∃ login playerId entityId player rest success,
        session = .login login ∧ events = .loginAccepted playerId entityId player :: rest ∧
        (∀ event ∈ rest, isPlayEvent event = true) ∧
        handleOutgoingEvents encoders session [] events works =
          (.play (login.binding.withEntityId entityId) playerId entityId,
            ⟨false, success⟩ :: rest.flatMap
              ((login.binding.withEntityId entityId).encodePlayEvent encoders playerId entityId),
            .goesOn) := by
  cases events with
  | nil =>
    left
    refine ⟨rfl, ?_⟩
    rw [handleOutgoingEvents]
    rfl
  | cons event rest =>
    right
    cases session with
    | handshaking generation => cases h
    | closing generationId transport phase => cases h
    | play binding playerId entityId => exact (hsession _ _ _ rfl).elim
    | status binding =>
      cases event with
      | disconnect reason =>
        simp only [handleOutgoingEvents] at h
        split at h <;> cases h
      | _ => cases h
    | login login =>
      cases event with
      | loginAccepted playerId entityId player =>
        simp only [handleOutgoingEvents] at h
        split at h
        · next hworks =>
          obtain ⟨hrest, hresult⟩ := outgoing_play h
          refine ⟨login, playerId, entityId, player, rest, encoders.loginSuccess
            login.binding.adapter.adapterId login.binding.adapter.pluginGenerationId player, rfl, rfl,
            hrest, ?_⟩
          simp only [handleOutgoingEvents]
          rw [if_pos hworks, hresult]
          rfl
        · cases h
      | disconnect reason =>
        simp only [handleOutgoingEvents] at h
        split at h <;> cases h
      | _ => cases h

theorem outgoing_phase {session : SessionPhase}
    (h : (handleOutgoingEvents encoders session [] events works).2.2 = .goesOn) :
    (handleOutgoingEvents encoders session [] events works).1 = session ∨
      (handleOutgoingEvents encoders session [] events works).1.directoryEntry.shown ≠
        session.directoryEntry.shown := by
  by_cases hplay : ∃ binding playerId entityId, session = .play binding playerId entityId
  · obtain ⟨binding, playerId, entityId, rfl⟩ := hplay
    rw [(outgoing_play h).2]
    exact .inl rfl
  · have hplay : ∀ binding playerId entityId, session ≠ .play binding playerId entityId :=
      fun binding playerId entityId heq => hplay ⟨binding, playerId, entityId, heq⟩
    rcases outgoing_login hplay h with
      ⟨-, hresult⟩ | ⟨login, playerId, entityId, player, rest, success, rfl, -, -, hresult⟩
    · rw [hresult]
      exact .inl rfl
    · rw [hresult]
      right
      intro hshown
      cases congrArg (·.phase) hshown

end Outgoing

/-! ### Pending states that are up to date -/

/-- The active phase of a session that has prepared or is frozen, and its pending state. -/
def SessionLifecycle.pending : SessionLifecycle → Option (SessionPhase × PendingSessionState)
  | .cutoverPrepared _ active pending => some (active, pending)
  | .transferFrozen _ active pending => some (active, pending)
  | _ => none

/-- What is sealed next is what has been prepared for the session. -/
def ReloadStage.Trusts (stage : ReloadStage) (revision connection : Nat) : Prop :=
  match stage with
  | .preparing _ mark fan => ¬ fan.Waits connection ∧ revision = mark
  | .prepared mark => revision = mark
  | .freezing mark => revision = mark
  | .frozen mark => revision = mark
  | .sealing _ _ _ => True
  | .sealed => True
  | _ => False

/-- No session is in an operation. -/
def ReloadStage.still : ReloadStage → Bool
  | .frozen _ => true
  | .sealing _ _ _ => true
  | .sealed => true
  | _ => false

section Fresh

variable (R : RuntimeEpoch → SessionPhase → PendingSessionState → Prop)

/-- The pending state for an epoch is related to the active phase, as far as the directory shows
    that phase. -/
def Fresh (epoch : RuntimeEpoch) (actor : SessionActor) : Prop :=
  ∀ active pending, actor.lifecycle.pending = some (active, pending) →
    pending.epochRevision = epoch.revision →
    active.directoryEntry.shown = actor.entry.shown → R epoch active pending

structure Faithful (connection : Nat) (server : RuntimeServer) (actor : SessionActor) : Prop where
  projected : ∀ phase, actor.busy = false → actor.lifecycle.active = some phase →
    phase.directoryEntry.shown = actor.entry.shown
  frozen : ∀ epochRevision active pending,
    actor.lifecycle = .transferFrozen epochRevision active pending → actor.busy = false
  still : ∀ reload, server.reload = some reload → reload.stage.still = true → actor.busy = false
  committed : Fresh R server.active actor
  prepared : ∀ reload, server.reload = some reload →
    reload.stage.Trusts server.revision connection → Fresh R reload.candidate actor

/-- What a relation between an active phase and its pending state has to keep, for one session and
    for the steps that meet a condition. -/
structure Keeps (encoders : Encoders) (connection : Nat)
    (P : RuntimeServer → CutoverStep → Prop) : Prop where
  frame : ∀ {server : RuntimeServer} {actor : SessionActor} {reload : Reload}
    {frame : IncomingFrame} {calls : FrameCalls} {epochRevision : Nat} {active : SessionPhase}
    {pending : PendingSessionState},
    P server (.frame connection frame calls) → server.session connection = some actor →
    server.reload = some reload → reload.stage.Trusts server.revision connection →
    actor.lifecycle = .cutoverPrepared epochRevision active pending →
    (handleIncomingFrame server.active calls active frame).1.directoryEntry.shown =
      active.directoryEntry.shown →
    R reload.candidate active pending →
    R reload.candidate (handleIncomingFrame server.active calls active frame).1 pending
  prepare : ∀ {server : RuntimeServer} {actor : SessionActor} {calls : ControlCalls}
    {candidate : RuntimeEpoch} {resyncEvents : List CoreEvent} {forceResync : Bool}
    {active : SessionPhase} {pending : PendingSessionState},
    P server (.control connection calls) → server.session connection = some actor →
    actor.controls = [.prepareCutover candidate resyncEvents forceResync] →
    pendingFor encoders active candidate resyncEvents forceResync calls = some pending →
    R candidate active pending
  sealed : ∀ {server : RuntimeServer} {actor : SessionActor} {calls : ControlCalls}
    {epoch : RuntimeEpoch} {finalEvents : List CoreEvent} {epochRevision : Nat}
    {active : SessionPhase} {pending : PendingSessionState} {binding : BoundSession}
    {playerId : PlayerId} {entityId : EntityId} {frames : List WireFrame},
    P server (.control connection calls) → server.session connection = some actor →
    actor.controls = [.sealCutover epoch.revision finalEvents] →
    actor.lifecycle = .cutoverPrepared epochRevision active pending →
    binding.encodePlayEvents encoders playerId entityId finalEvents calls.encodes = some frames →
    R epoch active pending →
    R epoch active { pending with resyncFrames := pending.resyncFrames ++ frames }

end Fresh

variable {lifecycle : SessionLifecycle} {phase : SessionPhase} {revision' epochRevision : Nat}
  {pending : PendingSessionState}

section Session

variable {encoders : Encoders} {R : RuntimeEpoch → SessionPhase → PendingSessionState → Prop}
  {epoch K : RuntimeEpoch} {actor : SessionActor} {latch revision : Nat} {a : CutoverStep}
  {next : SessionActor × Nat} {active : SessionPhase} {pending : PendingSessionState}

theorem pending_cases (h : lifecycle.pending = some (active, pending)) :
    ∃ epochRevision, lifecycle = .cutoverPrepared epochRevision active pending ∨
      lifecycle = .transferFrozen epochRevision active pending := by
  cases lifecycle with
  | cutoverPrepared epochRevision _ _ =>
    cases h
    exact ⟨epochRevision, .inl rfl⟩
  | transferFrozen epochRevision _ _ =>
    cases h
    exact ⟨epochRevision, .inr rfl⟩
  | running _ _ => cases h
  | transferred => cases h

theorem withActive_pending (h : (lifecycle.withActive phase).pending = some (active, pending)) :
    (∃ epochRevision before, active = phase ∧
        lifecycle = .cutoverPrepared epochRevision before pending) ∨
      ∃ epochRevision, lifecycle = .transferFrozen epochRevision active pending := by
  cases lifecycle with
  | cutoverPrepared epochRevision before _ =>
    cases h
    exact .inl ⟨epochRevision, before, rfl, rfl⟩
  | transferFrozen epochRevision _ _ =>
    cases h
    exact .inr ⟨epochRevision, rfl⟩
  | running _ _ => cases h
  | transferred => cases h

theorem Activated.pends (h : Activated revision' revision actor next)
    (hpending : next.1.lifecycle.pending = some (active, pending)) : next = (actor, revision) ∧
      ∃ epochRevision, actor.lifecycle = .cutoverPrepared epochRevision active pending := by
  cases h with
  | prepared hlifecycle _ =>
    rw [hlifecycle] at hpending
    cases hpending
    exact ⟨rfl, _, hlifecycle⟩
  | running hlifecycle =>
    dsimp only at hpending
    rw [hlifecycle] at hpending
    cases hpending
  | frozen _ _ _ => cases hpending

theorem Activated.not_frozen (h : Activated revision' revision actor next) :
    next.1.lifecycle ≠ .transferFrozen epochRevision active pending := by
  intro hfrozen
  obtain ⟨rfl, _, hprepared⟩ := h.pends (by rw [hfrozen]; rfl)
  cases hprepared.symm.trans hfrozen

/-- An activation leaves the entry of a session that has prepared or runs, and publishes the phase
    that it installs. -/
theorem Activated.projected (h : Activated revision' revision actor next)
    (hbefore : ∀ phase, actor.lifecycle.active = some phase →
      phase.directoryEntry.shown = actor.entry.shown)
    (hactive : next.1.lifecycle.active = some phase) :
    phase.directoryEntry.shown = next.1.entry.shown := by
  cases h with
  | prepared _ _ | running _ => exact hbefore phase hactive
  | frozen _ _ _ =>
    cases hactive
    exact (publishDirectory_shown _ _ _).symm

theorem Fresh.of_same {actor' : SessionActor} (h : Fresh R K actor)
    (hlifecycle : actor'.lifecycle = actor.lifecycle) (hentry : actor'.entry = actor.entry) :
    Fresh R K actor' := by
  unfold Fresh
  rw [hlifecycle, hentry]
  exact h

/-- A step of its own keeps a pending state up to date: a frame that the directory does not show is
    one that the relation keeps, and a message always shows. -/
theorem Moves.fresh (h : Moves encoders epoch latch revision actor a next)
    (hfresh : Fresh R K actor)
    (hprojected : (∃ connection frame calls, a = .frame connection frame calls) ∨
        (∃ connection works, a = .message connection works) →
      ∀ phase, actor.lifecycle.active = some phase →
        phase.directoryEntry.shown = actor.entry.shown)
    (hframe : ∀ connection frame calls epochRevision active pending,
      a = .frame connection frame calls →
      actor.lifecycle = .cutoverPrepared epochRevision active pending →
      pending.epochRevision = K.revision →
      (handleIncomingFrame epoch calls active frame).1.directoryEntry.shown =
        active.directoryEntry.shown →
      R K active pending → R K (handleIncomingFrame epoch calls active frame).1 pending)
    (hpublish : actor.busy = true → ∀ active pending,
      actor.lifecycle.pending = some (active, pending) →
      pending.epochRevision = K.revision → next.2 = revision) : Fresh R K next.1 := by
  cases h with
  | @frame connection frame calls before phase hactivated hactive =>
    intro active pending hpending hrevision hshown
    dsimp only at hpending hshown
    rcases withActive_pending hpending with ⟨_, known, rfl, hprepared⟩ | ⟨_, hfrozen⟩
    · obtain ⟨rfl, -⟩ := hactivated.pends (by rw [hprepared]; rfl)
      rw [hprepared] at hactive
      cases hactive
      have hbefore := hprojected (.inl ⟨connection, frame, calls, rfl⟩) phase
        (by rw [hprepared]; rfl)
      exact hframe connection frame calls _ phase pending rfl hprepared hrevision
        (hshown.trans hbefore.symm) (hfresh phase pending (by rw [hprepared]; rfl) hrevision hbefore)
    · exact (hactivated.not_frozen hfrozen).elim
  | @message connection works message rest before phase queued hactivated hactive hgoesOn =>
    intro active pending hpending hrevision hshown
    dsimp only at hpending hshown
    rcases withActive_pending hpending with ⟨_, known, rfl, hprepared⟩ | ⟨_, hfrozen⟩
    · obtain ⟨rfl, -⟩ := hactivated.pends (by rw [hprepared]; rfl)
      rw [hprepared] at hactive
      cases hactive
      have hbefore := hprojected (.inr ⟨connection, works, rfl⟩) phase (by rw [hprepared]; rfl)
      rcases outgoing_phase hgoesOn with hsame | hother
      · rw [hsame]
        exact hfresh phase pending (by rw [hprepared]; rfl) hrevision hbefore
      · exact (hother (hshown.trans hbefore.symm)).elim
    · exact (hactivated.not_frozen hfrozen).elim
  | enter hactivated =>
    intro active pending hpending
    obtain ⟨rfl, -⟩ := hactivated.pends hpending
    exact hfresh active pending hpending
  | @publish _ phase hbusy hactive =>
    intro active pending hpending hrevision hshown
    rw [publishDirectory_lifecycle] at hpending
    have hsame := hpublish hbusy active pending hpending hrevision
    rcases publishDirectory_cases { actor with busy := false } revision phase with
      ⟨-, hnothing⟩ | ⟨-, hlater⟩
    · rw [hnothing] at hshown
      exact hfresh active pending hpending hrevision hshown
    · omega
  | transferred _ _ | dispatch | write _ => exact hfresh.of_same rfl rfl
  | wake hlifecycle hactivated =>
    intro active pending hpending
    obtain ⟨-, _, hprepared⟩ := hactivated.pends hpending
    cases hlifecycle.symm.trans hprepared
  | sleep _ _ => exact hfresh.of_same rfl rfl

theorem Moves.projected (h : Moves encoders epoch latch revision actor a next)
    (hbefore : ∀ phase, actor.busy = false → actor.lifecycle.active = some phase →
      phase.directoryEntry.shown = actor.entry.shown)
    (hentered : (∃ connection, a = .enter connection ∨ a = .observe connection) →
      actor.busy = false) (hbusy : next.1.busy = false)
    (hactive : next.1.lifecycle.active = some phase) :
    phase.directoryEntry.shown = next.1.entry.shown := by
  cases h with
  | frame _ _ => cases hbusy
  | message _ _ _ _ => cases hbusy
  | @enter connection _ hactivated =>
    exact hactivated.projected (fun phase => hbefore phase (hentered ⟨connection, .inl rfl⟩)) hactive
  | publish _ hphase =>
    rw [publishDirectory_lifecycle] at hactive
    cases hphase.symm.trans hactive
    exact (publishDirectory_shown _ _ _).symm
  | transferred _ hnone => cases hnone.symm.trans hactive
  | dispatch | write _ => exact hbefore phase hbusy hactive
  | @wake connection _ _ _ _ _ hactivated =>
    exact hactivated.projected (fun phase => hbefore phase (hentered ⟨connection, .inr rfl⟩)) hactive
  | sleep _ _ => exact hbefore phase hbusy hactive

theorem Activated.busy (h : Activated revision' revision actor next) :
    next.1.busy = actor.busy := by
  cases h <;> simp

/-- A step of its own makes a session busy only where it handles a frame or a message. -/
theorem Moves.busy (h : Moves encoders epoch latch revision actor a next)
    (hnot : ¬ ((∃ connection frame calls, a = .frame connection frame calls) ∨
      ∃ connection works, a = .message connection works))
    (hbusy : actor.busy = false) : next.1.busy = false := by
  cases h with
  | frame _ _ => exact (hnot (.inl ⟨_, _, _, rfl⟩)).elim
  | message _ _ _ _ => exact (hnot (.inr ⟨_, _, rfl⟩)).elim
  | enter hactivated => exact hactivated.busy.trans hbusy
  | publish _ _ => simp
  | transferred _ _ => rfl
  | dispatch => exact hbusy
  | write _ => exact hbusy
  | wake _ hactivated => exact hactivated.busy.trans hbusy
  | sleep _ _ => exact hbusy

theorem Moves.frozen (h : Moves encoders epoch latch revision actor a next)
    (hbefore : ∀ epochRevision active pending,
      actor.lifecycle = .transferFrozen epochRevision active pending → actor.busy = false)
    (hfrozen : next.1.lifecycle = .transferFrozen epochRevision active pending) :
    next.1.busy = false := by
  cases h with
  | frame hactivated _ | message _ hactivated _ _ =>
    rcases withActive_pending (congrArg SessionLifecycle.pending hfrozen) with
      ⟨_, _, -, hprepared⟩ | ⟨_, hother⟩
    · dsimp only at hfrozen
      rw [hprepared] at hfrozen
      cases hfrozen
    · exact (hactivated.not_frozen hother).elim
  | enter hactivated => exact (hactivated.not_frozen hfrozen).elim
  | publish _ _ => simp
  | transferred _ _ => rfl
  | dispatch | write _ => exact hbefore _ _ _ hfrozen
  | wake _ hactivated => exact (hactivated.not_frozen hfrozen).elim
  | sleep _ _ => exact hbefore _ _ _ hfrozen

end Session

section Stages

variable {encoders : Encoders} {server server' : RuntimeServer} {connection : Nat}
  {actor : SessionActor} {reload reload' : Reload} {a : CutoverStep}

theorem Orderly.trusts_later (h : Orderly server) (hreload : server.reload = some reload)
    {later : Nat} (hle : server.revision ≤ later)
    (htrusts : reload.stage.Trusts later connection) :
    reload.stage.Trusts server.revision connection ∧
      (reload.stage.still = true ∨ later = server.revision) := by
  have hmark : ∀ mark, reload.stage.mark = some mark → later = mark → later = server.revision := by
    intro mark hsome heq
    have := h.mark reload mark hreload hsome
    omega
  cases hstage : reload.stage with
  | preparing attempt mark fan =>
    rw [hstage] at htrusts
    have hsame := hmark mark (by rw [hstage]; rfl) htrusts.2
    exact ⟨⟨htrusts.1, hsame ▸ htrusts.2⟩, .inr hsame⟩
  | prepared mark | freezing mark | frozen mark =>
    rw [hstage] at htrusts
    have hsame := hmark mark (by rw [hstage]; rfl) htrusts
    exact ⟨hsame.symm.trans htrusts, .inr hsame⟩
  | sealing _ _ _ | sealed => exact ⟨trivial, .inl rfl⟩
  | _ =>
    rw [hstage] at htrusts
    cases htrusts

theorem withFan_trusts {stage : ReloadStage} {fan fan' : FanOut} {revision : Nat}
    (hfan : stage.fan = some fan) (hwaits : fan'.Waits connection ↔ fan.Waits connection) :
    (stage.withFan fan').Trusts revision connection ↔ stage.Trusts revision connection := by
  cases stage with
  | preparing attempt mark current =>
    cases hfan
    exact and_congr_left' (not_congr hwaits)
  | sealing _ _ _ => exact Iff.rfl
  | aborting _ => exact Iff.rfl
  | _ => cases hfan

theorem withFan_still (stage : ReloadStage) (fan : FanOut) :
    (stage.withFan fan).still = stage.still := by
  cases stage <;> rfl

/-- Where a stage is trusted after a step of the registry, the stage before was, for the same
    candidate, at the same revision. -/
theorem trusts_stage (hsession : server.session connection = some actor)
    (hrunning : actor.stage = .running) (hstage : RuntimeServer.stageStep a = true)
    (hstep : server.step encoders a = some server') (hreload : server'.reload = some reload')
    (htrusts : reload'.stage.Trusts server'.revision connection) :
    ∃ reload, server.reload = some reload ∧ reload'.candidate = reload.candidate ∧
      reload.stage.Trusts server.revision connection := by
  have hfresh : ¬ ¬ (FanOut.new server.registered).Waits connection := fun hnot =>
    hnot (.inl (registered_of_running hsession hrunning))
  cases a with
  | commit events =>
    cases hstep
    exact ⟨reload', hreload, rfl, htrusts⟩
  | stage candidate forceResync =>
    obtain ⟨-, ⟨⟩⟩ := Option.ite_none_right_eq_some.mp hstep
    cases hreload
    cases htrusts
  | finish =>
    obtain ⟨reload, hbefore, hstep⟩ := Option.bind_eq_some_iff.mp hstep
    obtain ⟨fan, hfan, hstep⟩ := Option.bind_eq_some_iff.mp hstep
    obtain ⟨hdone, hstep⟩ := Option.ite_none_left_eq_some.mp hstep
    obtain ⟨current, hcurrent, hknown⟩ := RuntimeServer.fan_eq_some hfan
    cases hcurrent.symm.trans hbefore
    obtain ⟨hunsent, hsent⟩ := done_iff.mp (by simpa using hdone)
    have hwaits : ¬ fan.Waits connection := by
      unfold FanOut.Waits
      rw [hunsent, hsent]
      simp
    split at hstep
    · next attempt mark known hpreparing =>
      rw [hpreparing] at hknown
      cases hknown
      split at hstep
      · cases hstep
        cases hreload
        cases htrusts
      · split at hstep
        · next hmark =>
          cases hstep
          cases hreload
          refine ⟨reload, hbefore, rfl, ?_⟩
          rw [hpreparing]
          exact ⟨hwaits, htrusts⟩
        · split at hstep
          · cases hstep
            cases hreload
            cases htrusts
          · cases hstep
            cases hreload
            exact (hfresh htrusts.1).elim
    · next mark events known hsealing =>
      split at hstep
      · cases hstep
        cases hreload
        cases htrusts
      · cases hstep
        cases hreload
        refine ⟨reload, hbefore, rfl, ?_⟩
        rw [hsealing]
        trivial
    · cases hstep
      cases hreload
    · cases hstep
  | prepare =>
    obtain ⟨reload, hbefore, hstep⟩ := Option.bind_eq_some_iff.mp hstep
    split at hstep
    · cases hstep
      cases hreload
      exact (hfresh htrusts.1).elim
    · cases hstep
  | close =>
    obtain ⟨reload, hbefore, hstep⟩ := Option.bind_eq_some_iff.mp hstep
    split at hstep
    · next mark hprepared =>
      cases hstep
      cases hreload
      refine ⟨reload, hbefore, rfl, ?_⟩
      rw [hprepared]
      exact htrusts
    · cases hstep
  | freeze =>
    obtain ⟨reload, hbefore, hstep⟩ := Option.bind_eq_some_iff.mp hstep
    split at hstep
    · next mark hfreezing =>
      obtain ⟨-, ⟨⟩⟩ := Option.ite_none_right_eq_some.mp hstep
      cases hreload
      refine ⟨reload, hbefore, rfl, ?_⟩
      rw [hfreezing]
      exact htrusts
    · cases hstep
  | sealCutover =>
    obtain ⟨reload, hbefore, hstep⟩ := Option.bind_eq_some_iff.mp hstep
    split at hstep
    · next mark events hfrozen hjournal =>
      split at hstep
      · next hmark =>
        cases hstep
        cases hreload
        refine ⟨reload, hbefore, rfl, ?_⟩
        rw [hfrozen]
        exact hmark
      · cases hstep
        cases hreload
        cases htrusts
    · cases hstep
  | publishEpoch =>
    obtain ⟨reload, hbefore, hstep⟩ := Option.bind_eq_some_iff.mp hstep
    split at hstep
    · cases hstep
      cases hreload
      cases htrusts
    · cases hstep
  | stageFails | freezeFails | resume | activateEpoch =>
    obtain ⟨reload, hbefore, hstep⟩ := Option.bind_eq_some_iff.mp hstep
    split at hstep
    · cases hstep
      cases hreload
      try cases htrusts
    · cases hstep
  | _ => cases hstage

theorem Orderly.still_stage (hsession : server.session connection = some actor)
    (hstage : RuntimeServer.stageStep a = true)
    (hstep : server.step encoders a = some server') (hreload : server'.reload = some reload')
    (hstill : reload'.stage.still = true) :
    actor.busy = false ∨
      ∃ reload, server.reload = some reload ∧ reload.stage.still = true := by
  cases a with
  | commit events =>
    cases hstep
    exact .inr ⟨reload', hreload, hstill⟩
  | stage candidate forceResync =>
    obtain ⟨-, ⟨⟩⟩ := Option.ite_none_right_eq_some.mp hstep
    cases hreload
    cases hstill
  | finish =>
    obtain ⟨reload, hbefore, hstep⟩ := Option.bind_eq_some_iff.mp hstep
    obtain ⟨fan, hfan, hstep⟩ := Option.bind_eq_some_iff.mp hstep
    obtain ⟨hdone, hstep⟩ := Option.ite_none_left_eq_some.mp hstep
    split at hstep
    · split at hstep
      · cases hstep
        cases hreload
        cases hstill
      · split at hstep
        · cases hstep
          cases hreload
          cases hstill
        · split at hstep <;>
          · cases hstep
            cases hreload
            cases hstill
    · next mark events known hsealing => exact .inr ⟨reload, hbefore, by rw [hsealing]; rfl⟩
    · cases hstep
      cases hreload
    · cases hstep
  | freeze =>
    obtain ⟨reload, hbefore, hstep⟩ := Option.bind_eq_some_iff.mp hstep
    split at hstep
    · obtain ⟨hidle, -⟩ := Option.ite_none_right_eq_some.mp hstep
      left
      have hmem : actor ∈ server.sessions := List.mem_of_getElem? hsession
      simpa using List.all_eq_true.mp hidle actor hmem
    · cases hstep
  | sealCutover =>
    obtain ⟨reload, hbefore, hstep⟩ := Option.bind_eq_some_iff.mp hstep
    split at hstep
    · next mark events hfrozen hjournal => exact .inr ⟨reload, hbefore, by rw [hfrozen]; rfl⟩
    · cases hstep
  | stageFails | prepare | close | freezeFails | publishEpoch | resume | activateEpoch =>
    obtain ⟨reload, hbefore, hstep⟩ := Option.bind_eq_some_iff.mp hstep
    split at hstep
    · cases hstep
      cases hreload
      try cases hstill
    · cases hstep
  | _ => cases hstage

end Stages

section Faithful

variable {encoders : Encoders} {R : RuntimeEpoch → SessionPhase → PendingSessionState → Prop}
  {P : RuntimeServer → CutoverStep → Prop} {server server' : RuntimeServer} {connection : Nat}
  {actor actor' : SessionActor} {a : CutoverStep}

/-- The reload after a step that is not its own, for a session that does not answer a control. -/
theorem reload_step {reload' : Reload} (hstep : server.step encoders a = some server')
    (hstage : RuntimeServer.stageStep a = false) (hnot : ∀ calls, a ≠ .control connection calls)
    (hsession : server'.session connection = some actor') (hrunning : actor'.stage = .running)
    (hreload : server'.reload = some reload') :
    ∃ reload, server.reload = some reload ∧ reload'.candidate = reload.candidate ∧
      reload'.stage.still = reload.stage.still ∧ reload'.stage.closed = reload.stage.closed ∧
      ∀ revision, reload'.stage.Trusts revision connection →
        reload.stage.Trusts revision connection := by
  -- the answer of another session
  have hanswered : ∀ (before : RuntimeServer) target works, target ≠ connection →
      before.reload = server.reload → server' = before.answered target works →
      ∃ reload, server.reload = some reload ∧ reload'.candidate = reload.candidate ∧
        reload'.stage.still = reload.stage.still ∧ reload'.stage.closed = reload.stage.closed ∧
        ∀ revision, reload'.stage.Trusts revision connection →
          reload.stage.Trusts revision connection := by
    rintro before target works hne hsame rfl
    rcases RuntimeServer.answered_cases before target works with
      ⟨hnone, -⟩ | ⟨reload, fan, hbefore, hfan, -, hnext⟩
    · rw [hnone, hsame] at hreload
      exact ⟨reload', hreload, rfl, rfl, rfl, fun _ => id⟩
    · rw [hnext] at hreload
      cases hreload
      exact ⟨reload, hsame.symm.trans hbefore, rfl, withFan_still _ _, withFan_closed _ _,
        fun _ => (withFan_trusts hfan (waits_answer works hne.symm)).mp⟩
  cases hown : RuntimeServer.ownStep a with
  | some target =>
    obtain ⟨before, next, -, rfl, -⟩ := RuntimeServer.own_step hown hstep
    exact ⟨reload', hreload, rfl, rfl, rfl, fun _ => id⟩
  | none =>
    cases a with
    | spawn phase =>
      obtain ⟨-, ⟨⟩⟩ := Option.ite_none_right_eq_some.mp hstep
      exact ⟨reload', hreload, rfl, rfl, rfl, fun _ => id⟩
    | remove target =>
      obtain ⟨before, hbefore, hstep⟩ := Option.bind_eq_some_iff.mp hstep
      obtain ⟨-, hnext⟩ := Option.ite_none_right_eq_some.mp hstep
      refine hanswered (server.update target _) target false ?_ rfl (Option.some.inj hnext).symm
      rintro rfl
      cases hnext
      unfold RuntimeServer.session at hsession
      rw [(RuntimeServer.answered_sessions _ _ _).1] at hsession
      rcases RuntimeServer.session_update hsession with ⟨-, rfl⟩ | ⟨hne, -⟩
      · cases hrunning
      · exact hne rfl
    | control target calls =>
      obtain ⟨before, control, rest, next, -, -, -, -, hnext, -⟩ := RuntimeServer.control_step hstep
      refine hanswered (server.update target next) target _ ?_ rfl hnext
      rintro rfl
      exact hnot calls rfl
    | send target resyncEvents =>
      obtain ⟨reload, fan, before, control, hbefore, hfan, hknown, hunsent, -,
        ⟨hremoved, rfl⟩ | ⟨-, rfl⟩⟩ := RuntimeServer.send_step hstep
      · cases hreload
        refine ⟨reload, hbefore, rfl, withFan_still _ _, withFan_closed _ _, fun _ =>
          (withFan_trusts hfan (waits_skip _ ?_)).mp⟩
        rintro rfl
        cases hknown.symm.trans hsession
        rw [hremoved] at hrunning
        cases hrunning
      · cases hreload
        exact ⟨reload, hbefore, rfl, withFan_still _ _, withFan_closed _ _, fun _ =>
          (withFan_trusts hfan (waits_send hunsent)).mp⟩
    | _ => simp [RuntimeServer.ownStep, RuntimeServer.stageStep] at hown hstage

theorem Faithful.new (epochRevision latch : Nat) (phase : SessionPhase) :
    Faithful R connection server (.new epochRevision latch phase) where
  projected := by
    rintro phase - ⟨⟩
    rfl
  frozen := by
    intro _ _ _ hfrozen
    cases hfrozen
  still := fun _ _ _ => rfl
  committed := by
    intro _ _ hpending
    cases hpending
  prepared := by
    intro _ _ _ _ _ hpending
    cases hpending

/-- A step of the registry leaves the session; publishing the epoch commits what was prepared. -/
theorem Faithful.stage (h : Faithful R connection server actor)
    (hsession : server.session connection = some actor) (hrunning : actor.stage = .running)
    (hstage : RuntimeServer.stageStep a = true) (hstep : server.step encoders a = some server') :
    Faithful R connection server' actor where
  projected := h.projected
  frozen := h.frozen
  still := by
    intro reload' hreload hstill
    rcases Orderly.still_stage hsession hstage hstep hreload hstill with
      hidle | ⟨reload, hbefore, hbefore'⟩
    · exact hidle
    · exact h.still reload hbefore hbefore'
  committed := by
    by_cases hpublish : a = .publishEpoch
    · subst hpublish
      obtain ⟨reload, hreload, hstep⟩ := Option.bind_eq_some_iff.mp hstep
      split at hstep
      · next hsealed =>
        cases hstep
        exact h.prepared reload hreload (by rw [hsealed]; trivial)
      · cases hstep
    · rw [RuntimeServer.active_step hstep hpublish]
      exact h.committed
  prepared := by
    intro reload' hreload htrusts
    obtain ⟨reload, hbefore, hcandidate, hbefore'⟩ :=
      trusts_stage hsession hrunning hstage hstep hreload htrusts
    rw [hcandidate]
    exact h.prepared reload hbefore hbefore'

theorem Orderly.pending_later (h : Orderly server)
    (hsession : server.session connection = some actor) (hrunning : actor.stage = .running)
    {active : SessionPhase}
    (hprepared : actor.lifecycle = .cutoverPrepared epochRevision active pending) :
    pending.epochRevision ≠ server.active.revision := by
  have hstands := h.stands connection actor hsession hrunning
  have hrests : ¬ Rests server.active.revision actor := by
    intro hrests
    cases hrests with
    | running hother _ | frozen hother _ _ _ => cases hprepared.symm.trans hother
  cases hreload : server.reload with
  | none => exact (hrests (hstands.rests hreload)).elim
  | some reload =>
    have hasks := hstands.asks reload hreload
    cases hcommitted : reload.stage.committed with
    | false =>
      have hlater := (h.pending reload hreload hcommitted).2
      rcases hasks.halfway hcommitted with hother | ⟨_, _, hother | hother, hcandidate⟩
      · exact (hrests hother).elim
      · cases hprepared.symm.trans hother
        omega
      · cases hprepared.symm.trans hother
    | true =>
      cases hstage : reload.stage with
      | published | resumed =>
        rw [hstage] at hasks
        exact (hrests hasks).elim
      | _ =>
        rw [hstage] at hcommitted
        cases hcommitted

end Faithful

section Controlled

variable {encoders : Encoders} {R : RuntimeEpoch → SessionPhase → PendingSessionState → Prop}
  {P : RuntimeServer → CutoverStep → Prop} {server server' : RuntimeServer} {connection : Nat}
  {actor actor' : SessionActor} {calls : ControlCalls} {active revision : Nat}

theorem RuntimeServer.control_session
    (hstep : server.step encoders (.control connection calls) = some server')
    (hsession : server.session connection = some actor)
    (hnext : server'.session connection = some actor') (hrunning : actor'.stage = .running) :
    ∃ control rest, actor.controls = control :: rest ∧ actor.busy = false ∧
      let controlled := ({ actor with controls := rest } : SessionActor).handleSessionControl encoders
        server.active.revision server.revision calls control
      actor' = controlled.actor ∧ server' = (server.update connection
        (controlled.actor, controlled.revision)).answered connection controlled.acknowledged := by
  obtain ⟨before, control, rest, next, hbefore, -, hidle, hcontrols, rfl, -, hresult⟩ :=
    control_step hstep
  cases hbefore.symm.trans hsession
  unfold session at hnext
  rw [(answered_sessions _ _ _).1] at hnext
  rcases session_update hnext with ⟨-, rfl⟩ | ⟨hne, -⟩
  · obtain ⟨-, hcontrolled⟩ := hresult hrunning
    exact ⟨control, rest, hcontrols, hidle, congrArg (·.1) hcontrolled, by rw [hcontrolled]⟩
  · exact (hne rfl).elim

theorem prepare_active (encoders : Encoders) (lifecycle : SessionLifecycle)
    (candidate : RuntimeEpoch) (resyncEvents : List CoreEvent) (forceResync : Bool)
    (calls : ControlCalls) :
    (prepareSessionCutover encoders lifecycle candidate resyncEvents forceResync calls).1.active =
      lifecycle.active := by
  unfold prepareSessionCutover
  cases lifecycle with
  | running epochRevision phase =>
    dsimp only
    split <;> rfl
  | cutoverPrepared activeEpochRevision phase pending =>
    dsimp only
    split
    · split <;> rfl
    · rfl
  | transferFrozen activeEpochRevision phase pending => rfl
  | transferred => rfl

theorem control_prepare_pends {candidate : RuntimeEpoch} {resyncEvents : List CoreEvent}
    {forceResync : Bool} (hlater : active < candidate.revision)
    (h : Rests active actor ∨ Ready active candidate.revision actor)
    (hpending : (actor.handleSessionControl encoders active revision calls
      (.prepareCutover candidate resyncEvents forceResync)).actor.lifecycle.pending =
        some (phase, pending)) :
    pendingFor encoders phase candidate resyncEvents forceResync calls = some pending := by
  obtain ⟨hworks, -, hlifecycle⟩ := prepare_before hlater h revision
  unfold SessionActor.handleSessionControl at hpending
  dsimp only at hpending
  rw [if_pos hworks] at hpending
  dsimp only at hpending
  unfold prepareSessionCutover at hpending
  rcases hlifecycle with ⟨known, hrunning⟩ | ⟨known, old, hprepared, hold⟩
  · rw [hrunning] at hpending
    dsimp only at hpending
    split at hpending
    · next next hnext =>
      cases hpending
      exact hnext
    · cases hpending
  · rw [hprepared] at hpending
    dsimp only at hpending
    rw [if_pos hold] at hpending
    split at hpending
    · next next hnext =>
      cases hpending
      exact hnext
    · cases hpending

theorem control_seal_pends {candidate : Nat} {finalEvents : List CoreEvent}
    (h : Ready active candidate actor)
    (hpending : (actor.handleSessionControl encoders active revision calls
      (.sealCutover candidate finalEvents)).actor.lifecycle.pending = some (phase, pending)) :
    ∃ epochRevision before, actor.lifecycle = .cutoverPrepared epochRevision phase before ∧
      before.epochRevision = candidate ∧
      (pending = before ∨ ∃ (binding : BoundSession) (playerId : PlayerId) (entityId : EntityId)
          (frames : List WireFrame),
        binding.encodePlayEvents encoders playerId entityId finalEvents calls.encodes = some frames ∧
        pending = { before with resyncFrames := before.resyncFrames ++ frames }) := by
  obtain ⟨known, before, hlifecycle, hcandidate⟩ := h.lifecycle
  unfold SessionActor.handleSessionControl at hpending
  dsimp only at hpending
  split at hpending
  · dsimp only at hpending
    rw [hlifecycle] at hpending
    cases hpending
    exact ⟨active, _, hlifecycle, hcandidate, .inl rfl⟩
  · split at hpending
    · dsimp only at hpending
      rw [hlifecycle] at hpending
      cases hpending
      exact ⟨active, _, hlifecycle, hcandidate, .inl rfl⟩
    · dsimp only at hpending
      unfold sealSessionCutover at hpending
      rw [hlifecycle] at hpending
      dsimp only at hpending
      split at hpending
      · cases hpending
        exact ⟨active, _, hlifecycle, hcandidate, .inl rfl⟩
      · split at hpending
        · cases hpending
          exact ⟨active, _, hlifecycle, hcandidate, .inl rfl⟩
        · split at hpending
          · next binding playerId entityId _ =>
            split at hpending
            · next frames hframes =>
              cases hpending
              exact ⟨active, _, hlifecycle, hcandidate,
                .inr ⟨binding, playerId, entityId, frames, hframes, rfl⟩⟩
            · cases hpending
              exact ⟨active, _, hlifecycle, hcandidate, .inl rfl⟩
          · cases hpending
            exact ⟨active, _, hlifecycle, hcandidate, .inl rfl⟩

theorem control_abort_pends {candidate : Nat}
    (hpending : (actor.handleSessionControl encoders active revision calls
      (.abortCutover candidate)).actor.lifecycle.pending = some (phase, pending)) :
    (actor.handleSessionControl encoders active revision calls (.abortCutover candidate)).actor =
      actor := by
  unfold SessionActor.handleSessionControl at hpending ⊢
  dsimp only at hpending ⊢
  split at hpending
  · split at hpending
    · cases hpending
    · next hother => rw [if_neg hother]
  · split at hpending
    · cases hpending
    · next hother => rw [if_neg hother]
  · rfl

/-- A control leaves the active phase of a session and its entry, up to an activation. -/
theorem control_projected {control : SessionControl}
    (hworks : ∀ candidate resyncEvents forceResync,
      control = .prepareCutover candidate resyncEvents forceResync →
      (actor.activateCommittedCutover active revision).2.2 = true)
    (hbefore : ∀ phase, actor.lifecycle.active = some phase →
      phase.directoryEntry.shown = actor.entry.shown)
    (hactive : (actor.handleSessionControl encoders active revision
      calls control).actor.lifecycle.active = some phase) : phase.directoryEntry.shown =
      (actor.handleSessionControl encoders active revision calls control).actor.entry.shown := by
  cases control with
  | prepareCutover candidate resyncEvents forceResync =>
    have hworks := hworks candidate resyncEvents forceResync rfl
    unfold SessionActor.handleSessionControl at hactive ⊢
    dsimp only at hactive ⊢
    rw [if_pos hworks] at hactive ⊢
    dsimp only at hactive ⊢
    rw [prepare_active] at hactive
    exact (activate_ok hworks).projected hbefore hactive
  | sealCutover epochRevision finalEvents =>
    have hsealed : ∀ calls, (sealSessionCutover encoders actor.lifecycle epochRevision finalEvents
        calls).1.active = actor.lifecycle.active := by
      intro calls
      unfold sealSessionCutover
      cases actor.lifecycle with
      | cutoverPrepared activeEpochRevision known pending =>
        dsimp only
        split
        · rfl
        · split
          · rfl
          · split
            · split <;> rfl
            · rfl
      | _ => rfl
    unfold SessionActor.handleSessionControl at hactive ⊢
    dsimp only at hactive ⊢
    split at hactive
    · next hpaused =>
      rw [if_pos hpaused]
      exact hbefore phase hactive
    · next hpaused =>
      rw [if_neg hpaused]
      split at hactive
      · next hfrozen =>
        rw [if_pos hfrozen]
        exact hbefore phase hactive
      · next hfrozen =>
        rw [if_neg hfrozen]
        exact hbefore phase ((hsealed calls).symm.trans hactive)
  | abortCutover epochRevision =>
    unfold SessionActor.handleSessionControl at hactive ⊢
    dsimp only at hactive ⊢
    cases hlifecycle : actor.lifecycle with
    | cutoverPrepared activeEpochRevision known pending
    | transferFrozen activeEpochRevision known pending =>
      rw [hlifecycle] at hactive hbefore
      dsimp only at hactive ⊢
      split at hactive
      · next hsame =>
        rw [if_pos hsame]
        exact hbefore phase hactive
      · next hsame =>
        rw [if_neg hsame]
        dsimp only at hactive ⊢
        rw [hlifecycle] at hactive
        exact hbefore phase hactive
    | _ =>
      rw [hlifecycle] at hactive hbefore
      dsimp only at hactive ⊢
      rw [hlifecycle] at hactive
      exact hbefore phase hactive

end Controlled

section Runs

variable {encoders : Encoders} {R : RuntimeEpoch → SessionPhase → PendingSessionState → Prop}
  {P : RuntimeServer → CutoverStep → Prop} {server server' : RuntimeServer} {connection : Nat}
  {actor actor' : SessionActor} {calls : ControlCalls} {a : CutoverStep}

theorem Faithful.control (hkeeps : Keeps R encoders connection P) (horderly : Orderly server)
    (hP : P server (.control connection calls)) (h : Faithful R connection server actor)
    (hsession : server.session connection = some actor) (hlive : actor.stage = .running)
    (hstep : server.step encoders (.control connection calls) = some server')
    (hnext : server'.session connection = some actor') (hrunning : actor'.stage = .running) :
    Faithful R connection server' actor' := by
  obtain ⟨control, rest, hcontrols, hidle, rfl, hserver⟩ :=
    RuntimeServer.control_session hstep hsession hnext hrunning
  have hstands := horderly.stands connection actor hsession hlive
  obtain ⟨reload, fan, hreload, hfan, hsent, hsends, rfl⟩ := hstands.waiting hcontrols
  have hasks := hstands.asks reload hreload
  have hlives : Lives server.active.revision actor { actor with controls := [] } :=
    .of_same rfl rfl rfl rfl
  have hkept := control_keeps encoders { actor with controls := [] } server.active.revision
    server.revision calls control
  have hbusy := hkept.busy.trans hidle
  have hactive : server'.active = server.active :=
    RuntimeServer.active_step hstep (by intro h; cases h)
  have hlater : reload.stage.committed = false ∧
      server.active.revision < reload.candidate.revision := by
    have hcommitted : reload.stage.committed = false := by
      cases hstage : reload.stage <;> rw [hstage] at hfan <;> first | rfl | cases hfan
    exact ⟨hcommitted, (horderly.pending reload hreload hcommitted).2⟩
  -- the candidate stays
  have hcandidate : ∀ reload', server'.reload = some reload' →
      reload'.candidate = reload.candidate ∧
        ∃ fan', reload'.stage = reload.stage.withFan fan' := by
    intro reload' hreload'
    rw [hserver] at hreload'
    rcases RuntimeServer.answered_cases (server.update connection _) connection _ with
      ⟨hnone, -⟩ | ⟨current, known, hcurrent, -, -, hanswered⟩
    · rw [hnone] at hreload'
      cases hreload.symm.trans hreload'
      refine ⟨rfl, fan, ?_⟩
      cases hstage : reload.stage <;> rw [hstage] at hfan <;> cases hfan <;> rfl
    · rw [hanswered] at hreload'
      cases hreload.symm.trans hcurrent
      cases hreload'
      exact ⟨rfl, _, rfl⟩
  have hprojected : ∀ phase, (({ actor with controls := [] } : SessionActor).handleSessionControl
      encoders server.active.revision server.revision calls control).actor.lifecycle.active =
        some phase → phase.directoryEntry.shown =
      (({ actor with controls := [] } : SessionActor).handleSessionControl encoders
        server.active.revision server.revision calls control).actor.entry.shown := by
    intro phase hphase
    refine control_projected ?_ (fun phase hphase => h.projected phase hidle hphase) hphase
    rintro candidate resyncEvents forceResync rfl
    obtain ⟨target, other, events, hsends⟩ := hsends
    unfold RuntimeServer.nextControl at hsends
    split at hsends
    · next hstage =>
      cases hsends
      rw [hstage] at hasks
      exact (prepare_before hlater.2 (hasks.1.imp hlives.rests (hlives.ready _ hlater.2))
        server.revision).1
    all_goals cases hsends
  refine ⟨fun phase _ hphase => hprojected phase hphase, fun _ _ _ _ => hbusy, fun _ _ _ => hbusy,
    ?_, ?_⟩
  all_goals
    obtain ⟨target, other, resyncEvents, hcontrol⟩ := hsends
    unfold RuntimeServer.nextControl at hcontrol
  · rw [hactive]
    intro active pending hpending hrevision hshown
    cases hstage : reload.stage with
    | preparing attempt mark current =>
      rw [hstage] at hasks hcontrol
      cases hcontrol
      have hnext := control_prepare_pends hlater.2
        (hasks.1.imp hlives.rests (hlives.ready _ hlater.2)) hpending
      have := pendingFor_revision hnext
      omega
    | sealing mark events current =>
      rw [hstage] at hfan hasks hcontrol
      cases hfan
      cases hcontrol
      obtain ⟨_, before, -, hbefore, rfl | ⟨_, _, _, _, -, rfl⟩⟩ := control_seal_pends
        (hlives.ready _ hlater.2 (hasks.2.1 (.inr hsent))) hpending
      · omega
      · dsimp only at hrevision
        omega
    | aborting current =>
      rw [hstage] at hcontrol
      cases hcontrol
      have hsame := control_abort_pends hpending
      rw [hsame] at hpending hshown
      exact h.committed active pending hpending hrevision hshown
    | _ =>
      rw [hstage] at hfan
      cases hfan
  · intro reload' hreload' htrusts
    obtain ⟨hsame, fan', hstage'⟩ := hcandidate reload' hreload'
    rw [hsame]
    intro active pending hpending hrevision hshown
    cases hstage : reload.stage with
    | preparing attempt mark current =>
      rw [hstage] at hasks hcontrol
      cases hcontrol
      exact hkeeps.prepare hP hsession hcontrols (control_prepare_pends hlater.2
        (hasks.1.imp hlives.rests (hlives.ready _ hlater.2)) hpending)
    | sealing mark events current =>
      rw [hstage] at hfan hasks hcontrol
      cases hfan
      cases hcontrol
      obtain ⟨_, before, hlifecycle, hbefore, hpending⟩ := control_seal_pends
        (hlives.ready _ hlater.2 (hasks.2.1 (.inr hsent))) hpending
      have hfresh : R reload.candidate active before := by
        refine h.prepared reload hreload (by rw [hstage]; trivial) active before ?_ hbefore ?_
        · exact congrArg SessionLifecycle.pending hlifecycle
        · exact h.projected active hidle (congrArg SessionLifecycle.active hlifecycle)
      rcases hpending with rfl | ⟨_, _, _, _, hframes, rfl⟩
      · exact hfresh
      · exact hkeeps.sealed hP hsession hcontrols hlifecycle hframes hfresh
    | aborting current =>
      rw [hstage', hstage] at htrusts
      cases htrusts
    | _ =>
      rw [hstage] at hfan
      cases hfan

end Runs

section Stepped

variable {encoders : Encoders} {R : RuntimeEpoch → SessionPhase → PendingSessionState → Prop}
  {P : RuntimeServer → CutoverStep → Prop} {server server' : RuntimeServer} {connection : Nat}
  {actor actor' : SessionActor} {a : CutoverStep}

theorem Faithful.other (hkeeps : Keeps R encoders connection P) (horderly : Orderly server)
    (hP : P server a) (h : Faithful R connection server actor)
    (hstage : RuntimeServer.stageStep a = false) (hnot : ∀ calls, a ≠ .control connection calls)
    (hsession : server.session connection = some actor)
    (hstep : server.step encoders a = some server')
    (hnext : server'.session connection = some actor') (hrunning : actor'.stage = .running) :
    Faithful R connection server' actor' := by
  obtain ⟨hlive, hchanges⟩ := RuntimeServer.session_step hstep hsession hnext hrunning
  have hactive : server'.active = server.active :=
    RuntimeServer.active_step hstep (by rintro rfl; cases hstage)
  have hreloads := fun (reload' : Reload) (hreload' : server'.reload = some reload') =>
    reload_step hstep hstage hnot hnext hrunning hreload'
  -- what is trusted now was trusted before, at the same revision or with the session idle
  have htrusted : server.revision ≤ server'.revision → ∀ reload', server'.reload = some reload' →
      reload'.stage.Trusts server'.revision connection → ∃ reload, server.reload = some reload ∧
        reload'.candidate = reload.candidate ∧ reload.stage.Trusts server.revision connection ∧
        (actor.busy = false ∨ server'.revision = server.revision) := by
    intro hle reload' hreload' htrusts
    obtain ⟨reload, hreload, hcandidate, -, -, hbefore⟩ := hreloads reload' hreload'
    obtain ⟨htrusts, hrevision⟩ := horderly.trusts_later hreload hle (hbefore _ htrusts)
    exact ⟨reload, hreload, hcandidate, htrusts, hrevision.imp_left (h.still reload hreload)⟩
  have hstill : ∀ reload', server'.reload = some reload' → reload'.stage.still = true →
      actor.busy = false := by
    intro reload' hreload' hstill
    obtain ⟨reload, hreload, -, hsame, -⟩ := hreloads reload' hreload'
    exact h.still reload hreload (hsame.symm.trans hstill)
  generalize hlater : server'.revision = later at hchanges
  cases hchanges with
  | stays hle =>
    refine ⟨h.projected, h.frozen, hstill, ?_, ?_⟩
    · rw [hactive]
      exact h.committed
    · intro reload' hreload' htrusts
      obtain ⟨reload, hreload, hcandidate, htrusts, -⟩ :=
        htrusted (hlater ▸ hle) reload' hreload' htrusts
      rw [hcandidate]
      exact h.prepared reload hreload htrusts
  | controls _ _ _ => exact (hnot _ rfl).elim
  | queues _ _ _ _ =>
    refine ⟨h.projected, h.frozen, hstill, ?_, ?_⟩
    · rw [hactive]
      exact h.committed.of_same rfl rfl
    · intro reload' hreload' htrusts
      obtain ⟨reload, hreload, hcandidate, htrusts, -⟩ :=
        htrusted hlater.ge reload' hreload' htrusts
      rw [hcandidate]
      exact (h.prepared reload hreload htrusts).of_same rfl rfl
  | @moves _ next hown hmoves =>
    -- a frame or a message finds the session idle and the data plane open
    have hadmitted : (∃ connection frame calls, a = .frame connection frame calls) ∨
        (∃ connection works, a = .message connection works) →
        server.admission = .opened ∧ actor.busy = false := by
      intro ha
      have hsame : (∃ frame calls, a = .frame connection frame calls) ∨
          ∃ works, a = .message connection works := by
        rcases ha with ⟨target, frame, calls, rfl⟩ | ⟨target, works, rfl⟩
        · cases hown
          exact .inl ⟨frame, calls, rfl⟩
        · cases hown
          exact .inr ⟨works, rfl⟩
      obtain ⟨hopened, before, hbefore, hidle⟩ := RuntimeServer.admitted_step hstep hsame
      cases hbefore.symm.trans hsession
      exact ⟨hopened, hidle⟩
    have hentered : (∃ connection, a = .enter connection ∨ a = .observe connection) →
        actor.busy = false := by
      rintro ⟨target, rfl | rfl⟩
      all_goals
        cases hown
        obtain ⟨before, hidle, -⟩ := Option.bind_eq_some_iff.mp hstep
        cases (RuntimeServer.idle_eq_some hidle).1.symm.trans hsession
        exact (RuntimeServer.idle_eq_some hidle).2.2
    have hprojected := fun ha phase hphase => h.projected phase (hadmitted ha).2 hphase
    refine ⟨fun phase hbusy hphase => hmoves.projected h.projected hentered hbusy hphase,
      fun _ _ _ hfrozen => hmoves.frozen h.frozen hfrozen, ?_, ?_, ?_⟩
    · intro reload' hreload' hbefore
      apply hmoves.busy ?_ (hstill reload' hreload' hbefore)
      intro ha
      obtain ⟨reload, hreload, -, -, hclosed, -⟩ := hreloads reload' hreload'
      have hbefore : reload.stage.closed = true := by
        rw [← hclosed]
        cases hstage' : reload'.stage <;> rw [hstage'] at hbefore <;> first | rfl | cases hbefore
      have hopened := (hadmitted ha).1
      rw [horderly.closed reload hreload hbefore] at hopened
      cases hopened
    · rw [hactive]
      refine hmoves.fresh h.committed hprojected ?_ ?_
      · intro _ _ _ _ _ _ _ hprepared hrevision
        exact (horderly.pending_later hsession hlive hprepared hrevision).elim
      · intro hbusy active pending hpending hrevision
        obtain ⟨_, hprepared | hfrozen⟩ := pending_cases hpending
        · exact (horderly.pending_later hsession hlive hprepared hrevision).elim
        · rw [h.frozen _ _ _ hfrozen] at hbusy
          cases hbusy
    · intro reload' hreload' htrusts
      obtain ⟨reload, hreload, hcandidate, htrusts, hsame⟩ :=
        htrusted (hlater ▸ hmoves.le) reload' hreload' htrusts
      rw [hcandidate]
      refine hmoves.fresh (h.prepared reload hreload htrusts) hprojected ?_ ?_
      · rintro target frame calls _ active pending rfl hprepared - hshown hfresh
        cases hown
        exact hkeeps.frame hP hsession hreload htrusts hprepared hshown hfresh
      · intro hbusy _ _ _ _
        rcases hsame with hidle | hsame
        · rw [hidle] at hbusy
          cases hbusy
        · exact hlater.symm.trans hsame

/-- **What the steps that meet the condition keep**, for one session. -/
theorem Faithful.stepped (hkeeps : Keeps R encoders connection P) (horderly : Orderly server)
    (hP : P server a) (hstep : server.step encoders a = some server')
    (h : ∀ actor, server.session connection = some actor → actor.stage = .running →
      Faithful R connection server actor) :
    ∀ actor, server'.session connection = some actor → actor.stage = .running →
      Faithful R connection server' actor := by
  intro actor' hnext hrunning
  cases hsession : server.session connection with
  | none =>
    obtain ⟨phase, rfl⟩ := RuntimeServer.session_new hstep hsession hnext
    exact Faithful.new _ _ phase
  | some actor =>
    obtain ⟨hlive, -⟩ := RuntimeServer.session_step hstep hsession hnext hrunning
    have hfaithful := h actor hsession hlive
    cases hstage : RuntimeServer.stageStep a with
    | true =>
      have hsame : server'.session connection = server.session connection := by
        unfold RuntimeServer.session
        rw [(RuntimeServer.stage_step hstage hstep).1]
      cases (hsame.symm.trans hnext).symm.trans hsession
      exact hfaithful.stage hsession hlive hstage hstep
    | false =>
      by_cases hcontrol : ∃ calls, a = .control connection calls
      · obtain ⟨calls, rfl⟩ := hcontrol
        exact hfaithful.control hkeeps horderly hP hsession hlive hstep hnext hrunning
      · exact hfaithful.other hkeeps horderly hP hstage
          (fun calls hcalls => hcontrol ⟨calls, hcalls⟩) hsession hstep hnext hrunning

theorem Faithful.run {first : RuntimeEpoch} {steps : List CutoverStep}
    (hkeeps : Keeps R encoders connection P)
    (halong : Steps.Along (RuntimeServer.step encoders) P (.new first) steps)
    (hrun : (RuntimeServer.new first).run encoders steps = some server) :
    Orderly server ∧ ∀ actor, server.session connection = some actor → actor.stage = .running →
      Faithful R connection server actor := by
  refine Steps.run_keeps (I := fun server => Orderly server ∧
    ∀ actor, server.session connection = some actor → actor.stage = .running →
      Faithful R connection server actor) ?_ ⟨Orderly.new first, ?_⟩ halong hrun
  · rintro server a server' ⟨horderly, hfaithful⟩ hP hstep
    exact ⟨horderly.stepped hstep, Faithful.stepped hkeeps horderly hP hstep hfaithful⟩
  · intro actor hsession
    cases hsession

end Stepped

/-! ### The progress over a committed reload -/

instance (stage : ReloadStage) (revision connection : Nat) :
    Decidable (stage.Trusts revision connection) :=
  match stage with
  | .preparing _ mark fan =>
    inferInstanceAs (Decidable (¬ (connection ∈ fan.unsent ∨ connection ∈ fan.sent) ∧
      revision = mark))
  | .prepared mark => inferInstanceAs (Decidable (revision = mark))
  | .freezing mark => inferInstanceAs (Decidable (revision = mark))
  | .frozen mark => inferInstanceAs (Decidable (revision = mark))
  | .sealing _ _ _ => inferInstanceAs (Decidable True)
  | .sealed => inferInstanceAs (Decidable True)
  | .staged => inferInstanceAs (Decidable False)
  | .published => inferInstanceAs (Decidable False)
  | .resumed => inferInstanceAs (Decidable False)
  | .aborting _ => inferInstanceAs (Decidable False)

/-- A frame moves the login of a session on, and the directory shows nothing of it. -/
def hidesProgress (epoch : RuntimeEpoch) (calls : FrameCalls) (phase : SessionPhase)
    (frame : IncomingFrame) : Bool :=
  let next := (handleIncomingFrame epoch calls phase frame).1
  next.directoryEntry.sameProjection phase.directoryEntry && next.progress ≠ phase.progress

/-- No frame hides the progress of the session while the reload trusts what it has prepared. -/
def showsProgress (connection : Nat) (server : RuntimeServer) : CutoverStep → Bool
  | .frame target frame calls =>
    if target = connection ∧ (server.reload.any fun reload =>
        reload.stage.Trusts server.revision connection) then
      (server.session connection).all fun actor =>
        match actor.lifecycle with
        | .cutoverPrepared _ active _ => !hidesProgress server.active calls active frame
        | _ => true
    else true
  | _ => true

section Progress

variable {encoders : Encoders} {first : RuntimeEpoch} {server : RuntimeServer}
  {connection : Nat} {actor : SessionActor}

/-- The pending phase is the one that the candidate has for the active phase. -/
def Rebuilt (epoch : RuntimeEpoch) (active : SessionPhase) (pending : PendingSessionState) : Prop :=
  buildCandidateSessionPhase active epoch = some pending.phase

theorem rebuilt_keeps (encoders : Encoders) (connection : Nat) :
    Keeps Rebuilt encoders connection fun server a => showsProgress connection server a where
  frame := by
    intro server actor reload frame calls epochRevision active pending hP hsession hreload htrusts
      hprepared hshown hrebuilt
    unfold showsProgress at hP
    dsimp only at hP
    rw [if_pos ⟨rfl, by simp [hreload, htrusts]⟩, hsession, Option.all_some, hprepared] at hP
    have hsame := (sameProjection_iff _ _).mpr hshown
    exact (build_congr hshown (by simpa [hidesProgress, hsame] using hP) _).trans hrebuilt
  prepare := by
    intro server actor calls candidate resyncEvents forceResync active pending _ _ _ h
    obtain ⟨phase, hbuild, h⟩ := Option.bind_eq_some_iff.mp h
    obtain ⟨frames, -, h⟩ := Option.bind_eq_some_iff.mp h
    obtain ⟨-, ⟨⟩⟩ := Option.ite_none_right_eq_some.mp h
    exact hbuild
  sealed := by
    intro server actor calls epoch finalEvents epochRevision active pending binding playerId entityId
      frames _ _ _ _ _ hrebuilt
    exact hrebuilt

/-- **A committed reload keeps the progress of a session**, where no frame has hidden it: the phase
    that is installed is the candidate's for the phase at the moment of sealing, which the session
    has kept since. -/
theorem committed_reload_keeps_progress {steps : List CutoverStep}
    (hrun : (RuntimeServer.new first).run encoders steps = some server)
    (halong : Steps.Along (RuntimeServer.step encoders)
      (fun server a => showsProgress connection server a) (.new first) steps)
    (hsession : server.session connection = some actor) (hrunning : actor.stage = .running)
    {epochRevision : Nat} {active : SessionPhase} {pending : PendingSessionState}
    (hfrozen : actor.lifecycle = .transferFrozen epochRevision active pending)
    (hworks : (actor.activateCommittedCutover server.active.revision server.revision).2.2 = true) :
    ∃ phase, (actor.activateCommittedCutover server.active.revision server.revision).1.lifecycle =
        .running server.active.revision phase ∧
      buildCandidateSessionPhase active server.active = some phase ∧
      phase.progress = active.progress := by
  obtain ⟨-, hfaithful⟩ := Faithful.run (rebuilt_keeps encoders connection) halong hrun
  have hfaithful := hfaithful actor hsession hrunning
  have hactivated := activate_ok hworks
  generalize (actor.activateCommittedCutover server.active.revision server.revision).1 = next
    at hactivated ⊢
  generalize (actor.activateCommittedCutover server.active.revision server.revision).2.1 = later
    at hactivated
  cases hactivated with
  | prepared hother _ => cases hfrozen.symm.trans hother
  | running hother => cases hfrozen.symm.trans hother
  | frozen hother hcommitted _ =>
    cases hfrozen.symm.trans hother
    have hshown := hfaithful.projected active (hfaithful.frozen _ _ _ hfrozen)
      (congrArg SessionLifecycle.active hfrozen)
    have hrebuilt : Rebuilt server.active active pending := hfaithful.committed active pending
      (congrArg SessionLifecycle.pending hfrozen) hcommitted hshown
    exact ⟨pending.phase, rfl, hrebuilt, build_progress hrebuilt⟩

/-- The epoch, the active phase and the pending state of a session that is frozen. -/
def SessionLifecycle.frozen : SessionLifecycle → Option (Nat × SessionPhase × PendingSessionState)
  | .transferFrozen epochRevision active pending => some (epochRevision, active, pending)
  | _ => none

def SessionLifecycle.runs : SessionLifecycle → Option (Nat × SessionPhase)
  | .running epochRevision phase => some (epochRevision, phase)
  | _ => none

theorem frozen_eq {active : SessionPhase}
    (h : lifecycle.frozen = some (epochRevision, active, pending)) :
    lifecycle = .transferFrozen epochRevision active pending := by
  cases lifecycle <;> simp_all [SessionLifecycle.frozen]

theorem runs_eq (h : lifecycle.runs = some (epochRevision, phase)) :
    lifecycle = .running epochRevision phase := by
  cases lifecycle <;> simp_all [SessionLifecycle.runs]

/-- A session of a Java client that has said which protocol it speaks. -/
def loginFrames : List CutoverStep :=
  [.spawn (.handshaking (onlyGeneration .tcp 1 1 1)),
    .frame 0 (.handshake (some ⟨.je, 5, "", 1, .login⟩)) (workingFrame true), .publish 0]

/-- The client starts to authenticate. -/
def authenticateFrames : List CutoverStep :=
  [.frame 0 (.login (.loginStart "alice")) (workingFrame true), .publish 0]

/-- The challenge of a session is not lost if it was there before the session prepared. -/
theorem committed_reload_keeps_progress_challenge :
    ∃ server actor phase, (RuntimeServer.new (onlyEpoch .tcp 1 1 1)).run onlyEncoders
        (loginFrames ++ authenticateFrames ++ reloadSteps (onlyEpoch .tcp 2 2 1) []) = some server ∧
      server.session 0 = some actor ∧
      (actor.activateCommittedCutover server.active.revision server.revision).1.lifecycle =
        .running 2 phase ∧
      phase.progress = .authenticating ⟨"alice", [1, 2, 3, 4], 1⟩ := by
  have hruns : (((RuntimeServer.new (onlyEpoch .tcp 1 1 1)).run onlyEncoders
      (loginFrames ++ authenticateFrames ++ reloadSteps (onlyEpoch .tcp 2 2 1) [])).any fun server =>
      decide (server.active.revision = 2) && (server.session 0).any fun actor =>
        decide (actor.stage = .running ∧
          (actor.activateCommittedCutover server.active.revision server.revision).2.2 = true) &&
        actor.lifecycle.frozen.any fun frozen =>
          decide (frozen.2.1.progress = .authenticating ⟨"alice", [1, 2, 3, 4], 1⟩)) = true := by
    decide +kernel
  obtain ⟨server, hrun, hlast⟩ := (Option.any_eq_true _ _).mp hruns
  obtain ⟨hrevision, hlast⟩ := Bool.and_eq_true_iff.mp hlast
  obtain ⟨actor, hsession, hlast⟩ := (Option.any_eq_true _ _).mp hlast
  obtain ⟨hactor, hlast⟩ := Bool.and_eq_true_iff.mp hlast
  obtain ⟨hrunning, hworks⟩ := of_decide_eq_true hactor
  obtain ⟨⟨epochRevision, active, pending⟩, hfrozen, hlast⟩ := (Option.any_eq_true _ _).mp hlast
  obtain ⟨phase, hphase, -, hprogress⟩ := committed_reload_keeps_progress hrun
    (by decide +kernel) hsession hrunning (frozen_eq hfrozen) hworks
  rw [of_decide_eq_true hrevision] at hphase
  exact ⟨server, actor, phase, hrun, hsession, of_decide_eq_true hrevision ▸ hphase,
    hprogress.trans (of_decide_eq_true hlast)⟩

/-- The client starts to authenticate after the session has prepared: the commit puts the session
    back, and the answer of the client ends it. -/
theorem committed_reload_loses_challenge :
    ¬ ∀ (steps : List CutoverStep) (server : RuntimeServer),
      (RuntimeServer.new (onlyEpoch .tcp 1 1 1)).run onlyEncoders steps = some server →
      ∀ connection actor, server.session connection = some actor → actor.stage = .running →
      ∀ epochRevision active pending,
        actor.lifecycle = .transferFrozen epochRevision active pending →
      ∀ phase, (actor.activateCommittedCutover server.active.revision
        server.revision).1.lifecycle = .running server.active.revision phase →
        phase.progress = active.progress := by
  intro hall
  have hruns : (((RuntimeServer.new (onlyEpoch .tcp 1 1 1)).run onlyEncoders
      (loginFrames ++ reloadSteps (onlyEpoch .tcp 2 2 1) authenticateFrames)).any fun server =>
      (server.session 0).any fun actor =>
        decide (actor.stage = .running) &&
        actor.lifecycle.frozen.any fun frozen =>
          (actor.activateCommittedCutover server.active.revision
            server.revision).1.lifecycle.runs.any fun next =>
          decide (next.1 = server.active.revision ∧
            next.2.progress ≠ frozen.2.1.progress)) = true := by
    decide +kernel
  obtain ⟨server, hrun, hlast⟩ := (Option.any_eq_true _ _).mp hruns
  obtain ⟨actor, hsession, hlast⟩ := (Option.any_eq_true _ _).mp hlast
  obtain ⟨hrunning, hlast⟩ := Bool.and_eq_true_iff.mp hlast
  obtain ⟨⟨epochRevision, active, pending⟩, hfrozen, hlast⟩ := (Option.any_eq_true _ _).mp hlast
  obtain ⟨⟨revision, phase⟩, hphase, hlast⟩ := (Option.any_eq_true _ _).mp hlast
  obtain ⟨rfl, hother⟩ := of_decide_eq_true hlast
  exact hother (hall _ server hrun 0 actor hsession (of_decide_eq_true hrunning) _ active pending
    (frozen_eq hfrozen) phase (runs_eq hphase))

end Progress

end RevyCraft.Cutover
