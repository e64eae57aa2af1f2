/-
  RevyCraft/CutoverOutcome.lean
  =============================
  **What a reload leaves behind** — every session that has not ended runs again
  once the reload is over, whatever failed on the way.

  While no reload is going on, a session rests: it runs in the active epoch, or
  it is still frozen for it and has not seen the epoch latch.  The fan-outs take
  every session from there through `Ready` and `Frozen`, or back.  A session
  that is neither in a fan-out nor in the state that its stage asks for has
  moved the revision of the directory, which the reload checks.
-/
import RevyCraft.CutoverMoves

namespace RevyCraft.Cutover

variable {encoders : Encoders} {actor actor' : SessionActor} {active revision : Nat}

/-! ### The states of a session in a reload -/

/-- The writer and the peer run. -/
def TransportSessionIo.Runs (io : TransportSessionIo) : Prop :=
  io.writerPaused = false ∧ (io.peer = none ∨ io.peer = some .running)

/-- The writer is paused and the peer frozen. -/
def TransportSessionIo.Stands (io : TransportSessionIo) : Prop :=
  io.writerPaused = true ∧ (io.peer = none ∨ io.peer = some .frozen)

/-- Between reloads: in the active epoch, or frozen for it and not activated yet. -/
inductive Rests (active : Nat) (actor : SessionActor) : Prop where
  | running {phase : SessionPhase} (lifecycle : actor.lifecycle = .running active phase)
      (io : actor.io.Runs)
  | frozen {epochRevision : Nat} {phase : SessionPhase} {pending : PendingSessionState}
      (lifecycle : actor.lifecycle = .transferFrozen epochRevision phase pending)
      (committed : pending.epochRevision = active) (unseen : actor.seen < active)
      (io : actor.io.Stands)

/-- Prepared for a candidate. -/
structure Ready (active candidate : Nat) (actor : SessionActor) : Prop where
  lifecycle : ∃ phase pending, actor.lifecycle = .cutoverPrepared active phase pending ∧
    pending.epochRevision = candidate
  io : actor.io.Runs

/-- Sealed for a candidate. -/
structure Frozen (active candidate : Nat) (actor : SessionActor) : Prop where
  lifecycle : ∃ phase pending, actor.lifecycle = .transferFrozen active phase pending ∧
    pending.epochRevision = candidate
  io : actor.io.Stands

/-- Prepared or sealed, with whatever became of the transport. -/
def Halfway (active candidate : Nat) (actor : SessionActor) : Prop :=
  ∃ phase pending, (actor.lifecycle = .cutoverPrepared active phase pending ∨
    actor.lifecycle = .transferFrozen active phase pending) ∧ pending.epochRevision = candidate

variable {candidate later connection count : Nat} {io : TransportSessionIo}
  {next : SessionActor × Nat} {a : CutoverStep} {fan : FanOut} {actor' : SessionActor}

theorem Ready.halfway (h : Ready active candidate actor) : Halfway active candidate actor := by
  obtain ⟨phase, pending, hlifecycle, hcandidate⟩ := h.lifecycle
  exact ⟨phase, pending, .inl hlifecycle, hcandidate⟩

theorem Frozen.halfway (h : Frozen active candidate actor) : Halfway active candidate actor := by
  obtain ⟨phase, pending, hlifecycle, hcandidate⟩ := h.lifecycle
  exact ⟨phase, pending, .inr hlifecycle, hcandidate⟩

/-- A step of its own leaves a session in its state, as long as it goes on. -/
structure Lives (active : Nat) (actor actor' : SessionActor) : Prop where
  rests : Rests active actor → Rests active actor'
  ready : ∀ candidate, active < candidate → Ready active candidate actor →
    Ready active candidate actor'
  halfway : ∀ candidate, active < candidate → Halfway active candidate actor →
    Halfway active candidate actor'
  frozen : ∀ candidate, active < candidate → Frozen active candidate actor →
    Frozen active candidate actor'
  seen : actor.seen ≤ active → actor'.seen ≤ active

theorem Lives.trans {actor'' : SessionActor} (h : Lives active actor actor')
    (h' : Lives active actor' actor'') : Lives active actor actor'' where
  rests := fun hrests => h'.rests (h.rests hrests)
  ready := fun candidate hne hready => h'.ready candidate hne (h.ready candidate hne hready)
  halfway := fun candidate hne hhalfway => h'.halfway candidate hne (h.halfway candidate hne hhalfway)
  frozen := fun candidate hne hfrozen => h'.frozen candidate hne (h.frozen candidate hne hfrozen)
  seen := fun hseen => h'.seen (h.seen hseen)

theorem Lives.of_same (hlifecycle : actor'.lifecycle = actor.lifecycle)
    (hpaused : actor'.io.writerPaused = actor.io.writerPaused)
    (hpeer : actor'.io.peer = actor.io.peer) (hseen : actor'.seen = actor.seen) :
    Lives active actor actor' := by
  have hruns : actor.io.Runs → actor'.io.Runs := by
    intro hio
    unfold TransportSessionIo.Runs
    rw [hpaused, hpeer]
    exact hio
  have hstands : actor.io.Stands → actor'.io.Stands := by
    intro hio
    unfold TransportSessionIo.Stands
    rw [hpaused, hpeer]
    exact hio
  constructor
  · intro hrests
    cases hrests with
    | running hrunning hio => exact .running (hlifecycle.trans hrunning) (hruns hio)
    | frozen hfrozen hcommitted hunseen hio =>
      exact .frozen (hlifecycle.trans hfrozen) hcommitted (hseen ▸ hunseen) (hstands hio)
  · intro candidate _ hready
    exact ⟨hlifecycle ▸ hready.lifecycle, hruns hready.io⟩
  · intro candidate _ hhalfway
    unfold Halfway
    rw [hlifecycle]
    exact hhalfway
  · intro candidate _ hfrozen
    exact ⟨hlifecycle ▸ hfrozen.lifecycle, hstands hfrozen.io⟩
  · exact fun h => hseen ▸ h

theorem Lives.withActive {phase : SessionPhase}
    (hlifecycle : actor'.lifecycle = actor.lifecycle.withActive phase)
    (hpaused : actor'.io.writerPaused = actor.io.writerPaused)
    (hpeer : actor'.io.peer = actor.io.peer) (hseen : actor'.seen = actor.seen) :
    Lives active actor actor' := by
  have hio : { actor with lifecycle := actor'.lifecycle }.io = actor.io := rfl
  suffices h : Lives active actor { actor with lifecycle := actor'.lifecycle } from
    h.trans (.of_same rfl hpaused hpeer hseen)
  constructor
  · intro hrests
    cases hrests with
    | running hrunning hio =>
      rw [hlifecycle, hrunning]
      exact .running rfl hio
    | frozen hfrozen hcommitted hunseen hio =>
      rw [hlifecycle, hfrozen]
      exact .frozen rfl hcommitted hunseen hio
  · intro candidate _ hready
    obtain ⟨active, pending, hprepared, hcandidate⟩ := hready.lifecycle
    rw [hlifecycle, hprepared]
    exact ⟨⟨phase, pending, rfl, hcandidate⟩, hready.io⟩
  · intro candidate _ hhalfway
    obtain ⟨active, pending, hprepared | hfrozen, hcandidate⟩ := hhalfway
    · rw [hlifecycle, hprepared]
      exact ⟨phase, pending, .inl rfl, hcandidate⟩
    · rw [hlifecycle, hfrozen]
      exact ⟨active, pending, .inr rfl, hcandidate⟩
  · intro candidate _ hfrozen
    obtain ⟨active, pending, hsealed, hcandidate⟩ := hfrozen.lifecycle
    rw [hlifecycle, hsealed]
    exact ⟨⟨active, pending, rfl, hcandidate⟩, hfrozen.io⟩
  · exact id

theorem resumeWriter_runs {frames : List WireFrame}
    (hpeer : io.peer = none ∨ io.peer = some .running) :
    (io.resumeWriterWithFront frames).Runs := by
  unfold TransportSessionIo.resumeWriterWithFront
  split
  · next hrunning =>
    have hpaused := (Bool.and_eq_true_iff.mp hrunning).1
    exact ⟨by simpa using hpaused, hpeer⟩
  · exact ⟨rfl, hpeer⟩

theorem resumeTransport_runs (h : io.resumeTransport.2 = true) :
    io.resumeTransport.1.peer = none ∨ io.resumeTransport.1.peer = some .running := by
  unfold TransportSessionIo.resumeTransport at h ⊢
  cases hpeer : io.peer with
  | none =>
    rw [hpeer]
    exact .inl rfl
  | some peer =>
    rw [hpeer] at h
    cases peer with
    | running => exact .inr hpeer
    | frozen => exact .inr rfl
    | transitioning => cases h

theorem Activated.lives (h : Activated active revision actor next) : Lives active actor next.1 := by
  cases h with
  | prepared _ _ => exact .of_same rfl rfl rfl rfl
  | @running phase hlifecycle =>
    -- nothing but a resting session runs in the active epoch
    constructor
    · intro hrests
      cases hrests with
      | running _ hio => exact .running hlifecycle (resumeWriter_runs hio.2)
      | frozen hfrozen _ _ _ =>
        rw [hlifecycle] at hfrozen
        cases hfrozen
    · intro candidate _ hready
      obtain ⟨_, _, hprepared, _⟩ := hready.lifecycle
      rw [hlifecycle] at hprepared
      cases hprepared
    · rintro candidate - ⟨_, _, hprepared | hfrozen, _⟩
      · rw [hlifecycle] at hprepared
        cases hprepared
      · rw [hlifecycle] at hfrozen
        cases hfrozen
    · intro candidate _ hfrozen
      obtain ⟨_, _, hsealed, _⟩ := hfrozen.lifecycle
      rw [hlifecycle] at hsealed
      cases hsealed
    · exact id
  | @frozen _ phase pending hlifecycle hcommitted hresumes =>
    have hother : ∀ {candidate : Nat}, active < candidate → ∀ {phase pending},
        actor.lifecycle = .transferFrozen active phase pending →
        pending.epochRevision = candidate → False := by
      intro candidate hlater phase pending hfrozen hcandidate
      rw [hlifecycle] at hfrozen
      cases hfrozen
      omega
    constructor
    · intro _
      exact .running rfl (resumeWriter_runs (resumeTransport_runs hresumes))
    · intro candidate _ hready
      obtain ⟨_, _, hprepared, _⟩ := hready.lifecycle
      rw [hlifecycle] at hprepared
      cases hprepared
    · rintro candidate hne ⟨_, _, hprepared | hfrozen, hcandidate⟩
      · rw [hlifecycle] at hprepared
        cases hprepared
      · exact (hother hne hfrozen hcandidate).elim
    · intro candidate hne hfrozen
      obtain ⟨_, _, hsealed, hcandidate⟩ := hfrozen.lifecycle
      exact (hother hne hsealed hcandidate).elim
    · simp

theorem write_same {io' : TransportSessionIo} (h : io.write = some io') :
    io'.writerPaused = io.writerPaused ∧ io'.peer = io.peer := by
  unfold TransportSessionIo.write at h
  split at h
  · cases h
  · split at h
    · cases h
      exact ⟨rfl, rfl⟩
    · cases h
      exact ⟨rfl, rfl⟩
    · cases h

/-- A step of its own leaves a session that goes on in its state: one that rests is activated, or
    has only seen an older epoch latch. -/
theorem Moves.lives {epoch : RuntimeEpoch} {latch : Nat} (hlatch : latch ≤ epoch.revision)
    (h : Moves encoders epoch latch revision actor a next) : Lives epoch.revision actor next.1 := by
  cases h with
  | frame hactivated _ | message _ hactivated _ _ =>
    exact hactivated.lives.trans (.withActive rfl rfl rfl rfl)
  | enter hactivated => exact hactivated.lives
  | publish _ _ => exact .of_same (by simp) (by simp) (by simp) (by simp)
  | transferred _ _ | dispatch => exact .of_same rfl rfl rfl rfl
  | write hwrites =>
    obtain ⟨hpaused, hpeer⟩ := write_same hwrites
    exact .of_same rfl hpaused hpeer rfl
  | wake hlifecycle hactivated =>
    have hlives := hactivated.lives
    refine ⟨fun hrests => ?_, fun candidate hlater hready => ?_, fun candidate hlater hhalfway =>
      hlives.halfway candidate hlater hhalfway, fun candidate hlater hfrozen => ?_,
      fun _ => hlives.seen hlatch⟩
    · cases hactivated with
      | prepared hprepared _ => cases hlifecycle.symm.trans hprepared
      | running hrunning => cases hlifecycle.symm.trans hrunning
      | frozen _ _ hresumes =>
        exact .running rfl (resumeWriter_runs (resumeTransport_runs hresumes))
    · exact hlives.ready candidate hlater ⟨hready.lifecycle, hready.io⟩
    · exact hlives.frozen candidate hlater ⟨hfrozen.lifecycle, hfrozen.io⟩
  | sleep hlifecycle hother =>
    refine ⟨fun hrests => ?_, fun _ _ hready => ⟨hready.lifecycle, hready.io⟩,
      fun _ _ hhalfway => hhalfway, fun _ _ hfrozen => ⟨hfrozen.lifecycle, hfrozen.io⟩,
      fun _ => hlatch⟩
    cases hrests with
    | running hrunning _ => cases hlifecycle.symm.trans hrunning
    | frozen hfrozen hcommitted _ hio =>
      refine .frozen hfrozen hcommitted ?_ hio
      cases hlifecycle.symm.trans hfrozen
      dsimp only
      omega

/-! ### The controls -/

section Controls

theorem Rests.activates (h : Rests active actor) (revision : Nat) :
    (actor.activateCommittedCutover active revision).2.2 = true := by
  unfold SessionActor.activateCommittedCutover
  cases h with
  | running hlifecycle _ =>
    rw [hlifecycle]
    simp
  | frozen hlifecycle hcommitted _ hio =>
    rw [hlifecycle]
    dsimp only
    rw [if_pos hcommitted, publishDirectory_io]
    have hresumes : actor.io.resumeTransport.2 = true := by
      unfold TransportSessionIo.resumeTransport
      rcases hio.2 with hpeer | hpeer <;> rw [hpeer]
    rw [if_pos hresumes]

theorem Ready.activates (h : Ready active later actor) (hlater : active < later) (revision : Nat) :
    (actor.activateCommittedCutover active revision).2.2 = true := by
  obtain ⟨phase, pending, hlifecycle, hcandidate⟩ := h.lifecycle
  unfold SessionActor.activateCommittedCutover
  rw [hlifecycle]
  have hother : pending.epochRevision ≠ active := by omega
  simp [hother]

theorem pendingFor_revision {calls : ControlCalls} {resyncEvents : List CoreEvent}
    {forceResync : Bool} {candidate : RuntimeEpoch} {phase : SessionPhase}
    {pending : PendingSessionState}
    (h : pendingFor encoders phase candidate resyncEvents forceResync calls = some pending) :
    pending.epochRevision = candidate.revision := by
  obtain ⟨next, -, h⟩ := Option.bind_eq_some_iff.mp h
  obtain ⟨frames, -, h⟩ := Option.bind_eq_some_iff.mp h
  obtain ⟨-, ⟨⟩⟩ := Option.ite_none_right_eq_some.mp h
  rfl

theorem prepare_ready (encoders : Encoders) (calls : ControlCalls)
    (resyncEvents : List CoreEvent) (forceResync : Bool) {lifecycle : SessionLifecycle}
    {candidate : RuntimeEpoch}
    (hbefore : (∃ phase, lifecycle = .running active phase) ∨
      ∃ phase pending, lifecycle = .cutoverPrepared active phase pending ∧
        pending.epochRevision = candidate.revision) :
    let prepared := prepareSessionCutover encoders lifecycle candidate resyncEvents forceResync calls
    (prepared.2 = true → ∃ phase pending, prepared.1 = .cutoverPrepared active phase pending ∧
      pending.epochRevision = candidate.revision) ∧
    (prepared.2 = false → ∃ phase, prepared.1 = .running active phase) := by
  dsimp only
  rcases hbefore with ⟨phase, rfl⟩ | ⟨phase, old, rfl, hold⟩
  · unfold prepareSessionCutover
    dsimp only
    cases hnext : pendingFor encoders phase candidate resyncEvents forceResync calls with
    | none => exact ⟨fun h => by simp at h, fun _ => ⟨phase, rfl⟩⟩
    | some pending =>
      exact ⟨fun _ => ⟨phase, pending, rfl, pendingFor_revision hnext⟩, fun h => by simp at h⟩
  · unfold prepareSessionCutover
    dsimp only
    rw [if_pos hold]
    cases hnext : pendingFor encoders phase candidate resyncEvents forceResync calls with
    | none => exact ⟨fun h => by simp at h, fun _ => ⟨phase, rfl⟩⟩
    | some pending =>
      exact ⟨fun _ => ⟨phase, pending, rfl, pendingFor_revision hnext⟩, fun h => by simp at h⟩

theorem prepare_before (hlater : active < later) (h : Rests active actor ∨ Ready active later actor)
    (revision : Nat) : (actor.activateCommittedCutover active revision).2.2 = true ∧
      (actor.activateCommittedCutover active revision).1.io.Runs ∧
      ((∃ phase, (actor.activateCommittedCutover active revision).1.lifecycle =
          .running active phase) ∨
        ∃ phase pending, (actor.activateCommittedCutover active revision).1.lifecycle =
          .cutoverPrepared active phase pending ∧ pending.epochRevision = later) := by
  rcases h with h | h
  · have hworks := h.activates revision
    refine ⟨hworks, ?_⟩
    have hactivated := activate_ok hworks
    cases hactivated.lives.rests h with
    | running hlifecycle hio => exact ⟨hio, .inl ⟨_, hlifecycle⟩⟩
    | frozen hlifecycle hcommitted _ _ =>
      -- the activation leaves no session frozen
      generalize (actor.activateCommittedCutover active revision).1 = next at hactivated hlifecycle
      generalize (actor.activateCommittedCutover active revision).2.1 = later at hactivated
      cases hactivated with
      | prepared hprepared _ => cases hprepared.symm.trans hlifecycle
      | running hrunning => cases hrunning.symm.trans hlifecycle
      | frozen _ _ _ => cases hlifecycle
  · have hworks := h.activates hlater revision
    have hready := (activate_ok hworks).lives.ready _ hlater h
    exact ⟨hworks, hready.io, .inr hready.lifecycle⟩

/-- **PrepareCutover**: the session is ready, or runs. -/
theorem control_prepare (encoders : Encoders) (revision : Nat) (calls : ControlCalls)
    {candidate : RuntimeEpoch} {resyncEvents : List CoreEvent} {forceResync : Bool}
    (hlater : active < candidate.revision)
    (h : Rests active actor ∨ Ready active candidate.revision actor) :
    let controlled := actor.handleSessionControl encoders active revision calls
      (.prepareCutover candidate resyncEvents forceResync)
    (Rests active controlled.actor ∨ Ready active candidate.revision controlled.actor) ∧
      (controlled.acknowledged = true → Ready active candidate.revision controlled.actor) ∧
      controlled.leaves = false := by
  obtain ⟨hworks, hio, hlifecycle⟩ := prepare_before hlater h revision
  obtain ⟨hsome, hnone⟩ := prepare_ready encoders calls resyncEvents forceResync hlifecycle
  unfold SessionActor.handleSessionControl
  dsimp only
  rw [if_pos hworks]
  refine ⟨?_, fun hacknowledged => ⟨hsome hacknowledged, hio⟩, rfl⟩
  cases hprepared : (prepareSessionCutover encoders
      (actor.activateCommittedCutover active revision).1.lifecycle candidate resyncEvents
      forceResync calls).2 with
  | true => exact .inr ⟨hsome hprepared, hio⟩
  | false =>
    obtain ⟨phase, hphase⟩ := hnone hprepared
    exact .inl (.running hphase hio)

/-- **SealCutover** of a prepared session. -/
theorem control_seal (encoders : Encoders) (revision : Nat) (calls : ControlCalls)
    (finalEvents : List CoreEvent) (h : Ready active later actor) :
    let controlled := actor.handleSessionControl encoders active revision calls
      (.sealCutover later finalEvents)
    Halfway active later controlled.actor ∧
      (controlled.acknowledged = true → Frozen active later controlled.actor) ∧
      controlled.leaves = false := by
  obtain ⟨phase, pending, hlifecycle, hcandidate⟩ := h.lifecycle
  have hpaused : (actor.io.pauseWriter calls.pauses).2 = true →
      (actor.io.pauseWriter calls.pauses).1.writerPaused = true ∧
        (actor.io.pauseWriter calls.pauses).1.peer = actor.io.peer := by
    unfold TransportSessionIo.pauseWriter
    split
    · next hpaused => exact fun _ => ⟨hpaused, rfl⟩
    · split
      · exact fun _ => ⟨rfl, rfl⟩
      · exact fun hfalse => by cases hfalse
  unfold SessionActor.handleSessionControl
  dsimp only
  split
  · exact ⟨h.halfway, fun hfalse => by simp at hfalse, rfl⟩
  · next hpauses =>
    obtain ⟨hwriter, hpeer⟩ := hpaused (by simpa using hpauses)
    split
    · exact ⟨h.halfway, fun hfalse => by simp at hfalse, rfl⟩
    · next hfreezes =>
      have hstands : ((actor.io.pauseWriter calls.pauses).1.freezeTransport calls.freezes).1.Stands := by
        unfold TransportSessionIo.freezeTransport at hfreezes ⊢
        rw [hpeer] at hfreezes ⊢
        rcases h.io.2 with hnone | hrunning
        · rw [hnone]
          exact ⟨hwriter, .inl (hpeer.trans hnone)⟩
        · rw [hrunning] at hfreezes ⊢
          dsimp only at hfreezes ⊢
          split at hfreezes
          · next hworks =>
            rw [if_pos hworks]
            exact ⟨hwriter, .inr rfl⟩
          · exact (hfreezes rfl).elim
      have hsealed : ∃ sealed works, sealSessionCutover encoders actor.lifecycle later finalEvents
            calls = (.transferFrozen active phase sealed, works) ∧
          sealed.epochRevision = later := by
        unfold sealSessionCutover
        rw [hlifecycle]
        dsimp only
        rw [if_neg (by simp [hcandidate])]
        split
        · exact ⟨pending, _, rfl, hcandidate⟩
        · split
          · split
            · exact ⟨_, _, rfl, hcandidate⟩
            · exact ⟨pending, _, rfl, hcandidate⟩
          · exact ⟨pending, _, rfl, hcandidate⟩
      obtain ⟨sealed, works, hsealed, hrevision⟩ := hsealed
      rw [hsealed]
      exact ⟨⟨phase, sealed, .inr rfl, hrevision⟩,
        fun _ => ⟨⟨phase, sealed, rfl, hrevision⟩, hstands⟩, rfl⟩

/-- **AbortCutover**: the session rests, or is left with its transport. -/
theorem control_abort (encoders : Encoders) (revision : Nat) (calls : ControlCalls)
    (hlater : active < later) (h : Rests active actor ∨ Halfway active later actor) :
    let controlled := actor.handleSessionControl encoders active revision calls
      (.abortCutover later)
    controlled.leaves = false → Rests active controlled.actor := by
  have hresume : ∀ phase : SessionPhase, (!actor.io.resumeTransport.2) = false →
      Rests active { actor with
        lifecycle := .running active phase
        io := actor.io.resumeTransport.1.resumeWriterWithFront [] } := by
    intro phase hresumes
    exact .running rfl (resumeWriter_runs (resumeTransport_runs (by simpa using hresumes)))
  unfold SessionActor.handleSessionControl
  dsimp only
  rcases h with h | ⟨phase, pending, hlifecycle | hlifecycle, hcandidate⟩
  · cases h with
    | running hlifecycle hio =>
      rw [hlifecycle]
      exact fun _ => .running hlifecycle hio
    | frozen hlifecycle hcommitted hunseen hio =>
      rw [hlifecycle]
      dsimp only
      rw [if_neg (by omega)]
      exact fun _ => .frozen hlifecycle hcommitted hunseen hio
  · rw [hlifecycle]
    dsimp only
    rw [if_pos hcandidate]
    exact hresume phase
  · rw [hlifecycle]
    dsimp only
    rw [if_pos hcandidate]
    exact hresume phase

end Controls

/-! ### What a stage asks of the sessions -/

def FanOut.Waits (fan : FanOut) (connection : Nat) : Prop :=
  connection ∈ fan.unsent ∨ connection ∈ fan.sent

/-- The state that a stage asks of a session.  Where the sessions were prepared at a revision of
    the directory that it has left, a session may have been missed. -/
def ReloadStage.Asks (stage : ReloadStage) (active candidate revision connection : Nat)
    (actor : SessionActor) : Prop :=
  let either := Rests active actor ∨ Ready active candidate actor
  match stage with
  | .staged => Rests active actor
  | .preparing _ mark fan => either ∧
    (¬ fan.Waits connection → fan.failed = false → revision = mark → Ready active candidate actor)
  | .prepared mark => either ∧ (revision = mark → Ready active candidate actor)
  | .freezing mark => either ∧ (revision = mark → Ready active candidate actor)
  | .frozen mark => either ∧ (revision = mark → Ready active candidate actor)
  | .sealing _ _ fan => Halfway active candidate actor ∧
    (fan.Waits connection → Ready active candidate actor) ∧
    (¬ fan.Waits connection → fan.failed = false → Frozen active candidate actor)
  | .sealed => Frozen active candidate actor
  | .published => Rests active actor
  | .resumed => Rests active actor
  | .aborting fan => (Rests active actor ∨ Halfway active candidate actor) ∧
    (¬ fan.Waits connection → Rests active actor)

/-- The revision that the sessions are prepared at. -/
def ReloadStage.mark : ReloadStage → Option Nat
  | .preparing _ mark _ => some mark
  | .prepared mark => some mark
  | .freezing mark => some mark
  | .frozen mark => some mark
  | _ => none

/-- The data plane is closed. -/
def ReloadStage.closed : ReloadStage → Bool
  | .freezing _ => true
  | .frozen _ => true
  | .sealing _ _ _ => true
  | .sealed => true
  | _ => false

/-- The candidate is the active epoch. -/
def ReloadStage.committed : ReloadStage → Bool
  | .published => true
  | .resumed => true
  | _ => false

section Asks

variable {stage : ReloadStage} {candidate connection revision' : Nat} {actor' : SessionActor}

theorem ReloadStage.Asks.lives (h : stage.Asks active candidate revision connection actor)
    (hlives : Lives active actor actor') (hlater : stage.committed = false → active < candidate)
    (hle : revision ≤ revision') (hmark : ∀ mark, stage.mark = some mark → mark ≤ revision) :
    stage.Asks active candidate revision' connection actor' := by
  have heither : active < candidate → Rests active actor ∨ Ready active candidate actor →
      Rests active actor' ∨ Ready active candidate actor' := fun hlater =>
    Or.imp hlives.rests (hlives.ready candidate hlater)
  -- if the directory is at the mark, then it was before
  have hback : ∀ mark, stage.mark = some mark → revision' = mark → revision = mark := by
    intro mark hsome heq
    have := hmark mark hsome
    omega
  cases stage with
  | staged => exact hlives.rests h
  | preparing attempt mark fan =>
    exact ⟨heither (hlater rfl) h.1, fun hwaits hfailed hrevision =>
      hlives.ready candidate (hlater rfl) (h.2 hwaits hfailed (hback mark rfl hrevision))⟩
  | prepared mark | freezing mark | frozen mark =>
    exact ⟨heither (hlater rfl) h.1, fun hrevision =>
      hlives.ready candidate (hlater rfl) (h.2 (hback mark rfl hrevision))⟩
  | sealing mark events fan =>
    exact ⟨hlives.halfway candidate (hlater rfl) h.1,
      fun hwaits => hlives.ready candidate (hlater rfl) (h.2.1 hwaits),
      fun hwaits hfailed => hlives.frozen candidate (hlater rfl) (h.2.2 hwaits hfailed)⟩
  | sealed => exact hlives.frozen candidate (hlater rfl) h
  | published => exact hlives.rests h
  | resumed => exact hlives.rests h
  | aborting fan =>
    exact ⟨h.1.imp hlives.rests (hlives.halfway candidate (hlater rfl)),
      fun hwaits => hlives.rests (h.2 hwaits)⟩

theorem ReloadStage.Asks.withFan {fan' : FanOut}
    (h : stage.Asks active candidate revision connection actor) (hfan : stage.fan = some fan)
    (hwaits : fan'.Waits connection ↔ fan.Waits connection)
    (hfailed : fan'.failed = false → fan.failed = false) :
    (stage.withFan fan').Asks active candidate revision connection actor := by
  cases stage with
  | preparing attempt mark current =>
    cases hfan
    exact ⟨h.1, fun hnot hworks => h.2 (hnot ∘ hwaits.mpr) (hfailed hworks)⟩
  | sealing mark events current =>
    cases hfan
    exact ⟨h.1, h.2.1 ∘ hwaits.mp, fun hnot hworks => h.2.2 (hnot ∘ hwaits.mpr) (hfailed hworks)⟩
  | aborting current =>
    cases hfan
    exact ⟨h.1, fun hnot => h.2 (hnot ∘ hwaits.mpr)⟩
  | _ => cases hfan

theorem withFan_mark (stage : ReloadStage) (fan : FanOut) : (stage.withFan fan).mark = stage.mark := by
  cases stage <;> rfl

theorem withFan_closed (stage : ReloadStage) (fan : FanOut) :
    (stage.withFan fan).closed = stage.closed := by
  cases stage <;> rfl

theorem withFan_committed (stage : ReloadStage) (fan : FanOut) :
    (stage.withFan fan).committed = stage.committed := by
  cases stage <;> rfl

theorem withFan_fan {fan' : FanOut} (h : stage.fan = some fan) :
    (stage.withFan fan').fan = some fan' := by
  cases stage with
  | preparing _ _ _ => rfl
  | sealing _ _ _ => rfl
  | aborting _ => rfl
  | _ => cases h

theorem ReloadStage.Asks.halfway (h : stage.Asks active candidate revision connection actor)
    (hcommitted : stage.committed = false) :
    Rests active actor ∨ Halfway active candidate actor := by
  have heither : Rests active actor ∨ Ready active candidate actor →
      Rests active actor ∨ Halfway active candidate actor := Or.imp_right Ready.halfway
  cases stage with
  | staged => exact .inl h
  | preparing attempt mark fan => exact heither h.1
  | prepared mark => exact heither h.1
  | freezing mark => exact heither h.1
  | frozen mark => exact heither h.1
  | sealing mark events fan => exact .inr h.1
  | sealed => exact .inr (Frozen.halfway h)
  | published => cases hcommitted
  | resumed => cases hcommitted
  | aborting fan => exact h.1

end Asks

theorem waits_send {other : Nat} (hunsent : connection ∈ fan.unsent) :
    (fan.send connection).Waits other ↔ fan.Waits other := by
  unfold FanOut.Waits FanOut.send
  rcases eq_or_ne other connection with rfl | hne
  · simp [hunsent]
  · simp [hne]

theorem waits_skip {other : Nat} (works : Bool) (hne : other ≠ connection) :
    (fan.skip connection works).Waits other ↔ fan.Waits other := by
  unfold FanOut.Waits FanOut.skip
  simp [hne]

theorem waits_answer {other : Nat} (works : Bool) (hne : other ≠ connection) :
    (fan.answer connection works).Waits other ↔ fan.Waits other := by
  unfold FanOut.Waits FanOut.answer
  simp [hne]

/-! ### The invariant -/

/-- The controls that a stage sends. -/
def Reload.Sends (reload : Reload) (control : SessionControl) : Prop :=
  ∃ connection actor resyncEvents,
    RuntimeServer.nextControl reload connection actor resyncEvents = some control

/-- A session in its loop, as the reload that is going on has it. -/
structure Stands (active revision : Nat) (reload : Option Reload) (connection : Nat)
    (actor : SessionActor) : Prop where
  rests : reload = none → Rests active actor
  asks : ∀ current, reload = some current →
    current.stage.Asks active current.candidate.revision revision connection actor
  waits : ∀ current fan, reload = some current → current.stage.fan = some fan →
    connection ∈ fan.sent → ∃ control, current.Sends control ∧ actor.controls = [control]
  quiet : (∀ current fan, reload = some current → current.stage.fan = some fan →
    connection ∉ fan.sent) → actor.controls = []
  seen : actor.seen ≤ active

/-- A fan-out to sessions that there are; it does not wait for a session that it has to reach. -/
structure FanOut.Proper (fan : FanOut) (count : Nat) : Prop where
  unsent : ∀ connection ∈ fan.unsent, connection < count ∧ connection ∉ fan.sent
  sent : ∀ connection ∈ fan.sent, connection < count

structure Orderly (server : RuntimeServer) : Prop where
  rests : server.reload = none → server.latch = server.active.revision
  pending : ∀ reload, server.reload = some reload → reload.stage.committed = false →
    server.latch = server.active.revision ∧ server.active.revision < reload.candidate.revision
  committed : ∀ reload, server.reload = some reload → reload.stage.committed = true →
    server.latch < server.active.revision ∧ reload.candidate.revision = server.active.revision
  mark : ∀ reload mark, server.reload = some reload → reload.stage.mark = some mark →
    mark ≤ server.revision
  closed : ∀ reload, server.reload = some reload → reload.stage.closed = true →
    server.admission = .closed
  fan : ∀ reload fan, server.reload = some reload → reload.stage.fan = some fan →
    fan.Proper server.sessions.length
  stands : ∀ connection actor, server.session connection = some actor →
    actor.stage = .running →
    Stands server.active.revision server.revision server.reload connection actor

theorem Orderly.latch_le {server : RuntimeServer} (h : Orderly server) :
    server.latch ≤ server.active.revision := by
  cases hreload : server.reload with
  | none => exact (h.rests hreload).le
  | some reload =>
    cases hcommitted : reload.stage.committed with
    | false => exact (h.pending reload hreload hcommitted).1.le
    | true => exact (h.committed reload hreload hcommitted).1.le

theorem Stands.lives {reload : Option Reload} {revision' : Nat}
    (h : Stands active revision reload connection actor) (hlives : Lives active actor actor')
    (hcontrols : actor'.controls = actor.controls)
    (hlater : ∀ current, reload = some current → current.stage.committed = false →
      active < current.candidate.revision)
    (hmark : ∀ current mark, reload = some current → current.stage.mark = some mark →
      mark ≤ revision) (hle : revision ≤ revision') :
    Stands active revision' reload connection actor' where
  rests := fun hnone => hlives.rests (h.rests hnone)
  asks := fun current hcurrent =>
    (h.asks current hcurrent).lives hlives (hlater current hcurrent) hle
      fun mark hsome => hmark current mark hcurrent hsome
  waits := fun current fan hcurrent hfan hsent =>
    hcontrols ▸ h.waits current fan hcurrent hfan hsent
  quiet := fun hsent => hcontrols.trans (h.quiet hsent)
  seen := hlives.seen h.seen

theorem Lives.refl (active : Nat) (actor : SessionActor) : Lives active actor actor :=
  .of_same rfl rfl rfl rfl

section Server

variable {server server' : RuntimeServer} {connection : Nat} {reload : Reload}

theorem Orderly.stands_later {revision' : Nat} (h : Orderly server)
    (hsession : server.session connection = some actor) (hrunning : actor.stage = .running)
    (hle : server.revision ≤ revision') :
    Stands server.active.revision revision' server.reload connection actor :=
  (h.stands connection actor hsession hrunning).lives (.refl _ _) rfl
    (fun current hcurrent hcommitted => (h.pending current hcurrent hcommitted).2)
    h.mark hle

theorem Orderly.update (h : Orderly server) (hle : server.revision ≤ next.2)
    (hnext : next.1.stage = .running →
      Stands server.active.revision next.2 server.reload connection next.1) :
    Orderly (server.update connection next) where
  rests := h.rests
  pending := h.pending
  committed := h.committed
  mark := fun reload mark hreload hmark => Nat.le_trans (h.mark reload mark hreload hmark) hle
  closed := h.closed
  fan := fun reload fan hreload hfan => by
    rw [RuntimeServer.update_length]
    exact h.fan reload fan hreload hfan
  stands := fun other actor hsession hrunning => by
    rcases RuntimeServer.session_update hsession with ⟨rfl, rfl⟩ | ⟨-, hother⟩
    · exact hnext hrunning
    · exact h.stands_later hother hrunning hle

theorem Orderly.own (h : Orderly server) (hown : RuntimeServer.ownStep a = some connection)
    (hstep : server.step encoders a = some server') : Orderly server' := by
  obtain ⟨actor, next, hsession, rfl, hmoves⟩ := RuntimeServer.own_step hown hstep
  apply h.update hmoves.le
  intro hrunning
  obtain ⟨hbefore, hmoves⟩ := hmoves.moves hrunning
  exact (h.stands connection actor hsession hbefore).lives (hmoves.lives h.latch_le) hmoves.controls
    (fun current hcurrent hcommitted => (h.pending current hcurrent hcommitted).2) h.mark hmoves.le

/-! ### The steps of the registry -/

theorem registered_of_running (hsession : server.session connection = some actor)
    (hrunning : actor.stage = .running) : connection ∈ server.registered := by
  unfold RuntimeServer.registered
  rw [List.mem_filter, List.mem_range]
  refine ⟨(List.getElem?_eq_some_iff.mp hsession).1, ?_⟩
  rw [hsession]
  simp [hrunning]

theorem proper_registered (server : RuntimeServer) :
    (FanOut.new server.registered).Proper server.sessions.length where
  unsent := by
    intro connection hmem
    refine ⟨?_, List.not_mem_nil⟩
    exact List.mem_range.mp (List.mem_filter.mp hmem).1
  sent := by
    intro connection hmem
    exact (List.not_mem_nil hmem).elim

theorem Orderly.toStage (h : Orderly server) (stage : ReloadStage)
    (hreload : server.reload = some reload)
    (hnext : server'.reload = some { reload with stage := stage })
    (hsessions : server'.sessions = server.sessions) (hrevision : server'.revision = server.revision)
    (hactive : server'.active = server.active) (hlatch : server'.latch = server.latch)
    (hcommitted : stage.committed = reload.stage.committed)
    (hmark : ∀ mark, stage.mark = some mark → mark ≤ server.revision)
    (hclosed : stage.closed = true → server'.admission = .closed)
    (hfan : ∀ fan, stage.fan = some fan → fan.Proper server.sessions.length ∧ fan.sent = [])
    (hquiet : ∀ fan, reload.stage.fan = some fan → fan.sent = [])
    (hasks : ∀ connection actor, server.session connection = some actor →
      actor.stage = .running →
      reload.stage.Asks server.active.revision reload.candidate.revision server.revision connection
        actor →
      stage.Asks server.active.revision reload.candidate.revision server.revision connection
        actor) : Orderly server' := by
  have hsome : ∀ current, server'.reload = some current → current = { reload with stage := stage } := by
    intro current hcurrent
    exact Option.some.inj (hcurrent.symm.trans hnext)
  constructor
  · intro hnone
    cases hnone.symm.trans hnext
  · intro current hcurrent hnot
    cases hsome current hcurrent
    rw [hactive, hlatch]
    exact h.pending reload hreload (hcommitted.symm.trans hnot)
  · intro current hcurrent hyes
    cases hsome current hcurrent
    rw [hactive, hlatch]
    exact h.committed reload hreload (hcommitted.symm.trans hyes)
  · intro current mark hcurrent hsomeMark
    cases hsome current hcurrent
    rw [hrevision]
    exact hmark mark hsomeMark
  · intro current hcurrent hyes
    cases hsome current hcurrent
    exact hclosed hyes
  · intro current fan hcurrent hsomeFan
    cases hsome current hcurrent
    rw [hsessions]
    exact (hfan fan hsomeFan).1
  · intro connection actor hsession hrunning
    unfold RuntimeServer.session at hsession
    rw [hsessions] at hsession
    have hstands := h.stands connection actor hsession hrunning
    rw [hactive, hrevision]
    constructor
    · intro hnone
      cases hnone.symm.trans hnext
    · intro current hcurrent
      cases hsome current hcurrent
      exact hasks connection actor hsession hrunning (hstands.asks reload hreload)
    · intro current fan hcurrent hsomeFan hsent
      cases hsome current hcurrent
      rw [(hfan fan hsomeFan).2] at hsent
      cases hsent
    · intro _
      apply hstands.quiet
      intro current fan hcurrent hsomeFan hsent
      cases hcurrent.symm.trans hreload
      rw [hquiet fan hsomeFan] at hsent
      cases hsent
    · exact hstands.seen

end Server

section Registry

variable {server server' : RuntimeServer} {connection : Nat} {reload : Reload}

theorem Orderly.abort (h : Orderly server) (hreload : server.reload = some reload)
    (hcommitted : reload.stage.committed = false)
    (hnext : server'.reload = (server.abort reload).reload)
    (hsessions : server'.sessions = server.sessions) (hrevision : server'.revision = server.revision)
    (hactive : server'.active = server.active) (hlatch : server'.latch = server.latch)
    (hquiet : ∀ fan, reload.stage.fan = some fan → fan.sent = []) : Orderly server' := by
  apply h.toStage (.aborting (.new server.registered)) hreload hnext hsessions hrevision
    hactive hlatch hcommitted.symm
  · intro mark hmark
    cases hmark
  · intro hclosed
    cases hclosed
  · rintro fan ⟨⟩
    exact ⟨proper_registered server, rfl⟩
  · exact hquiet
  · intro connection actor hsession hrunning hasks
    refine ⟨hasks.halfway hcommitted, fun hwaits => ?_⟩
    exact (hwaits (.inl (registered_of_running hsession hrunning))).elim

theorem done_iff : fan.done = true ↔ fan.unsent = [] ∧ fan.sent = [] := by
  simp [FanOut.done]

theorem Orderly.finish (h : Orderly server) (hstep : server.finish = some server') :
    Orderly server' := by
  obtain ⟨reload, hreload, hstep⟩ := Option.bind_eq_some_iff.mp hstep
  obtain ⟨fan, hfan, hstep⟩ := Option.bind_eq_some_iff.mp hstep
  obtain ⟨hdone, hstep⟩ := Option.ite_none_left_eq_some.mp hstep
  obtain ⟨current, hcurrent, hstage⟩ := RuntimeServer.fan_eq_some hfan
  cases hcurrent.symm.trans hreload
  obtain ⟨hunsent, hsent⟩ := done_iff.mp (by simpa using hdone)
  have hquiet : ∀ other, reload.stage.fan = some other → other.sent = [] := by
    intro other hother
    cases hother.symm.trans hstage
    exact hsent
  have hwaits : ∀ connection, ¬ fan.Waits connection := by
    intro connection
    unfold FanOut.Waits
    rw [hunsent, hsent]
    simp
  split at hstep
  · next attempt mark fan' hpreparing =>
    rw [hpreparing] at hstage
    cases hstage
    have hcommitted : reload.stage.committed = false := by rw [hpreparing]; rfl
    split at hstep
    · cases hstep
      exact h.abort hreload hcommitted rfl rfl rfl rfl rfl hquiet
    · next hworks =>
      split at hstep
      · next hmark =>
        -- every session has answered, and none has moved the directory
        cases hstep
        refine h.toStage (.prepared mark) hreload rfl rfl rfl rfl rfl hcommitted.symm ?_ ?_ ?_
          hquiet ?_
        · rintro _ ⟨⟩
          exact hmark.le
        · intro hclosed
          cases hclosed
        · intro fan hfan
          cases hfan
        · intro connection actor _ _ hasks
          rw [hpreparing] at hasks
          exact ⟨hasks.1, hasks.2 (hwaits connection) (by simpa using hworks)⟩
      · split at hstep
        · cases hstep
          exact h.abort hreload hcommitted rfl rfl rfl rfl rfl hquiet
        · cases hstep
          refine h.toStage (.preparing (attempt + 1) server.revision (.new server.registered)) hreload
            rfl rfl rfl rfl rfl hcommitted.symm ?_ ?_ ?_ hquiet ?_
          · rintro _ ⟨⟩
            exact Nat.le_refl _
          · intro hclosed
            cases hclosed
          · rintro fan ⟨⟩
            exact ⟨proper_registered server, rfl⟩
          · intro connection actor hsession hrunning hasks
            rw [hpreparing] at hasks
            exact ⟨hasks.1, fun hnot =>
              (hnot (.inl (registered_of_running hsession hrunning))).elim⟩
  · next mark events fan' hsealing =>
    rw [hsealing] at hstage
    cases hstage
    have hcommitted : reload.stage.committed = false := by rw [hsealing]; rfl
    split at hstep
    · cases hstep
      exact h.abort hreload hcommitted rfl rfl rfl rfl rfl hquiet
    · next hworks =>
      cases hstep
      have hworks : fan.failed = false := by
        have := hworks
        simp only [Bool.or_eq_true, not_or] at this
        simpa using this.1
      refine h.toStage .sealed hreload rfl rfl rfl rfl rfl hcommitted.symm ?_ ?_ ?_ hquiet ?_
      · intro mark hmark
        cases hmark
      · intro _
        exact h.closed reload hreload (by rw [hsealing]; rfl)
      · intro fan hfan
        cases hfan
      · intro connection actor _ _ hasks
        rw [hsealing] at hasks
        exact hasks.2.2 (hwaits connection) hworks
  · next fan' haborting =>
    rw [haborting] at hstage
    cases hstage
    cases hstep
    have hcommitted : reload.stage.committed = false := by rw [haborting]; rfl
    constructor
    · intro _
      exact (h.pending reload hreload hcommitted).1
    · intro current hcurrent
      cases hcurrent
    · intro current hcurrent
      cases hcurrent
    · intro current mark hcurrent
      cases hcurrent
    · intro current hcurrent
      cases hcurrent
    · intro current fan hcurrent
      cases hcurrent
    · intro connection actor hsession hrunning
      have hstands := h.stands connection actor hsession hrunning
      constructor
      · intro _
        have hasks := hstands.asks reload hreload
        rw [haborting] at hasks
        exact hasks.2 (hwaits connection)
      · intro current hcurrent
        cases hcurrent
      · intro current fan hcurrent
        cases hcurrent
      · intro _
        apply hstands.quiet
        intro current other hcurrent hother hmem
        cases hcurrent.symm.trans hreload
        rw [hquiet other hother] at hmem
        cases hmem
      · exact hstands.seen
  · cases hstep

theorem Orderly.spawn {phase : SessionPhase} (h : Orderly server)
    (hopened : server.admission = .opened) :
    Orderly { server with
      sessions := server.sessions ++ [.new server.active.revision server.latch phase]
      revision := server.revision + 1 } where
  rests := h.rests
  pending := h.pending
  committed := h.committed
  mark := fun reload mark hreload hmark => Nat.le_succ_of_le (h.mark reload mark hreload hmark)
  closed := h.closed
  fan := by
    intro reload fan hreload hfan
    have hproper := h.fan reload fan hreload hfan
    dsimp only
    rw [List.length_append]
    constructor
    · intro connection hmem
      exact ⟨Nat.lt_add_right _ (hproper.unsent connection hmem).1, (hproper.unsent connection hmem).2⟩
    · intro connection hmem
      exact Nat.lt_add_right _ (hproper.sent connection hmem)
  stands := by
    intro connection actor hsession hrunning
    unfold RuntimeServer.session at hsession
    dsimp only at hsession ⊢
    rw [List.getElem?_append] at hsession
    split at hsession
    · exact h.stands_later hsession hrunning (Nat.le_succ _)
    · next hnew =>
      have hactor := List.mem_of_getElem? hsession
      rw [List.mem_singleton] at hactor
      subst hactor
      have hwaits : ∀ reload fan, server.reload = some reload → reload.stage.fan = some fan →
          ¬ fan.Waits connection := by
        rintro reload fan hreload hfan (hunsent | hsent)
        · exact hnew ((h.fan reload fan hreload hfan).unsent connection hunsent).1
        · exact hnew ((h.fan reload fan hreload hfan).sent connection hsent)
      have hrests : Rests server.active.revision
          (.new server.active.revision server.latch phase) := by
        apply Rests.running rfl
        unfold SessionActor.new TransportSessionIo.new TransportSessionIo.Runs
        dsimp only
        split <;> simp
      constructor
      · exact fun _ => hrests
      · intro reload hreload
        have hclosed : reload.stage.closed = false := by
          cases hstage : reload.stage.closed with
          | false => rfl
          | true =>
            rw [h.closed reload hreload hstage] at hopened
            cases hopened
        cases hstage : reload.stage with
        | staged => exact hrests
        | preparing attempt mark fan =>
          refine ⟨.inl hrests, fun _ _ hrevision => ?_⟩
          have := h.mark reload mark hreload (by rw [hstage]; rfl)
          omega
        | prepared mark =>
          refine ⟨.inl hrests, fun hrevision => ?_⟩
          have := h.mark reload mark hreload (by rw [hstage]; rfl)
          omega
        | published => exact hrests
        | resumed => exact hrests
        | aborting fan => exact ⟨.inl hrests, fun _ => hrests⟩
        | _ =>
          rw [hstage] at hclosed
          cases hclosed
      · intro reload fan hreload hfan hsent
        exact (hwaits reload fan hreload hfan (.inr hsent)).elim
      · exact fun _ => rfl
      · exact h.latch_le

end Registry

section FanOuts

variable {server server' : RuntimeServer} {connection : Nat} {reload : Reload}

theorem Orderly.withFan {fan' : FanOut} (h : Orderly server) (hreload : server.reload = some reload)
    (hfan : reload.stage.fan = some fan)
    (hnext : server'.reload = some { reload with stage := reload.stage.withFan fan' })
    (hsessions : ∀ other, other ≠ connection → server'.session other = server.session other)
    (hlength : server'.sessions.length = server.sessions.length)
    (hle : server.revision ≤ server'.revision) (hactive : server'.active = server.active)
    (hlatch : server'.latch = server.latch) (hadmission : server'.admission = server.admission)
    (hproper : fan'.Proper server.sessions.length)
    (hwaits : ∀ other, other ≠ connection → (fan'.Waits other ↔ fan.Waits other))
    (hsent : ∀ other, other ≠ connection → (other ∈ fan'.sent ↔ other ∈ fan.sent))
    (hfailed : fan'.failed = false → fan.failed = false)
    (hself : ∀ actor, server'.session connection = some actor → actor.stage = .running →
      Stands server.active.revision server'.revision
        (some { reload with stage := reload.stage.withFan fan' }) connection actor) :
    Orderly server' := by
  have hsome : ∀ current, server'.reload = some current →
      current = { reload with stage := reload.stage.withFan fan' } := by
    intro current hcurrent
    exact Option.some.inj (hcurrent.symm.trans hnext)
  constructor
  · intro hnone
    cases hnone.symm.trans hnext
  · intro current hcurrent hnot
    cases hsome current hcurrent
    rw [hactive, hlatch]
    exact h.pending reload hreload ((withFan_committed _ _).symm.trans hnot)
  · intro current hcurrent hyes
    cases hsome current hcurrent
    rw [hactive, hlatch]
    exact h.committed reload hreload ((withFan_committed _ _).symm.trans hyes)
  · intro current mark hcurrent hmark
    cases hsome current hcurrent
    exact Nat.le_trans (h.mark reload mark hreload ((withFan_mark _ _).symm.trans hmark)) hle
  · intro current hcurrent hclosed
    cases hsome current hcurrent
    exact hadmission.trans (h.closed reload hreload ((withFan_closed _ _).symm.trans hclosed))
  · intro current other hcurrent hother
    cases hsome current hcurrent
    rw [hlength]
    cases (withFan_fan hfan).symm.trans hother
    exact hproper
  · intro other actor hsession hrunning
    rw [hactive, hnext]
    rcases eq_or_ne other connection with rfl | hne
    · exact hself actor hsession hrunning
    · rw [hsessions other hne] at hsession
      have hstands := h.stands_later hsession hrunning hle
      constructor
      · intro hnone
        cases hnone
      · rintro current ⟨⟩
        exact (hstands.asks reload hreload).withFan hfan (hwaits other hne) hfailed
      · rintro current known ⟨⟩ hknown hmem
        cases (withFan_fan hfan).symm.trans hknown
        obtain ⟨control, hsends, hcontrols⟩ :=
          hstands.waits reload fan hreload hfan ((hsent other hne).mp hmem)
        refine ⟨control, ?_, hcontrols⟩
        obtain ⟨target, actor, resyncEvents, hcontrol⟩ := hsends
        refine ⟨target, actor, resyncEvents, ?_⟩
        unfold RuntimeServer.nextControl at hcontrol ⊢
        cases hstage : reload.stage <;> rw [hstage] at hcontrol <;> exact hcontrol
      · intro hquiet
        apply hstands.quiet
        intro current known hcurrent hknown hmem
        cases hcurrent.symm.trans hreload
        cases hknown.symm.trans hfan
        exact hquiet _ fan' rfl (withFan_fan hfan) ((hsent other hne).mpr hmem)
      · exact hstands.seen

theorem FanOut.Proper.answer (h : fan.Proper count) (works : Bool) :
    (fan.answer connection works).Proper count where
  unsent := fun other hmem => ⟨(h.unsent other hmem).1, fun hsent =>
    (h.unsent other hmem).2 (List.mem_of_mem_filter hsent)⟩
  sent := fun other hmem => h.sent other (List.mem_of_mem_filter hmem)

theorem failed_or {failed works : Bool} (h : (failed || !works) = false) :
    failed = false ∧ works = true := by
  simpa using h

/-- The answer of a session that goes on comes with the state that the stage asks for then. -/
theorem Orderly.answered {works : Bool} (h : Orderly server) (hle : server.revision ≤ next.2)
    (hself : next.1.stage = .running →
      ∃ reload fan, server.reload = some reload ∧ reload.stage.fan = some fan ∧
        connection ∈ fan.sent ∧
        (reload.stage.withFan (fan.answer connection works)).Asks server.active.revision
          reload.candidate.revision next.2 connection next.1 ∧
        next.1.controls = [] ∧ next.1.seen ≤ server.active.revision) :
    Orderly ((server.update connection next).answered connection works) := by
  rcases RuntimeServer.answered_cases (server.update connection next) connection works with
    ⟨hnone, hunsent⟩ | ⟨reload, fan, hreload, hfan, hmem, hanswered⟩
  · rw [hnone]
    apply h.update hle
    intro hrunning
    obtain ⟨reload, fan, hreload, hfan, hmem, -⟩ := hself hrunning
    refine (hunsent fan ?_ hmem).elim
    exact Option.bind_eq_some_iff.mpr ⟨reload, hreload, hfan⟩
  · rw [hanswered]
    refine h.withFan hreload hfan rfl
      (fun other hne => RuntimeServer.session_update_ne hne next) (RuntimeServer.update_length next)
      hle rfl rfl rfl ((h.fan reload fan hreload hfan).answer works)
      (fun other hne => waits_answer works hne) (fun other hne => ?_)
      (fun hworks => (failed_or hworks).1) (fun actor hsession hrunning => ?_)
    · unfold FanOut.answer
      simp [hne]
    · rcases RuntimeServer.session_update hsession with ⟨-, rfl⟩ | ⟨hne, -⟩
      · obtain ⟨current, known, hcurrent, hknown, -, hasks, hcontrols, hseen⟩ := hself hrunning
        cases hcurrent.symm.trans hreload
        cases hknown.symm.trans hfan
        constructor
        · intro hnone
          cases hnone
        · rintro current ⟨⟩
          exact hasks
        · rintro current known ⟨⟩ hknown hsent
          cases (withFan_fan hfan).symm.trans hknown
          simp [FanOut.answer] at hsent
        · exact fun _ => hcontrols
        · exact hseen
      · exact (hne rfl).elim

end FanOuts

section Stepped

variable {server server' : RuntimeServer} {connection : Nat}

theorem Stands.waiting {reload : Option Reload} {control : SessionControl}
    {rest : List SessionControl} (h : Stands active revision reload connection actor)
    (hcontrols : actor.controls = control :: rest) :
    ∃ current fan, reload = some current ∧ current.stage.fan = some fan ∧
      connection ∈ fan.sent ∧ current.Sends control ∧ rest = [] := by
  by_contra hnot
  have hquiet : actor.controls = [] := by
    apply h.quiet
    intro current fan hcurrent hfan hsent
    obtain ⟨sent, hsends, hsingle⟩ := h.waits current fan hcurrent hfan hsent
    rw [hcontrols] at hsingle
    cases hsingle
    exact hnot ⟨current, fan, hcurrent, hfan, hsent, hsends, rfl⟩
  rw [hcontrols] at hquiet
  cases hquiet

theorem waits_answer_self (h : fan.Proper count) (hsent : connection ∈ fan.sent) (works : Bool) :
    ¬ (fan.answer connection works).Waits connection := by
  rintro (hunsent | hmem)
  · exact (h.unsent connection hunsent).2 hsent
  · simp [FanOut.answer] at hmem

theorem Orderly.control {calls : ControlCalls} (h : Orderly server)
    (hstep : server.step encoders (.control connection calls) = some server') :
    Orderly server' := by
  obtain ⟨actor, control, rest, next, hsession, hrunning, -, hcontrols, rfl, hle, hnext⟩ :=
    RuntimeServer.control_step hstep
  have hstands := h.stands connection actor hsession hrunning
  obtain ⟨reload, fan, hreload, hfan, hsent, hsends, rfl⟩ := hstands.waiting hcontrols
  apply h.answered hle
  intro hgoesOn
  obtain ⟨hleaves, hcontrolled⟩ := hnext hgoesOn
  have hkeeps := control_keeps encoders { actor with controls := [] }
    server.active.revision server.revision calls control
  have hlives : Lives server.active.revision actor { actor with controls := [] } :=
    .of_same rfl rfl rfl rfl
  refine ⟨reload, fan, hreload, hfan, hsent, ?_, ?_, ?_⟩
  · -- the state after the control, for each fan-out
    have hasks := hstands.asks reload hreload
    have hanswered := waits_answer_self (h.fan reload fan hreload hfan) hsent
      ((({ actor with controls := [] } : SessionActor).handleSessionControl encoders
        server.active.revision server.revision calls control).acknowledged)
    obtain ⟨target, other, resyncEvents, hcontrol⟩ := hsends
    unfold RuntimeServer.nextControl at hcontrol
    rw [hcontrolled]
    cases hstage : reload.stage with
    | preparing attempt mark current =>
      rw [hstage] at hfan hasks hcontrol
      cases hfan
      cases hcontrol
      have hlater := (h.pending reload hreload (by rw [hstage]; rfl)).2
      obtain ⟨heither, hready, -⟩ := control_prepare encoders server.revision calls
        hlater
        (hasks.1.imp hlives.rests (hlives.ready _ hlater))
      exact ⟨heither, fun _ hworks _ => hready (failed_or hworks).2⟩
    | sealing mark events current =>
      rw [hstage] at hfan hasks hcontrol
      cases hfan
      cases hcontrol
      have hlater := (h.pending reload hreload (by rw [hstage]; rfl)).2
      obtain ⟨hhalfway, hfrozen, -⟩ := control_seal encoders server.revision calls _
        (hlives.ready _ hlater (hasks.2.1 (.inr hsent)))
      exact ⟨hhalfway, fun hwaits => (hanswered hwaits).elim,
        fun _ hworks => hfrozen (failed_or hworks).2⟩
    | aborting current =>
      rw [hstage] at hfan hasks hcontrol
      cases hfan
      cases hcontrol
      have hlater := (h.pending reload hreload (by rw [hstage]; rfl)).2
      have hrests := control_abort encoders server.revision calls hlater
        (hasks.1.imp hlives.rests (hlives.halfway _ hlater)) hleaves
      exact ⟨.inl hrests, fun _ => hrests⟩
    | _ =>
      rw [hstage] at hfan
      cases hfan
  · rw [hcontrolled]
    exact hkeeps.controls
  · rw [hcontrolled, hkeeps.seen]
    exact hstands.seen

end Stepped

section Stepped

variable {server server' : RuntimeServer} {connection : Nat}

theorem FanOut.Proper.send (h : fan.Proper count) (hunsent : connection ∈ fan.unsent) :
    (fan.send connection).Proper count where
  unsent := by
    intro other hmem
    obtain ⟨hmem, hne⟩ := List.mem_filter.mp hmem
    refine ⟨(h.unsent other hmem).1, fun hsent => ?_⟩
    rcases List.mem_cons.mp hsent with rfl | hsent
    · simp at hne
    · exact (h.unsent other hmem).2 hsent
  sent := by
    intro other hmem
    rcases List.mem_cons.mp hmem with rfl | hsent
    · exact (h.unsent _ hunsent).1
    · exact h.sent other hsent

theorem FanOut.Proper.skip (h : fan.Proper count) (works : Bool) :
    (fan.skip connection works).Proper count where
  unsent := fun other hmem => h.unsent other (List.mem_of_mem_filter hmem)
  sent := h.sent

theorem Orderly.send {resyncEvents : List CoreEvent} (h : Orderly server)
    (hstep : server.step encoders (.send connection resyncEvents) = some server') :
    Orderly server' := by
  obtain ⟨reload, fan, actor, control, hreload, hfan, hsession, hunsent, hcontrol,
    ⟨hremoved, rfl⟩ | ⟨-, rfl⟩⟩ := RuntimeServer.send_step hstep
  · refine h.withFan hreload hfan rfl (fun _ _ => rfl) rfl (Nat.le_refl _) rfl rfl rfl
      ((h.fan reload fan hreload hfan).skip _) (fun other hne => waits_skip _ hne)
      (fun _ _ => Iff.rfl) (fun hworks => (failed_or hworks).1) (fun other hother hrunning => ?_)
    cases hother.symm.trans hsession
    rw [hremoved] at hrunning
    cases hrunning
  · refine h.withFan hreload hfan rfl
      (fun other hne => RuntimeServer.session_update_ne hne (_, server.revision))
      (RuntimeServer.update_length (_, server.revision)) (Nat.le_refl _) rfl rfl rfl
      ((h.fan reload fan hreload hfan).send hunsent) (fun other _ => waits_send hunsent)
      (fun other hne => ?_) id (fun other hother hrunning => ?_)
    · unfold FanOut.send
      simp [hne]
    · rcases RuntimeServer.session_update hother with ⟨-, rfl⟩ | ⟨hne, -⟩
      · have hstands := h.stands connection actor hsession hrunning
        have hcontrols : actor.controls = [] := by
          apply hstands.quiet
          intro current known hcurrent hknown
          cases hcurrent.symm.trans hreload
          cases hknown.symm.trans hfan
          exact ((h.fan reload fan hreload hfan).unsent connection hunsent).2
        have hlives : Lives server.active.revision actor
            { actor with controls := actor.controls ++ [control] } := .of_same rfl rfl rfl rfl
        constructor
        · intro hnone
          cases hnone
        · rintro current ⟨⟩
          exact ((hstands.asks reload hreload).withFan hfan (waits_send hunsent) id).lives hlives
            (fun hnot => (h.pending reload hreload ((withFan_committed _ _).symm.trans hnot)).2)
            (Nat.le_refl _) fun mark hmark =>
              h.mark reload mark hreload ((withFan_mark _ _).symm.trans hmark)
        · rintro current known ⟨⟩ - -
          refine ⟨control, ⟨connection, actor, resyncEvents, ?_⟩, by simp [hcontrols]⟩
          unfold RuntimeServer.nextControl at hcontrol ⊢
          cases hstage : reload.stage <;> rw [hstage] at hcontrol <;> exact hcontrol
        · intro hquiet
          exact (hquiet _ _ rfl (withFan_fan hfan) (List.mem_cons_self)).elim
        · exact hstands.seen
      · exact (hne rfl).elim

theorem Orderly.remove (h : Orderly server)
    (hstep : server.step encoders (.remove connection) = some server') : Orderly server' := by
  obtain ⟨actor, hsession, hstep⟩ := Option.bind_eq_some_iff.mp hstep
  obtain ⟨-, ⟨⟩⟩ := Option.ite_none_right_eq_some.mp hstep
  apply h.answered (Nat.le_succ _)
  intro hrunning
  cases hrunning

theorem Orderly.of_none (hreload : server.reload = none)
    (hlatch : server.latch = server.active.revision)
    (hstands : ∀ connection actor, server.session connection = some actor →
      actor.stage = .running → Rests server.active.revision actor ∧ actor.controls = [] ∧
        actor.seen ≤ server.active.revision) : Orderly server where
  rests := fun _ => hlatch
  pending := by simp [hreload]
  committed := by simp [hreload]
  mark := by simp [hreload]
  closed := by simp [hreload]
  fan := by simp [hreload]
  stands := by
    intro connection actor hsession hrunning
    obtain ⟨hrests, hcontrols, hseen⟩ := hstands connection actor hsession hrunning
    exact ⟨fun _ => hrests, by simp [hreload], by simp [hreload], fun _ => hcontrols, hseen⟩

theorem Orderly.resting {reload : Reload} (h : Orderly server) (hreload : server.reload = some reload)
    (hfan : reload.stage.fan = none) {actor : SessionActor}
    (hsession : server.session connection = some actor) (hrunning : actor.stage = .running) :
    actor.controls = [] ∧ actor.seen ≤ server.active.revision ∧
      reload.stage.Asks server.active.revision reload.candidate.revision server.revision
        connection actor := by
  have hstands := h.stands connection actor hsession hrunning
  refine ⟨hstands.quiet fun current fan hcurrent hsome => ?_, hstands.seen,
    hstands.asks reload hreload⟩
  cases hcurrent.symm.trans hreload
  cases hfan.symm.trans hsome

theorem quiet_of_fan_none {stage : ReloadStage} (hnone : stage.fan = none) :
    ∀ fan, stage.fan = some fan → fan.sent = [] := by
  intro fan hsome
  cases hnone.symm.trans hsome

theorem Orderly.onward {reload : Reload} (h : Orderly server) (hreload : server.reload = some reload)
    (stage : ReloadStage) (hnext : server'.reload = some { reload with stage := stage })
    (hsessions : server'.sessions = server.sessions) (hrevision : server'.revision = server.revision)
    (hactive : server'.active = server.active) (hlatch : server'.latch = server.latch)
    (hcommitted : stage.committed = reload.stage.committed)
    (hmark : ∀ mark, stage.mark = some mark → reload.stage.mark = some mark)
    (hclosed : stage.closed = true → server'.admission = .closed)
    (hbefore : reload.stage.fan = none) (hafter : stage.fan = none)
    (hasks : ∀ {active candidate revision connection : Nat} {actor : SessionActor},
      reload.stage.Asks active candidate revision connection actor →
      stage.Asks active candidate revision connection actor) : Orderly server' := by
  refine h.toStage stage hreload hnext hsessions hrevision hactive hlatch hcommitted
    (fun mark hsome => h.mark reload mark hreload (hmark mark hsome)) hclosed ?_
    (quiet_of_fan_none hbefore) (fun _ _ _ _ => hasks)
  intro fan hfan
  cases hafter.symm.trans hfan

theorem Orderly.stage {candidate : RuntimeEpoch} {forceResync : Bool} (h : Orderly server)
    (hstep : server.step encoders (.stage candidate forceResync) = some server') :
    Orderly server' := by
  obtain ⟨⟨hnone, hcandidate⟩, ⟨⟩⟩ := Option.ite_none_right_eq_some.mp hstep
  rw [Option.isNone_iff_eq_none] at hnone
  constructor
  · intro hsome
    cases hsome
  · rintro reload ⟨⟩ -
    exact ⟨h.rests hnone, hcandidate ▸ Nat.lt_succ_self _⟩
  · rintro reload ⟨⟩ hcommitted
    cases hcommitted
  · rintro reload mark ⟨⟩ hmark
    cases hmark
  · rintro reload ⟨⟩ hclosed
    cases hclosed
  · rintro reload fan ⟨⟩ hfan
    cases hfan
  · intro connection actor hsession hrunning
    have hstands := h.stands connection actor hsession hrunning
    constructor
    · intro hsome
      cases hsome
    · rintro current ⟨⟩
      exact hstands.rests hnone
    · rintro current fan ⟨⟩ hfan
      cases hfan
    · intro _
      apply hstands.quiet
      intro current fan hcurrent
      cases hnone.symm.trans hcurrent
    · exact hstands.seen

theorem Orderly.prepare (h : Orderly server) (hstep : server.step encoders .prepare = some server') :
    Orderly server' := by
  obtain ⟨reload, hreload, hstep⟩ := Option.bind_eq_some_iff.mp hstep
  split at hstep
  · next hstage =>
    cases hstep
    refine h.toStage (.preparing 1 server.revision (.new server.registered)) hreload rfl rfl rfl
      rfl rfl (by rw [hstage]; rfl) ?_ ?_ ?_ (quiet_of_fan_none (by rw [hstage]; rfl)) ?_
    · rintro _ ⟨⟩
      exact Nat.le_refl _
    · intro hclosed
      cases hclosed
    · rintro fan ⟨⟩
      exact ⟨proper_registered server, rfl⟩
    · intro connection actor hsession hrunning hasks
      rw [hstage] at hasks
      exact ⟨.inl hasks, fun hnot =>
        (hnot (.inl (registered_of_running hsession hrunning))).elim⟩
  · cases hstep

theorem Orderly.sealCutover (h : Orderly server)
    (hstep : server.step encoders .sealCutover = some server') : Orderly server' := by
  obtain ⟨reload, hreload, hstep⟩ := Option.bind_eq_some_iff.mp hstep
  split at hstep
  · next mark events hstage hjournal =>
    have hquiet : ∀ fan, reload.stage.fan = some fan → fan.sent = [] :=
      quiet_of_fan_none (by rw [hstage]; rfl)
    split at hstep
    · next hmark =>
      cases hstep
      refine h.toStage (.sealing mark events (.new server.registered)) hreload rfl rfl rfl rfl rfl
        (by rw [hstage]; rfl) ?_ (fun _ => h.closed reload hreload (by rw [hstage]; rfl)) ?_
        hquiet ?_
      · intro other hother
        cases hother
      · rintro fan ⟨⟩
        exact ⟨proper_registered server, rfl⟩
      · intro connection actor hsession hrunning hasks
        rw [hstage] at hasks
        have hready := hasks.2 hmark
        exact ⟨hready.halfway, fun _ => hready, fun hnot =>
          (hnot (.inl (registered_of_running hsession hrunning))).elim⟩
    · cases hstep
      exact h.abort hreload (by rw [hstage]; rfl) rfl rfl rfl rfl rfl hquiet
  · cases hstep

theorem Orderly.publishEpoch (h : Orderly server)
    (hstep : server.step encoders .publishEpoch = some server') : Orderly server' := by
  obtain ⟨reload, hreload, hstep⟩ := Option.bind_eq_some_iff.mp hstep
  split at hstep
  · next hstage =>
    cases hstep
    obtain ⟨hlatch, hlater⟩ := h.pending reload hreload (by rw [hstage]; rfl)
    constructor
    · intro hnone
      cases hnone
    · rintro current ⟨⟩ hnot
      cases hnot
    · rintro current ⟨⟩ -
      exact ⟨hlatch ▸ hlater, rfl⟩
    · rintro current mark ⟨⟩ hmark
      cases hmark
    · rintro current ⟨⟩ hclosed
      cases hclosed
    · rintro current fan ⟨⟩ hfan
      cases hfan
    · intro connection actor hsession hrunning
      obtain ⟨hcontrols, hseen, hasks⟩ :=
        h.resting hreload (by rw [hstage]; rfl) hsession hrunning
      rw [hstage] at hasks
      obtain ⟨phase, pending, hlifecycle, hcandidate⟩ := Frozen.lifecycle hasks
      have hrests : Rests reload.candidate.revision actor :=
        .frozen hlifecycle hcandidate (Nat.lt_of_le_of_lt hseen hlater) (Frozen.io hasks)
      refine ⟨fun _ => hrests, ?_, ?_, fun _ => hcontrols, Nat.le_of_lt (hseen.trans_lt hlater)⟩
      · rintro current ⟨⟩
        exact hrests
      · rintro current fan ⟨⟩ hfan
        cases hfan
  · cases hstep

/-- **What every step keeps.** -/
theorem Orderly.stepped (h : Orderly server) (hstep : server.step encoders a = some server') :
    Orderly server' := by
  cases a with
  | spawn phase =>
    obtain ⟨⟨-, hopened⟩, ⟨⟩⟩ := Option.ite_none_right_eq_some.mp hstep
    exact h.spawn hopened
  | commit events =>
    cases hstep
    exact ⟨h.rests, h.pending, h.committed, h.mark, h.closed, h.fan, h.stands⟩
  | remove connection => exact h.remove hstep
  | control connection calls => exact h.control hstep
  | stage candidate forceResync => exact h.stage hstep
  | send connection resyncEvents => exact h.send hstep
  | finish => exact h.finish hstep
  | prepare => exact h.prepare hstep
  | sealCutover => exact h.sealCutover hstep
  | publishEpoch => exact h.publishEpoch hstep
  | stageFails =>
    obtain ⟨reload, hreload, hstep⟩ := Option.bind_eq_some_iff.mp hstep
    split at hstep
    · next hstage =>
      cases hstep
      refine .of_none rfl (h.pending reload hreload (by rw [hstage]; rfl)).1 ?_
      intro connection actor hsession hrunning
      obtain ⟨hcontrols, hseen, hasks⟩ :=
        h.resting hreload (by rw [hstage]; rfl) hsession hrunning
      rw [hstage] at hasks
      exact ⟨hasks, hcontrols, hseen⟩
    · cases hstep
  | close =>
    obtain ⟨reload, hreload, hstep⟩ := Option.bind_eq_some_iff.mp hstep
    split at hstep
    · next mark hstage =>
      cases hstep
      exact h.onward hreload (.freezing mark) rfl rfl rfl rfl rfl (by rw [hstage]; rfl)
        (by rw [hstage]; exact fun _ hmark => hmark) (fun _ => rfl) (by rw [hstage]; rfl) rfl
        (by rw [hstage]; exact fun hasks => hasks)
    · cases hstep
  | freeze =>
    obtain ⟨reload, hreload, hstep⟩ := Option.bind_eq_some_iff.mp hstep
    split at hstep
    · next mark hstage =>
      obtain ⟨-, ⟨⟩⟩ := Option.ite_none_right_eq_some.mp hstep
      exact h.onward hreload (.frozen mark) rfl rfl rfl rfl rfl (by rw [hstage]; rfl)
        (by rw [hstage]; exact fun _ hmark => hmark)
        (fun _ => h.closed reload hreload (by rw [hstage]; rfl)) (by rw [hstage]; rfl) rfl
        (by rw [hstage]; exact fun hasks => hasks)
    · cases hstep
  | freezeFails =>
    obtain ⟨reload, hreload, hstep⟩ := Option.bind_eq_some_iff.mp hstep
    split at hstep
    · next mark hstage =>
      cases hstep
      exact h.abort hreload (by rw [hstage]; rfl) rfl rfl rfl rfl rfl
        (quiet_of_fan_none (by rw [hstage]; rfl))
    · cases hstep
  | resume =>
    obtain ⟨reload, hreload, hstep⟩ := Option.bind_eq_some_iff.mp hstep
    split at hstep
    · next hstage =>
      cases hstep
      exact h.onward hreload .resumed rfl rfl rfl rfl rfl (by rw [hstage]; rfl)
        (fun _ hmark => by cases hmark) (fun hclosed => by cases hclosed) (by rw [hstage]; rfl) rfl
        (by rw [hstage]; exact fun hasks => hasks)
    · cases hstep
  | activateEpoch =>
    obtain ⟨reload, hreload, hstep⟩ := Option.bind_eq_some_iff.mp hstep
    split at hstep
    · next hstage =>
      cases hstep
      refine .of_none rfl (h.committed reload hreload (by rw [hstage]; rfl)).2 ?_
      intro connection actor hsession hrunning
      obtain ⟨hcontrols, hseen, hasks⟩ :=
        h.resting hreload (by rw [hstage]; rfl) hsession hrunning
      rw [hstage] at hasks
      exact ⟨hasks, hcontrols, hseen⟩
    · cases hstep
  | _ => exact h.own rfl hstep

end Stepped

/-! ### The frames -/

/-- The frames that the activation of the active epoch puts in front. -/
def SessionLifecycle.owed (active : Nat) : SessionLifecycle → List WireFrame
  | .transferFrozen _ _ pending =>
    if pending.epochRevision = active then pending.resyncFrames else []
  | _ => []

/-- What was written to the client, and what will be. -/
def SessionActor.planned (actor : SessionActor) (active : Nat) : List WireFrame :=
  actor.io.written ++ actor.lifecycle.owed active ++ actor.io.unwritten

/-- What was planned for the client is written in this order, and new frames come after it. -/
structure Plans (active : Nat) (actor actor' : SessionActor) : Prop where
  written : actor.io.written <+: actor'.io.written
  planned : actor.planned active <+: actor'.planned active

theorem Plans.trans {actor'' : SessionActor} (h : Plans active actor actor')
    (h' : Plans active actor' actor'') : Plans active actor actor'' :=
  ⟨h.written.trans h'.written, h.planned.trans h'.planned⟩

theorem Plans.of_same (howed : actor'.lifecycle.owed active = actor.lifecycle.owed active)
    (hwritten : actor'.io.written = actor.io.written)
    (hunwritten : actor'.io.unwritten = actor.io.unwritten) : Plans active actor actor' := by
  constructor
  · rw [hwritten]
  · unfold SessionActor.planned
    rw [howed, hwritten, hunwritten]

section Planned

variable {actor' : SessionActor} {connection : Nat}

theorem resumeWriter_frames (io : TransportSessionIo) (frames : List WireFrame) :
    (io.resumeWriterWithFront frames).written = io.written ∧
      (io.resumeWriterWithFront frames).unwritten = frames ++ io.unwritten := by
  unfold TransportSessionIo.resumeWriterWithFront
  split
  · next hnothing =>
    obtain ⟨-, hempty⟩ := Bool.and_eq_true_iff.mp hnothing
    rw [List.isEmpty_iff.mp hempty]
    exact ⟨rfl, rfl⟩
  · exact ⟨rfl, List.append_assoc _ _ _⟩

theorem resumeTransport_frames (io : TransportSessionIo) :
    io.resumeTransport.1.written = io.written ∧ io.resumeTransport.1.unwritten = io.unwritten := by
  unfold TransportSessionIo.resumeTransport
  split <;> exact ⟨rfl, rfl⟩

theorem pauseWriter_frames (io : TransportSessionIo) (works : Bool) :
    (io.pauseWriter works).1.written = io.written ∧
      (io.pauseWriter works).1.unwritten = io.unwritten := by
  unfold TransportSessionIo.pauseWriter
  split
  · exact ⟨rfl, rfl⟩
  · split <;> exact ⟨rfl, rfl⟩

theorem freezeTransport_frames (io : TransportSessionIo) (works : Bool) :
    (io.freezeTransport works).1.written = io.written ∧
      (io.freezeTransport works).1.unwritten = io.unwritten := by
  unfold TransportSessionIo.freezeTransport
  split
  · exact ⟨rfl, rfl⟩
  · split <;> exact ⟨rfl, rfl⟩
  · exact ⟨rfl, rfl⟩
  · exact ⟨rfl, rfl⟩

theorem withActive_owed (lifecycle : SessionLifecycle) (phase : SessionPhase) :
    (lifecycle.withActive phase).owed active = lifecycle.owed active := by
  cases lifecycle <;> rfl

theorem Activated.plans (h : Activated active revision actor next) : Plans active actor next.1 := by
  cases h with
  | prepared _ _ => exact .of_same rfl rfl rfl
  | running _ =>
    obtain ⟨hwritten, hunwritten⟩ := resumeWriter_frames actor.io []
    exact .of_same rfl hwritten hunwritten
  | @frozen epochRevision phase pending hlifecycle hcommitted _ =>
    obtain ⟨hwritten, hunwritten⟩ := resumeWriter_frames actor.io.resumeTransport.1
      pending.resyncFrames
    obtain ⟨hsame, hqueued⟩ := resumeTransport_frames actor.io
    constructor
    · dsimp only
      rw [hwritten, hsame]
    · -- the frames in front are the ones that were owed
      unfold SessionActor.planned
      dsimp only
      rw [hwritten, hunwritten, hsame, hqueued, hlifecycle]
      simp [SessionLifecycle.owed, hcommitted]

/-- A session that owes frames does not write. -/
def Holds (active : Nat) (actor : SessionActor) : Prop :=
  actor.io.writerPaused = true ∨ actor.lifecycle.owed active = []

theorem Rests.holds (h : Rests active actor) : Holds active actor := by
  cases h with
  | running hlifecycle _ =>
    right
    rw [hlifecycle]
    rfl
  | frozen _ _ _ hio => exact .inl hio.1

theorem Halfway.owed (hlater : active < candidate) (h : Halfway active candidate actor) :
    actor.lifecycle.owed active = [] := by
  obtain ⟨phase, pending, hlifecycle | hlifecycle, hcandidate⟩ := h
  · rw [hlifecycle]
    rfl
  · rw [hlifecycle]
    exact if_neg (by omega)

theorem write_frames {io' : TransportSessionIo} (h : io.write = some io') :
    ∃ frame, io'.written = io.written ++ [frame] ∧ io.unwritten = frame :: io'.unwritten := by
  unfold TransportSessionIo.write at h
  split at h
  · cases h
  · split at h
    · next queue frame front hfront =>
      cases h
      refine ⟨frame, rfl, ?_⟩
      unfold TransportSessionIo.unwritten
      rw [hfront]
      rfl
    · next frame queue hfront hqueue =>
      cases h
      refine ⟨frame, rfl, ?_⟩
      unfold TransportSessionIo.unwritten
      rw [hfront, hqueue]
      rfl
    · cases h

theorem Moves.plans {epoch : RuntimeEpoch} {latch : Nat} (hholds : Holds epoch.revision actor)
    (h : Moves encoders epoch latch revision actor a next) : Plans epoch.revision actor next.1 := by
  cases h with
  | frame hactivated _ => exact hactivated.plans.trans (.of_same (withActive_owed _ _) rfl rfl)
  | @message _ works message rest before phase _ hactivated _ _ =>
    refine hactivated.plans.trans ⟨List.prefix_rfl, ?_⟩
    refine ⟨(handleOutgoingEvents encoders phase [] message works).2.1, ?_⟩
    unfold SessionActor.planned
    dsimp only
    rw [withActive_owed]
    simp [TransportSessionIo.enqueue, TransportSessionIo.unwritten]
  | enter hactivated => exact hactivated.plans
  | publish _ _ => exact .of_same (by simp) (by simp) (by simp)
  | transferred _ _ | dispatch => exact .of_same rfl rfl rfl
  | write hwrites =>
    obtain ⟨frame, hwritten, hunwritten⟩ := write_frames hwrites
    have howed : actor.lifecycle.owed epoch.revision = [] := by
      rcases hholds with hpaused | howed
      · unfold TransportSessionIo.write at hwrites
        rw [if_pos hpaused] at hwrites
        cases hwrites
      · exact howed
    refine ⟨⟨[frame], hwritten.symm⟩, ?_⟩
    unfold SessionActor.planned
    dsimp only
    rw [howed, hwritten, hunwritten]
    simp
  | wake _ hactivated =>
    refine Plans.trans ?_ hactivated.plans
    exact .of_same rfl rfl rfl
  | sleep _ _ => exact .of_same rfl rfl rfl

theorem prepare_owed (encoders : Encoders) (lifecycle : SessionLifecycle)
    (candidate : RuntimeEpoch) (resyncEvents : List CoreEvent) (forceResync : Bool)
    (calls : ControlCalls) :
    (prepareSessionCutover encoders lifecycle candidate resyncEvents forceResync calls).1.owed
      active = lifecycle.owed active := by
  unfold prepareSessionCutover
  cases lifecycle with
  | running epochRevision phase =>
    dsimp only
    split <;> rfl
  | cutoverPrepared activeEpochRevision phase pending =>
    dsimp only
    split
    · split <;> rfl
    · rfl
  | transferFrozen activeEpochRevision phase pending => rfl
  | transferred => rfl

theorem control_prepare_plans (encoders : Encoders) (calls : ControlCalls)
    (resyncEvents : List CoreEvent) (forceResync : Bool) {candidate : RuntimeEpoch}
    (hworks : (actor.activateCommittedCutover active revision).2.2 = true) :
    Plans active actor (actor.handleSessionControl encoders active revision calls
      (.prepareCutover candidate resyncEvents forceResync)).actor := by
  unfold SessionActor.handleSessionControl
  dsimp only
  rw [if_pos hworks]
  exact (activate_ok hworks).plans.trans (.of_same (prepare_owed _ _ _ _ _ _) rfl rfl)

theorem control_seal_plans (encoders : Encoders) (calls : ControlCalls)
    (finalEvents : List CoreEvent) (hlater : active < candidate)
    (h : Ready active candidate actor) :
    Plans active actor (actor.handleSessionControl encoders active revision calls
      (.sealCutover candidate finalEvents)).actor := by
  obtain ⟨hhalfway, -⟩ := control_seal encoders revision calls finalEvents h
  have howed := (h.halfway.owed hlater)
  refine .of_same ((hhalfway.owed hlater).trans howed.symm) ?_ ?_
  all_goals
    obtain ⟨hpaused, hqueued⟩ := pauseWriter_frames actor.io calls.pauses
    obtain ⟨hfrozen, hkept⟩ := freezeTransport_frames (actor.io.pauseWriter calls.pauses).1
      calls.freezes
    unfold SessionActor.handleSessionControl
    dsimp only
  · split
    · exact hpaused
    · split <;> exact hfrozen.trans hpaused
  · split
    · exact hqueued
    · split <;> exact hkept.trans hqueued

theorem control_abort_plans (encoders : Encoders) (calls : ControlCalls)
    (hlater : active < candidate) (h : Rests active actor ∨ Halfway active candidate actor) :
    Plans active actor (actor.handleSessionControl encoders active revision calls
      (.abortCutover candidate)).actor := by
  have hresume : ∀ phase : SessionPhase, actor.lifecycle.owed active = [] →
      Plans active actor { actor with
        lifecycle := .running active phase
        io := actor.io.resumeTransport.1.resumeWriterWithFront [] } := by
    intro phase howed
    obtain ⟨hsame, hqueued⟩ := resumeTransport_frames actor.io
    obtain ⟨hwritten, hunwritten⟩ := resumeWriter_frames actor.io.resumeTransport.1 []
    exact .of_same howed.symm (hwritten.trans hsame) (hunwritten.trans hqueued)
  unfold SessionActor.handleSessionControl
  dsimp only
  rcases h with h | h
  · cases h with
    | running hlifecycle _ =>
      rw [hlifecycle]
      exact .of_same rfl rfl rfl
    | frozen hlifecycle hcommitted _ _ =>
      rw [hlifecycle]
      dsimp only
      rw [if_neg (by omega)]
      exact .of_same rfl rfl rfl
  · have howed := h.owed hlater
    obtain ⟨phase, pending, hlifecycle | hlifecycle, hcandidate⟩ := h
    · rw [hlifecycle]
      dsimp only
      rw [if_pos hcandidate]
      exact hresume phase howed
    · rw [hlifecycle]
      dsimp only
      rw [if_pos hcandidate]
      exact hresume phase howed

end Planned

section Outcome

variable {server server' : RuntimeServer} {connection : Nat}

theorem Stands.holds {reload : Option Reload}
    (h : Stands active revision reload connection actor)
    (hlater : ∀ current, reload = some current → current.stage.committed = false →
      active < current.candidate.revision) : Holds active actor := by
  cases hreload : reload with
  | none => exact (h.rests hreload).holds
  | some current =>
    have hasks := h.asks current hreload
    cases hcommitted : current.stage.committed with
    | false =>
      rcases hasks.halfway hcommitted with hrests | hhalfway
      · exact hrests.holds
      · exact .inr (hhalfway.owed (hlater current hreload hcommitted))
    | true =>
      cases hstage : current.stage with
      | published | resumed =>
        rw [hstage] at hasks
        exact Rests.holds hasks
      | _ =>
        rw [hstage] at hcommitted
        cases hcommitted

/-- What is planned for a session that goes on, over a step that publishes no epoch. -/
theorem Orderly.plans (h : Orderly server) (hstep : server.step encoders a = some server')
    (hsession : server.session connection = some actor)
    (hnext : server'.session connection = some actor') (hrunning : actor'.stage = .running) :
    actor.stage = .running ∧ Plans server.active.revision actor actor' := by
  obtain ⟨hlive, hchanges⟩ := RuntimeServer.session_step hstep hsession hnext hrunning
  refine ⟨hlive, ?_⟩
  have hstands := h.stands connection actor hsession hlive
  have hlater : ∀ current, server.reload = some current → current.stage.committed = false →
      server.active.revision < current.candidate.revision :=
    fun current hcurrent hcommitted => (h.pending current hcurrent hcommitted).2
  generalize server'.revision = later at hchanges
  cases hchanges with
  | stays _ => exact .of_same rfl rfl rfl
  | moves _ hmoves => exact hmoves.plans (hstands.holds hlater)
  | queues _ _ _ _ => exact .of_same rfl rfl rfl
  | @controls calls control rest _ hcontrols _ =>
    obtain ⟨reload, fan, hreload, hfan, hsent, hsends, rfl⟩ := hstands.waiting hcontrols
    have hasks := hstands.asks reload hreload
    have hlives : Lives server.active.revision actor { actor with controls := [] } :=
      .of_same rfl rfl rfl rfl
    apply Plans.trans (show Plans _ actor { actor with controls := [] } from .of_same rfl rfl rfl)
    obtain ⟨target, other, resyncEvents, hcontrol⟩ := hsends
    unfold RuntimeServer.nextControl at hcontrol
    cases hstage : reload.stage with
    | preparing attempt mark current =>
      rw [hstage] at hasks hcontrol
      cases hcontrol
      have hlater := hlater reload hreload (by rw [hstage]; rfl)
      apply control_prepare_plans
      rcases hasks.1.imp hlives.rests (hlives.ready _ hlater) with hrests | hready
      · exact hrests.activates _
      · exact hready.activates hlater _
    | sealing mark events current =>
      rw [hstage] at hfan hasks hcontrol
      cases hfan
      cases hcontrol
      have hlater := hlater reload hreload (by rw [hstage]; rfl)
      exact control_seal_plans encoders calls _ hlater
        (hlives.ready _ hlater (hasks.2.1 (.inr hsent)))
    | aborting current =>
      rw [hstage] at hasks hcontrol
      cases hcontrol
      have hlater := hlater reload hreload (by rw [hstage]; rfl)
      exact control_abort_plans encoders calls hlater
        (hasks.1.imp hlives.rests (hlives.halfway _ hlater))
    | _ =>
      rw [hstage] at hfan
      cases hfan

theorem Orderly.new (active : RuntimeEpoch) : Orderly (.new active) := by
  refine .of_none rfl rfl ?_
  intro connection actor hsession
  cases hsession

theorem Orderly.run {steps : List CutoverStep} (h : Orderly server)
    (hrun : server.run encoders steps = some server') : Orderly server' :=
  Steps.run_keeps (fun _ _ _ hbefore _ hstep => hbefore.stepped hstep) h (Steps.along_true _ _) hrun

theorem Orderly.run_plans {steps : List CutoverStep} (h : Orderly server)
    (hrun : server.run encoders steps = some server') (hnot : .publishEpoch ∉ steps)
    (hsession : server.session connection = some actor)
    (hnext : server'.session connection = some actor') (hrunning : actor'.stage = .running) :
    actor.stage = .running ∧ Plans server.active.revision actor actor' := by
  induction steps generalizing server actor with
  | nil =>
    cases hrun
    cases hsession.symm.trans hnext
    exact ⟨hrunning, .of_same rfl rfl rfl⟩
  | cons a rest ih =>
    obtain ⟨middle, hstep, hrest⟩ := Option.bind_eq_some_iff.mp hrun
    obtain ⟨hfirst, hrest'⟩ := not_or.mp (List.mem_cons.not.mp hnot)
    obtain ⟨between, hbetween⟩ := RuntimeServer.session_stays hstep hsession
    obtain ⟨hlive, hlater⟩ := ih (h.stepped hstep) hrest hrest' hbetween
    obtain ⟨hbefore, hplans⟩ := h.plans hstep hsession hbetween hlive
    rw [RuntimeServer.active_step hstep (Ne.symm hfirst)] at hlater
    exact ⟨hbefore, hplans.trans hlater⟩

end Outcome

section Reloads

variable {first : RuntimeEpoch} {steps : List CutoverStep} {server : RuntimeServer}

/-- **Every outcome of a reload leaves the sessions running.**  Once no reload is going on, a
    session that goes on, has handled its controls and has no new epoch latch to see runs in the
    active epoch, with its writer and its peer.  A commit puts the frames of the resync before the
    ones that are waiting; whatever else happens, an aborted reload included, what is planned for a
    session is written in order, and frames are only added behind it. -/
theorem every_outcome_leaves_sessions_running
    (hrun : (RuntimeServer.new first).run encoders steps = some server) :
    (∀ connection actor, server.session connection = some actor → actor.stage = .running →
      server.reload = none → actor.controls = [] →
      actor.observe server.active server.latch server.revision = none →
      ∃ phase, actor.lifecycle = .running server.active.revision phase ∧
        actor.io.writerPaused = false ∧ (actor.io.peer = none ∨ actor.io.peer = some .running)) ∧
    (∀ server' connection actor, server.step encoders .publishEpoch = some server' →
      server.session connection = some actor → actor.stage = .running →
      ∃ epochRevision phase pending,
        actor.lifecycle = .transferFrozen epochRevision phase pending ∧
        actor.io.writerPaused = true ∧ server'.session connection = some actor ∧
        actor.planned server.active.revision = actor.io.written ++ actor.io.unwritten ∧
        actor.planned server'.active.revision =
          actor.io.written ++ pending.resyncFrames ++ actor.io.unwritten) ∧
    (∀ later server' connection actor actor', .publishEpoch ∉ later →
      server.run encoders later = some server' → server.session connection = some actor →
      server'.session connection = some actor' → actor'.stage = .running →
      server'.active = server.active ∧ actor.io.written <+: actor'.io.written ∧
        actor.planned server.active.revision <+: actor'.planned server'.active.revision) := by
  have horderly : Orderly server := (Orderly.new first).run hrun
  refine ⟨?_, ?_, ?_⟩
  · intro connection actor hsession hrunning hreload _ hobserved
    have hstands := horderly.stands connection actor hsession hrunning
    cases hstands.rests hreload with
    | running hlifecycle hio => exact ⟨_, hlifecycle, hio⟩
    | frozen hlifecycle hcommitted hunseen _ =>
      -- it has still to see the latch of the active epoch
      exfalso
      have hlatch := horderly.rests hreload
      unfold SessionActor.observe at hobserved
      rw [hlifecycle] at hobserved
      dsimp only at hobserved
      rw [if_neg (by omega), if_pos (by omega)] at hobserved
      cases hobserved
  · intro server' connection actor hstep hsession hrunning
    obtain ⟨reload, hreload, hstep⟩ := Option.bind_eq_some_iff.mp hstep
    split at hstep
    · next hstage =>
      cases hstep
      have hasks := (horderly.stands connection actor hsession hrunning).asks reload hreload
      rw [hstage] at hasks
      have hlater := (horderly.pending reload hreload (by rw [hstage]; rfl)).2
      have howed := (Frozen.halfway hasks).owed hlater
      obtain ⟨phase, pending, hlifecycle, hcandidate⟩ := Frozen.lifecycle hasks
      refine ⟨_, phase, pending, hlifecycle, (Frozen.io hasks).1, hsession, ?_, ?_⟩
      · unfold SessionActor.planned
        rw [howed, List.append_nil]
      · show _ ++ actor.lifecycle.owed reload.candidate.revision ++ _ = _
        rw [hlifecycle]
        exact congrArg (_ ++ · ++ _) (if_pos hcandidate)
    · cases hstep
  · intro later server' connection actor actor' hnot hlater hsession hnext hrunning
    have hactive := RuntimeServer.active_run hlater hnot
    obtain ⟨-, hwritten, hplanned⟩ := horderly.run_plans hlater hnot hsession hnext hrunning
    rw [hactive]
    exact ⟨rfl, hwritten, hplanned⟩

/-! ### A server with one plugin -/

def onlyAdapter (transport : TransportKind) (object generation : Nat) : ProtocolAdapter :=
  ⟨object, "only", transport, if transport = .udp then .be else .je, 5, [], some generation⟩

def onlyGameplay (object generation : Nat) : GameplayProfileHandle :=
  ⟨object, "canonical", [], some generation⟩

def onlyGeneration (transport : TransportKind) (revision object generation : Nat) :
    ActiveGeneration :=
  ⟨revision, [onlyAdapter transport object generation], onlyAdapter transport object generation⟩

/-- An epoch whose plugins are those objects, of that plugin generation. -/
def onlyEpoch (transport : TransportKind) (revision object generation : Nat) : RuntimeEpoch :=
  ⟨revision, onlyGeneration transport revision object generation, [], "canonical",
    [onlyGameplay object generation]⟩

def onlyBinding (transport : TransportKind) (revision object generation : Nat) : BoundSession :=
  .new (onlyGeneration transport revision object generation) transport
    (onlyAdapter transport object generation) (onlyGameplay object generation) none

def onlyEncoders : Encoders :=
  ⟨fun _ _ _ _ _ => [[1]], fun _ _ _ => [2], fun _ _ _ _ => [3]⟩

def workingControl : ControlCalls := ⟨true, true, true, []⟩

def workingFrame (onlineMode : Bool) : FrameCalls :=
  ⟨onlineMode, true, true, [1, 2, 3, 4], some 1, true, true⟩

/-- A reload with one session, up to its commit; some steps fall between preparing and closing the
    data plane. -/
def reloadSteps (candidate : RuntimeEpoch) (between : List CutoverStep) : List CutoverStep :=
  [.stage candidate false, .prepare, .send 0 [], .control 0 workingControl, .finish] ++ between ++
    [.close, .freeze, .sealCutover, .send 0 [], .control 0 workingControl, .finish, .publishEpoch,
      .resume, .activateEpoch]

/-- A reload with one session, up to the answer to its seal. -/
def sealSteps (resyncEvents : List CoreEvent) (calls : ControlCalls) : List CutoverStep :=
  [.stage (onlyEpoch .udp 2 2 2) false, .prepare, .send 0 resyncEvents, .control 0 workingControl,
    .finish, .close, .freeze, .sealCutover, .send 0 [], .control 0 calls, .finish]

/-- A player logs in over Bedrock; a reload is aborted when the plugins do not seal, the next one
    commits, and the session writes what it was brought up to date with. -/
def abortedThenCommitted : List CutoverStep :=
  [.spawn (.login (.negotiating (onlyBinding .udp 1 1 1))),
    .dispatch 0 [.loginAccepted ⟨7⟩ ⟨3⟩
      ⟨⟨7⟩, "alice", ⟨0, 0, 0⟩, 0, 0, true, .overworld, 0, 0, 0, .newEmpty, 0⟩],
    .message 0 [], .publish 0, .write 0] ++
  sealSteps [] ⟨true, true, false, []⟩ ++ [.send 0 [], .control 0 workingControl, .finish] ++
  sealSteps [.keepAliveRequested 4] workingControl ++
  [.publishEpoch, .resume, .activateEpoch, .observe 0, .write 0]

theorem every_outcome_leaves_sessions_running_bedrock :
    ∃ server actor phase, (RuntimeServer.new (onlyEpoch .udp 1 1 1)).run onlyEncoders
        abortedThenCommitted = some server ∧
      server.session 0 = some actor ∧ actor.lifecycle = .running 2 phase ∧
      actor.io.writerPaused = false ∧ actor.io.peer = some .running ∧
      actor.io.written.map WireFrame.bytes = [[2], [1]] := by
  have hruns : (((RuntimeServer.new (onlyEpoch .udp 1 1 1)).run onlyEncoders
      abortedThenCommitted).any fun server =>
      decide (server.reload = none ∧ server.active.revision = 2) &&
        (server.session 0).any fun actor =>
          decide (actor.stage = .running ∧ actor.controls = [] ∧ actor.io.peer ≠ none ∧
            (actor.observe server.active server.latch server.revision).isNone = true ∧
            actor.io.written.map WireFrame.bytes = [[2], [1]])) = true := by
    decide +kernel
  obtain ⟨server, hrun, hlast⟩ := (Option.any_eq_true _ _).mp hruns
  obtain ⟨hover, hlast⟩ := Bool.and_eq_true_iff.mp hlast
  obtain ⟨actor, hsession, hlast⟩ := (Option.any_eq_true _ _).mp hlast
  obtain ⟨hreload, hactive⟩ := of_decide_eq_true hover
  obtain ⟨hrunning, hcontrols, hpeer, hobserved, hwritten⟩ := of_decide_eq_true hlast
  obtain ⟨phase, hlifecycle, hwriter, hresumed⟩ :=
    (every_outcome_leaves_sessions_running hrun).1 0 actor hsession hrunning hreload hcontrols
      (Option.isNone_iff_eq_none.mp hobserved)
  exact ⟨server, actor, phase, hrun, hsession, hactive ▸ hlifecycle, hwriter,
    hresumed.resolve_left hpeer, hwritten⟩

end Reloads

end RevyCraft.Cutover
