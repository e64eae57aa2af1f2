/-
  RevyCraft/CutoverMoves.lean
  ===========================
  **What a step can do to a session** — the inversion of the step function of
  `CutoverRuns`.

  A step of a session on its own either ends it or is one of `Moves`.  A control
  is handled by a session that is in no operation.  The steps of the registry
  change the reload, and queue at most one control.
-/
import RevyCraft.CutoverRuns

namespace RevyCraft.Cutover

variable {encoders : Encoders} {actor : SessionActor} {active revision : Nat}

/-! ### Publishing and activating -/

section Publish

variable (actor) (revision) (phase : SessionPhase)

theorem publishDirectory_eq : actor.publishDirectory revision phase =
    ({ actor with entry := (actor.publishDirectory revision phase).1.entry },
      (actor.publishDirectory revision phase).2) := by
  unfold SessionActor.publishDirectory
  split <;> rfl

@[simp] theorem publishDirectory_stage :
    (actor.publishDirectory revision phase).1.stage = actor.stage := by rw [publishDirectory_eq]
@[simp] theorem publishDirectory_lifecycle :
    (actor.publishDirectory revision phase).1.lifecycle = actor.lifecycle := by
  rw [publishDirectory_eq]
@[simp] theorem publishDirectory_busy :
    (actor.publishDirectory revision phase).1.busy = actor.busy := by rw [publishDirectory_eq]
@[simp] theorem publishDirectory_controls :
    (actor.publishDirectory revision phase).1.controls = actor.controls := by
  rw [publishDirectory_eq]
@[simp] theorem publishDirectory_messages :
    (actor.publishDirectory revision phase).1.messages = actor.messages := by
  rw [publishDirectory_eq]
@[simp] theorem publishDirectory_seen :
    (actor.publishDirectory revision phase).1.seen = actor.seen := by rw [publishDirectory_eq]
@[simp] theorem publishDirectory_io :
    (actor.publishDirectory revision phase).1.io = actor.io := by rw [publishDirectory_eq]
@[simp] theorem publishDirectory_handled :
    (actor.publishDirectory revision phase).1.handled = actor.handled := by
  rw [publishDirectory_eq]

theorem le_publishDirectory : revision ≤ (actor.publishDirectory revision phase).2 := by
  unfold SessionActor.publishDirectory
  split
  · exact Nat.le_refl _
  · exact Nat.le_succ _

end Publish

@[simp] theorem leave_stage : (actor.leave revision).1.stage = .leaving := by
  unfold SessionActor.leave
  cases actor.lifecycle.active <;> simp

theorem le_leave : revision ≤ (actor.leave revision).2 := by
  unfold SessionActor.leave
  cases actor.lifecycle.active with
  | none => exact Nat.le_refl _
  | some phase => exact le_publishDirectory _ _ _

/-- What an activation that works has found, and the session after it. -/
inductive Activated (active revision : Nat) (actor : SessionActor) : SessionActor × Nat → Prop where
  | prepared {phase : SessionPhase} {pending : PendingSessionState}
      (lifecycle : actor.lifecycle = .cutoverPrepared active phase pending)
      (other : pending.epochRevision ≠ active) : Activated active revision actor (actor, revision)
  | running {phase : SessionPhase} (lifecycle : actor.lifecycle = .running active phase) :
      Activated active revision actor
        ({ actor with io := actor.io.resumeWriterWithFront [] }, revision)
  | frozen {activeEpochRevision : Nat} {phase : SessionPhase} {pending : PendingSessionState}
      (lifecycle : actor.lifecycle = .transferFrozen activeEpochRevision phase pending)
      (committed : pending.epochRevision = active) (resumes : actor.io.resumeTransport.2 = true) :
      Activated active revision actor
        ({ (actor.publishDirectory revision pending.phase).1 with
            lifecycle := .running active pending.phase
            io := actor.io.resumeTransport.1.resumeWriterWithFront pending.resyncFrames },
          (actor.publishDirectory revision pending.phase).2)

theorem activate_ok (hworks : (actor.activateCommittedCutover active revision).2.2 = true) :
    Activated active revision actor ((actor.activateCommittedCutover active revision).1,
      (actor.activateCommittedCutover active revision).2.1) := by
  obtain ⟨stage, lifecycle, busy, entry, controls, messages, seen, io, handled⟩ := actor
  unfold SessionActor.activateCommittedCutover at hworks ⊢
  cases lifecycle with
  | running epochRevision phase =>
    dsimp only at hworks ⊢
    split at hworks
    · next hrevision =>
      subst hrevision
      rw [if_pos rfl]
      exact .running rfl
    · cases hworks
  | cutoverPrepared activeEpochRevision phase pending =>
    obtain ⟨hother, hrevision⟩ := by simpa using hworks
    subst hrevision
    exact .prepared rfl hother
  | transferFrozen activeEpochRevision phase pending =>
    dsimp only at hworks ⊢
    split at hworks
    · next hrevision =>
      rw [if_pos hrevision]
      rw [publishDirectory_io] at hworks ⊢
      split at hworks
      · next hresumes =>
        rw [if_pos hresumes]
        exact .frozen rfl hrevision hresumes
      · cases hworks
    · cases hworks
  | transferred => cases hworks

variable {next : SessionActor × Nat} {epoch : RuntimeEpoch} {latch : Nat} {a : CutoverStep}

theorem Activated.le (h : Activated active revision actor next) : revision ≤ next.2 := by
  cases h with
  | prepared _ _ => exact Nat.le_refl _
  | running _ => exact Nat.le_refl _
  | frozen _ _ _ => exact le_publishDirectory _ _ _

/-! ### The steps of a session on its own -/

theorem le_activate (actor : SessionActor) (active revision : Nat) :
    revision ≤ (actor.activateCommittedCutover active revision).2.1 := by
  unfold SessionActor.activateCommittedCutover
  cases actor.lifecycle with
  | running epochRevision phase =>
    dsimp only
    split <;> exact Nat.le_refl _
  | cutoverPrepared activeEpochRevision phase pending => exact Nat.le_refl _
  | transferFrozen activeEpochRevision phase pending =>
    dsimp only
    split
    · split <;> exact le_publishDirectory _ _ _
    · exact Nat.le_refl _
  | transferred => exact Nat.le_refl _

/-- What a step of its own does to a session that goes on: the session after it, and the revision
    of the directory. -/
inductive Moves (encoders : Encoders) (epoch : RuntimeEpoch) (latch revision : Nat)
    (actor : SessionActor) : CutoverStep → SessionActor × Nat → Prop where
  | frame {connection : Nat} {frame : IncomingFrame} {calls : FrameCalls}
      {next : SessionActor × Nat} {phase : SessionPhase}
      (activated : Activated epoch.revision revision actor next)
      (active : next.1.lifecycle.active = some phase) :
      Moves encoders epoch latch revision actor (.frame connection frame calls)
        ({ next.1 with
            lifecycle :=
              next.1.lifecycle.withActive (handleIncomingFrame epoch calls phase frame).1
            busy := true }, next.2)
  | message {connection : Nat} {works : List Bool} {message : List CoreEvent}
      {rest : List (List CoreEvent)} {next : SessionActor × Nat} {phase : SessionPhase}
      (queued : actor.messages = message :: rest)
      (activated : Activated epoch.revision revision actor next)
      (active : next.1.lifecycle.active = some phase)
      (goesOn : (handleOutgoingEvents encoders phase [] message works).2.2 = .goesOn) :
      Moves encoders epoch latch revision actor (.message connection works)
        ({ next.1 with
            lifecycle := next.1.lifecycle.withActive
              (handleOutgoingEvents encoders phase [] message works).1
            messages := rest
            handled := next.1.handled ++ message
            io := next.1.io.enqueue (handleOutgoingEvents encoders phase [] message works).2.1
            busy := true }, next.2)
  | enter {connection : Nat} {next : SessionActor × Nat}
      (activated : Activated epoch.revision revision actor next) :
      Moves encoders epoch latch revision actor (.enter connection) next
  | publish {connection : Nat} {phase : SessionPhase} (busy : actor.busy = true)
      (active : actor.lifecycle.active = some phase) :
      Moves encoders epoch latch revision actor (.publish connection)
        (({ actor with busy := false } : SessionActor).publishDirectory revision phase)
  | transferred {connection : Nat} (busy : actor.busy = true)
      (active : actor.lifecycle.active = none) :
      Moves encoders epoch latch revision actor (.publish connection)
        ({ actor with busy := false }, revision)
  | dispatch {connection : Nat} {events : List CoreEvent} :
      Moves encoders epoch latch revision actor (.dispatch connection events)
        ({ actor with messages := actor.messages ++ [events] }, revision)
  | write {connection : Nat} {io : TransportSessionIo} (writes : actor.io.write = some io) :
      Moves encoders epoch latch revision actor (.write connection) ({ actor with io := io }, revision)
  | wake {connection epochRevision : Nat} {phase : SessionPhase} {pending : PendingSessionState}
      {next : SessionActor × Nat}
      (lifecycle : actor.lifecycle = .transferFrozen epochRevision phase pending)
      (activated : Activated epoch.revision revision { actor with seen := latch } next) :
      Moves encoders epoch latch revision actor (.observe connection) next
  | sleep {connection epochRevision : Nat} {phase : SessionPhase} {pending : PendingSessionState}
      (lifecycle : actor.lifecycle = .transferFrozen epochRevision phase pending)
      (other : latch ≠ pending.epochRevision) :
      Moves encoders epoch latch revision actor (.observe connection)
        ({ actor with seen := latch }, revision)

theorem Moves.le (h : Moves encoders epoch latch revision actor a next) : revision ≤ next.2 := by
  cases h with
  | frame hactivated _ => exact hactivated.le
  | message _ hactivated _ _ => exact hactivated.le
  | enter hactivated => exact hactivated.le
  | publish _ _ => exact le_publishDirectory _ _ _
  | transferred _ _ => exact Nat.le_refl _
  | dispatch => exact Nat.le_refl _
  | write _ => exact Nat.le_refl _
  | wake _ hactivated => exact hactivated.le
  | sleep _ _ => exact Nat.le_refl _

theorem Activated.controls (h : Activated active revision actor next) :
    next.1.controls = actor.controls := by
  cases h <;> simp

theorem Moves.controls (h : Moves encoders epoch latch revision actor a next) :
    next.1.controls = actor.controls := by
  cases h with
  | frame hactivated _ | message _ hactivated _ _ | enter hactivated => exact hactivated.controls
  | publish _ _ => simp
  | transferred _ _ => rfl
  | dispatch => rfl
  | write _ => rfl
  | wake _ hactivated => exact hactivated.controls
  | sleep _ _ => rfl

/-- A step of a session on its own: the directory goes on, and the session is left or moves. -/
structure Own (encoders : Encoders) (epoch : RuntimeEpoch) (latch revision : Nat)
    (actor : SessionActor) (a : CutoverStep) (next : SessionActor × Nat) : Prop where
  le : revision ≤ next.2
  moves : next.1.stage = .running → actor.stage = .running ∧
    Moves encoders epoch latch revision actor a next

theorem Own.of_leave {actor' : SessionActor} {later : Nat} (h : revision ≤ later) :
    Own encoders epoch latch revision actor a (actor'.leave later) where
  le := Nat.le_trans h le_leave
  moves := by simp

theorem Own.of_moves (hstage : next.1.stage = actor.stage)
    (h : Moves encoders epoch latch revision actor a next) :
    Own encoders epoch latch revision actor a next where
  le := h.le
  moves := fun hrunning => ⟨hstage ▸ hrunning, h⟩

theorem Activated.stage (h : Activated active revision actor next) :
    next.1.stage = actor.stage := by
  cases h <;> simp

section Local

variable {epoch : RuntimeEpoch} {latch connection : Nat}

theorem handleFrame_own (frame : IncomingFrame) (calls : FrameCalls) :
    Own encoders epoch latch revision actor (.frame connection frame calls)
      (actor.handleFrame epoch revision frame calls) := by
  unfold SessionActor.handleFrame
  dsimp only
  split
  · next phase hworks hphase =>
    have hactivated := activate_ok hworks
    cases hresult : (handleIncomingFrame epoch calls phase frame).2 with
    | goesOn => exact .of_moves hactivated.stage (.frame hactivated hphase)
    | closes | fails => exact .of_leave hactivated.le
  · exact .of_leave (le_activate _ _ _)

theorem handleMessage_own {message : List CoreEvent} {rest : List (List CoreEvent)}
    (hqueued : actor.messages = message :: rest) (works : List Bool) :
    Own encoders epoch latch revision actor (.message connection works)
      (actor.handleMessage encoders epoch revision message rest works) := by
  unfold SessionActor.handleMessage
  dsimp only
  split
  · next phase hworks hphase =>
    have hactivated := activate_ok hworks
    cases hresult : (handleOutgoingEvents encoders phase [] message works).2.2 with
    | goesOn => exact .of_moves hactivated.stage (.message hqueued hactivated hphase hresult)
    | closes | fails => exact .of_leave hactivated.le
  · exact .of_leave (le_activate _ _ _)

theorem enter_cases (actor : SessionActor) (epoch : RuntimeEpoch) (revision : Nat) :
    Activated epoch.revision revision actor (actor.enter epoch revision) ∨
      ∃ (left : SessionActor) (later : Nat), revision ≤ later ∧
        actor.enter epoch revision = left.leave later := by
  unfold SessionActor.enter
  dsimp only
  split
  · next hworks => exact .inl (activate_ok hworks)
  · exact .inr ⟨_, _, le_activate _ _ _, rfl⟩

theorem publish_own (hbusy : actor.busy = true) :
    Own encoders epoch latch revision actor (.publish connection) (actor.publish revision) := by
  unfold SessionActor.publish
  split
  · next phase hactive => exact .of_moves (by simp) (.publish hbusy hactive)
  · next hactive => exact .of_moves rfl (.transferred hbusy hactive)

theorem observe_own (h : actor.observe epoch latch revision = some next) :
    Own encoders epoch latch revision actor (.observe connection) next := by
  unfold SessionActor.observe at h
  split at h
  · next epochRevision phase pending hlifecycle =>
    obtain ⟨-, h⟩ := Option.ite_none_left_eq_some.mp h
    split at h
    · cases h
      rcases enter_cases { actor with seen := latch } epoch revision with
        hactivated | ⟨left, later, hle, hleft⟩
      · exact .of_moves hactivated.stage (.wake hlifecycle hactivated)
      · rw [hleft]
        exact .of_leave hle
    · next hother =>
      cases h
      exact .of_moves rfl (.sleep hlifecycle hother)
  · cases h

end Local

/-! ### The controls -/

section Controls

variable {candidate : RuntimeEpoch} {calls : ControlCalls}

/-- What every control leaves alone. -/
structure Controlled.Keeps (controlled : Controlled) (actor : SessionActor) (revision : Nat) :
    Prop where
  stage : controlled.actor.stage = actor.stage
  busy : controlled.actor.busy = actor.busy
  controls : controlled.actor.controls = actor.controls
  messages : controlled.actor.messages = actor.messages
  handled : controlled.actor.handled = actor.handled
  seen : controlled.actor.seen = actor.seen
  revision : revision ≤ controlled.revision

theorem activate_keeps (actor : SessionActor) (active revision : Nat) :
    let activated := actor.activateCommittedCutover active revision
    activated.1.stage = actor.stage ∧ activated.1.busy = actor.busy ∧
      activated.1.controls = actor.controls ∧ activated.1.messages = actor.messages ∧
      activated.1.handled = actor.handled ∧ activated.1.seen = actor.seen := by
  unfold SessionActor.activateCommittedCutover
  cases actor.lifecycle with
  | running epochRevision phase =>
    dsimp only
    split <;> simp
  | cutoverPrepared activeEpochRevision phase pending => simp
  | transferFrozen activeEpochRevision phase pending =>
    dsimp only
    split
    · split <;> simp
    · simp
  | transferred => simp

theorem control_keeps (encoders : Encoders) (actor : SessionActor) (active revision : Nat)
    (calls : ControlCalls) (control : SessionControl) :
    (actor.handleSessionControl encoders active revision calls control).Keeps actor revision := by
  cases control with
  | prepareCutover candidate resyncEvents forceResync =>
    obtain ⟨hstage, hbusy, hcontrols, hmessages, hhandled, hseen⟩ :=
      activate_keeps actor active revision
    have hle := le_activate actor active revision
    unfold SessionActor.handleSessionControl
    dsimp only
    split <;> exact ⟨hstage, hbusy, hcontrols, hmessages, hhandled, hseen, hle⟩
  | sealCutover epochRevision finalEvents =>
    unfold SessionActor.handleSessionControl
    dsimp only
    split
    · exact ⟨rfl, rfl, rfl, rfl, rfl, rfl, Nat.le_refl _⟩
    · split <;> exact ⟨rfl, rfl, rfl, rfl, rfl, rfl, Nat.le_refl _⟩
  | abortCutover epochRevision =>
    unfold SessionActor.handleSessionControl
    dsimp only
    split
    · split <;> exact ⟨rfl, rfl, rfl, rfl, rfl, rfl, Nat.le_refl _⟩
    · split <;> exact ⟨rfl, rfl, rfl, rfl, rfl, rfl, Nat.le_refl _⟩
    · exact ⟨rfl, rfl, rfl, rfl, rfl, rfl, Nat.le_refl _⟩

end Controls

/-! ### The steps of the server -/

namespace RuntimeServer

variable {server server' : RuntimeServer} {connection : Nat}

def ownStep : CutoverStep → Option Nat
  | .frame connection _ _ => some connection
  | .message connection _ => some connection
  | .enter connection => some connection
  | .publish connection => some connection
  | .dispatch connection _ => some connection
  | .write connection => some connection
  | .observe connection => some connection
  | .leave connection => some connection
  | _ => none

theorem idle_eq_some (h : server.idle connection = some actor) :
    server.session connection = some actor ∧ actor.stage = .running ∧ actor.busy = false := by
  obtain ⟨hsession, hidle⟩ := Option.filter_eq_some_iff.mp h
  simpa [SessionActor.idle] using And.intro hsession hidle

/-- **A step of a session on its own** changes that session, and the revision of the directory. -/
theorem own_step (hown : ownStep a = some connection) (h : server.step encoders a = some server') :
    ∃ actor next, server.session connection = some actor ∧
      server' = server.update connection next ∧
      Own encoders server.active server.latch server.revision actor a next := by
  cases a with
  | frame connection frame calls =>
    cases hown
    obtain ⟨actor, hidle, h⟩ := Option.bind_eq_some_iff.mp h
    obtain ⟨-, ⟨⟩⟩ := Option.ite_none_right_eq_some.mp h
    exact ⟨actor, _, (idle_eq_some hidle).1, rfl, handleFrame_own frame calls⟩
  | message connection works =>
    cases hown
    obtain ⟨actor, hidle, h⟩ := Option.bind_eq_some_iff.mp h
    split at h
    · next message rest hopened hqueued =>
      cases h
      exact ⟨actor, _, (idle_eq_some hidle).1, rfl, handleMessage_own hqueued works⟩
    · cases h
  | enter connection =>
    cases hown
    obtain ⟨actor, hidle, h⟩ := Option.bind_eq_some_iff.mp h
    obtain ⟨-, ⟨⟩⟩ := Option.ite_none_right_eq_some.mp h
    refine ⟨actor, _, (idle_eq_some hidle).1, rfl, ?_⟩
    rcases enter_cases actor server.active server.revision with
      hactivated | ⟨left, later, hle, hleft⟩
    · exact .of_moves hactivated.stage (.enter hactivated)
    · rw [hleft]
      exact .of_leave hle
  | publish connection =>
    cases hown
    obtain ⟨actor, hsession, h⟩ := Option.bind_eq_some_iff.mp h
    obtain ⟨hbusy, ⟨⟩⟩ := Option.ite_none_right_eq_some.mp h
    exact ⟨actor, _, hsession, rfl, publish_own hbusy⟩
  | dispatch connection events =>
    cases hown
    obtain ⟨actor, hsession, ⟨⟩⟩ := Option.bind_eq_some_iff.mp h
    exact ⟨actor, _, hsession, rfl, .of_moves rfl .dispatch⟩
  | write connection =>
    cases hown
    obtain ⟨actor, hsession, h⟩ := Option.bind_eq_some_iff.mp h
    obtain ⟨io, hwrites, ⟨⟩⟩ := Option.bind_eq_some_iff.mp h
    exact ⟨actor, _, hsession, rfl, .of_moves rfl (.write hwrites)⟩
  | observe connection =>
    cases hown
    obtain ⟨actor, hidle, h⟩ := Option.bind_eq_some_iff.mp h
    obtain ⟨next, hobserve, ⟨⟩⟩ := Option.bind_eq_some_iff.mp h
    exact ⟨actor, next, (idle_eq_some hidle).1, rfl, observe_own hobserve⟩
  | leave connection =>
    cases hown
    obtain ⟨actor, hsession, h⟩ := Option.bind_eq_some_iff.mp h
    obtain ⟨-, ⟨⟩⟩ := Option.ite_none_right_eq_some.mp h
    exact ⟨actor, _, hsession, rfl, .of_leave (Nat.le_refl _)⟩
  | _ => cases hown

theorem session_update_ne {other : Nat} (hne : other ≠ connection) (next : SessionActor × Nat) :
    (server.update connection next).session other = server.session other := by
  unfold session update
  rw [List.getElem?_set_ne (Ne.symm hne)]

theorem session_update {other : Nat}
    (h : (server.update connection next).session other = some actor) :
    other = connection ∧ actor = next.1 ∨
      other ≠ connection ∧ server.session other = some actor := by
  rcases eq_or_ne other connection with rfl | hne
  · left
    obtain ⟨hlt, hactor⟩ := List.getElem?_eq_some_iff.mp h
    exact ⟨rfl, hactor.symm.trans (List.getElem_set_self _)⟩
  · exact .inr ⟨hne, session_update_ne hne next ▸ h⟩

@[simp] theorem update_length (next : SessionActor × Nat) :
    (server.update connection next).sessions.length = server.sessions.length := by
  unfold update
  simp

theorem fan_eq_some {fan : FanOut} (h : server.fan = some fan) :
    ∃ reload, server.reload = some reload ∧ reload.stage.fan = some fan :=
  Option.bind_eq_some_iff.mp h

theorem answered_cases (server : RuntimeServer) (connection : Nat) (works : Bool) :
    (server.answered connection works = server ∧
        ∀ fan, server.fan = some fan → connection ∉ fan.sent) ∨
      ∃ reload fan, server.reload = some reload ∧ reload.stage.fan = some fan ∧
        connection ∈ fan.sent ∧
        server.answered connection works =
          server.withStage reload (reload.stage.withFan (fan.answer connection works)) := by
  unfold answered
  split
  · next reload fan hreload hfan =>
    obtain ⟨current, hcurrent, hstage⟩ := fan_eq_some hfan
    cases hcurrent.symm.trans hreload
    split
    · next hsent => exact .inr ⟨reload, fan, hreload, hstage, hsent, rfl⟩
    · next hsent =>
      refine .inl ⟨rfl, fun other hother => ?_⟩
      cases hother.symm.trans hfan
      exact hsent
  · next hnone =>
    refine .inl ⟨rfl, fun fan hfan => ?_⟩
    obtain ⟨reload, hreload, -⟩ := fan_eq_some hfan
    exact (hnone reload fan hreload hfan).elim

/-- **A session handles a control**: it is in no operation, and it is left if the control revokes
    its transport. -/
theorem control_step {calls : ControlCalls}
    (h : server.step encoders (.control connection calls) = some server') :
    ∃ actor control rest next, server.session connection = some actor ∧
      actor.stage = .running ∧ actor.busy = false ∧ actor.controls = control :: rest ∧
      let controlled := ({ actor with controls := rest } : SessionActor).handleSessionControl encoders
        server.active.revision server.revision calls control
      server' = (server.update connection next).answered connection controlled.acknowledged ∧
        server.revision ≤ next.2 ∧
        (next.1.stage = .running → controlled.leaves = false ∧
          next = (controlled.actor, controlled.revision)) := by
  obtain ⟨actor, hidle, h⟩ := Option.bind_eq_some_iff.mp h
  obtain ⟨hsession, hrunning, hbusy⟩ := idle_eq_some hidle
  unfold control at h
  split at h
  · cases h
  · next control rest hcontrols =>
    cases h
    have hle := (control_keeps encoders { actor with controls := rest }
      server.active.revision server.revision calls control).revision
    refine ⟨actor, control, rest, _, hsession, hrunning, hbusy, hcontrols, rfl, ?_⟩
    split
    · exact ⟨Nat.le_trans hle le_leave, by simp⟩
    · next hleaves => exact ⟨hle, fun _ => ⟨by simpa using hleaves, rfl⟩⟩

/-- **A control is sent** to a session that is registered, or the fan-out passes over it. -/
theorem send_step {resyncEvents : List CoreEvent}
    (h : server.step encoders (.send connection resyncEvents) = some server') :
    ∃ reload fan actor control, server.reload = some reload ∧ reload.stage.fan = some fan ∧
      server.session connection = some actor ∧ connection ∈ fan.unsent ∧
      nextControl reload connection actor resyncEvents = some control ∧
      (actor.stage = .removed ∧ server' = server.withStage reload
          (reload.stage.withFan (fan.skip connection (!needsAnswer reload))) ∨
        actor.stage ≠ .removed ∧ server' = (server.update connection
          ({ actor with controls := actor.controls ++ [control] }, server.revision)).withStage reload
            (reload.stage.withFan (fan.send connection))) := by
  obtain ⟨reload, hreload, h⟩ := Option.bind_eq_some_iff.mp h
  obtain ⟨fan, hfan, h⟩ := Option.bind_eq_some_iff.mp h
  obtain ⟨actor, hsession, h⟩ := Option.bind_eq_some_iff.mp h
  obtain ⟨control, hcontrol, h⟩ := Option.bind_eq_some_iff.mp h
  obtain ⟨current, hcurrent, hstage⟩ := fan_eq_some hfan
  cases hcurrent.symm.trans hreload
  obtain ⟨hunsent, h⟩ := Option.ite_none_left_eq_some.mp h
  refine ⟨reload, fan, actor, control, hreload, hstage, hsession, not_not.mp hunsent, hcontrol, ?_⟩
  split at h
  · next hremoved =>
    cases h
    exact .inl ⟨hremoved, rfl⟩
  · next hremoved =>
    cases h
    exact .inr ⟨hremoved, rfl⟩

/-- The steps of the registry that change the reload only. -/
def stageStep : CutoverStep → Bool
  | .commit _ | .stage _ _ | .stageFails | .prepare | .finish | .close | .freeze | .freezeFails
  | .sealCutover | .publishEpoch | .resume | .activateEpoch => true
  | _ => false

theorem stage_step (hstage : stageStep a = true) (h : server.step encoders a = some server') :
    server'.sessions = server.sessions ∧ server'.revision = server.revision ∧
      (a ≠ .publishEpoch → server'.active = server.active) := by
  cases a with
  | commit events =>
    cases h
    exact ⟨rfl, rfl, fun _ => rfl⟩
  | stage candidate forceResync =>
    obtain ⟨-, ⟨⟩⟩ := Option.ite_none_right_eq_some.mp h
    exact ⟨rfl, rfl, fun _ => rfl⟩
  | finish =>
    obtain ⟨reload, -, h⟩ := Option.bind_eq_some_iff.mp h
    obtain ⟨fan, -, h⟩ := Option.bind_eq_some_iff.mp h
    obtain ⟨-, h⟩ := Option.ite_none_left_eq_some.mp h
    split at h
    · split at h
      · cases h
        exact ⟨rfl, rfl, fun _ => rfl⟩
      · split at h
        · cases h
          exact ⟨rfl, rfl, fun _ => rfl⟩
        · split at h <;>
          · cases h
            exact ⟨rfl, rfl, fun _ => rfl⟩
    · split at h <;>
      · cases h
        exact ⟨rfl, rfl, fun _ => rfl⟩
    · cases h
      exact ⟨rfl, rfl, fun _ => rfl⟩
    · cases h
  | freeze =>
    obtain ⟨reload, -, h⟩ := Option.bind_eq_some_iff.mp h
    split at h
    · obtain ⟨-, ⟨⟩⟩ := Option.ite_none_right_eq_some.mp h
      exact ⟨rfl, rfl, fun _ => rfl⟩
    · cases h
  | sealCutover =>
    obtain ⟨reload, -, h⟩ := Option.bind_eq_some_iff.mp h
    split at h
    · split at h <;>
      · cases h
        exact ⟨rfl, rfl, fun _ => rfl⟩
    · cases h
  | publishEpoch =>
    obtain ⟨reload, -, h⟩ := Option.bind_eq_some_iff.mp h
    split at h
    · cases h
      exact ⟨rfl, rfl, fun hnot => (hnot rfl).elim⟩
    · cases h
  | stageFails | prepare | close | freezeFails | resume | activateEpoch =>
    obtain ⟨reload, -, h⟩ := Option.bind_eq_some_iff.mp h
    split at h
    · cases h
      exact ⟨rfl, rfl, fun _ => rfl⟩
    · cases h
  | _ => cases hstage

/-- What a step of the server does to a session that goes on: the session after it, and the
    revision of the directory. -/
inductive Changes (encoders : Encoders) (server : RuntimeServer) (connection : Nat)
    (actor : SessionActor) : CutoverStep → SessionActor × Nat → Prop where
  | stays {a : CutoverStep} {later : Nat} (le : server.revision ≤ later) :
      Changes encoders server connection actor a (actor, later)
  | moves {a : CutoverStep} {next : SessionActor × Nat} (own : ownStep a = some connection)
      (moves : Moves encoders server.active server.latch server.revision actor a next) :
      Changes encoders server connection actor a next
  | controls {calls : ControlCalls} {control : SessionControl} {rest : List SessionControl}
      (idle : actor.busy = false) (controls : actor.controls = control :: rest)
      (goesOn : (({ actor with controls := rest } : SessionActor).handleSessionControl encoders
        server.active.revision server.revision calls control).leaves = false) :
      Changes encoders server connection actor (.control connection calls)
        ((({ actor with controls := rest } : SessionActor).handleSessionControl encoders
            server.active.revision server.revision calls control).actor,
          (({ actor with controls := rest } : SessionActor).handleSessionControl encoders
            server.active.revision server.revision calls control).revision)
  | queues {reload : Reload} {fan : FanOut} {resyncEvents : List CoreEvent}
      {control : SessionControl} (current : server.reload = some reload)
      (sends : reload.stage.fan = some fan) (unsent : connection ∈ fan.unsent)
      (next : nextControl reload connection actor resyncEvents = some control) :
      Changes encoders server connection actor (.send connection resyncEvents)
        ({ actor with controls := actor.controls ++ [control] }, server.revision)

theorem session_append {actor' : SessionActor} {revision : Nat}
    (h : server.session connection = some actor) :
    ({ server with sessions := server.sessions ++ [actor'], revision := revision } :
      RuntimeServer).session connection = some actor := by
  obtain ⟨hlt, -⟩ := List.getElem?_eq_some_iff.mp h
  unfold session at h ⊢
  rw [List.getElem?_append_left hlt]
  exact h

theorem answered_sessions (server : RuntimeServer) (connection : Nat) (works : Bool) :
    (server.answered connection works).sessions = server.sessions ∧
      (server.answered connection works).revision = server.revision ∧
      (server.answered connection works).active = server.active := by
  rcases answered_cases server connection works with ⟨hnone, -⟩ | ⟨reload, fan, -, -, -, hanswered⟩
  · rw [hnone]
    exact ⟨rfl, rfl, rfl⟩
  · rw [hanswered]
    exact ⟨rfl, rfl, rfl⟩

/-- **A session over a step**: it was in its loop before, and one of `Changes` has happened. -/
theorem session_step {actor' : SessionActor} (h : server.step encoders a = some server')
    (hsession : server.session connection = some actor)
    (hnext : server'.session connection = some actor') (hrunning : actor'.stage = .running) :
    actor.stage = .running ∧
      Changes encoders server connection actor a (actor', server'.revision) := by
  -- the sessions that do not take the step
  have hstays : ∀ later, server'.revision = later → server.revision ≤ later →
      server'.session connection = server.session connection → actor.stage = .running ∧
        Changes encoders server connection actor a (actor', server'.revision) := by
    rintro later rfl hle hsame
    cases (hsame.symm.trans hnext).symm.trans hsession
    exact ⟨hrunning, .stays hle⟩
  cases hown : ownStep a with
  | some target =>
    obtain ⟨before, next, hbefore, rfl, hstep⟩ := own_step hown h
    rcases session_update hnext with ⟨rfl, rfl⟩ | ⟨hne, -⟩
    · cases hbefore.symm.trans hsession
      obtain ⟨hactor, hmoves⟩ := hstep.moves hrunning
      exact ⟨hactor, .moves hown hmoves⟩
    · exact hstays next.2 rfl hstep.le (session_update_ne hne next)
  | none =>
    cases hstage : stageStep a with
    | true =>
      obtain ⟨hsessions, hrevision, -⟩ := stage_step hstage h
      refine hstays _ rfl hrevision.ge ?_
      unfold session
      rw [hsessions]
    | false =>
      cases a with
      | spawn phase =>
        obtain ⟨-, ⟨⟩⟩ := Option.ite_none_right_eq_some.mp h
        exact hstays _ rfl (Nat.le_succ _) ((session_append hsession).trans hsession.symm)
      | remove target =>
        obtain ⟨before, hbefore, h⟩ := Option.bind_eq_some_iff.mp h
        obtain ⟨-, ⟨⟩⟩ := Option.ite_none_right_eq_some.mp h
        obtain ⟨hsessions, hrevision, -⟩ := answered_sessions (server.update target
          ({ before with stage := .removed, controls := [] }, server.revision + 1)) target false
        unfold session at hnext
        rw [hsessions] at hnext
        rcases session_update hnext with ⟨rfl, rfl⟩ | ⟨hne, hother⟩
        · cases hrunning
        · refine hstays _ rfl (hrevision.symm ▸ Nat.le_succ _) ?_
          unfold session
          rw [hsessions]
          exact session_update_ne hne _
      | control target calls =>
        obtain ⟨before, control, rest, next, hbefore, hlive, hidle, hcontrols, rfl, hle, hresult⟩ :=
          control_step h
        obtain ⟨hsessions, hrevision, -⟩ := answered_sessions (server.update target next) target
          (({ before with controls := rest } : SessionActor).handleSessionControl encoders
            server.active.revision server.revision calls control).acknowledged
        have hupdated := hnext
        unfold session at hupdated
        rw [hsessions] at hupdated
        rcases session_update hupdated with ⟨rfl, rfl⟩ | ⟨hne, hother⟩
        · cases hbefore.symm.trans hsession
          obtain ⟨hgoesOn, hcontrolled⟩ := hresult hrunning
          rw [hrevision]
          refine ⟨hlive, ?_⟩
          show Changes encoders server connection actor _ (next.1, next.2)
          rw [hcontrolled]
          exact .controls hidle hcontrols hgoesOn
        · refine hstays _ rfl (hrevision.symm ▸ hle) ?_
          unfold session
          rw [hsessions]
          exact session_update_ne hne _
      | send target resyncEvents =>
        obtain ⟨reload, fan, before, control, hreload, hfan, hbefore, hunsent, hcontrol,
          ⟨-, rfl⟩ | ⟨-, rfl⟩⟩ := send_step h
        · exact hstays _ rfl (Nat.le_refl _) rfl
        · rcases session_update hnext with ⟨rfl, rfl⟩ | ⟨hne, hother⟩
          · cases hbefore.symm.trans hsession
            exact ⟨hrunning, .queues hreload hfan hunsent hcontrol⟩
          · exact hstays _ rfl (Nat.le_refl _) (session_update_ne hne _)
      | _ => simp [ownStep, stageStep] at hown hstage

theorem active_step (h : server.step encoders a = some server') (hnot : a ≠ .publishEpoch) :
    server'.active = server.active := by
  cases hown : ownStep a with
  | some target =>
    obtain ⟨before, next, -, rfl, -⟩ := own_step hown h
    rfl
  | none =>
    cases hstage : stageStep a with
    | true => exact (stage_step hstage h).2.2 hnot
    | false =>
      cases a with
      | spawn phase =>
        obtain ⟨-, ⟨⟩⟩ := Option.ite_none_right_eq_some.mp h
        rfl
      | remove target =>
        obtain ⟨before, -, h⟩ := Option.bind_eq_some_iff.mp h
        obtain ⟨-, ⟨⟩⟩ := Option.ite_none_right_eq_some.mp h
        exact (answered_sessions _ _ _).2.2
      | control target calls =>
        obtain ⟨before, control, rest, next, -, -, -, -, rfl, -⟩ := control_step h
        exact (answered_sessions _ _ _).2.2
      | send target resyncEvents =>
        obtain ⟨reload, fan, before, control, -, -, -, -, -, ⟨-, rfl⟩ | ⟨-, rfl⟩⟩ := send_step h
        · rfl
        · rfl
      | _ => simp [ownStep, stageStep] at hown hstage

theorem length_step (h : server.step encoders a = some server') :
    server'.sessions.length = server.sessions.length ∨
      ∃ phase, server'.sessions =
        server.sessions ++ [.new server.active.revision server.latch phase] := by
  cases hown : ownStep a with
  | some target =>
    obtain ⟨before, next, -, rfl, -⟩ := own_step hown h
    exact .inl (update_length next)
  | none =>
    cases hstage : stageStep a with
    | true => exact .inl (congrArg List.length (stage_step hstage h).1)
    | false =>
      cases a with
      | spawn phase =>
        obtain ⟨-, ⟨⟩⟩ := Option.ite_none_right_eq_some.mp h
        exact .inr ⟨phase, rfl⟩
      | remove target =>
        obtain ⟨before, -, h⟩ := Option.bind_eq_some_iff.mp h
        obtain ⟨-, ⟨⟩⟩ := Option.ite_none_right_eq_some.mp h
        rw [(answered_sessions _ _ _).1]
        exact .inl (update_length _)
      | control target calls =>
        obtain ⟨before, control, rest, next, -, -, -, -, rfl, -⟩ := control_step h
        rw [(answered_sessions _ _ _).1]
        exact .inl (update_length _)
      | send target resyncEvents =>
        obtain ⟨reload, fan, before, control, -, -, -, -, -, ⟨-, rfl⟩ | ⟨-, rfl⟩⟩ := send_step h
        · exact .inl rfl
        · exact .inl (update_length _)
      | _ => simp [ownStep, stageStep] at hown hstage

theorem session_stays (h : server.step encoders a = some server')
    (hsession : server.session connection = some actor) :
    ∃ actor', server'.session connection = some actor' := by
  obtain ⟨hlt, -⟩ := List.getElem?_eq_some_iff.mp hsession
  have hle : server.sessions.length ≤ server'.sessions.length := by
    rcases length_step h with hsame | ⟨phase, hspawned⟩
    · exact hsame.ge
    · rw [hspawned]
      simp
  exact ⟨_, List.getElem?_eq_getElem (Nat.lt_of_lt_of_le hlt hle)⟩

theorem session_new (h : server.step encoders a = some server')
    (hsession : server.session connection = none)
    (hnext : server'.session connection = some actor) :
    ∃ phase, actor = .new server.active.revision server.latch phase := by
  have hnone : server.sessions.length ≤ connection := List.getElem?_eq_none_iff.mp hsession
  have hlt := (List.getElem?_eq_some_iff.mp hnext).1
  rcases length_step h with hsame | ⟨phase, hspawned⟩
  · omega
  · refine ⟨phase, ?_⟩
    unfold session at hnext
    rw [hspawned, List.getElem?_append_right hnone] at hnext
    exact List.mem_singleton.mp (List.mem_of_getElem? hnext)

theorem active_run {steps : List CutoverStep} (h : server.run encoders steps = some server')
    (hnot : .publishEpoch ∉ steps) : server'.active = server.active := by
  induction steps generalizing server with
  | nil =>
    cases h
    rfl
  | cons a rest ih =>
    obtain ⟨middle, hstep, hrest⟩ := Option.bind_eq_some_iff.mp h
    obtain ⟨hfirst, hrest'⟩ := not_or.mp (List.mem_cons.not.mp hnot)
    exact (ih hrest hrest').trans (active_step hstep (Ne.symm hfirst))

/-- A frame or a message is handled while the data plane is open, by a session in no operation. -/
theorem admitted_step (h : server.step encoders a = some server')
    (ha : (∃ frame calls, a = .frame connection frame calls) ∨ ∃ works, a = .message connection works) :
    server.admission = .opened ∧
      ∃ actor, server.session connection = some actor ∧ actor.busy = false := by
  rcases ha with ⟨frame, calls, rfl⟩ | ⟨works, rfl⟩
  · obtain ⟨actor, hidle, h⟩ := Option.bind_eq_some_iff.mp h
    obtain ⟨hopened, -⟩ := Option.ite_none_right_eq_some.mp h
    exact ⟨hopened, actor, (idle_eq_some hidle).1, (idle_eq_some hidle).2.2⟩
  · obtain ⟨actor, hidle, h⟩ := Option.bind_eq_some_iff.mp h
    split at h
    · next hopened _ => exact ⟨hopened, actor, (idle_eq_some hidle).1, (idle_eq_some hidle).2.2⟩
    · cases h

end RuntimeServer

end RevyCraft.Cutover
