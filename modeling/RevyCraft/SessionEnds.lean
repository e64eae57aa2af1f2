/-
  RevyCraft/SessionEnds.lean
  ==========================
  **What the end of a session leaves behind** — over any run of the sessions
  and their core, in any order of frames, messages, ticks and closes.

  A player is online from the last login of the player that was accepted; its
  connection is the `holder`.  A session that ends disconnects the player it is
  in play for, by the player's id alone.  So a login is undone when its session
  has learned of it, another session's login is undone when the id was taken
  again, and a player that the core takes offline keeps its session.
-/
import RevyCraft.SessionLife
import RevyCraft.CanonicalContent

namespace RevyCraft.SessionLife

variable {C : ContentBehavior} {server server' : RuntimeServer} {step : RuntimeStep}
  {connection : ConnectionId}

/-! ### The login that a player is online from -/

def RuntimeServer.lastLogin (server : RuntimeServer) (playerId : PlayerId) : Option ConnectionId :=
  (server.logins.filter fun record => record.2.1 = playerId).getLast?.map fun record => record.1

/-- The connection from whose login the player is online. -/
def RuntimeServer.holder (server : RuntimeServer) (playerId : PlayerId) : Option ConnectionId :=
  if (server.core.onlineEntity playerId).isSome then server.lastLogin playerId else none

theorem lastLogin_append (playerId : PlayerId) {record : LoginRecord}
    (hlogins : server'.logins = server.logins ++ [record]) :
    server'.lastLogin playerId =
      if record.2.1 = playerId then some record.1 else server.lastLogin playerId := by
  unfold RuntimeServer.lastLogin
  rw [hlogins, List.filter_append]
  by_cases hplayer : record.2.1 = playerId
  · simp [hplayer]
  · simp [hplayer]

variable {playerId : PlayerId} {task task' : SessionTask}

theorem holder_record (h : server.holder playerId = some connection) :
    ∃ entityId, (connection, playerId, entityId) ∈ server.logins := by
  unfold RuntimeServer.holder at h
  split at h
  · obtain ⟨record, hlast, rfl⟩ := Option.map_eq_some_iff.mp h
    obtain ⟨hrecord, hplayer⟩ := List.mem_filter.mp (List.mem_of_getLast? hlast)
    obtain ⟨c, p, entityId⟩ := record
    obtain rfl : p = playerId := by simpa using hplayer
    exact ⟨entityId, hrecord⟩
  · cases h

theorem holder_of_fewer (hlogins : server'.logins = server.logins)
    (hfewer : FewerOnline server.core server'.core)
    (h : server'.holder playerId = some connection) : server.holder playerId = some connection := by
  unfold RuntimeServer.holder at h ⊢
  split at h
  · next honline =>
    obtain ⟨entityId, honline⟩ := Option.isSome_iff_exists.mp honline
    rw [hfewer playerId entityId honline]
    unfold RuntimeServer.lastLogin at h ⊢
    rw [← hlogins]
    exact h
  · cases h

theorem fewer_of_erase {core core' : ServerCore}
    (hindex : core'.entities.playersByPlayerId = core.entities.playersByPlayerId ∨
      core'.entities.playersByPlayerId = core.entities.playersByPlayerId.erase playerId) :
    FewerOnline core core' := by
  rcases hindex with hindex | hindex
  · exact .of_index hindex
  · intro other entityId honline
    unfold ServerCore.onlineEntity at honline ⊢
    rw [hindex, BTreeMap.getElem?_erase_eq] at honline
    split at honline
    · cases honline
    · exact honline

theorem onlineEntity_joined {other : PlayerId} {core core' : ServerCore}
    {events : List TargetedEvent} (h : Joins connection playerId core core' events) :
    core'.onlineEntity other =
      if playerId = other then some ⟨core.entities.nextEntityId⟩ else core.onlineEntity other := by
  unfold ServerCore.onlineEntity
  rw [h.index, BTreeMap.getElem?_insert_eq]

/-- **A step gives a player a holder** only when it accepts the holder's login. -/
theorem step_holder (h : server.step C step = some server')
    (hholder : server'.holder playerId = some connection) :
    server.holder playerId = some connection ∨
      (∃ username invocation nowMs,
        step = .login connection username playerId invocation nowMs) ∧
      ∃ task, server.task connection = some task ∧ task.stage = .running ∧ task.phase = .login ∧
        server'.task connection = some task := by
  cases step_core h with
  | same hindex hlogins _ => exact .inl (holder_of_fewer hlogins (.of_index hindex) hholder)
  | ticks hfewer _ hlogins => exact .inl (holder_of_fewer hlogins hfewer hholder)
  | leaves _ _ _ _ hindex _ hlogins =>
    exact .inl (holder_of_fewer hlogins (fewer_of_erase hindex) hholder)
  | @joins joining username joined invocation nowMs events task hknown hrunning hphase hwaits
      hjoins hlogins =>
    unfold RuntimeServer.holder at hholder ⊢
    rw [onlineEntity_joined hjoins, lastLogin_append playerId hlogins] at hholder
    by_cases hplayer : joined = playerId
    · subst hplayer
      rw [if_pos rfl, if_pos rfl] at hholder
      cases hholder
      exact .inr ⟨⟨_, _, _, rfl⟩, task, hknown, hrunning, hphase, hwaits⟩
    · rw [if_neg hplayer, if_neg hplayer] at hholder
      exact .inl hholder

/-! ### The core of a run -/

theorem step_stable {I : ServerCore → Prop} (hI : Stable C I)
    (h : server.step C step = some server') (hcore : I server.core) : I server'.core := by
  have hcalled : ∀ {changed task resync command invocation nowMs},
      I (server.called changed task resync
        (server.store.applyCommand C command invocation nowMs)).core := by
    intro changed task resync command invocation nowMs
    generalize hresult : server.store.applyCommand C command invocation nowMs = result
    rcases called_store server changed task resync result with
      ⟨outcome, store, rfl, hstore⟩ | hstore
    · unfold RuntimeServer.core
      rw [hstore]
      exact CoreStore.stable_applyCommand hI hresult hcore
    · unfold RuntimeServer.core
      rw [hstore]
      exact hcore
  cases step with
  | accept phase =>
    obtain ⟨-, rfl⟩ := by simpa [RuntimeServer.step] using h
    exact hcore
  | handshake | dispatched | remove =>
    obtain ⟨task, -, h⟩ := Option.bind_eq_some_iff.mp h
    obtain ⟨-, ⟨⟩⟩ := Option.ite_none_right_eq_some.mp h
    exact hcore
  | login changed username playerId invocation nowMs
  | command changed command invocation nowMs resync =>
    obtain ⟨task, -, h⟩ := Option.bind_eq_some_iff.mp h
    obtain ⟨-, ⟨⟩⟩ := Option.ite_none_right_eq_some.mp h
    exact hcalled
  | builtinTick nowMs =>
    obtain ⟨⟩ := h
    generalize hresult : server.store.applyBuiltinTick C nowMs = result
    unfold RuntimeServer.core
    rcases ticked_store server result with ⟨outcome, store, rfl, hstore⟩ | hstore
    · rw [hstore]
      exact CoreStore.stable_applyBuiltinTick hI hresult hcore
    · rw [hstore]
      exact hcore
  | gameplayTicks preparedTicks =>
    obtain ⟨-, ⟨⟩⟩ := Option.ite_none_right_eq_some.mp h
    generalize hresult : server.store.commitGameplayTicks C preparedTicks = result
    unfold RuntimeServer.core
    rcases ticked_store server result with ⟨outcome, store, rfl, hstore⟩ | hstore
    · rw [hstore]
      exact CoreStore.stable_commitGameplayTicks hI hresult hcore
    · rw [hstore]
      exact hcore
  | route index =>
    obtain ⟨delivery, -, h⟩ := Option.bind_eq_some_iff.mp h
    split at h
    · cases h
    · cases h
      exact hcore
  | send index changed =>
    obtain ⟨delivery, -, h⟩ := Option.bind_eq_some_iff.mp h
    obtain ⟨task, -, h⟩ := Option.bind_eq_some_iff.mp h
    obtain ⟨-, ⟨⟩⟩ := Option.ite_none_right_eq_some.mp h
    exact hcore
  | handle changed works =>
    obtain ⟨task, -, h⟩ := Option.bind_eq_some_iff.mp h
    split at h
    · cases h
    · cases h
      unfold RuntimeServer.core
      rw [RuntimeServer.handled_store]
      exact hcore
  | leave changed =>
    obtain ⟨task, -, ⟨⟩⟩ := Option.bind_eq_some_iff.mp h
    exact hcore
  | close changed =>
    obtain ⟨task, -, h⟩ := Option.bind_eq_some_iff.mp h
    obtain ⟨-, ⟨⟩⟩ := Option.ite_none_right_eq_some.mp h
    unfold RuntimeServer.core
    rw [RuntimeServer.publish_store]
    exact hcore
  | unregister changed nowMs =>
    obtain ⟨task, htask, h⟩ := Option.bind_eq_some_iff.mp h
    obtain ⟨hremoved, h⟩ := Option.ite_none_right_eq_some.mp h
    split at h
    · split at h
      · next outcome store hresult =>
        cases h
        exact CoreStore.stable_applyCommand hI hresult hcore
      · cases h
        exact hcore
    · cases h
      exact hcore

/-! ### A finished session leaves no player behind -/

theorem receive_play (playerId : PlayerId) (entityId : EntityId) (event : CoreEvent) (works : Bool) :
    ((SessionPhase.play playerId entityId).receive event works).phase = .play playerId entityId := by
  cases event <;> cases works <;> rfl

theorem receiveAll_play (playerId : PlayerId) (entityId : EntityId) (message : List CoreEvent)
    (works : List Bool) :
    ((SessionPhase.play playerId entityId).receiveAll message works).phase =
      .play playerId entityId := by
  induction message generalizing works with
  | nil => rfl
  | cons event rest ih =>
    have hreceive := receive_play playerId entityId event (works.headD true)
    unfold SessionPhase.receiveAll
    cases hreceived : (SessionPhase.play playerId entityId).receive event (works.headD true) with
    | goesOn phase =>
      rw [hreceived] at hreceive
      obtain rfl : phase = .play playerId entityId := hreceive
      exact ih works.tail
    | closes phase | fails phase =>
      rw [hreceived] at hreceive
      exact hreceive

theorem receiveAll_playerId {phase : SessionPhase} (h : phase.playerId = some playerId)
    (message : List CoreEvent) (works : List Bool) :
    (phase.receiveAll message works).phase.playerId = some playerId := by
  cases phase with
  | play other entityId =>
    rw [receiveAll_play]
    exact h
  | handshaking => cases h
  | status => cases h
  | login => cases h
  | acceptedWritePending => cases h

def SessionTask.nextEvent (task : SessionTask) : Option CoreEvent :=
  task.queue.head?.bind fun message => message.head?

theorem receiveAll_login {event : CoreEvent} {login : PlayerId × EntityId} {rest : List CoreEvent}
    {works : List Bool} (hevent : event.acceptance = some login) (hworks : works.headD true = true) :
    (SessionPhase.login.receiveAll (event :: rest) works).phase.playerId = some login.1 := by
  cases event
  case loginAccepted playerId entityId player =>
    obtain rfl : (playerId, entityId) = login := Option.some.inj hevent
    have hreceive : SessionPhase.login.receive (.loginAccepted playerId entityId player)
        (works.headD true) = .goesOn (.play playerId entityId) := by
      rw [hworks]
      rfl
    unfold SessionPhase.receiveAll
    rw [hreceive]
    exact congrArg SessionPhase.playerId (receiveAll_play playerId entityId rest works.tail)
  all_goals cases hevent

/-- The logins that players are online from and their session is not in play for. -/
def RuntimeServer.unlearned (server : RuntimeServer) (connection : ConnectionId) :
    List LoginRecord :=
  server.logins.filter fun record =>
    record.1 = connection ∧ server.holder record.2.1 = some connection ∧
      ((server.task connection).bind fun task => task.phase.playerId) ≠ some record.2.1

/-- The session learns of its login before it does anything else, and the ids do not run out. -/
def LearnsFirst (server : RuntimeServer) : RuntimeStep → Prop
  | .login connection _ _ _ _ => server.unlearned connection = []
  | .leave connection => server.unlearned connection = []
  | .handle connection works => ∀ record ∈ server.unlearned connection,
    ((server.task connection).bind fun task =>
        task.nextEvent.bind fun event => event.acceptance.map Prod.fst) = some record.2.1 ∧
      works.headD true = true
  | .unregister _ _ => server.core.entities.nextEntityId < i32Max
  | _ => True

instance (server : RuntimeServer) (step : RuntimeStep) : Decidable (LearnsFirst server step) := by
  cases step <;> (dsimp only [LearnsFirst]; infer_instance)

/-- A session holds the player that it is in play for, or is about to be told of. -/
structure Tidy (server : RuntimeServer) : Prop where
  consistent : server.core.entities.nextEntityId < i32Max → Consistent server.core
  waiting : ∀ connection playerId, server.holder playerId = some connection →
    ∃ task, server.task connection = some task ∧
      (task.phase.playerId = some playerId ∨ task.stage = .running ∧ task.phase = .login)
  gone : ∀ connection task, server.task connection = some task → task.stage = .finished →
    ∀ playerId, server.holder playerId ≠ some connection

theorem mem_unlearned (hholder : server.holder playerId = some connection)
    (htask : server.task connection = some task) (hphase : task.phase.playerId ≠ some playerId) :
    ∃ entityId, (connection, playerId, entityId) ∈ server.unlearned connection := by
  obtain ⟨entityId, hrecord⟩ := holder_record hholder
  refine ⟨entityId, List.mem_filter.mpr ⟨hrecord, ?_⟩⟩
  simp [hholder, htask, hphase]

theorem Tidy.new {core : ServerCore} (hstart : core.Started) : Tidy (.new (.new core)) where
  consistent := fun _ => hstart.consistent
  waiting := by
    intro connection playerId hholder
    obtain ⟨entityId, hrecord⟩ := holder_record hholder
    cases hrecord
  gone := by
    intro connection task htask
    cases htask

theorem Tidy.waits (h : server.step C step = some server') (hlearns : LearnsFirst server step)
    (hholder : server.holder playerId = some connection)
    (htask : server.task connection = some task)
    (hwaiting : task.phase.playerId = some playerId ∨ task.stage = .running ∧ task.phase = .login) :
    ∃ task', server'.task connection = some task' ∧ (task'.phase.playerId = some playerId ∨
      task'.stage = .running ∧ task'.phase = .login) := by
  obtain ⟨task', htask'⟩ := Option.isSome_iff_exists.mp (step_known h (by rw [htask]; rfl))
  refine ⟨task', htask', ?_⟩
  -- a login that is not learned yet is known to the condition
  have hunlearned : task.phase = .login →
      ∃ entityId, (connection, playerId, entityId) ∈ server.unlearned connection := by
    intro hphase
    refine mem_unlearned hholder htask ?_
    rw [hphase]
    simp [SessionPhase.playerId]
  rcases step_task h connection htask' with ⟨hnone, -⟩ | ⟨known, hknown, hchange, -⟩
  · rw [htask] at hnone
    cases hnone
  obtain rfl := Option.some.inj (hknown.symm.trans htask)
  cases hchange with
  | rests hphase hstage =>
    rw [hphase, hstage]
    exact hwaiting
  | handshake hfirst _ _ =>
    rw [hfirst] at hwaiting
    rcases hwaiting with hplay | ⟨-, hlogin⟩
    · cases hplay
    · cases hlogin
  | @handles works message rest hhandle hrunning hqueue hphase hstage =>
    subst hhandle
    rw [hphase]
    rcases hwaiting with hplay | ⟨-, hlogin⟩
    · exact .inl (receiveAll_playerId hplay message works)
    · obtain ⟨entityId, hmem⟩ := hunlearned hlogin
      obtain ⟨hnext, hworks⟩ := hlearns _ hmem
      rw [htask, Option.bind_some] at hnext
      obtain ⟨event, hevent, haccepted⟩ := Option.bind_eq_some_iff.mp hnext
      obtain ⟨login, haccepted, hplayer⟩ := Option.map_eq_some_iff.mp haccepted
      unfold SessionTask.nextEvent at hevent
      rw [hqueue] at hevent
      obtain ⟨others, rfl⟩ := List.head?_eq_some_iff.mp hevent
      rw [hlogin, receiveAll_login haccepted hworks, hplayer]
      exact .inl rfl
  | stops hphase hrunning hstage hcause =>
    rw [hphase]
    rcases hwaiting with hplay | ⟨-, hlogin⟩
    · exact .inl hplay
    · obtain ⟨entityId, hmem⟩ := hunlearned hlogin
      rcases hcause with rfl | hplay | ⟨username, other, invocation, nowMs, rfl⟩
      · rw [show server.unlearned connection = [] from hlearns] at hmem
        cases hmem
      · rw [hlogin] at hplay
        cases hplay
      · rw [show server.unlearned connection = [] from hlearns] at hmem
        cases hmem
  | cleans hphase hpast hstage hends =>
    rw [hphase]
    rcases hwaiting with hplay | ⟨hrunning, -⟩
    · exact .inl hplay
    · rw [hrunning] at hpast
      rcases hpast with hpast | hpast | hpast <;> cases hpast

theorem Tidy.ends (htidy : Tidy server) (h : server.step C step = some server')
    (hlearns : LearnsFirst server step) (htask : server.task connection = some task)
    (htask' : server'.task connection = some task') (hphase : task.phase.playerId = some playerId)
    (hends : task'.stage = .finished) {nowMs : Nat} (hstep : step = .unregister connection nowMs) :
    server'.holder playerId ≠ some connection := by
  subst hstep
  intro hstill
  cases step_core h with
  | same _ _ hunfinished =>
    have hfailed := hunfinished connection nowMs rfl task htask (by rw [hphase]; rfl)
    rw [htask'] at hfailed
    cases hfailed
    cases hends
  | leaves hknown _ hplay _ _ hgone _ =>
    obtain rfl := Option.some.inj (hknown.symm.trans htask)
    rw [hplay] at hphase
    cases hphase
    unfold RuntimeServer.holder at hstill
    rw [hgone (htidy.consistent hlearns)] at hstill
    cases hstill

theorem Tidy.stepped (htidy : Tidy server) (h : server.step C step = some server')
    (hlearns : LearnsFirst server step) : Tidy server' where
  consistent := step_stable stable_consistent h htidy.consistent
  waiting := by
    intro connection playerId hholder
    rcases step_holder h hholder with hbefore | ⟨-, task, htask, hrunning, hlogin, hwaits⟩
    · obtain ⟨task, htask, hwaiting⟩ := htidy.waiting connection playerId hbefore
      exact Tidy.waits h hlearns hbefore htask hwaiting
    · exact ⟨task, hwaits, .inr ⟨hrunning, hlogin⟩⟩
  gone := by
    intro connection task' htask' hfinished playerId hholder
    rcases step_holder h hholder with hbefore | ⟨-, task, htask, hrunning, hlogin, hwaits⟩
    · obtain ⟨task, htask, hwaiting⟩ := htidy.waiting connection playerId hbefore
      rcases step_task h connection htask' with ⟨hnone, -⟩ | ⟨known, hknown, hchange, -⟩
      · rw [htask] at hnone
        cases hnone
      obtain rfl := Option.some.inj (hknown.symm.trans htask)
      cases hchange with
      | rests hphase hstage =>
        exact htidy.gone connection known htask (hstage ▸ hfinished) playerId hbefore
      | handshake _ _ hstage =>
        rw [hfinished] at hstage
        cases hstage
      | @handles works message rest hhandle hrunning hqueue hphase hstage =>
        rw [hfinished] at hstage
        cases hreceived : known.phase.receiveAll message works <;>
          (rw [hreceived] at hstage; cases hstage)
      | stops hphase hrunning hstage hcause =>
        rw [hfinished] at hstage
        rcases hstage with hstage | hstage <;> cases hstage
      | cleans hphase hpast hstage hends =>
        obtain ⟨nowMs, hstep⟩ := hends hfinished
        have hplay : known.phase.playerId = some playerId := by
          rcases hwaiting with hplay | ⟨hrunning, -⟩
          · exact hplay
          · rw [hrunning] at hpast
            rcases hpast with hpast | hpast | hpast <;> cases hpast
        exact htidy.ends h hlearns htask htask' hplay hfinished hstep hholder
    · rw [htask'] at hwaits
      obtain rfl := Option.some.inj hwaits
      rw [hrunning] at hfinished
      cases hfinished

/-- **A finished session leaves no ghost player**, where every session learns of its login before
    it handles another frame or message and before it is left. -/
theorem finished_session_leaves_no_ghost (core : ServerCore) (hstart : core.Started)
    (steps : List RuntimeStep) (server : RuntimeServer)
    (hrun : (RuntimeServer.new (.new core)).run C steps = some server)
    (hlearns : Steps.Along (RuntimeServer.step C) LearnsFirst (.new (.new core)) steps)
    (connection : ConnectionId) (task : SessionTask) (htask : server.task connection = some task)
    (hfinished : task.stage = .finished) (playerId : PlayerId) :
    server.holder playerId ≠ some connection := by
  have htidy : Tidy server := by
    refine Steps.run_keeps ?_ (Tidy.new hstart) hlearns hrun
    intro server step server' htidy hlearns h
    exact htidy.stepped h hlearns
  exact htidy.gone connection task htask hfinished playerId

/-- A player `⟨7⟩` logs in from a new connection, and the dispatch of the commit is over. -/
def loginSteps (connection : ConnectionId) (nowMs : Nat) : List RuntimeStep :=
  [.accept .login,
    .login connection "alice" ⟨7⟩ (.login (.new .default) (.ok ⟨0, .default, []⟩)) nowMs] ++
    List.replicate 5 (.route 0) ++ [.send 0 connection, .dispatched 0]

/-- The session is left and cleaned up. -/
def endSteps (connection : ConnectionId) (nowMs : Nat) : List RuntimeStep :=
  [.leave connection, .close connection, .remove connection true, .unregister connection nowMs]

def firstServer : RuntimeServer := .new (.new (.new .default))

theorem finished_session_leaves_no_ghost_learned :
    ∃ server, firstServer.run canonicalContent
        (loginSteps ⟨0⟩ 0 ++ [.handle ⟨0⟩ []] ++ endSteps ⟨0⟩ 5) = some server ∧
      ∀ task, server.task ⟨0⟩ = some task → task.stage = .finished →
        ∀ playerId, server.holder playerId ≠ some ⟨0⟩ := by
  have hruns : (firstServer.run canonicalContent
      (loginSteps ⟨0⟩ 0 ++ [.handle ⟨0⟩ []] ++ endSteps ⟨0⟩ 5)).isSome = true := by decide +kernel
  obtain ⟨server, hrun⟩ := Option.isSome_iff_exists.mp hruns
  refine ⟨server, hrun, fun task htask hfinished => ?_⟩
  exact finished_session_leaves_no_ghost (.new .default) (.new .default) _ server hrun
    (by decide +kernel) ⟨0⟩ task htask hfinished

/-- A client that closes before its acceptance is handled leaves its player online. -/
theorem finished_session_leaves_ghost :
    ¬ ∀ (steps : List RuntimeStep) (server : RuntimeServer),
      firstServer.run canonicalContent steps = some server →
      ∀ connection task, server.task connection = some task → task.stage = .finished →
        ∀ playerId, server.holder playerId ≠ some connection := by
  intro hall
  have hghost : ((firstServer.run canonicalContent
      (loginSteps ⟨0⟩ 0 ++ endSteps ⟨0⟩ 5)).any fun server =>
        (server.task ⟨0⟩).any (fun task => task.stage = .finished) &&
          decide (server.holder ⟨7⟩ = some ⟨0⟩)) = true := by decide +kernel
  obtain ⟨server, hrun, hlast⟩ := (Option.any_eq_true _ _).mp hghost
  obtain ⟨hstage, hholder⟩ := Bool.and_eq_true_iff.mp hlast
  obtain ⟨task, htask, hfinished⟩ := (Option.any_eq_true _ _).mp hstage
  exact hall _ server hrun ⟨0⟩ task htask (of_decide_eq_true hfinished) ⟨7⟩
    (of_decide_eq_true hholder)

/-! ### A session that ends leaves the others' players online -/

/-- The session has ended. -/
def Stage.over : Stage → Bool
  | .finished => true
  | .failed => true
  | _ => false

/-- The session is in play for the player, or may still come to be. -/
def SessionTask.mayPlay (task : SessionTask) (playerId : PlayerId) : Bool :=
  !task.stage.over && (task.phase.playerId = some playerId ||
    task.stage = .running && task.phase.playerId = none)

/-- A player is logged in again only when the earlier sessions of the player are over. -/
def LoginsApart (server : RuntimeServer) : RuntimeStep → Prop
  | .login connection _ playerId _ _ => server.core.onlineEntity playerId = none →
    ∀ record ∈ server.logins, record.2.1 = playerId → record.1 ≠ connection →
      ((server.task record.1).any fun task => task.mayPlay playerId) = false
  | _ => True

instance (server : RuntimeServer) (step : RuntimeStep) : Decidable (LoginsApart server step) := by
  cases step <;> (dsimp only [LoginsApart]; infer_instance)

theorem TaskChange.mayPlay (h : TaskChange step connection task task')
    (hmay : task'.mayPlay playerId = true) : task.mayPlay playerId = true := by
  unfold SessionTask.mayPlay at hmay ⊢
  obtain ⟨hover, hmay⟩ := Bool.and_eq_true_iff.mp hmay
  cases h with
  | rests hphase hstage =>
    rw [← hphase, ← hstage, hover, hmay]
    rfl
  | handshake hfirst hrunning _ =>
    rw [hrunning, hfirst]
    rfl
  | @handles works message rest hhandle hrunning hqueue hphase hstage =>
    rw [hrunning]
    cases hplayer : task.phase.playerId with
    | none => rfl
    | some other =>
      rw [hphase, receiveAll_playerId hplayer] at hmay
      simpa [Stage.over] using hmay
  | stops hphase hrunning hstage hcause =>
    rw [hrunning]
    rw [hphase] at hmay
    rcases hstage with hstage | hstage <;> simp_all [Stage.over]
  | cleans hphase hpast hstage hends =>
    rw [hphase] at hmay
    have hnot : (!task.stage.over) = true := by
      rcases hpast with hpast | hpast | hpast <;> simp [hpast, Stage.over]
    simp_all

/-- A player that a session may be in play for is online, if at all, from its login. -/
structure Apart (server : RuntimeServer) : Prop where
  honest : Honest server
  owned : ∀ record ∈ server.logins, ∀ task, server.task record.1 = some task →
    task.mayPlay record.2.1 = true → ∀ entityId,
      server.core.onlineEntity record.2.1 = some entityId →
        server.holder record.2.1 = some record.1

theorem Apart.new (core : ServerCore) : Apart (.new (.new core)) where
  honest := .new _
  owned := fun record hrecord => by cases hrecord

theorem mayPlay_before (hserver : Honest server) (h : server.step C step = some server')
    {record : LoginRecord} (hrecord : record ∈ server.logins)
    (htask' : server'.task record.1 = some task') (hmay : task'.mayPlay record.2.1 = true) :
    ∃ task, server.task record.1 = some task ∧ task.mayPlay record.2.1 = true := by
  rcases step_task h record.1 htask' with ⟨hnone, -⟩ | ⟨task, htask, hchange, -⟩
  · have hknown := hserver.known record hrecord
    rw [hnone] at hknown
    cases hknown
  · exact ⟨task, htask, hchange.mayPlay hmay⟩

theorem Apart.stepped (hapart : Apart server) (h : server.step C step = some server')
    (hlogins : LoginsApart server step) : Apart server' where
  honest := hapart.honest.step h
  owned := by
    intro record hrecord task' htask' hmay entityId honline
    -- the players stay online from the logins that they were online from
    have hold : server'.logins = server.logins → FewerOnline server.core server'.core →
        server'.holder record.2.1 = some record.1 := by
      intro hsame hfewer
      rw [hsame] at hrecord
      obtain ⟨task, htask, hmay⟩ := mayPlay_before hapart.honest h hrecord htask' hmay
      have hbefore := hapart.owned record hrecord task htask hmay entityId
        (hfewer _ _ honline)
      unfold RuntimeServer.holder RuntimeServer.lastLogin at hbefore ⊢
      rw [hfewer _ _ honline] at hbefore
      rw [honline, hsame]
      exact hbefore
    cases step_core h with
    | same hindex hsame _ => exact hold hsame (.of_index hindex)
    | ticks hfewer _ hsame => exact hold hsame hfewer
    | leaves _ _ _ _ hindex _ hsame => exact hold hsame (fewer_of_erase hindex)
    | @joins joining username joined invocation nowMs events task hknown hrunning hphase hwaits
        hjoins hsame =>
      unfold RuntimeServer.holder
      rw [honline, lastLogin_append record.2.1 hsame]
      rw [onlineEntity_joined hjoins] at honline
      rw [hsame] at hrecord
      rcases List.mem_append.mp hrecord with hrecord | hrecord
      · obtain ⟨known, hknown', hmay⟩ := mayPlay_before hapart.honest h hrecord htask' hmay
        by_cases hplayer : joined = record.2.1
        · -- the earlier sessions of the player cannot be in play
          have hsame' : record.1 = joining := by
            by_contra hother
            have hover := hlogins hjoins.offline record hrecord hplayer.symm hother
            rw [hknown'] at hover
            rw [← hplayer] at hmay
            cases hmay.symm.trans hover
          simp [hplayer, hsame']
        · rw [if_neg hplayer] at honline
          have hbefore := hapart.owned record hrecord known hknown' hmay entityId honline
          unfold RuntimeServer.holder at hbefore
          rw [honline] at hbefore
          simpa [hplayer] using hbefore
      · rw [List.mem_singleton.mp hrecord]
        simp

/-- **The end of a session takes no other session's player offline**, where no player is logged in
    again while an earlier session of the player is not over. -/
theorem ending_session_disconnects_its_own (core : ServerCore) (steps : List RuntimeStep)
    (server server' : RuntimeServer)
    (hrun : (RuntimeServer.new (.new core)).run C steps = some server)
    (hlogins : Steps.Along (RuntimeServer.step C) LoginsApart (.new (.new core)) steps)
    (connection : ConnectionId) (nowMs : Nat)
    (hstep : server.step C (.unregister connection nowMs) = some server') (playerId : PlayerId)
    (hchanged : server'.core.onlineEntity playerId ≠ server.core.onlineEntity playerId) :
    server.holder playerId = some connection := by
  have hapart : Apart server := by
    refine Steps.run_keeps ?_ (Apart.new core) hlogins hrun
    intro server step server' hapart hlogins h
    exact hapart.stepped h hlogins
  cases step_core hstep with
  | same hindex _ _ =>
    refine absurd ?_ hchanged
    unfold ServerCore.onlineEntity
    rw [hindex]
  | @leaves _ _ task other entityId hknown hremoved hphase _ hindex _ _ =>
    rcases hindex with hindex | hindex
    · refine absurd ?_ hchanged
      unfold ServerCore.onlineEntity
      rw [hindex]
    · have hplayer : other = playerId := by
        by_contra hother
        apply hchanged
        unfold ServerCore.onlineEntity
        rw [hindex, BTreeMap.getElem?_erase_eq, if_neg hother]
      subst hplayer
      have hrecord := hapart.honest.tasks connection task (other, entityId) hknown
        (.inl (by rw [hphase]; rfl))
      have honline : ∃ online, server.core.onlineEntity other = some online := by
        apply Option.isSome_iff_exists.mp
        by_contra hoffline
        apply hchanged
        rw [Option.not_isSome_iff_eq_none.mp hoffline]
        unfold ServerCore.onlineEntity
        rw [hindex, BTreeMap.getElem?_erase_eq, if_pos rfl]
      obtain ⟨online, honline⟩ := honline
      refine hapart.owned _ hrecord task hknown ?_ online honline
      unfold SessionTask.mayPlay
      rw [hremoved, hphase]
      simp [Stage.over, SessionPhase.playerId]

/-- The player logs in, is taken offline by the keepalive timeout and logs in again, and then the
    old session is left. -/
def reconnectSteps : List RuntimeStep :=
  loginSteps ⟨0⟩ 0 ++ [.handle ⟨0⟩ [], .builtinTick 20000, .builtinTick 60000, .accept .login,
    .login ⟨1⟩ "alice" ⟨7⟩ (.login (.new .default) (.ok ⟨0, .default, []⟩)) 60001,
    .leave ⟨0⟩, .close ⟨0⟩, .remove ⟨0⟩ true]

theorem ending_session_disconnects_its_own_first :
    ∃ server server', firstServer.run canonicalContent (loginSteps ⟨0⟩ 0 ++
        [.handle ⟨0⟩ [], .leave ⟨0⟩, .close ⟨0⟩, .remove ⟨0⟩ true]) = some server ∧
      server.step canonicalContent (.unregister ⟨0⟩ 5) = some server' ∧
      server'.core.onlineEntity ⟨7⟩ ≠ server.core.onlineEntity ⟨7⟩ ∧
      server.holder ⟨7⟩ = some ⟨0⟩ := by
  have hruns : ((firstServer.run canonicalContent (loginSteps ⟨0⟩ 0 ++
      [.handle ⟨0⟩ [], .leave ⟨0⟩, .close ⟨0⟩, .remove ⟨0⟩ true])).any fun server =>
        (server.step canonicalContent (.unregister ⟨0⟩ 5)).any fun server' =>
          server'.core.onlineEntity ⟨7⟩ ≠ server.core.onlineEntity ⟨7⟩) = true := by decide +kernel
  obtain ⟨server, hrun, hlast⟩ := (Option.any_eq_true _ _).mp hruns
  obtain ⟨server', hstep, hchanged⟩ := (Option.any_eq_true _ _).mp hlast
  refine ⟨server, server', hrun, hstep, of_decide_eq_true hchanged, ?_⟩
  exact ending_session_disconnects_its_own (.new .default) _ server server' hrun
    (by decide +kernel) ⟨0⟩ 5 hstep ⟨7⟩ (of_decide_eq_true hchanged)

/-- The old session takes the player of the new one offline. -/
theorem ending_session_disconnects_another :
    ¬ ∀ (steps : List RuntimeStep) (server server' : RuntimeServer),
      firstServer.run canonicalContent steps = some server →
      ∀ (connection : ConnectionId) (nowMs : Nat),
        server.step canonicalContent (.unregister connection nowMs) = some server' →
        ∀ playerId, server'.core.onlineEntity playerId ≠ server.core.onlineEntity playerId →
          server.holder playerId = some connection := by
  intro hall
  have hruns : ((firstServer.run canonicalContent reconnectSteps).any fun server =>
      decide (server.holder ⟨7⟩ ≠ some ⟨0⟩) &&
        (server.step canonicalContent (.unregister ⟨0⟩ 60002)).any fun server' =>
          server'.core.onlineEntity ⟨7⟩ ≠ server.core.onlineEntity ⟨7⟩) = true := by decide +kernel
  obtain ⟨server, hrun, hlast⟩ := (Option.any_eq_true _ _).mp hruns
  obtain ⟨hholder, hlast⟩ := Bool.and_eq_true_iff.mp hlast
  obtain ⟨server', hstep, hchanged⟩ := (Option.any_eq_true _ _).mp hlast
  exact of_decide_eq_true hholder
    (hall reconnectSteps server server' hrun ⟨0⟩ 60002 hstep ⟨7⟩ (of_decide_eq_true hchanged))

/-! ### A player that goes offline ends its session -/

/-- No tick finds a keepalive overdue. -/
def TicksPunctually (server : RuntimeServer) : RuntimeStep → Prop
  | .builtinTick nowMs => server.core.Punctual nowMs
  | _ => True

instance (server : RuntimeServer) (step : RuntimeStep) :
    Decidable (TicksPunctually server step) := by
  cases step <;> (dsimp only [TicksPunctually]; infer_instance)

/-- The logins of the sessions that are not over are online, each for a player of its own. -/
structure Attended (server : RuntimeServer) : Prop where
  honest : Honest server
  online : ∀ record ∈ server.logins, ∀ task, server.task record.1 = some task →
    task.stage.over = false → server.core.onlineEntity record.2.1 = some record.2.2
  single : ∀ record ∈ server.logins, ∀ record' ∈ server.logins, record.2.1 = record'.2.1 →
    ∀ task, server.task record.1 = some task → task.stage.over = false →
    ∀ task', server.task record'.1 = some task' → task'.stage.over = false →
      record.1 = record'.1

theorem Attended.new (core : ServerCore) : Attended (.new (.new core)) where
  honest := .new _
  online := fun record hrecord => by cases hrecord
  single := fun record hrecord => by cases hrecord

theorem TaskChange.notOver (h : TaskChange step connection task task')
    (hover : task'.stage.over = false) : task.stage.over = false := by
  cases h with
  | rests _ hstage => exact hstage ▸ hover
  | handshake _ hrunning _ => rw [hrunning]; rfl
  | handles _ hrunning _ _ _ => rw [hrunning]; rfl
  | stops _ hrunning _ _ => rw [hrunning]; rfl
  | cleans _ hpast _ _ => rcases hpast with hpast | hpast | hpast <;> (rw [hpast]; rfl)

theorem notOver_before (hserver : Honest server) (h : server.step C step = some server')
    {record : LoginRecord} (hrecord : record ∈ server.logins)
    (htask' : server'.task record.1 = some task') (hover : task'.stage.over = false) :
    ∃ task, server.task record.1 = some task ∧ task.stage.over = false := by
  rcases step_task h record.1 htask' with ⟨hnone, -⟩ | ⟨task, htask, hchange, -⟩
  · have hknown := hserver.known record hrecord
    rw [hnone] at hknown
    cases hknown
  · exact ⟨task, htask, hchange.notOver hover⟩

section Attended

variable (hserver : Attended server) (h : server.step C step = some server')

include hserver h

theorem Attended.same (hlogins : server'.logins = server.logins)
    (honline : ∀ record ∈ server.logins, ∀ task', server'.task record.1 = some task' →
      task'.stage.over = false →
      server'.core.onlineEntity record.2.1 = server.core.onlineEntity record.2.1) :
    Attended server' where
  honest := hserver.honest.step h
  online := by
    intro record hrecord task' htask' hover
    rw [hlogins] at hrecord
    obtain ⟨task, htask, hbefore⟩ := notOver_before hserver.honest h hrecord htask' hover
    rw [honline record hrecord task' htask' hover]
    exact hserver.online record hrecord task htask hbefore
  single := by
    intro record hrecord record' hrecord' hplayer task htask hover task' htask' hover'
    rw [hlogins] at hrecord hrecord'
    obtain ⟨known, hknown, hbefore⟩ := notOver_before hserver.honest h hrecord htask hover
    obtain ⟨known', hknown', hbefore'⟩ := notOver_before hserver.honest h hrecord' htask' hover'
    exact hserver.single record hrecord record' hrecord' hplayer known hknown hbefore
      known' hknown' hbefore'

/-- A login finds its player offline, so no session that is not over has logged it in. -/
theorem Attended.joined {events : List TargetedEvent}
    (hjoins : Joins connection playerId server.core server'.core events)
    (hlogins : server'.logins =
      server.logins ++ [(connection, playerId, ⟨server.core.entities.nextEntityId⟩)]) :
    Attended server' := by
  have hearlier : ∀ record ∈ server.logins, ∀ task', server'.task record.1 = some task' →
      task'.stage.over = false → record.2.1 ≠ playerId := by
    intro record hrecord task' htask' hover hplayer
    obtain ⟨task, htask, hbefore⟩ := notOver_before hserver.honest h hrecord htask' hover
    have honline := hserver.online record hrecord task htask hbefore
    rw [hplayer, hjoins.offline] at honline
    cases honline
  refine ⟨hserver.honest.step h, ?_, ?_⟩
  · intro record hrecord task' htask' hover
    rw [onlineEntity_joined hjoins]
    rw [hlogins] at hrecord
    rcases List.mem_append.mp hrecord with hrecord | hrecord
    · have hplayer := hearlier record hrecord task' htask' hover
      rw [if_neg (Ne.symm hplayer)]
      obtain ⟨task, htask, hbefore⟩ := notOver_before hserver.honest h hrecord htask' hover
      exact hserver.online record hrecord task htask hbefore
    · rw [List.mem_singleton.mp hrecord, if_pos rfl]
  · intro record hrecord record' hrecord' hplayer task htask hover task' htask' hover'
    rw [hlogins] at hrecord hrecord'
    rcases List.mem_append.mp hrecord with hrecord | hrecord <;>
      rcases List.mem_append.mp hrecord' with hrecord' | hrecord'
    · obtain ⟨known, hknown, hbefore⟩ := notOver_before hserver.honest h hrecord htask hover
      obtain ⟨known', hknown', hbefore'⟩ := notOver_before hserver.honest h hrecord' htask' hover'
      exact hserver.single record hrecord record' hrecord' hplayer known hknown hbefore
        known' hknown' hbefore'
    · rw [List.mem_singleton.mp hrecord'] at hplayer
      exact absurd hplayer (hearlier record hrecord task htask hover)
    · rw [List.mem_singleton.mp hrecord] at hplayer
      exact absurd hplayer.symm (hearlier record' hrecord' task' htask' hover')
    · rw [List.mem_singleton.mp hrecord, List.mem_singleton.mp hrecord']

theorem Attended.stepped (hpunctual : TicksPunctually server step) : Attended server' := by
  cases step_core h with
  | same hindex hlogins _ =>
    refine hserver.same h hlogins fun record _ task' _ _ => ?_
    unfold ServerCore.onlineEntity
    rw [hindex]
  | ticks _ hsame hlogins =>
    refine hserver.same h hlogins fun record _ task' _ _ => ?_
    unfold ServerCore.onlineEntity
    rw [hsame hpunctual]
  | joins _ _ _ _ hjoins hlogins => exact hserver.joined h hjoins hlogins
  | @leaves leaving nowMs task playerId entityId hknown hremoved hphase hfinished hindex _ hlogins =>
    refine hserver.same h hlogins fun record hrecord task' htask' hover => ?_
    rcases hindex with hindex | hindex
    · unfold ServerCore.onlineEntity
      rw [hindex]
    · -- another session of the player would have to be over
      have hplayer : playerId ≠ record.2.1 := by
        intro hplayer
        have hleaving := hserver.honest.tasks leaving task (playerId, entityId) hknown
          (.inl (by rw [hphase]; rfl))
        obtain ⟨known, hknown', hbefore⟩ := notOver_before hserver.honest h hrecord htask' hover
        have hsame := hserver.single _ hleaving record hrecord hplayer task hknown
          (by rw [hremoved]; rfl) known hknown' hbefore
        dsimp only at hsame
        rw [← hsame, hfinished] at htask'
        cases htask'
        cases hover
      unfold ServerCore.onlineEntity
      rw [hindex, BTreeMap.getElem?_erase_eq, if_neg hplayer]

end Attended

/-- **A session in play is online as its entity**, where no keepalive is overdue in a tick. -/
theorem playing_session_is_online (core : ServerCore) (steps : List RuntimeStep)
    (server : RuntimeServer) (hrun : (RuntimeServer.new (.new core)).run C steps = some server)
    (hpunctual : Steps.Along (RuntimeServer.step C) TicksPunctually (.new (.new core)) steps)
    (connection : ConnectionId) (task : SessionTask) (htask : server.task connection = some task)
    (hlive : task.stage.over = false) (playerId : PlayerId) (entityId : EntityId)
    (hphase : task.phase = .play playerId entityId) :
    server.core.onlineEntity playerId = some entityId := by
  have hserver : Attended server := by
    refine Steps.run_keeps ?_ (Attended.new core) hpunctual hrun
    intro server step server' hserver hpunctual h
    exact hserver.stepped h hpunctual
  have hrecord := hserver.honest.tasks connection task (playerId, entityId) htask
    (.inl (by rw [hphase]; rfl))
  exact hserver.online _ hrecord task htask hlive

theorem playing_session_is_online_first :
    ∃ server task, firstServer.run canonicalContent
        (loginSteps ⟨0⟩ 0 ++ [.handle ⟨0⟩ [], .builtinTick 20000]) = some server ∧
      server.task ⟨0⟩ = some task ∧ task.phase = .play ⟨7⟩ ⟨1⟩ ∧
      server.core.onlineEntity ⟨7⟩ = some ⟨1⟩ := by
  have hruns : ((firstServer.run canonicalContent
      (loginSteps ⟨0⟩ 0 ++ [.handle ⟨0⟩ [], .builtinTick 20000])).any fun server =>
        (server.task ⟨0⟩).any fun task =>
          !task.stage.over && decide (task.phase = .play ⟨7⟩ ⟨1⟩)) = true := by decide +kernel
  obtain ⟨server, hrun, hlast⟩ := (Option.any_eq_true _ _).mp hruns
  obtain ⟨task, htask, hlast⟩ := (Option.any_eq_true _ _).mp hlast
  obtain ⟨hlive, hphase⟩ := Bool.and_eq_true_iff.mp hlast
  refine ⟨server, task, hrun, htask, of_decide_eq_true hphase, ?_⟩
  exact playing_session_is_online (.new .default) _ server hrun (by decide +kernel) ⟨0⟩ task htask
    (by simpa using hlive) ⟨7⟩ ⟨1⟩ (of_decide_eq_true hphase)

/-- Every message has been dispatched and handled. -/
def RuntimeServer.settled (server : RuntimeServer) : Bool :=
  server.deliveries.isEmpty &&
    server.tasks.all fun task => task.stage ≠ .running || task.queue.isEmpty

/-- The timeout takes the player offline, and its session is told nothing. -/
theorem playing_session_is_offline :
    ¬ ∀ (steps : List RuntimeStep) (server : RuntimeServer),
      firstServer.run canonicalContent steps = some server → server.settled = true →
      ∀ connection task, server.task connection = some task → task.stage = .running →
        ∀ playerId entityId, task.phase = .play playerId entityId →
          server.core.onlineEntity playerId = some entityId := by
  intro hall
  have hruns : ((firstServer.run canonicalContent (loginSteps ⟨0⟩ 0 ++
      [.handle ⟨0⟩ [], .builtinTick 20000, .route 0, .send 0 ⟨0⟩, .dispatched 0, .handle ⟨0⟩ [],
        .builtinTick 60000, .route 0, .dispatched 0])).any fun server =>
        server.settled && (decide (server.core.onlineEntity ⟨7⟩ = none) &&
          (server.task ⟨0⟩).any fun task =>
            decide (task.stage = .running ∧ task.phase = .play ⟨7⟩ ⟨1⟩))) = true := by
    decide +kernel
  obtain ⟨server, hrun, hlast⟩ := (Option.any_eq_true _ _).mp hruns
  obtain ⟨hsettled, hlast⟩ := Bool.and_eq_true_iff.mp hlast
  obtain ⟨hoffline, hlast⟩ := Bool.and_eq_true_iff.mp hlast
  obtain ⟨task, htask, hlast⟩ := (Option.any_eq_true _ _).mp hlast
  obtain ⟨hrunning, hphase⟩ := of_decide_eq_true hlast
  have honline := hall _ server hrun hsettled ⟨0⟩ task htask hrunning ⟨7⟩ ⟨1⟩ hphase
  rw [of_decide_eq_true hoffline] at honline
  cases honline

end RevyCraft.SessionLife
