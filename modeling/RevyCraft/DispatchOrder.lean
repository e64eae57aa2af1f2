/-
  RevyCraft/DispatchOrder.lean
  ============================
  **The order in which sessions see the commits.**

  For one session that logged in and plays, three things are followed through
  every run: that the directory leads to it under its own player only, that
  each dispatch keeps what it owes the session until it is sent, and that what
  is sent comes in the order of the commits.  The last two need steps that are
  `Orderly`; the two runs at the end show what happens without.
-/
import RevyCraft.Dispatching

namespace RevyCraft.Dispatch

/-! ### The login of a session -/

def firstLogin (events : List Enqueued) : Option PlayerId :=
  (events.filterMap fun event => acceptedPlayer event.2).head?

variable {playerId : PlayerId} {own : ConnectionId}
  {events : List (TaskEvent RuntimeTask RuntimeMove)}

theorem firstLogin_append_of_some {events later : List Enqueued}
    (h : firstLogin events = some playerId) : firstLogin (events ++ later) = some playerId := by
  simp only [firstLogin, List.filterMap_append] at h ⊢
  rw [List.head?_append, h]
  rfl

theorem firstLogin_of_prefix {events events' : List Enqueued}
    (h : firstLogin events = some playerId) (hfront : events <+: events') :
    firstLogin events' = some playerId := by
  obtain ⟨later, rfl⟩ := hfront
  exact firstLogin_append_of_some h

theorem receive_play {phase : ActorPhase} {message : List Enqueued}
    (h : (message.map Prod.snd).foldl ActorPhase.receive phase = .play playerId) :
    phase = .play playerId ∨ (phase = .login ∧ firstLogin message = some playerId) := by
  induction message generalizing phase with
  | nil => exact .inl h
  | cons event message ih =>
    rw [List.map_cons, List.foldl_cons] at h
    rcases ih h with hphase | ⟨hphase, -⟩
    · cases phase with
      | login =>
        refine .inr ⟨rfl, ?_⟩
        obtain ⟨revision, event⟩ := event
        cases event <;> simp_all [ActorPhase.receive, firstLogin, acceptedPlayer]
      | play other =>
        left
        cases hevent : event.2 <;> simp_all [ActorPhase.receive]
      | closing => simp [ActorPhase.receive] at hphase
    · cases phase with
      | login | play other => cases hevent : event.2 <;> simp_all [ActorPhase.receive]
      | closing => simp [ActorPhase.receive] at hphase

theorem receive_login {phase : ActorPhase} {events : List CoreEvent}
    (h : events.foldl ActorPhase.receive phase = .login) : phase = .login ∧ events = [] := by
  induction events generalizing phase with
  | nil => exact ⟨h, rfl⟩
  | cons event events ih =>
    rw [List.foldl_cons] at h
    obtain ⟨hphase, rfl⟩ := ih h
    cases phase <;> cases event <;> simp [ActorPhase.receive] at hphase

/-- A connection, the player it logged in as, and the revision of the commit that accepted it. -/
structure Login where
  connection : ConnectionId
  playerId : PlayerId
  revision : Nat

/-- The commit accepted the login, and the session plays and was not told to terminate. -/
structure Login.Plays (login : Login) (state : RuntimeState) : Prop where
  accepted : ∃ event ∈ state.log[login.revision]?.getD [],
    event.target = .connection login.connection ∧
      acceptedPlayer event.event = some login.playerId
  playing : ∃ actor, state.actor login.connection = some actor ∧
    actor.phase = .play login.playerId ∧ actor.terminated = false

/-! ### The directory -/

/-- The session of a connection, whose first login was this player's. -/
def Leads (state : RuntimeState) (connection : ConnectionId) (playerId : PlayerId) : Prop :=
  ∃ actor, state.actor connection = some actor ∧ firstLogin actor.handled = some playerId

/-- Entry and phase are about the first login of the session. -/
structure SessionActor.Minds (actor : SessionActor) : Prop where
  entry : ∀ playerId, actor.entry = some playerId → firstLogin actor.handled = some playerId
  play : ∀ playerId, actor.phase = .play playerId → firstLogin actor.handled = some playerId
  unaccepted : actor.phase = .login → firstLogin actor.handled = none
  registered : actor.phase ≠ .closing → actor.registered = true

/-- The directory leads to the session under the player of its first login only. -/
structure Directory (login : Login) (d : Runtime) : Prop where
  bound : ∀ task ∈ d.tasks, ∀ connection, task.connection = some connection →
    connection.value < d.shared.sessions.length
  players : ∀ playerId, d.shared.players playerId = some login.connection →
    Leads d.shared login.connection playerId
  publishing : ∀ task ∈ d.tasks, task.connection = some login.connection → ∀ playerId,
    task.doing = .publishing (some playerId) ∨ task.doing = .published (some playerId) →
    Leads d.shared login.connection playerId
  minds : ∀ actor, d.shared.actor login.connection = some actor → actor.Minds
  known : login.revision < d.shared.log.length →
    login.connection.value < d.shared.sessions.length

namespace SessionActor.Minds

variable {actor : SessionActor}

theorem new : SessionActor.new.Minds := by
  constructor <;> simp [SessionActor.new, firstLogin]

theorem trySend (h : actor.Minds) (message : List Enqueued) : (actor.trySend message).Minds := by
  refine ⟨?_, ?_, ?_, ?_⟩
  · rw [SessionActor.trySend_entry, SessionActor.trySend_handled]
    exact h.entry
  · rw [SessionActor.trySend_phase, SessionActor.trySend_handled]
    exact h.play
  · rw [SessionActor.trySend_phase, SessionActor.trySend_handled]
    exact h.unaccepted
  · rw [SessionActor.trySend_phase, SessionActor.trySend_registered]
    exact h.registered

theorem plays (h : actor.Minds) {message : List Enqueued}
    (hphase : (message.map Prod.snd).foldl ActorPhase.receive actor.phase = .play playerId) :
    firstLogin (actor.handled ++ message) = some playerId := by
  rcases receive_play hphase with hplay | ⟨hlogin, hmessage⟩
  · exact firstLogin_append_of_some (h.play playerId hplay)
  · have hnone := h.unaccepted hlogin
    simp only [firstLogin, List.filterMap_append] at hnone hmessage ⊢
    rw [List.head?_append, hnone, hmessage]
    rfl

theorem handle (h : actor.Minds) (message : List Enqueued) (queue : List (List Enqueued))
    (hrunning : actor.phase ≠ .closing) :
    SessionActor.Minds { actor with
      phase := (message.map Prod.snd).foldl ActorPhase.receive actor.phase
      handled := actor.handled ++ message
      queue := queue } where
  entry := fun playerId hentry => firstLogin_append_of_some (h.entry playerId hentry)
  play := fun _ => h.plays
  unaccepted := fun hphase => by
    obtain ⟨hlogin, hmessage⟩ := receive_login hphase
    obtain rfl : message = [] := by simpa using hmessage
    simpa using h.unaccepted hlogin
  registered := fun _ => h.registered hrunning

end SessionActor.Minds

variable {actor : SessionActor} {state : RuntimeState} {login : Login}

namespace Directory

variable {login : Login} {d d' : Runtime} {state' : RuntimeState} {i : Nat}
  {task task' : RuntimeTask}

theorem new (login : Login) : Directory login Runtime.new := by
  constructor <;> simp [Runtime.new, RuntimeState.new, RuntimeState.actor]

theorem moved (h : Directory login d)
    (hbound : ∀ connection, task'.connection = some connection →
      connection.value < state'.sessions.length)
    (hlength : d.shared.sessions.length ≤ state'.sessions.length)
    (hcarry : ∀ playerId, Leads d.shared login.connection playerId →
      Leads state' login.connection playerId)
    (hplayers : ∀ playerId, state'.players playerId = some login.connection →
      d.shared.players playerId = some login.connection ∨ Leads state' login.connection playerId)
    (hpublishing : task'.connection = some login.connection → ∀ playerId,
      task'.doing = .publishing (some playerId) ∨ task'.doing = .published (some playerId) →
      Leads state' login.connection playerId)
    (hminds : ∀ actor, state'.actor login.connection = some actor → actor.Minds)
    (hknown : login.revision < state'.log.length →
      login.connection.value < state'.sessions.length) :
    Directory login ⟨state', d.tasks.set i task'⟩ := by
  refine ⟨?_, ?_, ?_, hminds, hknown⟩
  · intro other hother connection hsome
    rcases List.mem_or_eq_of_mem_set hother with hother | rfl
    · exact Nat.lt_of_lt_of_le (h.bound other hother connection hsome) hlength
    · exact hbound connection hsome
  · intro playerId hplayer
    rcases hplayers playerId hplayer with hplayer | hleads
    · exact hcarry playerId (h.players playerId hplayer)
    · exact hleads
  · intro other hother hsome playerId hdoing
    rcases List.mem_or_eq_of_mem_set hother with hother | rfl
    · exact hcarry playerId (h.publishing other hother hsome playerId hdoing)
    · exact hpublishing hsome playerId hdoing

/-- A task with another place in its work, in a state with the same sessions and players. -/
theorem keep (h : Directory login d) (htask : d.tasks[i]? = some task)
    (hconnection : task'.connection = task.connection)
    (hpublishing : ∀ playerId, task'.doing = .publishing (some playerId) ∨
      task'.doing = .published (some playerId) → task'.doing = task.doing)
    (hsessions : state'.sessions = d.shared.sessions) (hplayers : state'.players = d.shared.players)
    (hknown : login.revision < state'.log.length →
      login.connection.value < d.shared.sessions.length) :
    Directory login ⟨state', d.tasks.set i task'⟩ := by
  have hmem : task ∈ d.tasks := List.mem_of_getElem? htask
  have hactor : state'.actor login.connection = d.shared.actor login.connection := by
    simp [RuntimeState.actor, hsessions]
  have hcarry : ∀ playerId, Leads d.shared login.connection playerId →
      Leads state' login.connection playerId := by
    unfold Leads
    rw [hactor]
    exact fun _ hleads => hleads
  refine h.moved ?_ (Nat.le_of_eq (by rw [hsessions])) hcarry ?_ ?_ ?_ (hsessions ▸ hknown)
  · intro connection hsome
    rw [hsessions]
    exact h.bound task hmem connection (hconnection ▸ hsome)
  · exact fun playerId hplayer => .inl (hplayers ▸ hplayer)
  · intro hsome playerId hdoing
    have hsame := hpublishing playerId hdoing
    rw [hsame] at hdoing
    exact hcarry playerId (h.publishing task hmem (hconnection ▸ hsome) playerId hdoing)
  · rw [hactor]
    exact h.minds

theorem update {actor' : SessionActor} (h : Directory login d) (htask : d.tasks[i]? = some task)
    (hconnection : task'.connection = task.connection) (hknown : d.shared.actor own = some actor)
    (hhandled : actor.handled <+: actor'.handled)
    (hpublishing : task.connection = some login.connection → ∀ playerId,
      task'.doing = .publishing (some playerId) ∨ task'.doing = .published (some playerId) →
      own = login.connection ∧ firstLogin actor'.handled = some playerId)
    (hminds : own = login.connection → actor'.Minds) :
    Directory login ⟨d.shared.update own actor', d.tasks.set i task'⟩ := by
  have hlength : (d.shared.update own actor').sessions.length = d.shared.sessions.length := by
    simp [RuntimeState.update]
  refine h.moved ?_ (Nat.le_of_eq hlength.symm) ?_ (fun _ hplayer => .inl hplayer) ?_ ?_
    (hlength ▸ h.known)
  · intro connection hsome
    rw [hlength]
    exact h.bound task (List.mem_of_getElem? htask) connection (hconnection ▸ hsome)
  · rintro playerId ⟨found, hfound, hfirst⟩
    by_cases hne : own = login.connection
    · subst hne
      rw [hknown] at hfound
      cases hfound
      exact ⟨actor', actor_update_self hknown, firstLogin_of_prefix hfirst hhandled⟩
    · exact ⟨found, by rw [actor_update_of_ne hne, hfound], hfirst⟩
  · intro hsome playerId hdoing
    obtain ⟨rfl, hfirst⟩ := hpublishing (hconnection ▸ hsome) playerId hdoing
    exact ⟨actor', actor_update_self hknown, hfirst⟩
  · intro found hfound
    by_cases hne : own = login.connection
    · subst hne
      rw [actor_update_self hknown] at hfound
      cases hfound
      exact hminds rfl
    · rw [actor_update_of_ne hne] at hfound
      exact h.minds found hfound

theorem commit {events : List TargetedEvent} (h : Directory login d)
    (htask : d.tasks[i]? = some task)
    (hmay : RuntimeTask.mayCommit ⟨task.connection, .idle⟩ events = true)
    (haccepted : ∀ events', (d.shared.log ++ [events])[login.revision]? = some events' →
      ∃ event ∈ events', event.target = .connection login.connection ∧
        acceptedPlayer event.event = some login.playerId) :
    login.revision < d.shared.log.length + 1 →
      login.connection.value < d.shared.sessions.length := by
  intro hlt
  rcases Nat.lt_succ_iff_lt_or_eq.mp hlt with hlt | heq
  · exact h.known hlt
  · obtain ⟨event, hmem, htarget, hplayer⟩ := haccepted events (by rw [heq]; simp)
    have hown := List.all_eq_true.mp hmay event hmem
    simp only [hplayer, htarget, Option.isNone_some, Bool.false_or, decide_eq_true_eq] at hown
    obtain ⟨connection, hconnection, hsame⟩ := Option.map_eq_some_iff.mp hown.symm
    cases hsame
    exact h.bound task (List.mem_of_getElem? htask) _ hconnection

theorem register (h : Directory login d) :
    Directory login ⟨{ d.shared with sessions := d.shared.sessions ++ [.new] },
      d.tasks.set i ⟨some ⟨d.shared.sessions.length⟩, .idle⟩⟩ := by
  have hlen : (d.shared.sessions ++ [SessionActor.new]).length = d.shared.sessions.length + 1 := by
    simp
  refine h.moved ?_ (by rw [hlen]; omega) ?_ (fun _ hplayer => .inl hplayer) ?_ ?_ ?_
  · intro connection hsome
    cases hsome
    rw [hlen]
    exact Nat.lt_succ_self _
  · rintro playerId ⟨found, hfound, hfirst⟩
    refine ⟨found, ?_, hfirst⟩
    simpa [RuntimeState.actor, List.getElem?_append_left (actor_lt hfound)] using hfound
  · intro _ playerId hdoing
    rcases hdoing with hdoing | hdoing <;> cases hdoing
  · intro found hfound
    by_cases hlt : login.connection.value < d.shared.sessions.length
    · refine h.minds found ?_
      simpa [RuntimeState.actor, List.getElem?_append_left hlt] using hfound
    · rw [RuntimeState.actor, List.getElem?_append_right (by omega)] at hfound
      obtain rfl : found = .new := by simpa using List.mem_of_getElem? hfound
      exact .new
  · intro hlt
    rw [hlen]
    exact Nat.lt_succ_of_lt (h.known hlt)

theorem publishPlayers_cases {connection : ConnectionId} {previous next : Option PlayerId}
    (h : (state.publishPlayers own previous next).players playerId = some connection) :
    state.players playerId = some connection ∨ (own = connection ∧ next = some playerId) := by
  unfold RuntimeState.publishPlayers at h
  split_ifs at h with hsame
  · exact .inl h
  · dsimp only at h
    split_ifs at h with hnext hprevious
    · exact .inr ⟨Option.some.inj h, hnext.symm⟩
    · exact .inl h

theorem publish {previous entry : Option PlayerId} (h : Directory login d)
    (htask : d.tasks[i]? = some task) (hown : task.connection = some own)
    (hdoing : task.doing = .publishing entry) :
    Directory login ⟨d.shared.publishPlayers own previous entry,
      d.tasks.set i ⟨task.connection, .published entry⟩⟩ := by
  have hmem : task ∈ d.tasks := List.mem_of_getElem? htask
  have hactor : (d.shared.publishPlayers own previous entry).actor login.connection =
      d.shared.actor login.connection := publishPlayers_actor _ _ _
  have hsessions : (d.shared.publishPlayers own previous entry).sessions = d.shared.sessions := by
    unfold RuntimeState.publishPlayers
    split_ifs <;> rfl
  have hcarry : ∀ playerId, Leads d.shared login.connection playerId →
      Leads (d.shared.publishPlayers own previous entry) login.connection playerId := by
    unfold Leads
    rw [hactor]
    exact fun _ hleads => hleads
  refine h.moved ?_ (Nat.le_of_eq (by rw [hsessions])) hcarry ?_ ?_ ?_ ?_
  · rw [hsessions]
    exact h.bound task hmem
  · intro playerId hplayer
    rcases publishPlayers_cases hplayer with hplayer | ⟨rfl, rfl⟩
    · exact .inl hplayer
    · exact .inr (hcarry playerId (h.publishing task hmem hown playerId (.inl hdoing)))
  · intro hsome playerId hpublished
    refine hcarry playerId (h.publishing task hmem hsome playerId (.inl ?_))
    rcases hpublished with hpublished | hpublished
    · cases hpublished
    · cases hpublished
      exact hdoing
  · rw [hactor]
    exact h.minds
  · rw [publishPlayers_log, hsessions]
    exact h.known

theorem handle (h : Directory login d) (htask : d.tasks[i]? = some task)
    (hown : task.connection = some own) (hknown : d.shared.actor own = some actor)
    (hrunning : actor.phase ≠ .closing) (message : List Enqueued) (queue : List (List Enqueued)) :
    Directory login ⟨d.shared.update own { actor with
        phase := (message.map Prod.snd).foldl ActorPhase.receive actor.phase
        handled := actor.handled ++ message
        queue := queue },
      d.tasks.set i ⟨task.connection, .publishing
        ((message.map Prod.snd).foldl ActorPhase.receive actor.phase).playerId⟩⟩ := by
  refine h.update htask rfl hknown (List.prefix_append _ _) ?_ ?_
  · intro hconnection playerId hdoing
    obtain rfl : own = login.connection := Option.some.inj (hown.symm.trans hconnection)
    refine ⟨rfl, (h.minds actor hknown).plays ?_⟩
    have hplayer : ((message.map Prod.snd).foldl ActorPhase.receive actor.phase).playerId =
        some playerId := by
      rcases hdoing with hdoing | hdoing
      · simpa using hdoing
      · cases hdoing
    cases hphase : (message.map Prod.snd).foldl ActorPhase.receive actor.phase with
    | play other =>
      rw [hphase] at hplayer
      exact congrArg ActorPhase.play (Option.some.inj hplayer)
    | login | closing =>
      rw [hphase] at hplayer
      cases hplayer
  · rintro rfl
    exact (h.minds actor hknown).handle message queue hrunning

theorem step (h : Directory login d) (htask : d.tasks[i]? = some task) {move : RuntimeMove}
    (hmove : Moves d.shared task.connection task.doing move state' task')
    (haccepted : ∀ events', state'.log[login.revision]? = some events' →
      ∃ event ∈ events', event.target = .connection login.connection ∧
        acceptedPlayer event.event = some login.playerId) :
    Directory login ⟨state', d.tasks.set i task'⟩ := by
  have hmem : task ∈ d.tasks := List.mem_of_getElem? htask
  obtain ⟨connection, doing⟩ := task
  dsimp only at hmove
  cases hmove with
  | register => exact h.register
  | commit may =>
    refine h.keep htask rfl (by simp) rfl rfl ?_
    simpa using h.commit htask may haccepted
  | resync | toConnection | toPlayer known | toNobody unknown | toEveryone | read left
  | routed | wasRead | sent => exact h.keep htask rfl (by simp) rfl rfl h.known
  | unchanged mine known same => exact h.keep htask rfl (by simp) rfl rfl h.known
  | @send revision batches recipient actor known =>
    refine h.update htask rfl known ?_ (by simp) ?_
    · rw [SessionActor.trySend_handled]
    · rintro rfl
      exact (h.minds actor known).trySend _
  | @handle own actor message queue mine known running next =>
    exact h.handle htask mine known running message queue
  | @publish own actor entry mine known differ => exact h.publish htask mine rfl
  | @store own actor entry mine known =>
    refine h.update htask rfl known List.prefix_rfl (by simp) ?_
    rintro rfl
    refine { h.minds actor known with entry := ?_ }
    rintro playerId rfl
    obtain ⟨found, hfound, hfirst⟩ := h.publishing _ hmem mine playerId (.inr rfl)
    rw [known] at hfound
    cases hfound
    exact hfirst
  | @close own actor mine known =>
    refine h.update htask rfl known List.prefix_rfl (by simp) ?_
    rintro rfl
    exact ⟨(h.minds actor known).entry, by simp, by simp, by simp⟩
  | @remove own actor mine known closing =>
    refine h.update htask rfl known List.prefix_rfl (by simp) ?_
    rintro rfl
    exact { h.minds actor known with registered := fun hphase => absurd closing hphase }

end Directory

/-! ### What a session is owed -/

/-- A target that means the session: its connection, and once it is logged in its player or
    everyone except another player. -/
def Login.owed (login : Login) (revision : Nat) : EventTarget → Bool
  | .connection connection => connection = login.connection
  | .player playerId => login.revision < revision && playerId = login.playerId
  | .everyoneExcept playerId => login.revision < revision && playerId ≠ login.playerId

/-- The events among these that the session is owed. -/
def Login.due (login : Login) (revision : Nat) (events : List TargetedEvent) : List CoreEvent :=
  (events.filter fun event => login.owed revision event.target).map TargetedEvent.event

/-- The events that a dispatch still has for the session, or still has to route to it. -/
def Login.held (login : Login) : Doing → List CoreEvent
  | .routing (some revision) events batches =>
    batches.batch login.connection ++ login.due revision events
  | .reading (some revision) excluded event entries events batches =>
    batches.batch login.connection ++
      (if login.connection ∈ entries ∧ login.owed revision (.everyoneExcept excluded) then [event]
        else []) ++ login.due revision events
  | .sending (some _) batches => batches.batch login.connection
  | _ => []

/-- The commit that a task dispatches. -/
def Doing.revision : Doing → Option Nat
  | .routing revision _ _ => revision
  | .reading revision _ _ _ _ _ => revision
  | .sending revision _ => revision
  | _ => none

/-- The committed events that a session was sent, with their revisions. -/
def RuntimeState.sent (state : RuntimeState) (connection : ConnectionId) :
    List (Nat × CoreEvent) :=
  (((state.actor connection).map SessionActor.enqueued).getD []).filterMap fun event =>
    event.1.map (·, event.2)

def ofRevision (revision : Nat) (sent : List (Nat × CoreEvent)) : List CoreEvent :=
  (sent.filter fun event => event.1 = revision).map Prod.snd

/-- The orderly steps, for one session: a lookup by player or for everyone leads to the session
    exactly if the commit is later than its login; and a batch is sent to it only if no older
    commit still has events for it. -/
def Orderly (login : Login) (d : Runtime) : TaskEvent RuntimeTask RuntimeMove → Prop
  | .spawn _ => True
  | .move i move =>
    match d.tasks[i]?.map RuntimeTask.doing, move with
    | some (.routing (some revision) (⟨.player playerId, _⟩ :: _) _), .route =>
      playerId = login.playerId →
        (d.shared.players playerId = some login.connection ↔ login.revision < revision)
    | some (.reading (some revision) excluded _ _ _ _), .read connection =>
      connection = login.connection → excluded ≠ login.playerId →
        ((d.shared.actor connection).bind SessionActor.entry = some login.playerId ↔
          login.revision < revision)
    | some (.sending (some revision) _), .send connection =>
      connection = login.connection → ∀ task ∈ d.tasks,
        task.doing.revision.any (· < revision) = true → (login.held task.doing).isEmpty = true
    | _, _ => True

/-- The commits of `log` reach the session in their order. -/
structure Delivers (login : Login) (log : List (List TargetedEvent)) (d : Runtime) : Prop where
  dispatched : ∀ (i : Nat) (task : RuntimeTask) (revision : Nat), d.tasks[i]? = some task →
    task.doing.revision = some revision → revision < d.shared.log.length ∧
      (login.revision ≤ revision →
        ofRevision revision (d.shared.sent login.connection) ++ login.held task.doing =
          login.due revision (log[revision]?.getD []))
  finished : ∀ revision < d.shared.log.length, login.revision ≤ revision →
    (∀ task ∈ d.tasks, task.doing.revision ≠ some revision) →
    ofRevision revision (d.shared.sent login.connection) =
      login.due revision (log[revision]?.getD [])
  distinct : ∀ (i j : Nat) (task task' : RuntimeTask) (revision : Nat),
    d.tasks[i]? = some task → d.tasks[j]? = some task' →
    task.doing.revision = some revision → task'.doing.revision = some revision → i = j
  bounded : ∀ event ∈ d.shared.sent login.connection, event.1 < d.shared.log.length
  sorted : (d.shared.sent login.connection).Pairwise fun event event' => event.1 ≤ event'.1
  -- what is held is later than what was sent
  later : ∀ event ∈ d.shared.sent login.connection, ∀ task ∈ d.tasks, ∀ revision,
    task.doing.revision = some revision → login.held task.doing ≠ [] → event.1 < revision

namespace Delivers

variable {login : Login} {log : List (List TargetedEvent)} {d : Runtime} {state' : RuntimeState}
  {i : Nat} {task task' : RuntimeTask}

theorem new (login : Login) (log : List (List TargetedEvent)) : Delivers login log Runtime.new := by
  constructor <;> simp [Runtime.new, RuntimeState.new, RuntimeState.sent, RuntimeState.actor]

theorem keep (h : Delivers login log d) (htask : d.tasks[i]? = some task)
    (hlog : state'.log = d.shared.log)
    (hsent : state'.sent login.connection = d.shared.sent login.connection)
    (hchange : (task'.doing.revision = task.doing.revision ∧
        (∀ revision, task.doing.revision = some revision → login.revision ≤ revision →
          login.held task'.doing = login.held task.doing) ∧
        (login.held task.doing = [] → login.held task'.doing = [])) ∨
      (task'.doing.revision = none ∧ login.held task.doing = [])) :
    Delivers login log ⟨state', d.tasks.set i task'⟩ := by
  have hmem : task ∈ d.tasks := List.mem_of_getElem? htask
  have hlt : i < d.tasks.length := (List.getElem?_eq_some_iff.mp htask).1
  have hself : (d.tasks.set i task')[i]? = some task' := by simp [hlt]
  have hold : ∀ (j : Nat) (other : RuntimeTask) (revision : Nat),
      (d.tasks.set i task')[j]? = some other → other.doing.revision = some revision →
      ∃ before, d.tasks[j]? = some before ∧ before.doing.revision = some revision ∧
        (login.revision ≤ revision → login.held other.doing = login.held before.doing) ∧
        (login.held before.doing = [] → login.held other.doing = []) := by
    intro j other revision hget hrevision
    rcases getElem?_set_cases hget with ⟨rfl, rfl⟩ | ⟨-, hget⟩
    · rcases hchange with ⟨hsame, hheld, hnil⟩ | ⟨hnone, -⟩
      · rw [hsame] at hrevision
        exact ⟨task, htask, hrevision, hheld revision hrevision, hnil⟩
      · rw [hnone] at hrevision
        cases hrevision
    · exact ⟨other, hget, hrevision, fun _ => rfl, id⟩
  refine ⟨?_, ?_, ?_, ?_, ?_, ?_⟩
  · intro j other revision hget hrevision
    obtain ⟨before, hbefore, hrevision', hheld, -⟩ := hold j other revision hget hrevision
    obtain ⟨hbound, heq⟩ := h.dispatched j before revision hbefore hrevision'
    refine ⟨hlog ▸ hbound, ?_⟩
    intro hle
    rw [hsent, hheld hle]
    exact heq hle
  · intro revision hbound hle hnone
    rw [hlog] at hbound
    rw [hsent]
    by_cases hrevision : task.doing.revision = some revision
    · -- the dispatch ended, with nothing left
      rcases hchange with ⟨hsame, -, -⟩ | ⟨-, hheld⟩
      · exact absurd (hsame.trans hrevision) (hnone task' (List.mem_of_getElem? hself))
      · have heq := (h.dispatched i task revision htask hrevision).2 hle
        rwa [hheld, List.append_nil] at heq
    · refine h.finished revision hbound hle ?_
      intro other hmem' hsame
      refine hnone other (mem_set_of_mem_of_ne htask hmem' ?_) hsame
      rintro rfl
      exact hrevision hsame
  · intro j k other other' revision hj hk hrevision hrevision'
    obtain ⟨before, hbefore, hbefore', -, -⟩ := hold j other revision hj hrevision
    obtain ⟨before', hget', hbefore'', -, -⟩ := hold k other' revision hk hrevision'
    exact h.distinct j k before before' revision hbefore hget' hbefore' hbefore''
  · rw [hsent, hlog]
    exact h.bounded
  · rw [hsent]
    exact h.sorted
  · rw [hsent]
    intro event hevent other hmem' revision hrevision hheld
    obtain ⟨j, hj, hget⟩ := List.mem_iff_getElem.mp hmem'
    have hget' : (d.tasks.set i task')[j]? = some other := by
      rw [List.getElem?_eq_getElem hj, hget]
    obtain ⟨before, hbefore, hrevision', -, hnil⟩ := hold j other revision hget' hrevision
    exact h.later event hevent before (List.mem_of_getElem? hbefore) revision hrevision'
      (fun hempty => hheld (hnil hempty))

theorem sent_update {actor' : SessionActor} (hknown : d.shared.actor own = some actor)
    (hsame : own = login.connection → actor'.enqueued = actor.enqueued) :
    (d.shared.update own actor').sent login.connection = d.shared.sent login.connection := by
  unfold RuntimeState.sent
  by_cases hown : own = login.connection
  · have hknown' := hknown
    rw [hown] at hknown'
    rw [hown, actor_update_self hknown', hknown']
    simp [hsame hown]
  · rw [actor_update_of_ne hown]

theorem rest (h : Delivers login log d) (htask : d.tasks[i]? = some task)
    (hlog : state'.log = d.shared.log)
    (hsent : state'.sent login.connection = d.shared.sent login.connection)
    (hbefore : task.doing.revision = none) (hafter : task'.doing.revision = none) :
    Delivers login log ⟨state', d.tasks.set i task'⟩ := by
  have hnil : ∀ doing : Doing, doing.revision = none → login.held doing = [] := by
    intro doing hnone
    unfold Login.held
    split <;> simp_all [Doing.revision]
  exact h.keep htask hlog hsent (.inr ⟨hafter, hnil _ hbefore⟩)

theorem goOn {revision : Option Nat} (h : Delivers login log d) (htask : d.tasks[i]? = some task)
    (hbefore : task.doing.revision = revision) (hafter : task'.doing.revision = revision)
    (hheld : ∀ number, revision = some number →
      login.held task'.doing = login.held task.doing ∨
        (number < login.revision ∧ login.held task.doing ≠ [])) :
    Delivers login log ⟨d.shared, d.tasks.set i task'⟩ := by
  rcases revision with _ | number
  · exact h.rest htask rfl rfl hbefore hafter
  · refine h.keep htask rfl rfl (.inl ⟨hafter.trans hbefore.symm, ?_, ?_⟩)
    · intro revision hrevision hle
      obtain rfl : number = revision := Option.some.inj (hbefore.symm.trans hrevision)
      rcases hheld number rfl with heq | ⟨hlt, -⟩
      · exact heq
      · omega
    · intro hnil
      rcases hheld number rfl with heq | ⟨-, hne⟩
      · rw [heq, hnil]
      · exact absurd hnil hne

theorem commit {events : List TargetedEvent} (h : Delivers login log d)
    (htask : d.tasks[i]? = some task) (hidle : task.doing.revision = none)
    (hlog : d.shared.log ++ [events] <+: log)
    (htask' : task'.doing = .routing (some d.shared.log.length) events []) :
    Delivers login log ⟨{ d.shared with log := d.shared.log ++ [events] }, d.tasks.set i task'⟩ := by
  have hlt : i < d.tasks.length := (List.getElem?_eq_some_iff.mp htask).1
  have hself : (d.tasks.set i task')[i]? = some task' := by simp [hlt]
  have hrevision : task'.doing.revision = some d.shared.log.length := by
    rw [htask']
    rfl
  have hevents : log[d.shared.log.length]? = some events := by
    obtain ⟨rest, rfl⟩ := hlog
    simp
  have hnone : ofRevision d.shared.log.length (d.shared.sent login.connection) = [] := by
    simp only [ofRevision, List.map_eq_nil_iff, List.filter_eq_nil_iff, decide_eq_true_eq]
    intro event hevent
    exact (h.bounded event hevent).ne
  refine ⟨?_, ?_, ?_, ?_, h.sorted, ?_⟩
  · intro j other revision hget hrev
    rw [List.length_append]
    rcases getElem?_set_cases hget with ⟨rfl, rfl⟩ | ⟨-, hget⟩
    · obtain rfl := Option.some.inj (hrevision.symm.trans hrev)
      refine ⟨by simp, ?_⟩
      intro _
      change ofRevision _ (d.shared.sent login.connection) ++ _ = _
      rw [hnone, htask', hevents]
      simp [Login.held, Batches.batch]
    · obtain ⟨hbound, heq⟩ := h.dispatched j other revision hget hrev
      exact ⟨by omega, heq⟩
  · intro revision hbound hle hnobody
    rw [List.length_append] at hbound
    have hne : revision ≠ d.shared.log.length := by
      rintro rfl
      exact hnobody task' (List.mem_of_getElem? hself) hrevision
    refine h.finished revision (by simp at hbound; omega) hle ?_
    intro other hmem hsame
    refine hnobody other (mem_set_of_mem_of_ne htask hmem ?_) hsame
    rintro rfl
    rw [hidle] at hsame
    cases hsame
  · intro j k other other' revision hj hk hrev hrev'
    rcases getElem?_set_cases hj with ⟨hji, hnew⟩ | ⟨-, hj'⟩
    · rcases getElem?_set_cases hk with ⟨hki, -⟩ | ⟨-, hk'⟩
      · rw [hji, hki]
      · rw [hnew, hrevision] at hrev
        cases hrev
        exact absurd (h.dispatched k other' _ hk' hrev').1 (by simp)
    · rcases getElem?_set_cases hk with ⟨-, hnew⟩ | ⟨-, hk'⟩
      · rw [hnew, hrevision] at hrev'
        cases hrev'
        exact absurd (h.dispatched j other _ hj' hrev).1 (by simp)
      · exact h.distinct j k other other' revision hj' hk' hrev hrev'
  · intro event hevent
    rw [List.length_append]
    exact Nat.lt_add_right _ (h.bounded event hevent)
  · intro event hevent other hmem revision hrev hheld
    obtain ⟨j, hj, hget⟩ := List.mem_iff_getElem.mp hmem
    have hget' : (d.tasks.set i task')[j]? = some other := by
      rw [List.getElem?_eq_getElem hj, hget]
    rcases getElem?_set_cases hget' with ⟨rfl, rfl⟩ | ⟨-, hget'⟩
    · obtain rfl := Option.some.inj (hrevision.symm.trans hrev)
      exact h.bounded event hevent
    · exact h.later event hevent other (List.mem_of_getElem? hget') revision hrev hheld

theorem ofRevision_append (revision : Nat) (sent sent' : List (Nat × CoreEvent)) :
    ofRevision revision (sent ++ sent') = ofRevision revision sent ++ ofRevision revision sent' := by
  simp [ofRevision]

theorem ofRevision_tagged (revision number : Nat) (batch : List CoreEvent) :
    ofRevision revision (batch.map (number, ·)) = if number = revision then batch else [] := by
  by_cases h : number = revision
  · simp [ofRevision, h, List.filter_map, Function.comp_def]
  · simp [ofRevision, h, List.filter_map, Function.comp_def]

theorem send (number : Nat) (batch : List CoreEvent) (h : Delivers login log d)
    (htask : d.tasks[i]? = some task) (hlog : state'.log = d.shared.log)
    (hsent : state'.sent login.connection =
      d.shared.sent login.connection ++ batch.map (number, ·))
    (hbefore : task.doing.revision = some number) (hafter : task'.doing.revision = some number)
    (hheld : login.held task.doing = batch) (hheld' : login.held task'.doing = [])
    (horderly : ∀ other ∈ d.tasks, ∀ older, other.doing.revision = some older → older < number →
      login.held other.doing = []) :
    Delivers login log ⟨state', d.tasks.set i task'⟩ := by
  have hmem : task ∈ d.tasks := List.mem_of_getElem? htask
  have hlt : i < d.tasks.length := (List.getElem?_eq_some_iff.mp htask).1
  have hget : (d.tasks.set i task')[i]? = some task' := by simp [hlt]
  have hself : task' ∈ d.tasks.set i task' := List.mem_of_getElem? hget
  -- the other dispatches are of other commits
  have hothers : ∀ (j : Nat) (other : RuntimeTask) (revision : Nat), j ≠ i →
      d.tasks[j]? = some other → other.doing.revision = some revision → number ≠ revision := by
    rintro j other revision hji hget hrev rfl
    exact hji (h.distinct j i other task number hget htask hrev hbefore)
  refine ⟨?_, ?_, ?_, ?_, ?_, ?_⟩
  · intro j other revision hget hrev
    rw [hlog, hsent, ofRevision_append, ofRevision_tagged]
    rcases getElem?_set_cases hget with ⟨rfl, rfl⟩ | ⟨hji, hget'⟩
    · rw [hafter] at hrev
      cases hrev
      obtain ⟨hbound, heq⟩ := h.dispatched j task number htask hbefore
      refine ⟨hbound, ?_⟩
      intro hle
      rw [if_pos rfl, hheld', List.append_nil, ← hheld]
      exact heq hle
    · rw [if_neg (hothers j other revision hji hget' hrev), List.append_nil]
      exact h.dispatched j other revision hget' hrev
  · intro revision hbound hle hnobody
    have hne : number ≠ revision := by
      rintro rfl
      exact hnobody task' hself hafter
    rw [hlog] at hbound
    rw [hsent, ofRevision_append, ofRevision_tagged, if_neg hne, List.append_nil]
    refine h.finished revision hbound hle ?_
    intro other hmem' hsame
    refine hnobody other (mem_set_of_mem_of_ne htask hmem' ?_) hsame
    rintro rfl
    rw [hbefore] at hsame
    exact hne (Option.some.inj hsame)
  · intro j k other other' revision hj hk hrev hrev'
    rcases getElem?_set_cases hj with ⟨hji, hnew⟩ | ⟨hji, hj'⟩
    · rcases getElem?_set_cases hk with ⟨hki, -⟩ | ⟨hki, hk'⟩
      · rw [hji, hki]
      · rw [hnew, hafter] at hrev
        exact absurd (Option.some.inj hrev) (hothers k other' revision hki hk' hrev')
    · rcases getElem?_set_cases hk with ⟨-, hnew⟩ | ⟨-, hk'⟩
      · rw [hnew, hafter] at hrev'
        exact absurd (Option.some.inj hrev') (hothers j other revision hji hj' hrev)
      · exact h.distinct j k other other' revision hj' hk' hrev hrev'
  · rw [hsent, hlog]
    intro event hevent
    rcases List.mem_append.mp hevent with hevent | hevent
    · exact h.bounded event hevent
    · obtain ⟨_, -, rfl⟩ := List.mem_map.mp hevent
      exact (h.dispatched i task number htask hbefore).1
  · rw [hsent]
    refine List.pairwise_append.mpr ⟨h.sorted, ?_, ?_⟩
    · exact List.pairwise_map.mpr (List.pairwise_of_forall fun _ _ => Nat.le_refl number)
    · intro event hevent event' hevent'
      obtain ⟨sent, hmem', rfl⟩ := List.mem_map.mp hevent'
      have hne : login.held task.doing ≠ [] := by
        rw [hheld]
        exact List.ne_nil_of_mem hmem'
      exact (h.later event hevent task hmem number hbefore hne).le
  · rw [hsent]
    intro event hevent other hmem' revision hrev hne
    obtain ⟨j, hj⟩ := List.mem_iff_getElem?.mp hmem'
    rcases getElem?_set_cases hj with ⟨-, rfl⟩ | ⟨hji, hj'⟩
    · exact absurd hheld' hne
    · have hother := List.mem_of_getElem? hj'
      rcases List.mem_append.mp hevent with hevent | hevent
      · exact h.later event hevent other hother revision hrev hne
      · obtain ⟨_, -, rfl⟩ := List.mem_map.mp hevent
        by_contra hle
        have hnumber := hothers j other revision hji hj' hrev
        exact hne (horderly other hother revision hrev (by dsimp only at hle; omega))

/-- What is known of the session while it plays on. -/
structure Lives (login : Login) (state : RuntimeState) : Prop where
  player : ∀ actor, state.actor login.connection = some actor → ∀ playerId,
    firstLogin actor.handled = some playerId → playerId = login.playerId
  running : ∀ actor, state.actor login.connection = some actor →
    actor.phase ≠ .closing ∧ actor.terminated = false

theorem registered_of_known (hdirectory : Directory login d) (hlives : Lives login d.shared)
    (hknown : login.revision < d.shared.log.length) :
    d.shared.registered login.connection = true := by
  obtain ⟨actor, hactor⟩ : ∃ actor, d.shared.actor login.connection = some actor :=
    ⟨_, List.getElem?_eq_getElem (hdirectory.known hknown)⟩
  have hregistered := (hdirectory.minds actor hactor).registered (hlives.running actor hactor).1
  simp [RuntimeState.registered, hactor, hregistered]

theorem batch_pushTo (state : RuntimeState) (connection other : ConnectionId) (event : CoreEvent)
    (batches : Batches) :
    (state.pushTo other event batches).batch connection = batches.batch connection ++
      if other = connection ∧ state.registered connection = true then [event] else [] := by
  unfold RuntimeState.pushTo
  by_cases hregistered : state.registered other = true
  · rw [if_pos hregistered, Batches.batch_push]
    by_cases hsame : other = connection
    · subst hsame
      simp [hregistered]
    · simp [hsame]
  · rw [if_neg hregistered]
    by_cases hsame : other = connection
    · subst hsame
      simp [hregistered]
    · simp [hsame]

theorem due_cons (login : Login) (revision : Nat) (event : TargetedEvent)
    (events : List TargetedEvent) :
    login.due revision (event :: events) =
      (if login.owed revision event.target then [event.event] else []) ++
        login.due revision events := by
  unfold Login.due
  by_cases h : login.owed revision event.target = true
  · simp [h]
  · simp [h]

section Held

variable {number : Nat} {events : List TargetedEvent} {batches : Batches} {event : CoreEvent}
  {recipient : ConnectionId} {playerId excluded : PlayerId} {entries : List ConnectionId}

theorem held_toConnection (hdirectory : Directory login d) (hlives : Lives login d.shared)
    (hbound : number < d.shared.log.length) :
    login.held (.routing (some number) events (d.shared.pushTo recipient event batches)) =
        login.held (.routing (some number) (⟨.connection recipient, event⟩ :: events) batches) ∨
      (number < login.revision ∧
        login.held (.routing (some number) (⟨.connection recipient, event⟩ :: events) batches) ≠
          []) := by
  simp only [Login.held, batch_pushTo, due_cons, Login.owed, decide_eq_true_eq]
  by_cases hsame : recipient = login.connection
  · by_cases hle : login.revision ≤ number
    · left
      have hregistered := registered_of_known hdirectory hlives (by omega)
      simp [hsame, hregistered]
    · right
      refine ⟨by omega, ?_⟩
      simp [hsame]
  · left
    simp [hsame]

theorem held_toPlayer (hdirectory : Directory login d) (hlives : Lives login d.shared)
    (hbound : number < d.shared.log.length) (hknown : d.shared.players playerId = some recipient)
    (horderly : playerId = login.playerId →
      (d.shared.players playerId = some login.connection ↔ login.revision < number)) :
    login.held (.routing (some number) events (d.shared.pushTo recipient event batches)) =
      login.held (.routing (some number) (⟨.player playerId, event⟩ :: events) batches) := by
  simp only [Login.held, batch_pushTo, due_cons, Login.owed, Bool.and_eq_true, decide_eq_true_eq]
  by_cases hsame : recipient = login.connection
  · -- the projection leads to the session under its own player only
    subst hsame
    obtain ⟨actor, hactor, hfirst⟩ := hdirectory.players playerId hknown
    have hplayer := hlives.player actor hactor playerId hfirst
    have hlater := (horderly hplayer).mp hknown
    have hregistered := registered_of_known hdirectory hlives (by omega)
    simp [hplayer, hlater, hregistered]
  · have hnot : ¬(login.revision < number ∧ playerId = login.playerId) := by
      rintro ⟨hlater, hplayer⟩
      have hleads := (horderly hplayer).mpr hlater
      rw [hknown] at hleads
      exact hsame (Option.some.inj hleads)
    simp [hsame, hnot]

theorem held_toEveryone (hdirectory : Directory login d) (hlives : Lives login d.shared)
    (hbound : number < d.shared.log.length) :
    login.held (.reading (some number) excluded event d.shared.entries events batches) =
      login.held (.routing (some number) (⟨.everyoneExcept excluded, event⟩ :: events) batches) := by
  simp only [Login.held, due_cons]
  by_cases howed : login.owed number (.everyoneExcept excluded) = true
  · have hlater : login.revision < number := by
      simp only [Login.owed, Bool.and_eq_true, decide_eq_true_eq] at howed
      exact howed.1
    have hregistered := registered_of_known hdirectory hlives (by omega)
    have hmem : login.connection ∈ d.shared.entries := by
      have hlt := hdirectory.known (by omega)
      simp only [RuntimeState.entries, List.mem_filter, List.mem_map, List.mem_range]
      exact ⟨⟨login.connection.value, hlt, rfl⟩, hregistered⟩
    simp [howed, hmem]
  · simp [howed]

theorem batch_readEntry (hdirectory : Directory login d) (hlives : Lives login d.shared)
    (horderly : excluded ≠ login.playerId →
      ((d.shared.actor login.connection).bind SessionActor.entry = some login.playerId ↔
        login.revision < number)) :
    (d.shared.readEntry login.connection excluded event batches).batch login.connection =
      batches.batch login.connection ++
        if login.owed number (.everyoneExcept excluded) = true then [event] else [] := by
  have hentry : ∀ playerId,
      (d.shared.actor login.connection).bind SessionActor.entry = some playerId →
      playerId = login.playerId := by
    intro playerId hentry
    obtain ⟨actor, hactor, hplayer⟩ := Option.bind_eq_some_iff.mp hentry
    exact hlives.player actor hactor playerId ((hdirectory.minds actor hactor).entry playerId hplayer)
  simp only [Login.owed, Bool.and_eq_true, decide_eq_true_eq]
  unfold RuntimeState.readEntry
  by_cases hexcluded : excluded = login.playerId
  · split
    · rename_i playerId hplayer
      rw [hentry playerId hplayer]
      simp [hexcluded]
    · simp [hexcluded]
  · have hiff := horderly hexcluded
    split
    · rename_i playerId hplayer
      have hown := hentry playerId hplayer
      subst hown
      have hlater := hiff.mp hplayer
      have hne : login.playerId ≠ excluded := fun heq => hexcluded heq.symm
      simp [hlater, hexcluded, hne, Batches.batch_push]
    · rename_i hnobody
      have hnot : ¬login.revision < number := by
        intro hlater
        have hleads := hiff.mpr hlater
        rw [hnobody] at hleads
        cases hleads
      simp [hnot]

theorem held_read (hdirectory : Directory login d) (hlives : Lives login d.shared)
    (hleft : recipient ∈ entries)
    (horderly : recipient = login.connection → excluded ≠ login.playerId →
      ((d.shared.actor recipient).bind SessionActor.entry = some login.playerId ↔
        login.revision < number)) :
    login.held (.reading (some number) excluded event (entries.filter (· ≠ recipient)) events
        (d.shared.readEntry recipient excluded event batches)) =
      login.held (.reading (some number) excluded event entries events batches) := by
  simp only [Login.held]
  by_cases hsame : recipient = login.connection
  · subst hsame
    rw [batch_readEntry hdirectory hlives (horderly rfl)]
    simp [hleft]
  · have hread : (d.shared.readEntry recipient excluded event batches).batch login.connection =
        batches.batch login.connection := by
      unfold RuntimeState.readEntry
      split
      · split_ifs
        · simp [Batches.batch_push, hsame]
        · rfl
      · rfl
    have hmem : login.connection ∈ entries.filter (· ≠ recipient) ↔
        login.connection ∈ entries := by
      simp only [ne_eq, decide_not, List.mem_filter, Bool.not_eq_eq_eq_not, Bool.not_true,
        decide_eq_false_iff_not, and_iff_left_iff_imp]
      intro _ heq
      exact hsame heq.symm
    rw [hread]
    simp only [hmem]

end Held

theorem step (h : Delivers login log d) (hdirectory : Directory login d)
    (hlives : Lives login d.shared) (hlives' : Lives login state') (hlog : state'.log <+: log)
    (htask : d.tasks[i]? = some task) {move : RuntimeMove}
    (hmove : Moves d.shared task.connection task.doing move state' task')
    (horderly : Orderly login d (.move i move)) :
    Delivers login log ⟨state', d.tasks.set i task'⟩ := by
  obtain ⟨connection, doing⟩ := task
  simp only [Orderly, htask, Option.map_some] at horderly
  dsimp only at hmove
  cases hmove with
  | register =>
    refine h.rest htask rfl ?_ rfl rfl
    unfold RuntimeState.sent RuntimeState.actor
    dsimp only
    by_cases hlt : login.connection.value < d.shared.sessions.length
    · rw [List.getElem?_append_left hlt]
    · have hnobody : d.shared.sessions[login.connection.value]? = none :=
        List.getElem?_eq_none (by omega)
      rw [List.getElem?_append_right (by omega), hnobody]
      cases hnew : [SessionActor.new][login.connection.value - d.shared.sessions.length]? with
      | none => rfl
      | some actor =>
        have hmem := List.mem_of_getElem? hnew
        obtain rfl : actor = .new := by simpa using hmem
        rfl
  | commit may => exact h.commit htask rfl hlog rfl
  | resync => exact h.rest htask rfl rfl rfl rfl
  | @toConnection revision events batches recipient event =>
    refine h.goOn htask rfl rfl ?_
    rintro number rfl
    exact held_toConnection hdirectory hlives (h.dispatched i _ number htask rfl).1
  | @toPlayer revision events batches playerId recipient event known =>
    refine h.goOn htask rfl rfl ?_
    rintro number rfl
    exact .inl (held_toPlayer hdirectory hlives (h.dispatched i _ number htask rfl).1 known horderly)
  | @toNobody revision events batches playerId event unknown =>
    refine h.goOn htask rfl rfl ?_
    rintro number rfl
    left
    simp only [Login.held, due_cons, Login.owed, Bool.and_eq_true, decide_eq_true_eq]
    dsimp only at horderly
    have hnot : ¬(login.revision < number ∧ playerId = login.playerId) := by
      rintro ⟨hlater, hplayer⟩
      have hleads := (horderly hplayer).mpr hlater
      rw [unknown] at hleads
      cases hleads
    simp [hnot]
  | @toEveryone revision events batches excluded event =>
    refine h.goOn htask rfl rfl ?_
    rintro number rfl
    exact .inl (held_toEveryone hdirectory hlives (h.dispatched i _ number htask rfl).1)
  | @read revision excluded event entries events batches recipient left =>
    refine h.goOn htask rfl rfl ?_
    rintro number rfl
    exact .inl (held_read hdirectory hlives left horderly)
  | @send revision batches recipient actor known =>
    by_cases hsame : recipient = login.connection
    · subst hsame
      have hopen : ¬SESSION_OUTBOUND_QUEUE_CAPACITY ≤ actor.queue.length := by
        intro hfull
        have hrunning := (hlives'.running _ (actor_update_self known)).2
        simp [SessionActor.trySend, hfull] at hrunning
      have hsent : (d.shared.update login.connection
            (actor.trySend ((batches.batch login.connection).map (revision, ·)))).sent
            login.connection =
          d.shared.sent login.connection ++
            ((batches.batch login.connection).map (revision, ·)).filterMap fun event : Enqueued =>
              event.1.map (·, event.2) := by
        simp [RuntimeState.sent, actor_update_self known, known, SessionActor.trySend, hopen,
          SessionActor.enqueued]
      rcases revision with _ | number
      · refine h.rest htask rfl ?_ rfl rfl
        rw [hsent]
        simp [List.filterMap_map]
      · refine send number (batches.batch login.connection) h htask rfl ?_ rfl rfl rfl ?_
          ?_
        · rw [hsent]
          simp [List.filterMap_map]
        · simp [Login.held]
        · intro other hother older hrevision hlt
          have hempty := horderly rfl other hother (by simpa [hrevision] using hlt)
          simpa using hempty
    · have hsent : (d.shared.update recipient
          (actor.trySend ((batches.batch recipient).map (revision, ·)))).sent login.connection =
          d.shared.sent login.connection := sent_update known fun hown => absurd hown hsame
      refine h.keep htask rfl hsent (.inl ⟨rfl, ?_, ?_⟩)
      · rintro number hnumber -
        cases hnumber
        simp [Login.held, Batches.batch_remove_of_ne hsame]
      · intro hnil
        rcases revision with _ | number
        · rfl
        · simpa [Login.held, Batches.batch_remove_of_ne hsame] using hnil
  | @routed revision batches =>
    refine h.goOn htask rfl rfl ?_
    rintro number rfl
    left
    simp [Login.held, Login.due]
  | @wasRead revision excluded event events batches =>
    refine h.goOn htask rfl rfl ?_
    rintro number rfl
    left
    simp [Login.held]
  | @sent revision =>
    refine h.keep htask rfl rfl (.inr ⟨rfl, ?_⟩)
    rcases revision with _ | number
    · rfl
    · rfl
  | @handle own actor message queue mine known running next =>
    refine h.rest htask rfl (sent_update known ?_) rfl rfl
    intro _
    simp [SessionActor.enqueued, next]
  | unchanged mine known same => exact h.rest htask rfl rfl rfl rfl
  | publish mine known differ =>
    refine h.rest htask (publishPlayers_log _ _ _) ?_ rfl rfl
    unfold RuntimeState.sent
    rw [publishPlayers_actor]
  | store mine known | close mine known =>
    exact h.rest htask rfl (sent_update known fun _ => rfl) rfl rfl
  | remove mine known closing =>
    exact h.rest htask rfl (sent_update known fun _ => rfl) rfl rfl

theorem spawn (h : Delivers login log d) (hstarts : runtime.starts task = true) :
    Delivers login log { d with tasks := d.tasks ++ [task] } := by
  have hnone : task.doing.revision = none := by
    simp only [runtime] at hstarts
    split at hstarts <;> first | rfl | cases hstarts
  have hold : ∀ (j : Nat) (other : RuntimeTask) (revision : Nat),
      (d.tasks ++ [task])[j]? = some other → other.doing.revision = some revision →
      d.tasks[j]? = some other := by
    intro j other revision hget hrev
    by_cases hlt : j < d.tasks.length
    · rwa [List.getElem?_append_left hlt] at hget
    · rw [List.getElem?_append_right (by omega)] at hget
      have hmem := List.mem_of_getElem? hget
      obtain rfl : other = task := by simpa using hmem
      rw [hnone] at hrev
      cases hrev
  refine ⟨?_, ?_, ?_, h.bounded, h.sorted, ?_⟩
  · intro j other revision hget hrev
    exact h.dispatched j other revision (hold j other revision hget hrev) hrev
  · intro revision hbound hle hnobody
    refine h.finished revision hbound hle ?_
    intro other hmem
    exact hnobody other (List.mem_append_left _ hmem)
  · intro j k other other' revision hj hk hrev hrev'
    exact h.distinct j k other other' revision (hold j other revision hj hrev)
      (hold k other' revision hk hrev') hrev hrev'
  · intro event hevent other hmem revision hrev hheld
    obtain ⟨j, hj⟩ := List.mem_iff_getElem?.mp hmem
    exact h.later event hevent other (List.mem_of_getElem? (hold j other revision hj hrev)) revision
      hrev hheld

end Delivers

theorem Directory.spawn {d : Runtime} {task : RuntimeTask} (h : Directory login d)
    (hstarts : runtime.starts task = true) :
    Directory login { d with tasks := d.tasks ++ [task] } := by
  have hnobody : task.connection = none := by
    simp only [runtime] at hstarts
    split at hstarts <;> first | rfl | cases hstarts
  refine ⟨?_, h.players, ?_, h.minds, h.known⟩
  · intro other hmem connection hsome
    rcases List.mem_append.mp hmem with hmem | hmem
    · exact h.bound other hmem connection hsome
    · obtain rfl : other = task := by simpa using hmem
      rw [hnobody] at hsome
      cases hsome
  · intro other hmem hsome
    rcases List.mem_append.mp hmem with hmem | hmem
    · exact h.publishing other hmem hsome
    · obtain rfl : other = task := by simpa using hmem
      rw [hnobody] at hsome
      cases hsome

/-! ### Every run -/

def OrderlyRun (login : Login) (d : Runtime) : List (TaskEvent RuntimeTask RuntimeMove) → Prop
  | [] => True
  | event :: events =>
    Orderly login d event ∧
      match d.step runtime event with
      | some next => OrderlyRun login next events
      | none => True

section Runs

variable {login : Login} {d d' : Runtime}

theorem Delivers.Lives.of_grows {state' : RuntimeState}
    (hgrows : Grows login.connection state state') (hplays : login.Plays state')
    (hdirectory : ∀ actor, state'.actor login.connection = some actor → ∀ playerId,
      actor.phase = .play playerId → firstLogin actor.handled = some playerId) :
    Delivers.Lives login state := by
  obtain ⟨last, hlast, hphase, hterminated⟩ := hplays.playing
  have hfirst := hdirectory last hlast _ hphase
  refine ⟨?_, ?_⟩
  · intro actor hactor playerId hplayer
    obtain ⟨later, hlater, hhandled, -, -⟩ := hgrows.actor actor hactor
    rw [hlast] at hlater
    cases hlater
    have hsame := firstLogin_of_prefix hplayer hhandled
    rw [hfirst] at hsame
    exact (Option.some.inj hsame).symm
  · intro actor hactor
    obtain ⟨later, hlater, -, hclosing, hkept⟩ := hgrows.actor actor hactor
    rw [hlast] at hlater
    cases hlater
    refine ⟨?_, ?_⟩
    · intro hclosed
      rw [hclosing hclosed] at hphase
      cases hphase
    · by_contra hterminate
      rw [hkept (by simpa using hterminate)] at hterminated
      cases hterminated

theorem Login.Plays.accepted_of_prefix {state' : RuntimeState} {log : List (List TargetedEvent)}
    (hplays : login.Plays state') (hlog : log <+: state'.log) :
    ∀ events, log[login.revision]? = some events →
      ∃ event ∈ events, event.target = .connection login.connection ∧
        acceptedPlayer event.event = some login.playerId := by
  intro events hevents
  obtain ⟨rest, hrest⟩ := hlog
  have haccepted := hplays.accepted
  have hlt := (List.getElem?_eq_some_iff.mp hevents).1
  rw [← hrest, List.getElem?_append_left hlt, hevents] at haccepted
  exact haccepted

theorem Delivers.run (hdelivers : Delivers login d'.shared.log d) (hdirectory : Directory login d)
    (hplays : login.Plays d'.shared) (horderly : OrderlyRun login d events)
    (hplay : ∀ actor, d'.shared.actor login.connection = some actor → ∀ playerId,
      actor.phase = .play playerId → firstLogin actor.handled = some playerId)
    (hrun : d.run runtime events = some d') : Delivers login d'.shared.log d' := by
  induction events generalizing d with
  | nil =>
    cases hrun
    exact hdelivers
  | cons event events ih =>
    have hhere := Lives.of_grows (run_grows hrun login.connection) hplays hplay
    obtain ⟨next, hnext, hrest⟩ := Option.bind_eq_some_iff.mp hrun
    have hgrows := run_grows hrest login.connection
    have hthere := Lives.of_grows hgrows hplays hplay
    have hlater := horderly.2
    rw [hnext] at hlater
    cases event with
    | spawn task =>
      obtain ⟨hstarts, rfl⟩ := Config.step_spawn hnext
      exact ih (hdelivers.spawn hstarts) (hdirectory.spawn hstarts) hlater hrest
    | move i move =>
      obtain ⟨task, state', task', htask, hstep, rfl⟩ := Config.step_move hnext
      have hmoves := RuntimeTask.moves hstep
      have haccepted := hplays.accepted_of_prefix hgrows.log
      exact ih (hdelivers.step hdirectory hhere hthere hgrows.log htask hmoves horderly.1)
        (hdirectory.step htask hmoves haccepted) hlater hrest

theorem Directory.run (hdirectory : Directory login d) (hplays : login.Plays d'.shared)
    (hrun : d.run runtime events = some d') : Directory login d' := by
  induction events generalizing d with
  | nil =>
    cases hrun
    exact hdirectory
  | cons event events ih =>
    obtain ⟨next, hnext, hrest⟩ := Option.bind_eq_some_iff.mp hrun
    have haccepted := hplays.accepted_of_prefix (run_grows hrest login.connection).log
    cases event with
    | spawn task =>
      obtain ⟨hstarts, rfl⟩ := Config.step_spawn hnext
      exact ih (hdirectory.spawn hstarts) hrest
    | move i move =>
      obtain ⟨task, state', task', htask, hstep, rfl⟩ := Config.step_move hnext
      exact ih (hdirectory.step htask (RuntimeTask.moves hstep) haccepted) hrest

end Runs

/-! ### In the order of the commits -/

section Sorted

variable {E : Type} {sent : List (Nat × E)}

theorem filter_lt_append_filter_ge (hsorted : sent.Pairwise fun event event' => event.1 ≤ event'.1)
    (bound : Nat) :
    sent.filter (fun event => event.1 < bound) ++ sent.filter (fun event => bound ≤ event.1) =
      sent := by
  induction sent with
  | nil => rfl
  | cons event sent ih =>
    obtain ⟨hle, hrest⟩ := List.pairwise_cons.mp hsorted
    by_cases hlt : event.1 < bound
    · have hge : ¬bound ≤ event.1 := by omega
      simp [hlt, hge, ih hrest]
    · have hge : bound ≤ event.1 := by omega
      have hall : sent.filter (fun event => event.1 < bound) = [] := by
        simp only [List.filter_eq_nil_iff, decide_eq_true_eq]
        intro other hmem
        have hother := hle other hmem
        omega
      have hkept : sent.filter (fun event => bound ≤ event.1) = sent := by
        simp only [List.filter_eq_self, decide_eq_true_eq]
        intro other hmem
        exact hge.trans (hle other hmem)
      simp [hlt, hge, hall, hkept]

/-- A sorted list of bounded elements, put together from the elements of each number. -/
theorem flatMap_filter_eq (hsorted : sent.Pairwise fun event event' => event.1 ≤ event'.1)
    {bound : Nat} (hbound : ∀ event ∈ sent, event.1 < bound) :
    (List.range bound).flatMap (fun number => sent.filter fun event => event.1 = number) = sent := by
  induction bound generalizing sent with
  | zero =>
    cases sent with
    | nil => rfl
    | cons event sent => exact absurd (hbound event List.mem_cons_self) (by omega)
  | succ bound ih =>
    have hsmall := ih (hsorted.filter fun event => event.1 < bound)
      (by simp only [List.mem_filter, decide_eq_true_eq]; exact fun event hmem => hmem.2)
    have heach : (List.range bound).flatMap
          (fun number => sent.filter fun event => event.1 = number) =
        sent.filter fun event => event.1 < bound := by
      rw [← hsmall]
      refine List.flatMap_congr ?_
      intro number hnumber
      have hlt := List.mem_range.mp hnumber
      rw [List.filter_filter]
      refine List.filter_congr ?_
      intro event _
      by_cases heq : event.1 = number
      · simp [heq, hlt]
      · simp [heq]
    have hlast : (sent.filter fun event => event.1 = bound) =
        sent.filter fun event => bound ≤ event.1 := by
      refine List.filter_congr ?_
      intro event hmem
      have hlt := hbound event hmem
      simp only [decide_eq_decide]
      omega
    rw [List.range_succ, List.flatMap_append, List.flatMap_singleton, heach, hlast]
    exact filter_lt_append_filter_ge hsorted bound

end Sorted

/-- A dispatch of the commit still has events for the session. -/
def Login.awaits (login : Login) (d : Runtime) (revision : Nat) : Bool :=
  d.tasks.any fun task =>
    decide (task.doing.revision = some revision) && !(login.held task.doing).isEmpty

/-- The events of a commit that are targeted at the session, as far as they are dispatched. -/
def Login.served (login : Login) (d : Runtime) (revision : Nat) : List (Nat × CoreEvent) :=
  if login.awaits d revision then []
  else (login.due revision (d.shared.log[revision]?.getD [])).map (revision, ·)

/-- **Commit order.**  After the batch of its login the session was sent exactly the events of the
    later commits that are targeted at it, each once and commit by commit. -/
def Login.InCommitOrder (login : Login) (d : Runtime) : Prop :=
  ∃ before,
    d.shared.sent login.connection = before ++ login.served d login.revision ++
      ((List.range d.shared.log.length).drop (login.revision + 1)).flatMap (login.served d) ∧
    ∀ event ∈ before, event.1 < login.revision

theorem Delivers.filter_eq_served {d : Runtime} {revision : Nat} (h : Delivers login d.shared.log d)
    (hle : login.revision ≤ revision) (hbound : revision < d.shared.log.length) :
    ((d.shared.sent login.connection).filter fun event => event.1 = revision) =
      login.served d revision := by
  have hfilter : ((d.shared.sent login.connection).filter fun event => event.1 = revision) =
      (ofRevision revision (d.shared.sent login.connection)).map (revision, ·) := by
    rw [ofRevision, List.map_map]
    refine (List.map_id _).symm.trans (List.map_congr_left ?_)
    intro event hmem
    have hnumber : event.1 = revision := by simpa using (List.mem_filter.mp hmem).2
    rw [← hnumber]
    rfl
  rw [hfilter]
  unfold Login.served
  split_ifs with hawaits
  · -- nothing of what is held was sent
    obtain ⟨task, hmem, htask⟩ := List.any_eq_true.mp hawaits
    simp only [Bool.and_eq_true, decide_eq_true_eq, Bool.not_eq_true'] at htask
    have hheld : login.held task.doing ≠ [] := by
      intro hnil
      simp [hnil] at htask
    have hnone : ofRevision revision (d.shared.sent login.connection) = [] := by
      simp only [ofRevision, List.map_eq_nil_iff, List.filter_eq_nil_iff, decide_eq_true_eq]
      intro event hevent
      exact (h.later event hevent task hmem revision htask.1 hheld).ne
    rw [hnone]
    rfl
  · by_cases hnobody : ∀ task ∈ d.tasks, task.doing.revision ≠ some revision
    · rw [h.finished revision hbound hle hnobody]
    · push Not at hnobody
      obtain ⟨task, hmem, hrevision⟩ := hnobody
      obtain ⟨i, hi⟩ := List.mem_iff_getElem?.mp hmem
      have hheld : login.held task.doing = [] := by
        by_contra hne
        refine hawaits (List.any_eq_true.mpr ⟨task, hmem, ?_⟩)
        simpa [hrevision] using hne
      have heq := (h.dispatched i task revision hi hrevision).2 hle
      rw [hheld, List.append_nil] at heq
      rw [heq]

/-- **The sessions see the commits in order**, as long as the steps that concern them are
    orderly. -/
theorem orderly_run_in_commit_order (login : Login)
    (events : List (TaskEvent RuntimeTask RuntimeMove)) (d : Runtime)
    (hrun : Runtime.new.run runtime events = some d) (hplays : login.Plays d.shared)
    (horderly : OrderlyRun login Runtime.new events) : login.InCommitOrder d := by
  have hdirectory := (Directory.new login).run hplays hrun
  have h := (Delivers.new login d.shared.log).run (Directory.new login) hplays horderly
    (fun actor hactor => (hdirectory.minds actor hactor).play) hrun
  have hlt : login.revision < d.shared.log.length := by
    by_contra hge
    obtain ⟨event, hmem, -⟩ := hplays.accepted
    rw [List.getElem?_eq_none (by omega)] at hmem
    cases hmem
  refine ⟨(List.range login.revision).flatMap fun number =>
    (d.shared.sent login.connection).filter fun event => event.1 = number, ?_, ?_⟩
  · have hsplit : List.range d.shared.log.length =
        List.range login.revision ++ [login.revision] ++
          (List.range d.shared.log.length).drop (login.revision + 1) := by
      rw [← List.range_succ, ← List.take_append_drop (login.revision + 1) (List.range _),
        List.take_range, Nat.min_eq_left hlt]
      simp
    have hwhole := flatMap_filter_eq h.sorted h.bounded
    rw [hsplit, List.flatMap_append, List.flatMap_append, List.flatMap_singleton,
      h.filter_eq_served (Nat.le_refl _) hlt] at hwhole
    refine hwhole.symm.trans (congrArg _ (List.flatMap_congr ?_))
    intro number hnumber
    obtain ⟨i, hi⟩ := List.mem_iff_getElem?.mp hnumber
    rw [List.getElem?_drop] at hi
    have hi' := List.getElem?_eq_some_iff.mp hi
    obtain ⟨hbound, hget⟩ := hi'
    rw [List.getElem_range] at hget
    rw [List.length_range] at hbound
    exact h.filter_eq_served (by omega) (by omega)
  · intro event hmem
    obtain ⟨number, hnumber, hevent⟩ := List.mem_flatMap.mp hmem
    have hnumber' := List.mem_range.mp hnumber
    have heq : event.1 = number := by simpa using (List.mem_filter.mp hevent).2
    omega

/-! ### Orderly and other runs -/

instance Orderly.decidable (login : Login) (d : Runtime)
    (event : TaskEvent RuntimeTask RuntimeMove) : Decidable (Orderly login d event) := by
  unfold Orderly
  split
  · infer_instance
  · split <;> infer_instance

instance OrderlyRun.decidable (login : Login) (d : Runtime)
    (events : List (TaskEvent RuntimeTask RuntimeMove)) : Decidable (OrderlyRun login d events) :=
  match events with
  | [] => .isTrue trivial
  | event :: events =>
    match hstep : d.step runtime event with
    | some next =>
      haveI := OrderlyRun.decidable login next events
      decidable_of_iff (Orderly login d event ∧ OrderlyRun login next events)
        (by simp only [OrderlyRun, hstep])
    | none => decidable_of_iff (Orderly login d event) (by simp only [OrderlyRun, hstep, and_true])

def loggedIn : Login := ⟨⟨0⟩, ⟨1⟩, 0⟩

def loginEvent : TargetedEvent :=
  ⟨.connection ⟨0⟩, .loginAccepted ⟨1⟩ ⟨1⟩
    ⟨⟨1⟩, "player", ⟨0, 0, 0⟩, 0, 0, true, .overworld, 20, 20, 5, ⟨[], none⟩, 0⟩⟩

/-- A session logs in, up to the batch in its queue. -/
def loginSent : List (TaskEvent RuntimeTask RuntimeMove) :=
  [.spawn ⟨none, .unregistered⟩, .spawn ⟨none, .idle⟩, .spawn ⟨none, .idle⟩, .move 0 .register,
    .move 0 (.commit [loginEvent]), .move 0 .route, .move 0 .proceed, .move 0 (.send ⟨0⟩),
    .move 0 .proceed]

/-- It handles the batch and publishes itself. -/
def loginHandled : List (TaskEvent RuntimeTask RuntimeMove) :=
  [.move 0 .handle, .move 0 .publish, .move 0 .store]

/-- A dispatch to everyone except another player. -/
def dispatched (task : Nat) : List (TaskEvent RuntimeTask RuntimeMove) :=
  [.move task .route, .move task (.read ⟨0⟩), .move task .proceed, .move task .proceed]

/-- Two commits with one event each, dispatched one after the other. -/
def inTurn : List (TaskEvent RuntimeTask RuntimeMove) :=
  loginSent ++ loginHandled ++
    [.move 1 (.commit [⟨.everyoneExcept ⟨2⟩, .keepAliveRequested 1⟩])] ++ dispatched 1 ++
    [.move 1 (.send ⟨0⟩), .move 1 .proceed, .move 2 (.commit [⟨.player ⟨1⟩, .keepAliveRequested 2⟩]),
      .move 2 .route, .move 2 .proceed, .move 2 (.send ⟨0⟩), .move 2 .proceed]

/-- The session plays, as far as this can be computed. -/
def Login.playsIn (login : Login) (state : RuntimeState) : Bool :=
  ((state.log[login.revision]?.getD []).any fun event =>
    decide (event.target = .connection login.connection) &&
      decide (acceptedPlayer event.event = some login.playerId)) &&
  (state.actor login.connection).any fun actor =>
    decide (actor.phase = .play login.playerId) && !actor.terminated

theorem Login.plays_of_playsIn (h : login.playsIn state = true) : login.Plays state := by
  simp only [Login.playsIn, Bool.and_eq_true, List.any_eq_true, decide_eq_true_eq,
    Option.any_eq_true, Bool.not_eq_true'] at h
  obtain ⟨⟨event, hmem, htarget, hplayer⟩, actor, hactor, hphase, hterminated⟩ := h
  exact ⟨⟨event, hmem, htarget, hplayer⟩, actor, hactor, hphase, hterminated⟩

theorem run_of_looked {α : Type} {value : α} (look : Runtime → α)
    (h : (Runtime.new.run runtime events).map look = some value) :
    ∃ d, Runtime.new.run runtime events = some d ∧ look d = value :=
  Option.map_eq_some_iff.mp h

theorem orderly_run_in_commit_order_in_turn :
    ∃ d, Runtime.new.run runtime inTurn = some d ∧ loggedIn.Plays d.shared ∧
      (d.shared.sent ⟨0⟩).map Prod.fst = [0, 1, 2] ∧ loggedIn.InCommitOrder d := by
  obtain ⟨d, hrun, hlook⟩ := run_of_looked
    (fun d => (loggedIn.playsIn d.shared, (d.shared.sent ⟨0⟩).map Prod.fst))
    (show (Runtime.new.run runtime inTurn).map _ = some (true, [0, 1, 2]) by decide +kernel)
  obtain ⟨hplays, hsent⟩ := Prod.mk.inj hlook
  have hplays := Login.plays_of_playsIn hplays
  exact ⟨d, hrun, hplays, hsent,
    orderly_run_in_commit_order loggedIn inTurn d hrun hplays (by decide +kernel)⟩

/-- Two commits, of which the second is dispatched first. -/
def overtaken : List (TaskEvent RuntimeTask RuntimeMove) :=
  loginSent ++ loginHandled ++
    [.move 1 (.commit [⟨.everyoneExcept ⟨2⟩, .keepAliveRequested 1⟩]),
      .move 2 (.commit [⟨.everyoneExcept ⟨2⟩, .keepAliveRequested 2⟩])] ++
    dispatched 2 ++ [.move 2 (.send ⟨0⟩), .move 2 .proceed] ++
    dispatched 1 ++ [.move 1 (.send ⟨0⟩), .move 1 .proceed]

/-- A commit that is dispatched before the session has handled its login. -/
def missed : List (TaskEvent RuntimeTask RuntimeMove) :=
  loginSent ++ [.move 1 (.commit [⟨.everyoneExcept ⟨2⟩, .keepAliveRequested 1⟩])] ++
    dispatched 1 ++ [.move 1 .proceed] ++ loginHandled

/-- What is looked at in the end: whether the session plays, whether all dispatches are over, and
    the revisions that were sent, of the login batch, and of the later commits. -/
def Runtime.summary (d : Runtime) : Bool × Bool × List Nat × List Nat × List Nat :=
  (loggedIn.playsIn d.shared, d.tasks.all fun task => task.doing.revision.isNone,
    (d.shared.sent ⟨0⟩).map Prod.fst, (loggedIn.served d 0).map Prod.fst,
    ((List.range d.shared.log.length).drop 1).flatMap fun number =>
      (loggedIn.served d number).map Prod.fst)

theorem run_of_summary {sent : List Nat} (login later : List Nat)
    (h : (Runtime.new.run runtime events).map Runtime.summary =
      some (true, true, sent, login, later))
    (hdiffer : ∀ before : List Nat, sent ≠ before ++ login ++ later) :
    ∃ d, Runtime.new.run runtime events = some d ∧ loggedIn.Plays d.shared ∧
      (∀ task ∈ d.tasks, task.doing.revision = none) ∧
      (d.shared.sent ⟨0⟩).map Prod.fst = sent ∧ ¬loggedIn.InCommitOrder d := by
  obtain ⟨d, hrun, hlook⟩ := run_of_looked Runtime.summary h
  simp only [Runtime.summary, Prod.mk.injEq] at hlook
  obtain ⟨hplays, htasks, hsent, hlogin, hlater⟩ := hlook
  refine ⟨d, hrun, Login.plays_of_playsIn hplays, ?_, hsent, ?_⟩
  · intro task hmem
    simpa using List.all_eq_true.mp htasks task hmem
  · rintro ⟨before, hall, -⟩
    refine hdiffer (before.map Prod.fst) ?_
    rw [← hsent, ← hlogin, ← hlater, ← List.map_append, ← List.map_flatMap, ← List.map_append]
    exact congrArg (List.map Prod.fst) hall

/-- A later commit overtakes an earlier one, and a commit in the login window is lost, with no
    dispatch under way any more. -/
theorem commits_overtaken_and_missed :
    (∃ d, Runtime.new.run runtime overtaken = some d ∧ loggedIn.Plays d.shared ∧
      (∀ task ∈ d.tasks, task.doing.revision = none) ∧
      (d.shared.sent ⟨0⟩).map Prod.fst = [0, 2, 1] ∧ ¬loggedIn.InCommitOrder d) ∧
    (∃ d, Runtime.new.run runtime missed = some d ∧ loggedIn.Plays d.shared ∧
      (∀ task ∈ d.tasks, task.doing.revision = none) ∧
      (d.shared.sent ⟨0⟩).map Prod.fst = [0] ∧ ¬loggedIn.InCommitOrder d) := by
  refine ⟨run_of_summary [0] [1, 2] (by decide +kernel) ?_,
    run_of_summary [0] [1] (by decide +kernel) ?_⟩
  · intro before heq
    have hlength := congrArg List.length heq
    obtain rfl : before = [] := by
      simp at hlength
      exact hlength
    simp at heq
  · intro before heq
    have hlength := congrArg List.length heq
    simp at hlength

end RevyCraft.Dispatch
