/-
  RevyCraft/UpgradeCore.lean
  ==========================
  **The core that the child activates with** (`runtime/executable.rs`,
  `apps/revy-server/src/executable_handoff.rs`).

  The parent goes on committing while the coordinator sends it over: a
  snapshot, up to 32 rounds of deltas or fresh snapshots, and behind the closed
  gate the delta from the last acknowledged revision.  `CoreUpgrade` has one
  step for each time that the coordinator takes the store's lock, sends a
  message or reads the answer, and for each message that the child takes.  An
  upgrade can be given up at every point before its commit is sent, and a new
  one begun.

  What the child reads besides the core is given by `ChildReaders`: the
  directory and the sessions have modules of their own.  That the arena shows
  the child the bytes that were sealed is assumed: a resource carries them.
-/
import RevyCraft.JournaledStore
import RevyCraft.UpgradeSaves
import RevyCraft.ProtocolRegistry

namespace RevyCraft.Upgrade

open RevyCraft.Core

/-! ### The messages -/

inductive ResourceKindV1 where
  | coreSnapshot
  | coreJournal
  | sessionDirectory
  | rakNetState
  | sessionState
  deriving DecidableEq

/-- A descriptor, with the bytes of its region. -/
structure Resource where
  kind : ResourceKindV1
  bytes : ByteArr

structure BootstrapV1 where
  resources : List Resource
  coreSnapshotRevision : CoreRevision
  persistedCoreRevision : CoreRevision
  latestDirtyCoreRevision : Option CoreRevision
  directoryRevision : Nat

inductive PrestagePhaseV1 where
  | preparing
  | frozen
  deriving DecidableEq

structure PrestageV1 where
  phase : PrestagePhaseV1
  coreRevision : CoreRevision
  directoryRevision : Nat
  resources : List Resource

structure ReadyV1 where
  acknowledgedCoreRevision : CoreRevision
  acknowledgedDirectoryRevision : Nat

structure CommitV1 where
  finalCoreRevision : CoreRevision
  finalDirectoryRevision : Nat
  parentEpochRevision : Nat
  persistedCoreRevision : CoreRevision
  latestDirtyCoreRevision : Option CoreRevision
  sessionCount : Nat
  javaSessionCount : Nat
  bedrockSessionCount : Nat

inductive TransferProtocolError where
  | frozenCoreSnapshot
  | invalidEpochRevision
  | persistedRevisionAhead (persisted transferred : CoreRevision)
  | dirtyRevisionAhead (dirty transferred : CoreRevision)
  | invalidSessionCount (sessionCount javaSessionCount bedrockSessionCount : Nat)

inductive ChildError where
  | config (message : String)
  | protocol (error : TransferProtocolError)
  | transfer (error : CoreTransferError)
  | panic (message : String)

def ensure (condition : Prop) [Decidable condition] (error : ChildError) : Except ChildError Unit :=
  if condition then .ok () else .error error

def ofTransfer {α : Type} : Except CoreTransferError α → Except ChildError α
  | .ok a => .ok a
  | .error error => .error (.transfer error)

def ofFault {α : Type} : Except Fault α → Except ChildError α
  | .ok a => .ok a
  | .error (.error error) => .error (.transfer error)
  | .error (.panic message) => .error (.panic message)

/-- `optional_resource`. -/
def optionalResource (resources : List Resource) (kind : ResourceKindV1) (name : String) :
    Except ChildError (Option Resource) :=
  match resources.filter fun resource => decide (resource.kind = kind) with
  | [] => .ok none
  | [resource] => .ok (some resource)
  | _ => .error (.config s!"executable transfer contains more than one {name} resource")

/-- `required_resource`. -/
def requiredResource (resources : List Resource) (kind : ResourceKindV1) (name : String) :
    Except ChildError Resource := do
  match ← optionalResource resources kind name with
  | some resource => pure resource
  | none => .error (.config s!"executable transfer is missing its {name} resource")

/-- `PrestageV1::validate`, without the checks of the descriptors. -/
def PrestageV1.validate (prestage : PrestageV1) : Except ChildError Unit :=
  ensure (¬ (prestage.phase = .frozen ∧
    prestage.resources.any fun resource => decide (resource.kind = .coreSnapshot)))
    (.protocol .frozenCoreSnapshot)

def validateCoreRevisions (transferred persisted : CoreRevision) (dirty : Option CoreRevision) :
    Except ChildError Unit := do
  ensure (persisted ≤ transferred) (.protocol (.persistedRevisionAhead persisted transferred))
  match dirty with
  | some dirty => ensure (dirty ≤ transferred) (.protocol (.dirtyRevisionAhead dirty transferred))
  | none => pure ()

def CommitV1.validate (commit : CommitV1) : Except ChildError Unit := do
  ensure (commit.parentEpochRevision ≠ 0) (.protocol .invalidEpochRevision)
  validateCoreRevisions commit.finalCoreRevision commit.persistedCoreRevision
    commit.latestDirtyCoreRevision
  ensure (commit.javaSessionCount + commit.bedrockSessionCount ≤ u64Max ∧
      commit.javaSessionCount + commit.bedrockSessionCount = commit.sessionCount)
    (.protocol (.invalidSessionCount commit.sessionCount commit.javaSessionCount
      commit.bedrockSessionCount))

/-! ### The child -/

section Child

variable {σ φ ρ : Type} [DecidableEq σ]

structure ExecutableSessionDirectory (σ : Type) where
  revision : Nat
  sessions : List σ
  deriving DecidableEq

structure ImportedSession where
  connectionId : ConnectionId
  epochRevision : Nat

structure ChildReaders (σ φ ρ : Type) where
  /-- The checks of the descriptors against each other and against the arena. -/
  descriptors : List Resource → Except ChildError Unit
  snapshot : Codec CoreTransferSnapshotV1
  commit : Codec CoreCommit
  directory : ByteArr → Except ChildError (ExecutableSessionDirectory σ)
  transport : σ → TransportKind
  preparePlayPhases : ExecutableSessionDirectory σ → Except ChildError φ
  raknetRouterState : ByteArr → Except ChildError ρ
  /-- The sessions that `prepare_session_import` and `prepare_network_import` make. -/
  sessions : List ByteArr → Except ChildError (List ImportedSession)

structure ExecutableChildPrepared (σ φ ρ : Type) where
  pendingCore : CoreVersion
  persistedRevision : CoreRevision
  latestDirtyRevision : Option CoreRevision
  directory : ExecutableSessionDirectory σ
  preparedPlayPhases : φ
  raknetRouterPeers : Option ρ
  sessions : List ImportedSession

structure ExecutableChildCommit (σ : Type) where
  core : CoreVersion
  persistedRevision : CoreRevision
  latestDirtyRevision : Option CoreRevision
  directory : ExecutableSessionDirectory σ
  childEpochRevision : Nat

variable (C : ContentBehavior) (readers : ChildReaders σ φ ρ)

namespace ExecutableChildPrepared

/-- `prepare_executable_child`. -/
def boot (bootstrap : BootstrapV1) : Except ChildError (ExecutableChildPrepared σ φ ρ) := do
  readers.descriptors bootstrap.resources
  let snapshot ← requiredResource bootstrap.resources .coreSnapshot "core snapshot"
  let snapshotCore ← ofTransfer (CoreVersion.importProcessTransfer readers.snapshot snapshot.bytes)
  ensure (snapshotCore.revision = bootstrap.coreSnapshotRevision)
    (.config s!"core snapshot revision {snapshotCore.revision.value} does not match bootstrap revision {bootstrap.coreSnapshotRevision.value}")
  let resource ← requiredResource bootstrap.resources .sessionDirectory "session directory"
  let directory ← readers.directory resource.bytes
  ensure (directory.revision = bootstrap.directoryRevision)
    (.config s!"session directory revision {directory.revision} does not match bootstrap revision {bootstrap.directoryRevision}")
  let phases ← readers.preparePlayPhases directory
  pure {
    pendingCore := snapshotCore
    persistedRevision := bootstrap.persistedCoreRevision
    latestDirtyRevision := bootstrap.latestDirtyCoreRevision
    directory := directory
    preparedPlayPhases := phases
    raknetRouterPeers := none
    sessions := [] }

/-- The core that a pre-stage leads to. -/
def nextCore (child : ExecutableChildPrepared σ φ ρ) (prestage : PrestageV1) :
    Except ChildError CoreVersion := do
  let snapshot ← optionalResource prestage.resources .coreSnapshot "core snapshot"
  let journal ← optionalResource prestage.resources .coreJournal "core journal"
  match snapshot, journal with
  | some _, some _ =>
    .error (.config "core pre-stage cannot contain both a snapshot and a journal")
  | some resource, none =>
    ofTransfer (CoreVersion.importProcessTransfer readers.snapshot resource.bytes)
  | none, some resource =>
    ofFault (child.pendingCore.applyProcessTransferDelta C readers.commit resource.bytes)
  | none, none => .ok child.pendingCore

/-- The directory that a pre-stage brings, if it does. -/
def nextDirectory (prestage : PrestageV1) :
    Except ChildError (Option (ExecutableSessionDirectory σ)) := do
  match ← optionalResource prestage.resources .sessionDirectory "session directory" with
  | some resource => (readers.directory resource.bytes).map some
  | none => pure none

def nextRaknetRouterPeers (prestage : PrestageV1) : Except ChildError (Option ρ) := do
  match ← optionalResource prestage.resources .rakNetState "RakNet router state" with
  | some resource => (readers.raknetRouterState resource.bytes).map some
  | none => pure none

/-- The new directory with its play phases, when it differs from the old one. -/
def directoryUpdate (child : ExecutableChildPrepared σ φ ρ) :
    Option (ExecutableSessionDirectory σ) →
      Except ChildError (Option (ExecutableSessionDirectory σ × φ))
  | none => .ok none
  | some next =>
    if next = child.directory then .ok none
    else do
      ensure (next.revision ≠ child.directory.revision)
        (.config s!"pre-staged directory revision {next.revision} was reused for different session state")
      let phases ← readers.preparePlayPhases next
      pure (some (next, phases))

def setDirectory (child : ExecutableChildPrepared σ φ ρ)
    (update : Option (ExecutableSessionDirectory σ × φ)) : ExecutableChildPrepared σ φ ρ :=
  match update with
  | some update => { child with directory := update.1, preparedPlayPhases := update.2 }
  | none => child

/-- `ExecutableChildPrepared::prestage`: `child` is the child as the call finds it. -/
def prestage (child : ExecutableChildPrepared σ φ ρ) (prestage : PrestageV1) :
    ExceptT ChildError (StateM (ExecutableChildPrepared σ φ ρ)) Unit := do
  prestage.validate
  readers.descriptors prestage.resources
  let next ← child.nextCore C readers prestage
  ensure (child.pendingCore.revision ≤ next.revision)
    (.config "core pre-stage revision moved backwards")
  ensure (next.revision = prestage.coreRevision)
    (.config s!"pre-staged core revision {next.revision.value} does not match declared revision {prestage.coreRevision.value}")
  let directory ← nextDirectory readers prestage
  let effective := directory.getD child.directory
  ensure (effective.revision = prestage.directoryRevision)
    (.config s!"pre-staged directory revision {effective.revision} does not match declared revision {prestage.directoryRevision}")
  let peers ← nextRaknetRouterPeers readers prestage
  let update ← child.directoryUpdate readers directory
  modify fun child => { child with pendingCore := next }
  modify fun child => child.setDirectory update
  modify fun child => { child with raknetRouterPeers := peers.or child.raknetRouterPeers }

/-- What the child does with a pre-stage: the outcome, and the child it leaves. -/
def takes (child : ExecutableChildPrepared σ φ ρ) (message : PrestageV1) :
    Except ChildError Unit × ExecutableChildPrepared σ φ ρ :=
  (child.prestage C readers message).run child

/-- `prepare_session_import` and `prepare_network_import`, on the final resources. -/
def prepareImport (child : ExecutableChildPrepared σ φ ρ) (prestage : PrestageV1) :
    Except ChildError (ExecutableChildPrepared σ φ ρ) := do
  let states := prestage.resources.filter fun resource => decide (resource.kind = .sessionState)
  let sessions ← readers.sessions (states.map (·.bytes))
  pure { child with sessions := sessions }

/-- The number of sessions of a transport. -/
def sessionsOf (child : ExecutableChildPrepared σ φ ρ) (transport : TransportKind) : Nat :=
  child.directory.sessions.countP fun session => decide (readers.transport session = transport)

/-- The first session of another epoch, if there is one, is an error. -/
def ensureEpochs (parentEpochRevision : Nat) (sessions : List ImportedSession) :
    Except ChildError Unit :=
  match sessions.find? fun session => decide (session.epochRevision ≠ parentEpochRevision) with
  | some session =>
    .error (.config s!"session ConnectionId({session.connectionId.value}) belongs to parent epoch {session.epochRevision} but commit names epoch {parentEpochRevision}")
  | none => .ok ()

/-- `ExecutableChildNetworkPrepared::commit`. -/
def commit (child : ExecutableChildPrepared σ φ ρ) (commit : CommitV1) :
    Except ChildError (ExecutableChildCommit σ) := do
  commit.validate
  ensure (child.pendingCore.revision = commit.finalCoreRevision)
    (.config s!"child pending core revision {child.pendingCore.revision.value} does not match commit revision {commit.finalCoreRevision.value}")
  ensure (child.directory.revision = commit.finalDirectoryRevision)
    (.config s!"child pending directory revision {child.directory.revision} does not match commit revision {commit.finalDirectoryRevision}")
  ensureEpochs commit.parentEpochRevision child.sessions
  ensure (child.directory.sessions.length = commit.sessionCount ∧
      child.sessionsOf readers .tcp = commit.javaSessionCount ∧
      child.sessionsOf readers .udp = commit.bedrockSessionCount)
    (.config s!"child session mix java={child.sessionsOf readers .tcp} bedrock={child.sessionsOf readers .udp} total={child.directory.sessions.length} does not match commit java={commit.javaSessionCount} bedrock={commit.bedrockSessionCount} total={commit.sessionCount}")
  ensure (commit.parentEpochRevision + 1 ≤ u64Max)
    (.config "child epoch revision overflow")
  pure {
    core := child.pendingCore
    persistedRevision := commit.persistedCoreRevision
    latestDirtyRevision := commit.latestDirtyCoreRevision
    directory := child.directory
    childEpochRevision := commit.parentEpochRevision + 1 }

end ExecutableChildPrepared

end Child

/-! ### What the child does -/

section ChildFacts

variable {σ φ ρ : Type} [DecidableEq σ] {C : ContentBehavior} {readers : ChildReaders σ φ ρ}

theorem ensure_ok {condition : Prop} [Decidable condition] {error : ChildError} {done : Unit}
    (h : ensure condition error = .ok done) : condition := by
  unfold ensure at h
  split at h
  · assumption
  · cases h

theorem passed_bind {S α β : Type} (a : α) (rest : α → ExceptT ChildError (StateM S) β) :
    (liftM (Except.ok a : Except ChildError α) >>= rest) = rest a := rfl

namespace ExecutableChildPrepared

theorem takes_cases (child : ExecutableChildPrepared σ φ ρ) (message : PrestageV1) :
    (∃ error, child.takes C readers message = (.error error, child)) ∨
      ∃ next child', child.nextCore C readers message = .ok next ∧
        child.pendingCore.revision ≤ next.revision ∧ next.revision = message.coreRevision ∧
        child'.pendingCore = next ∧ child.takes C readers message = (.ok (), child') := by
  unfold takes prestage
  cases message.validate with
  | error error => exact .inl ⟨error, rfl⟩
  | ok _ =>
  rw [passed_bind]
  cases readers.descriptors message.resources with
  | error error => exact .inl ⟨error, rfl⟩
  | ok _ =>
  rw [passed_bind]
  cases child.nextCore C readers message with
  | error error => exact .inl ⟨error, rfl⟩
  | ok next =>
  rw [passed_bind]
  dsimp only
  cases hrises : ensure (child.pendingCore.revision ≤ next.revision)
      (.config "core pre-stage revision moved backwards") with
  | error error => exact .inl ⟨error, rfl⟩
  | ok _ =>
  rw [passed_bind]
  generalize hdeclared : ensure (next.revision = message.coreRevision) _ = declared
  cases declared with
  | error error => exact .inl ⟨error, rfl⟩
  | ok _ =>
  rw [passed_bind]
  cases nextDirectory readers message with
  | error error => exact .inl ⟨error, rfl⟩
  | ok directory =>
  rw [passed_bind]
  generalize ensure ((directory.getD child.directory).revision = message.directoryRevision) _ =
    reaches
  cases reaches with
  | error error => exact .inl ⟨error, rfl⟩
  | ok _ =>
  rw [passed_bind]
  cases nextRaknetRouterPeers readers message with
  | error error => exact .inl ⟨error, rfl⟩
  | ok peers =>
  rw [passed_bind]
  cases child.directoryUpdate readers directory with
  | error error => exact .inl ⟨error, rfl⟩
  | ok update =>
  refine .inr ⟨next, _, rfl, ensure_ok hrises, ensure_ok hdeclared, ?_, rfl⟩
  cases update <;> rfl

theorem takes_refused {child : ExecutableChildPrepared σ φ ρ} {message : PrestageV1}
    {error : ChildError} (h : (child.takes C readers message).1 = .error error) :
    (child.takes C readers message).2 = child := by
  rcases child.takes_cases message with ⟨error', heq⟩ | ⟨next, child', -, -, -, -, heq⟩
  · rw [heq]
  · rw [heq] at h
    cases h

theorem takes_revision_le (child : ExecutableChildPrepared σ φ ρ) (message : PrestageV1) :
    child.pendingCore.revision ≤ (child.takes C readers message).2.pendingCore.revision := by
  rcases child.takes_cases message with ⟨error, heq⟩ | ⟨next, child', -, hle, -, hcore, heq⟩
  · rw [heq]
    exact Nat.le_refl _
  · rw [heq, hcore]
    exact hle

end ExecutableChildPrepared

end ChildFacts

/-! ### The parent and the coordinator -/

def CORE_PRESTAGE_ROUND_LIMIT : Nat := 32
def CORE_FREEZE_ADMISSION_COMMIT_LAG : Nat := 256

structure Parent where
  process : ServerProcess
  journal : CoreJournal TargetedEvent
  /-- The revisions that were saved in full. -/
  completed : List CoreRevision

/-- What the coordinator waits for the child's answer to. -/
inductive Round where
  /-- The session directory. -/
  | introduction
  /-- A round of pre-copy, with the number of rounds after it. -/
  | update (left : Nat)
  /-- The frozen state, with the commit that follows it. -/
  | final (commit : CommitV1)

inductive Stage (σ : Type) where
  | idle
  /-- `prepare_executable_upgrade` after `process_precopy`. -/
  | precopied (version : CoreVersion) (persisted : CoreRevision) (dirty : Option CoreRevision)
  | bootstrapped (bootstrap : BootstrapV1)
  /-- The child has booted; the session directory is next. -/
  | booted (coreRevision : CoreRevision)
  | sent (round : Round) (prestage : PrestageV1)
  | answered (round : Round) (prestage : PrestageV1) (ready : ReadyV1)
  | refused
  | rounds (left : Nat) (coreRevision : CoreRevision)
  /-- `prestage_core` after the journal was outpaced. -/
  | outpaced (left : Nat)
  /-- `prestage_core` with the version of a fresh `process_precopy`. -/
  | resnapshot (left : Nat) (version : CoreVersion)
  | acknowledged (coreRevision : CoreRevision)
  | frozen (coreRevision : CoreRevision)
  | commitSent (commit : CommitV1)
  | committed (child : ExecutableChildCommit σ)

structure CoreUpgrade (σ φ ρ : Type) where
  parent : Parent
  world : WorldSnapshot
  epochRevision : Nat
  stage : Stage σ
  /-- The session directory that was sent last. -/
  directory : ExecutableSessionDirectory σ
  child : Option (ExecutableChildPrepared σ φ ρ)
  /-- The parent's active version when its gate was closed. -/
  frozenCore : Option CoreVersion

inductive UpgradeStep (σ : Type) where
  | parent (step : ProcessStep)
  | stage
  | bootstrap (directory : ExecutableSessionDirectory σ) (region : ByteArr)
  | childBoots
  | introduce (directory : ExecutableSessionDirectory σ) (region : ByteArr)
  | childTakes
  | expectReady
  | prestageCore
  | restartJournal
  | prestageSnapshot
  | freeze
  | sealFinalCoreDelta (routerState : Option ByteArr) (sessionStates : List ByteArr)
  | childCommits
  | abort

section Upgrade

variable {σ φ ρ : Type} [DecidableEq σ] (C : ContentBehavior) (readers : ChildReaders σ φ ρ)
  (jsonLen : TargetedEvent → Except String Nat)

namespace Parent

def active (parent : Parent) : CoreVersion := parent.process.store.active

def journalStep (parent : Parent) : ProcessStep → Option (CoreJournal TargetedEvent)
  | .store step =>
    parent.process.store.journalStep C readers.commit jsonLen parent.journal step
  | .tickWaits => some parent.journal
  | .saveFails => some parent.journal

/-- The revision that a step saves in full. -/
def saves (parent : Parent) : ProcessStep → Option CoreRevision
  | .store step => parent.process.saves C step
  | .tickWaits => none
  | .saveFails => none

def step (parent : Parent) (world : WorldSnapshot) (step : ProcessStep) :
    Option (Parent × WorldSnapshot) :=
  (parent.process.step C world step).bind fun next =>
    (parent.journalStep C readers jsonLen step).map fun journal =>
      ({ process := next.1
         journal := journal
         completed := (parent.saves C step).toList ++ parent.completed }, next.2)

/-- `CoreJournal::process` at the active version. -/
def restart (parent : Parent) : Parent :=
  { parent with journal := .newProcess parent.active.revision }

end Parent

namespace CoreUpgrade

def new (store : CoreStore) (world : WorldSnapshot) (epochRevision : Nat)
    (directory : ExecutableSessionDirectory σ) : CoreUpgrade σ φ ρ where
  parent := ⟨.new store true, .inactive, []⟩
  world := world
  epochRevision := epochRevision
  stage := .idle
  directory := directory
  child := none
  frozenCore := none

/-- `arena_resource` of the session directory. -/
def directoryResource (region : ByteArr) : Resource := ⟨.sessionDirectory, region⟩

/-- The pre-stage of a round of pre-copy. -/
def updateOf (s : CoreUpgrade σ φ ρ) (revision : CoreRevision) (kind : ResourceKindV1)
    (region : ByteArr) : PrestageV1 where
  phase := .preparing
  coreRevision := revision
  directoryRevision := s.directory.revision
  resources := [⟨kind, region⟩]

/-- The pre-stage of the frozen state. -/
def finalOf (s : CoreUpgrade σ φ ρ) (revision : CoreRevision) (journal : ByteArr)
    (routerState : Option ByteArr) (sessionStates : List ByteArr) : PrestageV1 where
  phase := .frozen
  coreRevision := revision
  directoryRevision := s.directory.revision
  resources := ⟨.coreJournal, journal⟩ :: (routerState.toList.map (⟨.rakNetState, ·⟩) ++
    sessionStates.map (⟨.sessionState, ·⟩))

/-- The sessions of a transport in the parent's directory. -/
def sessionsOf (s : CoreUpgrade σ φ ρ) (transport : TransportKind) : Nat :=
  s.directory.sessions.countP fun session => decide (readers.transport session = transport)

/-- The commit that is sent once the child has answered the final pre-stage. -/
def commitOf (s : CoreUpgrade σ φ ρ) (revision : CoreRevision) : CommitV1 where
  finalCoreRevision := revision
  finalDirectoryRevision := s.directory.revision
  parentEpochRevision := s.epochRevision
  persistedCoreRevision := s.parent.process.store.persistedRevision
  latestDirtyCoreRevision := s.parent.process.store.latestDirtyRevision
  sessionCount := s.directory.sessions.length
  javaSessionCount := s.sessionsOf readers .tcp
  bedrockSessionCount := s.sessionsOf readers .udp

/-- `core_prestage_lag`. -/
def lag (s : CoreUpgrade σ φ ρ) (revision : CoreRevision) : Nat :=
  s.parent.active.revision.value - revision.value

/-- Where the coordinator goes on after a matching `Ready`. -/
def afterReady (s : CoreUpgrade σ φ ρ) (revision : CoreRevision) : Round → Stage σ
  | .introduction => .rounds CORE_PRESTAGE_ROUND_LIMIT revision
  | .update left =>
    if s.lag revision ≤ CORE_FREEZE_ADMISSION_COMMIT_LAG then .acknowledged revision
    else .rounds left revision
  | .final commit => .commitSent commit

/-- The child after the final pre-stage imports its sessions; after the others it is done. -/
def imported (round : Round) (prestage : PrestageV1) (child : ExecutableChildPrepared σ φ ρ) :
    Except ChildError (ExecutableChildPrepared σ φ ρ) :=
  match round with
  | .final _ => child.prepareImport readers prestage
  | .introduction => .ok child
  | .update _ => .ok child

def childTakes (s : CoreUpgrade σ φ ρ) (round : Round) (prestage : PrestageV1)
    (child : ExecutableChildPrepared σ φ ρ) : CoreUpgrade σ φ ρ :=
  let taken := child.takes C readers prestage
  match taken.1 with
  | .error _ => { s with child := some taken.2, stage := .refused }
  | .ok _ =>
    match imported readers round prestage taken.2 with
    | .error _ => { s with child := none, stage := .refused }
    | .ok child =>
      { s with
        child := some child
        stage := .answered round prestage ⟨child.pendingCore.revision, child.directory.revision⟩ }

def step (s : CoreUpgrade σ φ ρ) : UpgradeStep σ → Option (CoreUpgrade σ φ ρ)
  | .parent step =>
    (s.parent.step C readers jsonLen s.world step).map fun next =>
      { s with parent := next.1, world := next.2 }
  | .stage =>
    match s.stage with
    | .idle =>
      let store := s.parent.process.store
      some { s with
        parent := s.parent.restart
        stage := .precopied store.active store.persistedRevision store.latestDirtyRevision }
    | _ => none
  | .bootstrap directory region =>
    match s.stage with
    | .precopied version persisted dirty =>
      match version.prepareProcessTransfer readers.snapshot with
      | .ok snapshot =>
        some { s with
          stage := .bootstrapped
            { resources := [⟨.coreSnapshot, snapshot.bytes⟩, directoryResource region]
              coreSnapshotRevision := snapshot.revision
              persistedCoreRevision := persisted
              latestDirtyCoreRevision := dirty
              directoryRevision := directory.revision } }
      | .error _ => none
    | _ => none
  | .childBoots =>
    match s.stage with
    | .bootstrapped bootstrap =>
      match ExecutableChildPrepared.boot readers bootstrap with
      | .ok child =>
        some { s with child := some child, stage := .booted bootstrap.coreSnapshotRevision }
      | .error _ => some { s with stage := .refused }
    | _ => none
  | .introduce directory region =>
    match s.stage with
    | .booted revision =>
      some { s with
        directory := directory
        stage := .sent .introduction
          { phase := .preparing
            coreRevision := revision
            directoryRevision := directory.revision
            resources := [directoryResource region] } }
    | _ => none
  | .childTakes =>
    match s.stage, s.child with
    | .sent round prestage, some child => some (s.childTakes C readers round prestage child)
    | _, _ => none
  | .expectReady =>
    match s.stage with
    | .answered round prestage ready =>
      if ready.acknowledgedCoreRevision = prestage.coreRevision ∧
          ready.acknowledgedDirectoryRevision = prestage.directoryRevision then
        some { s with stage := s.afterReady prestage.coreRevision round }
      else none
    | _ => none
  | .prestageCore =>
    match s.stage with
    | .rounds (left + 1) revision =>
      match s.parent.process.store.writeProcessDeltaSince s.parent.journal revision with
      | .ok (.ready descriptor, bytes) =>
        some { s with
          stage := .sent (.update left) (s.updateOf descriptor.finalRevision .coreJournal bytes) }
      | .ok (.outpaced _, _) => some { s with stage := .outpaced left }
      | .error _ => none
    | _ => none
  | .restartJournal =>
    match s.stage with
    | .outpaced left =>
      some { s with parent := s.parent.restart, stage := .resnapshot left s.parent.active }
    | _ => none
  | .prestageSnapshot =>
    match s.stage with
    | .resnapshot left version =>
      match version.prepareProcessTransfer readers.snapshot with
      | .ok snapshot =>
        some { s with
          stage := .sent (.update left)
            (s.updateOf snapshot.revision .coreSnapshot snapshot.bytes) }
      | .error _ => none
    | _ => none
  | .freeze =>
    match s.stage with
    | .acknowledged revision =>
      some { s with
        parent := { s.parent with process := { s.parent.process with admitting := false } }
        stage := .frozen revision
        frozenCore := some s.parent.active }
    | _ => none
  | .sealFinalCoreDelta routerState sessionStates =>
    match s.stage with
    | .frozen revision =>
      match s.parent.process.store.writeProcessDeltaSince s.parent.journal revision with
      | .ok (.ready descriptor, bytes) =>
        some { s with
          stage := .sent (.final (s.commitOf readers descriptor.finalRevision))
            (s.finalOf descriptor.finalRevision bytes routerState sessionStates) }
      | .ok (.outpaced _, _) => none
      | .error _ => none
    | _ => none
  | .childCommits =>
    match s.stage, s.child with
    | .commitSent commit, some child =>
      match child.commit readers commit with
      | .ok done => some { s with stage := .committed done }
      | .error _ => none
    | _, _ => none
  | .abort =>
    match s.stage with
    | .idle => none
    | .commitSent _ => none
    | .committed _ => none
    | _ =>
      some { s with
        parent := { s.parent with
          process := s.parent.process.resume, journal := s.parent.journal.stop }
        stage := .idle
        child := none
        frozenCore := none }

def run (s : CoreUpgrade σ φ ρ) (steps : List (UpgradeStep σ)) : Option (CoreUpgrade σ φ ρ) :=
  Steps.run (step C readers jsonLen) s steps

end CoreUpgrade

end Upgrade

/-! ### What holds along an upgrade -/

section Facts

variable {σ φ ρ : Type} [DecidableEq σ]

/-- No mutation is committed once the revisions have run out, as long as an upgrade is on. -/
def UpgradeStep.Counted (C : ContentBehavior) (s : CoreUpgrade σ φ ρ) : UpgradeStep σ → Prop
  | .parent (.store step) => s.stage ≠ .idle → ∀ prepared,
      step.prepare C s.parent.process.store = .ok (.commit prepared) →
        prepared.transferMutations = [] ∨ s.parent.active.revision.value < u64Max
  | _ => True

namespace CoreUpgrade

/-- What the final commit carries, behind the closed gate. -/
structure Closing (opened : CoreRevision) (s : CoreUpgrade σ φ ρ) (commit : CommitV1) : Prop where
  closed : s.parent.process.admitting = false
  frozen : s.frozenCore = some s.parent.active
  persisted : commit.persistedCoreRevision = opened ∨
    commit.persistedCoreRevision ∈ s.parent.completed
  dirty : commit.latestDirtyCoreRevision = s.parent.process.store.latestDirtyRevision

/-- What is known of the core that a round leads the child to. -/
def Reaches (opened : CoreRevision) (s : CoreUpgrade σ φ ρ) (core : CoreVersion) : Round → Prop
  | .introduction => True
  | .update _ => True
  | .final commit => core = s.parent.active ∧ s.Closing opened commit

variable (C : ContentBehavior) (readers : ChildReaders σ φ ρ)

/-- What a stage knows; `P` holds of the versions that the parent has passed. -/
def StageSound (opened : CoreRevision) (P : CoreVersion → Prop) (s : CoreUpgrade σ φ ρ) :
    Stage σ → Prop
  | .idle => True
  | .refused => True
  | .outpaced _ => True
  | .precopied version _ _ => P version
  | .resnapshot _ version => P version
  | .bootstrapped bootstrap =>
    ∀ child, ExecutableChildPrepared.boot readers bootstrap = .ok child →
      P child.pendingCore ∧ child.pendingCore.revision = bootstrap.coreSnapshotRevision
  | .sent round prestage =>
    ∀ child ∈ s.child, ∀ next, child.nextCore C readers prestage = .ok next →
      P next ∧ s.Reaches opened next round
  | .answered round _ ready =>
    ∀ child ∈ s.child, ready.acknowledgedCoreRevision = child.pendingCore.revision ∧
      s.Reaches opened child.pendingCore round
  | .booted revision => ∀ child ∈ s.child, child.pendingCore.revision = revision
  | .rounds _ revision => ∀ child ∈ s.child, child.pendingCore.revision = revision
  | .acknowledged revision => ∀ child ∈ s.child, child.pendingCore.revision = revision
  | .frozen revision =>
    s.parent.process.admitting = false ∧ s.frozenCore = some s.parent.active ∧
      ∀ child ∈ s.child, child.pendingCore.revision = revision
  | .commitSent commit => ∀ child ∈ s.child, s.Reaches opened child.pendingCore (.final commit)
  | .committed done =>
    ∃ commit, s.Reaches opened done.core (.final commit) ∧
      done.persistedRevision = commit.persistedCoreRevision ∧
      done.latestDirtyRevision = commit.latestDirtyCoreRevision

/-- The journal of an upgrade, the child on the parent's way, and the stage. -/
def Follows (opened : CoreRevision) (s : CoreUpgrade σ φ ρ) : Prop :=
  ∃ start log j, s.parent.journal = .process j ∧
    Retains C readers.commit start log s.parent.active j ∧
    (∀ child ∈ s.child, Passes C start log s.parent.active child.pendingCore) ∧
    s.StageSound C readers opened (Passes C start log s.parent.active) s.stage

structure Sound (opened : CoreRevision) (s : CoreUpgrade σ φ ρ) : Prop where
  persisted : s.parent.process.store.persistedRevision = opened ∨
    s.parent.process.store.persistedRevision ∈ s.parent.completed
  follows : s.stage ≠ .idle → s.Follows C readers opened
  childless : s.stage = .idle → s.child = none

end CoreUpgrade

end Facts

section ParentFacts

variable {σ φ ρ : Type} {C : ContentBehavior} {readers : ChildReaders σ φ ρ}
  {jsonLen : TargetedEvent → Except String Nat} {parent parent' : Parent}
  {world world' : WorldSnapshot}

namespace Parent

/-- A save marks nothing and publishes nothing, and what it persists it has completed. -/
theorem saving_cases {step : StoreStep} (hsaves : step = .saveBegins ∨ step = .saveEnds) :
    ∃ saving persisted written,
      (parent.process.under world).step C step =
        ⟨{ parent.process.store with persistedRevision := persisted }, saving, written⟩ ∧
      (persisted = parent.process.store.persistedRevision ∨
        persisted ∈ (parent.process.saves C step).toList) := by
  rcases hsaves with rfl | rfl
  · unfold SavingStore.step
    dsimp only
    split
    · exact ⟨_, _, _, rfl, .inl rfl⟩
    · exact ⟨_, _, _, rfl, .inl rfl⟩
  · unfold SavingStore.step
    dsimp only
    split
    · exact ⟨_, _, _, rfl, .inl rfl⟩
    · next version hsaving =>
      have hsaving : parent.process.saving = some version := hsaving
      cases hsnapshot : version.state.snapshot C with
      | error message => exact ⟨_, _, _, rfl, .inl rfl⟩
      | ok snapshot =>
        refine ⟨_, _, _, rfl, ?_⟩
        simp only [ServerProcess.saves, hsaving, Option.bind_some, hsnapshot]
        split
        · exact .inr (by simp)
        · exact .inl rfl

/-- A step of the parent: its gate stays, its saves are noted, and it keeps the active version or
    publishes the one that its journal has recorded. -/
theorem step_cases {step : ProcessStep}
    (h : parent.step C readers jsonLen world step = some (parent', world')) :
    parent'.process.admitting = parent.process.admitting ∧
      (∀ revision ∈ parent.completed, revision ∈ parent'.completed) ∧
      (parent'.process.store.persistedRevision = parent.process.store.persistedRevision ∨
        parent'.process.store.persistedRevision ∈ parent'.completed) ∧
      (parent'.active = parent.active ∧ parent'.journal = parent.journal ∧
          parent'.process.store.latestDirtyRevision = parent.process.store.latestDirtyRevision ∨
        parent.process.admitting = true ∧ ∃ storeStep prepared, step = .store storeStep ∧
          storeStep.prepare C parent.process.store = .ok (.commit prepared) ∧
          parent'.active = prepared.nextVersion ∧
          parent.process.store.journalStep C readers.commit jsonLen parent.journal storeStep =
            some parent'.journal) := by
  obtain ⟨next, hnext, h⟩ := Option.bind_eq_some_iff.mp h
  obtain ⟨journal, hjournal, h⟩ := Option.map_eq_some_iff.mp h
  cases h
  have hmore : ∀ revision ∈ parent.completed,
      revision ∈ (parent.saves C step).toList ++ parent.completed :=
    fun revision hmem => List.mem_append_right _ hmem
  cases step with
  | tickWaits | saveFails =>
    obtain ⟨-, hdone⟩ := Option.ite_none_right_eq_some.mp hnext
    cases hdone
    cases hjournal
    exact ⟨rfl, hmore, .inl rfl, .inl ⟨rfl, rfl, rfl⟩⟩
  | store storeStep =>
    obtain ⟨htakes, hdone⟩ := Option.ite_none_right_eq_some.mp hnext
    cases hdone
    refine ⟨rfl, hmore, ?_⟩
    by_cases hsaves : storeStep = .saveBegins ∨ storeStep = .saveEnds
    · obtain ⟨saving, persisted, written, hstep, hpersisted⟩ :=
        @saving_cases C parent world storeStep hsaves
      have hsame : parent.process.store.journalStep C readers.commit jsonLen parent.journal
          storeStep = some parent.journal := by
        rcases hsaves with rfl | rfl <;> rfl
      have hj : some journal = some parent.journal := hjournal.symm.trans hsame
      dsimp only [active]
      rw [hstep]
      exact ⟨hpersisted.imp_right fun hmem => List.mem_append_left _ hmem,
        .inl ⟨rfl, Option.some.inj hj, rfl⟩⟩
    · obtain ⟨hbegins, hends⟩ := not_or.mp hsaves
      have hadmits : parent.process.admitting = true := by
        cases storeStep with
        | apply command invocation nowMs | builtinTick nowMs | gameplayTicks preparedTicks =>
          exact (Bool.and_eq_true_iff.mp htakes).1
        | saveBegins => exact absurd rfl hbegins
        | saveEnds => exact absurd rfl hends
      dsimp only [active]
      rcases StoreStep.call_cases (parent.process.under world) hbegins hends
        readers.commit jsonLen with ⟨hstep, hsame⟩ | ⟨prepared, hprepared, hstep⟩
      · have hj : some journal = some parent.journal := hjournal.symm.trans (hsame _)
        rw [hstep]
        exact ⟨.inl rfl, .inl ⟨rfl, Option.some.inj hj, rfl⟩⟩
      · rw [hstep, CoreStore.committed_fresh (StoreStep.prepare_leads hprepared).1]
        exact ⟨.inl rfl, .inr ⟨hadmits, storeStep, prepared, rfl, hprepared, rfl, hjournal⟩⟩

end Parent

end ParentFacts

section UpgradeFacts

variable {σ φ ρ : Type} [DecidableEq σ] {C : ContentBehavior} {readers : ChildReaders σ φ ρ}
  {jsonLen : TargetedEvent → Except String Nat} {opened : CoreRevision} {s s' : CoreUpgrade σ φ ρ}

namespace CoreUpgrade

/-- Only the parent has moved, and behind its closed gate it has published and marked nothing. -/
structure ParentMoves (s s' : CoreUpgrade σ φ ρ) : Prop where
  stage : s'.stage = s.stage
  child : s'.child = s.child
  frozenCore : s'.frozenCore = s.frozenCore
  admitting : s'.parent.process.admitting = s.parent.process.admitting
  completed : ∀ revision ∈ s.parent.completed, revision ∈ s'.parent.completed
  active : s.parent.process.admitting = false → s'.parent.active = s.parent.active
  dirty : s.parent.process.admitting = false →
    s'.parent.process.store.latestDirtyRevision = s.parent.process.store.latestDirtyRevision

omit [DecidableEq σ] in
theorem Reaches.parent (hmoves : ParentMoves s s') {core : CoreVersion} {round : Round}
    (h : s.Reaches opened core round) : s'.Reaches opened core round := by
  cases round with
  | introduction => trivial
  | update left => trivial
  | final commit =>
    obtain ⟨hcore, hclosing⟩ := h
    have hactive := hmoves.active hclosing.closed
    refine ⟨hcore.trans hactive.symm, hmoves.admitting.trans hclosing.closed, ?_,
      hclosing.persisted.imp_right (hmoves.completed _),
      hclosing.dirty.trans (hmoves.dirty hclosing.closed).symm⟩
    rw [hmoves.frozenCore, hclosing.frozen, hactive]

omit [DecidableEq σ] in
theorem StageSound.parent {P P' : CoreVersion → Prop} (hmoves : ParentMoves s s')
    (hP : ∀ version, P version → P' version) {stage : Stage σ}
    (h : s.StageSound C readers opened P stage) : s'.StageSound C readers opened P' stage := by
  cases stage with
  | idle => trivial
  | refused => trivial
  | outpaced left => trivial
  | precopied version persisted dirty => exact hP version h
  | resnapshot left version => exact hP version h
  | bootstrapped bootstrap => exact fun child hchild => (h child hchild).imp_left (hP _)
  | booted revision | rounds left revision | acknowledged revision =>
    intro child hchild
    exact h child (hmoves.child ▸ hchild)
  | sent round prestage =>
    intro child hchild next hnext
    exact (h child (hmoves.child ▸ hchild) next hnext).imp (hP next) (Reaches.parent hmoves)
  | answered round prestage ready =>
    intro child hchild
    exact (h child (hmoves.child ▸ hchild)).imp_right (Reaches.parent hmoves)
  | frozen revision =>
    obtain ⟨hclosed, hfrozen, hrevision⟩ := h
    refine ⟨hmoves.admitting.trans hclosed, ?_, fun child hchild => ?_⟩
    · rw [hmoves.frozenCore, hfrozen, hmoves.active hclosed]
    · exact hrevision child (hmoves.child ▸ hchild)
  | commitSent commit =>
    intro child hchild
    exact (h child (hmoves.child ▸ hchild)).parent hmoves
  | committed done =>
    obtain ⟨commit, hreaches, hdone⟩ := h
    exact ⟨commit, hreaches.parent hmoves, hdone⟩

theorem Sound.parent (h : s.Sound C readers opened) {step : ProcessStep}
    (hcounted : (UpgradeStep.parent step).Counted C s)
    (hstep : s.step C readers jsonLen (.parent step) = some s') :
    s'.Sound C readers opened := by
  obtain ⟨⟨parent', world'⟩, hparent, hdone⟩ := Option.map_eq_some_iff.mp hstep
  obtain ⟨hadmitting, hcompleted, hpersisted, hactive⟩ := Parent.step_cases hparent
  have hs' : s' = { s with parent := parent', world := world' } := hdone.symm
  have hmoves : ParentMoves s s' := by
    subst hs'
    refine ⟨rfl, rfl, rfl, hadmitting, hcompleted, fun hclosed => ?_, fun hclosed => ?_⟩
    · rcases hactive with ⟨hsame, -⟩ | ⟨hopen, -⟩
      · exact hsame
      · rw [hopen] at hclosed
        cases hclosed
    · rcases hactive with ⟨-, -, hsame⟩ | ⟨hopen, -⟩
      · exact hsame
      · rw [hopen] at hclosed
        cases hclosed
  refine ⟨?_, fun hbusy => ?_, fun hidle => ?_⟩
  · subst hs'
    rcases hpersisted with hsame | hmem
    · exact (h.persisted.imp hsame.trans) fun hmem => hsame ▸ hcompleted _ hmem
    · exact .inr hmem
  · have hbusy : s.stage ≠ .idle := hmoves.stage ▸ hbusy
    obtain ⟨start, log, j, hjournal, hretains, hchild, hstage⟩ := h.follows hbusy
    have hfollows : ∃ log' j', parent'.journal = .process j' ∧
        Retains C readers.commit start log' parent'.active j' ∧
        ∀ version, Passes C start log s.parent.active version →
          Passes C start log' parent'.active version := by
      rcases hactive with ⟨hsame, hkept, -⟩ | ⟨-, storeStep, prepared, rfl, hprepared, hnext, hlog⟩
      · rw [hsame, hkept]
        exact ⟨log, j, hjournal, hretains, fun version hpasses => hpasses⟩
      · rw [hjournal] at hlog
        obtain ⟨log', j', hlog', hretains', hpasses⟩ :=
          hretains.step hprepared (hcounted hbusy prepared hprepared)
        rw [hlog'] at hlog
        rw [hnext]
        exact ⟨log', j', (Option.some.inj hlog).symm, hretains', hpasses⟩
    obtain ⟨log', j', hjournal', hretains', hpasses⟩ := hfollows
    subst hs'
    exact ⟨start, log', j', hjournal', hretains',
      fun child hmem => hpasses _ (hchild child hmem), hstage.parent hmoves hpasses⟩
  · rw [hmoves.child]
    exact h.childless (hmoves.stage ▸ hidle)

end CoreUpgrade

end UpgradeFacts

variable {region : ByteArr}

section Messages

variable {σ φ ρ : Type} {C : ContentBehavior} {readers : ChildReaders σ φ ρ}

theorem snapshot_core {version next : CoreVersion} (hcs : readers.snapshot.RoundTrips)
    {snapshot : CoreTransferSnapshot}
    (hsnapshot : version.prepareProcessTransfer readers.snapshot = .ok snapshot)
    (h : ofTransfer (CoreVersion.importProcessTransfer readers.snapshot snapshot.bytes) =
      .ok next) : next = version := by
  rw [importProcessTransfer_prepared hcs hsnapshot] at h
  cases hvalid : (CoreTransferSnapshotV1.fromVersion version).validate with
  | error error =>
    rw [hvalid] at h
    cases h
  | ok _ =>
    rw [hvalid] at h
    cases h
    rfl

namespace ExecutableChildPrepared

theorem nextCore_directory (child : ExecutableChildPrepared σ φ ρ) {prestage : PrestageV1}
    (h : prestage.resources = [⟨.sessionDirectory, region⟩]) :
    child.nextCore C readers prestage = .ok child.pendingCore := by
  unfold nextCore
  rw [h]
  rfl

theorem nextCore_snapshot (child : ExecutableChildPrepared σ φ ρ) {prestage : PrestageV1}
    (h : prestage.resources = [⟨.coreSnapshot, region⟩]) : child.nextCore C readers prestage =
      ofTransfer (CoreVersion.importProcessTransfer readers.snapshot region) := by
  unfold nextCore
  rw [h]
  rfl

theorem nextCore_journal (child : ExecutableChildPrepared σ φ ρ) {prestage : PrestageV1}
    {others : List Resource} (h : prestage.resources = ⟨.coreJournal, region⟩ :: others)
    (hothers : ∀ resource ∈ others, resource.kind ≠ .coreSnapshot ∧ resource.kind ≠ .coreJournal) :
    child.nextCore C readers prestage =
      ofFault (child.pendingCore.applyProcessTransferDelta C readers.commit region) := by
  have hsnapshot : others.filter (fun resource => decide (resource.kind = .coreSnapshot)) = [] :=
    List.filter_eq_nil_iff.mpr fun resource hmem hkind =>
      (hothers resource hmem).1 (of_decide_eq_true hkind)
  have hjournal : others.filter (fun resource => decide (resource.kind = .coreJournal)) = [] :=
    List.filter_eq_nil_iff.mpr fun resource hmem hkind =>
      (hothers resource hmem).2 (of_decide_eq_true hkind)
  unfold nextCore optionalResource
  rw [h, List.filter_cons_of_neg (by simp), hsnapshot, List.filter_cons_of_pos (by simp), hjournal]
  rfl

theorem boot_core (hcs : readers.snapshot.RoundTrips) {version : CoreVersion}
    {snapshot : CoreTransferSnapshot} {bootstrap : BootstrapV1}
    {child : ExecutableChildPrepared σ φ ρ}
    (hsnapshot : version.prepareProcessTransfer readers.snapshot = .ok snapshot)
    (hresources : bootstrap.resources = [⟨.coreSnapshot, snapshot.bytes⟩,
      CoreUpgrade.directoryResource region]) (h : boot readers bootstrap = .ok child) :
    child.pendingCore = version ∧
      child.pendingCore.revision = bootstrap.coreSnapshotRevision := by
  obtain ⟨_, -, h⟩ := except_bind_eq_ok.mp h
  obtain ⟨resource, hresource, h⟩ := except_bind_eq_ok.mp h
  rw [hresources] at hresource
  cases hresource
  obtain ⟨core, hcore, h⟩ := except_bind_eq_ok.mp h
  obtain ⟨_, hrevision, h⟩ := except_bind_eq_ok.mp h
  obtain ⟨directory, -, h⟩ := except_bind_eq_ok.mp h
  obtain ⟨_, -, h⟩ := except_bind_eq_ok.mp h
  obtain ⟨_, -, h⟩ := except_bind_eq_ok.mp h
  obtain ⟨phases, -, h⟩ := except_bind_eq_ok.mp h
  cases h
  exact ⟨snapshot_core hcs hsnapshot hcore, ensure_ok hrevision⟩

/-- A commit that is accepted leaves the pending core, under the revisions of the commit. -/
theorem commit_core {child : ExecutableChildPrepared σ φ ρ} {commit : CommitV1}
    {done : ExecutableChildCommit σ} (h : child.commit readers commit = .ok done) :
    done.core = child.pendingCore ∧ done.persistedRevision = commit.persistedCoreRevision ∧
      done.latestDirtyRevision = commit.latestDirtyCoreRevision := by
  unfold ExecutableChildPrepared.commit at h
  obtain ⟨_, -, h⟩ := except_bind_eq_ok.mp h
  obtain ⟨_, -, h⟩ := except_bind_eq_ok.mp h
  obtain ⟨_, -, h⟩ := except_bind_eq_ok.mp h
  obtain ⟨_, -, h⟩ := except_bind_eq_ok.mp h
  obtain ⟨_, -, h⟩ := except_bind_eq_ok.mp h
  obtain ⟨_, -, h⟩ := except_bind_eq_ok.mp h
  cases h
  exact ⟨rfl, rfl, rfl⟩

end ExecutableChildPrepared

/-- A delta that the parent has sealed leads a child on its way to the active core. -/
theorem delta_core (hc : readers.commit.RoundTrips) {start : CoreVersion} {store : CoreStore}
    {log : List CoreCommit} {j : ProcessJournal} {child : ExecutableChildPrepared σ φ ρ}
    (hretains : Retains C readers.commit start log store.active j)
    (hpasses : Passes C start log store.active child.pendingCore) {revision : CoreRevision}
    (hrevision : child.pendingCore.revision = revision) {descriptor : CoreTransferDeltaDescriptor}
    (hseal : store.writeProcessDeltaSince (.process j) revision = .ok (.ready descriptor, region)) :
    descriptor.finalRevision = store.active.revision ∧
      child.pendingCore.applyProcessTransferDelta C readers.commit region = .ok store.active := by
  subst hrevision
  unfold CoreStore.writeProcessDeltaSince at hseal
  split at hseal
  · cases hseal
  · exact hretains.ready hc hpasses hseal

end Messages

section UpgradeSteps

variable {σ φ ρ : Type} [DecidableEq σ] {C : ContentBehavior} {readers : ChildReaders σ φ ρ}
  {jsonLen : TargetedEvent → Except String Nat} {opened : CoreRevision} {s s' : CoreUpgrade σ φ ρ}

namespace CoreUpgrade

omit [DecidableEq σ] in
theorem Sound.of_follows (h : s.Sound C readers opened)
    (hstore : s'.parent.process.store = s.parent.process.store)
    (hcompleted : s'.parent.completed = s.parent.completed) (hbusy : s'.stage ≠ .idle)
    (hfollows : s'.Follows C readers opened) : s'.Sound C readers opened := by
  refine ⟨?_, fun _ => hfollows, fun hidle => absurd hidle hbusy⟩
  rw [hstore, hcompleted]
  exact h.persisted

omit [DecidableEq σ] in
theorem Reaches.same {core : CoreVersion} {round : Round} (h : s.Reaches opened core round)
    (hparent : s'.parent = s.parent) (hfrozen : s'.frozenCore = s.frozenCore) :
    s'.Reaches opened core round := by
  cases round with
  | introduction => trivial
  | update left => trivial
  | final commit =>
    obtain ⟨hcore, hclosed, hactive, hpersisted, hdirty⟩ := h
    refine ⟨?_, ?_, ?_, ?_, ?_⟩
    · rw [hparent]
      exact hcore
    · rw [hparent]
      exact hclosed
    · rw [hfrozen, hparent]
      exact hactive
    · rw [hparent]
      exact hpersisted
    · rw [hparent]
      exact hdirty

theorem Sound.stage (h : s.Sound C readers opened)
    (hstep : s.step C readers jsonLen .stage = some s') : s'.Sound C readers opened := by
  unfold step at hstep
  dsimp only at hstep
  split at hstep
  · next hidle =>
    cases hstep
    refine h.of_follows rfl rfl (by nofun) ⟨s.parent.active, [], _, rfl,
      .restarted (.nil _) (by nofun), fun child hmem => ?_, Passes.last (.nil _)⟩
    rw [h.childless hidle] at hmem
    cases hmem
  · cases hstep

theorem Sound.bootstrap (hcs : readers.snapshot.RoundTrips) (h : s.Sound C readers opened)
    {directory : ExecutableSessionDirectory σ}
    (hstep : s.step C readers jsonLen (.bootstrap directory region) = some s') :
    s'.Sound C readers opened := by
  unfold step at hstep
  dsimp only at hstep
  split at hstep
  · next version persisted dirty hstage =>
    split at hstep
    · next snapshot hsnapshot =>
      cases hstep
      obtain ⟨start, log, j, hjournal, hretains, hchild, hversion⟩ :=
        h.follows (by rw [hstage]; nofun)
      rw [hstage] at hversion
      refine h.of_follows rfl rfl (by nofun)
        ⟨start, log, j, hjournal, hretains, hchild, fun child hboot => ?_⟩
      obtain ⟨hcore, hrevision⟩ := ExecutableChildPrepared.boot_core hcs hsnapshot rfl hboot
      rw [hcore] at hrevision ⊢
      exact ⟨hversion, hrevision⟩
    · cases hstep
  · cases hstep

theorem Sound.childBoots (h : s.Sound C readers opened)
    (hstep : s.step C readers jsonLen .childBoots = some s') : s'.Sound C readers opened := by
  unfold step at hstep
  dsimp only at hstep
  split at hstep
  · next bootstrap hstage =>
    obtain ⟨start, log, j, hjournal, hretains, hchild, hboots⟩ := h.follows (by rw [hstage]; nofun)
    rw [hstage] at hboots
    split at hstep
    · next child hboot =>
      cases hstep
      obtain ⟨hpasses, hrevision⟩ := hboots child hboot
      refine h.of_follows rfl rfl (by nofun)
        ⟨start, log, j, hjournal, hretains, fun other hmem => ?_, fun other hmem => ?_⟩
      · cases hmem
        exact hpasses
      · cases hmem
        exact hrevision
    · cases hstep
      exact h.of_follows rfl rfl (by nofun) ⟨start, log, j, hjournal, hretains, hchild, trivial⟩
  · cases hstep

theorem Sound.introduce (h : s.Sound C readers opened) {directory : ExecutableSessionDirectory σ}
    (hstep : s.step C readers jsonLen (.introduce directory region) = some s') :
    s'.Sound C readers opened := by
  unfold step at hstep
  dsimp only at hstep
  split at hstep
  · next revision hstage =>
    cases hstep
    obtain ⟨start, log, j, hjournal, hretains, hchild, -⟩ := h.follows (by rw [hstage]; nofun)
    refine h.of_follows rfl rfl (by nofun)
      ⟨start, log, j, hjournal, hretains, hchild, fun child hmem next hnext => ?_⟩
    rw [child.nextCore_directory rfl] at hnext
    cases hnext
    exact ⟨hchild child hmem, trivial⟩
  · cases hstep

theorem Sound.childTakes (h : s.Sound C readers opened)
    (hstep : s.step C readers jsonLen .childTakes = some s') : s'.Sound C readers opened := by
  unfold step at hstep
  dsimp only at hstep
  split at hstep
  · next round prestage child hstage hchild' =>
    obtain ⟨start, log, j, hjournal, hretains, hchild, hsent⟩ := h.follows (by rw [hstage]; nofun)
    rw [hstage] at hsent
    have hold := hchild child hchild'
    replace hstep : s.childTakes C readers round prestage child = s' := Option.some.inj hstep
    unfold CoreUpgrade.childTakes at hstep
    rcases child.takes_cases prestage with ⟨error, htaken⟩ | ⟨next, taken, hnext, -, -, hcore, htaken⟩
    · rw [htaken] at hstep
      subst hstep
      refine h.of_follows rfl rfl (by nofun) ⟨start, log, j, hjournal, hretains, ?_, trivial⟩
      intro other hmem
      cases hmem
      exact hold
    · rw [htaken] at hstep
      dsimp only at hstep
      obtain ⟨hpasses, hreaches⟩ := hsent child hchild' next hnext
      have himported : ∀ last, imported readers round prestage taken = .ok last →
          last.pendingCore = next := by
        intro last hlast
        cases round with
        | introduction | update left =>
          cases hlast
          exact hcore
        | final commit =>
          obtain ⟨sessions, -, hlast⟩ := except_bind_eq_ok.mp hlast
          cases hlast
          exact hcore
      split at hstep
      · subst hstep
        exact h.of_follows rfl rfl (by nofun)
          ⟨start, log, j, hjournal, hretains, fun other hmem => (by cases hmem), trivial⟩
      · next last hlast =>
        subst hstep
        have hlast := himported last hlast
        refine h.of_follows rfl rfl (by nofun)
          ⟨start, log, j, hjournal, hretains, fun other hmem => ?_, fun other hmem => ?_⟩
        · cases hmem
          rw [hlast]
          exact hpasses
        · cases hmem
          rw [hlast]
          exact ⟨rfl, hreaches.same rfl rfl⟩
  · cases hstep

end CoreUpgrade

end UpgradeSteps

section UpgradeRun

variable {σ φ ρ : Type} [DecidableEq σ] {C : ContentBehavior} {readers : ChildReaders σ φ ρ}
  {jsonLen : TargetedEvent → Except String Nat} {opened : CoreRevision} {s s' : CoreUpgrade σ φ ρ}

namespace CoreUpgrade

theorem Sound.expectReady (h : s.Sound C readers opened)
    (hstep : s.step C readers jsonLen .expectReady = some s') : s'.Sound C readers opened := by
  unfold step at hstep
  dsimp only at hstep
  split at hstep
  · next round prestage ready hstage =>
    obtain ⟨hmatches, hdone⟩ := Option.ite_none_right_eq_some.mp hstep
    cases hdone
    obtain ⟨start, log, j, hjournal, hretains, hchild, hanswered⟩ :=
      h.follows (by rw [hstage]; nofun)
    rw [hstage] at hanswered
    have hrevision : ∀ child ∈ s.child, child.pendingCore.revision = prestage.coreRevision :=
      fun child hmem => (hanswered child hmem).1.symm.trans hmatches.1
    cases round with
    | introduction =>
      exact h.of_follows rfl rfl (by nofun)
        ⟨start, log, j, hjournal, hretains, hchild, hrevision⟩
    | update left =>
      by_cases hlag : s.lag prestage.coreRevision ≤ CORE_FREEZE_ADMISSION_COMMIT_LAG
      · have hafter : s.afterReady prestage.coreRevision (.update left) =
            .acknowledged prestage.coreRevision := if_pos hlag
        rw [hafter]
        exact h.of_follows rfl rfl (by nofun)
          ⟨start, log, j, hjournal, hretains, hchild, hrevision⟩
      · have hafter : s.afterReady prestage.coreRevision (.update left) =
            .rounds left prestage.coreRevision := if_neg hlag
        rw [hafter]
        exact h.of_follows rfl rfl (by nofun)
          ⟨start, log, j, hjournal, hretains, hchild, hrevision⟩
    | final commit =>
      exact h.of_follows rfl rfl (by nofun) ⟨start, log, j, hjournal, hretains, hchild,
        fun child hmem => (hanswered child hmem).2.same rfl rfl⟩
  · cases hstep

theorem Sound.prestageCore (hc : readers.commit.RoundTrips) (h : s.Sound C readers opened)
    (hstep : s.step C readers jsonLen .prestageCore = some s') : s'.Sound C readers opened := by
  unfold step at hstep
  dsimp only at hstep
  split at hstep
  · next left revision hstage =>
    obtain ⟨start, log, j, hjournal, hretains, hchild, hrevision⟩ :=
      h.follows (by rw [hstage]; nofun)
    rw [hstage] at hrevision
    split at hstep
    · next descriptor region hseal =>
      cases hstep
      rw [hjournal] at hseal
      refine h.of_follows rfl rfl (by nofun)
        ⟨start, log, j, hjournal, hretains, hchild, fun child hmem next hnext => ?_⟩
      obtain ⟨-, happly⟩ :=
        delta_core hc hretains (hchild child hmem) (hrevision child hmem) hseal
      rw [child.nextCore_journal rfl (by nofun), happly] at hnext
      cases hnext
      exact ⟨Passes.last hretains.leads, trivial⟩
    · cases hstep
      exact h.of_follows rfl rfl (by nofun) ⟨start, log, j, hjournal, hretains, hchild, trivial⟩
    · cases hstep
  · cases hstep

theorem Sound.restartJournal (h : s.Sound C readers opened)
    (hstep : s.step C readers jsonLen .restartJournal = some s') :
    s'.Sound C readers opened := by
  unfold step at hstep
  dsimp only at hstep
  split at hstep
  · next left hstage =>
    cases hstep
    obtain ⟨start, log, j, hjournal, hretains, hchild, -⟩ := h.follows (by rw [hstage]; nofun)
    exact h.of_follows rfl rfl (by nofun) ⟨start, log, _, rfl,
      .restarted hretains.leads hretains.rising, hchild, Passes.last hretains.leads⟩
  · cases hstep

theorem Sound.prestageSnapshot (hcs : readers.snapshot.RoundTrips) (h : s.Sound C readers opened)
    (hstep : s.step C readers jsonLen .prestageSnapshot = some s') :
    s'.Sound C readers opened := by
  unfold step at hstep
  dsimp only at hstep
  split at hstep
  · next left version hstage =>
    split at hstep
    · next snapshot hsnapshot =>
      cases hstep
      obtain ⟨start, log, j, hjournal, hretains, hchild, hversion⟩ :=
        h.follows (by rw [hstage]; nofun)
      rw [hstage] at hversion
      refine h.of_follows rfl rfl (by nofun)
        ⟨start, log, j, hjournal, hretains, hchild, fun child hmem next hnext => ?_⟩
      rw [child.nextCore_snapshot rfl] at hnext
      rw [snapshot_core hcs hsnapshot hnext]
      exact ⟨hversion, trivial⟩
    · cases hstep
  · cases hstep

theorem Sound.freeze (h : s.Sound C readers opened)
    (hstep : s.step C readers jsonLen .freeze = some s') : s'.Sound C readers opened := by
  unfold step at hstep
  dsimp only at hstep
  split at hstep
  · next revision hstage =>
    cases hstep
    obtain ⟨start, log, j, hjournal, hretains, hchild, hrevision⟩ :=
      h.follows (by rw [hstage]; nofun)
    rw [hstage] at hrevision
    exact h.of_follows rfl rfl (by nofun)
      ⟨start, log, j, hjournal, hretains, hchild, rfl, rfl, hrevision⟩
  · cases hstep

theorem Sound.sealFinalCoreDelta (hc : readers.commit.RoundTrips) (h : s.Sound C readers opened)
    {routerState : Option ByteArr} {sessionStates : List ByteArr}
    (hstep : s.step C readers jsonLen (.sealFinalCoreDelta routerState sessionStates) = some s') :
    s'.Sound C readers opened := by
  unfold step at hstep
  dsimp only at hstep
  split at hstep
  · next revision hstage =>
    obtain ⟨start, log, j, hjournal, hretains, hchild, hready⟩ :=
      h.follows (by rw [hstage]; nofun)
    rw [hstage] at hready
    obtain ⟨hclosed, hfrozen, hrevision⟩ := hready
    split at hstep
    · next descriptor region hseal =>
      cases hstep
      rw [hjournal] at hseal
      refine h.of_follows rfl rfl (by nofun)
        ⟨start, log, j, hjournal, hretains, hchild, fun child hmem next hnext => ?_⟩
      obtain ⟨-, happly⟩ :=
        delta_core hc hretains (hchild child hmem) (hrevision child hmem) hseal
      have hothers : ∀ resource ∈ routerState.toList.map (Resource.mk .rakNetState) ++
          sessionStates.map (Resource.mk .sessionState),
          resource.kind ≠ .coreSnapshot ∧ resource.kind ≠ .coreJournal := by
        intro resource hresource
        rcases List.mem_append.mp hresource with hresource | hresource
        · obtain ⟨bytes, -, rfl⟩ := List.mem_map.mp hresource
          exact ⟨by nofun, by nofun⟩
        · obtain ⟨bytes, -, rfl⟩ := List.mem_map.mp hresource
          exact ⟨by nofun, by nofun⟩
      rw [child.nextCore_journal rfl hothers, happly] at hnext
      cases hnext
      exact ⟨Passes.last hretains.leads, rfl, hclosed, hfrozen, h.persisted, rfl⟩
    · cases hstep
    · cases hstep
  · cases hstep

theorem Sound.childCommits (h : s.Sound C readers opened)
    (hstep : s.step C readers jsonLen .childCommits = some s') : s'.Sound C readers opened := by
  unfold step at hstep
  dsimp only at hstep
  split at hstep
  · next commit child hstage hchild' =>
    split at hstep
    · next done hdone =>
      cases hstep
      obtain ⟨start, log, j, hjournal, hretains, hchild, hsent⟩ :=
        h.follows (by rw [hstage]; nofun)
      rw [hstage] at hsent
      obtain ⟨hcore, hpersisted, hdirty⟩ := ExecutableChildPrepared.commit_core hdone
      refine h.of_follows rfl rfl (by nofun) ⟨start, log, j, hjournal, hretains, hchild,
        commit, ?_, hpersisted, hdirty⟩
      rw [hcore]
      exact (hsent child hchild').same rfl rfl
    · cases hstep
  · cases hstep

theorem Sound.abort (h : s.Sound C readers opened)
    (hstep : s.step C readers jsonLen .abort = some s') : s'.Sound C readers opened := by
  unfold step at hstep
  dsimp only at hstep
  split at hstep
  · cases hstep
  · cases hstep
  · cases hstep
  · cases hstep
    exact ⟨h.persisted, fun hbusy => absurd rfl hbusy, fun _ => rfl⟩

theorem Sound.step (hcs : readers.snapshot.RoundTrips) (hc : readers.commit.RoundTrips)
    (h : s.Sound C readers opened) {a : UpgradeStep σ} (hcounted : a.Counted C s)
    (hstep : s.step C readers jsonLen a = some s') : s'.Sound C readers opened := by
  cases a with
  | parent step => exact h.parent hcounted hstep
  | stage => exact h.stage hstep
  | bootstrap directory region => exact h.bootstrap hcs hstep
  | childBoots => exact h.childBoots hstep
  | introduce directory region => exact h.introduce hstep
  | childTakes => exact h.childTakes hstep
  | expectReady => exact h.expectReady hstep
  | prestageCore => exact h.prestageCore hc hstep
  | restartJournal => exact h.restartJournal hstep
  | prestageSnapshot => exact h.prestageSnapshot hcs hstep
  | freeze => exact h.freeze hstep
  | sealFinalCoreDelta routerState sessionStates => exact h.sealFinalCoreDelta hc hstep
  | childCommits => exact h.childCommits hstep
  | abort => exact h.abort hstep

theorem Sound.run (hcs : readers.snapshot.RoundTrips) (hc : readers.commit.RoundTrips)
    (h : s.Sound C readers opened) {steps : List (UpgradeStep σ)}
    (hcounted : Steps.Along (CoreUpgrade.step C readers jsonLen) (fun s a => a.Counted C s) s steps)
    (hrun : s.run C readers jsonLen steps = some s') : s'.Sound C readers opened :=
  Steps.run_keeps (I := Sound C readers opened)
    (fun _ _ _ h hcounted hstep => h.step hcs hc hcounted hstep) h hcounted hrun

end CoreUpgrade

/-- **The child activates with the core that was frozen.**  In every run in which no mutation is
    committed after the revisions have run out, the child that accepts the commit has the parent's
    active version, a persisted revision that the parent has saved in full, and the parent's
    latest dirty revision; no pre-stage that is refused changes it, and none lowers its revision. -/
theorem child_activates_frozen_core (hcs : readers.snapshot.RoundTrips)
    (hc : readers.commit.RoundTrips) {store : CoreStore} {world : WorldSnapshot}
    {epochRevision : Nat} {directory : ExecutableSessionDirectory σ}
    {steps : List (UpgradeStep σ)} {s : CoreUpgrade σ φ ρ}
    (hcounted : Steps.Along (CoreUpgrade.step C readers jsonLen) (fun s a => a.Counted C s)
      (.new store world epochRevision directory) steps)
    (hrun : (CoreUpgrade.new store world epochRevision directory).run C readers jsonLen steps =
      some s) :
    (∀ done, s.stage = .committed done →
      s.frozenCore = some done.core ∧ s.parent.active = done.core ∧
        (done.persistedRevision = store.persistedRevision ∨
          done.persistedRevision ∈ s.parent.completed) ∧
        done.latestDirtyRevision = s.parent.process.store.latestDirtyRevision) ∧
      ∀ child ∈ s.child, ∀ message : PrestageV1,
        (∀ error, (child.takes C readers message).1 = .error error →
          (child.takes C readers message).2 = child) ∧
        child.pendingCore.revision ≤ (child.takes C readers message).2.pendingCore.revision := by
  have hnew : (CoreUpgrade.new store world epochRevision directory : CoreUpgrade σ φ ρ).Sound C
      readers store.persistedRevision := ⟨.inl rfl, fun hbusy => absurd rfl hbusy, fun _ => rfl⟩
  have hsound := hnew.run hcs hc hcounted hrun
  refine ⟨fun done hstage => ?_, fun child _ message => ?_⟩
  · obtain ⟨start, log, j, -, -, -, hdone⟩ := hsound.follows (by rw [hstage]; nofun)
    rw [hstage] at hdone
    obtain ⟨commit, ⟨hcore, hclosing⟩, hpersisted, hdirty⟩ := hdone
    refine ⟨by rw [hclosing.frozen, hcore], hcore.symm, ?_, hdirty.trans hclosing.dirty⟩
    rw [hpersisted]
    exact hclosing.persisted
  · exact ⟨fun error herror => ExecutableChildPrepared.takes_refused herror,
      child.takes_revision_le message⟩

end UpgradeRun

/-! ### An upgrade without sessions -/

def emptyDirectory : ExecutableSessionDirectory Unit := ⟨0, []⟩

/-- A child without sessions, which reads the core with two given codecs. -/
def quietReaders (snapshot : Codec CoreTransferSnapshotV1) (commit : Codec CoreCommit) :
    ChildReaders Unit Unit Unit where
  descriptors := fun _ => .ok ()
  snapshot := snapshot
  commit := commit
  directory := fun _ => .ok emptyDirectory
  transport := fun _ => .tcp
  preparePlayPhases := fun _ => .ok ()
  raknetRouterState := fun _ => .ok ()
  sessions := fun _ => .ok []

def loginCommit : CoreCommit :=
  ⟨.initial, CoreRevision.initial.next, true, [.command (.loginStart ⟨1⟩ "alice" ⟨7⟩) 5]⟩

def loginCodec : Codec CoreCommit :=
  .single loginCommit (.ofCommit loginCommit [.ofLoginStart ⟨1⟩ "alice" ⟨7⟩ 5])

def login : UpgradeStep Unit :=
  .parent (.store (.apply (.loginStart ⟨1⟩ "alice" ⟨7⟩) .internal 5))

/-- An upgrade from the snapshot to the answer to the first round, then what happens to the parent,
    and the rest. -/
def upgradeAround (first last : List (UpgradeStep Unit)) : List (UpgradeStep Unit) :=
  [.stage, .bootstrap emptyDirectory [], .childBoots, .introduce emptyDirectory [], .childTakes,
    .expectReady] ++ first ++ [.prestageCore, .childTakes, .expectReady] ++ last ++
    [.freeze, .sealFinalCoreDelta none [], .childTakes, .expectReady, .childCommits]

def Stage.child {σ : Type} : Stage σ → Option (ExecutableChildCommit σ)
  | .committed done => some done
  | _ => none

theorem Stage.eq_committed {σ : Type} {stage : Stage σ} {done : ExecutableChildCommit σ}
    (h : stage.child = some done) : stage = .committed done := by
  cases stage with
  | committed other =>
    cases h
    rfl
  | _ => cases h

theorem committed_of_any {σ φ ρ : Type} {ended : Option (CoreUpgrade σ φ ρ)}
    {check : CoreUpgrade σ φ ρ → ExecutableChildCommit σ → Bool}
    (h : (ended.any fun s => s.stage.child.any (check s)) = true) :
    ∃ s done, ended = some s ∧ s.stage = .committed done ∧ check s done = true := by
  obtain ⟨s, hrun, hlast⟩ := (Option.any_eq_true _ _).mp h
  obtain ⟨done, hdone, hcheck⟩ := (Option.any_eq_true _ _).mp hlast
  exact ⟨s, done, hrun, Stage.eq_committed hdone, hcheck⟩

def freshVersion : CoreVersion := .initial (.new .default)

def freshReaders : ChildReaders Unit Unit Unit :=
  quietReaders (snapshotCodec freshVersion) loginCodec

def freshUpgrade : CoreUpgrade Unit Unit Unit :=
  .new (.new (.new .default)) furnaceWorld 1 emptyDirectory

theorem UpgradeStep.counted_below {σ φ ρ : Type} {C : ContentBehavior} {s : CoreUpgrade σ φ ρ}
    {a : UpgradeStep σ} (h : s.parent.active.revision.value < u64Max) : a.Counted C s := by
  cases a with
  | parent step =>
    cases step with
    | store step => exact fun _ _ _ => .inr h
    | tickWaits => trivial
    | saveFails => trivial
  | _ => trivial

/-- A player logs in and the store is saved between two rounds. -/
def loginAndSave : List (UpgradeStep Unit) :=
  upgradeAround [login, .parent (.store .saveBegins), .parent (.store .saveEnds)] []

theorem child_activates_frozen_core_saved :
    ∃ s done, freshUpgrade.run canonicalContent freshReaders (fun _ => .ok 0) loginAndSave =
        some s ∧ s.stage = .committed done ∧ s.frozenCore = some done.core ∧
      done.core.state.entities.playersByPlayerId.size = 1 ∧
      done.persistedRevision = CoreRevision.initial.next := by
  have hruns : ((freshUpgrade.run canonicalContent freshReaders (fun _ => .ok 0) loginAndSave).any
      fun s => s.stage.child.any fun done =>
        decide (done.core.state.entities.playersByPlayerId.size = 1 ∧
          done.persistedRevision = CoreRevision.initial.next)) = true := by
    decide +kernel
  have hbelow : Steps.Along (CoreUpgrade.step canonicalContent freshReaders fun _ => .ok 0)
      (fun s _ => s.parent.active.revision.value < u64Max) freshUpgrade loginAndSave := by
    decide +kernel
  obtain ⟨s, done, hrun, hstage, hcheck⟩ := committed_of_any hruns
  exact ⟨s, done, hrun, hstage, ((child_activates_frozen_core (snapshotCodec_roundTrips _)
    (Codec.single_roundTrips _ _) (hbelow.mono fun _ _ h => UpgradeStep.counted_below h) hrun).1
      done hstage).1, of_decide_eq_true hcheck⟩

theorem unsaved_revision_is_kept :
    ∃ s done, freshUpgrade.run canonicalContent freshReaders (fun _ => .ok 0)
        (upgradeAround [login] []) = some s ∧
      s.stage = .committed done ∧ done.persistedRevision ∉ s.parent.completed := by
  have hruns : ((freshUpgrade.run canonicalContent freshReaders (fun _ => .ok 0)
      (upgradeAround [login] [])).any fun s => s.stage.child.any fun done =>
        decide (done.persistedRevision ∉ s.parent.completed)) = true := by
    decide +kernel
  obtain ⟨s, done, hrun, hstage, hcheck⟩ := committed_of_any hruns
  exact ⟨s, done, hrun, hstage, of_decide_eq_true hcheck⟩

/-! ### When the revisions have run out -/

/-- The fresh upgrade at a revision. -/
def upgradeAt (revision : CoreRevision) : CoreUpgrade Unit Unit Unit :=
  .new ⟨⟨revision, .new .default⟩, .initial, none⟩ furnaceWorld 1 emptyDirectory

def lastRevision : CoreRevision := ⟨u64Max, Nat.le_refl _⟩

def lastVersion : CoreVersion := ⟨lastRevision, .new .default⟩

def lastReaders : ChildReaders Unit Unit Unit :=
  quietReaders (snapshotCodec lastVersion) loginCodec

section Ticks

variable {readers : ChildReaders Unit Unit Unit} {jsonLen : TargetedEvent → Except String Nat}

theorem upgradeAt_tick (revision : CoreRevision) :
    (upgradeAt revision).step canonicalContent readers jsonLen (.parent (.store (.builtinTick 5))) =
      some (upgradeAt revision.next) := by
  have hprepare : (StoreStep.builtinTick 5).prepare canonicalContent
      (upgradeAt revision).parent.process.store =
      .ok (.commit ⟨revision, ⟨revision.next, .new .default⟩, [], false, [.builtinTick 5]⟩) := by
    rfl
  have hjournal : (upgradeAt revision).parent.journalStep canonicalContent readers jsonLen
      (.store (.builtinTick 5)) = some .inactive := by
    unfold Parent.journalStep CoreStore.journalStep
    dsimp only
    rw [hprepare]
    dsimp only
    unfold CoreStore.journaled
    split
    · rfl
    · split <;> rfl
  have hprocess : (upgradeAt revision).parent.process.step canonicalContent furnaceWorld
      (.store (.builtinTick 5)) =
      some ((upgradeAt revision.next).parent.process, furnaceWorld) := by
    unfold ServerProcess.step
    dsimp only
    rw [if_pos (show (upgradeAt revision).parent.process.takes (.builtinTick 5) = true from rfl),
      StoreStep.prepare_step _ (.builtinTick 5) (by nofun) (by nofun)]
    rw [show (StoreStep.builtinTick 5).prepare canonicalContent
      ((upgradeAt revision).parent.process.under furnaceWorld).store = _ from hprepare]
    simp only [Except.map, SavingStore.after, CoreStore.settled]
    rw [CoreStore.committed_fresh (by rfl)]
    rfl
  unfold CoreUpgrade.step Parent.step
  dsimp only
  rw [show (upgradeAt revision).world = furnaceWorld from rfl, hprocess, Option.bind_some, hjournal]
  rfl

theorem upgradeAt_ticks (n : Nat) (revision last : CoreRevision)
    (hlast : last.value = min (revision.value + n) u64Max) :
    (upgradeAt revision).run canonicalContent readers jsonLen
      (List.replicate n (.parent (.store (.builtinTick 5)))) = some (upgradeAt last) := by
  induction n generalizing revision with
  | zero =>
    have := revision.bound
    rw [CoreRevision.ext_value (show last.value = revision.value by omega)]
    rfl
  | succ n ih =>
    unfold CoreUpgrade.run
    rw [List.replicate_succ, Steps.run, upgradeAt_tick, Option.bind_some]
    refine ih revision.next ?_
    rw [hlast, CoreRevision.next_value]
    omega

end Ticks

/-- With the revisions used up a login publishes a version under the same number, which the journal
    leaves out: the child activates without the player. -/
theorem login_at_last_revision_is_lost :
    ∃ s done, freshUpgrade.run canonicalContent lastReaders (fun _ => .ok 0)
        (List.replicate u64Max (.parent (.store (.builtinTick 5))) ++ upgradeAround [] [login]) =
          some s ∧
      lastReaders.snapshot.RoundTrips ∧ lastReaders.commit.RoundTrips ∧
      s.stage = .committed done ∧ done.core ≠ s.parent.active := by
  have hruns : (((upgradeAt lastRevision).run canonicalContent lastReaders (fun _ => .ok 0)
      (upgradeAround [] [login])).any fun s => s.stage.child.any fun done =>
        decide (done.core ≠ s.parent.active)) = true := by
    decide +kernel
  obtain ⟨s, done, hrun, hstage, hother⟩ := committed_of_any hruns
  exact ⟨s, done, Steps.run_append (upgradeAt_ticks u64Max .initial lastRevision (by decide)) hrun,
    snapshotCodec_roundTrips _, Codec.single_roundTrips _ _, hstage, of_decide_eq_true hother⟩

end RevyCraft.Upgrade
