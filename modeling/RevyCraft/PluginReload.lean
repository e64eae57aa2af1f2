/-
  RevyCraft/PluginReload.lean
  ===========================
  **What a reload makes of a broken candidate** (`host/catalog.rs`,
  `host/failure.rs`, `host/topology.rs`, `host/activation.rs`, `host/reload.rs`,
  `host/support`, `runtime/cutover.rs`).

  An artifacts reload goes over the plugins that run: a candidate that fails is
  passed over, and its plugin keeps the generation it has.  A topology or full
  reload goes over the catalog instead and makes every handle anew: a package
  that fails is left out, an active profile that is left out is unknown, and a
  candidate that refuses the sessions ends the reload.

  `PluginHandles.lean` takes what the disk gives to a reload as an input; here
  it is computed from the packages.  What follows the staging are its steps.
-/
import RevyCraft.PluginOwners

namespace RevyCraft.PluginHandles

/-! ### Packages -/

structure ArtifactIdentity where
  source : String
  modifiedAt : Nat
  deriving DecidableEq

structure LoadedGeneration where
  /-- Of a protocol plugin its adapter, which the loader compares with the plugin id. -/
  profileId : String
  generation : PluginGeneration

structure PluginPackage where
  pluginId : String
  pluginKind : PluginKind
  /-- The paths of the manifest and of the library, unless the manifest is malformed. -/
  source : Option String
  /-- The later time of the two files, unless one is missing. -/
  modifiedAt : Option Nat
  /-- `load_protocol_generation` and its siblings. -/
  load : PluginBufferLimits → Except String LoadedGeneration

def PluginPackage.artifactIdentity (package : PluginPackage) : Option ArtifactIdentity := do
  let source ← package.source
  let modifiedAt ← package.modifiedAt
  some ⟨source, modifiedAt⟩

abbrev PluginDirectory := List PluginPackage

def PluginDirectory.package (disk : PluginDirectory) (pluginId : String) : Option PluginPackage :=
  List.find? (·.pluginId = pluginId) disk

/-- `PluginCatalog::discover`. -/
def PluginDirectory.discover (disk : PluginDirectory) : Option PluginDirectory := do
  guard (∀ package ∈ (disk : List PluginPackage), package.source.isSome = true)
  guard (List.map PluginPackage.pluginId disk).Nodup
  some disk

/-- `refresh_dynamic_manifest` on the package of a running plugin. -/
def refreshDynamicManifest (disk : PluginDirectory) (entry : ManagedPlugin) :
    Option PluginPackage := do
  let package ← disk.package entry.pluginId
  guard (package.source.isSome = true)
  guard (package.pluginKind = entry.kind)
  some package

/-! ### Failures of candidates -/

structure ArtifactQuarantineRecord where
  identity : ArtifactIdentity
  reason : String

/-- `PluginFailureDispatch` with its artifact quarantine. -/
structure FailureDispatch extends PluginFailureDispatch where
  artifactQuarantine : BTreeMap String ArtifactQuarantineRecord

namespace FailureDispatch

def isArtifactQuarantined (failures : FailureDispatch) (pluginId : String)
    (identity : ArtifactIdentity) : Bool :=
  failures.artifactQuarantine[pluginId]?.any fun record => decide (record.identity = identity)

def quarantineCandidateArtifact (failures : FailureDispatch) (pluginId : String)
    (identity : ArtifactIdentity) (reason : String) : FailureDispatch :=
  { failures with
    artifactQuarantine := failures.artifactQuarantine.insert pluginId ⟨identity, reason⟩ }

def handleCandidateFailure (failures : FailureDispatch) (kind : PluginKind) (pluginId : String)
    (identity : ArtifactIdentity) (reason : String) : Option FailureDispatch :=
  match actionForKind failures.matrix kind with
  | .skip => some failures
  | .quarantine => some (failures.quarantineCandidateArtifact pluginId identity reason)
  | .failFast => none

def clearPluginState (failures : FailureDispatch) (pluginId : String) : FailureDispatch :=
  { failures with
    activeQuarantine := failures.activeQuarantine.erase pluginId
    artifactQuarantine := failures.artifactQuarantine.erase pluginId }

def updateMatrix (failures : FailureDispatch) (matrix : PluginFailureMatrix) : FailureDispatch :=
  { failures with matrix := matrix }

end FailureDispatch

/-! ### Session migration -/

structure ProtocolReloadSession where
  adapterId : String
  connectionId : Nat
  phase : ConnectionPhase
  player : Option (Nat × Nat)

/-- `GameplaySessionSnapshot`, which only a session that plays has. -/
structure GameplayReloadSession where
  playerId : Nat
  entityId : Nat
  capabilities : SessionCapabilitySet

def SessionDirectoryEntry.protocolReloadSession (entry : SessionDirectoryEntry)
    (connectionId : Nat) : Option ProtocolReloadSession :=
  entry.adapterId.map fun adapterId =>
    ⟨adapterId, connectionId, entry.connectionPhase, entry.player⟩

def SessionDirectoryEntry.gameplayReloadSession (entry : SessionDirectoryEntry) :
    Option GameplayReloadSession :=
  match entry.phase with
  | .play _ playerId entityId _ capabilities => some ⟨playerId, entityId, capabilities⟩
  | _ => none

/-- `RuntimeReloadContext`; the world is the same for every plugin. -/
structure RuntimeReloadContext where
  protocolSessions : List ProtocolReloadSession
  gameplaySessions : List GameplayReloadSession

def RuntimeServer.reloadContext (s : RuntimeServer) : RuntimeReloadContext where
  protocolSessions := s.sessions.filterMap fun session =>
    session.directory.protocolReloadSession session.connectionId
  gameplaySessions := s.sessions.filterMap (·.directory.gameplayReloadSession)

structure PluginCode where
  exportProtocolSession : PluginGeneration → ProtocolReloadSession → Option (List UInt8)
  importProtocolSession : PluginGeneration → ProtocolReloadSession → List UInt8 → Bool
  exportGameplaySession : PluginGeneration → GameplayReloadSession → Option (List UInt8)
  importGameplaySession : PluginGeneration → GameplayReloadSession → List UInt8 → Bool
  /-- The import of the world as it is. -/
  importRuntimeState : PluginGeneration → Bool

namespace PluginCode

variable (code : PluginCode) (context : RuntimeReloadContext)

/-- The loop of `validate_protocol_session_migration`. -/
def migratesProtocol (pluginId : String) (current candidate : PluginGeneration) : Bool :=
  (context.protocolSessions.filter (·.adapterId = pluginId)).all fun session =>
    (code.exportProtocolSession current session).any (code.importProtocolSession candidate session)

/-- The loop of `validate_gameplay_session_migration`. -/
def migratesGameplay (profileId : String) (current candidate : PluginGeneration) : Bool :=
  (context.gameplaySessions.filter (·.capabilities.gameplayProfile = profileId)).all fun session =>
    (code.exportGameplaySession current session).any (code.importGameplaySession candidate session)

/-- A running protocol adapter that is quarantined gives no generation away. -/
def validateProtocolSessionMigration (cells : Cells) (failures : FailureDispatch)
    (active : ManagedPlugin) (candidate : PluginGeneration) : Option Bool := do
  guard (failures.isActiveQuarantined active.pluginId = false)
  let current ← active.handle.generation cells
  some (code.migratesProtocol context active.pluginId current candidate)

def validateGameplaySessionMigration (cells : Cells) (active : ManagedPlugin)
    (candidate : PluginGeneration) : Option Bool :=
  (active.handle.generation cells).map fun current =>
    code.migratesGameplay context active.handle.id current candidate

end PluginCode

/-! ### Artifacts reloads -/

/-- `PreparedProtocolArtifactUpdate`, or `PreparedProfileArtifactUpdate`. -/
structure StagedUpdate extends ArtifactUpdate where
  identity : ArtifactIdentity

/-- What an artifacts reload finds for a running plugin. -/
inductive ArtifactCandidate where
  /-- Nothing newer, or an artifact in quarantine. -/
  | passedOver
  | failed (identity : ArtifactIdentity) (reason : String)
  | loaded (update : StagedUpdate)

def profileChangeMessage (entry : ManagedPlugin) (nextProfileId : String) : String :=
  s!"{entry.kind.kindLabel} plugin `{entry.pluginId}` changed profile from `{entry.handle.id}` to `{nextProfileId}` during reload"

namespace PluginHost

variable (host : PluginHost)

/-- The body of the loops of `stage_protocol_artifact_updates` and `stage_profile_artifact_updates`
    up to its failures. -/
def artifactCandidate (disk : PluginDirectory) (failures : FailureDispatch)
    (entry : ManagedPlugin) : Option ArtifactCandidate := do
  let package ← refreshDynamicManifest disk entry
  let identity ← package.artifactIdentity
  if identity.modifiedAt ≤ entry.loadedAt then some .passedOver
  else if failures.isArtifactQuarantined entry.pluginId identity = true then some .passedOver
  else
    match package.load host.bufferLimits with
    | .error reason => some (.failed identity reason)
    | .ok loaded =>
      -- A protocol plugin has no profile that could change.
      if entry.kind ≠ .protocol ∧ loaded.profileId ≠ entry.handle.id then
        some (.failed identity (profileChangeMessage entry loaded.profileId))
      else
        some (.loaded
          { kind := entry.kind
            pluginId := entry.pluginId
            id := entry.handle.id
            loadedAt := identity.modifiedAt
            generation := loaded.generation
            identity := identity })

def stageArtifactUpdates (disk : PluginDirectory) :
    List ManagedPlugin → FailureDispatch → Option (FailureDispatch × List StagedUpdate)
  | [], failures => some (failures, [])
  | entry :: rest, failures => do
    let candidate ← host.artifactCandidate disk failures entry
    match candidate with
    | .passedOver => stageArtifactUpdates disk rest failures
    | .failed identity reason => do
      let failures ← failures.handleCandidateFailure entry.kind entry.pluginId identity reason
      stageArtifactUpdates disk rest failures
    | .loaded update => do
      let staged ← stageArtifactUpdates disk rest failures
      some (staged.1, update :: staged.2)

/-- The kinds in the order in which their plugins are staged and finalised. -/
def byKind : List ManagedPlugin :=
  [PluginKind.protocol, .gameplay, .storage, .auth, .adminSurface].flatMap fun kind =>
    List.filter (·.kind = kind) host.managed

/-- `validate_update` of the kind: the reason for which the update is refused, if it is. -/
def validateUpdate (code : PluginCode) (context : RuntimeReloadContext) (cells : Cells)
    (failures : FailureDispatch) (active : ManagedPlugin) (update : StagedUpdate) :
    Option (Option String) :=
  match active.kind with
  | .protocol => do
    guard (failures.isActiveQuarantined active.pluginId = false)
    let current ← active.handle.generation cells
    if current.route ≠ update.generation.route then
      some (some "protocol topology changed during reload")
    else do
      let migrates ← code.validateProtocolSessionMigration context cells failures active
        update.generation
      some (if migrates = true then none else some "protocol session migration failed")
  | .gameplay => do
    let migrates ← code.validateGameplaySessionMigration context cells active update.generation
    some (if migrates = true then none else some "gameplay session migration failed")
  | .storage =>
    some (if code.importRuntimeState update.generation = true then none
      else some "storage runtime state import failed")
  | .auth => some none
  | .adminSurface => some none

/-- `finalize_protocol_artifact_updates` and `finalize_profile_artifact_updates`. -/
def finalizeArtifactUpdates (code : PluginCode) (context : RuntimeReloadContext) (cells : Cells) :
    List StagedUpdate → FailureDispatch → Option (FailureDispatch × List StagedUpdate)
  | [], failures => some (failures, [])
  | update :: rest, failures =>
    match host.managed.find update.kind update.id with
    | none => finalizeArtifactUpdates code context cells rest failures
    | some active => do
      let refusal ← validateUpdate code context cells failures active update
      match refusal with
      | some reason => do
        let failures ← failures.handleCandidateFailure update.kind update.pluginId update.identity
          reason
        finalizeArtifactUpdates code context cells rest failures
      | none => do
        let finalized ← finalizeArtifactUpdates code context cells rest failures
        some (finalized.1, update :: finalized.2)

/-- The route under which an adapter registers; one in quarantine describes itself as none. -/
def describedRoute (failures : FailureDispatch) (pluginId : String)
    (generation : PluginGeneration) : Option Route :=
  if failures.isActiveQuarantined pluginId = true then some ProtocolAdapter.placeholderRoute
  else generation.route.map fun route => ⟨route.transport, route.edition, route.protocolNumber⟩

/-- `current_protocol_topology_candidate` can register the running adapters. -/
def registersRunning (cells : Cells) (failures : FailureDispatch) : Bool :=
  decide ((List.filter (·.kind = .protocol) host.managed).map fun entry =>
    (entry.handle.generation cells).map (describedRoute failures entry.pluginId)).Nodup

end PluginHost

/-- `prepare_runtime_artifacts`. -/
def RuntimeServer.prepareRuntimeArtifacts (s : RuntimeServer) (code : PluginCode)
    (failures : FailureDispatch) (disk : PluginDirectory) :
    Option (FailureDispatch × List ArtifactUpdate) := do
  let staged ← s.host.stageArtifactUpdates disk s.host.byKind failures
  guard (s.host.registersRunning s.cells staged.1 = true)
  let finalized ← s.host.finalizeArtifactUpdates code s.reloadContext s.cells staged.2 staged.1
  some (finalized.1, finalized.2.map (·.toArtifactUpdate))

/-! ### Topology and full reloads -/

/-- The part of `RuntimeSelectionConfig` beside the server's configuration is the failure policy and
    the profiles of the admin surfaces. -/
structure RuntimeSelectionConfig extends ServerConfig where
  failureMatrix : PluginFailureMatrix
  adminSurfaces : List String

namespace RuntimeSelectionConfig

variable (config : RuntimeSelectionConfig)

def requiredGameplayProfiles : List String :=
  config.profiles.defaultGameplay :: config.profiles.gameplayMap.map (·.2)

def runtimeAuthProfiles : List String :=
  if config.topology.beEnabled = true ∧ config.profiles.bedrockAuth ≠ config.profiles.auth then
    [config.profiles.auth, config.profiles.bedrockAuth]
  else [config.profiles.auth]

def requestedAuthProfiles : Option (List String) := do
  let requested := config.runtimeAuthProfiles.filter (· ≠ "")
  guard (requested ≠ [])
  some requested

def requestedAdminSurfaceProfiles : List String := config.adminSurfaces.filter (· ≠ "")

/-- The adapters and profiles that the configuration asks for. -/
def selects (kind : PluginKind) (id : String) : Bool :=
  match kind with
  | .protocol => true
  | .gameplay => decide (id ∈ config.requiredGameplayProfiles)
  | .storage => decide (id = config.storageProfile)
  | .auth => config.requestedAuthProfiles.any fun requested => decide (id ∈ requested)
  | .adminSurface => decide (id ∈ config.requestedAdminSurfaceProfiles)

end RuntimeSelectionConfig

/-- What the loops of `stage_runtime_selection` have made so far. -/
structure FreshSelection where
  failures : FailureDispatch
  cells : Cells
  managed : ManagedPlugins

namespace FreshSelection

/-- A new handle with the generation. -/
def manage (fresh : FreshSelection) (package : PluginPackage) (id : String) (modifiedAt : Nat)
    (generation : PluginGeneration) : FreshSelection :=
  { fresh with
    cells := fresh.cells ++ [generation]
    managed := (fresh.managed : List ManagedPlugin) ++
      [⟨package.pluginKind, package.pluginId, ⟨id, fresh.cells.length⟩, modifiedAt, modifiedAt⟩] }

def withFailures (fresh : FreshSelection) (failures : FailureDispatch) : FreshSelection :=
  { fresh with failures := failures }

/-- The adapter that already has the route. -/
def routed (fresh : FreshSelection) (route : Option Route) : Option ManagedPlugin :=
  List.find? (fun entry => decide (entry.kind = .protocol ∧
    (entry.handle.generation fresh.cells).map
      (PluginHost.describedRoute fresh.failures entry.pluginId) = some route)) fresh.managed

def routeCollision (existing : ManagedPlugin) (candidate : String) (route : Option Route) :
    String :=
  let text := (route.map fun route =>
    s!"{route.transport.debug}/{route.edition.debug}/{route.protocolNumber}").getD ""
  s!"protocol route collision: existing adapter `{existing.handle.id}` conflicts with candidate `{candidate}` for {text}"

/-- The body of the loop of `prepare_protocol_topology_with_stage`. -/
def loadProtocolPlugin (limits : PluginBufferLimits) (fresh : FreshSelection)
    (package : PluginPackage) : Option FreshSelection := do
  let identity ← package.artifactIdentity
  if fresh.failures.isArtifactQuarantined package.pluginId identity = true then some fresh
  else
    match package.load limits with
    | .error reason =>
      (fresh.failures.handleCandidateFailure .protocol package.pluginId identity reason).map
        fresh.withFailures
    | .ok loaded =>
      let route := PluginHost.describedRoute fresh.failures package.pluginId loaded.generation
      match fresh.routed route with
      | some existing =>
        some (fresh.withFailures (fresh.failures.quarantineCandidateArtifact package.pluginId
          identity (routeCollision existing package.pluginId route)))
      | none =>
        some (fresh.manage package package.pluginId identity.modifiedAt loaded.generation)

/-- `load_requested_gameplay_plugin` and its siblings. -/
def loadRequestedPlugin (requested : List String) (limits : PluginBufferLimits)
    (fresh : FreshSelection) (package : PluginPackage) : Option FreshSelection := do
  let identity ← package.artifactIdentity
  if fresh.failures.isArtifactQuarantined package.pluginId identity = true then some fresh
  else
    match package.load limits with
    | .error reason =>
      (fresh.failures.handleCandidateFailure package.pluginKind package.pluginId identity
        reason).map fresh.withFailures
    | .ok loaded =>
      if loaded.profileId ∉ requested then some fresh
      else if (fresh.managed.find package.pluginKind loaded.profileId).isSome = true then none
      else some (fresh.manage package loaded.profileId identity.modifiedAt loaded.generation)

/-- Without a requested profile the packages of admin surfaces are not even looked at. -/
def loadRequestedAdminSurfacePlugin (requested : List String) (limits : PluginBufferLimits)
    (fresh : FreshSelection) (package : PluginPackage) : Option FreshSelection :=
  if requested = [] then some fresh else fresh.loadRequestedPlugin requested limits package

end FreshSelection

namespace RuntimeSelectionConfig

variable (config : RuntimeSelectionConfig)

/-- The packages of the catalog that a loop goes over. -/
def candidates (catalog : PluginDirectory) (kind : PluginKind) : List PluginPackage :=
  List.filter (fun package => decide (package.pluginKind = kind) &&
    PluginHost.allows config.toServerConfig package.pluginId) catalog

def prepareProtocolTopology (catalog : PluginDirectory) (fresh : FreshSelection) :
    Option FreshSelection :=
  (config.candidates catalog .protocol).foldlM
    (fun fresh => fresh.loadProtocolPlugin config.bufferLimits) fresh

/-- The loop over the packages of a kind, and `ensure_known_profiles`. -/
def prepareProfiles (catalog : PluginDirectory) (kind : PluginKind) (requested : List String)
    (load : FreshSelection → PluginPackage → Option FreshSelection) (fresh : FreshSelection) :
    Option FreshSelection := do
  let prepared ← (config.candidates catalog kind).foldlM load fresh
  guard (∀ profileId ∈ requested, (prepared.managed.find kind profileId).isSome = true)
  some prepared

def prepareGameplayProfiles (catalog : PluginDirectory) (fresh : FreshSelection) :
    Option FreshSelection :=
  config.prepareProfiles catalog .gameplay config.requiredGameplayProfiles
    (fun fresh => fresh.loadRequestedPlugin config.requiredGameplayProfiles config.bufferLimits)
    fresh

def prepareStorageProfiles (catalog : PluginDirectory) (fresh : FreshSelection) :
    Option FreshSelection :=
  config.prepareProfiles catalog .storage [config.storageProfile]
    (fun fresh => fresh.loadRequestedPlugin [config.storageProfile] config.bufferLimits) fresh

def prepareAuthProfiles (catalog : PluginDirectory) (fresh : FreshSelection) :
    Option FreshSelection := do
  let requested ← config.requestedAuthProfiles
  config.prepareProfiles catalog .auth requested
    (fun fresh => fresh.loadRequestedPlugin requested config.bufferLimits) fresh

def prepareAdminSurfaceProfiles (catalog : PluginDirectory) (fresh : FreshSelection) :
    Option FreshSelection :=
  config.prepareProfiles catalog .adminSurface config.requestedAdminSurfaceProfiles
    (fun fresh => fresh.loadRequestedAdminSurfacePlugin config.requestedAdminSurfaceProfiles
      config.bufferLimits) fresh

/-- `stage_runtime_selection`: the candidate's failure policy holds while it stages. -/
def stageRuntimeSelection (cells : Cells) (failures : FailureDispatch) (disk : PluginDirectory) :
    Option FreshSelection := do
  let catalog ← disk.discover
  let fresh ← config.prepareProtocolTopology catalog
    ⟨failures.updateMatrix config.failureMatrix, cells, []⟩
  let fresh ← config.prepareGameplayProfiles catalog fresh
  let fresh ← config.prepareStorageProfiles catalog fresh
  let fresh ← config.prepareAuthProfiles catalog fresh
  let fresh ← config.prepareAdminSurfaceProfiles catalog fresh
  some (fresh.withFailures (fresh.failures.updateMatrix failures.matrix))

end RuntimeSelectionConfig

namespace FreshSelection

variable (fresh : FreshSelection) (code : PluginCode) (context : RuntimeReloadContext)

/-- The body of the loop of `validate_fresh_protocol_sessions`. -/
def acceptsProtocol (cells : Cells) (failures : FailureDispatch) (active : ManagedPlugin) : Bool :=
  match List.find? (fun entry => decide (entry.kind = .protocol ∧
      entry.pluginId = active.pluginId)) fresh.managed with
  | none => true
  | some candidate =>
    !failures.isActiveQuarantined active.pluginId &&
      (active.handle.generation cells).any fun current =>
        (candidate.handle.generation fresh.cells).any fun generation =>
          (decide (current.route = generation.route) ||
            context.protocolSessions.all (decide <| ·.adapterId ≠ active.pluginId)) &&
          decide (code.validateProtocolSessionMigration context cells failures active generation =
            some true)

/-- The body of the loop of `validate_fresh_gameplay_sessions`. -/
def acceptsGameplay (cells : Cells) (active : ManagedPlugin) : Bool :=
  match fresh.managed.find .gameplay active.handle.id with
  | none => true
  | some candidate =>
    (candidate.handle.generation fresh.cells).any fun generation =>
      decide (code.validateGameplaySessionMigration context cells active generation = some true)

/-- `validate_fresh_storage_runtime`. -/
def acceptsStorage (storageProfile : String) : Bool :=
  match fresh.managed.find .storage storageProfile with
  | none => true
  | some candidate => (candidate.handle.generation fresh.cells).any code.importRuntimeState

end FreshSelection

/-- `prepare_runtime_selection`. -/
def RuntimeServer.prepareRuntimeSelection (s : RuntimeServer) (code : PluginCode)
    (failures : FailureDispatch) (config : RuntimeSelectionConfig) (disk : PluginDirectory) :
    Option FreshSelection := do
  let fresh ← config.stageRuntimeSelection s.cells failures disk
  guard ((List.filter (·.kind = .protocol) s.host.managed).all
    (fresh.acceptsProtocol code s.reloadContext s.cells fresh.failures) = true)
  guard ((List.filter (·.kind = .gameplay) s.host.managed).all
    (fresh.acceptsGameplay code s.reloadContext s.cells) = true)
  guard (fresh.acceptsStorage code config.storageProfile = true)
  some fresh

/-! ### Reloads -/

/-- The server with the failures of its plugins, and what a reload stages beside its cutover. -/
structure ReloadingServer where
  server : RuntimeServer
  failures : FailureDispatch
  adminSurfaces : List String

/-- What the plugin host has prepared. -/
structure PreparedReload where
  failures : FailureDispatch
  cells : Cells
  plugins : Option PreparedPlugins

namespace ReloadingServer

variable (r : ReloadingServer)

def activeSelection : RuntimeSelectionConfig :=
  { r.server.epoch.selection.config with
    failureMatrix := r.failures.matrix
    adminSurfaces := r.adminSurfaces }

/-- A topology reload keeps the failure policy and the admin surfaces, a full one takes them over. -/
def planReload (loaded : RuntimeSelectionConfig) :
    RuntimeReloadMode → Option RuntimeSelectionConfig
  | .artifacts => some r.activeSelection
  | .topology =>
    (r.activeSelection.planTopologyReload loaded.toServerConfig).map
      ({ r.activeSelection with toServerConfig := · })
  | .core =>
    (r.activeSelection.planCoreReload loaded.toServerConfig).map
      ({ r.activeSelection with toServerConfig := · })
  | .full =>
    (r.activeSelection.planFullReload loaded.toServerConfig).map
      ({ loaded with toServerConfig := · })

/-- The plugins of `stage_cutover_with_config`. -/
def preparePlugins (code : PluginCode) (config : RuntimeSelectionConfig) (disk : PluginDirectory)
    (mode : RuntimeReloadMode) : Option PreparedReload :=
  match mode with
  | .artifacts => do
    let prepared ← r.server.prepareRuntimeArtifacts code r.failures disk
    some ⟨prepared.1, r.server.cells, some (.artifacts prepared.2)⟩
  | .core => some ⟨r.failures, r.server.cells, none⟩
  | _ => do
    let fresh ← r.server.prepareRuntimeSelection code r.failures config disk
    some ⟨fresh.failures, fresh.cells, some (.fresh config.toServerConfig fresh.managed)⟩

/-- The rest of `stage_cutover_with_config`. -/
def stagedCutover (mode : RuntimeReloadMode) (config : RuntimeSelectionConfig)
    (prepared : PreparedReload) : Option StagedCutover := do
  let plugins := r.server.candidatePlugins prepared.plugins
  let selection ← resolveSelection config.toServerConfig plugins.2
  let preparedTopology ← r.server.prepareTopology prepared.cells mode config.toServerConfig plugins.1
  let storageProfile ← plugins.2.resolve .storage config.storageProfile
  some
    { mode := mode
      candidate :=
        { revision := r.server.epoch.revision + 1
          selection := selection
          topology := preparedTopology.candidateGeneration r.server.epoch.topology
          storageProfile := storageProfile }
      preparedPlugins := prepared.plugins
      preparedTopology := preparedTopology
      reloadedPluginIds := r.server.reloadedPluginIds prepared.plugins
      prepared := none
      frozen := false }

def stageReload (code : PluginCode) (mode : RuntimeReloadMode) (config : RuntimeSelectionConfig)
    (disk : PluginDirectory) : Option ReloadingServer := do
  guard (r.server.reload.isNone = true)
  let prepared ← r.preparePlugins code config disk mode
  let reload ← r.stagedCutover mode config prepared
  some
    { r with
      server :=
        { r.server with
          cells := prepared.cells
          nextGenerationId := match reload.preparedTopology with
            | .generation _ => r.server.nextGenerationId + 1
            | _ => r.server.nextGenerationId
          reload := some reload }
      failures := prepared.failures }

/-- What `commit_runtime_selection` does to the failures. -/
def committedFailures (config : RuntimeSelectionConfig) (failures : FailureDispatch) :
    Option PreparedPlugins → FailureDispatch
  | none => failures
  | some (.fresh _ managed) =>
    List.foldl (fun failures entry => failures.clearPluginState entry.pluginId)
      (failures.updateMatrix config.failureMatrix) managed
  | some (.artifacts updates) =>
    updates.foldl (fun failures update => failures.clearPluginState update.pluginId) failures

/-- The commit of the cutover, with that of the plugin host. -/
def commitReload (config : RuntimeSelectionConfig) : Option ReloadingServer := do
  let reload ← r.server.reload
  let server ← r.server.step .commit
  some
    { server := server
      failures := committedFailures config r.failures reload.preparedPlugins
      adminSurfaces := config.adminSurfaces }

/-- `reload_runtime`: the server is staged, goes on, and commits.  Each of the steps between is one
    of the sessions, or prepares or freezes the cutover. -/
def reloadRuntime (code : PluginCode) (mode : RuntimeReloadMode) (loaded : RuntimeSelectionConfig)
    (disk : PluginDirectory) (between : List ReloadStep) : Option ReloadingServer := do
  guard (∀ a ∈ between, RuntimeServer.minor a = true)
  let config ← r.planReload loaded mode
  let staged ← r.stageReload code mode config disk
  let server ← Steps.run RuntimeServer.step staged.server between
  commitReload { staged with server := server } config

end ReloadingServer

/-! ### Broken candidates -/

/-- `import_session_state` of the kind answers no, or the running generation exports nothing. -/
def refusesSessionImport (code : PluginCode) (context : RuntimeReloadContext) (cells : Cells)
    (active : ManagedPlugin) (candidate : PluginGeneration) : Prop :=
  match active.kind with
  | .protocol => ∃ current, active.handle.generation cells = some current ∧
      code.migratesProtocol context active.pluginId current candidate = false
  | .gameplay => ∃ current, active.handle.generation cells = some current ∧
      code.migratesGameplay context active.handle.id current candidate = false
  | .storage => code.importRuntimeState candidate = false
  | .auth => False
  | .adminSurface => False

/-- What the disk holds for a running plugin cannot take its place. -/
inductive BrokenCandidate (r : ReloadingServer) (code : PluginCode) (limits : PluginBufferLimits)
    (disk : PluginDirectory) (active : ManagedPlugin) : Prop where
  /-- The manifest is missing, malformed or another plugin's. -/
  | unreadable (h : refreshDynamicManifest disk active = none)
  /-- The library is missing. -/
  | missing (package : PluginPackage) (h : refreshDynamicManifest disk active = some package)
      (hmissing : package.artifactIdentity = none)
  | failsToLoad (package : PluginPackage) (reason : String)
      (h : refreshDynamicManifest disk active = some package)
      (hload : package.load limits = .error reason)
  | quarantined (package : PluginPackage) (identity : ArtifactIdentity)
      (h : refreshDynamicManifest disk active = some package)
      (hidentity : package.artifactIdentity = some identity)
      (hquarantined : r.failures.isArtifactQuarantined active.pluginId identity = true)
  | refusesImport (package : PluginPackage) (loaded : LoadedGeneration)
      (h : refreshDynamicManifest disk active = some package)
      (hload : package.load limits = .ok loaded)
      (hrefuses : refusesSessionImport code r.server.reloadContext r.server.cells active
        loaded.generation)

namespace ReloadingServer

variable (r : ReloadingServer)

def candidateLimits (config : RuntimeSelectionConfig) : RuntimeReloadMode → PluginBufferLimits
  | .artifacts => r.server.host.bufferLimits
  | _ => config.bufferLimits

/-- The plugins with the given ids run, are still selected, and have broken candidates, which the
    failure policy does not take for fatal. -/
structure Breaks (code : PluginCode) (mode : RuntimeReloadMode) (config : RuntimeSelectionConfig)
    (disk : PluginDirectory) (broken : List String) : Prop where
  active : ∀ pluginId ∈ broken, ∃ active ∈ (r.server.host.managed : List ManagedPlugin),
    active.pluginId = pluginId
  selected : ∀ active ∈ (r.server.host.managed : List ManagedPlugin), active.pluginId ∈ broken →
    PluginHost.allows config.toServerConfig active.pluginId = true ∧
      config.selects active.kind active.handle.id = true
  candidates : ∀ active ∈ (r.server.host.managed : List ManagedPlugin), active.pluginId ∈ broken →
    BrokenCandidate r code (r.candidateLimits config mode) disk active
  policy : ∀ active ∈ (r.server.host.managed : List ManagedPlugin), active.pluginId ∈ broken →
    actionForKind config.failureMatrix active.kind ≠ .failFast

/-- The package is the one that the running plugin was loaded from. -/
structure Runs (package : PluginPackage) (active : ManagedPlugin) : Prop where
  kind : package.pluginKind = active.kind
  readable : package.source.isSome = true
  unchanged : package.modifiedAt = some active.loadedAt
  loads : ∃ generation, active.handle.generation r.server.cells = some generation ∧
    package.load r.server.host.bufferLimits = .ok ⟨active.handle.id, generation⟩

/-- The second disk is the first with the artifacts of the given plugins unchanged. -/
structure Unchanged (disk disk' : PluginDirectory) (broken : List String) : Prop where
  others : List.filter (·.pluginId ∉ broken) disk' = List.filter (·.pluginId ∉ broken) disk
  same : ∀ active ∈ (r.server.host.managed : List ManagedPlugin), active.pluginId ∈ broken →
    ∃ package, PluginDirectory.package disk' active.pluginId = some package ∧
      r.Runs package active

/-- The plugin is managed and selected as before, with the generation that it had. -/
def ServesPrevious (final : ReloadingServer) (active : ManagedPlugin) : Prop :=
  ∃ entry ∈ (final.server.host.managed : List ManagedPlugin),
    entry.kind = active.kind ∧ entry.pluginId = active.pluginId ∧
      entry.handle.id = active.handle.id ∧
      ⟨entry.kind, entry.handle⟩ ∈ (final.server.epoch.selection.loadedPlugins : List LoadedPlugin) ∧
      entry.handle.generation final.server.cells = active.handle.generation r.server.cells

/-- Outside the given plugins two reloads end alike. -/
structure Alike (final final' : ReloadingServer) (broken : List String) : Prop where
  managed : List.filter (·.pluginId ∉ broken) final.server.host.managed =
    List.filter (·.pluginId ∉ broken) final'.server.host.managed
  generations : ∀ active ∈ (final'.server.host.managed : List ManagedPlugin),
    active.pluginId ∉ broken →
      active.handle.generation final.server.cells = active.handle.generation final'.server.cells
  selected : ∀ active ∈ (final'.server.host.managed : List ManagedPlugin),
    active.pluginId ∉ broken →
      (⟨active.kind, active.handle⟩ ∈
          (final.server.epoch.selection.loadedPlugins : List LoadedPlugin) ↔
        ⟨active.kind, active.handle⟩ ∈
          (final'.server.epoch.selection.loadedPlugins : List LoadedPlugin))
  quarantine : ∀ pluginId ∉ broken, final.failures.artifactQuarantine[pluginId]? =
    final'.failures.artifactQuarantine[pluginId]?

/-- The reload passes the broken candidate over: its files can be told apart from the running ones,
    and if a protocol adapter is in quarantine, there is nothing to compare it with. -/
def PassedOver (disk : PluginDirectory) (active : ManagedPlugin) : Prop :=
  ∃ package identity, refreshDynamicManifest disk active = some package ∧
    package.artifactIdentity = some identity ∧
    (active.kind = .protocol → r.failures.isActiveQuarantined active.pluginId = true →
      identity.modifiedAt ≤ active.loadedAt ∨
        r.failures.isArtifactQuarantined active.pluginId identity = true ∨
        ∃ reason, package.load r.server.host.bufferLimits = .error reason)

/-- The names, the cells and the plugin ids of the host are different. -/
structure Kept : Prop where
  managed : r.server.host.managed.WellKept r.server.cells
  distinct : (List.map (·.pluginId) r.server.host.managed).Nodup

end ReloadingServer

end RevyCraft.PluginHandles
