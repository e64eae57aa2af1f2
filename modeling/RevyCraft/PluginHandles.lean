/-
  RevyCraft/PluginHandles.lean
  ============================
  **Who holds which plugin generation** (`host/reload.rs`, `host/topology.rs`,
  `runtime/cutover.rs`, `runtime/topology_resources.rs`, `session/spawn.rs`,
  `session/types.rs`, `executable.rs`).

  A generation of a plugin sits in a handle.  The plugin host manages one
  handle per plugin, the epoch has a registry and a selection of handles, and a
  session is bound to two of them.  An artifacts reload puts a new generation
  into a handle that all three share; a topology or full reload makes new
  handles for every plugin and gives them to the host, whatever becomes of the
  registry.  A session keeps a copy of what its handles reported when it was
  bound.  An adapter in active quarantine reports no generation.

  What the disk holds is read anew by each reload, so it is an input of the
  step.  The permit of a session lasts from a frame to the publication of its
  directory entry; every other step ends at an `await`.
-/
import RevyCraft.PluginFailures
import RevyCraft.ProtocolRegistry
import RevyCraft.Steps

namespace RevyCraft.PluginHandles

/-! ### Generations and handles -/

/-- What `protocol_reload_compatible` and `ProtocolTopologyEntry` compare. -/
structure RouteMetadata where
  transport : TransportKind
  edition : Edition
  protocolNumber : Int
  wireFormat : WireFormatKind
  bedrockListener : Option String
  deriving DecidableEq

/-- The identity is a digest of the artifact and the buffer limits it was loaded with. -/
structure PluginGeneration where
  generationId : Nat
  artifactSha256 : Nat
  capabilities : List String
  /-- Of a protocol plugin. -/
  route : Option RouteMetadata

/-- An `Arc` of a `HotSwappableProtocolAdapter` or of a profile: the adapter or profile that it is
    for, and the cell with its generation. -/
structure PluginHandle where
  id : String
  cell : Nat
  deriving DecidableEq

/-- The generations in the cells of all handles. -/
abbrev Cells := List PluginGeneration

/-- What the handles answer from: their cells, and the adapters in active quarantine. -/
structure HandleState where
  cells : Cells
  quarantined : List String

namespace PluginHandle

def generation (cells : Cells) (handle : PluginHandle) : Option PluginGeneration :=
  cells[handle.cell]?

/-- Of a `HotSwappableGameplayProfile`. -/
def pluginGenerationId (cells : Cells) (handle : PluginHandle) : Option Nat :=
  (handle.generation cells).map (·.generationId)

/-- Of a `HotSwappableGameplayProfile`. -/
def capabilitySet (cells : Cells) (handle : PluginHandle) : List String :=
  ((handle.generation cells).map (·.capabilities)).getD []

/-- The `plugin_generation_id` of a `HotSwappableProtocolAdapter`. -/
def adapterGenerationId (handles : HandleState) (adapter : PluginHandle) : Option Nat :=
  if adapter.id ∈ handles.quarantined then none else adapter.pluginGenerationId handles.cells

/-- The `capability_set` of a `HotSwappableProtocolAdapter`. -/
def adapterCapabilitySet (handles : HandleState) (adapter : PluginHandle) : List String :=
  if adapter.id ∈ handles.quarantined then [] else adapter.capabilitySet handles.cells

/-- The `descriptor` and the `bedrock_listener_descriptor` of a `HotSwappableProtocolAdapter`. -/
def describedRoute (handles : HandleState) (adapter : PluginHandle) : Option RouteMetadata :=
  if adapter.id ∈ handles.quarantined then some ⟨.tcp, .je, -1, .minecraftFramed, none⟩
  else (adapter.generation handles.cells).bind (·.route)

end PluginHandle

/-! ### Configuration -/

structure NetworkConfig where
  serverPort : Nat
  motd : String
  maxPlayers : Nat
  deriving DecidableEq

structure TopologyConfig where
  beEnabled : Bool
  defaultAdapter : String
  enabledAdapters : Option (List String)
  defaultBedrockAdapter : String
  enabledBedrockAdapters : Option (List String)
  drainGraceSecs : Nat
  deriving DecidableEq

structure PluginBufferLimits where
  protocolResponseBytes : Nat
  metadataBytes : Nat
  deriving DecidableEq

structure ProfilesConfig where
  auth : String
  bedrockAuth : String
  defaultGameplay : String
  gameplayMap : List (String × String)
  deriving DecidableEq

structure ServerConfig where
  storageProfile : String
  viewDistance : Nat
  network : NetworkConfig
  topology : TopologyConfig
  pluginAllowlist : Option (List String)
  bufferLimits : PluginBufferLimits
  profiles : ProfilesConfig
  deriving DecidableEq

namespace ServerConfig

def effectiveEnabledAdapters (config : ServerConfig) : List String :=
  config.topology.enabledAdapters.getD [config.topology.defaultAdapter]

def effectiveEnabledBedrockAdapters (config : ServerConfig) : List String :=
  config.topology.enabledBedrockAdapters.getD [config.topology.defaultBedrockAdapter]

def gameplayProfileForAdapter (config : ServerConfig) (adapterId : String) : String :=
  (config.profiles.gameplayMap.lookup adapterId).getD config.profiles.defaultGameplay

def planTopologyReload (active candidate : ServerConfig) : Option ServerConfig :=
  if active.storageProfile = candidate.storageProfile then
    some { active with network := candidate.network, topology := candidate.topology }
  else none

def planCoreReload (active candidate : ServerConfig) : Option ServerConfig :=
  if active.storageProfile = candidate.storageProfile then
    some { active with
      viewDistance := candidate.viewDistance
      network := { active.network with maxPlayers := candidate.network.maxPlayers } }
  else none

def planFullReload (active candidate : ServerConfig) : Option ServerConfig :=
  if active.storageProfile = candidate.storageProfile then some candidate else none

end ServerConfig

/-! ### The plugin host -/

/-- What a reload finds on the disk for one plugin. -/
structure Artifact where
  kind : PluginKind
  pluginId : String
  /-- The adapter of a protocol plugin, which is its plugin id, or the profile. -/
  id : String
  modifiedAt : Nat
  /-- What loading it gives; nothing while it is quarantined, when it cannot be loaded or when
      nothing requests its profile. -/
  generation : Option PluginGeneration
  /-- The sessions of the running plugin can be migrated to it. -/
  migrates : Bool

/-- `ManagedProtocolPlugin` and its siblings for the profiles. -/
structure ManagedPlugin where
  kind : PluginKind
  pluginId : String
  handle : PluginHandle
  loadedAt : Nat
  activeLoadedAt : Nat
  deriving DecidableEq

/-- The five maps of the host as one, with the kind as a part of the key. -/
abbrev ManagedPlugins := List ManagedPlugin

namespace ManagedPlugins

def find (managed : ManagedPlugins) (kind : PluginKind) (id : String) : Option ManagedPlugin :=
  List.find? (fun entry => decide (entry.kind = kind ∧ entry.handle.id = id)) managed

def handle (managed : ManagedPlugins) (kind : PluginKind) (id : String) : Option PluginHandle :=
  (managed.find kind id).map (·.handle)

/-- `managed_protocol_ids`, sorted. -/
def protocolIds (managed : ManagedPlugins) : List String :=
  (((managed : List ManagedPlugin).filter (·.kind = .protocol)).map
    (·.handle.id)).insertionSort (· ≤ ·)

end ManagedPlugins

structure PluginHost where
  allowlist : Option (List String)
  bufferLimits : PluginBufferLimits
  managed : ManagedPlugins

/-- The adapters by their ids. -/
abbrev Registry := List PluginHandle

def Registry.resolveAdapter (registry : Registry) (adapterId : String) : Option PluginHandle :=
  List.find? (·.id = adapterId) registry

def ManagedPlugins.registry (managed : ManagedPlugins) : Registry :=
  ((managed : List ManagedPlugin).filter (·.kind = .protocol)).map (·.handle)

/-- An update of `PreparedArtifactRuntimeSelection`. -/
structure ArtifactUpdate where
  kind : PluginKind
  pluginId : String
  id : String
  loadedAt : Nat
  generation : PluginGeneration

inductive RuntimeReloadMode where
  | artifacts
  | topology
  | core
  | full
  deriving DecidableEq

/-- `PreparedRuntimeSelectionState`. -/
inductive PreparedPlugins where
  | fresh (config : ServerConfig) (managed : ManagedPlugins)
  | artifacts (updates : List ArtifactUpdate)

namespace PluginHost

/-- The update of a managed plugin that `stage_runtime_artifacts` takes from the disk, if the
    checks of `finalize_staged_runtime_selection` leave it. -/
def artifactUpdate (cells : Cells) (disk : List Artifact) (managed : ManagedPlugin) :
    Option ArtifactUpdate := do
  let artifact ← disk.find? fun artifact =>
    decide (artifact.kind = managed.kind ∧ artifact.pluginId = managed.pluginId)
  let generation ← artifact.generation
  let current ← managed.handle.generation cells
  if managed.loadedAt < artifact.modifiedAt ∧ artifact.id = managed.handle.id ∧
      generation.route = current.route ∧ artifact.migrates = true then
    some ⟨managed.kind, managed.pluginId, managed.handle.id, artifact.modifiedAt, generation⟩
  else none

def stageRuntimeArtifacts (host : PluginHost) (cells : Cells) (disk : List Artifact) :
    List ArtifactUpdate :=
  host.managed.filterMap (artifactUpdate cells disk)

def allows (config : ServerConfig) (pluginId : String) : Bool :=
  config.pluginAllowlist.all (pluginId ∈ ·)

/-- The new handles that `stage_runtime_selection` makes, the first in the cell `next`. -/
def freshManaged (config : ServerConfig) : Nat → List Artifact → ManagedPlugins
  | _, [] => []
  | next, artifact :: rest =>
    if allows config artifact.pluginId = true ∧ artifact.generation.isSome = true then
      ⟨artifact.kind, artifact.pluginId, ⟨artifact.id, next⟩, artifact.modifiedAt,
        artifact.modifiedAt⟩ :: freshManaged config (next + 1) rest
    else freshManaged config next rest

/-- The running plugin whose current generation the staging compares with the artifact. -/
def compares (config : ServerConfig) (mode : RuntimeReloadMode) (active : ManagedPlugin)
    (artifact : Artifact) : Bool :=
  decide (artifact.kind = active.kind ∧ artifact.pluginId = active.pluginId) &&
    artifact.generation.isSome &&
      match mode with
      | .artifacts => decide (active.loadedAt < artifact.modifiedAt)
      | .core => false
      | _ => allows config artifact.pluginId

def freshCells (config : ServerConfig) (disk : List Artifact) : Cells :=
  (disk.filter fun artifact => allows config artifact.pluginId).filterMap (·.generation)

def protocolSelectionInputsChanged (host : PluginHost) (config : ServerConfig) : Bool :=
  decide (host.allowlist ≠ config.pluginAllowlist ∨
    host.bufferLimits.protocolResponseBytes ≠ config.bufferLimits.protocolResponseBytes ∨
    host.bufferLimits.metadataBytes ≠ config.bufferLimits.metadataBytes)

/-- The candidate is newer than what the host manages in its place. -/
def reloaded (host : PluginHost) (candidate : ManagedPlugin) : Bool :=
  (host.managed.find candidate.kind candidate.handle.id).any
    (decide <| ·.activeLoadedAt < candidate.loadedAt)

def requiresProtocolSwap (host : PluginHost) (config : ServerConfig)
    (managed : ManagedPlugins) : Bool :=
  host.protocolSelectionInputsChanged config ||
    managed.any fun candidate => decide (candidate.kind = .protocol) && host.reloaded candidate

def collectFreshReloadedPluginIds (host : PluginHost) (managed : ManagedPlugins) : List String :=
  ((managed.filter host.reloaded).map (·.pluginId)).dedup

/-- `commit_profile_artifact_updates` and the loop over the protocol updates. -/
def applyUpdate (cells : Cells) (managed : ManagedPlugins) (update : ArtifactUpdate) :
    Cells × ManagedPlugins :=
  match managed.find update.kind update.id with
  | none => (cells, managed)
  | some entry =>
    (cells.set entry.handle.cell update.generation,
      managed.map fun other =>
        if other = entry then
          { entry with loadedAt := update.loadedAt, activeLoadedAt := update.loadedAt }
        else other)

def applyUpdates (cells : Cells) (managed : ManagedPlugins) (updates : List ArtifactUpdate) :
    Cells × ManagedPlugins :=
  updates.foldl (fun state update => applyUpdate state.1 state.2 update) (cells, managed)

def commitRuntimeSelection (host : PluginHost) (cells : Cells) :
    PreparedPlugins → PluginHost × Cells
  | .fresh config managed =>
    ({ allowlist := config.pluginAllowlist, bufferLimits := config.bufferLimits,
       managed := managed }, cells)
  | .artifacts updates =>
    ({ host with managed := (applyUpdates cells host.managed updates).2 },
      (applyUpdates cells host.managed updates).1)

end PluginHost

/-! ### Epochs -/

structure ActiveGeneration where
  generationId : Nat
  config : ServerConfig
  protocolRegistry : Registry
  defaultAdapter : PluginHandle
  defaultBedrockAdapter : Option PluginHandle
  deriving DecidableEq

/-- The profiles of a `LoadedPluginSet`. -/
structure LoadedPlugin where
  kind : PluginKind
  handle : PluginHandle

abbrev LoadedPluginSet := List LoadedPlugin

def LoadedPluginSet.resolve (loaded : LoadedPluginSet) (kind : PluginKind) (id : String) :
    Option PluginHandle :=
  (List.find? (fun plugin => decide (plugin.kind = kind ∧ plugin.handle.id = id)) loaded).map
    (·.handle)

/-- `loaded_plugin_set_from_parts`. -/
def ManagedPlugins.loadedPluginSet (managed : ManagedPlugins) : LoadedPluginSet :=
  List.map (fun entry => ⟨entry.kind, entry.handle⟩) managed

structure ResolvedRuntimeSelection where
  config : ServerConfig
  loadedPlugins : LoadedPluginSet
  authProfile : PluginHandle
  bedrockAuthProfile : Option PluginHandle

structure RuntimeEpoch where
  revision : Nat
  selection : ResolvedRuntimeSelection
  topology : ActiveGeneration
  /-- The profile that the core store saves to. -/
  storageProfile : PluginHandle

/-- `SelectionResolver::resolve`; its checks of modes and admin surfaces can only fail it. -/
def resolveSelection (config : ServerConfig) (loaded : LoadedPluginSet) :
    Option ResolvedRuntimeSelection := do
  let authProfile ← loaded.resolve .auth config.profiles.auth
  if config.topology.beEnabled = true then
    let bedrockAuthProfile ← loaded.resolve .auth config.profiles.bedrockAuth
    some ⟨config, loaded, authProfile, some bedrockAuthProfile⟩
  else some ⟨config, loaded, authProfile, none⟩

def enabledAdapterIds (config : ServerConfig) : List String :=
  if config.topology.beEnabled = true then
    config.effectiveEnabledAdapters ++ config.effectiveEnabledBedrockAdapters
  else config.effectiveEnabledAdapters

/-- `activate_protocols`, as the topology with the given id. -/
def activateProtocols (generationId : Nat) (config : ServerConfig) (registry : Registry) :
    Option ActiveGeneration := do
  let enabled := enabledAdapterIds config
  guard (config.topology.defaultAdapter ∈ config.effectiveEnabledAdapters)
  guard (∀ adapterId ∈ enabled, (registry.resolveAdapter adapterId).isSome)
  let active := registry.filter (·.id ∈ enabled)
  let defaultAdapter ← Registry.resolveAdapter active config.topology.defaultAdapter
  if config.topology.beEnabled = true then
    guard (config.topology.defaultBedrockAdapter ∈ config.effectiveEnabledBedrockAdapters)
    let bedrock ← Registry.resolveAdapter active config.topology.defaultBedrockAdapter
    some ⟨generationId, config, active, defaultAdapter, some bedrock⟩
  else some ⟨generationId, config, active, defaultAdapter, none⟩

/-- `protocol_topology_signature`, in the order of the adapter ids. -/
def protocolTopologySignature (handles : HandleState) (registry : Registry) :
    List (String × RouteMetadata) :=
  ((registry.map (·.id)).insertionSort (· ≤ ·)).filterMap fun adapterId => do
    let handle ← registry.resolveAdapter adapterId
    let route ← handle.describedRoute handles
    some (adapterId, route)

inductive PreparedTopologyReload where
  | noop
  | protocolOnly (candidate : ActiveGeneration)
  | generation (candidate : ActiveGeneration)
  deriving DecidableEq

def PreparedTopologyReload.candidateGeneration (active : ActiveGeneration) :
    PreparedTopologyReload → ActiveGeneration
  | .noop => active
  | .protocolOnly candidate => candidate
  | .generation candidate => candidate

/-- `RuntimeProtocolTopologyCandidate`. -/
structure ProtocolTopologyCandidate where
  managed : ManagedPlugins
  requiresProtocolSwap : Bool

/-- `prepare_generation_reload`; what fails when listeners are bound ends the reload. -/
def prepareGenerationReload (handles : HandleState) (nextGenerationId : Nat) (active : ActiveGeneration)
    (config : ServerConfig) (candidate : ProtocolTopologyCandidate) :
    Option PreparedTopologyReload := do
  let activated ← activateProtocols active.generationId config candidate.managed.registry
  if active.config.network = config.network ∧ active.config.topology = config.topology ∧
      active.config.bufferLimits = config.bufferLimits ∧
      protocolTopologySignature handles active.protocolRegistry =
        protocolTopologySignature handles activated.protocolRegistry then
    if (active.protocolRegistry.map (·.id)).insertionSort (· ≤ ·) ≠
        candidate.managed.protocolIds ∨ candidate.requiresProtocolSwap = true then
      some (.protocolOnly activated)
    else some .noop
  else some (.generation { activated with generationId := nextGenerationId })

/-! ### Sessions -/

structure SessionCapabilitySet where
  protocol : List String
  gameplay : List String
  gameplayProfile : String
  entityId : Option Nat
  protocolGeneration : Option Nat
  gameplayGeneration : Option Nat
  deriving DecidableEq

/-- What the two handles of a session report. -/
def reportedCapabilities (handles : HandleState) (adapter gameplay : PluginHandle)
    (entityId : Option Nat) : SessionCapabilitySet where
  protocol := adapter.adapterCapabilitySet handles
  gameplay := gameplay.capabilitySet handles.cells
  gameplayProfile := gameplay.id
  entityId := entityId
  protocolGeneration := adapter.adapterGenerationId handles
  gameplayGeneration := gameplay.pluginGenerationId handles.cells

structure BoundSession where
  generation : ActiveGeneration
  transport : TransportKind
  adapter : PluginHandle
  gameplay : PluginHandle
  capabilities : SessionCapabilitySet

namespace BoundSession

def new (handles : HandleState) (generation : ActiveGeneration) (transport : TransportKind)
    (adapter gameplay : PluginHandle) (entityId : Option Nat) : BoundSession where
  generation := generation
  transport := transport
  adapter := adapter
  gameplay := gameplay
  capabilities := reportedCapabilities handles adapter gameplay entityId

def withEntityId (binding : BoundSession) (handles : HandleState) (entityId : Nat) : BoundSession :=
  new handles binding.generation binding.transport binding.adapter binding.gameplay (some entityId)

end BoundSession

/-- `LoginSession` without its binding. -/
inductive LoginStage where
  | negotiating
  | authenticating
  | acceptedWritePending (playerId entityId : Nat)

inductive ConnectionPhase where
  | handshaking
  | status
  | login
  | play
  deriving DecidableEq

inductive SessionPhase where
  | handshaking (generation : ActiveGeneration)
  | status (binding : BoundSession)
  | login (stage : LoginStage) (binding : BoundSession)
  | play (binding : BoundSession) (playerId entityId : Nat)
  | closing (generationId : Nat) (transport : TransportKind) (phase : ConnectionPhase)

inductive SessionDirectoryPhase where
  | handshaking
  | status (adapterId : String)
  | login (adapterId : String)
  | play (adapterId : String) (playerId entityId : Nat) (gameplay : PluginHandle)
      (capabilities : SessionCapabilitySet)
  | closing (phase : ConnectionPhase)
  deriving DecidableEq

structure SessionDirectoryEntry where
  generationId : Nat
  transport : TransportKind
  phase : SessionDirectoryPhase
  deriving DecidableEq

namespace SessionPhase

def binding : SessionPhase → Option BoundSession
  | .handshaking _ => none
  | .status binding => some binding
  | .login _ binding => some binding
  | .play binding _ _ => some binding
  | .closing _ _ _ => none

def generationId : SessionPhase → Nat
  | .handshaking generation => generation.generationId
  | .status binding => binding.generation.generationId
  | .login _ binding => binding.generation.generationId
  | .play binding _ _ => binding.generation.generationId
  | .closing generationId _ _ => generationId

def transport : SessionPhase → TransportKind
  | .handshaking _ => .tcp
  | .status binding => binding.transport
  | .login _ binding => binding.transport
  | .play binding _ _ => binding.transport
  | .closing _ transport _ => transport

def directoryPhase : SessionPhase → SessionDirectoryPhase
  | .handshaking _ => .handshaking
  | .status binding => .status binding.adapter.id
  | .login _ binding => .login binding.adapter.id
  | .play binding playerId entityId =>
    .play binding.adapter.id playerId entityId binding.gameplay binding.capabilities
  | .closing _ _ phase => .closing phase

def directoryEntry (phase : SessionPhase) : SessionDirectoryEntry :=
  ⟨phase.generationId, phase.transport, phase.directoryPhase⟩

/-- `binding_changed`. -/
def bindingChanged : SessionPhase → SessionPhase → Bool
  | .play active _ _, .play pending _ _ =>
    decide (active.capabilities.protocolGeneration ≠ pending.capabilities.protocolGeneration ∨
      active.capabilities.gameplayGeneration ≠ pending.capabilities.gameplayGeneration)
  | _, _ => false

end SessionPhase

def SessionDirectoryEntry.capabilities (entry : SessionDirectoryEntry) :
    Option SessionCapabilitySet :=
  match entry.phase with
  | .play _ _ _ _ capabilities => some capabilities
  | _ => none

namespace SessionDirectoryEntry

def connectionPhase (entry : SessionDirectoryEntry) : ConnectionPhase :=
  match entry.phase with
  | .handshaking => .handshaking
  | .status _ => .status
  | .login _ => .login
  | .play _ _ _ _ _ => .play
  | .closing phase => phase

def adapterId (entry : SessionDirectoryEntry) : Option String :=
  match entry.phase with
  | .handshaking => none
  | .status adapterId => some adapterId
  | .login adapterId => some adapterId
  | .play adapterId _ _ _ _ => some adapterId
  | .closing _ => none

def player (entry : SessionDirectoryEntry) : Option (Nat × Nat) :=
  match entry.phase with
  | .play _ playerId entityId _ _ => some (playerId, entityId)
  | _ => none

end SessionDirectoryEntry

/-! ### The executable upgrade -/

structure ExecutableSessionBinding where
  transport : TransportKind
  adapterId : String
  gameplayProfile : String
  protocolGeneration : Option Nat
  gameplayGeneration : Option Nat

/-- `executable_binding` reads the handles, not the copies of the binding. -/
def executableBinding (handles : HandleState) (binding : BoundSession) : ExecutableSessionBinding where
  transport := binding.transport
  adapterId := binding.adapter.id
  gameplayProfile := binding.gameplay.id
  protocolGeneration := binding.adapter.adapterGenerationId handles
  gameplayGeneration := binding.gameplay.pluginGenerationId handles.cells

def SessionPhase.connectionPhase (phase : SessionPhase) : ConnectionPhase :=
  phase.directoryEntry.connectionPhase

def SessionPhase.player : SessionPhase → Option (Nat × Nat)
  | .play _ playerId entityId => some (playerId, entityId)
  | _ => none

/-- `binding_matches`. -/
def bindingMatches (entry : SessionDirectoryEntry) (phase : ConnectionPhase) :
    Option ExecutableSessionBinding → Bool
  | some binding =>
    match phase with
    | .play =>
      decide (entry.adapterId = some binding.adapterId ∧
        entry.capabilities.map (·.gameplayProfile) = some binding.gameplayProfile ∧
        entry.capabilities.bind (·.protocolGeneration) = binding.protocolGeneration ∧
        entry.capabilities.bind (·.gameplayGeneration) = binding.gameplayGeneration)
    | .status => decide (entry.adapterId = some binding.adapterId ∧ entry.capabilities = none)
    | .login => decide (entry.adapterId = some binding.adapterId ∧ entry.capabilities = none)
    | .handshaking => false
  | none => decide (entry.adapterId = none ∧ entry.capabilities = none)

/-- `validate_actor_directory_entry`. -/
def validateActorDirectoryEntry (handles : HandleState) (entry : SessionDirectoryEntry)
    (actor : SessionPhase) : Bool :=
  decide (entry.generationId = actor.generationId ∧ entry.transport = actor.transport ∧
    entry.connectionPhase = actor.connectionPhase ∧ entry.player = actor.player) &&
    bindingMatches entry actor.connectionPhase (actor.binding.map (executableBinding handles))

structure PendingSessionState where
  epochRevision : Nat
  phase : SessionPhase
  /-- The session is resynchronised when it activates the epoch. -/
  resync : Bool

structure Session where
  connectionId : Nat
  epochRevision : Nat
  phase : SessionPhase
  pending : Option PendingSessionState
  directory : SessionDirectoryEntry
  /-- It holds a permit: the phase may have changed since the entry was published. -/
  handling : Bool

/-! ### The server -/

/-- `StagedCutover` and what follows it. -/
structure StagedCutover where
  mode : RuntimeReloadMode
  candidate : RuntimeEpoch
  preparedPlugins : Option PreparedPlugins
  preparedTopology : PreparedTopologyReload
  reloadedPluginIds : List String
  /-- The directory revision that the sessions are prepared under. -/
  prepared : Option Nat
  /-- The gate is closed. -/
  frozen : Bool

/-- The plugins whose state `commit_runtime_selection` clears. -/
def StagedCutover.clearedPluginIds (reload : StagedCutover) : List String :=
  match reload.preparedPlugins with
  | none => []
  | some (.fresh _ managed) => List.map (·.pluginId) managed
  | some (.artifacts updates) => updates.map (·.pluginId)

structure RuntimeServer where
  cells : Cells
  /-- The protocol adapters in active quarantine. -/
  quarantined : List String
  host : PluginHost
  epoch : RuntimeEpoch
  draining : List ActiveGeneration
  nextGenerationId : Nat
  sessions : List Session
  nextConnectionId : Nat
  directoryRevision : Nat
  reload : Option StagedCutover

/-- What one frame or message does to the phase of a session. -/
inductive SessionEvent where
  /-- A Java handshake that is routed to an adapter, or to the default one. -/
  | handshake (adapterId : Option String) (login : Bool)
  /-- A Bedrock client asks for an adapter. -/
  | networkSettings (adapterId : String)
  | loginStart (authenticating : Bool)
  | loginAccepted (playerId entityId : Nat)
  /-- The login success is written. -/
  | loginWritten
  | close
  /-- Anything that leaves the phase as it is. -/
  | other

inductive ReloadStep where
  | admission (generationId : Nat) (transport : TransportKind)
  | handle (session : Nat) (event : SessionEvent)
  | publishDirectory (session : Nat)
  | sessionEnds (session : Nat)
  /-- A call of the adapter fails, under the policy that quarantines. -/
  | adapterFails (adapterId : String)
  | stage (mode : RuntimeReloadMode) (loaded : ServerConfig) (disk : List Artifact)
  | prepareBegins
  | prepareSession (session : Nat)
  | freeze
  | commit
  | abort
  | activate (session : Nat)
  | retire (generationId : Nat)
  /-- A child with the same configuration and artifacts takes over. -/
  | handOff (disk : List Artifact)

namespace RuntimeServer

def handles (s : RuntimeServer) : HandleState := ⟨s.cells, s.quarantined⟩

def quarantine (s : RuntimeServer) (adapterId : String) : RuntimeServer :=
  { s with quarantined := adapterId :: s.quarantined }

def resolveGameplayForAdapter (s : RuntimeServer) (adapter : PluginHandle) : Option PluginHandle :=
  s.epoch.selection.loadedPlugins.resolve .gameplay
    (s.epoch.selection.config.gameplayProfileForAdapter adapter.id)

/-- A session bound to an adapter of its generation. -/
def bind (s : RuntimeServer) (generation : ActiveGeneration) (transport : TransportKind)
    (adapter : PluginHandle) : Option BoundSession :=
  (s.resolveGameplayForAdapter adapter).map fun gameplay =>
    .new s.handles generation transport adapter gameplay none

def generationAdmission (s : RuntimeServer) (generationId : Nat) : Option ActiveGeneration :=
  if s.epoch.topology.generationId = generationId then some s.epoch.topology
  else s.draining.find? (·.generationId = generationId)

/-- `spawn_transport_session_inner`. -/
def admittedPhase (s : RuntimeServer) (generationId : Nat) (transport : TransportKind) :
    Option SessionPhase := do
  let generation ← s.generationAdmission generationId
  match transport with
  | .tcp => some (.handshaking generation)
  | .udp => do
    let adapter ← generation.defaultBedrockAdapter
    let binding ← s.bind generation .udp adapter
    some (.login .negotiating binding)

/-- `resolve_route`, or the adapter that stands in for an unknown protocol. -/
def routedAdapter (generation : ActiveGeneration) : Option String → Option PluginHandle
  | some adapterId => generation.protocolRegistry.resolveAdapter adapterId
  | none => some generation.defaultAdapter

def handleEvent (s : RuntimeServer) : SessionPhase → SessionEvent → Option SessionPhase
  | .handshaking generation, .handshake adapterId login => do
    let adapter ← routedAdapter generation adapterId
    let binding ← s.bind generation .tcp adapter
    some (if login then .login .negotiating binding else .status binding)
  | .login .negotiating binding, .networkSettings adapterId => do
    let adapter ← binding.generation.protocolRegistry.resolveAdapter adapterId
    let binding ← s.bind binding.generation .udp adapter
    some (.login .negotiating binding)
  | .login _ binding, .loginStart authenticating =>
    some (.login (if authenticating then .authenticating else .negotiating) binding)
  | .login _ binding, .loginAccepted playerId entityId =>
    some (.login (.acceptedWritePending playerId entityId) (binding.withEntityId s.handles entityId))
  | .login (.acceptedWritePending playerId entityId) binding, .loginWritten =>
    some (.play binding playerId entityId)
  | .handshaking generation, .close => some (.closing generation.generationId .tcp .handshaking)
  | .status binding, .close =>
    some (.closing binding.generation.generationId binding.transport .status)
  | .login _ binding, .close =>
    some (.closing binding.generation.generationId binding.transport .login)
  | .play binding _ _, .close =>
    some (.closing binding.generation.generationId binding.transport .play)
  | phase, .other => some phase
  | _, _ => none

def setSession (s : RuntimeServer) (i : Nat) (session : Session) : RuntimeServer :=
  { s with sessions := s.sessions.set i session }

/-- The gate admits a session that has activated the published epoch. -/
def admits (s : RuntimeServer) (session : Session) : Bool :=
  s.reload.all (fun reload => !reload.frozen) &&
    decide (session.epochRevision = s.epoch.revision)

/-- `SessionDirectoryProjection::publish`. -/
def publish (s : RuntimeServer) (i : Nat) (session : Session) : RuntimeServer :=
  { s.setSession i { session with directory := session.phase.directoryEntry, handling := false }
    with directoryRevision :=
      if session.directory = session.phase.directoryEntry then s.directoryRevision
      else s.directoryRevision + 1 }

/-! #### Reloads -/

def candidateConfig (active loaded : ServerConfig) : RuntimeReloadMode → Option ServerConfig
  | .artifacts => some active
  | .topology => active.planTopologyReload loaded
  | .core => active.planCoreReload loaded
  | .full => active.planFullReload loaded

/-- The catalog has one package for a plugin, and a profile or a route only one plugin. -/
def Catalogued (disk : List Artifact) : Prop :=
  (disk.map fun artifact => (artifact.kind, artifact.id)).Nodup

instance (disk : List Artifact) : Decidable (Catalogued disk) :=
  inferInstanceAs (Decidable (List.Nodup _))

/-- `stage_runtime_artifacts` or `stage_runtime_selection`, with the cells of the new handles. -/
def stagePlugins (s : RuntimeServer) (config : ServerConfig) (disk : List Artifact) :
    RuntimeReloadMode → Cells × Option PreparedPlugins
  | .artifacts => (s.cells, some (.artifacts (s.host.stageRuntimeArtifacts s.cells disk)))
  | .topology =>
    (s.cells ++ PluginHost.freshCells config disk,
      some (.fresh config (PluginHost.freshManaged config s.cells.length disk)))
  | .core => (s.cells, none)
  | .full =>
    (s.cells ++ PluginHost.freshCells config disk,
      some (.fresh config (PluginHost.freshManaged config s.cells.length disk)))

/-- The registry and the handles that the candidate is resolved from. -/
def candidatePlugins (s : RuntimeServer) :
    Option PreparedPlugins → ProtocolTopologyCandidate × LoadedPluginSet
  | none => (⟨s.host.managed, false⟩, s.epoch.selection.loadedPlugins)
  | some (.fresh config managed) =>
    (⟨managed, s.host.requiresProtocolSwap config managed⟩, managed.loadedPluginSet)
  | some (.artifacts _) => (⟨s.host.managed, false⟩, s.host.managed.loadedPluginSet)

def prepareTopology (s : RuntimeServer) (cells : Cells) (mode : RuntimeReloadMode)
    (config : ServerConfig) (candidate : ProtocolTopologyCandidate) :
    Option PreparedTopologyReload :=
  if mode = .core then some (.protocolOnly { s.epoch.topology with config := config })
  else prepareGenerationReload ⟨cells, s.quarantined⟩ s.nextGenerationId s.epoch.topology config
    candidate

def reloadedPluginIds (s : RuntimeServer) : Option PreparedPlugins → List String
  | none => []
  | some (.fresh _ managed) => s.host.collectFreshReloadedPluginIds managed
  | some (.artifacts updates) => (updates.map (·.pluginId)).dedup

/-- `stage_cutover`.  A quarantined adapter has no current generation to compare a candidate with,
    which fails the reload. -/
def stageCutover (s : RuntimeServer) (mode : RuntimeReloadMode) (loaded : ServerConfig)
    (disk : List Artifact) : Option StagedCutover := do
  guard (Catalogued disk)
  let config ← candidateConfig s.epoch.selection.config loaded mode
  guard (∀ active ∈ (s.host.managed : List ManagedPlugin), active.kind = .protocol →
    active.handle.id ∈ s.quarantined → disk.any (PluginHost.compares config mode active) = false)
  let staged := s.stagePlugins config disk mode
  let plugins := s.candidatePlugins staged.2
  let selection ← resolveSelection config plugins.2
  let preparedTopology ← s.prepareTopology staged.1 mode config plugins.1
  let storageProfile ← plugins.2.resolve .storage config.storageProfile
  some
    { mode := mode
      candidate :=
        { revision := s.epoch.revision + 1
          selection := selection
          topology := preparedTopology.candidateGeneration s.epoch.topology
          storageProfile := storageProfile }
      preparedPlugins := staged.2
      preparedTopology := preparedTopology
      reloadedPluginIds := s.reloadedPluginIds staged.2
      prepared := none
      frozen := false }

/-- `candidate_binding`. -/
def candidateBinding (handles : HandleState) (candidate : RuntimeEpoch) (binding : BoundSession)
    (entityId : Option Nat) : Option BoundSession := do
  let adapter ← candidate.topology.protocolRegistry.resolveAdapter binding.adapter.id
  let gameplay ← candidate.selection.loadedPlugins.resolve .gameplay
    (candidate.selection.config.gameplayProfileForAdapter binding.adapter.id)
  some (.new handles candidate.topology binding.transport adapter gameplay entityId)

def buildCandidateSessionPhase (handles : HandleState) (candidate : RuntimeEpoch) :
    SessionPhase → Option SessionPhase
  | .handshaking _ => some (.handshaking candidate.topology)
  | .status binding => (candidateBinding handles candidate binding none).map .status
  | .login (.acceptedWritePending playerId entityId) binding =>
    (candidateBinding handles candidate binding (some entityId)).map
      (.login (.acceptedWritePending playerId entityId))
  | .login stage binding => (candidateBinding handles candidate binding none).map (.login stage)
  | .play binding playerId entityId =>
    (candidateBinding handles candidate binding (some entityId)).map
      (.play · playerId entityId)
  | .closing _ transport phase => some (.closing candidate.topology.generationId transport phase)

/-- `prepare_session_cutover`; core and full reloads force a resync. -/
def prepareSessionCutover (s : RuntimeServer) (reload : StagedCutover) (session : Session) :
    Option Session := do
  let pending ← buildCandidateSessionPhase s.handles reload.candidate session.phase
  some { session with
    pending := some
      { epochRevision := reload.candidate.revision
        phase := pending
        resync := decide (reload.mode = .core) || decide (reload.mode = .full) ||
          session.phase.bindingChanged pending } }

/-- What the sessions have prepared for another epoch than the given one is dropped. -/
def dropPending (revision : Nat) (sessions : List Session) : List Session :=
  sessions.map fun session =>
    { session with pending := session.pending.filter (·.epochRevision = revision) }

/-- `seal_cutover`: every session was prepared, and the directory has not changed since. -/
def sealsCutover (s : RuntimeServer) (reload : StagedCutover) : Bool :=
  decide (reload.prepared = some s.directoryRevision) &&
    s.sessions.all fun session =>
      session.pending.any (decide <| ·.epochRevision = reload.candidate.revision)

def commitCutover (s : RuntimeServer) (reload : StagedCutover) : RuntimeServer :=
  let committed := match reload.preparedPlugins with
    | none => (s.host, s.cells)
    | some prepared => s.host.commitRuntimeSelection s.cells prepared
  { s with
    host := committed.1
    cells := committed.2
    quarantined := s.quarantined.filter (· ∉ reload.clearedPluginIds)
    epoch := reload.candidate
    draining := match reload.preparedTopology with
      | .generation _ => s.draining ++ [s.epoch.topology]
      | _ => s.draining
    reload := none }

/-! #### The hand-off -/

/-- `exact_plugin_artifacts`. -/
def exactPluginArtifacts (cells : Cells) (managed : ManagedPlugins) : List (String × Option Nat) :=
  (List.map (fun entry => (entry.pluginId, (entry.handle.generation cells).map (·.artifactSha256)))
    managed).dedup

/-- `prepare_executable_binding`. -/
def prepareExecutableBinding (handles : HandleState) (topology : ActiveGeneration)
    (loaded : LoadedPluginSet) (generationId : Nat) (snapshot : ExecutableSessionBinding)
    (entityId : Option Nat) : Option BoundSession := do
  let adapter ← topology.protocolRegistry.resolveAdapter snapshot.adapterId
  guard (adapter.adapterGenerationId handles = snapshot.protocolGeneration)
  let gameplay ← loaded.resolve .gameplay snapshot.gameplayProfile
  guard (gameplay.pluginGenerationId handles.cells = snapshot.gameplayGeneration)
  some (.new handles { topology with generationId := generationId } snapshot.transport adapter
    gameplay entityId)

/-- `prepare_executable_phase`, from the handles of the parent to those of the child. -/
def prepareExecutablePhase (parent child : HandleState) (topology : ActiveGeneration)
    (loaded : LoadedPluginSet) : SessionPhase → Option SessionPhase
  | .handshaking generation =>
    some (.handshaking { topology with generationId := generation.generationId })
  | .status binding =>
    (prepareExecutableBinding child topology loaded binding.generation.generationId
      (executableBinding parent binding) none).map .status
  | .login (.acceptedWritePending playerId entityId) binding =>
    (prepareExecutableBinding child topology loaded binding.generation.generationId
      (executableBinding parent binding) (some entityId)).map
        (.login (.acceptedWritePending playerId entityId))
  | .login stage binding =>
    (prepareExecutableBinding child topology loaded binding.generation.generationId
      (executableBinding parent binding) none).map (.login stage)
  | .play binding playerId entityId =>
    (prepareExecutableBinding child topology loaded binding.generation.generationId
      (executableBinding parent binding) (some entityId)).map (.play · playerId entityId)
  | .closing generationId transport phase => some (.closing generationId transport phase)

/-- A session as the child imports it: frozen, with the phase that it activates. -/
def importSession (s : RuntimeServer) (handles : HandleState) (topology : ActiveGeneration)
    (loaded : LoadedPluginSet) (session : Session) : Option Session := do
  guard (validateActorDirectoryEntry s.handles session.directory session.phase = true)
  let phase ← prepareExecutablePhase s.handles handles topology loaded session.phase
  some
    { session with
      phase := phase
      pending := some ⟨s.epoch.revision + 1, phase, false⟩
      directory := phase.directoryEntry }

/-- The server of a process that loads what the disk holds. -/
def boot (config : ServerConfig) (disk : List Artifact) (revision generationId : Nat) :
    Option RuntimeServer := do
  guard (Catalogued disk)
  let cells := PluginHost.freshCells config disk
  let managed := PluginHost.freshManaged config 0 disk
  let topology ← activateProtocols generationId config managed.registry
  let selection ← resolveSelection config managed.loadedPluginSet
  let storageProfile ← managed.loadedPluginSet.resolve .storage config.storageProfile
  some
    { cells := cells
      quarantined := []
      host := ⟨config.pluginAllowlist, config.bufferLimits, managed⟩
      epoch := ⟨revision, selection, topology, storageProfile⟩
      draining := []
      nextGenerationId := generationId + 1
      sessions := []
      nextConnectionId := 0
      directoryRevision := 0
      reload := none }

def handOff (s : RuntimeServer) (disk : List Artifact) : Option RuntimeServer := do
  guard (∀ session ∈ s.sessions, session.handling = false ∧
    session.epochRevision = s.epoch.revision)
  let child ← boot s.epoch.selection.config disk (s.epoch.revision + 1) s.epoch.topology.generationId
  guard ((exactPluginArtifacts child.cells child.host.managed).Perm
    (exactPluginArtifacts s.cells s.host.managed))
  let sessions ← s.sessions.mapM
    (s.importSession child.handles child.epoch.topology child.epoch.selection.loadedPlugins)
  some { child with
    sessions := sessions
    nextConnectionId := s.nextConnectionId
    nextGenerationId := s.nextGenerationId }

/-! #### Steps -/

def step (s : RuntimeServer) : ReloadStep → Option RuntimeServer
  | .admission generationId transport => do
    guard (s.reload.all (fun reload => !reload.frozen) = true)
    let phase ← s.admittedPhase generationId transport
    some { s with
      sessions := s.sessions ++
        [⟨s.nextConnectionId, s.epoch.revision, phase, none, phase.directoryEntry, false⟩]
      nextConnectionId := s.nextConnectionId + 1
      directoryRevision := s.directoryRevision + 1 }
  | .handle i event => do
    let session ← s.sessions[i]?
    guard (s.admits session = true)
    let phase ← s.handleEvent session.phase event
    some (s.setSession i { session with phase := phase, handling := true })
  | .publishDirectory i => do
    let session ← s.sessions[i]?
    guard (session.handling = true)
    some (s.publish i session)
  | .sessionEnds i => do
    let _ ← s.sessions[i]?
    guard (s.reload.all (fun reload => !reload.frozen) = true)
    some { s with
      sessions := s.sessions.eraseIdx i
      directoryRevision := s.directoryRevision + 1 }
  | .adapterFails adapterId => some (s.quarantine adapterId)
  | .stage mode loaded disk => do
    guard (s.reload.isNone = true)
    let config ← candidateConfig s.epoch.selection.config loaded mode
    let reload ← s.stageCutover mode loaded disk
    some { s with
      cells := (s.stagePlugins config disk mode).1
      nextGenerationId := match reload.preparedTopology with
        | .generation _ => s.nextGenerationId + 1
        | _ => s.nextGenerationId
      reload := some reload }
  | .prepareBegins => do
    let reload ← s.reload
    guard (reload.frozen = false)
    some { s with
      sessions := dropPending s.epoch.revision s.sessions
      reload := some { reload with prepared := some s.directoryRevision } }
  | .prepareSession i => do
    let reload ← s.reload
    guard (reload.frozen = false ∧ reload.prepared.isSome = true)
    let session ← s.sessions[i]?
    guard (s.admits session = true ∧ session.handling = false)
    let session ← s.prepareSessionCutover reload session
    some (s.setSession i session)
  | .freeze => do
    let reload ← s.reload
    guard (∀ session ∈ s.sessions, session.handling = false)
    some { s with reload := some { reload with frozen := true } }
  | .commit => do
    let reload ← s.reload
    guard (reload.frozen = true ∧ s.sealsCutover reload = true)
    some (s.commitCutover reload)
  | .abort => do
    let _ ← s.reload
    some { s with sessions := dropPending s.epoch.revision s.sessions, reload := none }
  | .activate i => do
    let session ← s.sessions[i]?
    let pending ← session.pending
    guard (pending.epochRevision = s.epoch.revision)
    some (s.publish i
      { session with epochRevision := s.epoch.revision, phase := pending.phase, pending := none })
  | .retire generationId =>
    some { s with draining := s.draining.filter (·.generationId ≠ generationId) }
  | .handOff disk => do
    guard (s.reload.isNone = true)
    s.handOff disk

end RuntimeServer
end RevyCraft.PluginHandles
