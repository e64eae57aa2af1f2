/-
  RevyCraft/PluginOwners.lean
  ===========================
  **What the plugin host manages is what serves.**

  The epoch agrees with the host when every handle that it resolves is the one
  that the host manages under the same name.  A reload keeps the two in
  agreement, since the candidate is resolved from the very handles that the
  host has after the commit, with one exception: a topology or full reload that
  finds the topology unchanged keeps the old registry and gives the host new
  handles all the same.
-/
import RevyCraft.PluginHandles

namespace RevyCraft.PluginHandles

/-! ### Looking handles up -/

variable {handle : PluginHandle} {loaded : LoadedPluginSet} {kind : PluginKind} {id : String}
  {generationId revision : Nat} {config : ServerConfig} {topology : ActiveGeneration}
  {managed : ManagedPlugins} {handles : HandleState} {s : RuntimeServer} {cells : Cells}
  {mode : RuntimeReloadMode} {disk : List Artifact} {reload : StagedCutover} {epoch : RuntimeEpoch}
  {phase phase' : SessionPhase} {binding : BoundSession} {entry : ManagedPlugin} {session : Session}
  {a : ReloadStep}

theorem Registry.resolveAdapter_id {registry : Registry} {adapterId : String}
    (h : registry.resolveAdapter adapterId = some handle) : handle.id = adapterId := by
  simpa using List.find?_some h

theorem LoadedPluginSet.resolve_id (h : loaded.resolve kind id = some handle) : handle.id = id := by
  obtain ⟨plugin, hfind, rfl⟩ := Option.map_eq_some_iff.mp h
  have hkey := List.find?_some hfind
  simp only [decide_eq_true_eq] at hkey
  exact hkey.2

theorem ManagedPlugins.loadedPluginSet_resolve (managed : ManagedPlugins) (kind : PluginKind)
    (id : String) : managed.loadedPluginSet.resolve kind id = managed.handle kind id := by
  simp [LoadedPluginSet.resolve, ManagedPlugins.loadedPluginSet, ManagedPlugins.handle,
    ManagedPlugins.find, List.find?_map, Function.comp_def]

theorem ManagedPlugins.registry_resolveAdapter (managed : ManagedPlugins) (adapterId : String) :
    managed.registry.resolveAdapter adapterId = managed.handle .protocol adapterId := by
  simp [Registry.resolveAdapter, ManagedPlugins.registry, ManagedPlugins.handle,
    ManagedPlugins.find, List.find?_map, List.find?_filter]

theorem Registry.resolveAdapter_filter {registry : Registry} {enabled : List String}
    {adapterId : String}
    (h : Registry.resolveAdapter (registry.filter (·.id ∈ enabled)) adapterId = some handle) :
    registry.resolveAdapter adapterId = some handle := by
  have hid := Registry.resolveAdapter_id h
  have henabled : handle.id ∈ enabled := by
    simpa using (List.mem_filter.mp (List.mem_of_find?_eq_some h)).2
  subst hid
  rw [Registry.resolveAdapter, List.find?_filter] at h
  rw [Registry.resolveAdapter, ← h]
  congr 1
  funext other
  by_cases hother : other.id = handle.id
  · simp [hother, henabled]
  · simp [hother]

/-! ### Agreement -/

/-- The handles that a topology names are in its registry. -/
structure ActiveGeneration.Resolved (topology : ActiveGeneration) : Prop where
  defaultAdapter : topology.protocolRegistry.resolveAdapter topology.defaultAdapter.id =
    some topology.defaultAdapter
  defaultBedrockAdapter : ∀ handle, topology.defaultBedrockAdapter = some handle →
    topology.protocolRegistry.resolveAdapter handle.id = some handle

/-- The profiles that an epoch names are those of its selection. -/
structure RuntimeEpoch.Resolved (epoch : RuntimeEpoch) : Prop where
  topology : epoch.topology.Resolved
  authProfile : epoch.selection.loadedPlugins.resolve .auth
    epoch.selection.config.profiles.auth = some epoch.selection.authProfile
  bedrockAuthProfile : ∀ handle, epoch.selection.bedrockAuthProfile = some handle →
    epoch.selection.loadedPlugins.resolve .auth
      epoch.selection.config.profiles.bedrockAuth = some handle
  storageProfile : epoch.selection.loadedPlugins.resolve .storage
    epoch.selection.config.storageProfile = some epoch.storageProfile

/-- **Agreement** — whatever the epoch resolves is what the host manages under that name. -/
structure RuntimeEpoch.Agrees (epoch : RuntimeEpoch) (managed : ManagedPlugins) : Prop where
  registry : ∀ adapterId handle,
    epoch.topology.protocolRegistry.resolveAdapter adapterId = some handle →
      managed.handle .protocol adapterId = some handle
  profiles : ∀ kind id,
    epoch.selection.loadedPlugins.resolve kind id = managed.handle kind id

/-- The topology that a session binds its adapter from. -/
def SessionPhase.generation : SessionPhase → Option ActiveGeneration
  | .handshaking generation => some generation
  | .status binding => some binding.generation
  | .login _ binding => some binding.generation
  | .play binding _ _ => some binding.generation
  | .closing _ _ _ => none

/-- Two topologies that route to the same handles. -/
structure ActiveGeneration.Routes (generation topology : ActiveGeneration) : Prop where
  registry : generation.protocolRegistry = topology.protocolRegistry
  defaultAdapter : generation.defaultAdapter = topology.defaultAdapter
  defaultBedrockAdapter : generation.defaultBedrockAdapter = topology.defaultBedrockAdapter

/-- A session is bound to what the epoch resolves. -/
structure SessionPhase.ServedBy (phase : SessionPhase) (epoch : RuntimeEpoch) : Prop where
  generation : ∀ generation, phase.generation = some generation → generation.Routes epoch.topology
  adapter : ∀ binding, phase.binding = some binding →
    epoch.topology.protocolRegistry.resolveAdapter binding.adapter.id = some binding.adapter
  gameplay : ∀ binding, phase.binding = some binding →
    epoch.selection.loadedPlugins.resolve .gameplay binding.gameplay.id = some binding.gameplay

theorem ActiveGeneration.Routes.refl (topology : ActiveGeneration) : topology.Routes topology :=
  ⟨rfl, rfl, rfl⟩

theorem activateProtocols_spec {registry : Registry}
    (h : activateProtocols generationId config registry = some topology) :
    topology.Resolved ∧ topology.generationId = generationId ∧
      topology.protocolRegistry = registry.filter (·.id ∈ enabledAdapterIds config) := by
  simp only [activateProtocols, Option.bind_eq_bind, Option.bind_eq_some_iff,
    Option.guard_eq_some'] at h
  obtain ⟨-, -, -, -, defaultAdapter, hdefault, h⟩ := h
  have hdefaultId := Registry.resolveAdapter_id hdefault
  split at h
  · simp only [Option.bind_eq_some_iff, Option.some.injEq] at h
    obtain ⟨-, -, bedrock, hbedrock, rfl⟩ := h
    have hbedrockId := Registry.resolveAdapter_id hbedrock
    refine ⟨⟨by rw [hdefaultId]; exact hdefault, ?_⟩, rfl, rfl⟩
    intro handle hhandle
    cases hhandle
    rw [hbedrockId]
    exact hbedrock
  · cases h
    refine ⟨⟨by rw [hdefaultId]; exact hdefault, ?_⟩, rfl, rfl⟩
    intro handle hhandle
    cases hhandle

theorem resolveSelection_spec {selection : ResolvedRuntimeSelection}
    (h : resolveSelection config loaded = some selection) :
    selection.config = config ∧ selection.loadedPlugins = loaded ∧
      loaded.resolve .auth config.profiles.auth = some selection.authProfile ∧
      ∀ handle, selection.bedrockAuthProfile = some handle →
        loaded.resolve .auth config.profiles.bedrockAuth = some handle := by
  simp only [resolveSelection, Option.bind_eq_bind, Option.bind_eq_some_iff] at h
  obtain ⟨authProfile, hauth, h⟩ := h
  split at h
  · simp only [Option.bind_eq_some_iff, Option.some.injEq] at h
    obtain ⟨bedrock, hbedrock, rfl⟩ := h
    refine ⟨rfl, rfl, hauth, ?_⟩
    intro handle hhandle
    cases hhandle
    exact hbedrock
  · cases h
    refine ⟨rfl, rfl, hauth, ?_⟩
    intro handle hhandle
    cases hhandle

/-! ### Candidates -/

/-- The host gets new handles. -/
def PreparedPlugins.isFresh : PreparedPlugins → Bool
  | .fresh _ _ => true
  | .artifacts _ => false

/-- What the host manages once the prepared plugins are committed, up to the times of loading. -/
def committedManaged (host : PluginHost) : Option PreparedPlugins → ManagedPlugins
  | none => host.managed
  | some (.fresh _ managed) => managed
  | some (.artifacts _) => host.managed

/-- A reload that gives the host new handles gives the epoch a new registry. -/
def StagedCutover.Replaces (reload : StagedCutover) : Prop :=
  reload.preparedPlugins.any (·.isFresh) = true → reload.preparedTopology ≠ .noop

instance (reload : StagedCutover) : Decidable reload.Replaces :=
  inferInstanceAs (Decidable (_ → _))

theorem ManagedPlugins.registry_agrees
    (h : activateProtocols generationId config managed.registry = some topology) :
    ∀ adapterId handle, topology.protocolRegistry.resolveAdapter adapterId = some handle →
      managed.handle .protocol adapterId = some handle := by
  intro adapterId handle hresolve
  rw [(activateProtocols_spec h).2.2] at hresolve
  rw [← ManagedPlugins.registry_resolveAdapter]
  exact Registry.resolveAdapter_filter hresolve

/-- Unless the reload keeps the active topology, its topology has the handles of the candidate. -/
theorem prepareGenerationReload_spec {nextGenerationId : Nat} {active : ActiveGeneration}
    {candidate : ProtocolTopologyCandidate} {prepared : PreparedTopologyReload}
    (h : prepareGenerationReload handles nextGenerationId active config candidate = some prepared)
    (hactive : active.Resolved) : (prepared.candidateGeneration active).Resolved ∧
      (prepared ≠ .noop → ∀ adapterId handle,
        (prepared.candidateGeneration active).protocolRegistry.resolveAdapter adapterId =
            some handle →
          candidate.managed.handle .protocol adapterId = some handle) := by
  simp only [prepareGenerationReload, Option.bind_eq_bind, Option.bind_eq_some_iff] at h
  obtain ⟨activated, hactivated, h⟩ := h
  have hresolved := (activateProtocols_spec hactivated).1
  have hagrees := ManagedPlugins.registry_agrees hactivated
  split at h
  · split at h
    · cases h
      exact ⟨hresolved, fun _ => hagrees⟩
    · cases h
      exact ⟨hactive, fun hne => absurd rfl hne⟩
  · cases h
    exact ⟨⟨hresolved.defaultAdapter, hresolved.defaultBedrockAdapter⟩, fun _ => hagrees⟩

namespace RuntimeServer

theorem candidatePlugins_managed (s : RuntimeServer) (prepared : Option PreparedPlugins) :
    (s.candidatePlugins prepared).1.managed = committedManaged s.host prepared := by
  rcases prepared with - | ⟨config, managed⟩ | updates <;> rfl

theorem candidatePlugins_profiles (hs : s.epoch.Agrees s.host.managed)
    (prepared : Option PreparedPlugins) (kind : PluginKind) (id : String) :
    (s.candidatePlugins prepared).2.resolve kind id =
      (committedManaged s.host prepared).handle kind id := by
  rcases prepared with - | ⟨config, managed⟩ | updates
  · exact hs.profiles kind id
  · exact ManagedPlugins.loadedPluginSet_resolve managed kind id
  · exact ManagedPlugins.loadedPluginSet_resolve s.host.managed kind id

theorem prepareTopology_spec {prepared : PreparedTopologyReload} (hepoch : s.epoch.Resolved)
    (hs : s.epoch.Agrees s.host.managed)
    (h : s.prepareTopology cells mode config
      (s.candidatePlugins (s.stagePlugins config disk mode).2).1 = some prepared) :
    (prepared.candidateGeneration s.epoch.topology).Resolved ∧
      ((prepared ≠ .noop ∨ ∀ config' managed,
          (s.stagePlugins config disk mode).2 ≠ some (.fresh config' managed)) →
        ∀ adapterId handle,
          (prepared.candidateGeneration s.epoch.topology).protocolRegistry.resolveAdapter
              adapterId = some handle →
            (committedManaged s.host (s.stagePlugins config disk mode).2).handle .protocol
              adapterId = some handle) := by
  have htopology := hepoch.topology
  unfold prepareTopology at h
  split at h
  · rename_i hmode
    subst hmode
    cases h
    exact ⟨⟨htopology.defaultAdapter, htopology.defaultBedrockAdapter⟩, fun _ => hs.registry⟩
  · obtain ⟨hresolved, hagrees⟩ := prepareGenerationReload_spec h htopology
    rw [candidatePlugins_managed] at hagrees
    refine ⟨hresolved, fun hreplaces => ?_⟩
    by_cases hnoop : prepared = .noop
    · subst hnoop
      have hnone := hreplaces.resolve_left (fun hne => hne rfl)
      -- The old registry stays, and so do the handles of the host.
      have hmanaged : committedManaged s.host (s.stagePlugins config disk mode).2 =
          s.host.managed := by
        cases hstaged : (s.stagePlugins config disk mode).2 with
        | none => rfl
        | some plugins =>
          cases plugins with
          | fresh config' managed => exact absurd hstaged (hnone config' managed)
          | artifacts updates => rfl
      rw [hmanaged]
      exact hs.registry
    · exact hagrees hnoop

theorem stageCutover_spec {loaded : ServerConfig} (hepoch : s.epoch.Resolved)
    (hs : s.epoch.Agrees s.host.managed) (h : s.stageCutover mode loaded disk = some reload) :
    reload.candidate.revision = s.epoch.revision + 1 ∧ reload.candidate.Resolved ∧
      (reload.Replaces → reload.candidate.Agrees (committedManaged s.host reload.preparedPlugins)) := by
  simp only [stageCutover, Option.bind_eq_bind, Option.bind_eq_some_iff, Option.guard_eq_some',
    Option.some.injEq] at h
  obtain ⟨-, -, config, -, -, -, selection, hselection, prepared, hprepared, storage, hstorage,
    rfl⟩ := h
  obtain ⟨hconfig, hloaded, hauth, hbedrock⟩ := resolveSelection_spec hselection
  obtain ⟨htopology, hagrees⟩ := prepareTopology_spec hepoch hs hprepared
  refine ⟨rfl, ⟨htopology, ?_, ?_, ?_⟩, ?_⟩
  · simp only [hloaded, hconfig]
    exact hauth
  · simp only [hloaded, hconfig]
    exact hbedrock
  · simp only [hloaded, hconfig]
    exact hstorage
  · intro hreplaces
    refine ⟨hagrees ?_, ?_⟩
    · by_cases hnoop : prepared = .noop
      · refine Or.inr fun config' managed hfresh => hreplaces ?_ hnoop
        simp only [hfresh, Option.any_some, PreparedPlugins.isFresh]
      · exact Or.inl hnoop
    · intro kind id
      simp only [hloaded]
      exact candidatePlugins_profiles hs _ kind id

end RuntimeServer

/-! ### Sessions -/

theorem SessionPhase.servedBy_new {generation : ActiveGeneration} {transport : TransportKind}
    {adapter gameplay : PluginHandle} {entityId : Option Nat} {adapterId profile : String}
    (hbinding : phase.binding =
      some (.new handles generation transport adapter gameplay entityId))
    (hgeneration : phase.generation = some generation) (hroutes : generation.Routes epoch.topology)
    (hadapter : epoch.topology.protocolRegistry.resolveAdapter adapterId = some adapter)
    (hgameplay : epoch.selection.loadedPlugins.resolve .gameplay profile = some gameplay) :
    phase.ServedBy epoch := by
  have hadapterId := Registry.resolveAdapter_id hadapter
  have hgameplayId := LoadedPluginSet.resolve_id hgameplay
  subst hadapterId hgameplayId
  constructor
  · intro other hother
    rw [hgeneration] at hother
    cases hother
    exact hroutes
  · intro binding hother
    rw [hbinding] at hother
    cases hother
    exact hadapter
  · intro binding hother
    rw [hbinding] at hother
    cases hother
    exact hgameplay

theorem SessionPhase.servedBy_unbound (hbinding : phase.binding = none)
    (hroutes : ∀ generation, phase.generation = some generation →
      generation.Routes epoch.topology) : phase.ServedBy epoch := by
  refine ⟨hroutes, ?_, ?_⟩
  · intro binding hother
    rw [hbinding] at hother
    cases hother
  · intro binding hother
    rw [hbinding] at hother
    cases hother

theorem SessionPhase.ServedBy.of_same {binding' : BoundSession} (h : phase.ServedBy epoch)
    (hbinding : phase.binding = some binding) (hbinding' : phase'.binding = some binding')
    (hadapter : binding'.adapter = binding.adapter)
    (hgameplay : binding'.gameplay = binding.gameplay)
    (hgeneration : phase'.generation = phase.generation) : phase'.ServedBy epoch := by
  constructor
  · intro generation hother
    rw [hgeneration] at hother
    exact h.generation generation hother
  · intro other hother
    rw [hbinding'] at hother
    cases hother
    rw [hadapter]
    exact h.adapter binding hbinding
  · intro other hother
    rw [hbinding'] at hother
    cases hother
    rw [hgameplay]
    exact h.gameplay binding hbinding

theorem routedAdapter_spec {generation : ActiveGeneration} {adapterId : Option String}
    {adapter : PluginHandle} (hepoch : epoch.topology.Resolved)
    (hroutes : generation.Routes epoch.topology)
    (h : RuntimeServer.routedAdapter generation adapterId = some adapter) :
    ∃ id, epoch.topology.protocolRegistry.resolveAdapter id = some adapter := by
  cases adapterId with
  | some adapterId =>
    refine ⟨adapterId, ?_⟩
    rw [← hroutes.registry]
    exact h
  | none =>
    cases h
    refine ⟨generation.defaultAdapter.id, ?_⟩
    rw [hroutes.defaultAdapter]
    exact hepoch.defaultAdapter

namespace RuntimeServer

theorem bind_spec {generation : ActiveGeneration} {transport : TransportKind}
    {adapter : PluginHandle} (h : s.bind generation transport adapter = some binding) :
    ∃ gameplay, s.resolveGameplayForAdapter adapter = some gameplay ∧
      binding = .new s.handles generation transport adapter gameplay none := by
  obtain ⟨gameplay, hgameplay, rfl⟩ := Option.map_eq_some_iff.mp h
  exact ⟨gameplay, hgameplay, rfl⟩

theorem handleEvent_servedBy {event : SessionEvent} (hepoch : s.epoch.topology.Resolved)
    (hs : phase.ServedBy s.epoch) (h : s.handleEvent phase event = some phase') :
    phase'.ServedBy s.epoch := by
  unfold handleEvent at h
  split at h
  · -- A handshake.
    rename_i generation adapterId login
    simp only [Option.bind_eq_bind, Option.bind_eq_some_iff, Option.some.injEq] at h
    obtain ⟨adapter, hadapter, binding, hbind, rfl⟩ := h
    obtain ⟨gameplay, hgameplay, rfl⟩ := bind_spec hbind
    have hroutes := hs.generation generation rfl
    obtain ⟨id, hid⟩ := routedAdapter_spec hepoch hroutes hadapter
    cases login <;> exact SessionPhase.servedBy_new rfl rfl hroutes hid hgameplay
  · -- A Bedrock client that asks for its adapter.
    rename_i current adapterId
    simp only [Option.bind_eq_bind, Option.bind_eq_some_iff, Option.some.injEq] at h
    obtain ⟨adapter, hadapter, binding, hbind, rfl⟩ := h
    obtain ⟨gameplay, hgameplay, rfl⟩ := bind_spec hbind
    have hroutes := hs.generation current.generation rfl
    rw [hroutes.registry] at hadapter
    exact SessionPhase.servedBy_new rfl rfl hroutes hadapter hgameplay
  · cases h
    exact hs.of_same rfl rfl rfl rfl rfl
  · cases h
    exact hs.of_same rfl rfl rfl rfl rfl
  · cases h
    exact hs.of_same rfl rfl rfl rfl rfl
  · cases h
    exact SessionPhase.servedBy_unbound rfl fun generation hother => by cases hother
  · cases h
    exact SessionPhase.servedBy_unbound rfl fun generation hother => by cases hother
  · cases h
    exact SessionPhase.servedBy_unbound rfl fun generation hother => by cases hother
  · cases h
    exact SessionPhase.servedBy_unbound rfl fun generation hother => by cases hother
  · cases h
    exact hs
  · cases h

theorem admittedPhase_servedBy {transport : TransportKind} (hepoch : s.epoch.topology.Resolved)
    (hid : generationId = s.epoch.topology.generationId)
    (h : s.admittedPhase generationId transport = some phase) : phase.ServedBy s.epoch := by
  have hadmission : s.generationAdmission generationId = some s.epoch.topology :=
    if_pos hid.symm
  simp only [admittedPhase, hadmission, Option.bind_eq_bind, Option.bind_some] at h
  cases transport with
  | tcp =>
    cases h
    refine SessionPhase.servedBy_unbound rfl fun generation hother => ?_
    cases hother
    exact .refl _
  | udp =>
    simp only [Option.bind_eq_some_iff, Option.some.injEq] at h
    obtain ⟨adapter, hadapter, binding, hbind, rfl⟩ := h
    obtain ⟨gameplay, hgameplay, rfl⟩ := bind_spec hbind
    exact SessionPhase.servedBy_new rfl rfl (.refl _)
      (hepoch.defaultBedrockAdapter adapter hadapter) hgameplay

theorem candidateBinding_spec {candidate : RuntimeEpoch} {entityId : Option Nat}
    {candidateBound : BoundSession}
    (h : candidateBinding handles candidate binding entityId = some candidateBound) :
    ∃ adapter gameplay,
      candidate.topology.protocolRegistry.resolveAdapter binding.adapter.id = some adapter ∧
      candidate.selection.loadedPlugins.resolve .gameplay
        (candidate.selection.config.gameplayProfileForAdapter binding.adapter.id) =
          some gameplay ∧
      candidateBound =
        .new handles candidate.topology binding.transport adapter gameplay entityId := by
  simp only [candidateBinding, Option.bind_eq_bind, Option.bind_eq_some_iff,
    Option.some.injEq] at h
  obtain ⟨adapter, hadapter, gameplay, hgameplay, rfl⟩ := h
  exact ⟨adapter, gameplay, hadapter, hgameplay, rfl⟩

/-- A phase that is built for a candidate is unbound, or bound anew to what it resolves. -/
theorem buildCandidateSessionPhase_cases {candidate : RuntimeEpoch}
    (h : buildCandidateSessionPhase handles candidate phase = some phase') :
    (phase'.binding = none ∧ ∀ generation, phase'.generation = some generation →
      generation = candidate.topology) ∨
    ∃ binding entityId candidateBound, phase.binding = some binding ∧
      candidateBinding handles candidate binding entityId = some candidateBound ∧
      phase'.binding = some candidateBound ∧ phase'.generation = some candidateBound.generation := by
  unfold buildCandidateSessionPhase at h
  split at h
  · cases h
    exact Or.inl ⟨rfl, fun generation hother => by cases hother; rfl⟩
  · obtain ⟨bound, hbound, rfl⟩ := Option.map_eq_some_iff.mp h
    exact Or.inr ⟨_, _, bound, rfl, hbound, rfl, rfl⟩
  · obtain ⟨bound, hbound, rfl⟩ := Option.map_eq_some_iff.mp h
    exact Or.inr ⟨_, _, bound, rfl, hbound, rfl, rfl⟩
  · obtain ⟨bound, hbound, rfl⟩ := Option.map_eq_some_iff.mp h
    exact Or.inr ⟨_, _, bound, rfl, hbound, rfl, rfl⟩
  · obtain ⟨bound, hbound, rfl⟩ := Option.map_eq_some_iff.mp h
    exact Or.inr ⟨_, _, bound, rfl, hbound, rfl, rfl⟩
  · cases h
    exact Or.inl ⟨rfl, fun generation hother => by cases hother⟩

theorem buildCandidateSessionPhase_servedBy {candidate : RuntimeEpoch}
    (h : buildCandidateSessionPhase handles candidate phase = some phase') :
    phase'.ServedBy candidate := by
  rcases buildCandidateSessionPhase_cases h with ⟨hnone, hgeneration⟩ |
    ⟨binding, entityId, bound, -, hbound, hbinding, hgeneration⟩
  · refine SessionPhase.servedBy_unbound hnone fun generation hother => ?_
    rw [hgeneration generation hother]
    exact .refl _
  · obtain ⟨adapter, gameplay, hadapter, hgameplay, rfl⟩ := candidateBinding_spec hbound
    exact SessionPhase.servedBy_new hbinding hgeneration (.refl _) hadapter hgameplay

end RuntimeServer

/-! ### Commits -/

theorem PluginHost.applyUpdate_handle (cells : Cells) (managed : ManagedPlugins)
    (update : ArtifactUpdate) (kind : PluginKind) (id : String) :
    (applyUpdate cells managed update).2.handle kind id = managed.handle kind id := by
  unfold applyUpdate
  split
  · rfl
  · rename_i entry hentry
    have hkept : ∀ other : ManagedPlugin,
        (if other = entry then
          { entry with loadedAt := update.loadedAt, activeLoadedAt := update.loadedAt }
        else other).kind = other.kind ∧
        (if other = entry then
          { entry with loadedAt := update.loadedAt, activeLoadedAt := update.loadedAt }
        else other).handle = other.handle := by
      intro other
      split
      · rename_i heq
        rw [heq]
        exact ⟨rfl, rfl⟩
      · exact ⟨rfl, rfl⟩
    simp only [ManagedPlugins.handle, ManagedPlugins.find, List.find?_map, Option.map_map]
    simp only [Function.comp_def, (hkept _).1, (hkept _).2]

theorem PluginHost.applyUpdates_mem (cells : Cells) (updates : List ArtifactUpdate)
    (h : entry ∈ (managed : List ManagedPlugin)) :
    ∃ entry' ∈ ((applyUpdates cells managed updates).2 : List ManagedPlugin),
      entry'.pluginId = entry.pluginId ∧ entry'.kind = entry.kind ∧
        entry'.handle = entry.handle := by
  induction updates generalizing cells managed entry with
  | nil => exact ⟨entry, h, rfl, rfl, rfl⟩
  | cons update rest ih =>
    have hfirst : ∃ entry' ∈ ((applyUpdate cells managed update).2 : List ManagedPlugin),
        entry'.pluginId = entry.pluginId ∧ entry'.kind = entry.kind ∧
          entry'.handle = entry.handle := by
      unfold applyUpdate
      split
      · exact ⟨entry, h, rfl, rfl, rfl⟩
      · rename_i found hfound
        refine ⟨_, List.mem_map_of_mem h, ?_⟩
        split
        · rename_i heq
          rw [heq]
          exact ⟨rfl, rfl, rfl⟩
        · exact ⟨rfl, rfl, rfl⟩
    obtain ⟨first, hmem, hid, hkind, hhandle⟩ := hfirst
    obtain ⟨last, hlast, hid', hkind', hhandle'⟩ :=
      ih (applyUpdate cells managed update).1 hmem
    exact ⟨last, hlast, hid'.trans hid, hkind'.trans hkind, hhandle'.trans hhandle⟩

theorem PluginHost.applyUpdates_handle (cells : Cells) (managed : ManagedPlugins)
    (updates : List ArtifactUpdate) (kind : PluginKind) (id : String) :
    (applyUpdates cells managed updates).2.handle kind id = managed.handle kind id := by
  induction updates generalizing cells managed with
  | nil => rfl
  | cons update rest ih =>
    have hrest := ih (applyUpdate cells managed update).1 (applyUpdate cells managed update).2
    rw [applyUpdate_handle] at hrest
    exact hrest

namespace RuntimeServer

theorem commitCutover_handle (s : RuntimeServer) (reload : StagedCutover) (kind : PluginKind)
    (id : String) :
    (s.commitCutover reload).host.managed.handle kind id =
      (committedManaged s.host reload.preparedPlugins).handle kind id := by
  unfold commitCutover
  cases hprepared : reload.preparedPlugins with
  | none => rfl
  | some prepared =>
    cases prepared with
    | fresh config managed => rfl
    | artifacts updates => exact PluginHost.applyUpdates_handle _ _ _ kind id

theorem RuntimeEpoch.Agrees.of_handle {managed' : ManagedPlugins} (h : epoch.Agrees managed)
    (hsame : ∀ kind id, managed'.handle kind id = managed.handle kind id) :
    epoch.Agrees managed' := by
  constructor
  · intro adapterId handle hresolve
    rw [hsame]
    exact h.registry adapterId handle hresolve
  · intro kind id
    rw [hsame]
    exact h.profiles kind id

end RuntimeServer

/-! ### The invariant -/

/-- A session, the published epoch and the candidate of a running reload. -/
structure Session.Agrees (session : Session) (epoch : RuntimeEpoch)
    (candidate : Option RuntimeEpoch) : Prop where
  known : session.epochRevision ≤ epoch.revision
  served : session.epochRevision = epoch.revision → session.phase.ServedBy epoch
  pending : ∀ pending, session.pending = some pending →
    (pending.epochRevision = epoch.revision ∧ pending.phase.ServedBy epoch) ∨
    ∃ next, candidate = some next ∧ pending.epochRevision = next.revision ∧
      pending.phase.ServedBy next

namespace RuntimeServer

structure Agreed (s : RuntimeServer) : Prop where
  epoch : s.epoch.Resolved
  managed : s.epoch.Agrees s.host.managed
  sessions : ∀ session ∈ s.sessions, session.Agrees s.epoch (s.reload.map (·.candidate))
  reload : ∀ reload, s.reload = some reload →
    reload.candidate.revision = s.epoch.revision + 1 ∧ reload.candidate.Resolved ∧
      (reload.Replaces → reload.candidate.Agrees (committedManaged s.host reload.preparedPlugins))

/-- The reloads replace the registry with the handles, and no connection is admitted under a
    draining generation. -/
def Replacing (s : RuntimeServer) : ReloadStep → Prop
  | .commit => ∀ reload ∈ s.reload, reload.Replaces
  | .admission generationId _ => generationId = s.epoch.topology.generationId
  | _ => True

instance (s : RuntimeServer) : ∀ a, Decidable (s.Replacing a)
  | .commit => inferInstanceAs (Decidable (∀ reload ∈ s.reload, reload.Replaces))
  | .admission generationId _ =>
    inferInstanceAs (Decidable (generationId = s.epoch.topology.generationId))
  | .handle _ _ | .publishDirectory _ | .sessionEnds _ | .adapterFails _ | .stage _ _ _
  | .prepareBegins | .prepareSession _ | .freeze | .abort | .activate _ | .retire _
  | .handOff _ => .isTrue trivial

theorem admits_spec (h : s.admits session = true) : session.epochRevision = s.epoch.revision := by
  unfold admits at h
  simp only [Bool.and_eq_true, decide_eq_true_eq] at h
  exact h.2

theorem sealsCutover_spec (h : s.sealsCutover reload = true) :
    ∀ session ∈ s.sessions, ∀ pending, session.pending = some pending →
      pending.epochRevision = reload.candidate.revision := by
  simp only [sealsCutover, Bool.and_eq_true, List.all_eq_true] at h
  intro session hsession pending hpending
  have hany := h.2 session hsession
  rw [hpending] at hany
  simpa using hany

theorem prepareSessionCutover_spec {prepared : Session}
    (h : s.prepareSessionCutover reload session = some prepared) :
    ∃ phase, buildCandidateSessionPhase s.handles reload.candidate session.phase = some phase ∧
      prepared =
        { session with
          pending := some
            { epochRevision := reload.candidate.revision
              phase := phase
              resync := decide (reload.mode = .core) || decide (reload.mode = .full) ||
                session.phase.bindingChanged phase } } := by
  simp only [prepareSessionCutover, Option.bind_eq_bind, Option.bind_eq_some_iff,
    Option.some.injEq] at h
  obtain ⟨phase, hphase, rfl⟩ := h
  exact ⟨phase, hphase, rfl⟩

theorem mem_setSession {i : Nat} {other : Session} (h : other ∈ (s.setSession i session).sessions) :
    other = session ∨ other ∈ s.sessions :=
  (List.mem_or_eq_of_mem_set h).symm

theorem mem_publish {i : Nat} {other : Session} (h : other ∈ (s.publish i session).sessions) :
    other = { session with directory := session.phase.directoryEntry, handling := false } ∨
      other ∈ s.sessions :=
  (List.mem_or_eq_of_mem_set h).symm

theorem mem_dropPending {sessions : List Session} {other : Session}
    (h : other ∈ dropPending revision sessions) : ∃ session ∈ sessions,
      other = { session with pending := session.pending.filter (·.epochRevision = revision) } := by
  obtain ⟨session, hmem, rfl⟩ := List.mem_map.mp h
  exact ⟨session, hmem, rfl⟩

namespace Agreed

variable {s s' : RuntimeServer}

theorem of_sessions (hs : s.Agreed) (hepoch : s'.epoch = s.epoch) (hhost : s'.host = s.host)
    (hreload : s'.reload = s.reload)
    (hsessions : ∀ session ∈ s'.sessions,
      session ∈ s.sessions ∨ session.Agrees s.epoch (s.reload.map (·.candidate))) :
    s'.Agreed := by
  constructor
  · rw [hepoch]
    exact hs.epoch
  · rw [hepoch, hhost]
    exact hs.managed
  · intro session hsession
    rw [hepoch, hreload]
    rcases hsessions session hsession with hmem | hagrees
    · exact hs.sessions session hmem
    · exact hagrees
  · intro reload hmem
    rw [hreload] at hmem
    rw [hepoch, hhost]
    exact hs.reload reload hmem

/-- A session that drops what it prepared for an epoch that is not the published one. -/
theorem dropped {candidate candidate' : Option RuntimeEpoch} (h : session.Agrees epoch candidate)
    (hcandidate : ∀ next, candidate = some next → next.revision = epoch.revision + 1) :
    Session.Agrees
      { session with
        pending := session.pending.filter fun pending => pending.epochRevision = epoch.revision }
      epoch candidate' := by
  refine ⟨h.known, h.served, ?_⟩
  intro pending hpending
  obtain ⟨hpending, hrevision⟩ := Option.filter_eq_some_iff.mp hpending
  rcases h.pending pending hpending with hnow | ⟨next, hnext, hother, -⟩
  · exact Or.inl hnow
  · have hne := hcandidate next hnext
    simp only [decide_eq_true_eq] at hrevision
    omega

theorem candidate_revision (hs : s.Agreed) :
    ∀ next, s.reload.map (·.candidate) = some next → next.revision = s.epoch.revision + 1 := by
  intro next hnext
  obtain ⟨reload, hreload, rfl⟩ := Option.map_eq_some_iff.mp hnext
  exact (hs.reload reload hreload).1

theorem boot (h : boot config disk revision generationId = some s) :
    s.Agreed ∧ s.sessions = [] ∧ s.reload = none ∧ s.epoch.revision = revision := by
  simp only [RuntimeServer.boot, Option.bind_eq_bind, Option.bind_eq_some_iff,
    Option.guard_eq_some', Option.some.injEq] at h
  obtain ⟨-, -, topology, htopology, selection, hselection, storage, hstorage, rfl⟩ := h
  obtain ⟨hconfig, hloaded, hauth, hbedrock⟩ := resolveSelection_spec hselection
  refine ⟨⟨⟨(activateProtocols_spec htopology).1, ?_, ?_, ?_⟩, ⟨?_, ?_⟩, ?_, ?_⟩, rfl, rfl, rfl⟩
  · simp only [hloaded, hconfig]
    exact hauth
  · simp only [hloaded, hconfig]
    exact hbedrock
  · simp only [hloaded, hconfig]
    exact hstorage
  · exact ManagedPlugins.registry_agrees htopology
  · intro kind id
    simp only [hloaded]
    exact ManagedPlugins.loadedPluginSet_resolve _ kind id
  · intro session hsession
    cases hsession
  · intro reload hreload
    cases hreload

end Agreed

end RuntimeServer

/-! ### Steps -/

namespace RuntimeServer

theorem prepareExecutableBinding_spec {snapshot : ExecutableSessionBinding} {entityId : Option Nat}
    (h : prepareExecutableBinding handles topology loaded generationId snapshot entityId =
      some binding) : ∃ adapter gameplay,
      topology.protocolRegistry.resolveAdapter snapshot.adapterId = some adapter ∧
      loaded.resolve .gameplay snapshot.gameplayProfile = some gameplay ∧
      binding = .new handles { topology with generationId := generationId } snapshot.transport
        adapter gameplay entityId := by
  simp only [prepareExecutableBinding, Option.bind_eq_bind, Option.bind_eq_some_iff,
    Option.guard_eq_some', Option.some.injEq] at h
  obtain ⟨adapter, hadapter, -, -, gameplay, hgameplay, -, -, rfl⟩ := h
  exact ⟨adapter, gameplay, hadapter, hgameplay, rfl⟩

/-- A phase that a child prepares is unbound, or bound anew to the handles of the child. -/
theorem prepareExecutablePhase_cases {parent child : HandleState}
    (h : prepareExecutablePhase parent child topology loaded phase = some phase') :
    (phase'.binding = none ∧ ∀ generation, phase'.generation = some generation →
      ∃ generationId, generation = { topology with generationId := generationId }) ∨
    ∃ generationId snapshot entityId bound,
      prepareExecutableBinding child topology loaded generationId snapshot entityId = some bound ∧
      phase'.binding = some bound ∧ phase'.generation = some bound.generation := by
  unfold prepareExecutablePhase at h
  split at h
  · cases h
    exact Or.inl ⟨rfl, fun generation hother => by cases hother; exact ⟨_, rfl⟩⟩
  · obtain ⟨bound, hbound, rfl⟩ := Option.map_eq_some_iff.mp h
    exact Or.inr ⟨_, _, _, bound, hbound, rfl, rfl⟩
  · obtain ⟨bound, hbound, rfl⟩ := Option.map_eq_some_iff.mp h
    exact Or.inr ⟨_, _, _, bound, hbound, rfl, rfl⟩
  · obtain ⟨bound, hbound, rfl⟩ := Option.map_eq_some_iff.mp h
    exact Or.inr ⟨_, _, _, bound, hbound, rfl, rfl⟩
  · obtain ⟨bound, hbound, rfl⟩ := Option.map_eq_some_iff.mp h
    exact Or.inr ⟨_, _, _, bound, hbound, rfl, rfl⟩
  · cases h
    exact Or.inl ⟨rfl, fun generation hother => by cases hother⟩

theorem prepareExecutablePhase_servedBy {parent child : HandleState}
    (h : prepareExecutablePhase parent child epoch.topology epoch.selection.loadedPlugins phase =
      some phase') : phase'.ServedBy epoch := by
  rcases prepareExecutablePhase_cases h with ⟨hnone, hgeneration⟩ |
    ⟨generationId, snapshot, entityId, bound, hbound, hbinding, hgeneration⟩
  · refine SessionPhase.servedBy_unbound hnone fun generation hother => ?_
    obtain ⟨generationId, rfl⟩ := hgeneration generation hother
    exact ⟨rfl, rfl, rfl⟩
  · obtain ⟨adapter, gameplay, hadapter, hgameplay, rfl⟩ := prepareExecutableBinding_spec hbound
    exact SessionPhase.servedBy_new hbinding hgeneration ⟨rfl, rfl, rfl⟩ hadapter hgameplay

theorem importSession_spec {imported : Session}
    (h : s.importSession handles topology loaded session = some imported) :
    ∃ phase, prepareExecutablePhase s.handles handles topology loaded session.phase = some phase ∧
      imported =
        { session with
          phase := phase
          pending := some ⟨s.epoch.revision + 1, phase, false⟩
          directory := phase.directoryEntry } := by
  simp only [importSession, Option.bind_eq_bind, Option.bind_eq_some_iff, Option.guard_eq_some',
    Option.some.injEq] at h
  obtain ⟨-, -, phase, hphase, rfl⟩ := h
  exact ⟨phase, hphase, rfl⟩

theorem exists_of_mem_mapM {A B : Type} {f : A → Option B} {as : List A} {bs : List B}
    (h : as.mapM f = some bs) {b : B} (hb : b ∈ bs) : ∃ a ∈ as, f a = some b := by
  induction as generalizing bs with
  | nil =>
    cases h
    cases hb
  | cons a as ih =>
    simp only [List.mapM_cons, Option.bind_eq_bind, Option.bind_eq_some_iff, Option.pure_def,
      Option.some.injEq] at h
    obtain ⟨first, hfirst, rest, hrest, rfl⟩ := h
    rcases List.mem_cons.mp hb with rfl | hb
    · exact ⟨a, List.mem_cons_self, hfirst⟩
    · obtain ⟨other, hmem, hother⟩ := ih hrest hb
      exact ⟨other, List.mem_cons_of_mem _ hmem, hother⟩

theorem handOff_spec {s' : RuntimeServer} (h : s.handOff disk = some s') :
    ∃ child, boot s.epoch.selection.config disk (s.epoch.revision + 1)
        s.epoch.topology.generationId = some child ∧
      s'.epoch = child.epoch ∧ s'.host = child.host ∧ s'.handles = child.handles ∧
      s'.draining = child.draining ∧ s'.reload = child.reload ∧
      ∀ imported ∈ s'.sessions, ∃ session ∈ s.sessions,
        session.epochRevision = s.epoch.revision ∧ session.handling = false ∧
        s.importSession child.handles child.epoch.topology child.epoch.selection.loadedPlugins
          session = some imported := by
  simp only [handOff, Option.bind_eq_bind, Option.bind_eq_some_iff, Option.guard_eq_some',
    Option.some.injEq] at h
  obtain ⟨-, hidle, child, hchild, -, -, sessions, hsessions, rfl⟩ := h
  refine ⟨child, hchild, rfl, rfl, rfl, rfl, rfl, ?_⟩
  intro imported himported
  obtain ⟨session, hsession, himport⟩ := exists_of_mem_mapM hsessions himported
  exact ⟨session, hsession, (hidle session hsession).2, (hidle session hsession).1, himport⟩

namespace Agreed

variable {s s' : RuntimeServer}

theorem handOff (h : s.handOff disk = some s') : s'.Agreed := by
  obtain ⟨child, hchild, hepoch, hhost, -, -, hreload, hsessions⟩ := handOff_spec h
  obtain ⟨hbooted, -, hidle, hrevision⟩ := Agreed.boot hchild
  refine ⟨?_, ?_, ?_, ?_⟩
  · rw [hepoch]
    exact hbooted.epoch
  · rw [hepoch, hhost]
    exact hbooted.managed
  · intro imported himported
    obtain ⟨session, -, hactivated, -, himport⟩ := hsessions imported himported
    obtain ⟨phase, hphase, rfl⟩ := importSession_spec himport
    rw [hepoch]
    refine ⟨?_, ?_, ?_⟩
    · simp only [hrevision, hactivated]
      omega
    · intro hother
      simp only [hrevision, hactivated] at hother
      omega
    · intro pending hpending
      cases hpending
      exact Or.inl ⟨hrevision.symm, prepareExecutablePhase_servedBy hphase⟩
  · intro reload hmem
    rw [hreload, hidle] at hmem
    cases hmem

theorem commitCutover (hs : s.Agreed) (hreload : s.reload = some reload)
    (hprepared : s.sealsCutover reload = true) (hreplaces : reload.Replaces) :
    (s.commitCutover reload).Agreed := by
  obtain ⟨hrevision, hresolved, hagrees⟩ := hs.reload reload hreload
  refine ⟨hresolved, ?_, ?_, ?_⟩
  · exact RuntimeEpoch.Agrees.of_handle (hagrees hreplaces) (s.commitCutover_handle reload)
  · intro session hsession
    have hsession' := hs.sessions session hsession
    have hknown := hsession'.known
    have hepoch : (s.commitCutover reload).epoch.revision = s.epoch.revision + 1 := hrevision
    refine ⟨by omega, fun hother => by omega, ?_⟩
    intro pending hpending
    have hnext := sealsCutover_spec hprepared session hsession pending hpending
    rcases hsession'.pending pending hpending with ⟨hnow, -⟩ | ⟨next, hcandidate, -, hserved⟩
    · omega
    · rw [hreload] at hcandidate
      cases hcandidate
      exact Or.inl ⟨hnext, hserved⟩
  · intro other hother
    cases hother

/-- **The step.** -/
theorem step (hs : s.Agreed) (hreplacing : s.Replacing a) (h : s.step a = some s') : s'.Agreed := by
  cases a <;> simp only [RuntimeServer.step, Option.bind_eq_bind, Option.bind_eq_some_iff,
    Option.guard_eq_some', Option.some.injEq] at h
  case admission generationId transport =>
    obtain ⟨-, -, phase, hphase, rfl⟩ := h
    refine hs.of_sessions rfl rfl rfl fun session hsession => ?_
    rcases List.mem_append.mp hsession with hold | hnew
    · exact Or.inl hold
    · cases List.mem_singleton.mp hnew
      refine Or.inr ⟨le_rfl, fun _ => ?_, fun pending hpending => by cases hpending⟩
      exact admittedPhase_servedBy hs.epoch.topology hreplacing hphase
  case handle i event =>
    obtain ⟨session, hsession, -, hadmits, phase, hphase, rfl⟩ := h
    have hold := hs.sessions session (List.mem_of_getElem? hsession)
    refine hs.of_sessions rfl rfl rfl fun other hother => ?_
    rcases mem_setSession hother with rfl | hmem
    · refine Or.inr ⟨hold.known, fun hactivated => ?_, hold.pending⟩
      exact handleEvent_servedBy hs.epoch.topology (hold.served hactivated) hphase
    · exact Or.inl hmem
  case publishDirectory i =>
    obtain ⟨session, hsession, -, -, rfl⟩ := h
    have hold := hs.sessions session (List.mem_of_getElem? hsession)
    refine hs.of_sessions rfl rfl rfl fun other hother => ?_
    rcases mem_publish hother with rfl | hmem
    · exact Or.inr ⟨hold.known, hold.served, hold.pending⟩
    · exact Or.inl hmem
  case sessionEnds i =>
    obtain ⟨-, -, -, -, rfl⟩ := h
    exact hs.of_sessions rfl rfl rfl fun other hother => Or.inl (List.mem_of_mem_eraseIdx hother)
  case adapterFails adapterId =>
    cases h
    exact hs.of_sessions rfl rfl rfl fun other hother => Or.inl hother
  case stage mode loaded disk =>
    obtain ⟨-, hnone, config, -, reload, hstage, rfl⟩ := h
    obtain ⟨hrevision, hresolved, hagrees⟩ := stageCutover_spec hs.epoch hs.managed hstage
    refine ⟨hs.epoch, hs.managed, fun session hsession => ?_, ?_⟩
    · have hold := hs.sessions session hsession
      refine ⟨hold.known, hold.served, fun pending hpending => ?_⟩
      rcases hold.pending pending hpending with hnow | ⟨next, hcandidate, -⟩
      · exact Or.inl hnow
      · rw [Option.isNone_iff_eq_none.mp hnone] at hcandidate
        cases hcandidate
    · intro other hother
      cases hother
      exact ⟨hrevision, hresolved, hagrees⟩
  case prepareBegins =>
    obtain ⟨reload, hreload, -, -, rfl⟩ := h
    refine ⟨hs.epoch, hs.managed, fun session hsession => ?_, ?_⟩
    · obtain ⟨old, hmem, rfl⟩ := mem_dropPending hsession
      exact dropped (hs.sessions old hmem) hs.candidate_revision
    · intro other hother
      cases hother
      exact hs.reload reload hreload
  case prepareSession i =>
    obtain ⟨reload, hreload, -, -, session, hsession, -, -, prepared, hprepared, rfl⟩ := h
    have hold := hs.sessions session (List.mem_of_getElem? hsession)
    obtain ⟨phase, hphase, rfl⟩ := prepareSessionCutover_spec hprepared
    refine hs.of_sessions rfl rfl rfl fun other hother => ?_
    rcases mem_setSession hother with rfl | hmem
    · refine Or.inr ⟨hold.known, hold.served, fun pending hpending => ?_⟩
      cases hpending
      refine Or.inr ⟨reload.candidate, by rw [hreload]; rfl, rfl, ?_⟩
      exact buildCandidateSessionPhase_servedBy hphase
    · exact Or.inl hmem
  case freeze =>
    obtain ⟨reload, hreload, -, -, rfl⟩ := h
    refine ⟨hs.epoch, hs.managed, fun session hsession => ?_, ?_⟩
    · have hold := hs.sessions session hsession
      rw [hreload] at hold
      exact hold
    · intro other hother
      cases hother
      exact hs.reload reload hreload
  case commit =>
    obtain ⟨reload, hreload, -, hguard, rfl⟩ := h
    exact hs.commitCutover hreload hguard.2 (hreplacing reload hreload)
  case abort =>
    obtain ⟨reload, hreload, rfl⟩ := h
    refine ⟨hs.epoch, hs.managed, fun session hsession => ?_, ?_⟩
    · obtain ⟨old, hmem, rfl⟩ := mem_dropPending hsession
      exact dropped (hs.sessions old hmem) hs.candidate_revision
    · intro other hother
      cases hother
  case activate i =>
    obtain ⟨session, hsession, pending, hpending, -, hrevision, rfl⟩ := h
    have hold := hs.sessions session (List.mem_of_getElem? hsession)
    refine hs.of_sessions rfl rfl rfl fun other hother => ?_
    rcases mem_publish hother with rfl | hmem
    · refine Or.inr ⟨le_rfl, fun _ => ?_, fun other hother => by cases hother⟩
      rcases hold.pending pending hpending with ⟨-, hserved⟩ | ⟨next, hnext, hother, -⟩
      · exact hserved
      · have hne := hs.candidate_revision next hnext
        omega
    · exact Or.inl hmem
  case retire generationId =>
    cases h
    exact hs.of_sessions rfl rfl rfl fun other hother => Or.inl hother
  case handOff disk =>
    obtain ⟨-, -, h⟩ := h
    exact Agreed.handOff h

end Agreed

end RuntimeServer

/-! ### The cells of the host -/

def ManagedPlugin.key (entry : ManagedPlugin) : PluginKind × String := (entry.kind, entry.handle.id)

def ArtifactUpdate.key (update : ArtifactUpdate) : PluginKind × String := (update.kind, update.id)

/-- The names are different, the cells are different, and there is a generation in each. -/
structure ManagedPlugins.WellKept (managed : ManagedPlugins) (cells : Cells) : Prop where
  keys : (List.map ManagedPlugin.key managed).Nodup
  separate : (List.map (·.handle.cell) managed).Nodup
  filled : ∀ entry ∈ (managed : List ManagedPlugin), entry.handle.cell < cells.length

namespace ManagedPlugins

theorem find_mem (h : managed.find kind id = some entry) :
    entry ∈ (managed : List ManagedPlugin) ∧ entry.key = (kind, id) := by
  have hkey := List.find?_some h
  simp only [decide_eq_true_eq] at hkey
  exact ⟨List.mem_of_find?_eq_some h, by rw [ManagedPlugin.key, hkey.1, hkey.2]⟩

theorem WellKept.mono {cells' : Cells} (h : managed.WellKept cells)
    (hlength : cells.length ≤ cells'.length) : managed.WellKept cells' :=
  ⟨h.keys, h.separate, fun entry hentry => (h.filled entry hentry).trans_le hlength⟩

theorem WellKept.of_map {f : ManagedPlugin → ManagedPlugin} (h : managed.WellKept cells)
    (hf : ∀ entry, (f entry).kind = entry.kind ∧ (f entry).handle = entry.handle) :
    WellKept (List.map f managed) cells := by
  constructor
  · have hkey : ManagedPlugin.key ∘ f = ManagedPlugin.key := by
      funext entry
      simp only [Function.comp_apply, ManagedPlugin.key, (hf entry).1, (hf entry).2]
    rw [List.map_map, hkey]
    exact h.keys
  · simpa only [List.map_map, Function.comp_def, (hf _).2] using h.separate
  · intro entry hentry
    obtain ⟨old, hold, rfl⟩ := List.mem_map.mp hentry
    rw [(hf old).2]
    exact h.filled old hold

theorem WellKept.eq_of_cell (h : managed.WellKept cells) {entry' : ManagedPlugin}
    (hentry : entry ∈ (managed : List ManagedPlugin))
    (hentry' : entry' ∈ (managed : List ManagedPlugin))
    (hcell : entry.handle.cell = entry'.handle.cell) : entry = entry' :=
  List.inj_on_of_nodup_map h.separate hentry hentry' hcell

theorem WellKept.find_of_mem (h : managed.WellKept cells)
    (hentry : entry ∈ (managed : List ManagedPlugin)) :
    managed.find entry.kind entry.handle.id = some entry := by
  cases hfind : managed.find entry.kind entry.handle.id with
  | none =>
    have hno := List.find?_eq_none.mp hfind entry hentry
    simp at hno
  | some found =>
    obtain ⟨hmem, hkey⟩ := find_mem hfind
    rw [List.inj_on_of_nodup_map h.keys hmem hentry hkey]

theorem WellKept.handle_of_mem (h : managed.WellKept cells)
    (hentry : entry ∈ (managed : List ManagedPlugin)) :
    managed.handle entry.kind entry.handle.id = some entry.handle := by
  rw [handle, h.find_of_mem hentry]
  rfl

end ManagedPlugins

namespace PluginHost

theorem applyUpdate_cells (cells : Cells) (managed : ManagedPlugins) (update : ArtifactUpdate) :
    (applyUpdate cells managed update).1.length = cells.length := by
  unfold applyUpdate
  split
  · rfl
  · simp

theorem applyUpdate_wellKept (update : ArtifactUpdate) (h : managed.WellKept cells) :
    (applyUpdate cells managed update).2.WellKept (applyUpdate cells managed update).1 := by
  refine @ManagedPlugins.WellKept.mono _ cells _ ?_ (applyUpdate_cells ..).ge
  unfold applyUpdate
  split
  · exact h
  · rename_i entry hentry
    refine h.of_map fun other => ?_
    split
    · rename_i heq
      rw [heq]
      exact ⟨rfl, rfl⟩
    · exact ⟨rfl, rfl⟩

theorem applyUpdate_generation {update : ArtifactUpdate} (h : managed.WellKept cells)
    (hhandle : managed.handle update.kind update.id = some handle) :
    handle.generation (applyUpdate cells managed update).1 = some update.generation := by
  obtain ⟨entry, hfind, rfl⟩ := Option.map_eq_some_iff.mp hhandle
  have hfilled := h.filled entry (ManagedPlugins.find_mem hfind).1
  simp only [applyUpdate, hfind, PluginHandle.generation]
  rw [List.getElem?_set_self hfilled]

theorem applyUpdate_generation_of_ne {update : ArtifactUpdate} (h : managed.WellKept cells)
    (hhandle : managed.handle kind id = some handle) (hne : update.key ≠ (kind, id)) :
    handle.generation (applyUpdate cells managed update).1 = handle.generation cells := by
  obtain ⟨entry, hfind, rfl⟩ := Option.map_eq_some_iff.mp hhandle
  obtain ⟨hmem, hkey⟩ := ManagedPlugins.find_mem hfind
  unfold applyUpdate
  split
  · rfl
  · rename_i other hother
    obtain ⟨hmem', hkey'⟩ := ManagedPlugins.find_mem hother
    have hcell : other.handle.cell ≠ entry.handle.cell := by
      intro hcell
      rw [h.eq_of_cell hmem' hmem hcell, hkey] at hkey'
      exact hne hkey'.symm
    exact List.getElem?_set_ne hcell

theorem applyUpdates_wellKept (updates : List ArtifactUpdate) (h : managed.WellKept cells) :
    (applyUpdates cells managed updates).2.WellKept (applyUpdates cells managed updates).1 := by
  induction updates generalizing cells managed with
  | nil => exact h
  | cons update rest ih => exact ih (applyUpdate_wellKept update h)

theorem applyUpdates_generation_of_ne {updates : List ArtifactUpdate} (h : managed.WellKept cells)
    (hhandle : managed.handle kind id = some handle)
    (hne : (kind, id) ∉ updates.map ArtifactUpdate.key) :
    handle.generation (applyUpdates cells managed updates).1 = handle.generation cells := by
  induction updates generalizing cells managed with
  | nil => rfl
  | cons update rest ih =>
    rw [List.map_cons, List.mem_cons, not_or] at hne
    have hhandle' := hhandle
    rw [← applyUpdate_handle cells managed update] at hhandle'
    have hrest := ih (applyUpdate_wellKept update h) hhandle' hne.2
    rw [applyUpdate_generation_of_ne h hhandle fun heq => hne.1 heq.symm] at hrest
    exact hrest

theorem applyUpdates_generation {updates : List ArtifactUpdate} {update : ArtifactUpdate}
    (h : managed.WellKept cells) (hkeys : (updates.map ArtifactUpdate.key).Nodup)
    (hmem : update ∈ updates) (hhandle : managed.handle update.kind update.id = some handle) :
    handle.generation (applyUpdates cells managed updates).1 = some update.generation := by
  induction updates generalizing cells managed with
  | nil => cases hmem
  | cons first rest ih =>
    rw [List.map_cons, List.nodup_cons] at hkeys
    have hhandle' := hhandle
    rw [← applyUpdate_handle cells managed first] at hhandle'
    have hkept := applyUpdate_wellKept first h
    rcases List.mem_cons.mp hmem with rfl | hmem
    · have hrest := applyUpdates_generation_of_ne hkept hhandle' hkeys.1
      rw [applyUpdate_generation h hhandle] at hrest
      exact hrest
    · exact ih hkept hkeys.2 hmem hhandle'

theorem freshManaged_spec (config : ServerConfig) (next : Nat) (disk : List Artifact) :
    List.Sublist (List.map ManagedPlugin.key (freshManaged config next disk))
        (disk.map fun artifact => (artifact.kind, artifact.id)) ∧
      List.map (·.handle.cell) (freshManaged config next disk) =
        List.range' next (freshCells config disk).length := by
  induction disk generalizing next with
  | nil => exact ⟨List.Sublist.refl _, rfl⟩
  | cons artifact rest ih =>
    unfold freshManaged
    split
    · rename_i hloads
      obtain ⟨generation, hgeneration⟩ := Option.isSome_iff_exists.mp hloads.2
      obtain ⟨hkeys, hcells⟩ := ih (next + 1)
      have hlength : (freshCells config (artifact :: rest)).length =
          (freshCells config rest).length + 1 := by
        simp [freshCells, hloads.1, hgeneration]
      refine ⟨hkeys.cons_cons _, ?_⟩
      rw [hlength, List.range'_succ, ← hcells]
      rfl
    · rename_i hloads
      obtain ⟨hkeys, hcells⟩ := ih next
      have hlength : (freshCells config (artifact :: rest)).length =
          (freshCells config rest).length := by
        unfold freshCells
        by_cases hallows : allows config artifact.pluginId = true
        · have hnone : artifact.generation = none := by
            simpa using fun hsome => hloads ⟨hallows, hsome⟩
          simp [hallows, hnone]
        · simp [hallows]
      refine ⟨hkeys.cons _, ?_⟩
      rw [hlength]
      exact hcells

theorem freshManaged_wellKept (cells : Cells) (config : ServerConfig)
    (hdisk : RuntimeServer.Catalogued disk) :
    (freshManaged config cells.length disk).WellKept (cells ++ freshCells config disk) := by
  obtain ⟨hkeys, hcells⟩ := freshManaged_spec config cells.length disk
  refine ⟨hkeys.nodup hdisk, ?_, ?_⟩
  · rw [hcells]
    exact List.nodup_range'
  · intro entry hentry
    have hcell := List.mem_map_of_mem (f := (·.handle.cell)) hentry
    rw [hcells, List.mem_range'_1] at hcell
    rw [List.length_append]
    exact hcell.2

theorem stageRuntimeArtifacts_keys {host : PluginHost} (disk : List Artifact)
    (h : host.managed.WellKept cells) :
    ((host.stageRuntimeArtifacts cells disk).map ArtifactUpdate.key).Nodup := by
  have hsub : List.Sublist ((host.stageRuntimeArtifacts cells disk).map ArtifactUpdate.key)
      (List.map ManagedPlugin.key host.managed) := by
    unfold stageRuntimeArtifacts
    generalize host.managed = managed
    induction managed with
    | nil => exact List.Sublist.refl _
    | cons entry rest ih =>
      rw [List.filterMap_cons]
      cases hupdate : artifactUpdate cells disk entry with
      | none => exact ih.cons _
      | some update =>
        have hkey : update.key = entry.key := by
          simp only [artifactUpdate, Option.bind_eq_bind, Option.bind_eq_some_iff] at hupdate
          obtain ⟨artifact, -, generation, -, current, -, hupdate⟩ := hupdate
          split at hupdate
          · cases hupdate
            rfl
          · cases hupdate
        simp only [List.map_cons, hkey]
        exact ih.cons_cons _
  exact hsub.nodup h.keys

end PluginHost

/-! ### What a reload has loaded -/

/-- The generations that a reload brings, by the names of their plugins. -/
def StagedCutover.loadedGenerations (reload : StagedCutover) (cells : Cells) :
    List (PluginKind × String × PluginGeneration) :=
  match reload.preparedPlugins with
  | none => []
  | some (.fresh _ managed) =>
    List.filterMap (fun entry =>
      (entry.handle.generation cells).map (entry.kind, entry.handle.id, ·)) managed
  | some (.artifacts updates) =>
    updates.map fun update => (update.kind, update.id, update.generation)

/-- A managed plugin that a reload brings a generation for. -/
def StagedCutover.Loads (reload : StagedCutover) (cells : Cells) (entry : ManagedPlugin) : Prop :=
  ∃ generation, (entry.kind, entry.handle.id, generation) ∈ reload.loadedGenerations cells

namespace RuntimeServer

/-- What a running reload has prepared. -/
def plans (s : RuntimeServer) :
    Option (RuntimeEpoch × Option PreparedPlugins × PreparedTopologyReload × List String) :=
  s.reload.map fun reload =>
    (reload.candidate, reload.preparedPlugins, reload.preparedTopology, reload.reloadedPluginIds)

/-- The steps that stage, end or hand over nothing, and at which no plugin fails. -/
def minor : ReloadStep → Bool
  | .adapterFails _ => false
  | .stage _ _ _ => false
  | .commit => false
  | .abort => false
  | .handOff _ => false
  | _ => true

theorem step_minor {s' : RuntimeServer} (ha : minor a = true) (h : s.step a = some s') :
    s'.cells = s.cells ∧ s'.host = s.host ∧ s'.epoch = s.epoch ∧ s'.plans = s.plans := by
  cases a <;> simp only [step, Option.bind_eq_bind, Option.bind_eq_some_iff, Option.guard_eq_some',
    Option.some.injEq] at h
  case admission generationId transport =>
    obtain ⟨-, -, phase, -, rfl⟩ := h
    exact ⟨rfl, rfl, rfl, rfl⟩
  case handle i event =>
    obtain ⟨session, -, -, -, phase, -, rfl⟩ := h
    exact ⟨rfl, rfl, rfl, rfl⟩
  case publishDirectory i =>
    obtain ⟨session, -, -, -, rfl⟩ := h
    exact ⟨rfl, rfl, rfl, rfl⟩
  case sessionEnds i =>
    obtain ⟨-, -, -, -, rfl⟩ := h
    exact ⟨rfl, rfl, rfl, rfl⟩
  case prepareBegins | freeze =>
    obtain ⟨reload, hreload, -, -, rfl⟩ := h
    exact ⟨rfl, rfl, rfl, by rw [plans, plans, hreload]; rfl⟩
  case prepareSession i =>
    obtain ⟨reload, -, -, -, session, -, -, -, prepared, -, rfl⟩ := h
    exact ⟨rfl, rfl, rfl, rfl⟩
  case activate i =>
    obtain ⟨session, -, pending, -, -, -, rfl⟩ := h
    exact ⟨rfl, rfl, rfl, rfl⟩
  case retire generationId =>
    cases h
    exact ⟨rfl, rfl, rfl, rfl⟩
  case adapterFails adapterId => cases ha
  case stage mode loaded disk => cases ha
  case commit => cases ha
  case abort => cases ha
  case handOff disk => cases ha

/-- Two servers with the same plans: the reload of one has what that of the other has. -/
theorem reload_of_plans {s' : RuntimeServer} (h : s'.plans = s.plans) {reload' : StagedCutover}
    (hreload' : s'.reload = some reload') :
    ∃ reload, s.reload = some reload ∧ reload'.candidate = reload.candidate ∧
      reload'.preparedPlugins = reload.preparedPlugins ∧
      reload'.preparedTopology = reload.preparedTopology ∧
      reload'.reloadedPluginIds = reload.reloadedPluginIds := by
  rw [plans, plans, hreload', Option.map_some] at h
  obtain ⟨reload, hreload, heq⟩ := Option.map_eq_some_iff.mp h.symm
  simp only [Prod.mk.injEq] at heq
  exact ⟨reload, hreload, heq.1.symm, heq.2.1.symm, heq.2.2.1.symm, heq.2.2.2.symm⟩

/-- The host keeps its handles apart, and so will it after the running reload. -/
structure Kept (s : RuntimeServer) : Prop where
  managed : s.host.managed.WellKept s.cells
  fresh : ∀ reload config managed, s.reload = some reload →
    reload.preparedPlugins = some (.fresh config managed) → managed.WellKept s.cells
  updates : ∀ reload updates, s.reload = some reload →
    reload.preparedPlugins = some (.artifacts updates) →
      (updates.map ArtifactUpdate.key).Nodup
  listed : ∀ reload, s.reload = some reload → ∀ pluginId ∈ reload.reloadedPluginIds,
    ∃ entry ∈ (committedManaged s.host reload.preparedPlugins : List ManagedPlugin),
      entry.pluginId = pluginId ∧ reload.Loads s.cells entry

namespace Kept

variable {s s' : RuntimeServer}

theorem of_plans (hs : s.Kept) (hcells : s'.cells = s.cells) (hhost : s'.host = s.host)
    (hplans : s'.plans = s.plans) : s'.Kept := by
  constructor
  · rw [hhost, hcells]
    exact hs.managed
  · intro reload' config managed hmem hprepared
    obtain ⟨reload, hold, -, heq, -, -⟩ := reload_of_plans hplans hmem
    rw [hcells]
    exact hs.fresh reload config managed hold (heq ▸ hprepared)
  · intro reload' updates hmem hprepared
    obtain ⟨reload, hold, -, heq, -, -⟩ := reload_of_plans hplans hmem
    exact hs.updates reload updates hold (heq ▸ hprepared)
  · intro reload' hmem pluginId hlisted
    obtain ⟨reload, hold, -, heq, -, hids⟩ := reload_of_plans hplans hmem
    rw [hids] at hlisted
    simpa only [StagedCutover.Loads, StagedCutover.loadedGenerations, hhost, hcells, heq] using
      hs.listed reload hold pluginId hlisted

theorem of_idle (hmanaged : s.host.managed.WellKept s.cells) (hreload : s.reload = none) :
    s.Kept := by
  refine ⟨hmanaged, ?_, ?_, ?_⟩
  · intro reload config managed hmem
    rw [hreload] at hmem
    cases hmem
  · intro reload updates hmem
    rw [hreload] at hmem
    cases hmem
  · intro reload hmem
    rw [hreload] at hmem
    cases hmem

theorem boot (h : boot config disk revision generationId = some s) : s.Kept := by
  simp only [RuntimeServer.boot, Option.bind_eq_bind, Option.bind_eq_some_iff,
    Option.guard_eq_some', Option.some.injEq] at h
  obtain ⟨-, hdisk, topology, -, selection, -, storage, -, rfl⟩ := h
  have hkept := PluginHost.freshManaged_wellKept [] config hdisk
  exact of_idle hkept rfl

theorem stagePlugins_cells (s : RuntimeServer) (config : ServerConfig) (disk : List Artifact)
    (mode : RuntimeReloadMode) :
    ∃ added, (s.stagePlugins config disk mode).1 = s.cells ++ added := by
  cases mode with
  | artifacts => exact ⟨[], (List.append_nil _).symm⟩
  | topology => exact ⟨_, rfl⟩
  | core => exact ⟨[], (List.append_nil _).symm⟩
  | full => exact ⟨_, rfl⟩

theorem stagePlugins_fresh {config' : ServerConfig} (hdisk : Catalogued disk)
    (h : (s.stagePlugins config disk mode).2 = some (.fresh config' managed)) :
    managed.WellKept (s.stagePlugins config disk mode).1 := by
  cases mode with
  | artifacts => cases h
  | core => cases h
  | topology | full =>
    cases h
    exact PluginHost.freshManaged_wellKept _ config hdisk

theorem stagePlugins_updates {updates : List ArtifactUpdate}
    (h : (s.stagePlugins config disk mode).2 = some (.artifacts updates)) :
    updates = s.host.stageRuntimeArtifacts s.cells disk := by
  cases mode with
  | artifacts =>
    cases h
    rfl
  | core => cases h
  | topology => cases h
  | full => cases h

theorem stage_listed (hdisk : Catalogued disk)
    (hprepared : reload.preparedPlugins = (s.stagePlugins config disk mode).2)
    (hids : reload.reloadedPluginIds = s.reloadedPluginIds reload.preparedPlugins) :
    ∀ pluginId ∈ reload.reloadedPluginIds,
      ∃ entry ∈ (committedManaged s.host reload.preparedPlugins : List ManagedPlugin),
        entry.pluginId = pluginId ∧ reload.Loads (s.stagePlugins config disk mode).1 entry := by
  intro pluginId hlisted
  rw [hids] at hlisted
  cases hplugins : reload.preparedPlugins with
  | none =>
    rw [hplugins] at hlisted
    cases hlisted
  | some plugins =>
    rw [hplugins] at hlisted
    cases plugins with
    | fresh config' managed =>
      obtain ⟨entry, hentry, rfl⟩ := List.mem_map.mp (List.mem_dedup.mp hlisted)
      have hmem := (List.mem_filter.mp hentry).1
      have hkept := stagePlugins_fresh hdisk (hprepared.symm.trans hplugins)
      obtain ⟨generation, hgeneration⟩ := List.getElem?_eq_some_iff.mpr
        ⟨hkept.filled entry hmem, rfl⟩ |> fun h => (⟨_, h⟩ : ∃ g, entry.handle.generation _ = some g)
      refine ⟨entry, hmem, rfl, generation, ?_⟩
      simp only [StagedCutover.loadedGenerations, hplugins]
      exact List.mem_filterMap.mpr ⟨entry, hmem, by rw [hgeneration]; rfl⟩
    | artifacts updates =>
      obtain ⟨update, hupdate, rfl⟩ := List.mem_map.mp (List.mem_dedup.mp hlisted)
      have hstaged := stagePlugins_updates (hprepared.symm.trans hplugins)
      rw [hstaged] at hupdate
      obtain ⟨entry, hmem, hfrom⟩ := List.mem_filterMap.mp hupdate
      simp only [PluginHost.artifactUpdate, Option.bind_eq_bind, Option.bind_eq_some_iff] at hfrom
      obtain ⟨artifact, -, generation, -, current, -, hfrom⟩ := hfrom
      split at hfrom
      · cases hfrom
        refine ⟨entry, hmem, rfl, generation, ?_⟩
        simp only [StagedCutover.loadedGenerations, hplugins, hstaged]
        exact List.mem_map.mpr ⟨_, hupdate, rfl⟩
      · cases hfrom

theorem stageCutover_plugins {loaded : ServerConfig}
    (hconfig : candidateConfig s.epoch.selection.config loaded mode = some config)
    (h : s.stageCutover mode loaded disk = some reload) :
    Catalogued disk ∧ reload.preparedPlugins = (s.stagePlugins config disk mode).2 ∧
      reload.reloadedPluginIds = s.reloadedPluginIds reload.preparedPlugins := by
  simp only [stageCutover, hconfig, Option.bind_eq_bind, Option.bind_eq_some_iff,
    Option.guard_eq_some', Option.bind_some, Option.some.injEq] at h
  obtain ⟨-, hdisk, -, -, selection, -, prepared, -, storage, -, rfl⟩ := h
  exact ⟨hdisk, rfl, rfl⟩

theorem commitCutover (hs : s.Kept) (hreload : s.reload = some reload) :
    (s.commitCutover reload).Kept := by
  refine of_idle ?_ rfl
  unfold RuntimeServer.commitCutover
  cases hprepared : reload.preparedPlugins with
  | none => exact hs.managed
  | some plugins =>
    cases plugins with
    | fresh config managed => exact hs.fresh reload config managed hreload hprepared
    | artifacts updates => exact PluginHost.applyUpdates_wellKept updates hs.managed

theorem step (hs : s.Kept) (h : s.step a = some s') : s'.Kept := by
  by_cases hminor : minor a = true
  · obtain ⟨hcells, hhost, -, hplans⟩ := step_minor hminor h
    exact hs.of_plans hcells hhost hplans
  · cases a with
    | adapterFails adapterId =>
      cases h
      exact hs.of_plans rfl rfl rfl
    | stage mode loaded disk =>
      simp only [RuntimeServer.step, Option.bind_eq_bind, Option.bind_eq_some_iff,
        Option.guard_eq_some', Option.some.injEq] at h
      obtain ⟨-, -, config, hconfig, reload, hstage, rfl⟩ := h
      obtain ⟨hdisk, hprepared, hids⟩ := stageCutover_plugins hconfig hstage
      obtain ⟨added, hcells⟩ := stagePlugins_cells s config disk mode
      refine ⟨hs.managed.mono ?_, ?_, ?_, ?_⟩
      · simp only [hcells, List.length_append]
        omega
      · intro other config' managed hother hfresh
        cases hother
        exact stagePlugins_fresh hdisk (hprepared.symm.trans hfresh)
      · intro other updates hother hupdates
        cases hother
        rw [stagePlugins_updates (hprepared.symm.trans hupdates)]
        exact PluginHost.stageRuntimeArtifacts_keys disk hs.managed
      · intro other hother
        cases hother
        exact stage_listed hdisk hprepared hids
    | commit =>
      simp only [RuntimeServer.step, Option.bind_eq_bind, Option.bind_eq_some_iff,
        Option.guard_eq_some', Option.some.injEq] at h
      obtain ⟨reload, hreload, -, -, rfl⟩ := h
      exact hs.commitCutover hreload
    | abort =>
      simp only [RuntimeServer.step, Option.bind_eq_bind, Option.bind_eq_some_iff,
        Option.some.injEq] at h
      obtain ⟨reload, -, rfl⟩ := h
      exact of_idle hs.managed rfl
    | handOff disk =>
      simp only [RuntimeServer.step, Option.bind_eq_bind, Option.bind_eq_some_iff,
        Option.guard_eq_some'] at h
      obtain ⟨-, -, h⟩ := h
      obtain ⟨child, hchild, -, hhost, hhandles, -, hreload, -⟩ := handOff_spec h
      have hbooted := Kept.boot hchild
      have hcells : s'.cells = child.cells := congrArg HandleState.cells hhandles
      refine of_idle ?_ ?_
      · rw [hhost, hcells]
        exact hbooted.managed
      · rw [hreload, (Agreed.boot hchild).2.2.1]
    | _ => exact absurd rfl hminor

end Kept

/-! ### The run -/

/-- **What the host manages is what serves**: new connections and sessions that have activated the
    published epoch. -/
structure ServesManaged (s : RuntimeServer) : Prop where
  adapters : ∀ adapterId handle,
    s.epoch.topology.protocolRegistry.resolveAdapter adapterId = some handle →
      s.host.managed.handle .protocol adapterId = some handle
  defaultAdapter : s.host.managed.handle .protocol s.epoch.topology.defaultAdapter.id =
    some s.epoch.topology.defaultAdapter
  defaultBedrockAdapter : ∀ handle, s.epoch.topology.defaultBedrockAdapter = some handle →
    s.host.managed.handle .protocol handle.id = some handle
  sessions : ∀ session ∈ s.sessions, session.epochRevision = s.epoch.revision →
    ∀ binding, session.phase.binding = some binding →
      s.host.managed.handle .protocol binding.adapter.id = some binding.adapter ∧
        s.host.managed.handle .gameplay binding.gameplay.id = some binding.gameplay
  gameplay : ∀ profile handle,
    s.epoch.selection.loadedPlugins.resolve .gameplay profile = some handle →
      s.host.managed.handle .gameplay profile = some handle
  storageProfile : s.host.managed.handle .storage s.epoch.selection.config.storageProfile =
    some s.epoch.storageProfile
  authProfile : s.host.managed.handle .auth s.epoch.selection.config.profiles.auth =
    some s.epoch.selection.authProfile
  bedrockAuthProfile : ∀ handle, s.epoch.selection.bedrockAuthProfile = some handle →
    s.host.managed.handle .auth s.epoch.selection.config.profiles.bedrockAuth = some handle

/-- The plugins that a reload lists hold the generations that it has loaded. -/
def RunsReloaded (s : RuntimeServer) (reload : StagedCutover) (before : Cells) : Prop :=
  ∀ pluginId ∈ reload.reloadedPluginIds,
    ∃ entry ∈ (s.host.managed : List ManagedPlugin), entry.pluginId = pluginId ∧
      s.host.managed.handle entry.kind entry.handle.id = some entry.handle ∧
      ∃ generation, (entry.kind, entry.handle.id, generation) ∈ reload.loadedGenerations before ∧
        entry.handle.generation s.cells = some generation

theorem Agreed.servesManaged (hs : s.Agreed) : s.ServesManaged := by
  have hprofiles := hs.managed.profiles
  refine ⟨hs.managed.registry, ?_, ?_, ?_, ?_, ?_, ?_, ?_⟩
  · exact hs.managed.registry _ _ hs.epoch.topology.defaultAdapter
  · intro handle hhandle
    exact hs.managed.registry _ _ (hs.epoch.topology.defaultBedrockAdapter handle hhandle)
  · intro session hsession hactivated binding hbinding
    have hserved := (hs.sessions session hsession).served hactivated
    refine ⟨hs.managed.registry _ _ (hserved.adapter binding hbinding), ?_⟩
    rw [← hprofiles]
    exact hserved.gameplay binding hbinding
  · intro profile handle hresolve
    rw [← hprofiles]
    exact hresolve
  · rw [← hprofiles]
    exact hs.epoch.storageProfile
  · rw [← hprofiles]
    exact hs.epoch.authProfile
  · intro handle hhandle
    rw [← hprofiles]
    exact hs.epoch.bedrockAuthProfile handle hhandle

theorem Kept.runsReloaded (hs : s.Kept) (hreload : s.reload = some reload) :
    (s.commitCutover reload).RunsReloaded reload s.cells := by
  have hkept := (hs.commitCutover hreload).managed
  intro pluginId hlisted
  obtain ⟨entry, hmem, hid, generation, hloaded⟩ := hs.listed reload hreload pluginId hlisted
  cases hprepared : reload.preparedPlugins with
  | none =>
    simp only [StagedCutover.loadedGenerations, hprepared] at hloaded
    cases hloaded
  | some plugins =>
    cases plugins with
    | fresh config managed =>
      have hhost : (s.commitCutover reload).host.managed = managed := by
        simp only [RuntimeServer.commitCutover, hprepared, PluginHost.commitRuntimeSelection]
      have hcells : (s.commitCutover reload).cells = s.cells := by
        simp only [RuntimeServer.commitCutover, hprepared, PluginHost.commitRuntimeSelection]
      rw [hprepared] at hmem
      rw [← hhost] at hmem
      refine ⟨entry, hmem, hid, hkept.handle_of_mem hmem, generation, hloaded, ?_⟩
      rw [hcells]
      simp only [StagedCutover.loadedGenerations, hprepared] at hloaded
      obtain ⟨other, hother, hsome⟩ := List.mem_filterMap.mp hloaded
      obtain ⟨found, hfound, heq⟩ := Option.map_eq_some_iff.mp hsome
      simp only [Prod.mk.injEq] at heq
      have hsame : other = entry := by
        refine List.inj_on_of_nodup_map (hs.fresh reload config managed hreload hprepared).keys
          hother (hhost ▸ hmem) ?_
        rw [ManagedPlugin.key, ManagedPlugin.key, heq.1, heq.2.1]
      rw [← hsame, hfound, heq.2.2]
    | artifacts updates =>
      have hhost : (s.commitCutover reload).host.managed =
          (PluginHost.applyUpdates s.cells s.host.managed updates).2 := by
        simp only [RuntimeServer.commitCutover, hprepared, PluginHost.commitRuntimeSelection]
      have hcells : (s.commitCutover reload).cells =
          (PluginHost.applyUpdates s.cells s.host.managed updates).1 := by
        simp only [RuntimeServer.commitCutover, hprepared, PluginHost.commitRuntimeSelection]
      rw [hprepared] at hmem
      replace hmem : entry ∈ (s.host.managed : List ManagedPlugin) := hmem
      have hhandle := hs.managed.handle_of_mem hmem
      obtain ⟨entry', hmem', hid', hkey⟩ := PluginHost.applyUpdates_mem s.cells updates hmem
      rw [← hhost] at hmem'
      refine ⟨entry', hmem', hid'.trans hid, hkept.handle_of_mem hmem', generation, ?_, ?_⟩
      · rw [hkey.1, hkey.2]
        exact hloaded
      · rw [hkey.2, hcells]
        simp only [StagedCutover.loadedGenerations, hprepared] at hloaded
        obtain ⟨update, hupdate, heq⟩ := List.mem_map.mp hloaded
        simp only [Prod.mk.injEq] at heq
        obtain ⟨hkind, hname, rfl⟩ := heq
        rw [← hkind, ← hname] at hhandle
        exact PluginHost.applyUpdates_generation hs.managed
          (hs.updates reload updates hreload hprepared) hupdate hhandle

/-- After every run whose reloads replace the registry with the handles, and that binds nobody to a
    draining generation, the host manages what serves; and a reload that commits leaves the plugins
    that it lists with the generations that it has loaded. -/
theorem managed_handles_serve {config : ServerConfig} {disk : List Artifact}
    {revision generationId : Nat} {s₀ s : RuntimeServer} {steps : List ReloadStep}
    (hboot : boot config disk revision generationId = some s₀)
    (hrun : Steps.run RuntimeServer.step s₀ steps = some s)
    (halong : Steps.Along RuntimeServer.step Replacing s₀ steps) :
    s.ServesManaged ∧
      ∀ reload s', s.reload = some reload → s.step .commit = some s' →
        s'.RunsReloaded reload s.cells := by
  have hagreed : s.Agreed := Steps.run_keeps (fun _ _ _ hs hreplacing h => hs.step hreplacing h)
    (Agreed.boot hboot).1 halong hrun
  have hkept : s.Kept := Steps.run_keeps (fun _ _ _ hs _ h => Kept.step hs h)
    (Kept.boot hboot) (Steps.along_true s₀ steps) hrun
  refine ⟨hagreed.servesManaged, ?_⟩
  intro reload s' hreload h
  simp only [RuntimeServer.step, hreload, Option.bind_eq_bind, Option.bind_some,
    Option.bind_eq_some_iff, Option.guard_eq_some', Option.some.injEq] at h
  obtain ⟨-, -, rfl⟩ := h
  exact hkept.runsReloaded hreload

/-! ### An example server -/

/-- A server with one Java adapter and one profile of each kind. -/
def exampleConfig : ServerConfig where
  storageProfile := "disk"
  viewDistance := 8
  network := ⟨25565, "", 20⟩
  topology := ⟨false, "je", none, "be", none, 5⟩
  pluginAllowlist := none
  bufferLimits := ⟨1024, 1024⟩
  profiles := ⟨"offline", "xbl", "survival", []⟩

def exampleArtifact (kind : PluginKind) (id : String) (modifiedAt generationId : Nat) :
    Artifact where
  kind := kind
  pluginId := id
  id := id
  modifiedAt := modifiedAt
  generation := some ⟨generationId, generationId, [], none⟩
  migrates := true

/-- The disk with the given artifact of the Java adapter. -/
def exampleDisk (modifiedAt generationId : Nat) : List Artifact :=
  [exampleArtifact .protocol "je" modifiedAt generationId, exampleArtifact .gameplay "survival" 1 2,
    exampleArtifact .storage "disk" 1 3, exampleArtifact .auth "offline" 1 4]

/-- A reload of a server without sessions. -/
def exampleEmptyReload (mode : RuntimeReloadMode) (disk : List Artifact) : List ReloadStep :=
  [.stage mode exampleConfig disk, .prepareBegins, .freeze, .commit]

/-- A reload with one session, from the staging to the activation. -/
def exampleReload (mode : RuntimeReloadMode) (disk : List Artifact) : List ReloadStep :=
  [.stage mode exampleConfig disk, .prepareBegins, .prepareSession 0, .freeze, .commit, .activate 0]

def exampleLogin : List ReloadStep :=
  [.admission 1 .tcp, .handle 0 (.handshake (some "je") true), .publishDirectory 0,
    .handle 0 (.loginAccepted 7 7), .handle 0 .loginWritten, .publishDirectory 0]

/-- The generation of the adapter of the first session, and the one that the host manages. -/
def exampleAdapter (s : RuntimeServer) : Option Nat × Option Nat :=
  ((s.sessions.head?.bind (·.phase.binding)).bind (·.adapter.adapterGenerationId s.handles),
    (s.host.managed.handle .protocol "je").bind (·.adapterGenerationId s.handles))

def exampleRun (steps : List ReloadStep) : Option RuntimeServer :=
  (boot exampleConfig (exampleDisk 1 1) 1 1).bind (Steps.run step · steps)

/-- A full reload of a changed adapter, and a session that lives through an artifacts reload. -/
theorem managed_handles_serve_reloaded :
    ∃ s₀ s, boot exampleConfig (exampleDisk 1 1) 1 1 = some s₀ ∧
      Steps.run RuntimeServer.step s₀ (exampleEmptyReload .full (exampleDisk 2 5) ++ exampleLogin ++
        exampleReload .artifacts (exampleDisk 3 6)) = some s ∧
      s.ServesManaged ∧ exampleAdapter s = (some 6, some 6) := by
  obtain ⟨s₀, hboot⟩ : ∃ s₀, boot exampleConfig (exampleDisk 1 1) 1 1 = some s₀ :=
    Option.isSome_iff_exists.mp (by decide +kernel)
  have hruns : (exampleRun (exampleEmptyReload .full (exampleDisk 2 5) ++ exampleLogin ++
      exampleReload .artifacts (exampleDisk 3 6))).map exampleAdapter = some (some 6, some 6) := by
    decide +kernel
  obtain ⟨s, hrun, hadapter⟩ := Option.map_eq_some_iff.mp hruns
  rw [exampleRun, hboot, Option.bind_some] at hrun
  refine ⟨s₀, s, hboot, hrun, (managed_handles_serve hboot hrun ?_).1, hadapter⟩
  have halong : ∀ s ∈ boot exampleConfig (exampleDisk 1 1) 1 1,
      Steps.Along RuntimeServer.step Replacing s (exampleEmptyReload .full (exampleDisk 2 5) ++
        exampleLogin ++ exampleReload .artifacts (exampleDisk 3 6)) := by
    decide +kernel
  exact halong s₀ hboot

/-- A full reload that finds nothing changed, a login, and an artifacts reload that lists the adapter:
    the session goes on with the generation of the boot. -/
theorem unchanged_full_reload_strands_adapter :
    ∃ s₀ s, boot exampleConfig (exampleDisk 1 1) 1 1 = some s₀ ∧
      Steps.run RuntimeServer.step s₀ (exampleEmptyReload .full (exampleDisk 1 1) ++ exampleLogin ++
        exampleReload .artifacts (exampleDisk 2 5)) = some s ∧
      exampleAdapter s = (some 1, some 5) ∧ ¬ s.ServesManaged := by
  obtain ⟨s₀, hboot⟩ : ∃ s₀, boot exampleConfig (exampleDisk 1 1) 1 1 = some s₀ :=
    Option.isSome_iff_exists.mp (by decide +kernel)
  have hruns : (exampleRun (exampleEmptyReload .full (exampleDisk 1 1) ++ exampleLogin ++
      exampleReload .artifacts (exampleDisk 2 5))).map (fun s => (exampleAdapter s,
        s.host.managed.handle .protocol s.epoch.topology.defaultAdapter.id,
        s.epoch.topology.defaultAdapter)) =
      some ((some 1, some 5), some ⟨"je", 4⟩, ⟨"je", 0⟩) := by
    decide +kernel
  obtain ⟨s, hrun, hend⟩ := Option.map_eq_some_iff.mp hruns
  rw [exampleRun, hboot, Option.bind_some] at hrun
  simp only [Prod.mk.injEq] at hend
  refine ⟨s₀, s, hboot, hrun, hend.1, fun hserves => ?_⟩
  have hmanaged := hserves.defaultAdapter
  rw [hend.2.1, hend.2.2] at hmanaged
  exact absurd hmanaged (by decide)

/-! ### The storage profile -/

/-- The epoch is configured for the profile, and saves with it. -/
structure SavesWith (profile : String) (epoch : RuntimeEpoch) : Prop where
  config : epoch.selection.config.storageProfile = profile
  handle : epoch.storageProfile.id = profile

/-- So do the server, and the epoch that it may be about to change to. -/
structure Stores (profile : String) (s : RuntimeServer) : Prop where
  epoch : SavesWith profile s.epoch
  reload : ∀ reload, s.reload = some reload → SavesWith profile reload.candidate

variable {profile : String} {config : ServerConfig} {s s' : RuntimeServer}

theorem candidateConfig_storageProfile {active loaded : ServerConfig}
    (h : candidateConfig active loaded mode = some config) :
    config.storageProfile = active.storageProfile := by
  cases mode with
  | artifacts =>
    cases h
    rfl
  | topology | core =>
    obtain ⟨-, ⟨⟩⟩ := Option.ite_none_right_eq_some.mp h
    rfl
  | full =>
    obtain ⟨hsame, ⟨⟩⟩ := Option.ite_none_right_eq_some.mp h
    exact hsame.symm

theorem SavesWith.of_resolved {selection : ResolvedRuntimeSelection} {storage : PluginHandle}
    (hselection : resolveSelection config loaded = some selection)
    (hstorage : loaded.resolve .storage config.storageProfile = some storage) :
    SavesWith config.storageProfile ⟨revision, selection, topology, storage⟩ := by
  obtain ⟨hconfig, -⟩ := resolveSelection_spec hselection
  exact ⟨congrArg ServerConfig.storageProfile hconfig, LoadedPluginSet.resolve_id hstorage⟩

theorem Stores.boot (h : boot config disk revision generationId = some s) :
    Stores config.storageProfile s := by
  simp only [RuntimeServer.boot, Option.bind_eq_bind, Option.bind_eq_some_iff,
    Option.guard_eq_some', Option.some.injEq] at h
  obtain ⟨-, -, topology, -, selection, hselection, storage, hstorage, rfl⟩ := h
  exact ⟨.of_resolved hselection hstorage, fun reload hreload => by cases hreload⟩

theorem Stores.step (hs : Stores profile s) (h : s.step a = some s') : Stores profile s' := by
  by_cases hminor : minor a = true
  · obtain ⟨-, -, hepoch, hplans⟩ := step_minor hminor h
    refine ⟨hepoch ▸ hs.epoch, fun reload' hreload' => ?_⟩
    obtain ⟨reload, hreload, hcandidate, -⟩ := reload_of_plans hplans hreload'
    exact hcandidate ▸ hs.reload reload hreload
  · cases a <;> simp only [RuntimeServer.step, Option.bind_eq_bind, Option.bind_eq_some_iff,
      Option.guard_eq_some', Option.some.injEq] at h
    case adapterFails adapterId =>
      cases h
      exact ⟨hs.epoch, hs.reload⟩
    case stage mode loaded disk =>
      obtain ⟨-, -, -, -, reload, hstage, rfl⟩ := h
      simp only [stageCutover, Option.bind_eq_bind, Option.bind_eq_some_iff,
        Option.guard_eq_some', Option.some.injEq] at hstage
      obtain ⟨-, -, config, hconfig, -, -, selection, hselection, -, -, storage, hstorage, rfl⟩ :=
        hstage
      have hsame := (candidateConfig_storageProfile hconfig).trans hs.epoch.config
      refine ⟨hs.epoch, fun other hother => ?_⟩
      cases hother
      exact hsame ▸ .of_resolved hselection hstorage
    case commit =>
      obtain ⟨reload, hreload, -, -, rfl⟩ := h
      exact ⟨hs.reload reload hreload, fun other hother => by cases hother⟩
    case abort =>
      obtain ⟨-, -, rfl⟩ := h
      exact ⟨hs.epoch, fun other hother => by cases hother⟩
    case handOff disk =>
      obtain ⟨-, -, h⟩ := h
      obtain ⟨child, hchild, hepoch, -, -, -, hreload, -⟩ := handOff_spec h
      have hbooted := hs.epoch.config ▸ Stores.boot hchild
      exact ⟨hepoch ▸ hbooted.epoch, hreload ▸ hbooted.reload⟩
    all_goals exact (hminor rfl).elim

/-- **No reload and no hand-off changes the storage profile**: in every run the server is configured
    for the profile that it was booted with, and saves with a plugin of that profile. -/
theorem storage_profile_stays {steps : List ReloadStep}
    (hboot : boot config disk revision generationId = some s)
    (hrun : Steps.run RuntimeServer.step s steps = some s') : Stores config.storageProfile s' :=
  Steps.run_keeps (fun _ _ _ hs _ h => Stores.step hs h) (Stores.boot hboot)
    (Steps.along_true s steps) hrun

theorem storage_profile_stays_reloaded :
    ∃ s₀ s, boot exampleConfig (exampleDisk 1 1) 1 1 = some s₀ ∧
      Steps.run RuntimeServer.step s₀ (exampleEmptyReload .full (exampleDisk 2 5)) = some s ∧
      Stores "disk" s := by
  obtain ⟨s₀, hboot⟩ : ∃ s₀, boot exampleConfig (exampleDisk 1 1) 1 1 = some s₀ :=
    Option.isSome_iff_exists.mp (by decide +kernel)
  have hruns : (exampleRun (exampleEmptyReload .full (exampleDisk 2 5))).isSome = true := by
    decide +kernel
  obtain ⟨s, hrun⟩ := Option.isSome_iff_exists.mp hruns
  rw [exampleRun, hboot, Option.bind_some] at hrun
  exact ⟨s₀, s, hboot, hrun, storage_profile_stays hboot hrun⟩

end RuntimeServer

end RevyCraft.PluginHandles
