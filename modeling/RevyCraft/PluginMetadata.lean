/-
  RevyCraft/PluginMetadata.lean
  =============================
  **What a session records about its generations.**

  A binding copies what its two handles report at the moment it is made, and
  the directory copies the binding.  The copy goes stale when a generation is
  put into one of the handles afterwards, or when the adapter enters or leaves
  quarantine.  A session that is prepared for a reload is bound before the
  commit, so an artifacts reload does that to every session whose plugins it
  updates.
-/
import RevyCraft.PluginOwners

namespace RevyCraft.PluginHandles

/-! ### Records -/

def BoundSession.Recorded (binding : BoundSession) (handles : HandleState) : Prop :=
  binding.capabilities =
    reportedCapabilities handles binding.adapter binding.gameplay binding.capabilities.entityId

def SessionPhase.Recorded (phase : SessionPhase) (handles : HandleState) : Prop :=
  ∀ binding, phase.binding = some binding → binding.Recorded handles

theorem BoundSession.recorded_new (handles : HandleState) (generation : ActiveGeneration)
    (transport : TransportKind) (adapter gameplay : PluginHandle) (entityId : Option Nat) :
    (BoundSession.new handles generation transport adapter gameplay entityId).Recorded handles := rfl

variable {phase phase' : SessionPhase} {handles : HandleState} {handle : PluginHandle}
  {cells : Cells} {config : ServerConfig} {s : RuntimeServer} {event : SessionEvent}
  {session : Session} {managed : ManagedPlugins} {reload : StagedCutover}

theorem SessionPhase.recorded_of_none (h : phase.binding = none) : phase.Recorded handles := by
  intro binding hbinding
  rw [h] at hbinding
  cases hbinding

variable {binding : BoundSession} {cells' : Cells} {generationId : Nat} {disk : List Artifact}

theorem SessionPhase.recorded_of_some (h : phase.binding = some binding)
    (hrecorded : binding.Recorded handles) : phase.Recorded handles := by
  intro other hother
  rw [h] at hother
  cases hother
  exact hrecorded

/-- The reports from its cell are what two states of the cells have in common. -/
def PluginHandle.SameReport (handle : PluginHandle) (cells cells' : Cells) : Prop :=
  handle.pluginGenerationId cells' = handle.pluginGenerationId cells ∧
    handle.capabilitySet cells' = handle.capabilitySet cells

/-- An adapter also has to be in quarantine in both or in neither. -/
def PluginHandle.SameAdapterReport (adapter : PluginHandle) (handles handles' : HandleState) :
    Prop :=
  adapter.adapterGenerationId handles' = adapter.adapterGenerationId handles ∧
    adapter.adapterCapabilitySet handles' = adapter.adapterCapabilitySet handles

theorem PluginHandle.SameReport.adapter {adapter : PluginHandle} {handles' : HandleState}
    (h : adapter.SameReport handles.cells handles'.cells)
    (hquarantined : adapter.id ∈ handles'.quarantined ↔ adapter.id ∈ handles.quarantined) :
    adapter.SameAdapterReport handles handles' := by
  simp only [SameAdapterReport, adapterGenerationId, adapterCapabilitySet, hquarantined, h.1, h.2,
    and_self]

theorem BoundSession.Recorded.of_same {handles' : HandleState} (h : binding.Recorded handles)
    (hadapter : binding.adapter.SameAdapterReport handles handles')
    (hgameplay : binding.gameplay.SameReport handles.cells handles'.cells) :
    binding.Recorded handles' := by
  unfold BoundSession.Recorded at h ⊢
  simp only [reportedCapabilities, hadapter.1, hadapter.2, hgameplay.1, hgameplay.2] at h ⊢
  exact h

theorem PluginHandle.sameReport_append (added : Cells) (h : handle.cell < cells.length) :
    handle.SameReport cells (cells ++ added) := by
  have hgeneration : handle.generation (cells ++ added) = handle.generation cells :=
    List.getElem?_append_left h
  simp only [SameReport, pluginGenerationId, capabilitySet, hgeneration, and_self]

/-! ### Filled handles -/

structure ActiveGeneration.Filled (generation : ActiveGeneration) (cells : Cells) : Prop where
  registry : ∀ handle ∈ (generation.protocolRegistry : List PluginHandle),
    handle.cell < cells.length
  defaultAdapter : generation.defaultAdapter.cell < cells.length
  defaultBedrockAdapter : ∀ handle, generation.defaultBedrockAdapter = some handle →
    handle.cell < cells.length

structure RuntimeEpoch.Filled (epoch : RuntimeEpoch) (cells : Cells) : Prop where
  topology : epoch.topology.Filled cells
  loadedPlugins : ∀ plugin ∈ (epoch.selection.loadedPlugins : List LoadedPlugin),
    plugin.handle.cell < cells.length

structure SessionPhase.Filled (phase : SessionPhase) (cells : Cells) : Prop where
  generation : ∀ generation, phase.generation = some generation → generation.Filled cells
  adapter : ∀ binding, phase.binding = some binding → binding.adapter.cell < cells.length
  gameplay : ∀ binding, phase.binding = some binding → binding.gameplay.cell < cells.length

theorem ActiveGeneration.Filled.mono {generation : ActiveGeneration} (h : generation.Filled cells)
    (hlength : cells.length ≤ cells'.length) : generation.Filled cells' :=
  ⟨fun handle hmem => (h.registry handle hmem).trans_le hlength, h.defaultAdapter.trans_le hlength,
    fun handle hmem => (h.defaultBedrockAdapter handle hmem).trans_le hlength⟩

theorem RuntimeEpoch.Filled.mono {epoch : RuntimeEpoch} (h : epoch.Filled cells)
    (hlength : cells.length ≤ cells'.length) : epoch.Filled cells' :=
  ⟨h.topology.mono hlength, fun plugin hmem => (h.loadedPlugins plugin hmem).trans_le hlength⟩

theorem SessionPhase.Filled.mono (h : phase.Filled cells) (hlength : cells.length ≤ cells'.length) :
    phase.Filled cells' :=
  ⟨fun generation hmem => (h.generation generation hmem).mono hlength,
    fun binding hmem => (h.adapter binding hmem).trans_le hlength,
    fun binding hmem => (h.gameplay binding hmem).trans_le hlength⟩

structure SessionPhase.Sound (phase : SessionPhase) (handles : HandleState) : Prop where
  filled : phase.Filled handles.cells
  recorded : phase.Recorded handles

theorem SessionPhase.Recorded.append {quarantined : List String} (added : Cells)
    (h : phase.Recorded ⟨cells, quarantined⟩) (hfilled : phase.Filled cells) :
    phase.Recorded ⟨cells ++ added, quarantined⟩ :=
  fun binding hbinding => (h binding hbinding).of_same
    ((PluginHandle.sameReport_append added (hfilled.adapter binding hbinding)).adapter Iff.rfl)
    (PluginHandle.sameReport_append added (hfilled.gameplay binding hbinding))

theorem SessionPhase.Recorded.quarantine {quarantined : List String} {adapterId : String}
    (h : phase.Recorded ⟨cells, quarantined⟩)
    (hother : adapterId ∈ quarantined ∨
      ∀ binding, phase.binding = some binding → binding.adapter.id ≠ adapterId) :
    phase.Recorded ⟨cells, adapterId :: quarantined⟩ := by
  intro binding hbinding
  refine (h binding hbinding).of_same (PluginHandle.SameReport.adapter ⟨rfl, rfl⟩ ?_) ⟨rfl, rfl⟩
  rw [List.mem_cons]
  constructor
  · rintro (hsame | hold)
    · rcases hother with hin | hne
      · exact hsame ▸ hin
      · exact absurd hsame (hne binding hbinding)
    · exact hold
  · exact Or.inr

theorem Registry.resolveAdapter_filled {registry : Registry} {adapterId : String}
    (hfilled : ∀ handle ∈ (registry : List PluginHandle), handle.cell < cells.length)
    (h : registry.resolveAdapter adapterId = some handle) : handle.cell < cells.length :=
  hfilled handle (List.mem_of_find?_eq_some h)

theorem LoadedPluginSet.resolve_filled {loaded : LoadedPluginSet} {kind : PluginKind} {id : String}
    (hfilled : ∀ plugin ∈ (loaded : List LoadedPlugin), plugin.handle.cell < cells.length)
    (h : loaded.resolve kind id = some handle) : handle.cell < cells.length := by
  obtain ⟨plugin, hfind, rfl⟩ := Option.map_eq_some_iff.mp h
  exact hfilled plugin (List.mem_of_find?_eq_some hfind)

theorem activateProtocols_filled {registry : Registry} {topology : ActiveGeneration}
    (hfilled : ∀ handle ∈ (registry : List PluginHandle), handle.cell < cells.length)
    (h : activateProtocols generationId config registry = some topology) :
    topology.Filled cells := by
  obtain ⟨hresolved, -, hregistry⟩ := activateProtocols_spec h
  have hactive : ∀ handle ∈ (topology.protocolRegistry : List PluginHandle),
      handle.cell < cells.length := by
    intro handle hmem
    rw [hregistry] at hmem
    exact hfilled handle (List.mem_filter.mp hmem).1
  refine ⟨hactive, Registry.resolveAdapter_filled hactive hresolved.defaultAdapter, ?_⟩
  intro handle hhandle
  exact Registry.resolveAdapter_filled hactive (hresolved.defaultBedrockAdapter handle hhandle)

theorem SessionPhase.of_new {generation : ActiveGeneration} {transport : TransportKind}
    {adapter gameplay : PluginHandle} {entityId : Option Nat}
    (hbinding : phase.binding =
      some (.new handles generation transport adapter gameplay entityId))
    (hphase : phase.generation = some generation) (hgeneration : generation.Filled handles.cells)
    (hadapter : adapter.cell < handles.cells.length)
    (hgameplay : gameplay.cell < handles.cells.length) : phase.Sound handles := by
  refine ⟨⟨?_, ?_, ?_⟩, recorded_of_some hbinding (BoundSession.recorded_new ..)⟩
  · intro other hother
    rw [hphase] at hother
    cases hother
    exact hgeneration
  · intro binding hother
    rw [hbinding] at hother
    cases hother
    exact hadapter
  · intro binding hother
    rw [hbinding] at hother
    cases hother
    exact hgameplay

theorem SessionPhase.of_unbound (hbinding : phase.binding = none)
    (hgeneration : ∀ generation, phase.generation = some generation →
      generation.Filled handles.cells) : phase.Sound handles := by
  refine ⟨⟨hgeneration, ?_, ?_⟩, recorded_of_none hbinding⟩
  · intro binding hother
    rw [hbinding] at hother
    cases hother
  · intro binding hother
    rw [hbinding] at hother
    cases hother

theorem SessionPhase.of_binding (h : phase.Sound handles)
    (hbinding : phase'.binding = phase.binding)
    (hgeneration : phase'.generation = phase.generation) : phase'.Sound handles := by
  refine ⟨⟨?_, ?_, ?_⟩, ?_⟩
  · rw [hgeneration]
    exact h.1.generation
  · rw [hbinding]
    exact h.1.adapter
  · rw [hbinding]
    exact h.1.gameplay
  · unfold Recorded
    rw [hbinding]
    exact h.2

namespace RuntimeServer

theorem resolveGameplayForAdapter_filled {adapter gameplay : PluginHandle}
    (hepoch : s.epoch.Filled s.cells) (h : s.resolveGameplayForAdapter adapter = some gameplay) :
    gameplay.cell < s.cells.length :=
  LoadedPluginSet.resolve_filled hepoch.loadedPlugins h

theorem handleEvent_recorded (hepoch : s.epoch.Filled s.cells) (hs : phase.Sound s.handles)
    (h : s.handleEvent phase event = some phase') : phase'.Sound s.handles := by
  unfold handleEvent at h
  split at h
  · -- A handshake.
    rename_i generation adapterId login
    simp only [Option.bind_eq_bind, Option.bind_eq_some_iff, Option.some.injEq] at h
    obtain ⟨adapter, hadapter, binding, hbind, rfl⟩ := h
    obtain ⟨gameplay, hgameplay, rfl⟩ := bind_spec hbind
    have hgeneration := hs.1.generation generation rfl
    have hadapterFilled : adapter.cell < s.cells.length := by
      cases adapterId with
      | some adapterId => exact Registry.resolveAdapter_filled hgeneration.registry hadapter
      | none =>
        cases hadapter
        exact hgeneration.defaultAdapter
    have hgameplayFilled := resolveGameplayForAdapter_filled hepoch hgameplay
    cases login <;>
      exact SessionPhase.of_new rfl rfl hgeneration hadapterFilled hgameplayFilled
  · -- A Bedrock client that asks for its adapter.
    rename_i current adapterId
    simp only [Option.bind_eq_bind, Option.bind_eq_some_iff, Option.some.injEq] at h
    obtain ⟨adapter, hadapter, binding, hbind, rfl⟩ := h
    obtain ⟨gameplay, hgameplay, rfl⟩ := bind_spec hbind
    have hgeneration := hs.1.generation current.generation rfl
    exact SessionPhase.of_new rfl rfl hgeneration
      (Registry.resolveAdapter_filled hgeneration.registry hadapter)
      (resolveGameplayForAdapter_filled hepoch hgameplay)
  · cases h
    exact SessionPhase.of_binding hs rfl rfl
  · -- The login is accepted: the binding is made anew from its own handles.
    rename_i stage binding playerId entityId
    cases h
    exact SessionPhase.of_new rfl rfl (hs.1.generation binding.generation rfl)
      (hs.1.adapter binding rfl) (hs.1.gameplay binding rfl)
  · cases h
    exact SessionPhase.of_binding hs rfl rfl
  · cases h
    exact SessionPhase.of_unbound rfl fun generation hother => by cases hother
  · cases h
    exact SessionPhase.of_unbound rfl fun generation hother => by cases hother
  · cases h
    exact SessionPhase.of_unbound rfl fun generation hother => by cases hother
  · cases h
    exact SessionPhase.of_unbound rfl fun generation hother => by cases hother
  · cases h
    exact hs
  · cases h

end RuntimeServer

namespace RuntimeServer

theorem admittedPhase_recorded {transport : TransportKind} (hepoch : s.epoch.Filled s.cells)
    (hdraining : ∀ generation ∈ s.draining, generation.Filled s.cells)
    (h : s.admittedPhase generationId transport = some phase) : phase.Sound s.handles := by
  simp only [admittedPhase, Option.bind_eq_bind, Option.bind_eq_some_iff] at h
  obtain ⟨generation, hadmission, h⟩ := h
  have hgeneration : generation.Filled s.cells := by
    unfold generationAdmission at hadmission
    split at hadmission
    · cases hadmission
      exact hepoch.topology
    · exact hdraining generation (List.mem_of_find?_eq_some hadmission)
  cases transport with
  | tcp =>
    cases h
    refine SessionPhase.of_unbound rfl fun other hother => ?_
    cases hother
    exact hgeneration
  | udp =>
    simp only [Option.bind_eq_some_iff, Option.some.injEq] at h
    obtain ⟨adapter, hadapter, binding, hbind, rfl⟩ := h
    obtain ⟨gameplay, hgameplay, rfl⟩ := bind_spec hbind
    exact SessionPhase.of_new rfl rfl hgeneration
      (hgeneration.defaultBedrockAdapter adapter hadapter)
      (resolveGameplayForAdapter_filled hepoch hgameplay)

theorem buildCandidateSessionPhase_recorded {candidate : RuntimeEpoch}
    (hcandidate : candidate.Filled handles.cells)
    (h : buildCandidateSessionPhase handles candidate phase = some phase') :
    phase'.Sound handles := by
  rcases buildCandidateSessionPhase_cases h with ⟨hnone, hgeneration⟩ |
    ⟨binding, entityId, bound, -, hbound, hbinding, hgeneration⟩
  · refine SessionPhase.of_unbound hnone fun generation hother => ?_
    rw [hgeneration generation hother]
    exact hcandidate.topology
  · obtain ⟨adapter, gameplay, hadapter, hgameplay, rfl⟩ := candidateBinding_spec hbound
    exact SessionPhase.of_new hbinding hgeneration hcandidate.topology
      (Registry.resolveAdapter_filled hcandidate.topology.registry hadapter)
      (LoadedPluginSet.resolve_filled hcandidate.loadedPlugins hgameplay)

theorem prepareExecutablePhase_recorded {parent : HandleState} {epoch : RuntimeEpoch}
    (hepoch : epoch.Filled handles.cells)
    (h : prepareExecutablePhase parent handles epoch.topology epoch.selection.loadedPlugins phase =
      some phase') : phase'.Sound handles := by
  have htopology : ∀ generationId,
      ActiveGeneration.Filled { epoch.topology with generationId := generationId } handles.cells :=
    fun generationId => ⟨hepoch.topology.registry, hepoch.topology.defaultAdapter,
      hepoch.topology.defaultBedrockAdapter⟩
  rcases prepareExecutablePhase_cases h with ⟨hnone, hgeneration⟩ |
    ⟨generationId, snapshot, entityId, bound, hbound, hbinding, hgeneration⟩
  · refine SessionPhase.of_unbound hnone fun generation hother => ?_
    obtain ⟨generationId, rfl⟩ := hgeneration generation hother
    exact htopology generationId
  · obtain ⟨adapter, gameplay, hadapter, hgameplay, rfl⟩ := prepareExecutableBinding_spec hbound
    exact SessionPhase.of_new hbinding hgeneration (htopology generationId)
      (Registry.resolveAdapter_filled hepoch.topology.registry hadapter)
      (LoadedPluginSet.resolve_filled hepoch.loadedPlugins hgameplay)

end RuntimeServer

/-! ### The resync decision -/

/-- A session in play, or one that has ended. -/
def SessionPhase.settled : SessionPhase → Bool
  | .play _ _ _ => true
  | .closing _ _ _ => true
  | _ => false

/-- What was prepared still fits the session: an unchanged generation needs no resync. -/
structure PendingSessionState.Decides (pending : PendingSessionState) (phase : SessionPhase) :
    Prop where
  unchanged : pending.resync = false → phase.bindingChanged pending.phase = false
  settled : pending.phase.player.isSome = true → phase.settled = true

theorem SessionPhase.bindingChanged_player {pending : SessionPhase}
    (h : phase.bindingChanged pending = true) : pending.player.isSome = true := by
  unfold bindingChanged at h
  split at h
  · rfl
  · cases h

theorem RuntimeServer.handleEvent_settled (hsettled : phase.settled = true)
    (h : s.handleEvent phase event = some phase') :
    phase' = phase ∨ ∃ generationId transport shown, phase' = .closing generationId transport shown := by
  cases phase with
  | handshaking generation => cases hsettled
  | status binding => cases hsettled
  | login stage binding => cases hsettled
  | play binding playerId entityId =>
    cases event with
    | close =>
      cases h
      exact Or.inr ⟨_, _, _, rfl⟩
    | other =>
      cases h
      exact Or.inl rfl
    | _ => cases h
  | closing generationId transport shown =>
    cases event with
    | other =>
      cases h
      exact Or.inl rfl
    | _ => cases h

theorem PendingSessionState.Decides.handleEvent {pending : PendingSessionState}
    (hpending : pending.Decides phase) (h : s.handleEvent phase event = some phase') :
    pending.Decides phase' := by
  have hplay : pending.phase.player.isSome = true →
      phase' = phase ∨ ∃ generationId transport shown, phase' = .closing generationId transport shown :=
    fun hplayer => RuntimeServer.handleEvent_settled (hpending.settled hplayer) h
  constructor
  · intro hresync
    rw [← Bool.not_eq_true]
    intro hchanged
    rcases hplay (SessionPhase.bindingChanged_player hchanged) with rfl |
      ⟨generationId, transport, shown, rfl⟩
    · rw [hpending.unchanged hresync] at hchanged
      cases hchanged
    · cases hchanged
  · intro hplayer
    rcases hplay hplayer with rfl | ⟨generationId, transport, shown, rfl⟩
    · exact hpending.settled hplayer
    · rfl

theorem RuntimeServer.buildCandidateSessionPhase_settled {candidate : RuntimeEpoch}
    (h : buildCandidateSessionPhase handles candidate phase = some phase')
    (hplayer : phase'.player.isSome = true) : phase.settled = true := by
  unfold buildCandidateSessionPhase at h
  split at h
  · cases h
    cases hplayer
  · obtain ⟨bound, -, rfl⟩ := Option.map_eq_some_iff.mp h
    cases hplayer
  · obtain ⟨bound, -, rfl⟩ := Option.map_eq_some_iff.mp h
    cases hplayer
  · obtain ⟨bound, -, rfl⟩ := Option.map_eq_some_iff.mp h
    cases hplayer
  · rfl
  · rfl

/-! ### The directory -/

/-- The entry of a session is that of its phase, or one of an earlier phase that it is about to
    replace; what it shows of the generations is what the binding records. -/
structure Session.Shown (session : Session) : Prop where
  published : session.handling = false → session.directory = session.phase.directoryEntry
  capabilities : ∀ capabilities, session.directory.capabilities = some capabilities →
    session.phase.settled = true ∧ ∀ binding, session.phase.binding = some binding →
      binding.capabilities = capabilities

theorem Session.shown_of_published (h : session.directory = session.phase.directoryEntry) :
    session.Shown := by
  refine ⟨fun _ => h, fun capabilities hcapabilities => ?_⟩
  rw [h] at hcapabilities
  cases hphase : session.phase with
  | handshaking generation | status binding | login stage binding =>
    rw [hphase] at hcapabilities
    cases hcapabilities
  | play binding playerId entityId =>
    rw [hphase] at hcapabilities
    cases hcapabilities
    exact ⟨rfl, fun other hother => by cases hother; rfl⟩
  | closing generationId transport shown =>
    rw [hphase] at hcapabilities
    cases hcapabilities

theorem Session.Shown.handleEvent (hs : session.Shown)
    (h : s.handleEvent session.phase event = some phase') :
    Session.Shown { session with phase := phase', handling := true } := by
  refine ⟨fun hidle => (by cases hidle), fun capabilities hcapabilities => ?_⟩
  obtain ⟨hsettled, hbinding⟩ := hs.capabilities capabilities hcapabilities
  rcases RuntimeServer.handleEvent_settled hsettled h with rfl | ⟨generationId, transport, shown, rfl⟩
  · exact ⟨hsettled, hbinding⟩
  · exact ⟨rfl, fun other hother => by cases hother⟩

theorem SessionPhase.directoryEntry_player (phase : SessionPhase) :
    phase.directoryEntry.player = phase.player := by
  cases phase <;> rfl

theorem bindingMatches_recorded (h : phase.Recorded handles) :
    bindingMatches phase.directoryEntry phase.connectionPhase
      (phase.binding.map (executableBinding handles)) = true := by
  cases phase with
  | handshaking generation => simp [bindingMatches, SessionPhase.binding,
      SessionPhase.directoryEntry, SessionPhase.directoryPhase, SessionDirectoryEntry.adapterId,
      SessionDirectoryEntry.capabilities]
  | status binding | login stage binding => exact decide_eq_true ⟨rfl, rfl⟩
  | play binding playerId entityId =>
    have hrecorded := h binding rfl
    have hprofile := congrArg SessionCapabilitySet.gameplayProfile hrecorded
    have hprotocol := congrArg SessionCapabilitySet.protocolGeneration hrecorded
    have hgameplay := congrArg SessionCapabilitySet.gameplayGeneration hrecorded
    exact decide_eq_true ⟨rfl, congrArg some hprofile, hprotocol, hgameplay⟩
  | closing generationId transport shown => simp [bindingMatches, SessionPhase.binding,
      SessionPhase.directoryEntry, SessionPhase.directoryPhase, SessionDirectoryEntry.adapterId,
      SessionDirectoryEntry.capabilities]

/-- **The comparison of the upgrade** accepts a session that has recorded what its handles report and
    has published its phase. -/
theorem validateActorDirectoryEntry_recorded (h : phase.Recorded handles) :
    validateActorDirectoryEntry handles phase.directoryEntry phase = true := by
  rw [validateActorDirectoryEntry, Bool.and_eq_true]
  refine ⟨decide_eq_true ⟨rfl, rfl, rfl, ?_⟩, bindingMatches_recorded h⟩
  exact phase.directoryEntry_player

/-! ### Updates in shared handles -/

/-- The updates that a reload puts into the handles of the host. -/
def StagedCutover.updates (reload : StagedCutover) : List ArtifactUpdate :=
  match reload.preparedPlugins with
  | some (.artifacts updates) => updates
  | _ => []

/-- The new generation reports what the handle reports already. -/
def ArtifactUpdate.Restates (update : ArtifactUpdate) (cells : Cells) (handle : PluginHandle) :
    Prop :=
  handle.pluginGenerationId cells = some update.generation.generationId ∧
    handle.capabilitySet cells = update.generation.capabilities

instance (update : ArtifactUpdate) (cells : Cells) (handle : PluginHandle) :
    Decidable (update.Restates cells handle) :=
  inferInstanceAs (Decidable (_ ∧ _))

namespace PluginHost

theorem applyUpdate_sameReport {update : ArtifactUpdate} (hfilled : handle.cell < cells.length)
    (h : ∀ target, managed.handle update.kind update.id = some target →
      target.cell = handle.cell → update.Restates cells handle) :
    handle.SameReport cells (applyUpdate cells managed update).1 := by
  unfold applyUpdate
  split
  · exact ⟨rfl, rfl⟩
  · rename_i entry hentry
    by_cases hcell : entry.handle.cell = handle.cell
    · obtain ⟨hid, hcapabilities⟩ :=
        h entry.handle (by rw [ManagedPlugins.handle, hentry]; rfl) hcell
      have hgeneration : handle.generation (cells.set entry.handle.cell update.generation) =
          some update.generation := by
        rw [PluginHandle.generation, hcell]
        exact List.getElem?_set_self hfilled
      constructor
      · rw [hid, PluginHandle.pluginGenerationId, hgeneration]
        rfl
      · rw [hcapabilities, PluginHandle.capabilitySet, hgeneration]
        rfl
    · have hgeneration : handle.generation (cells.set entry.handle.cell update.generation) =
          handle.generation cells := List.getElem?_set_ne hcell
      simp only [PluginHandle.SameReport, PluginHandle.pluginGenerationId,
        PluginHandle.capabilitySet, hgeneration, and_self]

theorem applyUpdates_length (cells : Cells) (managed : ManagedPlugins)
    (updates : List ArtifactUpdate) :
    (applyUpdates cells managed updates).1.length = cells.length := by
  induction updates generalizing cells managed with
  | nil => rfl
  | cons update rest ih => exact (ih _ _).trans (applyUpdate_cells cells managed update)

theorem applyUpdates_sameReport {updates : List ArtifactUpdate}
    (hfilled : handle.cell < cells.length)
    (h : ∀ update ∈ updates, ∀ target, managed.handle update.kind update.id = some target →
      target.cell = handle.cell → update.Restates cells handle) :
    handle.SameReport cells (applyUpdates cells managed updates).1 := by
  induction updates generalizing cells managed with
  | nil => exact ⟨rfl, rfl⟩
  | cons update rest ih =>
    have hfirst := applyUpdate_sameReport hfilled (h update List.mem_cons_self)
    have hrest := @ih (applyUpdate cells managed update).1 (applyUpdate cells managed update).2
      (by rw [applyUpdate_cells]; exact hfilled) ?_
    · exact ⟨hrest.1.trans hfirst.1, hrest.2.trans hfirst.2⟩
    · intro other hother target htarget hcell
      rw [applyUpdate_handle] at htarget
      have hrestates := h other (List.mem_cons_of_mem _ hother) target htarget hcell
      exact ⟨hfirst.1.trans hrestates.1, hfirst.2.trans hrestates.2⟩

end PluginHost

/-! ### The invariant -/

/-- A session and the handles, under the published revision. -/
structure Session.Follows (session : Session) (handles : HandleState) (revision : Nat) : Prop where
  known : session.epochRevision ≤ revision
  filled : session.phase.Filled handles.cells
  recorded : session.epochRevision = revision → session.phase.Recorded handles
  shown : session.Shown
  pending : ∀ pending, session.pending = some pending →
    pending.phase.Sound handles ∧
      (pending.epochRevision ≠ revision → pending.Decides session.phase)

namespace RuntimeServer

structure Recording (s : RuntimeServer) : Prop where
  epoch : s.epoch.Filled s.cells
  draining : ∀ generation ∈ s.draining, generation.Filled s.cells
  candidate : ∀ reload, s.reload = some reload →
    reload.candidate.revision = s.epoch.revision + 1 ∧ reload.candidate.Filled s.cells
  sessions : ∀ session ∈ s.sessions, session.Follows s.handles s.epoch.revision

/-- Nothing new goes into a handle that a session is prepared on. -/
def LeavesPrepared (s : RuntimeServer) (reload : StagedCutover) : Prop :=
  ∀ update ∈ reload.updates, ∀ target ∈ s.host.managed.handle update.kind update.id,
    ∀ session ∈ s.sessions, ∀ pending ∈ session.pending, ∀ binding ∈ pending.phase.binding,
      ∀ handle ∈ [binding.adapter, binding.gameplay],
        target.cell = handle.cell → update.Restates s.cells handle

def LeavesQuarantine (s : RuntimeServer) (reload : StagedCutover) : Prop :=
  ∀ session ∈ s.sessions, ∀ pending ∈ session.pending, ∀ binding ∈ pending.phase.binding,
    binding.adapter.id ∈ s.quarantined → binding.adapter.id ∉ reload.clearedPluginIds

/-- The adapter is in quarantine already, or no session has it in a phase that is or becomes
    current. -/
def Unused (s : RuntimeServer) (adapterId : String) : Prop :=
  adapterId ∈ s.quarantined ∨ ∀ session ∈ s.sessions,
    (session.epochRevision = s.epoch.revision →
      ∀ binding ∈ session.phase.binding, binding.adapter.id ≠ adapterId) ∧
    ∀ pending ∈ session.pending, ∀ binding ∈ pending.phase.binding, binding.adapter.id ≠ adapterId

/-- No adapter fails that a session uses, and no reload that commits changes what the handles report
    that a session is prepared on. -/
def Untouched (s : RuntimeServer) : ReloadStep → Prop
  | .adapterFails adapterId => s.Unused adapterId
  | .commit => ∀ reload ∈ s.reload, s.LeavesPrepared reload ∧ s.LeavesQuarantine reload
  | _ => True

instance (s : RuntimeServer) (reload : StagedCutover) : Decidable (s.LeavesPrepared reload) :=
  inferInstanceAs (Decidable (∀ update ∈ reload.updates, ∀ target ∈ _, ∀ session ∈ s.sessions,
    ∀ pending ∈ session.pending, ∀ binding ∈ pending.phase.binding,
      ∀ handle ∈ [binding.adapter, binding.gameplay], _ → _))

instance (s : RuntimeServer) (reload : StagedCutover) : Decidable (s.LeavesQuarantine reload) :=
  inferInstanceAs (Decidable (∀ session ∈ s.sessions, ∀ pending ∈ session.pending,
    ∀ binding ∈ pending.phase.binding, _ → _))

instance (s : RuntimeServer) (adapterId : String) : Decidable (s.Unused adapterId) :=
  inferInstanceAs (Decidable (_ ∨ ∀ session ∈ s.sessions,
    (_ → ∀ binding ∈ session.phase.binding, _) ∧
      ∀ pending ∈ session.pending, ∀ binding ∈ pending.phase.binding, _))

instance (s : RuntimeServer) : ∀ a, Decidable (s.Untouched a)
  | .adapterFails adapterId => inferInstanceAs (Decidable (s.Unused adapterId))
  | .commit => inferInstanceAs (Decidable (∀ reload ∈ s.reload,
      s.LeavesPrepared reload ∧ s.LeavesQuarantine reload))
  | .admission _ _ => .isTrue trivial
  | .handle _ _ | .publishDirectory _ | .sessionEnds _ | .stage _ _ _ | .prepareBegins
  | .prepareSession _ | .freeze | .abort | .activate _ | .retire _ | .handOff _ => .isTrue trivial

theorem commitCutover_length (s : RuntimeServer) (reload : StagedCutover) :
    (s.commitCutover reload).cells.length = s.cells.length := by
  unfold commitCutover
  cases hprepared : reload.preparedPlugins with
  | none => rfl
  | some plugins =>
    cases plugins with
    | fresh config managed => rfl
    | artifacts updates => exact PluginHost.applyUpdates_length _ _ _

theorem commitCutover_sameReport (hfilled : handle.cell < s.cells.length)
    (h : ∀ update ∈ reload.updates, ∀ target,
      s.host.managed.handle update.kind update.id = some target →
        target.cell = handle.cell → update.Restates s.cells handle) :
    handle.SameReport s.cells (s.commitCutover reload).cells := by
  unfold StagedCutover.updates at h
  unfold commitCutover
  cases hprepared : reload.preparedPlugins with
  | none => exact ⟨rfl, rfl⟩
  | some plugins =>
    rw [hprepared] at h
    cases plugins with
    | fresh config managed => exact ⟨rfl, rfl⟩
    | artifacts updates => exact PluginHost.applyUpdates_sameReport hfilled h

theorem Untouched.sameReport (h : s.Untouched .commit) (hreload : s.reload = some reload)
    (hsession : session ∈ s.sessions) {pending : PendingSessionState}
    (hpending : session.pending = some pending) (hbinding : pending.phase.binding = some binding)
    (hfilled : pending.phase.Filled s.cells) :
    binding.adapter.SameAdapterReport s.handles (s.commitCutover reload).handles ∧
      binding.gameplay.SameReport s.cells (s.commitCutover reload).cells := by
  obtain ⟨hprepared, hquarantine⟩ := h reload hreload
  have hsame : ∀ handle ∈ [binding.adapter, binding.gameplay], handle.cell < s.cells.length →
      handle.SameReport s.cells (s.commitCutover reload).cells := by
    intro handle hhandle hcell
    refine commitCutover_sameReport hcell fun update hupdate target htarget => ?_
    exact hprepared update hupdate target htarget session hsession pending hpending binding hbinding
      handle hhandle
  refine ⟨(hsame _ List.mem_cons_self (hfilled.adapter binding hbinding)).adapter ?_,
    hsame _ (List.mem_cons_of_mem _ List.mem_cons_self) (hfilled.gameplay binding hbinding)⟩
  have hkept := hquarantine session hsession pending hpending binding hbinding
  show _ ∈ s.quarantined.filter _ ↔ _
  rw [List.mem_filter]
  exact ⟨And.left, fun hin => ⟨hin, decide_eq_true (hkept hin)⟩⟩

end RuntimeServer

/-! ### Steps -/

namespace RuntimeServer

theorem loadedPluginSet_filled (h : managed.WellKept cells) :
    ∀ plugin ∈ (managed.loadedPluginSet : List LoadedPlugin), plugin.handle.cell < cells.length := by
  intro plugin hplugin
  obtain ⟨entry, hentry, rfl⟩ := List.mem_map.mp hplugin
  exact h.filled entry hentry

theorem registry_filled (h : managed.WellKept cells) :
    ∀ handle ∈ (managed.registry : List PluginHandle), handle.cell < cells.length := by
  intro handle hhandle
  obtain ⟨entry, hentry, rfl⟩ := List.mem_map.mp hhandle
  exact h.filled entry (List.mem_filter.mp hentry).1

theorem prepareTopology_filled {mode : RuntimeReloadMode} {candidate : ProtocolTopologyCandidate}
    {prepared : PreparedTopologyReload} (hepoch : s.epoch.Filled cells)
    (hmanaged : candidate.managed.WellKept cells)
    (h : s.prepareTopology cells mode config candidate = some prepared) :
    (prepared.candidateGeneration s.epoch.topology).Filled cells := by
  have htopology := hepoch.topology
  unfold prepareTopology at h
  split at h
  · cases h
    exact ⟨htopology.registry, htopology.defaultAdapter, htopology.defaultBedrockAdapter⟩
  · simp only [prepareGenerationReload, Option.bind_eq_bind, Option.bind_eq_some_iff] at h
    obtain ⟨activated, hactivated, h⟩ := h
    have hfilled := activateProtocols_filled (registry_filled hmanaged) hactivated
    split at h
    · split at h
      · cases h
        exact hfilled
      · cases h
        exact htopology
    · cases h
      exact ⟨hfilled.registry, hfilled.defaultAdapter, hfilled.defaultBedrockAdapter⟩

theorem stageCutover_filled {mode : RuntimeReloadMode} {loaded : ServerConfig} (hkept : s.Kept)
    (hepoch : s.epoch.Filled s.cells)
    (hconfig : candidateConfig s.epoch.selection.config loaded mode = some config)
    (h : s.stageCutover mode loaded disk = some reload) :
    reload.candidate.revision = s.epoch.revision + 1 ∧
      reload.candidate.Filled (s.stagePlugins config disk mode).1 := by
  simp only [stageCutover, hconfig, Option.bind_eq_bind, Option.bind_eq_some_iff,
    Option.guard_eq_some', Option.bind_some, Option.some.injEq] at h
  obtain ⟨-, hdisk, -, -, selection, hselection, prepared, hprepared, storage, -, rfl⟩ := h
  obtain ⟨added, hcells⟩ := Kept.stagePlugins_cells s config disk mode
  have hlength : s.cells.length ≤ (s.stagePlugins config disk mode).1.length := by
    rw [hcells, List.length_append]
    omega
  have hmanaged : (committedManaged s.host (s.stagePlugins config disk mode).2).WellKept
      (s.stagePlugins config disk mode).1 := by
    cases hstaged : (s.stagePlugins config disk mode).2 with
    | none => exact hkept.managed.mono hlength
    | some plugins =>
      cases plugins with
      | fresh config' managed => exact Kept.stagePlugins_fresh hdisk hstaged
      | artifacts updates => exact hkept.managed.mono hlength
  refine ⟨rfl, prepareTopology_filled (hepoch.mono hlength) ?_ hprepared, ?_⟩
  · rw [candidatePlugins_managed]
    exact hmanaged
  · simp only [(resolveSelection_spec hselection).2.1]
    cases hstaged : (s.stagePlugins config disk mode).2 with
    | none => exact (hepoch.mono hlength).loadedPlugins
    | some plugins =>
      rw [hstaged] at hmanaged
      cases plugins with
      | fresh config' managed | artifacts updates => exact loadedPluginSet_filled hmanaged

namespace Recording

variable {s s' : RuntimeServer}

theorem of_sessions (hs : s.Recording) (hhandles : s'.handles = s.handles) (hepoch : s'.epoch = s.epoch)
    (hplans : s'.plans = s.plans)
    (hdraining : ∀ generation ∈ s'.draining, generation ∈ s.draining)
    (hsessions : ∀ session ∈ s'.sessions,
      session ∈ s.sessions ∨ session.Follows s.handles s.epoch.revision) :
    s'.Recording := by
  have hcells : s'.cells = s.cells := congrArg HandleState.cells hhandles
  constructor
  · rw [hcells, hepoch]
    exact hs.epoch
  · intro generation hmem
    rw [hcells]
    exact hs.draining generation (hdraining generation hmem)
  · intro reload' hmem
    obtain ⟨reload, hreload, heq, -⟩ := reload_of_plans hplans hmem
    rw [heq, hcells, hepoch]
    exact hs.candidate reload hreload
  · intro session hsession
    rw [hhandles, hepoch]
    rcases hsessions session hsession with hmem | hfollows
    · exact hs.sessions session hmem
    · exact hfollows

theorem dropped {revision : Nat} (h : session.Follows handles revision) : Session.Follows
      { session with
        pending := session.pending.filter fun pending => pending.epochRevision = revision }
      handles revision :=
  ⟨h.known, h.filled, h.recorded, ⟨h.shown.published, h.shown.capabilities⟩,
    fun pending hpending => h.pending pending (Option.filter_eq_some_iff.mp hpending).1⟩

theorem boot {revision : Nat} (h : boot config disk revision generationId = some s) :
    s.Recording := by
  simp only [RuntimeServer.boot, Option.bind_eq_bind, Option.bind_eq_some_iff,
    Option.guard_eq_some', Option.some.injEq] at h
  obtain ⟨-, hdisk, topology, htopology, selection, hselection, storage, -, rfl⟩ := h
  have hkept := PluginHost.freshManaged_wellKept [] config hdisk
  refine ⟨⟨activateProtocols_filled (registry_filled hkept) htopology, ?_⟩, ?_, ?_, ?_⟩
  · simp only [(resolveSelection_spec hselection).2.1]
    exact loadedPluginSet_filled hkept
  · intro generation hmem
    cases hmem
  · intro reload hmem
    cases hmem
  · intro session hmem
    cases hmem

theorem commitCutover (hs : s.Recording) (hreload : s.reload = some reload)
    (hprepared : s.sealsCutover reload = true) (huntouched : s.Untouched .commit) :
    (s.commitCutover reload).Recording := by
  obtain ⟨hrevision, hcandidate⟩ := hs.candidate reload hreload
  have hlength := (s.commitCutover_length reload).ge
  have hepoch : (s.commitCutover reload).epoch.revision = s.epoch.revision + 1 := hrevision
  refine ⟨hcandidate.mono hlength, ?_, fun other hother => (by cases hother), ?_⟩
  · intro generation hmem
    have hold : generation ∈ s.draining ∨ generation = s.epoch.topology := by
      simp only [RuntimeServer.commitCutover] at hmem
      split at hmem
      · simpa using hmem
      · exact Or.inl hmem
    rcases hold with hmem | rfl
    · exact (hs.draining generation hmem).mono hlength
    · exact hs.epoch.topology.mono hlength
  · intro session hsession
    have hold := hs.sessions session hsession
    have hknown := hold.known
    refine ⟨by omega, hold.filled.mono hlength, fun hother => by omega, hold.shown, ?_⟩
    intro pending hpending
    have hnext : pending.epochRevision = (s.commitCutover reload).epoch.revision :=
      sealsCutover_spec hprepared session hsession pending hpending
    obtain ⟨⟨hfilled, hrecorded⟩, -⟩ := hold.pending pending hpending
    refine ⟨⟨hfilled.mono hlength, fun binding hbinding => ?_⟩, fun hne => absurd hnext hne⟩
    obtain ⟨hadapter, hgameplay⟩ :=
      huntouched.sameReport hreload hsession hpending hbinding hfilled
    exact (hrecorded binding hbinding).of_same hadapter hgameplay

theorem handOff (h : s.handOff disk = some s') : s'.Recording := by
  obtain ⟨child, hchild, hepoch, -, hhandles, hdraining, hreload, hsessions⟩ := handOff_spec h
  have hcells : s'.cells = child.cells := congrArg HandleState.cells hhandles
  have hbooted := Recording.boot hchild
  obtain ⟨-, -, hidle, hrevision⟩ := Agreed.boot hchild
  refine ⟨?_, ?_, ?_, ?_⟩
  · rw [hepoch, hcells]
    exact hbooted.epoch
  · rw [hcells, hdraining]
    exact hbooted.draining
  · intro reload hmem
    rw [hreload, hidle] at hmem
    cases hmem
  · intro imported himported
    obtain ⟨session, hsession, hactivated, -, himport⟩ := hsessions imported himported
    obtain ⟨phase, hphase, rfl⟩ := importSession_spec himport
    have hrecorded : phase.Sound child.handles :=
      prepareExecutablePhase_recorded hbooted.epoch hphase
    rw [hepoch, hhandles, hrevision]
    refine ⟨?_, hrecorded.1, fun _ => hrecorded.2, Session.shown_of_published rfl, ?_⟩
    · show session.epochRevision ≤ s.epoch.revision + 1
      omega
    · intro pending hpending
      cases hpending
      exact ⟨hrecorded, fun hne => absurd rfl hne⟩

end Recording

end RuntimeServer

namespace RuntimeServer

namespace Recording

variable {s s' : RuntimeServer}

/-- **The step.** -/
theorem step {a : ReloadStep} (hkept : s.Kept) (hs : s.Recording) (huntouched : s.Untouched a)
    (h : s.step a = some s') : s'.Recording := by
  have hplans := fun hminor => (step_minor (a := a) hminor h).2.2.2
  cases a <;> simp only [RuntimeServer.step, Option.bind_eq_bind, Option.bind_eq_some_iff,
    Option.guard_eq_some', Option.some.injEq] at h
  case admission generationId transport =>
    obtain ⟨-, -, phase, hphase, rfl⟩ := h
    have hrecorded := admittedPhase_recorded hs.epoch hs.draining hphase
    refine hs.of_sessions rfl rfl (hplans rfl) (fun _ hmem => hmem) fun session hsession => ?_
    rcases List.mem_append.mp hsession with hold | hnew
    · exact Or.inl hold
    · cases List.mem_singleton.mp hnew
      exact Or.inr ⟨le_rfl, hrecorded.1, fun _ => hrecorded.2, Session.shown_of_published rfl,
        fun pending hpending => by cases hpending⟩
  case handle i event =>
    obtain ⟨session, hsession, -, hadmits, phase, hphase, rfl⟩ := h
    have hold := hs.sessions session (List.mem_of_getElem? hsession)
    have hrecorded := handleEvent_recorded hs.epoch
      ⟨hold.filled, hold.recorded (admits_spec hadmits)⟩ hphase
    refine hs.of_sessions rfl rfl (hplans rfl) (fun _ hmem => hmem) fun other hother => ?_
    rcases mem_setSession hother with rfl | hmem
    · refine Or.inr ⟨hold.known, hrecorded.1, fun _ => hrecorded.2, hold.shown.handleEvent hphase, ?_⟩
      intro pending hpending
      obtain ⟨hpendingRecorded, hdecides⟩ := hold.pending pending hpending
      exact ⟨hpendingRecorded, fun hne => (hdecides hne).handleEvent hphase⟩
    · exact Or.inl hmem
  case publishDirectory i =>
    obtain ⟨session, hsession, -, -, rfl⟩ := h
    have hold := hs.sessions session (List.mem_of_getElem? hsession)
    refine hs.of_sessions rfl rfl (hplans rfl) (fun _ hmem => hmem) fun other hother => ?_
    rcases mem_publish hother with rfl | hmem
    · exact Or.inr ⟨hold.known, hold.filled, hold.recorded, Session.shown_of_published rfl,
        hold.pending⟩
    · exact Or.inl hmem
  case sessionEnds i =>
    obtain ⟨-, -, -, -, rfl⟩ := h
    exact hs.of_sessions rfl rfl (hplans rfl) (fun _ hmem => hmem)
      fun other hother => Or.inl (List.mem_of_mem_eraseIdx hother)
  case adapterFails adapterId =>
    cases h
    refine ⟨hs.epoch, hs.draining, hs.candidate, fun session hsession => ?_⟩
    have hold := hs.sessions session hsession
    have hunused := huntouched.imp_right fun hother => hother session hsession
    refine ⟨hold.known, hold.filled, fun hactivated => (hold.recorded hactivated).quarantine
      (hunused.imp_right fun hother => hother.1 hactivated), hold.shown, ?_⟩
    intro pending hpending
    obtain ⟨⟨hfilled, hrecorded⟩, hdecides⟩ := hold.pending pending hpending
    exact ⟨⟨hfilled, hrecorded.quarantine (hunused.imp_right fun hother => hother.2 pending hpending)⟩,
      hdecides⟩
  case stage mode loaded disk =>
    obtain ⟨-, -, config, hconfig, reload, hstage, rfl⟩ := h
    have hcandidate := stageCutover_filled hkept hs.epoch hconfig hstage
    obtain ⟨added, hcells⟩ := Kept.stagePlugins_cells s config disk mode
    have hlength : s.cells.length ≤ (s.stagePlugins config disk mode).1.length := by
      rw [hcells, List.length_append]
      omega
    refine ⟨hs.epoch.mono hlength, fun generation hmem => (hs.draining generation hmem).mono hlength,
      ?_, fun session hsession => ?_⟩
    · intro other hother
      cases hother
      exact hcandidate
    · -- The handles of the sessions are older than the new cells.
      have hold := hs.sessions session hsession
      refine ⟨hold.known, hold.filled.mono hlength, fun hactivated => ?_, hold.shown, ?_⟩
      · show SessionPhase.Recorded _ ⟨_, _⟩
        rw [hcells]
        exact (hold.recorded hactivated).append added hold.filled
      · intro pending hpending
        obtain ⟨⟨hfilled, hrecorded⟩, hdecides⟩ := hold.pending pending hpending
        refine ⟨⟨hfilled.mono hlength, ?_⟩, hdecides⟩
        show SessionPhase.Recorded _ ⟨_, _⟩
        rw [hcells]
        exact hrecorded.append added hfilled
  case prepareBegins =>
    obtain ⟨reload, -, -, -, rfl⟩ := h
    refine hs.of_sessions rfl rfl (hplans rfl) (fun _ hmem => hmem) fun session hsession => ?_
    obtain ⟨old, hmem, rfl⟩ := mem_dropPending hsession
    exact Or.inr (dropped (hs.sessions old hmem))
  case prepareSession i =>
    obtain ⟨reload, hreload, -, -, session, hsession, -, -, prepared, hprepared, rfl⟩ := h
    have hold := hs.sessions session (List.mem_of_getElem? hsession)
    obtain ⟨phase, hphase, rfl⟩ := prepareSessionCutover_spec hprepared
    have hrecorded :=
      buildCandidateSessionPhase_recorded (hs.candidate reload hreload).2 hphase
    refine hs.of_sessions rfl rfl (hplans rfl) (fun _ hmem => hmem) fun other hother => ?_
    rcases mem_setSession hother with rfl | hmem
    · refine Or.inr ⟨hold.known, hold.filled, hold.recorded,
        ⟨hold.shown.published, hold.shown.capabilities⟩, ?_⟩
      intro pending hpending
      cases hpending
      refine ⟨hrecorded, fun _ => ⟨fun hresync => ?_, buildCandidateSessionPhase_settled hphase⟩⟩
      simp only [Bool.or_eq_false_iff] at hresync
      exact hresync.2
    · exact Or.inl hmem
  case freeze =>
    obtain ⟨reload, -, -, -, rfl⟩ := h
    exact hs.of_sessions rfl rfl (hplans rfl) (fun _ hmem => hmem) fun _ hother => Or.inl hother
  case commit =>
    obtain ⟨reload, hreload, -, hguard, rfl⟩ := h
    exact hs.commitCutover hreload hguard.2 huntouched
  case abort =>
    obtain ⟨reload, -, rfl⟩ := h
    refine ⟨hs.epoch, hs.draining, fun other hother => (by cases hother), fun session hsession => ?_⟩
    obtain ⟨old, hmem, rfl⟩ := mem_dropPending hsession
    exact dropped (hs.sessions old hmem)
  case activate i =>
    obtain ⟨session, hsession, pending, hpending, -, -, rfl⟩ := h
    have hold := hs.sessions session (List.mem_of_getElem? hsession)
    obtain ⟨⟨hfilled, hrecorded⟩, -⟩ := hold.pending pending hpending
    refine hs.of_sessions rfl rfl (hplans rfl) (fun _ hmem => hmem) fun other hother => ?_
    rcases mem_publish hother with rfl | hmem
    · exact Or.inr ⟨le_rfl, hfilled, fun _ => hrecorded, Session.shown_of_published rfl,
        fun other hother => by cases hother⟩
    · exact Or.inl hmem
  case retire generationId =>
    cases h
    exact hs.of_sessions rfl rfl (hplans rfl) (fun _ hmem => (List.mem_filter.mp hmem).1)
      fun _ hother => Or.inl hother
  case handOff disk =>
    obtain ⟨-, -, h⟩ := h
    exact Recording.handOff h

end Recording

/-! ### The run -/

/-- **What is recorded is what the handles report**, for the sessions that have activated the
    published epoch. -/
structure MetadataFollows (s : RuntimeServer) : Prop where
  bindings : ∀ session ∈ s.sessions, session.epochRevision = s.epoch.revision →
    ∀ binding, session.phase.binding = some binding →
      binding.capabilities = reportedCapabilities s.handles binding.adapter binding.gameplay
        binding.capabilities.entityId
  directory : ∀ session ∈ s.sessions, session.epochRevision = s.epoch.revision →
    ∀ capabilities, session.directory.capabilities = some capabilities →
      ∀ binding, session.phase.binding = some binding →
        capabilities = reportedCapabilities s.handles binding.adapter binding.gameplay
          capabilities.entityId
  published : ∀ session ∈ s.sessions, session.handling = false →
    session.directory = session.phase.directoryEntry
  upgrade : ∀ session ∈ s.sessions, session.epochRevision = s.epoch.revision →
    session.handling = false →
      validateActorDirectoryEntry s.handles session.directory session.phase = true

/-- A session in play is resynchronised when the generations that its handles report change. -/
def ResyncsChanged (s s' : RuntimeServer) : Prop :=
  ∀ session ∈ s.sessions, session.epochRevision = s.epoch.revision →
    ∀ pending, session.pending = some pending → pending.resync = false →
      ∀ active playerId entityId, session.phase = .play active playerId entityId →
        ∀ next playerId' entityId', pending.phase = .play next playerId' entityId' →
          next.adapter.adapterGenerationId s'.handles = active.adapter.adapterGenerationId s.handles ∧
            next.gameplay.pluginGenerationId s'.cells =
              active.gameplay.pluginGenerationId s.cells

theorem Recording.metadataFollows (hs : s.Recording) : s.MetadataFollows := by
  constructor
  · intro session hsession hactivated
    exact (hs.sessions session hsession).recorded hactivated
  · intro session hsession hactivated capabilities hshown binding hbinding
    have hfollows := hs.sessions session hsession
    rw [← (hfollows.shown.capabilities capabilities hshown).2 binding hbinding]
    exact hfollows.recorded hactivated binding hbinding
  · intro session hsession
    exact (hs.sessions session hsession).shown.published
  · intro session hsession hactivated hidle
    have hfollows := hs.sessions session hsession
    rw [hfollows.shown.published hidle]
    exact validateActorDirectoryEntry_recorded (hfollows.recorded hactivated)

theorem Recording.resyncsChanged (hs : s.Recording) (hreload : s.reload = some reload)
    (hprepared : s.sealsCutover reload = true) (huntouched : s.Untouched .commit) :
    s.ResyncsChanged (s.commitCutover reload) := by
  intro session hsession hactivated pending hpending hresync active playerId entityId hactive
    next playerId' entityId' hnext
  have hfollows := hs.sessions session hsession
  obtain ⟨⟨hfilled, hrecorded⟩, hdecides⟩ := hfollows.pending pending hpending
  have hrevision := sealsCutover_spec hprepared session hsession pending hpending
  have hcandidate := (hs.candidate reload hreload).1
  have hunchanged := (hdecides (by omega)).unchanged hresync
  rw [hactive, hnext, SessionPhase.bindingChanged, decide_eq_false_iff_not, not_or, not_not,
    not_not] at hunchanged
  have hbinding : pending.phase.binding = some next := by rw [hnext]; rfl
  obtain ⟨hadapter, hgameplay⟩ := huntouched.sameReport hreload hsession hpending hbinding hfilled
  have hbefore := hfollows.recorded hactivated active (by rw [hactive]; rfl)
  have hafter := hrecorded next hbinding
  rw [hbefore, hafter] at hunchanged
  exact ⟨hadapter.1.trans hunchanged.1.symm, hgameplay.1.trans hunchanged.2.symm⟩

/-- After every run in which no adapter fails that a session uses, and whose reloads leave the reports
    alone that a session is prepared on, the sessions record what their handles report, and a reload
    that commits resynchronises the sessions whose generations it changes. -/
theorem metadata_follows_generation {config : ServerConfig} {disk : List Artifact}
    {revision generationId : Nat} {s₀ s : RuntimeServer} {steps : List ReloadStep}
    (hboot : boot config disk revision generationId = some s₀)
    (hrun : Steps.run RuntimeServer.step s₀ steps = some s)
    (halong : Steps.Along RuntimeServer.step Untouched s₀ steps) :
    s.MetadataFollows ∧
      ∀ s', s.Untouched .commit → s.step .commit = some s' → s.ResyncsChanged s' := by
  have hrecording : s.Kept ∧ s.Recording := Steps.run_keeps
    (I := fun s => s.Kept ∧ s.Recording)
    (fun _ _ _ hs huntouched h => ⟨Kept.step hs.1 h, Recording.step hs.1 hs.2 huntouched h⟩)
    ⟨Kept.boot hboot, Recording.boot hboot⟩ halong hrun
  refine ⟨hrecording.2.metadataFollows, ?_⟩
  intro s' huntouched h
  simp only [RuntimeServer.step, Option.bind_eq_bind, Option.bind_eq_some_iff,
    Option.guard_eq_some', Option.some.injEq] at h
  obtain ⟨reload, hreload, -, hguard, rfl⟩ := h
  exact hrecording.2.resyncsChanged hreload hguard.2 huntouched

/-- The protocol generation that the first session has recorded, the one that its adapter reports,
    and whether an upgrade accepts the session. -/
def exampleRecord (s : RuntimeServer) : Option (Option Nat × Option Nat × Bool) := do
  let session ← s.sessions.head?
  let binding ← session.phase.binding
  some (binding.capabilities.protocolGeneration, binding.adapter.adapterGenerationId s.handles,
    validateActorDirectoryEntry s.handles session.directory session.phase)

/-- A session in play through a full reload of its adapter, which replaces the handle. -/
theorem metadata_follows_full_reload :
    ∃ s₀ s, boot exampleConfig (exampleDisk 1 1) 1 1 = some s₀ ∧
      Steps.run RuntimeServer.step s₀ (exampleLogin ++ exampleReload .full (exampleDisk 2 5)) =
        some s ∧
      s.MetadataFollows ∧ exampleRecord s = some (some 5, some 5, true) := by
  obtain ⟨s₀, hboot⟩ : ∃ s₀, boot exampleConfig (exampleDisk 1 1) 1 1 = some s₀ :=
    Option.isSome_iff_exists.mp (by decide +kernel)
  have hruns : (exampleRun (exampleLogin ++ exampleReload .full (exampleDisk 2 5))).map
      exampleRecord = some (some (some 5, some 5, true)) := by decide +kernel
  obtain ⟨s, hrun, hrecord⟩ := Option.map_eq_some_iff.mp hruns
  rw [exampleRun, hboot, Option.bind_some] at hrun
  have halong : ∀ s ∈ boot exampleConfig (exampleDisk 1 1) 1 1,
      Steps.Along RuntimeServer.step Untouched s
        (exampleLogin ++ exampleReload .full (exampleDisk 2 5)) := by decide +kernel
  exact ⟨s₀, s, hboot, hrun, (metadata_follows_generation hboot hrun (halong s₀ hboot)).1, hrecord⟩

/-- A session in play through an artifacts reload of its adapter: it has recorded the generation
    before the reload, and an upgrade refuses it. -/
theorem artifacts_reload_leaves_record_stale :
    ∃ s₀ s, boot exampleConfig (exampleDisk 1 1) 1 1 = some s₀ ∧
      Steps.run RuntimeServer.step s₀ (exampleLogin ++ exampleReload .artifacts (exampleDisk 2 5)) =
        some s ∧
      (∀ session ∈ s.sessions, session.epochRevision = s.epoch.revision) ∧
      exampleRecord s = some (some 1, some 5, false) ∧ ¬ s.MetadataFollows := by
  obtain ⟨s₀, hboot⟩ : ∃ s₀, boot exampleConfig (exampleDisk 1 1) 1 1 = some s₀ :=
    Option.isSome_iff_exists.mp (by decide +kernel)
  have hruns : (exampleRun (exampleLogin ++ exampleReload .artifacts (exampleDisk 2 5))).map
      (fun s => (exampleRecord s,
        s.sessions.all fun session => decide (session.epochRevision = s.epoch.revision),
        s.sessions.all (fun session => !session.handling))) =
      some (some (some 1, some 5, false), true, true) := by decide +kernel
  obtain ⟨s, hrun, hend⟩ := Option.map_eq_some_iff.mp hruns
  rw [exampleRun, hboot, Option.bind_some] at hrun
  simp only [Prod.mk.injEq, List.all_eq_true, decide_eq_true_eq, Bool.not_eq_true'] at hend
  obtain ⟨hrecord, hactivated, hidle⟩ := hend
  refine ⟨s₀, s, hboot, hrun, hactivated, hrecord, fun hfollows => ?_⟩
  simp only [exampleRecord, Option.bind_eq_bind, Option.bind_eq_some_iff, Option.some.injEq,
    Prod.mk.injEq] at hrecord
  obtain ⟨session, hhead, binding, -, -, -, hrefused⟩ := hrecord
  have hmem : session ∈ s.sessions := List.mem_of_mem_head? hhead
  rw [hfollows.upgrade session hmem (hactivated session hmem) (hidle session hmem)] at hrefused
  cases hrefused

end RuntimeServer

end RevyCraft.PluginHandles
