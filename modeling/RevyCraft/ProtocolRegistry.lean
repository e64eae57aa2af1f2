/-
  RevyCraft/ProtocolRegistry.lean
  ===============================
  **The registry of the protocol plugins** (`registry.rs` and the adapter of
  `host/profiles/protocol.rs`).

  An adapter asks the failure policy before every call of its plugin.  While
  the plugin is quarantined, the adapter describes itself by a placeholder and
  fails everything else, and the registry asks at different times: when an
  adapter is registered, when the registry is filtered and when a handshake is
  routed.
-/
import RevyCraft.Act
import RevyCraft.PluginFailures

namespace RevyCraft

/-! ### Adapters -/

inductive TransportKind where
  | tcp
  | udp
  deriving DecidableEq

inductive Edition where
  | je
  | be
  deriving DecidableEq

inductive WireFormatKind where
  | minecraftFramed
  | rawPacketStream
  deriving DecidableEq

inductive HandshakeNextState where
  | status
  | login
  deriving DecidableEq

structure ProtocolDescriptor where
  adapterId : String
  transport : TransportKind
  wireFormat : WireFormatKind
  edition : Edition
  versionName : String
  protocolNumber : Int
  deriving DecidableEq

structure HandshakeIntent where
  edition : Edition
  protocolNumber : Int
  serverHost : String
  serverPort : Nat
  nextState : HandshakeNextState
  deriving DecidableEq

inductive ProtocolError where
  | unexpectedEof
  | invalidVarInt
  | invalidUtf8
  | stringTooLong (length : Nat)
  | invalidPacket (message : String)
  | unsupportedPacket (id : Int)
  | plugin (message : String)
  deriving DecidableEq

/-- `PluginHostError::Config`, the only error of the registry. -/
structure PluginHostError where
  message : String

/-- `HotSwappableProtocolAdapter` and the generation it holds.  A plugin whose descriptor names
    another adapter is refused when it is loaded. -/
structure ProtocolAdapter where
  pluginId : String
  descriptor : ProtocolDescriptor
  named : descriptor.adapterId = pluginId
  /-- The answer of the plugin to `TryRoute`. -/
  invokeTryRoute : List UInt8 → Except String (Option HandshakeIntent)

/-- A call under the failure policy. -/
abbrev HostM (α : Type) : Type := Act ProtocolError PluginFailureDispatch α

namespace ProtocolAdapter

open Act

variable {α : Type}

/-- `current_generation`. -/
def checkQuarantine (adapter : ProtocolAdapter) : HostM Unit := do
  let failures ← get
  if failures.isActiveQuarantined adapter.pluginId then
    throw (.plugin ((failures.activeReason adapter.pluginId).getD "plugin quarantined"))
  else pure ()

def quarantineOnError (adapter : ProtocolAdapter) (result : Except ProtocolError α) : HostM α :=
  fun failures =>
    match result with
    | .error (.plugin message) =>
      (result, (failures.handleRuntimeFailure .protocol adapter.pluginId message).2)
    | _ => (result, failures)

def withGeneration (adapter : ProtocolAdapter) (result : Except ProtocolError α) : HostM α := do
  adapter.checkQuarantine
  adapter.quarantineOnError result

/-- `HandshakeProbe::transport_kind`; the answer does not touch the policy. -/
def transportKind (adapter : ProtocolAdapter) (failures : PluginFailureDispatch) : TransportKind :=
  match (adapter.withGeneration (.ok adapter.descriptor.transport) failures).1 with
  | .ok transport => transport
  | .error _ => .tcp

def tryRoute (adapter : ProtocolAdapter) (frame : List UInt8) : HostM (Option HandshakeIntent) :=
  adapter.withGeneration ((adapter.invokeTryRoute frame).mapError .plugin)

/-- `ProtocolAdapter::descriptor`, with the placeholder of a quarantined plugin. -/
def describe (adapter : ProtocolAdapter) (failures : PluginFailureDispatch) :
    ProtocolDescriptor :=
  match (adapter.withGeneration (.ok adapter.descriptor) failures).1 with
  | .ok descriptor => descriptor
  | .error _ =>
    { adapterId := adapter.pluginId
      transport := .tcp
      wireFormat := .minecraftFramed
      edition := .je
      versionName := "quarantined"
      protocolNumber := -1 }

end ProtocolAdapter

/-! ### The registry -/

/-- The key of `adapters_by_route`. -/
structure Route where
  transport : TransportKind
  edition : Edition
  protocolNumber : Int
  deriving DecidableEq

def ProtocolDescriptor.route (descriptor : ProtocolDescriptor) : Route :=
  ⟨descriptor.transport, descriptor.edition, descriptor.protocolNumber⟩

structure ProtocolRegistry where
  adaptersById : BTreeMap String ProtocolAdapter
  adaptersByRoute : List (Route × ProtocolAdapter)
  probes : List ProtocolAdapter

def TransportKind.debug : TransportKind → String
  | .tcp => "Tcp"
  | .udp => "Udp"

def Edition.debug : Edition → String
  | .je => "Je"
  | .be => "Be"

namespace ProtocolRegistry

def new : ProtocolRegistry := ⟨∅, [], []⟩

def resolveAdapter (registry : ProtocolRegistry) (adapterId : String) : Option ProtocolAdapter :=
  registry.adaptersById[adapterId]?

def resolveRoute (registry : ProtocolRegistry) (route : Route) : Option ProtocolAdapter :=
  registry.adaptersByRoute.lookup route

def collision (existing candidate : ProtocolDescriptor) : PluginHostError :=
  let route := s!"{candidate.transport.debug}/{candidate.edition.debug}/{candidate.protocolNumber}"
  ⟨s!"protocol route collision: existing adapter `{existing.adapterId}` conflicts with candidate `{candidate.adapterId}` for {route}"⟩

def registerAdapter (registry : ProtocolRegistry) (failures : PluginFailureDispatch)
    (adapter : ProtocolAdapter) : Except PluginHostError ProtocolRegistry :=
  let descriptor := adapter.describe failures
  match registry.resolveRoute descriptor.route with
  | some existing => .error (collision (existing.describe failures) descriptor)
  | none =>
    .ok { registry with
      adaptersByRoute := (descriptor.route, adapter) :: registry.adaptersByRoute
      adaptersById := registry.adaptersById.insert descriptor.adapterId adapter }

def registerProbe (registry : ProtocolRegistry) (adapter : ProtocolAdapter) : ProtocolRegistry :=
  { registry with probes := registry.probes ++ [adapter] }

/-- The loop of `current_protocol_topology_candidate`. -/
def registerAll (registry : ProtocolRegistry) (failures : PluginFailureDispatch) :
    List ProtocolAdapter → Except PluginHostError ProtocolRegistry
  | [] => .ok registry
  | adapter :: rest => do
    let registry ← registry.registerAdapter failures adapter
    (registry.registerProbe adapter).registerAll failures rest

/-- The loop of `filter_enabled`. -/
def filterLoop (registry : ProtocolRegistry) (failures : PluginFailureDispatch) :
    List String → List String → ProtocolRegistry → Except PluginHostError ProtocolRegistry
  | [], _, filtered => .ok filtered
  | adapterId :: rest, seen, filtered =>
    if adapterId ∈ seen then
      .error ⟨s!"enabled-adapters contains duplicate adapter `{adapterId}`"⟩
    else
      match registry.resolveAdapter adapterId with
      | none => .error ⟨s!"enabled-adapters contains unknown adapter `{adapterId}`"⟩
      | some adapter => do
        let filtered ← filtered.registerAdapter failures adapter
        registry.filterLoop failures rest (adapterId :: seen) filtered

def filterEnabled (registry : ProtocolRegistry) (failures : PluginFailureDispatch)
    (enabledAdapters : List String) : Except PluginHostError ProtocolRegistry := do
  let filtered ← registry.filterLoop failures enabledAdapters [] new
  pure { filtered with probes := registry.probes }

/-- The map is iterated in the order of its keys, which is the order they are sorted to. -/
def adapterIdsForTransport (registry : ProtocolRegistry) (failures : PluginFailureDispatch)
    (transportKind : TransportKind) : List String :=
  (registry.adaptersById.toList.filter fun entry =>
    (entry.2.describe failures).transport = transportKind).map Prod.fst

/-- The loop of `route_handshake`. -/
def routeProbes (transportKind : TransportKind) (frame : List UInt8) :
    List ProtocolAdapter → HostM (Option HandshakeIntent)
  | [] => pure none
  | probe :: rest => do
    let failures ← Act.get
    if probe.transportKind failures ≠ transportKind then routeProbes transportKind frame rest
    else
      match ← probe.tryRoute frame with
      | some intent => pure (some intent)
      | none => routeProbes transportKind frame rest

def routeHandshake (registry : ProtocolRegistry) (transportKind : TransportKind)
    (frame : List UInt8) : HostM (Option HandshakeIntent) :=
  routeProbes transportKind frame registry.probes

end ProtocolRegistry

/-! ### What a quarantine does to an adapter -/

namespace ProtocolAdapter

def Quarantined (failures : PluginFailureDispatch) (adapter : ProtocolAdapter) : Prop :=
  failures.isActiveQuarantined adapter.pluginId = true

instance (failures : PluginFailureDispatch) :
    DecidablePred (Quarantined failures) := fun _ => inferInstanceAs (Decidable (_ = true))

def quarantineReason (failures : PluginFailureDispatch) (adapter : ProtocolAdapter) : String :=
  (failures.activeReason adapter.pluginId).getD "plugin quarantined"

variable {failures : PluginFailureDispatch} {adapter : ProtocolAdapter}

theorem withGeneration_live {α : Type} (h : ¬ adapter.Quarantined failures)
    (result : Except ProtocolError α) :
    adapter.withGeneration result failures = adapter.quarantineOnError result failures := by
  unfold Quarantined at h
  simp [withGeneration, checkQuarantine, Act.bind_apply, Act.get, h]

theorem withGeneration_quarantined {α : Type} (h : adapter.Quarantined failures)
    (result : Except ProtocolError α) :
    adapter.withGeneration result failures =
      (.error (.plugin (adapter.quarantineReason failures)), failures) := by
  unfold Quarantined at h
  simp [withGeneration, checkQuarantine, Act.bind_apply, Act.get, Act.throw, h, quarantineReason]

theorem transportKind_live (h : ¬ adapter.Quarantined failures) :
    adapter.transportKind failures = adapter.descriptor.transport := by
  unfold transportKind
  rw [withGeneration_live h]
  rfl

theorem transportKind_quarantined (h : adapter.Quarantined failures) :
    adapter.transportKind failures = .tcp := by
  unfold transportKind
  rw [withGeneration_quarantined h]

/-- The route under which a plugin is registered while it is quarantined. -/
def placeholderRoute : Route := ⟨.tcp, .je, -1⟩

theorem describe_route (failures : PluginFailureDispatch) (adapter : ProtocolAdapter) :
    (adapter.describe failures).route =
      if adapter.Quarantined failures then placeholderRoute else adapter.descriptor.route := by
  unfold describe
  by_cases h : adapter.Quarantined failures
  · rw [withGeneration_quarantined h, if_pos h]
    rfl
  · rw [withGeneration_live h, if_neg h]
    rfl

theorem describe_adapterId (failures : PluginFailureDispatch) (adapter : ProtocolAdapter) :
    (adapter.describe failures).adapterId = adapter.pluginId := by
  unfold describe
  by_cases h : adapter.Quarantined failures
  · rw [withGeneration_quarantined h]
  · rw [withGeneration_live h]
    exact adapter.named

/-- The plugin describes itself as what it is. -/
def Described (failures : PluginFailureDispatch) (adapter : ProtocolAdapter) : Prop :=
  adapter.Quarantined failures → adapter.descriptor.route = placeholderRoute

theorem Described.route_eq (h : adapter.Described failures) :
    (adapter.describe failures).route = adapter.descriptor.route := by
  rw [describe_route]
  split
  · next hquarantined => exact (h hquarantined).symm
  · rfl

theorem not_quarantined_new (matrix : PluginFailureMatrix) (adapter : ProtocolAdapter) :
    ¬ adapter.Quarantined (.new matrix) := by
  unfold Quarantined PluginFailureDispatch.isActiveQuarantined PluginFailureDispatch.activeReason
    PluginFailureDispatch.new
  simp

theorem described_new (matrix : PluginFailureMatrix) (adapter : ProtocolAdapter) :
    adapter.Described (.new matrix) :=
  fun h => absurd h (not_quarantined_new matrix adapter)

end ProtocolAdapter

variable {probes plugins adapters : List ProtocolAdapter} {registry : ProtocolRegistry}
  {adapter : ProtocolAdapter}

variable {probe plugin : ProtocolAdapter}

namespace ProtocolRegistry

open ProtocolAdapter

/-! ### Routing a handshake -/

variable {failures : PluginFailureDispatch} {transportKind : TransportKind} {frame : List UInt8}

theorem routeProbes_quarantined (h : probe.Quarantined failures) (rest : List ProtocolAdapter) :
    (routeProbes transportKind frame (probe :: rest) failures).1 =
      if transportKind = .tcp then .error (.plugin (probe.quarantineReason failures))
      else (routeProbes transportKind frame rest failures).1 := by
  conv_lhs => unfold routeProbes
  simp only [Act.bind_apply, Act.get, transportKind_quarantined h]
  by_cases hkind : transportKind = .tcp
  · subst hkind
    simp [Act.bind_apply, tryRoute, withGeneration_quarantined h]
  · have hother : TransportKind.tcp ≠ transportKind := fun hsame => hkind hsame.symm
    simp [hkind, hother]

theorem routeProbes_live (h : ¬ probe.Quarantined failures) (rest : List ProtocolAdapter) :
    (routeProbes transportKind frame (probe :: rest) failures).1 =
      if probe.descriptor.transport = transportKind then
        match probe.invokeTryRoute frame with
        | .error message => .error (.plugin message)
        | .ok (some intent) => .ok (some intent)
        | .ok none => (routeProbes transportKind frame rest failures).1
      else (routeProbes transportKind frame rest failures).1 := by
  conv_lhs => unfold routeProbes
  simp only [Act.bind_apply, Act.get, transportKind_live h]
  by_cases hkind : probe.descriptor.transport = transportKind
  · simp only [hkind, ne_eq, not_true_eq_false, if_false, if_true, tryRoute, withGeneration_live h,
      Act.bind_apply]
    cases probe.invokeTryRoute frame with
    | error message => rfl
    | ok answer =>
      cases answer with
      | none => rfl
      | some intent => rfl
  · simp [hkind]

/-- The plugin has an answer to a frame of its transport: an intent, or a failure. -/
def Answers (transportKind : TransportKind) (frame : List UInt8) (probe : ProtocolAdapter) : Prop :=
  probe.descriptor.transport = transportKind ∧ probe.invokeTryRoute frame ≠ .ok none

theorem routeProbes_silent (h : ¬ probe.Quarantined failures)
    (hsilent : ¬ Answers transportKind frame probe) (rest : List ProtocolAdapter) :
    (routeProbes transportKind frame (probe :: rest) failures).1 =
      (routeProbes transportKind frame rest failures).1 := by
  rw [routeProbes_live h]
  split
  · next hkind =>
      have hnone : probe.invokeTryRoute frame = .ok none := by
        by_contra hanswer
        exact hsilent ⟨hkind, hanswer⟩
      rw [hnone]
  · rfl

theorem routeProbes_decided (hlive : ∀ probe ∈ probes, ¬ probe.Quarantined failures)
    (hanswer : ∃ probe ∈ probes, Answers transportKind frame probe)
    (rest rest' : List ProtocolAdapter) :
    (routeProbes transportKind frame (probes ++ rest) failures).1 =
      (routeProbes transportKind frame (probes ++ rest') failures).1 := by
  induction probes with
  | nil =>
    obtain ⟨probe, hmem, -⟩ := hanswer
    cases hmem
  | cons first others ih =>
    have hfirst := hlive first (List.mem_cons_self ..)
    rw [List.cons_append, List.cons_append, routeProbes_live hfirst, routeProbes_live hfirst]
    by_cases hanswers : Answers transportKind frame first
    · rw [if_pos hanswers.1, if_pos hanswers.1]
      cases hroute : first.invokeTryRoute frame with
      | error message => rfl
      | ok answer =>
        cases answer with
        | none => exact absurd hroute hanswers.2
        | some intent => rfl
    · have hrest : ∃ probe ∈ others, Answers transportKind frame probe := by
        obtain ⟨probe, hmem, hprobe⟩ := hanswer
        rcases List.mem_cons.mp hmem with rfl | hmem
        · exact absurd hprobe hanswers
        · exact ⟨probe, hmem, hprobe⟩
      have hothers := ih (fun probe hmem => hlive probe (List.mem_cons_of_mem _ hmem)) hrest
      rw [hothers]

theorem routeProbes_skip (hlive : ∀ probe ∈ probes, ¬ probe.Quarantined failures)
    (hsilent : ¬ ∃ probe ∈ probes, Answers transportKind frame probe)
    (rest : List ProtocolAdapter) : (routeProbes transportKind frame (probes ++ rest) failures).1 =
      (routeProbes transportKind frame rest failures).1 := by
  induction probes with
  | nil => rfl
  | cons first others ih =>
    rw [List.cons_append, routeProbes_silent (hlive first (List.mem_cons_self ..))]
    · apply ih
      · intro probe hmem
        exact hlive probe (List.mem_cons_of_mem _ hmem)
      · rintro ⟨probe, hmem, hprobe⟩
        exact hsilent ⟨probe, List.mem_cons_of_mem _ hmem, hprobe⟩
    · intro hanswers
      exact hsilent ⟨first, List.mem_cons_self .., hanswers⟩

/-- The plugins that are not quarantined. -/
def outside (failures : PluginFailureDispatch) (plugins : List ProtocolAdapter) :
    List ProtocolAdapter :=
  plugins.filter fun plugin => ¬ plugin.Quarantined failures

theorem routeProbes_udp (plugins : List ProtocolAdapter) :
    (routeProbes .udp frame plugins failures).1 =
      (routeProbes .udp frame (outside failures plugins) failures).1 := by
  induction plugins with
  | nil => rfl
  | cons first rest ih =>
    unfold outside at ih ⊢
    by_cases h : first.Quarantined failures
    · rw [routeProbes_quarantined h, List.filter_cons_of_neg (by simp [h])]
      exact ih
    · rw [routeProbes_live h, List.filter_cons_of_pos (by simp [h]), routeProbes_live h, ih]

/-- The first plugin outside the quarantine that answers fails with the message. -/
def FailsWith (failures : PluginFailureDispatch) (frame : List UInt8) (message : String)
    (plugins : List ProtocolAdapter) : Prop :=
  ∃ silent plugin rest, plugins = silent ++ plugin :: rest ∧
    (∀ other ∈ silent, other.Quarantined failures ∨ ¬ Answers .tcp frame other) ∧
    ¬ plugin.Quarantined failures ∧ plugin.descriptor.transport = .tcp ∧
    plugin.invokeTryRoute frame = .error message

theorem failsWith_cons_skip {first : ProtocolAdapter} {message : String}
    (h : first.Quarantined failures ∨ ¬ Answers .tcp frame first) (rest : List ProtocolAdapter) :
    FailsWith failures frame message (first :: rest) ↔ FailsWith failures frame message rest := by
  constructor
  · rintro ⟨silent, plugin, others, hsplit, hsilent, hlive, hkind, hfails⟩
    cases silent with
    | nil =>
      obtain ⟨rfl, rfl⟩ := List.cons.inj hsplit
      have hanswers : Answers .tcp frame first := ⟨hkind, by rw [hfails]; nofun⟩
      rcases h with h | h
      · exact absurd h hlive
      · exact absurd hanswers h
    | cons other silent =>
      obtain ⟨rfl, rfl⟩ := List.cons.inj hsplit
      exact ⟨silent, plugin, others, rfl, fun probe hmem =>
        hsilent probe (List.mem_cons_of_mem _ hmem), hlive, hkind, hfails⟩
  · rintro ⟨silent, plugin, others, rfl, hsilent, hlive, hkind, hfails⟩
    refine ⟨first :: silent, plugin, others, rfl, ?_, hlive, hkind, hfails⟩
    intro probe hmem
    rcases List.mem_cons.mp hmem with rfl | hmem
    · exact h
    · exact hsilent probe hmem

theorem failsWith_cons_answers {first : ProtocolAdapter} {message : String}
    (hlive : ¬ first.Quarantined failures) (hanswers : Answers .tcp frame first)
    (rest : List ProtocolAdapter) :
    FailsWith failures frame message (first :: rest) ↔
      first.invokeTryRoute frame = .error message := by
  constructor
  · rintro ⟨silent, plugin, others, hsplit, hsilent, -, -, hfails⟩
    cases silent with
    | nil =>
      obtain ⟨rfl, -⟩ := List.cons.inj hsplit
      exact hfails
    | cons other silent =>
      obtain ⟨rfl, -⟩ := List.cons.inj hsplit
      rcases hsilent first (List.mem_cons_self ..) with h | h
      · exact absurd h hlive
      · exact absurd hanswers h
  · intro hfails
    exact ⟨[], first, rest, rfl, by simp, hlive, hanswers.1, hfails⟩

theorem routeProbes_outside_fails (message : String) (plugins : List ProtocolAdapter) :
    (routeProbes .tcp frame (outside failures plugins) failures).1 = .error (.plugin message) ↔
      FailsWith failures frame message plugins := by
  induction plugins with
  | nil =>
    constructor
    · intro h
      cases h
    · rintro ⟨silent, plugin, others, hsplit, -⟩
      cases silent <;> cases hsplit
  | cons first rest ih =>
    unfold outside at ih ⊢
    by_cases h : first.Quarantined failures
    · rw [List.filter_cons_of_neg (by simp [h]), failsWith_cons_skip (.inl h)]
      exact ih
    · rw [List.filter_cons_of_pos (by simp [h])]
      by_cases hanswers : Answers .tcp frame first
      · rw [routeProbes_live h, if_pos hanswers.1, failsWith_cons_answers h hanswers]
        cases hroute : first.invokeTryRoute frame with
        | error text => simp
        | ok answer =>
          cases answer with
          | none => exact absurd hroute hanswers.2
          | some intent => simp
      · rw [routeProbes_silent h hanswers, failsWith_cons_skip (.inr hanswers)]
        exact ih

/-- No quarantined plugin is asked about the frame, or its failure is the answer of the others
    as well. -/
def Undisturbed (failures : PluginFailureDispatch) (plugins : List ProtocolAdapter)
    (transportKind : TransportKind) (frame : List UInt8) : Prop :=
  transportKind = .tcp → ∀ before plugin after, plugins = before ++ plugin :: after →
    plugin.Quarantined failures → (∀ other ∈ before, ¬ other.Quarantined failures) →
    (∃ other ∈ before, Answers .tcp frame other) ∨
      FailsWith failures frame (plugin.quarantineReason failures) after

theorem outside_of_live (h : ∀ plugin ∈ plugins, ¬ plugin.Quarantined failures) :
    outside failures plugins = plugins := by
  unfold outside
  rw [List.filter_eq_self]
  intro plugin hmem
  simpa using h plugin hmem

theorem first_quarantined (failures : PluginFailureDispatch) (plugins : List ProtocolAdapter) :
    (∀ plugin ∈ plugins, ¬ plugin.Quarantined failures) ∨
      ∃ before plugin after, plugins = before ++ plugin :: after ∧
        plugin.Quarantined failures ∧ ∀ other ∈ before, ¬ other.Quarantined failures := by
  induction plugins with
  | nil => exact .inl (by simp)
  | cons first rest ih =>
    by_cases h : first.Quarantined failures
    · exact .inr ⟨[], first, rest, rfl, h, by simp⟩
    · rcases ih with hall | ⟨before, plugin, after, rfl, hplugin, hbefore⟩
      · left
        intro plugin hmem
        rcases List.mem_cons.mp hmem with rfl | hmem
        · exact h
        · exact hall plugin hmem
      · right
        refine ⟨first :: before, plugin, after, rfl, hplugin, ?_⟩
        intro other hmem
        rcases List.mem_cons.mp hmem with rfl | hmem
        · exact h
        · exact hbefore other hmem

theorem first_quarantined_unique {before before' after after' : List ProtocolAdapter}
    {plugin' : ProtocolAdapter} (hplugin : plugin.Quarantined failures)
    (hbefore : ∀ other ∈ before, ¬ other.Quarantined failures)
    (hplugin' : plugin'.Quarantined failures)
    (hbefore' : ∀ other ∈ before', ¬ other.Quarantined failures)
    (h : before ++ plugin :: after = before' ++ plugin' :: after') :
    before' = before ∧ plugin' = plugin ∧ after' = after := by
  induction before generalizing before' with
  | nil =>
    cases before' with
    | nil =>
      obtain ⟨rfl, rfl⟩ := List.cons.inj h
      exact ⟨rfl, rfl, rfl⟩
    | cons other rest =>
      obtain ⟨rfl, -⟩ := List.cons.inj h
      exact absurd hplugin (hbefore' _ (List.mem_cons_self ..))
  | cons first rest ih =>
    cases before' with
    | nil =>
      obtain ⟨rfl, -⟩ := List.cons.inj h
      exact absurd hplugin' (hbefore _ (List.mem_cons_self ..))
    | cons other rest' =>
      obtain ⟨rfl, hrest⟩ := List.cons.inj h
      obtain ⟨rfl, rfl, rfl⟩ := ih (fun other hmem => hbefore other (List.mem_cons_of_mem _ hmem))
        (fun other hmem => hbefore' other (List.mem_cons_of_mem _ hmem)) hrest
      exact ⟨rfl, rfl, rfl⟩

theorem routeProbes_split {before after : List ProtocolAdapter}
    (hplugin : plugin.Quarantined failures)
    (hbefore : ∀ other ∈ before, ¬ other.Quarantined failures) :
    (routeProbes .tcp frame (before ++ plugin :: after) failures).1 =
        (routeProbes .tcp frame (outside failures (before ++ plugin :: after)) failures).1 ↔
      (∃ other ∈ before, Answers .tcp frame other) ∨
        FailsWith failures frame (plugin.quarantineReason failures) after := by
  have houtside : outside failures (before ++ plugin :: after) =
      before ++ outside failures after := by
    have hlive := outside_of_live hbefore
    unfold outside at hlive ⊢
    rw [List.filter_append, hlive, List.filter_cons_of_neg (by simp [hplugin])]
  rw [houtside]
  by_cases hanswer : ∃ other ∈ before, Answers .tcp frame other
  · constructor
    · intro _
      exact .inl hanswer
    · intro _
      exact routeProbes_decided hbefore hanswer _ _
  · rw [routeProbes_skip hbefore hanswer, routeProbes_skip hbefore hanswer,
      routeProbes_quarantined hplugin, if_pos rfl, eq_comm, routeProbes_outside_fails]
    simp [hanswer]

/-- **When a handshake is routed as if the quarantined plugins were not there.** -/
theorem routeProbes_undisturbed (plugins : List ProtocolAdapter) :
    (routeProbes transportKind frame plugins failures).1 =
        (routeProbes transportKind frame (outside failures plugins) failures).1 ↔
      Undisturbed failures plugins transportKind frame := by
  cases transportKind with
  | udp =>
    constructor
    · intro _ hkind
      cases hkind
    · intro _
      exact routeProbes_udp plugins
  | tcp =>
    rcases first_quarantined failures plugins with hall | ⟨before, plugin, after, rfl, hplugin, hbefore⟩
    · rw [outside_of_live hall]
      constructor
      · rintro - - before plugin after rfl hplugin -
        exact absurd hplugin (hall plugin (by simp))
      · intro _
        rfl
    · rw [routeProbes_split hplugin hbefore]
      constructor
      · rintro h - before' plugin' after' hsplit hplugin' hbefore'
        obtain ⟨rfl, rfl, rfl⟩ :=
          first_quarantined_unique hplugin hbefore hplugin' hbefore' hsplit
        exact h
      · intro h
        exact h rfl before plugin after rfl hplugin hbefore

/-! ### Registering a list of adapters -/

/-- The adapters of a loop, one after the other. -/
def registerEach (failures : PluginFailureDispatch) :
    List ProtocolAdapter → ProtocolRegistry → Except PluginHostError ProtocolRegistry
  | [], registry => .ok registry
  | adapter :: rest, registry => do
    let registry ← registry.registerAdapter failures adapter
    registerEach failures rest registry

/-- The entries of `adapters_by_route`, the last one first. -/
def routeEntries (failures : PluginFailureDispatch) (adapters : List ProtocolAdapter) :
    List (Route × ProtocolAdapter) :=
  (adapters.map fun adapter => ((adapter.describe failures).route, adapter)).reverse

/-- The registry after its adapters were added to another one. -/
def extended (registry : ProtocolRegistry) (failures : PluginFailureDispatch)
    (adapters : List ProtocolAdapter) : ProtocolRegistry :=
  { registry with
    adaptersByRoute := routeEntries failures adapters ++ registry.adaptersByRoute
    adaptersById := adapters.foldl (fun byId adapter => byId.insert adapter.pluginId adapter)
      registry.adaptersById }

theorem resolveRoute_none {route : Route} :
    registry.resolveRoute route = none ↔ route ∉ registry.adaptersByRoute.map Prod.fst := by
  unfold resolveRoute
  rw [List.lookup_eq_none_iff]
  constructor
  · intro h hmem
    obtain ⟨entry, hentry, rfl⟩ := List.mem_map.mp hmem
    simpa using h entry hentry
  · intro h entry hentry
    rw [bne_iff_ne]
    rintro rfl
    exact h (List.mem_map_of_mem hentry)

theorem resolveRoute_mem (hkeys : (registry.adaptersByRoute.map Prod.fst).Nodup) {route : Route} :
    registry.resolveRoute route = some adapter ↔ (route, adapter) ∈ registry.adaptersByRoute := by
  unfold resolveRoute
  generalize registry.adaptersByRoute = entries at hkeys ⊢
  induction entries with
  | nil => simp
  | cons entry rest ih =>
    rcases entry with ⟨key, value⟩
    rw [List.map_cons, List.nodup_cons] at hkeys
    by_cases h : route = key
    · subst h
      have habsent : (route, adapter) ∉ rest := by
        intro hmem
        exact hkeys.1 (List.mem_map.mpr ⟨(route, adapter), hmem, rfl⟩)
      simp [List.lookup, habsent, eq_comm]
    · have hother : (route == key) = false := by simp [h]
      simp [List.lookup, hother, ih hkeys.2, h]

theorem registerAdapter_free
    (h : (adapter.describe failures).route ∉ registry.adaptersByRoute.map Prod.fst) :
    registry.registerAdapter failures adapter = .ok (registry.extended failures [adapter]) := by
  unfold registerAdapter
  dsimp only
  rw [resolveRoute_none.mpr h]
  simp [extended, routeEntries, describe_adapterId]

theorem registerAdapter_taken
    (h : (adapter.describe failures).route ∈ registry.adaptersByRoute.map Prod.fst) :
    ∃ error, registry.registerAdapter failures adapter = .error error := by
  unfold registerAdapter
  dsimp only
  cases hresolve : registry.resolveRoute (adapter.describe failures).route with
  | none => exact absurd h (resolveRoute_none.mp hresolve)
  | some existing => exact ⟨_, rfl⟩

theorem extended_cons (registry : ProtocolRegistry) (first : ProtocolAdapter)
    (rest : List ProtocolAdapter) :
    (registry.extended failures [first]).extended failures rest =
      registry.extended failures (first :: rest) := by
  simp [extended, routeEntries]

theorem routeEntries_keys (adapters : List ProtocolAdapter) :
    (routeEntries failures adapters).map Prod.fst =
      (adapters.map fun adapter => (adapter.describe failures).route).reverse := by
  simp [routeEntries, List.map_reverse, Function.comp_def]

theorem registerEach_cases (failures : PluginFailureDispatch) (adapters : List ProtocolAdapter)
    (registry : ProtocolRegistry)
    (hkeys : (registry.adaptersByRoute.map Prod.fst).Nodup) :
    (((registry.extended failures adapters).adaptersByRoute.map Prod.fst).Nodup ∧
        registerEach failures adapters registry = .ok (registry.extended failures adapters)) ∨
      (¬ ((registry.extended failures adapters).adaptersByRoute.map Prod.fst).Nodup ∧
        ∃ error, registerEach failures adapters registry = .error error) := by
  induction adapters generalizing registry with
  | nil => exact .inl ⟨by simpa [extended, routeEntries] using hkeys, rfl⟩
  | cons first rest ih =>
    by_cases hfree : (first.describe failures).route ∈ registry.adaptersByRoute.map Prod.fst
    · right
      obtain ⟨error, herror⟩ := registerAdapter_taken hfree
      constructor
      · intro hnodup
        simp only [extended, List.map_append, routeEntries_keys] at hnodup
        have hdisjoint := List.disjoint_of_nodup_append hnodup
        exact hdisjoint (by simp) hfree
      · refine ⟨error, ?_⟩
        unfold registerEach
        rw [herror]
        rfl
    · have hfirst : ((registry.extended failures [first]).adaptersByRoute.map Prod.fst).Nodup := by
        simpa [extended, routeEntries] using ⟨by simpa using hfree, hkeys⟩
      have hrest := ih (registry.extended failures [first]) hfirst
      rw [extended_cons] at hrest
      unfold registerEach
      rw [registerAdapter_free hfree]
      exact hrest

theorem registerEach_probes (adapters probes : List ProtocolAdapter)
    (registry : ProtocolRegistry) :
    registerEach failures adapters { registry with probes := probes } =
      (registerEach failures adapters registry).map fun after => { after with probes := probes } := by
  induction adapters generalizing registry with
  | nil => rfl
  | cons first rest ih =>
    unfold registerEach registerAdapter resolveRoute
    dsimp only
    cases registry.adaptersByRoute.lookup (first.describe failures).route with
    | some existing => rfl
    | none =>
      exact ih { registry with
        adaptersByRoute := ((first.describe failures).route, first) :: registry.adaptersByRoute
        adaptersById := registry.adaptersById.insert (first.describe failures).adapterId first }

theorem registerAll_eq (adapters : List ProtocolAdapter) (registry : ProtocolRegistry) :
    registry.registerAll failures adapters =
      (registerEach failures adapters registry).map fun after =>
        { after with probes := registry.probes ++ adapters } := by
  induction adapters generalizing registry with
  | nil =>
    simp [registerAll, registerEach, Except.map]
  | cons first rest ih =>
    unfold registerAll registerEach registerAdapter
    dsimp only
    cases registry.resolveRoute (first.describe failures).route with
    | some existing => rfl
    | none =>
      change registerAll (registerProbe _ first) failures rest = Except.map _ (registerEach _ _ _)
      rw [ih]
      unfold registerProbe
      rw [registerEach_probes]
      cases registerEach failures rest _ with
      | error error => rfl
      | ok after => simp [Except.map]

theorem registerAll_new_ok (h : new.registerAll failures adapters = .ok registry) :
    (adapters.map fun adapter => (adapter.describe failures).route).Nodup ∧
      registry = { new.extended failures adapters with probes := adapters } := by
  rw [registerAll_eq] at h
  rcases registerEach_cases failures adapters new List.nodup_nil with
    ⟨hnodup, hok⟩ | ⟨-, error, herror⟩
  · rw [hok] at h
    cases h
    refine ⟨?_, rfl⟩
    simpa [extended, new, routeEntries_keys, List.nodup_reverse] using hnodup
  · rw [herror] at h
    cases h

theorem registerAll_new_distinct
    (h : (adapters.map fun adapter => (adapter.describe failures).route).Nodup) :
    new.registerAll failures adapters =
      .ok { new.extended failures adapters with probes := adapters } := by
  rw [registerAll_eq]
  rcases registerEach_cases failures adapters new List.nodup_nil with
    ⟨-, hok⟩ | ⟨hdup, -⟩
  · rw [hok]
    rfl
  · apply absurd _ hdup
    simpa [extended, new, routeEntries_keys, List.nodup_reverse] using h

theorem resolveRoute_extended
    (hroutes : (adapters.map fun adapter => (adapter.describe failures).route).Nodup)
    {route : Route} :
    resolveRoute { new.extended failures adapters with probes := probes } route = some adapter ↔
      adapter ∈ adapters ∧ (adapter.describe failures).route = route := by
  rw [resolveRoute_mem]
  · simp [extended, new, routeEntries, and_comm]
  · simpa [extended, new, routeEntries_keys, List.nodup_reverse] using hroutes

theorem adaptersById_extended (failures : PluginFailureDispatch)
    (hids : (adapters.map pluginId).Nodup) {id : String} :
    (new.extended failures adapters).adaptersById[id]? = some adapter ↔
      adapter ∈ adapters ∧ adapter.pluginId = id := by
  have hfold : ∀ (byId : BTreeMap String ProtocolAdapter),
      (∀ other ∈ adapters, byId[other.pluginId]? = none) →
      ((adapters.foldl (fun byId adapter => byId.insert adapter.pluginId adapter) byId)[id]? =
          some adapter ↔
        byId[id]? = some adapter ∨ (adapter ∈ adapters ∧ adapter.pluginId = id)) := by
    induction adapters with
    | nil => simp
    | cons first rest ih =>
      intro byId hfresh
      rw [List.map_cons, List.nodup_cons] at hids
      rw [List.foldl_cons, ih hids.2]
      · rw [BTreeMap.getElem?_insert_eq]
        by_cases hid : first.pluginId = id
        · have hnone : byId[id]? = none := hid ▸ hfresh first (List.mem_cons_self ..)
          rw [if_pos hid, hnone]
          constructor
          · rintro (hsame | ⟨hmem, hsame⟩)
            · cases hsame
              exact .inr ⟨List.mem_cons_self .., hid⟩
            · exact .inr ⟨List.mem_cons_of_mem _ hmem, hsame⟩
          · rintro (hsome | ⟨hmem, hsame⟩)
            · cases hsome
            · rcases List.mem_cons.mp hmem with rfl | hmem
              · exact .inl rfl
              · exact .inr ⟨hmem, hsame⟩
        · rw [if_neg hid]
          constructor
          · rintro (hsome | ⟨hmem, hsame⟩)
            · exact .inl hsome
            · exact .inr ⟨List.mem_cons_of_mem _ hmem, hsame⟩
          · rintro (hsome | ⟨hmem, hsame⟩)
            · exact .inl hsome
            · rcases List.mem_cons.mp hmem with rfl | hmem
              · exact absurd hsame hid
              · exact .inr ⟨hmem, hsame⟩
      · intro other hmem
        rw [BTreeMap.getElem?_insert_eq, if_neg]
        · exact hfresh other (List.mem_cons_of_mem _ hmem)
        · intro hsame
          exact hids.1 (hsame ▸ List.mem_map_of_mem hmem)
  unfold extended new
  dsimp only
  rw [hfold ∅ (by simp)]
  simp

/-- Enabled adapters that are known and different are registered one after the other. -/
theorem filterLoop_eq (enabled : List ProtocolAdapter) (seen : List String)
    (filtered : ProtocolRegistry) (hids : (enabled.map pluginId).Nodup)
    (hseen : ∀ adapter ∈ enabled, adapter.pluginId ∉ seen)
    (hknown : ∀ adapter ∈ enabled, registry.resolveAdapter adapter.pluginId = some adapter) :
    registry.filterLoop failures (enabled.map pluginId) seen filtered =
      registerEach failures enabled filtered := by
  induction enabled generalizing seen filtered with
  | nil => rfl
  | cons first rest ih =>
    rw [List.map_cons, List.nodup_cons] at hids
    unfold registerEach
    rw [List.map_cons, filterLoop, if_neg (hseen first (List.mem_cons_self ..)),
      hknown first (List.mem_cons_self ..)]
    dsimp only
    cases filtered.registerAdapter failures first with
    | error error => rfl
    | ok after =>
      apply ih
      · exact hids.2
      · intro adapter hmem hagain
        rcases List.mem_cons.mp hagain with hsame | hagain
        · exact hids.1 (hsame ▸ List.mem_map_of_mem hmem)
        · exact hseen adapter (List.mem_cons_of_mem _ hmem) hagain
      · intro adapter hmem
        exact hknown adapter (List.mem_cons_of_mem _ hmem)

/-! ### Isolation -/

/-- **A quarantined plugin takes down only its own adapter**: `registry` holds all the plugins,
    `others` those outside the quarantine alone. -/
structure Isolates (failures : PluginFailureDispatch) (plugins : List ProtocolAdapter)
    (registry others : ProtocolRegistry) (transportKind : TransportKind) (frame : List UInt8) :
    Prop where
  handshake : (registry.routeHandshake transportKind frame failures).1 =
    (others.routeHandshake transportKind frame failures).1
  route : ∀ plugin ∈ plugins, ¬ plugin.Quarantined failures →
    registry.resolveRoute plugin.descriptor.route = some plugin
  transports : ∀ plugin ∈ plugins, ∀ kind,
    plugin.pluginId ∈ registry.adapterIdsForTransport failures kind ↔
      plugin.descriptor.transport = kind
  registered : ∃ again, new.registerAll failures plugins = .ok again ∧
    ∀ plugin ∈ plugins, again.resolveRoute plugin.descriptor.route = some plugin
  filtered : ∀ enabled : List ProtocolAdapter, enabled.Nodup → enabled ⊆ plugins →
    ∃ filtered, registry.filterEnabled failures (enabled.map pluginId) = .ok filtered ∧
      ∀ plugin ∈ enabled, filtered.resolveRoute plugin.descriptor.route = some plugin

theorem map_route_described (h : ∀ plugin ∈ plugins, plugin.Described failures) :
    (plugins.map fun plugin => (plugin.describe failures).route) =
      plugins.map fun plugin => plugin.descriptor.route := by
  apply List.map_congr_left
  intro plugin hmem
  exact (h plugin hmem).route_eq

/-- A registration gives every plugin its own route exactly when every plugin describes itself
    as what it is. -/
theorem registered_iff (hroutes : (plugins.map fun plugin => plugin.descriptor.route).Nodup) :
    (∃ again, new.registerAll failures plugins = .ok again ∧
        ∀ plugin ∈ plugins, again.resolveRoute plugin.descriptor.route = some plugin) ↔
      ∀ plugin ∈ plugins, plugin.Described failures := by
  constructor
  · rintro ⟨again, hok, hresolve⟩ plugin hmem hquarantined
    obtain ⟨hnodup, rfl⟩ := registerAll_new_ok hok
    have hroute := ((resolveRoute_extended hnodup).mp (hresolve plugin hmem)).2
    rw [describe_route, if_pos hquarantined] at hroute
    exact hroute.symm
  · intro h
    have hnodup : (plugins.map fun plugin => (plugin.describe failures).route).Nodup := by
      rw [map_route_described h]
      exact hroutes
    refine ⟨_, registerAll_new_distinct hnodup, ?_⟩
    intro plugin hmem
    exact (resolveRoute_extended hnodup).mpr ⟨hmem, (h plugin hmem).route_eq⟩

theorem mem_adapterIdsForTransport {registering : PluginFailureDispatch}
    (hids : (plugins.map pluginId).Nodup) (hmem : plugin ∈ plugins) (kind : TransportKind) :
    plugin.pluginId ∈ adapterIdsForTransport
        { new.extended registering plugins with probes := probes } failures kind ↔
      (plugin.describe failures).transport = kind := by
  unfold adapterIdsForTransport
  constructor
  · intro h
    obtain ⟨⟨id, other⟩, hentry, hid⟩ := List.mem_map.mp h
    obtain ⟨hother, hkind⟩ := List.mem_filter.mp hentry
    obtain ⟨hothers, hsame⟩ := (adaptersById_extended registering hids).mp (BTreeMap.mem_toList.mp hother)
    have hplugin : other = plugin :=
      List.inj_on_of_nodup_map hids hothers hmem (hsame.trans hid)
    subst hplugin
    simpa using hkind
  · intro hkind
    refine List.mem_map.mpr ⟨(plugin.pluginId, plugin), List.mem_filter.mpr ⟨?_, ?_⟩, rfl⟩
    · exact BTreeMap.mem_toList.mpr ((adaptersById_extended registering hids).mpr ⟨hmem, rfl⟩)
    · simpa using hkind

theorem filterEnabled_described {enabled : List ProtocolAdapter}
    {registering : PluginFailureDispatch} (hids : (plugins.map pluginId).Nodup)
    (hroutes : (plugins.map fun plugin => plugin.descriptor.route).Nodup)
    (h : ∀ plugin ∈ plugins, plugin.Described failures) (henabled : enabled.Nodup)
    (hsubset : enabled ⊆ plugins) :
    ∃ filtered, filterEnabled { new.extended registering plugins with probes := probes } failures
        (enabled.map pluginId) = .ok filtered ∧
      ∀ plugin ∈ enabled, filtered.resolveRoute plugin.descriptor.route = some plugin := by
  have hdescribed : ∀ plugin ∈ enabled, plugin.Described failures :=
    fun plugin hmem => h plugin (hsubset hmem)
  have hnodup : (enabled.map fun plugin => (plugin.describe failures).route).Nodup := by
    rw [map_route_described hdescribed]
    exact henabled.map_on fun a ha b hb =>
      List.inj_on_of_nodup_map hroutes (hsubset ha) (hsubset hb)
  have henabledIds : (enabled.map pluginId).Nodup :=
    henabled.map_on fun a ha b hb => List.inj_on_of_nodup_map hids (hsubset ha) (hsubset hb)
  have hloop : registerEach failures enabled new = .ok (new.extended failures enabled) := by
    rcases registerEach_cases failures enabled new List.nodup_nil with
      ⟨-, hok⟩ | ⟨hdup, -⟩
    · exact hok
    · apply absurd _ hdup
      simpa [extended, new, routeEntries_keys, List.nodup_reverse] using hnodup
  refine ⟨{ new.extended failures enabled with probes := probes }, ?_, ?_⟩
  · unfold filterEnabled
    rw [filterLoop_eq enabled [] new henabledIds (by simp)]
    · rw [hloop]
      rfl
    · intro adapter hmem
      exact (adaptersById_extended registering hids).mpr ⟨hsubset hmem, rfl⟩
  · intro plugin hmem
    exact (resolveRoute_extended hnodup).mpr ⟨hmem, (hdescribed plugin hmem).route_eq⟩

/-- **When a quarantine stays with its plugin**: exactly when no quarantined plugin has another
    route than the placeholder's, and the frame is undisturbed. -/
theorem isolates_iff (matrix : PluginFailureMatrix) (failures : PluginFailureDispatch)
    (plugins : List ProtocolAdapter) (registry others : ProtocolRegistry)
    (hids : (plugins.map pluginId).Nodup)
    (hregistry : new.registerAll (.new matrix) plugins = .ok registry)
    (hothers : new.registerAll (.new matrix) (outside failures plugins) = .ok others)
    (transportKind : TransportKind) (frame : List UInt8) :
    Isolates failures plugins registry others transportKind frame ↔
      (∀ plugin ∈ plugins, plugin.Quarantined failures →
        plugin.descriptor.route = placeholderRoute) ∧
      Undisturbed failures plugins transportKind frame := by
  obtain ⟨hclean, rfl⟩ := registerAll_new_ok hregistry
  obtain ⟨-, rfl⟩ := registerAll_new_ok hothers
  have hroutes : (plugins.map fun plugin => plugin.descriptor.route).Nodup := by
    rw [← map_route_described fun plugin _ => described_new matrix plugin]
    exact hclean
  constructor
  · intro h
    refine ⟨(registered_iff hroutes).mp h.registered, ?_⟩
    exact (routeProbes_undisturbed plugins).mp h.handshake
  · rintro ⟨hdescribed, hundisturbed⟩
    constructor
    case handshake => exact (routeProbes_undisturbed plugins).mpr hundisturbed
    case route =>
      intro plugin hmem _
      exact (resolveRoute_extended hclean).mpr ⟨hmem, (described_new matrix plugin).route_eq⟩
    case transports =>
      intro plugin hmem kind
      rw [mem_adapterIdsForTransport hids hmem]
      have hroute := Described.route_eq (hdescribed plugin hmem)
      have htransport : (plugin.describe failures).transport = plugin.descriptor.transport :=
        congrArg Route.transport hroute
      rw [htransport]
    case registered => exact (registered_iff hroutes).mpr hdescribed
    case filtered =>
      intro enabled henabled hsubset
      exact filterEnabled_described hids hroutes hdescribed henabled hsubset

/-- A status handshake of protocol 47 to `localhost`. -/
def statusHandshake : List UInt8 :=
  [0x00, 0x2f, 0x09, 0x6c, 0x6f, 0x63, 0x61, 0x6c, 0x68, 0x6f, 0x73, 0x74, 0x63, 0xdd, 0x01]

def javaAdapter : ProtocolAdapter where
  pluginId := "je-47"
  descriptor := ⟨"je-47", .tcp, .minecraftFramed, .je, "1.8.x", 47⟩
  named := rfl
  invokeTryRoute frame :=
    .ok (if frame = statusHandshake then some ⟨.je, 47, "localhost", 25565, .status⟩ else none)

def bedrockAdapter : ProtocolAdapter where
  pluginId := "be-924"
  descriptor := ⟨"be-924", .udp, .rawPacketStream, .be, "bedrock-26.3", 924⟩
  named := rfl
  invokeTryRoute _ := .ok none

/-- The Bedrock plugin failed once. -/
def bedrockQuarantined : PluginFailureDispatch :=
  ((PluginFailureDispatch.new .default).handleRuntimeFailure .protocol "be-924"
    "unexpected end of packet").2

/-- An adapter of a version without a number. -/
def snapshotAdapter : ProtocolAdapter where
  pluginId := "je-snapshot"
  descriptor := ⟨"je-snapshot", .tcp, .minecraftFramed, .je, "snapshot", -1⟩
  named := rfl
  invokeTryRoute _ := .ok none

def snapshotQuarantined : PluginFailureDispatch :=
  ((PluginFailureDispatch.new .default).handleRuntimeFailure .protocol "je-snapshot"
    "unexpected end of packet").2

/-- A quarantined plugin that describes itself as what it is, behind the one that answers. -/
theorem isolates_iff_java :
    ∃ registry others,
      new.registerAll (.new .default) [javaAdapter, snapshotAdapter] = .ok registry ∧
      new.registerAll (.new .default) (outside snapshotQuarantined [javaAdapter, snapshotAdapter]) =
        .ok others ∧
      snapshotAdapter.Quarantined snapshotQuarantined ∧
      Isolates snapshotQuarantined [javaAdapter, snapshotAdapter] registry others .tcp
        statusHandshake := by
  refine ⟨_, _, rfl, rfl, by decide +kernel, ?_⟩
  rw [isolates_iff .default snapshotQuarantined [javaAdapter, snapshotAdapter] _ _
    (by decide +kernel) rfl rfl]
  have hlive : ¬ javaAdapter.Quarantined snapshotQuarantined := by decide +kernel
  constructor
  · intro plugin hmem hquarantined
    rcases List.mem_pair.mp hmem with rfl | rfl
    · exact absurd hquarantined hlive
    · rfl
  · rintro - before plugin after hsplit hquarantined -
    cases before with
    | nil =>
      cases hsplit
      exact absurd hquarantined hlive
    | cons first rest =>
      obtain rfl := (List.cons.inj hsplit).1
      exact .inl ⟨javaAdapter, List.mem_cons_self, rfl, by simp [javaAdapter]⟩

/-- With the Bedrock plugin quarantined, no Java client is answered. -/
theorem quarantined_bedrock_blocks_java :
    ∃ registry others, new.registerAll (.new .default) [bedrockAdapter, javaAdapter] = .ok registry ∧
      new.registerAll (.new .default) (outside bedrockQuarantined [bedrockAdapter, javaAdapter]) =
        .ok others ∧
      ¬ Isolates bedrockQuarantined [bedrockAdapter, javaAdapter] registry others .tcp
        statusHandshake := by
  refine ⟨_, _, rfl, rfl, ?_⟩
  intro h
  have hhandshake := h.handshake
  revert hhandshake
  decide +kernel

end ProtocolRegistry

end RevyCraft
