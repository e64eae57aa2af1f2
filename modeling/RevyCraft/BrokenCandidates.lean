/-
  RevyCraft/BrokenCandidates.lean
  ===============================
  **What a broken candidate holds back.**

  A topology or full reload makes its handles from the packages of the catalog,
  and the plugin of a broken candidate is not among them; the host takes them
  over all the same, if the reload gets through.  An artifacts reload that can
  read the candidates goes on without the broken ones.
-/
import RevyCraft.ArtifactReloads

namespace RevyCraft.PluginHandles

/-! ### Whole reloads -/

namespace RuntimeServer

theorem run_minor {s s' : RuntimeServer} {between : List ReloadStep}
    (hminor : ∀ a ∈ between, minor a = true) (h : Steps.run step s between = some s') :
    s'.cells = s.cells ∧ s'.host = s.host ∧ s'.epoch = s.epoch ∧ s'.plans = s.plans := by
  induction between generalizing s with
  | nil =>
    cases h
    exact ⟨rfl, rfl, rfl, rfl⟩
  | cons a rest ih =>
    obtain ⟨next, hstep, h⟩ := Option.bind_eq_some_iff.mp h
    obtain ⟨hcells, hhost, hepoch, hplans⟩ := step_minor (hminor a List.mem_cons_self) hstep
    obtain ⟨hcells', hhost', hepoch', hplans'⟩ :=
      ih (fun b hb => hminor b (List.mem_cons_of_mem _ hb)) h
    exact ⟨hcells'.trans hcells, hhost'.trans hhost, hepoch'.trans hepoch, hplans'.trans hplans⟩

end RuntimeServer

namespace ReloadingServer

variable {r final final' : ReloadingServer} {code : PluginCode} {mode : RuntimeReloadMode}
  {loaded config : RuntimeSelectionConfig} {disk disk' : PluginDirectory}
  {between : List ReloadStep} {prepared : PreparedReload}

/-- The server that a reload leaves when it has staged. -/
def staged (r : ReloadingServer) (prepared : PreparedReload) (reload : StagedCutover) :
    RuntimeServer :=
  { r.server with
    cells := prepared.cells
    nextGenerationId := match reload.preparedTopology with
      | .generation _ => r.server.nextGenerationId + 1
      | _ => r.server.nextGenerationId
    reload := some reload }

/-- A reload commits if and only if its plugins can be prepared, its cutover staged, and the steps
    between taken. -/
theorem reloadRuntime_iff :
    r.reloadRuntime code mode loaded disk between = some final ↔
      (∀ a ∈ between, RuntimeServer.minor a = true) ∧ r.server.reload = none ∧
      ∃ config prepared reload server sealedReload,
        r.planReload loaded mode = some config ∧
        r.preparePlugins code config disk mode = some prepared ∧
        r.stagedCutover mode config prepared = some reload ∧
        Steps.run RuntimeServer.step (r.staged prepared reload) between = some server ∧
        server.reload = some sealedReload ∧
        server.step .commit = some final.server ∧
        final.failures = committedFailures config prepared.failures sealedReload.preparedPlugins ∧
        final.adminSurfaces = config.adminSurfaces := by
  simp only [reloadRuntime, stageReload, commitReload, Option.bind_eq_bind,
    Option.bind_eq_some_iff, Option.guard_eq_some', Option.some.injEq]
  constructor
  · rintro ⟨-, hminor, config, hplan, _, ⟨-, hidle, prepared, hprepared, reload, hreload, rfl⟩,
      server, hrun, sealedReload, hsealed, committed, hcommit, rfl⟩
    exact ⟨hminor, Option.isNone_iff_eq_none.mp hidle, config, prepared, reload, server, sealedReload,
      hplan, hprepared, hreload, hrun, hsealed, hcommit, rfl, rfl⟩
  · rintro ⟨hminor, hidle, config, prepared, reload, server, sealedReload, hplan, hprepared, hreload,
      hrun, hsealed, hcommit, hfailures, hsurfaces⟩
    refine ⟨(), hminor, config, hplan, _, ⟨(), Option.isNone_iff_eq_none.mpr hidle, prepared,
      hprepared, reload, hreload, rfl⟩, server, hrun, sealedReload, hsealed, final.server, hcommit, ?_⟩
    cases final
    simp only at hfailures hsurfaces
    rw [hfailures, hsurfaces]

theorem commit_step {s s' : RuntimeServer} {reload : StagedCutover} (hreload : s.reload = some reload)
    (h : s.step .commit = some s') : s' = s.commitCutover reload := by
  simp only [RuntimeServer.step, hreload, Option.bind_eq_bind, Option.bind_some,
    Option.bind_eq_some_iff, Option.guard_eq_some', Option.some.injEq] at h
  obtain ⟨-, -, rfl⟩ := h
  rfl

theorem reloadRuntime_committed
    (h : r.reloadRuntime code mode loaded disk between = some final) :
    ∃ config prepared selection, r.planReload loaded mode = some config ∧
      r.preparePlugins code config disk mode = some prepared ∧
      resolveSelection config.toServerConfig (r.server.candidatePlugins prepared.plugins).2 =
        some selection ∧
      final.server.epoch.selection = selection ∧
      final.failures = committedFailures config prepared.failures prepared.plugins ∧
      (∀ plugins, prepared.plugins = some plugins →
        (final.server.host, final.server.cells) =
          r.server.host.commitRuntimeSelection prepared.cells plugins) ∧
      (prepared.plugins = none →
        (final.server.host, final.server.cells) = (r.server.host, prepared.cells)) := by
  obtain ⟨hminor, -, config, prepared, reload, server, sealedReload, hplan, hprepared, hreload, hrun,
    hsealed, hcommit, hfailures, -⟩ := reloadRuntime_iff.mp h
  obtain ⟨hcells, hhost, -, hplans⟩ := RuntimeServer.run_minor hminor hrun
  obtain ⟨_, hstaged, hcandidate, hplugins, -, -⟩ := RuntimeServer.reload_of_plans hplans hsealed
  cases hstaged
  have hfinal := commit_step hsealed hcommit
  simp only [stagedCutover, Option.bind_eq_bind, Option.bind_eq_some_iff, Option.some.injEq]
    at hreload
  obtain ⟨selection, hselection, topology, -, storage, -, rfl⟩ := hreload
  refine ⟨config, prepared, selection, hplan, hprepared, hselection, ?_, ?_, ?_, ?_⟩
  · rw [hfinal]
    exact congrArg RuntimeEpoch.selection hcandidate
  · rw [hfailures, hplugins]
  · intro plugins hsome
    have hcommitted : sealedReload.preparedPlugins = some plugins := hplugins.trans hsome
    rw [hfinal]
    simp only [RuntimeServer.commitCutover, hcommitted, hhost, hcells]
    rfl
  · intro hnone
    have hcommitted : sealedReload.preparedPlugins = none := hplugins.trans hnone
    rw [hfinal]
    simp only [RuntimeServer.commitCutover, hcommitted, hhost, hcells]
    rfl

/-- Where two disks, or two failures, give the same plugins, two reloads differ in the failures
    only. -/
theorem reloadRuntime_congr (failures : FailureDispatch) {f g : FailureDispatch} {cells : Cells}
    {plugins : Option PreparedPlugins} (hplan : r.planReload loaded mode = some config)
    (hmatrix : failures.matrix = r.failures.matrix)
    (hprepared : r.preparePlugins code config disk mode = some ⟨f, cells, plugins⟩)
    (hprepared' : { r with failures := failures }.preparePlugins code config disk' mode =
      some ⟨g, cells, plugins⟩)
    (h : { r with failures := failures }.reloadRuntime code mode loaded disk' between =
      some final') :
    r.reloadRuntime code mode loaded disk between =
      some { final' with failures := committedFailures config f plugins } := by
  obtain ⟨hminor, hidle, config', prepared', reload, server, sealedReload, hplan', hprepares, hreload,
    hrun, hsealed, hcommit, hfailures, hsurfaces⟩ := reloadRuntime_iff.mp h
  have hconfig : { r with failures := failures }.planReload loaded mode = some config := by
    rw [← hplan]
    simp only [planReload, activeSelection, hmatrix]
  cases hconfig.symm.trans hplan'
  cases hprepared'.symm.trans hprepares
  have hplugins : sealedReload.preparedPlugins = plugins := by
    obtain ⟨_, hstaged, -, hplugins, -, -⟩ := RuntimeServer.reload_of_plans
      (RuntimeServer.run_minor hminor hrun).2.2.2 hsealed
    cases hstaged
    simp only [stagedCutover, Option.bind_eq_bind, Option.bind_eq_some_iff, Option.some.injEq]
      at hreload
    obtain ⟨selection, -, topology, -, storage, -, rfl⟩ := hreload
    exact hplugins
  refine reloadRuntime_iff.mpr ⟨hminor, hidle, config, ⟨f, cells, plugins⟩, reload, server,
    sealedReload, hplan, hprepared, hreload, hrun, hsealed, hcommit, ?_, hsurfaces⟩
  rw [hplugins]

end ReloadingServer

/-! ### The new handles of a topology or full reload -/

namespace FreshSelection

/-- What a loop makes of one package: it is left out, left out for good, or it gets a handle. -/
inductive Loads (limits : PluginBufferLimits) (fresh : FreshSelection) (package : PluginPackage) :
    FreshSelection → Prop where
  | leftOut : Loads limits fresh package fresh
  | quarantined (identity : ArtifactIdentity) (reason : String)
      (hidentity : package.artifactIdentity = some identity) :
      Loads limits fresh package (fresh.withFailures
        (fresh.failures.quarantineCandidateArtifact package.pluginId identity reason))
  | managed (identity : ArtifactIdentity) (loaded : LoadedGeneration) (id : String)
      (hidentity : package.artifactIdentity = some identity)
      (hfree : fresh.failures.isArtifactQuarantined package.pluginId identity = false)
      (hload : package.load limits = .ok loaded)
      (hid : if package.pluginKind = .protocol then id = package.pluginId
        else fresh.managed.find package.pluginKind id = none) :
      Loads limits fresh package (fresh.manage package id identity.modifiedAt loaded.generation)

variable {limits : PluginBufferLimits} {fresh fresh' : FreshSelection} {package : PluginPackage}
  {requested : List String}

theorem loads_of_failure {kind : PluginKind} {identity : ArtifactIdentity} {reason : String}
    (hidentity : package.artifactIdentity = some identity)
    (h : (fresh.failures.handleCandidateFailure kind package.pluginId identity reason).map
      fresh.withFailures = some fresh') : Loads limits fresh package fresh' := by
  obtain ⟨failures, hfailure, rfl⟩ := Option.map_eq_some_iff.mp h
  unfold FailureDispatch.handleCandidateFailure at hfailure
  split at hfailure
  · cases hfailure
    exact .leftOut
  · cases hfailure
    exact .quarantined identity reason hidentity
  · cases hfailure

theorem loadProtocolPlugin_loads (hkind : package.pluginKind = .protocol)
    (h : fresh.loadProtocolPlugin limits package = some fresh') :
    Loads limits fresh package fresh' := by
  obtain ⟨identity, hidentity, h⟩ := Option.bind_eq_some_iff.mp h
  split at h
  · cases h
    exact .leftOut
  · rename_i hfree
    split at h
    · exact loads_of_failure hidentity h
    · rename_i loaded hload
      simp only at h
      split at h
      · cases h
        exact .quarantined identity _ hidentity
      · cases h
        exact .managed identity loaded package.pluginId hidentity (Bool.eq_false_iff.mpr hfree) hload
          (by rw [if_pos hkind])

theorem loadRequestedPlugin_loads (hkind : package.pluginKind ≠ .protocol)
    (h : fresh.loadRequestedPlugin requested limits package = some fresh') :
    Loads limits fresh package fresh' := by
  obtain ⟨identity, hidentity, h⟩ := Option.bind_eq_some_iff.mp h
  split at h
  · cases h
    exact .leftOut
  · rename_i hfree
    split at h
    · exact loads_of_failure hidentity h
    · rename_i loaded hload
      split at h
      · cases h
        exact .leftOut
      · split at h
        · cases h
        · rename_i hunknown
          cases h
          refine .managed identity loaded loaded.profileId hidentity (Bool.eq_false_iff.mpr hfree)
            hload ?_
          rw [if_neg hkind]
          simpa using hunknown

theorem loadRequestedAdminSurfacePlugin_loads (hkind : package.pluginKind ≠ .protocol)
    (h : fresh.loadRequestedAdminSurfacePlugin requested limits package = some fresh') :
    Loads limits fresh package fresh' := by
  unfold loadRequestedAdminSurfacePlugin at h
  split at h
  · cases h
    exact .leftOut
  · exact loadRequestedPlugin_loads hkind h

/-- Every handle is of a package that was not in quarantine at the start, with what it loads. -/
structure Made (limits : PluginBufferLimits) (disk : PluginDirectory) (start : FailureDispatch)
    (fresh : FreshSelection) : Prop where
  packages : ∀ entry ∈ (fresh.managed : List ManagedPlugin),
    ∃ package ∈ (disk : List PluginPackage), ∃ identity loaded,
      package.pluginId = entry.pluginId ∧ package.pluginKind = entry.kind ∧
        package.artifactIdentity = some identity ∧
        start.isArtifactQuarantined package.pluginId identity = false ∧
        package.load limits = .ok loaded ∧
        entry.handle.generation fresh.cells = some loaded.generation
  adapters : ∀ entry ∈ (fresh.managed : List ManagedPlugin), entry.kind = .protocol →
    entry.handle.id = entry.pluginId
  kept : fresh.managed.WellKept fresh.cells
  distinct : (List.map (·.pluginId) fresh.managed).Nodup
  quarantine : ∀ package ∈ (disk : List PluginPackage), ∀ identity,
    package.artifactIdentity = some identity →
      start.isArtifactQuarantined package.pluginId identity = true →
        fresh.failures.isArtifactQuarantined package.pluginId identity = true
  active : fresh.failures.activeQuarantine = start.activeQuarantine

theorem generation_append {handle : PluginHandle} {cells more : Cells}
    {generation : PluginGeneration} (h : handle.generation cells = some generation) :
    handle.generation (cells ++ more) = some generation := by
  unfold PluginHandle.generation at h ⊢
  rw [List.getElem?_append_left (List.getElem?_eq_some_iff.mp h).1]
  exact h

namespace Made

variable {disk : PluginDirectory} {start : FailureDispatch}

theorem empty (limits : PluginBufferLimits) (disk : PluginDirectory) (failures : FailureDispatch)
    (cells : Cells) : Made limits disk failures ⟨failures, cells, []⟩ := by
  refine ⟨?_, ?_, ⟨?_, ?_, ?_⟩, List.nodup_nil, fun _ _ _ _ h => h, rfl⟩
  · exact fun entry hentry => (List.not_mem_nil hentry).elim
  · exact fun entry hentry => (List.not_mem_nil hentry).elim
  · exact List.nodup_nil
  · exact List.nodup_nil
  · exact fun entry hentry => (List.not_mem_nil hentry).elim

theorem eq_of_pluginId (hdisk : (List.map PluginPackage.pluginId disk).Nodup)
    {package other : PluginPackage} (hpackage : package ∈ (disk : List PluginPackage))
    (hother : other ∈ (disk : List PluginPackage)) (hid : package.pluginId = other.pluginId) :
    package = other :=
  List.inj_on_of_nodup_map hdisk hpackage hother hid

theorem loads (hdisk : (List.map PluginPackage.pluginId disk).Nodup)
    (hmem : package ∈ (disk : List PluginPackage)) (hmade : Made limits disk start fresh)
    (hnew : ∀ entry ∈ (fresh.managed : List ManagedPlugin), entry.pluginId ≠ package.pluginId)
    (h : Loads limits fresh package fresh') : Made limits disk start fresh' := by
  cases h with
  | leftOut => exact hmade
  | quarantined identity reason hidentity =>
    refine ⟨hmade.packages, hmade.adapters, hmade.kept, hmade.distinct, ?_, hmade.active⟩
    intro other hother identity' hidentity' hquarantined
    have hold := hmade.quarantine other hother identity' hidentity' hquarantined
    unfold FailureDispatch.isArtifactQuarantined at hold ⊢
    simp only [withFailures, FailureDispatch.quarantineCandidateArtifact,
      BTreeMap.getElem?_insert_eq]
    by_cases hid : package.pluginId = other.pluginId
    · have heq := eq_of_pluginId hdisk hmem hother hid
      subst heq
      cases hidentity.symm.trans hidentity'
      rw [if_pos rfl, Option.any_some, decide_eq_true_eq]
    · rw [if_neg hid]
      exact hold
  | managed identity loaded id hidentity hfree hload hid =>
    have hstart : start.isArtifactQuarantined package.pluginId identity = false := by
      rw [Bool.eq_false_iff]
      intro hquarantined
      rw [hmade.quarantine package hmem identity hidentity hquarantined] at hfree
      cases hfree
    have hkey : (package.pluginKind, id) ∉ List.map ManagedPlugin.key fresh.managed := by
      intro hkey
      obtain ⟨entry, hentry, heq⟩ := List.mem_map.mp hkey
      simp only [ManagedPlugin.key, Prod.mk.injEq] at heq
      split at hid
      · rename_i hprotocol
        have hadapter := hmade.adapters entry hentry (heq.1.trans hprotocol)
        exact hnew entry hentry (hadapter.symm.trans (heq.2.trans hid))
      · have hno := List.find?_eq_none.mp hid entry hentry
        simp [heq.1, heq.2] at hno
    refine ⟨?_, ?_, ⟨?_, ?_, ?_⟩, ?_, hmade.quarantine, hmade.active⟩
    · intro entry hentry
      rcases List.mem_append.mp hentry with hentry | hentry
      · obtain ⟨other, hother, identity', loaded', hid', hkind, hidentity', hfree', hload', hcell⟩ :=
          hmade.packages entry hentry
        exact ⟨other, hother, identity', loaded', hid', hkind, hidentity', hfree', hload',
          generation_append hcell⟩
      · rw [List.mem_singleton.mp hentry]
        exact ⟨package, hmem, identity, loaded, rfl, rfl, hidentity, hstart, hload,
          by simp [manage, PluginHandle.generation]⟩
    · intro entry hentry hprotocol
      rcases List.mem_append.mp hentry with hentry | hentry
      · exact hmade.adapters entry hentry hprotocol
      · rw [List.mem_singleton.mp hentry] at hprotocol ⊢
        rwa [if_pos hprotocol] at hid
    · rw [manage, List.map_append, List.nodup_append]
      refine ⟨hmade.kept.keys, List.nodup_singleton _, ?_⟩
      intro key hkey' other hother heq
      rw [List.mem_map] at hother
      obtain ⟨entry, hentry, rfl⟩ := hother
      rw [List.mem_singleton.mp hentry] at heq
      rw [heq] at hkey'
      exact hkey hkey'
    · rw [manage, List.map_append, List.nodup_append]
      refine ⟨hmade.kept.separate, List.nodup_singleton _, ?_⟩
      intro cell hcell other hother heq
      obtain ⟨entry, hentry, rfl⟩ := List.mem_map.mp hcell
      obtain ⟨entry', hentry', rfl⟩ := List.mem_map.mp hother
      rw [List.mem_singleton.mp hentry'] at heq
      exact absurd (hmade.kept.filled entry hentry) (heq ▸ Nat.lt_irrefl _)
    · intro entry hentry
      have hlength : (fresh.manage package id identity.modifiedAt loaded.generation).cells.length =
          fresh.cells.length + 1 := List.length_append
      rw [hlength]
      rcases List.mem_append.mp hentry with hentry | hentry
      · exact Nat.lt_succ_of_lt (hmade.kept.filled entry hentry)
      · rw [List.mem_singleton.mp hentry]
        exact Nat.lt_succ_self _
    · rw [manage, List.map_append, List.nodup_append]
      refine ⟨hmade.distinct, List.nodup_singleton _, ?_⟩
      intro pluginId hmem' other hother heq
      obtain ⟨entry, hentry, rfl⟩ := List.mem_map.mp hmem'
      obtain ⟨entry', hentry', rfl⟩ := List.mem_map.mp hother
      rw [List.mem_singleton.mp hentry'] at heq
      exact hnew entry hentry heq

theorem fold {packages : List PluginPackage}
    {load : FreshSelection → PluginPackage → Option FreshSelection}
    (hload : ∀ package ∈ packages, ∀ fresh fresh', load fresh package = some fresh' →
      Loads limits fresh package fresh')
    (hdisk : (List.map PluginPackage.pluginId disk).Nodup)
    (hpackages : (packages.map PluginPackage.pluginId).Nodup)
    (hsub : ∀ package ∈ packages, package ∈ (disk : List PluginPackage))
    (hnew : ∀ entry ∈ (fresh.managed : List ManagedPlugin),
      entry.pluginId ∉ packages.map PluginPackage.pluginId)
    (hmade : Made limits disk start fresh) (h : packages.foldlM load fresh = some fresh') :
    Made limits disk start fresh' ∧ ∀ entry ∈ (fresh'.managed : List ManagedPlugin),
      entry ∈ (fresh.managed : List ManagedPlugin) ∨
        ∃ package ∈ packages, package.pluginKind = entry.kind := by
  induction packages generalizing fresh with
  | nil =>
    cases h
    exact ⟨hmade, fun entry hentry => .inl hentry⟩
  | cons package rest ih =>
    rw [List.foldlM_cons] at h
    obtain ⟨next, hnext, h⟩ := Option.bind_eq_some_iff.mp h
    rw [List.map_cons, List.nodup_cons] at hpackages
    have hloads := hload package List.mem_cons_self fresh next hnext
    have hmade' : Made limits disk start next :=
      hmade.loads hdisk (hsub package List.mem_cons_self)
        (fun entry hentry heq => hnew entry hentry (heq ▸ List.mem_cons_self)) hloads
    have hentries : ∀ entry ∈ (next.managed : List ManagedPlugin),
        entry ∈ (fresh.managed : List ManagedPlugin) ∨
          (entry.pluginId = package.pluginId ∧ entry.kind = package.pluginKind) := by
      intro entry hentry
      cases hloads with
      | leftOut => exact .inl hentry
      | quarantined identity reason hidentity => exact .inl hentry
      | managed identity loaded id hidentity hfree hload hid =>
        rcases List.mem_append.mp hentry with hentry | hentry
        · exact .inl hentry
        · rw [List.mem_singleton.mp hentry]
          exact .inr ⟨rfl, rfl⟩
    obtain ⟨hmade'', hfinal⟩ := ih
      (fun other hother => hload other (List.mem_cons_of_mem _ hother)) hpackages.2
      (fun other hother => hsub other (List.mem_cons_of_mem _ hother))
      (fun entry hentry => by
        rcases hentries entry hentry with hold | ⟨hid, -⟩
        · exact fun hmem => hnew entry hold (List.mem_cons_of_mem _ hmem)
        · rw [hid]
          exact hpackages.1) hmade' h
    refine ⟨hmade'', fun entry hentry => ?_⟩
    rcases hfinal entry hentry with hentry | ⟨other, hother, hkind⟩
    · rcases hentries entry hentry with hold | ⟨-, hkind⟩
      · exact .inl hold
      · exact .inr ⟨package, List.mem_cons_self, hkind.symm⟩
    · exact .inr ⟨other, List.mem_cons_of_mem _ hother, hkind⟩

end Made

end FreshSelection

namespace RuntimeSelectionConfig

variable {config : RuntimeSelectionConfig} {disk : PluginDirectory} {start failures : FailureDispatch}
  {cells : Cells} {fresh fresh' : FreshSelection} {kind : PluginKind} {kinds : List PluginKind}
  {load : FreshSelection → PluginPackage → Option FreshSelection}

/-- All loops so far were about the given kinds. -/
structure MadeKinds (config : RuntimeSelectionConfig) (disk : PluginDirectory)
    (start : FailureDispatch) (kinds : List PluginKind) (fresh : FreshSelection) : Prop where
  made : FreshSelection.Made config.bufferLimits disk start fresh
  kinds : ∀ entry ∈ (fresh.managed : List ManagedPlugin), entry.kind ∈ kinds

theorem MadeKinds.candidates (hdisk : (List.map PluginPackage.pluginId disk).Nodup)
    (hmade : config.MadeKinds disk start kinds fresh) (hkind : kind ∉ kinds)
    (hload : ∀ package : PluginPackage, package.pluginKind = kind → ∀ fresh fresh',
      load fresh package = some fresh' →
        FreshSelection.Loads config.bufferLimits fresh package fresh')
    (h : (config.candidates disk kind).foldlM load fresh = some fresh') :
    config.MadeKinds disk start (kind :: kinds) fresh' := by
  have hmem : ∀ package ∈ config.candidates disk kind,
      package ∈ (disk : List PluginPackage) ∧ package.pluginKind = kind := by
    intro package hpackage
    obtain ⟨hpackage, hallowed⟩ := List.mem_filter.mp hpackage
    exact ⟨hpackage, of_decide_eq_true (Bool.and_eq_true _ _ ▸ hallowed).1⟩
  obtain ⟨hmade', hentries⟩ := FreshSelection.Made.fold
    (fun package hpackage => hload package (hmem package hpackage).2) hdisk
    (hdisk.sublist (List.filter_sublist.map _)) (fun package hpackage => (hmem package hpackage).1)
    (fun entry hentry hid => by
      obtain ⟨package, hpackage, heq⟩ := List.mem_map.mp hid
      obtain ⟨other, hother, -, -, hid', hkind', -⟩ := hmade.made.packages entry hentry
      have hsame := FreshSelection.Made.eq_of_pluginId hdisk hother (hmem package hpackage).1
        (hid'.trans heq.symm)
      rw [hsame, (hmem package hpackage).2] at hkind'
      exact hkind (hkind' ▸ hmade.kinds entry hentry)) hmade.made h
  refine ⟨hmade', fun entry hentry => ?_⟩
  rcases hentries entry hentry with hentry | ⟨package, hpackage, hkind'⟩
  · exact List.mem_cons_of_mem _ (hmade.kinds entry hentry)
  · rw [← hkind', (hmem package hpackage).2]
    exact List.mem_cons_self

theorem MadeKinds.profiles {requested : List String}
    (hdisk : (List.map PluginPackage.pluginId disk).Nodup)
    (hmade : config.MadeKinds disk start kinds fresh) (hkind : kind ∉ kinds)
    (hload : ∀ package : PluginPackage, package.pluginKind = kind → ∀ fresh fresh',
      load fresh package = some fresh' →
        FreshSelection.Loads config.bufferLimits fresh package fresh')
    (h : config.prepareProfiles disk kind requested load fresh = some fresh') :
    config.MadeKinds disk start (kind :: kinds) fresh' := by
  obtain ⟨prepared, hprepared, h⟩ := Option.bind_eq_some_iff.mp h
  obtain ⟨_, -, h⟩ := Option.bind_eq_some_iff.mp h
  cases h
  exact hmade.candidates hdisk hkind hload hprepared

theorem stageRuntimeSelection_made
    (h : config.stageRuntimeSelection cells failures disk = some fresh) :
    (List.map PluginPackage.pluginId disk).Nodup ∧
      (∀ package ∈ (disk : List PluginPackage), package.source.isSome = true) ∧
      FreshSelection.Made config.bufferLimits disk failures fresh := by
  unfold stageRuntimeSelection at h
  obtain ⟨catalog, hcatalog, h⟩ := Option.bind_eq_some_iff.mp h
  simp only [PluginDirectory.discover, Option.bind_eq_bind, Option.bind_eq_some_iff,
    Option.guard_eq_some', Option.some.injEq] at hcatalog
  obtain ⟨-, hreadable, -, hdisk, rfl⟩ := hcatalog
  obtain ⟨protocols, hprotocols, h⟩ := Option.bind_eq_some_iff.mp h
  obtain ⟨gameplay, hgameplay, h⟩ := Option.bind_eq_some_iff.mp h
  obtain ⟨storage, hstorage, h⟩ := Option.bind_eq_some_iff.mp h
  obtain ⟨auth, hauth, h⟩ := Option.bind_eq_some_iff.mp h
  obtain ⟨surfaces, hsurfaces, h⟩ := Option.bind_eq_some_iff.mp h
  cases h
  obtain ⟨requested, -, hauth⟩ := Option.bind_eq_some_iff.mp hauth
  have hempty : config.MadeKinds disk failures []
      ⟨failures.updateMatrix config.failureMatrix, cells, []⟩ := by
    obtain ⟨hpackages, hadapters, hkept, hdistinct, hquarantine, hactive⟩ :=
      FreshSelection.Made.empty config.bufferLimits disk failures cells
    exact ⟨⟨hpackages, hadapters, hkept, hdistinct, hquarantine, hactive⟩,
      fun entry hentry => (List.not_mem_nil hentry).elim⟩
  have hprotocols := hempty.candidates hdisk (by decide)
    (fun package hkind fresh fresh' => FreshSelection.loadProtocolPlugin_loads hkind) hprotocols
  have hgameplay := hprotocols.profiles hdisk (by decide)
    (fun package hkind fresh fresh' => FreshSelection.loadRequestedPlugin_loads (by simp [hkind]))
    hgameplay
  have hstorage := hgameplay.profiles hdisk (by decide)
    (fun package hkind fresh fresh' => FreshSelection.loadRequestedPlugin_loads (by simp [hkind]))
    hstorage
  have hauth := hstorage.profiles hdisk (by decide)
    (fun package hkind fresh fresh' => FreshSelection.loadRequestedPlugin_loads (by simp [hkind]))
    hauth
  have hsurfaces := hauth.profiles hdisk (by decide)
    (fun package hkind fresh fresh' =>
      FreshSelection.loadRequestedAdminSurfacePlugin_loads (by simp [hkind])) hsurfaces
  obtain ⟨hpackages, hadapters, hkept, hdistinct, hquarantine, hactive⟩ := hsurfaces.made
  exact ⟨hdisk, hreadable, hpackages, hadapters, hkept, hdistinct, hquarantine, hactive⟩

end RuntimeSelectionConfig

namespace ReloadingServer

variable {r : ReloadingServer} {code : PluginCode} {config : RuntimeSelectionConfig}
  {disk : PluginDirectory} {fresh : FreshSelection} {active : ManagedPlugin}

theorem prepareRuntimeSelection_checks
    (h : r.server.prepareRuntimeSelection code r.failures config disk = some fresh) :
    config.stageRuntimeSelection r.server.cells r.failures disk = some fresh ∧
      (∀ active ∈ (r.server.host.managed : List ManagedPlugin), active.kind = .protocol →
        fresh.acceptsProtocol code r.server.reloadContext r.server.cells fresh.failures active =
          true) ∧
      (∀ active ∈ (r.server.host.managed : List ManagedPlugin), active.kind = .gameplay →
        fresh.acceptsGameplay code r.server.reloadContext r.server.cells active = true) ∧
      fresh.acceptsStorage code config.storageProfile = true := by
  simp only [RuntimeServer.prepareRuntimeSelection, Option.bind_eq_bind, Option.bind_eq_some_iff,
    Option.guard_eq_some', Option.some.injEq, List.all_eq_true] at h
  obtain ⟨staged, hstaged, -, hprotocol, -, hgameplay, -, hstorage, rfl⟩ := h
  refine ⟨hstaged, ?_, ?_, hstorage⟩
  · intro active hactive hkind
    exact hprotocol active (List.mem_filter.mpr ⟨hactive, decide_eq_true hkind⟩)
  · intro active hactive hkind
    exact hgameplay active (List.mem_filter.mpr ⟨hactive, decide_eq_true hkind⟩)

theorem brokenCandidate_refuses (hdisk : (List.map PluginPackage.pluginId disk).Nodup)
    (hreadable : ∀ package ∈ (disk : List PluginPackage), package.source.isSome = true)
    (hmade : fresh.Made config.bufferLimits disk r.failures)
    (hbroken : BrokenCandidate r code config.bufferLimits disk active)
    {entry : ManagedPlugin} (hentry : entry ∈ (fresh.managed : List ManagedPlugin))
    (hkind : entry.kind = active.kind) (hid : entry.pluginId = active.pluginId) :
    ∃ generation, entry.handle.generation fresh.cells = some generation ∧
      refusesSessionImport code r.server.reloadContext r.server.cells active generation := by
  obtain ⟨package, hpackage, identity, loaded, hpluginId, hpluginKind, hidentity, hfree, hload, hcell⟩ :=
    hmade.packages entry hentry
  have hfind : disk.package active.pluginId = some package := by
    cases hfound : disk.package active.pluginId with
    | none =>
      have hno := List.find?_eq_none.mp hfound package hpackage
      simp [hpluginId, hid] at hno
    | some other =>
      have hother := List.find?_some hfound
      rw [FreshSelection.Made.eq_of_pluginId hdisk (List.mem_of_find?_eq_some hfound) hpackage
        ((of_decide_eq_true hother).trans (hid.symm.trans hpluginId.symm))]
  have hrefresh : refreshDynamicManifest disk active = some package := by
    simp only [refreshDynamicManifest, hfind, hreadable package hpackage, hpluginKind.trans hkind,
      guard_true, Option.bind_eq_bind, Option.pure_def, Option.bind_some]
  rw [hpluginId, hid] at hfree
  exact ⟨loaded.generation, hcell, hbroken.refuses hrefresh hidentity hfree hload⟩

/-- A topology or full reload with a broken candidate has no handle for its plugin. -/
theorem prepareRuntimeSelection_drops
    (h : r.server.prepareRuntimeSelection code r.failures config disk = some fresh)
    (hactive : active ∈ (r.server.host.managed : List ManagedPlugin))
    (hselected : config.selects active.kind active.handle.id = true)
    (hbroken : BrokenCandidate r code config.bufferLimits disk active)
    {entry : ManagedPlugin} (hentry : entry ∈ (fresh.managed : List ManagedPlugin))
    (hkind : entry.kind = active.kind) (hid : entry.pluginId = active.pluginId)
    (hname : entry.handle.id = active.handle.id) : False := by
  obtain ⟨hstaged, hprotocol, hgameplay, hstorage⟩ := prepareRuntimeSelection_checks h
  obtain ⟨hdisk, hreadable, hmade⟩ := RuntimeSelectionConfig.stageRuntimeSelection_made hstaged
  obtain ⟨generation, hgeneration, hrefuses⟩ :=
    brokenCandidate_refuses hdisk hreadable hmade hbroken hentry hkind hid
  have hfind : fresh.managed.find active.kind active.handle.id = some entry := by
    rw [← hkind, ← hname]
    exact hmade.kept.find_of_mem hentry
  unfold refusesSessionImport at hrefuses
  cases hactiveKind : active.kind with
  | protocol =>
    rw [hactiveKind] at hrefuses hkind
    obtain ⟨current, hcurrent, hmigrates⟩ := hrefuses
    have haccepts := hprotocol active hactive hactiveKind
    have hfound : List.find? (fun other => decide (other.kind = .protocol ∧
        other.pluginId = active.pluginId)) fresh.managed = some entry := by
      cases hother : List.find? (fun other => decide (other.kind = .protocol ∧
          other.pluginId = active.pluginId)) fresh.managed with
      | none =>
        have hno := List.find?_eq_none.mp hother entry hentry
        simp [hkind, hid] at hno
      | some other =>
        have hmatches := List.find?_some hother
        simp only [decide_eq_true_eq] at hmatches
        rw [List.inj_on_of_nodup_map hmade.distinct (List.mem_of_find?_eq_some hother) hentry
          (hmatches.2.trans hid.symm)]
    unfold FreshSelection.acceptsProtocol at haccepts
    rw [hfound] at haccepts
    simp [hcurrent, hgeneration, PluginCode.validateProtocolSessionMigration, hmigrates,
      Option.bind_eq_some_iff] at haccepts
  | gameplay =>
    rw [hactiveKind] at hrefuses hfind
    obtain ⟨current, hcurrent, hmigrates⟩ := hrefuses
    have haccepts := hgameplay active hactive hactiveKind
    unfold FreshSelection.acceptsGameplay at haccepts
    rw [hfind] at haccepts
    simp [hcurrent, hgeneration, PluginCode.validateGameplaySessionMigration, hmigrates]
      at haccepts
  | storage =>
    rw [hactiveKind] at hrefuses hfind hselected
    have hstorageProfile : active.handle.id = config.storageProfile := of_decide_eq_true hselected
    rw [hstorageProfile] at hfind
    unfold FreshSelection.acceptsStorage at hstorage
    rw [hfind] at hstorage
    have hrefused : code.importRuntimeState generation = false := hrefuses
    simp [hgeneration, hrefused] at hstorage
  | auth | adminSurface =>
    rw [hactiveKind] at hrefuses
    exact hrefuses

end ReloadingServer

/-! ### The invariant of the host -/

theorem PluginHost.applyUpdates_pluginIds (cells : Cells) (managed : ManagedPlugins)
    (updates : List ArtifactUpdate) :
    List.map (·.pluginId) (applyUpdates cells managed updates).2 =
      List.map (·.pluginId) managed := by
  induction updates generalizing cells managed with
  | nil => rfl
  | cons update rest ih =>
    have hfirst : List.map (·.pluginId) (applyUpdate cells managed update).2 =
        List.map (·.pluginId) managed := by
      unfold applyUpdate
      split
      · rfl
      · rw [List.map_map]
        refine List.map_congr_left fun other _ => ?_
        simp only [Function.comp_apply]
        split
        · rename_i heq
          rw [heq]
        · rfl
    exact (ih (applyUpdate cells managed update).1 (applyUpdate cells managed update).2).trans hfirst

theorem PluginHost.freshManaged_pluginIds (config : ServerConfig) (next : Nat)
    (disk : List Artifact) :
    List.Sublist (List.map (·.pluginId) (freshManaged config next disk))
      (disk.map (·.pluginId)) := by
  induction disk generalizing next with
  | nil => exact List.Sublist.refl _
  | cons artifact rest ih =>
    unfold freshManaged
    split
    · exact (ih (next + 1)).cons_cons _
    · exact (ih next).cons _

namespace ReloadingServer

variable {r final : ReloadingServer} {code : PluginCode} {mode : RuntimeReloadMode}
  {loaded : RuntimeSelectionConfig} {disk : PluginDirectory} {between : List ReloadStep}

/-- A reload, and a step of the server between two reloads. -/
inductive HostStep where
  | goesOn (a : ReloadStep)
  | reloads (code : PluginCode) (mode : RuntimeReloadMode) (loaded : RuntimeSelectionConfig)
      (disk : PluginDirectory) (between : List ReloadStep)

def step (r : ReloadingServer) : HostStep → Option ReloadingServer
  | .goesOn a => do
    guard (RuntimeServer.minor a = true)
    let server ← r.server.step a
    some { r with server := server }
  | .reloads code mode loaded disk between => r.reloadRuntime code mode loaded disk between

theorem Kept.boot {config : ServerConfig} {artifacts : List Artifact} {revision generationId : Nat}
    {s : RuntimeServer} (failures : FailureDispatch) (adminSurfaces : List String)
    (hdistinct : (artifacts.map (·.pluginId)).Nodup)
    (h : RuntimeServer.boot config artifacts revision generationId = some s) :
    Kept ⟨s, failures, adminSurfaces⟩ := by
  refine ⟨(RuntimeServer.Kept.boot h).managed, ?_⟩
  simp only [RuntimeServer.boot, Option.bind_eq_bind, Option.bind_eq_some_iff,
    Option.guard_eq_some', Option.some.injEq] at h
  obtain ⟨-, -, topology, -, selection, -, storage, -, rfl⟩ := h
  exact (PluginHost.freshManaged_pluginIds config 0 artifacts).nodup hdistinct

theorem Kept.reloadRuntime (hkept : r.Kept)
    (h : r.reloadRuntime code mode loaded disk between = some final) : final.Kept := by
  obtain ⟨config, prepared, -, -, hprepares, -, -, -, hcommitted, hcore⟩ := reloadRuntime_committed h
  have hfresh : ∀ {fresh : FreshSelection},
      r.server.prepareRuntimeSelection code r.failures config disk = some fresh →
      (final.server.host, final.server.cells) = r.server.host.commitRuntimeSelection fresh.cells
        (.fresh config.toServerConfig fresh.managed) → final.Kept := by
    intro fresh hprepared hfinal
    have hmade := (RuntimeSelectionConfig.stageRuntimeSelection_made
      (prepareRuntimeSelection_checks hprepared).1).2.2
    have hfinal := Prod.mk.inj hfinal
    constructor
    · rw [hfinal.1, hfinal.2]
      exact hmade.kept
    · rw [hfinal.1]
      exact hmade.distinct
  cases mode with
  | artifacts =>
    obtain ⟨⟨f, updates⟩, -, heq⟩ := Option.bind_eq_some_iff.mp hprepares
    cases heq
    have hfinal := Prod.mk.inj (hcommitted _ rfl)
    constructor
    · rw [hfinal.1, hfinal.2]
      exact PluginHost.applyUpdates_wellKept updates hkept.managed
    · rw [hfinal.1]
      exact (PluginHost.applyUpdates_pluginIds r.server.cells r.server.host.managed updates).symm ▸
        hkept.distinct
  | topology =>
    obtain ⟨fresh, hprepared, heq⟩ := Option.bind_eq_some_iff.mp hprepares
    cases heq
    exact hfresh hprepared (hcommitted _ rfl)
  | core =>
    cases hprepares
    obtain ⟨hhost, hcells⟩ := Prod.mk.inj (hcore rfl)
    constructor
    · rw [hhost, hcells]
      exact hkept.managed
    · rw [hhost]
      exact hkept.distinct
  | full =>
    obtain ⟨fresh, hprepared, heq⟩ := Option.bind_eq_some_iff.mp hprepares
    cases heq
    exact hfresh hprepared (hcommitted _ rfl)

theorem Kept.step {a : HostStep} (hkept : r.Kept) (h : r.step a = some final) : final.Kept := by
  cases a with
  | goesOn a =>
    simp only [ReloadingServer.step, Option.bind_eq_bind, Option.bind_eq_some_iff,
      Option.guard_eq_some', Option.some.injEq] at h
    obtain ⟨-, hminor, server, hserver, rfl⟩ := h
    obtain ⟨hcells, hhost, -, -⟩ := RuntimeServer.step_minor hminor hserver
    constructor
    · simp only [hcells, hhost]
      exact hkept.managed
    · simp only [hhost]
      exact hkept.distinct
  | reloads code mode loaded disk between => exact hkept.reloadRuntime h

end ReloadingServer

/-! ### Who holds what back -/

theorem FailureDispatch.clearPluginStates_both {P : String → Prop} {f g : FailureDispatch}
    (updates : List ArtifactUpdate) (hagree : f.AgreesOn P g) :
    (updates.foldl (fun failures update => failures.clearPluginState update.pluginId) f).AgreesOn P
      (updates.foldl (fun failures update => failures.clearPluginState update.pluginId) g) := by
  induction updates generalizing f g with
  | nil => exact hagree
  | cons update rest ih =>
    refine ih ⟨hagree.matrix, ?_, fun pluginId hpluginId => ?_⟩
    · simp only [clearPluginState, hagree.active]
    · simp only [clearPluginState, BTreeMap.getElem?_erase_eq, hagree.artifacts pluginId hpluginId]

namespace ReloadingServer

variable {r final final' : ReloadingServer} {code : PluginCode} {mode : RuntimeReloadMode}
  {loaded config : RuntimeSelectionConfig} {disk disk' : PluginDirectory}
  {between : List ReloadStep} {broken : List String}

/-- The reload commits, the other plugins are reloaded as they are in the second one, and those with
    a broken candidate serve with the generation that they had. -/
def HoldsBack (r : ReloadingServer) (code : PluginCode) (mode : RuntimeReloadMode)
    (loaded : RuntimeSelectionConfig) (disk : PluginDirectory) (between : List ReloadStep)
    (broken : List String) (final' : ReloadingServer) : Prop :=
  ∃ final, r.reloadRuntime code mode loaded disk between = some final ∧
    Alike final final' broken ∧
    ∀ active ∈ (r.server.host.managed : List ManagedPlugin), active.pluginId ∈ broken →
      r.ServesPrevious final active

theorem artifacts_managed {f : FailureDispatch} {updates : List ArtifactUpdate}
    (hprepared : r.server.prepareRuntimeArtifacts code r.failures disk = some (f, updates))
    (h : r.reloadRuntime code .artifacts loaded disk between = some final)
    {active : ManagedPlugin} (hactive : active ∈ (r.server.host.managed : List ManagedPlugin)) :
    final.server.cells =
        (PluginHost.applyUpdates r.server.cells r.server.host.managed updates).1 ∧
      ∃ entry ∈ (final.server.host.managed : List ManagedPlugin),
        entry.kind = active.kind ∧ entry.pluginId = active.pluginId ∧
          entry.handle = active.handle ∧ ⟨entry.kind, entry.handle⟩ ∈
            (final.server.epoch.selection.loadedPlugins : List LoadedPlugin) := by
  obtain ⟨config, prepared, selection, -, hprepares, hselection, hepoch, -, hcommitted, -⟩ :=
    reloadRuntime_committed h
  simp only [preparePlugins, hprepared, Option.bind_eq_bind, Option.bind_some, Option.some.injEq]
    at hprepares
  subst hprepares
  have hfinal := Prod.mk.inj (hcommitted (.artifacts updates) rfl)
  obtain ⟨entry, hentry, hpluginId, hkind, hhandle⟩ :=
    PluginHost.applyUpdates_mem r.server.cells updates hactive
  refine ⟨hfinal.2, entry, ?_, hkind, hpluginId, hhandle, ?_⟩
  · rw [hfinal.1]
    exact hentry
  · rw [hepoch, (resolveSelection_spec hselection).2.1, hkind, hhandle]
    exact List.mem_map_of_mem (f := fun entry => (⟨entry.kind, entry.handle⟩ : LoadedPlugin)) hactive

theorem artifacts_servesPrevious {f : FailureDispatch} {updates : List ArtifactUpdate}
    (hkept : r.Kept)
    (hprepared : r.server.prepareRuntimeArtifacts code r.failures disk = some (f, updates))
    (h : r.reloadRuntime code .artifacts loaded disk between = some final)
    {active : ManagedPlugin} (hactive : active ∈ (r.server.host.managed : List ManagedPlugin))
    (hupdates : ∀ update ∈ updates, update.pluginId ≠ active.pluginId) :
    r.ServesPrevious final active := by
  have hkey : (active.kind, active.handle.id) ∉ updates.map ArtifactUpdate.key := by
    intro hmem
    obtain ⟨update, hupdate, hkey⟩ := List.mem_map.mp hmem
    obtain ⟨other, hother, hotherKey, hpluginId⟩ :=
      prepareRuntimeArtifacts_managed hkept hprepared update hupdate
    have heq : other = active :=
      List.inj_on_of_nodup_map hkept.managed.keys hother hactive (hotherKey.symm.trans hkey)
    exact hupdates update hupdate (hpluginId.trans (heq ▸ rfl))
  obtain ⟨hcells, entry, hentry, hkind, hpluginId, hhandle, hselected⟩ :=
    artifacts_managed hprepared h hactive
  refine ⟨entry, hentry, hkind, hpluginId, by rw [hhandle], hselected, ?_⟩
  rw [hhandle, hcells]
  exact PluginHost.applyUpdates_generation_of_ne hkept.managed
    (hkept.managed.handle_of_mem hactive) hkey

theorem Alike.refl (final : ReloadingServer) (broken : List String) : Alike final final broken :=
  ⟨rfl, fun _ _ _ => rfl, fun _ _ _ => Iff.rfl, fun _ _ => rfl⟩

/-- An artifacts reload that passes the broken candidates over holds nothing else back. -/
theorem artifacts_holdsBack (hkept : r.Kept) (hplan : r.planReload loaded .artifacts = some config)
    (hbreaks : r.Breaks code .artifacts config disk broken)
    (hunchanged : r.Unchanged disk disk' broken)
    (hpassed : ∀ active ∈ (r.server.host.managed : List ManagedPlugin), active.pluginId ∈ broken →
      r.PassedOver disk active)
    (h : r.reloadRuntime code .artifacts loaded disk' between = some final') :
    r.HoldsBack code .artifacts loaded disk between broken final' := by
  obtain ⟨config', prepared', -, hplan', hprepares, -, -, hfailures, -⟩ := reloadRuntime_committed h
  cases hplan.symm.trans hplan'
  obtain ⟨⟨g, updates⟩, hprepared', heq⟩ := Option.bind_eq_some_iff.mp hprepares
  cases heq
  have hmatrix : config.failureMatrix = r.failures.matrix := by
    cases hplan
    rfl
  obtain ⟨f, hprepared, hagree, hothers⟩ := prepareRuntimeArtifacts_outside hkept
    hbreaks.candidates (fun active hactive hmem => hmatrix ▸ hbreaks.policy active hactive hmem)
    hunchanged hpassed hprepared'
  have hcommits := reloadRuntime_congr r.failures hplan rfl
    (by rw [preparePlugins, hprepared]; rfl) hprepares h
  refine ⟨_, hcommits, ?_, ?_⟩
  · refine ⟨rfl, fun _ _ _ => rfl, fun _ _ _ => Iff.rfl, fun pluginId hpluginId => ?_⟩
    rw [hfailures]
    exact (FailureDispatch.clearPluginStates_both updates hagree).artifacts pluginId hpluginId
  · intro active hactive hmem
    exact artifacts_servesPrevious hkept hprepared hcommits hactive
      (fun update hupdate hid => hothers update hupdate (hid ▸ hmem))

/-- A topology or full reload with a broken candidate does not commit, or drops its plugin. -/
theorem fresh_drops (hfresh : r.preparePlugins code config disk mode =
      (r.server.prepareRuntimeSelection code r.failures config disk).bind fun fresh =>
        some ⟨fresh.failures, fresh.cells, some (.fresh config.toServerConfig fresh.managed)⟩)
    (hplan : r.planReload loaded mode = some config)
    (h : r.reloadRuntime code mode loaded disk between = some final) {active : ManagedPlugin}
    (hactive : active ∈ (r.server.host.managed : List ManagedPlugin))
    (hselected : config.selects active.kind active.handle.id = true)
    (hbroken : BrokenCandidate r code config.bufferLimits disk active) :
    ¬ r.ServesPrevious final active := by
  obtain ⟨config', prepared, -, hplan', hprepares, -, -, -, hcommitted, -⟩ := reloadRuntime_committed h
  cases hplan.symm.trans hplan'
  rw [hfresh] at hprepares
  obtain ⟨fresh, hprepared, heq⟩ := Option.bind_eq_some_iff.mp hprepares
  cases heq
  have hfinal := Prod.mk.inj (hcommitted _ rfl)
  rintro ⟨entry, hentry, hkind, hid, hname, -, -⟩
  rw [hfinal.1] at hentry
  exact prepareRuntimeSelection_drops hprepared hactive hselected hbroken hentry hkind hid hname

/-- **A broken candidate holds back only itself** in an artifacts reload that passes it over, and in
    no other reload. -/
theorem holdsBack_iff (hkept : r.Kept) (hmode : mode ≠ .core)
    (hplan : r.planReload loaded mode = some config)
    (hbreaks : r.Breaks code mode config disk broken)
    (hunchanged : r.Unchanged disk disk' broken)
    (hcommits : r.reloadRuntime code mode loaded disk' between = some final') :
    r.HoldsBack code mode loaded disk between broken final' ↔
      broken = [] ∨ (mode = .artifacts ∧
        ∀ active ∈ (r.server.host.managed : List ManagedPlugin), active.pluginId ∈ broken →
          r.PassedOver disk active) := by
  constructor
  · rintro ⟨final, hfinal, -, hserves⟩
    by_cases hnone : broken = []
    · exact .inl hnone
    · obtain ⟨pluginId, hpluginId⟩ := List.exists_mem_of_ne_nil broken hnone
      obtain ⟨active, hactive, rfl⟩ := hbreaks.active pluginId hpluginId
      have hselected := (hbreaks.selected active hactive hpluginId).2
      have hbroken := hbreaks.candidates active hactive hpluginId
      have hserved := hserves active hactive hpluginId
      cases mode with
      | artifacts =>
        refine .inr ⟨rfl, fun other hother _ => ?_⟩
        obtain ⟨config', prepared, -, -, hprepares, -⟩ := reloadRuntime_committed hfinal
        obtain ⟨⟨f, updates⟩, hprepared, -⟩ := Option.bind_eq_some_iff.mp hprepares
        exact prepareRuntimeArtifacts_passedOver hkept hprepared other hother
      | topology => exact absurd hserved (fresh_drops rfl hplan hfinal hactive hselected hbroken)
      | core => exact absurd rfl hmode
      | full => exact absurd hserved (fresh_drops rfl hplan hfinal hactive hselected hbroken)
  · rintro (rfl | ⟨rfl, hpassed⟩)
    · have hsame : disk' = disk := by
        simpa using hunchanged.others
      rw [hsame] at hcommits
      exact ⟨final', hcommits, Alike.refl final' [], fun active _ hmem => (List.not_mem_nil hmem).elim⟩
    · exact artifacts_holdsBack hkept hplan hbreaks hunchanged hpassed hcommits

end ReloadingServer

/-! ### An example reload -/

/-- The package of a plugin of `RuntimeServer.exampleConfig`, with what it loads. -/
def examplePackage (kind : PluginKind) (id : String) (modifiedAt : Nat)
    (load : Except String Nat) : PluginPackage where
  pluginId := id
  pluginKind := kind
  source := some id
  modifiedAt := some modifiedAt
  load := fun _ => load.map fun generationId => ⟨id, ⟨generationId, generationId, [], none⟩⟩

/-- A newer Java adapter, and the given package of the gameplay plugin. -/
def exampleDirectory (gameplay : PluginPackage) : PluginDirectory :=
  [examplePackage .protocol "je" 2 (.ok 5), gameplay, examplePackage .storage "disk" 1 (.ok 3),
    examplePackage .auth "offline" 1 (.ok 4)]

def exampleUnchanged : PluginPackage := examplePackage .gameplay "survival" 1 (.ok 2)

def exampleBroken : PluginPackage := examplePackage .gameplay "survival" 2 (.error "no symbol")

def exampleCode : PluginCode where
  exportProtocolSession := fun _ _ => some []
  importProtocolSession := fun _ _ _ => true
  exportGameplaySession := fun _ _ => some []
  importGameplaySession := fun _ _ _ => true
  importRuntimeState := fun _ => true

def exampleSelection : RuntimeSelectionConfig :=
  { RuntimeServer.exampleConfig with
    failureMatrix := .default
    adminSurfaces := [] }

def exampleRunning : ReloadingServer where
  server := (RuntimeServer.boot RuntimeServer.exampleConfig (RuntimeServer.exampleDisk 1 1) 1 1).get
    (by decide +kernel)
  failures := { PluginFailureDispatch.new .default with artifactQuarantine := ∅ }
  adminSurfaces := []

def exampleGameplay : ManagedPlugin := ⟨.gameplay, "survival", ⟨"survival", 1⟩, 1, 1⟩

namespace ReloadingServer

theorem exampleRunning_kept : exampleRunning.Kept :=
  ⟨⟨by decide +kernel, by decide +kernel, by decide +kernel⟩, by decide +kernel⟩

theorem exampleRunning_gameplay : ∀ active ∈ (exampleRunning.server.host.managed : List ManagedPlugin),
    active.pluginId ∈ ["survival"] → active = exampleGameplay := by
  decide +kernel

theorem exampleRunning_breaks (mode : RuntimeReloadMode) :
    exampleRunning.Breaks exampleCode mode exampleSelection (exampleDirectory exampleBroken)
      ["survival"] := by
  refine ⟨by decide +kernel, by decide +kernel, ?_, ?_⟩
  · intro active hactive hmem
    rw [exampleRunning_gameplay active hactive hmem]
    exact .failsToLoad exampleBroken "no symbol" rfl rfl
  · intro active hactive hmem
    rw [exampleRunning_gameplay active hactive hmem]
    decide

theorem exampleRunning_unchanged :
    exampleRunning.Unchanged (exampleDirectory exampleBroken) (exampleDirectory exampleUnchanged)
      ["survival"] := by
  refine ⟨rfl, ?_⟩
  intro active hactive hmem
  rw [exampleRunning_gameplay active hactive hmem]
  exact ⟨exampleUnchanged, rfl, rfl, rfl, rfl, _, rfl, rfl⟩

/-- An artifacts reload takes the new adapter over and leaves the gameplay plugin as it is. -/
theorem holdsBack_iff_artifacts :
    ∃ final', exampleRunning.reloadRuntime exampleCode .artifacts exampleSelection
        (exampleDirectory exampleUnchanged) [.prepareBegins, .freeze] = some final' ∧
      exampleRunning.HoldsBack exampleCode .artifacts exampleSelection
        (exampleDirectory exampleBroken) [.prepareBegins, .freeze] ["survival"] final' := by
  obtain ⟨final', hfinal⟩ := Option.isSome_iff_exists.mp (show (exampleRunning.reloadRuntime
    exampleCode .artifacts exampleSelection (exampleDirectory exampleUnchanged)
    [.prepareBegins, .freeze]).isSome = true by decide +kernel)
  refine ⟨final', hfinal, (holdsBack_iff exampleRunning_kept (by decide) rfl
    (exampleRunning_breaks .artifacts) exampleRunning_unchanged hfinal).mpr (.inr ⟨rfl, ?_⟩)⟩
  intro active hactive hmem
  rw [exampleRunning_gameplay active hactive hmem]
  exact ⟨exampleBroken, ⟨"survival", 2⟩, rfl, rfl, fun hprotocol => nomatch hprotocol⟩

/-- A full reload fails with it. -/
theorem broken_gameplay_fails_full_reload :
    exampleRunning.Kept ∧
      exampleRunning.Breaks exampleCode .full exampleSelection (exampleDirectory exampleBroken)
        ["survival"] ∧
      exampleRunning.Unchanged (exampleDirectory exampleBroken) (exampleDirectory exampleUnchanged)
        ["survival"] ∧
      ∃ final', exampleRunning.reloadRuntime exampleCode .full exampleSelection
          (exampleDirectory exampleUnchanged) [.prepareBegins, .freeze] = some final' ∧
        exampleRunning.reloadRuntime exampleCode .full exampleSelection
          (exampleDirectory exampleBroken) [.prepareBegins, .freeze] = none ∧
        ¬ exampleRunning.HoldsBack exampleCode .full exampleSelection
          (exampleDirectory exampleBroken) [.prepareBegins, .freeze] ["survival"] final' := by
  obtain ⟨final', hfinal⟩ := Option.isSome_iff_exists.mp (show (exampleRunning.reloadRuntime
    exampleCode .full exampleSelection (exampleDirectory exampleUnchanged)
    [.prepareBegins, .freeze]).isSome = true by decide +kernel)
  have hnone : exampleRunning.reloadRuntime exampleCode .full exampleSelection
      (exampleDirectory exampleBroken) [.prepareBegins, .freeze] = none :=
    Option.isNone_iff_eq_none.mp (by decide +kernel)
  refine ⟨exampleRunning_kept, exampleRunning_breaks .full, exampleRunning_unchanged, final', hfinal,
    hnone, ?_⟩
  rintro ⟨final, hcommits, -⟩
  rw [hnone] at hcommits
  cases hcommits

end ReloadingServer

end RevyCraft.PluginHandles
