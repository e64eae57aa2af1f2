/-
  RevyCraft/QuarantinedAdapters.lean
  ==================================
  **No reload brings a protocol adapter back from quarantine.**

  A reload that commits clears the quarantine of the plugins that it has
  replaced.  But a running adapter is asked first for the generation that the
  candidate is compared with, and in quarantine it gives none away.  A call that
  fails after that and before the commit is not among the runs here: its
  quarantine is cleared.
-/
import RevyCraft.BrokenCandidates

namespace RevyCraft.PluginHandles

namespace FailureDispatch

variable {f : FailureDispatch} {pluginId : String}

theorem clearPluginStates_other {α : Type} {id : α → String} {entries : List α}
    (hother : ∀ entry ∈ entries, id entry ≠ pluginId)
    (h : f.isActiveQuarantined pluginId = true) :
    (entries.foldl (fun failures entry => failures.clearPluginState (id entry))
      f).isActiveQuarantined pluginId = true := by
  induction entries generalizing f with
  | nil => exact h
  | cons entry rest ih =>
    refine ih (fun other hmem => hother other (List.mem_cons_of_mem _ hmem)) ?_
    have hne := hother entry List.mem_cons_self
    unfold PluginFailureDispatch.isActiveQuarantined PluginFailureDispatch.activeReason at h ⊢
    unfold clearPluginState
    rwa [BTreeMap.getElem?_erase_eq, if_neg hne]

end FailureDispatch

namespace ReloadingServer

variable {r final : ReloadingServer} {code : PluginCode} {mode : RuntimeReloadMode}
  {loaded config : RuntimeSelectionConfig} {disk : PluginDirectory} {between : List ReloadStep}
  {active : ManagedPlugin} {f : FailureDispatch} {updates : List ArtifactUpdate}
  {pluginId : String}

def ManagesAdapter (r : ReloadingServer) (pluginId : String) : Prop :=
  ∃ active ∈ (r.server.host.managed : List ManagedPlugin),
    active.kind = .protocol ∧ active.pluginId = pluginId

instance (r : ReloadingServer) (pluginId : String) : Decidable (r.ManagesAdapter pluginId) :=
  inferInstanceAs (Decidable (∃ active ∈ _, _))

theorem prepareRuntimeArtifacts_others (hkept : r.Kept)
    (h : r.server.prepareRuntimeArtifacts code r.failures disk = some (f, updates))
    (hmanages : r.ManagesAdapter pluginId)
    (hquarantined : r.failures.isActiveQuarantined pluginId = true) :
    f.isActiveQuarantined pluginId = true ∧ ∀ update ∈ updates, update.pluginId ≠ pluginId := by
  obtain ⟨active, hactive, hkind, rfl⟩ := hmanages
  obtain ⟨package, identity, hpackage, hidentity, hpasses⟩ :=
    prepareRuntimeArtifacts_passedOver hkept h active hactive
  obtain ⟨staged, finalized, hstaged, -, hfinalized, rfl⟩ := prepareRuntimeArtifacts_steps h
  have hstages := stageArtifactUpdates_byKind hkept hstaged
  refine ⟨?_, fun update hupdate hid => ?_⟩
  · rw [(PluginHost.finalizeArtifactUpdates_agrees hfinalized).isActiveQuarantined,
      hstages.agrees.isActiveQuarantined]
    exact hquarantined
  · obtain ⟨prepared, hprepared, rfl⟩ := List.mem_map.mp hupdate
    obtain ⟨other, hother, hcandidate⟩ := hstages.loads prepared
      ((PluginHost.finalizeArtifactUpdates_sublist hfinalized).subset hprepared)
    obtain ⟨-, hpluginId, -, package', identity', result, hpackage', hidentity', hnewer, hfree,
      hload, -⟩ := PluginHost.artifactCandidate_loaded hcandidate
    have heq : other = active := List.inj_on_of_nodup_map hkept.distinct
      (PluginHost.mem_byKind.mp hother) hactive (hpluginId.symm.trans hid)
    subst heq
    cases hpackage.symm.trans hpackage'
    cases hidentity.symm.trans hidentity'
    rcases hpasses hkind hquarantined with hold | hold | ⟨reason, hold⟩
    · exact hnewer hold
    · rw [hfree] at hold
      cases hold
    · cases hload.symm.trans hold

theorem prepareRuntimeSelection_without {fresh : FreshSelection}
    (h : r.server.prepareRuntimeSelection code r.failures config disk = some fresh)
    (hmanages : r.ManagesAdapter pluginId)
    (hquarantined : r.failures.isActiveQuarantined pluginId = true) :
    ∀ entry ∈ (fresh.managed : List ManagedPlugin), entry.kind = .protocol →
      entry.pluginId ≠ pluginId := by
  obtain ⟨active, hactive, hkind, rfl⟩ := hmanages
  obtain ⟨hstaged, haccepts, -⟩ := prepareRuntimeSelection_checks h
  intro entry hentry hprotocol hid
  have hfound : (List.find? (fun other => decide (other.kind = .protocol ∧
      other.pluginId = active.pluginId)) fresh.managed).isSome = true :=
    List.find?_isSome.mpr ⟨entry, hentry, decide_eq_true ⟨hprotocol, hid⟩⟩
  obtain ⟨candidate, hcandidate⟩ := Option.isSome_iff_exists.mp hfound
  have hstatus : fresh.failures.isActiveQuarantined active.pluginId = true := by
    unfold PluginFailureDispatch.isActiveQuarantined PluginFailureDispatch.activeReason
    rw [(RuntimeSelectionConfig.stageRuntimeSelection_made hstaged).2.2.active]
    exact hquarantined
  have hasked := haccepts active hactive hkind
  rw [FreshSelection.acceptsProtocol, hcandidate] at hasked
  simp [hstatus] at hasked

theorem reloadRuntime_quarantined (hkept : r.Kept)
    (h : r.reloadRuntime code mode loaded disk between = some final)
    (hmanages : r.ManagesAdapter pluginId)
    (hquarantined : r.failures.isActiveQuarantined pluginId = true)
    (hlater : final.ManagesAdapter pluginId) :
    final.failures.isActiveQuarantined pluginId = true := by
  obtain ⟨config, prepared, selection, -, hprepares, -, -, hfailures, hcommitted, -⟩ :=
    reloadRuntime_committed h
  have hfresh : ∀ {fresh : FreshSelection},
      r.server.prepareRuntimeSelection code r.failures config disk = some fresh →
        (final.server.host, final.server.cells) = r.server.host.commitRuntimeSelection fresh.cells
          (.fresh config.toServerConfig fresh.managed) → False := by
    intro fresh hprepared hfinal
    obtain ⟨entry, hentry, hkind, hid⟩ := hlater
    rw [(Prod.mk.inj hfinal).1] at hentry
    exact prepareRuntimeSelection_without hprepared hmanages hquarantined entry hentry hkind hid
  cases mode with
  | artifacts =>
    obtain ⟨⟨f, updates⟩, hprepared, heq⟩ := Option.bind_eq_some_iff.mp hprepares
    cases heq
    obtain ⟨hstill, hothers⟩ :=
      prepareRuntimeArtifacts_others hkept hprepared hmanages hquarantined
    rw [hfailures]
    exact FailureDispatch.clearPluginStates_other hothers hstill
  | core =>
    cases hprepares
    rw [hfailures]
    exact hquarantined
  | _ =>
    obtain ⟨fresh, hprepared, heq⟩ := Option.bind_eq_some_iff.mp hprepares
    cases heq
    exact (hfresh hprepared (hcommitted _ rfl)).elim

/-- What happens to a process that runs: its host goes on or reloads, or a call of a plugin fails
    outside a reload. -/
inductive LifeStep where
  | host (a : HostStep)
  | callFails (kind : PluginKind) (pluginId reason : String)

def lifeStep (r : ReloadingServer) : LifeStep → Option ReloadingServer
  | .host a => r.step a
  | .callFails kind pluginId reason =>
    let failed := r.failures.handleRuntimeFailure kind pluginId reason
    some { r with
      server := if kind = .protocol ∧ failed.1 = .quarantine then r.server.quarantine pluginId
        else r.server
      failures := { r.failures with toPluginFailureDispatch := failed.2 } }

theorem Kept.lifeStep {a : LifeStep} (hkept : r.Kept) (h : r.lifeStep a = some final) :
    final.Kept := by
  cases a with
  | host a => exact hkept.step h
  | callFails kind pluginId reason =>
    cases h
    constructor
    · dsimp only
      split
      · exact hkept.managed
      · exact hkept.managed
    · dsimp only
      split
      · exact hkept.distinct
      · exact hkept.distinct

theorem lifeStep_quarantined {a : LifeStep} (hkept : r.Kept) (h : r.lifeStep a = some final)
    (hmanages : r.ManagesAdapter pluginId)
    (hquarantined : r.failures.isActiveQuarantined pluginId = true)
    (hlater : final.ManagesAdapter pluginId) :
    final.failures.isActiveQuarantined pluginId = true := by
  cases a with
  | host a =>
    cases a with
    | goesOn a =>
      simp only [lifeStep, ReloadingServer.step, Option.bind_eq_bind, Option.bind_eq_some_iff,
        Option.guard_eq_some', Option.some.injEq] at h
      obtain ⟨-, -, server, -, rfl⟩ := h
      exact hquarantined
    | reloads code mode loaded disk between =>
      exact reloadRuntime_quarantined hkept h hmanages hquarantined hlater
  | callFails kind other reason =>
    cases h
    unfold PluginFailureDispatch.isActiveQuarantined PluginFailureDispatch.activeReason
      at hquarantined ⊢
    simp only [PluginFailureDispatch.handleRuntimeFailure]
    cases actionForKind r.failures.matrix kind with
    | quarantine =>
      simp only [BTreeMap.getElem?_insert_eq]
      split
      · rfl
      · exact hquarantined
    | skip => exact hquarantined
    | failFast => exact hquarantined

/-- **An adapter in quarantine stays there** in every run of a process in which no plugin call fails
    while a reload is under way, as long as the host manages the adapter: whatever its package on the
    disk has become, no reload brings it back. -/
theorem quarantined_adapter_stays {serverConfig : ServerConfig} {artifacts : List Artifact}
    {revision generationId : Nat} {server : RuntimeServer} {failures : FailureDispatch}
    {adminSurfaces : List String} {before after : List LifeStep}
    (hdistinct : (artifacts.map (·.pluginId)).Nodup)
    (hboot : RuntimeServer.boot serverConfig artifacts revision generationId = some server)
    (hbefore : Steps.run lifeStep ⟨server, failures, adminSurfaces⟩ before = some r)
    (hafter : Steps.run lifeStep r after = some final)
    (hmanages : ∀ steps later s, after = steps ++ later → Steps.run lifeStep r steps = some s →
      s.ManagesAdapter pluginId)
    (hquarantined : r.failures.isActiveQuarantined pluginId = true) :
    final.failures.isActiveQuarantined pluginId = true := by
  have hkept : r.Kept :=
    Steps.run_keeps (fun _ _ _ hs _ hstep => Kept.lifeStep hs hstep)
      (Kept.boot failures adminSurfaces hdistinct hboot) (Steps.along_true _ before) hbefore
  clear hbefore
  induction after generalizing r with
  | nil =>
    cases hafter
    exact hquarantined
  | cons a rest ih =>
    obtain ⟨next, hnext, hafter⟩ := Option.bind_eq_some_iff.mp hafter
    have hrun : ∀ steps, Steps.run lifeStep r (a :: steps) = Steps.run lifeStep next steps :=
      fun steps => by rw [Steps.run, hnext]; rfl
    have hlater := hmanages [a] rest next rfl (hrun [])
    refine ih hafter (fun steps later s hsteps hs => ?_)
      (lifeStep_quarantined hkept hnext (hmanages [] (a :: rest) r rfl rfl) hquarantined hlater)
      (hkept.lifeStep hnext)
    exact hmanages (a :: steps) later s (congrArg (a :: ·) hsteps) ((hrun steps).trans hs)

/-- The Java adapter as it runs, and a newer package of the gameplay plugin. -/
def exampleNewGameplay : PluginDirectory :=
  [examplePackage .protocol "je" 1 (.ok 1), examplePackage .gameplay "survival" 2 (.ok 6),
    examplePackage .storage "disk" 1 (.ok 3), examplePackage .auth "offline" 1 (.ok 4)]

def exampleTrapped : ReloadingServer :=
  { exampleRunning with
    server := exampleRunning.server.quarantine "je"
    failures :=
      { exampleRunning.failures with
        toPluginFailureDispatch :=
          (exampleRunning.failures.handleRuntimeFailure .protocol "je" "trap").2 } }

def exampleReloads : LifeStep :=
  .host (.reloads exampleCode .artifacts exampleSelection exampleNewGameplay
    [.prepareBegins, .freeze])

theorem quarantined_adapter_stays_reloaded :
    ∃ final, Steps.run lifeStep exampleTrapped [exampleReloads] = some final ∧
      final.failures.isActiveQuarantined "je" = true := by
  have hboot : RuntimeServer.boot RuntimeServer.exampleConfig (RuntimeServer.exampleDisk 1 1) 1 1 =
      some exampleRunning.server := by
    unfold exampleRunning
    rw [Option.some_get]
  have hbefore : Steps.run lifeStep ⟨exampleRunning.server, exampleRunning.failures, []⟩
      [.callFails .protocol "je" "trap"] = some exampleTrapped := rfl
  obtain ⟨final, hafter⟩ := Option.isSome_iff_exists.mp
    (show (Steps.run lifeStep exampleTrapped [exampleReloads]).isSome = true by decide +kernel)
  have hmanages : ∀ s ∈ Steps.run lifeStep exampleTrapped [exampleReloads],
      s.ManagesAdapter "je" := by decide +kernel
  refine ⟨final, hafter, quarantined_adapter_stays (by decide) hboot hbefore hafter ?_
    (by decide +kernel)⟩
  intro steps later s hsteps hs
  rcases List.append_eq_singleton_iff.mp hsteps.symm with ⟨rfl, -⟩ | ⟨rfl, -⟩
  · cases hs
    decide +kernel
  · exact hmanages s hs

end ReloadingServer

end RevyCraft.PluginHandles
