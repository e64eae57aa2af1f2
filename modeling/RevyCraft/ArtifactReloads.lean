/-
  RevyCraft/ArtifactReloads.lean
  ==============================
  **What an artifacts reload does beside a broken candidate.**

  The loops over the running plugins and over their updates are compared on two
  disks, of which one has the old artifacts of some plugins.  What a candidate's
  failure changes is about its plugin alone, so the failures of both sides agree
  on the others; a candidate that is passed over or refused leaves no update, so
  the updates are the same.
-/
import RevyCraft.PluginReload

namespace RevyCraft.PluginHandles

/-! ### Failures that agree -/

namespace FailureDispatch

/-- The same policy, the same plugins in quarantine, and the same artifacts of those that `P`
    holds of. -/
structure AgreesOn (P : String → Prop) (failures other : FailureDispatch) : Prop where
  matrix : failures.matrix = other.matrix
  active : failures.activeQuarantine = other.activeQuarantine
  artifacts : ∀ pluginId, P pluginId →
    failures.artifactQuarantine[pluginId]? = other.artifactQuarantine[pluginId]?

namespace AgreesOn

variable {P Q : String → Prop} {f f' g g' : FailureDispatch}

theorem refl (P : String → Prop) (f : FailureDispatch) : f.AgreesOn P f :=
  ⟨rfl, rfl, fun _ _ => rfl⟩

theorem trans (h : f.AgreesOn P g) (h' : g.AgreesOn P g') : f.AgreesOn P g' :=
  ⟨h.matrix.trans h'.matrix, h.active.trans h'.active,
    fun pluginId hP => (h.artifacts pluginId hP).trans (h'.artifacts pluginId hP)⟩

theorem mono (h : f.AgreesOn P g) (hQ : ∀ pluginId, Q pluginId → P pluginId) : f.AgreesOn Q g :=
  ⟨h.matrix, h.active, fun pluginId hpluginId => h.artifacts pluginId (hQ pluginId hpluginId)⟩

theorem isActiveQuarantined (h : f.AgreesOn P g) (pluginId : String) :
    f.isActiveQuarantined pluginId = g.isActiveQuarantined pluginId := by
  unfold PluginFailureDispatch.isActiveQuarantined PluginFailureDispatch.activeReason
  rw [h.active]

theorem isArtifactQuarantined (h : f.AgreesOn P g) {pluginId : String} (hP : P pluginId)
    (identity : ArtifactIdentity) :
    f.isArtifactQuarantined pluginId identity = g.isArtifactQuarantined pluginId identity := by
  unfold FailureDispatch.isArtifactQuarantined
  rw [h.artifacts pluginId hP]

end AgreesOn

variable {P : String → Prop} {f f' g g' : FailureDispatch} {kind : PluginKind} {pluginId : String}
  {identity : ArtifactIdentity} {reason : String}

theorem quarantine_agreesOn (f : FailureDispatch) (identity : ArtifactIdentity) (reason : String)
    (hP : ¬ P pluginId) : (f.quarantineCandidateArtifact pluginId identity reason).AgreesOn P f := by
  refine ⟨rfl, rfl, fun other hother => ?_⟩
  have hne : pluginId ≠ other := by
    rintro rfl
    exact hP hother
  unfold quarantineCandidateArtifact
  rw [BTreeMap.getElem?_insert_eq, if_neg hne]

theorem handleCandidateFailure_agreesOn (hP : ¬ P pluginId)
    (h : f.handleCandidateFailure kind pluginId identity reason = some f') : f'.AgreesOn P f := by
  unfold handleCandidateFailure at h
  split at h
  · cases h
    exact AgreesOn.refl P f
  · cases h
    exact quarantine_agreesOn f identity reason hP
  · cases h

theorem handleCandidateFailure_of_policy (f : FailureDispatch) (kind : PluginKind)
    (pluginId : String) (identity : ArtifactIdentity) (reason : String)
    (hpolicy : actionForKind f.matrix kind ≠ .failFast) :
    ∃ f', f.handleCandidateFailure kind pluginId identity reason = some f' := by
  unfold handleCandidateFailure
  split
  · exact ⟨_, rfl⟩
  · exact ⟨_, rfl⟩
  · rename_i hfatal
    exact absurd hfatal hpolicy

theorem handleCandidateFailure_both (hagree : f.AgreesOn P g)
    (h : g.handleCandidateFailure kind pluginId identity reason = some g') :
    ∃ f', f.handleCandidateFailure kind pluginId identity reason = some f' ∧ f'.AgreesOn P g' := by
  unfold handleCandidateFailure at h ⊢
  rw [hagree.matrix]
  split at h
  · cases h
    exact ⟨f, rfl, hagree⟩
  · cases h
    refine ⟨_, rfl, hagree.matrix, hagree.active, fun other hother => ?_⟩
    unfold quarantineCandidateArtifact
    rw [BTreeMap.getElem?_insert_eq, BTreeMap.getElem?_insert_eq, hagree.artifacts other hother]
  · cases h

end FailureDispatch

/-! ### The staging of an artifacts reload -/

namespace PluginHost

variable {host : PluginHost} {disk disk' : PluginDirectory} {entry : ManagedPlugin}
  {entries : List ManagedPlugin} {f f' g g' start : FailureDispatch}

theorem artifactCandidate_congr (host : PluginHost) (disk : PluginDirectory)
    {P : String → Prop} (hagree : f.AgreesOn P g) (hP : P entry.pluginId) :
    host.artifactCandidate disk f entry = host.artifactCandidate disk g entry := by
  unfold artifactCandidate
  simp only [hagree.isArtifactQuarantined hP]

theorem artifactCandidate_disk
    (hpackage : disk.package entry.pluginId = disk'.package entry.pluginId) :
    host.artifactCandidate disk f entry = host.artifactCandidate disk' f entry := by
  unfold artifactCandidate refreshDynamicManifest
  rw [hpackage]

theorem artifactCandidate_some :
    (∃ candidate, host.artifactCandidate disk f entry = some candidate) ↔
      ∃ package identity, refreshDynamicManifest disk entry = some package ∧
        package.artifactIdentity = some identity := by
  unfold artifactCandidate
  constructor
  · rintro ⟨candidate, h⟩
    obtain ⟨package, hpackage, h⟩ := Option.bind_eq_some_iff.mp h
    obtain ⟨identity, hidentity, -⟩ := Option.bind_eq_some_iff.mp h
    exact ⟨package, identity, hpackage, hidentity⟩
  · rintro ⟨package, identity, hpackage, hidentity⟩
    simp only [hpackage, hidentity, Option.bind_eq_bind, Option.bind_some]
    split
    · exact ⟨_, rfl⟩
    · split
      · exact ⟨_, rfl⟩
      · split
        · exact ⟨_, rfl⟩
        · split
          · exact ⟨_, rfl⟩
          · exact ⟨_, rfl⟩

theorem artifactCandidate_loaded {update : StagedUpdate}
    (h : host.artifactCandidate disk f entry = some (.loaded update)) :
    update.kind = entry.kind ∧ update.pluginId = entry.pluginId ∧ update.id = entry.handle.id ∧
      ∃ package identity loaded, refreshDynamicManifest disk entry = some package ∧
        package.artifactIdentity = some identity ∧ ¬ identity.modifiedAt ≤ entry.loadedAt ∧
        f.isArtifactQuarantined entry.pluginId identity = false ∧
        package.load host.bufferLimits = .ok loaded ∧ update.generation = loaded.generation := by
  unfold artifactCandidate at h
  obtain ⟨package, hpackage, h⟩ := Option.bind_eq_some_iff.mp h
  obtain ⟨identity, hidentity, h⟩ := Option.bind_eq_some_iff.mp h
  split at h
  · cases h
  · rename_i hnewer
    split at h
    · cases h
    · rename_i hquarantined
      split at h
      · cases h
      · rename_i loaded hload
        split at h
        · cases h
        · cases h
          exact ⟨rfl, rfl, rfl, package, identity, loaded, hpackage, hidentity, hnewer,
            Bool.eq_false_iff.mpr hquarantined, hload, rfl⟩

/-- A protocol package that can be read and is newer, not in quarantine and loads gives an update. -/
theorem artifactCandidate_loads {package : PluginPackage} {identity : ArtifactIdentity}
    {loaded : LoadedGeneration} (hpackage : refreshDynamicManifest disk entry = some package)
    (hidentity : package.artifactIdentity = some identity)
    (hnewer : ¬ identity.modifiedAt ≤ entry.loadedAt)
    (hquarantined : f.isArtifactQuarantined entry.pluginId identity = false)
    (hload : package.load host.bufferLimits = .ok loaded)
    (hprotocol : entry.kind = .protocol) :
    ∃ update, host.artifactCandidate disk f entry = some (.loaded update) := by
  have hunchanged : ¬ (entry.kind ≠ .protocol ∧ loaded.profileId ≠ entry.handle.id) :=
    fun hchanged => hchanged.1 hprotocol
  unfold artifactCandidate
  simp only [hpackage, hidentity, Option.bind_eq_bind, Option.bind_some, if_neg hnewer,
    hquarantined, Bool.false_eq_true, if_false, hload, if_neg hunchanged]
  exact ⟨_, rfl⟩

theorem artifactCandidate_unchanged (package : PluginPackage) (loadedAt : Nat)
    (hpackage : refreshDynamicManifest disk entry = some package)
    (hidentity : ∃ identity, package.artifactIdentity = some identity ∧
      identity.modifiedAt = loadedAt) (hloadedAt : loadedAt = entry.loadedAt) :
    host.artifactCandidate disk f entry = some .passedOver := by
  obtain ⟨identity, hidentity, hmodified⟩ := hidentity
  unfold artifactCandidate
  simp only [hpackage, hidentity, Option.bind_eq_bind, Option.bind_some, hmodified, hloadedAt,
    le_refl, if_true]

theorem stageArtifactUpdates_cons {rest : List ManagedPlugin} {updates : List StagedUpdate}
    (h : host.stageArtifactUpdates disk (entry :: rest) f = some (f', updates)) :
    (host.artifactCandidate disk f entry = some .passedOver ∧
        host.stageArtifactUpdates disk rest f = some (f', updates)) ∨
      (∃ identity reason g, host.artifactCandidate disk f entry = some (.failed identity reason) ∧
        f.handleCandidateFailure entry.kind entry.pluginId identity reason = some g ∧
        host.stageArtifactUpdates disk rest g = some (f', updates)) ∨
      (∃ update updates', host.artifactCandidate disk f entry = some (.loaded update) ∧
        updates = update :: updates' ∧
        host.stageArtifactUpdates disk rest f = some (f', updates')) := by
  rw [stageArtifactUpdates] at h
  obtain ⟨candidate, hcandidate, h⟩ := Option.bind_eq_some_iff.mp h
  cases candidate with
  | passedOver => exact .inl ⟨hcandidate, h⟩
  | failed identity reason =>
    obtain ⟨g, hfailure, h⟩ := Option.bind_eq_some_iff.mp h
    exact .inr (.inl ⟨identity, reason, g, hcandidate, hfailure, h⟩)
  | loaded update =>
    obtain ⟨staged, hstaged, h⟩ := Option.bind_eq_some_iff.mp h
    cases h
    exact .inr (.inr ⟨update, staged.2, hcandidate, rfl, hstaged⟩)

end PluginHost

namespace PluginHost

variable {host : PluginHost} {disk disk' : PluginDirectory} {entries : List ManagedPlugin}
  {f f' g g' start : FailureDispatch} {updates updates' : List StagedUpdate}

/-- What the loop over the running plugins leaves, as long as it finds no plugin twice. -/
structure Stages (host : PluginHost) (disk : PluginDirectory) (entries : List ManagedPlugin)
    (start failures : FailureDispatch) (updates : List StagedUpdate) : Prop where
  agrees : failures.AgreesOn (fun _ => False) start
  /-- Every candidate was read, and each that loads is among the updates. -/
  reads : ∀ entry ∈ entries, ∃ candidate,
    host.artifactCandidate disk start entry = some candidate ∧
      ∀ update, candidate = .loaded update → update ∈ updates
  /-- There are no other updates. -/
  loads : ∀ update ∈ updates, ∃ entry ∈ entries,
    host.artifactCandidate disk start entry = some (.loaded update)

theorem Stages.skip {entry : ManagedPlugin} {candidate : ArtifactCandidate}
    (h : host.Stages disk entries start f updates)
    (hcandidate : host.artifactCandidate disk start entry = some candidate)
    (hskipped : ∀ update, candidate ≠ .loaded update) :
    host.Stages disk (entry :: entries) start f updates := by
  refine ⟨h.agrees, ?_, ?_⟩
  · intro other hother
    rcases List.mem_cons.mp hother with rfl | hother
    · exact ⟨_, hcandidate, fun update hupdate => absurd hupdate (hskipped update)⟩
    · exact h.reads other hother
  · intro update hupdate
    obtain ⟨other, hother, hcandidate⟩ := h.loads update hupdate
    exact ⟨other, List.mem_cons_of_mem _ hother, hcandidate⟩

theorem Stages.take {entry : ManagedPlugin} {update : StagedUpdate}
    (h : host.Stages disk entries start f updates)
    (hcandidate : host.artifactCandidate disk start entry = some (.loaded update)) :
    host.Stages disk (entry :: entries) start f (update :: updates) := by
  refine ⟨h.agrees, ?_, ?_⟩
  · intro other hother
    rcases List.mem_cons.mp hother with rfl | hother
    · refine ⟨_, hcandidate, fun found hfound => ?_⟩
      cases hfound
      exact List.mem_cons_self
    · obtain ⟨candidate, hread, hmem⟩ := h.reads other hother
      exact ⟨candidate, hread, fun found hfound => List.mem_cons_of_mem _ (hmem found hfound)⟩
  · intro found hfound
    rcases List.mem_cons.mp hfound with rfl | hfound
    · exact ⟨entry, List.mem_cons_self, hcandidate⟩
    · obtain ⟨other, hother, hloaded⟩ := h.loads found hfound
      exact ⟨other, List.mem_cons_of_mem _ hother, hloaded⟩

theorem stageArtifactUpdates_stages (hdistinct : (entries.map (·.pluginId)).Nodup)
    (hstart : f.AgreesOn (· ∈ entries.map (·.pluginId)) start)
    (h : host.stageArtifactUpdates disk entries f = some (f', updates)) :
    host.Stages disk entries start f' updates := by
  induction entries generalizing f updates with
  | nil =>
    cases h
    exact ⟨hstart.mono fun _ hfalse => hfalse.elim, fun entry hentry => (List.not_mem_nil hentry).elim,
      fun update hupdate => (List.not_mem_nil hupdate).elim⟩
  | cons entry rest ih =>
    rw [List.map_cons, List.nodup_cons] at hdistinct
    have hcongr := artifactCandidate_congr host disk hstart
      (List.mem_cons_self (a := entry.pluginId))
    have hrest : f.AgreesOn (· ∈ rest.map (·.pluginId)) start :=
      hstart.mono fun _ hmem => List.mem_cons_of_mem _ hmem
    rcases stageArtifactUpdates_cons h with ⟨hpassed, h⟩ | ⟨identity, reason, g, hfailed, hfailure, h⟩ |
      ⟨update, updates', hloaded, rfl, htail⟩
    · rw [hcongr] at hpassed
      exact (ih hdistinct.2 hrest h).skip hpassed (fun _ => ArtifactCandidate.noConfusion)
    · have hagrees := FailureDispatch.handleCandidateFailure_agreesOn
        (P := (· ∈ rest.map (·.pluginId))) hdistinct.1 hfailure
      rw [hcongr] at hfailed
      exact (ih hdistinct.2 (hagrees.trans hrest) h).skip hfailed
        (fun _ => ArtifactCandidate.noConfusion)
    · rw [hcongr] at hloaded
      exact (ih hdistinct.2 hrest htail).take hloaded

/-- Two disks that differ in the given plugins only, which on the second one bring nothing new:
    outside them the stagings are alike. -/
theorem stageArtifactUpdates_outside {broken : List String}
    (hdistinct : (entries.map (·.pluginId)).Nodup)
    (hstart : f.AgreesOn (· ∈ entries.map (·.pluginId)) start)
    (hdisk : ∀ pluginId ∉ broken, disk.package pluginId = disk'.package pluginId)
    (hunchanged : ∀ entry ∈ entries, entry.pluginId ∈ broken → ∀ failures,
      host.artifactCandidate disk' failures entry = some .passedOver)
    (hreads : ∀ entry ∈ entries, entry.pluginId ∈ broken →
      ∃ candidate, host.artifactCandidate disk start entry = some candidate)
    (hpolicy : ∀ entry ∈ entries, entry.pluginId ∈ broken →
      actionForKind start.matrix entry.kind ≠ .failFast)
    (hagree : f.AgreesOn (· ∉ broken) g)
    (h : host.stageArtifactUpdates disk' entries g = some (g', updates')) :
    ∃ f' updates, host.stageArtifactUpdates disk entries f = some (f', updates) ∧
      f'.AgreesOn (· ∉ broken) g' ∧ updates.filter (·.pluginId ∉ broken) = updates' := by
  induction entries generalizing f g updates' with
  | nil =>
    cases h
    exact ⟨f, [], rfl, hagree, rfl⟩
  | cons entry rest ih =>
    rw [List.map_cons, List.nodup_cons] at hdistinct
    have hcongr := artifactCandidate_congr host disk hstart
      (List.mem_cons_self (a := entry.pluginId))
    have hrest : f.AgreesOn (· ∈ rest.map (·.pluginId)) start :=
      hstart.mono fun _ hmem => List.mem_cons_of_mem _ hmem
    have htail : ∀ {f g updates'}, f.AgreesOn (· ∈ rest.map (·.pluginId)) start →
        f.AgreesOn (· ∉ broken) g → host.stageArtifactUpdates disk' rest g = some (g', updates') →
        ∃ f' updates, host.stageArtifactUpdates disk rest f = some (f', updates) ∧
          f'.AgreesOn (· ∉ broken) g' ∧ updates.filter (·.pluginId ∉ broken) = updates' :=
      fun hstart hagree h => ih hdistinct.2 hstart
        (fun other hother => hunchanged other (List.mem_cons_of_mem _ hother))
        (fun other hother => hreads other (List.mem_cons_of_mem _ hother))
        (fun other hother => hpolicy other (List.mem_cons_of_mem _ hother)) hagree h
    by_cases hbroken : entry.pluginId ∈ broken
    · have hpassed := hunchanged entry List.mem_cons_self hbroken g
      have h : host.stageArtifactUpdates disk' rest g = some (g', updates') := by
        rcases stageArtifactUpdates_cons h with ⟨-, h⟩ | ⟨identity, reason, -, hother, -⟩ |
          ⟨update, -, hother, -⟩
        · exact h
        · rw [hpassed] at hother
          cases hother
        · rw [hpassed] at hother
          cases hother
      obtain ⟨candidate, hcandidate⟩ := hreads entry List.mem_cons_self hbroken
      rw [← hcongr] at hcandidate
      cases candidate with
      | passedOver =>
        obtain ⟨f', updates, hstaged, hagree', hfilter⟩ :=
          htail hrest hagree h
        refine ⟨f', updates, ?_, hagree', hfilter⟩
        rw [stageArtifactUpdates, hcandidate]
        exact hstaged
      | failed identity reason =>
        obtain ⟨f₁, hfailure⟩ := FailureDispatch.handleCandidateFailure_of_policy f entry.kind
          entry.pluginId identity reason
          (by rw [hstart.matrix]; exact hpolicy entry List.mem_cons_self hbroken)
        have hnext := FailureDispatch.handleCandidateFailure_agreesOn
          (P := (· ∈ rest.map (·.pluginId))) hdistinct.1 hfailure
        have hout := FailureDispatch.handleCandidateFailure_agreesOn (P := (· ∉ broken))
          (not_not_intro hbroken) hfailure
        obtain ⟨f', updates, hstaged, hagree', hfilter⟩ :=
          htail (hnext.trans hrest) (hout.trans hagree) h
        refine ⟨f', updates, ?_, hagree', hfilter⟩
        rw [stageArtifactUpdates, hcandidate, Option.bind_eq_bind, Option.bind_some]
        simp only [hfailure, Option.bind_eq_bind, Option.bind_some]
        exact hstaged
      | loaded update =>
        obtain ⟨f', updates, hstaged, hagree', hfilter⟩ :=
          htail hrest hagree h
        refine ⟨f', update :: updates, ?_, hagree', ?_⟩
        · rw [stageArtifactUpdates, hcandidate, Option.bind_eq_bind, Option.bind_some]
          simp only [hstaged, Option.bind_eq_bind, Option.bind_some]
        · have hid : update.pluginId ∈ broken := by
            rw [(artifactCandidate_loaded hcandidate).2.1]
            exact hbroken
          rw [List.filter_cons_of_neg (by simpa using hid)]
          exact hfilter
    · have hsame : host.artifactCandidate disk f entry = host.artifactCandidate disk' g entry :=
        (artifactCandidate_disk (hdisk entry.pluginId hbroken)).trans
          (artifactCandidate_congr host disk' hagree hbroken)
      rcases stageArtifactUpdates_cons h with ⟨hpassed, h⟩ |
        ⟨identity, reason, g₁, hfailed, hfailure, h⟩ | ⟨update, updates₁, hloaded, rfl, hstaged'⟩
      · obtain ⟨f', updates, hstaged, hagree', hfilter⟩ :=
          htail hrest hagree h
        refine ⟨f', updates, ?_, hagree', hfilter⟩
        rw [stageArtifactUpdates, hsame, hpassed]
        exact hstaged
      · obtain ⟨f₁, hfailure', hagree₁⟩ := FailureDispatch.handleCandidateFailure_both hagree hfailure
        have hnext := FailureDispatch.handleCandidateFailure_agreesOn
          (P := (· ∈ rest.map (·.pluginId))) hdistinct.1 hfailure'
        obtain ⟨f', updates, hstaged, hagree', hfilter⟩ :=
          htail (hnext.trans hrest) hagree₁ h
        refine ⟨f', updates, ?_, hagree', hfilter⟩
        rw [stageArtifactUpdates, hsame, hfailed, Option.bind_eq_bind, Option.bind_some]
        simp only [hfailure', Option.bind_eq_bind, Option.bind_some]
        exact hstaged
      · obtain ⟨f', updates, hstaged, hagree', hfilter⟩ :=
          htail hrest hagree hstaged'
        refine ⟨f', update :: updates, ?_, hagree', ?_⟩
        · rw [stageArtifactUpdates, hsame, hloaded, Option.bind_eq_bind, Option.bind_some]
          simp only [hstaged, Option.bind_eq_bind, Option.bind_some]
        · have hid : update.pluginId ∉ broken := by
            rw [(artifactCandidate_loaded hloaded).2.1]
            exact hbroken
          rw [List.filter_cons_of_pos (by simpa using hid), hfilter]

end PluginHost

/-! ### Its checks -/

namespace PluginHost

variable {host : PluginHost} {code : PluginCode} {context : RuntimeReloadContext} {cells : Cells}
  {update : StagedUpdate} {updates finalized : List StagedUpdate} {f f' g g' start : FailureDispatch}

theorem validateUpdate_congr {P : String → Prop} (hagree : f.AgreesOn P g) (active : ManagedPlugin) :
    validateUpdate code context cells f active update =
      validateUpdate code context cells g active update := by
  unfold validateUpdate PluginCode.validateProtocolSessionMigration
  simp only [hagree.isActiveQuarantined]

theorem finalizeArtifactUpdates_cons {rest : List StagedUpdate}
    (h : host.finalizeArtifactUpdates code context cells (update :: rest) f = some (f', finalized)) :
    (host.managed.find update.kind update.id = none ∧
        host.finalizeArtifactUpdates code context cells rest f = some (f', finalized)) ∨
      (∃ active reason g, host.managed.find update.kind update.id = some active ∧
        validateUpdate code context cells f active update = some (some reason) ∧
        f.handleCandidateFailure update.kind update.pluginId update.identity reason = some g ∧
        host.finalizeArtifactUpdates code context cells rest g = some (f', finalized)) ∨
      (∃ active finalized', host.managed.find update.kind update.id = some active ∧
        validateUpdate code context cells f active update = some none ∧
        finalized = update :: finalized' ∧
        host.finalizeArtifactUpdates code context cells rest f = some (f', finalized')) := by
  rw [finalizeArtifactUpdates] at h
  cases hfind : host.managed.find update.kind update.id with
  | none =>
    rw [hfind] at h
    exact .inl ⟨rfl, h⟩
  | some active =>
    rw [hfind] at h
    obtain ⟨refusal, hrefusal, h⟩ := Option.bind_eq_some_iff.mp h
    cases refusal with
    | some reason =>
      obtain ⟨g, hfailure, h⟩ := Option.bind_eq_some_iff.mp h
      exact .inr (.inl ⟨active, reason, g, rfl, hrefusal, hfailure, h⟩)
    | none =>
      obtain ⟨tail, htail, h⟩ := Option.bind_eq_some_iff.mp h
      cases h
      exact .inr (.inr ⟨active, tail.2, rfl, hrefusal, rfl, htail⟩)

theorem finalizeArtifactUpdates_sublist
    (h : host.finalizeArtifactUpdates code context cells updates f = some (f', finalized)) :
    finalized.Sublist updates := by
  induction updates generalizing f finalized with
  | nil =>
    cases h
    exact List.Sublist.refl _
  | cons first rest ih =>
    rcases finalizeArtifactUpdates_cons h with ⟨-, h⟩ | ⟨active, reason, g, -, -, -, h⟩ |
      ⟨active, finalized', -, -, rfl, htail⟩
    · exact (ih h).cons _
    · exact (ih h).cons _
    · exact (ih htail).cons_cons _

theorem finalizeArtifactUpdates_agrees
    (h : host.finalizeArtifactUpdates code context cells updates f = some (f', finalized)) :
    f'.AgreesOn (fun _ => False) f := by
  induction updates generalizing f finalized with
  | nil =>
    cases h
    exact .refl _ _
  | cons first rest ih =>
    rcases finalizeArtifactUpdates_cons h with ⟨-, h⟩ | ⟨active, reason, g, -, -, hfailure, h⟩ |
      ⟨active, finalized', -, -, rfl, htail⟩
    · exact ih h
    · exact (ih h).trans (FailureDispatch.handleCandidateFailure_agreesOn id hfailure)
    · exact ih htail

theorem finalizeArtifactUpdates_checks (hstart : f.AgreesOn (fun _ => False) start)
    (h : host.finalizeArtifactUpdates code context cells updates f = some (f', finalized))
    (hmem : update ∈ updates) {active : ManagedPlugin}
    (hactive : host.managed.find update.kind update.id = some active) :
    ∃ refusal, validateUpdate code context cells start active update = some refusal := by
  induction updates generalizing f finalized with
  | nil => cases hmem
  | cons first rest ih =>
    rcases finalizeArtifactUpdates_cons h with ⟨hnone, h⟩ |
      ⟨found, reason, g, hfound, hrefused, hfailure, h⟩ | ⟨found, finalized', hfound, hvalid, rfl, htail⟩
    · rcases List.mem_cons.mp hmem with rfl | hmem
      · rw [hactive] at hnone
        cases hnone
      · exact ih hstart h hmem
    · rcases List.mem_cons.mp hmem with rfl | hmem
      · rw [hactive] at hfound
        cases hfound
        exact ⟨_, (validateUpdate_congr hstart active).symm.trans hrefused⟩
      · have hagrees := FailureDispatch.handleCandidateFailure_agreesOn (P := fun _ => False)
          (fun hfalse => hfalse) hfailure
        exact ih (hagrees.trans hstart) h hmem
    · rcases List.mem_cons.mp hmem with rfl | hmem
      · rw [hactive] at hfound
        cases hfound
        exact ⟨_, (validateUpdate_congr hstart active).symm.trans hvalid⟩
      · exact ih hstart htail hmem

/-- Updates of the given plugins, all of which are refused, change nothing for the others. -/
theorem finalizeArtifactUpdates_outside {broken : List String}
    (hstart : f.AgreesOn (fun _ => False) start)
    (hrefused : ∀ update ∈ updates, update.pluginId ∈ broken → ∃ active reason,
      host.managed.find update.kind update.id = some active ∧
        validateUpdate code context cells start active update = some (some reason) ∧
        actionForKind start.matrix update.kind ≠ .failFast)
    (hagree : f.AgreesOn (· ∉ broken) g)
    (h : host.finalizeArtifactUpdates code context cells
      (updates.filter (·.pluginId ∉ broken)) g = some (g', finalized)) :
    ∃ f', host.finalizeArtifactUpdates code context cells updates f = some (f', finalized) ∧
      f'.AgreesOn (· ∉ broken) g' := by
  induction updates generalizing f g finalized with
  | nil =>
    cases h
    exact ⟨f, rfl, hagree⟩
  | cons update rest ih =>
    have htail : ∀ {f g finalized}, f.AgreesOn (fun _ => False) start →
        f.AgreesOn (· ∉ broken) g →
        host.finalizeArtifactUpdates code context cells
          (rest.filter (·.pluginId ∉ broken)) g = some (g', finalized) →
        ∃ f', host.finalizeArtifactUpdates code context cells rest f = some (f', finalized) ∧
          f'.AgreesOn (· ∉ broken) g' :=
      fun hstart hagree h => ih hstart
        (fun other hother => hrefused other (List.mem_cons_of_mem _ hother)) hagree h
    by_cases hbroken : update.pluginId ∈ broken
    · rw [List.filter_cons_of_neg (by simpa using hbroken)] at h
      obtain ⟨active, reason, hactive, hvalidate, hpolicy⟩ :=
        hrefused update List.mem_cons_self hbroken
      obtain ⟨f₁, hfailure⟩ := FailureDispatch.handleCandidateFailure_of_policy f update.kind
        update.pluginId update.identity reason (by rw [hstart.matrix]; exact hpolicy)
      have hnext := FailureDispatch.handleCandidateFailure_agreesOn (P := fun _ => False)
        (fun hfalse => hfalse) hfailure
      have hout := FailureDispatch.handleCandidateFailure_agreesOn (P := (· ∉ broken))
        (not_not_intro hbroken) hfailure
      obtain ⟨f', hfinalized, hagree'⟩ := htail (hnext.trans hstart) (hout.trans hagree) h
      refine ⟨f', ?_, hagree'⟩
      rw [finalizeArtifactUpdates, hactive]
      simp only [validateUpdate_congr hstart, hvalidate, hfailure, Option.bind_eq_bind,
        Option.bind_some]
      exact hfinalized
    · rw [List.filter_cons_of_pos (by simpa using hbroken)] at h
      rcases finalizeArtifactUpdates_cons h with ⟨hnone, h⟩ |
        ⟨active, reason, g₁, hactive, hvalidate, hfailure, h⟩ |
        ⟨active, finalized', hactive, hvalidate, rfl, hrest⟩
      · obtain ⟨f', hfinalized, hagree'⟩ := htail hstart hagree h
        refine ⟨f', ?_, hagree'⟩
        rw [finalizeArtifactUpdates, hnone]
        exact hfinalized
      · obtain ⟨f₁, hfailure', hagree₁⟩ := FailureDispatch.handleCandidateFailure_both hagree hfailure
        have hnext := FailureDispatch.handleCandidateFailure_agreesOn (P := fun _ => False)
          (fun hfalse => hfalse) hfailure'
        obtain ⟨f', hfinalized, hagree'⟩ := htail (hnext.trans hstart) hagree₁ h
        refine ⟨f', ?_, hagree'⟩
        rw [finalizeArtifactUpdates, hactive]
        simp only [validateUpdate_congr hagree, hvalidate, hfailure', Option.bind_eq_bind,
          Option.bind_some]
        exact hfinalized
      · obtain ⟨f', hfinalized, hagree'⟩ := htail hstart hagree hrest
        refine ⟨f', ?_, hagree'⟩
        rw [finalizeArtifactUpdates, hactive]
        simp only [validateUpdate_congr hagree, hvalidate, hfinalized, Option.bind_eq_bind,
          Option.bind_some]

end PluginHost

/-! ### Artifacts reloads with broken candidates -/

namespace PluginHost

variable {host : PluginHost} {f g : FailureDispatch} {cells : Cells}

theorem mem_byKind {entry : ManagedPlugin} :
    entry ∈ host.byKind ↔ entry ∈ (host.managed : List ManagedPlugin) := by
  unfold byKind
  rw [List.mem_flatMap]
  constructor
  · rintro ⟨kind, -, hentry⟩
    exact (List.mem_filter.mp hentry).1
  · intro hentry
    refine ⟨entry.kind, ?_, List.mem_filter.mpr ⟨hentry, by simp⟩⟩
    cases entry.kind <;> simp

theorem byKind_distinct (h : (List.map (·.pluginId) host.managed).Nodup) :
    (host.byKind.map (·.pluginId)).Nodup := by
  unfold byKind
  rw [List.map_flatMap, List.nodup_flatMap]
  constructor
  · intro kind _
    exact h.sublist (List.filter_sublist.map _)
  · refine List.Pairwise.imp (R := (· ≠ ·)) ?_ (by decide)
    intro kind other hne pluginId hmem hmem'
    obtain ⟨entry, hentry, rfl⟩ := List.mem_map.mp hmem
    obtain ⟨entry', hentry', hid⟩ := List.mem_map.mp hmem'
    obtain ⟨hentry, hkind⟩ := List.mem_filter.mp hentry
    obtain ⟨hentry', hkind'⟩ := List.mem_filter.mp hentry'
    have heq : entry' = entry := List.inj_on_of_nodup_map h hentry' hentry hid
    rw [heq] at hkind'
    exact hne ((of_decide_eq_true hkind).symm.trans (of_decide_eq_true hkind'))

theorem registersRunning_congr {P : String → Prop} (hagree : f.AgreesOn P g) :
    host.registersRunning cells f = host.registersRunning cells g := by
  unfold registersRunning describedRoute
  simp only [hagree.isActiveQuarantined]

/-- An update that cannot import the sessions is refused, if its plugin gives a generation away. -/
theorem validateUpdate_refuses {code : PluginCode} {context : RuntimeReloadContext}
    {active : ManagedPlugin} {update : StagedUpdate}
    (hrefuses : refusesSessionImport code context cells active update.generation)
    (hlive : active.kind = .protocol → f.isActiveQuarantined active.pluginId = false) :
    ∃ reason, validateUpdate code context cells f active update = some (some reason) := by
  unfold refusesSessionImport at hrefuses
  unfold validateUpdate
  cases hkind : active.kind with
  | protocol =>
    rw [hkind] at hrefuses
    obtain ⟨current, hcurrent, hmigrates⟩ := hrefuses
    simp only [PluginCode.validateProtocolSessionMigration, hlive hkind, hcurrent, hmigrates,
      guard_true, Option.bind_eq_bind, Option.pure_def, Option.bind_some, Bool.false_eq_true,
      if_false]
    split
    · exact ⟨_, rfl⟩
    · exact ⟨_, rfl⟩
  | gameplay =>
    rw [hkind] at hrefuses
    obtain ⟨current, hcurrent, hmigrates⟩ := hrefuses
    exact ⟨"gameplay session migration failed", by
      simp [PluginCode.validateGameplaySessionMigration, hcurrent, hmigrates]⟩
  | storage =>
    rw [hkind] at hrefuses
    have himport : code.importRuntimeState update.generation = false := hrefuses
    exact ⟨"storage runtime state import failed", by simp [himport]⟩
  | auth | adminSurface =>
    rw [hkind] at hrefuses
    exact hrefuses.elim

theorem validateUpdate_quarantined {code : PluginCode} {context : RuntimeReloadContext}
    {active : ManagedPlugin} {update : StagedUpdate} (hkind : active.kind = .protocol)
    (hquarantined : f.isActiveQuarantined active.pluginId = true) :
    validateUpdate code context cells f active update = none := by
  unfold validateUpdate
  rw [hkind]
  simp [hquarantined]

end PluginHost

theorem PluginDirectory.package_filter (disk : PluginDirectory) {broken : List String}
    {pluginId : String} (h : pluginId ∉ broken) :
    PluginDirectory.package (List.filter (·.pluginId ∉ broken) disk) pluginId =
      disk.package pluginId := by
  unfold package
  rw [List.find?_filter]
  congr 1
  funext package
  by_cases hid : package.pluginId = pluginId
  · simp [hid, h]
  · simp [hid]

namespace ReloadingServer

variable {r : ReloadingServer} {code : PluginCode} {mode : RuntimeReloadMode}
  {config : RuntimeSelectionConfig} {disk disk' : PluginDirectory} {broken : List String}
  {active : ManagedPlugin}

theorem Unchanged.package (h : r.Unchanged disk disk' broken) {pluginId : String}
    (hpluginId : pluginId ∉ broken) : disk.package pluginId = disk'.package pluginId := by
  rw [← disk.package_filter hpluginId, ← disk'.package_filter hpluginId, h.others]

theorem Unchanged.passedOver (h : r.Unchanged disk disk' broken)
    (hactive : active ∈ (r.server.host.managed : List ManagedPlugin))
    (hbroken : active.pluginId ∈ broken) (failures : FailureDispatch) :
    r.server.host.artifactCandidate disk' failures active = some .passedOver := by
  obtain ⟨package, hpackage, hruns⟩ := h.same active hactive hbroken
  obtain ⟨source, hsource⟩ := Option.isSome_iff_exists.mp hruns.readable
  refine PluginHost.artifactCandidate_unchanged package active.loadedAt
    ?_ ⟨⟨source, active.loadedAt⟩, ?_, rfl⟩ rfl
  · simp only [refreshDynamicManifest, hpackage, hruns.readable, hruns.kind, guard_true,
      Option.bind_eq_bind, Option.pure_def, Option.bind_some]
  · simp only [PluginPackage.artifactIdentity, hsource, hruns.unchanged, Option.bind_eq_bind,
      Option.bind_some]

end ReloadingServer

/-- Of the broken candidates only one that refuses the sessions is read, free and loads. -/
theorem BrokenCandidate.refuses {r : ReloadingServer} {code : PluginCode}
    {limits : PluginBufferLimits} {disk : PluginDirectory} {active : ManagedPlugin}
    {package : PluginPackage} {identity : ArtifactIdentity} {loaded : LoadedGeneration}
    (h : BrokenCandidate r code limits disk active)
    (hpackage : refreshDynamicManifest disk active = some package)
    (hidentity : package.artifactIdentity = some identity)
    (hfree : r.failures.isArtifactQuarantined active.pluginId identity = false)
    (hload : package.load limits = .ok loaded) :
    refusesSessionImport code r.server.reloadContext r.server.cells active loaded.generation := by
  cases h with
  | unreadable h =>
    rw [h] at hpackage
    cases hpackage
  | missing package' h hmissing =>
    cases hpackage.symm.trans h
    rw [hmissing] at hidentity
    cases hidentity
  | failsToLoad package' reason h herror =>
    cases hpackage.symm.trans h
    rw [hload] at herror
    cases herror
  | quarantined package' identity' h hidentity' hquarantined =>
    cases hpackage.symm.trans h
    cases hidentity.symm.trans hidentity'
    rw [hfree] at hquarantined
    cases hquarantined
  | refusesImport package' loaded' h hload' hrefuses =>
    cases hpackage.symm.trans h
    cases hload.symm.trans hload'
    exact hrefuses

theorem BrokenCandidate.refused {r : ReloadingServer} {code : PluginCode} {disk : PluginDirectory}
    {active : ManagedPlugin} {update : StagedUpdate}
    (h : BrokenCandidate r code r.server.host.bufferLimits disk active)
    (hpassed : r.PassedOver disk active)
    (hcandidate : r.server.host.artifactCandidate disk r.failures active = some (.loaded update)) :
    ∃ reason, PluginHost.validateUpdate code r.server.reloadContext r.server.cells r.failures active
      update = some (some reason) := by
  obtain ⟨-, -, -, package, identity, loaded, hpackage, hidentity, hnewer, hfree, hload, hgeneration⟩ :=
    PluginHost.artifactCandidate_loaded hcandidate
  have hlive : active.kind = .protocol → r.failures.isActiveQuarantined active.pluginId = false := by
    intro hkind
    by_contra hquarantined
    obtain ⟨package', identity', hpackage', hidentity', hpasses⟩ := hpassed
    cases hpackage.symm.trans hpackage'
    cases hidentity.symm.trans hidentity'
    rcases hpasses hkind (Bool.not_eq_false _ ▸ hquarantined) with hold | hartifact | ⟨reason, herror⟩
    · exact hnewer hold
    · rw [hfree] at hartifact
      cases hartifact
    · rw [hload] at herror
      cases herror
  have hrefuses := h.refuses hpackage hidentity hfree hload
  rw [← hgeneration] at hrefuses
  exact PluginHost.validateUpdate_refuses hrefuses hlive

namespace ReloadingServer

variable {r : ReloadingServer} {code : PluginCode} {config : RuntimeSelectionConfig}
  {disk disk' : PluginDirectory} {broken : List String} {f g : FailureDispatch}
  {updates : List ArtifactUpdate}

theorem prepareRuntimeArtifacts_steps
    (h : r.server.prepareRuntimeArtifacts code r.failures disk = some (f, updates)) :
    ∃ staged finalized,
      r.server.host.stageArtifactUpdates disk r.server.host.byKind r.failures = some staged ∧
      r.server.host.registersRunning r.server.cells staged.1 = true ∧
      r.server.host.finalizeArtifactUpdates code r.server.reloadContext r.server.cells staged.2
        staged.1 = some (f, finalized) ∧
      updates = finalized.map (·.toArtifactUpdate) := by
  unfold RuntimeServer.prepareRuntimeArtifacts at h
  obtain ⟨staged, hstaged, h⟩ := Option.bind_eq_some_iff.mp h
  obtain ⟨_, hregisters, h⟩ := Option.bind_eq_some_iff.mp h
  obtain ⟨finalized, hfinalized, h⟩ := Option.bind_eq_some_iff.mp h
  cases h
  exact ⟨staged, finalized.2, hstaged, by simpa using hregisters, hfinalized, rfl⟩

theorem stageArtifactUpdates_byKind (hkept : r.Kept) {staged : FailureDispatch × List StagedUpdate}
    (h : r.server.host.stageArtifactUpdates disk r.server.host.byKind r.failures = some staged) :
    r.server.host.Stages disk r.server.host.byKind r.failures staged.1 staged.2 :=
  PluginHost.stageArtifactUpdates_stages (PluginHost.byKind_distinct hkept.distinct)
    (FailureDispatch.AgreesOn.refl _ _) h

theorem prepareRuntimeArtifacts_managed (hkept : r.Kept)
    (h : r.server.prepareRuntimeArtifacts code r.failures disk = some (f, updates)) :
    ∀ update ∈ updates, ∃ active ∈ (r.server.host.managed : List ManagedPlugin),
      update.key = active.key ∧ update.pluginId = active.pluginId := by
  obtain ⟨staged, finalized, hstaged, -, hfinalized, rfl⟩ := prepareRuntimeArtifacts_steps h
  intro update hupdate
  obtain ⟨prepared, hprepared, rfl⟩ := List.mem_map.mp hupdate
  obtain ⟨active, hactive, hcandidate⟩ := (stageArtifactUpdates_byKind hkept hstaged).loads prepared
    ((PluginHost.finalizeArtifactUpdates_sublist hfinalized).subset hprepared)
  obtain ⟨hkind, hpluginId, hid, -⟩ := PluginHost.artifactCandidate_loaded hcandidate
  refine ⟨active, PluginHost.mem_byKind.mp hactive, ?_, hpluginId⟩
  simp only [ArtifactUpdate.key, ManagedPlugin.key, hkind, hid]

/-- A reload that gets through has read every candidate, and compared every adapter that has one. -/
theorem prepareRuntimeArtifacts_passedOver (hkept : r.Kept)
    (h : r.server.prepareRuntimeArtifacts code r.failures disk = some (f, updates)) :
    ∀ active ∈ (r.server.host.managed : List ManagedPlugin), r.PassedOver disk active := by
  obtain ⟨staged, finalized, hstaged, -, hfinalized, -⟩ := prepareRuntimeArtifacts_steps h
  have hstages := stageArtifactUpdates_byKind hkept hstaged
  intro active hactive
  obtain ⟨candidate, hcandidate, hmem⟩ := hstages.reads active (PluginHost.mem_byKind.mpr hactive)
  obtain ⟨package, identity, hpackage, hidentity⟩ :=
    PluginHost.artifactCandidate_some.mp ⟨candidate, hcandidate⟩
  refine ⟨package, identity, hpackage, hidentity, fun hprotocol hquarantined => ?_⟩
  by_contra hpasses
  simp only [not_or, not_exists] at hpasses
  obtain ⟨hnewer, hfree, hloads⟩ := hpasses
  cases hload : package.load r.server.host.bufferLimits with
  | error reason => exact hloads reason hload
  | ok loaded =>
    obtain ⟨update, hupdate⟩ := PluginHost.artifactCandidate_loads hpackage hidentity hnewer
      (Bool.eq_false_iff.mpr hfree) hload hprotocol
    have hcandidate' : candidate = .loaded update :=
      Option.some.inj (hcandidate.symm.trans hupdate)
    obtain ⟨hkind, -, hid, -⟩ := PluginHost.artifactCandidate_loaded hupdate
    have hfind : r.server.host.managed.find update.kind update.id = some active := by
      rw [hkind, hid]
      exact hkept.managed.find_of_mem hactive
    obtain ⟨refusal, hrefusal⟩ := PluginHost.finalizeArtifactUpdates_checks hstages.agrees hfinalized
      (hmem update hcandidate') hfind
    rw [PluginHost.validateUpdate_quarantined hprotocol hquarantined] at hrefusal
    cases hrefusal

/-- Broken candidates that are passed over leave the other updates as they would be. -/
theorem prepareRuntimeArtifacts_outside (hkept : r.Kept)
    (hbroken : ∀ active ∈ (r.server.host.managed : List ManagedPlugin), active.pluginId ∈ broken →
      BrokenCandidate r code r.server.host.bufferLimits disk active)
    (hpolicy : ∀ active ∈ (r.server.host.managed : List ManagedPlugin), active.pluginId ∈ broken →
      actionForKind r.failures.matrix active.kind ≠ .failFast)
    (hunchanged : r.Unchanged disk disk' broken)
    (hpassed : ∀ active ∈ (r.server.host.managed : List ManagedPlugin), active.pluginId ∈ broken →
      r.PassedOver disk active)
    (h : r.server.prepareRuntimeArtifacts code r.failures disk' = some (g, updates)) :
    ∃ f, r.server.prepareRuntimeArtifacts code r.failures disk = some (f, updates) ∧
      f.AgreesOn (· ∉ broken) g ∧ ∀ update ∈ updates, update.pluginId ∉ broken := by
  obtain ⟨staged', finalized, hstaged', hregisters, hfinalized, rfl⟩ :=
    prepareRuntimeArtifacts_steps h
  have hmanaged : ∀ {active}, active ∈ r.server.host.byKind →
      active ∈ (r.server.host.managed : List ManagedPlugin) := PluginHost.mem_byKind.mp
  obtain ⟨f₁, staged, hstaged, hagree, hfilter⟩ := PluginHost.stageArtifactUpdates_outside
    (PluginHost.byKind_distinct hkept.distinct) (FailureDispatch.AgreesOn.refl _ r.failures)
    (fun _ hpluginId => hunchanged.package hpluginId)
    (fun active hactive hmem => hunchanged.passedOver (hmanaged hactive) hmem)
    (fun active hactive hmem => by
      obtain ⟨package, identity, hpackage, hidentity, -⟩ := hpassed active (hmanaged hactive) hmem
      exact PluginHost.artifactCandidate_some.mpr ⟨package, identity, hpackage, hidentity⟩)
    (fun active hactive hmem => hpolicy active (hmanaged hactive) hmem)
    (FailureDispatch.AgreesOn.refl _ r.failures) hstaged'
  have hstages := stageArtifactUpdates_byKind hkept hstaged
  have hrefused : ∀ update ∈ staged, update.pluginId ∈ broken → ∃ active reason,
      r.server.host.managed.find update.kind update.id = some active ∧
        PluginHost.validateUpdate code r.server.reloadContext r.server.cells r.failures active
          update = some (some reason) ∧
        actionForKind r.failures.matrix update.kind ≠ .failFast := by
    intro update hupdate hmem
    obtain ⟨active, hactive, hcandidate⟩ := hstages.loads update hupdate
    obtain ⟨hkind, hpluginId, hid, -⟩ := PluginHost.artifactCandidate_loaded hcandidate
    rw [hpluginId] at hmem
    obtain ⟨reason, hreason⟩ := (hbroken active (hmanaged hactive) hmem).refused
      (hpassed active (hmanaged hactive) hmem) hcandidate
    refine ⟨active, reason, ?_, hreason, ?_⟩
    · rw [hkind, hid]
      exact hkept.managed.find_of_mem (hmanaged hactive)
    · rw [hkind]
      exact hpolicy active (hmanaged hactive) hmem
  rw [← hfilter] at hfinalized
  obtain ⟨f, hfinalized', hagree'⟩ := PluginHost.finalizeArtifactUpdates_outside hstages.agrees
    hrefused hagree hfinalized
  refine ⟨f, ?_, hagree', ?_⟩
  · simp only [RuntimeServer.prepareRuntimeArtifacts, hstaged, Option.bind_eq_bind,
      Option.bind_some, PluginHost.registersRunning_congr hagree, hregisters, guard_true,
      Option.pure_def, hfinalized']
  · intro update hupdate
    obtain ⟨prepared, hprepared, rfl⟩ := List.mem_map.mp hupdate
    have hmem := (PluginHost.finalizeArtifactUpdates_sublist hfinalized).subset hprepared
    simpa using (List.mem_filter.mp hmem).2

end ReloadingServer

end RevyCraft.PluginHandles
