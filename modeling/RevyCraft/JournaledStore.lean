/-
  RevyCraft/JournaledStore.lean
  =============================
  **The core store with its journal** (`runtime/core_store.rs`): a call up to
  its `commit_locked`, and what the commit leaves in the process journal.

  `RevyCraft.CoreStore` has the calls with the commit and without the journal.
  Here a call is taken apart into what it prepares and the commit, and the
  calls there are the two together (`StoreStep.prepare_step`).

  `Retains` is what the journal owes its reader: the commits that were made
  since a version, its window over them, and a codec that writes those that
  it still holds.  A delta from any version on the way then leads to the
  active one (`Retains.delta`).
-/
import RevyCraft.CoreStore
import RevyCraft.ProcessJournal
import RevyCraft.Replay

namespace RevyCraft

open RevyCraft.Core
open Prog (run)

variable (C : ContentBehavior)

/-! ### Calls up to their commit -/

/-- An answer without a commit, or what `commit_locked` is called with. -/
inductive PreparedCall where
  | answered (outcome : Except String CoreCommandOutcome)
  | commit (prepared : PreparedCoreCommit)

namespace CoreStore

def settled (store : CoreStore) : PreparedCall → Except String CoreCommandOutcome × CoreStore
  | .answered outcome => (outcome, store)
  | .commit prepared => store.committed prepared

def prepareInternal (store : CoreStore) (command : CoreCommand) (nowMs : Nat) :
    Panics PreparedCall := do
  let done ← (CoreMutation.fromVersion store.active).applyCommand C command nowMs
  pure (.commit (done.2.prepare done.1 command.requiresPersistence))

/-- What a gameplay plugin's effects end in. -/
def prepareEffects (stale : CoreCommandOutcome) :
    GameplayEffectApplyResult × CoreMutation → PreparedCall
  | (.applied events, mutation) => .commit (mutation.prepare events true)
  | (.conflict, _) => .answered (.ok stale)

def prepareLogin (store : CoreStore) (connectionId : ConnectionId) (username : String)
    (playerId : PlayerId) (previewed : ServerCore) (answer : Except String GameplayEffectBatch)
    (nowMs : Nat) : Panics PreparedCall := do
  let preview ← (Tx.beginLogin C connectionId username playerId).run (.new previewed nowMs)
  match preview.1, answer with
  | some rejection, _ => pure (.answered (.ok (.events rejection)))
  | none, .error message => pure (.answered (.error message))
  | none, .ok batch =>
    let done ← (CoreMutation.fromVersion store.active).validateAndApplyLoginEffects C connectionId
      username playerId batch
    pure (prepareEffects (.staleLogin connectionId) done)

def prepareGameplay (store : CoreStore) (command : GameplayCommand) (playerId : PlayerId)
    (answer : Except String GameplayEffectBatch) : Panics PreparedCall :=
  if command.playerId ≠ playerId then .ok (.answered (.ok (.staleGameplayCommand playerId)))
  else
    match answer with
    | .error message => .ok (.answered (.error message))
    | .ok batch => do
      let done ← (CoreMutation.fromVersion store.active).validateAndApplyGameplayEffects C batch
      pure (prepareEffects (.staleGameplayCommand playerId) done)

def prepareCommand (store : CoreStore) (command : CoreCommand) (invocation : CoreInvocation)
    (nowMs : Nat) : Panics PreparedCall :=
  match command, invocation with
  | .loginStart connectionId username playerId, .login previewed answer =>
    store.prepareLogin C connectionId username playerId previewed answer nowMs
  | .gameplay command, .play playerId answer => store.prepareGameplay C command playerId answer
  | command, _ => store.prepareInternal C command nowMs

def prepareBuiltinTick (store : CoreStore) (nowMs : Nat) : Panics PreparedCall := do
  let done ← (CoreMutation.fromVersion store.active).tick C nowMs
  pure (.commit (done.2.prepare done.1 false))

def prepareGameplayTicks (store : CoreStore) (preparedTicks : List PreparedGameplayTick) :
    Panics PreparedCall :=
  if preparedTicks.isEmpty then .ok (.answered (.ok (.events [])))
  else do
    let done ← applyTickBatches C preparedTicks (.fromVersion store.active)
    pure (.commit (done.2.prepare done.1 false))

end CoreStore

/-- The call of a step; a save has none. -/
def StoreStep.prepare (store : CoreStore) : StoreStep → Panics PreparedCall
  | .apply command invocation nowMs => store.prepareCommand C command invocation nowMs
  | .builtinTick nowMs => store.prepareBuiltinTick C nowMs
  | .gameplayTicks preparedTicks => store.prepareGameplayTicks C preparedTicks
  | .saveBegins => .ok (.answered (.ok (.events [])))
  | .saveEnds => .ok (.answered (.ok (.events [])))

/-! ### The journal of a commit -/

section Journal

variable (c : Codec CoreCommit) (jsonLen : TargetedEvent → Except String Nat)

/-- The journal after `commit_locked`; `none` when its eviction loop would not come back. -/
def CoreStore.journaled (store : CoreStore) (journal : CoreJournal TargetedEvent)
    (prepared : PreparedCoreCommit) : Option (CoreJournal TargetedEvent) :=
  if store.active.revision ≠ prepared.baseRevision then some journal
  else if store.active.revision < prepared.nextVersion.revision then
    (journal.record c jsonLen prepared.nextVersion.revision prepared.events
      prepared.intoParts.2.2.2).toOption
  else some journal

def CoreStore.journalStep (store : CoreStore) (journal : CoreJournal TargetedEvent)
    (step : StoreStep) : Option (CoreJournal TargetedEvent) :=
  match step.prepare C store with
  | .ok (.commit prepared) => store.journaled c jsonLen journal prepared
  | .ok (.answered _) => some journal
  | .error _ => some journal

/-- `write_process_delta_since`: the seal and the bytes written. -/
def CoreStore.writeProcessDeltaSince (store : CoreStore) (journal : CoreJournal TargetedEvent)
    (revision : CoreRevision) : Except CoreTransferError (ProcessDeltaSeal × ByteArr) :=
  if store.active.revision < revision then
    .error (.invalidState
      s!"core delta base revision {revision.value} exceeds active revision {store.active.revision.value}")
  else journal.writeProcessDelta revision

end Journal

/-! ### The calls, put together again -/

variable {C}

theorem CoreStore.applyInternal_eq (store : CoreStore) (command : CoreCommand) (nowMs : Nat) :
    store.applyInternal C command nowMs =
      (store.prepareInternal C command nowMs).map store.settled := by
  unfold applyInternal prepareInternal
  cases (CoreMutation.fromVersion store.active).applyCommand C command nowMs <;> rfl

theorem CoreStore.applyLogin_eq (store : CoreStore) (connectionId : ConnectionId)
    (username : String) (playerId : PlayerId) (previewed : ServerCore)
    (answer : Except String GameplayEffectBatch) (nowMs : Nat) :
    store.applyLogin C connectionId username playerId previewed answer nowMs =
      (store.prepareLogin C connectionId username playerId previewed answer nowMs).map
        store.settled := by
  unfold applyLogin prepareLogin
  cases (Tx.beginLogin C connectionId username playerId).run (.new previewed nowMs) with
  | error message => rfl
  | ok preview =>
    rcases preview with ⟨_ | rejection, state⟩
    · cases answer with
      | error message => rfl
      | ok batch =>
        simp only [bind, Except.bind]
        cases (CoreMutation.fromVersion store.active).validateAndApplyLoginEffects C connectionId
            username playerId batch with
        | error message => rfl
        | ok done =>
          rcases done with ⟨events | _, mutation⟩ <;> rfl
    · rfl

theorem CoreStore.applyGameplay_eq (store : CoreStore) (command : GameplayCommand)
    (playerId : PlayerId) (answer : Except String GameplayEffectBatch) :
    store.applyGameplay C command playerId answer =
      (store.prepareGameplay C command playerId answer).map store.settled := by
  unfold applyGameplay prepareGameplay
  by_cases hplayer : command.playerId ≠ playerId
  · rw [if_pos hplayer, if_pos hplayer]
    rfl
  · rw [if_neg hplayer, if_neg hplayer]
    cases answer with
    | error message => rfl
    | ok batch =>
      simp only [bind, Except.bind]
      cases (CoreMutation.fromVersion store.active).validateAndApplyGameplayEffects C batch with
      | error message => rfl
      | ok done =>
        rcases done with ⟨events | _, mutation⟩ <;> rfl

theorem CoreStore.applyCommand_eq (store : CoreStore) (command : CoreCommand)
    (invocation : CoreInvocation) (nowMs : Nat) :
    store.applyCommand C command invocation nowMs =
      (store.prepareCommand C command invocation nowMs).map store.settled := by
  cases command <;> cases invocation <;>
    first
      | exact store.applyLogin_eq ..
      | exact store.applyGameplay_eq ..
      | exact store.applyInternal_eq ..

theorem CoreStore.applyBuiltinTick_eq (store : CoreStore) (nowMs : Nat) :
    store.applyBuiltinTick C nowMs = (store.prepareBuiltinTick C nowMs).map store.settled := by
  unfold applyBuiltinTick prepareBuiltinTick
  cases (CoreMutation.fromVersion store.active).tick C nowMs <;> rfl

theorem CoreStore.commitGameplayTicks_eq (store : CoreStore)
    (preparedTicks : List PreparedGameplayTick) :
    store.commitGameplayTicks C preparedTicks =
      (store.prepareGameplayTicks C preparedTicks).map store.settled := by
  unfold commitGameplayTicks prepareGameplayTicks
  split
  · rfl
  · cases applyTickBatches C preparedTicks (.fromVersion store.active) <;> rfl

theorem StoreStep.prepare_step (s : SavingStore) (step : StoreStep)
    (hbegins : step ≠ .saveBegins) (hends : step ≠ .saveEnds) :
    s.step C step = s.after ((step.prepare C s.store).map s.store.settled) := by
  cases step with
  | apply command invocation nowMs => exact congrArg s.after (s.store.applyCommand_eq ..)
  | builtinTick nowMs => exact congrArg s.after (s.store.applyBuiltinTick_eq nowMs)
  | gameplayTicks preparedTicks => exact congrArg s.after (s.store.commitGameplayTicks_eq _)
  | saveBegins => exact absurd rfl hbegins
  | saveEnds => exact absurd rfl hends

/-! ### What a prepared commit holds -/

theorem CoreStore.applyTickBatches_calls {preparedTicks : List PreparedGameplayTick}
    {mutation mutation' : CoreMutation} {events : List TargetedEvent}
    (h : applyTickBatches C preparedTicks mutation = .ok (events, mutation')) :
    runCalls C (preparedTicks.map fun tick => .validateAndApplyGameplayEffects tick.batch) mutation =
      .ok mutation' := by
  induction preparedTicks generalizing mutation mutation' events with
  | nil =>
    cases h
    rfl
  | cons prepared rest ih =>
    obtain ⟨⟨result, between⟩, heffects, h⟩ := except_bind_eq_ok.mp h
    obtain ⟨⟨later, last⟩, hrest, h⟩ := except_bind_eq_ok.mp h
    have hlast : last = mutation' := by
      cases result with
      | applied events' | conflict =>
        cases h
        rfl
    subst hlast
    simp only [List.map_cons, runCalls, MutationCall.run, heffects]
    exact ih hrest

variable {store : CoreStore} {prepared : PreparedCoreCommit} {version start active : CoreVersion}
  {log : List CoreCommit} {j : ProcessJournal}

theorem StoreStep.prepare_calls {step : StoreStep}
    (h : step.prepare C store = .ok (.commit prepared)) :
    ∃ calls mutation events marked, runCalls C calls (.fromVersion store.active) = .ok mutation ∧
      prepared = mutation.prepare events marked := by
  have hone : ∀ {call : MutationCall} {mutation : CoreMutation},
      call.run C (.fromVersion store.active) = .ok mutation →
        runCalls C [call] (.fromVersion store.active) = .ok mutation := by
    intro call mutation hcall
    simp only [runCalls, hcall]
    rfl
  cases step with
  | apply command invocation nowMs =>
    have hinternal : ∀ {command : CoreCommand},
        store.prepareInternal C command nowMs = .ok (.commit prepared) →
        ∃ calls mutation events marked,
          runCalls C calls (.fromVersion store.active) = .ok mutation ∧
            prepared = mutation.prepare events marked := by
      intro command h
      obtain ⟨⟨events, mutation⟩, happly, h⟩ := except_bind_eq_ok.mp h
      cases h
      exact ⟨[.applyCommand command nowMs], mutation, _, _,
        hone (by simp only [MutationCall.run, happly]; rfl), rfl⟩
    replace h : store.prepareCommand C command invocation nowMs = .ok (.commit prepared) := h
    unfold CoreStore.prepareCommand at h
    split at h
    · next connectionId username playerId previewed answer =>
      obtain ⟨⟨rejection, preview⟩, -, h⟩ := except_bind_eq_ok.mp h
      rcases rejection with _ | rejection
      · rcases answer with message | batch
        · cases h
        · obtain ⟨⟨result, mutation⟩, heffects, h⟩ := except_bind_eq_ok.mp h
          rcases result with events | _
          · cases h
            exact ⟨[.validateAndApplyLoginEffects connectionId username playerId batch], mutation,
              _, _, hone (by simp only [MutationCall.run, heffects]; rfl), rfl⟩
          · cases h
      · cases h
    · next gameplay playerId answer =>
      unfold CoreStore.prepareGameplay at h
      split at h
      · cases h
      · rcases answer with message | batch
        · cases h
        · obtain ⟨⟨result, mutation⟩, heffects, h⟩ := except_bind_eq_ok.mp h
          rcases result with events | _
          · cases h
            exact ⟨[.validateAndApplyGameplayEffects batch], mutation, _, _,
              hone (by simp only [MutationCall.run, heffects]; rfl), rfl⟩
          · cases h
    · exact hinternal h
  | builtinTick nowMs =>
    obtain ⟨⟨events, mutation⟩, htick, h⟩ := except_bind_eq_ok.mp h
    cases h
    exact ⟨[.tick nowMs], mutation, _, _,
      hone (by simp only [MutationCall.run, htick]; rfl), rfl⟩
  | gameplayTicks preparedTicks =>
    replace h : store.prepareGameplayTicks C preparedTicks = .ok (.commit prepared) := h
    unfold CoreStore.prepareGameplayTicks at h
    split at h
    · cases h
    · obtain ⟨⟨events, mutation⟩, hbatches, h⟩ := except_bind_eq_ok.mp h
      cases h
      exact ⟨_, mutation, _, _, CoreStore.applyTickBatches_calls hbatches, rfl⟩
  | saveBegins => cases h
  | saveEnds => cases h

/-- The commit of a call leads from the active version to the prepared one, or changes nothing. -/
theorem StoreStep.prepare_leads {step : StoreStep}
    (h : step.prepare C store = .ok (.commit prepared)) :
    prepared.baseRevision = store.active.revision ∧
      (prepared.transferMutations = [] ∧ prepared.nextVersion = store.active ∨
        prepared.transferMutations ≠ [] ∧
          prepared.nextVersion.revision = store.active.revision.next ∧
          Leads C store.active [prepared.intoParts.2.2.2] prepared.nextVersion) := by
  obtain ⟨calls, mutation, events, marked, hcalls, rfl⟩ := StoreStep.prepare_calls h
  obtain ⟨records, hbase, hrecorded, hstate⟩ := runCalls_replays hcalls
  rcases mutation with ⟨base, state, transferMutations⟩
  simp only [CoreMutation.fromVersion, List.nil_append] at hbase hrecorded hstate
  subst hbase hrecorded
  refine ⟨rfl, ?_⟩
  cases transferMutations with
  | nil =>
    cases hstate
    exact .inl ⟨rfl, rfl⟩
  | cons record records =>
    exact .inr ⟨List.cons_ne_nil _ _, rfl, .cons rfl rfl hstate (.nil _)⟩

/-! ### Versions on the way -/

variable (C) in
/-- A version that the commits from `start` to `active` pass. -/
def Passes (start : CoreVersion) (log : List CoreCommit) (active version : CoreVersion) : Prop :=
  ∃ before after, log = before ++ after ∧ Leads C start before version ∧
    Leads C version after active

theorem Leads.append {between last : CoreVersion} {first second : List CoreCommit}
    (h : Leads C version first between) (h' : Leads C between second last) :
    Leads C version (first ++ second) last := by
  induction h with
  | nil version => exact h'
  | cons hbase hnext hstate hrest ih => exact .cons hbase hnext hstate (ih h')

theorem Passes.last (h : Leads C start log active) : Passes C start log active active :=
  ⟨log, [], (List.append_nil _).symm, h, .nil _⟩

theorem Passes.commit {next : CoreVersion} {commit : CoreCommit}
    (h : Passes C start log active version) (hcommit : Leads C active [commit] next) :
    Passes C start (log ++ [commit]) next version := by
  obtain ⟨before, after, rfl, hbefore, hafter⟩ := h
  exact ⟨before, after ++ [commit], List.append_assoc .., hbefore, hafter.append hcommit⟩

/-! ### What the journal owes its reader -/

variable {c : Codec CoreCommit} {jsonLen : TargetedEvent → Except String Nat}

variable (C c) in
/-- The journal over the commits from `start` to `active`, each of which raises the revision. -/
structure Retains (start : CoreVersion) (log : List CoreCommit) (active : CoreVersion)
    (j : ProcessJournal) : Prop where
  leads : Leads C start log active
  rising : ∀ commit ∈ log, commit.baseRevision < commit.nextRevision
  window : j.failure = none →
    j.Window start.revision active.revision (log.map (·.encoded c))
  encodable : j.failure = none → ∀ commit ∈ log, j.floor < commit.nextRevision → c.Encodable commit

/-- `CoreJournal::process` at the active version: everything so far counts as evicted. -/
theorem Retains.restarted (hleads : Leads C start log active)
    (hrising : ∀ commit ∈ log, commit.baseRevision < commit.nextRevision) :
    Retains C c start log active ⟨active.revision, [], 0, none⟩ where
  leads := hleads
  rising := hrising
  window := fun _ => .started hleads.chain
  encodable := by
    intro _ commit hmem hfloor
    have hle := ((Leads.chain (c := c) hleads).next_le (List.mem_map_of_mem hmem)).2
    exact absurd hfloor (Nat.not_lt.mpr hle)

/-- A commit that does not encode, for another reason than its size, ends the retention. -/
theorem ProcessJournal.retain_gives_up {commit : CoreCommit} {error : CoreTransferError}
    (henc : commit.encode c PROCESS_ENTRY_BYTE_LIMIT = .error error)
    (hbudget : ∀ actual limit, error ≠ .budgetExceeded actual limit) :
    j.retain c commit = .ok (.error error) := by
  unfold ProcessJournal.retain
  rw [henc]
  cases error with
  | budgetExceeded actual limit => exact absurd rfl (hbudget actual limit)
  | codec message => rfl
  | trailingBytes remaining => rfl
  | unsupportedFormat major => rfl
  | invalidState message => rfl

theorem Retains.record {next : CoreVersion} (h : Retains C c start log active j)
    {commit : CoreCommit} (hleads : Leads C active [commit] next)
    (hrises : active.revision < next.revision) (revision : CoreRevision)
    (events : List TargetedEvent) :
    ∃ j', CoreJournal.record c jsonLen (.process j) revision events commit = .ok (.process j') ∧
      Retains C c start (log ++ [commit]) next j' := by
  obtain ⟨hbase, hnext, -⟩ := Chain.cons_iff.mp (Leads.chain (c := c) hleads)
  have hlast : next.revision = active.revision.next := by
    cases hleads with
    | cons hbase hnext hstate hrest =>
      cases hrest
      rfl
  have hrising : ∀ other ∈ log ++ [commit], other.baseRevision < other.nextRevision := by
    intro other hmem
    rcases List.mem_append.mp hmem with hmem | hmem
    · exact h.rising other hmem
    · obtain rfl := List.mem_singleton.mp hmem
      rw [show other.baseRevision = _ from hbase, show other.nextRevision = _ from hnext, ← hlast]
      exact hrises
  have happ : (log ++ [commit]).map (·.encoded c) = log.map (·.encoded c) ++ [commit.encoded c] :=
    List.map_append
  cases hfailure : j.failure with
  | some error =>
    refine ⟨j, by simp only [CoreJournal.record, hfailure], h.leads.append hleads, hrising, ?_, ?_⟩
    all_goals
      intro hnone
      rw [hfailure] at hnone
      cases hnone
  | none =>
    have hw := h.window hfailure
    cases henc : commit.encode c PROCESS_ENTRY_BYTE_LIMIT with
    | ok encoded =>
      obtain ⟨rfl, he, hlen⟩ := encode_ok henc
      obtain ⟨j', hretain, hfloor, hwindow⟩ := hw.retain_encoded c henc hlen hbase hnext
      refine ⟨j', by simp only [CoreJournal.record, hfailure, hretain], h.leads.append hleads,
        hrising, fun _ => ?_, fun _ other hmem habove => ?_⟩
      · rw [happ, hlast]
        exact hwindow
      · rcases List.mem_append.mp hmem with hmem | hmem
        · exact h.encodable hfailure other hmem (Nat.lt_of_le_of_lt hfloor habove)
        · obtain rfl := List.mem_singleton.mp hmem
          exact he
    | error error =>
      by_cases hbudget : ∃ actual limit, error = .budgetExceeded actual limit
      · obtain ⟨actual, limit, rfl⟩ := hbudget
        obtain ⟨j', hretain, hfloor, hwindow⟩ := hw.retain_emptied c henc hbase hnext
        refine ⟨j', by simp only [CoreJournal.record, hfailure, hretain], h.leads.append hleads,
          hrising, fun _ => ?_, fun _ other hmem habove => ?_⟩
        · rw [happ, hlast]
          exact hwindow
        · -- nothing of the window is left
          have hle := ((Leads.chain (c := c) (h.leads.append hleads)).next_le
            (List.mem_map_of_mem hmem)).2
          rw [hfloor, show commit.nextRevision = _ from hnext, ← hlast] at habove
          exact absurd habove (Nat.not_lt.mpr hle)
      · have hretain := ProcessJournal.retain_gives_up (j := j) henc fun actual limit heq =>
          hbudget ⟨actual, limit, heq⟩
        refine ⟨{ j with failure := some error },
          by simp only [CoreJournal.record, hfailure, hretain], h.leads.append hleads, hrising,
          ?_, ?_⟩
        all_goals
          intro hnone
          cases hnone

theorem Leads.base_le {last : CoreVersion} {commits : List CoreCommit}
    (h : Leads C version commits last) {commit : CoreCommit} (hmem : commit ∈ commits) :
    version.revision ≤ commit.baseRevision := by
  induction h with
  | nil version => cases hmem
  | @cons version last head rest state hbase hnext hstate hrest ih =>
    rcases List.mem_cons.mp hmem with rfl | hmem
    · rw [hbase]
      exact Nat.le_refl _
    · exact Nat.le_trans (CoreRevision.le_next _) (ih hmem)

/-- Of the commits between two versions, those after a version on the way are the ones that lead
    on from it. -/
theorem Passes.filter_after {before after : List CoreCommit}
    (hbefore : Leads C start before version) (hafter : Leads C version after active)
    (hrising : ∀ commit ∈ before ++ after, commit.baseRevision < commit.nextRevision) :
    ((before ++ after).map (·.encoded c)).filter (fun e => version.revision < e.nextRevision) =
      after.map (·.encoded c) := by
  have hnone : (before.map (·.encoded c)).filter
      (fun e => version.revision < e.nextRevision) = [] := by
    apply List.filter_eq_nil_iff.mpr
    intro e he hlt
    exact absurd ((Leads.chain hbefore).next_le he).2 (Nat.not_le.mpr (of_decide_eq_true hlt))
  have hall : (after.map (·.encoded c)).filter
      (fun e => version.revision < e.nextRevision) = after.map (·.encoded c) := by
    apply List.filter_eq_self.mpr
    intro e he
    obtain ⟨commit, hmem, rfl⟩ := List.mem_map.mp he
    exact decide_eq_true (Nat.lt_of_le_of_lt (hafter.base_le hmem)
      (hrising commit (List.mem_append_right _ hmem)))
  rw [List.map_append, List.filter_append, hnone, hall, List.nil_append]

/-- **A sealed delta leads on.**  From a version on the way, a delta that is ready ends at the
    active version. -/
theorem Retains.ready (hc : c.RoundTrips) (h : Retains C c start log active j)
    (hpasses : Passes C start log active version) {descriptor : CoreTransferDeltaDescriptor}
    {bytes : ByteArr}
    (hseal : CoreJournal.writeProcessDelta (.process j : CoreJournal TargetedEvent)
      version.revision = .ok (.ready descriptor, bytes)) :
    descriptor.finalRevision = active.revision ∧
      version.applyProcessTransferDelta C c bytes = .ok active := by
  obtain ⟨before, after, rfl, hbefore, hafter⟩ := hpasses
  have hhealthy : j.failure = none := by
    cases hfailure : j.failure with
    | none => rfl
    | some error =>
      simp only [CoreJournal.writeProcessDelta, hfailure] at hseal
      cases hseal
  have hfloor : j.floor ≤ version.revision := by
    by_contra hbelow
    simp only [CoreJournal.writeProcessDelta, hhealthy,
      if_pos (show version.revision < j.floor from Nat.lt_of_not_le hbelow)] at hseal
    cases hseal
  have hle : version.revision ≤ active.revision := (Leads.chain (c := c) hafter).le
  have hw := h.window hhealthy
  have hfilter := Passes.filter_after (c := c) hbefore hafter h.rising
  have hkept := hw.filter_recorded hfloor
  rw [hw.writeProcessDelta_ready hfloor hle, hfilter] at hseal
  cases hseal
  refine ⟨rfl, applyProcessTransferDelta_frame hc hafter ?_ ?_ ?_⟩
  · intro commit hmem
    exact h.encodable hhealthy commit (List.mem_append_right _ hmem)
      (Nat.lt_of_le_of_lt hfloor (Nat.lt_of_le_of_lt (hafter.base_le hmem)
        (h.rising commit (List.mem_append_right _ hmem))))
  · have hcount := List.length_filter_le (fun e => version.revision < e.nextRevision) j.commits
    rw [← hkept, hfilter, List.length_map] at hcount
    exact Nat.le_trans hcount hw.count_le
  · have hbudget : CORE_DELTA_HEADER_BYTES + 4 * MAX_COMMITS + PROCESS_BYTE_LIMIT
        ≤ MAX_CORE_TRANSFER_BYTES := by decide
    have hcount := List.length_filter_le (fun e => version.revision < e.nextRevision) j.commits
    have htotal := encodedTotal_filter_le (fun e => version.revision < e.nextRevision) j.commits
    rw [← hkept, hfilter] at hcount htotal
    rw [List.length_map] at hcount
    have hlimits := And.intro hw.count_le hw.bytes_le
    rw [hw.bytes_eq] at hlimits
    omega

/-- A step of the store that commits below the last revision: what the journal owes goes on. -/
theorem Retains.step (h : Retains C c start log store.active j) {step : StoreStep}
    (hprepared : step.prepare C store = .ok (.commit prepared))
    (hcounted : prepared.transferMutations = [] ∨ store.active.revision.value < u64Max) :
    ∃ log' j', store.journalStep C c jsonLen (.process j) step = some (.process j') ∧
      Retains C c start log' prepared.nextVersion j' ∧
      ∀ version, Passes C start log store.active version →
        Passes C start log' prepared.nextVersion version := by
  obtain ⟨hbase, hleads⟩ := StoreStep.prepare_leads hprepared
  have hfresh : ¬ store.active.revision ≠ prepared.baseRevision := fun hne => hne hbase.symm
  simp only [CoreStore.journalStep, hprepared, CoreStore.journaled, if_neg hfresh]
  rcases hleads with ⟨-, hsame⟩ | ⟨hne, hnext, hleads⟩
  · rw [hsame]
    exact ⟨log, j, if_neg (Nat.lt_irrefl _), h, fun version hpasses => hpasses⟩
  · have hrises : store.active.revision < prepared.nextVersion.revision := by
      rcases hcounted with hempty | hbelow
      · exact absurd hempty hne
      · rw [hnext]
        simp only [CoreRevision.lt_def, CoreRevision.next_value]
        omega
    obtain ⟨j', hrecord, hretains⟩ := h.record hleads hrises
      prepared.nextVersion.revision prepared.events
    refine ⟨_, j', ?_, hretains, fun version hpasses => hpasses.commit hleads⟩
    rw [if_pos hrises, hrecord]
    rfl

theorem CoreStore.committed_fresh (h : prepared.baseRevision = store.active.revision) :
    (store.committed prepared).2 = { store with
      active := prepared.nextVersion
      latestDirtyRevision :=
        if prepared.requiresPersistence then some prepared.nextVersion.revision
        else store.latestDirtyRevision } := by
  have hfresh : ¬ store.active.revision ≠ prepared.baseRevision := fun hne => hne h.symm
  unfold committed commitLocked
  rw [if_neg hfresh]

/-- A step that is no save leaves store and journal alone, or publishes a prepared commit. -/
theorem StoreStep.call_cases (s : SavingStore) {step : StoreStep} (hbegins : step ≠ .saveBegins)
    (hends : step ≠ .saveEnds) (c : Codec CoreCommit)
    (jsonLen : TargetedEvent → Except String Nat) :
    (s.step C step = s ∧
        ∀ journal, s.store.journalStep C c jsonLen journal step = some journal) ∨
      ∃ prepared, step.prepare C s.store = .ok (.commit prepared) ∧
        s.step C step = { s with store := (s.store.committed prepared).2 } := by
  rw [StoreStep.prepare_step s step hbegins hends]
  unfold CoreStore.journalStep
  cases hcall : step.prepare C s.store with
  | error message => exact .inl ⟨rfl, fun journal => rfl⟩
  | ok call =>
    cases call with
    | answered outcome => exact .inl ⟨rfl, fun journal => rfl⟩
    | commit prepared => exact .inr ⟨prepared, rfl, rfl⟩

end RevyCraft
