/-
  RevyCraft/Replay.lean
  =====================
  **A replayed delta ends where the parent ended.**

  Every call on a `CoreMutation` either changes nothing and records nothing,
  or records one mutation whose replay makes the same change
  (`MutationCall.run_replays`).  Along a chain of batches the recorded commits
  are adjacent and their replay leads from the first version to the last
  (`runBatches_replays`).  The rest is the wire format read backwards: a sealed
  delta is the frame of its commits, and the reader finds them again.
-/
import RevyCraft.Version
import RevyCraft.Cbor
import RevyCraft.CanonicalContent

namespace RevyCraft

open Std
open Bytes

variable {C : ContentBehavior}

/-! ### Batches of mutations -/

/-- A call on a `CoreMutation`. -/
inductive MutationCall where
  | applyCommand (command : CoreCommand) (nowMs : Nat)
  | applyBuiltinGameplayCommand (command : GameplayCommand) (nowMs : Nat)
  | tick (nowMs : Nat)
  | validateAndApplyGameplayEffects (batch : GameplayEffectBatch)
  | validateAndApplyLoginEffects (connectionId : ConnectionId) (username : String)
      (playerId : PlayerId) (batch : GameplayEffectBatch)
  | setMaxPlayers (maxPlayers : Nat)
  | reconfigure (config : CoreConfig)

variable (C) in
/-- The mutation after a call; what the call returns to its caller is dropped. -/
def MutationCall.run (call : MutationCall) (mutation : CoreMutation) : Panics CoreMutation :=
  match call with
  | .applyCommand command nowMs => (mutation.applyCommand C command nowMs).map (·.2)
  | .applyBuiltinGameplayCommand command nowMs =>
    (mutation.applyBuiltinGameplayCommand C command nowMs).map (·.2)
  | .tick nowMs => (mutation.tick C nowMs).map (·.2)
  | .validateAndApplyGameplayEffects batch =>
    (mutation.validateAndApplyGameplayEffects C batch).map (·.2)
  | .validateAndApplyLoginEffects connectionId username playerId batch =>
    (mutation.validateAndApplyLoginEffects C connectionId username playerId batch).map (·.2)
  | .setMaxPlayers maxPlayers => .ok (mutation.setMaxPlayers maxPlayers)
  | .reconfigure config => .ok (mutation.reconfigure config)

variable (C) in
def runCalls : List MutationCall → CoreMutation → Panics CoreMutation
  | [], mutation => .ok mutation
  | call :: rest, mutation => do
    let mutation ← call.run C mutation
    runCalls rest mutation

/-- The calls between `from_version` and `prepare`, and the arguments of `prepare`. -/
structure MutationBatch where
  calls : List MutationCall
  events : List TargetedEvent
  requiresPersistence : Bool

variable (C) in
/-- One batch: the next version and the commit that leads to it. -/
def runBatch (version : CoreVersion) (batch : MutationBatch) :
    Panics (CoreVersion × CoreCommit) := do
  let mutation ← runCalls C batch.calls (.fromVersion version)
  let (next, _, _, commit) := (mutation.prepare batch.events batch.requiresPersistence).intoParts
  pure (next, commit)

variable (C) in
/-- Batches chained through the next version, and their commits. -/
def runBatches : CoreVersion → List MutationBatch → Panics (CoreVersion × List CoreCommit)
  | version, [] => .ok (version, [])
  | version, batch :: rest => do
    let (next, commit) ← runBatch C version batch
    let (last, commits) ← runBatches next rest
    pure (last, commit :: commits)

/-- The commits that carry a mutation. -/
def nonEmptyCommits (commits : List CoreCommit) : List CoreCommit :=
  commits.filter fun commit => !commit.mutations.isEmpty

/-! ### One call -/

theorem applyMutations_append (first second : List CoreTransferMutation) (state : ServerCore) :
    applyMutations C (first ++ second) state =
      applyMutations C first state >>= applyMutations C second := by
  induction first generalizing state with
  | nil => rfl
  | cons mutation rest ih =>
    simp only [List.cons_append, applyMutations, ih, bind_assoc]

theorem applyMutations_singleton (mutation : CoreTransferMutation) (state : ServerCore) :
    applyMutations C [mutation] state = mutation.apply C state := by
  simp only [applyMutations]
  cases mutation.apply C state <;> rfl

/-- What a call records, replayed on the state it ran on, gives the state it left. -/
structure Replays (C : ContentBehavior) (before after : CoreMutation)
    (records : List CoreTransferMutation) : Prop where
  base : after.baseRevision = before.baseRevision
  recorded : after.transferMutations = before.transferMutations ++ records
  state : applyMutations C records before.state = .ok after.state

theorem Replays.nothing (mutation : CoreMutation) : Replays C mutation mutation [] :=
  ⟨rfl, by simp, rfl⟩

theorem Replays.one {mutation : CoreMutation} {state : ServerCore}
    {record : CoreTransferMutation} (h : record.apply C mutation.state = .ok state) :
    Replays C mutation (mutation.recorded state record) [record] :=
  ⟨rfl, rfl, by rw [applyMutations_singleton]; exact h⟩

theorem Replays.trans {a b c : CoreMutation} {first second : List CoreTransferMutation}
    (hab : Replays C a b first) (hbc : Replays C b c second) :
    Replays C a c (first ++ second) := by
  constructor
  · rw [hbc.base, hab.base]
  · rw [hbc.recorded, hab.recorded, List.append_assoc]
  · rw [applyMutations_append, hab.state]
    exact hbc.state

variable {core core' : ServerCore} {version last : CoreVersion} {commits : List CoreCommit}

theorem validateAndApplyGameplayJournal_conflict {journal : GameplayJournal}
    (h : core.validateAndApplyGameplayJournal C journal = .ok (.conflict, core')) :
    core' = core := by
  unfold ServerCore.validateAndApplyGameplayJournal at h
  obtain ⟨matching, -, h⟩ := except_bind_eq_ok.mp h
  cases matching with
  | true =>
    obtain ⟨applied, -, h⟩ := except_bind_eq_ok.mp h
    cases h
  | false =>
    cases h
    rfl

theorem finishLoginEffects_conflict {preview : GameplayTransaction} {connectionId : ConnectionId}
    {playerId : PlayerId} {effects : List GameplayEffect}
    (h : core.finishLoginEffects C preview connectionId playerId effects = .ok (.conflict, core')) :
    core' = core := by
  unfold ServerCore.finishLoginEffects at h
  obtain ⟨⟨_, tx⟩, -, h⟩ := except_bind_eq_ok.mp h
  obtain ⟨⟨outcome, tx'⟩, -, h⟩ := except_bind_eq_ok.mp h
  cases outcome with
  | error message =>
    cases h
    rfl
  | ok done =>
    obtain ⟨⟨result, core''⟩, hjournal, h⟩ := except_bind_eq_ok.mp h
    cases result with
    | applied events => cases h
    | conflict =>
      cases h
      exact validateAndApplyGameplayJournal_conflict hjournal

theorem validateAndApplyGameplayEffects_cases {batch : GameplayEffectBatch}
    {result : GameplayEffectApplyResult}
    (h : core.validateAndApplyGameplayEffects C batch = .ok (result, core')) :
    (result = .conflict ∧ core' = core) ∨
      ∃ events, result = .applied events ∧
        core.applyCommittedGameplayEffects C batch.nowMs batch.effects = .ok (events, core') := by
  unfold ServerCore.validateAndApplyGameplayEffects at h
  obtain ⟨matching, -, h⟩ := except_bind_eq_ok.mp h
  cases matching with
  | true =>
    obtain ⟨⟨events, core''⟩, happly, h⟩ := except_bind_eq_ok.mp h
    cases h
    exact .inr ⟨events, rfl, happly⟩
  | false =>
    cases h
    exact .inl ⟨rfl, rfl⟩

/-- A login that was applied is rebuilt by the replay, which checks no reads. -/
theorem validateAndApplyLoginEffects_cases {connectionId : ConnectionId} {username : String}
    {playerId : PlayerId} {batch : GameplayEffectBatch} {result : GameplayEffectApplyResult}
    (h : core.validateAndApplyLoginEffects C connectionId username playerId batch =
      .ok (result, core')) : (result = .conflict ∧ core' = core) ∨
      ∃ events, result = .applied events ∧
        core.applyCommittedLoginEffects C connectionId username playerId batch.nowMs
          batch.effects = .ok (.applied events, core') := by
  unfold ServerCore.validateAndApplyLoginEffects at h
  obtain ⟨preview, hpreview, h⟩ := except_bind_eq_ok.mp h
  cases preview with
  | none =>
    cases h
    exact .inl ⟨rfl, rfl⟩
  | some preview =>
    obtain ⟨⟨matching, _⟩, -, h⟩ := except_bind_eq_ok.mp h
    cases matching with
    | false =>
      cases h
      exact .inl ⟨rfl, rfl⟩
    | true =>
      cases result with
      | conflict => exact .inl ⟨rfl, finishLoginEffects_conflict h⟩
      | applied events =>
        refine .inr ⟨events, rfl, ?_⟩
        unfold ServerCore.applyCommittedLoginEffects
        rw [hpreview]
        exact h

theorem orPanic_ok {α : Type} {x : Panics α} {a : α} (h : x = .ok a) : orPanic x = .ok a := by
  rw [h]
  rfl

/-- **One call.**  Whatever a call does, its record replays to the same state. -/
theorem MutationCall.run_replays {call : MutationCall} {before after : CoreMutation}
    (h : call.run C before = .ok after) : ∃ records, Replays C before after records := by
  cases call with
  | applyCommand command nowMs =>
    obtain ⟨⟨events, m⟩, hrecord, rfl⟩ := except_map_eq_ok.mp h
    unfold CoreMutation.applyCommand at hrecord
    obtain ⟨⟨events, state⟩, hrun, hrecord⟩ := except_bind_eq_ok.mp hrecord
    cases hrecord
    refine ⟨[.command command nowMs], .one ?_⟩
    simp only [CoreTransferMutation.apply, orPanic_ok hrun]
    rfl
  | applyBuiltinGameplayCommand command nowMs =>
    obtain ⟨⟨events, m⟩, hrecord, rfl⟩ := except_map_eq_ok.mp h
    unfold CoreMutation.applyBuiltinGameplayCommand at hrecord
    obtain ⟨⟨events, state⟩, hrun, hrecord⟩ := except_bind_eq_ok.mp hrecord
    cases hrecord
    refine ⟨[.builtinGameplayCommand command nowMs], .one ?_⟩
    simp only [CoreTransferMutation.apply, orPanic_ok hrun]
    rfl
  | tick nowMs =>
    obtain ⟨⟨events, m⟩, hrecord, rfl⟩ := except_map_eq_ok.mp h
    unfold CoreMutation.tick at hrecord
    obtain ⟨⟨events, state⟩, hrun, hrecord⟩ := except_bind_eq_ok.mp hrecord
    cases hrecord
    refine ⟨[.builtinTick nowMs], .one ?_⟩
    simp only [CoreTransferMutation.apply, orPanic_ok hrun]
    rfl
  | validateAndApplyGameplayEffects batch =>
    obtain ⟨⟨result, m⟩, hrecord, rfl⟩ := except_map_eq_ok.mp h
    unfold CoreMutation.validateAndApplyGameplayEffects at hrecord
    obtain ⟨⟨outcome, state⟩, hrun, hrecord⟩ := except_bind_eq_ok.mp hrecord
    rcases validateAndApplyGameplayEffects_cases hrun with ⟨rfl, rfl⟩ | ⟨events, rfl, happly⟩
    · cases hrecord
      exact ⟨[], .nothing _⟩
    · cases hrecord
      cases heffects : batch.effects with
      | nil =>
        -- no effects, no record: the state is the one before
        rw [heffects] at happly
        cases happly
        exact ⟨[], .nothing _⟩
      | cons effect rest =>
        refine ⟨[.gameplayEffects batch.nowMs (effect :: rest)], .one ?_⟩
        rw [heffects] at happly
        simp only [CoreTransferMutation.apply, orPanic_ok happly]
        rfl
  | validateAndApplyLoginEffects connectionId username playerId batch =>
    obtain ⟨⟨result, m⟩, hrecord, rfl⟩ := except_map_eq_ok.mp h
    unfold CoreMutation.validateAndApplyLoginEffects at hrecord
    obtain ⟨⟨outcome, state⟩, hrun, hrecord⟩ := except_bind_eq_ok.mp hrecord
    rcases validateAndApplyLoginEffects_cases hrun with ⟨rfl, rfl⟩ | ⟨events, rfl, happly⟩
    · cases hrecord
      exact ⟨[], .nothing _⟩
    · cases hrecord
      refine ⟨[.loginEffects connectionId username playerId batch.nowMs batch.effects], .one ?_⟩
      simp only [CoreTransferMutation.apply, orPanic_ok happly]
      rfl
  | setMaxPlayers maxPlayers =>
    cases h
    exact ⟨[.setMaxPlayers maxPlayers], .one rfl⟩
  | reconfigure config =>
    cases h
    exact ⟨[.reconfigure config], .one rfl⟩

theorem runCalls_replays {calls : List MutationCall} {before after : CoreMutation}
    (h : runCalls C calls before = .ok after) : ∃ records, Replays C before after records := by
  induction calls generalizing before with
  | nil =>
    cases h
    exact ⟨[], .nothing _⟩
  | cons call rest ih =>
    obtain ⟨between, hcall, hrest⟩ := except_bind_eq_ok.mp h
    obtain ⟨first, hfirst⟩ := call.run_replays hcall
    obtain ⟨second, hsecond⟩ := ih hrest
    exact ⟨first ++ second, hfirst.trans hsecond⟩

/-! ### A chain of batches -/

/-- Adjacent commits whose replay leads from one version to another. -/
inductive Leads (C : ContentBehavior) : CoreVersion → List CoreCommit → CoreVersion → Prop where
  | nil (version : CoreVersion) : Leads C version [] version
  | cons {version last : CoreVersion} {commit : CoreCommit} {rest : List CoreCommit}
      {state : ServerCore} (hbase : commit.baseRevision = version.revision)
      (hnext : commit.nextRevision = version.revision.next)
      (hstate : applyMutations C commit.mutations version.state = .ok state)
      (hrest : Leads C ⟨version.revision.next, state⟩ rest last) :
      Leads C version (commit :: rest) last

theorem runBatch_leads {next : CoreVersion} {batch : MutationBatch} {commit : CoreCommit}
    (h : runBatch C version batch = .ok (next, commit)) : (commit.mutations = [] ∧ next = version) ∨
      (commit.mutations ≠ [] ∧ commit.baseRevision = version.revision ∧
        commit.nextRevision = version.revision.next ∧
        ∃ state, applyMutations C commit.mutations version.state = .ok state ∧
          next = ⟨version.revision.next, state⟩) := by
  unfold runBatch at h
  obtain ⟨mutation, hcalls, h⟩ := except_bind_eq_ok.mp h
  obtain ⟨records, hbase, hrecorded, hstate⟩ := runCalls_replays hcalls
  rcases mutation with ⟨base, state, transferMutations⟩
  simp only [CoreMutation.fromVersion, List.nil_append] at hbase hrecorded hstate
  subst hbase hrecorded
  cases h
  cases transferMutations with
  | nil =>
    cases hstate
    exact .inl ⟨rfl, rfl⟩
  | cons record records =>
    exact .inr ⟨List.cons_ne_nil _ _, rfl, rfl, state, hstate, rfl⟩

theorem runBatches_leads {batches : List MutationBatch}
    (h : runBatches C version batches = .ok (last, commits)) :
    Leads C version (nonEmptyCommits commits) last := by
  induction batches generalizing version commits with
  | nil =>
    cases h
    exact .nil _
  | cons batch rest ih =>
    unfold runBatches at h
    obtain ⟨⟨next, commit⟩, hbatch, h⟩ := except_bind_eq_ok.mp h
    obtain ⟨⟨last', commits'⟩, hrest, h⟩ := except_bind_eq_ok.mp h
    cases h
    have htail := ih hrest
    rcases runBatch_leads hbatch with ⟨hempty, rfl⟩ | ⟨hne, hbase, hnext, state, hstate, rfl⟩
    · simpa [nonEmptyCommits, hempty] using htail
    · have hkept : nonEmptyCommits (commit :: commits') = commit :: nonEmptyCommits commits' := by
        simp [nonEmptyCommits, hne]
      rw [hkept]
      exact .cons hbase hnext hstate htail

/-! ### What a sealed delta holds -/

theorem validateLoop_ok {commits : List EncodedCoreTransferCommit} {base final : CoreRevision}
    {len count total : Nat} (h : validateLoop base len count commits = .ok (final, total))
    (hcount : count ≤ MAX_COMMITS) :
    Chain base commits final ∧ count + commits.length ≤ MAX_COMMITS ∧
      total = len + 4 * commits.length + encodedTotal commits := by
  induction commits generalizing base len count with
  | nil =>
    cases h
    exact ⟨.nil _, hcount, rfl⟩
  | cons commit rest ih =>
    unfold validateLoop at h
    split at h
    · cases h
    split at h
    · cases h
    split at h
    · cases h
    split at h
    · cases h
    rename_i hlimit hadjacent _
    rw [not_or, not_not, not_not] at hadjacent
    obtain ⟨hchain, hlen, htotal⟩ := ih h (by omega)
    refine ⟨Chain.cons_iff.mpr ⟨hadjacent.1, hadjacent.2, hchain⟩, ?_, ?_⟩
    · simp only [List.length_cons]
      omega
    · simp only [List.length_cons, encodedTotal_cons, EncodedCoreTransferCommit.encodedLen]
      omega

/-- A delta that was sealed is the frame of its commits, within the limits of the reader. -/
theorem sealPreencoded_ok {commits : List EncodedCoreTransferCommit} {base : CoreRevision}
    {delta : CoreTransferDelta} (h : sealPreencoded base commits = .ok delta) :
    Chain base commits delta.finalRevision ∧ commits.length ≤ MAX_COMMITS ∧
      CORE_DELTA_HEADER_BYTES + 4 * commits.length + encodedTotal commits
        ≤ MAX_CORE_TRANSFER_BYTES ∧
      delta.bytes = deltaFrame base delta.finalRevision commits := by
  have hvalidated : ∃ d, validatePreencoded base commits = .ok d := by
    cases hv : validatePreencoded base commits with
    | ok d => exact ⟨d, rfl⟩
    | error e =>
      simp only [sealPreencoded, sealPreencodedInto, hv] at h
      cases h
  obtain ⟨d, hd⟩ := hvalidated
  unfold validatePreencoded at hd
  split at hd
  · cases hd
  split at hd
  · cases hd
  rename_i final total hloop hfits
  obtain ⟨hchain, hcount, htotal⟩ := validateLoop_ok hloop (Nat.zero_le _)
  rw [Nat.zero_add] at hcount
  have hbytes : CORE_DELTA_HEADER_BYTES + 4 * commits.length + encodedTotal commits
      ≤ MAX_CORE_TRANSFER_BYTES := by omega
  unfold sealPreencoded at h
  rw [sealPreencodedInto_chain hchain hcount hbytes] at h
  cases h
  exact ⟨hchain, hcount, hbytes, rfl⟩

section Wire

variable {c : Codec CoreCommit}

theorem encode_ok {commit : CoreCommit} {encoded : EncodedCoreTransferCommit} {byteLimit : Nat}
    (h : commit.encode c byteLimit = .ok encoded) :
    encoded = commit.encoded c ∧ c.Encodable commit ∧ encoded.encodedLen ≤ byteLimit := by
  have hmax : MAX_CORE_TRANSFER_BYTES ≤ u64Max := by decide
  unfold CoreTransferCommit.encode at h
  split at h
  · cases h
  · rename_i bytes hbytes
    obtain ⟨he, rfl, hlen⟩ := encodeTransfer_ok c (by omega) hbytes
    cases h
    exact ⟨rfl, he, Nat.le_trans hlen (Nat.min_le_left _ _)⟩

theorem mapM_encode_ok {encoded : List EncodedCoreTransferCommit}
    (h : commits.mapM (fun commit => commit.encode c MAX_CORE_TRANSFER_BYTES) = .ok encoded) :
    encoded = commits.map (·.encoded c) ∧ ∀ commit ∈ commits, c.Encodable commit := by
  induction commits generalizing encoded with
  | nil =>
    cases h
    exact ⟨rfl, fun _ hm => by cases hm⟩
  | cons commit rest ih =>
    rw [List.mapM_cons] at h
    obtain ⟨first, hfirst, h⟩ := except_bind_eq_ok.mp h
    obtain ⟨others, hothers, h⟩ := except_bind_eq_ok.mp h
    cases h
    obtain ⟨rfl, he, -⟩ := encode_ok hfirst
    obtain ⟨rfl, hrest⟩ := ih hothers
    refine ⟨rfl, fun commit' hm => ?_⟩
    rcases List.mem_cons.mp hm with rfl | hm
    · exact he
    · exact hrest commit' hm

/-! ### Reading the frame back -/

theorem readBytes_append (front rest : ByteArr) :
    CoreDeltaReader.readBytes (front ++ rest) front.length = .ok (front, rest) := by
  simp [CoreDeltaReader.readBytes]

theorem readUnsigned_append {width n : Nat} (h : n < 256 ^ width) (rest : ByteArr) :
    CoreDeltaReader.readUnsigned width (leBytes width n ++ rest) = .ok (n, rest) := by
  have hread := readBytes_append (leBytes width n) rest
  rw [length_leBytes] at hread
  simp only [CoreDeltaReader.readUnsigned, hread]
  exact congrArg (fun value => Except.ok (value, rest)) (leValue_leBytes width n h)

theorem encodedLen_le_total {commits : List EncodedCoreTransferCommit}
    {commit : EncodedCoreTransferCommit} (h : commit ∈ commits) :
    commit.encodedLen ≤ encodedTotal commits := by
  induction commits with
  | nil => cases h
  | cons head rest ih =>
    rw [encodedTotal_cons]
    rcases List.mem_cons.mp h with rfl | h
    · omega
    · have := ih h
      omega

theorem applyFrames_leads (hc : c.RoundTrips) (h : Leads C version commits last)
    (he : ∀ commit ∈ commits, c.Encodable commit)
    (hlen : encodedTotal (commits.map (·.encoded c)) ≤ MAX_CORE_TRANSFER_BYTES) (rest : ByteArr) :
    applyFrames C c commits.length (framesOf (commits.map (·.encoded c)) ++ rest)
      version.revision version.state = .ok (rest, last.revision, last.state) := by
  have hwidth : MAX_CORE_TRANSFER_BYTES < 256 ^ 4 := by decide
  induction h with
  | nil version => rfl
  | @cons version last commit tail state hbase hnext hstate hrest ih =>
    have hmember : commit.encoded c ∈ (commit :: tail).map (·.encoded c) := List.mem_cons_self
    have hfits : (c.bytes commit).length ≤ MAX_CORE_TRANSFER_BYTES :=
      Nat.le_trans (encodedLen_le_total hmember) hlen
    have htail : encodedTotal (tail.map (·.encoded c)) ≤ MAX_CORE_TRANSFER_BYTES := by
      rw [List.map_cons, encodedTotal_cons] at hlen
      omega
    have hdecode := decodeTransfer_bytes c hc (he commit List.mem_cons_self) hfits
    have hrun := ih (fun commit' hm => he commit' (List.mem_cons_of_mem _ hm)) htail
    simp only [List.map_cons, framesOf_cons, List.length_cons, List.append_assoc, applyFrames]
    rw [readUnsigned_append (show (commit.encoded c).bytes.length < 256 ^ 4 from by
      exact Nat.lt_of_le_of_lt hfits hwidth)]
    simp only [orFault, bind, Except.bind]
    rw [readBytes_append]
    simp only [CoreTransferCommit.encoded] at hdecode ⊢
    rw [hdecode]
    simp only [hbase, hnext, hstate, ne_eq, not_true_eq_false, or_self, if_false]
    exact hrun

theorem applyProcessTransferDelta_frame (hc : c.RoundTrips) (h : Leads C version commits last)
    (he : ∀ commit ∈ commits, c.Encodable commit) (hcount : commits.length ≤ MAX_COMMITS)
    (hlen : CORE_DELTA_HEADER_BYTES + 4 * commits.length +
      encodedTotal (commits.map (·.encoded c)) ≤ MAX_CORE_TRANSFER_BYTES) :
    version.applyProcessTransferDelta C c
        (deltaFrame version.revision last.revision (commits.map (·.encoded c))) = .ok last := by
  have hframes := applyFrames_leads hc h he (by omega) []
  rw [List.append_nil] at hframes
  have hsize := length_deltaFrame version.revision last.revision (commits.map (·.encoded c))
  rw [List.length_map] at hsize
  have hbase : version.revision.value < 256 ^ 8 := by
    have := version.revision.bound
    unfold u64Max at this
    omega
  have hfinal : last.revision.value < 256 ^ 8 := by
    have := last.revision.bound
    unfold u64Max at this
    omega
  have hcommits : (commits.map (·.encoded c)).length < 256 ^ 4 := by
    rw [List.length_map]
    unfold MAX_COMMITS at hcount
    omega
  unfold CoreVersion.applyProcessTransferDelta
  have hnew : CoreDeltaReader.new
      (deltaFrame version.revision last.revision (commits.map (·.encoded c))) =
      .ok (deltaFrame version.revision last.revision (commits.map (·.encoded c))) := by
    unfold CoreDeltaReader.new
    rw [if_neg (by omega), if_neg (by omega)]
  rw [hnew]
  simp only [orFault, bind, Except.bind, deltaFrame, List.append_assoc]
  rw [show (8 : Nat) = CORE_DELTA_MAGIC.length from rfl, readBytes_append]
  simp only [ne_eq, not_true_eq_false, if_false]
  rw [readUnsigned_append (by decide)]
  simp only [not_true_eq_false, if_false]
  rw [show CORE_DELTA_MAGIC.length = 8 from rfl, readUnsigned_append hbase]
  simp only
  rw [readUnsigned_append hfinal]
  simp only
  rw [readUnsigned_append hcommits]
  simp only [List.length_map]
  rw [if_neg (by omega), if_neg (by simp), hframes]
  simp [CoreDeltaReader.finish, pure, Except.pure]

/-! ### The transfer as a whole -/

theorem Leads.chain (h : Leads C version commits last) :
    Chain version.revision (commits.map (·.encoded c)) last.revision := by
  induction h with
  | nil version => exact .nil _
  | @cons version last commit rest state hbase hnext hstate hrest ih =>
    refine Chain.cons_iff.mpr ⟨hbase, hnext, ?_⟩
    change Chain commit.nextRevision _ _
    rw [hnext]
    exact ih

theorem Chain.final_unique {base first second : CoreRevision}
    {commits : List EncodedCoreTransferCommit} (h₁ : Chain base commits first)
    (h₂ : Chain base commits second) : first = second := by
  induction h₁ with
  | nil base =>
    cases h₂
    rfl
  | cons _ _ ih =>
    obtain ⟨-, -, hrest⟩ := Chain.cons_iff.mp h₂
    exact ih hrest

/-- Importing the snapshot of a version runs its checks and gives the version back. -/
theorem importProcessTransfer_prepared {cs : Codec CoreTransferSnapshotV1} (hcs : cs.RoundTrips)
    {snapshot : CoreTransferSnapshot} (h : version.prepareProcessTransfer cs = .ok snapshot) :
    CoreVersion.importProcessTransfer cs snapshot.bytes =
      (CoreTransferSnapshotV1.fromVersion version).validate.map fun _ => version := by
  unfold CoreVersion.prepareProcessTransfer at h
  obtain ⟨bytes, hbytes, h⟩ := except_bind_eq_ok.mp h
  cases h
  obtain ⟨he, rfl, hlen⟩ := encodeTransfer_ok cs (by decide) hbytes
  unfold CoreVersion.importProcessTransfer
  rw [decodeTransfer_bytes cs hcs he hlen]
  rfl

theorem applyProcessTransferDelta_prepared (hc : c.RoundTrips) (h : Leads C version commits last)
    {delta : CoreTransferDelta}
    (hdelta : CoreTransferDelta.prepare c version.revision commits = .ok delta) :
    version.applyProcessTransferDelta C c delta.bytes = .ok last := by
  unfold CoreTransferDelta.prepare at hdelta
  split at hdelta
  · cases hdelta
  rename_i encoded hencoded
  obtain ⟨rfl, he⟩ := mapM_encode_ok hencoded
  obtain ⟨hchain, hcount, hlen, hbytes⟩ := sealPreencoded_ok hdelta
  rw [List.length_map] at hcount hlen
  rw [hbytes, Chain.final_unique hchain h.chain]
  exact applyProcessTransferDelta_frame hc h he hcount hlen

/-- **Replay reproduces the parent.**  A version whose snapshot passes its own checks is
    imported, and the delta of the batches run on it leads the import to the parent's last
    version, its revision and its whole state.  A snapshot that does not pass is refused with
    the error of the check. -/
theorem transfer_reproduces_parent {cs : Codec CoreTransferSnapshotV1} (hcs : cs.RoundTrips)
    (hc : c.RoundTrips) {version last : CoreVersion} {batches : List MutationBatch}
    {commits : List CoreCommit} {snapshot : CoreTransferSnapshot} {delta : CoreTransferDelta}
    (hrun : runBatches C version batches = .ok (last, commits))
    (hsnapshot : version.prepareProcessTransfer cs = .ok snapshot)
    (hdelta : CoreTransferDelta.prepare c version.revision (nonEmptyCommits commits) =
      .ok delta) :
    ((CoreTransferSnapshotV1.fromVersion version).validate = .ok () →
      ∃ imported, CoreVersion.importProcessTransfer cs snapshot.bytes = .ok imported ∧
        imported.applyProcessTransferDelta C c delta.bytes = .ok last) ∧
    (∀ error, (CoreTransferSnapshotV1.fromVersion version).validate = .error error →
      CoreVersion.importProcessTransfer cs snapshot.bytes = .error error) := by
  have himport := importProcessTransfer_prepared hcs hsnapshot
  constructor
  · intro hvalid
    rw [hvalid] at himport
    exact ⟨version, himport, applyProcessTransferDelta_prepared hc (runBatches_leads hrun) hdelta⟩
  · intro error hinvalid
    rw [hinvalid] at himport
    exact himport

end Wire

/-! ### Cores and their bytes -/

namespace Cbor

def ofBlockPos (pos : BlockPos) : Cbor :=
  struct [("x", .unsigned pos.x.toNat), ("y", .unsigned pos.y.toNat), ("z", .unsigned pos.z.toNat)]

def ofConfig (config : CoreConfig) : Cbor :=
  struct [("level_name", .text config.levelName), ("seed", .unsigned config.seed),
    ("max_players", .unsigned config.maxPlayers), ("view_distance", .unsigned config.viewDistance),
    ("game_mode", .unsigned config.gameMode), ("difficulty", .unsigned config.difficulty),
    ("spawn", ofBlockPos config.spawn)]

def ofMeta (worldMeta : WorldMeta) : Cbor :=
  struct [("level_name", .text worldMeta.levelName), ("seed", .unsigned worldMeta.seed),
    ("spawn", ofBlockPos worldMeta.spawn), ("dimension", .text "Overworld"),
    ("age", .unsigned worldMeta.age.toNat), ("time", .unsigned worldMeta.time.toNat),
    ("level_type", .text worldMeta.levelType), ("game_mode", .unsigned worldMeta.gameMode),
    ("difficulty", .unsigned worldMeta.difficulty), ("max_players", .unsigned worldMeta.maxPlayers)]

def ofPlayerId (playerId : PlayerId) : Cbor := .text playerId.hyphenated

def ofEntityId (entityId : EntityId) : Cbor := .unsigned entityId.value.toNat

def ofChunkPos (pos : ChunkPos) : Cbor := .text s!"{pos.x},{pos.z}"

def ofVec3 (v : Vec3) : Cbor :=
  struct [("x", ofFloat v.x), ("y", ofFloat v.y), ("z", ofFloat v.z)]

def ofBlock (block : BlockState) : Cbor :=
  struct [("key", .text block.key), ("properties", ofMap .text .text block.properties)]

def ofChunk (chunk : ChunkColumn) : Cbor :=
  struct [("pos", ofChunkPos chunk.pos),
    ("sections", ofMap (fun y => .unsigned y.toNat) (fun part =>
      struct [("y", .unsigned part.y.toNat), ("blocks", ofMap .unsigned ofBlock part.blocks)])
      chunk.sections),
    ("biomes", .array (chunk.biomes.map fun biome => .unsigned biome.toNat))]

def ofItem (item : ItemStack) : Cbor :=
  struct [("key", .text item.key), ("count", .unsigned item.count),
    ("damage", .unsigned item.damage)]

def ofSlots (slots : List (Option ItemStack)) : Cbor := .array (slots.map (ofOption ofItem))

def ofBlockEntity : BlockEntityState → Cbor
  | .container state => variant "Container" [("kind", .text state.kind),
    ("slots", ofSlots state.slots),
    ("properties", ofMap .text (fun value => .unsigned value.toNat) state.properties)]

def ofKind : EntityKind → Cbor
  | .player => .text "Player"
  | .droppedItem => .text "DroppedItem"

def ofTransform (transform : PlayerTransform) : Cbor :=
  struct [("position", ofVec3 transform.position), ("yaw", ofFloat32 transform.yaw),
    ("pitch", ofFloat32 transform.pitch), ("on_ground", .bool transform.onGround),
    ("dimension", .text "Overworld")]

def ofVitals (vitals : PlayerVitals) : Cbor :=
  struct [("health", ofFloat32 vitals.health), ("food", .unsigned vitals.food.toNat),
    ("food_saturation", ofFloat32 vitals.foodSaturation)]

def ofDroppedItem (item : DroppedItemState) : Cbor :=
  struct [("snapshot", struct [("item", ofItem item.snapshot.item),
      ("position", ofVec3 item.snapshot.position), ("velocity", ofVec3 item.snapshot.velocity)]),
    ("last_updated_at_ms", .unsigned item.lastUpdatedAtMs),
    ("pickup_allowed_at_ms", .unsigned item.pickupAllowedAtMs),
    ("despawn_at_ms", .unsigned item.despawnAtMs)]

def ofView (view : ClientView) : Cbor :=
  struct [("center", ofChunkPos view.center), ("view_distance", .unsigned view.viewDistance),
    ("loaded_chunks", .array (view.loadedChunks.toList.map ofChunkPos))]

def ofSession (session : PlayerSessionState) : Cbor :=
  struct [("entity_id", ofEntityId session.entityId), ("cursor", ofOption ofItem session.cursor),
    ("active_container", .null),
    ("next_non_player_window_id", .unsigned session.nextNonPlayerWindowId),
    ("view", ofView session.view),
    ("pending_keep_alive_id",
      ofOption (fun id => .unsigned id.toNat) session.pendingKeepAliveId),
    ("last_keep_alive_sent_at", ofOption .unsigned session.lastKeepAliveSentAt),
    ("next_keep_alive_at", .unsigned session.nextKeepAliveAt)]

def ofWorld (world : WorldStore) : Cbor :=
  struct [("config", ofConfig world.config), ("world_meta", ofMeta world.worldMeta),
    ("chunks", ofMap ofChunkPos ofChunk world.chunks),
    ("block_entities", ofMap ofBlockPos ofBlockEntity world.blockEntities),
    ("container_viewers", .map []), ("saved_players", .map [])]

/-- The snapshot of a version without open containers, mining and saved players, whose items have
    no components, whose numbers are not negative and whose floats half precision holds. -/
def ofSnapshot (version : CoreVersion) : Cbor :=
  let ⟨world, entities, sessions⟩ := version.state
  struct [("format_major", .unsigned CORE_TRANSFER_FORMAT_MAJOR),
    ("revision", .unsigned version.revision.value),
    ("world", ofWorld world),
    ("entities", struct [("entity_kinds", ofMap ofEntityId ofKind entities.entityKinds),
      ("players_by_player_id", ofMap ofPlayerId ofEntityId entities.playersByPlayerId),
      ("player_identity", ofMap ofEntityId (fun identity =>
        struct [("player_id", ofPlayerId identity.playerId), ("username", .text identity.username)])
        entities.playerIdentity),
      ("player_transform", ofMap ofEntityId ofTransform entities.playerTransform),
      ("player_vitals", ofMap ofEntityId ofVitals entities.playerVitals),
      ("player_inventory", ofMap ofEntityId (fun inventory =>
        struct [("slots", ofSlots inventory.slots), ("offhand", ofOption ofItem inventory.offhand)])
        entities.playerInventory),
      ("player_selected_hotbar", ofMap ofEntityId .unsigned entities.playerSelectedHotbar),
      ("player_active_mining", .map []),
      ("dropped_items", ofMap ofEntityId ofDroppedItem entities.droppedItems),
      ("next_entity_id", .unsigned entities.nextEntityId.toNat)]),
    ("sessions", struct [("player_sessions", ofMap ofPlayerId ofSession sessions.playerSessions),
      ("next_keep_alive_id", .unsigned sessions.nextKeepAliveId.toNat),
      ("keepalive_interval_ms", .unsigned sessions.keepaliveIntervalMs),
      ("keepalive_timeout_ms", .unsigned sessions.keepaliveTimeoutMs)])]

def ofLoginStart (connectionId : ConnectionId) (username : String) (playerId : PlayerId)
    (nowMs : Nat) : Cbor :=
  variant "Command" [("command", variant "LoginStart"
    [("connection_id", .unsigned connectionId.value), ("username", .text username),
      ("player_id", ofPlayerId playerId)]), ("now_ms", .unsigned nowMs)]

def ofCommit (commit : CoreCommit) (mutations : List Cbor) : Cbor :=
  struct [("base_revision", .unsigned commit.baseRevision.value),
    ("next_revision", .unsigned commit.nextRevision.value),
    ("requires_persistence", .bool commit.requiresPersistence), ("mutations", .array mutations)]

end Cbor

def snapshotCodec (version : CoreVersion) : Codec CoreTransferSnapshotV1 :=
  .single (.fromVersion version) (.ofSnapshot version)

theorem snapshotCodec_roundTrips (version : CoreVersion) : (snapshotCodec version).RoundTrips :=
  Codec.single_roundTrips _ _

/-- A chest with stones at the origin. -/
def chestWorld : WorldSnapshot where
  worldMeta := (ServerCore.new .default).world.worldMeta
  chunks := ExtTreeMap.ofList [(⟨0, 0⟩, (ChunkColumn.new ⟨0, 0⟩).setBlock 1 4 1
    (some (.new "minecraft:chest")))] compare
  blockEntities := ExtTreeMap.ofList [(⟨1, 4, 1⟩,
    .container ⟨"canonical:chest", [none, some (.new "minecraft:stone" 3 0)], ∅⟩)] compare
  players := ∅

def chestCore : ServerCore := .fromSnapshot { CoreConfig.default with viewDistance := 0 } chestWorld

def chestVersion : CoreVersion := .initial chestCore

def spawnStoneEffect : GameplayEffect :=
  .spawnDroppedItem ⟨0, 4, 0⟩ (.new "minecraft:stone" 1 0)

def selectHotbar : GameplayEffect := .setSelectedHotbarSlot ⟨8⟩ 3

/-- Two players log in, one of them with effects, a stone is dropped, and effects that took the
    chest for air conflict. -/
def joinAndDrop : MutationBatch :=
  ⟨[.applyCommand (.loginStart ⟨1⟩ "alice" ⟨7⟩) 5,
    .validateAndApplyLoginEffects ⟨2⟩ "bob" ⟨8⟩ ⟨5, .default, [selectHotbar]⟩,
    .validateAndApplyGameplayEffects ⟨5, .default, [spawnStoneEffect]⟩,
    .validateAndApplyGameplayEffects ⟨5, { SemanticReadSet.default with
      blockStates := ExtTreeMap.ofList [(⟨1, 4, 1⟩, none)] compare }, [spawnStoneEffect]⟩], [], true⟩

def joinAndDropCommit : CoreCommit :=
  ⟨.initial, CoreRevision.initial.next, true, [.command (.loginStart ⟨1⟩ "alice" ⟨7⟩) 5,
    .loginEffects ⟨2⟩ "bob" ⟨8⟩ 5 [selectHotbar], .gameplayEffects 5 [spawnStoneEffect]]⟩

def joinAndDropCodec : Codec CoreCommit :=
  .single joinAndDropCommit (.ofCommit joinAndDropCommit
    [.ofLoginStart ⟨1⟩ "alice" ⟨7⟩ 5,
      .variant "LoginEffects" [("connection_id", .unsigned 2), ("username", .text "bob"),
        ("player_id", .ofPlayerId ⟨8⟩), ("now_ms", .unsigned 5),
        ("effects", .array [.variant "SetSelectedHotbarSlot"
          [("player_id", .ofPlayerId ⟨8⟩), ("slot", .unsigned 3)]])],
      .variant "GameplayEffects" [("now_ms", .unsigned 5), ("effects", .array
        [.variant "SpawnDroppedItem" [("position", .ofVec3 ⟨0, 4, 0⟩),
          ("item", .ofItem (.new "minecraft:stone" 1 0))]])]])

theorem transfer_reproduces_parent_joinAndDrop :
    ∃ last snapshot delta imported,
      runBatches canonicalContent chestVersion [joinAndDrop] = .ok (last, [joinAndDropCommit]) ∧
      last.state.entities.playerSelectedHotbar[(⟨2⟩ : EntityId)]? = some 3 ∧
      chestVersion.prepareProcessTransfer (snapshotCodec chestVersion) = .ok snapshot ∧
      CoreTransferDelta.prepare joinAndDropCodec .initial [joinAndDropCommit] = .ok delta ∧
      CoreVersion.importProcessTransfer (snapshotCodec chestVersion) snapshot.bytes = .ok imported ∧
      imported.applyProcessTransferDelta canonicalContent joinAndDropCodec delta.bytes =
        .ok last := by
  have hrun : endsWith (fun ran => decide (ran.2 = [joinAndDropCommit] ∧
      ran.1.state.entities.playerSelectedHotbar[(⟨2⟩ : EntityId)]? = some 3))
      (runBatches canonicalContent chestVersion [joinAndDrop]) = true := by decide +kernel
  obtain ⟨⟨last, commits⟩, hlast, hchecks⟩ := endsWith_iff.mp hrun
  obtain ⟨rfl, hhotbar⟩ := of_decide_eq_true hchecks
  have hsnapshot : chestVersion.prepareProcessTransfer (snapshotCodec chestVersion) =
      .ok ⟨.initial, (Cbor.ofSnapshot chestVersion).bytes⟩ := by decide +kernel
  have hdelta : CoreTransferDelta.prepare joinAndDropCodec .initial [joinAndDropCommit] =
      .ok ⟨.initial, CoreRevision.initial.next, deltaFrame .initial CoreRevision.initial.next
        [joinAndDropCommit.encoded joinAndDropCodec]⟩ := by decide +kernel
  obtain ⟨imported, himport, hreplay⟩ := (transfer_reproduces_parent
    (Codec.single_roundTrips _ _) (Codec.single_roundTrips _ _) hlast hsnapshot hdelta).1
    (by decide +kernel)
  exact ⟨_, _, _, imported, hlast, hhotbar, hsnapshot, hdelta, himport, hreplay⟩

/-- A core that has given out every entity id but the last. -/
def lastEntityIdVersion : CoreVersion :=
  .initial { ServerCore.new .default with entities.nextEntityId := i32Max }

def spawnStone : MutationBatch :=
  ⟨[.validateAndApplyGameplayEffects
    ⟨0, .default, [.spawnDroppedItem ⟨0, 0, 0⟩ (.new "minecraft:stone" 1 0)]⟩], [], true⟩

/-- The core after the last id was given out: the counter stays where it is. -/
def occupiedVersion : CoreVersion where
  revision := CoreRevision.initial.next
  state :=
    { lastEntityIdVersion.state with
      entities.entityKinds := (∅ : BTreeMap EntityId EntityKind).insert ⟨i32Max⟩ .droppedItem
      entities.droppedItems := (∅ : BTreeMap EntityId DroppedItemState).insert ⟨i32Max⟩
        ⟨⟨.new "minecraft:stone" 1 0, ⟨0, 0, 0⟩, ⟨0, 0, 0⟩⟩, 0, 500, 300000⟩ }

/-- The version after a core that can be imported spawned an item is refused by the import. -/
theorem occupied_entity_id_is_refused :
    (CoreTransferSnapshotV1.fromVersion lastEntityIdVersion).validate = .ok () ∧
      (∃ commit, runBatches canonicalContent lastEntityIdVersion [spawnStone] =
        .ok (occupiedVersion, [commit])) ∧
      (snapshotCodec occupiedVersion).RoundTrips ∧
      ∃ snapshot, occupiedVersion.prepareProcessTransfer (snapshotCodec occupiedVersion) =
          .ok snapshot ∧
        CoreVersion.importProcessTransfer (snapshotCodec occupiedVersion) snapshot.bytes =
          .error (.invalidState "next entity id is already occupied") := by
  refine ⟨by decide +kernel, ?_, snapshotCodec_roundTrips _, ?_⟩
  · refine ⟨⟨.initial, CoreRevision.initial.next, true, [.gameplayEffects 0
      [.spawnDroppedItem ⟨0, 0, 0⟩ (.new "minecraft:stone" 1 0)]]⟩, ?_⟩
    decide +kernel
  · have hsnapshot : ∃ snapshot,
        occupiedVersion.prepareProcessTransfer (snapshotCodec occupiedVersion) = .ok snapshot := by
      refine ⟨⟨CoreRevision.initial.next,
        (snapshotCodec occupiedVersion).bytes (.fromVersion occupiedVersion)⟩, ?_⟩
      decide +kernel
    obtain ⟨snapshot, hsnapshot⟩ := hsnapshot
    refine ⟨snapshot, hsnapshot, ?_⟩
    rw [importProcessTransfer_prepared (snapshotCodec_roundTrips _) hsnapshot]
    decide +kernel

end RevyCraft
