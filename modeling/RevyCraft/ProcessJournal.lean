/-
  RevyCraft/ProcessJournal.lean
  =============================
  **The cutover journal** (`core_store/journal.rs`): what the core store
  retains of its commits while a successor process imports a snapshot.

  The process journal is a sliding window over encoded, adjacent commits.
  Three things shrink it — the entry count, the byte budget, and a commit too
  large for the per-entry limit, which empties the window — and each moves
  the floor.  The window theorem at the end of the file says that none of
  them loses the correspondence between floor, retained commits and the
  active revision, and therefore that a delta is refused exactly below the
  floor and complete above it.

  The eviction loop is modelled with its two ways of going wrong (a `usize`
  subtraction below zero, and a turn that removes nothing and so never ends),
  so that their absence is a theorem.  `serde_json`, which only sizes the
  events of the same-process journal, is the parameter `jsonLen`.
-/
import RevyCraft.TransferWire

namespace RevyCraft

def RESYNC_EVENT_LIMIT : Nat := 65536
def RESYNC_BYTE_LIMIT : Nat := 32 * 1024 * 1024
def PROCESS_ENTRY_BYTE_LIMIT : Nat := 2 * 1024 * 1024
def PROCESS_BYTE_LIMIT : Nat := 64 * 1024 * 1024

/-! ### The journal state -/

inductive JournalError where
  | config (message : String)
  | cutoverOutpaced (resource : String) (stagedRevision earliestRevision : Nat)
  | cutoverEventEncoding (message : String)

structure ResyncJournal (ε : Type) where
  baseRevision : CoreRevision
  events : List ε
  eventBytes : Nat
  outcome : Except JournalError Unit

structure ProcessJournal where
  floor : CoreRevision
  commits : List EncodedCoreTransferCommit
  bytes : Nat
  failure : Option CoreTransferError

inductive CoreJournal (ε : Type) where
  | inactive
  | resync (journal : ResyncJournal ε)
  | process (journal : ProcessJournal)
  | stoppedResync (events : List ε)
  | stoppedProcess (commits : List EncodedCoreTransferCommit)

inductive ProcessDeltaSeal where
  | ready (descriptor : CoreTransferDeltaDescriptor)
  | outpaced (earliestRevision : CoreRevision)

/-- What a run of the eviction loop can do instead of finishing. -/
inductive LoopFault where
  | underflow
  | diverges

/-! ### The process journal -/

/-- The condition of the eviction loop.  `PROCESS_BYTE_LIMIT - self.bytes` is only evaluated
    when the entry count leaves room. -/
def mustEvict (incoming count bytes : Nat) : Except LoopFault Bool :=
  if count = MAX_COMMITS then .ok true
  else if bytes > PROCESS_BYTE_LIMIT then .error .underflow
  else .ok (decide (incoming > PROCESS_BYTE_LIMIT - bytes))

/-- The eviction loop of `ProcessJournal::retain`, on the window, its floor and its byte count.
    With an empty window a turn of the loop changes nothing, so it would never leave. -/
def evictLoop (incoming : Nat) : List EncodedCoreTransferCommit → CoreRevision → Nat →
    Except LoopFault (List EncodedCoreTransferCommit × CoreRevision × Nat)
  | [], floor, bytes =>
    match mustEvict incoming 0 bytes with
    | .error fault => .error fault
    | .ok true => .error .diverges
    | .ok false => .ok ([], floor, bytes)
  | expired :: rest, floor, bytes =>
    match mustEvict incoming (rest.length + 1) bytes with
    | .error fault => .error fault
    | .ok true =>
      if bytes < expired.encodedLen then .error .underflow
      else evictLoop incoming rest expired.nextRevision (bytes - expired.encodedLen)
    | .ok false => .ok (expired :: rest, floor, bytes)

variable {a base : CoreRevision} {recorded : List EncodedCoreTransferCommit} {j : ProcessJournal}

section Journal

variable {μ ε : Type} (c : Codec (CoreTransferCommit μ)) (jsonLen : ε → Except String Nat)

/-- `ProcessJournal::retain`. -/
def ProcessJournal.retain (j : ProcessJournal) (transfer : CoreTransferCommit μ) :
    Except LoopFault (Except CoreTransferError ProcessJournal) :=
  match transfer.encode c PROCESS_ENTRY_BYTE_LIMIT with
  | .error (.budgetExceeded _ _) =>
    .ok (.ok { j with commits := [], bytes := 0, floor := transfer.nextRevision })
  | .error error => .ok (.error error)
  | .ok encoded =>
    match evictLoop encoded.encodedLen j.commits j.floor j.bytes with
    | .error fault => .error fault
    | .ok (commits, floor, bytes) =>
      .ok (.ok { j with
        commits := commits ++ [encoded], floor := floor, bytes := bytes + encoded.encodedLen })

/-- The sizing loop of `ResyncJournal::retain`. -/
def resyncSize (outpaced : JournalError) : Nat → List ε → Except JournalError Nat
  | size, [] => .ok size
  | size, event :: rest =>
    match jsonLen event with
    | .error message => .error (.cutoverEventEncoding message)
    | .ok len =>
      let size := min (size + len) u64Max
      if size > RESYNC_BYTE_LIMIT then .error outpaced else resyncSize outpaced size rest

/-- `ResyncJournal::retain`. -/
def ResyncJournal.retain (j : ResyncJournal ε) (revision : CoreRevision) (events : List ε) :
    Except JournalError (ResyncJournal ε) :=
  if events.isEmpty then .ok j
  else
    let outpaced := JournalError.cutoverOutpaced "core resync events" j.baseRevision.value
      revision.value
    if events.length > RESYNC_EVENT_LIMIT - j.events.length then .error outpaced
    else
      match resyncSize jsonLen outpaced j.eventBytes events with
      | .error error => .error error
      | .ok size => .ok { j with events := j.events ++ events, eventBytes := size }

namespace CoreJournal

/-- `CoreJournal::process`. -/
def newProcess (base : CoreRevision) : CoreJournal ε := .process ⟨base, [], 0, none⟩

/-- `CoreJournal::record`. -/
def record (journal : CoreJournal ε) (revision : CoreRevision) (events : List ε)
    (transfer : CoreTransferCommit μ) : Except LoopFault (CoreJournal ε) :=
  match journal with
  | .resync j =>
    match j.outcome with
    | .error _ => .ok (.resync j)
    | .ok _ =>
      match j.retain jsonLen revision events with
      | .ok j' => .ok (.resync j')
      | .error error => .ok (.resync { j with outcome := .error error })
  | .process j =>
    match j.failure with
    | some _ => .ok (.process j)
    | none =>
      match j.retain c transfer with
      | .error fault => .error fault
      | .ok (.ok j') => .ok (.process j')
      | .ok (.error error) => .ok (.process { j with failure := some error })
  | .inactive => .ok .inactive
  | .stoppedResync _ => .ok .inactive
  | .stoppedProcess _ => .ok .inactive

/-- `CoreJournal::write_process_delta`: the seal and the bytes written. -/
def writeProcessDelta (journal : CoreJournal ε) (revision : CoreRevision) :
    Except CoreTransferError (ProcessDeltaSeal × ByteArr) :=
  match journal with
  | .process j =>
    match j.failure with
    | some error => .error error
    | none =>
      if revision < j.floor then .ok (.outpaced j.floor, [])
      else
        match sealPreencodedInto revision
            (j.commits.filter fun commit => decide (revision < commit.nextRevision)) with
        | .error error => .error error
        | .ok (descriptor, bytes) => .ok (.ready descriptor, bytes)
  | _ => .error (.invalidState "process core retention is not active")

/-- `CoreJournal::stop`. -/
def stop : CoreJournal ε → CoreJournal ε
  | .resync j => .stoppedResync j.events
  | .process j => .stoppedProcess j.commits
  | stopped => stopped

/-- One call of `record`: the revision, the published events and the committed mutation. -/
structure Call (μ ε : Type) where
  revision : CoreRevision
  events : List ε
  transfer : CoreTransferCommit μ

/-- A sequence of `record` calls. -/
def recordAll (journal : CoreJournal ε) : List (Call μ ε) → Except LoopFault (CoreJournal ε)
  | [] => .ok journal
  | call :: rest =>
    match journal.record c jsonLen call.revision call.events call.transfer with
    | .error fault => .error fault
    | .ok journal' => journal'.recordAll rest

end CoreJournal

/-! ### The window invariant -/

/-- The recorded commits as the wire would carry them. -/
def encodedCalls (calls : List (CoreJournal.Call μ ε)) : List EncodedCoreTransferCommit :=
  calls.map fun call => call.transfer.encoded c

/-- The window of a process journal that has recorded `recorded` from `base` up to the active
    revision `a`: the retained commits are a chain from the floor to `a`, they are the tail of
    what was recorded, and the byte count and both limits are exact. -/
structure ProcessJournal.Window (base a : CoreRevision)
    (recorded : List EncodedCoreTransferCommit) (j : ProcessJournal) : Prop where
  healthy : j.failure = none
  bytes_eq : j.bytes = encodedTotal j.commits
  bytes_le : j.bytes ≤ PROCESS_BYTE_LIMIT
  count_le : j.commits.length ≤ MAX_COMMITS
  contiguous : Chain j.floor j.commits a
  suffix : ∃ dropped, recorded = dropped ++ j.commits ∧ Chain base dropped j.floor

/-- The eviction loop ends, below both limits, having removed a prefix of the window and
    moved the floor to where that prefix ends. -/
theorem evictLoop_spec {incoming : Nat} (hin : incoming ≤ PROCESS_BYTE_LIMIT)
    {commits : List EncodedCoreTransferCommit} {floor : CoreRevision} {bytes : Nat}
    (hb : bytes = encodedTotal commits) (hle : bytes ≤ PROCESS_BYTE_LIMIT)
    (hcount : commits.length ≤ MAX_COMMITS) (h : Chain floor commits a) :
    ∃ dropped kept floor', commits = dropped ++ kept ∧ Chain floor dropped floor' ∧
      Chain floor' kept a ∧ kept.length < MAX_COMMITS ∧
      encodedTotal kept + incoming ≤ PROCESS_BYTE_LIMIT ∧
      evictLoop incoming commits floor bytes = .ok (kept, floor', encodedTotal kept) := by
  induction commits generalizing floor bytes with
  | nil =>
    have hb0 : bytes = 0 := by simpa using hb
    subst hb0
    refine ⟨[], [], floor, rfl, .nil _, h, by decide, by simpa using hin, ?_⟩
    have hfit : ¬ incoming > PROCESS_BYTE_LIMIT - 0 := by omega
    have hnone : ¬ 0 = MAX_COMMITS := by decide
    have hzero : ¬ 0 > PROCESS_BYTE_LIMIT := by omega
    simp only [evictLoop, mustEvict, if_neg hnone, if_neg hzero, decide_eq_false hfit]
    rfl
  | cons expired rest ih =>
    obtain ⟨hbase, hnext, hrest⟩ := Chain.cons_iff.mp h
    rw [encodedTotal_cons] at hb
    rw [List.length_cons] at hcount
    -- one more turn: the oldest entry leaves and the floor becomes its next revision
    have hturn : mustEvict incoming (rest.length + 1) bytes = .ok true →
        ∃ dropped kept floor', expired :: rest = dropped ++ kept ∧ Chain floor dropped floor' ∧
          Chain floor' kept a ∧ kept.length < MAX_COMMITS ∧
          encodedTotal kept + incoming ≤ PROCESS_BYTE_LIMIT ∧
          evictLoop incoming (expired :: rest) floor bytes =
            .ok (kept, floor', encodedTotal kept) := by
      intro hmust
      obtain ⟨dropped, kept, floor', happ, hd, hk, hlen, hfit, heq⟩ :=
        @ih expired.nextRevision (bytes - expired.encodedLen) (by omega) (by omega) (by omega) hrest
      refine ⟨expired :: dropped, kept, floor', by rw [happ]; rfl,
        Chain.cons_iff.mpr ⟨hbase, hnext, hd⟩, hk, hlen, hfit, ?_⟩
      have hnounder : ¬ bytes < expired.encodedLen := by omega
      simp only [evictLoop, hmust, if_neg hnounder, heq]
    by_cases hfull : rest.length + 1 = MAX_COMMITS
    · exact hturn (by simp only [mustEvict, if_pos hfull])
    · have hroom : ¬ bytes > PROCESS_BYTE_LIMIT := by omega
      by_cases hbig : incoming > PROCESS_BYTE_LIMIT - bytes
      · exact hturn (by simp only [mustEvict, if_neg hfull, if_neg hroom, decide_eq_true hbig])
      · refine ⟨[], expired :: rest, floor, rfl, .nil _, h, ?_, ?_, ?_⟩
        · rw [List.length_cons]
          omega
        · rw [encodedTotal_cons]
          omega
        · simp only [evictLoop, mustEvict, if_neg hfull, if_neg hroom, decide_eq_false hbig]
          rw [hb, encodedTotal_cons]

theorem encode_spec {transfer : CoreTransferCommit μ} (he : c.Encodable transfer) :
    (transfer.encode c PROCESS_ENTRY_BYTE_LIMIT = .ok (transfer.encoded c) ∧
        (transfer.encoded c).encodedLen ≤ PROCESS_ENTRY_BYTE_LIMIT) ∨
      ∃ actual limit, transfer.encode c PROCESS_ENTRY_BYTE_LIMIT =
        .error (.budgetExceeded actual limit) := by
  have hmin : min PROCESS_ENTRY_BYTE_LIMIT MAX_CORE_TRANSFER_BYTES = PROCESS_ENTRY_BYTE_LIMIT := by
    decide
  unfold CoreTransferCommit.encode
  rw [hmin]
  rcases encodeTransfer_spec c he (show PROCESS_ENTRY_BYTE_LIMIT ≤ u64Max by decide) with
    ⟨hlen, h⟩ | ⟨_, actual, h⟩
  · left
    rw [h]
    exact ⟨rfl, hlen⟩
  · right
    rw [h]
    exact ⟨actual, _, rfl⟩

/-- A commit that is too large for an entry empties the window and moves the floor behind it. -/
theorem ProcessJournal.Window.retain_emptied (hw : j.Window base a recorded)
    {transfer : CoreTransferCommit μ} {actual limit : Nat}
    (henc : transfer.encode c PROCESS_ENTRY_BYTE_LIMIT = .error (.budgetExceeded actual limit))
    (hb : transfer.baseRevision = a) (hn : transfer.nextRevision = a.next) :
    ∃ j', j.retain c transfer = .ok (.ok j') ∧ j'.floor = transfer.nextRevision ∧
      j'.Window base a.next (recorded ++ [transfer.encoded c]) := by
  have hlast : Chain a [transfer.encoded c] a.next :=
    Chain.cons_iff.mpr ⟨hb, hn, hn ▸ .nil _⟩
  obtain ⟨dropped, hrec, hdrop⟩ := hw.suffix
  refine ⟨{ j with commits := [], bytes := 0, floor := transfer.nextRevision }, ?_, rfl, ?_⟩
  · simp only [ProcessJournal.retain, henc]
  · exact
      { healthy := hw.healthy
        bytes_eq := rfl
        bytes_le := Nat.zero_le _
        count_le := Nat.zero_le _
        contiguous := by rw [hn]; exact .nil _
        suffix := by
          refine ⟨recorded ++ [transfer.encoded c], by simp, ?_⟩
          rw [hrec, hn]
          exact (hdrop.append hw.contiguous).append hlast }

/-- A commit that fits an entry stands at the end of the window, whose floor moves at most up. -/
theorem ProcessJournal.Window.retain_encoded (hw : j.Window base a recorded)
    {transfer : CoreTransferCommit μ}
    (henc : transfer.encode c PROCESS_ENTRY_BYTE_LIMIT = .ok (transfer.encoded c))
    (hlen : (transfer.encoded c).encodedLen ≤ PROCESS_ENTRY_BYTE_LIMIT)
    (hb : transfer.baseRevision = a) (hn : transfer.nextRevision = a.next) :
    ∃ j', j.retain c transfer = .ok (.ok j') ∧ j.floor ≤ j'.floor ∧
      j'.Window base a.next (recorded ++ [transfer.encoded c]) := by
  have hlast : Chain a [transfer.encoded c] a.next :=
    Chain.cons_iff.mpr ⟨hb, hn, hn ▸ .nil _⟩
  obtain ⟨dropped, hrec, hdrop⟩ := hw.suffix
  have hsmall : PROCESS_ENTRY_BYTE_LIMIT ≤ PROCESS_BYTE_LIMIT := by decide
  obtain ⟨gone, kept, floor', happ, hgone, hkept, hcount, hfit, hloop⟩ :=
    evictLoop_spec (Nat.le_trans hlen hsmall) hw.bytes_eq hw.bytes_le hw.count_le hw.contiguous
  refine ⟨{ j with
    commits := kept ++ [transfer.encoded c], floor := floor',
    bytes := encodedTotal kept + (transfer.encoded c).encodedLen }, ?_, hgone.le, ?_⟩
  · simp only [ProcessJournal.retain, henc, hloop]
  · exact
      { healthy := hw.healthy
        bytes_eq := by simp
        bytes_le := hfit
        count_le := by simpa using Nat.succ_le_of_lt hcount
        contiguous := hkept.append hlast
        suffix := ⟨dropped ++ gone, by rw [hrec, happ]; simp, hdrop.append hgone⟩ }

theorem ProcessJournal.Window.retain (hw : j.Window base a recorded)
    {transfer : CoreTransferCommit μ} (he : c.Encodable transfer) (hb : transfer.baseRevision = a)
    (hn : transfer.nextRevision = a.next) : ∃ j', j.retain c transfer = .ok (.ok j') ∧
      j'.Window base a.next (recorded ++ [transfer.encoded c]) := by
  rcases encode_spec c he with ⟨henc, hlen⟩ | ⟨actual, limit, henc⟩
  · obtain ⟨j', hretain, -, hwindow⟩ := hw.retain_encoded c henc hlen hb hn
    exact ⟨j', hretain, hwindow⟩
  · obtain ⟨j', hretain, -, hwindow⟩ := hw.retain_emptied c henc hb hn
    exact ⟨j', hretain, hwindow⟩

/-- The window is kept by every sequence of `record` calls with adjacent, encodable commits. -/
theorem recordAll_window {final : CoreRevision} (hw : j.Window base a recorded)
    (calls : List (CoreJournal.Call μ ε)) (hadj : Chain a (encodedCalls c calls) final)
    (henc : ∀ call ∈ calls, c.Encodable call.transfer) :
    ∃ j', CoreJournal.recordAll c jsonLen (.process j) calls = .ok (.process j') ∧
      j'.Window base final (recorded ++ encodedCalls c calls) := by
  induction calls generalizing a recorded j with
  | nil =>
    cases hadj
    exact ⟨j, rfl, by simpa [encodedCalls] using hw⟩
  | cons call rest ih =>
    obtain ⟨hb, hn, hrest⟩ := Chain.cons_iff.mp hadj
    obtain ⟨j', hret, hw'⟩ := hw.retain c (henc call List.mem_cons_self) hb hn
    rw [show ((call.transfer.encoded c).nextRevision) = a.next from hn] at hrest
    obtain ⟨j'', hall, hw''⟩ := ih hw' hrest fun call' h => henc call' (List.mem_cons_of_mem _ h)
    refine ⟨j'', ?_, by simpa [encodedCalls, List.append_assoc] using hw''⟩
    simp only [CoreJournal.recordAll, CoreJournal.record, hw.healthy, hret]
    exact hall

theorem ProcessJournal.Window.started (h : Chain base recorded a) :
    (ProcessJournal.mk a [] 0 none).Window base a recorded where
  healthy := rfl
  bytes_eq := rfl
  bytes_le := Nat.zero_le _
  count_le := Nat.zero_le _
  contiguous := .nil _
  suffix := ⟨recorded, (List.append_nil _).symm, h⟩

/-! ### Sealing from the window -/

/-- At or above the floor, the retained commits after `r` are the recorded commits after `r`:
    everything evicted ends at or below the floor. -/
theorem ProcessJournal.Window.filter_recorded (hw : j.Window base a recorded) {r : CoreRevision}
    (hr : j.floor ≤ r) : recorded.filter (fun e => r < e.nextRevision) =
      j.commits.filter fun e => r < e.nextRevision := by
  obtain ⟨dropped, hrec, hdrop⟩ := hw.suffix
  have hnone : dropped.filter (fun e => r < e.nextRevision) = [] := by
    apply List.filter_eq_nil_iff.mpr
    intro e he
    have hle := (hdrop.next_le he).2
    simp only [CoreRevision.lt_def, CoreRevision.le_def, decide_eq_true_eq] at hle hr ⊢
    omega
  rw [hrec, List.filter_append, hnone, List.nil_append]

theorem ProcessJournal.Window.writeProcessDelta_ready (hw : j.Window base a recorded)
    {r : CoreRevision} (hfloor : j.floor ≤ r) (hr : r ≤ a) :
    CoreJournal.writeProcessDelta (.process j : CoreJournal ε) r =
      .ok (.ready ⟨r, a, (deltaFrame r a (recorded.filter fun e => r < e.nextRevision)).length⟩,
        deltaFrame r a (recorded.filter fun e => r < e.nextRevision)) := by
  have hbudget : CORE_DELTA_HEADER_BYTES + 4 * MAX_COMMITS + PROCESS_BYTE_LIMIT
      ≤ MAX_CORE_TRANSFER_BYTES := by decide
  have hcount := List.length_filter_le (fun e => r < e.nextRevision) j.commits
  have htotal := encodedTotal_filter_le (fun e => r < e.nextRevision) j.commits
  have hlimits := And.intro hw.count_le hw.bytes_le
  rw [hw.bytes_eq] at hlimits
  have hseal := sealPreencodedInto_chain (hw.contiguous.filter_after hfloor hr) (by omega)
    (by omega)
  rw [← length_deltaFrame r a] at hseal
  simp only [CoreJournal.writeProcessDelta, hw.healthy,
    if_neg (show ¬ r < j.floor from Nat.not_lt.mpr hfloor), hseal, hw.filter_recorded hfloor]

/-- **The process journal window is exact.**  After any sequence of adjacent, encodable commits
    recorded from `base` up to `a`, the eviction loop never faulted, the window is exact, and a
    delta from `r` is refused exactly below the floor and otherwise carries exactly the recorded
    commits after `r`, in order, from `r` to `a`. -/
theorem recordAll_process_delta_exact (base a : CoreRevision) (calls : List (CoreJournal.Call μ ε))
    (hadj : Chain base (encodedCalls c calls) a)
    (henc : ∀ call ∈ calls, c.Encodable call.transfer) :
    ∃ j, CoreJournal.recordAll c jsonLen (CoreJournal.newProcess base) calls = .ok (.process j) ∧
      j.Window base a (encodedCalls c calls) ∧
      ∀ r ≤ a,
        ((∃ earliest, CoreJournal.writeProcessDelta (.process j : CoreJournal ε) r =
            .ok (.outpaced earliest, [])) ↔ r < j.floor) ∧
        (¬ r < j.floor → ∃ frame,
          frame = deltaFrame r a ((encodedCalls c calls).filter fun e => r < e.nextRevision) ∧
          CoreJournal.writeProcessDelta (.process j : CoreJournal ε) r =
            .ok (.ready ⟨r, a, frame.length⟩, frame) ∧
          Chain r ((encodedCalls c calls).filter fun e => r < e.nextRevision) a) := by
  have hinit : (ProcessJournal.mk base [] 0 none).Window base base [] := .started (.nil _)
  obtain ⟨j, hrun, hw⟩ := recordAll_window c jsonLen hinit calls hadj henc
  rw [List.nil_append] at hw
  refine ⟨j, hrun, hw, ?_⟩
  intro r hr
  refine ⟨⟨?_, ?_⟩, ?_⟩
  · rintro ⟨earliest, hout⟩
    by_contra hfloor
    rw [hw.writeProcessDelta_ready (Nat.le_of_not_lt hfloor) hr] at hout
    cases hout
  · intro hlt
    refine ⟨j.floor, ?_⟩
    simp only [CoreJournal.writeProcessDelta, hw.healthy, if_pos hlt]
  · intro hfloor
    have hfloor := Nat.le_of_not_lt hfloor
    obtain ⟨dropped, _, hdrop⟩ := hw.suffix
    exact ⟨_, rfl, hw.writeProcessDelta_ready hfloor hr,
      hadj.filter_after (Nat.le_trans hdrop.le hfloor) hr⟩

end Journal

/-! ### Two built-in ticks -/

/-- A CBOR text of fewer than 24 ASCII characters. -/
def cborText (text : String) : ByteArr :=
  UInt8.ofNat (0x60 + text.length) :: text.toList.map fun ch => UInt8.ofNat ch.toNat

/-- What `ciborium` writes for a commit of one `BuiltinTick`, when its numbers are below 24. -/
def tickCommitBytes (commit : CoreTransferCommit Nat) (nowMs : Nat) : ByteArr :=
  [0xa4] ++ cborText "base_revision" ++ [UInt8.ofNat commit.baseRevision.value] ++
    cborText "next_revision" ++ [UInt8.ofNat commit.nextRevision.value] ++
    cborText "requires_persistence" ++ [if commit.requiresPersistence then 0xf5 else 0xf4] ++
    cborText "mutations" ++ [0x81, 0xa1] ++ cborText "BuiltinTick" ++ [0xa1] ++
    cborText "now_ms" ++ [UInt8.ofNat nowMs]

/-- The codec on commits of one tick, given by its `now_ms`. -/
def tickCodec : Codec (CoreTransferCommit Nat) where
  intoWriter := fun commit =>
    match commit.mutations with
    | [nowMs] =>
      if commit.baseRevision.value < 24 ∧ commit.nextRevision.value < 24 ∧ nowMs < 24 then
        ([tickCommitBytes commit nowMs], none)
      else ([], some "number of more than one byte")
    | _ => ([], some "not a single tick")
  fromReader := fun _ => .error "write only"

def revisionOne : CoreRevision := CoreRevision.initial.next
def revisionTwo : CoreRevision := revisionOne.next

/-- Two ticks, at 5 ms and 10 ms. -/
def tickCalls : List (CoreJournal.Call Nat Unit) :=
  [⟨revisionOne, [], ⟨.initial, revisionOne, false, [5]⟩⟩,
    ⟨revisionTwo, [], ⟨revisionOne, revisionTwo, false, [10]⟩⟩]

theorem recordAll_process_delta_exact_ticks :
    ∃ j, CoreJournal.recordAll tickCodec (fun _ => .ok 0) (CoreJournal.newProcess .initial)
        tickCalls = .ok (.process j) ∧
      ∃ frame, frame = deltaFrame revisionOne revisionTwo ((encodedCalls tickCodec tickCalls).tail) ∧
        CoreJournal.writeProcessDelta (.process j : CoreJournal Unit) revisionOne =
          .ok (.ready ⟨revisionOne, revisionTwo, frame.length⟩, frame) := by
  obtain ⟨j, hrun, hw, hdelta⟩ := recordAll_process_delta_exact tickCodec (fun _ => .ok 0) .initial
    revisionTwo tickCalls
    (Chain.cons_iff.mpr ⟨rfl, rfl, Chain.cons_iff.mpr ⟨rfl, rfl, .nil _⟩⟩)
    (by
      intro call hcall
      rcases List.mem_cons.mp hcall with rfl | hcall
      · rfl
      · obtain rfl := List.mem_singleton.mp hcall
        rfl)
  have hfloor : j.floor = .initial := by
    have hrun' : CoreJournal.recordAll tickCodec (fun _ => .ok 0) (CoreJournal.newProcess .initial)
        tickCalls = .ok (.process ⟨.initial, encodedCalls tickCodec tickCalls,
          encodedTotal (encodedCalls tickCodec tickCalls), none⟩) := by rfl
    rw [hrun] at hrun'
    cases hrun'
    rfl
  obtain ⟨frame, hframe, hwritten, -⟩ := (hdelta revisionOne (by decide)).2 (by
    rw [hfloor]
    decide)
  exact ⟨j, hrun, frame, hframe, hwritten⟩

end RevyCraft
