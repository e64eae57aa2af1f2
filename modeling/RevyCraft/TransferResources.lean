/-
  RevyCraft/TransferResources.lean
  ================================
  **The resource table of an executable transfer** and the validation that a child process
  makes of it before it reads a byte of the arena.

  * `validateResources`: the checks in the order of the source; the ranges are compared
    after an unstable sort, and only with their neighbours.
  * `Unambiguous`: what a table has to be for each byte and each handle to be one
    resource's.
  * `validateResources_verdict`: the tables accepted are the unambiguous ones, whatever
    the sort does with equal starts and in whatever order the descriptors come.
-/
import Mathlib
import RevyCraft.Program
import RevyCraft.Ranges

namespace RevyCraft.Transfer

open RevyCraft.Ranges

def maxResourceDescriptors : Nat := 16384

/-! ### The messages -/

inductive ResourceKindV1 where
  | coreSnapshot
  | coreJournal
  | sessionDirectory
  | sessionState
  | tcpStream
  | tcpListener
  | udpListener
  | rakNetState
  | adminResource
  | onlineAuthKeys
  deriving DecidableEq

namespace ResourceKindV1

def tag : ResourceKindV1 → Int32
  | coreSnapshot => 0
  | coreJournal => 1
  | sessionDirectory => 2
  | sessionState => 3
  | tcpStream => 4
  | tcpListener => 5
  | udpListener => 6
  | rakNetState => 7
  | adminResource => 8
  | onlineAuthKeys => 9

def all : List ResourceKindV1 :=
  [coreSnapshot, coreJournal, sessionDirectory, sessionState, tcpStream, tcpListener,
    udpListener, rakNetState, adminResource, onlineAuthKeys]

/-- `ResourceKindV1::try_from`. -/
def tryFrom (kind : Int32) : Option ResourceKindV1 := all.find? fun k => decide (k.tag = kind)

theorem tryFrom_eq_some {tag : Int32} {kind : ResourceKindV1} :
    tryFrom tag = some kind ↔ kind.tag = tag := by
  constructor
  · intro h
    simpa using List.find?_some h
  · rintro rfl
    cases kind <;> rfl

end ResourceKindV1

structure ResourceDescriptorV1 where
  resourceId : UInt64
  kind : Int32
  arenaOffset : UInt64
  arenaLength : UInt64
  nativeHandleIndex : Option UInt32
  logicalId : Option UInt64
  deriving DecidableEq

inductive TransferProtocolError where
  | invalidPrestagePhase (phase : Int32)
  | frozenCoreSnapshot
  | invalidResourceRange (resourceId : UInt64)
  | tooManyResources (actual limit : Nat)
  | invalidResourceId
  | duplicateResourceId (resourceId : UInt64)
  | invalidResourceKind (resourceId : UInt64) (kind : Int32)
  | invalidNativeHandleIndex (resourceId : UInt64) (index count : UInt32)
  | duplicateNativeHandleIndex (index : UInt32)
  | missingNativeSocketHandle (resourceId : UInt64)
  | missingConnectionId (resourceId : UInt64)
  | unexpectedConnectionId (resourceId : UInt64)
  | unassignedNativeHandles (declared : UInt32) (assigned : Nat)
  | overlappingResourceRange (firstResourceId secondResourceId : UInt64)
  deriving DecidableEq

/-- `if condition { return Err(error) }`. -/
def failIf (condition : Prop) [Decidable condition] (error : TransferProtocolError) :
    Except TransferProtocolError Unit :=
  if condition then .error error else .ok ()

@[simp] theorem failIf_eq_ok {condition : Prop} [Decidable condition]
    {error : TransferProtocolError} {u : Unit} :
    failIf condition error = .ok u ↔ ¬ condition := by
  unfold failIf
  split <;> simp_all

/-! ### The validation -/

/-- An entry of `ranges`. -/
structure ArenaRange where
  start : UInt64
  stop : UInt64
  resourceId : UInt64
  deriving DecidableEq

/-- What the loop over the descriptors has collected. -/
structure Seen where
  resourceIds : List UInt64
  nativeHandleIndices : List UInt32
  ranges : List ArenaRange
  deriving DecidableEq

/-- `is_none_or(|connection_id| connection_id == 0)`. -/
def lacksConnection (logicalId : Option UInt64) : Bool :=
  logicalId.all fun connectionId => decide (connectionId = 0)

/-- The `match` on the kind of a descriptor. -/
def checkKind (resource : ResourceDescriptorV1) :
    ResourceKindV1 → Except TransferProtocolError Unit
  | .tcpStream => do
      failIf (resource.nativeHandleIndex.isNone) (.missingNativeSocketHandle resource.resourceId)
      failIf (lacksConnection resource.logicalId) (.missingConnectionId resource.resourceId)
  | .tcpListener | .udpListener => do
      failIf (resource.nativeHandleIndex.isNone) (.missingNativeSocketHandle resource.resourceId)
      failIf (resource.logicalId.isSome) (.unexpectedConnectionId resource.resourceId)
  | .sessionState =>
      failIf (lacksConnection resource.logicalId) (.missingConnectionId resource.resourceId)
  | .coreSnapshot | .coreJournal | .sessionDirectory | .rakNetState | .adminResource
  | .onlineAuthKeys =>
      failIf (resource.logicalId.isSome) (.unexpectedConnectionId resource.resourceId)

/-- The end of a descriptor's range, when it is one of the arena's. -/
def checkRange (arenaUsed : Option UInt64) (resource : ResourceDescriptorV1) :
    Except TransferProtocolError UInt64 :=
  if resource.arenaOffset.toNat + resource.arenaLength.toNat < 2 ^ 64 then
    let stop := resource.arenaOffset + resource.arenaLength
    if arenaUsed.any fun used => decide (used < stop) then
      .error (.invalidResourceRange resource.resourceId)
    else .ok stop
  else .error (.invalidResourceRange resource.resourceId)

/-- The handles seen with the one of a descriptor. -/
def checkHandle (nativeHandleCount : Option UInt32) (resource : ResourceDescriptorV1)
    (indices : List UInt32) : Except TransferProtocolError (List UInt32) :=
  match resource.nativeHandleIndex with
  | none => .ok indices
  | some index => do
      failIf (nativeHandleCount.any fun count => decide (count ≤ index))
        (.invalidNativeHandleIndex resource.resourceId index (nativeHandleCount.getD 0))
      failIf (index ∈ indices) (.duplicateNativeHandleIndex index)
      pure (indices ++ [index])

/-- One round of the loop. -/
def checkResource (arenaUsed : Option UInt64) (nativeHandleCount : Option UInt32) (seen : Seen)
    (resource : ResourceDescriptorV1) : Except TransferProtocolError Seen := do
  failIf (resource.resourceId = 0) .invalidResourceId
  failIf (resource.resourceId ∈ seen.resourceIds) (.duplicateResourceId resource.resourceId)
  match ResourceKindV1.tryFrom resource.kind with
  | none => .error (.invalidResourceKind resource.resourceId resource.kind)
  | some kind => do
      checkKind resource kind
      let stop ← checkRange arenaUsed resource
      let indices ← checkHandle nativeHandleCount resource seen.nativeHandleIndices
      pure
        { resourceIds := seen.resourceIds ++ [resource.resourceId]
          nativeHandleIndices := indices
          ranges := if 0 < resource.arenaLength then
              seen.ranges ++ [⟨resource.arenaOffset, stop, resource.resourceId⟩]
            else seen.ranges }

def checkAssigned (nativeHandleCount : Option UInt32) (assigned : Nat) :
    Except TransferProtocolError Unit :=
  match nativeHandleCount with
  | some declared =>
      failIf (declared.toNat ≠ assigned) (.unassignedNativeHandles declared assigned)
  | none => .ok ()

/-- The loop over `ranges.windows(2)`. -/
def checkNeighbours : List ArenaRange → Except TransferProtocolError Unit
  | first :: second :: rest => do
      failIf (second.start < first.stop)
        (.overlappingResourceRange first.resourceId second.resourceId)
      checkNeighbours (second :: rest)
  | _ => .ok ()

/-- `sort_unstable_by_key` on the starts of ranges. -/
abbrev RangeSort := UnstableSort ArenaRange fun range => range.start.toNat

def validateResources (sorter : RangeSort) (resources : List ResourceDescriptorV1)
    (arenaUsed : Option UInt64) (nativeHandleCount : Option UInt32) :
    Except TransferProtocolError Unit := do
  failIf (maxResourceDescriptors < resources.length)
    (.tooManyResources resources.length maxResourceDescriptors)
  let seen ← resources.foldlM (checkResource arenaUsed nativeHandleCount) ⟨[], [], []⟩
  checkAssigned nativeHandleCount seen.nativeHandleIndices.length
  checkNeighbours (sorter.sort seen.ranges)

inductive PrestagePhaseV1 where
  | unspecified
  | preparing
  | frozen
  deriving DecidableEq

def PrestagePhaseV1.tag : PrestagePhaseV1 → Int32
  | unspecified => 0
  | preparing => 1
  | frozen => 2

/-- `PrestagePhaseV1::try_from`. -/
def PrestagePhaseV1.tryFrom (phase : Int32) : Option PrestagePhaseV1 :=
  [unspecified, preparing, frozen].find? fun p => decide (p.tag = phase)

structure PrestageV1 where
  resources : List ResourceDescriptorV1
  arenaUsed : UInt64
  phase : Int32
  deriving DecidableEq

def PrestageV1.validate (sorter : RangeSort) (prestage : PrestageV1) :
    Except TransferProtocolError Unit :=
  match PrestagePhaseV1.tryFrom prestage.phase with
  | none => .error (.invalidPrestagePhase prestage.phase)
  | some phase => do
      failIf (phase = .unspecified) (.invalidPrestagePhase prestage.phase)
      failIf (phase = .frozen ∧ prestage.resources.any fun resource =>
          decide (resource.kind = ResourceKindV1.coreSnapshot.tag)) .frozenCoreSnapshot
      validateResources sorter prestage.resources (some prestage.arenaUsed) none

/-! ### What is accepted -/

namespace ResourceKindV1

/-- The kinds that carry a socket. -/
def IsSocket (kind : ResourceKindV1) : Prop :=
  kind = .tcpStream ∨ kind = .tcpListener ∨ kind = .udpListener

/-- The kinds that belong to a connection. -/
def HasConnection (kind : ResourceKindV1) : Prop := kind = .tcpStream ∨ kind = .sessionState

end ResourceKindV1

namespace ResourceDescriptorV1

/-- The bytes of the arena a descriptor names. -/
def range (resource : ResourceDescriptorV1) : Range :=
  ⟨resource.arenaOffset.toNat, resource.arenaOffset.toNat + resource.arenaLength.toNat⟩

/-- The handle and the connection are as the kind asks. -/
def FitsKind (resource : ResourceDescriptorV1) (kind : ResourceKindV1) : Prop :=
  (kind.IsSocket → resource.nativeHandleIndex.isSome) ∧
  (kind.HasConnection → ∃ connectionId, resource.logicalId = some connectionId ∧
    connectionId ≠ 0) ∧
  (¬ kind.HasConnection → resource.logicalId = none)

/-- The range ends below `2^64` and within the used part of the arena. -/
def FitsArena (resource : ResourceDescriptorV1) (arenaUsed : Option UInt64) : Prop :=
  resource.range.stop < 2 ^ 64 ∧ ∀ used ∈ arenaUsed, resource.range.stop ≤ used.toNat

end ResourceDescriptorV1

/-- A table in which every byte, every id and every handle is one resource's. -/
structure Unambiguous (resources : List ResourceDescriptorV1) (arenaUsed : Option UInt64)
    (nativeHandleCount : Option UInt32) : Prop where
  few : resources.length ≤ maxResourceDescriptors
  ids : ∀ resource ∈ resources, resource.resourceId ≠ 0
  ids_distinct : (resources.map (·.resourceId)).Nodup
  kinds : ∀ resource ∈ resources, ∃ kind : ResourceKindV1, kind.tag = resource.kind ∧
    resource.FitsKind kind
  ranges : ∀ resource ∈ resources, resource.FitsArena arenaUsed
  ranges_apart : resources.Pairwise fun a b => a.range.Apart b.range
  handles_distinct : (resources.filterMap (·.nativeHandleIndex)).Nodup
  handles_exact : ∀ declared ∈ nativeHandleCount, ∀ index : UInt32,
    index ∈ resources.filterMap (·.nativeHandleIndex) ↔ index < declared

theorem Unambiguous.perm {resources resources' : List ResourceDescriptorV1}
    {arenaUsed : Option UInt64} {nativeHandleCount : Option UInt32}
    (h : Unambiguous resources arenaUsed nativeHandleCount)
    (hperm : resources.Perm resources') :
    Unambiguous resources' arenaUsed nativeHandleCount where
  few := hperm.length_eq ▸ h.few
  ids r hr := h.ids r (hperm.mem_iff.2 hr)
  ids_distinct := (hperm.map _).nodup_iff.1 h.ids_distinct
  kinds r hr := h.kinds r (hperm.mem_iff.2 hr)
  ranges r hr := h.ranges r (hperm.mem_iff.2 hr)
  ranges_apart := (hperm.pairwise_iff fun hab => hab.symm).1 h.ranges_apart
  handles_distinct := (hperm.filterMap _).nodup_iff.1 h.handles_distinct
  handles_exact declared hdeclared index := by
    rw [← (hperm.filterMap _).mem_iff]
    exact h.handles_exact declared hdeclared index

/-! ### One descriptor -/

section Checks

variable {arenaUsed : Option UInt64} {nativeHandleCount : Option UInt32}
  {resource : ResourceDescriptorV1}

theorem lacksConnection_iff {logicalId : Option UInt64} :
    lacksConnection logicalId = true ↔
      ¬ ∃ connectionId, logicalId = some connectionId ∧ connectionId ≠ 0 := by
  cases logicalId <;> simp [lacksConnection]

theorem checkKind_ok {kind : ResourceKindV1} {u : Unit} :
    checkKind resource kind = .ok u ↔ resource.FitsKind kind := by
  cases kind <;>
    simp [checkKind, except_bind_eq_ok, lacksConnection_iff, ResourceDescriptorV1.FitsKind,
      ResourceKindV1.IsSocket, ResourceKindV1.HasConnection, Option.isSome_iff_ne_none]

theorem checkRange_ok {stop : UInt64} :
    checkRange arenaUsed resource = .ok stop ↔
      resource.FitsArena arenaUsed ∧ resource.arenaOffset + resource.arenaLength = stop := by
  unfold checkRange ResourceDescriptorV1.FitsArena ResourceDescriptorV1.range
  split
  case isFalse hover => exact iff_of_false (fun h => by cases h) fun h => hover h.1.1
  case isTrue hfits =>
    have hstop : (resource.arenaOffset + resource.arenaLength).toNat =
        resource.arenaOffset.toNat + resource.arenaLength.toNat := by
      rw [UInt64.toNat_add, Nat.mod_eq_of_lt hfits]
    cases arenaUsed with
    | none =>
      simp only [Option.any_none, Bool.false_eq_true, if_false, Except.ok.injEq, hfits,
        Option.not_mem_none, IsEmpty.forall_iff, implies_true, true_and]
    | some used =>
      simp only [Option.any_some, decide_eq_true_eq, UInt64.lt_iff_toNat_lt, hstop,
        Option.mem_some_iff, forall_eq', hfits, true_and]
      split
      case isTrue hbeyond => simp [hbeyond]
      case isFalse hwithin => simp [Nat.le_of_not_lt hwithin]

def handleOf (resource : ResourceDescriptorV1) : List UInt32 := resource.nativeHandleIndex.toList

theorem checkHandle_ok {indices indices' : List UInt32} :
    checkHandle nativeHandleCount resource indices = .ok indices' ↔
      (∀ index ∈ handleOf resource, (∀ count ∈ nativeHandleCount, index < count) ∧
        index ∉ indices) ∧
      indices ++ handleOf resource = indices' := by
  unfold checkHandle handleOf
  cases resource.nativeHandleIndex with
  | none => simp
  | some index =>
    cases nativeHandleCount <;> simp [except_bind_eq_ok, pure, Except.pure, and_assoc]

/-- The entry of `ranges` for a descriptor, if it names any byte. -/
def rangesOf (resource : ResourceDescriptorV1) : List ArenaRange :=
  if 0 < resource.arenaLength then
    [⟨resource.arenaOffset, resource.arenaOffset + resource.arenaLength, resource.resourceId⟩]
  else []

/-- What a descriptor must be whatever the others are. -/
structure Sound (arenaUsed : Option UInt64) (nativeHandleCount : Option UInt32)
    (resource : ResourceDescriptorV1) : Prop where
  id : resource.resourceId ≠ 0
  kind : ∃ kind : ResourceKindV1, kind.tag = resource.kind ∧ resource.FitsKind kind
  range : resource.FitsArena arenaUsed
  handle : ∀ index ∈ handleOf resource, ∀ count ∈ nativeHandleCount, index < count

theorem checkResource_ok {seen seen' : Seen} :
    checkResource arenaUsed nativeHandleCount seen resource = .ok seen' ↔
      Sound arenaUsed nativeHandleCount resource ∧
      resource.resourceId ∉ seen.resourceIds ∧
      (∀ index ∈ handleOf resource, index ∉ seen.nativeHandleIndices) ∧
      ⟨seen.resourceIds ++ [resource.resourceId],
        seen.nativeHandleIndices ++ handleOf resource, seen.ranges ++ rangesOf resource⟩ =
        seen' := by
  unfold checkResource
  simp only [except_bind_eq_ok, failIf_eq_ok, exists_const]
  cases hkind : ResourceKindV1.tryFrom resource.kind with
  | none =>
    have hunknown : ¬ Sound arenaUsed nativeHandleCount resource := by
      rintro ⟨-, ⟨kind, htag, -⟩, -, -⟩
      rw [ResourceKindV1.tryFrom_eq_some.2 htag] at hkind
      cases hkind
    simp [hunknown]
  | some kind =>
    have hsound : Sound arenaUsed nativeHandleCount resource ↔ resource.resourceId ≠ 0 ∧
        resource.FitsKind kind ∧ resource.FitsArena arenaUsed ∧
        ∀ index ∈ handleOf resource, ∀ count ∈ nativeHandleCount, index < count := by
      constructor
      · rintro ⟨hid, ⟨kind', htag, hfits⟩, hrange, hhandle⟩
        rw [ResourceKindV1.tryFrom_eq_some.2 htag] at hkind
        cases hkind
        exact ⟨hid, hfits, hrange, hhandle⟩
      · rintro ⟨hid, hfits, hrange, hhandle⟩
        exact ⟨hid, ⟨kind, ResourceKindV1.tryFrom_eq_some.1 hkind, hfits⟩, hrange, hhandle⟩
    have hranges : (if 0 < resource.arenaLength then seen.ranges ++
        [⟨resource.arenaOffset, resource.arenaOffset + resource.arenaLength,
          resource.resourceId⟩] else seen.ranges) = seen.ranges ++ rangesOf resource := by
      unfold rangesOf
      split <;> simp
    rw [hsound]
    simp only [except_bind_eq_ok, checkKind_ok, checkRange_ok, checkHandle_ok, exists_const,
      pure, Except.pure, Except.ok.injEq]
    constructor
    · rintro ⟨hid, hnew, hfits, _, ⟨hrange, rfl⟩, _, ⟨hhandle, rfl⟩, rfl⟩
      exact ⟨⟨hid, hfits, hrange, fun i hi => (hhandle i hi).1⟩, hnew,
        fun i hi => (hhandle i hi).2, by rw [hranges]⟩
    · rintro ⟨⟨hid, hfits, hrange, hcount⟩, hnew, hhandle, rfl⟩
      exact ⟨hid, hnew, hfits, _, ⟨hrange, rfl⟩, _,
        ⟨fun i hi => ⟨hcount i hi, hhandle i hi⟩, rfl⟩, by rw [hranges]⟩

end Checks

/-! ### The table -/

section Table

variable {arenaUsed : Option UInt64} {nativeHandleCount : Option UInt32}
  {resources : List ResourceDescriptorV1}

theorem foldlM_checkResource_ok {seen seen' : Seen} (hids : seen.resourceIds.Nodup)
    (hhandles : seen.nativeHandleIndices.Nodup) :
    resources.foldlM (checkResource arenaUsed nativeHandleCount) seen = .ok seen' ↔
      (∀ resource ∈ resources, Sound arenaUsed nativeHandleCount resource) ∧
      (seen.resourceIds ++ resources.map (·.resourceId)).Nodup ∧
      (seen.nativeHandleIndices ++ resources.flatMap handleOf).Nodup ∧
      ⟨seen.resourceIds ++ resources.map (·.resourceId),
        seen.nativeHandleIndices ++ resources.flatMap handleOf,
        seen.ranges ++ resources.flatMap rangesOf⟩ = seen' := by
  induction resources generalizing seen with
  | nil => simp [pure, Except.pure, hids, hhandles]
  | cons resource resources ih =>
    simp only [List.foldlM_cons, except_bind_eq_ok, checkResource_ok]
    constructor
    · rintro ⟨_, ⟨hsound, hnew, hfree, rfl⟩, hrest⟩
      have hids' : (seen.resourceIds ++ [resource.resourceId]).Nodup := by
        refine List.nodup_append.2 ⟨hids, by simp, ?_⟩
        rintro a ha b hb rfl
        exact hnew (List.mem_singleton.1 hb ▸ ha)
      have hhandles' : (seen.nativeHandleIndices ++ handleOf resource).Nodup := by
        refine List.nodup_append.2 ⟨hhandles, ?_, ?_⟩
        · unfold handleOf
          cases resource.nativeHandleIndex <;> simp
        · rintro a ha b hb rfl
          exact hfree a hb ha
      obtain ⟨hall, hidsAll, hhandlesAll, rfl⟩ := (ih hids' hhandles').1 hrest
      simp only [List.append_assoc, List.singleton_append] at hidsAll hhandlesAll
      exact ⟨by simpa [hsound] using hall, by simpa using hidsAll, by simpa using hhandlesAll,
        by simp⟩
    · rintro ⟨hall, hidsAll, hhandlesAll, rfl⟩
      simp only [List.map_cons, List.flatMap_cons] at hidsAll hhandlesAll
      have hids' : (seen.resourceIds ++ [resource.resourceId]).Nodup :=
        hidsAll.sublist (by simp)
      have hhandles' : (seen.nativeHandleIndices ++ handleOf resource).Nodup :=
        hhandlesAll.sublist (by simp)
      refine ⟨_, ⟨hall resource (by simp), ?_, ?_, rfl⟩, ?_⟩
      · exact fun h => (List.nodup_append.1 hids').2.2 _ h _ (by simp) rfl
      · exact fun index hindex h => (List.nodup_append.1 hhandles').2.2 _ h _ hindex rfl
      · exact (ih hids' hhandles').2 ⟨fun r hr => hall r (List.mem_cons_of_mem _ hr),
          by simpa using hidsAll, by simpa using hhandlesAll, by simp⟩

theorem checkNeighbours_ok {ranges : List ArenaRange} {u : Unit} :
    checkNeighbours ranges = .ok u ↔
      ranges.IsChain fun first second => first.stop.toNat ≤ second.start.toNat := by
  induction ranges with
  | nil => simp [checkNeighbours]
  | cons first rest ih =>
    cases rest with
    | nil => simp [checkNeighbours]
    | cons second rest =>
      simp [checkNeighbours, except_bind_eq_ok, ih, List.isChain_cons_cons,
        UInt64.le_iff_toNat_le]

def ArenaRange.range (entry : ArenaRange) : Range := ⟨entry.start.toNat, entry.stop.toNat⟩

theorem range_of_mem_rangesOf {resource : ResourceDescriptorV1} {entry : ArenaRange}
    (hfits : resource.FitsArena arenaUsed) (hentry : entry ∈ rangesOf resource) :
    entry.range = resource.range ∧ entry.range.start < entry.range.stop := by
  have hstop := hfits.1
  unfold rangesOf at hentry
  split at hentry <;> simp only [List.mem_singleton, List.not_mem_nil] at hentry
  next hlength =>
    subst hentry
    simp only [ResourceDescriptorV1.range] at hstop
    have hpos : 0 < resource.arenaLength.toNat := UInt64.lt_iff_toNat_lt.1 hlength
    simp only [ArenaRange.range, ResourceDescriptorV1.range, UInt64.toNat_add,
      Nat.mod_eq_of_lt hstop, true_and]
    omega

theorem rangesOf_cases (resource : ResourceDescriptorV1) :
    (rangesOf resource = [] ∧ resource.range.stop ≤ resource.range.start) ∨
      ∃ entry, rangesOf resource = [entry] := by
  unfold rangesOf
  split
  case isTrue => exact .inr ⟨_, rfl⟩
  case isFalse hzero =>
    have : resource.arenaLength.toNat = 0 := by
      simpa [UInt64.lt_iff_toNat_lt] using hzero
    exact .inl ⟨rfl, by simp [ResourceDescriptorV1.range, this]⟩

/-- The entries for one descriptor and for others, against the descriptors themselves. -/
theorem apart_rangesOf {resource : ResourceDescriptorV1}
    (hfits : resource.FitsArena arenaUsed)
    (hall : ∀ other ∈ resources, other.FitsArena arenaUsed) :
    (∀ entry ∈ rangesOf resource, ∀ other ∈ resources.flatMap rangesOf,
        entry.range.Apart other.range) ↔
      ∀ other ∈ resources, resource.range.Apart other.range := by
  constructor
  · intro h other hother
    rcases rangesOf_cases resource with ⟨-, hempty⟩ | ⟨entry, hone⟩
    · exact Range.apart_of_empty_left hempty _
    rcases rangesOf_cases other with ⟨-, hempty⟩ | ⟨entry', hone'⟩
    · exact Range.apart_of_empty_right hempty _
    have hentry : entry ∈ rangesOf resource := by simp [hone]
    have hentry' : entry' ∈ rangesOf other := by simp [hone']
    rw [← (range_of_mem_rangesOf hfits hentry).1,
      ← (range_of_mem_rangesOf (hall other hother) hentry').1]
    exact h entry hentry entry' (List.mem_flatMap.2 ⟨other, hother, hentry'⟩)
  · intro h entry hentry other hother
    obtain ⟨resource', hresource', hother⟩ := List.mem_flatMap.1 hother
    rw [(range_of_mem_rangesOf hfits hentry).1,
      (range_of_mem_rangesOf (hall resource' hresource') hother).1]
    exact h resource' hresource'

theorem pairwise_rangesOf (hall : ∀ resource ∈ resources, resource.FitsArena arenaUsed) :
    ((resources.flatMap rangesOf).Pairwise fun a b => a.range.Apart b.range) ↔
      resources.Pairwise fun a b => a.range.Apart b.range := by
  induction resources with
  | nil => simp
  | cons resource resources ih =>
    have hrest : ∀ other ∈ resources, other.FitsArena arenaUsed :=
      fun other hother => hall other (List.mem_cons_of_mem _ hother)
    have hself : (rangesOf resource).Pairwise fun a b => a.range.Apart b.range := by
      rcases rangesOf_cases resource with ⟨hnone, -⟩ | ⟨entry, hone⟩ <;> simp [*]
    rw [List.flatMap_cons, List.pairwise_append, List.pairwise_cons,
      apart_rangesOf (hall resource (by simp)) hrest, ih hrest]
    exact ⟨fun h => ⟨h.2.2, h.2.1⟩, fun h => ⟨hself, h.2, h.1⟩⟩

theorem checkNeighbours_sorted (sorter : RangeSort)
    (hall : ∀ resource ∈ resources, resource.FitsArena arenaUsed) {u : Unit} :
    checkNeighbours (sorter.sort (resources.flatMap rangesOf)) = .ok u ↔
      resources.Pairwise fun a b => a.range.Apart b.range := by
  have hperm := sorter.perm (resources.flatMap rangesOf)
  have hne : ∀ entry ∈ sorter.sort (resources.flatMap rangesOf),
      entry.range.start < entry.range.stop := by
    intro entry hentry
    obtain ⟨resource, hresource, hentry⟩ := List.mem_flatMap.1 (hperm.mem_iff.1 hentry)
    exact (range_of_mem_rangesOf (hall resource hresource) hentry).2
  rw [checkNeighbours_ok, ← pairwise_rangesOf hall, ← hperm.pairwise_iff fun h => h.symm,
    pairwise_apart_iff hne (sorter.sorted _)]
  rfl

/-- The handles of a table: each below the count, and as many as it, or each of them. -/
theorem checkAssigned_ok (hnodup : (resources.flatMap handleOf).Nodup)
    (hlt : ∀ index ∈ resources.flatMap handleOf, ∀ count ∈ nativeHandleCount, index < count)
    {u : Unit} :
    checkAssigned nativeHandleCount (resources.flatMap handleOf).length = .ok u ↔
      ∀ declared ∈ nativeHandleCount, ∀ index : UInt32,
        index ∈ resources.flatMap handleOf ↔ index < declared := by
  cases nativeHandleCount with
  | none => simp [checkAssigned]
  | some declared =>
    have hnodup' : ((resources.flatMap handleOf).map UInt32.toNat).Nodup :=
      List.Nodup.map (fun a b h => UInt32.toNat_inj.1 h) hnodup
    have hlt' : ∀ i ∈ (resources.flatMap handleOf).map UInt32.toNat, i < declared.toNat := by
      intro i hi
      obtain ⟨index, hindex, rfl⟩ := List.mem_map.1 hi
      exact UInt32.lt_iff_toNat_lt.1 (hlt index hindex declared rfl)
    have hcount := length_eq_iff_forall_mem hnodup' hlt'
    rw [List.length_map] at hcount
    simp only [checkAssigned, failIf_eq_ok, ne_eq, Decidable.not_not, Option.mem_some_iff,
      forall_eq']
    rw [eq_comm, hcount]
    constructor
    · intro h index
      refine ⟨fun hindex => hlt index hindex declared rfl, fun hindex => ?_⟩
      obtain ⟨index', hindex', heq⟩ :=
        List.mem_map.1 (h index.toNat (UInt32.lt_iff_toNat_lt.1 hindex))
      rwa [← UInt32.toNat_inj.1 heq]
    · intro h i hi
      have hsmall : i < 2 ^ 32 := hi.trans declared.toNat_lt
      refine List.mem_map.2 ⟨UInt32.ofNat i, (h _).2 ?_, UInt32.toNat_ofNat_of_lt' hsmall⟩
      rwa [UInt32.lt_iff_toNat_lt, UInt32.toNat_ofNat_of_lt' hsmall]

theorem flatMap_handleOf :
    resources.flatMap handleOf = resources.filterMap (·.nativeHandleIndex) := by
  induction resources with
  | nil => rfl
  | cons resource resources ih =>
    rw [List.flatMap_cons, ih, handleOf]
    cases hindex : resource.nativeHandleIndex <;> simp [hindex]

theorem validateResources_ok (sorter : RangeSort) {u : Unit} :
    validateResources sorter resources arenaUsed nativeHandleCount = .ok u ↔
      Unambiguous resources arenaUsed nativeHandleCount := by
  have hloop (seen : Seen) :=
    @foldlM_checkResource_ok arenaUsed nativeHandleCount resources ⟨[], [], []⟩ seen
      List.nodup_nil List.nodup_nil
  simp only [List.nil_append] at hloop
  simp only [validateResources, except_bind_eq_ok, failIf_eq_ok, exists_const, hloop,
    Nat.not_lt]
  constructor
  · rintro ⟨hfew, _, ⟨hsound, hids, hhandles, rfl⟩, _, hassigned, hneighbours⟩
    have hcount := (checkAssigned_ok hhandles (by
      intro index hindex count hdeclared
      obtain ⟨resource, hresource, hindex⟩ := List.mem_flatMap.1 hindex
      exact (hsound resource hresource).handle index hindex count hdeclared)).1 hassigned
    have hapart := (checkNeighbours_sorted sorter fun r hr => (hsound r hr).range).1 hneighbours
    rw [flatMap_handleOf] at hhandles hcount
    exact ⟨hfew, fun r hr => (hsound r hr).id, hids, fun r hr => (hsound r hr).kind,
      fun r hr => (hsound r hr).range, hapart, hhandles, hcount⟩
  · intro h
    have hcount := h.handles_exact
    have hnodup := h.handles_distinct
    rw [← flatMap_handleOf] at hnodup
    simp only [← flatMap_handleOf] at hcount
    have hlt : ∀ index ∈ resources.flatMap handleOf, ∀ count ∈ nativeHandleCount,
        index < count := fun index hindex count hdeclared => (hcount count hdeclared index).1 hindex
    have hsound : ∀ resource ∈ resources, Sound arenaUsed nativeHandleCount resource :=
      fun resource hresource => ⟨h.ids resource hresource, h.kinds resource hresource,
        h.ranges resource hresource, fun index hindex =>
          hlt index (List.mem_flatMap.2 ⟨resource, hresource, hindex⟩)⟩
    exact ⟨h.few, _, ⟨hsound, h.ids_distinct, hnodup, rfl⟩, (),
      (checkAssigned_ok hnodup hlt).2 hcount,
      (checkNeighbours_sorted sorter h.ranges).2 h.ranges_apart⟩

end Table

/-- The verdict on a table, whatever the sort leaves of the order of equal starts: the
unambiguous tables are accepted, and the order of the descriptors is nothing to it. -/
theorem validateResources_verdict (arenaUsed : Option UInt64)
    (nativeHandleCount : Option UInt32) :
    (∀ (sorter : RangeSort) (resources : List ResourceDescriptorV1),
      validateResources sorter resources arenaUsed nativeHandleCount = .ok () ↔
        Unambiguous resources arenaUsed nativeHandleCount) ∧
    (∀ (sorter sorter' : RangeSort) (resources resources' : List ResourceDescriptorV1),
      resources.Perm resources' →
        (validateResources sorter resources arenaUsed nativeHandleCount = .ok () ↔
          validateResources sorter' resources' arenaUsed nativeHandleCount = .ok ())) := by
  refine ⟨fun sorter resources => validateResources_ok sorter, ?_⟩
  intro sorter sorter' resources resources' hperm
  rw [validateResources_ok, validateResources_ok]
  exact ⟨fun h => h.perm hperm, fun h => h.perm hperm.symm⟩

/-- A stream and the snapshot beside it, in the other order and under every sort. -/
theorem validateResources_verdict_stream : ∀ sorter : RangeSort, validateResources sorter
    [⟨2, 0, 0, 16, none, none⟩, ⟨1, 4, 8, 0, some 0, some 9⟩] (some 16) (some 1) = .ok () :=
  fun sorter => ((validateResources_verdict (some 16) (some 1)).2 (.insertion _ _) sorter
    [⟨1, 4, 8, 0, some 0, some 9⟩, ⟨2, 0, 0, 16, none, none⟩] _ (List.Perm.swap ..)).mp (by decide)

/-- A pre-stage is accepted exactly when it is in preparation, or frozen without a core snapshot,
    and its table is unambiguous. -/
theorem prestage_validate_iff (sorter : RangeSort) (prestage : PrestageV1) :
    prestage.validate sorter = .ok () ↔
      (prestage.phase = 1 ∨ prestage.phase = 2 ∧
        ∀ resource ∈ prestage.resources, resource.kind ≠ ResourceKindV1.coreSnapshot.tag) ∧
      Unambiguous prestage.resources (some prestage.arenaUsed) none := by
  have hphase : PrestagePhaseV1.tryFrom prestage.phase =
      if prestage.phase = 0 then some .unspecified
      else if prestage.phase = 1 then some .preparing
      else if prestage.phase = 2 then some .frozen else none := by
    simp only [PrestagePhaseV1.tryFrom, List.find?, PrestagePhaseV1.tag, eq_comm]
    split_ifs <;> simp_all
  unfold PrestageV1.validate
  rw [hphase]
  split_ifs with hzero hone htwo
  · simp [except_bind_eq_ok, failIf_eq_ok, hzero]
  · simp [except_bind_eq_ok, failIf_eq_ok, hone, validateResources_ok]
  · simp [except_bind_eq_ok, failIf_eq_ok, htwo, validateResources_ok]
  · simp [hone, htwo]

end RevyCraft.Transfer
