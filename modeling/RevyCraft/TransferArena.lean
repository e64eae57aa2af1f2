/-
  RevyCraft/TransferArena.lean
  ============================
  **The shared arena of an executable transfer**: a bump allocator without a lock, the
  reservations it hands out, the regions they are sealed into and the reader's bounds.

  A reserve is a load of `next_offset` followed by attempts, each of which may fail for no
  reason; `step` interleaves the loads and attempts of any number of threads with the
  writes and seals of the reservations.  The loads are relaxed, so a load or a failed
  attempt may observe any value the offset has had.

  * `Kept`: the invariant of every run; the regions lie one after the other in the order
    they were reserved, and the bytes of each are those its own writes put there.
  * `arena_regions_never_alias`: what follows for regions, reservers and readers.
-/
import Mathlib.Logic.Function.Basic
import RevyCraft.Ranges
import RevyCraft.Steps

namespace RevyCraft.Transfer

open RevyCraft.Ranges

def arenaAlignment : Nat := 8
def maxTransferArenaBytes : Nat := 1024 * 1024 * 1024

/-- `usize::MAX`, of a 64-bit process. -/
def usizeMax : Nat := 2 ^ 64 - 1

/-! ### Offsets -/

/-- `usize::checked_add`. -/
def checkedAdd (a b : Nat) : Option Nat := if a + b ≤ usizeMax then some (a + b) else none

theorem checkedAdd_eq_some {a b c : Nat} :
    checkedAdd a b = some c ↔ a + b ≤ usizeMax ∧ a + b = c := by
  unfold checkedAdd
  split <;> simp_all

/-- `align_up`; the mask is `!(ARENA_ALIGNMENT - 1)`. -/
def alignUp (value : Nat) : Option Nat :=
  (checkedAdd value (arenaAlignment - 1)).map fun value =>
    value &&& (usizeMax - (arenaAlignment - 1))

theorem and_mask {n : Nat} (h : n ≤ usizeMax) :
    n &&& (usizeMax - (arenaAlignment - 1)) = n / 2 ^ 3 * 2 ^ 3 := by
  have hmask : usizeMax - (arenaAlignment - 1) = 2 ^ 64 - (7 + 1) := by decide
  have hseven : (7 : Nat) = 2 ^ 3 - 1 := by decide
  have hlt : n < 2 ^ 64 := by unfold usizeMax at h; omega
  rw [hmask, ← Nat.shiftRight_eq_div_pow, ← Nat.shiftLeft_eq]
  refine Nat.eq_of_testBit_eq fun i => ?_
  rw [Nat.testBit_and, Nat.testBit_two_pow_sub_succ (by decide), hseven,
    Nat.testBit_two_pow_sub_one, Nat.testBit_shiftLeft, Nat.testBit_shiftRight]
  by_cases hlow : 3 ≤ i
  · by_cases hhigh : i < 64
    · simp [hlow, hhigh, Nat.not_lt.2 hlow]
    · have hzero : n.testBit i = false :=
        Nat.testBit_lt_two_pow (Nat.lt_of_lt_of_le hlt (Nat.pow_le_pow_right (by decide)
          (Nat.le_of_not_lt hhigh)))
      simp [hlow, hzero]
  · simp [hlow, Nat.lt_of_not_le hlow]

theorem alignUp_eq_some {value aligned : Nat} (h : alignUp value = some aligned) :
    arenaAlignment ∣ aligned ∧ value ≤ aligned := by
  obtain ⟨sum, hsum, rfl⟩ := Option.map_eq_some_iff.1 h
  obtain ⟨hle, rfl⟩ := checkedAdd_eq_some.1 hsum
  rw [and_mask hle]
  unfold arenaAlignment
  exact ⟨Dvd.intro_left _ rfl, by omega⟩

/-! ### The arena -/

inductive ArenaError where
  | emptyCapacity
  | invalidGeneration
  | capacityLimitExceeded (capacity limit : Nat)
  | capacityExhausted (requested remaining : Nat)
  | invalidRegion (offset stop published : Nat)
  | incompleteReservation (expected written : Nat)
  | reservationOverflow (capacity : Nat)
  | publicationRegression (current requested : Nat)

/-- `validate_parameters`; the capacity fits the address space of a 64-bit process. -/
def validateParameters (capacity generation : Nat) : Except ArenaError Nat :=
  if capacity = 0 then .error .emptyCapacity
  else if generation = 0 then .error .invalidGeneration
  else if maxTransferArenaBytes < capacity then
    .error (.capacityLimitExceeded capacity maxTransferArenaBytes)
  else .ok capacity

/-- `validate_import`. -/
def validateImport (capacity published generation : Nat) : Except ArenaError Nat := do
  let capacity ← validateParameters capacity generation
  if capacity < published then .error (.invalidRegion 0 published capacity) else pure capacity

structure SharedTransferArena where
  capacity : Nat
  /-- The byte at each offset of the mapping. -/
  bytes : Nat → UInt8
  nextOffset : Nat
  generation : Nat

/-- `create`; a fresh mapping holds zeros. -/
def SharedTransferArena.create (capacity generation : Nat) :
    Except ArenaError SharedTransferArena := do
  let capacity ← validateParameters capacity generation
  pure ⟨capacity, fun _ => 0, 0, generation⟩

def SharedTransferArena.used (arena : SharedTransferArena) : Nat := arena.nextOffset

def SharedTransferArena.exhausted (arena : SharedTransferArena) (requested current : Nat) :
    ArenaError := .capacityExhausted requested (arena.capacity - current)

/-- One round of the loop of `reserve` up to the exchange: where the region would start and
end. -/
def SharedTransferArena.claim (arena : SharedTransferArena) (length current : Nat) :
    Except ArenaError (Nat × Nat) :=
  match alignUp current with
  | none => .error (arena.exhausted length current)
  | some aligned =>
      match checkedAdd aligned length with
      | none => .error (arena.exhausted length current)
      | some stop =>
          if arena.capacity < stop then .error (arena.exhausted length current)
          else .ok (aligned, stop)

theorem SharedTransferArena.claim_ok {arena : SharedTransferArena} {length current : Nat}
    {region : Nat × Nat} (h : arena.claim length current = .ok region) :
    arenaAlignment ∣ region.1 ∧ current ≤ region.1 ∧ region.1 + length = region.2 ∧
      region.2 ≤ arena.capacity := by
  unfold claim at h
  split at h
  next => cases h
  next aligned haligned =>
    split at h
    next => cases h
    next stop hstop =>
      split at h
      next => cases h
      next hfits =>
        cases h
        obtain ⟨hdvd, hle⟩ := alignUp_eq_some haligned
        exact ⟨hdvd, hle, (checkedAdd_eq_some.1 hstop).2, Nat.le_of_not_lt hfits⟩

/-! ### Reservations -/

structure ArenaReservation where
  offset : Nat
  capacity : Nat
  written : Nat

structure SealedArenaRegion where
  offset : Nat
  length : Nat
  deriving DecidableEq

namespace ArenaReservation

/-- `seal`. -/
def sealed (reservation : ArenaReservation) : Except ArenaError SealedArenaRegion :=
  if reservation.written ≠ reservation.capacity then
    .error (.incompleteReservation reservation.capacity reservation.written)
  else .ok ⟨reservation.offset, reservation.capacity⟩

def sealWritten (reservation : ArenaReservation) : SealedArenaRegion :=
  ⟨reservation.offset, reservation.written⟩

/-- The mapping with the bytes of `buffer` from `offset` on. -/
def copyTo (bytes : Nat → UInt8) (offset : Nat) (buffer : List UInt8) : Nat → UInt8 := fun i =>
  if offset ≤ i then (buffer[i - offset]?).getD (bytes i) else bytes i

/-- `write`: the reservation and the mapping afterwards. -/
def write (reservation : ArenaReservation) (bytes : Nat → UInt8) (buffer : List UInt8) :
    Except ArenaError (ArenaReservation × (Nat → UInt8)) :=
  let remaining := reservation.capacity - reservation.written
  if remaining < buffer.length then .error (.reservationOverflow reservation.capacity)
  else if buffer.isEmpty then .ok (reservation, bytes)
  else
    .ok ({ reservation with written := reservation.written + buffer.length },
      copyTo bytes (reservation.offset + reservation.written) buffer)

/-- The bytes set aside for a reservation. -/
def range (reservation : ArenaReservation) : Range :=
  ⟨reservation.offset, reservation.offset + reservation.capacity⟩

end ArenaReservation

/-- The bytes of a mapping from `offset` on. -/
def slice (bytes : Nat → UInt8) (offset length : Nat) : List UInt8 :=
  (List.range length).map fun i => bytes (offset + i)

/-! ### The reader -/

structure SharedTransferArenaReader where
  capacity : Nat
  published : Nat
  generation : Nat

namespace SharedTransferArenaReader

/-- `from_descriptor` and `open`, for a mapping that can be opened. -/
def fromDescriptor (capacity published generation : Nat) :
    Except ArenaError SharedTransferArenaReader := do
  let capacity ← validateImport capacity published generation
  pure ⟨capacity, published, generation⟩

def advancePublished (reader : SharedTransferArenaReader) (published : Nat) :
    Except ArenaError SharedTransferArenaReader :=
  if published < reader.published then
    .error (.publicationRegression reader.published published)
  else if reader.capacity < published then .error (.invalidRegion 0 published reader.capacity)
  else .ok { reader with published := published }

/-- `region`, over a mapping with these bytes. -/
def region (reader : SharedTransferArenaReader) (bytes : Nat → UInt8) (offset length : Nat) :
    Except ArenaError (List UInt8) :=
  match checkedAdd offset length with
  | none => .error (.invalidRegion offset usizeMax reader.published)
  | some stop =>
      if reader.published < stop then .error (.invalidRegion offset stop reader.published)
      else .ok (slice bytes offset length)

end SharedTransferArenaReader

/-! ### Any interleaving -/

/-- What has become of a reservation. -/
inductive Fate where
  | writing
  /-- `seal` refused it and consumed it. -/
  | lost
  | sealed (region : SealedArenaRegion)
  deriving DecidableEq

/-- A reservation, with the bytes its writes were accepted with. -/
structure Holding where
  reservation : ArenaReservation
  accepted : List UInt8
  fate : Fate

/-- A call of `reserve` that has not returned: `length`, and the offset it last observed. -/
structure Reserving where
  length : Nat
  current : Nat

structure ArenaRun where
  arena : SharedTransferArena
  /-- The values that `next_offset` has had, the latest first. -/
  usedValues : List Nat
  reserving : Nat → Option Reserving
  /-- The reservations in the order they were handed out. -/
  held : List Holding

/-- An arena that nobody uses yet. -/
def ArenaRun.start (arena : SharedTransferArena) : ArenaRun :=
  ⟨arena, [arena.nextOffset], fun _ => none, []⟩

inductive ArenaEvent where
  /-- `reserve(length)` is called by a thread and loads `observed`. -/
  | load (thread length observed : Nat)
  /-- One round of its loop; an exchange that fails returns `observed`. -/
  | attempt (thread : Nat) (spurious : Bool) (observed : Nat)
  | write (index : Nat) (buffer : List UInt8)
  | sealed (index : Nat)
  | sealWritten (index : Nat)

/-- What the caller gets. -/
inductive Outcome where
  | pending
  | reserved (reservation : ArenaReservation)
  | accepted (count : Nat)
  | region (region : SealedArenaRegion)
  | failed (error : ArenaError)

namespace ArenaRun

def setReserving (s : ArenaRun) (thread : Nat) (reserving : Option Reserving) : ArenaRun :=
  { s with reserving := Function.update s.reserving thread reserving }

/-- The exchange succeeded: the thread has its reservation. -/
def reserve (s : ArenaRun) (thread : Nat) (reserving : Reserving) (aligned stop : Nat) :
    ArenaRun where
  arena := { s.arena with nextOffset := stop }
  usedValues := stop :: s.usedValues
  reserving := Function.update s.reserving thread none
  held := s.held ++ [⟨⟨aligned, reserving.length, 0⟩, [], .writing⟩]

/-- One round of the loop of `reserve`. -/
def attempt (s : ArenaRun) (thread : Nat) (reserving : Reserving) (spurious : Bool)
    (observed : Nat) : Option (ArenaRun × Outcome) :=
  match s.arena.claim reserving.length reserving.current with
  | .error error =>
      some (s.setReserving thread none, .failed error)
  | .ok region =>
      if reserving.current = s.arena.nextOffset ∧ spurious = false then
        some (s.reserve thread reserving region.1 region.2,
          .reserved ⟨region.1, reserving.length, 0⟩)
      else if observed ∈ s.usedValues then
        some (s.setReserving thread (some { reserving with current := observed }), .pending)
      else none

/-- `write` of a reservation that its owner still has. -/
def write (s : ArenaRun) (index : Nat) (holding : Holding) (buffer : List UInt8) :
    ArenaRun × Outcome :=
  match holding.reservation.write s.arena.bytes buffer with
  | .error error => (s, .failed error)
  | .ok result =>
      ({ s with
          arena := { s.arena with bytes := result.2 }
          held := s.held.set index
            ⟨result.1, holding.accepted ++ buffer, holding.fate⟩ }, .accepted buffer.length)

def consume (s : ArenaRun) (index : Nat) (holding : Holding) (fate : Fate) : ArenaRun :=
  { s with held := s.held.set index { holding with fate := fate } }

/-- One event, where it can happen. -/
def act (s : ArenaRun) : ArenaEvent → Option (ArenaRun × Outcome)
  | .load thread length observed =>
      if s.reserving thread = none ∧ length ≤ usizeMax ∧ observed ∈ s.usedValues then
        some (s.setReserving thread (some ⟨length, observed⟩), .pending)
      else none
  | .attempt thread spurious observed =>
      (s.reserving thread).bind fun reserving => s.attempt thread reserving spurious observed
  | .write index buffer =>
      (s.held[index]?).bind fun holding =>
        if holding.fate = .writing then some (s.write index holding buffer) else none
  | .sealed index =>
      (s.held[index]?).bind fun holding =>
        if holding.fate = .writing then
          match holding.reservation.sealed with
          | .error error => some (s.consume index holding .lost, .failed error)
          | .ok region => some (s.consume index holding (.sealed region), .region region)
        else none
  | .sealWritten index =>
      (s.held[index]?).bind fun holding =>
        if holding.fate = .writing then
          some (s.consume index holding (.sealed holding.reservation.sealWritten),
            .region holding.reservation.sealWritten)
        else none

def step (s : ArenaRun) (event : ArenaEvent) : Option ArenaRun := (s.act event).map Prod.fst

end ArenaRun

section Copy

variable {bytes : Nat → UInt8} {buffer : List UInt8} {offset i : Nat}

theorem copyTo_other (h : i < offset ∨ offset + buffer.length ≤ i) :
    ArenaReservation.copyTo bytes offset buffer i = bytes i := by
  unfold ArenaReservation.copyTo
  split
  · rw [List.getElem?_eq_none (by omega), Option.getD_none]
  · rfl

theorem copyTo_at (hle : offset ≤ i) (hlt : i - offset < buffer.length) :
    ArenaReservation.copyTo bytes offset buffer i = buffer[i - offset] := by
  simp [ArenaReservation.copyTo, hle, hlt]

theorem copyTo_nil : ArenaReservation.copyTo bytes offset [] = bytes := by
  funext i
  exact copyTo_other (by simp; omega)

end Copy

variable {bytes : Nat → UInt8} {s s' : ArenaRun} {outcome : Outcome} {holding : Holding}

theorem ArenaReservation.write_ok {reservation : ArenaReservation} {buffer : List UInt8}
    {result : ArenaReservation × (Nat → UInt8)} (h : reservation.write bytes buffer = .ok result) :
    buffer.length ≤ reservation.capacity - reservation.written ∧
      result.1 = { reservation with written := reservation.written + buffer.length } ∧
      result.2 = copyTo bytes (reservation.offset + reservation.written) buffer := by
  simp only [write] at h
  split at h
  next => cases h
  next hroom =>
    split at h
    next hempty =>
      cases h
      rw [List.isEmpty_iff.1 hempty, copyTo_nil]
      exact ⟨Nat.zero_le _, rfl, rfl⟩
    next =>
      cases h
      exact ⟨Nat.le_of_not_lt hroom, rfl, rfl⟩

/-! ### What an event does -/

/-- The changes that an event can make. -/
inductive ArenaRun.Acted (s : ArenaRun) : ArenaRun → Outcome → Prop where
  /-- A call of `reserve` goes on, or has failed. -/
  | reserving (thread : Nat) (reserving : Option Reserving) (outcome : Outcome)
      (hunreserved : ∀ reservation, outcome ≠ .reserved reservation) :
      s.Acted (s.setReserving thread reserving) outcome
  | reserved (thread : Nat) (reserving : Reserving) (region : Nat × Nat)
      (hclaim : s.arena.claim reserving.length s.arena.nextOffset = .ok region) :
      s.Acted (s.reserve thread reserving region.1 region.2)
        (.reserved ⟨region.1, reserving.length, 0⟩)
  | refused (error : ArenaError) : s.Acted s (.failed error)
  | written (index : Nat) (holding : Holding) (buffer : List UInt8)
      (hindex : s.held[index]? = some holding) (hwriting : holding.fate = .writing)
      (hroom : buffer.length ≤ holding.reservation.capacity - holding.reservation.written) :
      s.Acted
        { s with
          arena := { s.arena with
            bytes := ArenaReservation.copyTo s.arena.bytes
              (holding.reservation.offset + holding.reservation.written) buffer }
          held := s.held.set index
            ⟨{ holding.reservation with
                written := holding.reservation.written + buffer.length },
              holding.accepted ++ buffer, holding.fate⟩ } (.accepted buffer.length)
  | consumed (index : Nat) (holding : Holding) (fate : Fate) (outcome : Outcome)
      (hindex : s.held[index]? = some holding)
      (hfate : ∀ region, fate = .sealed region → region = holding.reservation.sealWritten)
      (hunreserved : ∀ reservation, outcome ≠ .reserved reservation) :
      s.Acted (s.consume index holding fate) outcome

variable {event : ArenaEvent} {i : Nat} {holding' : Holding} {events : List ArenaEvent}

theorem ArenaRun.act_acted (h : s.act event = some (s', outcome)) : s.Acted s' outcome := by
  cases event with
  | load thread length observed =>
    simp only [act] at h
    split at h
    next =>
      cases h
      exact .reserving _ _ _ (fun _ => by simp)
    next => cases h
  | attempt thread spurious observed =>
    obtain ⟨reserving, -, h⟩ := Option.bind_eq_some_iff.1 h
    unfold attempt at h
    split at h
    next =>
      cases h
      exact .reserving _ _ _ (fun _ => by simp)
    next region hclaim =>
      split at h
      next hexchange =>
        cases h
        rw [hexchange.1] at hclaim
        exact .reserved _ _ _ hclaim
      next =>
        split at h
        next =>
          cases h
          exact .reserving _ _ _ (fun _ => by simp)
        next => cases h
  | write index buffer =>
    obtain ⟨holding, hindex, h⟩ := Option.bind_eq_some_iff.1 h
    split at h
    next hwriting =>
      unfold write at h
      split at h
      next =>
        cases h
        exact .refused _
      next result hresult =>
        cases h
        obtain ⟨hroom, hreservation, hbytes⟩ := ArenaReservation.write_ok hresult
        rw [hreservation, hbytes]
        exact .written _ _ _ hindex hwriting hroom
    next => cases h
  | sealed index =>
    obtain ⟨holding, hindex, h⟩ := Option.bind_eq_some_iff.1 h
    split at h
    next =>
      split at h
      next =>
        cases h
        exact .consumed _ _ _ _ hindex (fun _ hlost => by cases hlost) (fun _ => by simp)
      next region hregion =>
        cases h
        refine .consumed _ _ _ _ hindex (fun _ heq => ?_) (fun _ => by simp)
        cases heq
        unfold ArenaReservation.sealed at hregion
        split at hregion
        next => cases hregion
        next hfull =>
          cases hregion
          rw [ArenaReservation.sealWritten, Decidable.not_not.1 hfull]
    next => cases h
  | sealWritten index =>
    obtain ⟨holding, hindex, h⟩ := Option.bind_eq_some_iff.1 h
    split at h
    next =>
      cases h
      exact .consumed _ _ _ _ hindex (fun _ heq => by cases heq; rfl) (fun _ => by simp)
    next => cases h

/-! ### The invariant -/

/-- A reservation with the bytes its writes put into the mapping. -/
structure Holding.Kept (bytes : Nat → UInt8) (holding : Holding) : Prop where
  aligned : arenaAlignment ∣ holding.reservation.offset
  written : holding.accepted.length = holding.reservation.written
  within : holding.reservation.written ≤ holding.reservation.capacity
  contents : ∀ i, ∀ hi : i < holding.accepted.length,
    bytes (holding.reservation.offset + i) = holding.accepted[i]
  region : ∀ region, holding.fate = .sealed region →
    region = holding.reservation.sealWritten

/-- The regions lie one after the other below `next_offset`. -/
structure ArenaRun.Kept (s : ArenaRun) : Prop where
  used_le : s.arena.nextOffset ≤ s.arena.capacity
  used_mem : s.arena.nextOffset ∈ s.usedValues
  usedValues_le : ∀ value ∈ s.usedValues, value ≤ s.arena.nextOffset
  ends : ∀ range ∈ s.held.map (·.reservation.range), range.stop ≤ s.arena.nextOffset
  ordered : (s.held.map (·.reservation.range)).Pairwise fun a b => a.stop ≤ b.start
  held : ∀ (index : Nat) (holding : Holding), s.held[index]? = some holding →
    holding.Kept s.arena.bytes

theorem ArenaRun.Kept.apart (h : s.Kept) {j : Nat} {a b : Holding} (hi : s.held[i]? = some a)
    (hj : s.held[j]? = some b) (hne : i ≠ j) :
    a.reservation.range.stop ≤ b.reservation.range.start ∨
      b.reservation.range.stop ≤ a.reservation.range.start := by
  have hpair := List.pairwise_iff_getElem.1 (List.pairwise_map.1 h.ordered)
  obtain ⟨hlti, rfl⟩ := List.getElem?_eq_some_iff.1 hi
  obtain ⟨hltj, rfl⟩ := List.getElem?_eq_some_iff.1 hj
  rcases Nat.lt_or_gt_of_ne hne with hlt | hlt
  · exact .inl (hpair i j hlti hltj hlt)
  · exact .inr (hpair j i hltj hlti hlt)

theorem map_range_set {held : List Holding} {index : Nat} (hindex : held[index]? = some holding)
    (hrange : holding'.reservation.range = holding.reservation.range) :
    (held.set index holding').map (·.reservation.range) = held.map (·.reservation.range) := by
  refine List.ext_getElem? fun j => ?_
  rw [List.getElem?_map, List.getElem?_map, List.getElem?_set]
  split
  next heq =>
    subst heq
    obtain ⟨hlt, -⟩ := List.getElem?_eq_some_iff.1 hindex
    rw [if_pos hlt, hindex]
    exact congrArg some hrange
  next => rfl

theorem ArenaRun.Kept.set (h : s.Kept) {index : Nat} (hindex : s.held[index]? = some holding)
    (hrange : holding'.reservation.range = holding.reservation.range) (hkept : holding'.Kept bytes)
    (hothers : ∀ (j : Nat) (other : Holding), j ≠ index → s.held[j]? = some other →
      other.Kept bytes) : ArenaRun.Kept
      { s with
        arena := { s.arena with bytes := bytes }
        held := s.held.set index holding' } where
  used_le := h.used_le
  used_mem := h.used_mem
  usedValues_le := h.usedValues_le
  ends range hmem := h.ends range (map_range_set hindex hrange ▸ hmem)
  ordered := (map_range_set hindex hrange).symm ▸ h.ordered
  held j other hj := by
    rw [List.getElem?_set] at hj
    split at hj
    next heq =>
      split at hj
      next => cases hj; exact hkept
      next => cases hj
    next hne => exact hothers j other (Ne.symm hne) hj

theorem Holding.Kept.mono {bytes' : Nat → UInt8} (h : holding.Kept bytes)
    (hsame : ∀ x ∈ holding.reservation.range, bytes' x = bytes x) : holding.Kept bytes' where
  aligned := h.aligned
  written := h.written
  within := h.within
  contents i hi := by
    rw [hsame _ ?_]
    · exact h.contents i hi
    · have := h.within
      rw [← h.written] at this
      simp only [Range.mem_iff, ArenaReservation.range]
      omega
  region := h.region

theorem Holding.Kept.written_more (h : holding.Kept bytes) {buffer : List UInt8}
    (hwriting : holding.fate = .writing)
    (hroom : buffer.length ≤ holding.reservation.capacity - holding.reservation.written) :
    Holding.Kept
      (ArenaReservation.copyTo bytes
        (holding.reservation.offset + holding.reservation.written) buffer)
      ⟨{ holding.reservation with written := holding.reservation.written + buffer.length },
        holding.accepted ++ buffer, holding.fate⟩ where
  aligned := h.aligned
  written := by simp [h.written]
  within := by
    have := h.within
    dsimp only
    omega
  contents i hi := by
    have hlen := h.written
    dsimp only at hi ⊢
    rw [List.length_append] at hi
    rcases Nat.lt_or_ge i holding.accepted.length with hold | hnew
    · rw [List.getElem_append_left hold, copyTo_other (.inl (by omega))]
      exact h.contents i hold
    · rw [List.getElem_append_right hnew, copyTo_at (by omega) (by omega)]
      congr 1
      omega
  region region heq := by
    rw [hwriting] at heq
    cases heq

theorem ArenaRun.Kept.acted (h : s.Kept) (hacted : s.Acted s' outcome) : s'.Kept := by
  cases hacted with
  | reserving thread reserving outcome =>
    exact ⟨h.used_le, h.used_mem, h.usedValues_le, h.ends, h.ordered, h.held⟩
  | refused error => exact h
  | reserved thread reserving region hclaim =>
    obtain ⟨hdvd, hle, hstop, hcapacity⟩ := SharedTransferArena.claim_ok hclaim
    have hlater : s.arena.nextOffset ≤ region.2 := by omega
    refine ⟨hcapacity, List.mem_cons_self, ?_, ?_, ?_, ?_⟩
    · intro value hvalue
      rcases List.mem_cons.1 hvalue with rfl | hvalue
      · exact Nat.le_refl _
      · exact Nat.le_trans (h.usedValues_le value hvalue) hlater
    · intro range hrange
      simp only [reserve, List.map_append, List.map_cons, List.map_nil, List.mem_append,
        List.mem_singleton] at hrange
      rcases hrange with hrange | rfl
      · exact Nat.le_trans (h.ends range hrange) hlater
      · exact Nat.le_of_eq hstop
    · simp only [reserve, List.map_append, List.map_cons, List.map_nil]
      refine List.pairwise_append.2 ⟨h.ordered, List.pairwise_singleton _ _, ?_⟩
      intro range hrange new hnew
      rw [List.mem_singleton.1 hnew]
      exact Nat.le_trans (h.ends range hrange) hle
    · intro index holding hindex
      simp only [reserve, List.getElem?_append] at hindex
      split at hindex
      next => exact h.held index holding hindex
      next =>
        rw [List.getElem?_singleton] at hindex
        split at hindex
        next =>
          cases hindex
          exact ⟨hdvd, rfl, Nat.zero_le _, fun i hi => absurd hi (Nat.not_lt_zero i),
            fun _ heq => by cases heq⟩
        next => cases hindex
  | written index holding buffer hindex hwriting hroom =>
    refine h.set hindex rfl ((h.held index holding hindex).written_more hwriting hroom) ?_
    intro j other hne hj
    refine (h.held j other hj).mono fun x hx => copyTo_other ?_
    have hwithin := (h.held index holding hindex).within
    have hapart := h.apart hj hindex hne
    simp only [Range.mem_iff, ArenaReservation.range] at hx hapart
    omega
  | consumed index holding fate outcome hindex hfate _ =>
    have hkept := h.held index holding hindex
    exact h.set hindex rfl
      ⟨hkept.aligned, hkept.written, hkept.within, hkept.contents, hfate⟩
      fun j other _ hj => h.held j other hj

theorem ArenaRun.kept_start {capacity generation : Nat} {arena : SharedTransferArena}
    (h : SharedTransferArena.create capacity generation = .ok arena) :
    (ArenaRun.start arena).Kept := by
  unfold SharedTransferArena.create validateParameters at h
  split at h
  next => cases h
  next =>
    split at h
    next => cases h
    next =>
      split at h
      next => cases h
      next =>
        cases h
        exact ⟨Nat.zero_le _, List.mem_singleton.2 rfl,
          fun value hvalue => Nat.le_of_eq (List.mem_singleton.1 hvalue),
          (fun _ hrange => by cases hrange), List.Pairwise.nil, (fun _ _ hindex => by cases hindex)⟩

theorem ArenaRun.kept_run (h : s.Kept) (hrun : Steps.run ArenaRun.step s events = some s') :
    s'.Kept := by
  refine Steps.run_keeps (P := fun _ _ => True) ?_ h (Steps.along_true _ _) hrun
  intro s event s' hs _ hstep
  obtain ⟨result, hact, rfl⟩ := Option.map_eq_some_iff.1 hstep
  exact hs.acted (act_acted hact)

/-! ### Regions, reservers and readers -/

/-- The bytes that reservation number `index` took by an event. -/
def takenBy (index : Nat) : ArenaEvent × Outcome → List UInt8
  | (.write i buffer, .accepted _) => if i = index then buffer else []
  | _ => []

/-- The events of a run with what the callers got. -/
def ArenaRun.trace : ArenaRun → List ArenaEvent → List (ArenaEvent × Outcome)
  | _, [] => []
  | s, event :: rest =>
      match s.act event with
      | none => []
      | some result => (event, result.2) :: result.1.trace rest

/-- The concatenation of what the writes of reservation number `index` were accepted with. -/
def acceptedBy (index : Nat) (trace : List (ArenaEvent × Outcome)) : List UInt8 :=
  trace.flatMap (takenBy index)

/-- What reservation number `index` holds, nothing when there is none. -/
def ArenaRun.acceptedAt (s : ArenaRun) (index : Nat) : List UInt8 :=
  ((s.held[index]?).map Holding.accepted).getD []

theorem acceptedAt_set (hi : s.held[i]? = some holding) (arena : SharedTransferArena)
    (more : List UInt8) (hmore : holding'.accepted = holding.accepted ++ more) (index : Nat) :
    ArenaRun.acceptedAt { s with arena := arena, held := s.held.set i holding' } index =
      s.acceptedAt index ++ if i = index then more else [] := by
  unfold ArenaRun.acceptedAt
  obtain ⟨hlt, rfl⟩ := List.getElem?_eq_some_iff.1 hi
  rw [List.getElem?_set]
  split
  next heq =>
    subst heq
    simp [hlt, hmore]
  next => simp

theorem acceptedAt_consume (hi : s.held[i]? = some holding) (fate : Fate) (index : Nat) :
    (s.consume i holding fate).acceptedAt index = s.acceptedAt index := by
  have hkept : ({ holding with fate := fate } : Holding).accepted = holding.accepted ++ [] :=
    (List.append_nil _).symm
  have hset := acceptedAt_set hi s.arena [] hkept index
  rw [ite_self, List.append_nil] at hset
  exact hset

theorem ArenaRun.acceptedAt_act (h : s.act event = some (s', outcome)) (index : Nat) :
    s'.acceptedAt index = s.acceptedAt index ++ takenBy index (event, outcome) := by
  cases event with
  | load thread length observed =>
    simp only [act] at h
    split at h <;> cases h
    simp [takenBy, acceptedAt, setReserving]
  | attempt thread spurious observed =>
    obtain ⟨reserving, -, h⟩ := Option.bind_eq_some_iff.1 h
    have htaken : takenBy index (.attempt thread spurious observed, outcome) = [] := rfl
    rw [htaken, List.append_nil]
    unfold attempt at h
    split at h
    next => cases h; rfl
    next region _ =>
      split at h
      next =>
        cases h
        unfold acceptedAt reserve
        rw [List.getElem?_append]
        split
        next => rfl
        next hge =>
          rw [List.getElem?_eq_none (l := s.held) (by omega), List.getElem?_singleton]
          split <;> rfl
      next =>
        split at h <;> cases h
        rfl
  | write i buffer =>
    obtain ⟨holding, hindex, h⟩ := Option.bind_eq_some_iff.1 h
    split at h
    next =>
      unfold write at h
      split at h
      next =>
        cases h
        simp [takenBy]
      next result _ =>
        cases h
        exact acceptedAt_set hindex _ buffer rfl index
    next => cases h
  | sealed i =>
    obtain ⟨holding, hindex, h⟩ := Option.bind_eq_some_iff.1 h
    have htaken : takenBy index (.sealed i, outcome) = [] := rfl
    rw [htaken, List.append_nil]
    split at h
    next =>
      split at h <;> cases h
      all_goals exact acceptedAt_consume hindex _ index
    next => cases h
  | sealWritten i =>
    obtain ⟨holding, hindex, h⟩ := Option.bind_eq_some_iff.1 h
    have htaken : takenBy index (.sealWritten i, outcome) = [] := rfl
    rw [htaken, List.append_nil]
    split at h
    next =>
      cases h
      exact acceptedAt_consume hindex _ index
    next => cases h

theorem ArenaRun.acceptedAt_run (hrun : Steps.run ArenaRun.step s events = some s') (index : Nat) :
    s'.acceptedAt index = s.acceptedAt index ++ acceptedBy index (s.trace events) := by
  induction events generalizing s with
  | nil =>
    cases hrun
    simp [trace, acceptedBy]
  | cons event rest ih =>
    obtain ⟨t, hstep, hrest⟩ := Option.bind_eq_some_iff.1 hrun
    obtain ⟨result, hact, rfl⟩ := Option.map_eq_some_iff.1 hstep
    rw [ih hrest, acceptedAt_act hact, List.append_assoc]
    simp [trace, hact, acceptedBy]

/-- The events of a call of `reserve`. -/
def ArenaEvent.isReserve : ArenaEvent → Bool
  | .load .. | .attempt .. => true
  | _ => false

/-- A call of `reserve` that has no region yet has changed nothing, and nor has one that
fails. -/
theorem ArenaRun.unreserved (h : s.act event = some (s', outcome))
    (hreserve : event.isReserve = true)
    (houtcome : ∀ reservation, outcome ≠ .reserved reservation) :
    s'.arena = s.arena ∧ s'.usedValues = s.usedValues ∧ s'.held = s.held := by
  cases event with
  | load thread length observed =>
    simp only [act] at h
    split at h <;> cases h
    exact ⟨rfl, rfl, rfl⟩
  | attempt thread spurious observed =>
    obtain ⟨reserving, -, h⟩ := Option.bind_eq_some_iff.1 h
    unfold attempt at h
    split at h
    next => cases h; exact ⟨rfl, rfl, rfl⟩
    next =>
      split at h
      next => cases h; exact absurd rfl (houtcome _)
      next => split at h <;> cases h; exact ⟨rfl, rfl, rfl⟩
  | write => cases hreserve
  | sealed => cases hreserve
  | sealWritten => cases hreserve

theorem ArenaRun.Acted.used_le (h : s.Acted s' outcome) :
    s.arena.used ≤ s'.arena.used ∧ s'.arena.capacity = s.arena.capacity ∧
      ∀ reservation, outcome = .reserved reservation →
        s'.held = s.held ++ [⟨reservation, [], .writing⟩] := by
  cases h with
  | reserving thread reserving outcome hunreserved =>
    exact ⟨Nat.le_refl _, rfl, fun _ h => absurd h (hunreserved _)⟩
  | reserved thread reserving region hclaim =>
    obtain ⟨-, hle, hstop, -⟩ := SharedTransferArena.claim_ok hclaim
    refine ⟨?_, rfl, fun _ h => by cases h; rfl⟩
    simp only [SharedTransferArena.used, reserve]
    omega
  | refused | written => exact ⟨Nat.le_refl _, rfl, fun _ h => by cases h⟩
  | consumed index holding fate outcome hindex hfate hunreserved =>
    exact ⟨Nat.le_refl _, rfl, fun _ h => absurd h (hunreserved _)⟩

/-- What a state of the arena has to be for its regions not to share a byte. -/
structure ArenaRun.NeverAlias (s : ArenaRun) : Prop where
  used : s.arena.used ≤ s.arena.capacity
  regions : ∀ holding ∈ s.held, arenaAlignment ∣ holding.reservation.range.start ∧
    holding.reservation.range.stop ≤ s.arena.capacity
  apart : s.held.Pairwise fun a b => a.reservation.range.Apart b.reservation.range
  contents : ∀ (index : Nat) (holding : Holding) (region : SealedArenaRegion),
    s.held[index]? = some holding → holding.fate = .sealed region →
    region.offset = holding.reservation.offset ∧
      slice s.arena.bytes region.offset region.length = holding.accepted

/-- What a reader finds whose bound is a value that `used()` has had. -/
structure ArenaRun.Readable (s : ArenaRun) (reader : SharedTransferArenaReader) : Prop where
  advances : reader.capacity = s.arena.capacity → ∀ published ∈ s.usedValues,
    reader.published ≤ published →
    reader.advancePublished published = .ok { reader with published := published }
  regions : ∀ (index : Nat) (holding : Holding) (region : SealedArenaRegion),
    s.held[index]? = some holding → holding.fate = .sealed region →
    region.offset + region.length ≤ reader.published →
    reader.region s.arena.bytes region.offset region.length = .ok holding.accepted
  /-- Inside the bound the mapping is served as it is, sealed or not. -/
  inside : ∀ offset length : Nat, offset + length ≤ reader.published →
    reader.region s.arena.bytes offset length = .ok (slice s.arena.bytes offset length)
  beyond : ∀ offset length : Nat, reader.published < offset + length →
    ∃ stop, reader.region s.arena.bytes offset length =
      .error (.invalidRegion offset stop reader.published)

theorem Holding.Kept.slice_eq (h : holding.Kept bytes) {region : SealedArenaRegion}
    (hregion : holding.fate = .sealed region) : region.offset = holding.reservation.offset ∧
      slice bytes region.offset region.length = holding.accepted := by
  rw [h.region region hregion]
  refine ⟨rfl, List.ext_getElem ?_ fun i hi hi' => ?_⟩
  · simp [slice, ArenaReservation.sealWritten, h.written]
  · simp [slice, ArenaReservation.sealWritten, h.contents i hi']

theorem ArenaRun.Kept.neverAlias (h : s.Kept) : s.NeverAlias where
  used := h.used_le
  regions holding hmem := by
    obtain ⟨index, hindex⟩ := List.mem_iff_getElem?.1 hmem
    exact ⟨(h.held index holding hindex).aligned,
      Nat.le_trans (h.ends _ (List.mem_map_of_mem hmem)) h.used_le⟩
  apart := (List.pairwise_map.1 h.ordered).imp fun hle => Range.apart_of_le hle
  contents index holding _ hindex hregion := (h.held index holding hindex).slice_eq hregion

theorem ArenaRun.Kept.region_inside (h : s.Kept) {reader : SharedTransferArenaReader}
    (hpublished : reader.published ∈ s.usedValues)
    (hcapacity : s.arena.capacity ≤ maxTransferArenaBytes) {offset length : Nat}
    (hle : offset + length ≤ reader.published) :
    reader.region s.arena.bytes offset length = .ok (slice s.arena.bytes offset length) := by
  have hused := Nat.le_trans (h.usedValues_le _ hpublished) h.used_le
  have hsum : checkedAdd offset length = some (offset + length) := by
    refine checkedAdd_eq_some.2 ⟨?_, rfl⟩
    rw [maxTransferArenaBytes] at hcapacity
    rw [usizeMax]
    omega
  simp only [SharedTransferArenaReader.region, hsum, if_neg (Nat.not_lt.2 hle)]

theorem ArenaRun.Kept.readable (h : s.Kept) (reader : SharedTransferArenaReader)
    (hpublished : reader.published ∈ s.usedValues)
    (hcapacity : s.arena.capacity ≤ maxTransferArenaBytes) : s.Readable reader where
  advances hsame published hmem hle := by
    have hused := Nat.le_trans (h.usedValues_le published hmem) h.used_le
    rw [SharedTransferArenaReader.advancePublished, if_neg (Nat.not_lt.2 hle), hsame,
      if_neg (Nat.not_lt.2 hused)]
  regions index holding region hindex hregion hle := by
    rw [h.region_inside hpublished hcapacity hle,
      ((h.held index holding hindex).slice_eq hregion).2]
  inside _ _ hle := h.region_inside hpublished hcapacity hle
  beyond offset length hbeyond := by
    simp only [SharedTransferArenaReader.region, checkedAdd]
    by_cases hfits : offset + length ≤ usizeMax
    · exact ⟨offset + length, by rw [if_pos hfits]; simp [hbeyond]⟩
    · exact ⟨usizeMax, by rw [if_neg hfits]⟩

theorem ArenaRun.capacity_run (hrun : Steps.run ArenaRun.step s events = some s') :
    s'.arena.capacity = s.arena.capacity := by
  refine Steps.run_keeps (I := fun t => t.arena.capacity = s.arena.capacity)
    (P := fun _ _ => True) ?_ rfl (Steps.along_true _ _) hrun
  intro t event t' ht _ hstep
  obtain ⟨result, hact, rfl⟩ := Option.map_eq_some_iff.1 hstep
  exact (act_acted hact).used_le.2.1.trans ht

/-- **Regions never alias**, in any run of reserves, writes and seals on a new arena: what the
regions are to each other, what is in them, what readers of the used part find in them, and
what the next event can do. -/
theorem arena_regions_never_alias {capacity generation : Nat} {arena : SharedTransferArena}
    (hcreate : SharedTransferArena.create capacity generation = .ok arena)
    {events : List ArenaEvent} {s : ArenaRun}
    (hrun : Steps.run ArenaRun.step (ArenaRun.start arena) events = some s) :
    s.arena.capacity = capacity ∧ s.NeverAlias ∧
    (∀ (index : Nat) (holding : Holding), s.held[index]? = some holding →
      holding.accepted = acceptedBy index ((ArenaRun.start arena).trace events)) ∧
    (∀ reader : SharedTransferArenaReader, reader.published ∈ s.usedValues →
      s.Readable reader) ∧
    (∀ (event : ArenaEvent) (s' : ArenaRun) (outcome : Outcome),
      s.act event = some (s', outcome) →
      s.arena.used ≤ s'.arena.used ∧
      (∀ reservation, outcome = .reserved reservation →
        s'.held = s.held ++ [⟨reservation, [], .writing⟩]) ∧
      (event.isReserve = true → (∀ reservation, outcome ≠ .reserved reservation) →
        s'.arena = s.arena ∧ s'.usedValues = s.usedValues ∧ s'.held = s.held)) := by
  have hkept := ArenaRun.kept_run (ArenaRun.kept_start hcreate) hrun
  obtain ⟨harena, hlimit⟩ : arena.capacity = capacity ∧ capacity ≤ maxTransferArenaBytes := by
    unfold SharedTransferArena.create validateParameters at hcreate
    split at hcreate
    next => cases hcreate
    next =>
      split at hcreate
      next => cases hcreate
      next =>
        split at hcreate
        next => cases hcreate
        next hle =>
          cases hcreate
          exact ⟨rfl, Nat.le_of_not_lt hle⟩
  have hcapacity : s.arena.capacity = capacity := (ArenaRun.capacity_run hrun).trans harena
  refine ⟨hcapacity, hkept.neverAlias, ?_, ?_, ?_⟩
  · intro index holding hindex
    have haccepted := ArenaRun.acceptedAt_run hrun index
    simpa [ArenaRun.acceptedAt, hindex, ArenaRun.start] using haccepted
  · exact fun reader hpublished => hkept.readable reader hpublished (hcapacity ▸ hlimit)
  · intro event s' outcome hact
    obtain ⟨hused, -, hreserved⟩ := (ArenaRun.act_acted hact).used_le
    exact ⟨hused, hreserved, fun hreserve houtcome =>
      ArenaRun.unreserved hact hreserve houtcome⟩

/-- Two threads reserve at once: one loses an exchange, and then another for no reason. -/
def twoThreads : List ArenaEvent :=
  [.load 0 3 0, .load 1 5 0, .attempt 0 false 0, .attempt 1 false 3, .attempt 1 true 3,
    .attempt 1 false 3, .write 1 [1, 2, 3, 4, 5], .write 0 [7, 8], .sealed 1, .sealWritten 0]

theorem arena_regions_never_alias_two : ∃ arena s,
    SharedTransferArena.create 64 1 = .ok arena ∧
    Steps.run ArenaRun.step (ArenaRun.start arena) twoThreads = some s ∧
    s.arena.used = 13 ∧ s.NeverAlias := by
  have hcreate : SharedTransferArena.create 64 1 = .ok ⟨64, fun _ => 0, 0, 1⟩ := rfl
  have hused : (Steps.run ArenaRun.step (ArenaRun.start ⟨64, fun _ => 0, 0, 1⟩) twoThreads).map
      (fun s => s.arena.used) = some 13 := rfl
  obtain ⟨s, hrun, hs⟩ := Option.map_eq_some_iff.1 hused
  exact ⟨_, s, hcreate, hrun, hs, (arena_regions_never_alias hcreate hrun).2.1⟩

/-- A reservation of eight bytes is sealed after three. -/
def partlyWritten : List ArenaEvent :=
  [.load 0 8 0, .attempt 0 false 0, .write 0 [7, 8, 9], .sealWritten 0]

/-- The reader serves bytes that were reserved and never written, and no region was sealed from. -/
theorem region_serves_unsealed_bytes : ∃ arena s reader,
    SharedTransferArena.create 64 1 = .ok arena ∧
    Steps.run ArenaRun.step (ArenaRun.start arena) partlyWritten = some s ∧
    SharedTransferArenaReader.fromDescriptor 64 8 1 = .ok reader ∧
    reader.published ∈ s.usedValues ∧ s.held.map Holding.fate = [.sealed ⟨0, 3⟩] ∧
    reader.region s.arena.bytes 0 8 = .ok [7, 8, 9, 0, 0, 0, 0, 0] := by
  have hseen : (Steps.run ArenaRun.step (ArenaRun.start ⟨64, fun _ => 0, 0, 1⟩)
      partlyWritten).map (fun s => (s.usedValues, s.held.map Holding.fate, slice s.arena.bytes 0 8)) =
        some ([8, 0], [.sealed ⟨0, 3⟩], [7, 8, 9, 0, 0, 0, 0, 0]) := rfl
  obtain ⟨s, hrun, hs⟩ := Option.map_eq_some_iff.1 hseen
  obtain ⟨hused, hfates, hbytes⟩ : s.usedValues = [8, 0] ∧
      s.held.map Holding.fate = [.sealed ⟨0, 3⟩] ∧
        slice s.arena.bytes 0 8 = [7, 8, 9, 0, 0, 0, 0, 0] := by simpa using hs
  refine ⟨_, s, ⟨64, 8, 1⟩, rfl, hrun, rfl, ?_, hfates, congrArg Except.ok hbytes⟩
  rw [hused]
  exact List.mem_cons_self

end RevyCraft.Transfer
