/-
  RevyCraft/TransferWire.lean
  ===========================
  **The process-transfer wire format** (`version.rs`): revisions, committed
  mutations, the delta frame that carries them to the successor process, and
  the bounded encoder and reader around it.

  The commit payload is a type variable `μ` (instantiated with
  `CoreTransferMutation` in `RevyCraft.Version`), because nothing in this
  layer looks inside a mutation.  The CBOR codec (`ciborium`) is not part of
  the repository: it is the parameter `Codec`, and the only fact used about
  it is `Codec.RoundTrips`.  Allocation failure (`try_reserve`) is not
  modelled; the destination of a frame is a `Vec<u8>`, whose `write_all`
  cannot fail.
-/
import RevyCraft.Bytes
import Mathlib.Tactic.NormNum

namespace RevyCraft

open Bytes

abbrev ByteArr := List UInt8

/-- `usize::MAX` and `u64::MAX` on the supported 64-bit targets. -/
def u64Max : Nat := 2 ^ 64 - 1

def CORE_TRANSFER_FORMAT_MAJOR : Nat := 2
def MAX_CORE_TRANSFER_BYTES : Nat := 512 * 1024 * 1024
def CORE_DELTA_MAGIC : ByteArr := [0x52, 0x56, 0x43, 0x44, 0x43, 0x4F, 0x52, 0x45]
def CORE_DELTA_HEADER_BYTES : Nat := CORE_DELTA_MAGIC.length + 2 + 8 * 2 + 4

/-- `CoreTransferDelta::MAX_COMMITS`. -/
def MAX_COMMITS : Nat := 131072

/-! ### Revisions -/

/-- A `u64` revision number; the bound is part of the value. -/
structure CoreRevision where
  value : Nat
  bound : value ≤ u64Max
  deriving DecidableEq

variable {a b : CoreRevision} {commits : List EncodedCoreTransferCommit}

namespace CoreRevision

theorem ext_value (h : a.value = b.value) : a = b := by
  cases a
  cases b
  cases h
  rfl

instance : LE CoreRevision := ⟨fun a b => a.value ≤ b.value⟩
instance : LT CoreRevision := ⟨fun a b => a.value < b.value⟩

instance (a b : CoreRevision) : Decidable (a ≤ b) := inferInstanceAs (Decidable (a.value ≤ b.value))
instance (a b : CoreRevision) : Decidable (a < b) := inferInstanceAs (Decidable (a.value < b.value))

theorem le_def : a ≤ b ↔ a.value ≤ b.value := Iff.rfl
theorem lt_def : a < b ↔ a.value < b.value := Iff.rfl

def initial : CoreRevision := ⟨0, Nat.zero_le _⟩

/-- `CoreRevision::next`: `saturating_add(1)`. -/
def next (r : CoreRevision) : CoreRevision :=
  ⟨min (r.value + 1) u64Max, Nat.min_le_right _ _⟩

@[simp] theorem next_value (r : CoreRevision) : r.next.value = min (r.value + 1) u64Max := rfl

theorem le_next (r : CoreRevision) : r ≤ r.next := by
  have := r.bound
  simp only [le_def, next_value]
  omega

end CoreRevision

/-! ### Errors -/

inductive CoreTransferError where
  | codec (message : String)
  | budgetExceeded (actual limit : Nat)
  | trailingBytes (remaining : Nat)
  | unsupportedFormat (major : Nat)
  | invalidState (message : String)
  deriving DecidableEq

/-- How a transfer operation ends without a value: with one of its own errors, or because
    the core it drives panics. -/
inductive Fault where
  | error (error : CoreTransferError)
  | panic (message : String)

/-! ### The codec and the bounded encoder -/

/-- `ciborium` at one type: the chunks it hands to the writer, followed by a serialisation
    error if there is one, and the reader, which leaves the bytes it did not consume. -/
structure Codec (α : Type) where
  intoWriter : α → List ByteArr × Option String
  fromReader : ByteArr → Except String (α × ByteArr)

namespace Codec

variable {α : Type}

/-- The value serialises without an error of its own. -/
def Encodable (c : Codec α) (v : α) : Prop := (c.intoWriter v).2 = none

/-- All the bytes the codec writes for a value. -/
def bytes (c : Codec α) (v : α) : ByteArr := (c.intoWriter v).1.flatten

/-- Decoding what was encoded gives the value back and consumes everything. -/
def RoundTrips (c : Codec α) : Prop :=
  ∀ v, c.Encodable v → c.fromReader (c.bytes v) = .ok (v, [])

end Codec

structure BoundedTransferWriter where
  bytes : ByteArr
  limit : Nat

inductive TransferWriteFailure where
  | budgetExceeded (actual : Nat)

def BoundedTransferWriter.write (w : BoundedTransferWriter) (data : ByteArr) :
    Except TransferWriteFailure BoundedTransferWriter :=
  let actual := w.bytes.length + data.length
  if actual > u64Max then .error (.budgetExceeded u64Max)
  else if actual > w.limit then .error (.budgetExceeded actual)
  else .ok { w with bytes := w.bytes ++ data }

def BoundedTransferWriter.writeAll (w : BoundedTransferWriter) :
    List ByteArr → Except TransferWriteFailure BoundedTransferWriter
  | [] => .ok w
  | data :: rest =>
    match w.write data with
    | .error e => .error e
    | .ok w' => w'.writeAll rest

section Encode

variable {α : Type} (c : Codec α)

def encodeTransfer (value : α) (byteLimit : Nat) : Except CoreTransferError ByteArr :=
  match (BoundedTransferWriter.mk [] byteLimit).writeAll (c.intoWriter value).1 with
  | .error (.budgetExceeded actual) => .error (.budgetExceeded actual byteLimit)
  | .ok w =>
    match (c.intoWriter value).2 with
    | some message => .error (.codec message)
    | none => .ok w.bytes

def decodeTransfer (bytes : ByteArr) : Except CoreTransferError α :=
  if bytes.length > MAX_CORE_TRANSFER_BYTES then
    .error (.budgetExceeded bytes.length MAX_CORE_TRANSFER_BYTES)
  else
    match c.fromReader bytes with
    | .error message => .error (.codec message)
    | .ok (value, remaining) =>
      if remaining.isEmpty then .ok value else .error (.trailingBytes remaining.length)

theorem BoundedTransferWriter.write_fits (w : BoundedTransferWriter) (data : ByteArr)
    (hl : w.limit ≤ u64Max) (hfit : w.bytes.length + data.length ≤ w.limit) :
    w.write data = .ok ⟨w.bytes ++ data, w.limit⟩ := by
  unfold write
  rw [if_neg (by omega), if_neg (by omega)]

theorem BoundedTransferWriter.write_exceeds (w : BoundedTransferWriter) (data : ByteArr)
    (hbig : w.limit < w.bytes.length + data.length) :
    ∃ actual, w.write data = .error (.budgetExceeded actual) := by
  by_cases hover : w.bytes.length + data.length > u64Max
  · exact ⟨u64Max, by simp only [write, if_pos hover]⟩
  · refine ⟨w.bytes.length + data.length, ?_⟩
    simp only [write, if_neg hover, gt_iff_lt, if_pos hbig]

/-- The bounded writer accepts the chunks exactly when they fit the limit together. -/
theorem BoundedTransferWriter.writeAll_spec (bytes : ByteArr) (limit : Nat)
    (chunks : List ByteArr) (hl : limit ≤ u64Max) (hw : bytes.length ≤ limit) :
    (bytes.length + chunks.flatten.length ≤ limit ∧
        (mk bytes limit).writeAll chunks = .ok ⟨bytes ++ chunks.flatten, limit⟩) ∨
      (limit < bytes.length + chunks.flatten.length ∧
        ∃ actual, (mk bytes limit).writeAll chunks = .error (.budgetExceeded actual)) := by
  induction chunks generalizing bytes with
  | nil =>
    left
    simp [writeAll, hw]
  | cons data rest ih =>
    simp only [writeAll, List.flatten_cons, List.length_append]
    by_cases hfit : bytes.length + data.length ≤ limit
    · rw [write_fits ⟨bytes, limit⟩ data hl hfit]
      have hlen : (bytes ++ data).length ≤ limit := by simpa using hfit
      rcases ih (bytes ++ data) hlen with ⟨h, hok⟩ | ⟨h, herr⟩
      · left
        rw [List.length_append] at h
        refine ⟨by omega, ?_⟩
        simpa [List.append_assoc] using hok
      · right
        rw [List.length_append] at h
        exact ⟨by omega, herr⟩
    · right
      obtain ⟨actual, herr⟩ := write_exceeds ⟨bytes, limit⟩ data (Nat.lt_of_not_le hfit)
      rw [herr]
      exact ⟨by omega, actual, rfl⟩

/-- `encode_transfer` of an encodable value yields the codec's bytes when they fit, and a
    budget error when they do not. -/
theorem encodeTransfer_spec {value : α} (he : c.Encodable value) {byteLimit : Nat}
    (hl : byteLimit ≤ u64Max) :
    ((c.bytes value).length ≤ byteLimit ∧ encodeTransfer c value byteLimit = .ok (c.bytes value)) ∨
      (byteLimit < (c.bytes value).length ∧
        ∃ actual, encodeTransfer c value byteLimit = .error (.budgetExceeded actual byteLimit)) := by
  unfold Codec.Encodable at he
  rcases BoundedTransferWriter.writeAll_spec [] byteLimit (c.intoWriter value).1 hl
    (Nat.zero_le _) with ⟨hlen, h⟩ | ⟨hlen, actual, h⟩
  · left
    refine ⟨by simpa [Codec.bytes] using hlen, ?_⟩
    simp only [encodeTransfer, h, he, List.nil_append, Codec.bytes]
  · right
    refine ⟨by simpa [Codec.bytes] using hlen, actual, ?_⟩
    simp only [encodeTransfer, h]

theorem encodeTransfer_ok {value : α} {byteLimit : Nat} (hl : byteLimit ≤ u64Max)
    {bytes : ByteArr} (h : encodeTransfer c value byteLimit = .ok bytes) :
    c.Encodable value ∧ bytes = c.bytes value ∧ bytes.length ≤ byteLimit := by
  have he : c.Encodable value := by
    unfold Codec.Encodable
    unfold encodeTransfer at h
    split at h
    · cases h
    · split at h
      · cases h
      · assumption
  rcases encodeTransfer_spec c he hl with ⟨hlen, h'⟩ | ⟨_, actual, h'⟩
  · rw [h'] at h
    cases h
    exact ⟨he, rfl, hlen⟩
  · rw [h'] at h
    cases h

theorem decodeTransfer_bytes (hc : c.RoundTrips) {value : α} (he : c.Encodable value)
    (hlen : (c.bytes value).length ≤ MAX_CORE_TRANSFER_BYTES) :
    decodeTransfer c (c.bytes value) = .ok value := by
  unfold decodeTransfer
  rw [if_neg (by omega), hc value he]
  rfl

end Encode
/-! ### Commits and sealed deltas -/

structure CoreTransferCommit (μ : Type) where
  baseRevision : CoreRevision
  nextRevision : CoreRevision
  requiresPersistence : Bool
  mutations : List μ
  deriving DecidableEq

/-- A commit serialised before the data-plane freeze. -/
structure EncodedCoreTransferCommit where
  baseRevision : CoreRevision
  nextRevision : CoreRevision
  requiresPersistence : Bool
  bytes : ByteArr

def EncodedCoreTransferCommit.encodedLen (e : EncodedCoreTransferCommit) : Nat := e.bytes.length

structure CoreTransferDeltaDescriptor where
  baseRevision : CoreRevision
  finalRevision : CoreRevision
  encodedLen : Nat

structure CoreTransferDelta where
  baseRevision : CoreRevision
  finalRevision : CoreRevision
  bytes : ByteArr
  deriving DecidableEq

def notAdjacent (base next expected : CoreRevision) : CoreTransferError :=
  .invalidState s!"core transfer commit {base.value} -> {next.value} is not adjacent to revision {expected.value}"

/-- The loop of `validate_preencoded`: `expected`, `encoded_len` and `commit_count` are its
    three accumulators. -/
def validateLoop (expected : CoreRevision) (encodedLen commitCount : Nat) :
    List EncodedCoreTransferCommit → Except CoreTransferError (CoreRevision × Nat)
  | [] => .ok (expected, encodedLen)
  | commit :: rest =>
    if commitCount + 1 > u64Max then .error (.budgetExceeded u64Max MAX_COMMITS)
    else if commitCount + 1 > MAX_COMMITS then
      .error (.budgetExceeded (commitCount + 1) MAX_COMMITS)
    else if commit.baseRevision ≠ expected ∨ commit.nextRevision ≠ expected.next then
      .error (notAdjacent commit.baseRevision commit.nextRevision expected)
    else if encodedLen + 4 + commit.bytes.length > u64Max then
      .error (.budgetExceeded u64Max MAX_CORE_TRANSFER_BYTES)
    else
      validateLoop commit.nextRevision (encodedLen + 4 + commit.bytes.length) (commitCount + 1) rest

def validatePreencoded (base : CoreRevision) (commits : List EncodedCoreTransferCommit) :
    Except CoreTransferError CoreTransferDeltaDescriptor :=
  match validateLoop base CORE_DELTA_HEADER_BYTES 0 commits with
  | .error e => .error e
  | .ok (final, encodedLen) =>
    if encodedLen > MAX_CORE_TRANSFER_BYTES then
      .error (.budgetExceeded encodedLen MAX_CORE_TRANSFER_BYTES)
    else .ok ⟨base, final, encodedLen⟩

/-- The frames of `write_preencoded`: a `u32` length before each commit. -/
def writeFrames : List EncodedCoreTransferCommit → Except CoreTransferError ByteArr
  | [] => .ok []
  | commit :: rest =>
    if commit.bytes.length ≥ 2 ^ 32 then
      .error (.budgetExceeded commit.bytes.length (2 ^ 32 - 1))
    else
      match writeFrames rest with
      | .error e => .error e
      | .ok tail => .ok (leBytes 4 commit.bytes.length ++ commit.bytes ++ tail)

/-- `write_preencoded`: what is appended to the caller's storage. -/
def writePreencoded (d : CoreTransferDeltaDescriptor) (commits : List EncodedCoreTransferCommit) :
    Except CoreTransferError ByteArr :=
  if commits.length ≥ 2 ^ 32 then .error (.budgetExceeded commits.length MAX_COMMITS)
  else
    match writeFrames commits with
    | .error e => .error e
    | .ok frames =>
      .ok (CORE_DELTA_MAGIC ++ leBytes 2 CORE_TRANSFER_FORMAT_MAJOR ++
        leBytes 8 d.baseRevision.value ++ leBytes 8 d.finalRevision.value ++
        leBytes 4 commits.length ++ frames)

/-- `CoreTransferDelta::seal_preencoded_into`: the descriptor and the bytes written. -/
def sealPreencodedInto (base : CoreRevision) (commits : List EncodedCoreTransferCommit) :
    Except CoreTransferError (CoreTransferDeltaDescriptor × ByteArr) :=
  match validatePreencoded base commits with
  | .error e => .error e
  | .ok d =>
    match writePreencoded d commits with
    | .error e => .error e
    | .ok bytes => .ok (d, bytes)

def sealPreencoded (base : CoreRevision) (commits : List EncodedCoreTransferCommit) :
    Except CoreTransferError CoreTransferDelta :=
  match sealPreencodedInto base commits with
  | .error e => .error e
  | .ok (d, bytes) => .ok ⟨base, d.finalRevision, bytes⟩

section Commit

variable {μ : Type} (c : Codec (CoreTransferCommit μ))

/-- `CoreTransferCommit::encode`. -/
def CoreTransferCommit.encode (commit : CoreTransferCommit μ) (byteLimit : Nat) :
    Except CoreTransferError EncodedCoreTransferCommit :=
  match encodeTransfer c commit (min byteLimit MAX_CORE_TRANSFER_BYTES) with
  | .error e => .error e
  | .ok bytes =>
    .ok ⟨commit.baseRevision, commit.nextRevision, commit.requiresPersistence, bytes⟩

/-- `CoreTransferDelta::prepare`. -/
def CoreTransferDelta.prepare (base : CoreRevision) (commits : List (CoreTransferCommit μ)) :
    Except CoreTransferError CoreTransferDelta :=
  match commits.mapM (fun commit => commit.encode c MAX_CORE_TRANSFER_BYTES) with
  | .error e => .error e
  | .ok encoded => sealPreencoded base encoded

/-- What `encode` returns for a commit that fits its budget. -/
def CoreTransferCommit.encoded (commit : CoreTransferCommit μ) : EncodedCoreTransferCommit :=
  ⟨commit.baseRevision, commit.nextRevision, commit.requiresPersistence, c.bytes commit⟩

end Commit

/-! ### Chains of adjacent commits -/

/-- `Chain base commits final`: each commit starts where the one before ended and advances
    the revision once, as `validate_preencoded` demands. -/
inductive Chain : CoreRevision → List EncodedCoreTransferCommit → CoreRevision → Prop where
  | nil (r : CoreRevision) : Chain r [] r
  | cons {commit : EncodedCoreTransferCommit} {rest : List EncodedCoreTransferCommit}
      {final : CoreRevision} (hn : commit.nextRevision = commit.baseRevision.next)
      (h : Chain commit.nextRevision rest final) : Chain commit.baseRevision (commit :: rest) final

namespace Chain

variable {base final : CoreRevision} {commits : List EncodedCoreTransferCommit}

theorem cons_iff {commit : EncodedCoreTransferCommit} :
    Chain base (commit :: commits) final ↔ commit.baseRevision = base ∧
      commit.nextRevision = base.next ∧ Chain commit.nextRevision commits final := by
  constructor
  · intro h
    cases h with
    | cons hn h => exact ⟨rfl, hn, h⟩
  · rintro ⟨rfl, hn, h⟩
    exact .cons hn h

theorem le (h : Chain base commits final) : base ≤ final := by
  induction h with
  | nil r => exact Nat.le_refl _
  | cons hn _ ih =>
    rw [hn] at ih
    exact Nat.le_trans (CoreRevision.le_next _) ih

theorem append {mid : CoreRevision} {more : List EncodedCoreTransferCommit}
    (h : Chain base commits mid) (h' : Chain mid more final) :
    Chain base (commits ++ more) final := by
  induction h with
  | nil r => exact h'
  | cons hn _ ih => exact .cons hn (ih h')

/-- Every commit of a chain ends above the chain's base or at the saturated revision, and at
    or below its final revision. -/
theorem next_le (h : Chain base commits final) {commit : EncodedCoreTransferCommit}
    (hm : commit ∈ commits) : base ≤ commit.nextRevision ∧ commit.nextRevision ≤ final := by
  induction h with
  | nil r => cases hm
  | @cons head rest final hn h ih =>
    have hstep : head.baseRevision ≤ head.nextRevision := hn ▸ CoreRevision.le_next _
    rcases List.mem_cons.mp hm with rfl | hm
    · exact ⟨hstep, h.le⟩
    · obtain ⟨h1, h2⟩ := ih hm
      exact ⟨Nat.le_trans hstep h1, h2⟩

theorem filter_after (h : Chain base commits final) {r : CoreRevision} (hb : base ≤ r)
    (hr : r ≤ final) : Chain r (commits.filter fun e => r < e.nextRevision) final := by
  induction h with
  | nil b =>
    have : r = b := CoreRevision.ext_value (Nat.le_antisymm hr hb)
    subst this
    exact .nil r
  | @cons head rest final hn h ih =>
    by_cases hlt : r < head.nextRevision
    · have hbase : head.baseRevision = r := by
        apply CoreRevision.ext_value
        rw [hn] at hlt
        simp only [CoreRevision.lt_def, CoreRevision.le_def, CoreRevision.next_value] at hlt hb
        omega
      -- from here on nothing is dropped: revisions never decrease along a chain
      have hall : rest.filter (fun e => r < e.nextRevision) = rest := by
        apply List.filter_eq_self.mpr
        intro e he
        exact decide_eq_true (Nat.lt_of_lt_of_le hlt (h.next_le he).1)
      rw [List.filter_cons_of_pos (by simpa using hlt), hall, ← hbase]
      exact .cons hn h
    · rw [List.filter_cons_of_neg (by simpa using hlt)]
      exact ih (Nat.le_of_not_lt hlt) hr

end Chain

/-! ### Sealing a chain -/

/-- The bytes of the frames, written without the width check. -/
def framesOf (commits : List EncodedCoreTransferCommit) : ByteArr :=
  (commits.map fun e => leBytes 4 e.bytes.length ++ e.bytes).flatten

/-- The sum of the retained encoded lengths. -/
def encodedTotal (commits : List EncodedCoreTransferCommit) : Nat :=
  (commits.map EncodedCoreTransferCommit.encodedLen).sum

def deltaFrame (base final : CoreRevision) (commits : List EncodedCoreTransferCommit) : ByteArr :=
  CORE_DELTA_MAGIC ++ leBytes 2 CORE_TRANSFER_FORMAT_MAJOR ++ leBytes 8 base.value ++
    leBytes 8 final.value ++ leBytes 4 commits.length ++ framesOf commits

@[simp] theorem framesOf_cons (e : EncodedCoreTransferCommit) (rest) :
    framesOf (e :: rest) = leBytes 4 e.bytes.length ++ e.bytes ++ framesOf rest := rfl

@[simp] theorem encodedTotal_nil : encodedTotal [] = 0 := rfl

@[simp] theorem encodedTotal_cons (e : EncodedCoreTransferCommit) (rest) :
    encodedTotal (e :: rest) = e.encodedLen + encodedTotal rest := rfl

@[simp] theorem encodedTotal_append (xs ys : List EncodedCoreTransferCommit) :
    encodedTotal (xs ++ ys) = encodedTotal xs + encodedTotal ys := by
  simp [encodedTotal]

theorem length_framesOf (commits : List EncodedCoreTransferCommit) :
    (framesOf commits).length = 4 * commits.length + encodedTotal commits := by
  induction commits with
  | nil => rfl
  | cons e rest ih =>
    simp only [framesOf_cons, List.length_append, length_leBytes, ih, encodedTotal_cons,
      EncodedCoreTransferCommit.encodedLen, List.length_cons]
    omega

theorem length_deltaFrame (base final : CoreRevision) (commits : List EncodedCoreTransferCommit) :
    (deltaFrame base final commits).length =
      CORE_DELTA_HEADER_BYTES + 4 * commits.length + encodedTotal commits := by
  simp only [deltaFrame, List.length_append, length_leBytes, length_framesOf,
    CORE_DELTA_HEADER_BYTES]
  omega

theorem encodedTotal_filter_le (p : EncodedCoreTransferCommit → Bool)
    (commits : List EncodedCoreTransferCommit) :
    encodedTotal (commits.filter p) ≤ encodedTotal commits := by
  induction commits with
  | nil => exact Nat.le_refl _
  | cons e rest ih =>
    by_cases hp : p e = true
    · simp only [List.filter_cons_of_pos hp, encodedTotal_cons]
      omega
    · simp only [List.filter_cons_of_neg hp, encodedTotal_cons]
      omega

theorem validateLoop_chain {base final : CoreRevision} (h : Chain base commits final)
    (len count : Nat) (hc : count + commits.length ≤ MAX_COMMITS)
    (hl : len + 4 * commits.length + encodedTotal commits ≤ u64Max) :
    validateLoop base len count commits =
      .ok (final, len + 4 * commits.length + encodedTotal commits) := by
  have hmax : MAX_COMMITS ≤ u64Max := by decide
  induction h generalizing len count with
  | nil r => simp [validateLoop]
  | @cons head rest final hn h ih =>
    simp only [List.length_cons, encodedTotal_cons, EncodedCoreTransferCommit.encodedLen] at hc hl ⊢
    simp only [validateLoop]
    rw [if_neg (by omega), if_neg (by omega), if_neg (by simp [hn]), if_neg (by omega),
      ih _ _ (by omega) (by omega)]
    congr 2
    omega

theorem writeFrames_ok (h : encodedTotal commits < 2 ^ 32) :
    writeFrames commits = .ok (framesOf commits) := by
  induction commits with
  | nil => rfl
  | cons e rest ih =>
    simp only [encodedTotal_cons, EncodedCoreTransferCommit.encodedLen] at h
    simp only [writeFrames]
    rw [if_neg (by omega), ih (by omega)]
    rfl

/-- A chain within the count and byte budgets seals to exactly its own delta frame. -/
theorem sealPreencodedInto_chain {base final : CoreRevision} (h : Chain base commits final)
    (hc : commits.length ≤ MAX_COMMITS)
    (hl : CORE_DELTA_HEADER_BYTES + 4 * commits.length + encodedTotal commits
      ≤ MAX_CORE_TRANSFER_BYTES) : sealPreencodedInto base commits =
      .ok (⟨base, final, CORE_DELTA_HEADER_BYTES + 4 * commits.length + encodedTotal commits⟩,
        deltaFrame base final commits) := by
  have hwire : MAX_CORE_TRANSFER_BYTES < 2 ^ 32 := by decide
  have husize : MAX_CORE_TRANSFER_BYTES ≤ u64Max := by decide
  have hcount : MAX_COMMITS < 2 ^ 32 := by decide
  have hv : validatePreencoded base commits =
      .ok ⟨base, final, CORE_DELTA_HEADER_BYTES + 4 * commits.length + encodedTotal commits⟩ := by
    unfold validatePreencoded
    rw [validateLoop_chain h _ 0 (by omega) (by omega)]
    exact if_neg (by omega)
  unfold sealPreencodedInto writePreencoded
  rw [hv]
  simp only [ge_iff_le, if_neg (show ¬ 2 ^ 32 ≤ commits.length by omega),
    writeFrames_ok (show encodedTotal commits < 2 ^ 32 by omega)]
  rfl

end RevyCraft
