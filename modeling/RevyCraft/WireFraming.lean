/-
  RevyCraft/WireFraming.lean
  ==========================
  **Frames on the wire** (`MinecraftWireCodec` of `wire.rs`, with `write_varint`,
  `read_varint` and `peek_varint` of `packet.rs`): a payload behind its length, a
  varint of one to five bytes.

  Reading a varint shifts a `u32` once for each byte it looks at.  A shift by 32 or
  more is refused where overflow is checked and shifts by its amount modulo 32
  elsewhere; a call keeps the amounts it shifted by, so that this can be said of it.
  What a call may access out of range is an outcome of its own.
-/
import RevyCraft.Streams
import RevyCraft.JavaDecoding

namespace RevyCraft.MinecraftWireCodec

open Streams

/-! ### The calls -/

/-- What a call came to, and the amounts it shifted by. -/
structure Called (α : Type) where
  result : α
  shifts : List Nat

/-- A call that returns no value. -/
inductive Fault where
  | protocol (error : ProtocolError)
  | outOfRange

/-- The loop of `PacketWriter::write_varint`. -/
def writeVarintLoop (value : UInt32) : List UInt8 :=
  if value &&& ~~~0x7f = 0 then [value.toUInt8]
  else ((value &&& 0x7f).toUInt8 ||| 0x80) :: writeVarintLoop (value >>> 7)
termination_by value.toNat
decreasing_by
  rename_i h
  have hlarge : value.toNat ≠ 0 := by
    intro hzero
    have hvalue : value = 0 := UInt32.toNat_inj.mp hzero
    exact h (by rw [hvalue]; rfl)
  simp only [UInt32.toNat_shiftRight, UInt32.reduceToNat, Nat.reduceMod, Nat.shiftRight_eq_div_pow]
  omega

def writeVarint (value : Int32) : List UInt8 := writeVarintLoop value.toUInt32

def encodeFrame (payload : List UInt8) : Except ProtocolError (List UInt8) :=
  if payload.length < 2 ^ 31 then .ok (writeVarint (Int32.ofNat payload.length) ++ payload)
  else .error (.invalidPacket "frame too large")

/-- The loop of `peek_varint`. -/
def peekVarintLoop : List UInt8 → Nat → UInt32 → Called (Option (Int32 × Nat))
  | [], _, _ => ⟨none, []⟩
  | byte :: bytes, numRead, result =>
    let value := (byte &&& 0x7f).toUInt32
    let result := result ||| value <<< UInt32.ofNat (7 * numRead)
    if numRead + 1 > 5 then ⟨none, [7 * numRead]⟩
    else if byte &&& 0x80 = 0 then ⟨some (result.toInt32, numRead + 1), [7 * numRead]⟩
    else
      let rest := peekVarintLoop bytes (numRead + 1) result
      ⟨rest.result, 7 * numRead :: rest.shifts⟩

def peekVarint (buffer : List UInt8) : Called (Option (Int32 × Nat)) := peekVarintLoop buffer 0 0

/-- The loop of `PacketReader::read_varint` over the bytes behind the cursor. -/
def readVarintLoop : List UInt8 → Nat → UInt32 →
    Called (Except ProtocolError (Int32 × List UInt8))
  | [], _, _ => ⟨.error .unexpectedEof, []⟩
  | byte :: bytes, numRead, result =>
    let value := (byte &&& 0x7f).toUInt32
    let result := result ||| value <<< UInt32.ofNat (7 * numRead)
    if numRead + 1 > 5 then ⟨.error .invalidVarInt, [7 * numRead]⟩
    else if byte &&& 0x80 = 0 then ⟨.ok (result.toInt32, bytes), [7 * numRead]⟩
    else
      let rest := readVarintLoop bytes (numRead + 1) result
      ⟨rest.result, 7 * numRead :: rest.shifts⟩

def readVarint (payload : List UInt8) : Called (Except ProtocolError (Int32 × List UInt8)) :=
  readVarintLoop payload 0 0

/-- `BytesMut::split_to`; `none` where it panics. -/
def splitTo (buffer : List UInt8) (length : Nat) : Option (List UInt8 × List UInt8) :=
  if length ≤ buffer.length then some (buffer.take length, buffer.drop length) else none

/-- The slice from `start` on; `none` where it panics. -/
def sliceFrom (bytes : List UInt8) (start : Nat) : Option (List UInt8) :=
  if start ≤ bytes.length then some (bytes.drop start) else none

/-- `try_decode_frame` once the length is known. -/
def splitFrame (buffer : List UInt8) (length : Int32) (headerLen : Nat) :
    Except Fault (Option (List UInt8) × List UInt8) :=
  if length < 0 then .error (.protocol (.invalidPacket "negative frame length"))
  else
    let payloadLength := length.toInt.toNat
    if buffer.length < headerLen + payloadLength then .ok (none, buffer)
    else
      match splitTo buffer (headerLen + payloadLength) with
      | none => .error .outOfRange
      | some split =>
        match sliceFrom split.1 headerLen with
        | none => .error .outOfRange
        | some payload => .ok (some payload, split.2)

/-- The payload at the front of the buffer, if its frame is complete, and what is left in the
    buffer. -/
def tryDecodeFrame (buffer : List UInt8) :
    Called (Except Fault (Option (List UInt8) × List UInt8)) :=
  let peeked := peekVarint buffer
  { result :=
      match peeked.result with
      | none => .ok (none, buffer)
      | some header => splitFrame buffer header.1 header.2
    shifts := peeked.shifts }

/-! ### What is asked of a buffer -/

/-- A buffer is read without a wide shift and in range, and a frame can still come of it when one
    is waited for. -/
structure Sound (buffer : List UInt8) : Prop where
  narrow : ∀ amount ∈ (tryDecodeFrame buffer).shifts ++ (readVarint buffer).shifts, amount < 32
  inRange : (tryDecodeFrame buffer).result ≠ .error .outOfRange
  awaited : ∀ left, (tryDecodeFrame buffer).result = .ok (none, left) →
    ∃ continuation frame later,
      (tryDecodeFrame (buffer ++ continuation)).result = .ok (some frame, later)

/-- The byte says that another one follows. -/
def continues (byte : UInt8) : Bool := byte &&& 0x80 ≠ 0

/-- The buffer begins with five bytes of which each says that another one follows. -/
def Overlong (buffer : List UInt8) : Prop :=
  ∃ more rest, buffer = more ++ rest ∧ more.length = 5 ∧ ∀ byte ∈ more, continues byte

/-! ### Bytes that continue -/

theorem continues_iff (byte : UInt8) : continues byte = true ↔ 128 ≤ byte.toNat := by
  have hall : ∀ i : Fin 256, (UInt8.ofNat i.val &&& 0x80 ≠ 0) ↔ 128 ≤ i.val := by decide +kernel
  have hbyte := hall ⟨byte.toNat, byte.toNat_lt⟩
  rwa [UInt8.ofNat_toNat, ← decide_eq_true_iff (p := byte &&& 0x80 ≠ 0)] at hbyte

theorem continues_eq_false_iff (byte : UInt8) : continues byte = false ↔ byte.toNat < 128 := by
  rw [← Bool.not_eq_true, continues_iff]
  omega

@[simp] theorem and_eq_zero_iff (byte : UInt8) : byte &&& 0x80 = 0 ↔ continues byte = false := by
  simp [continues]

theorem low_toNat (byte : UInt8) : (byte &&& 0x7f).toUInt32.toNat = byte.toNat % 128 := by
  have hlow : (0x7f : UInt8).toNat = 2 ^ 7 - 1 := rfl
  rw [UInt8.toNat_toUInt32, UInt8.toNat_and, hlow, Nat.and_two_pow_sub_one_eq_mod]

theorem buffer_cases (buffer : List UInt8) :
    Overlong buffer ∨ ∃ more, (∀ byte ∈ more, continues byte) ∧ more.length ≤ 4 ∧
      (buffer = more ∨ ∃ last rest, continues last = false ∧ buffer = more ++ last :: rest) := by
  have hsplit := List.takeWhile_append_dropWhile (p := continues) (l := buffer)
  have hmore : ∀ byte ∈ buffer.takeWhile continues, continues byte :=
    fun byte hmem => List.mem_takeWhile_imp hmem
  by_cases hlong : 5 ≤ (buffer.takeWhile continues).length
  · refine .inl ⟨(buffer.takeWhile continues).take 5,
      (buffer.takeWhile continues).drop 5 ++ buffer.dropWhile continues, ?_, ?_, ?_⟩
    · rw [← List.append_assoc, List.take_append_drop, hsplit]
    · simpa using hlong
    · exact fun byte hmem => hmore byte (List.mem_of_mem_take hmem)
  · refine .inr ⟨buffer.takeWhile continues, hmore, by omega, ?_⟩
    cases hrest : buffer.dropWhile continues with
    | nil =>
      rw [hrest, List.append_nil] at hsplit
      exact .inl hsplit.symm
    | cons last rest =>
      refine .inr ⟨last, rest, ?_, by rw [← hrest, hsplit]⟩
      have hhead := List.head?_dropWhile_not continues buffer
      simpa [hrest] using hhead

/-! ### What the loops read -/

/-- The value that some bytes of a varint add up to. -/
def gather : List UInt8 → Nat → UInt32 → UInt32
  | [], _, result => result
  | byte :: bytes, numRead, result =>
    gather bytes (numRead + 1) (result ||| (byte &&& 0x7f).toUInt32 <<< UInt32.ofNat (7 * numRead))

variable {more buffer : List UInt8} {last : UInt8} {numRead : Nat}

theorem peekVarintLoop_whole (rest : List UInt8) (numRead : Nat) (result : UInt32)
    (hmore : ∀ byte ∈ more, continues byte) (hlast : continues last = false)
    (hshort : numRead + more.length ≤ 4) :
    (peekVarintLoop (more ++ last :: rest) numRead result).result =
      some ((gather (more ++ [last]) numRead result).toInt32, numRead + more.length + 1) := by
  induction more generalizing numRead result with
  | nil =>
    have hfirst : ¬ numRead + 1 > 5 := by
      simp only [List.length_nil] at hshort
      omega
    simp [peekVarintLoop, gather, hfirst, hlast]
  | cons byte more ih =>
    simp only [List.length_cons] at hshort
    have hfirst : ¬ numRead + 1 > 5 := by omega
    have hbyte : continues byte = true := hmore byte (by simp)
    have hrest := ih (numRead + 1)
      (result ||| (byte &&& 0x7f).toUInt32 <<< UInt32.ofNat (7 * numRead))
      (fun byte hmem => hmore byte (by simp [hmem])) (by omega)
    simp only [List.cons_append, peekVarintLoop, gather, hfirst, and_eq_zero_iff, hbyte,
      Bool.true_eq_false, if_false, hrest, List.length_cons]
    congr 2
    omega

theorem peekVarintLoop_part (numRead : Nat) (result : UInt32)
    (hmore : ∀ byte ∈ more, continues byte) (rest : List UInt8)
    (hrest : rest = [] ∨ 5 ≤ numRead + more.length) :
    (peekVarintLoop (more ++ rest) numRead result).result = none := by
  induction more generalizing numRead result with
  | nil =>
    cases rest with
    | nil => rfl
    | cons byte rest =>
      have hlast : numRead + 1 > 5 := by
        simp only [List.length_nil, reduceCtorEq, false_or] at hrest
        omega
      simp [peekVarintLoop, hlast]
  | cons byte more ih =>
    have hbyte : continues byte = true := hmore byte (by simp)
    by_cases hlast : numRead + 1 > 5
    · simp [peekVarintLoop, hlast]
    · have hlater := ih (numRead + 1)
        (result ||| (byte &&& 0x7f).toUInt32 <<< UInt32.ofNat (7 * numRead))
        (fun byte hmem => hmore byte (by simp [hmem]))
        (hrest.imp_right fun h => by simp only [List.length_cons] at h; omega)
      simpa only [List.cons_append, peekVarintLoop, hlast, and_eq_zero_iff, hbyte,
        Bool.true_eq_false, if_false] using hlater

theorem peekVarintLoop_narrow (bytes : List UInt8) (numRead : Nat) (result : UInt32)
    (hread : numRead ≤ 4)
    (hshort : ¬ ∃ more rest, bytes = more ++ rest ∧ numRead + more.length = 5 ∧
      ∀ byte ∈ more, continues byte) :
    ∀ amount ∈ (peekVarintLoop bytes numRead result).shifts, amount < 32 := by
  induction bytes generalizing numRead result with
  | nil => simp [peekVarintLoop]
  | cons byte bytes ih =>
    have hamount : 7 * numRead < 32 := by omega
    have hfirst : ¬ numRead + 1 > 5 := by omega
    cases hbyte : continues byte with
    | false => simpa [peekVarintLoop, hfirst, hbyte] using hamount
    | true =>
      have hread' : numRead + 1 ≤ 4 := by
        by_contra hlast
        exact hshort ⟨[byte], bytes, rfl, by simp only [List.length_singleton]; omega,
          by simpa using hbyte⟩
      have hrest := ih (numRead + 1)
        (result ||| (byte &&& 0x7f).toUInt32 <<< UInt32.ofNat (7 * numRead)) hread' (by
          rintro ⟨more, rest, rfl, hlength, hmore⟩
          refine hshort ⟨byte :: more, rest, rfl, by simp only [List.length_cons]; omega, ?_⟩
          simpa using ⟨hbyte, hmore⟩)
      simp only [peekVarintLoop, hfirst, and_eq_zero_iff, hbyte, Bool.true_eq_false, if_false,
        List.mem_cons]
      rintro amount (rfl | hmem)
      · exact hamount
      · exact hrest amount hmem

theorem readVarintLoop_shifts (bytes : List UInt8) (numRead : Nat) (result : UInt32) :
    (readVarintLoop bytes numRead result).shifts =
      (peekVarintLoop bytes numRead result).shifts := by
  induction bytes generalizing numRead result with
  | nil => rfl
  | cons byte bytes ih =>
    by_cases hlast : numRead + 1 > 5
    · simp [readVarintLoop, peekVarintLoop, hlast]
    · cases hbyte : continues byte with
      | false => simp [readVarintLoop, peekVarintLoop, hlast, hbyte]
      | true => simp [readVarintLoop, peekVarintLoop, hlast, hbyte, ih]

/-! ### What is written is read -/

theorem or_shift_toNat (result value : UInt32) (hread : numRead ≤ 4) :
    (result ||| value <<< UInt32.ofNat (7 * numRead)).toNat =
      result.toNat ||| (value.toNat * 2 ^ (7 * numRead)) % 2 ^ 32 := by
  have hamount : (UInt32.ofNat (7 * numRead)).toNat % 32 = 7 * numRead := by
    rw [UInt32.toNat_ofNat']
    omega
  rw [UInt32.toNat_or, UInt32.toNat_shiftLeft, hamount, Nat.shiftLeft_eq]

theorem gather_lt {bytes : List UInt8} (numRead : Nat) {result : UInt32}
    (hresult : result.toNat < 2 ^ (7 * numRead)) (hshort : numRead + bytes.length ≤ 4) :
    (gather bytes numRead result).toNat < 2 ^ 28 := by
  induction bytes generalizing numRead result with
  | nil => exact Nat.lt_of_lt_of_le hresult (Nat.pow_le_pow_right (by decide) (by
      simp only [List.length_nil] at hshort; omega))
  | cons byte bytes ih =>
    simp only [List.length_cons] at hshort
    refine ih (numRead + 1) ?_ (by omega)
    rw [or_shift_toNat _ _ (by omega)]
    refine Nat.or_lt_two_pow (Nat.lt_of_lt_of_le hresult ?_) (Nat.lt_of_le_of_lt (Nat.mod_le _ _) ?_)
    · exact Nat.pow_le_pow_right (by decide) (by omega)
    · rw [low_toNat, show 7 * (numRead + 1) = 7 + 7 * numRead by omega, Nat.pow_add]
      exact Nat.mul_lt_mul_of_pos_right (Nat.mod_lt _ (by decide)) (Nat.two_pow_pos _)

theorem and_mask_eq_zero_iff (value : UInt32) : value &&& ~~~0x7f = 0 ↔ value.toNat < 128 := by
  have hmask : (~~~0x7f : UInt32).toNat = 2 ^ 32 - 2 ^ 7 := by decide
  have hhigh : (value &&& ~~~0x7f).toNat / 2 ^ 7 = value.toNat / 2 ^ 7 := by
    have hvalue : value.toNat / 2 ^ 7 % 2 ^ 25 = value.toNat / 2 ^ 7 := by
      have := value.toNat_lt
      omega
    rw [UInt32.toNat_and, hmask, Nat.and_div_two_pow,
      show (2 ^ 32 - 2 ^ 7) / 2 ^ 7 = 2 ^ 25 - 1 by decide, Nat.and_two_pow_sub_one_eq_mod, hvalue]
  have hlow : (value &&& ~~~0x7f).toNat % 2 ^ 7 = 0 := by
    rw [UInt32.toNat_and, hmask, Nat.and_mod_two_pow,
      show (2 ^ 32 - 2 ^ 7) % 2 ^ 7 = 0 by decide, Nat.and_zero]
  rw [← UInt32.toNat_inj, UInt32.toNat_zero]
  omega

theorem gather_append_zero (bytes : List UInt8) (numRead : Nat) (result : UInt32) :
    gather (bytes ++ [0]) numRead result = gather bytes numRead result := by
  induction bytes generalizing numRead result with
  | nil => simp [gather]
  | cons byte bytes ih => exact ih _ _

theorem toInt_nonneg {value : UInt32} (h : value.toNat < 2 ^ 31) : 0 ≤ value.toInt32.toInt := by
  rw [← UInt32.ofNat_toNat (x := value), UInt32.toInt32_ofNat', Int32.toInt_ofNat_of_lt h]
  exact Int.natCast_nonneg _

theorem writeVarintLoop_eq (value : UInt32) :
    writeVarintLoop value =
      if value.toNat < 128 then [UInt8.ofNat value.toNat]
      else UInt8.ofNat (value.toNat % 128 + 128) :: writeVarintLoop (value >>> 7) := by
  rw [writeVarintLoop]
  by_cases hlast : value.toNat < 128
  · simp only [and_mask_eq_zero_iff, hlast, if_true]
    congr 1
  · simp only [and_mask_eq_zero_iff, hlast, if_false]
    congr 1
    have hall : ∀ i : Fin 128, UInt8.ofNat i.val ||| 0x80 = UInt8.ofNat (i.val + 128) := by
      decide +kernel
    have hbyte : (value &&& 0x7f).toUInt8 = UInt8.ofNat (value.toNat % 128) := by
      rw [← UInt8.toNat_inj, UInt32.toNat_toUInt8, UInt32.toNat_and,
        show (0x7f : UInt32).toNat = 2 ^ 7 - 1 from rfl, Nat.and_two_pow_sub_one_eq_mod,
        UInt8.toNat_ofNat']
    rw [hbyte]
    exact hall ⟨value.toNat % 128, Nat.mod_lt _ (by decide)⟩

theorem shift_toNat (value : UInt32) : (value >>> 7).toNat = value.toNat / 128 := by
  rw [UInt32.toNat_shiftRight]
  simp [Nat.shiftRight_eq_div_pow]

/-- All bytes of a varint but the last say that another one follows, and none is written for
    nothing. -/
theorem writeVarintLoop_bytes (value : UInt32) :
    ∃ more last, writeVarintLoop value = more ++ [last] ∧ (∀ byte ∈ more, continues byte) ∧
      continues last = false ∧ (more = [] ∨ 2 ^ (7 * more.length) ≤ value.toNat) := by
  induction h : value.toNat using Nat.strongRecOn generalizing value with
  | ind n ih =>
    rw [writeVarintLoop_eq]
    by_cases hlast : value.toNat < 128
    · refine ⟨[], UInt8.ofNat value.toNat, by simp [hlast], by simp, ?_, .inl rfl⟩
      rw [continues_eq_false_iff, UInt8.toNat_ofNat']
      omega
    · obtain ⟨more, last, hwritten, hmore, hend, hsize⟩ :=
        ih (value >>> 7).toNat (by rw [shift_toNat]; omega) (value >>> 7) rfl
      refine ⟨UInt8.ofNat (value.toNat % 128 + 128) :: more, last, by simp [hlast, hwritten],
        ?_, hend, .inr ?_⟩
      · have hfirst : continues (UInt8.ofNat (value.toNat % 128 + 128)) = true := by
          rw [continues_iff, UInt8.toNat_ofNat']
          omega
        rintro byte (_ | ⟨_, hmem⟩)
        · exact hfirst
        · exact hmore byte hmem
      · rw [shift_toNat] at hsize
        rcases hsize with rfl | hsize
        · simp only [List.length_singleton]
          omega
        · rw [List.length_cons, Nat.mul_succ, Nat.pow_add]
          omega

theorem writeVarintLoop_short {value : UInt32}
    (hsize : more = [] ∨ 2 ^ (7 * more.length) ≤ value.toNat) : more.length ≤ 4 := by
  rcases hsize with rfl | hsize
  · simp
  · have hlt : 2 ^ (7 * more.length) < 2 ^ 32 := Nat.lt_of_le_of_lt hsize value.toNat_lt
    have := (Nat.pow_lt_pow_iff_right (by decide)).mp hlt
    omega

theorem gather_writeVarintLoop (value : UInt32) (numRead : Nat) (result : UInt32)
    (hread : numRead ≤ 4) (hfits : value.toNat * 2 ^ (7 * numRead) < 2 ^ 32) :
    (gather (writeVarintLoop value) numRead result).toNat =
      result.toNat ||| value.toNat * 2 ^ (7 * numRead) := by
  induction h : value.toNat using Nat.strongRecOn generalizing value numRead result with
  | ind n ih =>
    subst h
    rw [writeVarintLoop_eq]
    by_cases hlast : value.toNat < 128
    · simp only [hlast, if_true, gather]
      rw [or_shift_toNat _ _ hread, low_toNat, UInt8.toNat_ofNat',
        show value.toNat % 2 ^ 8 % 128 = value.toNat by omega, Nat.mod_eq_of_lt hfits]
    · simp only [hlast, if_false, gather]
      have hmul : value.toNat / 128 * 2 ^ (7 * (numRead + 1)) ≤ value.toNat * 2 ^ (7 * numRead) := by
        rw [show 7 * (numRead + 1) = 7 + 7 * numRead by omega, Nat.pow_add, ← Nat.mul_assoc]
        exact Nat.mul_le_mul_right _ (Nat.div_mul_le_self _ _)
      have hnext : numRead + 1 ≤ 4 := by
        by_contra hfull
        have hexp : numRead = 4 := by omega
        subst hexp
        omega
      rw [ih (value >>> 7).toNat (by rw [shift_toNat]; omega) (value >>> 7) (numRead + 1) _ hnext
          (by rw [shift_toNat]; omega) rfl,
        or_shift_toNat _ _ hread, low_toNat, shift_toNat, UInt8.toNat_ofNat',
        show (value.toNat % 128 + 128) % 2 ^ 8 % 128 = value.toNat % 128 by omega]
      have hlow : value.toNat % 128 * 2 ^ (7 * numRead) < 2 ^ (7 * (numRead + 1)) := by
        rw [show 7 * (numRead + 1) = 7 + 7 * numRead by omega, Nat.pow_add]
        exact Nat.mul_lt_mul_of_pos_right (Nat.mod_lt _ (by decide)) (Nat.two_pow_pos _)
      have hfits' : value.toNat % 128 * 2 ^ (7 * numRead) < 2 ^ 32 :=
        Nat.lt_of_le_of_lt (Nat.mul_le_mul_right _ (Nat.mod_le _ _)) hfits
      rw [Nat.mod_eq_of_lt hfits', Nat.or_assoc,
        Nat.or_comm (value.toNat % 128 * 2 ^ (7 * numRead)), Nat.mul_comm (value.toNat / 128),
        ← Nat.two_pow_add_eq_or_of_lt hlow]
      congr 1
      calc 2 ^ (7 * (numRead + 1)) * (value.toNat / 128) + value.toNat % 128 * 2 ^ (7 * numRead)
          = (128 * (value.toNat / 128) + value.toNat % 128) * 2 ^ (7 * numRead) := by
            rw [show 7 * (numRead + 1) = 7 + 7 * numRead by omega, Nat.pow_add]
            ring
        _ = value.toNat * 2 ^ (7 * numRead) := by rw [Nat.div_add_mod]

/-! ### Frames -/

theorem splitFrame_eq (buffer : List UInt8) (length : Int32) (headerLen : Nat) :
    splitFrame buffer length headerLen =
      if length.toInt < 0 then .error (.protocol (.invalidPacket "negative frame length"))
      else if buffer.length < headerLen + length.toInt.toNat then .ok (none, buffer)
      else .ok (some ((buffer.take (headerLen + length.toInt.toNat)).drop headerLen),
        buffer.drop (headerLen + length.toInt.toNat)) := by
  have hnegative : length < 0 ↔ length.toInt < 0 := by
    rw [Int32.lt_iff_toInt_lt]
    rfl
  simp only [splitFrame, hnegative]
  by_cases hshort : buffer.length < headerLen + length.toInt.toNat
  · simp only [hshort, if_true]
  · have hsplit : headerLen + length.toInt.toNat ≤ buffer.length := by omega
    have hslice : headerLen ≤ (buffer.take (headerLen + length.toInt.toNat)).length := by
      rw [List.length_take]
      omega
    simp only [hshort, splitTo, hsplit, sliceFrom, hslice, if_true, if_false]

theorem splitFrame_whole (header payload rest : List UInt8) {length : Int32} {headerLen : Nat}
    (hheader : header.length = headerLen) (hlength : length.toInt = payload.length) :
    splitFrame (header ++ payload ++ rest) length headerLen = .ok (some payload, rest) := by
  subst hheader
  have hnegative : ¬ length.toInt < 0 := by omega
  have hcount : header.length + length.toInt.toNat = (header ++ payload).length := by
    rw [hlength]
    simp
  have hshort : ¬ (header ++ payload ++ rest).length < (header ++ payload).length := by
    rw [List.length_append]
    omega
  rw [splitFrame_eq, hcount, if_neg hnegative, if_neg hshort, List.take_left, List.drop_left,
    List.drop_left]

theorem splitFrame_part {length : Int32} {headerLen : Nat} (hnonneg : 0 ≤ length.toInt)
    (hshort : buffer.length < headerLen + length.toInt.toNat) :
    splitFrame buffer length headerLen = .ok (none, buffer) := by
  rw [splitFrame_eq, if_neg (Int.not_lt.mpr hnonneg), if_pos hshort]

theorem tryDecodeFrame_header (rest : List UInt8) (hmore : ∀ byte ∈ more, continues byte)
    (hlast : continues last = false) (hshort : more.length ≤ 4) :
    (tryDecodeFrame (more ++ last :: rest)).result =
      splitFrame (more ++ last :: rest) (gather (more ++ [last]) 0 0).toInt32
        (more.length + 1) := by
  have hpeek := peekVarintLoop_whole rest 0 0 hmore hlast (by omega)
  rw [Nat.zero_add] at hpeek
  simp only [tryDecodeFrame, peekVarint, hpeek]

/-- A buffer that ends within a varint, or in which none ends, is left as it is. -/
theorem tryDecodeFrame_part (rest : List UInt8) (hmore : ∀ byte ∈ more, continues byte)
    (hrest : rest = [] ∨ 5 ≤ more.length) :
    (tryDecodeFrame (more ++ rest)).result = .ok (none, more ++ rest) := by
  have hpeek := peekVarintLoop_part 0 0 hmore rest (by simpa using hrest)
  simp only [tryDecodeFrame, peekVarint, hpeek]

def frameBytes (payload : List UInt8) : List UInt8 :=
  writeVarint (Int32.ofNat payload.length) ++ payload

theorem encodeFrame_ok {payload : List UInt8} (hshort : payload.length < 2 ^ 31) :
    encodeFrame payload = .ok (frameBytes payload) := by
  exact if_pos hshort

theorem writeVarint_header {payload : List UInt8} (hshort : payload.length < 2 ^ 31) :
    ∃ more last, writeVarint (Int32.ofNat payload.length) = more ++ [last] ∧
      (∀ byte ∈ more, continues byte) ∧ continues last = false ∧ more.length ≤ 4 ∧
      (gather (more ++ [last]) 0 0).toInt32.toInt = payload.length := by
  have hvalue : (UInt32.ofNat payload.length).toNat = payload.length := by
    rw [UInt32.toNat_ofNat']
    omega
  obtain ⟨more, last, hwritten, hmore, hlast, hsize⟩ :=
    writeVarintLoop_bytes (UInt32.ofNat payload.length)
  have hgather := gather_writeVarintLoop (UInt32.ofNat payload.length) 0 0
    (by omega) (by rw [hvalue]; omega)
  refine ⟨more, last, hwritten, hmore, hlast, writeVarintLoop_short hsize, ?_⟩
  have hread : gather (more ++ [last]) 0 0 = UInt32.ofNat payload.length := by
    rw [← UInt32.toNat_inj, ← hwritten, hgather]
    simp
  rw [hread, UInt32.toInt32_ofNat', Int32.toInt_ofNat_of_lt hshort]

theorem tryDecodeFrame_delimits :
    Delimits (fun buffer => (tryDecodeFrame buffer).result) frameBytes
      (fun payload => payload.length < 2 ^ 31) where
  empty := rfl
  whole payload rest hshort := by
    obtain ⟨more, last, hwritten, hmore, hlast, hfew, hvalue⟩ := writeVarint_header hshort
    have hheader := tryDecodeFrame_header (payload ++ rest) hmore hlast hfew
    have hbuffer : frameBytes payload ++ rest = more ++ last :: (payload ++ rest) := by
      simp [frameBytes, hwritten]
    have hheaderLen : (more ++ [last]).length = more.length + 1 := by simp
    have hsplit := splitFrame_whole (more ++ [last]) payload rest hheaderLen hvalue
    rw [hbuffer, hheader]
    simpa using hsplit
  part payload part missing hshort hframe hmissing := by
    obtain ⟨more, last, hwritten, hmore, hlast, hfew, hvalue⟩ := writeVarint_header hshort
    have hbytes : more ++ last :: payload = part ++ missing := by
      rw [← hframe]
      simp [frameBytes, hwritten]
    rcases List.append_eq_append_iff.mp hbytes with ⟨later, hpart, hrest⟩ | ⟨later, hmoreEq, hrest⟩
    · cases later with
      | nil =>
        rw [List.append_nil] at hpart
        rw [hpart, ← List.append_nil more]
        exact tryDecodeFrame_part [] hmore (.inl rfl)
      | cons first later =>
        -- the header is whole, the payload is not
        simp only [List.cons_append, List.cons.injEq] at hrest
        obtain ⟨rfl, hpayload⟩ := hrest
        rw [hpart, tryDecodeFrame_header later hmore hlast hfew]
        refine splitFrame_part (by rw [hvalue]; omega) ?_
        have hmissing' : 0 < missing.length := List.length_pos_iff.mpr hmissing
        rw [hvalue, hpayload]
        simp only [List.length_append, List.length_cons]
        omega
    · have hcontinued : ∀ byte ∈ part, continues byte :=
        fun byte hmem => hmore byte (by rw [hmoreEq]; simp [hmem])
      rw [← List.append_nil part]
      exact tryDecodeFrame_part [] hcontinued (.inl rfl)

/-! ### The decoder of the plugins

`JavaDecoding` reads the same frames without an account of the shifts, and has no access that
could be out of range. -/

theorem gathered_toNat (byte : UInt8) (result : UInt32) (hread : numRead ≤ 4) :
    (result ||| (byte &&& 0x7f).toUInt32 <<< UInt32.ofNat (7 * numRead)).toNat =
      result.toNat ||| (byte &&& 0x7f).toNat <<< (7 * numRead) % 2 ^ 32 := by
  rw [or_shift_toNat _ _ hread, UInt8.toNat_toUInt32, Nat.shiftLeft_eq]

theorem toInt32_toInt (value : UInt32) : value.toInt32.toInt = wrapI32 value.toNat := by
  have hlt := value.toNat_lt
  rw [← UInt32.ofNat_toNat (x := value), UInt32.toInt32_ofNat', Int32.toInt_ofNat',
    UInt32.ofNat_toNat, Int.bmod_def, wrapI32, show Int32.size = 2 ^ 32 from rfl]
  omega

theorem peekVarintLoop_eq (bytes : List UInt8) {left : Nat} (result : UInt32)
    (hleft : left + numRead = 5) : RevyCraft.peekVarintLoop left numRead result.toNat bytes =
      (peekVarintLoop bytes numRead result).result.map fun header =>
        (header.1.toInt, header.2) := by
  induction bytes generalizing left numRead result with
  | nil => cases left <;> rfl
  | cons byte bytes ih =>
    cases left with
    | zero =>
      have hlast : numRead + 1 > 5 := by omega
      simp [RevyCraft.peekVarintLoop, peekVarintLoop, hlast]
    | succ left =>
      have hfirst : ¬ numRead + 1 > 5 := by omega
      cases hbyte : continues byte with
      | false =>
        simp only [RevyCraft.peekVarintLoop, peekVarintLoop, hfirst, and_eq_zero_iff, hbyte,
          if_true, if_false, Option.map_some, toInt32_toInt,
          gathered_toNat byte result (show numRead ≤ 4 by omega)]
      | true =>
        simp only [RevyCraft.peekVarintLoop, peekVarintLoop, hfirst, and_eq_zero_iff, hbyte,
          Bool.true_eq_false, if_false, ← gathered_toNat byte result (show numRead ≤ 4 by omega)]
        exact ih _ (by omega)

theorem tryDecodeFrame_eq (buffer : List UInt8) :
    (tryDecodeFrame buffer).result =
      (RevyCraft.tryDecodeFrame buffer).mapError Fault.protocol := by
  have hpeek : RevyCraft.peekVarint buffer = (peekVarint buffer).result.map fun header =>
      (header.1.toInt, header.2) := peekVarintLoop_eq buffer 0 rfl
  simp only [tryDecodeFrame, RevyCraft.tryDecodeFrame, hpeek]
  cases (peekVarint buffer).result with
  | none => rfl
  | some header =>
    simp only [Option.map_some, splitFrame_eq]
    split_ifs <;> rfl

/-! ### When a buffer is sound -/

theorem tryDecodeFrame_shifts (buffer : List UInt8) :
    (tryDecodeFrame buffer).shifts = (peekVarint buffer).shifts := rfl

theorem tryDecodeFrame_inRange (buffer : List UInt8) :
    (tryDecodeFrame buffer).result ≠ .error .outOfRange := by
  rw [tryDecodeFrame_eq]
  cases RevyCraft.tryDecodeFrame buffer <;> simp [Except.mapError]

theorem overlong_waits (h : Overlong buffer) (continuation : List UInt8) :
    (tryDecodeFrame (buffer ++ continuation)).result = .ok (none, buffer ++ continuation) := by
  obtain ⟨more, rest, rfl, hlength, hmore⟩ := h
  rw [List.append_assoc]
  exact tryDecodeFrame_part _ hmore (.inr (Nat.le_of_eq hlength.symm))

theorem narrow_of_not_overlong (h : ¬ Overlong buffer) :
    ∀ amount ∈ (tryDecodeFrame buffer).shifts ++ (readVarint buffer).shifts, amount < 32 := by
  have hpeek := peekVarintLoop_narrow buffer 0 0 (by omega) (by
    rintro ⟨more, rest, hbuffer, hlength, hmore⟩
    exact h ⟨more, rest, hbuffer, by omega, hmore⟩)
  intro amount hmem
  rw [tryDecodeFrame_shifts, readVarint, readVarintLoop_shifts, peekVarint,
    List.mem_append, or_self] at hmem
  exact hpeek amount hmem

theorem awaited_of_header (last : UInt8) (rest : List UInt8) (hmore : ∀ byte ∈ more, continues byte)
    (hlast : continues last = false) (hshort : more.length ≤ 4)
    (hnonneg : 0 ≤ (gather (more ++ [last]) 0 0).toInt32.toInt) : ∃ continuation frame later,
      (tryDecodeFrame (more ++ last :: rest ++ continuation)).result = .ok (some frame, later) := by
  obtain ⟨length, hlength⟩ := Int.eq_ofNat_of_zero_le hnonneg
  have hframe : ∃ continuation payload later,
      rest ++ continuation = payload ++ later ∧ payload.length = length := by
    refine ⟨List.replicate length 0, (rest ++ List.replicate length 0).take length, _,
      (List.take_append_drop length _).symm, ?_⟩
    simp
  obtain ⟨continuation, payload, later, hsplit, rfl⟩ := hframe
  refine ⟨continuation, payload, later, ?_⟩
  have hbuffer : more ++ last :: rest ++ continuation = more ++ last :: (payload ++ later) := by
    rw [List.append_assoc, List.cons_append, hsplit]
  rw [hbuffer, tryDecodeFrame_header _ hmore hlast hshort]
  have hheaderLen : (more ++ [last]).length = more.length + 1 := by simp
  have hwhole := splitFrame_whole (more ++ [last]) payload later hheaderLen hlength
  simpa using hwhole

theorem awaited_of_not_overlong {left : List UInt8} (h : ¬ Overlong buffer)
    (hwaits : (tryDecodeFrame buffer).result = .ok (none, left)) : ∃ continuation frame later,
      (tryDecodeFrame (buffer ++ continuation)).result = .ok (some frame, later) := by
  rcases (buffer_cases buffer).resolve_left h with
    ⟨more, hmore, hshort, rfl | ⟨last, rest, hlast, rfl⟩⟩
  · -- a zero ends the varint, and adds nothing to it
    obtain ⟨continuation, frame, later, hframe⟩ :=
      awaited_of_header 0 [] hmore (by decide) hshort (by
        rw [gather_append_zero]
        exact toInt_nonneg (Nat.lt_trans (gather_lt 0 (by decide) (by simpa using hshort)) (by decide)))
    exact ⟨0 :: continuation, frame, later, by simpa using hframe⟩
  · refine awaited_of_header last rest hmore hlast hshort ?_
    rw [tryDecodeFrame_header rest hmore hlast hshort, splitFrame_eq] at hwaits
    by_contra hnegative
    rw [if_pos (Int.not_le.mp hnegative)] at hwaits
    cases hwaits

theorem sound_iff (buffer : List UInt8) : Sound buffer ↔ ¬ Overlong buffer := by
  constructor
  · intro hsound hoverlong
    have hwaits := overlong_waits hoverlong []
    rw [List.append_nil] at hwaits
    obtain ⟨continuation, frame, later, hframe⟩ := hsound.awaited buffer hwaits
    rw [overlong_waits hoverlong continuation] at hframe
    cases hframe
  · intro h
    exact ⟨narrow_of_not_overlong h, tryDecodeFrame_inRange buffer,
      fun left hwaits => awaited_of_not_overlong h hwaits⟩

/-- What `try_decode_frame` returns and leaves. -/
def nextFrame (buffer : List UInt8) : Except Fault (Option (List UInt8) × List UInt8) :=
  (tryDecodeFrame buffer).result

theorem mapM_encodeFrame {payloads : List (List UInt8)}
    (hshort : ∀ payload ∈ payloads, payload.length < 2 ^ 31) :
    payloads.mapM encodeFrame = .ok (payloads.map frameBytes) := by
  induction payloads with
  | nil => rfl
  | cons payload payloads ih =>
    rw [List.mapM_cons, encodeFrame_ok (hshort payload (by simp)),
      ih fun payload hmem => hshort payload (by simp [hmem])]
    rfl

/-- Frames come out of a buffer in order wherever their stream is cut, all that have arrived once
    it is asked often enough; and any buffer is sound unless it begins with five bytes of which
    each says that another one follows. -/
theorem frames_decode_and_sound_iff (payloads : List (List UInt8))
    (hshort : ∀ payload ∈ payloads, payload.length < 2 ^ 31) (buffer : List UInt8) :
    (∃ frames, payloads.mapM encodeFrame = .ok frames ∧
      ∀ turns rest, arrived turns ++ rest = frames.flatten →
        (∃ taken left, decodeTurns nextFrame [] turns = .ok (payloads.take taken, left) ∧
          left ++ rest = (frames.drop taken).flatten) ∧
        ∀ calls, payloads.length ≤ calls → ∃ taken left,
          decodeTurns nextFrame [] (turns ++ List.replicate calls .call) =
            .ok (payloads.take taken, left) ∧
          left ++ rest = (frames.drop taken).flatten ∧
          (∀ frame ∈ (frames.drop taken).head?, left.length < frame.length) ∧
          (rest = [] → payloads.take taken = payloads ∧ left = [])) ∧
    (Sound buffer ↔ ¬ Overlong buffer) := by
  refine ⟨⟨payloads.map frameBytes, mapM_encodeFrame hshort, ?_⟩, sound_iff buffer⟩
  intro turns rest hstream
  have hdrop : ∀ taken, ((payloads.map frameBytes).drop taken).flatten =
      (payloads.drop taken).flatMap frameBytes := by
    intro taken
    rw [← List.map_drop, List.flatMap_def]
  rw [← List.flatMap_def] at hstream
  constructor
  · obtain ⟨taken, left, hdecoded, hleft⟩ :=
      tryDecodeFrame_delimits.decodeTurns hshort [] hstream
    exact ⟨taken, left, hdecoded, by rw [hdrop, hleft]⟩
  · intro calls hcalls
    obtain ⟨taken, left, hdecoded, hleft, hpart⟩ :=
      tryDecodeFrame_delimits.delivers hshort hstream hcalls
    have hhead : ∀ frame ∈ ((payloads.map frameBytes).drop taken).head?,
        left.length < frame.length := by
      rw [← List.map_drop, List.head?_map]
      intro frame hmem
      obtain ⟨payload, hpayload, rfl⟩ := Option.mem_map.mp hmem
      exact hpart payload hpayload
    refine ⟨taken, left, hdecoded, by rw [hdrop, hleft], hhead, ?_⟩
    rintro rfl
    rw [List.append_nil] at hleft
    cases hlater : payloads.drop taken with
    | nil =>
      rw [hlater] at hleft
      exact ⟨List.take_of_length_le (List.drop_eq_nil_iff.mp hlater), hleft⟩
    | cons payload later =>
      have hlength := hpart payload (by rw [hlater]; rfl)
      rw [hleft, hlater, List.flatMap_cons, List.length_append] at hlength
      omega

/-- A length of which two bytes are there, behind which a frame can still come. -/
theorem frames_decode_and_sound_iff_two : Sound [0x80, 0x80] := by
  refine (frames_decode_and_sound_iff [[1], []] (by simp) [0x80, 0x80]).2.mpr ?_
  rintro ⟨more, rest, hbuffer, hlength, -⟩
  have hlong := congrArg List.length hbuffer
  simp only [List.length_cons, List.length_nil, List.length_append] at hlong
  omega

/-- Five bytes that each promise another are waited on for ever, and a sixth shifts by 35. -/
theorem overlong_length_is_awaited :
    (tryDecodeFrame (List.replicate 5 0x80)).result = .ok (none, List.replicate 5 0x80) ∧
      (∀ continuation frame later,
        (tryDecodeFrame (List.replicate 5 0x80 ++ continuation)).result ≠
          .ok (some frame, later)) ∧
      ¬ Sound (List.replicate 5 0x80) ∧
      35 ∈ (tryDecodeFrame (List.replicate 6 0x80)).shifts ∧
      35 ∈ (readVarint (List.replicate 6 0x80)).shifts := by
  have hoverlong : Overlong (List.replicate 5 0x80) := by
    refine ⟨List.replicate 5 0x80, [], rfl, rfl, fun byte hmem => ?_⟩
    rw [List.eq_of_mem_replicate hmem]
    decide
  refine ⟨overlong_waits hoverlong [], ?_, fun hsound => (sound_iff _).mp hsound hoverlong,
    by decide, by decide⟩
  intro continuation frame later hframe
  rw [overlong_waits hoverlong continuation] at hframe
  cases hframe

/-! ### The varints of packets -/

theorem readVarintLoop_whole (rest : List UInt8) (numRead : Nat) (result : UInt32)
    (hmore : ∀ byte ∈ more, continues byte) (hlast : continues last = false)
    (hshort : numRead + more.length ≤ 4) :
    (readVarintLoop (more ++ last :: rest) numRead result).result =
      .ok ((gather (more ++ [last]) numRead result).toInt32, rest) := by
  induction more generalizing numRead result with
  | nil =>
    have hfirst : ¬ numRead + 1 > 5 := by
      simp only [List.length_nil] at hshort
      omega
    simp [readVarintLoop, gather, hfirst, hlast]
  | cons byte more ih =>
    simp only [List.length_cons] at hshort
    have hfirst : ¬ numRead + 1 > 5 := by omega
    have hbyte : continues byte = true := hmore byte (by simp)
    have hrest := ih (numRead + 1)
      (result ||| (byte &&& 0x7f).toUInt32 <<< UInt32.ofNat (7 * numRead))
      (fun byte hmem => hmore byte (by simp [hmem])) (by omega)
    simpa only [List.cons_append, readVarintLoop, gather, hfirst, and_eq_zero_iff, hbyte,
      Bool.true_eq_false, if_false] using hrest

theorem readVarint_writeVarint (value : Int32) (rest : List UInt8) :
    (readVarint (writeVarint value ++ rest)).result = .ok (value, rest) := by
  obtain ⟨more, last, hwritten, hmore, hlast, hsize⟩ := writeVarintLoop_bytes value.toUInt32
  have hgather := gather_writeVarintLoop value.toUInt32 0 0 (by omega)
    (by have := value.toUInt32.toNat_lt; omega)
  have hvalue : gather (more ++ [last]) 0 0 = value.toUInt32 := by
    rw [← UInt32.toNat_inj, ← hwritten, hgather]
    simp
  have hread := readVarintLoop_whole rest 0 0 hmore hlast
    (by rw [Nat.zero_add]; exact writeVarintLoop_short hsize)
  rw [hvalue, Int32.toInt32_toUInt32] at hread
  rw [readVarint, writeVarint, hwritten, List.append_assoc, List.singleton_append, hread]

theorem packetReader_readVarintLoop_cons (left shift result : Nat) (byte : UInt8)
    (bytes : List UInt8) :
    PacketReader.readVarintLoop (left + 1) shift result (byte :: bytes) =
      if byte &&& 0x80 = 0 then
        .ok (wrapI32 ((result ||| (byte &&& 0x7f).toNat <<< shift % 2 ^ 32 : Nat)), bytes)
      else
        PacketReader.readVarintLoop left (shift + 7)
          (result ||| (byte &&& 0x7f).toNat <<< shift % 2 ^ 32) bytes := by
  by_cases hlast : byte &&& 0x80 = 0
  · rw [if_pos hlast, PacketReader.readVarintLoop]
    show (if byte &&& 0x80 = 0 then _ else _ : PacketReader Int) bytes = _
    rw [if_pos hlast]
    rfl
  · rw [if_neg hlast, PacketReader.readVarintLoop]
    show (if byte &&& 0x80 = 0 then _ else _ : PacketReader Int) bytes = _
    rw [if_neg hlast]

theorem readVarintLoop_eq (bytes : List UInt8) (left numRead : Nat) (result : UInt32)
    (hleft : left + numRead = 5) :
    PacketReader.readVarintLoop left (7 * numRead) result.toNat bytes =
      (readVarintLoop bytes numRead result).result.map fun read => (read.1.toInt, read.2) := by
  induction bytes generalizing left numRead result with
  | nil => cases left <;> rfl
  | cons byte bytes ih =>
    cases left with
    | zero =>
      have hlast : numRead + 1 > 5 := by omega
      simp only [readVarintLoop, hlast, if_true]
      rfl
    | succ left =>
      have hfirst : ¬ numRead + 1 > 5 := by omega
      rw [packetReader_readVarintLoop_cons, ← gathered_toNat byte result (by omega)]
      cases hbyte : continues byte with
      | false =>
        simp only [readVarintLoop, hfirst, and_eq_zero_iff, hbyte, if_true, if_false, Except.map,
          toInt32_toInt]
      | true =>
        simp only [readVarintLoop, hfirst, and_eq_zero_iff, hbyte, Bool.true_eq_false, if_false]
        exact ih left (numRead + 1) _ (by omega)

theorem packetReader_readVarint_writeVarint (value : Int32) (rest : List UInt8) :
    PacketReader.readVarint (writeVarint value ++ rest) = .ok (value.toInt, rest) := by
  have hread := readVarintLoop_eq (writeVarint value ++ rest) 5 0 0 rfl
  rw [← readVarint, readVarint_writeVarint] at hread
  exact hread

end RevyCraft.MinecraftWireCodec
