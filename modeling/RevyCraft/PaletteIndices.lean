/-
  RevyCraft/PaletteIndices.lean
  =============================
  **Indices into a palette, packed into longs** (`pack_indices` and `unpack_indices` of
  `chunk_nbt.rs` in `mc-plugin-storage-je-anvil-1_18_2`).

  As many indices as fit go into a long, each in as many bits as the largest needs.  Slot
  `k` of the bits of all longs is described by `slotOf`; a long is read at the slots of
  its own indices.  Shifts and divisions panic as they do in builds that check overflow.
-/
import RevyCraft.Nbt
import RevyCraft.PackedBits
import Mathlib.Data.Nat.Log

namespace RevyCraft.ModernAnvil

open Bytes PackedBits

/-! ### The code -/

def outOfBounds : String := "index out of bounds"

/-- `value << amount`. -/
def shiftLeft (value : BitVec 64) (amount : Nat) : Storage (BitVec 64) :=
  if amount < 64 then .ok (value <<< amount)
  else Storage.panicked "attempt to shift left with overflow"

/-- `value >> amount`. -/
def shiftRight (value : BitVec 64) (amount : Nat) : Storage (BitVec 64) :=
  if amount < 64 then .ok (value >>> amount)
  else Storage.panicked "attempt to shift right with overflow"

/-- `div_ceil`. -/
def divCeil (count size : Nat) : Storage Nat :=
  if size = 0 then Storage.panicked "attempt to divide by zero"
  else .ok ((count + size - 1) / size)

def bitsPerValue (paletteLen minBits : Nat) : Nat :=
  max (if paletteLen ≤ 1 then 1 else Nat.log2 (paletteLen - 1) + 1) minBits

/-- `packed[long_index] |= value`. -/
def orLong (packed : List (BitVec 64)) (longIndex : Nat) (value : BitVec 64) :
    Storage (List (BitVec 64)) :=
  match orAt packed longIndex value with
  | some packed => .ok packed
  | none => Storage.panicked outOfBounds

/-- The loop over the indices, from the one at this position on. -/
def packFrom (bits perLong : Nat) (mask : BitVec 64) :
    List Nat → Nat → List (BitVec 64) → Storage (List (BitVec 64))
  | [], _, packed => .ok packed
  | value :: rest, position, packed => do
    let shifted ← shiftLeft (BitVec.ofNat 64 value &&& mask) (position % perLong * bits)
    let packed ← orLong packed (position / perLong) shifted
    packFrom bits perLong mask rest (position + 1) packed

def packIndices (indices : List Nat) (minBits : Nat) : Storage (List Int) := do
  let paletteLen := indices.max?.getD 0 + 1
  let bits := bitsPerValue paletteLen minBits
  let perLong := 64 / bits
  let one ← shiftLeft 1#64 bits
  let length ← divCeil indices.length perLong
  let packed ← packFrom bits perLong (one - 1#64) indices 0 (List.replicate length 0)
  pure (packed.map BitVec.toInt)

/-- The index at one position. -/
def unpackAt (paletteLen bits perLong : Nat) (mask : BitVec 64) (values : List Int)
    (position : Nat) : Storage Nat :=
  match values[position / perLong]? with
  | none => Storage.panicked outOfBounds
  | some long => do
    let shifted ← shiftRight (BitVec.ofInt 64 long) (position % perLong * bits)
    let value := (shifted &&& mask).toNat
    if value ≥ paletteLen then Storage.invalidData "palette index was out of bounds"
    else pure value

def unpackIndices (paletteLen valueCount minBits : Nat) (data : Option NbtTag) :
    Storage (List Nat) :=
  if paletteLen = 1 then .ok (List.replicate valueCount 0)
  else
    match data with
    | some (.longArray values) => do
      let bits := bitsPerValue paletteLen minBits
      let perLong := 64 / bits
      let expectedLen ← divCeil valueCount perLong
      if values.length ≠ expectedLen then
        Storage.invalidData ("expected " ++ toString expectedLen ++ " packed longs, got " ++
          toString values.length)
      else do
        let one ← shiftLeft 1#64 bits
        (List.range valueCount).mapM (unpackAt paletteLen bits perLong (one - 1#64) values)
    | _ => Storage.invalidData "palette data was missing"

/-! ### The width of an index -/

theorem bitsPerValue_pos {paletteLen minBits : Nat} (h : 1 ≤ minBits) :
    1 ≤ bitsPerValue paletteLen minBits := Nat.le_trans h (Nat.le_max_right ..)

theorem lt_two_pow_bits {paletteLen minBits value : Nat} (h : value < paletteLen) :
    value < 2 ^ bitsPerValue paletteLen minBits := by
  unfold bitsPerValue
  split
  next hone =>
    obtain rfl : value = 0 := by omega
    exact Nat.two_pow_pos _
  next hmany =>
    calc value ≤ paletteLen - 1 := by omega
      _ < 2 ^ (Nat.log2 (paletteLen - 1) + 1) := Nat.lt_log2_self
      _ ≤ 2 ^ max (Nat.log2 (paletteLen - 1) + 1) minBits :=
        Nat.pow_le_pow_right (by decide) (Nat.le_max_left ..)

theorem bitsPerValue_le {paletteLen minBits bound : Nat} (hpalette : paletteLen ≤ 2 ^ bound)
    (hpos : 1 ≤ bound) (hmin : minBits ≤ bound) : bitsPerValue paletteLen minBits ≤ bound := by
  unfold bitsPerValue
  refine Nat.max_le.mpr ⟨?_, hmin⟩
  split
  next => exact hpos
  next hmany => exact (Nat.log2_lt (by omega)).mpr (by omega)

theorem offset_le {bits perLong position : Nat} (hper : perLong * bits ≤ 64) (hpos : 0 < perLong) :
    position % perLong * bits + bits ≤ 64 := by
  have hmul : (position % perLong + 1) * bits ≤ perLong * bits :=
    Nat.mul_le_mul_right bits (Nat.mod_lt position hpos)
  rw [Nat.add_mul, Nat.one_mul] at hmul
  omega

theorem getLsbD_mask {bits b : Nat} (hbits : bits < 64) :
    ((1#64 <<< bits) - 1#64).getLsbD b = decide (b < bits) := by
  have hpow : 2 ^ bits < 2 ^ 64 := Nat.pow_lt_pow_right (by decide) hbits
  have hone : (1#64 <<< bits).toNat = 2 ^ bits := by
    rw [BitVec.toNat_shiftLeft, Nat.shiftLeft_eq]
    simpa using Nat.mod_eq_of_lt hpow
  have hmask : ((1#64 <<< bits) - 1#64).toNat = 2 ^ bits - 1 := by
    rw [BitVec.toNat_sub_of_le, hone]
    · rfl
    · rw [BitVec.le_def, hone]
      exact Nat.two_pow_pos bits
  rw [← BitVec.testBit_toNat, hmask, Nat.testBit_two_pow_sub_one]

/-! ### The loop of the writer -/

/-- The position of the index that a bit of the longs belongs to. -/
def slotOf (bits perLong k : Nat) : Nat := k / 64 * perLong + k % 64 / bits

section Pack

variable {bits perLong : Nat} {mask : BitVec 64}

theorem slotOf_iff (hbits : 0 < bits) (hpos : 0 < perLong) (position k : Nat) :
    (k % 64 / bits < perLong ∧ slotOf bits perLong k = position) ↔
      k / 64 = position / perLong ∧ position % perLong * bits ≤ k % 64 ∧
        k % 64 < position % perLong * bits + bits := by
  unfold slotOf
  have hsplit := Nat.div_add_mod' position perLong
  constructor
  · rintro ⟨hfield, rfl⟩
    have hdiv : (k / 64 * perLong + k % 64 / bits) / perLong = k / 64 := by
      rw [Nat.add_comm, Nat.add_mul_div_right _ _ hpos, Nat.div_eq_of_lt hfield, Nat.zero_add]
    have hmod : (k / 64 * perLong + k % 64 / bits) % perLong = k % 64 / bits := by
      rw [Nat.add_comm, Nat.add_mul_mod_self_right, Nat.mod_eq_of_lt hfield]
    rw [hdiv, hmod]
    have hlow := Nat.div_mul_le_self (k % 64) bits
    have hhigh := Nat.lt_div_mul_add hbits (a := k % 64)
    exact ⟨rfl, hlow, hhigh⟩
  · rintro ⟨hlong, hlow, hhigh⟩
    have hfield : k % 64 / bits = position % perLong := by
      refine Nat.div_eq_of_lt_le hlow ?_
      rw [Nat.add_mul, Nat.one_mul]
      exact hhigh
    rw [hlong, hfield]
    exact ⟨Nat.mod_lt _ hpos, hsplit⟩

theorem getLsbD_shifted (hbits : 0 < bits) (hpos : 0 < perLong)
    (hmask : ∀ b, mask.getLsbD b = decide (b < bits)) (value position k : Nat) :
    (decide (k / 64 = position / perLong) &&
      ((BitVec.ofNat 64 value &&& mask) <<< (position % perLong * bits)).getLsbD (k % 64)) =
    (decide (k % 64 / bits < perLong ∧ slotOf bits perLong k = position) &&
      value.testBit (k % 64 % bits)) := by
  have hlt : k % 64 < 64 := Nat.mod_lt _ (by decide)
  by_cases hin : k % 64 / bits < perLong ∧ slotOf bits perLong k = position
  · obtain ⟨hlong, hlow, hhigh⟩ := (slotOf_iff hbits hpos position k).mp hin
    have hoffset : k % 64 - position % perLong * bits = k % 64 % bits := by
      have hfield : k % 64 / bits = position % perLong := by
        refine Nat.div_eq_of_lt_le hlow ?_
        rw [Nat.add_mul, Nat.one_mul]
        exact hhigh
      have hdivmod := Nat.div_add_mod' (k % 64) bits
      rw [hfield] at hdivmod
      omega
    have hless : k % 64 % bits < bits := Nat.mod_lt _ hbits
    have hbelow : k % 64 % bits < 64 := by
      have := Nat.mod_le (k % 64) bits
      omega
    rw [decide_eq_true hin, decide_eq_true hlong, BitVec.getLsbD_shiftLeft, hoffset,
      BitVec.getLsbD_and, hmask, BitVec.getLsbD_ofNat]
    simp [hlt, hlow, hless, hbelow]
  · rw [decide_eq_false hin, Bool.false_and]
    by_contra hset
    simp only [Bool.not_eq_false, Bool.and_eq_true, decide_eq_true_eq, BitVec.getLsbD_shiftLeft,
      BitVec.getLsbD_and, hmask, Bool.not_eq_true', decide_eq_false_iff_not] at hset
    obtain ⟨hlong, ⟨-, hlow⟩, -, hhigh⟩ := hset
    exact hin ((slotOf_iff hbits hpos position k).mpr ⟨hlong, by omega, by omega⟩)

theorem orLong_some {packed packed' : List (BitVec 64)} {longIndex : Nat} {value : BitVec 64}
    (h : orAt packed longIndex value = some packed') : orLong packed longIndex value = .ok packed' := by
  unfold orLong
  rw [h]

theorem packFrom_spec (hbits : 0 < bits) (hpos : 0 < perLong) (hper : perLong * bits ≤ 64)
    (hmask : ∀ b, mask.getLsbD b = decide (b < bits)) {values : List Nat} {position : Nat}
    {packed : List (BitVec 64)} (hroom : position + values.length ≤ perLong * packed.length) :
    ∃ packed', packFrom bits perLong mask values position packed = .ok packed' ∧
      packed'.length = packed.length ∧
      ∀ k, bitAt 64 packed' k = (bitAt 64 packed k ||
        (decide (k % 64 / bits < perLong ∧ position ≤ slotOf bits perLong k) &&
          (values[slotOf bits perLong k - position]?.getD 0).testBit (k % 64 % bits))) := by
  induction values generalizing position packed with
  | nil =>
    refine ⟨packed, rfl, rfl, fun k => ?_⟩
    simp
  | cons value rest ih =>
    rw [List.length_cons] at hroom
    have hoffset : position % perLong * bits + bits ≤ 64 := offset_le hper hpos
    have hlong : position / perLong < packed.length := Nat.div_lt_of_lt_mul (by omega)
    have hput : orAt packed (position / perLong)
        ((BitVec.ofNat 64 value &&& mask) <<< (position % perLong * bits)) =
          some (packed.modify (position / perLong)
            (· ||| (BitVec.ofNat 64 value &&& mask) <<< (position % perLong * bits))) := if_pos hlong
    have hlength := length_orAt hput
    have hbit := bitAt_orAt hput
    generalize packed.modify (position / perLong)
      (· ||| (BitVec.ofNat 64 value &&& mask) <<< (position % perLong * bits)) = middle
        at hput hlength hbit
    have hroom' : position + 1 + rest.length ≤ perLong * middle.length := by
      rw [hlength]
      omega
    obtain ⟨packed', hpack, hsame, hbits'⟩ := ih hroom'
    refine ⟨packed', ?_, hsame.trans hlength, fun k => ?_⟩
    · rw [packFrom, shiftLeft, if_pos (by omega)]
      exact (congrArg (· >>= _) (orLong_some hput)).trans hpack
    · rw [hbits' k, hbit k, getLsbD_shifted hbits hpos hmask, Bool.or_assoc]
      congr 1
      rcases Nat.lt_trichotomy (slotOf bits perLong k) position with hless | hsame | hmore
      · rw [decide_eq_false (by omega), decide_eq_false (by omega), decide_eq_false (by omega)]
        rfl
      · rw [hsame, Nat.sub_self]
        have hnot : ¬ (k % 64 / bits < perLong ∧ position + 1 ≤ position) := by omega
        rw [decide_eq_false hnot, Bool.false_and, Bool.or_false]
        simp
      · have hnot : ¬ (k % 64 / bits < perLong ∧ slotOf bits perLong k = position) := by omega
        rw [decide_eq_false hnot, Bool.false_and, Bool.false_or]
        obtain ⟨later, hlater⟩ := Nat.exists_eq_add_of_lt hmore
        have hrest : slotOf bits perLong k - position = later + 1 := by omega
        have hrest' : slotOf bits perLong k - (position + 1) = later := by omega
        rw [hrest, hrest', List.getElem?_cons_succ]
        congr 1
        exact decide_eq_decide.mpr (by omega)

end Pack

/-! ### Reading back -/

section Unpack

variable {paletteLen minBits bits perLong : Nat} {mask : BitVec 64} {indices : List Nat}

theorem divCeil_eq {count size : Nat} (h : 0 < size) :
    divCeil count size = .ok ((count + size - 1) / size) := if_neg (Nat.ne_of_gt h)

theorem le_mul_divCeil {count size : Nat} (h : 0 < size) :
    count ≤ size * ((count + size - 1) / size) := by
  have hdiv := Nat.div_add_mod (count + size - 1) size
  have hmod := Nat.mod_lt (count + size - 1) h
  omega

theorem mapM_ok {α β : Type} {f : α → Storage β} {g : α → β} {items : List α}
    (h : ∀ item ∈ items, f item = .ok (g item)) : items.mapM f = .ok (items.map g) := by
  induction items with
  | nil => rfl
  | cons item rest ih =>
    rw [List.mapM_cons, h item List.mem_cons_self,
      ih fun other hother => h other (List.mem_cons_of_mem _ hother)]
    rfl

theorem mapM_error {α β : Type} {f : α → Storage β} {items : List α} {fault : StorageFault}
    (h : items.mapM f = .error fault) : ∃ item ∈ items, f item = .error fault := by
  induction items with
  | nil => cases h
  | cons item rest ih =>
    rw [List.mapM_cons] at h
    cases hfirst : f item with
    | error first =>
      rw [hfirst] at h
      cases h
      exact ⟨item, List.mem_cons_self, hfirst⟩
    | ok value =>
      rw [hfirst] at h
      change (rest.mapM f >>= _) = _ at h
      cases hrest : rest.mapM f with
      | error later =>
        rw [hrest] at h
        cases h
        obtain ⟨other, hother, hfault⟩ := ih hrest
        exact ⟨other, List.mem_cons_of_mem _ hother, hfault⟩
      | ok values =>
        rw [hrest] at h
        cases h

/-- The index at position `k` is in the bits of its own field of one long. -/
def InOneLong (bits perLong : Nat) (longs : List Int) (k index : Nat) : Prop :=
  k % perLong * bits + bits ≤ 64 ∧ ∃ long, longs[k / perLong]? = some long ∧
    (BitVec.ofInt 64 long).extractLsb' (k % perLong * bits) bits = BitVec.ofNat bits index

section Packed

variable {packed : List (BitVec 64)} {position value : Nat}
  (hbits : 0 < bits) (hpos : 0 < perLong) (hper : perLong * bits ≤ 64)
  (hpacked : ∀ k, bitAt 64 packed k =
    (decide (k % 64 / bits < perLong) &&
      (indices[slotOf bits perLong k]?.getD 0).testBit (k % 64 % bits)))
  (hlong : position / perLong < packed.length) (hvalue : indices[position]? = some value)

include hbits hpos hper hpacked hlong hvalue

theorem extract_packed :
    packed[position / perLong].extractLsb' (position % perLong * bits) bits =
      BitVec.ofNat bits value := by
  have hoffset : position % perLong * bits + bits ≤ 64 := offset_le hper hpos
  refine BitVec.eq_of_getLsbD_eq fun b hb => ?_
  rw [BitVec.getLsbD_extractLsb', BitVec.getLsbD_ofNat, decide_eq_true hb, Bool.true_and,
    Bool.true_and]
  have hat := hpacked (position / perLong * 64 + (position % perLong * bits + b))
  have hdiv : (position / perLong * 64 + (position % perLong * bits + b)) / 64 =
      position / perLong := by omega
  have hmod : (position / perLong * 64 + (position % perLong * bits + b)) % 64 =
      position % perLong * bits + b := by omega
  have hfield : (position % perLong * bits + b) / bits = position % perLong := by
    rw [Nat.add_comm, Nat.add_mul_div_right _ _ hbits, Nat.div_eq_of_lt hb, Nat.zero_add]
  have hfield' : (position % perLong * bits + b) % bits = b := by
    rw [Nat.add_comm, Nat.add_mul_mod_self_right, Nat.mod_eq_of_lt hb]
  unfold bitAt slotOf at hat
  rw [hdiv, hmod, hfield, hfield', Nat.div_add_mod', hvalue,
    decide_eq_true (Nat.mod_lt position hpos), List.getElem?_eq_getElem hlong] at hat
  simpa only [Option.getD_some, Bool.true_and] using hat

theorem inOneLong_packed : InOneLong bits perLong (packed.map BitVec.toInt) position value := by
  refine ⟨offset_le hper hpos, packed[position / perLong].toInt, ?_, ?_⟩
  · rw [List.getElem?_map, List.getElem?_eq_getElem hlong]
    rfl
  · rw [BitVec.ofInt_toInt]
    exact extract_packed hbits hpos hper hpacked hlong hvalue

theorem unpackAt_eq (hmask : ∀ b, mask.getLsbD b = decide (b < bits)) (hfits : value < 2 ^ bits)
    (hbelow : value < paletteLen) :
    unpackAt paletteLen bits perLong mask (packed.map BitVec.toInt) position = .ok value := by
  have hoffset : position % perLong * bits + bits ≤ 64 := offset_le hper hpos
  have hraw : (packed.map BitVec.toInt)[position / perLong]? =
      some (packed[position / perLong]).toInt := by
    rw [List.getElem?_map, List.getElem?_eq_getElem hlong]
    rfl
  have hfield := extract_packed hbits hpos hper hpacked hlong hvalue
  have hword : ((packed[position / perLong] >>> (position % perLong * bits)) &&& mask).toNat =
      value := by
    refine Nat.eq_of_testBit_eq fun b => ?_
    rw [BitVec.testBit_toNat, BitVec.getLsbD_and, BitVec.getLsbD_ushiftRight, hmask]
    by_cases hb : b < bits
    · have hbit := congrArg (fun field => field.getLsbD b) hfield
      simpa only [BitVec.getLsbD_extractLsb', BitVec.getLsbD_ofNat, hb, decide_true, Bool.true_and,
        Bool.and_true] using hbit
    · have hhigh : value.testBit b = false := by
        refine Nat.testBit_lt_two_pow (Nat.lt_of_lt_of_le hfits ?_)
        exact Nat.pow_le_pow_right (by decide) (Nat.le_of_not_lt hb)
      rw [decide_eq_false hb, Bool.and_false, hhigh]
  unfold unpackAt
  rw [hraw]
  dsimp only
  rw [BitVec.ofInt_toInt, shiftRight, if_pos (by omega)]
  change (if ((packed[position / perLong] >>> (position % perLong * bits)) &&& mask).toNat ≥
    paletteLen then _ else _) = _
  rw [hword, if_neg (by omega)]
  rfl

end Packed

theorem unpackIndices_packIndices (hpalette : 2 ≤ paletteLen ∧ paletteLen ≤ 2 ^ 13)
    (hmin : 1 ≤ minBits ∧ minBits ≤ 13) (hbelow : ∀ index ∈ indices, index < paletteLen)
    (hlast : paletteLen - 1 ∈ indices) :
    bitsPerValue paletteLen minBits < 64 ∧
    ∃ longs, packIndices indices minBits = .ok longs ∧ (∀ long ∈ longs, FitsSigned 8 long) ∧
      (∀ k index, indices[k]? = some index → InOneLong (bitsPerValue paletteLen minBits)
        (64 / bitsPerValue paletteLen minBits) longs k index) ∧
      longs.length = (indices.length + 64 / bitsPerValue paletteLen minBits - 1) /
        (64 / bitsPerValue paletteLen minBits) ∧
      unpackIndices paletteLen indices.length minBits (some (.longArray longs)) = .ok indices := by
  have hmax : indices.max? = some (paletteLen - 1) :=
    List.max?_eq_some_iff.mpr ⟨hlast, fun index hindex => Nat.le_sub_one_of_lt (hbelow index hindex)⟩
  have hlen : indices.max?.getD 0 + 1 = paletteLen := by
    rw [hmax, Option.getD_some]
    omega
  have hbits : 0 < bitsPerValue paletteLen minBits := bitsPerValue_pos hmin.1
  have hwide : bitsPerValue paletteLen minBits ≤ 13 :=
    bitsPerValue_le hpalette.2 (by decide) hmin.2
  have hfits : ∀ index ∈ indices, index < 2 ^ bitsPerValue paletteLen minBits :=
    fun index hindex => lt_two_pow_bits (hbelow index hindex)
  unfold packIndices unpackIndices
  dsimp only
  rw [hlen]
  generalize bitsPerValue paletteLen minBits = bits at hbits hwide hfits ⊢
  have hper : 64 / bits * bits ≤ 64 := Nat.div_mul_le_self 64 bits
  have hpos : 0 < 64 / bits := Nat.div_pos (by omega) hbits
  generalize 64 / bits = perLong at hper hpos ⊢
  have hmask : ∀ b, ((1#64 <<< bits) - 1#64).getLsbD b = decide (b < bits) := fun b =>
    getLsbD_mask (by omega)
  have hroom : indices.length ≤ perLong * ((indices.length + perLong - 1) / perLong) :=
    le_mul_divCeil hpos
  have hroom' : 0 + indices.length ≤ perLong *
      (List.replicate ((indices.length + perLong - 1) / perLong) (0 : BitVec 64)).length := by
    rw [List.length_replicate, Nat.zero_add]
    exact hroom
  obtain ⟨packed, hpack, hlength, hpacked⟩ := packFrom_spec hbits hpos hper hmask hroom'
  rw [List.length_replicate] at hlength
  have hfields : ∀ k, bitAt 64 packed k = (decide (k % 64 / bits < perLong) &&
      (indices[slotOf bits perLong k]?.getD 0).testBit (k % 64 % bits)) := by
    intro k
    rw [hpacked k, bitAt_replicate_zero]
    simp
  have hlong : ∀ {position : Nat}, position < indices.length →
      position / perLong < packed.length := by
    intro position hin
    rw [hlength]
    exact Nat.div_lt_of_lt_mul (by omega)
  refine ⟨by omega, packed.map BitVec.toInt, ?_, ?_, ?_, ?_, ?_⟩
  · rw [shiftLeft, if_pos (by omega), divCeil_eq hpos]
    change (packFrom bits perLong _ indices 0 _ >>= fun packed =>
      pure (packed.map BitVec.toInt)) = _
    rw [hpack]
    rfl
  · intro long hlong
    obtain ⟨word, -, rfl⟩ := List.mem_map.mp hlong
    have hlow := BitVec.le_toInt word
    have hhigh := BitVec.toInt_lt (x := word)
    unfold FitsSigned
    omega
  · intro k index hindex
    obtain ⟨hin, -⟩ := List.getElem?_eq_some_iff.mp hindex
    exact inOneLong_packed hbits hpos hper hfields (hlong hin) hindex
  · rw [List.length_map, hlength]
  · rw [if_neg (by omega), divCeil_eq hpos]
    have hcount : ¬ (packed.map BitVec.toInt).length ≠ (indices.length + perLong - 1) / perLong := by
      rw [List.length_map, hlength]
      exact not_not.mpr rfl
    have hread : ∀ position ∈ List.range indices.length,
        unpackAt paletteLen bits perLong ((1#64 <<< bits) - 1#64) (packed.map BitVec.toInt) position =
          .ok (indices[position]?.getD 0) := by
      intro position hposition
      have hin := List.mem_range.mp hposition
      have hvalue := List.getElem?_eq_getElem hin
      have hmem := List.getElem_mem hin
      rw [hvalue, Option.getD_some]
      exact unpackAt_eq hbits hpos hper hfields (hlong hin) hvalue hmask (hfits _ hmem)
        (hbelow _ hmem)
    have hall : (List.range indices.length).map (fun position => indices[position]?.getD 0) =
        indices := by
      refine List.ext_getElem (by simp) fun position h h' => ?_
      simp [List.getElem?_eq_getElem h']
    change (if (packed.map BitVec.toInt).length ≠ (indices.length + perLong - 1) / perLong then _
      else shiftLeft 1#64 bits >>= _) = _
    rw [if_neg hcount, shiftLeft, if_pos (by omega)]
    exact (mapM_ok hread).trans (congrArg _ hall)

theorem unpackIndices_in_bounds (paletteLen valueCount minBits : Nat) (data : Option NbtTag) :
    unpackIndices paletteLen valueCount minBits data ≠ .error (.panic outOfBounds) := by
  intro h
  unfold unpackIndices at h
  split at h
  · cases h
  · split at h
    next values =>
      dsimp only at h
      generalize bitsPerValue paletteLen minBits = bits at h
      generalize 64 / bits = perLong at h
      by_cases hzero : perLong = 0
      · rw [divCeil, if_pos hzero] at h
        exact absurd (StorageFault.panic.inj (Except.error.inj h)) (by decide)
      · have hpos : 0 < perLong := Nat.pos_of_ne_zero hzero
        rw [divCeil_eq hpos] at h
        change (if values.length ≠ (valueCount + perLong - 1) / perLong then _
          else shiftLeft 1#64 bits >>= _) = _ at h
        split at h
        · cases h
        next hlength =>
          have hlength' : values.length = (valueCount + perLong - 1) / perLong := not_not.mp hlength
          unfold shiftLeft at h
          split at h
          · obtain ⟨position, hposition, hfault⟩ := mapM_error h
            have hroom : valueCount ≤ perLong * ((valueCount + perLong - 1) / perLong) :=
              le_mul_divCeil hpos
            have hin := List.mem_range.mp hposition
            have hlong : position / perLong < values.length := by
              rw [hlength']
              exact Nat.div_lt_of_lt_mul (by omega)
            unfold unpackAt at hfault
            rw [List.getElem?_eq_getElem hlong] at hfault
            dsimp only at hfault
            unfold shiftRight at hfault
            split at hfault
            · change (if _ then _ else _) = _ at hfault
              split at hfault
              · cases hfault
              · cases hfault
            · exact absurd (StorageFault.panic.inj (Except.error.inj hfault)) (by decide)
          · exact absurd (StorageFault.panic.inj (Except.error.inj h)) (by decide)
    next => cases h

/-- Indices round-trip at every size of the palette; every index is in the bits of one long, no
    shift reaches 64, and no long is read that is not there. -/
theorem paletteIndices_roundTrip :
    (∀ (paletteLen minBits : Nat) (indices : List Nat), 2 ≤ paletteLen ∧ paletteLen ≤ 4096 →
      1 ≤ minBits ∧ minBits ≤ 13 → (∀ index ∈ indices, index < paletteLen) →
      paletteLen - 1 ∈ indices →
      bitsPerValue paletteLen minBits < 64 ∧
      ∃ longs, packIndices indices minBits = .ok longs ∧ (∀ long ∈ longs, FitsSigned 8 long) ∧
        (∀ k index, indices[k]? = some index → InOneLong (bitsPerValue paletteLen minBits)
          (64 / bitsPerValue paletteLen minBits) longs k index) ∧
        longs.length = (indices.length + 64 / bitsPerValue paletteLen minBits - 1) /
          (64 / bitsPerValue paletteLen minBits) ∧
        unpackIndices paletteLen indices.length minBits (some (.longArray longs)) = .ok indices) ∧
    ∀ paletteLen valueCount minBits data,
      unpackIndices paletteLen valueCount minBits data ≠ .error (.panic outOfBounds) :=
  ⟨fun _ _ _ hpalette hmin hbelow hlast =>
      unpackIndices_packIndices ⟨hpalette.1, Nat.le_trans hpalette.2 (by decide)⟩ hmin hbelow hlast,
    unpackIndices_in_bounds⟩

end Unpack

end RevyCraft.ModernAnvil
