/-
  RevyCraft/SlotCodec.lean
  ========================
  **Slots of the Java versions** (`read_slot` and `write_slot` of
  `inventory/slot_codec.rs`, with the item tables of `blocks.rs`).

  A stack that a client introduces has a damage that some reader let through: the
  readers of the legacy slots check it for eight of the fourteen items, and for the
  other six it is any number.  The flattened slot of 1.13.2 has no damage, so that a
  stack of the six loses its own there.
-/
import RevyCraft.WireFraming
import RevyCraft.SlotNbt
import RevyCraft.LegacyTables
import RevyCraft.Mutation

namespace RevyCraft.SlotCodec

open Bytes Readers SlotNbt Catalog Canonical MinecraftWireCodec

/-! ### The encodings -/

inductive SlotNbtEncoding where
  | lengthPrefixedBlob
  | rootTag

inductive SlotEncoding where
  | legacy (nbt : SlotNbtEncoding)
  | presentVarInt (nbt : SlotNbtEncoding)

def JE_1_7_10_SLOT : SlotEncoding := .legacy .lengthPrefixedBlob
def JE_1_8_X_SLOT : SlotEncoding := .legacy .rootTag
def JE_1_12_2_SLOT : SlotEncoding := .legacy .rootTag
def JE_1_13_2_SLOT : SlotEncoding := .presentVarInt .rootTag

def flattenedItemIds : List (String × Int32) :=
  [(STONE, 1), (GRASS_BLOCK, 8), (DIRT, 9), (COBBLESTONE, 12), (OAK_PLANKS, 13), (OAK_LOG, 32),
    (BEDROCK, 25), (SAND, 26), (GLASS, 64), (SANDSTONE, 68), (BRICKS, 135), (CHEST, 149),
    (CRAFTING_TABLE, 152), (FURNACE, 154), (STICK, 497)]

/-- `flattened_item_id_1_13_2`. -/
def flattenedItemId (stack : ItemStack) : Option Int32 :=
  if stack.isLegacyCompatible then flattenedItemIds.lookup stack.key else none

/-- `semantic_flattened_item_1_13_2`. -/
def semanticFlattenedItem (itemId : Int) (count : Nat) : ItemStack :=
  match itemId with
  | 1 => .new STONE count 0
  | 8 => .new GRASS_BLOCK count 0
  | 9 => .new DIRT count 0
  | 12 => .new COBBLESTONE count 0
  | 13 => .new OAK_PLANKS count 0
  | 32 => .new OAK_LOG count 0
  | 25 => .new BEDROCK count 0
  | 26 => .new SAND count 0
  | 64 => .new GLASS count 0
  | 68 => .new SANDSTONE count 0
  | 135 => .new BRICKS count 0
  | 149 => .new CHEST count 0
  | 152 => .new CRAFTING_TABLE count 0
  | 154 => .new FURNACE count 0
  | 497 => .new STICK count 0
  | itemId =>
    .new "minecraft:unsupported" count
      (if 0 ≤ itemId ∧ itemId < 2 ^ 16 then itemId.toNat else 2 ^ 16 - 1)

def skipSlotNbt : SlotNbtEncoding → Skipper Unit
  | .lengthPrefixedBlob => read skipSlotNbtBlob
  | .rootTag => skipSlotNbtRoot

def readSlot : SlotEncoding → Skipper (Option ItemStack)
  | .legacy nbt => readLegacySlot read (skipSlotNbt nbt)
  | .presentVarInt nbt => do
    if ← read PacketReader.readBool then
      let itemId ← read PacketReader.readVarint
      let count ← read PacketReader.readU8
      skipSlotNbt nbt
      return some (semanticFlattenedItem itemId count.toNat)
    else return none

def writeEmptySlotNbt : SlotNbtEncoding → List UInt8
  | .lengthPrefixedBlob => beInt 2 (-1)
  | .rootTag => [0]

def writeSlot (stack : Option ItemStack) : SlotEncoding → Except ProtocolError (List UInt8)
  | .legacy nbt =>
    match stack with
    | none => .ok (beInt 2 (-1))
    | some stack =>
      match legacyItem stack with
      | none => .error (.invalidPacket "unsupported inventory item")
      | some item =>
        .ok (beInt 2 item.1 ++ [UInt8.ofNat stack.count] ++ beBytes 2 item.2 ++
          writeEmptySlotNbt nbt)
  | .presentVarInt nbt =>
    match stack with
    | none => .ok [0]
    | some stack =>
      match flattenedItemId stack with
      | none => .error (.invalidPacket "unsupported inventory item")
      | some itemId =>
        .ok ([1] ++ writeVarint itemId ++ [UInt8.ofNat stack.count] ++ writeEmptySlotNbt nbt)

/-- Some client introduces the damage with the item: a reader returns such a stack. -/
def Introduced (key : String) (damage : Nat) : Prop :=
  ∃ slot bytes count rest,
    readSlot slot bytes = some (.ok (some (.new key count damage), rest))

/-- A stack comes back from the bytes it is written as, whatever follows them. -/
def RoundTrips (slot : SlotEncoding) (stack : ItemStack) : Prop :=
  ∃ bytes, writeSlot (some stack) slot = .ok bytes ∧
    ∀ suffix, readSlot slot (bytes ++ suffix) = some (.ok (some stack, suffix))

/-- The encoding has a place for the damage of a stack, or it needs none. -/
def Keeps : SlotEncoding → Nat → Prop
  | .legacy _, _ => True
  | .presentVarInt _, damage => damage = 0

/-! ### What is written is read -/

theorem reads_i16 {value : Int} (hlow : 0 ≤ value) (hhigh : value < 2 ^ 15) :
    Reads (read PacketReader.readI16) (beInt 2 value) value := by
  have hbits : toUnsigned 2 value = value.toNat := by
    rw [toUnsigned, Int.emod_eq_of_lt hlow (by omega)]
  have hvalue : beValue (beInt 2 value) = value.toNat := by
    rw [beInt, hbits, beValue_beBytes 2 _ (by omega)]
  have hreads := (fixedWidth_readSigned 2).reads (length_beInt 2 value)
  rw [hvalue, if_pos (by omega), Int.toNat_of_nonneg hlow] at hreads
  exact hreads

theorem reads_u16 {value : Nat} (h : value < 2 ^ 16) :
    Reads (read PacketReader.readU16) (beBytes 2 value) value := by
  have hreads := (fixedWidth_readUnsigned 2).reads (length_beBytes 2 value)
  rw [beValue_beBytes 2 value h] at hreads
  exact hreads

theorem reads_bool (value : UInt8) :
    Reads (read PacketReader.readBool) [value] (decide (value ≠ 0)) :=
  (fixedWidth_readU8.map fun byte => decide (byte ≠ 0)).reads rfl

theorem reads_varint (value : Int32) :
    Reads (read PacketReader.readVarint) (writeVarint value) value.toInt := fun rest =>
  congrArg some (packetReader_readVarint_writeVarint value rest)

theorem reads_emptySlotNbt (nbt : SlotNbtEncoding) :
    Reads (skipSlotNbt nbt) (writeEmptySlotNbt nbt) () := by
  intro rest
  cases nbt with
  | lengthPrefixedBlob =>
    have hread := (fixedWidth_readSigned 2).reads (length_beInt 2 (-1)) rest
    show some (skipSlotNbtBlob (beInt 2 (-1) ++ rest)) = _
    have hread' : PacketReader.readI16 (beInt 2 (-1) ++ rest) = .ok (-1, rest) :=
      Option.some.inj hread
    have hskip : skipSlotNbtBlob (beInt 2 (-1) ++ rest) = .ok ((), rest) := by
      simp only [skipSlotNbtBlob, bind, StateT.bind, hread']
      rfl
    rw [hskip]
  | rootTag =>
    show skipRoot (0 :: rest).length ([0] ++ rest) = _
    exact (reads_u8 0).bind (Reads.pure ()) rest

variable {count damage : Nat} {key : String}

theorem reads_legacySlot {itemId : Int} (hlow : 0 ≤ itemId) (hhigh : itemId < 2 ^ 15)
    (hcount : count < 2 ^ 8) (hdamage : damage < 2 ^ 16) (nbt : SlotNbtEncoding) :
    Reads (readSlot (.legacy nbt))
      (beInt 2 itemId ++ [UInt8.ofNat count] ++ beBytes 2 damage ++ writeEmptySlotNbt nbt)
      (some (semanticItem itemId damage count)) := by
  have hbyte : (UInt8.ofNat count).toNat = count := by
    rw [UInt8.toNat_ofNat']
    omega
  have hresult : Reads (Pure.pure (some (semanticItem itemId damage (UInt8.ofNat count).toNat)) :
      Skipper (Option ItemStack)) [] (some (semanticItem itemId damage count)) := by
    rw [hbyte]
    exact Reads.pure _
  have hbody : Reads (if itemId < 0 then return none
      else do
        let count ← read PacketReader.readU8
        let damage ← read PacketReader.readU16
        skipSlotNbt nbt
        return some (semanticItem itemId damage count.toNat))
      ([UInt8.ofNat count] ++ (beBytes 2 damage ++ (writeEmptySlotNbt nbt ++ [])))
      (some (semanticItem itemId damage count)) := by
    rw [if_neg (Int.not_lt.mpr hlow)]
    exact (reads_u8 (UInt8.ofNat count)).bind
      ((reads_u16 hdamage).bind ((reads_emptySlotNbt nbt).bind hresult))
  have hall : Reads (readSlot (.legacy nbt)) _ _ := (reads_i16 hlow hhigh).bind hbody
  simpa only [List.append_assoc, List.append_nil] using hall

theorem reads_presentSlot (itemId : Int32) (hcount : count < 2 ^ 8) (nbt : SlotNbtEncoding) :
    Reads (readSlot (.presentVarInt nbt))
      ([1] ++ writeVarint itemId ++ [UInt8.ofNat count] ++ writeEmptySlotNbt nbt)
      (some (semanticFlattenedItem itemId.toInt count)) := by
  have hbyte : (UInt8.ofNat count).toNat = count := by
    rw [UInt8.toNat_ofNat']
    omega
  have hresult : Reads (Pure.pure (some (semanticFlattenedItem itemId.toInt
      (UInt8.ofNat count).toNat)) : Skipper (Option ItemStack)) []
      (some (semanticFlattenedItem itemId.toInt count)) := by
    rw [hbyte]
    exact Reads.pure _
  have hbody : Reads (do
      let itemId ← read PacketReader.readVarint
      let count ← read PacketReader.readU8
      skipSlotNbt nbt
      return some (semanticFlattenedItem itemId count.toNat))
      (writeVarint itemId ++ ([UInt8.ofNat count] ++ (writeEmptySlotNbt nbt ++ [])))
      (some (semanticFlattenedItem itemId.toInt count)) :=
    (reads_varint itemId).bind
      ((reads_u8 (UInt8.ofNat count)).bind ((reads_emptySlotNbt nbt).bind hresult))
  have hall : Reads (readSlot (.presentVarInt nbt)) _ _ := (reads_bool 1).bind hbody
  simpa only [List.append_assoc, List.append_nil] using hall

/-! ### What the readers let through -/

theorem readSlot_cases {slot : SlotEncoding} {bytes rest : List UInt8} {stack : ItemStack}
    (h : readSlot slot bytes = some (.ok (some stack, rest))) :
    (∃ itemId damage count, stack = semanticItem itemId damage count) ∨
      ∃ itemId count, stack = semanticFlattenedItem itemId count := by
  cases slot with
  | legacy nbt =>
    obtain ⟨itemId, afterId, -, h⟩ := bind_eq_ok h
    by_cases hempty : itemId < 0
    · rw [if_pos hempty] at h
      cases h
    · rw [if_neg hempty] at h
      obtain ⟨count, afterCount, -, h⟩ := bind_eq_ok h
      obtain ⟨damage, afterDamage, -, h⟩ := bind_eq_ok h
      obtain ⟨-, afterNbt, -, h⟩ := bind_eq_ok h
      cases h
      exact .inl ⟨itemId, damage, count.toNat, rfl⟩
  | presentVarInt nbt =>
    obtain ⟨present, afterFlag, -, h⟩ := bind_eq_ok h
    cases present with
    | false => cases h
    | true =>
      obtain ⟨itemId, afterId, -, h⟩ := bind_eq_ok h
      obtain ⟨count, afterCount, -, h⟩ := bind_eq_ok h
      obtain ⟨-, afterNbt, -, h⟩ := bind_eq_ok h
      cases h
      exact .inr ⟨itemId, count.toNat, rfl⟩

theorem semanticItem_guarded (itemId : Int) (damage count : Nat)
    (h : (semanticItem itemId damage count).key ∈ damageGuarded) :
    (semanticItem itemId damage count).damage = 0 := by
  unfold semanticItem at h ⊢
  split
  all_goals first
    | rfl
    | (exfalso; revert h; simp only [ItemStack.new]; decide)

theorem semanticFlattenedItem_damage (itemId : Int) (count : Nat)
    (h : itemSupportedForInventory (semanticFlattenedItem itemId count).key = true) :
    (semanticFlattenedItem itemId count).damage = 0 := by
  unfold semanticFlattenedItem at h ⊢
  split
  all_goals first
    | rfl
    | (exfalso; revert h; simp only [ItemStack.new]; decide)

theorem Introduced.guarded (h : Introduced key damage)
    (hsupported : itemSupportedForInventory key = true) (hguarded : key ∈ damageGuarded) :
    damage = 0 := by
  obtain ⟨slot, bytes, count, rest, hread⟩ := h
  rcases readSlot_cases hread with ⟨itemId, damage', count', hstack⟩ | ⟨itemId, count', hstack⟩
  · have hkey : key = (semanticItem itemId damage' count').key := congrArg ItemStack.key hstack
    rw [hkey] at hguarded
    exact (congrArg ItemStack.damage hstack).trans (semanticItem_guarded _ _ _ hguarded)
  · have hkey : key = (semanticFlattenedItem itemId count').key := congrArg ItemStack.key hstack
    rw [hkey] at hsupported
    exact (congrArg ItemStack.damage hstack).trans (semanticFlattenedItem_damage _ _ hsupported)

/-! ### Which stacks come back -/

theorem semanticFlattenedItem_flattenedItemId (count damage : Nat)
    (hsupported : itemSupportedForInventory key = true) :
    ∃ itemId, flattenedItemId (.new key count damage) = some itemId ∧
      semanticFlattenedItem itemId.toInt count = .new key count 0 := by
  simp only [itemSupportedForInventory, List.mem_cons, List.not_mem_nil, or_false,
    decide_eq_true_eq] at hsupported
  rcases hsupported with rfl | rfl | rfl | rfl | rfl | rfl | rfl | rfl | rfl | rfl | rfl | rfl |
    rfl | rfl <;> exact ⟨_, rfl, rfl⟩

/-- What a client of the version of the encoding holds for a stack, and echoes back. -/
def echo : SlotEncoding → ItemStack → ItemStack
  | .legacy _, stack => stack
  | .presentVarInt _, stack => { stack with damage := 0 }

theorem echo_eq_iff (slot : SlotEncoding) (key : String) (count damage : Nat) :
    echo slot (.new key count damage) = .new key count damage ↔ Keeps slot damage := by
  cases slot with
  | legacy nbt => simp [echo, Keeps]
  | presentVarInt nbt => simp [echo, Keeps, ItemStack.new, eq_comm]

/-- Every stack that a client can introduce is written, and read back as its echo. -/
theorem writeSlot_echo (slot : SlotEncoding) (hsupported : itemSupportedForInventory key = true)
    (hcount : count < 2 ^ 8) (hdamage : damage < 2 ^ 16) (hintroduced : Introduced key damage) :
    ∃ bytes, writeSlot (some (.new key count damage)) slot = .ok bytes ∧
      Reads (readSlot slot) bytes (some (echo slot (.new key count damage))) := by
  cases slot with
  | legacy nbt =>
    obtain ⟨itemId, hitem, hlow, hhigh, hread⟩ :=
      @semanticItem_legacyItem (.new key count damage) hsupported rfl
    have hstack : semanticItem itemId damage count = .new key count damage := by
      refine hread.trans (if_neg ?_)
      rintro ⟨hguarded, hnonzero⟩
      exact hnonzero (hintroduced.guarded hsupported hguarded)
    have hreads := reads_legacySlot hlow hhigh hcount hdamage nbt
    rw [hstack] at hreads
    exact ⟨_, by rw [writeSlot, hitem]; rfl, hreads⟩
  | presentVarInt nbt =>
    obtain ⟨itemId, hitem, hread⟩ :=
      semanticFlattenedItem_flattenedItemId count damage hsupported
    have hreads := reads_presentSlot itemId hcount nbt
    rw [hread] at hreads
    exact ⟨_, by rw [writeSlot, hitem]; rfl, hreads⟩

/-- A stack that a client can introduce comes back from the bytes of a version exactly when that
    version keeps its damage, and so is a click accepted on a slot that holds it, whose client
    echoes what it was sent. -/
theorem slot_roundTrips_iff (slot : SlotEncoding) {key : String} {count damage : Nat}
    (hsupported : itemSupportedForInventory key = true) (hcount : count < 2 ^ 8)
    (hdamage : damage < 2 ^ 16) (hintroduced : Introduced key damage) :
    (RoundTrips slot (.new key count damage) ↔ Keeps slot damage) ∧
    ∃ bytes echoed, writeSlot (some (.new key count damage)) slot = .ok bytes ∧
      (∀ suffix, readSlot slot (bytes ++ suffix) = some (.ok (echoed, suffix))) ∧
      ∀ clicked (contents : InventoryWindowContents),
        contents.getSlot clicked = some (.new key count damage) →
        (clickAccepted (.strictSlotEcho echoed) true (some clicked) contents = true ↔
          Keeps slot damage) := by
  obtain ⟨bytes, hwritten, hreads⟩ := writeSlot_echo slot hsupported hcount hdamage hintroduced
  refine ⟨?_, bytes, _, hwritten, hreads, ?_⟩
  · rw [← echo_eq_iff slot key count damage]
    constructor
    · rintro ⟨bytes', hwritten', hback⟩
      obtain rfl : bytes = bytes' := Except.ok.inj (hwritten.symm.trans hwritten')
      have hsame := Except.ok.inj (Option.some.inj ((hreads []).symm.trans (hback [])))
      exact Option.some.inj (congrArg Prod.fst hsame)
    · intro hecho
      exact ⟨bytes, hwritten, hecho ▸ hreads⟩
  · intro clicked contents hslot
    rw [← echo_eq_iff slot key count damage]
    simp [clickAccepted, hslot]

/-- Three planks of a 1.8 client, seen by a 1.13.2 client. -/
theorem slot_roundTrips_iff_planks : RoundTrips JE_1_13_2_SLOT (.new OAK_PLANKS 3 0) := by
  have hintroduced : Introduced OAK_PLANKS 0 :=
    ⟨JE_1_8_X_SLOT, [0, 5, 3, 0, 0, 0], 3, [], rfl⟩
  exact (slot_roundTrips_iff JE_1_13_2_SLOT rfl (by decide) (by decide) hintroduced).1.mpr rfl

/-- Stone of the damage 5, which a 1.8 client can introduce, comes back from the slot of 1.13.2
    without it. -/
theorem damaged_stone_is_lost :
    itemSupportedForInventory STONE = true ∧ Introduced STONE 5 ∧
      ¬ RoundTrips JE_1_13_2_SLOT (.new STONE 32 5) := by
  have hintroduced : Introduced STONE 5 := ⟨JE_1_8_X_SLOT, [0, 1, 32, 0, 5, 0], 32, [], rfl⟩
  refine ⟨rfl, hintroduced, ?_⟩
  rintro ⟨bytes, hwritten, hback⟩
  have hcount : 32 < 2 ^ 8 := by decide
  obtain ⟨bytes', hwritten', hreads⟩ :=
    writeSlot_echo JE_1_13_2_SLOT rfl hcount (by decide) hintroduced
  obtain rfl : bytes = bytes' := Except.ok.inj (hwritten.symm.trans hwritten')
  have hsame := Except.ok.inj (Option.some.inj ((hreads []).symm.trans (hback [])))
  have hdamage := congrArg ItemStack.damage (Option.some.inj (congrArg Prod.fst hsame))
  exact absurd hdamage (by decide)

end RevyCraft.SlotCodec
