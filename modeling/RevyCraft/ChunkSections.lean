/-
  RevyCraft/ChunkSections.lean
  ============================
  **The sections of a chunk as the Java versions write them** (`chunks.rs` of
  `mc-proto-je-common`, with the block-change packets of the plugins).

  A version is told by what it writes for one section; the loop over the sections is
  the same in all four.  Beside each encoder stands its layout, a reader of the
  cells of a section in the order `y`, `z`, `x`.

  What the packets say of a cell is the id that the block-change packet of the same
  version says (`Unpacks`).
-/
import RevyCraft.PackedBits
import RevyCraft.SlotCodec
import RevyCraft.LegacyAnvil

namespace RevyCraft.ChunkSections

open Bytes Readers SlotNbt SlotCodec Catalog Canonical MinecraftWireCodec PackedBits

/-! ### The ids of blocks -/

def legacyBlockStateId (state : BlockState) : Nat := (legacyBlock state).1 <<< 4 ||| (legacyBlock state).2

def flattenedBlockIds : List (String × Nat) :=
  [(STONE, 1), (GRASS_BLOCK, 8), (DIRT, 10), (COBBLESTONE, 14), (OAK_PLANKS, 15), (BEDROCK, 33),
    (SAND, 66), (GLASS, 230), (SANDSTONE, 245), (BRICKS, 1125), (CHEST, 1729),
    (CRAFTING_TABLE, 3051), (FURNACE, 3068)]

def flattenedBlockStateId_1_13_2 (state : BlockState) : Nat :=
  (flattenedBlockIds.lookup state.key).getD 0

/-! ### The encoders of a section -/

/-- A `try_from` of an integer type with `bound` values; `none` where its `expect` panics. -/
def narrow (bound value : Nat) : Option Nat := if value < bound then some value else none

/-- `values[index] = value`; `none` where there is no such place. -/
def assign {α : Type} (values : List α) (index : Nat) (value : α) : Option (List α) :=
  if index < values.length then some (values.set index value) else none

/-- The ids of the cells, and 0 where there is no block. -/
def blockStates (id : BlockState → Nat) (chunk : ChunkSection) : Option (List Nat) :=
  chunk.blocks.toList.foldlM (fun states entry => assign states entry.1 (id entry.2))
    (List.replicate 4096 0)

def light : List UInt8 := List.replicate 2048 0 ++ List.replicate 2048 0xff

/-- The bytes and the nibbles of 1.7; the nibble of a cell is there if its byte is. -/
def assignLegacy (arrays : List UInt8 × List UInt8) (entry : Nat × BlockState) :
    Option (List UInt8 × List UInt8) := do
  let blockId ← narrow 256 (legacyBlock entry.2).1
  let blocks ← assign arrays.1 entry.1 (UInt8.ofNat blockId)
  some (blocks, LegacyAnvil.setNibble arrays.2 entry.1 (legacyBlock entry.2).2)

def encodeSection_1_7 (chunk : ChunkSection) : Option (List UInt8) := do
  let arrays ← chunk.blocks.toList.foldlM assignLegacy (List.replicate 4096 0, List.replicate 2048 0)
  some (arrays.1 ++ arrays.2 ++ light)

def encodeSection_1_8 (chunk : ChunkSection) : Option (List UInt8) := do
  let states ← chunk.blocks.toList.foldlM (fun states entry => do
    assign states entry.1 (← narrow (2 ^ 16) (legacyBlockStateId entry.2))) (List.replicate 4096 0)
  some (states.flatMap (leBytes 2) ++ light)

/-- `bits_per_block`; the rounded logarithm of a number below 256 is exact. -/
def bitsPerBlock (paletteLen : Nat) : Nat := max (Nat.clog 2 (max paletteLen 1)) 4

/-- `write_varint_to_vec`, of a number that is not negative. -/
def writeVarintToVec (value : Nat) : List UInt8 :=
  if value < 128 then [UInt8.ofNat value]
  else UInt8.ofNat (value % 128 + 128) :: writeVarintToVec (value / 128)

def packCompactedU64s (values : List (BitVec 64)) (bitsPerBlock : Nat) : Option (List (BitVec 64)) :=
  packSpilling values bitsPerBlock

/-- The numbers of the states in the palette, which begins with air. -/
def packStates (states : List Nat) : List Nat × Palette Nat Nat :=
  Palette.internAll id id ⟨[0], [(0, 0)]⟩ states

def writePalette (palette : List Nat) : List UInt8 :=
  writeVarintToVec palette.length ++ palette.flatMap writeVarintToVec

def writeDataArray (dataArray : List (BitVec 64)) : List UInt8 :=
  writeVarintToVec dataArray.length ++ dataArray.flatMap fun value => beBytes 8 value.toNat

def encodePalettedSection (stateId : BlockState → Nat) (chunk : ChunkSection) :
    Option (List UInt8) := do
  let states ← blockStates stateId chunk
  let packed := packStates states
  let bits := bitsPerBlock (← narrow 256 packed.2.entries.length)
  let dataArray ← packCompactedU64s (packed.1.map (BitVec.ofNat 64)) bits
  some (UInt8.ofNat bits :: (writePalette packed.2.entries ++ writeDataArray dataArray ++ light))

def encodeSection_1_12 (chunk : ChunkSection) : Option (List UInt8) :=
  encodePalettedSection legacyBlockStateId chunk

def DIRECT_PALETTE_BITS_PER_BLOCK_1_13 : Nat := 14

def encodeSection_1_13_2 (chunk : ChunkSection) : Option (List UInt8) := do
  let states ← blockStates flattenedBlockStateId_1_13_2 chunk
  let packed := packStates states
  let localBits := bitsPerBlock (← narrow 256 packed.2.entries.length)
  if localBits > 8 then
    let dataArray ←
      packCompactedU64s (states.map (BitVec.ofNat 64)) DIRECT_PALETTE_BITS_PER_BLOCK_1_13
    some (UInt8.ofNat DIRECT_PALETTE_BITS_PER_BLOCK_1_13 :: (writeDataArray dataArray ++ light))
  else
    let dataArray ← packCompactedU64s (packed.1.map (BitVec.ofNat 64)) localBits
    some (UInt8.ofNat localBits :: (writePalette packed.2.entries ++ writeDataArray dataArray ++ light))

/-! ### The columns -/

/-- One round of the loop over the sections. -/
def addSection (encodeSection : ChunkSection → Option (List UInt8)) (built : Nat × List UInt8)
    (entry : Int × ChunkSection) : Option (Nat × List UInt8) :=
  if ¬ (0 ≤ entry.1 ∧ entry.1 < 16) ∨ entry.2.isEmpty then some built
  else do
    let bytes ← encodeSection entry.2
    some (built.1 ||| 1 <<< entry.1.toNat, built.2 ++ bytes)

/-- The bitmap of the sections and their bytes. -/
def buildChunkData (encodeSection : ChunkSection → Option (List UInt8)) (chunk : ChunkColumn)
    (includeBiomes : Bool) : Option (Nat × List UInt8) := do
  let built ← chunk.sections.toList.foldlM (addSection encodeSection) (0, [])
  some (built.1, built.2 ++ if includeBiomes then chunk.biomes else [])

def buildChunkData_1_7 : ChunkColumn → Bool → Option (Nat × List UInt8) :=
  buildChunkData encodeSection_1_7

def buildChunkData_1_8 : ChunkColumn → Bool → Option (Nat × List UInt8) :=
  buildChunkData encodeSection_1_8

def buildChunkData_1_12 : ChunkColumn → Bool → Option (Nat × List UInt8) :=
  buildChunkData encodeSection_1_12

def buildChunkData_1_13_2 : ChunkColumn → Bool → Option (Nat × List UInt8) :=
  buildChunkData encodeSection_1_13_2

/-! ### The packets of one block -/

def packBlockPosition (position : BlockPos) : BitVec 64 :=
  (BitVec.ofInt 64 position.x &&& 0x3ffffff) <<< 38 ||| (BitVec.ofInt 64 position.y &&& 0xfff) <<< 26 |||
    (BitVec.ofInt 64 position.z &&& 0x3ffffff)

/-- `encode_block_change` of 1.7, which panics where `y` is no byte. -/
def encodeBlockChange_1_7 (position : BlockPos) (block : BlockState) : Option (List UInt8) :=
  if 0 ≤ position.y ∧ position.y < 256 then
    some (writeVarint 0x23 ++ (beInt 4 position.x ++ ([UInt8.ofNat position.y.toNat] ++
      (beInt 4 position.z ++ (writeVarint (Int32.ofNat (legacyBlock block).1) ++
        [UInt8.ofNat (legacyBlock block).2])))))
  else none

/-- `encode_block_change` of the versions that pack the position. -/
def encodeBlockChange (packetId : Int32) (stateId : BlockState → Nat) (position : BlockPos)
    (block : BlockState) : Option (List UInt8) :=
  some (writeVarint packetId ++ (beBytes 8 (packBlockPosition position).toNat ++
    writeVarint (Int32.ofNat (stateId block))))

def encodeBlockChange_1_8 : BlockPos → BlockState → Option (List UInt8) :=
  encodeBlockChange 0x23 legacyBlockStateId

def encodeBlockChange_1_12 : BlockPos → BlockState → Option (List UInt8) :=
  encodeBlockChange 0x0b legacyBlockStateId

def encodeBlockChange_1_13_2 : BlockPos → BlockState → Option (List UInt8) :=
  encodeBlockChange 0x0b flattenedBlockStateId_1_13_2

/-! ### The layouts -/

abbrev Layout (β : Type) : Type := Skipper β

def byte : Layout UInt8 := read PacketReader.readU8

def bytes (count : Nat) : Layout (List UInt8) := read (PacketReader.readBytes count)

def varNat : Layout Nat := do
  let value ← read PacketReader.readVarint
  if value < 0 then fail "negative number" else pure value.toNat

def short : Layout Nat := do
  let taken ← bytes 2
  pure (leValue taken)

def long : Layout (BitVec 64) := do
  let taken ← bytes 8
  pure (BitVec.ofNat 64 (beValue taken))

/-- The low nibble of a byte comes first. -/
def nibbleAt (source : List UInt8) (index : Nat) : Nat :=
  if index % 2 = 0 then ((source[index / 2]?).getD 0).toNat % 16
  else ((source[index / 2]?).getD 0).toNat / 16

/-- Ids in bytes, metadata in nibbles, and the light. -/
def layout_1_7 : Layout (List (Nat × Nat)) := do
  let blocks ← bytes 4096
  let metadata ← bytes 2048
  let _ ← bytes 4096
  pure ((List.range 4096).map fun i => (((blocks[i]?).getD 0).toNat, nibbleAt metadata i))

/-- Little-endian shorts, and the light. -/
def layout_1_8 : Layout (List Nat) := do
  let states ← short.collect 4096
  let _ ← bytes 4096
  pure states

def palette : Layout (List Nat) := do
  let count ← varNat
  varNat.collect count

def dataArray : Layout (List (BitVec 64)) := do
  let count ← varNat
  long.collect count

/-- The cells whose numbers are this wide. -/
def cells (bits : Nat) (longs : List (BitVec 64)) (id : Nat → Option Nat) : Layout (List Nat) :=
  match (List.range 4096).mapM fun i => id (extract longs (i * bits) bits) with
  | some ids => pure ids
  | none => fail "no such palette entry"

/-- The palette, the numbers in longs, and the light. -/
def palettedCells (bits : Nat) : Layout (List Nat) := do
  let entries ← palette
  let longs ← dataArray
  let _ ← bytes 4096
  cells bits longs fun number => entries[number]?

/-- Ids in longs, and the light. -/
def directCells (bits : Nat) : Layout (List Nat) := do
  let longs ← dataArray
  let _ ← bytes 4096
  cells bits longs some

def layout_1_12 : Layout (List Nat) := do
  let bits ← byte
  palettedCells bits.toNat

/-- Numbers of more than 8 bits are ids and have no palette. -/
def layout_1_13_2 : Layout (List Nat) := do
  let bits ← byte
  if bits.toNat ≤ 8 then palettedCells bits.toNat else directCells bits.toNat

/-- The sections whose bits are set, in ascending order. -/
def present (bitMap : Nat) : List Nat := (List.range 16).filter fun y => bitMap.testBit y

def column {γ : Type} (layout : Layout (List γ)) : List Nat → Layout (List (Nat × List γ))
  | [] => pure []
  | y :: ys => do
    let first ← layout
    let rest ← column layout ys
    pure ((y, first) :: rest)

/-- What a column has at a position. -/
def blockAt {γ : Type} (sections : List (Nat × List γ)) (absent : γ) (x y z : Nat) : γ :=
  ((sections.lookup (y / 16)).bind fun cells => cells[flattenBlockIndex x (y % 16) z]?).getD absent

/-- The id in a block-change packet of 1.7. -/
def changed_1_7 : Layout (Nat × Nat) := do
  let _ ← varNat
  let _ ← bytes 9
  let blockId ← varNat
  let metadata ← byte
  pure (blockId, metadata.toNat)

def changed : Layout Nat := do
  let _ ← varNat
  let _ ← bytes 8
  varNat

/-! ### What a version says of a column -/

/-- A version, and how what it writes is read. -/
structure JavaVersion (γ : Type) where
  buildChunkData : ChunkColumn → Bool → Option (Nat × List UInt8)
  encodeBlockChange : BlockPos → BlockState → Option (List UInt8)
  layout : Layout (List γ)
  changed : Layout γ
  absent : γ

def je_1_7 : JavaVersion (Nat × Nat) :=
  ⟨buildChunkData_1_7, encodeBlockChange_1_7, layout_1_7, changed_1_7, (0, 0)⟩
def je_1_8 : JavaVersion Nat :=
  ⟨buildChunkData_1_8, encodeBlockChange_1_8, layout_1_8, changed, 0⟩
def je_1_12 : JavaVersion Nat :=
  ⟨buildChunkData_1_12, encodeBlockChange_1_12, layout_1_12, changed, 0⟩
def je_1_13_2 : JavaVersion Nat :=
  ⟨buildChunkData_1_13_2, encodeBlockChange_1_13_2, layout_1_13_2, changed, 0⟩

/-- There is a block in the section at this height. -/
def filled (chunk : ChunkColumn) (y : Nat) : Bool :=
  ((chunk.sections[(y : Int)]?).map fun found => !found.isEmpty).getD false

/-- The sections from 0 to 15 that have a block, in ascending order. -/
def filledSections (chunk : ChunkColumn) : List Nat := (List.range 16).filter (filled chunk)

/-- A cell has the id that the block-change packet of its block has. -/
def SaysBlock {γ : Type} (version : JavaVersion γ) (position : BlockPos) (id : γ) :
    Option BlockState → Prop
  | none => id = version.absent
  | some block => ∃ packet, version.encodeBlockChange position block = some packet ∧
      version.changed packet = some (.ok (id, []))

/-- The bytes are unpacked to the filled sections, and every cell of the column is right. -/
def Unpacks {γ : Type} (version : JavaVersion γ) (chunk : ChunkColumn) (includeBiomes : Bool) :
    Prop :=
  ∃ bitMap written sections,
    version.buildChunkData chunk includeBiomes = some (bitMap, written) ∧
    column version.layout (present bitMap) written =
      some (.ok (sections, if includeBiomes then chunk.biomes else [])) ∧
    sections.map Prod.fst = filledSections chunk ∧
    ∀ x y z : Nat, x < 16 → y < 256 → z < 16 →
      SaysBlock version ⟨chunk.pos.x * 16 + x, y, chunk.pos.z * 16 + z⟩
        (blockAt sections version.absent x y z) (chunk.getBlock x y z)

/-- The indices of a section are those of its cells, as `SectionBlockIndex::new` makes them of
    coordinates below 16. -/
def WellIndexed (chunk : ChunkColumn) : Prop :=
  ∀ entry ∈ chunk.sections.toList, ∀ block ∈ entry.2.blocks.toList, block.1 < 4096

end RevyCraft.ChunkSections
