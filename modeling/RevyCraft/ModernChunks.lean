/-
  RevyCraft/ModernChunks.lean
  ===========================
  **A chunk of the 1.18.2 store** (`chunk_nbt.rs` of
  `mc-plugin-storage-je-anvil-1_18_2`, with the items of its `lib.rs`).

  A chunk is written over the root it was read from: the writer replaces what
  it knows of and keeps the rest, the biomes of every section among it.  A
  section that has no biomes is written with one biome for all of it.
-/
import RevyCraft.PaletteIndices
import RevyCraft.LegacyAnvil
import RevyCraft.Program

namespace RevyCraft.ModernAnvil

open Bytes Std
open LegacyAnvil (expandBlockIndex nonNegative okOrNothing containerProperty)

def JE_1_18_2_DATA_VERSION : Int := 2975
def JE_1_18_2_MIN_SECTION_Y : Int := -4
def JE_1_18_2_MAX_SECTION_Y : Int := 19

/-- `short_field`, which takes an integer that fits as well. -/
def shortField (compound : NbtFields) (key : String) : Storage Int :=
  match compound.get key with
  | some (.short value) => .ok value
  | some (.int value) =>
    if FitsSigned 2 value then .ok value
    else Storage.invalidData ("field " ++ key ++ " did not fit into i16")
  | _ => Storage.invalidData ("missing short field " ++ key)

/-- `u8::try_from` and `u16::try_from`, by the bytes of the type. -/
def tryUnsigned (width : Nat) (message : String) (value : Int) : Storage Nat :=
  if 0 ≤ value ∧ value < 256 ^ width then .ok value.toNat else Storage.invalidData message

/-! ### Items -/

def itemFields (stack : ItemStack) (slot : Option Int) : List (String × NbtTag) :=
  (slot.map fun slot => ("Slot", NbtTag.byte slot)).toList ++
    [("id", .string stack.key), ("Count", .byte stack.count)] ++
      if stack.damage ≠ 0 then [("Damage", .int stack.damage)] else []

/-- `item_stack_to_nbt`. -/
def itemStackToNbt (stack : ItemStack) (slot : Option Int) : Storage NbtTag :=
  if stack.isLegacyCompatible then
    if 128 ≤ stack.count then Storage.panicked "count should fit into i8"
    else .ok (.compound (NbtFields.ofList (itemFields stack slot)))
  else Storage.invalidData "modern item components are not supported by je-anvil-1_18_2"

/-- `item_count_or_zero`. -/
def itemCountOrZero (compound : NbtFields) : Storage Nat :=
  match compound.get "Count" with
  | some (.byte value) => tryUnsigned 1 "negative item count not supported" value
  | some (.short value) => tryUnsigned 1 "negative item count not supported" value
  | some (.int value) => tryUnsigned 1 "negative item count not supported" value
  | some _ => Storage.invalidData "item Count field had an unsupported type"
  | none => .ok 0

def itemDamage (compound : NbtFields) : Storage Nat :=
  match compound.get "Damage" with
  | some (.short value) => tryUnsigned 2 "negative item damage not supported" value
  | some (.int value) => tryUnsigned 2 "item damage did not fit into u16" value
  | some _ => Storage.invalidData "item Damage field had an unsupported type"
  | none => .ok 0

/-- `item_stack_from_nbt`. -/
def itemStackFromNbt (compound : NbtFields) : Storage ItemStack := do
  let key ← compound.stringField "id"
  let count ← itemCountOrZero compound
  let damage ← itemDamage compound
  return .new key count damage

def itemFieldAllowed (allowSlot : Bool) (key : String) : Bool :=
  key = "id" || key = "Count" || key = "Damage" || (allowSlot && key = "Slot") || key = "tag"

/-- `validate_storage_item`. -/
def validateStorageItem (compound : NbtFields) (allowSlot : Bool) (context : String) :
    Storage Unit :=
  match compound.find? fun entry => !itemFieldAllowed allowSlot entry.1 with
  | some entry => Storage.invalidData ("unsupported item field `" ++ entry.1 ++ "`")
  | none =>
    if (compound.get "tag").isSome then
      Storage.invalidData (context ++ " item tag is not supported")
    else .ok ()

/-! ### Block entities -/

def encodeContainerItem (item : ItemStack × Nat) : Storage NbtTag :=
  if 128 ≤ item.2 then Storage.panicked "slot index should fit into i8"
  else itemStackToNbt item.1 (some item.2)

def containerItems (slots : List (Option ItemStack)) : List (ItemStack × Nat) :=
  slots.zipIdx.filterMap fun slot => slot.1.map fun stack => (stack, slot.2)

/-- `encode_container_item_list`. -/
def encodeContainerItemList (slots : List (Option ItemStack)) : Storage (List NbtTag) :=
  (containerItems slots).mapM encodeContainerItem

/-- `block_entity_kind_matches`. -/
def blockEntityKindMatches (existing : NbtFields) : BlockEntityState → Bool
  | .container container =>
    match existing.stringField "id" with
    | .ok id =>
      if id = "minecraft:chest" ∨ id = "Chest" then container.kind = Ids.CHEST_BLOCK_ENTITY
      else if id = "minecraft:furnace" ∨ id = "Furnace" then
        container.kind = Ids.FURNACE_BLOCK_ENTITY
      else false
    | .error _ => false

/-- The compound a block entity is written into: the existing one, if it is of the same kind. -/
def entityBase (position : BlockPos) (blockEntity : BlockEntityState)
    (existing : Option NbtFields) : NbtFields :=
  let compound :=
    (existing.filter fun existing => blockEntityKindMatches existing blockEntity).getD []
  ((compound.insert "x" (.int position.x)).insert "y" (.int position.y)).insert "z"
    (.int position.z)

/-- The fields of a furnace; `BurnTime` is inserted twice. -/
def furnaceFields (compound : NbtFields) (container : ContainerBlockEntityState)
    (items : List NbtTag) : NbtFields :=
  [("id", .string "minecraft:furnace"), ("Items", .list 10 items),
    ("BurnTime", .short (containerProperty container "canonical:furnace.burn_left")),
    ("BurnTime", .short (containerProperty container Ids.FURNACE_BURN_LEFT)),
    ("BurnTimeMax", .short (containerProperty container Ids.FURNACE_BURN_MAX)),
    ("CookTime", .short (containerProperty container Ids.FURNACE_COOK_PROGRESS)),
    ("CookTimeTotal", .short (containerProperty container Ids.FURNACE_COOK_TOTAL))].foldl
      (fun fields entry => fields.insert entry.1 entry.2) compound

/-- `encode_block_entity`. -/
def encodeBlockEntity (position : BlockPos) (existing : Option NbtFields) :
    BlockEntityState → Storage NbtTag
  | .container container =>
    let compound := entityBase position (.container container) existing
    if container.kind = Ids.CHEST_BLOCK_ENTITY then do
      let items ← encodeContainerItemList container.slots
      return .compound ((compound.insert "id" (.string "minecraft:chest")).insert "Items"
        (.list 10 items))
    else if container.kind = Ids.FURNACE_BLOCK_ENTITY then
      if container.slots.length < 3 then Storage.panicked "range end index out of range"
      else do
        let items ← encodeContainerItemList (container.slots.take 3)
        return .compound (furnaceFields compound container items)
    else
      Storage.invalidData ("unsupported container block entity kind `" ++ container.kind ++ "`")

/-- `encode_block_entities`. -/
def encodeBlockEntities (chunk : ChunkColumn) (blockEntities : BTreeMap BlockPos BlockEntityState)
    (existing : BTreeMap BlockPos NbtFields) : Storage (List NbtTag) :=
  (blockEntities.toList.filter fun entry => entry.1.chunkPos = chunk.pos).mapM fun entry =>
    encodeBlockEntity entry.1 existing[entry.1]? entry.2

def decodeContainerItem (slots : List (Option ItemStack)) (item : NbtTag) :
    Storage (List (Option ItemStack)) := do
  let compound ← item.asCompound
  validateStorageItem compound true "container"
  let slot ← nonNegative "negative item slot index" (← compound.byteField "Slot")
  if slots.length ≤ slot then
    Storage.invalidData ("item slot " ++ toString slot ++ " was out of bounds")
  else
    let stack ← itemStackFromNbt compound
    return slots.set slot (some stack)

/-- `decode_container_items`. -/
def decodeContainerItems (items : List NbtTag) (slotCount : Nat) :
    Storage (List (Option ItemStack)) :=
  items.foldlM decodeContainerItem (List.replicate slotCount none)

/-- The position that a compound names. -/
def entityPosition (compound : NbtFields) : Storage BlockPos := do
  let x ← compound.intField "x"
  let y ← compound.intField "y"
  let z ← compound.intField "z"
  return ⟨x, y, z⟩

def furnaceProperties (compound : NbtFields) : Storage (BTreeMap ContainerPropertyKey Int) := do
  let burnLeft ← Storage.unwrapOr 0 (shortField compound "BurnTime")
  let burnMax ← Storage.unwrapOr burnLeft (shortField compound "BurnTimeMax")
  let cookProgress ← Storage.unwrapOr 0 (shortField compound "CookTime")
  let cookTotal ← Storage.unwrapOr 200 (shortField compound "CookTimeTotal")
  return ExtTreeMap.ofList
    [(Ids.FURNACE_BURN_LEFT, burnLeft), (Ids.FURNACE_BURN_MAX, burnMax),
      (Ids.FURNACE_COOK_PROGRESS, cookProgress), (Ids.FURNACE_COOK_TOTAL, cookTotal)] compare

/-- `decode_block_entity`. -/
def decodeBlockEntity (entry : NbtTag) : Storage (BlockPos × BlockEntityState) := do
  let compound ← entry.asCompound
  let id ← compound.stringField "id"
  let position ← entityPosition compound
  let items ← okOrNothing (compound.listField "Items")
  if id = "minecraft:chest" ∨ id = "Chest" then
    let slots ← decodeContainerItems items 27
    return (position, .container ⟨Ids.CHEST_BLOCK_ENTITY, slots, ∅⟩)
  else if id = "minecraft:furnace" ∨ id = "Furnace" then
    let slots ← decodeContainerItems items 3
    let properties ← furnaceProperties compound
    return (position, .container ⟨Ids.FURNACE_BLOCK_ENTITY, slots, properties⟩)
  else Storage.invalidData ("unsupported block entity `" ++ id ++ "`")

/-! ### Block states -/

/-- `encode_palette_entry`. -/
def encodePaletteEntry (state : BlockState) : NbtTag :=
  .compound (NbtFields.ofList (("Name", .string state.key) ::
    if state.properties.isEmpty then []
    else [("Properties", .compound (NbtFields.ofList
      (state.properties.toList.map fun property => (property.1, .string property.2))))]))

def paletteIndex (palette : List BlockState) (state : BlockState) : List BlockState × Nat :=
  match palette.findIdx? (· = state) with
  | some index => (palette, index)
  | none => (palette ++ [state], palette.length)

/-- One round of the loop over the blocks of a section. -/
def recordBlock (record : List BlockState × List Nat) (block : Nat × BlockState) :
    Storage (List BlockState × List Nat) :=
  if record.2.length ≤ block.1 then Storage.panicked outOfBounds
  else
    let found := paletteIndex record.1 block.2
    .ok (found.1, record.2.set block.1 found.2)

def sectionPalette (snapshot : Option ChunkSection) : Storage (List BlockState × List Nat) :=
  ((snapshot.map fun chunk => chunk.blocks.toList).getD []).foldlM recordBlock
    ([BlockState.new Catalog.AIR], List.replicate 4096 0)

/-- `encode_block_states`. -/
def encodeBlockStates (snapshot : Option ChunkSection) : Storage NbtTag := do
  let record ← sectionPalette snapshot
  let blockStates := NbtFields.ofList [("palette", .list 10 (record.1.map encodePaletteEntry))]
  if 1 < record.1.length then
    let data ← packIndices record.2 4
    return .compound (blockStates.insert "data" (.longArray data))
  else return .compound blockStates

/-- One round of the loop over the properties of a block. -/
def decodeProperty (state : BlockState) (property : String × NbtTag) : Storage BlockState :=
  match property.2 with
  | .string value => .ok { state with properties := state.properties.insert property.1 value }
  | _ => Storage.invalidData ("block property `" ++ property.1 ++ "` was not a string")

def decodePaletteEntry (entry : NbtTag) : Storage BlockState := do
  let compound ← entry.asCompound
  let state := BlockState.new (← compound.stringField "Name")
  match compound.get "Properties" with
  | none => return state
  | some tag => (← tag.asCompound).foldlM decodeProperty state

/-- `block_state_palette`. -/
def blockStatePalette (blockStates : NbtFields) : Storage (List BlockState) := do
  let palette ← (← blockStates.listField "palette").mapM decodePaletteEntry
  if palette.isEmpty then Storage.invalidData "block state palette was empty" else return palette

/-- One round of the loop over the indices of a section. -/
def decodeBlock (sectionY : Int) (palette : List BlockState) (chunk : ChunkColumn)
    (entry : Nat × Nat) : Storage ChunkColumn :=
  match palette[entry.1]? with
  | none => Storage.invalidData "block state palette index was out of bounds"
  | some state =>
    if state.key = Catalog.AIR then .ok chunk
    else if 2 ^ 16 ≤ entry.2 then Storage.panicked "block index should fit into u16"
    else
      let place := expandBlockIndex entry.2
      .ok (chunk.setBlock place.1 (sectionY * 16 + place.2.1) place.2.2 (some state))

/-- `decode_section_blocks`. -/
def decodeSectionBlocks (chunk : ChunkColumn) (sectionY : Int) (fields : NbtFields) :
    Storage ChunkColumn :=
  match fields.get "block_states" with
  | none => .ok chunk
  | some tag => do
    let blockStates ← tag.asCompound
    let palette ← blockStatePalette blockStates
    let indices ← unpackIndices palette.length 4096 4 (blockStates.get "data")
    indices.zipIdx.foldlM (decodeBlock sectionY palette) chunk

/-! ### Biomes -/

def decodeBiomeEntry : NbtTag → Storage String
  | .string value => .ok value
  | _ => Storage.invalidData "biome palette entry was not a string"

/-- `biome_palette`. -/
def biomePalette (biomes : NbtFields) : Storage (List String) := do
  let palette ← (← biomes.listField "palette").mapM decodeBiomeEntry
  if palette.isEmpty then Storage.invalidData "biome palette was empty" else return palette

/-- `biome_cell_index`. -/
def biomeCellIndex (x y z : Nat) : Nat := x + z * 4 + y * 16

def topCell (palette : List String) (indices : List Nat) (cell : Nat) : Storage String :=
  match indices[biomeCellIndex (cell % 4) 3 (cell / 4)]? with
  | none => Storage.invalidData "biome data was missing the top cell"
  | some index =>
    match palette[index]? with
    | none => Storage.invalidData "biome palette index was out of bounds"
    | some name => .ok name

/-- `top_biome_layer`. -/
def topBiomeLayer (fields : NbtFields) : Storage (Option (List String)) :=
  match fields.get "biomes" with
  | none => .ok none
  | some tag => do
    let biomes ← tag.asCompound
    let palette ← biomePalette biomes
    let indices ← unpackIndices palette.length 64 1 (biomes.get "data")
    let layer ← (List.range 16).mapM (topCell palette indices)
    return some layer

/-- `uniform_biomes`. -/
def uniformBiomes (biomeName : String) : NbtTag :=
  .compound (NbtFields.ofList [("palette", .list 8 [.string biomeName])])

/-- `modern_biome_name`. -/
def modernBiomeName (biomeId : UInt8) : String :=
  if biomeId = 1 then "minecraft:plains"
  else if biomeId = 2 then "minecraft:desert"
  else if biomeId = 4 then "minecraft:forest"
  else if biomeId = 5 then "minecraft:taiga"
  else if biomeId = 6 then "minecraft:swamp"
  else "minecraft:plains"

/-- `legacy_biome_id`. -/
def legacyBiomeId (biomeName : String) : UInt8 :=
  if biomeName = "minecraft:desert" then 2
  else if biomeName = "minecraft:forest" then 4
  else if biomeName = "minecraft:taiga" then 5
  else if biomeName = "minecraft:swamp" then 6
  else 1

/-- `uniform_biome_name`. -/
def uniformBiomeName (chunk : ChunkColumn) : String := modernBiomeName (chunk.biomes.head?.getD 1)

/-- `top_column_biome_name`: the first layer from above that has the cell. -/
def topColumnBiomeName (sectionTopBiomes : BTreeMap Int (List String)) (x z : Nat) : String :=
  (sectionTopBiomes.toList.reverse.findSome? fun entry => entry.2[x / 4 + z / 4 * 4]?).getD
    "minecraft:plains"

/-- `decode_column_biomes`. -/
def decodeColumnBiomes (sectionTopBiomes : BTreeMap Int (List String)) : List UInt8 :=
  (List.range 256).map fun column =>
    legacyBiomeId (topColumnBiomeName sectionTopBiomes (column % 16) (column / 16))

/-! ### Sections -/

def sectionEntry (tag : NbtTag) : Storage (Int × NbtFields) := do
  let fields ← tag.asCompound
  return (← fields.byteField "Y", fields)

/-- `existing_section_map`: a later section takes the place of an earlier one at its height. -/
def existingSectionMap (root : NbtFields) : Storage (BTreeMap Int NbtFields) :=
  match root.get "sections" with
  | none => .ok ∅
  | some (.list _ tags) => return BTreeMap.insertAll ∅ (← tags.mapM sectionEntry)
  | some _ => Storage.invalidData "chunk sections was not a list"

def entityEntry (tag : NbtTag) : Storage (BlockPos × NbtFields) := do
  let compound ← tag.asCompound
  return (← entityPosition compound, compound)

/-- `existing_block_entity_map`. -/
def existingBlockEntityMap (root : NbtFields) : Storage (BTreeMap BlockPos NbtFields) :=
  match root.get "block_entities" with
  | none => .ok ∅
  | some (.list _ tags) => return BTreeMap.insertAll ∅ (← tags.mapM entityEntry)
  | some _ => Storage.invalidData "chunk block_entities was not a list"

/-- `existing_chunk_biomes`: the first biome of each section that has one. -/
def existingChunkBiomes (sections : BTreeMap Int NbtFields) : BTreeMap Int String :=
  sections.filterMap fun _ fields =>
    (fields.get "biomes").bind fun tag =>
      (tag.asCompound.toOption.bind fun biomes => (biomePalette biomes).toOption).bind List.head?

/-- `section_y_values`: every height once, from below. -/
def sectionYValues (chunk : ChunkColumn) (existing : BTreeMap Int NbtFields) : List Int :=
  let heights :=
    if existing.isEmpty then
      (List.range (JE_1_18_2_MAX_SECTION_Y + 1 - JE_1_18_2_MIN_SECTION_Y).toNat).map
        fun step : Nat => JE_1_18_2_MIN_SECTION_Y + (step : Int)
    else existing.keys
  (ExtTreeSet.ofList (heights ++ chunk.sections.keys) compare).toList

/-- `encode_section`. -/
def encodeSection (sectionY : Int) (snapshot : Option ChunkSection) (existing : Option NbtFields)
    (biomeName : String) : Storage NbtFields :=
  if FitsSigned 1 sectionY then do
    let blockStates ← encodeBlockStates snapshot
    return (((existing.getD []).insert "Y" (.byte sectionY)).insert "block_states"
      blockStates).orInsert "biomes" (uniformBiomes biomeName)
  else Storage.panicked "section y should fit into i8"

/-- One round of the loop over the sections of a root: the chunk and the top layers so far. -/
def decodeSection (state : ChunkColumn × BTreeMap Int (List String)) (tag : NbtTag) :
    Storage (ChunkColumn × BTreeMap Int (List String)) := do
  let entry ← sectionEntry tag
  let chunk ← decodeSectionBlocks state.1 entry.1 entry.2
  let layer ← topBiomeLayer entry.2
  return (chunk, layer.elim state.2 fun layer => state.2.insert entry.1 layer)

/-! ### Chunks -/

/-- The fields of the root other than the sections and the block entities. -/
def chunkFields (root : NbtFields) (chunk : ChunkColumn) (sectionYs : List Int) : NbtFields :=
  let root := (((root.insert "DataVersion" (.int JE_1_18_2_DATA_VERSION)).insert "xPos"
    (.int chunk.pos.x)).insert "yPos" (.int (sectionYs.head?.getD JE_1_18_2_MIN_SECTION_Y))).insert
      "zPos" (.int chunk.pos.z)
  let root := ((root.orInsert "Status" (.string "full")).orInsert "LastUpdate" (.long 0)).orInsert
    "InhabitedTime" (.long 0)
  (((root.orInsert "entities" (.list 10 [])).orInsert "block_ticks" (.list 10 [])).orInsert
    "fluid_ticks" (.list 10 [])).orInsert "structures" (.compound [])

def sectionTag (chunk : ChunkColumn) (existing : BTreeMap Int NbtFields) (sectionY : Int) :
    Storage NbtTag := do
  let fields ← encodeSection sectionY chunk.sections[sectionY]? existing[sectionY]?
    (((existingChunkBiomes existing)[sectionY]?).getD (uniformBiomeName chunk))
  return .compound fields

/-- `chunk_to_nbt`. -/
def chunkToNbt (chunk : ChunkColumn) (blockEntities : BTreeMap BlockPos BlockEntityState)
    (existingRoot : Option NbtTag) : Storage NbtTag := do
  let root ← existingRoot.elim (.ok []) NbtTag.asCompound
  let existingSections ← existingSectionMap root
  let existingBlockEntities ← existingBlockEntityMap root
  let sectionYs := sectionYValues chunk existingSections
  let sections ← sectionYs.mapM (sectionTag chunk existingSections)
  let entities ← encodeBlockEntities chunk blockEntities existingBlockEntities
  return .compound (((chunkFields root chunk sectionYs).insert "sections"
    (.list 10 sections)).insert "block_entities" (.list 10 entities))

/-- `validate_chunk_data_version`. -/
def validateChunkDataVersion (root : NbtFields) : Storage Unit := do
  let dataVersion ← root.intField "DataVersion"
  if dataVersion ≠ JE_1_18_2_DATA_VERSION then
    Storage.invalidData ("expected chunk DataVersion=" ++ toString JE_1_18_2_DATA_VERSION ++
      ", got " ++ toString dataVersion)
  else return ()

/-- `chunk_from_nbt`. -/
def chunkFromNbt (root : NbtTag) :
    Storage (ChunkColumn × BTreeMap BlockPos BlockEntityState) := do
  let root ← root.asCompound
  validateChunkDataVersion root
  let x ← root.intField "xPos"
  let z ← root.intField "zPos"
  let decoded ← (← root.listField "sections").foldlM decodeSection (ChunkColumn.new ⟨x, z⟩, ∅)
  let entities ← (← okOrNothing (root.listField "block_entities")).mapM decodeBlockEntity
  return ({ decoded.1 with biomes := decodeColumnBiomes decoded.2 },
    BTreeMap.insertAll ∅ entities)

/-! ### Loops that may fail -/

theorem mapM_eq_ok {α β : Type} {f : α → Storage β} {l : List α} {ys : List β} :
    l.mapM f = .ok ys ↔ List.Forall₂ (fun x y => f x = .ok y) l ys := by
  induction l generalizing ys with
  | nil =>
    rw [List.mapM_nil, List.forall₂_nil_left_iff]
    exact ⟨fun h => (Except.ok.inj h).symm, fun h => h ▸ rfl⟩
  | cons x l ih =>
    simp only [List.mapM_cons, except_bind_eq_ok, ih, List.forall₂_cons_left_iff]
    constructor
    · rintro ⟨y, hy, rest, hrest, hdone⟩
      exact ⟨y, rest, hy, hrest, (Except.ok.inj hdone).symm⟩
    · rintro ⟨y, rest, hy, hrest, rfl⟩
      exact ⟨y, hy, rest, hrest, rfl⟩

theorem exists_mapM {α β : Type} {f : α → Storage β} {l : List α}
    (h : ∀ x ∈ l, ∃ y, f x = .ok y) : ∃ ys, l.mapM f = .ok ys := by
  induction l with
  | nil => exact ⟨[], rfl⟩
  | cons x l ih =>
    obtain ⟨y, hy⟩ := h x List.mem_cons_self
    obtain ⟨ys, hys⟩ := ih fun x' hx' => h x' (List.mem_cons_of_mem _ hx')
    exact ⟨y :: ys, mapM_eq_ok.mpr (.cons hy (mapM_eq_ok.mp hys))⟩

theorem mapM_mem {α β : Type} {f : α → Storage β} {l : List α} {ys : List β}
    (h : l.mapM f = .ok ys) {x : α} (hx : x ∈ l) : ∃ y ∈ ys, f x = .ok y := by
  obtain ⟨i, hi, rfl⟩ := List.mem_iff_getElem.mp hx
  have hall := mapM_eq_ok.mp h
  exact ⟨ys.get ⟨i, hall.length_eq ▸ hi⟩, List.get_mem _ _, hall.get hi (hall.length_eq ▸ hi)⟩

theorem mem_mapM {α β : Type} {f : α → Storage β} {l : List α} {ys : List β}
    (h : l.mapM f = .ok ys) {y : β} (hy : y ∈ ys) : ∃ x ∈ l, f x = .ok y := by
  obtain ⟨i, hi, rfl⟩ := List.mem_iff_getElem.mp hy
  have hall := mapM_eq_ok.mp h
  exact ⟨l.get ⟨i, hall.length_eq ▸ hi⟩, List.get_mem _ _, hall.get (hall.length_eq ▸ hi) hi⟩

/-- A loop whose rounds all succeed where an invariant holds, which they keep. -/
theorem exists_foldlM {α β : Type} {f : β → α → Storage β} (P : β → Prop) {l : List α} {s : β}
    (hstep : ∀ s x, x ∈ l → P s → ∃ s', f s x = .ok s' ∧ P s') (hs : P s) :
    ∃ s', l.foldlM f s = .ok s' ∧ P s' := by
  induction l generalizing s with
  | nil => exact ⟨s, rfl, hs⟩
  | cons x l ih =>
    obtain ⟨s₁, hfirst, hs₁⟩ := hstep s x List.mem_cons_self hs
    obtain ⟨s₂, hrest, hs₂⟩ := ih (fun s x' hx' => hstep s x' (List.mem_cons_of_mem _ hx')) hs₁
    exact ⟨s₂, except_bind_eq_ok.mpr ⟨s₁, hfirst, hrest⟩, hs₂⟩

theorem foldlM_keeps {α β : Type} {f : β → α → Storage β} (P : β → Prop) {l : List α} {s s' : β}
    (hstep : ∀ s x s', x ∈ l → P s → f s x = .ok s' → P s') (hs : P s)
    (h : l.foldlM f s = .ok s') : P s' := by
  induction l generalizing s with
  | nil => exact Except.ok.inj h ▸ hs
  | cons x l ih =>
    obtain ⟨s₁, hfirst, hrest⟩ := except_bind_eq_ok.mp h
    exact ih (fun s x' s' hx' => hstep s x' s' (List.mem_cons_of_mem _ hx'))
      (hstep s x s₁ List.mem_cons_self hs hfirst) hrest

theorem get_orInsert (fields : NbtFields) (key k : String) (value : NbtTag) :
    (fields.orInsert key value).get k =
      if k = key then some ((fields.get key).getD value) else fields.get k := by
  unfold NbtFields.orInsert
  by_cases hk : k = key
  · subst hk
    cases hget : fields.get k with
    | none => simp
    | some tag => simp [hget]
  · cases hget : fields.get key with
    | none => simp [hk]
    | some tag => simp [hk]

/-! ### Block states are read back -/

/-- A palette whose last state is in use, with an index into it for each block. -/
structure Palette (record : List BlockState × List Nat) (placed : List Nat) : Prop where
  length : record.2.length = 4096
  below : ∀ index ∈ record.2, index < record.1.length
  nonempty : 0 < record.1.length
  few : record.1.length ≤ placed.length + 1
  last : 1 < record.1.length → ∃ place ∈ placed, record.2[place]? = some (record.1.length - 1)

theorem paletteIndex_cases (palette : List BlockState) (state : BlockState) :
    (∃ index, index < palette.length ∧ paletteIndex palette state = (palette, index)) ∨
      paletteIndex palette state = (palette ++ [state], palette.length) := by
  unfold paletteIndex
  split
  next index hindex =>
    obtain ⟨hlt, -⟩ := List.findIdx?_eq_some_iff_getElem.mp hindex
    exact .inl ⟨index, hlt, rfl⟩
  next => exact .inr rfl

theorem Palette.record {record : List BlockState × List Nat} {placed : List Nat}
    (h : Palette record placed) {block : Nat × BlockState} (hplace : block.1 < 4096)
    (hnew : block.1 ∉ placed) :
    ∃ record', recordBlock record block = .ok record' ∧ Palette record' (block.1 :: placed) := by
  have hin : ¬ record.2.length ≤ block.1 := by
    rw [h.length]
    omega
  have hmem : ∀ {index value : Nat}, index ∈ record.2.set block.1 value →
      index = value ∨ index ∈ record.2 := fun hindex =>
    (List.mem_or_eq_of_mem_set hindex).symm
  unfold recordBlock
  rw [if_neg hin]
  refine ⟨_, rfl, ?_⟩
  rcases paletteIndex_cases record.1 block.2 with ⟨index, hindex, hfound⟩ | hadded
  · rw [hfound]
    refine ⟨by simp [h.length], fun other hother => ?_, h.nonempty, Nat.le_succ_of_le h.few,
      fun hmore => ?_⟩
    · rcases hmem hother with rfl | hother
      · exact hindex
      · exact h.below other hother
    · obtain ⟨place, hplaced, hlast⟩ := h.last hmore
      refine ⟨place, List.mem_cons_of_mem _ hplaced, ?_⟩
      have hother : block.1 ≠ place := fun heq => hnew (by rwa [heq])
      exact (List.getElem?_set_ne hother).trans hlast
  · rw [hadded]
    have hlength : (record.1 ++ [block.2]).length = record.1.length + 1 := by simp
    refine ⟨by simp [h.length], fun other hother => ?_, by simp, ?_, fun _ => ?_⟩
    · dsimp only
      rw [hlength]
      rcases hmem hother with rfl | hother
      · omega
      · have := h.below other hother
        omega
    · dsimp only
      rw [hlength, List.length_cons]
      have := h.few
      omega
    · refine ⟨block.1, List.mem_cons_self, ?_⟩
      dsimp only
      rw [hlength, Nat.add_sub_cancel, List.getElem?_set_self (by omega)]

theorem foldlM_recordBlock (blocks : List (Nat × BlockState)) {placed : List Nat}
    {record : List BlockState × List Nat} (hrecord : Palette record placed)
    (hbelow : ∀ block ∈ blocks, block.1 < 4096)
    (hnodup : (blocks.map Prod.fst).Nodup) (hfresh : ∀ block ∈ blocks, block.1 ∉ placed) :
    ∃ record', blocks.foldlM recordBlock record = .ok record' ∧
      Palette record' ((blocks.map Prod.fst).reverse ++ placed) := by
  induction blocks generalizing record placed with
  | nil => exact ⟨record, rfl, hrecord⟩
  | cons block blocks ih =>
    obtain ⟨record₁, hfirst, hrecord₁⟩ :=
      hrecord.record (hbelow block List.mem_cons_self) (hfresh block List.mem_cons_self)
    obtain ⟨hhead, htail⟩ := List.nodup_cons.mp hnodup
    obtain ⟨record₂, hrest, hrecord₂⟩ := ih hrecord₁
      (fun other hother => hbelow other (List.mem_cons_of_mem _ hother)) htail
      fun other hother hplaced => by
        rcases List.mem_cons.mp hplaced with heq | hplaced
        · exact hhead (heq ▸ List.mem_map_of_mem hother)
        · exact hfresh other (List.mem_cons_of_mem _ hother) hplaced
    refine ⟨record₂, except_bind_eq_ok.mpr ⟨record₁, hfirst, hrest⟩, ?_⟩
    simpa using hrecord₂

/-- A section whose blocks have an index of a section. -/
def Indexed (chunk : ChunkSection) : Prop := ∀ index state, chunk.blocks[index]? = some state →
  index < 4096

theorem sectionPalette_ok {snapshot : Option ChunkSection}
    (hindexed : ∀ chunk ∈ snapshot, Indexed chunk) :
    ∃ record placed, sectionPalette snapshot = .ok record ∧ Palette record placed ∧
      placed.length ≤ 4096 := by
  have hempty : Palette ([BlockState.new Catalog.AIR], List.replicate 4096 0) [] :=
    ⟨List.length_replicate, fun index hindex => by
      rw [List.eq_of_mem_replicate hindex]
      exact Nat.zero_lt_one, Nat.zero_lt_one, Nat.le_refl 1, fun h => absurd h (Nat.lt_irrefl 1)⟩
  cases snapshot with
  | none => exact ⟨_, [], rfl, hempty, Nat.zero_le _⟩
  | some chunk =>
    have hbelow : ∀ block ∈ chunk.blocks.toList, block.1 < 4096 := fun block hblock =>
      hindexed chunk rfl block.1 block.2 (BTreeMap.mem_toList.mp hblock)
    have hnodup : (chunk.blocks.toList.map Prod.fst).Nodup := BTreeMap.nodup_keys chunk.blocks
    obtain ⟨record, hrecord, hpalette⟩ := foldlM_recordBlock chunk.blocks.toList hempty hbelow
      hnodup fun _ _ h => by cases h
    refine ⟨record, _, hrecord, hpalette, ?_⟩
    rw [List.append_nil, List.length_reverse]
    have hsub : chunk.blocks.toList.map Prod.fst ⊆ List.range 4096 := fun index hindex => by
      obtain ⟨block, hblock, rfl⟩ := List.mem_map.mp hindex
      exact List.mem_range.mpr (hbelow block hblock)
    have hcount := (hnodup.subperm hsub).length_le
    rwa [List.length_range] at hcount

theorem exists_decodeProperties {properties : NbtFields}
    (h : ∀ entry ∈ properties, ∃ value, entry.2 = .string value) (state : BlockState) :
    ∃ read, properties.foldlM decodeProperty state = .ok read := by
  obtain ⟨read, hread, -⟩ := exists_foldlM (f := decodeProperty) (fun _ => True) (l := properties)
    (s := state) (fun state entry hentry _ => by
      obtain ⟨value, hvalue⟩ := h entry hentry
      exact ⟨_, by rw [decodeProperty, hvalue], trivial⟩) trivial
  exact ⟨read, hread⟩

theorem decodePaletteEntry_encode (state : BlockState) :
    ∃ read, decodePaletteEntry (encodePaletteEntry state) = .ok read := by
  by_cases hempty : state.properties.isEmpty
  · have hencode : encodePaletteEntry state = .compound [("Name", .string state.key)] := by
      rw [encodePaletteEntry, if_pos hempty]
      rfl
    rw [hencode]
    exact ⟨BlockState.new state.key, rfl⟩
  · obtain ⟨read, hread⟩ := exists_decodeProperties (fun entry hentry => by
        obtain ⟨property, -, rfl⟩ := List.mem_map.mp (NbtFields.mem_ofList hentry)
        exact ⟨property.2, rfl⟩ :
      ∀ entry ∈ NbtFields.ofList (state.properties.toList.map fun property =>
        (property.1, NbtTag.string property.2)), ∃ value, entry.2 = .string value)
      (BlockState.new state.key)
    refine ⟨read, ?_⟩
    rw [encodePaletteEntry, if_neg hempty]
    simp [decodePaletteEntry, NbtTag.asCompound, NbtFields.ofList, NbtFields.stringField, bind,
      Except.bind]
    exact hread

theorem exists_decodeBlocks {palette : List BlockState} {indices : List Nat}
    (hbelow : ∀ index ∈ indices, index < palette.length) (hcount : indices.length = 4096)
    (chunk : ChunkColumn) (sectionY : Int) :
    ∃ chunk', indices.zipIdx.foldlM (decodeBlock sectionY palette) chunk = .ok chunk' := by
  obtain ⟨chunk', hchunk', -⟩ := exists_foldlM (f := decodeBlock sectionY palette) (fun _ => True)
    (l := indices.zipIdx) (s := chunk) (fun chunk entry hentry _ => by
      obtain ⟨hposition, hvalue⟩ := List.mem_zipIdx' (x := entry.1) (i := entry.2) hentry
      have hindex : entry.1 < palette.length := hbelow _ (hvalue ▸ List.getElem_mem _)
      unfold decodeBlock
      rw [List.getElem?_eq_getElem hindex]
      dsimp only
      split
      · exact ⟨chunk, rfl, trivial⟩
      · rw [if_neg (by omega)]
        exact ⟨_, rfl, trivial⟩) trivial
  exact ⟨chunk', hchunk'⟩

/-- The block states of a section are written, and they are read in whatever section they are
    written into. -/
theorem encodeBlockStates_reads {snapshot : Option ChunkSection}
    (hindexed : ∀ chunk ∈ snapshot, Indexed chunk) :
    ∃ tag, encodeBlockStates snapshot = .ok tag ∧ ∀ (chunk : ChunkColumn) sectionY fields,
      NbtFields.get fields "block_states" = some tag →
        ∃ chunk', decodeSectionBlocks chunk sectionY fields = .ok chunk' := by
  obtain ⟨record, placed, hrecord, hpalette, hplaced⟩ := sectionPalette_ok hindexed
  obtain ⟨palette, hread⟩ := exists_mapM (f := decodePaletteEntry)
    (l := record.1.map encodePaletteEntry) fun tag htag => by
      obtain ⟨state, -, rfl⟩ := List.mem_map.mp htag
      exact decodePaletteEntry_encode state
  have hlength : palette.length = record.1.length := by
    rw [← (mapM_eq_ok.mp hread).length_eq, List.length_map]
  have hne : palette.isEmpty = false := by
    have := hpalette.nonempty
    cases palette with
    | nil => rw [List.length_nil] at hlength; omega
    | cons state palette => rfl
  have hstates : ∀ fields : NbtFields,
      fields.get "palette" = some (.list 10 (record.1.map encodePaletteEntry)) →
        blockStatePalette fields = .ok palette := by
    intro fields hget
    unfold blockStatePalette NbtFields.listField
    rw [hget]
    change (List.mapM decodePaletteEntry (record.1.map encodePaletteEntry) >>= _) = _
    rw [hread]
    change (if palette.isEmpty then _ else _) = _
    rw [hne]
    rfl
  have hdecode : ∀ (blockStates : NbtFields) (indices : List Nat),
      blockStates.get "palette" = some (.list 10 (record.1.map encodePaletteEntry)) →
      unpackIndices palette.length 4096 4 (blockStates.get "data") = .ok indices →
      (∀ index ∈ indices, index < palette.length) → indices.length = 4096 →
      ∀ (chunk : ChunkColumn) sectionY fields,
        NbtFields.get fields "block_states" = some (.compound blockStates) →
          ∃ chunk', decodeSectionBlocks chunk sectionY fields = .ok chunk' := by
    intro blockStates indices hpal hunpack hbelow hcount chunk sectionY fields hget
    obtain ⟨chunk', hchunk'⟩ := exists_decodeBlocks hbelow hcount chunk sectionY
    refine ⟨chunk', ?_⟩
    unfold decodeSectionBlocks
    rw [hget]
    change (blockStatePalette blockStates >>= _) = _
    rw [hstates blockStates hpal]
    change (unpackIndices palette.length 4096 4 (blockStates.get "data") >>= _) = _
    rw [hunpack]
    exact hchunk'
  by_cases hmore : 1 < record.1.length
  · obtain ⟨place, -, hlast⟩ := hpalette.last hmore
    obtain ⟨-, longs, hpack, -, -, -, hunpack⟩ := unpackIndices_packIndices
      ⟨hmore, by have := hpalette.few; omega⟩ (show 1 ≤ 4 ∧ 4 ≤ 13 by decide) hpalette.below
      (List.mem_of_getElem? hlast)
    rw [hpalette.length] at hunpack
    refine ⟨_, ?_, hdecode ((NbtFields.ofList [("palette",
      .list 10 (record.1.map encodePaletteEntry))]).insert "data" (.longArray longs)) record.2
      (by simp [NbtFields.ofList]) (by rw [hlength]; simpa using hunpack)
      (fun index hindex => hlength ▸ hpalette.below index hindex) hpalette.length⟩
    unfold encodeBlockStates
    rw [hrecord]
    change (if 1 < record.1.length then _ else _) = _
    rw [if_pos hmore, hpack]
    rfl
  · have hone : palette.length = 1 := by
      have := hpalette.nonempty
      omega
    refine ⟨_, ?_, hdecode (NbtFields.ofList [("palette",
      .list 10 (record.1.map encodePaletteEntry))]) (List.replicate 4096 0)
      (by simp [NbtFields.ofList]) (by rw [hone]; rfl)
      (fun index hindex => ?_) List.length_replicate⟩
    · unfold encodeBlockStates
      rw [hrecord]
      change (if 1 < record.1.length then _ else _) = _
      rw [if_neg hmore]
      rfl
    · rw [List.eq_of_mem_replicate hindex, hone]
      exact Nat.zero_lt_one

end RevyCraft.ModernAnvil
