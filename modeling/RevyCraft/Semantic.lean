/-
  RevyCraft/Semantic.lean
  =======================
  **The voxel vocabulary** (`revy-voxel-semantic`, `revy-core`): positions,
  chunks, items, inventories, containers and the snapshots made of them.

  Numbers are `Nat` and `Int` with the source's saturation, wrapping and range
  checks written out; `f64` and `f32` are Lean's `Float` and `Float32`, whose
  `==` is the IEEE comparison.  A function
  that can panic returns `Panics`, and the text is that of the source's
  `expect`.  `DecidableEq` is equality of values; the source's `==` on a type
  with floats inside is its `partialEq`.
-/
import RevyCraft.OrderedMap
import RevyCraft.TransferWire

namespace RevyCraft

open Std

/-- A computation that may panic with a message. -/
abbrev Panics (α : Type) : Type := Except String α

def i32Max : Int := 2 ^ 31 - 1
def i32Min : Int := -2 ^ 31

/-- `i32` arithmetic without overflow checks. -/
def wrapI32 (n : Int) : Int := (n + 2 ^ 31) % 2 ^ 32 - 2 ^ 31

/-- `i32::saturating_add(1)`. -/
def saturatingSuccI32 (n : Int) : Int := if n < i32Max then n + 1 else n

/-- `u64::saturating_add`. -/
def saturatingAddU64 (a b : Nat) : Nat := min (a + b) u64Max

/-! ### Identifiers -/

structure ConnectionId where
  value : Nat
  deriving DecidableEq

structure EntityId where
  value : Int
  deriving DecidableEq

structure PlayerId where
  uuid : Nat
  deriving DecidableEq

instance : Ord EntityId := ⟨compareOn EntityId.value⟩
instance : TransOrd EntityId := inferInstanceAs <| TransCmp (compareOn EntityId.value)
instance : LawfulEqOrd EntityId := lawfulEqCmp_compareOn fun a b h => by
  cases a
  cases b
  cases h
  rfl

instance : Ord PlayerId := ⟨compareOn PlayerId.uuid⟩
instance : TransOrd PlayerId := inferInstanceAs <| TransCmp (compareOn PlayerId.uuid)
instance : LawfulEqOrd PlayerId := lawfulEqCmp_compareOn fun a b h => by
  cases a
  cases b
  cases h
  rfl

/-- The `string_id!` types. -/
abbrev BlockEntityKindId : Type := String
abbrev ContainerKindId : Type := String
abbrev ContainerPropertyKey : Type := String

/-! ### Positions -/

def CHUNK_WIDTH : Int := 16
def SECTION_HEIGHT : Int := 16

structure ChunkPos where
  x : Int
  z : Int
  deriving DecidableEq

structure BlockPos where
  x : Int
  y : Int
  z : Int
  deriving DecidableEq

instance : Ord ChunkPos := ⟨compareLex (compareOn ChunkPos.x) (compareOn ChunkPos.z)⟩
instance : TransOrd ChunkPos :=
  inferInstanceAs <| TransCmp (compareLex (compareOn ChunkPos.x) (compareOn ChunkPos.z))
instance : LawfulEqOrd ChunkPos := lawfulEqCmp_compareLex fun a b hx hz => by
  have hx : a.x = b.x := @LawfulEqCmp.eq_of_compare _ compare _ _ _ hx
  have hz : a.z = b.z := @LawfulEqCmp.eq_of_compare _ compare _ _ _ hz
  cases a
  cases b
  cases hx
  cases hz
  rfl

instance : Ord BlockPos :=
  ⟨compareLex (compareOn BlockPos.x) (compareLex (compareOn BlockPos.y) (compareOn BlockPos.z))⟩
instance : TransOrd BlockPos :=
  inferInstanceAs <| TransCmp
    (compareLex (compareOn BlockPos.x) (compareLex (compareOn BlockPos.y) (compareOn BlockPos.z)))
instance : LawfulEqOrd BlockPos := lawfulEqCmp_compareLex fun a b hx hyz => by
  obtain ⟨hy, hz⟩ := compareLex_eq_eq.mp hyz
  have hx : a.x = b.x := @LawfulEqCmp.eq_of_compare _ compare _ _ _ hx
  have hy : a.y = b.y := @LawfulEqCmp.eq_of_compare _ compare _ _ _ hy
  have hz : a.z = b.z := @LawfulEqCmp.eq_of_compare _ compare _ _ _ hz
  cases a
  cases b
  cases hx
  cases hy
  cases hz
  rfl

inductive BlockFace where
  | bottom
  | top
  | north
  | south
  | west
  | east
  deriving DecidableEq

def BlockFace.offset : BlockFace → Int × Int × Int
  | .bottom => (0, -1, 0)
  | .top => (0, 1, 0)
  | .north => (0, 0, -1)
  | .south => (0, 0, 1)
  | .west => (-1, 0, 0)
  | .east => (1, 0, 0)

def BlockPos.chunkPos (p : BlockPos) : ChunkPos := ⟨p.x / CHUNK_WIDTH, p.z / CHUNK_WIDTH⟩

def BlockPos.offset (p : BlockPos) (face : BlockFace) : BlockPos :=
  let (dx, dy, dz) := face.offset
  ⟨wrapI32 (p.x + dx), wrapI32 (p.y + dy), wrapI32 (p.z + dz)⟩

/-- `rem_euclid(CHUNK_WIDTH)` of a block's coordinates. -/
def localBlockX (p : BlockPos) : Nat := (p.x % CHUNK_WIDTH).toNat
def localBlockZ (p : BlockPos) : Nat := (p.z % CHUNK_WIDTH).toNat

structure Vec3 where
  x : Float
  y : Float
  z : Float
  deriving DecidableEq

/-- The derived `PartialEq`, which compares floats as IEEE 754 does. -/
def Vec3.partialEq (a b : Vec3) : Bool := a.x == b.x && a.y == b.y && a.z == b.z

/-- The integer part of `value.floor()`, for a finite value. -/
def floorInt (value : Float) : Option Int :=
  match value.toModel.unpack with
  | .infinity _ => none
  | .notANumber => none
  | .zero _ => some 0
  | .finite sign mantissa exponent _ =>
    let signed : Int := match sign with
      | .negative => -mantissa
      | .positive => mantissa
    some (if 0 ≤ exponent then signed * 2 ^ exponent.toNat else signed / 2 ^ (-exponent).toNat)

def floorToI32 (value : Float) : Panics Int :=
  match floorInt value with
  | some n =>
    if i32Min ≤ n ∧ n ≤ i32Max then .ok n
    else .error "world coordinate should fit into i32"
  | none => .error "world coordinate should fit into i32"

/-- `value.floor() as i32`, which saturates and sends NaN to zero. -/
def floorAsI32 (value : Float) : Int :=
  match value.toModel.unpack with
  | .infinity .negative => i32Min
  | .infinity .positive => i32Max
  | .notANumber => 0
  | _ => max i32Min (min ((floorInt value).getD 0) i32Max)

def ChunkPos.fromWorldPosition (x z : Float) : Panics ChunkPos := do
  let blockX ← floorToI32 x
  let blockZ ← floorToI32 z
  pure ⟨blockX / CHUNK_WIDTH, blockZ / CHUNK_WIDTH⟩

def Vec3.chunkPos (v : Vec3) : Panics ChunkPos := ChunkPos.fromWorldPosition v.x v.z

/-- The integers of `low..=high`, in order. -/
def intRange (low high : Int) : List Int :=
  (List.range (high - low + 1).toNat).map fun i => low + i

def requiredChunks (center : ChunkPos) (viewDistance : Nat) : BTreeSet ChunkPos :=
  let radius : Int := viewDistance
  (intRange (-radius) radius).foldl (fun chunks dz =>
    (intRange (-radius) radius).foldl (fun chunks dx =>
      chunks.insert ⟨center.x + dx, center.z + dz⟩) chunks) ∅

/-! ### Blocks and chunks -/

structure BlockState where
  key : String
  properties : BTreeMap String String
  deriving DecidableEq

def BlockState.new (key : String) : BlockState := ⟨key, ∅⟩

inductive DimensionId where
  | overworld
  deriving DecidableEq

structure WorldMeta where
  levelName : String
  seed : Nat
  spawn : BlockPos
  dimension : DimensionId
  age : Int
  time : Int
  levelType : String
  gameMode : Nat
  difficulty : Nat
  maxPlayers : Nat
  deriving DecidableEq

/-- `flatten_block_index`: `y << 8 | z << 4 | x`, for coordinates below 16. -/
def flattenBlockIndex (x y z : Nat) : Nat := y * 256 + z * 16 + x

structure ChunkSection where
  y : Int
  blocks : BTreeMap Nat BlockState
  deriving DecidableEq

namespace ChunkSection

def new (y : Int) : ChunkSection := ⟨y, ∅⟩

def getBlock (c : ChunkSection) (x y z : Nat) : Option BlockState :=
  c.blocks[flattenBlockIndex x y z]?

def setBlock (c : ChunkSection) (x y z : Nat) (state : Option BlockState) : ChunkSection :=
  match state with
  | some state => { c with blocks := c.blocks.insert (flattenBlockIndex x y z) state }
  | none => { c with blocks := c.blocks.erase (flattenBlockIndex x y z) }

def isEmpty (c : ChunkSection) : Bool := c.blocks.isEmpty

end ChunkSection

def sectionLocalY (y : Int) : Nat := (y % SECTION_HEIGHT).toNat

structure ChunkColumn where
  pos : ChunkPos
  sections : BTreeMap Int ChunkSection
  biomes : List UInt8
  deriving DecidableEq

namespace ChunkColumn

def new (pos : ChunkPos) : ChunkColumn := ⟨pos, ∅, List.replicate 256 1⟩

def getBlock (c : ChunkColumn) (x : Nat) (y : Int) (z : Nat) : Option BlockState :=
  (c.sections[y / SECTION_HEIGHT]?).bind fun chunk => chunk.getBlock x (sectionLocalY y) z

/-- Stores a section, or removes it when it has become empty. -/
def putSection (c : ChunkColumn) (sectionY : Int) (chunk : ChunkSection) : ChunkColumn :=
  if chunk.isEmpty then { c with sections := c.sections.erase sectionY }
  else { c with sections := c.sections.insert sectionY chunk }

def setBlock (c : ChunkColumn) (x : Nat) (y : Int) (z : Nat) (state : Option BlockState) :
    ChunkColumn :=
  let sectionY := y / SECTION_HEIGHT
  match state with
  | some state =>
    let chunk := (c.sections[sectionY]?).getD (ChunkSection.new sectionY)
    c.putSection sectionY (chunk.setBlock x (sectionLocalY y) z (some state))
  | none =>
    match c.sections[sectionY]? with
    | none => c
    | some chunk => c.putSection sectionY (chunk.setBlock x (sectionLocalY y) z none)

end ChunkColumn

structure ChunkDelta where
  added : List ChunkPos
  removed : List ChunkPos

/-! ### Items and inventories -/

mutual

/-- `ItemDataValue`.  A compound lists its entries by key, as its map does. -/
inductive ItemDataValue where
  | byte (value : Int)
  | short (value : Int)
  | int (value : Int)
  | long (value : Int)
  | float (bits : UInt32)
  | double (bits : UInt64)
  | byteArray (bytes : List UInt8)
  | string (text : String)
  | list (items : ItemDataList)
  | compound (entries : ItemDataEntries)
  | intArray (values : List Int)
  | longArray (values : List Int)
  deriving DecidableEq

inductive ItemDataList where
  | nil
  | cons (head : ItemDataValue) (tail : ItemDataList)
  deriving DecidableEq

inductive ItemDataEntries where
  | nil
  | cons (key : String) (value : ItemDataValue) (tail : ItemDataEntries)
  deriving DecidableEq

end

structure ItemStack where
  key : String
  count : Nat
  damage : Nat
  components : BTreeMap String ItemDataValue
  extra : BTreeMap String ItemDataValue
  deriving DecidableEq

def ItemStack.new (key : String) (count damage : Nat) : ItemStack := ⟨key, count, damage, ∅, ∅⟩

def PLAYER_INVENTORY_SLOT_COUNT : Nat := 45
def AUXILIARY_SLOT_COUNT : Nat := 9
def MAIN_INVENTORY_SLOT_COUNT : Nat := 27
def HOTBAR_START_SLOT : Nat := 36
def HOTBAR_SLOT_COUNT : Nat := 9

inductive InventorySlot where
  | windowLocal (index : Nat)
  | mainInventory (index : Nat)
  | hotbar (index : Nat)
  | offhand
  deriving DecidableEq

namespace InventorySlot

def craftingResult : InventorySlot := .windowLocal 0

def legacyWindowIndex : InventorySlot → Option Nat
  | .windowLocal index => if index < AUXILIARY_SLOT_COUNT then some index else none
  | .mainInventory index =>
    if index < MAIN_INVENTORY_SLOT_COUNT then some (AUXILIARY_SLOT_COUNT + index) else none
  | .hotbar index => if index < HOTBAR_SLOT_COUNT then some (HOTBAR_START_SLOT + index) else none
  | .offhand => none

def isStorageSlot : InventorySlot → Bool
  | .windowLocal _ => false
  | .mainInventory _ => true
  | .hotbar _ => true
  | .offhand => true

def isCraftingResult (slot : InventorySlot) : Bool := slot = .windowLocal 0

end InventorySlot

inductive InteractionHand where
  | main
  | offhand
  deriving DecidableEq

structure PlayerInventory where
  slots : List (Option ItemStack)
  offhand : Option ItemStack
  deriving DecidableEq

namespace PlayerInventory

def newEmpty : PlayerInventory := ⟨List.replicate PLAYER_INVENTORY_SLOT_COUNT none, none⟩

def get (inventory : PlayerInventory) (slot : Nat) : Option ItemStack :=
  inventory.slots[slot]?.join

/-- `set`: indexing `slots` panics when the vector is shorter than its nominal length. -/
def set (inventory : PlayerInventory) (slot : Nat) (stack : Option ItemStack) :
    Panics (Bool × PlayerInventory) :=
  if slot ≥ PLAYER_INVENTORY_SLOT_COUNT then .ok (false, inventory)
  else if slot ≥ inventory.slots.length then .error "index out of bounds"
  else .ok (true, { inventory with slots := inventory.slots.set slot stack })

def selectedHotbarStack (inventory : PlayerInventory) (selectedHotbarSlot : Nat) :
    Option ItemStack :=
  if selectedHotbarSlot ≥ HOTBAR_SLOT_COUNT then none
  else inventory.get (HOTBAR_START_SLOT + selectedHotbarSlot)

def getSlot (inventory : PlayerInventory) (slot : InventorySlot) : Option ItemStack :=
  match slot with
  | .offhand => inventory.offhand
  | slot => slot.legacyWindowIndex.bind inventory.get

def setSlot (inventory : PlayerInventory) (slot : InventorySlot) (stack : Option ItemStack) :
    Panics (Bool × PlayerInventory) :=
  match slot with
  | .offhand => .ok (true, { inventory with offhand := stack })
  | slot =>
    match slot.legacyWindowIndex with
    | none => .ok (false, inventory)
    | some legacySlot => inventory.set legacySlot stack

/-- `get_slot_mut`: the place the reference points to. -/
def getSlotMut (inventory : PlayerInventory) (slot : InventorySlot) : Option (Option ItemStack) :=
  match slot with
  | .offhand => some inventory.offhand
  | slot => slot.legacyWindowIndex.bind fun legacySlot => inventory.slots[legacySlot]?

/-- Writing through the reference of `get_slot_mut`. -/
def writeSlot (inventory : PlayerInventory) (slot : InventorySlot) (stack : Option ItemStack) :
    PlayerInventory :=
  match slot with
  | .offhand => { inventory with offhand := stack }
  | slot =>
    match slot.legacyWindowIndex with
    | none => inventory
    | some legacySlot => { inventory with slots := inventory.slots.set legacySlot stack }

def selectedStack (inventory : PlayerInventory) (selectedHotbarSlot : Nat)
    (hand : InteractionHand) : Option ItemStack :=
  match hand with
  | .main => inventory.selectedHotbarStack selectedHotbarSlot
  | .offhand => inventory.offhand

def craftingResult (inventory : PlayerInventory) : Option ItemStack :=
  inventory.getSlot .craftingResult

end PlayerInventory

structure InventoryWindowContents where
  playerInventory : PlayerInventory
  localSlots : List (Option ItemStack)
  deriving DecidableEq

namespace InventoryWindowContents

def player (playerInventory : PlayerInventory) : InventoryWindowContents where
  playerInventory := playerInventory
  localSlots := (List.range AUXILIARY_SLOT_COUNT).map fun index =>
    playerInventory.getSlot (.windowLocal index)

def getSlot (contents : InventoryWindowContents) (slot : InventorySlot) : Option ItemStack :=
  match slot with
  | .windowLocal index => contents.localSlots[index]?.join
  | slot => contents.playerInventory.getSlot slot

end InventoryWindowContents

structure InventoryTransactionContext where
  windowId : Nat
  actionNumber : Int
  deriving DecidableEq

inductive InventoryClickButton where
  | left
  | right
  deriving DecidableEq

inductive InventoryClickTarget where
  | slot (slot : InventorySlot)
  | outside
  | unsupported
  deriving DecidableEq

inductive InventoryClickValidation where
  | strictSlotEcho (clickedItem : Option ItemStack)
  | authoritative
  deriving DecidableEq

structure DroppedItemSnapshot where
  item : ItemStack
  position : Vec3
  velocity : Vec3
  deriving DecidableEq

structure PlayerSnapshot where
  id : PlayerId
  username : String
  position : Vec3
  yaw : Float32
  pitch : Float32
  onGround : Bool
  dimension : DimensionId
  health : Float32
  food : Int
  foodSaturation : Float32
  inventory : PlayerInventory
  selectedHotbarSlot : Nat
  deriving DecidableEq

def PlayerSnapshot.partialEq (a b : PlayerSnapshot) : Bool :=
  a.id = b.id && a.username = b.username && a.position.partialEq b.position && a.yaw == b.yaw &&
    a.pitch == b.pitch && a.onGround = b.onGround && a.dimension = b.dimension &&
    a.health == b.health && a.food = b.food && a.foodSaturation == b.foodSaturation &&
    a.inventory = b.inventory && a.selectedHotbarSlot = b.selectedHotbarSlot

/-- `==` on `Option<PlayerSnapshot>`. -/
def samePlayer : Option PlayerSnapshot → Option PlayerSnapshot → Bool
  | none, none => true
  | some a, some b => a.partialEq b
  | _, _ => false

end RevyCraft
