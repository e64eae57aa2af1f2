/-
  RevyCraft/CanonicalContent.lean
  ===============================
  **The canonical content** (`mc-content-canonical`): the flat world, its
  blocks and items, the crafting recipes and the furnace, as a
  `ContentBehavior`.

  Indexing a slot list out of bounds, which would panic, writes nothing here:
  the lists these functions are given have the length of their container.
-/
import RevyCraft.SemanticRules

namespace RevyCraft

open Std

/-! ### Names -/

namespace Catalog

def AIR : String := "minecraft:air"
def STONE : String := "minecraft:stone"
def DIRT : String := "minecraft:dirt"
def GRASS_BLOCK : String := "minecraft:grass_block"
def COBBLESTONE : String := "minecraft:cobblestone"
def OAK_PLANKS : String := "minecraft:oak_planks"
def BEDROCK : String := "minecraft:bedrock"
def SAND : String := "minecraft:sand"
def SANDSTONE : String := "minecraft:sandstone"
def GLASS : String := "minecraft:glass"
def BRICKS : String := "minecraft:bricks"
def OAK_LOG : String := "minecraft:oak_log"
def STICK : String := "minecraft:stick"
def CRAFTING_TABLE : String := "minecraft:crafting_table"
def CHEST : String := "minecraft:chest"
def FURNACE : String := "minecraft:furnace"

end Catalog

namespace Ids

def PLAYER : String := "canonical:player"
def CRAFTING_TABLE : String := "canonical:crafting_table"
def CHEST_27 : String := "canonical:chest_27"
def FURNACE : String := "canonical:furnace"
def CHEST_BLOCK_ENTITY : String := "canonical:chest"
def FURNACE_BLOCK_ENTITY : String := "canonical:furnace"
def FURNACE_BURN_LEFT : String := "canonical:furnace.burn_left"
def FURNACE_BURN_MAX : String := "canonical:furnace.burn_max"
def FURNACE_COOK_PROGRESS : String := "canonical:furnace.cook_progress"
def FURNACE_COOK_TOTAL : String := "canonical:furnace.cook_total"

end Ids

namespace Canonical

open Catalog

def PLAYER_LOCAL_SLOT_COUNT : Nat := 9
def FURNACE_COOK_TOTAL : Int := 200

/-! ### Blocks and items -/

/-- `creative_starter_inventory`. -/
def creativeStarterInventory : PlayerInventory where
  slots := List.replicate HOTBAR_START_SLOT none ++
    [STONE, DIRT, GRASS_BLOCK, COBBLESTONE, OAK_PLANKS, SAND, SANDSTONE, GLASS, BRICKS].map
      fun key => some (ItemStack.new key 64 0)
  offhand := none

def placeableItems : List String :=
  [STONE, DIRT, GRASS_BLOCK, COBBLESTONE, OAK_PLANKS, SAND, SANDSTONE, GLASS, BRICKS,
    CRAFTING_TABLE, CHEST, FURNACE]

def itemSupportedForInventory (key : String) : Bool :=
  key ∈ [STONE, DIRT, GRASS_BLOCK, COBBLESTONE, OAK_PLANKS, SAND, SANDSTONE, GLASS, BRICKS, OAK_LOG,
    STICK, CRAFTING_TABLE, CHEST, FURNACE]

/-- A placeable item is placed as the block of the same name. -/
def placeableBlockStateFromItemKey (key : String) : Option BlockState :=
  if key ∈ placeableItems then some (BlockState.new key) else none

/-- The four layers of a generated chunk. -/
def layers : List (Int × String) := [(0, BEDROCK), (1, STONE), (2, DIRT), (3, GRASS_BLOCK)]

def defaultChunk (chunkPos : ChunkPos) : ChunkColumn :=
  (List.range 16).foldl (fun column z =>
    (List.range 16).foldl (fun column x =>
      layers.foldl (fun column (y, key) => column.setBlock x y z (some (BlockState.new key)))
        column) column) (ChunkColumn.new chunkPos)

def furnaceDefaultProperties : BTreeMap ContainerPropertyKey Int :=
  ExtTreeMap.ofList
    [(Ids.FURNACE_BURN_LEFT, 0), (Ids.FURNACE_BURN_MAX, 0), (Ids.FURNACE_COOK_PROGRESS, 0),
      (Ids.FURNACE_COOK_TOTAL, FURNACE_COOK_TOTAL)] compare

def defaultBlockEntityForKind (kind : BlockEntityKindId) : Option ContainerBlockEntityState :=
  if kind = Ids.CHEST_BLOCK_ENTITY then some ⟨kind, List.replicate 27 none, ∅⟩
  else if kind = Ids.FURNACE_BLOCK_ENTITY then
    some ⟨kind, List.replicate 3 none, furnaceDefaultProperties⟩
  else none

def defaultBlockEntityForBlock (block : BlockState) : Option ContainerBlockEntityState :=
  if block.key = CHEST then defaultBlockEntityForKind Ids.CHEST_BLOCK_ENTITY
  else if block.key = FURNACE then defaultBlockEntityForKind Ids.FURNACE_BLOCK_ENTITY
  else none

def containerSpec (kind : ContainerKindId) : Option ContainerSpec :=
  if kind = Ids.PLAYER then
    some ⟨PLAYER_LOCAL_SLOT_COUNT, ExtTreeMap.ofList [(0, .outputOnly), (5, .unavailable),
      (6, .unavailable), (7, .unavailable), (8, .unavailable)] compare⟩
  else if kind = Ids.CRAFTING_TABLE then
    some ⟨10, ExtTreeMap.ofList [(0, .outputOnly)] compare⟩
  else if kind = Ids.CHEST_27 then some ⟨27, ∅⟩
  else if kind = Ids.FURNACE then some ⟨3, ExtTreeMap.ofList [(2, .outputOnly)] compare⟩
  else none

def containerTitle (kind : ContainerKindId) : String :=
  if kind = Ids.PLAYER then "Player"
  else if kind = Ids.CRAFTING_TABLE then "Crafting"
  else if kind = Ids.CHEST_27 then "Chest"
  else if kind = Ids.FURNACE then "Furnace"
  else kind

def containerKindForBlock (block : BlockState) : Option ContainerKindId :=
  if block.key = Catalog.CRAFTING_TABLE then some Ids.CRAFTING_TABLE
  else if block.key = CHEST then some Ids.CHEST_27
  else if block.key = FURNACE then some Ids.FURNACE
  else none

def blockEntityKindForContainer (kind : ContainerKindId) : Option BlockEntityKindId :=
  if kind = Ids.CHEST_27 then some Ids.CHEST_BLOCK_ENTITY
  else if kind = Ids.FURNACE then some Ids.FURNACE_BLOCK_ENTITY
  else none

/-- The hardness of a block, for those that can be mined. -/
def hardness (block : BlockState) : Option Float32 :=
  ([(STONE, 1.5), (GRASS_BLOCK, 0.6), (DIRT, 0.5), (COBBLESTONE, 2.0), (OAK_PLANKS, 2.0),
    (SAND, 0.5), (SANDSTONE, 0.8), (GLASS, 0.3), (BRICKS, 2.0), (Catalog.CRAFTING_TABLE, 2.5),
    (CHEST, 2.5), (FURNACE, 3.5)].find? fun entry => entry.1 = block.key).map (·.2)

/-- `value.ceil() as u64`, for a value that is not negative. -/
def ceilAsU64 (value : Float32) : Nat :=
  match value.toModel.unpack with
  | .finite .positive mantissa exponent _ =>
    if 0 ≤ exponent then mantissa * 2 ^ exponent.toNat
    else (mantissa + 2 ^ (-exponent).toNat - 1) / 2 ^ (-exponent).toNat
  | .infinity .positive => u64Max
  | _ => 0

def survivalMiningDurationMs (block : BlockState) (_tool : Option MiningToolSpec) : Option Nat :=
  (hardness block).map fun hardness => max (ceilAsU64 (hardness * 30.0)) 1 * 50

def survivalDropForBlock (block : BlockState) : Option ItemStack :=
  ([(STONE, COBBLESTONE), (GRASS_BLOCK, DIRT), (DIRT, DIRT), (COBBLESTONE, COBBLESTONE),
    (OAK_PLANKS, OAK_PLANKS), (SAND, SAND), (SANDSTONE, SANDSTONE), (BRICKS, BRICKS),
    (Catalog.CRAFTING_TABLE, Catalog.CRAFTING_TABLE), (CHEST, CHEST), (FURNACE, FURNACE)].find?
      fun entry => entry.1 = block.key).map fun entry => ItemStack.new entry.2 1 0

/-! ### Crafting -/

structure Recipe where
  pattern : List (Option String)
  width : Nat
  height : Nat
  outputKey : String
  outputCount : Nat

/-- A ring of one material around an empty cell. -/
def ring (key : String) : List (Option String) :=
  List.replicate 4 (some key) ++ [none] ++ List.replicate 4 (some key)

def recipes : List Recipe :=
  [⟨[some OAK_LOG], 1, 1, OAK_PLANKS, 4⟩,
    ⟨[some OAK_PLANKS, some OAK_PLANKS], 1, 2, STICK, 4⟩,
    ⟨List.replicate 4 (some SAND), 2, 2, SANDSTONE, 1⟩,
    ⟨List.replicate 4 (some OAK_PLANKS), 2, 2, Catalog.CRAFTING_TABLE, 1⟩,
    ⟨ring OAK_PLANKS, 3, 3, CHEST, 1⟩,
    ⟨ring COBBLESTONE, 3, 3, FURNACE, 1⟩]

def occupiedCells (inputs : List (Option ItemStack)) : List (Nat × ItemStack) :=
  inputs.zipIdx.filterMap fun (stack, index) => stack.map fun stack => (index, stack)

def craftingGrid (occupied : List (Nat × ItemStack)) (width minX minY normalizedWidth
    normalizedHeight : Nat) : List (Option (Nat × String)) :=
  occupied.foldl (fun cells (index, stack) =>
    cells.set ((index / width - minY) * normalizedWidth + (index % width - minX))
      (some (index, stack.key))) (List.replicate (normalizedWidth * normalizedHeight) none)

/-- `current_crafting_recipe`: what the grid makes and the cells it uses up. -/
def currentCraftingRecipe (inputs : List (Option ItemStack)) (width : Nat) :
    Option (ItemStack × List Nat) :=
  let occupied := occupiedCells inputs
  match (occupied.map fun cell => cell.1 % width).min?,
    (occupied.map fun cell => cell.1 % width).max?,
    (occupied.map fun cell => cell.1 / width).min?,
    (occupied.map fun cell => cell.1 / width).max? with
  | some minX, some maxX, some minY, some maxY =>
    let normalizedWidth := maxX - minX + 1
    let normalizedHeight := maxY - minY + 1
    let cells := craftingGrid occupied width minX minY normalizedWidth normalizedHeight
    (recipes.find? fun recipe => recipe.width = normalizedWidth &&
      recipe.height = normalizedHeight &&
      (recipe.pattern.zip cells).all fun (expected, actual) => expected = actual.map (·.2)).map
        fun recipe => (ItemStack.new recipe.outputKey recipe.outputCount 0,
          cells.filterMap fun cell => cell.map (·.1))
  | _, _, _, _ => none

def recomputeCraftingResult (localSlots : List (Option ItemStack)) (width : Nat) :
    List (Option ItemStack) :=
  let inputs := (localSlots.drop 1).take (if width = 2 then 4 else 9)
  localSlots.set 0 ((currentCraftingRecipe inputs width).map (·.1))

/-- What the cursor holds after taking `count` of an output, if it can. -/
def takeOntoCursor (cursor : Option ItemStack) (output : ItemStack) (count : Nat) :
    Option ItemStack :=
  match cursor with
  | none => some { output with count := count }
  | some existing =>
    if existing.key = output.key ∧ existing.count + count ≤ 64 then
      some { existing with count := min (existing.count + count) 255 }
    else none

/-- One item fewer in a slot. -/
def consumeOne (localSlots : List (Option ItemStack)) (index : Nat) : List (Option ItemStack) :=
  match localSlots[index]? with
  | some (some stack) =>
    localSlots.set index
      (if stack.count - 1 = 0 then none else some { stack with count := stack.count - 1 })
  | _ => localSlots

def takeCraftingResult (localSlots : List (Option ItemStack)) (inputStart inputCount width : Nat)
    (cursor : Option ItemStack) (button : InventoryClickButton) :
    Bool × List (Option ItemStack) × Option ItemStack :=
  let inputs := (localSlots.drop inputStart).take inputCount
  match currentCraftingRecipe inputs width with
  | none => (false, recomputeCraftingResult localSlots width, cursor)
  | some (output, consume) =>
    let takeCount := match button with
      | .left => output.count
      | .right => 1
    match takeOntoCursor cursor output takeCount with
    | none => (false, localSlots, cursor)
    | some held =>
      let localSlots := consume.foldl (fun slots index => consumeOne slots (inputStart + index))
        localSlots
      (true, recomputeCraftingResult localSlots width, some held)

def takeOutputSlot (localSlots : List (Option ItemStack)) (cursor : Option ItemStack)
    (outputIndex : Nat) (button : InventoryClickButton) :
    Bool × List (Option ItemStack) × Option ItemStack :=
  match localSlots[outputIndex]? with
  | some (some output) =>
    let takeCount := match button with
      | .left => output.count
      | .right => 1
    if takeCount = 0 then (false, localSlots, cursor)
    else
      match takeOntoCursor cursor output takeCount with
      | none => (false, localSlots, cursor)
      | some held =>
        (true, localSlots.set outputIndex (if output.count - takeCount = 0 then none
          else some { output with count := output.count - takeCount }), some held)
  | _ => (false, localSlots, cursor)

def normalizePlayerInventory (inventory : PlayerInventory) : PlayerInventory :=
  let localSlots := (List.range PLAYER_LOCAL_SLOT_COUNT).map fun index =>
    inventory.getSlot (.windowLocal index)
  (recomputeCraftingResult localSlots 2).zipIdx.foldl
    (fun inventory (stack, index) => inventory.writeSlot (.windowLocal index) stack) inventory

def tryTakeOutput (kind : ContainerKindId) (localSlots : List (Option ItemStack))
    (cursor : Option ItemStack) (button : InventoryClickButton) :
    Bool × List (Option ItemStack) × Option ItemStack :=
  if kind = Ids.PLAYER then takeCraftingResult localSlots 1 4 2 cursor button
  else if kind = Ids.CRAFTING_TABLE then takeCraftingResult localSlots 1 9 3 cursor button
  else if kind = Ids.FURNACE then takeOutputSlot localSlots cursor 2 button
  else (false, localSlots, cursor)

/-! ### The furnace -/

def property (state : OpenContainerState) (key : ContainerPropertyKey) : Int :=
  (state.properties[key]?).getD 0

def setProperty (state : OpenContainerState) (key : ContainerPropertyKey) (value : Int) :
    OpenContainerState :=
  { state with properties := state.properties.insert key value }

def furnaceAvailableOutput (localSlots : List (Option ItemStack)) : Option ItemStack :=
  match (localSlots[0]?).join with
  | none => none
  | some input =>
    let output :=
      if input.key = SAND ∧ input.count > 0 then some (ItemStack.new GLASS 1 0)
      else if input.key = COBBLESTONE ∧ input.count > 0 then some (ItemStack.new STONE 1 0)
      else none
    match (localSlots[2]?).join with
    | none => output
    | some existing => output.filter fun output => existing.key = output.key && existing.count < 64

def furnaceFuelBurnTime (fuel : Option ItemStack) : Option Int :=
  match fuel with
  | none => none
  | some fuel =>
    if fuel.count = 0 then none
    else if fuel.key = STICK then some 100
    else if fuel.key = OAK_PLANKS ∨ fuel.key = OAK_LOG then some 300
    else none

def normalizeFurnace (state : OpenContainerState) : OpenContainerState :=
  let state := setProperty state Ids.FURNACE_COOK_TOTAL FURNACE_COOK_TOTAL
  let state :=
    if property state Ids.FURNACE_BURN_LEFT = 0 then setProperty state Ids.FURNACE_BURN_MAX 0
    else state
  if (furnaceAvailableOutput state.localSlots).isNone then
    setProperty state Ids.FURNACE_COOK_PROGRESS 0
  else state

/-- Lights the furnace when it is out, has something to smelt and fuel to burn. -/
def lightFurnace (state : OpenContainerState) : OpenContainerState :=
  if property state Ids.FURNACE_BURN_LEFT = 0 ∧
      (furnaceAvailableOutput state.localSlots).isSome then
    match furnaceFuelBurnTime (state.localSlots[1]?).join with
    | none => state
    | some burnTime =>
      let state := setProperty state Ids.FURNACE_BURN_LEFT burnTime
      let state := setProperty state Ids.FURNACE_BURN_MAX burnTime
      { state with localSlots := consumeOne state.localSlots 1 }
  else state

/-- The smelted item joins the output slot. -/
def storeOutput (localSlots : List (Option ItemStack)) (output : ItemStack) :
    List (Option ItemStack) :=
  match localSlots[2]? with
  | some (some existing) =>
    localSlots.set 2 (some (if existing.key = output.key then
      { existing with count := min (existing.count + output.count) 255 } else output))
  | some none => localSlots.set 2 (some output)
  | none => localSlots

def cookFurnace (cookTotal : Int) (state : OpenContainerState) : OpenContainerState :=
  match furnaceAvailableOutput state.localSlots with
  | none => setProperty state Ids.FURNACE_COOK_PROGRESS 0
  | some output =>
    let progress := min (property state Ids.FURNACE_COOK_PROGRESS + 1) 32767
    if progress ≥ cookTotal then
      let state := { state with
        localSlots := storeOutput (consumeOne state.localSlots 0) output }
      setProperty state Ids.FURNACE_COOK_PROGRESS 0
    else setProperty state Ids.FURNACE_COOK_PROGRESS progress

def tickFurnace (state : OpenContainerState) : OpenContainerState :=
  let state := normalizeFurnace state
  let cookTotal := (state.properties[Ids.FURNACE_COOK_TOTAL]?).getD FURNACE_COOK_TOTAL
  let burnLeft := property state Ids.FURNACE_BURN_LEFT
  let state := if burnLeft > 0 then setProperty state Ids.FURNACE_BURN_LEFT (burnLeft - 1) else state
  let state := lightFurnace state
  if property state Ids.FURNACE_BURN_LEFT > 0 then cookFurnace cookTotal state
  else setProperty (setProperty state Ids.FURNACE_COOK_PROGRESS 0) Ids.FURNACE_BURN_MAX 0

def normalizeContainer (state : OpenContainerState) : OpenContainerState :=
  if state.kind = Ids.CRAFTING_TABLE then
    { state with localSlots := recomputeCraftingResult state.localSlots 3 }
  else if state.kind = Ids.FURNACE then normalizeFurnace state
  else state

end Canonical

open Canonical in
/-- `CanonicalContent`. -/
def canonicalContent : ContentBehavior where
  generateChunk := fun _ chunkPos => defaultChunk chunkPos
  playerContainerKind := Ids.PLAYER
  containerSpec := containerSpec
  containerTitle := containerTitle
  containerKindForBlock := containerKindForBlock
  defaultBlockEntityForBlock := defaultBlockEntityForBlock
  defaultBlockEntityForKind := defaultBlockEntityForKind
  blockEntityKindForContainer := blockEntityKindForContainer
  isAirBlock := fun block => block.key = Catalog.AIR
  isUnbreakableBlock := fun block => block.key = Catalog.BEDROCK
  placeableBlockStateFromItemKey := placeableBlockStateFromItemKey
  isSupportedInventoryItem := itemSupportedForInventory
  starterInventory := creativeStarterInventory
  toolSpecForItem := fun _ => none
  survivalMiningDurationMs := survivalMiningDurationMs
  survivalDropForBlock := survivalDropForBlock
  normalizeContainer := normalizeContainer
  normalizePlayerInventory := normalizePlayerInventory
  tryTakeOutput := tryTakeOutput
  tickContainer := fun state => if state.kind = Ids.FURNACE then tickFurnace state else state

end RevyCraft
