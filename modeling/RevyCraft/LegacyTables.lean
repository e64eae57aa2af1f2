/-
  RevyCraft/LegacyTables.lean
  ===========================
  **The numeric ids of blocks and items** (`__version_support/blocks.rs` of
  `mc-proto-je-common`), from the semantic names to the ids and back.

  The two directions are separate tables.  The one that reads an item guards
  eight of its ids with a zero damage; the one that writes it does not, so an
  item of those with a damage is written as an id that is not read back
  (`semanticItem_legacyItem`).
-/
import RevyCraft.JavaDecoding

namespace RevyCraft

open Catalog Canonical

/-! ### Blocks -/

def legacyBlockIds : List (String × Nat) :=
  [(STONE, 1), (GRASS_BLOCK, 2), (DIRT, 3), (COBBLESTONE, 4), (OAK_PLANKS, 5), (BEDROCK, 7),
    (SAND, 12), (GLASS, 20), (SANDSTONE, 24), (BRICKS, 45), (CRAFTING_TABLE, 58), (CHEST, 54),
    (FURNACE, 61)]

/-- `legacy_block`: the id and the metadata. -/
def legacyBlock (state : BlockState) : Nat × Nat := ((legacyBlockIds.lookup state.key).getD 0, 0)

theorem legacyBlock_lt (state : BlockState) : (legacyBlock state).1 < 256 := by
  have htable : ∀ entry ∈ legacyBlockIds, entry.2 < 256 := by decide
  unfold legacyBlock
  cases hid : legacyBlockIds.lookup state.key with
  | none => decide
  | some id =>
    obtain ⟨before, after, hsplit, -⟩ := List.lookup_eq_some_iff.mp hid
    exact htable (state.key, id) (hsplit ▸ by simp)

/-! ### Items -/

def ItemStack.isLegacyCompatible (stack : ItemStack) : Bool :=
  stack.components.isEmpty && stack.extra.isEmpty

def legacyItemIds : List (String × Int) :=
  [(STONE, 1), (GRASS_BLOCK, 2), (DIRT, 3), (COBBLESTONE, 4), (OAK_PLANKS, 5), (OAK_LOG, 17),
    (SAND, 12), (GLASS, 20), (SANDSTONE, 24), (BRICKS, 45), (CRAFTING_TABLE, 58), (CHEST, 54),
    (FURNACE, 61), (STICK, 280)]

/-- `legacy_item`: the id and the damage. -/
def legacyItem (stack : ItemStack) : Option (Int × Nat) :=
  if stack.isLegacyCompatible then
    (legacyItemIds.lookup stack.key).map fun itemId => (itemId, stack.damage)
  else none

/-- The items whose id is read with a zero damage only. -/
def damageGuarded : List String :=
  [OAK_PLANKS, OAK_LOG, SAND, SANDSTONE, CRAFTING_TABLE, CHEST, FURNACE, STICK]

theorem ItemStack.eq_new {stack : ItemStack} (h : stack.isLegacyCompatible = true) :
    stack = .new stack.key stack.count stack.damage := by
  obtain ⟨key, count, damage, components, extra⟩ := stack
  simp only [isLegacyCompatible, Bool.and_eq_true, Std.ExtTreeMap.isEmpty_iff] at h
  simp only [ItemStack.new, h.1, h.2]

/-- What is read of the id and damage of a supported item: the item, unless a guard refuses its
    damage. -/
theorem semanticItem_legacyItem {stack : ItemStack}
    (hsupported : itemSupportedForInventory stack.key = true)
    (hcompatible : stack.isLegacyCompatible = true) :
    ∃ itemId, legacyItem stack = some (itemId, stack.damage) ∧ 0 ≤ itemId ∧ itemId < 2 ^ 15 ∧
      semanticItem itemId stack.damage stack.count =
        if stack.key ∈ damageGuarded ∧ stack.damage ≠ 0 then
          .new "minecraft:unsupported" stack.count stack.damage
        else stack := by
  obtain ⟨key, count, damage, hstack⟩ : ∃ key count damage, stack = .new key count damage :=
    ⟨_, _, _, ItemStack.eq_new hcompatible⟩
  subst hstack
  simp only [itemSupportedForInventory, List.mem_cons, List.not_mem_nil, or_false,
    decide_eq_true_eq, ItemStack.new] at hsupported
  rcases hsupported with rfl | rfl | rfl | rfl | rfl | rfl | rfl | rfl | rfl | rfl | rfl | rfl |
    rfl | rfl <;> refine ⟨_, rfl, by decide, by decide, ?_⟩ <;> cases damage <;> rfl

end RevyCraft
