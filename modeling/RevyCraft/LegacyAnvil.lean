/-
  RevyCraft/LegacyAnvil.lean
  ==========================
  **What the adapters share of the Anvil format** (`mc-plugin-storage-je-anvil-1_7_10`,
  `mc-proto-je-common`): nibbles, block indices and the fields of containers.
-/
import RevyCraft.LegacyTables
import RevyCraft.Nbt
import RevyCraft.SemanticRules

namespace RevyCraft.LegacyAnvil

def containerProperty (container : ContainerBlockEntityState) (key : ContainerPropertyKey) : Int :=
  (container.properties[key]?).getD 0

/-- `set_nibble`. -/
def setNibble (target : List UInt8) (index value : Nat) : List UInt8 :=
  target.modify (index / 2) fun byte =>
    let nibble := UInt8.ofNat value &&& (0x0f : UInt8)
    if index % 2 = 0 then (byte &&& (0xf0 : UInt8)) ||| nibble
    else (byte &&& (0x0f : UInt8)) ||| (nibble <<< (4 : UInt8))

/-- `u16::try_from` of an `i16` and `u8::try_from` of an `i8`. -/
def nonNegative (message : String) (value : Int) : Storage Nat :=
  if value < 0 then Storage.invalidData message else .ok value.toNat

/-- `if let Ok(items) = list_field(..)`. -/
def okOrNothing {α : Type} : Storage (List α) → Storage (List α) := Storage.unwrapOr []

/-- `expand_block_index`: `x`, `y` and `z` inside a section. -/
def expandBlockIndex (index : Nat) : Nat × Nat × Nat :=
  (index % 16, index / 256 % 16, index / 16 % 16)

end RevyCraft.LegacyAnvil
