/-
  RevyCraft/Cbor.lean
  ===================
  **CBOR data items and their bytes** (RFC 8949, preferred serialisation):
  the items that serde's derived implementations produce, and a codec that
  knows one value.
-/
import RevyCraft.TransferWire
import RevyCraft.OrderedMap

namespace RevyCraft

open Std

/-- A data item.  A float is given by the bits of its half-precision form. -/
inductive Cbor where
  | null
  | unsigned (n : Nat)
  | text (value : String)
  | bool (value : Bool)
  | half (bits : Nat)
  | array (items : List Cbor)
  | map (entries : List (Cbor × Cbor))

namespace Cbor

/-- The big-endian bytes of a number. -/
def beBytes (width n : Nat) : ByteArr := (Bytes.leBytes width n).reverse

/-- The initial byte of an item with its argument, in the shortest form. -/
def head (major n : Nat) : ByteArr :=
  if n < 24 then [UInt8.ofNat (32 * major + n)]
  else if n < 256 then UInt8.ofNat (32 * major + 24) :: beBytes 1 n
  else if n < 256 ^ 2 then UInt8.ofNat (32 * major + 25) :: beBytes 2 n
  else if n < 256 ^ 4 then UInt8.ofNat (32 * major + 26) :: beBytes 4 n
  else UInt8.ofNat (32 * major + 27) :: beBytes 8 n

mutual

def bytes : Cbor → ByteArr
  | .null => [0xf6]
  | .unsigned n => head 0 n
  | .text value =>
    let utf8 := value.toUTF8.data.toList
    head 3 utf8.length ++ utf8
  | .bool value => [if value then 0xf5 else 0xf4]
  | .half bits => 0xf9 :: beBytes 2 bits
  | .array items => head 4 items.length ++ bytesOfItems items
  | .map entries => head 5 entries.length ++ bytesOfEntries entries

def bytesOfItems : List Cbor → ByteArr
  | [] => []
  | item :: rest => item.bytes ++ bytesOfItems rest

def bytesOfEntries : List (Cbor × Cbor) → ByteArr
  | [] => []
  | (key, value) :: rest => key.bytes ++ value.bytes ++ bytesOfEntries rest

end

/-- A struct: its fields by name, in the order they are declared. -/
def struct (fields : List (String × Cbor)) : Cbor :=
  .map (fields.map fun field => (.text field.1, field.2))

def variant (name : String) (fields : List (String × Cbor)) : Cbor :=
  .map [(.text name, struct fields)]

def ofOption {α : Type} (encode : α → Cbor) : Option α → Cbor
  | none => .null
  | some value => encode value

def ofMap {K V : Type} [Ord K] [TransOrd K] (key : K → Cbor) (value : V → Cbor)
    (m : BTreeMap K V) : Cbor :=
  .map (m.toList.map fun entry => (key entry.1, value entry.2))

/-- A finite float that half precision holds, from its bits: zero, or a normal number whose
    exponent is biased by so much more than that of a half. -/
def ofFloatBits (bias fraction bits : Nat) : Cbor :=
  .half (if bits = 0 then 0
    else (bits / 2 ^ fraction - bias) * 2 ^ 10 + bits % 2 ^ fraction / 2 ^ (fraction - 10))

def ofFloat (value : Float) : Cbor := ofFloatBits 1008 52 value.toBits.toNat

def ofFloat32 (value : Float32) : Cbor := ofFloatBits 112 23 value.toBits.toNat

theorem length_le_struct {name : String} {value : Cbor} {fields : List (String × Cbor)}
    (h : (name, value) ∈ fields) : value.bytes.length ≤ (struct fields).bytes.length := by
  have hentries : ∀ {entries : List (Cbor × Cbor)} {key : Cbor}, (key, value) ∈ entries →
      value.bytes.length ≤ (bytesOfEntries entries).length := by
    intro entries
    induction entries with
    | nil => simp
    | cons entry rest ih =>
      intro key hmem
      obtain ⟨key', value'⟩ := entry
      simp only [bytesOfEntries, List.length_append]
      rcases List.mem_cons.mp hmem with hfirst | hmem
      · cases hfirst
        omega
      · have := ih hmem
        omega
  have hmem : (Cbor.text name, value) ∈ fields.map fun field => (Cbor.text field.1, field.2) :=
    List.mem_map.mpr ⟨(name, value), h, rfl⟩
  have := hentries hmem
  simp only [struct, bytes, List.length_append]
  omega

example : (struct [("x", .unsigned 0), ("y", .unsigned 300)]).bytes =
    [0xa2, 0x61, 0x78, 0x00, 0x61, 0x79, 0x19, 0x01, 0x2c] := by decide +kernel

end Cbor

/-! ### One value -/

/-- A codec as far as one value goes: it writes and reads that value only. -/
def Codec.single {α : Type} [DecidableEq α] (value : α) (item : Cbor) : Codec α where
  intoWriter := fun v => if v = value then ([item.bytes], none) else ([], some "another value")
  fromReader := fun bytes =>
    if bytes = item.bytes then .ok (value, []) else .error "another value"

theorem Codec.single_bytes {α : Type} [DecidableEq α] (value : α) (item : Cbor) :
    (Codec.single value item).bytes value = item.bytes := by
  simp [Codec.bytes, Codec.single]

theorem Codec.single_encodable {α : Type} [DecidableEq α] (value : α) (item : Cbor) :
    (Codec.single value item).Encodable value := by
  simp [Codec.Encodable, Codec.single]

theorem Codec.single_roundTrips {α : Type} [DecidableEq α] (value : α) (item : Cbor) :
    (Codec.single value item).RoundTrips := by
  intro v he
  unfold Codec.Encodable at he
  by_cases h : v = value
  · subst h
    simp [Codec.bytes, Codec.single]
  · simp [Codec.single, h] at he

end RevyCraft
