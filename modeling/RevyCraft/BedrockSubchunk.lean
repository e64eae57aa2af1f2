/-
  RevyCraft/BedrockSubchunk.lean
  ==============================
  **The subchunks of the Bedrock plugin** (`chunk.rs` of `mc-proto-be-924`).

  A subchunk has a palette of blocks, which begins with air, and the numbers of its
  cells in words of 32 bits.  Two blocks share an entry if their keys are the same;
  a key spells the block out, and as long as no name in it has one of the four marks
  of the spelling, no other block has the key (`blockPaletteKey_inj`).

  How an entry becomes bytes is left to the NBT library, of which only is used that
  its bytes tell the entry.
-/
import RevyCraft.ChunkLayouts

namespace RevyCraft.BedrockSubchunk

open Bytes Readers SlotNbt Catalog PackedBits ChunkSections

/-! ### The encoder -/

def SUBCHUNK_VERSION_LIMITLESS : UInt8 := 9
def SUBCHUNK_LAYER_COUNT : UInt8 := 1
def VALID_BITS : List Nat := [1, 2, 3, 4, 5, 6, 8, 16]
def DEFAULT_BLOCK_VERSION : Int := 0

/-- The states are strings. -/
structure BedrockBlockPaletteEntry where
  name : String
  states : BTreeMap String String
  version : Int
  deriving DecidableEq

def subchunkOffset (x y z : Nat) : Nat := 16 * 16 * x + 16 * z + y

def blockPaletteKey (block : BlockState) : String :=
  if block.properties.isEmpty then block.key
  else block.key ++ "[" ++ ",".intercalate
    (block.properties.toList.map fun entry => entry.1 ++ "=" ++ entry.2) ++ "]"

def bedrockPaletteEntry (block : BlockState) : BedrockBlockPaletteEntry :=
  ⟨block.key, block.properties, DEFAULT_BLOCK_VERSION⟩

/-- The coordinates in the order of the three loops. -/
def subchunkCells : List (Nat × Nat × Nat) :=
  (List.range 16).flatMap fun x => (List.range 16).flatMap fun z =>
    (List.range 16).map fun y => (x, y, z)

/-- The block of a cell; air where the section has none, or where there is no section. -/
def subchunkBlock (chunk : Option ChunkSection) (cell : Nat × Nat × Nat) : BlockState :=
  (chunk.bind fun found => found.getBlock cell.1 cell.2.1 cell.2.2).getD (.new AIR)

abbrev Numbering : Type := List Nat × Palette String BedrockBlockPaletteEntry

/-- One round: the block of the cell at this offset gets its number. -/
def numberBlock (numbering : Numbering) (entry : Nat × BlockState) : Option Numbering := do
  let interned := numbering.2.intern blockPaletteKey bedrockPaletteEntry entry.2
  let number ← narrow (2 ^ 16) interned.1
  let indices ← assign numbering.1 entry.1 number
  some (indices, interned.2)

def airNumbering : Numbering :=
  (List.replicate (16 * 16 * 16) 0,
    ⟨[bedrockPaletteEntry (.new AIR)], [(blockPaletteKey (.new AIR), 0)]⟩)

def encodePaletteIndices (chunk : Option ChunkSection) :
    Option (List BedrockBlockPaletteEntry × List Nat) := do
  let numbering ← match chunk with
    | none => some airNumbering
    | some _ => subchunkCells.foldlM (fun numbering cell => numberBlock numbering
        (subchunkOffset cell.1 cell.2.1 cell.2.2, subchunkBlock chunk cell)) airNumbering
  some (numbering.2.entries, numbering.1)

def paletteBits (paletteLen : Nat) : Nat :=
  (VALID_BITS.find? fun bits => max paletteLen 1 ≤ 2 ^ bits).getD 16

def writePackedIndices (indices : List Nat) (bits : Nat) : List UInt8 :=
  let perWord := 32 / bits
  let totalWords := (indices.length + perWord - 1) / perWord
  (packAligned bits perWord totalWords (indices.map (BitVec.ofNat 32))).flatMap fun word =>
    leBytes 4 word.toNat

/-- The bytes of the entries, in order; the first that fails ends the loop. -/
def writeEntries (toLeBytes : BedrockBlockPaletteEntry → Except String (List UInt8)) :
    List BedrockBlockPaletteEntry → Except ProtocolError (List UInt8)
  | [] => .ok []
  | entry :: entries =>
    match toLeBytes entry with
    | .error message => .error (.plugin message)
    | .ok first => (writeEntries toLeBytes entries).map (first ++ ·)

/-- `none` where an `expect` panics. -/
def writeSubchunk (toLeBytes : BedrockBlockPaletteEntry → Except String (List UInt8))
    (written : List UInt8) (sectionIndex : Int) (chunk : Option ChunkSection) :
    Option (Except ProtocolError (List UInt8)) := do
  let encoded ← encodePaletteIndices chunk
  let bits := paletteBits encoded.1.length
  let paletteLen ← narrow (2 ^ 32) encoded.1.length
  some ((writeEntries toLeBytes encoded.1).map fun entries =>
    written ++ ([SUBCHUNK_VERSION_LIMITLESS, SUBCHUNK_LAYER_COUNT,
      UInt8.ofNat (toUnsigned 1 sectionIndex), UInt8.ofNat (bits <<< 1)] ++
        (writePackedIndices encoded.2 bits ++ (leBytes 4 paletteLen ++ entries))))

/-! ### The layout -/

structure Subchunk where
  version : UInt8
  layers : UInt8
  sectionIndex : UInt8
  cells : List BedrockBlockPaletteEntry

def word : Layout (BitVec 32) := do
  let taken ← bytes 4
  pure (BitVec.ofNat 32 (leValue taken))

/-- The entries that the numbers of the cells name, as many numbers in a word as fit. -/
def subchunkEntries (bits : Nat) (words : List (BitVec 32))
    (palette : List BedrockBlockPaletteEntry) : Layout (List BedrockBlockPaletteEntry) :=
  match (List.range (16 * 16 * 16)).mapM fun i =>
      palette[extract words (i / (32 / bits) * 32 + i % (32 / bits) * bits) bits]? with
  | some cells => pure cells
  | none => fail "no such palette entry"

/-- The header, the numbers in words, and the palette; the entries are read by the NBT library. -/
def readSubchunk (readEntry : Layout BedrockBlockPaletteEntry) : Layout Subchunk := do
  let version ← byte
  let layers ← byte
  let sectionIndex ← byte
  let header ← byte
  let bits := header.toNat / 2
  let words ← word.collect ((16 * 16 * 16 + 32 / bits - 1) / (32 / bits))
  let count ← bytes 4
  let palette ← readEntry.collect (leValue count)
  let cells ← subchunkEntries bits words palette
  pure ⟨version, layers, sectionIndex, cells⟩

/-- The block at these coordinates, `x` outermost and `y` innermost. -/
def Subchunk.block (subchunk : Subchunk) (x y z : Nat) : Option BlockState :=
  (subchunk.cells[subchunkOffset x y z]?).map fun entry => ⟨entry.name, entry.states⟩

/-! ### The spelling of a block -/

/-- None of the four marks of the spelling is in the text. -/
def Unmarked (text : String) : Prop :=
  '[' ∉ text.toList ∧ ']' ∉ text.toList ∧ ',' ∉ text.toList ∧ '=' ∉ text.toList

structure Plain (block : BlockState) : Prop where
  key : Unmarked block.key
  properties : ∀ entry ∈ block.properties.toList, Unmarked entry.1 ∧ Unmarked entry.2

theorem plain_new {key : String} (h : Unmarked key) : Plain (.new key) := by
  refine ⟨h, fun entry hmem => ?_⟩
  have hfound : (∅ : BTreeMap String String)[entry.1]? = some entry.2 := BTreeMap.mem_toList.mp hmem
  rw [Std.ExtTreeMap.getElem?_empty] at hfound
  cases hfound

theorem plain_air : Plain (.new AIR) := plain_new (by unfold Unmarked; decide)

theorem append_mark_inj {mark : Char} {a b c d : List Char} (ha : mark ∉ a) (hb : mark ∉ b)
    (h : a ++ mark :: c = b ++ mark :: d) : a = b ∧ c = d := by
  induction a generalizing b with
  | nil =>
    cases b with
    | nil => exact ⟨rfl, (List.cons.inj h).2⟩
    | cons head tail => exact absurd (List.cons.inj h).1 fun heq => hb (heq ▸ List.mem_cons_self)
  | cons head tail ih =>
    cases b with
    | nil => exact absurd (List.cons.inj h).1 fun heq => ha (heq ▸ List.mem_cons_self)
    | cons head' tail' =>
      obtain ⟨hhead, hrest⟩ := List.cons.inj h
      obtain ⟨htail, hcd⟩ := ih (fun hmem => ha (List.mem_cons_of_mem _ hmem))
        (fun hmem => hb (List.mem_cons_of_mem _ hmem)) hrest
      exact ⟨by rw [hhead, htail], hcd⟩

def spelled (entry : String × String) : List Char := (entry.1 ++ "=" ++ entry.2).toList

theorem spelled_inj {a b : String × String} (ha : Unmarked a.1) (hb : Unmarked b.1)
    (h : spelled a = spelled b) : a = b := by
  simp only [spelled, String.toList_append, List.append_assoc] at h
  obtain ⟨hname, hvalue⟩ := append_mark_inj ha.2.2.2 hb.2.2.2 h
  exact Prod.ext (String.toList_inj.mp hname) (String.toList_inj.mp hvalue)

theorem comma_not_mem_spelled {entry : String × String} (hname : Unmarked entry.1)
    (hvalue : Unmarked entry.2) : ',' ∉ spelled entry := by
  simp only [spelled, String.toList_append, List.mem_append, not_or]
  exact ⟨⟨hname.2.2.1, by decide⟩, hvalue.2.2.1⟩

theorem map_spelled_inj {a b : List (String × String)}
    (ha : ∀ entry ∈ a, Unmarked entry.1 ∧ Unmarked entry.2)
    (hb : ∀ entry ∈ b, Unmarked entry.1 ∧ Unmarked entry.2)
    (h : a.map spelled = b.map spelled) : a = b := by
  induction a generalizing b with
  | nil => exact (List.map_eq_nil_iff.mp h.symm).symm
  | cons first a ih =>
    cases b with
    | nil => cases h
    | cons first' b =>
      rw [List.map_cons, List.map_cons, List.cons.injEq] at h
      rw [spelled_inj (ha first List.mem_cons_self).1 (hb first' List.mem_cons_self).1 h.1,
        ih (fun entry hmem => ha entry (List.mem_cons_of_mem _ hmem))
          (fun entry hmem => hb entry (List.mem_cons_of_mem _ hmem)) h.2]

theorem properties_inj {a b : List (String × String)}
    (ha : ∀ entry ∈ a, Unmarked entry.1 ∧ Unmarked entry.2)
    (hb : ∀ entry ∈ b, Unmarked entry.1 ∧ Unmarked entry.2) (hane : a ≠ []) (hbne : b ≠ [])
    (h : [','].intercalate (a.map spelled) = [','].intercalate (b.map spelled)) : a = b := by
  have hsplit : ∀ l : List (String × String), (∀ entry ∈ l, Unmarked entry.1 ∧ Unmarked entry.2) →
      l ≠ [] → ([','].intercalate (l.map spelled)).splitOn ',' = l.map spelled := by
    intro l hl hne
    refine List.splitOn_intercalate ',' (fun text htext => ?_) (by simpa using hne)
    obtain ⟨entry, hmem, rfl⟩ := List.mem_map.mp htext
    exact comma_not_mem_spelled (hl entry hmem).1 (hl entry hmem).2
  exact map_spelled_inj ha hb (by rw [← hsplit a ha hane, h, hsplit b hb hbne])

theorem toList_blockPaletteKey (block : BlockState) : (blockPaletteKey block).toList =
    if block.properties.isEmpty then block.key.toList
    else block.key.toList ++ '[' ::
      ([','].intercalate (block.properties.toList.map spelled) ++ [']']) := by
  unfold blockPaletteKey
  split
  · rfl
  · rw [String.toList_append, String.toList_append, String.toList_append,
      String.toList_intercalate, List.map_map, List.append_assoc, List.append_assoc]
    rfl

theorem toList_ne_nil {properties : BTreeMap String String} (h : ¬ properties.isEmpty = true) :
    properties.toList ≠ [] := by
  intro hnil
  apply h
  rw [Std.ExtTreeMap.isEmpty_iff, ← BTreeMap.ofList_toList properties, hnil]
  rfl

theorem blockState_ext {a b : BlockState} (hkey : a.key.toList = b.key.toList)
    (hproperties : a.properties.toList = b.properties.toList) : a = b := by
  obtain ⟨key, properties⟩ := a
  obtain ⟨key', properties'⟩ := b
  have hmap : properties = properties' := by
    rw [← BTreeMap.ofList_toList properties, ← BTreeMap.ofList_toList properties', hproperties]
  rw [show key = key' from String.toList_inj.mp hkey, hmap]

theorem blockPaletteKey_inj {a b : BlockState} (ha : Plain a) (hb : Plain b)
    (h : blockPaletteKey a = blockPaletteKey b) : a = b := by
  have hlist : (blockPaletteKey a).toList = (blockPaletteKey b).toList := congrArg String.toList h
  rw [toList_blockPaletteKey, toList_blockPaletteKey] at hlist
  -- A key with properties has a bracket; one without has none.
  by_cases hempty : a.properties.isEmpty = true <;> by_cases hempty' : b.properties.isEmpty = true
  · rw [if_pos hempty, if_pos hempty'] at hlist
    refine blockState_ext hlist ?_
    rw [Std.ExtTreeMap.isEmpty_iff.mp hempty, Std.ExtTreeMap.isEmpty_iff.mp hempty']
  · rw [if_pos hempty, if_neg hempty'] at hlist
    exact absurd (hlist ▸ by simp) ha.key.1
  · rw [if_neg hempty, if_pos hempty'] at hlist
    exact absurd (hlist ▸ by simp) hb.key.1
  · rw [if_neg hempty, if_neg hempty'] at hlist
    obtain ⟨hkey, hrest⟩ := append_mark_inj ha.key.1 hb.key.1 hlist
    exact blockState_ext hkey (properties_inj ha.properties hb.properties (toList_ne_nil hempty)
      (toList_ne_nil hempty') (List.append_cancel_right hrest))

/-! ### The numbers of the cells -/

theorem flatMap_range_mul (count width : Nat) :
    ((List.range count).flatMap fun i => (List.range width).map fun j => width * i + j) =
      List.range (width * count) := by
  induction count with
  | zero => rfl
  | succ count ih =>
    rw [List.range_succ, List.flatMap_append, ih, Nat.mul_succ, List.range_add]
    simp

theorem subchunkCells_offsets :
    (subchunkCells.map fun cell => subchunkOffset cell.1 cell.2.1 cell.2.2) = List.range 4096 := by
  have hrow : ∀ x, ((List.range 16).flatMap fun z => (List.range 16).map fun y =>
      subchunkOffset x y z) = (List.range 256).map fun j => 256 * x + j := by
    intro x
    rw [show 256 = 16 * 16 from rfl, ← flatMap_range_mul 16 16, List.map_flatMap]
    simp only [List.map_map, subchunkOffset, Function.comp_def, Nat.add_assoc]
  rw [show 4096 = 256 * 16 from rfl, ← flatMap_range_mul 16 256, subchunkCells, List.map_flatMap]
  simp only [List.map_flatMap, List.map_map, Function.comp_def, hrow]

theorem mem_subchunkCells {x y z : Nat} (hx : x < 16) (hy : y < 16) (hz : z < 16) :
    (x, y, z) ∈ subchunkCells := by
  simp only [subchunkCells, List.mem_flatMap, List.mem_map, List.mem_range]
  exact ⟨x, hx, z, hz, y, hy, rfl⟩

theorem length_subchunkCells : subchunkCells.length = 4096 := by
  have hlength := congrArg List.length subchunkCells_offsets
  rwa [List.length_map, List.length_range] at hlength

theorem getElem?_subchunkCells {x y z : Nat} (hx : x < 16) (hy : y < 16) (hz : z < 16) :
    subchunkCells[subchunkOffset x y z]? = some (x, y, z) := by
  obtain ⟨i, hi⟩ := List.mem_iff_getElem?.mp (mem_subchunkCells hx hy hz)
  have hbound := (List.getElem?_eq_some_iff.mp hi).1
  have hoffset : (List.range 4096)[i]? = some (subchunkOffset x y z) := by
    rw [← subchunkCells_offsets, List.getElem?_map, hi]
    rfl
  rw [length_subchunkCells] at hbound
  rw [List.getElem?_range hbound, Option.some.injEq] at hoffset
  rwa [← hoffset]

/-- The entry that the number of a cell names. -/
def entryAt (numbering : Numbering) (i : Nat) : Option BedrockBlockPaletteEntry :=
  (numbering.1[i]?).bind fun number => numbering.2.entries[number]?

/-- A block that the subchunk has, or the air that begins its palette. -/
def Used (chunk : Option ChunkSection) (block : BlockState) : Prop :=
  block = .new AIR ∨ ∃ cell ∈ subchunkCells, block = subchunkBlock chunk cell

/-- After so many rounds. -/
structure Numbered (chunk : Option ChunkSection) (count : Nat) (numbering : Numbering) : Prop where
  cells : numbering.1.length = 4096
  keys : numbering.2.Numbers blockPaletteKey bedrockPaletteEntry Plain
  entries : numbering.2.entries.length ≤ count + 1
  valid : ∀ number ∈ numbering.1, number < numbering.2.entries.length
  known : ∀ entry ∈ numbering.2.entries, ∃ block, Used chunk block ∧ entry = bedrockPaletteEntry block

theorem numbered_air (chunk : Option ChunkSection) : Numbered chunk 0 airNumbering := by
  refine ⟨List.length_replicate, fun block hblock number hlookup => ?_, Nat.le_refl 1,
    fun number hmem => ?_, fun entry hmem => ⟨.new AIR, .inl rfl, List.mem_singleton.mp hmem⟩⟩
  · rw [airNumbering, List.lookup_cons] at hlookup
    split at hlookup
    next hsame =>
      rw [← Option.some.inj hlookup, blockPaletteKey_inj hblock plain_air (beq_iff_eq.mp hsame)]
      rfl
    next => cases hlookup
  · rw [(List.mem_replicate.mp hmem).2]
    exact Nat.one_pos

theorem stores_numberBlock (chunk : Option ChunkSection) :
    Stores numberBlock entryAt bedrockPaletteEntry (Numbered chunk) fun count entry =>
      (entry.1 < 4096 ∧ Plain entry.2) ∧ Used chunk entry.2 ∧ count < 4096 := by
  rintro count numbering index block h ⟨⟨hindex, hblock⟩, hused, hcount⟩
  have hindex : index < 4096 := hindex
  have hblock : Plain block := hblock
  obtain ⟨hkeys, hprefix, hentry⟩ := Palette.intern_spec blockPaletteKey bedrockPaletteEntry
    (fun a b ha hb hkey => congrArg bedrockPaletteEntry (blockPaletteKey_inj ha hb hkey))
    h.keys hblock
  have hlength := Palette.length_intern blockPaletteKey bedrockPaletteEntry numbering.2 block
  have hnumber := (List.getElem?_eq_some_iff.mp hentry).1
  have hmore := hprefix.length_le
  have hentries := h.entries
  obtain ⟨indices, hassign, hsame, hstored, hothers⟩ := assign_spec
    (numbering.2.intern blockPaletteKey bedrockPaletteEntry block).1
    (show index < numbering.1.length by rw [h.cells]; exact hindex)
  refine ⟨(indices, (numbering.2.intern blockPaletteKey bedrockPaletteEntry block).2), ?_,
    ⟨hsame.trans h.cells, hkeys, Nat.le_trans hlength (Nat.add_le_add_right hentries 1),
      fun number hmem => ?_, fun entry hmem => ?_⟩, ?_, fun i hi => ?_⟩
  · have hsmall : (numbering.2.intern blockPaletteKey bedrockPaletteEntry block).1 < 2 ^ 16 := by
      omega
    show (narrow (2 ^ 16) _).bind _ = _
    rw [narrow, if_pos hsmall, Option.bind_some]
    show (assign numbering.1 index _).bind _ = _
    rw [hassign]
    rfl
  · obtain ⟨i, hi⟩ := List.mem_iff_getElem?.mp hmem
    by_cases hat : i = index
    · rw [hat, hstored, Option.some.injEq] at hi
      rwa [← hi]
    · rw [hothers i hat] at hi
      exact Nat.lt_of_lt_of_le (h.valid number (List.mem_of_getElem? hi)) hmore
  · rcases Palette.mem_intern blockPaletteKey bedrockPaletteEntry hmem with hold | hnew
    · exact h.known entry hold
    · exact ⟨block, hused, hnew⟩
  · rw [entryAt, hstored]
    exact hentry
  · rw [entryAt, entryAt, hothers i hi]
    cases hold : numbering.1[i]? with
    | none => rfl
    | some number =>
      have hvalid := h.valid number (List.mem_of_getElem? hold)
      rw [Option.bind_some, Option.bind_some, List.getElem?_eq_getElem hvalid]
      exact Palette.getElem?_of_prefix hprefix (List.getElem?_eq_getElem hvalid)

/-- Every block of the section has a spelling of its own. -/
def PlainSection (chunk : Option ChunkSection) : Prop :=
  ∀ cell ∈ subchunkCells, Plain (subchunkBlock chunk cell)

theorem encodePaletteIndices_spec {chunk : Option ChunkSection} (h : PlainSection chunk) :
    ∃ numbering, encodePaletteIndices chunk = some (numbering.2.entries, numbering.1) ∧
      Numbered chunk 4096 numbering ∧ ∀ cell ∈ subchunkCells,
        entryAt numbering (subchunkOffset cell.1 cell.2.1 cell.2.2) =
          some (bedrockPaletteEntry (subchunkBlock chunk cell)) := by
  cases chunk with
  | none =>
    refine ⟨airNumbering, rfl, { numbered_air none with entries := by decide },
      fun cell hmem => ?_⟩
    have hoffset : subchunkOffset cell.1 cell.2.1 cell.2.2 ∈ List.range 4096 := by
      rw [← subchunkCells_offsets]
      exact List.mem_map_of_mem hmem
    rw [entryAt, airNumbering, List.getElem?_replicate, if_pos (List.mem_range.mp hoffset)]
    rfl
  | some found =>
    have hkeys : ((subchunkCells.map fun cell => (subchunkOffset cell.1 cell.2.1 cell.2.2,
        subchunkBlock (some found) cell)).map Prod.fst) = List.range 4096 := by
      rw [List.map_map]
      exact subchunkCells_offsets
    obtain ⟨numbering, hfold, hnumbered, hcells, -⟩ := (stores_numberBlock (some found)).run 0
      (numbered_air (some found)) (hkeys ▸ List.nodup_range) (fun entry hmem i hi => by
        obtain ⟨cell, hcell, rfl⟩ := List.mem_map.mp hmem
        rw [List.length_map, length_subchunkCells] at hi
        have hoffset : subchunkOffset cell.1 cell.2.1 cell.2.2 ∈ List.range 4096 := by
          rw [← subchunkCells_offsets]
          exact List.mem_map_of_mem hcell
        exact ⟨⟨List.mem_range.mp hoffset, h cell hcell⟩, .inr ⟨cell, hcell, rfl⟩, by omega⟩)
    rw [List.foldlM_map] at hfold
    rw [List.length_map, length_subchunkCells] at hnumbered
    refine ⟨numbering, ?_, hnumbered, fun cell hmem =>
      hcells _ (List.mem_map.mpr ⟨cell, hmem, rfl⟩)⟩
    unfold encodePaletteIndices
    rw [hfold]
    rfl

/-! ### What is read of a subchunk -/

theorem paletteBits_spec {count : Nat} (h : count ≤ 2 ^ 16) :
    paletteBits count ∈ VALID_BITS ∧ count ≤ 2 ^ paletteBits count := by
  unfold paletteBits
  cases hfind : VALID_BITS.find? fun bits => decide (max count 1 ≤ 2 ^ bits) with
  | none =>
    have hlast := List.find?_eq_none.mp hfind 16 (by decide)
    exact absurd (by simpa using h) hlast
  | some bits =>
    have hfits := List.find?_some hfind
    rw [decide_eq_true_eq] at hfits
    exact ⟨List.mem_of_find?_eq_some hfind, Nat.le_trans (Nat.le_max_left _ _) hfits⟩

theorem validBits : ∀ bits ∈ VALID_BITS, 0 < bits ∧ 32 / bits * bits ≤ 32 ∧
    16 * 16 * 16 ≤ 32 / bits * ((16 * 16 * 16 + 32 / bits - 1) / (32 / bits)) ∧
    (UInt8.ofNat (bits <<< 1)).toNat / 2 = bits := by
  decide

theorem reads_word (value : BitVec 32) : Reads word (leBytes 4 value.toNat) value := by
  have hread : Reads word (leBytes 4 value.toNat ++ [])
      (BitVec.ofNat 32 (leValue (leBytes 4 value.toNat))) :=
    (reads_bytes (length_leBytes 4 value.toNat)).bind (Reads.pure _)
  rwa [List.append_nil, leValue_leBytes 4 _ (by have := value.isLt; omega), BitVec.ofNat_toNat,
    BitVec.setWidth_eq] at hread

theorem length_packAligned {W : Nat} (width perWord count : Nat) (values : List (BitVec W)) :
    (packAligned width perWord count values).length = count := by
  induction count generalizing values with
  | zero => rfl
  | succ count ih => rw [packAligned, List.length_cons, ih]

theorem writeEntries_spec {toLeBytes : BedrockBlockPaletteEntry → Except String (List UInt8)}
    {readEntry : Layout BedrockBlockPaletteEntry} {entries : List BedrockBlockPaletteEntry}
    (h : ∀ entry ∈ entries, ∃ used, toLeBytes entry = .ok used ∧ Reads readEntry used entry) :
    ∃ used, writeEntries toLeBytes entries = .ok used ∧
      Reads (readEntry.collect entries.length) used entries := by
  induction entries with
  | nil => exact ⟨[], rfl, Reads.pure []⟩
  | cons entry entries ih =>
    obtain ⟨first, hfirst, hread⟩ := h entry List.mem_cons_self
    obtain ⟨rest, hrest, hreads⟩ := ih fun later hmem => h later (List.mem_cons_of_mem _ hmem)
    have hlast : Reads (do let values ← readEntry.collect entries.length; pure (entry :: values))
        (rest ++ []) (entry :: entries) := hreads.bind (Reads.pure _)
    rw [List.append_nil] at hlast
    refine ⟨first ++ rest, ?_, hread.bind hlast⟩
    rw [writeEntries, hfirst]
    show (writeEntries toLeBytes entries).map _ = _
    rw [hrest]
    rfl

/-- The bytes of a subchunk are read as its header and the block of each of its cells. -/
def SubchunkUnpacks (toLeBytes : BedrockBlockPaletteEntry → Except String (List UInt8))
    (readEntry : Layout BedrockBlockPaletteEntry) (written : List UInt8) (sectionIndex : Int)
    (chunk : Option ChunkSection) : Prop :=
  ∃ added subchunk,
    writeSubchunk toLeBytes written sectionIndex chunk = some (.ok (written ++ added)) ∧
    Reads (readSubchunk readEntry) added subchunk ∧
    subchunk.version = SUBCHUNK_VERSION_LIMITLESS ∧ subchunk.layers = SUBCHUNK_LAYER_COUNT ∧
    subchunk.sectionIndex = UInt8.ofNat (toUnsigned 1 sectionIndex) ∧
    ∀ x y z : Nat, x < 16 → y < 16 → z < 16 →
      subchunk.block x y z =
        some ((chunk.bind fun found => found.getBlock x y z).getD (.new AIR))

theorem reads_subchunkEntries {chunk : Option ChunkSection} {numbering : Numbering}
    (h : Numbered chunk 4096 numbering)
    (hcells : ∀ cell ∈ subchunkCells, entryAt numbering (subchunkOffset cell.1 cell.2.1 cell.2.2) =
      some (bedrockPaletteEntry (subchunkBlock chunk cell))) {bits : Nat}
    (hbits : bits ∈ VALID_BITS) (hroom : numbering.2.entries.length ≤ 2 ^ bits) :
    Reads (subchunkEntries bits (packAligned bits (32 / bits)
        ((numbering.1.length + 32 / bits - 1) / (32 / bits)) (numbering.1.map (BitVec.ofNat 32)))
      numbering.2.entries) []
      (subchunkCells.map fun cell => bedrockPaletteEntry (subchunkBlock chunk cell)) := by
  obtain ⟨hpos, hfits, hwords, -⟩ := validBits bits hbits
  have hentries := h.entries
  have hvalue : ∀ number ∈ numbering.1, (BitVec.ofNat 32 number).toNat = number := by
    intro number hmem
    have hvalid := h.valid number hmem
    rw [BitVec.toNat_ofNat, Nat.mod_eq_of_lt (by omega)]
  have hsmall : ∀ value ∈ numbering.1.map (BitVec.ofNat 32), value.toNat < 2 ^ bits := by
    intro value hmem
    obtain ⟨number, hnumber, rfl⟩ := List.mem_map.mp hmem
    rw [hvalue number hnumber]
    exact Nat.lt_of_lt_of_le (h.valid number hnumber) hroom
  have hlength : (subchunkCells.map fun cell =>
      bedrockPaletteEntry (subchunkBlock chunk cell)).length = 16 * 16 * 16 := by
    rw [List.length_map]
    exact length_subchunkCells
  unfold subchunkEntries
  rw [mapM_range hlength]
  · exact Reads.pure _
  intro i entry hentry
  rw [List.getElem?_map, Option.map_eq_some_iff] at hentry
  obtain ⟨cell, hcell, rfl⟩ := hentry
  have hoffset : (List.range 4096)[i]? = some (subchunkOffset cell.1 cell.2.1 cell.2.2) := by
    rw [← subchunkCells_offsets, List.getElem?_map, hcell]
    rfl
  have hi : i < 4096 := length_subchunkCells ▸ (List.getElem?_eq_some_iff.mp hcell).1
  rw [List.getElem?_range hi, Option.some.injEq] at hoffset
  have hfound := hcells cell (List.mem_of_getElem? hcell)
  rw [← hoffset, entryAt, Option.bind_eq_some_iff] at hfound
  obtain ⟨number, hnumber, hnamed⟩ := hfound
  rw [packAligned_spec hpos hfits hsmall (by rw [List.length_map, h.cells]; exact hwords)
    (show (numbering.1.map (BitVec.ofNat 32))[i]? = some (BitVec.ofNat 32 number) by
      rw [List.getElem?_map, hnumber]; rfl),
    hvalue number (List.mem_of_getElem? hnumber)]
  exact hnamed

theorem subchunkUnpacks {toLeBytes : BedrockBlockPaletteEntry → Except String (List UInt8)}
    {readEntry : Layout BedrockBlockPaletteEntry} {chunk : Option ChunkSection}
    (hplain : PlainSection chunk)
    (hnbt : ∀ block, Used chunk block → ∃ used, toLeBytes (bedrockPaletteEntry block) = .ok used ∧
      Reads readEntry used (bedrockPaletteEntry block))
    (written : List UInt8) (sectionIndex : Int) :
    SubchunkUnpacks toLeBytes readEntry written sectionIndex chunk := by
  obtain ⟨numbering, hencode, hnumbered, hcells⟩ := encodePaletteIndices_spec hplain
  have hentries := hnumbered.entries
  obtain ⟨hbits, hroom⟩ := paletteBits_spec (show numbering.2.entries.length ≤ 2 ^ 16 by omega)
  obtain ⟨-, -, -, hheader⟩ := validBits _ hbits
  have hknown : ∀ entry ∈ numbering.2.entries, ∃ used, toLeBytes entry = .ok used ∧
      Reads readEntry used entry := by
    intro entry hmem
    obtain ⟨block, hblock, rfl⟩ := hnumbered.known entry hmem
    exact hnbt block hblock
  obtain ⟨used, hused, hreads⟩ := writeEntries_spec hknown
  have hcount : leValue (leBytes 4 numbering.2.entries.length) = numbering.2.entries.length :=
    leValue_leBytes 4 _ (by omega)
  have hwords := Reads.collect fun (value : BitVec 32)
    (_ : value ∈ packAligned (paletteBits numbering.2.entries.length)
      (32 / paletteBits numbering.2.entries.length)
      ((numbering.1.length + 32 / paletteBits numbering.2.entries.length - 1) /
        (32 / paletteBits numbering.2.entries.length))
      (numbering.1.map (BitVec.ofNat 32))) => reads_word value
  rw [List.map_id', length_packAligned, hnumbered.cells] at hwords
  have hentriesRead := reads_subchunkEntries hnumbered hcells hbits hroom
  rw [hnumbered.cells] at hentriesRead
  have hread : Reads (readSubchunk readEntry) _ _ :=
    (reads_u8 SUBCHUNK_VERSION_LIMITLESS).bind ((reads_u8 SUBCHUNK_LAYER_COUNT).bind
      ((reads_u8 (UInt8.ofNat (toUnsigned 1 sectionIndex))).bind
        ((reads_u8 (UInt8.ofNat (paletteBits numbering.2.entries.length <<< 1))).bind
          ((hheader.symm ▸ hwords).bind
            ((reads_bytes (length_leBytes 4 numbering.2.entries.length)).bind
              ((hcount.symm ▸ hreads).bind
                ((hheader.symm ▸ hentriesRead).bind (Reads.pure _))))))))
  refine ⟨_, _, ?_, hread, rfl, rfl, rfl, fun x y z hx hy hz => ?_⟩
  · unfold writeSubchunk writePackedIndices
    rw [hencode, Option.bind_eq_bind, Option.bind_some]
    show (narrow (2 ^ 32) numbering.2.entries.length).bind _ = _
    rw [narrow, if_pos (by omega), Option.bind_some, hused, hnumbered.cells, List.append_nil,
      List.append_nil, hheader]
    rfl
  · rw [Subchunk.block, List.getElem?_map, getElem?_subchunkCells hx hy hz]
    rfl

/-! ### All the encoders -/

/-- Every encoder of sections is inverted by its layout: the four of the Java versions agree with
    the block changes of their version, packed numbers are where their width puts them, and a
    subchunk has the blocks of its section. -/
theorem chunk_sections_unpack :
    (∀ (chunk : ChunkColumn) (includeBiomes : Bool), WellIndexed chunk →
      Unpacks je_1_7 chunk includeBiomes ∧ Unpacks je_1_8 chunk includeBiomes ∧
      Unpacks je_1_12 chunk includeBiomes ∧ Unpacks je_1_13_2 chunk includeBiomes) ∧
    (∀ (values : List (BitVec 64)) (width : Nat), 1 ≤ width → width ≤ 63 →
      (∀ value ∈ values, value.toNat < 2 ^ width) →
      ∃ words, packCompactedU64s values width = some words ∧
        ∀ (i : Nat) (value : BitVec 64), values[i]? = some value →
          extract words (i * width) width = value.toNat) ∧
    (∀ (toLeBytes : BedrockBlockPaletteEntry → Except String (List UInt8))
      (readEntry : Layout BedrockBlockPaletteEntry) (written : List UInt8) (sectionIndex : Int)
      (chunk : Option ChunkSection), PlainSection chunk →
      (∀ block, Used chunk block → ∃ used, toLeBytes (bedrockPaletteEntry block) = .ok used ∧
        Reads readEntry used (bedrockPaletteEntry block)) →
      SubchunkUnpacks toLeBytes readEntry written sectionIndex chunk) := by
  refine ⟨fun chunk includeBiomes h => ⟨unpacks_1_7 h includeBiomes, unpacks_1_8 h includeBiomes,
    unpacks_1_12 h includeBiomes, unpacks_1_13_2 h includeBiomes⟩,
    fun values width hlow hhigh hvalues => ?_,
    fun toLeBytes readEntry written sectionIndex chunk hplain hnbt =>
      subchunkUnpacks hplain hnbt written sectionIndex⟩
  obtain ⟨words, hpack, -, hextract⟩ :=
    packSpilling_spec (by omega) (Nat.le_trans hhigh (by decide)) hvalues
  exact ⟨words, hpack, hextract⟩

/-- A section with one block. -/
def oneStone : ChunkSection := (ChunkSection.new 0).setBlock 1 2 3 (some (.new STONE))

def ascii (text : String) : List UInt8 := text.toList.map fun c => UInt8.ofNat c.toNat

/-- An entry without states, in little-endian NBT. -/
def nbtOf (name : List UInt8) : List UInt8 :=
  ([0x0a, 0, 0, 8, 4, 0] ++ ascii "name") ++ (leBytes 2 name.length ++ (name ++
    ([0x0a, 6, 0] ++ ascii "states" ++ [0, 3, 7, 0] ++ ascii "version" ++ [0, 0, 0, 0, 0])))

def sampleToLeBytes (entry : BedrockBlockPaletteEntry) : Except String (List UInt8) :=
  if entry = bedrockPaletteEntry (.new AIR) ∨ entry = bedrockPaletteEntry (.new STONE) then
    .ok (nbtOf (ascii entry.name))
  else .error "not in the sample"

/-- The two entries of the sample differ in the lengths of their names. -/
def sampleReadEntry : Layout BedrockBlockPaletteEntry := do
  let _ ← bytes 10
  let length ← short
  let _ ← bytes (length + 25)
  pure (bedrockPaletteEntry (.new (if length = 13 then AIR else STONE)))

theorem sample_blocks (cell : Nat × Nat × Nat) :
    subchunkBlock (some oneStone) cell = .new AIR ∨
      subchunkBlock (some oneStone) cell = .new STONE := by
  have hblocks : oneStone.getBlock cell.1 cell.2.1 cell.2.2 =
      if flattenBlockIndex 1 2 3 = flattenBlockIndex cell.1 cell.2.1 cell.2.2 then
        some (.new STONE) else none := by
    show ((∅ : BTreeMap Nat BlockState).insert _ _)[_]? = _
    rw [BTreeMap.getElem?_insert_eq, Std.ExtTreeMap.getElem?_empty]
  unfold subchunkBlock
  rw [Option.bind_some, hblocks]
  split
  · exact .inr rfl
  · exact .inl rfl

theorem sample_reads {key : String} (h : key = AIR ∨ key = STONE) :
    ∃ used, sampleToLeBytes (bedrockPaletteEntry (.new key)) = .ok used ∧
      Reads sampleReadEntry used (bedrockPaletteEntry (.new key)) := by
  refine ⟨nbtOf (ascii key), if_pos (by rcases h with rfl | rfl <;> simp), ?_⟩
  have hlength : (ascii key).length = 13 ∨ (ascii key).length = 15 := by
    rcases h with rfl | rfl
    · exact .inl rfl
    · exact .inr rfl
  have hkey : (if (ascii key).length = 13 then AIR else STONE) = key := by
    rcases h with rfl | rfl <;> rfl
  have hhead : (([0x0a, 0, 0, 8, 4, 0] : List UInt8) ++ ascii "name").length = 10 := rfl
  have htail : (ascii key ++ ([0x0a, 6, 0] ++ ascii "states" ++ [0, 3, 7, 0] ++
      ascii "version" ++ [0, 0, 0, 0, 0])).length = (ascii key).length + 25 := by
    rw [List.length_append]
    rfl
  have hread : Reads sampleReadEntry (_ ++ (_ ++ (_ ++ []))) _ :=
    (reads_bytes hhead).bind ((reads_short (by omega)).bind ((reads_bytes htail).bind (Reads.pure _)))
  rw [hkey, List.append_nil] at hread
  exact hread

/-- The blocks of a column with that section only. -/
def oneStoneColumn : ChunkColumn :=
  { ChunkColumn.new ⟨0, 0⟩ with sections := (∅ : BTreeMap Int ChunkSection).insert 0 oneStone }

theorem mem_of_insert_empty {K V : Type} [Ord K] [Std.TransOrd K] [Std.LawfulEqOrd K] [DecidableEq K]
    {key : K} {value : V} {entry : K × V}
    (h : entry ∈ ((∅ : BTreeMap K V).insert key value).toList) : entry = (key, value) := by
  have hfound : ((∅ : BTreeMap K V).insert key value)[entry.1]? = some entry.2 :=
    BTreeMap.mem_toList.mp h
  rw [BTreeMap.getElem?_insert_eq, Std.ExtTreeMap.getElem?_empty] at hfound
  split at hfound
  next hsame => exact Prod.ext hsame.symm (Option.some.inj hfound).symm
  next => cases hfound

theorem wellIndexed_oneStoneColumn : WellIndexed oneStoneColumn := by
  intro entry hentry block hblock
  rw [mem_of_insert_empty hentry] at hblock
  rw [mem_of_insert_empty hblock]
  decide

theorem chunk_sections_unpack_stone :
    Unpacks je_1_13_2 oneStoneColumn true ∧
    (∃ words, packCompactedU64s [5, 8000] 13 = some words ∧
      ∀ (i : Nat) (value : BitVec 64), ([5, 8000] : List (BitVec 64))[i]? = some value →
        extract words (i * 13) 13 = value.toNat) ∧
    SubchunkUnpacks sampleToLeBytes sampleReadEntry [] (-4) (some oneStone) := by
  have hstone : Plain (.new STONE) := plain_new (by unfold Unmarked; decide)
  have hvalues : ∀ value ∈ ([5, 8000] : List (BitVec 64)), value.toNat < 2 ^ 13 := by
    rintro value (_ | ⟨_, _ | ⟨_, hmem⟩⟩)
    · exact Nat.lt_of_lt_of_le (show 5 < 6 by decide) (by decide)
    · exact (show 8000 < 8192 by decide)
    · cases hmem
  refine ⟨(chunk_sections_unpack.1 _ true wellIndexed_oneStoneColumn).2.2.2,
    chunk_sections_unpack.2.1 [5, 8000] 13 (by decide) (by decide) hvalues,
    chunk_sections_unpack.2.2 _ _ [] (-4) (some oneStone) (fun cell _ => ?_) fun block hused => ?_⟩
  · rcases sample_blocks cell with h | h <;> rw [h]
    · exact plain_air
    · exact hstone
  · have hblock : block = .new AIR ∨ block = .new STONE := by
      rcases hused with h | ⟨cell, -, h⟩
      · exact .inl h
      · exact h ▸ sample_blocks cell
    rcases hblock with rfl | rfl
    · exact sample_reads (.inl rfl)
    · exact sample_reads (.inr rfl)

end RevyCraft.BedrockSubchunk
