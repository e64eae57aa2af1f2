/-
  RevyCraft/ChunkLayouts.lean
  ===========================
  **What the Java versions write of a chunk is read back cell by cell.**

  A section is read from the bytes that its encoder wrote (`SectionRead`), by one
  lemma for each of the four layouts; a column is then read section by section, since
  the bitmap lists the sections in the order in which they are written
  (`unpacks_of_section`).
-/
import RevyCraft.ChunkSections

namespace RevyCraft.ChunkSections

open Bytes Readers SlotNbt SlotCodec Catalog Canonical MinecraftWireCodec PackedBits

/-! ### Loops that store -/

section Stores

variable {σ β γ : Type} {step : σ → Nat × β → Option σ} {get : σ → Nat → Option γ} {f : β → γ}

/-- One round stores a value under its index; the invariant may count the rounds. -/
def Stores (step : σ → Nat × β → Option σ) (get : σ → Nat → Option γ) (f : β → γ)
    (Inv : Nat → σ → Prop) (Fits : Nat → Nat × β → Prop) : Prop :=
  ∀ count state index value, Inv count state → Fits count (index, value) →
    ∃ state', step state (index, value) = some state' ∧ Inv (count + 1) state' ∧
      get state' index = some (f value) ∧ ∀ i, i ≠ index → get state' i = get state i

theorem Stores.run {Inv : Nat → σ → Prop} {Fits : Nat → Nat × β → Prop}
    (hstep : Stores step get f Inv Fits) {entries : List (Nat × β)} (count : Nat) {state : σ}
    (hinv : Inv count state) (hnodup : (entries.map Prod.fst).Nodup)
    (hfits : ∀ entry ∈ entries, ∀ i, i < count + entries.length → Fits i entry) :
    ∃ state', entries.foldlM step state = some state' ∧ Inv (count + entries.length) state' ∧
      (∀ entry ∈ entries, get state' entry.1 = some (f entry.2)) ∧
      ∀ i, i ∉ entries.map Prod.fst → get state' i = get state i := by
  induction entries generalizing count state with
  | nil => exact ⟨state, rfl, hinv, by simp, fun i _ => rfl⟩
  | cons entry entries ih =>
    rw [List.map_cons, List.nodup_cons] at hnodup
    have hcount : count + (entry :: entries).length = count + 1 + entries.length := by
      rw [List.length_cons]
      omega
    obtain ⟨middle, hmiddle, hinv', hstored, hothers⟩ := hstep count state entry.1 entry.2 hinv
      (hfits entry List.mem_cons_self count (by omega))
    obtain ⟨state', hfold, hinv'', hrest, hkept⟩ := ih (count + 1) hinv' hnodup.2 fun later hmem i hi =>
      hfits later (List.mem_cons_of_mem _ hmem) i (by omega)
    refine ⟨state', ?_, hcount ▸ hinv'', ?_, fun i hi => ?_⟩
    · rw [List.foldlM_cons]
      show (step state (entry.1, entry.2)).bind _ = _
      rw [hmiddle]
      exact hfold
    · rintro later (_ | ⟨_, hmem⟩)
      · rw [hkept entry.1 hnodup.1, hstored]
      · exact hrest later hmem
    · rw [List.map_cons, List.mem_cons, not_or] at hi
      rw [hkept i hi.2, hothers i hi.1]

end Stores

variable {γ : Type} {value count : Nat} {chunk : ChunkColumn}

theorem foldlM_blocks {σ : Type} {step : σ → Nat × BlockState → Option σ} {get : σ → Nat → Option γ}
    {f : BlockState → γ} {Inv : σ → Prop} {absent : γ}
    (hstep : Stores step get f (fun _ => Inv) fun _ entry => entry.1 < 4096) {state : σ}
    (hinv : Inv state) (habsent : ∀ i, i < 4096 → get state i = some absent) {chunk : ChunkSection}
    (hindexed : ∀ block ∈ chunk.blocks.toList, block.1 < 4096) :
    ∃ state', chunk.blocks.toList.foldlM step state = some state' ∧ Inv state' ∧
      ∀ i, i < 4096 → get state' i = some ((chunk.blocks[i]?.map f).getD absent) := by
  obtain ⟨state', hfold, hinv', hstored, hothers⟩ :=
    hstep.run 0 hinv (BTreeMap.nodup_keys chunk.blocks) fun entry hmem _ _ => hindexed entry hmem
  refine ⟨state', hfold, hinv', fun i hi => ?_⟩
  cases hblock : chunk.blocks[i]? with
  | some block =>
    have hmem : (i, block) ∈ chunk.blocks.toList := BTreeMap.mem_toList.mpr hblock
    simpa using hstored (i, block) hmem
  | none =>
    have hnot : i ∉ chunk.blocks.toList.map Prod.fst := by
      intro hmem
      obtain ⟨⟨index, block⟩, hentry, rfl⟩ := List.mem_map.mp hmem
      rw [BTreeMap.mem_toList.mp hentry] at hblock
      cases hblock
    rw [hothers i hnot, habsent i hi]
    rfl

theorem assign_spec {α : Type} {values : List α} {index : Nat} (value : α)
    (h : index < values.length) :
    ∃ values', assign values index value = some values' ∧ values'.length = values.length ∧
      values'[index]? = some value ∧ ∀ i, i ≠ index → values'[i]? = values[i]? := by
  refine ⟨values.set index value, if_pos h, List.length_set, by simp [h], fun i hi => ?_⟩
  rw [List.getElem?_set_ne (Ne.symm hi)]

theorem blockStates_spec (id : BlockState → Nat) {chunk : ChunkSection}
    (hindexed : ∀ block ∈ chunk.blocks.toList, block.1 < 4096) :
    ∃ states, blockStates id chunk = some states ∧ states.length = 4096 ∧
      ∀ i, i < 4096 → states[i]? = some ((chunk.blocks[i]?.map id).getD 0) := by
  have hstep : Stores (fun states entry => assign states entry.1 (id entry.2))
      (fun (states : List Nat) i => states[i]?) id (fun _ states => states.length = 4096)
      fun _ entry => entry.1 < 4096 := by
    intro _ states index value hlength hindex
    obtain ⟨states', hassign, hsame, hstored, hothers⟩ :=
      assign_spec (id value) (show index < states.length from hlength ▸ hindex)
    exact ⟨states', hassign, hsame.trans hlength, hstored, hothers⟩
  refine foldlM_blocks hstep List.length_replicate (fun i hi => ?_) hindexed
  rw [List.getElem?_replicate, if_pos hi]

/-! ### Nibbles -/

theorem nibble_bytes : ∀ old : Fin 256, ∀ value : Fin 16,
    (UInt8.ofNat old.val &&& (0xf0 : UInt8) ||| UInt8.ofNat value.val &&& (0x0f : UInt8)).toNat =
      old.val / 16 * 16 + value.val ∧
    (UInt8.ofNat old.val &&& (0x0f : UInt8) |||
      (UInt8.ofNat value.val &&& (0x0f : UInt8)) <<< (4 : UInt8)).toNat =
      value.val * 16 + old.val % 16 := by
  decide +kernel

theorem nibbleAt_setNibble {target : List UInt8} {index : Nat} (hindex : index / 2 < target.length)
    (hvalue : value < 16) : nibbleAt (LegacyAnvil.setNibble target index value) index = value ∧
      ∀ i, i ≠ index → nibbleAt (LegacyAnvil.setNibble target index value) i = nibbleAt target i := by
  obtain ⟨old, hold⟩ : ∃ old, target[index / 2]? = some old :=
    ⟨_, List.getElem?_eq_getElem hindex⟩
  obtain ⟨hlow, hhigh⟩ := nibble_bytes ⟨old.toNat, old.toNat_lt⟩ ⟨value, hvalue⟩
  simp only [UInt8.ofNat_toNat] at hlow hhigh
  have hbyte : ∀ i, i / 2 = index / 2 → nibbleAt (LegacyAnvil.setNibble target index value) i =
      if index % 2 = 0 then
        if i % 2 = 0 then value else old.toNat / 16
      else if i % 2 = 0 then old.toNat % 16 else value := by
    intro i hi
    unfold nibbleAt LegacyAnvil.setNibble
    simp only [List.getElem?_modify, hi, hold, if_true, Option.map_eq_map, Option.map_some,
      Option.getD_some]
    have holdlt := old.toNat_lt
    by_cases heven : index % 2 = 0 <;> by_cases heven' : i % 2 = 0 <;>
      simp only [heven, heven', if_true, if_false, hlow, hhigh] <;> omega
  refine ⟨by rw [hbyte index rfl]; split <;> simp_all, fun i hi => ?_⟩
  by_cases hsame : i / 2 = index / 2
  · have hother : ¬ (i % 2 = index % 2) := by omega
    rw [hbyte i hsame, nibbleAt, hsame, hold, Option.getD_some]
    by_cases heven : index % 2 = 0 <;> by_cases heven' : i % 2 = 0 <;>
      first | (exfalso; omega) | simp [heven, heven']
  · unfold nibbleAt LegacyAnvil.setNibble
    simp only [List.getElem?_modify, if_neg (Ne.symm hsame), Option.map_eq_map, Option.map_id']

/-! ### The parts of a section -/

theorem reads_bytes {used : List UInt8} (h : used.length = count) : Reads (bytes count) used used :=
  (fixedWidth_readBytes count).reads h

theorem length_light : light.length = 4096 := by
  rw [light, List.length_append, List.length_replicate, List.length_replicate]

theorem toUInt32_ofNat (h : value < 2 ^ 31) : (Int32.ofNat value).toUInt32.toNat = value := by
  show (UInt32.ofNat value).toNat = value
  rw [UInt32.toNat_ofNat_of_lt' (by rw [UInt32.size]; omega)]

theorem writeVarintToVec_eq (value : UInt32) :
    writeVarintToVec value.toNat = writeVarintLoop value := by
  induction h : value.toNat using Nat.strongRecOn generalizing value with
  | ind n ih =>
    rw [writeVarintLoop_eq, writeVarintToVec, h]
    by_cases hlast : n < 128
    · rw [if_pos hlast, if_pos hlast]
    · rw [if_neg hlast, if_neg hlast, ← ih (n / 128) (by omega) (value >>> 7) (by
        rw [shift_toNat, h])]

theorem reads_writeVarint (h : value < 2 ^ 31) :
    Reads varNat (writeVarint (Int32.ofNat value)) value := by
  have hint : (Int32.ofNat value).toInt = value := Int32.toInt_ofNat_of_lt h
  rw [← List.append_nil (writeVarint _)]
  refine (reads_varint (Int32.ofNat value)).bind ?_
  rw [hint, if_neg (by omega)]
  exact Reads.pure value

theorem reads_varNat (h : value < 2 ^ 31) : Reads varNat (writeVarintToVec value) value := by
  have hwritten : writeVarintToVec value = writeVarint (Int32.ofNat value) := by
    rw [writeVarint, ← writeVarintToVec_eq, toUInt32_ofNat h]
  rw [hwritten]
  exact reads_writeVarint h

theorem reads_short (h : value < 2 ^ 16) : Reads short (leBytes 2 value) value := by
  have hread : Reads short (leBytes 2 value ++ []) (leValue (leBytes 2 value)) :=
    (reads_bytes (length_leBytes 2 value)).bind (Reads.pure _)
  rwa [List.append_nil, leValue_leBytes 2 value (by omega)] at hread

theorem reads_long (value : BitVec 64) : Reads long (beBytes 8 value.toNat) value := by
  have hread : Reads long (beBytes 8 value.toNat ++ [])
      (BitVec.ofNat 64 (beValue (beBytes 8 value.toNat))) :=
    (reads_bytes (length_beBytes 8 value.toNat)).bind (Reads.pure _)
  rwa [List.append_nil, beValue_beBytes 8 _ (by have := value.isLt; omega), BitVec.ofNat_toNat,
    BitVec.setWidth_eq] at hread

theorem reads_palette {entries : List Nat} (hlength : entries.length < 2 ^ 31)
    (hentries : ∀ entry ∈ entries, entry < 2 ^ 31) :
    Reads palette (writePalette entries) entries := by
  have hread := Reads.collect fun entry hmem => reads_varNat (hentries entry hmem)
  rw [List.map_id'] at hread
  exact (reads_varNat hlength).bind hread

theorem reads_dataArray {longs : List (BitVec 64)} (hlength : longs.length < 2 ^ 31) :
    Reads dataArray (writeDataArray longs) longs := by
  have hread := Reads.collect fun (value : BitVec 64) (_ : value ∈ longs) => reads_long value
  rw [List.map_id'] at hread
  exact (reads_varNat hlength).bind hread

theorem mapM_eq_some {α β : Type} {f : α → Option β} {xs : List α} {ys : List β}
    (h : xs.map f = ys.map some) : xs.mapM f = some ys := by
  induction xs generalizing ys with
  | nil =>
    cases ys with
    | nil => rfl
    | cons y ys => cases h
  | cons x xs ih =>
    cases ys with
    | nil => cases h
    | cons y ys =>
      rw [List.map_cons, List.map_cons, List.cons.injEq] at h
      rw [List.mapM_cons, h.1, ih h.2]
      rfl

theorem mapM_range {f : Nat → Option γ} {found : List γ} (hlength : found.length = count)
    (h : ∀ (i : Nat) (value : γ), found[i]? = some value → f i = some value) :
    (List.range count).mapM f = some found := by
  apply mapM_eq_some
  apply List.ext_getElem (by simp [hlength])
  intro i hi hi'
  rw [List.getElem_map, List.getElem_map, List.getElem_range]
  exact h i _ (List.getElem?_eq_getElem _)

theorem reads_cells {bits : Nat} {longs : List (BitVec 64)} {id : Nat → Option Nat}
    {ids : List Nat} (hlength : ids.length = 4096)
    (h : ∀ (i value : Nat), ids[i]? = some value → id (extract longs (i * bits) bits) = some value) :
    Reads (cells bits longs id) [] ids := by
  unfold cells
  rw [mapM_range hlength h]
  exact Reads.pure ids

/-! ### The four layouts -/

def SectionRead {γ : Type} (encodeSection : ChunkSection → Option (List UInt8))
    (layout : Layout (List γ)) (id : BlockState → γ) (absent : γ) : Prop :=
  ∀ chunk : ChunkSection, (∀ block ∈ chunk.blocks.toList, block.1 < 4096) →
    ∃ written cells, encodeSection chunk = some written ∧ Reads layout written cells ∧
      ∀ i, i < 4096 → cells[i]? = some ((chunk.blocks[i]?.map id).getD absent)

/-- A cell of the two arrays of 1.7. -/
def legacyCell (arrays : List UInt8 × List UInt8) (i : Nat) : Option (Nat × Nat) :=
  (arrays.1[i]?).map fun byte => (byte.toNat, nibbleAt arrays.2 i)

theorem stores_assignLegacy : Stores assignLegacy legacyCell legacyBlock
    (fun _ arrays => arrays.1.length = 4096 ∧ arrays.2.length = 2048)
    fun _ entry => entry.1 < 4096 := by
  intro _ arrays index state hlength hindex
  have hindex : index < 4096 := hindex
  have hid := legacyBlock_lt state
  obtain ⟨blocks, hassign, hsame, hstored, hothers⟩ :=
    assign_spec (UInt8.ofNat (legacyBlock state).1) (show index < arrays.1.length by omega)
  have hmeta : (legacyBlock state).2 < 16 := Nat.zero_lt_succ 15
  obtain ⟨hnibble, hnibbles⟩ :=
    nibbleAt_setNibble (show index / 2 < arrays.2.length by omega) hmeta
  refine ⟨(blocks, LegacyAnvil.setNibble arrays.2 index (legacyBlock state).2), ?_,
    ⟨hsame.trans hlength.1, by simp [LegacyAnvil.setNibble, hlength.2]⟩, ?_, fun i hi => ?_⟩
  · show (narrow 256 (legacyBlock state).1).bind _ = _
    rw [narrow, if_pos hid, Option.bind_some, hassign]
    rfl
  · simp only [legacyCell, hstored, Option.map_some, hnibble]
    rw [UInt8.toNat_ofNat_of_lt' (by rw [UInt8.size]; omega)]
  · simp only [legacyCell, hothers i hi, hnibbles i hi]

theorem sectionRead_1_7 : SectionRead encodeSection_1_7 layout_1_7 legacyBlock (0, 0) := by
  intro chunk hindexed
  have hempty : ∀ i, i < 4096 →
      legacyCell (List.replicate 4096 0, List.replicate 2048 0) i = some (0, 0) := by
    intro i hi
    have hbyte : i / 2 < 2048 := by omega
    simp only [legacyCell, nibbleAt, List.getElem?_replicate, hi, hbyte, if_true, Option.map_some,
      Option.getD_some]
    split <;> rfl
  obtain ⟨arrays, hfold, ⟨hblocks, hmetadata⟩, hcells⟩ := foldlM_blocks stores_assignLegacy
    ⟨List.length_replicate, List.length_replicate⟩ hempty hindexed
  refine ⟨arrays.1 ++ (arrays.2 ++ (light ++ [])), _, ?_,
    (reads_bytes hblocks).bind ((reads_bytes hmetadata).bind
      ((reads_bytes length_light).bind (Reads.pure _))), fun i hi => ?_⟩
  · unfold encodeSection_1_7
    rw [hfold, List.append_nil, ← List.append_assoc]
    rfl
  · obtain ⟨byte, hbyte⟩ : ∃ byte, arrays.1[i]? = some byte :=
      ⟨_, List.getElem?_eq_getElem (by omega)⟩
    rw [← hcells i hi, List.getElem?_map, List.getElem?_range hi, legacyCell, Option.map_some, hbyte]
    rfl

theorem legacyBlockStateId_lt (state : BlockState) : legacyBlockStateId state < 2 ^ 16 := by
  have hid := legacyBlock_lt state
  have hmeta : (legacyBlock state).2 = 0 := rfl
  rw [legacyBlockStateId, hmeta, Nat.or_zero, Nat.shiftLeft_eq]
  omega

theorem sectionRead_1_8 : SectionRead encodeSection_1_8 layout_1_8 legacyBlockStateId 0 := by
  intro chunk hindexed
  obtain ⟨states, hstates, hlength, hcells⟩ := blockStates_spec legacyBlockStateId hindexed
  have hsmall : ∀ state ∈ states, state < 2 ^ 16 := by
    intro state hmem
    obtain ⟨i, hi⟩ := List.mem_iff_getElem?.mp hmem
    have hbound := (List.getElem?_eq_some_iff.mp hi).1
    rw [hcells i (by omega), Option.some.injEq] at hi
    subst hi
    cases chunk.blocks[i]? with
    | none => exact Nat.two_pow_pos 16
    | some block => exact legacyBlockStateId_lt block
  have hread := Reads.collect fun state hmem => reads_short (hsmall state hmem)
  rw [List.map_id', hlength] at hread
  refine ⟨states.flatMap (leBytes 2) ++ (light ++ []), states, ?_,
    hread.bind ((reads_bytes length_light).bind (Reads.pure states)), hcells⟩
  have hstep : (fun (states : List Nat) (entry : Nat × BlockState) => do
      assign states entry.1 (← narrow (2 ^ 16) (legacyBlockStateId entry.2))) =
      fun states entry => assign states entry.1 (legacyBlockStateId entry.2) := by
    funext states entry
    show (narrow (2 ^ 16) (legacyBlockStateId entry.2)).bind _ = _
    rw [narrow, if_pos (legacyBlockStateId_lt entry.2)]
    rfl
  unfold encodeSection_1_8
  unfold blockStates at hstates
  rw [hstep, hstates, List.append_nil]
  rfl

/-- The ids that a table gives, and that of every other block. -/
def idsOf (table : List (String × Nat)) : List Nat := 0 :: table.map Prod.snd

theorem lookup_mem_idsOf (table : List (String × Nat)) (key : String) :
    (table.lookup key).getD 0 ∈ idsOf table := by
  cases hid : table.lookup key with
  | none => exact List.mem_cons_self
  | some id =>
    obtain ⟨before, after, rfl, -⟩ := List.lookup_eq_some_iff.mp hid
    simp [idsOf]

theorem packStates_spec {all : List Nat} (hzero : 0 ∈ all) {states : List Nat}
    (hstates : ∀ state ∈ states, state ∈ all) :
    (packStates states).1.length = states.length ∧
      (packStates states).2.entries.length ≤ all.length ∧
      (∀ value ∈ (packStates states).2.entries, value ∈ all) ∧
      ∀ (i state : Nat), states[i]? = some state → ∃ number, (packStates states).1[i]? = some number ∧
        (packStates states).2.entries[number]? = some state := by
  have hnumbers : Palette.Numbers id id (fun _ => True) (⟨[0], [(0, 0)]⟩ : Palette Nat Nat) := by
    intro item _ number hlookup
    rw [List.lookup_cons] at hlookup
    split at hlookup
    next hsame =>
      have hitem : item = 0 := beq_iff_eq.mp hsame
      subst hitem
      rw [← Option.some.inj hlookup]
      rfl
    next => cases hlookup
  have hdistinct : Palette.Distinct (⟨[0], [(0, 0)]⟩ : Palette Nat Nat) :=
    ⟨List.nodup_singleton 0, fun value hmem => by rw [List.mem_singleton.mp hmem]; decide⟩
  obtain ⟨hlength, -, hindices⟩ := Palette.internAll_spec id id
    (fun a b _ _ hkey => hkey) hnumbers fun (state : Nat) (_ : state ∈ states) => trivial
  obtain ⟨hcount, hmem⟩ := Palette.length_internAll hdistinct
    (fun value hvalue => by rwa [List.mem_singleton.mp hvalue]) hstates
  exact ⟨hlength, hcount, hmem, hindices⟩

theorem bitsPerBlock_le (h : count ≤ 256) : bitsPerBlock count ≤ 8 := by
  have hpow : max count 1 ≤ 2 ^ 8 := by omega
  have hclog : Nat.clog 2 (max count 1) ≤ 8 := Nat.clog_le_of_le_pow hpow
  unfold bitsPerBlock
  omega

theorem le_pow_bitsPerBlock (count : Nat) : count ≤ 2 ^ bitsPerBlock count :=
  calc count ≤ max count 1 := Nat.le_max_left _ _
    _ ≤ 2 ^ Nat.clog 2 (max count 1) := Nat.le_pow_clog (by decide) _
    _ ≤ 2 ^ bitsPerBlock count := Nat.pow_le_pow_right (by decide) (Nat.le_max_left _ _)

theorem sectionRead_paletted (table : List (String × Nat)) {stateId : BlockState → Nat}
    (hid : ∀ state, stateId state ∈ idsOf table) (hcount : (idsOf table).length < 256)
    (hsmall : ∀ id ∈ idsOf table, id < 2 ^ 31) {layout : Layout (List Nat)}
    (hlayout : ∀ (bits : UInt8) used ids, bits.toNat ≤ 8 → Reads (palettedCells bits.toNat) used ids →
      Reads layout ([bits] ++ used) ids) :
    SectionRead (encodePalettedSection stateId) layout stateId 0 := by
  intro chunk hindexed
  obtain ⟨states, hstates, hlength, hcells⟩ := blockStates_spec stateId hindexed
  have hzero : 0 ∈ idsOf table := List.mem_cons_self
  have hall : ∀ state ∈ states, state ∈ idsOf table := by
    intro state hmem
    obtain ⟨i, hi⟩ := List.mem_iff_getElem?.mp hmem
    have hbound := (List.getElem?_eq_some_iff.mp hi).1
    rw [hcells i (by omega), Option.some.injEq] at hi
    subst hi
    cases chunk.blocks[i]? with
    | none => exact hzero
    | some block => exact hid block
  obtain ⟨hpacked, hentries, hmembers, hnumbers⟩ := packStates_spec hzero hall
  have hbits : bitsPerBlock (packStates states).2.entries.length ≤ 8 := bitsPerBlock_le (by omega)
  have hfour : 4 ≤ bitsPerBlock (packStates states).2.entries.length := Nat.le_max_right _ _
  have hnumber : ∀ i number : Nat, (packStates states).1[i]? = some number →
      number < (packStates states).2.entries.length := by
    intro i number hi
    have hbound := (List.getElem?_eq_some_iff.mp hi).1
    obtain ⟨number', hi', hentry⟩ := hnumbers i _ (List.getElem?_eq_getElem (by omega))
    rw [hi, Option.some.injEq] at hi'
    subst hi'
    exact (List.getElem?_eq_some_iff.mp hentry).1
  have hfits : ∀ value ∈ (packStates states).1.map (BitVec.ofNat 64),
      value.toNat < 2 ^ bitsPerBlock (packStates states).2.entries.length := by
    intro value hmem
    obtain ⟨number, hnum, rfl⟩ := List.mem_map.mp hmem
    obtain ⟨i, hi⟩ := List.mem_iff_getElem?.mp hnum
    have hlt := hnumber i number hi
    rw [BitVec.toNat_ofNat, Nat.mod_eq_of_lt (by omega)]
    exact Nat.lt_of_lt_of_le hlt (le_pow_bitsPerBlock _)
  obtain ⟨longs, hpack, hlongs, hextract⟩ := packSpilling_spec (by omega) (by omega) hfits
  have hbyte : (UInt8.ofNat (bitsPerBlock (packStates states).2.entries.length)).toNat =
      bitsPerBlock (packStates states).2.entries.length :=
    UInt8.toNat_ofNat_of_lt' (by rw [UInt8.size]; omega)
  have hread : Reads (cells (bitsPerBlock (packStates states).2.entries.length) longs
      fun number => (packStates states).2.entries[number]?) [] states := by
    refine reads_cells hlength fun i state hi => ?_
    obtain ⟨number, hnum, hentry⟩ := hnumbers i state hi
    have hlt := hnumber i number hnum
    rw [hextract i (BitVec.ofNat 64 number) (by rw [List.getElem?_map, hnum]; rfl),
      BitVec.toNat_ofNat, Nat.mod_eq_of_lt (by omega)]
    exact hentry
  refine ⟨[UInt8.ofNat (bitsPerBlock (packStates states).2.entries.length)] ++
      (writePalette (packStates states).2.entries ++ (writeDataArray longs ++ (light ++ []))),
    states, ?_, ?_, hcells⟩
  · show (blockStates stateId chunk).bind _ = _
    rw [hstates, Option.bind_some]
    show (narrow 256 _).bind _ = _
    rw [narrow, if_pos (by omega), Option.bind_some]
    show (packCompactedU64s _ _).bind _ = _
    rw [packCompactedU64s, hpack, List.append_nil, ← List.append_assoc (writePalette _)]
    rfl
  · refine hlayout _ _ _ (by omega) ((reads_palette (by omega) fun entry hmem =>
      hsmall entry (hmembers entry hmem)).bind ((reads_dataArray ?_).bind
        ((reads_bytes length_light).bind ?_)))
    · rw [hlongs, List.length_map, hpacked, hlength]
      omega
    · rw [hbyte]
      exact hread

theorem legacyBlockStateId_mem (state : BlockState) :
    legacyBlockStateId state ∈ idsOf (legacyBlockIds.map fun entry => (entry.1, entry.2 * 16)) := by
  have hmeta : (legacyBlock state).2 = 0 := rfl
  rw [legacyBlockStateId, hmeta, Nat.or_zero, Nat.shiftLeft_eq]
  rcases List.mem_cons.mp (lookup_mem_idsOf legacyBlockIds state.key) with hnone | hsome
  · have hzero : (legacyBlock state).1 = 0 := hnone
    rw [hzero]
    exact List.mem_cons_self
  · obtain ⟨entry, hentry, hid⟩ := List.mem_map.mp hsome
    have hid : entry.2 = (legacyBlock state).1 := hid
    rw [← hid]
    exact List.mem_cons_of_mem _ (List.mem_map.mpr ⟨(entry.1, entry.2 * 16),
      List.mem_map.mpr ⟨entry, hentry, rfl⟩, rfl⟩)

theorem sectionRead_1_12 : SectionRead encodeSection_1_12 layout_1_12 legacyBlockStateId 0 :=
  sectionRead_paletted _ legacyBlockStateId_mem (by decide) (by decide)
    fun bits _ _ _ hread => (reads_u8 bits).bind hread

theorem encodeSection_1_13_2_eq (chunk : ChunkSection) :
    encodeSection_1_13_2 chunk = encodePalettedSection flattenedBlockStateId_1_13_2 chunk := by
  unfold encodeSection_1_13_2 encodePalettedSection
  cases blockStates flattenedBlockStateId_1_13_2 chunk with
  | none => rfl
  | some states =>
    simp only [Option.bind_eq_bind, Option.bind_some]
    by_cases hcount : (packStates states).2.entries.length < 256
    · rw [narrow, if_pos hcount, Option.bind_some, Option.bind_some,
        if_neg (Nat.not_lt.mpr (bitsPerBlock_le (by omega)))]
    · rw [narrow, if_neg hcount]
      rfl

theorem sectionRead_1_13_2 :
    SectionRead encodeSection_1_13_2 layout_1_13_2 flattenedBlockStateId_1_13_2 0 := by
  intro chunk hindexed
  rw [encodeSection_1_13_2_eq]
  refine sectionRead_paletted flattenedBlockIds
    (fun state => lookup_mem_idsOf flattenedBlockIds state.key) (by decide) (by decide)
    (fun bits used ids hbits hread => (reads_u8 bits).bind ?_) chunk hindexed
  rw [if_pos hbits]
  exact hread

/-! ### The sections of a column -/

/-- A section that is written. -/
def sent (entry : Int × ChunkSection) : Bool :=
  decide (0 ≤ entry.1 ∧ entry.1 < 16) && !entry.2.isEmpty

theorem foldlM_addSection {encodeSection : ChunkSection → Option (List UInt8)}
    (written : ChunkSection → List UInt8) {entries : List (Int × ChunkSection)}
    (h : ∀ entry ∈ entries, encodeSection entry.2 = some (written entry.2))
    (built : Nat × List UInt8) :
    ∃ bitMap, entries.foldlM (addSection encodeSection) built =
        some (bitMap, built.2 ++ (entries.filter sent).flatMap fun entry => written entry.2) ∧
      ∀ y, bitMap.testBit y =
        (built.1.testBit y || decide (y ∈ (entries.filter sent).map fun entry => entry.1.toNat)) := by
  induction entries generalizing built with
  | nil => exact ⟨built.1, by simp, by simp⟩
  | cons entry entries ih =>
    have hrest := fun later hmem => h later (List.mem_cons_of_mem entry hmem)
    by_cases hsent : sent entry = true
    · have hstep : addSection encodeSection built entry =
          some (built.1 ||| 1 <<< entry.1.toNat, built.2 ++ written entry.2) := by
        rw [sent, Bool.and_eq_true, decide_eq_true_eq, Bool.not_eq_true'] at hsent
        rw [addSection, if_neg (by simp [hsent]), h entry List.mem_cons_self]
        rfl
      obtain ⟨bitMap, hfold, hbits⟩ :=
        ih hrest (built.1 ||| 1 <<< entry.1.toNat, built.2 ++ written entry.2)
      refine ⟨bitMap, ?_, fun y => ?_⟩
      · rw [List.foldlM_cons, hstep, List.filter_cons_of_pos hsent, List.flatMap_cons,
          ← List.append_assoc]
        exact hfold
      · rw [hbits, List.filter_cons_of_pos hsent, List.map_cons, Nat.testBit_or,
          Nat.one_shiftLeft, Nat.testBit_two_pow, Bool.or_assoc]
        rw [← Bool.decide_or]
        congr 1
        exact decide_eq_decide.mpr (by rw [List.mem_cons, eq_comm])
    · have hstep : addSection encodeSection built entry = some built := by
        rw [sent, Bool.and_eq_true, decide_eq_true_eq, Bool.not_eq_true', not_and_or,
          Bool.not_eq_false] at hsent
        rw [addSection, if_pos hsent]
      rw [List.foldlM_cons, hstep, List.filter_cons_of_neg hsent]
      exact ih hrest built

theorem filter_range_eq {test : Nat → Bool} {ys : List Nat} (hsorted : ys.Pairwise (· < ·))
    (hmem : ∀ y, y ∈ ys ↔ y < count ∧ test y = true) : (List.range count).filter test = ys := by
  have hrange := (List.pairwise_lt_range (n := count)).filter test
  refine List.Perm.eq_of_pairwise (fun a b _ _ hab hba => absurd hab (Nat.lt_asymm hba)) hrange
    hsorted ((List.perm_ext_iff_of_nodup (hrange.imp Nat.ne_of_lt)
      (hsorted.imp Nat.ne_of_lt)).mpr fun y => ?_)
  rw [List.mem_filter, List.mem_range, hmem]

theorem sent_ascending (chunk : ChunkColumn) :
    ((chunk.sections.toList.filter sent).map fun entry => entry.1.toNat).Pairwise (· < ·) := by
  rw [List.pairwise_map]
  refine ((Std.ExtTreeMap.ordered_keys_toList (t := chunk.sections)).filter sent).imp_of_mem ?_
  intro a b ha hb hlt
  have ha := (List.mem_filter.mp ha).2
  have hb := (List.mem_filter.mp hb).2
  simp only [sent, Bool.and_eq_true, decide_eq_true_eq] at ha hb
  have hlt : a.1 < b.1 := compare_lt_iff_lt.mp hlt
  omega

theorem mem_sent_iff (chunk : ChunkColumn) (y : Nat) :
    y ∈ (chunk.sections.toList.filter sent).map (fun entry => entry.1.toNat) ↔
      y < 16 ∧ filled chunk y = true := by
  rw [List.mem_map]
  constructor
  · rintro ⟨entry, hmem, rfl⟩
    obtain ⟨hentry, hsent⟩ := List.mem_filter.mp hmem
    simp only [sent, Bool.and_eq_true, decide_eq_true_eq] at hsent
    have hfound := BTreeMap.mem_toList.mp (show (entry.1, entry.2) ∈ _ from hentry)
    refine ⟨by omega, ?_⟩
    rw [filled, Int.toNat_of_nonneg hsent.1.1, hfound]
    exact hsent.2
  · rintro ⟨hy, hfilled⟩
    unfold filled at hfilled
    cases hfound : chunk.sections[(y : Int)]? with
    | none =>
      rw [hfound] at hfilled
      cases hfilled
    | some found =>
      rw [hfound] at hfilled
      refine ⟨((y : Int), found), List.mem_filter.mpr ⟨BTreeMap.mem_toList.mpr hfound, ?_⟩,
        Int.toNat_natCast y⟩
      simp only [sent, Bool.and_eq_true, decide_eq_true_eq]
      exact ⟨by omega, hfilled⟩

theorem reads_column {layout : Layout (List γ)} {written : ChunkSection → List UInt8}
    {cells : ChunkSection → List γ} {entries : List (Int × ChunkSection)}
    (h : ∀ entry ∈ entries, Reads layout (written entry.2) (cells entry.2)) :
    Reads (column layout (entries.map fun entry => entry.1.toNat))
      (entries.flatMap fun entry => written entry.2)
      (entries.map fun entry => (entry.1.toNat, cells entry.2)) := by
  induction entries with
  | nil => exact Reads.pure []
  | cons entry entries ih =>
    have hrest := ih fun later hmem => h later (List.mem_cons_of_mem _ hmem)
    have hlast : Reads (do
          let rest ← column layout (entries.map fun entry => entry.1.toNat)
          pure ((entry.1.toNat, cells entry.2) :: rest))
        ((entries.flatMap fun entry => written entry.2) ++ [])
        ((entry.1.toNat, cells entry.2) ::
          entries.map fun entry => (entry.1.toNat, cells entry.2)) :=
      hrest.bind (Reads.pure _)
    rw [List.append_nil] at hlast
    exact (h entry List.mem_cons_self).bind hlast

theorem lookup_of_nodup {β : Type} {entries : List (Nat × β)}
    (hnodup : (entries.map Prod.fst).Nodup) {key : Nat} {value : β}
    (hmem : (key, value) ∈ entries) : entries.lookup key = some value := by
  induction entries with
  | nil => cases hmem
  | cons entry entries ih =>
    rw [List.map_cons, List.nodup_cons] at hnodup
    rw [List.lookup_cons]
    rcases List.mem_cons.mp hmem with rfl | hrest
    · rw [beq_self_eq_true]
    · have hne : ¬ key = entry.1 := fun heq =>
        hnodup.1 (heq ▸ List.mem_map.mpr ⟨(key, value), hrest, rfl⟩)
      rw [beq_eq_false_iff_ne.mpr hne]
      exact ih hnodup.2 hrest

theorem getBlock_of_not_filled {x y z : Nat} (h : ¬ filled chunk (y / 16) = true) :
    chunk.getBlock x y z = none := by
  have hheight : (y : Int) / SECTION_HEIGHT = ((y / 16 : Nat) : Int) := (Int.natCast_ediv y 16).symm
  unfold ChunkColumn.getBlock
  rw [hheight]
  unfold filled at h
  cases hfound : chunk.sections[((y / 16 : Nat) : Int)]? with
  | none => rfl
  | some found =>
    rw [hfound] at h
    have hempty : found.blocks.isEmpty = true := by simpa [ChunkSection.isEmpty] using h
    rw [Option.bind_some, ChunkSection.getBlock, Std.ExtTreeMap.isEmpty_iff.mp hempty]
    exact Std.ExtTreeMap.getElem?_empty

theorem getBlock_of_found {found : ChunkSection} {x y z : Nat}
    (h : chunk.sections[((y / 16 : Nat) : Int)]? = some found) :
    chunk.getBlock x y z = found.blocks[flattenBlockIndex x (y % 16) z]? := by
  have hheight : (y : Int) / SECTION_HEIGHT = ((y / 16 : Nat) : Int) := (Int.natCast_ediv y 16).symm
  unfold ChunkColumn.getBlock
  rw [hheight, h]
  rfl

/-- A version whose sections are read back, and whose block changes say the same ids. -/
theorem unpacks_of_section {version : JavaVersion γ}
    {encodeSection : ChunkSection → Option (List UInt8)} {id : BlockState → γ}
    (hbuild : version.buildChunkData = buildChunkData encodeSection)
    (hread : SectionRead encodeSection version.layout id version.absent)
    (hchange : ∀ position block, 0 ≤ position.y → position.y < 256 →
      SaysBlock version position (id block) (some block)) (hindexed : WellIndexed chunk)
    (includeBiomes : Bool) : Unpacks version chunk includeBiomes := by
  have hall : ∀ found : ChunkSection, ∃ written cells,
      (∀ block ∈ found.blocks.toList, block.1 < 4096) →
        encodeSection found = some written ∧ Reads version.layout written cells ∧
        ∀ i, i < 4096 → cells[i]? = some ((found.blocks[i]?.map id).getD version.absent) := by
    intro found
    by_cases hfound : ∀ block ∈ found.blocks.toList, block.1 < 4096
    · obtain ⟨written, cells, hspec⟩ := hread found hfound
      exact ⟨written, cells, fun _ => hspec⟩
    · exact ⟨[], [], fun h => absurd h hfound⟩
  choose written cells hspec using hall
  obtain ⟨bitMap, hfold, hbits⟩ := foldlM_addSection written
    (fun entry hmem => (hspec entry.2 (hindexed entry hmem)).1) (0, [])
  have hpresent : present bitMap =
      (chunk.sections.toList.filter sent).map fun entry => entry.1.toNat := by
    refine filter_range_eq (sent_ascending chunk) fun y => ?_
    rw [hbits, Nat.zero_testBit, Bool.false_or, decide_eq_true_eq]
    exact ⟨fun hmem => ⟨((mem_sent_iff chunk y).mp hmem).1, hmem⟩, And.right⟩
  have hnodup := (sent_ascending chunk).imp Nat.ne_of_lt
  have hfirst : ((chunk.sections.toList.filter sent).map fun entry =>
      (entry.1.toNat, cells entry.2)).map Prod.fst =
      (chunk.sections.toList.filter sent).map fun entry => entry.1.toNat := List.map_map
  refine ⟨bitMap, ((chunk.sections.toList.filter sent).flatMap fun entry => written entry.2) ++
      if includeBiomes then chunk.biomes else [],
    (chunk.sections.toList.filter sent).map fun entry => (entry.1.toNat, cells entry.2),
    ?_, ?_, ?_, fun x y z hx hy hz => ?_⟩
  · rw [hbuild]
    unfold buildChunkData
    rw [hfold, List.nil_append]
    rfl
  · rw [hpresent]
    exact reads_column (fun entry hmem =>
      (hspec entry.2 (hindexed entry (List.mem_filter.mp hmem).1)).2.1) _
  · rw [hfirst]
    exact (filter_range_eq (sent_ascending chunk) (mem_sent_iff chunk)).symm
  by_cases hfilled : filled chunk (y / 16) = true
  · obtain ⟨entry, hentry, hkey⟩ := List.mem_map.mp
      ((mem_sent_iff chunk (y / 16)).mpr ⟨by omega, hfilled⟩)
    obtain ⟨hmem, hsent⟩ := List.mem_filter.mp hentry
    simp only [sent, Bool.and_eq_true, decide_eq_true_eq] at hsent
    have hheight : entry.1 = ((y / 16 : Nat) : Int) := by omega
    have hfound : chunk.sections[((y / 16 : Nat) : Int)]? = some entry.2 :=
      BTreeMap.mem_toList.mp (hheight ▸ hmem)
    have hlookup : ((chunk.sections.toList.filter sent).map fun entry =>
        (entry.1.toNat, cells entry.2)).lookup (y / 16) = some (cells entry.2) := by
      refine lookup_of_nodup (by rw [hfirst]; exact hnodup) ?_
      exact List.mem_map.mpr ⟨entry, hentry, by rw [hkey]⟩
    have hindex : flattenBlockIndex x (y % 16) z < 4096 := by
      unfold flattenBlockIndex
      omega
    have hcell := (hspec entry.2 (hindexed entry hmem)).2.2 _ hindex
    rw [getBlock_of_found hfound, blockAt, hlookup, Option.bind_some, hcell, Option.getD_some]
    cases entry.2.blocks[flattenBlockIndex x (y % 16) z]? with
    | none => rfl
    | some block => exact hchange _ block (by simp) (by simpa using hy)
  · have hlookup : ((chunk.sections.toList.filter sent).map fun entry =>
        (entry.1.toNat, cells entry.2)).lookup (y / 16) = none := by
      rw [List.lookup_eq_none_iff]
      intro entry hmem
      have hkey : entry.1 ∈ (chunk.sections.toList.filter sent).map fun entry => entry.1.toNat := by
        rw [← hfirst]
        exact List.mem_map_of_mem hmem
      have hne : ¬ y / 16 = entry.1 := fun heq =>
        hfilled (heq ▸ ((mem_sent_iff chunk entry.1).mp hkey).2)
      simpa using hne
    rw [getBlock_of_not_filled hfilled, blockAt, hlookup]
    rfl

/-! ### The block changes -/

theorem says_encodeBlockChange {version : JavaVersion Nat} (packetId : Nat)
    {stateId : BlockState → Nat}
    (hencode : version.encodeBlockChange = encodeBlockChange (Int32.ofNat packetId) stateId)
    (hchanged : version.changed = changed) (hpacket : packetId < 2 ^ 31)
    (hid : ∀ block, stateId block < 2 ^ 31) (position : BlockPos) (block : BlockState) :
    SaysBlock version position (stateId block) (some block) := by
  have hread : Reads changed (writeVarint (Int32.ofNat packetId) ++
      (beBytes 8 (packBlockPosition position).toNat ++ writeVarint (Int32.ofNat (stateId block))))
      (stateId block) :=
    (reads_writeVarint hpacket).bind
      ((reads_bytes (length_beBytes 8 _)).bind (reads_writeVarint (hid block)))
  refine ⟨_, by rw [hencode]; rfl, ?_⟩
  rw [hchanged, ← List.append_nil (_ ++ _)]
  exact hread []

theorem says_encodeBlockChange_1_7 {position : BlockPos} (hlow : 0 ≤ position.y)
    (hhigh : position.y < 256) (block : BlockState) :
    SaysBlock je_1_7 position (legacyBlock block) (some block) := by
  have hid : (legacyBlock block).1 < 2 ^ 31 := Nat.lt_trans (legacyBlock_lt block) (by decide)
  have hplace : (beInt 4 position.x ++ ([UInt8.ofNat position.y.toNat] ++
      beInt 4 position.z)).length = 9 := by
    simp only [List.length_append, length_beInt, List.length_singleton]
  have hread : Reads changed_1_7 (writeVarint (Int32.ofNat 0x23) ++
      ((beInt 4 position.x ++ ([UInt8.ofNat position.y.toNat] ++ beInt 4 position.z)) ++
        (writeVarint (Int32.ofNat (legacyBlock block).1) ++
          ([UInt8.ofNat (legacyBlock block).2] ++ []))))
      ((legacyBlock block).1, (legacyBlock block).2) :=
    (reads_writeVarint (by decide)).bind ((reads_bytes hplace).bind
      ((reads_writeVarint hid).bind ((reads_u8 _).bind (Reads.pure _))))
  refine ⟨_, if_pos ⟨hlow, hhigh⟩, ?_⟩
  have hdone := hread []
  simp only [List.append_assoc, List.append_nil] at hdone
  exact hdone

/-! ### The four versions -/

theorem unpacks_1_7 (h : WellIndexed chunk) (includeBiomes : Bool) :
    Unpacks je_1_7 chunk includeBiomes :=
  unpacks_of_section rfl sectionRead_1_7
    (fun _ block hlow hhigh => says_encodeBlockChange_1_7 hlow hhigh block) h includeBiomes

theorem unpacks_1_8 (h : WellIndexed chunk) (includeBiomes : Bool) :
    Unpacks je_1_8 chunk includeBiomes :=
  unpacks_of_section rfl sectionRead_1_8
    (fun position block _ _ => says_encodeBlockChange 0x23 rfl rfl (by decide)
      (fun block => Nat.lt_trans (legacyBlockStateId_lt block) (by decide)) position block)
    h includeBiomes

theorem unpacks_1_12 (h : WellIndexed chunk) (includeBiomes : Bool) :
    Unpacks je_1_12 chunk includeBiomes :=
  unpacks_of_section rfl sectionRead_1_12
    (fun position block _ _ => says_encodeBlockChange 0x0b rfl rfl (by decide)
      (fun block => Nat.lt_trans (legacyBlockStateId_lt block) (by decide)) position block)
    h includeBiomes

theorem unpacks_1_13_2 (h : WellIndexed chunk) (includeBiomes : Bool) :
    Unpacks je_1_13_2 chunk includeBiomes := by
  have hid : ∀ block, flattenedBlockStateId_1_13_2 block < 2 ^ 31 := by
    have htable : ∀ id ∈ idsOf flattenedBlockIds, id < 2 ^ 31 := by decide
    exact fun block => htable _ (lookup_mem_idsOf flattenedBlockIds block.key)
  exact unpacks_of_section rfl sectionRead_1_13_2
    (fun position block _ _ =>
      says_encodeBlockChange 0x0b rfl rfl (by decide) hid position block)
    h includeBiomes

end RevyCraft.ChunkSections
