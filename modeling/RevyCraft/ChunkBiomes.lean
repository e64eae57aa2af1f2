/-
  RevyCraft/ChunkBiomes.lean
  ==========================
  **The biomes of a chunk that is saved over the root it was loaded from.**

  A column has the biome of the topmost section that has any.  A section
  without biomes is written with the first biome of the chunk for all of it, so
  a section that is new on top decides for every column.

  * `writtenLayer`: the top layer a section has after a save.
  * `decodeColumnBiomes_top`: the topmost layer is the one that is read.
  * `biomes_kept_iff`: when a chunk that was edited and saved has its biomes.
-/
import RevyCraft.ModernChunks

namespace RevyCraft.ModernAnvil

open Bytes Std

/-! ### The chunk a save is made of -/

/-- A chunk with sections at heights of a byte, whose blocks have an index of a section. -/
def Placed (chunk : ChunkColumn) : Prop :=
  ∀ (sectionY : Int) part, chunk.sections[sectionY]? = some part →
    FitsSigned 1 sectionY ∧ Indexed part

theorem Indexed.setBlock {part : ChunkSection} (h : Indexed part) {x y z : Nat} (hx : x < 16)
    (hy : y < 16) (hz : z < 16) (state : Option BlockState) :
    Indexed (part.setBlock x y z state) := by
  have hindex : flattenBlockIndex x y z < 4096 := by
    unfold flattenBlockIndex
    omega
  intro index found hfound
  cases state with
  | none =>
    rw [ChunkSection.setBlock, BTreeMap.getElem?_erase_eq] at hfound
    split at hfound
    · cases hfound
    · exact h index found hfound
  | some state =>
    rw [ChunkSection.setBlock, BTreeMap.getElem?_insert_eq] at hfound
    split at hfound
    · next hsame => exact hsame ▸ hindex
    · exact h index found hfound

variable {chunk : ChunkColumn} {sectionY y : Int} {fields : NbtFields}
  {sections : BTreeMap Int NbtFields} {tag : NbtTag} {slots : List (Option ItemStack)}

theorem Placed.putSection (h : Placed chunk) (hy : FitsSigned 1 sectionY) {part : ChunkSection}
    (hpart : Indexed part) : Placed (chunk.putSection sectionY part) := by
  intro y found hfound
  unfold ChunkColumn.putSection at hfound
  split at hfound
  · rw [BTreeMap.getElem?_erase_eq] at hfound
    split at hfound
    · cases hfound
    · exact h y found hfound
  · rw [BTreeMap.getElem?_insert_eq] at hfound
    split at hfound
    · next hsame =>
      cases hfound
      exact ⟨hsame ▸ hy, hpart⟩
    · exact h y found hfound

/-- A call of `set_block` finds no section to clear a block in, or stores a section. -/
theorem setBlock_cases (chunk : ChunkColumn) (x : Nat) (y : Int) (z : Nat)
    (state : Option BlockState) :
    chunk.setBlock x y z state = chunk ∨ ∃ part,
      (part = ChunkSection.new (y / SECTION_HEIGHT) ∨
        chunk.sections[y / SECTION_HEIGHT]? = some part) ∧
      chunk.setBlock x y z state =
        chunk.putSection (y / SECTION_HEIGHT) (part.setBlock x (sectionLocalY y) z state) := by
  unfold ChunkColumn.setBlock
  cases hsection : chunk.sections[y / SECTION_HEIGHT]? with
  | none =>
    cases state with
    | none => exact .inl (by simp only [hsection])
    | some state => exact .inr ⟨_, .inl rfl, by simp only [hsection, Option.getD_none]⟩
  | some part =>
    cases state with
    | none => exact .inr ⟨part, .inr rfl, by simp only [hsection]⟩
    | some state => exact .inr ⟨part, .inr rfl, by simp only [hsection, Option.getD_some]⟩

theorem Placed.setBlock (h : Placed chunk) {x z : Nat} (hx : x < 16) (hz : z < 16)
    (hy : FitsSigned 1 (y / SECTION_HEIGHT)) (state : Option BlockState) :
    Placed (chunk.setBlock x y z state) := by
  have hlocal : sectionLocalY y < 16 := by
    unfold sectionLocalY SECTION_HEIGHT
    omega
  rcases setBlock_cases chunk x y z state with hsame | ⟨part, hpart, hstored⟩
  · rw [hsame]
    exact h
  · rw [hstored]
    refine h.putSection hy (Indexed.setBlock ?_ hx hlocal hz state)
    rcases hpart with rfl | hpart
    · intro index found hfound
      simp [ChunkSection.new] at hfound
    · exact (h _ _ hpart).2

theorem setBlock_pos (chunk : ChunkColumn) (x : Nat) (y : Int) (z : Nat)
    (state : Option BlockState) :
    (chunk.setBlock x y z state).pos = chunk.pos ∧
      (chunk.setBlock x y z state).biomes = chunk.biomes := by
  rcases setBlock_cases chunk x y z state with hsame | ⟨part, -, hstored⟩
  · rw [hsame]
    exact ⟨rfl, rfl⟩
  · rw [hstored, ChunkColumn.putSection]
    split
    · exact ⟨rfl, rfl⟩
    · exact ⟨rfl, rfl⟩

/-- A call of `set_block` inside a chunk, in a section at a height of a byte. -/
structure Edit where
  x : Fin 16
  y : Int
  z : Fin 16
  state : Option BlockState
  section_low : -128 ≤ y / SECTION_HEIGHT
  section_high : y / SECTION_HEIGHT ≤ 127

def edited (chunk : ChunkColumn) (edits : List Edit) : ChunkColumn :=
  edits.foldl (fun chunk edit => chunk.setBlock edit.x edit.y edit.z edit.state) chunk

theorem Placed.edited (h : Placed chunk) (edits : List Edit) : Placed (edited chunk edits) := by
  induction edits generalizing chunk with
  | nil => exact h
  | cons edit edits ih =>
    refine ih (h.setBlock edit.x.isLt edit.z.isLt ?_ edit.state)
    have := edit.section_low
    have := edit.section_high
    unfold FitsSigned
    omega

theorem edited_pos (chunk : ChunkColumn) (edits : List Edit) :
    (edited chunk edits).pos = chunk.pos ∧ (edited chunk edits).biomes = chunk.biomes := by
  induction edits generalizing chunk with
  | nil => exact ⟨rfl, rfl⟩
  | cons edit edits ih =>
    obtain ⟨hpos, hbiomes⟩ := setBlock_pos chunk edit.x edit.y edit.z edit.state
    obtain ⟨hpos', hbiomes'⟩ := ih (chunk.setBlock edit.x edit.y edit.z edit.state)
    exact ⟨hpos'.trans hpos, hbiomes'.trans hbiomes⟩

theorem Placed.decodeSectionBlocks {chunk' : ChunkColumn} (h : Placed chunk)
    (hy : FitsSigned 1 sectionY)
    (hdecode : decodeSectionBlocks chunk sectionY fields = .ok chunk') : Placed chunk' := by
  unfold ModernAnvil.decodeSectionBlocks at hdecode
  split at hdecode
  · cases hdecode
    exact h
  · obtain ⟨blockStates, -, hdecode⟩ := except_bind_eq_ok.mp hdecode
    obtain ⟨palette, -, hdecode⟩ := except_bind_eq_ok.mp hdecode
    obtain ⟨indices, -, hdecode⟩ := except_bind_eq_ok.mp hdecode
    refine foldlM_keeps Placed (fun chunk entry chunk' _ hchunk hstep => ?_) h hdecode
    unfold decodeBlock at hstep
    split at hstep
    · cases hstep
    · split at hstep
      · cases hstep
        exact hchunk
      · split at hstep
        · cases hstep
        · cases hstep
          refine hchunk.setBlock (Nat.mod_lt _ (by decide)) (Nat.mod_lt _ (by decide)) ?_ _
          have hplace : (sectionY * 16 + ((LegacyAnvil.expandBlockIndex entry.2).2.1 : Int)) /
              SECTION_HEIGHT = sectionY := by
            have : (LegacyAnvil.expandBlockIndex entry.2).2.1 < 16 := Nat.mod_lt _ (by decide)
            unfold SECTION_HEIGHT
            omega
          rw [hplace]
          exact hy

/-! ### The top layers of the sections -/

theorem topBiomeLayer_congr {fields' : NbtFields} (h : fields.get "biomes" = fields'.get "biomes") :
    topBiomeLayer fields = topBiomeLayer fields' := by
  unfold topBiomeLayer
  rw [h]

theorem topBiomeLayer_none (h : fields.get "biomes" = none) : topBiomeLayer fields = .ok none := by
  unfold topBiomeLayer
  rw [h]

theorem topBiomeLayer_some {layer : Option (List String)} (hbiomes : fields.get "biomes" ≠ none)
    (h : topBiomeLayer fields = .ok layer) :
    ∃ cells : List String, layer = some cells ∧ cells.length = 16 := by
  unfold topBiomeLayer at h
  split at h
  next hnone => exact absurd hnone hbiomes
  next =>
    obtain ⟨biomes, -, h⟩ := except_bind_eq_ok.mp h
    obtain ⟨palette, -, h⟩ := except_bind_eq_ok.mp h
    obtain ⟨indices, -, h⟩ := except_bind_eq_ok.mp h
    obtain ⟨cells, hcells, h⟩ := except_bind_eq_ok.mp h
    cases h
    refine ⟨cells, rfl, ?_⟩
    rw [← (mapM_eq_ok.mp hcells).length_eq, List.length_range]

theorem topBiomeLayer_uniform {name : String}
    (h : fields.get "biomes" = some (uniformBiomes name)) :
    topBiomeLayer fields = .ok (some (List.replicate 16 name)) := by
  unfold topBiomeLayer
  rw [h]
  rfl

/-- The layer of a section, if it has one. -/
def layerOf (fields : NbtFields) : Option (List String) := (topBiomeLayer fields).toOption.join

/-- The layers that are read of sections, in order. -/
def layersOf (entries : List (Int × NbtFields)) : List (Int × List String) :=
  entries.filterMap fun entry => (layerOf entry.2).map fun layer => (entry.1, layer)

/-- The layers that are left are those of the sections that are left, or of earlier ones. -/
structure TopLayers (sections : BTreeMap Int NbtFields) (tops : BTreeMap Int (List String)) :
    Prop where
  shown : ∀ (sectionY : Int) fields layer, sections[sectionY]? = some fields →
    layerOf fields = some layer → tops[sectionY]? = some layer
  within : ∀ (sectionY : Int) layer, tops[sectionY]? = some layer → (sections[sectionY]?).isSome
  length : ∀ (sectionY : Int) layer, tops[sectionY]? = some layer → layer.length = 16

theorem layerOf_length {layer : List String} (h : layerOf fields = some layer) :
    layer.length = 16 := by
  unfold layerOf at h
  cases hread : topBiomeLayer fields with
  | error fault =>
    rw [hread] at h
    cases h
  | ok found =>
    rw [hread] at h
    obtain rfl : found = some layer := by simpa [Except.toOption] using h
    by_cases hbiomes : fields.get "biomes" = none
    · rw [topBiomeLayer_none hbiomes] at hread
      cases hread
    · obtain ⟨cells, hcells, hlength⟩ := topBiomeLayer_some hbiomes hread
      cases hcells
      exact hlength

variable {tops : BTreeMap Int (List String)} {compound : NbtFields} {stack : ItemStack}
  {items : List NbtTag} {slotCount : Nat} {key : String}

theorem TopLayers.insertAll (h : TopLayers sections tops) (entries : List (Int × NbtFields)) :
    TopLayers (BTreeMap.insertAll sections entries)
      (BTreeMap.insertAll tops (layersOf entries)) := by
  induction entries generalizing sections tops with
  | nil => exact h
  | cons entry entries ih =>
    cases hlayer : layerOf entry.2 with
    | none =>
      have hlist : layersOf (entry :: entries) = layersOf entries := by
        simp [layersOf, hlayer]
      rw [hlist]
      refine ih ⟨fun y fields layer hfields hread => ?_, fun y layer htop => ?_, h.length⟩
      · rw [BTreeMap.getElem?_insert_eq] at hfields
        split at hfields
        · cases hfields
          rw [hlayer] at hread
          cases hread
        · exact h.shown y fields layer hfields hread
      · rw [BTreeMap.getElem?_insert_eq]
        split
        · rfl
        · exact h.within y layer htop
    | some cells =>
      have hlist : layersOf (entry :: entries) = (entry.1, cells) :: layersOf entries := by
        simp [layersOf, hlayer]
      rw [hlist]
      refine ih ⟨fun y fields layer hfields hread => ?_, fun y layer htop => ?_,
        fun y layer htop => ?_⟩
      · rw [BTreeMap.getElem?_insert_eq] at hfields ⊢
        split at hfields
        · next hsame =>
          cases hfields
          rw [if_pos hsame, ← hread, hlayer]
        · next hother =>
          rw [if_neg hother]
          exact h.shown y fields layer hfields hread
      · rw [BTreeMap.getElem?_insert_eq] at htop ⊢
        split at htop
        · next hsame =>
          rw [if_pos hsame]
          rfl
        · next hother =>
          rw [if_neg hother]
          exact h.within y layer htop
      · rw [BTreeMap.getElem?_insert_eq] at htop
        split at htop
        · cases htop
          exact layerOf_length hlayer
        · exact h.length y layer htop

theorem topLayers_insertAll (entries : List (Int × NbtFields)) :
    TopLayers (BTreeMap.insertAll ∅ entries) (BTreeMap.insertAll ∅ (layersOf entries)) :=
  TopLayers.insertAll ⟨fun _ _ _ h => by simp at h, fun _ _ h => by simp at h,
    fun _ _ h => by simp at h⟩ entries

/-! ### The sections that are read -/

theorem decodeSection_ok {state state' : ChunkColumn × BTreeMap Int (List String)}
    (h : decodeSection state tag = .ok state') :
    ∃ entry layer, sectionEntry tag = .ok entry ∧ topBiomeLayer entry.2 = .ok layer ∧
      decodeSectionBlocks state.1 entry.1 entry.2 = .ok state'.1 ∧
      state'.2 = layer.elim state.2 fun layer => state.2.insert entry.1 layer := by
  obtain ⟨entry, hentry, h⟩ := except_bind_eq_ok.mp h
  obtain ⟨chunk, hchunk, h⟩ := except_bind_eq_ok.mp h
  obtain ⟨layer, hlayer, h⟩ := except_bind_eq_ok.mp h
  cases h
  exact ⟨entry, layer, hentry, hlayer, hchunk, rfl⟩

theorem decodeSections_ok {tags : List NbtTag}
    {state state' : ChunkColumn × BTreeMap Int (List String)}
    (h : tags.foldlM decodeSection state = .ok state') :
    ∃ entries, tags.mapM sectionEntry = .ok entries ∧
      (∀ entry ∈ entries, ∃ layer, topBiomeLayer entry.2 = .ok layer) ∧
      state'.2 = BTreeMap.insertAll state.2 (layersOf entries) := by
  induction tags generalizing state with
  | nil =>
    cases h
    exact ⟨[], rfl, fun _ h => (by cases h), rfl⟩
  | cons tag tags ih =>
    obtain ⟨state₁, hfirst, hrest⟩ := except_bind_eq_ok.mp h
    obtain ⟨entry, layer, hentry, hlayer, -, htops⟩ := decodeSection_ok hfirst
    obtain ⟨entries, hentries, hlayers, hdone⟩ := ih hrest
    refine ⟨entry :: entries, mapM_eq_ok.mpr (.cons hentry (mapM_eq_ok.mp hentries)), ?_, ?_⟩
    · intro other hother
      rcases List.mem_cons.mp hother with rfl | hother
      · exact ⟨layer, hlayer⟩
      · exact hlayers other hother
    · rw [hdone, htops]
      have hread : layerOf entry.2 = layer := by
        rw [layerOf, hlayer]
        simp [Except.toOption]
      cases layer with
      | none => simp [layersOf, hread]
      | some cells => simp [layersOf, hread, BTreeMap.insertAll]

/-! ### The topmost layer -/

def layerBiomes (layer : List String) : List UInt8 :=
  (List.range 256).map fun column =>
    legacyBiomeId ((layer[column % 16 / 4 + column / 16 / 4 * 4]?).getD "minecraft:plains")

theorem decodeColumnBiomes_top {layer : List String} (hget : tops[sectionY]? = some layer)
    (hlength : layer.length = 16)
    (htop : ∀ (other : Int) below, tops[other]? = some below → other ≤ sectionY) :
    decodeColumnBiomes tops = layerBiomes layer := by
  obtain ⟨below, above, hsplit⟩ := List.append_of_mem (BTreeMap.mem_toList.mpr hget)
  have habove : above = [] := by
    cases habove : above with
    | nil => rfl
    | cons entry rest =>
      have hordered := ExtTreeMap.ordered_keys_toList (t := tops)
      rw [hsplit, habove, List.pairwise_append] at hordered
      have hlt : sectionY < entry.1 := by
        have := (List.pairwise_cons.mp hordered.2.1).1 entry List.mem_cons_self
        exact Std.compare_eq_lt.mp this
      have hle := htop entry.1 entry.2 (BTreeMap.mem_toList.mp (by simp [hsplit, habove]))
      omega
  subst habove
  refine List.map_congr_left fun column hcolumn => ?_
  have hcell : column % 16 / 4 + column / 16 / 4 * 4 < layer.length := by
    have := List.mem_range.mp hcolumn
    omega
  unfold topColumnBiomeName
  rw [hsplit, List.reverse_append, List.reverse_singleton, List.singleton_append,
    List.findSome?_cons, List.getElem?_eq_getElem hcell]

theorem layerBiomes_replicate (name : String) :
    layerBiomes (List.replicate 16 name) = List.replicate 256 (legacyBiomeId name) := by
  have hcolumns : ∀ column ∈ List.range 256, legacyBiomeId
      (((List.replicate 16 name)[column % 16 / 4 + column / 16 / 4 * 4]?).getD
        "minecraft:plains") = legacyBiomeId name := by
    intro column hcolumn
    have hcell : column % 16 / 4 + column / 16 / 4 * 4 < 16 := by
      have := List.mem_range.mp hcolumn
      omega
    rw [List.getElem?_replicate, if_pos hcell, Option.getD_some]
  rw [layerBiomes, List.map_congr_left hcolumns, List.map_const', List.length_range]

theorem legacyBiomeId_modernBiomeName (name : String) :
    legacyBiomeId (modernBiomeName (legacyBiomeId name)) = legacyBiomeId name := by
  have hid : legacyBiomeId name = 2 ∨ legacyBiomeId name = 4 ∨ legacyBiomeId name = 5 ∨
      legacyBiomeId name = 6 ∨ legacyBiomeId name = 1 := by
    unfold legacyBiomeId
    repeat' split
    all_goals decide
  rcases hid with hid | hid | hid | hid | hid <;> rw [hid] <;> decide

/-! ### The sections that are written -/

/-- The top layer that a section has when it is saved. -/
def writtenLayer (chunk : ChunkColumn) (sections : BTreeMap Int NbtFields) (sectionY : Int) :
    List String :=
  ((sections[sectionY]?).bind layerOf).getD (List.replicate 16 (uniformBiomeName chunk))

theorem layerOf_none (h : fields.get "biomes" = none) : layerOf fields = none := by
  rw [layerOf, topBiomeLayer_none h]
  rfl

theorem layerOf_some {layer : Option (List String)} (h : topBiomeLayer fields = .ok layer) :
    layerOf fields = layer := by
  rw [layerOf, h]
  cases layer <;> rfl

theorem topBiomeLayer_written
    (hread : ∀ existing, sections[sectionY]? = some existing →
      ∃ layer, topBiomeLayer existing = .ok layer)
    (hget : fields.get "biomes" = some ((((sections[sectionY]?).getD []).get "biomes").getD
      (uniformBiomes
        (((existingChunkBiomes sections)[sectionY]?).getD (uniformBiomeName chunk))))) :
    topBiomeLayer fields = .ok (some (writtenLayer chunk sections sectionY)) := by
  have hname : (existingChunkBiomes sections)[sectionY]? =
      (sections[sectionY]?).bind fun existing => (existing.get "biomes").bind fun tag =>
        (tag.asCompound.toOption.bind fun biomes => (biomePalette biomes).toOption).bind
          List.head? :=
    ExtTreeMap.getElem?_filterMap'
  rw [hname] at hget
  unfold writtenLayer
  cases hexisting : sections[sectionY]? with
  | none =>
    rw [hexisting] at hget
    exact topBiomeLayer_uniform hget
  | some existing =>
    rw [hexisting] at hget
    obtain ⟨layer, hlayer⟩ := hread existing hexisting
    cases hbiomes : existing.get "biomes" with
    | none =>
      rw [Option.getD_some, Option.bind_some, hbiomes] at hget
      rw [Option.bind_some, layerOf_none hbiomes]
      exact topBiomeLayer_uniform hget
    | some tag =>
      rw [Option.getD_some, hbiomes, Option.getD_some, ← hbiomes] at hget
      obtain ⟨cells, rfl, -⟩ := topBiomeLayer_some (by simp [hbiomes]) hlayer
      rw [Option.bind_some, layerOf_some hlayer, topBiomeLayer_congr hget, hlayer]
      rfl

theorem sectionTag_reads (hplaced : Placed chunk) (hy : FitsSigned 1 sectionY)
    (hread : ∀ existing, sections[sectionY]? = some existing →
      ∃ layer, topBiomeLayer existing = .ok layer) :
    ∃ tag, sectionTag chunk sections sectionY = .ok tag ∧ ∀ state, ∃ chunk',
      decodeSection state tag =
        .ok (chunk', state.2.insert sectionY (writtenLayer chunk sections sectionY)) := by
  obtain ⟨states, hstates, hdecode⟩ := @encodeBlockStates_reads chunk.sections[sectionY]?
    fun part hpart => (hplaced sectionY part hpart).2
  have hencode : sectionTag chunk sections sectionY = .ok (.compound
      (((((sections[sectionY]?).getD []).insert "Y" (.byte sectionY)).insert "block_states"
        states).orInsert "biomes" (uniformBiomes
          (((existingChunkBiomes sections)[sectionY]?).getD (uniformBiomeName chunk))))) := by
    unfold sectionTag encodeSection
    rw [if_pos hy, hstates]
    rfl
  refine ⟨_, hencode, fun state => ?_⟩
  generalize hfields : ((((sections[sectionY]?).getD []).insert "Y" (.byte sectionY)).insert
    "block_states" states).orInsert "biomes" _ = fields
  have hentry : sectionEntry (.compound fields) = .ok (sectionY, fields) := by
    have hheight : fields.get "Y" = some (.byte sectionY) := by
      rw [← hfields]
      simp [get_orInsert]
    simp [sectionEntry, NbtTag.asCompound, NbtFields.byteField, hheight, bind, Except.bind, pure,
      Except.pure]
  obtain ⟨chunk', hchunk'⟩ := hdecode state.1 sectionY fields (by
    rw [← hfields]
    simp [get_orInsert])
  have hlayer : topBiomeLayer fields = .ok (some (writtenLayer chunk sections sectionY)) :=
    topBiomeLayer_written hread (by
      rw [← hfields]
      simp [get_orInsert])
  refine ⟨chunk', ?_⟩
  unfold decodeSection
  rw [hentry]
  change (decodeSectionBlocks state.1 sectionY fields >>= _) = _
  rw [hchunk']
  change (topBiomeLayer fields >>= _) = _
  rw [hlayer]
  rfl

theorem sectionTags_read (hplaced : Placed chunk)
    (hread : ∀ (sectionY : Int) existing, sections[sectionY]? = some existing →
      ∃ layer, topBiomeLayer existing = .ok layer) {sectionYs : List Int}
    (hys : ∀ sectionY ∈ sectionYs, FitsSigned 1 sectionY) :
    ∃ tags, sectionYs.mapM (sectionTag chunk sections) = .ok tags ∧ ∀ state, ∃ chunk',
      tags.foldlM decodeSection state = .ok (chunk', BTreeMap.insertAll state.2
        (sectionYs.map fun sectionY => (sectionY, writtenLayer chunk sections sectionY))) := by
  induction sectionYs with
  | nil => exact ⟨[], rfl, fun state => ⟨state.1, rfl⟩⟩
  | cons sectionY sectionYs ih =>
    obtain ⟨tag, htag, hfirst⟩ :=
      sectionTag_reads hplaced (hys sectionY List.mem_cons_self) (hread sectionY)
    obtain ⟨tags, htags, hrest⟩ := ih fun other hother => hys other (List.mem_cons_of_mem _ hother)
    refine ⟨tag :: tags, mapM_eq_ok.mpr (.cons htag (mapM_eq_ok.mp htags)), fun state => ?_⟩
    obtain ⟨chunk₁, hchunk₁⟩ := hfirst state
    obtain ⟨chunk₂, hchunk₂⟩ := hrest (chunk₁, state.2.insert sectionY
      (writtenLayer chunk sections sectionY))
    exact ⟨chunk₂, except_bind_eq_ok.mpr ⟨_, hchunk₁, hchunk₂⟩⟩

/-! ### The heights of the sections -/

theorem mem_sectionYValues {existing : BTreeMap Int NbtFields} : y ∈ sectionYValues chunk existing ↔
      (if existing.isEmpty then JE_1_18_2_MIN_SECTION_Y ≤ y ∧ y ≤ JE_1_18_2_MAX_SECTION_Y
        else (existing[y]?).isSome) ∨ (chunk.sections[y]?).isSome := by
  have hrange : (∃ step : Nat,
      step < (JE_1_18_2_MAX_SECTION_Y + 1 - JE_1_18_2_MIN_SECTION_Y).toNat ∧
      JE_1_18_2_MIN_SECTION_Y + (step : Int) = y) ↔
        JE_1_18_2_MIN_SECTION_Y ≤ y ∧ y ≤ JE_1_18_2_MAX_SECTION_Y := by
    unfold JE_1_18_2_MIN_SECTION_Y JE_1_18_2_MAX_SECTION_Y
    constructor
    · rintro ⟨step, hstep, rfl⟩
      omega
    · intro h
      exact ⟨(y + 4).toNat, by omega, by omega⟩
  unfold sectionYValues
  dsimp only
  rw [ExtTreeSet.mem_toList, ExtTreeSet.mem_ofList, List.contains_iff_mem, List.mem_append,
    ExtTreeMap.mem_keys, ExtTreeMap.mem_iff_isSome_getElem?]
  split
  · rw [List.mem_map, ← hrange]
    exact or_congr_left (exists_congr fun step => and_congr_left' List.mem_range)
  · rw [ExtTreeMap.mem_keys, ExtTreeMap.mem_iff_isSome_getElem?]

theorem sectionYValues_sorted (chunk : ChunkColumn) (existing : BTreeMap Int NbtFields) :
    (sectionYValues chunk existing).Pairwise (· < ·) :=
  (ExtTreeSet.ordered_toList (t := ExtTreeSet.ofList _ compare)).imp fun h =>
    Std.compare_eq_lt.mp h

theorem exists_top (chunk : ChunkColumn) (existing : BTreeMap Int NbtFields) :
    ∃ top, (sectionYValues chunk existing).getLast? = some top ∧
      top ∈ sectionYValues chunk existing ∧
      (∀ y ∈ sectionYValues chunk existing, y ≤ top) ∧
      ∀ y : Int, (existing[y]?).isSome → y ∈ sectionYValues chunk existing := by
  have hin : ∀ y : Int, (existing[y]?).isSome → y ∈ sectionYValues chunk existing := by
    intro y hy
    refine mem_sectionYValues.mpr (.inl ?_)
    rw [if_neg fun hempty => ?_]
    · exact hy
    · rw [ExtTreeMap.isEmpty_iff] at hempty
      rw [hempty] at hy
      simp at hy
  have hne : sectionYValues chunk existing ≠ [] := by
    intro hnil
    by_cases hempty : existing.isEmpty
    · have hzero : (0 : Int) ∈ sectionYValues chunk existing :=
        mem_sectionYValues.mpr (.inl (by rw [if_pos hempty]; decide))
      rw [hnil] at hzero
      cases hzero
    · rw [ExtTreeMap.isEmpty_iff, ExtTreeMap.eq_empty_iff_forall_not_mem] at hempty
      obtain ⟨y, hy⟩ := not_forall.mp hempty
      have hmem := hin y (ExtTreeMap.mem_iff_isSome_getElem?.mp (not_not.mp hy))
      rw [hnil] at hmem
      cases hmem
  have hlast := List.getLast_mem hne
  refine ⟨_, List.getLast?_eq_some_getLast hne, hlast, fun y hy => ?_, hin⟩
  have hsplit := List.dropLast_append_getLast hne
  have hsorted := sectionYValues_sorted chunk existing
  rw [← hsplit, List.pairwise_append] at hsorted
  rw [← hsplit] at hy
  rcases List.mem_append.mp hy with hy | hy
  · exact (hsorted.2.2 y hy _ (List.mem_singleton.mpr rfl)).le
  · rw [List.mem_singleton.mp hy]

/-! ### Block entities are read back -/

/-- A stack that was read of a stored item. -/
def Storable (stack : ItemStack) : Prop := stack.isLegacyCompatible = true ∧ stack.damage < 2 ^ 16

/-- Slots that were read of a container with so many of them. -/
def SlotsOf (slotCount : Nat) (slots : List (Option ItemStack)) : Prop :=
  slots.length = slotCount ∧ ∀ stack, some stack ∈ slots → Storable stack

/-- A block entity that was read. -/
def LoadedEntity : BlockEntityState → Prop
  | .container container =>
    (container.kind = Ids.CHEST_BLOCK_ENTITY ∧ SlotsOf 27 container.slots) ∨
      (container.kind = Ids.FURNACE_BLOCK_ENTITY ∧ SlotsOf 3 container.slots)

theorem tryUnsigned_ok {width : Nat} {message : String} {value : Int} {found : Nat}
    (h : tryUnsigned width message value = .ok found) : found < 256 ^ width := by
  unfold tryUnsigned at h
  split at h
  next hfits =>
    cases h
    have := hfits.2
    have hcast : ((256 ^ width : Nat) : Int) = 256 ^ width := by norm_num
    omega
  next => cases h

theorem itemDamage_lt {damage : Nat} (h : itemDamage compound = .ok damage) : damage < 2 ^ 16 := by
  unfold itemDamage at h
  split at h
  · exact tryUnsigned_ok h
  · exact tryUnsigned_ok h
  · cases h
  · cases h
    decide

theorem itemStackFromNbt_storable (h : itemStackFromNbt compound = .ok stack) : Storable stack := by
  obtain ⟨key, -, h⟩ := except_bind_eq_ok.mp h
  obtain ⟨count, -, h⟩ := except_bind_eq_ok.mp h
  obtain ⟨damage, hdamage, h⟩ := except_bind_eq_ok.mp h
  cases h
  exact ⟨by simp [ItemStack.isLegacyCompatible, ItemStack.new], itemDamage_lt hdamage⟩

theorem decodeContainerItems_slots (h : decodeContainerItems items slotCount = .ok slots) :
    SlotsOf slotCount slots := by
  refine foldlM_keeps (SlotsOf slotCount) (fun slots item slots' _ hslots hstep => ?_)
    ⟨List.length_replicate, fun stack hstack => by
      cases List.eq_of_mem_replicate hstack⟩ h
  obtain ⟨compound, -, hstep⟩ := except_bind_eq_ok.mp hstep
  obtain ⟨u, -, hstep⟩ := except_bind_eq_ok.mp hstep
  obtain ⟨value, -, hstep⟩ := except_bind_eq_ok.mp hstep
  obtain ⟨slot, -, hstep⟩ := except_bind_eq_ok.mp hstep
  split at hstep
  · cases hstep
  · obtain ⟨stack, hstack, hstep⟩ := except_bind_eq_ok.mp hstep
    cases hstep
    refine ⟨by rw [List.length_set, hslots.1], fun other hother => ?_⟩
    rcases List.mem_or_eq_of_mem_set hother with hother | hsame
    · exact hslots.2 other hother
    · cases hsame
      exact itemStackFromNbt_storable hstack

theorem decodeBlockEntity_loaded {read : BlockPos × BlockEntityState}
    (h : decodeBlockEntity tag = .ok read) : LoadedEntity read.2 := by
  obtain ⟨compound, -, h⟩ := except_bind_eq_ok.mp h
  obtain ⟨id, -, h⟩ := except_bind_eq_ok.mp h
  obtain ⟨position, -, h⟩ := except_bind_eq_ok.mp h
  obtain ⟨items, -, h⟩ := except_bind_eq_ok.mp h
  split at h
  · obtain ⟨slots, hslots, h⟩ := except_bind_eq_ok.mp h
    cases h
    exact .inl ⟨rfl, decodeContainerItems_slots hslots⟩
  · split at h
    · obtain ⟨slots, hslots, h⟩ := except_bind_eq_ok.mp h
      obtain ⟨properties, -, h⟩ := except_bind_eq_ok.mp h
      cases h
      exact .inr ⟨rfl, decodeContainerItems_slots hslots⟩
    · cases h

theorem mem_containerItems {index : Nat} :
    (stack, index) ∈ containerItems slots ↔ slots[index]? = some (some stack) := by
  simp only [containerItems, List.mem_filterMap, Prod.exists, List.mem_zipIdx_iff_getElem?,
    Option.map_eq_some_iff, Prod.mk.injEq]
  constructor
  · rintro ⟨_, _, hget, _, rfl, rfl, rfl⟩
    exact hget
  · intro hget
    exact ⟨some stack, index, hget, stack, rfl, rfl, rfl⟩

theorem encodeContainerItemList_ok (hslots : SlotsOf slotCount slots) (hcount : slotCount ≤ 128) :
    (∃ items, encodeContainerItemList slots = .ok items) ↔
      ∀ stack, some stack ∈ slots → stack.count < 128 := by
  have hitem : ∀ stack index, (stack, index) ∈ containerItems slots →
      encodeContainerItem (stack, index) = itemStackToNbt stack (some index) ∧
        stack.isLegacyCompatible = true := by
    intro stack index hmem
    obtain ⟨hindex, hget⟩ := List.getElem?_eq_some_iff.mp (mem_containerItems.mp hmem)
    have hlt : ¬ 128 ≤ index := by
      have := hslots.1
      omega
    exact ⟨if_neg hlt, (hslots.2 stack (hget ▸ List.getElem_mem hindex)).1⟩
  constructor
  · rintro ⟨items, hitems⟩ stack hstack
    obtain ⟨index, hindex, hget⟩ := List.mem_iff_getElem.mp hstack
    have hmem : (stack, index) ∈ containerItems slots :=
      mem_containerItems.mpr (List.getElem?_eq_some_iff.mpr ⟨hindex, hget⟩)
    obtain ⟨tag, -, htag⟩ := mapM_mem hitems hmem
    obtain ⟨heq, hcompatible⟩ := hitem stack index hmem
    rw [heq, itemStackToNbt, if_pos hcompatible] at htag
    split at htag
    · cases htag
    · omega
  · intro hall
    refine exists_mapM fun item hmem => ?_
    obtain ⟨heq, hcompatible⟩ := hitem item.1 item.2 hmem
    have hstack : some item.1 ∈ slots := List.mem_of_getElem? (mem_containerItems.mp hmem)
    have hlow : ¬ 128 ≤ item.1.count := by
      have := hall item.1 hstack
      omega
    refine ⟨.compound (NbtFields.ofList (itemFields item.1 (some item.2))), ?_⟩
    rw [heq, itemStackToNbt, if_pos hcompatible, if_neg hlow]

structure ItemFields (stack : ItemStack) (slot : Int) (compound : NbtFields) : Prop where
  slot : compound.get "Slot" = some (.byte slot)
  id : compound.get "id" = some (.string stack.key)
  count : compound.get "Count" = some (.byte stack.count)
  damage : compound.get "Damage" = if stack.damage ≠ 0 then some (.int stack.damage) else none
  tag : compound.get "tag" = none
  allowed : ∀ entry ∈ compound, itemFieldAllowed true entry.1 = true

theorem itemFields_written (stack : ItemStack) (slot : Int) :
    ItemFields stack slot (NbtFields.ofList (itemFields stack (some slot))) := by
  have hallowed : ∀ entry ∈ itemFields stack (some slot), itemFieldAllowed true entry.1 = true := by
    intro entry hentry
    unfold itemFields at hentry
    split at hentry <;>
      simp only [Option.map_some, Option.toList_some, List.cons_append, List.nil_append,
        List.append_nil, List.mem_cons, List.not_mem_nil, or_false] at hentry
    · rcases hentry with rfl | rfl | rfl | rfl <;> simp [itemFieldAllowed]
    · rcases hentry with rfl | rfl | rfl <;> simp [itemFieldAllowed]
  have hmem := fun entry hentry => hallowed entry (NbtFields.mem_ofList hentry)
  by_cases hdamage : stack.damage ≠ 0
  · constructor <;> first | exact hmem | simp [itemFields, hdamage, NbtFields.ofList]
  · constructor <;> first | exact hmem | simp [itemFields, not_not.mp hdamage, NbtFields.ofList]

section

variable {stack : ItemStack} {slot : Int} {compound : NbtFields}

theorem ItemFields.valid (h : ItemFields stack slot compound) :
    validateStorageItem compound true "container" = .ok () := by
  have hfind : (compound.find? fun entry => !itemFieldAllowed true entry.1) = none :=
    List.find?_eq_none.mpr fun entry hentry => by simp [h.allowed entry hentry]
  unfold validateStorageItem
  rw [hfind]
  simp [h.tag]

theorem ItemFields.read (h : ItemFields stack slot compound) (hstack : Storable stack)
    (hcount : stack.count < 128) : ∃ read, itemStackFromNbt compound = .ok read := by
  have hid : compound.stringField "id" = .ok stack.key := by
    rw [NbtFields.stringField, h.id]
  have hnumber : itemCountOrZero compound = .ok stack.count := by
    unfold itemCountOrZero tryUnsigned
    rw [h.count]
    dsimp only
    rw [if_pos (by omega)]
    rfl
  obtain ⟨damage, hdamage⟩ : ∃ damage, itemDamage compound = .ok damage := by
    have hget := h.damage
    have hfits := hstack.2
    unfold itemDamage tryUnsigned
    split at hget
    · rw [hget]
      dsimp only
      rw [if_pos (by omega)]
      exact ⟨_, rfl⟩
    · rw [hget]
      exact ⟨0, rfl⟩
  refine ⟨.new stack.key stack.count damage, ?_⟩
  unfold itemStackFromNbt
  rw [hid, hnumber, hdamage]
  rfl

end

theorem decodeContainerItem_written (hstack : Storable stack) (hcount : stack.count < 128)
    {index : Nat} (hindex : index < slots.length) : ∃ slots', decodeContainerItem slots
        (.compound (NbtFields.ofList (itemFields stack (some index)))) = .ok slots' ∧
      slots'.length = slots.length := by
  have hfields := itemFields_written stack index
  generalize NbtFields.ofList (itemFields stack (some index)) = compound at hfields
  obtain ⟨read, hread⟩ := hfields.read hstack hcount
  have hslot : compound.byteField "Slot" = .ok index := by
    rw [NbtFields.byteField, hfields.slot]
  have hplace : LegacyAnvil.nonNegative "negative item slot index" (index : Int) = .ok index := by
    unfold LegacyAnvil.nonNegative
    rw [if_neg (by omega)]
    rfl
  refine ⟨slots.set index (some read), ?_, List.length_set⟩
  refine except_bind_eq_ok.mpr ⟨compound, rfl, except_bind_eq_ok.mpr ⟨(), hfields.valid,
    except_bind_eq_ok.mpr ⟨index, hslot, except_bind_eq_ok.mpr ⟨index, hplace, ?_⟩⟩⟩⟩
  rw [if_neg (by omega), hread]
  rfl

theorem decodeContainerItems_written (hslots : SlotsOf slotCount slots) (hcount : slotCount ≤ 128)
    (hitems : encodeContainerItemList slots = .ok items) :
    ∃ read, decodeContainerItems items slotCount = .ok read := by
  obtain ⟨read, hread, -⟩ := exists_foldlM (f := decodeContainerItem)
    (fun read => read.length = slotCount) (l := items) (s := List.replicate slotCount none)
    (fun read tag htag hlength => by
      obtain ⟨item, hitem, hwrite⟩ := mem_mapM hitems htag
      obtain ⟨hindex, hget⟩ := List.getElem?_eq_some_iff.mp (mem_containerItems.mp hitem)
      have hstored : Storable item.1 := hslots.2 item.1 (hget ▸ List.getElem_mem hindex)
      have hlow := (encodeContainerItemList_ok hslots hcount).mp ⟨items, hitems⟩ item.1
        (hget ▸ List.getElem_mem hindex)
      have hplace : item.2 < slotCount := hslots.1 ▸ hindex
      rw [encodeContainerItem, if_neg (by omega), itemStackToNbt, if_pos hstored.1,
        if_neg (by omega)] at hwrite
      cases hwrite
      obtain ⟨read', hread', hlength'⟩ :=
        decodeContainerItem_written hstored hlow (hlength.symm ▸ hplace)
      exact ⟨read', hread', hlength'.trans hlength⟩)
    List.length_replicate
  exact ⟨read, hread⟩

theorem exists_shortField (default : Int) (compound : NbtFields) (key : String) :
    ∃ value, Storage.unwrapOr default (shortField compound key) = .ok value := by
  unfold shortField
  split
  · exact ⟨_, rfl⟩
  · split
    · exact ⟨_, rfl⟩
    · exact ⟨default, rfl⟩
  · exact ⟨default, rfl⟩

theorem exists_furnaceProperties (compound : NbtFields) :
    ∃ properties, furnaceProperties compound = .ok properties := by
  obtain ⟨burnLeft, hleft⟩ := exists_shortField 0 compound "BurnTime"
  obtain ⟨burnMax, hmax⟩ := exists_shortField burnLeft compound "BurnTimeMax"
  obtain ⟨cookProgress, hprogress⟩ := exists_shortField 0 compound "CookTime"
  obtain ⟨cookTotal, htotal⟩ := exists_shortField 200 compound "CookTimeTotal"
  exact ⟨_, except_bind_eq_ok.mpr ⟨burnLeft, hleft, except_bind_eq_ok.mpr ⟨burnMax, hmax,
    except_bind_eq_ok.mpr ⟨cookProgress, hprogress, except_bind_eq_ok.mpr ⟨cookTotal, htotal,
      rfl⟩⟩⟩⟩⟩

/-- A compound that names a position, a kind of container and items that fit it is read. -/
theorem exists_decodeBlockEntity {x z : Int} {id : String} (hx : compound.get "x" = some (.int x))
    (hy : compound.get "y" = some (.int y)) (hz : compound.get "z" = some (.int z))
    (hid : compound.get "id" = some (.string id))
    (hitems : compound.get "Items" = some (.list 10 items))
    (hkind : (id = "minecraft:chest" ∧ ∃ read, decodeContainerItems items 27 = .ok read) ∨
      (id = "minecraft:furnace" ∧ ∃ read, decodeContainerItems items 3 = .ok read)) :
    ∃ read, decodeBlockEntity (.compound compound) = .ok read := by
  have hposition : entityPosition compound = .ok ⟨x, y, z⟩ := by
    simp only [entityPosition, NbtFields.intField, hx, hy, hz]
    rfl
  have hlist : LegacyAnvil.okOrNothing (compound.listField "Items") = .ok items := by
    rw [NbtFields.listField, hitems]
    rfl
  unfold decodeBlockEntity
  simp only [NbtTag.asCompound, NbtFields.stringField, hid, bind, Except.bind, hposition, hlist]
  rcases hkind with ⟨rfl, read, hread⟩ | ⟨rfl, read, hread⟩
  · rw [if_pos (.inl rfl), hread]
    exact ⟨_, rfl⟩
  · obtain ⟨properties, hproperties⟩ := exists_furnaceProperties compound
    rw [if_neg (by decide), if_pos (.inl rfl), hread, hproperties]
    exact ⟨_, rfl⟩

theorem exists_bind_ok_iff {ε α β : Type} {x : Except ε α} {f : α → β} :
    (∃ tag, (x >>= fun items => pure (f items)) = .ok tag) ↔ ∃ items, x = .ok items := by
  constructor
  · rintro ⟨tag, htag⟩
    obtain ⟨items, hitems, -⟩ := except_bind_eq_ok.mp htag
    exact ⟨items, hitems⟩
  · rintro ⟨items, hitems⟩
    exact ⟨_, except_bind_eq_ok.mpr ⟨items, hitems, rfl⟩⟩

/-- A block entity that was read is written when no stack passes a byte, and it is read again. -/
theorem encodeBlockEntity_ok {blockEntity : BlockEntityState} (h : LoadedEntity blockEntity)
    (position : BlockPos) (existing : Option NbtFields) :
    ((∃ tag, encodeBlockEntity position existing blockEntity = .ok tag) ↔
      ∀ stack, some stack ∈ blockEntity.containerState.slots → stack.count < 128) ∧
    ∀ tag, encodeBlockEntity position existing blockEntity = .ok tag →
      ∃ read, decodeBlockEntity tag = .ok read := by
  obtain ⟨container⟩ := blockEntity
  unfold encodeBlockEntity
  dsimp only [BlockEntityState.containerState]
  rcases h with ⟨hkind, hslots⟩ | ⟨hkind, hslots⟩
  · rw [if_pos hkind, ← encodeContainerItemList_ok hslots (by decide)]
    constructor
    · exact exists_bind_ok_iff
    · intro tag htag
      obtain ⟨items, hitems, htag⟩ := except_bind_eq_ok.mp htag
      cases htag
      obtain ⟨read, hread⟩ := decodeContainerItems_written hslots (by decide) hitems
      refine exists_decodeBlockEntity (x := position.x) (y := position.y) (z := position.z)
        ?_ ?_ ?_ ?_ ?_ (.inl ⟨rfl, read, hread⟩) <;> simp [entityBase]
  · have hlength := hslots.1
    have htake : container.slots.take 3 = container.slots :=
      List.take_of_length_le (Nat.le_of_eq hlength)
    have hother : container.kind ≠ Ids.CHEST_BLOCK_ENTITY := by
      rw [hkind]
      decide
    rw [if_neg hother, if_pos hkind, if_neg (by omega), htake,
      ← encodeContainerItemList_ok hslots (by decide)]
    constructor
    · exact exists_bind_ok_iff
    · intro tag htag
      obtain ⟨items, hitems, htag⟩ := except_bind_eq_ok.mp htag
      cases htag
      obtain ⟨read, hread⟩ := decodeContainerItems_written hslots (by decide) hitems
      refine exists_decodeBlockEntity (x := position.x) (y := position.y) (z := position.z)
        ?_ ?_ ?_ ?_ ?_ (.inr ⟨rfl, read, hread⟩) <;> simp [furnaceFields, entityBase]

/-! ### Saving over the root -/

/-- The numbers of a tag fit their types. -/
inductive Typed : NbtTag → Prop where
  | byte {value : Int} (h : FitsSigned 1 value) : Typed (.byte value)
  | short {value : Int} (h : FitsSigned 2 value) : Typed (.short value)
  | int {value : Int} (h : FitsSigned 4 value) : Typed (.int value)
  | long {value : Int} (h : FitsSigned 8 value) : Typed (.long value)
  | float (bits : UInt32) : Typed (.float bits)
  | double (bits : UInt64) : Typed (.double bits)
  | byteArray (values : List UInt8) : Typed (.byteArray values)
  | string (value : String) : Typed (.string value)
  | list {tagType : UInt8} {values : List NbtTag} (h : ∀ value ∈ values, Typed value) :
    Typed (.list tagType values)
  | compound {values : NbtFields} (h : ∀ entry ∈ values, Typed entry.2) : Typed (.compound values)
  | intArray {values : List Int} (h : ∀ value ∈ values, FitsSigned 4 value) :
    Typed (.intArray values)
  | longArray {values : List Int} (h : ∀ value ∈ values, FitsSigned 8 value) :
    Typed (.longArray values)

theorem mem_of_get (h : fields.get key = some tag) : (key, tag) ∈ fields := by
  induction fields with
  | nil => cases h
  | cons entry fields ih =>
    obtain ⟨k, v⟩ := entry
    rw [NbtFields.get] at h
    split at h
    next hsame =>
      cases h
      exact hsame ▸ List.mem_cons_self
    next => exact List.mem_cons_of_mem _ (ih h)

theorem asCompound_ok (h : tag.asCompound = .ok fields) : tag = .compound fields := by
  unfold NbtTag.asCompound at h
  split at h
  · cases h
    rfl
  · cases h

theorem listField_ok {tags : List NbtTag} (h : fields.listField key = .ok tags) :
    ∃ tagType, fields.get key = some (.list tagType tags) := by
  unfold NbtFields.listField at h
  split at h
  next tagType values hget =>
    cases h
    exact ⟨tagType, hget⟩
  next => cases h

theorem Typed.get (h : Typed (.compound fields)) (hget : fields.get key = some tag) :
    Typed tag := by
  cases h with
  | compound h => exact h _ (mem_of_get hget)

theorem Typed.sectionEntry (h : Typed tag) {entry : Int × NbtFields}
    (hentry : sectionEntry tag = .ok entry) : FitsSigned 1 entry.1 := by
  obtain ⟨fields, hfields, hentry⟩ := except_bind_eq_ok.mp hentry
  obtain ⟨sectionY, hheight, hentry⟩ := except_bind_eq_ok.mp hentry
  cases hentry
  rw [asCompound_ok hfields] at h
  unfold NbtFields.byteField at hheight
  split at hheight
  next value hget =>
    cases hheight
    cases h.get hget with
    | byte h => exact h
  next => cases hheight

/-- A root that is read, with the chunk and the block entities that are read of it. -/
structure Loads (fields : NbtFields) (chunk : ChunkColumn)
    (blockEntities : BTreeMap BlockPos BlockEntityState) (entries : List (Int × NbtFields)) :
    Prop where
  sections : existingSectionMap fields = .ok (BTreeMap.insertAll ∅ entries)
  layers : ∀ entry ∈ entries, ∃ layer, topBiomeLayer entry.2 = .ok layer
  biomes : chunk.biomes = decodeColumnBiomes (BTreeMap.insertAll ∅ (layersOf entries))
  placed : Placed chunk
  heights : ∀ entry ∈ entries, FitsSigned 1 entry.1
  entities : ∀ (position : BlockPos) blockEntity, blockEntities[position]? = some blockEntity →
    LoadedEntity blockEntity
  /-- The block entities of the root are told apart by their positions, if they are a list. -/
  positions : (∃ existing, existingBlockEntityMap fields = .ok existing) ↔
    ∀ tag, fields.get "block_entities" = some tag → tag.tagType = 9

theorem getElem?_insertAll_mem {K V : Type} [Ord K] [TransOrd K] [LawfulEqOrd K] [DecidableEq K]
    {entries : List (K × V)} {m : BTreeMap K V} {k : K} {v : V}
    (h : (BTreeMap.insertAll m entries)[k]? = some v) : (k, v) ∈ entries ∨ m[k]? = some v := by
  induction entries generalizing m with
  | nil => exact .inr h
  | cons entry entries ih =>
    rcases ih h with hmem | hget
    · exact .inl (List.mem_cons_of_mem _ hmem)
    · rw [BTreeMap.getElem?_insert_eq] at hget
      split at hget
      next hsame =>
        cases hget
        exact .inl (hsame ▸ List.mem_cons_self)
      next => exact .inr hget

theorem entityEntry_of_decode {read : BlockPos × BlockEntityState}
    (h : decodeBlockEntity tag = .ok read) : ∃ entry, entityEntry tag = .ok entry := by
  obtain ⟨compound, hcompound, h⟩ := except_bind_eq_ok.mp h
  obtain ⟨id, -, h⟩ := except_bind_eq_ok.mp h
  obtain ⟨position, hposition, -⟩ := except_bind_eq_ok.mp h
  exact ⟨(position, compound), except_bind_eq_ok.mpr ⟨compound, hcompound,
    except_bind_eq_ok.mpr ⟨position, hposition, rfl⟩⟩⟩

theorem chunkFromNbt_loads {root : NbtTag} (htyped : Typed root)
    {loaded : ChunkColumn × BTreeMap BlockPos BlockEntityState}
    (h : chunkFromNbt root = .ok loaded) :
    ∃ fields entries, root = .compound fields ∧ Loads fields loaded.1 loaded.2 entries := by
  obtain ⟨fields, hfields, h⟩ := except_bind_eq_ok.mp h
  obtain ⟨u, -, h⟩ := except_bind_eq_ok.mp h
  obtain ⟨x, -, h⟩ := except_bind_eq_ok.mp h
  obtain ⟨z, -, h⟩ := except_bind_eq_ok.mp h
  obtain ⟨tags, htags, h⟩ := except_bind_eq_ok.mp h
  obtain ⟨decoded, hdecoded, h⟩ := except_bind_eq_ok.mp h
  obtain ⟨entityTags, hentityTags, h⟩ := except_bind_eq_ok.mp h
  obtain ⟨entities, hentities, h⟩ := except_bind_eq_ok.mp h
  cases h
  obtain rfl := asCompound_ok hfields
  obtain ⟨tagType, hsections⟩ := listField_ok htags
  obtain ⟨entries, hentries, hlayers, htops⟩ := decodeSections_ok hdecoded
  have hheights : ∀ tag ∈ tags, ∀ entry, sectionEntry tag = .ok entry → FitsSigned 1 entry.1 := by
    intro tag htag entry hentry
    cases htyped.get hsections with
    | list hall => exact (hall tag htag).sectionEntry hentry
  refine ⟨fields, entries, rfl, ?_⟩
  refine ⟨?_, hlayers, congrArg decodeColumnBiomes htops, ?_, fun entry hentry => ?_,
    fun position blockEntity hget => ?_, ?_⟩
  · unfold existingSectionMap
    rw [hsections]
    exact except_bind_eq_ok.mpr ⟨entries, hentries, rfl⟩
  · have hempty : Placed (ChunkColumn.new ⟨x, z⟩) := fun sectionY part hpart => by
      have hnone : (∅ : BTreeMap Int ChunkSection)[sectionY]? = some part := hpart
      simp at hnone
    have hplaced : Placed decoded.1 :=
      foldlM_keeps (fun state => Placed state.1) (fun state tag state' htag hstate hstep => by
        obtain ⟨entry, layer, hentry, -, hblocks, -⟩ := decodeSection_ok hstep
        exact hstate.decodeSectionBlocks (hheights tag htag entry hentry) hblocks) hempty hdecoded
    exact hplaced
  · obtain ⟨tag, htag, hread⟩ := mem_mapM hentries hentry
    exact hheights tag htag entry hread
  · rcases getElem?_insertAll_mem hget with hmem | hnone
    · obtain ⟨tag, -, hread⟩ := mem_mapM hentities hmem
      exact decodeBlockEntity_loaded hread
    · simp at hnone
  · unfold existingBlockEntityMap
    cases hget : fields.get "block_entities" with
    | none => exact iff_of_true ⟨∅, rfl⟩ fun tag htag => by cases htag
    | some tag =>
      cases tag with
      | list tagType tags =>
        have hlist : fields.listField "block_entities" = .ok tags := by
          rw [NbtFields.listField, hget]
        rw [hlist] at hentityTags
        obtain rfl : tags = entityTags := Except.ok.inj hentityTags
        obtain ⟨existing, hexisting⟩ := exists_mapM (f := entityEntry) (l := tags)
          fun tag htag => by
          obtain ⟨read, -, hread⟩ := mapM_mem hentities htag
          exact entityEntry_of_decode hread
        refine iff_of_true ⟨_, except_bind_eq_ok.mpr ⟨existing, hexisting, rfl⟩⟩ fun tag htag => ?_
        cases htag
        rfl
      | _ =>
        refine iff_of_false (fun h => ?_) fun h => absurd (h _ rfl) (by
          simp [NbtTag.tagType])
        obtain ⟨existing, h⟩ := h
        cases h

theorem encodeBlockEntities_ok {blockEntities : BTreeMap BlockPos BlockEntityState}
    (h : ∀ (position : BlockPos) blockEntity, blockEntities[position]? = some blockEntity →
      LoadedEntity blockEntity) (existing : BTreeMap BlockPos NbtFields) :
    ((∃ tags, encodeBlockEntities chunk blockEntities existing = .ok tags) ↔
      ∀ (position : BlockPos) blockEntity stack, blockEntities[position]? = some blockEntity →
        position.chunkPos = chunk.pos → some stack ∈ blockEntity.containerState.slots →
          stack.count < 128) ∧
    ∀ tags, encodeBlockEntities chunk blockEntities existing = .ok tags →
      ∃ read, tags.mapM decodeBlockEntity = .ok read := by
  have hmem : ∀ entry : BlockPos × BlockEntityState,
      entry ∈ blockEntities.toList.filter (fun entry => entry.1.chunkPos = chunk.pos) ↔
        blockEntities[entry.1]? = some entry.2 ∧ entry.1.chunkPos = chunk.pos := by
    intro entry
    rw [List.mem_filter, ← BTreeMap.mem_toList, decide_eq_true_eq]
  constructor
  · constructor
    · rintro ⟨tags, htags⟩ position blockEntity stack hget hpos hstack
      obtain ⟨tag, -, htag⟩ := mapM_mem htags ((hmem (position, blockEntity)).mpr ⟨hget, hpos⟩)
      exact (encodeBlockEntity_ok (h position blockEntity hget) position
        existing[position]?).1.mp ⟨tag, htag⟩ stack hstack
    · intro hcounts
      refine exists_mapM fun entry hentry => ?_
      obtain ⟨hget, hpos⟩ := (hmem entry).mp hentry
      exact (encodeBlockEntity_ok (h entry.1 entry.2 hget) entry.1 existing[entry.1]?).1.mpr
        fun stack hstack => hcounts entry.1 entry.2 stack hget hpos hstack
  · intro tags htags
    refine exists_mapM fun tag htag => ?_
    obtain ⟨entry, hentry, hread⟩ := mem_mapM htags htag
    obtain ⟨hget, -⟩ := (hmem entry).mp hentry
    exact (encodeBlockEntity_ok (h entry.1 entry.2 hget) entry.1 existing[entry.1]?).2 tag hread

theorem length_writtenLayer (chunk : ChunkColumn) (sections : BTreeMap Int NbtFields)
    (sectionY : Int) : (writtenLayer chunk sections sectionY).length = 16 := by
  unfold writtenLayer
  cases hlayer : (sections[sectionY]?).bind layerOf with
  | none => exact List.length_replicate
  | some layer =>
    obtain ⟨fields, -, hfields⟩ := Option.bind_eq_some_iff.mp hlayer
    exact layerOf_length hfields

section Saved

variable {fields : NbtFields} {chunk : ChunkColumn}
  {blockEntities : BTreeMap BlockPos BlockEntityState} {entries : List (Int × NbtFields)}

theorem Loads.read (h : Loads fields chunk blockEntities entries) (sectionY : Int)
    (existing : NbtFields)
    (hget : (BTreeMap.insertAll (∅ : BTreeMap Int NbtFields) entries)[sectionY]? = some existing) :
    FitsSigned 1 sectionY ∧ ∃ layer, topBiomeLayer existing = .ok layer := by
  rcases getElem?_insertAll_mem hget with hmem | hnone
  · exact ⟨h.heights _ hmem, h.layers _ hmem⟩
  · simp at hnone

theorem Loads.heights_fit (h : Loads fields chunk blockEntities entries) (edits : List Edit) :
    ∀ sectionY ∈ sectionYValues (edited chunk edits) (BTreeMap.insertAll ∅ entries),
      FitsSigned 1 sectionY := by
  intro sectionY hmem
  rcases mem_sectionYValues.mp hmem with hold | hnew
  · split at hold
    · unfold JE_1_18_2_MIN_SECTION_Y JE_1_18_2_MAX_SECTION_Y at hold
      unfold FitsSigned
      omega
    · obtain ⟨existing, hexisting⟩ := Option.isSome_iff_exists.mp hold
      exact (h.read sectionY existing hexisting).1
  · obtain ⟨part, hpart⟩ := Option.isSome_iff_exists.mp hnew
    exact (h.placed.edited edits sectionY part hpart).1

/-- What a save writes is read again, with the biomes of the topmost layer that is written. -/
theorem Loads.saved (h : Loads fields chunk blockEntities entries) (edits : List Edit) {top : Int}
    (htop : (sectionYValues (edited chunk edits) (BTreeMap.insertAll ∅ entries)).getLast? =
      some top)
    {existing : BTreeMap BlockPos NbtFields}
    (hexisting : existingBlockEntityMap fields = .ok existing) {entityTags : List NbtTag}
    (hentities : encodeBlockEntities (edited chunk edits) blockEntities existing =
      .ok entityTags) :
    ∃ root saved, chunkToNbt (edited chunk edits) blockEntities (some (.compound fields)) =
        .ok root ∧ chunkFromNbt root = .ok saved ∧
      saved.1.biomes = layerBiomes
        (writtenLayer (edited chunk edits) (BTreeMap.insertAll ∅ entries) top) := by
  generalize hsections : BTreeMap.insertAll (∅ : BTreeMap Int NbtFields) entries = sections
    at htop ⊢
  have hread := fun sectionY existing hget => (h.read sectionY existing (hsections ▸ hget)).2
  have hfit := h.heights_fit edits
  rw [hsections] at hfit
  obtain ⟨top', htop', hmem, hbelow, -⟩ := exists_top (edited chunk edits) sections
  obtain rfl : top' = top := Option.some.inj (htop'.symm.trans htop)
  obtain ⟨tags, htags, hdecode⟩ := sectionTags_read (h.placed.edited edits) hread hfit
  obtain ⟨chunk', hchunk'⟩ := hdecode (ChunkColumn.new (edited chunk edits).pos, ∅)
  obtain ⟨read, hentitiesRead⟩ :=
    (encodeBlockEntities_ok h.entities existing).2 entityTags hentities
  generalize hys : sectionYValues (edited chunk edits) sections = sectionYs at *
  generalize hroot : ((chunkFields fields (edited chunk edits) sectionYs).insert "sections"
    (.list 10 tags)).insert "block_entities" (.list 10 entityTags) = root
  have hwrite : chunkToNbt (edited chunk edits) blockEntities (some (.compound fields)) =
      .ok (.compound root) := by
    refine except_bind_eq_ok.mpr ⟨fields, rfl, except_bind_eq_ok.mpr ⟨sections, hsections ▸
      h.sections, except_bind_eq_ok.mpr ⟨existing, hexisting, except_bind_eq_ok.mpr ⟨tags, ?_,
        except_bind_eq_ok.mpr ⟨entityTags, hentities, ?_⟩⟩⟩⟩⟩
    · rw [hys]
      exact htags
    · rw [← hroot, hys]
      rfl
  have hentityList : LegacyAnvil.okOrNothing (root.listField "block_entities") =
      .ok entityTags := by
    have hget : root.get "block_entities" = some (.list 10 entityTags) := by
      rw [← hroot]
      simp
    rw [NbtFields.listField, hget]
    rfl
  have hversion : validateChunkDataVersion root = .ok () := by
    have hget : root.get "DataVersion" = some (.int JE_1_18_2_DATA_VERSION) := by
      rw [← hroot]
      simp [chunkFields, get_orInsert]
    simp only [validateChunkDataVersion, NbtFields.intField, hget]
    rfl
  have hx : root.intField "xPos" = .ok (edited chunk edits).pos.x := by
    have hget : root.get "xPos" = some (.int (edited chunk edits).pos.x) := by
      rw [← hroot]
      simp [chunkFields, get_orInsert]
    rw [NbtFields.intField, hget]
  have hz : root.intField "zPos" = .ok (edited chunk edits).pos.z := by
    have hget : root.get "zPos" = some (.int (edited chunk edits).pos.z) := by
      rw [← hroot]
      simp [chunkFields, get_orInsert]
    rw [NbtFields.intField, hget]
  have hsectionList : root.listField "sections" = .ok tags := by
    have hget : root.get "sections" = some (.list 10 tags) := by
      rw [← hroot]
      simp
    rw [NbtFields.listField, hget]
  refine ⟨.compound root, _, hwrite, except_bind_eq_ok.mpr ⟨root, rfl, except_bind_eq_ok.mpr
    ⟨(), hversion, except_bind_eq_ok.mpr ⟨_, hx, except_bind_eq_ok.mpr ⟨_, hz,
      except_bind_eq_ok.mpr ⟨tags, hsectionList, except_bind_eq_ok.mpr ⟨_, hchunk',
        except_bind_eq_ok.mpr ⟨entityTags, hentityList, except_bind_eq_ok.mpr
          ⟨read, hentitiesRead, rfl⟩⟩⟩⟩⟩⟩⟩⟩, ?_⟩
  have hlayers : ∀ y : Int, (BTreeMap.insertAll (∅ : BTreeMap Int (List String))
      (sectionYs.map fun sectionY =>
        (sectionY, writtenLayer (edited chunk edits) sections sectionY)))[y]? =
          if y ∈ sectionYs then some (writtenLayer (edited chunk edits) sections y) else none := by
    intro y
    have hsame : ∀ entry ∈ sectionYs.map fun sectionY =>
        (sectionY, writtenLayer (edited chunk edits) sections sectionY),
          some (writtenLayer (edited chunk edits) sections entry.1) = some entry.2 := by
      simp
    have hget := BTreeMap.getElem?_insertAll
      (f := fun sectionY => some (writtenLayer (edited chunk edits) sections sectionY)) hsame ∅ y
    simpa using hget
  refine decodeColumnBiomes_top ((hlayers top').trans (if_pos hmem)) (length_writtenLayer _ _ _)
    fun y layer hget => ?_
  rw [hlayers] at hget
  split at hget
  next hy => exact hbelow y hy
  next => cases hget

end Saved

/-! ### When the biomes are kept -/

/-- The topmost section of a save has biomes in the root that it is saved over. -/
def TopHasBiomes (fields : NbtFields) (chunk : ChunkColumn) : Prop :=
  ∃ sections, existingSectionMap fields = .ok sections ∧ ∃ sectionY,
    (sectionYValues chunk sections).getLast? = some sectionY ∧
      ∃ existing, sections[sectionY]? = some existing ∧ existing.get "biomes" ≠ none

/-- What a root, what was loaded of it and the chunk that is saved over it have to be. -/
structure KeepsBiomes (root : NbtTag) (loaded : ChunkColumn × BTreeMap BlockPos BlockEntityState)
    (chunk : ChunkColumn) : Prop where
  /-- The reader takes block entities that are not a list for none; the writer does not. -/
  blockEntities : ∀ (fields : NbtFields) tag, root = .compound fields →
    fields.get "block_entities" = some tag → tag.tagType = 9
  /-- A count is read of a short or an integer too, but written as a byte. -/
  counts : ∀ (position : BlockPos) blockEntity stack, loaded.2[position]? = some blockEntity →
    position.chunkPos = loaded.1.pos → some stack ∈ blockEntity.containerState.slots →
      stack.count < 128
  top : (∃ fields, root = .compound fields ∧ TopHasBiomes fields chunk) ∨
    ∃ biome, loaded.1.biomes = List.replicate 256 biome

theorem writtenLayer_uniform {top : Int}
    (h : ∀ existing, sections[top]? = some existing → existing.get "biomes" = none) :
    layerBiomes (writtenLayer chunk sections top) =
      List.replicate 256 (legacyBiomeId (uniformBiomeName chunk)) := by
  have hnone : (sections[top]?).bind layerOf = none := by
    cases hget : sections[top]? with
    | none => rfl
    | some existing => exact layerOf_none (h existing hget)
  rw [writtenLayer, hnone, Option.getD_none, layerBiomes_replicate]

theorem uniformBiomeName_read (h : chunk.biomes = decodeColumnBiomes tops) :
    ∃ biome, chunk.biomes.head? = some biome ∧
      legacyBiomeId (uniformBiomeName chunk) = biome := by
  refine ⟨legacyBiomeId (topColumnBiomeName tops 0 0), by rw [h]; rfl, ?_⟩
  unfold uniformBiomeName
  rw [show chunk.biomes.head? = some (legacyBiomeId (topColumnBiomeName tops 0 0)) by rw [h]; rfl]
  exact legacyBiomeId_modernBiomeName _

theorem Loads.kept_iff {entries : List (Int × NbtFields)}
    {loaded : ChunkColumn × BTreeMap BlockPos BlockEntityState}
    (h : Loads fields loaded.1 loaded.2 entries) (edits : List Edit) :
    (∃ root' saved, chunkToNbt (edited loaded.1 edits) loaded.2 (some (.compound fields)) =
        .ok root' ∧ chunkFromNbt root' = .ok saved ∧ saved.1.biomes = loaded.1.biomes) ↔
      KeepsBiomes (.compound fields) loaded (edited loaded.1 edits) := by
  obtain ⟨top, htop, -, hbelow, hold⟩ :=
    exists_top (edited loaded.1 edits) (BTreeMap.insertAll ∅ entries)
  obtain ⟨hpos, hbiomes⟩ := edited_pos loaded.1 edits
  have hcounts := fun existing => (@encodeBlockEntities_ok (edited loaded.1 edits) loaded.2
    h.entities existing).1
  rw [hpos] at hcounts
  -- a top section with biomes was the topmost one with biomes before
  have hkept : ∀ existing, (BTreeMap.insertAll (∅ : BTreeMap Int NbtFields) entries)[top]? =
      some existing → existing.get "biomes" ≠ none →
        layerBiomes (writtenLayer (edited loaded.1 edits) (BTreeMap.insertAll ∅ entries) top) =
          loaded.1.biomes := by
    intro existing hget hhas
    obtain ⟨-, layer, hlayer⟩ := h.read top existing hget
    obtain ⟨cells, rfl, hlength⟩ := topBiomeLayer_some hhas hlayer
    have htops := topLayers_insertAll entries
    rw [h.biomes, writtenLayer, hget, Option.bind_some, layerOf_some hlayer, Option.getD_some]
    exact (decodeColumnBiomes_top (htops.shown top existing cells hget (layerOf_some hlayer))
      hlength fun y below hshown => hbelow y (hold y (htops.within y below hshown))).symm
  have huniform : (∀ existing, (BTreeMap.insertAll (∅ : BTreeMap Int NbtFields) entries)[top]? =
      some existing → existing.get "biomes" = none) →
        ∃ biome, loaded.1.biomes.head? = some biome ∧
          layerBiomes (writtenLayer (edited loaded.1 edits) (BTreeMap.insertAll ∅ entries) top) =
            List.replicate 256 biome := by
    intro hnone
    obtain ⟨biome, hhead, hname⟩ := uniformBiomeName_read (hbiomes.trans h.biomes)
    exact ⟨biome, hbiomes ▸ hhead, by rw [writtenLayer_uniform hnone, hname]⟩
  constructor
  · rintro ⟨root', saved, hwrite, hread, hsame⟩
    obtain ⟨fields', hfields, hrest⟩ := except_bind_eq_ok.mp hwrite
    cases hfields
    obtain ⟨sections, hsections, hrest⟩ := except_bind_eq_ok.mp hrest
    obtain rfl : BTreeMap.insertAll ∅ entries = sections :=
      Except.ok.inj (h.sections.symm.trans hsections)
    obtain ⟨existing, hexisting, hrest⟩ := except_bind_eq_ok.mp hrest
    obtain ⟨tags, -, hrest⟩ := except_bind_eq_ok.mp hrest
    obtain ⟨entityTags, hentities, -⟩ := except_bind_eq_ok.mp hrest
    obtain ⟨root₂, saved₂, hwrite₂, hread₂, hsaved⟩ := h.saved edits htop hexisting hentities
    obtain rfl : root₂ = root' := Except.ok.inj (hwrite₂.symm.trans hwrite)
    obtain rfl : saved₂ = saved := Except.ok.inj (hread₂.symm.trans hread)
    refine ⟨fun fields' tag hroot => ?_, (hcounts existing).mp ⟨entityTags, hentities⟩, ?_⟩
    · cases hroot
      exact h.positions.mp ⟨existing, hexisting⟩ tag
    · by_cases hhas : ∃ existing, (BTreeMap.insertAll (∅ : BTreeMap Int NbtFields) entries)[top]? =
          some existing ∧ existing.get "biomes" ≠ none
      · exact .inl ⟨fields, rfl, _, h.sections, top, htop, hhas⟩
      · obtain ⟨biome, -, hall⟩ := huniform fun existing hget =>
          not_not.mp fun hne => hhas ⟨existing, hget, hne⟩
        exact .inr ⟨biome, hsame.symm.trans (hsaved.trans hall)⟩
  · intro hkeeps
    obtain ⟨existing, hexisting⟩ := h.positions.mpr fun tag => hkeeps.blockEntities fields tag rfl
    obtain ⟨entityTags, hentities⟩ := (hcounts existing).mpr hkeeps.counts
    obtain ⟨root', saved, hwrite, hread, hsaved⟩ := h.saved edits htop hexisting hentities
    refine ⟨root', saved, hwrite, hread, hsaved.trans ?_⟩
    by_cases hhas : ∃ existing, (BTreeMap.insertAll (∅ : BTreeMap Int NbtFields) entries)[top]? =
        some existing ∧ existing.get "biomes" ≠ none
    · obtain ⟨existing, hget, hne⟩ := hhas
      exact hkept existing hget hne
    · obtain ⟨biome, hhead, hall⟩ := huniform fun existing hget =>
        not_not.mp fun hne => hhas ⟨existing, hget, hne⟩
      rcases hkeeps.top with ⟨fields', hroot, sections, hsections, sectionY, hlast, hother⟩ |
        ⟨biome', hconstant⟩
      · cases hroot
        obtain rfl : BTreeMap.insertAll ∅ entries = sections :=
          Except.ok.inj (h.sections.symm.trans hsections)
        obtain rfl : top = sectionY := Option.some.inj (htop.symm.trans hlast)
        exact absurd hother hhas
      · rw [hall, hconstant]
        rw [hconstant] at hhead
        cases hhead
        rfl

/-- A chunk that is edited and saved over the root it was loaded from is read back with its biomes
    just when the topmost section it is saved with has biomes in the root, or all columns have one
    biome; unless the save fails. -/
theorem biomes_kept_iff {root : NbtTag} (htyped : Typed root)
    {loaded : ChunkColumn × BTreeMap BlockPos BlockEntityState}
    (hload : chunkFromNbt root = .ok loaded) (edits : List Edit) :
    (∃ root' saved, chunkToNbt (edited loaded.1 edits) loaded.2 (some root) = .ok root' ∧
        chunkFromNbt root' = .ok saved ∧ saved.1.biomes = loaded.1.biomes) ↔
      KeepsBiomes root loaded (edited loaded.1 edits) := by
  obtain ⟨fields, entries, rfl, h⟩ := chunkFromNbt_loads htyped hload
  exact h.kept_iff edits

/-! A chunk with a desert in its first four columns and rows, above nothing. -/

def mixedSection : NbtFields :=
  [("Y", .byte 0), ("biomes", .compound [("data", .longArray [2 ^ 48]),
    ("palette", .list 8 [.string "minecraft:plains", .string "minecraft:desert"])])]

def mixedFields : NbtFields :=
  [("DataVersion", .int 2975), ("sections", .list 10 [.compound mixedSection]), ("xPos", .int 0),
    ("zPos", .int 0)]

def mixedLayer : List String := "minecraft:desert" :: List.replicate 15 "minecraft:plains"

def mixedTops : BTreeMap Int (List String) := (∅ : BTreeMap Int (List String)).insert 0 mixedLayer

def mixedChunk : ChunkColumn := ⟨⟨0, 0⟩, ∅, decodeColumnBiomes mixedTops⟩

theorem mixed_layer : topBiomeLayer mixedSection = .ok (some mixedLayer) := by rfl

theorem mixed_loaded : chunkFromNbt (.compound mixedFields) = .ok (mixedChunk, ∅) :=
  except_bind_eq_ok.mpr ⟨mixedFields, rfl, except_bind_eq_ok.mpr ⟨(), rfl, except_bind_eq_ok.mpr
    ⟨0, rfl, except_bind_eq_ok.mpr ⟨0, rfl, except_bind_eq_ok.mpr ⟨[.compound mixedSection], rfl,
      except_bind_eq_ok.mpr ⟨(ChunkColumn.new ⟨0, 0⟩, mixedTops), except_bind_eq_ok.mpr
        ⟨_, except_bind_eq_ok.mpr ⟨(0, mixedSection), rfl, except_bind_eq_ok.mpr
          ⟨ChunkColumn.new ⟨0, 0⟩, rfl, except_bind_eq_ok.mpr ⟨_, mixed_layer, rfl⟩⟩⟩, rfl⟩,
        except_bind_eq_ok.mpr ⟨[], rfl, except_bind_eq_ok.mpr ⟨[], rfl, rfl⟩⟩⟩⟩⟩⟩⟩⟩

theorem mixed_typed : Typed (.compound mixedFields) := by
  have hbiomes : Typed (.compound [("data", .longArray [2 ^ 48]), ("palette",
      .list 8 [.string "minecraft:plains", .string "minecraft:desert"])]) := by
    refine .compound fun entry hentry => ?_
    rcases List.mem_pair.mp hentry with rfl | rfl
    · exact .longArray fun value hvalue => by
        rw [List.mem_singleton.mp hvalue]
        decide
    · refine .list fun value hvalue => ?_
      rcases List.mem_pair.mp hvalue with rfl | rfl
      · exact .string _
      · exact .string _
  have hsection : Typed (.compound mixedSection) := by
    refine .compound fun entry hentry => ?_
    rcases List.mem_pair.mp hentry with rfl | rfl
    · exact .byte (by decide)
    · exact hbiomes
  refine .compound fun entry hentry => ?_
  simp only [mixedFields, List.mem_cons, List.not_mem_nil, or_false] at hentry
  rcases hentry with rfl | rfl | rfl | rfl
  · exact .int (by decide)
  · exact .list fun value hvalue => List.mem_singleton.mp hvalue ▸ hsection
  · exact .int (by decide)
  · exact .int (by decide)

theorem mixed_biomes : mixedChunk.biomes = layerBiomes mixedLayer := by
  have hget : ∀ y : Int, mixedTops[y]? = if 0 = y then some mixedLayer else none := by
    intro y
    rw [mixedTops, BTreeMap.getElem?_insert_eq]
    simp
  refine decodeColumnBiomes_top ((hget 0).trans (if_pos rfl)) rfl fun y layer hshown => ?_
  rw [hget] at hshown
  split at hshown
  next hy => exact hy ▸ Int.le_refl 0
  next => cases hshown

theorem mixed_sections : existingSectionMap mixedFields =
    .ok ((∅ : BTreeMap Int NbtFields).insert 0 mixedSection) := rfl

theorem mixed_section_iff {existing : NbtFields} :
    ((∅ : BTreeMap Int NbtFields).insert 0 mixedSection)[y]? = some existing ↔
      y = 0 ∧ existing = mixedSection := by
  rw [BTreeMap.getElem?_insert_eq]
  split
  next hy =>
    subst hy
    simp [eq_comm]
  next hy => simp [Ne.symm hy]

/-- A stone in the lowest layer of a section. -/
def stoneAt (sectionY : Int) (hlow : -128 ≤ sectionY) (hhigh : sectionY ≤ 127) : Edit where
  x := 0
  y := sectionY * SECTION_HEIGHT
  z := 0
  state := some (BlockState.new "minecraft:stone")
  section_low := by rwa [Int.mul_ediv_cancel _ (by decide)]
  section_high := by rwa [Int.mul_ediv_cancel _ (by decide)]

theorem stoneAt_sections (hlow : -128 ≤ sectionY) (hhigh : sectionY ≤ 127) (y : Int) :
    ((edited mixedChunk [stoneAt sectionY hlow hhigh]).sections[y]?).isSome ↔ sectionY = y := by
  have hheight : sectionY * SECTION_HEIGHT / SECTION_HEIGHT = sectionY :=
    Int.mul_ediv_cancel _ (by decide)
  change ((mixedChunk.setBlock 0 (sectionY * SECTION_HEIGHT) 0 (some
    (BlockState.new "minecraft:stone"))).sections[y]?).isSome ↔ _
  unfold ChunkColumn.setBlock ChunkColumn.putSection
  dsimp only
  rw [hheight]
  split
  next hempty => simp [ChunkSection.setBlock, ChunkSection.isEmpty] at hempty
  next =>
    dsimp only [mixedChunk]
    rw [BTreeMap.getElem?_insert_eq]
    split
    next hy => simp [hy]
    next hy => simp [hy]

theorem stoneAt_top (hlow : -128 ≤ sectionY) (hhigh : sectionY ≤ 127) (habove : 0 ≤ sectionY) :
    (sectionYValues (edited mixedChunk [stoneAt sectionY hlow hhigh])
      ((∅ : BTreeMap Int NbtFields).insert 0 mixedSection)).getLast? = some sectionY := by
  obtain ⟨top, htop, hmem, hbelow, -⟩ := exists_top
    (edited mixedChunk [stoneAt sectionY hlow hhigh])
    ((∅ : BTreeMap Int NbtFields).insert 0 mixedSection)
  have hle := hbelow sectionY (mem_sectionYValues.mpr
    (.inr ((stoneAt_sections hlow hhigh sectionY).mpr rfl)))
  have hge : top ≤ sectionY := by
    rcases mem_sectionYValues.mp hmem with hold | hnew
    · rw [if_neg (by simp)] at hold
      obtain ⟨existing, hexisting⟩ := Option.isSome_iff_exists.mp hold
      rw [(mixed_section_iff.mp hexisting).1]
      exact habove
    · rw [(stoneAt_sections hlow hhigh top).mp hnew]
  rw [htop, Int.le_antisymm hge hle]

/-- A stone in a section that is there keeps the biomes. -/
theorem biomes_kept_iff_inside :
    ∃ root' saved,
      chunkToNbt (edited mixedChunk [stoneAt 0 (by decide) (by decide)]) ∅
        (some (.compound mixedFields)) = .ok root' ∧
      chunkFromNbt root' = .ok saved ∧ saved.1.biomes = mixedChunk.biomes := by
  refine (biomes_kept_iff mixed_typed mixed_loaded [stoneAt 0 (by decide) (by decide)]).mpr ?_
  refine ⟨fun fields tag hroot htag => ?_, fun position blockEntity stack hget => ?_,
    .inl ⟨mixedFields, rfl, _, mixed_sections, 0,
      stoneAt_top (by decide) (by decide) (Int.le_refl 0), mixedSection,
      mixed_section_iff.mpr ⟨rfl, rfl⟩, by decide⟩⟩
  · cases hroot
    cases htag
  · simp at hget

/-- A stone above all sections loses them. -/
theorem stone_above_loses_biomes :
    chunkFromNbt (.compound mixedFields) = .ok (mixedChunk, ∅) ∧
      ¬ ∃ root' saved,
        chunkToNbt (edited mixedChunk [stoneAt 1 (by decide) (by decide)]) ∅
          (some (.compound mixedFields)) = .ok root' ∧
        chunkFromNbt root' = .ok saved ∧ saved.1.biomes = mixedChunk.biomes := by
  refine ⟨mixed_loaded, fun hkept => ?_⟩
  obtain ⟨fields, entries, hroot, hloads⟩ := chunkFromNbt_loads mixed_typed mixed_loaded
  cases hroot
  obtain ⟨fields, hroot, sections, hsections, sectionY, hlast, existing, hexisting, -⟩ |
    ⟨biome, hconstant⟩ := ((hloads.kept_iff [stoneAt 1 (by decide) (by decide)]).mp hkept).top
  · cases hroot
    obtain rfl := Except.ok.inj (mixed_sections.symm.trans hsections)
    rw [stoneAt_top (by decide) (by decide) (by decide)] at hlast
    cases hlast
    exact absurd (mixed_section_iff.mp hexisting).1 (by decide)
  · have hbiomes : layerBiomes mixedLayer = List.replicate 256 biome :=
      mixed_biomes.symm.trans hconstant
    have hfirst : (2 : UInt8) = biome := Option.some.inj (congrArg (·[0]?) hbiomes)
    have hfifth : (1 : UInt8) = biome := Option.some.inj (congrArg (·[4]?) hbiomes)
    exact absurd (hfirst.trans hfifth.symm) (by decide)

end RevyCraft.ModernAnvil
