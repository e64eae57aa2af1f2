/-
  RevyCraft/RegionFile.lean
  =========================
  **The region files of the 1.18.2 store** (`region.rs` of
  `mc-plugin-storage-je-anvil-1_18_2`).

  A file is a table of 1024 locations, 4096 bytes that nothing reads, and a run
  of whole sectors for every chunk.  A location is three bytes of offset and
  one byte of length, both in sectors; the writer does not keep the length of
  a large chunk out of the offset's bits.
-/
import RevyCraft.ModernChunks
import RevyCraft.StoredDeflate

namespace RevyCraft.ModernAnvil

open Bytes Std

def ANVIL_SECTOR_BYTES : Nat := 4096
def ANVIL_HEADER_BYTES : Nat := ANVIL_SECTOR_BYTES * 2

/-- What the store calls of the compression library. -/
structure Compression where
  zlibCompress : List UInt8 → List UInt8
  decompressZlib : List UInt8 → Storage (List UInt8)
  decompressGzip : List UInt8 → Storage (List UInt8)

def slice (bytes : List UInt8) (start length : Nat) : List UInt8 := (bytes.drop start).take length

def regionChunkIndex (pos : ChunkPos) : Nat := (pos.x % 32).toNat + (pos.z % 32).toNat * 32

/-! ### Writing -/

/-- The variables of the loop of `write_region_file`; a location is four bytes of the table. -/
structure RegionFile where
  locations : List (List UInt8)
  sectors : List (List UInt8)
  nextSector : Nat

def RegionFile.empty : RegionFile := ⟨List.replicate 1024 (beBytes 4 0), [], 2⟩

def RegionFile.bytes (file : RegionFile) : List UInt8 :=
  file.locations.flatten ++ List.replicate ANVIL_SECTOR_BYTES 0 ++ file.sectors.flatten

/-- `u32::try_from(..).expect(..)`. -/
def expectU32 (message : String) (value : Nat) : Storage Unit :=
  if value < 2 ^ 32 then .ok () else Storage.panicked message

variable (zip : Compression)

/-- `total_bytes.div_ceil(ANVIL_SECTOR_BYTES)`. -/
def sectorCount (chunkNbt : List UInt8) : Nat :=
  (4 + 1 + chunkNbt.length + (ANVIL_SECTOR_BYTES - 1)) / ANVIL_SECTOR_BYTES

def chunkSectors (chunkNbt : List UInt8) : List UInt8 :=
  beBytes 4 (chunkNbt.length + 1) ++ [2] ++ chunkNbt ++
    List.replicate (sectorCount chunkNbt * ANVIL_SECTOR_BYTES - (4 + 1 + chunkNbt.length)) 0

def RegionFile.put (file : RegionFile) (pos : ChunkPos) (chunkNbt : List UInt8) : RegionFile where
  locations := file.locations.set (regionChunkIndex pos)
    (beBytes 4 ((file.nextSector <<< 8) % 2 ^ 32 ||| sectorCount chunkNbt))
  sectors := file.sectors ++ [chunkSectors chunkNbt]
  nextSector := file.nextSector + sectorCount chunkNbt

/-- One round of the loop. -/
def writeChunk (file : RegionFile) (entry : ChunkPos × NbtTag) : Storage RegionFile := do
  let chunkNbt := zip.zlibCompress (← writeNbt "" entry.2)
  expectU32 "offset should fit into u32" file.nextSector
  expectU32 "sector count should fit into u32" (sectorCount chunkNbt)
  expectU32 "chunk payload length should fit into u32" (chunkNbt.length + 1)
  return file.put entry.1 chunkNbt

def writeRegionFile (chunks : BTreeMap ChunkPos NbtTag) : Storage (List UInt8) := do
  return (← chunks.toList.foldlM (writeChunk zip) .empty).bytes

/-! ### Reading -/

def decompress (compression : UInt8) (payload : List UInt8) : Storage (List UInt8) :=
  if compression = 1 then zip.decompressGzip payload
  else if compression = 2 then zip.decompressZlib payload
  else if compression = 3 then .ok payload
  else Storage.invalidData ("unsupported region compression " ++ toString compression.toNat)

/-- The document that stands in a run of sectors. -/
def readChunk (bytes : List UInt8) (sectorOffset sectorCount : Nat) : Storage NbtTag :=
  let start := sectorOffset * ANVIL_SECTOR_BYTES
  let finish := start + sectorCount * ANVIL_SECTOR_BYTES
  let length := beValue (slice bytes start 4)
  let compression := (bytes[start + 4]?).getD 0
  if finish > bytes.length ∨ start + 5 > finish then
    Storage.invalidData "region chunk location was out of bounds"
  else if length = 0 ∨ start + 4 + length > finish then
    Storage.invalidData "region chunk length was invalid"
  else if compression &&& 0x80 ≠ 0 then
    Storage.invalidData "external chunk streams are not supported"
  else do readNbt .modern (← decompress zip compression (slice bytes (start + 5) (length - 1)))

/-- One round of the loop of `read_region_file`. -/
def readLocation (bytes : List UInt8) (chunks : BTreeMap ChunkPos NbtTag) (index : Nat) :
    Storage (BTreeMap ChunkPos NbtTag) :=
  let location := slice bytes (index * 4) 4
  let sectorOffset := beValue (location.take 3)
  let sectorCount := beValue (location.drop 3)
  if sectorOffset = 0 ∨ sectorCount = 0 then .ok chunks
  else do
    let chunkRoot ← readChunk zip bytes sectorOffset sectorCount
    let chunk ← chunkFromNbt chunkRoot
    return chunks.insert chunk.1.pos chunkRoot

def readRegionFile (bytes : List UInt8) : Storage (BTreeMap ChunkPos NbtTag) :=
  if bytes.length < ANVIL_HEADER_BYTES then Storage.invalidData "region file is too small"
  else (List.range 1024).foldlM (readLocation zip bytes) ∅

/-! ### Slices -/

theorem slice_append (front part back : List UInt8) :
    slice (front ++ (part ++ back)) front.length part.length = part := by
  rw [slice, List.drop_left, List.take_left]

theorem slice_flatten {blocks : List (List UInt8)} {width index : Nat} {block : List UInt8}
    (hwidth : ∀ block ∈ blocks, block.length = width) (h : blocks[index]? = some block)
    (rest : List UInt8) : slice (blocks.flatten ++ rest) (index * width) width = block := by
  induction blocks generalizing index with
  | nil => simp at h
  | cons first blocks ih =>
    have hfirst := hwidth first List.mem_cons_self
    rw [List.flatten_cons, List.append_assoc]
    cases index with
    | zero =>
      cases h
      simpa [hfirst] using slice_append [] block (blocks.flatten ++ rest)
    | succ index =>
      have hdrop : (first ++ (blocks.flatten ++ rest)).drop ((index + 1) * width) =
          (blocks.flatten ++ rest).drop (index * width) := by
        rw [Nat.succ_mul, Nat.add_comm, ← List.drop_drop, ← hfirst, List.drop_left]
      rw [slice, hdrop]
      exact ih (fun other hother => hwidth other (List.mem_cons_of_mem _ hother)) h

theorem location_parts {offset count : Nat} (hoffset : offset < 2 ^ 24) (hcount : count < 256) :
    beValue ((beBytes 4 ((offset <<< 8) % 2 ^ 32 ||| count)).take 3) = offset ∧
      beValue ((beBytes 4 ((offset <<< 8) % 2 ^ 32 ||| count)).drop 3) = count := by
  have hlocation : (offset <<< 8) % 2 ^ 32 ||| count = offset * 256 + count := by
    have hshift : offset <<< 8 = offset * 256 := Nat.shiftLeft_eq offset 8
    rw [Nat.mod_eq_of_lt (by rw [hshift]; omega), ← Nat.shiftLeft_add_eq_or_of_lt (i := 8) hcount,
      hshift]
  have hbytes : beBytes 4 (offset * 256 + count) = beBytes 3 offset ++ beBytes 1 count := by
    have hmod : (offset * 256 + count) % 256 = count % 256 := by omega
    have hdiv : (offset * 256 + count) / 256 = offset := by omega
    simp only [beBytes, leBytes, hmod, hdiv, List.reverse_cons, List.reverse_nil, List.nil_append,
      List.append_assoc]
  rw [hlocation, hbytes]
  refine ⟨?_, ?_⟩
  · rw [List.take_left' (length_beBytes 3 offset)]
    exact beValue_beBytes 3 offset hoffset
  · rw [List.drop_left' (length_beBytes 3 offset)]
    exact beValue_beBytes 1 count hcount

/-! ### The round trip -/

/-- Chunks of one region that a file can hold: valid documents that name the position they are kept
    under, of at most 255 sectors each. -/
structure FitsRegion (chunks : BTreeMap ChunkPos NbtTag) : Prop where
  region : ∀ (pos : ChunkPos) (root : NbtTag) (pos' : ChunkPos) (root' : NbtTag),
    chunks[pos]? = some root → chunks[pos']? = some root' →
      pos.x / 32 = pos'.x / 32 ∧ pos.z / 32 = pos'.z / 32
  valid : ∀ (pos : ChunkPos) (root : NbtTag), chunks[pos]? = some root → root.Valid .modern
  decodes : ∀ (pos : ChunkPos) (root : NbtTag), chunks[pos]? = some root →
    ∃ chunk, chunkFromNbt root = .ok chunk ∧ chunk.1.pos = pos
  small : ∀ (pos : ChunkPos) (root : NbtTag) (bytes : List UInt8), chunks[pos]? = some root →
    writeNbt "" root = .ok bytes →
      (zip.zlibCompress bytes).length + 5 ≤ 255 * ANVIL_SECTOR_BYTES

variable {zip : Compression} {chunks : BTreeMap ChunkPos NbtTag} {file : RegionFile}
  {written : List (ChunkPos × NbtTag)} {entry : ChunkPos × NbtTag} {payload : List UInt8}

theorem regionChunkIndex_lt (pos : ChunkPos) : regionChunkIndex pos < 1024 := by
  unfold regionChunkIndex
  omega

theorem FitsRegion.eq_of_index (h : FitsRegion zip chunks) {pos pos' : ChunkPos} {root root' : NbtTag}
    (hpos : chunks[pos]? = some root) (hpos' : chunks[pos']? = some root')
    (hindex : regionChunkIndex pos = regionChunkIndex pos') : pos = pos' := by
  obtain ⟨hx, hz⟩ := h.region pos root pos' root' hpos hpos'
  obtain ⟨x, z⟩ := pos
  obtain ⟨x', z'⟩ := pos'
  simp only [regionChunkIndex, ChunkPos.mk.injEq] at hindex hx hz ⊢
  omega

theorem length_chunkSectors (chunkNbt : List UInt8) :
    (chunkSectors chunkNbt).length = sectorCount chunkNbt * ANVIL_SECTOR_BYTES ∧
      chunkNbt.length + 5 ≤ sectorCount chunkNbt * ANVIL_SECTOR_BYTES := by
  have hceil : chunkNbt.length + 5 ≤ sectorCount chunkNbt * ANVIL_SECTOR_BYTES := by
    unfold sectorCount ANVIL_SECTOR_BYTES
    omega
  refine ⟨?_, hceil⟩
  simp only [chunkSectors, List.length_append, length_beBytes, List.length_singleton,
    List.length_replicate]
  omega

/-- The run of sectors that the writer makes of a document is read as the document. -/
theorem readChunk_sectors {front : List UInt8} {root : NbtTag} {offset : Nat}
    (hread : ∃ nbt, zip.decompressZlib payload = .ok nbt ∧ readNbt .modern nbt = .ok root)
    (hfront : front.length = offset * ANVIL_SECTOR_BYTES) (hlength : payload.length + 1 < 2 ^ 32)
    (back : List UInt8) : readChunk zip (front ++ (chunkSectors payload ++ back)) offset
      (sectorCount payload) = .ok root := by
  obtain ⟨nbt, hdecompress, hread⟩ := hread
  obtain ⟨htotal, hceil⟩ := length_chunkSectors payload
  have hsize := slice_append front (beBytes 4 (payload.length + 1))
  have hpayload := slice_append (front ++ beBytes 4 (payload.length + 1) ++ [2]) payload
  have hkind : (front ++ (chunkSectors payload ++ back))[offset * ANVIL_SECTOR_BYTES + 4]? =
      some 2 := by
    rw [← hfront, List.getElem?_append_right (by omega), Nat.add_sub_cancel_left]
    simp only [chunkSectors, List.append_assoc]
    rw [List.getElem?_append_right (by simp), length_beBytes]
    rfl
  unfold readChunk
  simp only [hkind, Option.getD_some, List.length_append, htotal, hfront]
  simp only [length_beBytes, List.length_append, List.length_singleton, hfront,
    List.append_assoc, Nat.reduceAdd] at hsize hpayload
  simp only [chunkSectors, List.append_assoc, Nat.add_assoc, Nat.reduceAdd, hsize, hpayload,
    beValue_beBytes 4 _ hlength, Nat.add_sub_cancel]
  rw [if_neg (by omega), if_neg (by omega), if_neg (by decide)]
  have hdecompress' : decompress zip 2 payload = .ok nbt := hdecompress
  rw [hdecompress']
  exact hread

/-- The table names the chunk, and its document stands there, whatever follows in the file. -/
def Located (zip : Compression) (file : RegionFile) (entry : ChunkPos × NbtTag) : Prop :=
  ∃ offset count, 0 < offset ∧ offset < 2 ^ 24 ∧ 0 < count ∧ count < 256 ∧
    file.locations[regionChunkIndex entry.1]? =
      some (beBytes 4 ((offset <<< 8) % 2 ^ 32 ||| count)) ∧
    ∀ header back, header.length = ANVIL_HEADER_BYTES →
      readChunk zip (header ++ (file.sectors.flatten ++ back)) offset count = .ok entry.2

/-- The invariant of the writer's loop over the chunks that it has written. -/
structure Packed (zip : Compression) (written : List (ChunkPos × NbtTag)) (file : RegionFile) :
    Prop where
  table : file.locations.length = 1024
  width : ∀ location ∈ file.locations, location.length = 4
  sectors : file.nextSector * ANVIL_SECTOR_BYTES = ANVIL_HEADER_BYTES + file.sectors.flatten.length
  bound : file.nextSector ≤ 2 + 255 * written.length
  located : ∀ entry ∈ written, Located zip file entry
  free : ∀ index < 1024, index ∉ written.map (regionChunkIndex ·.1) →
    file.locations[index]? = some (beBytes 4 0)

theorem packed_empty (zip : Compression) : Packed zip [] .empty where
  table := List.length_replicate ..
  width := fun location hlocation => by rw [List.eq_of_mem_replicate hlocation, length_beBytes]
  sectors := rfl
  bound := Nat.le_refl 2
  located := fun entry hentry => nomatch hentry
  free := fun index hindex _ => List.getElem?_replicate_of_lt hindex

theorem Located.put (h : Located zip file entry) {pos : ChunkPos}
    (hne : regionChunkIndex pos ≠ regionChunkIndex entry.1) (chunkNbt : List UInt8) :
    Located zip (file.put pos chunkNbt) entry := by
  obtain ⟨offset, count, hpositive, hoffset, hcount, hcount', hlocation, hreads⟩ := h
  refine ⟨offset, count, hpositive, hoffset, hcount, hcount', ?_, fun header back hheader => ?_⟩
  · rw [RegionFile.put, List.getElem?_set_ne hne]
    exact hlocation
  · have hlater := hreads header (chunkSectors chunkNbt ++ back) hheader
    simpa [RegionFile.put] using hlater

theorem Packed.put (hpacked : Packed zip written file) (hroom : written.length < 1024)
    (hnew : regionChunkIndex entry.1 ∉ written.map (regionChunkIndex ·.1))
    (hsmall : payload.length + 5 ≤ 255 * ANVIL_SECTOR_BYTES)
    (hread : ∃ nbt, zip.decompressZlib payload = .ok nbt ∧ readNbt .modern nbt = .ok entry.2) :
    Packed zip (written ++ [entry]) (file.put entry.1 payload) := by
  obtain ⟨hsectors, hceil⟩ := length_chunkSectors payload
  have hcount : 0 < sectorCount payload ∧ sectorCount payload < 256 := by
    unfold sectorCount ANVIL_SECTOR_BYTES at *
    omega
  have hindex := regionChunkIndex_lt entry.1
  have hnext := hpacked.sectors
  have hbound := hpacked.bound
  have htable : (file.put entry.1 payload).locations[regionChunkIndex entry.1]? = some
      (beBytes 4 ((file.nextSector <<< 8) % 2 ^ 32 ||| sectorCount payload)) :=
    List.getElem?_set_self (hpacked.table ▸ hindex)
  constructor
  · rw [RegionFile.put, List.length_set]
    exact hpacked.table
  · intro location hlocation
    rcases List.mem_or_eq_of_mem_set hlocation with hold | rfl
    · exact hpacked.width location hold
    · exact length_beBytes 4 _
  · simp only [RegionFile.put, List.flatten_append, List.flatten_singleton, List.length_append,
      Nat.add_mul, hsectors]
    omega
  · simp only [RegionFile.put, List.length_append, List.length_singleton]
    omega
  · intro other hother
    rcases List.mem_append.mp hother with hold | hlast
    · exact (hpacked.located other hold).put
        (fun heq => hnew (List.mem_map.mpr ⟨other, hold, heq.symm⟩)) payload
    · rw [List.mem_singleton.mp hlast]
      unfold ANVIL_HEADER_BYTES at hnext
      unfold ANVIL_SECTOR_BYTES at hnext hsmall
      refine ⟨file.nextSector, sectorCount payload, by omega, by omega, hcount.1, hcount.2, htable,
        fun header back hheader => ?_⟩
      have hfront : (header ++ file.sectors.flatten).length =
          file.nextSector * ANVIL_SECTOR_BYTES := by
        rw [List.length_append, hheader, hpacked.sectors]
      simpa [RegionFile.put] using readChunk_sectors hread hfront (by omega) back
  · intro index hlt hfree
    rw [List.map_append, List.mem_append, not_or] at hfree
    have hne : regionChunkIndex entry.1 ≠ index := fun heq => hfree.2 (by simp [heq])
    rw [RegionFile.put, List.getElem?_set_ne hne]
    exact hpacked.free index hlt hfree.1

theorem Packed.writeChunk
    (hzip : ∀ bytes, zip.decompressZlib (zip.zlibCompress bytes) = .ok bytes)
    (h : FitsRegion zip chunks) (hpacked : Packed zip written file) (hroom : written.length < 1024)
    (hentry : chunks[entry.1]? = some entry.2)
    (hnew : regionChunkIndex entry.1 ∉ written.map (regionChunkIndex ·.1)) :
    ∃ file', ModernAnvil.writeChunk zip file entry = .ok file' ∧
      Packed zip (written ++ [entry]) file' := by
  obtain ⟨chunk, hchunk, -⟩ := h.decodes entry.1 entry.2 hentry
  obtain ⟨fields, hfields⟩ : ∃ fields, entry.2 = .compound fields := by
    cases hroot : entry.2 with
    | compound fields => exact ⟨fields, rfl⟩
    | _ => rw [hroot] at hchunk; cases hchunk
  have hname : utf8Length "" < 2 ^ 16 := by decide
  obtain ⟨nbt, hwrite, hread⟩ := readNbt_writeNbt_named (hfields ▸ h.valid _ _ hentry) hname
  rw [← hfields] at hwrite hread
  have hsmall := h.small entry.1 entry.2 nbt hentry hwrite
  have hread' : ∃ nbt', zip.decompressZlib (zip.zlibCompress nbt) = .ok nbt' ∧
      readNbt .modern nbt' = .ok entry.2 := ⟨nbt, hzip nbt, hread⟩
  refine ⟨file.put entry.1 (zip.zlibCompress nbt), ?_, hpacked.put hroom hnew hsmall hread'⟩
  have hnext := hpacked.bound
  have hcount : sectorCount (zip.zlibCompress nbt) < 2 ^ 32 := by
    unfold sectorCount ANVIL_SECTOR_BYTES at *
    omega
  unfold ANVIL_SECTOR_BYTES at hsmall
  unfold ModernAnvil.writeChunk expectU32
  rw [hwrite]
  simp only [Bind.bind, Except.bind]
  rw [if_pos (by omega), if_pos hcount, if_pos (by omega)]
  rfl

theorem Packed.run (hzip : ∀ bytes, zip.decompressZlib (zip.zlibCompress bytes) = .ok bytes)
    (h : FitsRegion zip chunks) {entries : List (ChunkPos × NbtTag)} (hpacked : Packed zip written file)
    (hentries : ∀ entry ∈ entries, chunks[entry.1]? = some entry.2)
    (hnodup : ((written ++ entries).map (regionChunkIndex ·.1)).Nodup) :
    ∃ file', entries.foldlM (ModernAnvil.writeChunk zip) file = .ok file' ∧
      Packed zip (written ++ entries) file' := by
  induction entries generalizing written file with
  | nil => exact ⟨file, rfl, (List.append_nil written).symm ▸ hpacked⟩
  | cons entry rest ih =>
    have hroom : (written ++ entry :: rest).length ≤ 1024 := by
      have hsub : (written ++ entry :: rest).map (regionChunkIndex ·.1) ⊆ List.range 1024 := by
        intro index hindex
        obtain ⟨other, -, rfl⟩ := List.mem_map.mp hindex
        exact List.mem_range.mpr (regionChunkIndex_lt other.1)
      simpa using (List.subperm_of_subset hnodup hsub).length_le
    rw [List.length_append, List.length_cons] at hroom
    have hnew : regionChunkIndex entry.1 ∉ written.map (regionChunkIndex ·.1) := by
      rw [List.map_append, List.map_cons] at hnodup
      exact fun hmem => (List.nodup_append.mp hnodup).2.2 _ hmem _ List.mem_cons_self rfl
    obtain ⟨next, hnext, hkept⟩ := hpacked.writeChunk hzip h (by omega)
      (hentries entry List.mem_cons_self) hnew
    rw [List.append_cons] at hnodup ⊢
    obtain ⟨file', hfile, hlast⟩ := ih hkept
      (fun other hother => hentries other (List.mem_cons_of_mem _ hother)) hnodup
    refine ⟨file', ?_, hlast⟩
    rw [List.foldlM_cons, hnext]
    exact hfile

theorem Packed.length_table (hpacked : Packed zip written file) :
    file.locations.flatten.length = ANVIL_SECTOR_BYTES := by
  rw [List.length_flatten, List.map_congr_left hpacked.width, List.map_const', hpacked.table,
    List.sum_replicate]
  rfl

theorem Packed.slice_table (hpacked : Packed zip written file) {index : Nat} {location : List UInt8}
    (h : file.locations[index]? = some location) : slice file.bytes (index * 4) 4 = location := by
  rw [RegionFile.bytes, List.append_assoc]
  exact slice_flatten hpacked.width h _

theorem Packed.readLocation (h : FitsRegion zip chunks) (hpacked : Packed zip chunks.toList file)
    {pos : ChunkPos} {root : NbtTag} (hroot : chunks[pos]? = some root)
    (read : BTreeMap ChunkPos NbtTag) :
    ModernAnvil.readLocation zip file.bytes read (regionChunkIndex pos) =
      .ok (read.insert pos root) := by
  obtain ⟨offset, count, hpositive, hoffset, hcount, hcount', hlocation, hreads⟩ :=
    hpacked.located _ (BTreeMap.mem_toList.mpr hroot)
  obtain ⟨chunk, hchunk, hpos⟩ := h.decodes pos root hroot
  have hheader : (file.locations.flatten ++ List.replicate ANVIL_SECTOR_BYTES 0).length =
      ANVIL_HEADER_BYTES := by
    rw [List.length_append, hpacked.length_table, List.length_replicate]
    rfl
  have hread : readChunk zip file.bytes offset count = .ok root := by
    simpa [RegionFile.bytes] using hreads _ [] hheader
  obtain ⟨hfirst, hlast⟩ := location_parts hoffset hcount'
  unfold ModernAnvil.readLocation
  simp only [hpacked.slice_table hlocation, hfirst, hlast]
  rw [if_neg (by omega), hread]
  simp only [Bind.bind, Except.bind, hchunk, hpos]
  rfl

theorem Packed.readLocations (h : FitsRegion zip chunks)
    (hpacked : Packed zip chunks.toList file) {count : Nat} (hcount : count ≤ 1024) :
    ∃ read : BTreeMap ChunkPos NbtTag,
      (List.range count).foldlM (ModernAnvil.readLocation zip file.bytes) ∅ = .ok read ∧
      ∀ pos : ChunkPos, read[pos]? = if regionChunkIndex pos < count then chunks[pos]? else none := by
  induction count with
  | zero => exact ⟨∅, rfl, fun pos => by simp⟩
  | succ index ih =>
    obtain ⟨read, hread, hkept⟩ := ih (by omega)
    have hsame : ∀ pos : ChunkPos, regionChunkIndex pos ≠ index →
        read[pos]? = if regionChunkIndex pos < index + 1 then chunks[pos]? else none := by
      intro pos hne
      rw [hkept pos]
      exact if_congr (by omega) rfl rfl
    rw [List.range_succ, List.foldlM_append, hread]
    by_cases hmem : ∃ (pos : ChunkPos) (root : NbtTag),
        chunks[pos]? = some root ∧ regionChunkIndex pos = index
    · obtain ⟨pos, root, hroot, rfl⟩ := hmem
      refine ⟨read.insert pos root, ?_, fun other => ?_⟩
      · simp only [Bind.bind, Except.bind, List.foldlM_cons, List.foldlM_nil,
          hpacked.readLocation h hroot]
        rfl
      · rw [BTreeMap.getElem?_insert_eq]
        by_cases heq : pos = other
        · rw [if_pos heq, ← heq, if_pos (Nat.lt_succ_self _), hroot]
        · rw [if_neg heq]
          by_cases hindex : regionChunkIndex other = regionChunkIndex pos
          · rw [hkept other, if_neg (by omega), if_pos (by omega)]
            cases hother : chunks[other]? with
            | none => rfl
            | some root' => exact absurd (h.eq_of_index hroot hother hindex.symm) heq
          · exact hsame other hindex
    · have hfree : index ∉ chunks.toList.map (regionChunkIndex ·.1) := fun hin => by
        obtain ⟨entry, hentry, hindex⟩ := List.mem_map.mp hin
        exact hmem ⟨entry.1, entry.2, BTreeMap.mem_toList.mp hentry, hindex⟩
      have hround : ModernAnvil.readLocation zip file.bytes read index = .ok read := by
        unfold ModernAnvil.readLocation
        rw [hpacked.slice_table (hpacked.free index (by omega) hfree)]
        exact if_pos (.inl rfl)
      refine ⟨read, ?_, fun pos => ?_⟩
      · simp only [Bind.bind, Except.bind, List.foldlM_cons, List.foldlM_nil, hround]
        rfl
      · by_cases hindex : regionChunkIndex pos = index
        · rw [hkept pos, if_neg (by omega), if_pos (by omega)]
          cases hroot : chunks[pos]? with
          | none => rfl
          | some root => exact absurd ⟨pos, root, hroot, hindex⟩ hmem
        · exact hsame pos hindex

/-- **A region file keeps its chunks**: what is written of them is read back as it was. -/
theorem region_file_roundTrips
    (hzip : ∀ bytes, zip.decompressZlib (zip.zlibCompress bytes) = .ok bytes)
    (h : FitsRegion zip chunks) :
    ∃ bytes, writeRegionFile zip chunks = .ok bytes ∧ readRegionFile zip bytes = .ok chunks := by
  have hentries : ∀ entry ∈ chunks.toList, chunks[entry.1]? = some entry.2 :=
    fun entry hentry => BTreeMap.mem_toList.mp hentry
  have hnodup : (chunks.toList.map (regionChunkIndex ·.1)).Nodup := by
    have hkeys : ((chunks.toList.map (·.1)).map regionChunkIndex).Nodup := by
      refine List.Nodup.map_on (fun pos hpos pos' hpos' hindex => ?_) (BTreeMap.nodup_keys chunks)
      obtain ⟨entry, hentry, rfl⟩ := List.mem_map.mp hpos
      obtain ⟨entry', hentry', rfl⟩ := List.mem_map.mp hpos'
      exact h.eq_of_index (hentries entry hentry) (hentries entry' hentry') hindex
    rwa [List.map_map] at hkeys
  obtain ⟨file, hfile, hpacked⟩ := (packed_empty zip).run hzip h hentries hnodup
  obtain ⟨read, hread, hkept⟩ := Packed.readLocations h hpacked (Nat.le_refl 1024)
  refine ⟨file.bytes, by rw [writeRegionFile, hfile]; rfl, ?_⟩
  have hsize : ¬ file.bytes.length < ANVIL_HEADER_BYTES := by
    simp only [RegionFile.bytes, List.length_append, hpacked.length_table, List.length_replicate,
      ANVIL_HEADER_BYTES]
    omega
  rw [readRegionFile, if_neg hsize, hread]
  refine congrArg Except.ok (Std.ExtTreeMap.ext_getElem? fun pos => ?_)
  rw [hkept pos, if_pos (regionChunkIndex_lt pos)]

def exampleStored : Compression where
  zlibCompress := StoredDeflate.compress
  decompressZlib bytes := (StoredDeflate.decompress bytes).mapError fun _ => .error .io
  decompressGzip _ := Storage.fail .io

def exampleRoot : NbtTag :=
  .compound [("DataVersion", .int 2975), ("sections", .list 10 []), ("xPos", .int (-1)),
    ("zPos", .int 37)]

def exampleRegion : BTreeMap ChunkPos NbtTag :=
  (∅ : BTreeMap ChunkPos NbtTag).insert ⟨-1, 37⟩ exampleRoot

theorem exampleRegion_fits : FitsRegion exampleStored exampleRegion := by
  have honly : ∀ (pos : ChunkPos) (root : NbtTag), exampleRegion[pos]? = some root →
      pos = ⟨-1, 37⟩ ∧ root = exampleRoot := by
    intro pos root hroot
    rw [exampleRegion, BTreeMap.getElem?_insert_eq] at hroot
    split at hroot
    next heq => exact ⟨heq.symm, (Option.some.inj hroot).symm⟩
    next => simp at hroot
  constructor
  · intro pos root pos' root' hpos hpos'
    rw [(honly pos root hpos).1, (honly pos' root' hpos').1]
    exact ⟨rfl, rfl⟩
  · intro pos root hroot
    rw [(honly pos root hroot).2]
    refine .compound (by unfold NbtFields.Sorted; decide) (by decide) ?_
    simp only [List.forall_mem_cons]
    exact ⟨.int (by decide), .list (by decide) (by simp) (by simp), .int (by decide),
      .int (by decide), by simp⟩
  · intro pos root hroot
    obtain ⟨rfl, rfl⟩ := honly pos root hroot
    exact ⟨_, rfl, rfl⟩
  · intro pos root bytes hroot hwrite
    have hlength : (writeNbt "" exampleRoot).toOption.map List.length = some 60 := by decide +kernel
    rw [← (honly pos root hroot).2, hwrite] at hlength
    have hbytes : bytes.length = 60 := Option.some.inj hlength
    have hstored : (exampleStored.zlibCompress bytes).length = bytes.length + 11 :=
      StoredDeflate.length_compress (by rw [hbytes]; decide)
    rw [hstored, hbytes]
    decide

theorem region_file_roundTrips_west :
    ∃ bytes, writeRegionFile exampleStored exampleRegion = .ok bytes ∧
      readRegionFile exampleStored bytes = .ok exampleRegion :=
  have hzip (bytes : List UInt8) :
      exampleStored.decompressZlib (exampleStored.zlibCompress bytes) = .ok bytes := by
    show (StoredDeflate.decompress (StoredDeflate.compress bytes)).mapError _ = _
    rw [StoredDeflate.decompress_compress]
    rfl
  region_file_roundTrips hzip exampleRegion_fits

end RevyCraft.ModernAnvil
