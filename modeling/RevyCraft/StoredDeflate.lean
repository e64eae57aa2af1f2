/-
  RevyCraft/StoredDeflate.lean
  ============================
  **Deflate without compression**: the stored blocks of the format, and the
  zlib stream around them with its header and its checksum.
-/
import RevyCraft.Bytes

namespace RevyCraft.StoredDeflate

open Bytes

def MAX_STORED : Nat := 65535

/-- One stored block: the bit of the last block, the length, its complement and the bytes. -/
def block (last : Bool) (bytes : List UInt8) : List UInt8 :=
  (if last then 1 else 0) :: (leBytes 2 bytes.length ++ leBytes 2 (MAX_STORED - bytes.length) ++ bytes)

def deflate (bytes : List UInt8) : List UInt8 :=
  if bytes.length ≤ MAX_STORED then block true bytes
  else block false (bytes.take MAX_STORED) ++ deflate (bytes.drop MAX_STORED)
termination_by bytes.length
decreasing_by
  unfold MAX_STORED at *
  simp only [List.length_drop]
  omega

/-- The bytes of the first block, with the mark of the last one and what follows. -/
def readBlock : List UInt8 → Option (Bool × List UInt8 × List UInt8)
  | first :: rest =>
    let length := leValue (rest.take 2)
    let bytes := rest.drop 4
    if first ≤ 1 ∧ leValue ((rest.drop 2).take 2) = MAX_STORED - length ∧ length ≤ bytes.length then
      some (first == 1, bytes.take length, bytes.drop length)
    else none
  | [] => none

/-- The bytes of all blocks, and what follows the last one. -/
def inflateBlocks : Nat → List UInt8 → Option (List UInt8 × List UInt8)
  | 0, _ => none
  | fuel + 1, encoded =>
    match readBlock encoded with
    | none => none
    | some (true, bytes, rest) => some (bytes, rest)
    | some (false, bytes, rest) =>
      (inflateBlocks fuel rest).map fun (more, rest) => (bytes ++ more, rest)

theorem readBlock_block {bytes : List UInt8} (h : bytes.length ≤ MAX_STORED) (last : Bool)
    (rest : List UInt8) : readBlock (block last bytes ++ rest) = some (last, bytes, rest) := by
  have hlength : bytes.length < 256 ^ 2 := Nat.lt_of_le_of_lt h (by decide)
  have hfirst : leValue (leBytes 2 bytes.length) = bytes.length := leValue_leBytes 2 _ hlength
  have hsecond : leValue (leBytes 2 (MAX_STORED - bytes.length)) = MAX_STORED - bytes.length :=
    leValue_leBytes 2 _ (Nat.lt_of_le_of_lt (Nat.sub_le _ _) (by decide))
  have htail : (leBytes 2 bytes.length ++ leBytes 2 (MAX_STORED - bytes.length) ++ bytes ++ rest) =
      leBytes 2 bytes.length ++ (leBytes 2 (MAX_STORED - bytes.length) ++ (bytes ++ rest)) := by
    simp only [List.append_assoc]
  have hdrop : (leBytes 2 bytes.length ++ (leBytes 2 (MAX_STORED - bytes.length) ++
      (bytes ++ rest))).drop 4 = bytes ++ rest := by
    rw [← List.append_assoc]
    exact List.drop_left' (by simp)
  unfold block readBlock
  rw [List.cons_append, htail]
  dsimp only
  rw [List.take_left' (length_leBytes 2 _), List.drop_left' (length_leBytes 2 _),
    List.take_left' (length_leBytes 2 _), hdrop, hfirst, hsecond, if_pos ?_,
    List.take_left' rfl, List.drop_left' rfl]
  · cases last <;> rfl
  · refine ⟨?_, rfl, by simp⟩
    cases last <;> decide

theorem inflateBlocks_deflate (bytes rest : List UInt8) (fuel : Nat) (h : bytes.length < fuel) :
    inflateBlocks fuel (deflate bytes ++ rest) = some (bytes, rest) := by
  induction fuel generalizing bytes with
  | zero => omega
  | succ fuel ih =>
    unfold deflate
    split
    · next hsmall =>
      unfold inflateBlocks
      rw [readBlock_block hsmall]
    · next hlarge =>
      have htake : (bytes.take MAX_STORED).length ≤ MAX_STORED := List.length_take_le _ _
      have hdrop : (bytes.drop MAX_STORED).length < fuel := by
        unfold MAX_STORED at *
        rw [List.length_drop]
        omega
      unfold inflateBlocks
      rw [List.append_assoc, readBlock_block htake]
      dsimp only
      rw [ih _ hdrop]
      simp only [Option.map_some, List.take_append_drop]

theorem length_le_deflate (bytes : List UInt8) : bytes.length < (deflate bytes).length := by
  fun_induction deflate bytes with
  | case1 bytes hsmall =>
    simp [block]
    omega
  | case2 bytes hlarge ih =>
    rw [List.length_append]
    simp only [block, List.length_cons, List.length_append, List.length_drop, List.length_take,
      length_leBytes] at ih ⊢
    omega

def inflate (encoded : List UInt8) : Except String (List UInt8) :=
  match inflateBlocks encoded.length encoded with
  | some (bytes, _) => .ok bytes
  | none => .error "corrupt deflate stream"

theorem inflate_deflate (bytes : List UInt8) : inflate (deflate bytes) = .ok bytes := by
  have hblocks := inflateBlocks_deflate bytes [] _ (length_le_deflate bytes)
  rw [List.append_nil] at hblocks
  rw [inflate, hblocks]

/-! ### The zlib stream -/

def adler32 (bytes : List UInt8) : Nat :=
  let sums := bytes.foldl (fun (a, b) byte =>
    ((a + byte.toNat) % 65521, (b + (a + byte.toNat) % 65521) % 65521)) (1, 0)
  sums.2 * 65536 + sums.1

def compress (bytes : List UInt8) : List UInt8 :=
  0x78 :: 0x01 :: (deflate bytes ++ beBytes 4 (adler32 bytes))

def decompress : List UInt8 → Except String (List UInt8)
  | 0x78 :: 0x01 :: encoded =>
    match inflateBlocks encoded.length encoded with
    | some (bytes, check) =>
      if check.take 4 = beBytes 4 (adler32 bytes) then .ok bytes else .error "checksum mismatch"
    | none => .error "corrupt deflate stream"
  | _ => .error "invalid zlib header"

theorem decompress_compress (bytes : List UInt8) : decompress (compress bytes) = .ok bytes := by
  have hlength : bytes.length < (deflate bytes ++ beBytes 4 (adler32 bytes)).length := by
    have hdeflate := length_le_deflate bytes
    rw [List.length_append]
    omega
  simp only [compress, decompress, inflateBlocks_deflate bytes _ _ hlength,
    List.take_of_length_le (length_beBytes 4 (adler32 bytes)).le, if_true]

theorem length_compress {bytes : List UInt8} (h : bytes.length ≤ MAX_STORED) :
    (compress bytes).length = bytes.length + 11 := by
  unfold compress deflate
  rw [if_pos h]
  simp [block]
  omega

end RevyCraft.StoredDeflate
