/-
  RevyCraft/SlotNbt.lean
  ======================
  **Skipping the NBT of a slot** (`skip_slot_nbt_root` and what it calls, in
  `inventory/slot_codec.rs`).

  The skipper builds no value.  What it skips is described by trees whose names and
  strings are bytes and whose lists declare a kind of their own, since it looks into
  neither: a text need not be UTF-8, and a list without elements may declare any
  byte.  `skipSlotNbtRoot_takes` says that nothing else is accepted,
  `skipSlotNbtRoot_reads` that all of it is.
-/
import RevyCraft.Readers
import RevyCraft.JavaDecoding
import RevyCraft.Nbt
import RevyCraft.Program

namespace RevyCraft.SlotNbt

open Bytes Readers

/-- `PacketReader`, in functions that nest and loop as the bytes say. -/
abbrev Skipper (α : Type) : Type := Reader UInt8 ProtocolError α

def read {α : Type} (reader : PacketReader α) : Skipper α := Reader.lift reader

def fail {α : Type} (message : String) : Skipper α := Reader.refuse (.invalidPacket message)

def readNbtLength : Skipper Nat := do
  let length ← read PacketReader.readI32
  if length < 0 then fail "negative slot nbt length" else return length.toNat

def skipNbtName : Skipper Unit := do
  let length ← read PacketReader.readU16
  let _ ← read (PacketReader.readBytes length)

def skipNbtArray (elementWidth : Nat) : Skipper Unit := do
  let len ← readNbtLength
  -- `checked_mul` on `usize`
  if 2 ^ 64 ≤ len * elementWidth then fail "slot nbt array too large"
  else
    let _ ← read (PacketReader.readBytes (len * elementWidth))

/-- A round of the loop over the entries of a compound; it says whether there is another one. -/
def compoundRound (skipPayload : UInt8 → Skipper Unit) : Skipper Bool := do
  let childType ← read PacketReader.readU8
  if childType = 0 then return false
  else
    skipNbtName
    skipPayload childType
    return true

def compoundLoop (skipPayload : UInt8 → Skipper Unit) : Nat → Skipper Unit
  | 0 => Reader.spent
  | rounds + 1 => do
    if ← compoundRound skipPayload then compoundLoop skipPayload rounds

/-- `skip_nbt_payload`, which calls itself and loops at most as often as the rounds say. -/
def skipNbtPayload : Nat → UInt8 → Skipper Unit
  | 0, _ => Reader.spent
  | rounds + 1, tagType =>
    match tagType.toNat with
    | 1 => do
      let _ ← read PacketReader.readU8
    | 2 => do
      let _ ← read PacketReader.readI16
    | 3 => do
      let _ ← read PacketReader.readI32
    | 4 => do
      let _ ← read PacketReader.readI64
    | 5 => do
      let _ ← read PacketReader.readF32
    | 6 => do
      let _ ← read PacketReader.readF64
    | 7 => skipNbtArray 1
    | 8 => skipNbtName
    | 9 => do
      let childType ← read PacketReader.readU8
      let len ← readNbtLength
      (skipNbtPayload rounds childType).times len
    | 10 => compoundLoop (skipNbtPayload rounds) (rounds + 1)
    | 11 => skipNbtArray 4
    | 12 => skipNbtArray 8
    | _ => fail "invalid slot nbt tag type"

/-- `skip_slot_nbt_root` with some rounds. -/
def skipRoot (rounds : Nat) : Skipper Unit := do
  let tagType ← read PacketReader.readU8
  if tagType = 0 then return ()
  else
    skipNbtName
    skipNbtPayload rounds tagType

/-- `skip_slot_nbt_root`: every byte is worth a round. -/
def skipSlotNbtRoot : Skipper Unit := fun bytes => skipRoot bytes.length bytes

/-! ### Trees -/

/-- A tag as the bytes spell it. -/
inductive NbtTree where
  | byte (bits : UInt8)
  | short (bits : UInt16)
  | int (bits : UInt32)
  | long (bits : UInt64)
  | float (bits : UInt32)
  | double (bits : UInt64)
  | byteArray (values : List UInt8)
  | string (text : List UInt8)
  | list (kind : UInt8) (values : List NbtTree)
  | compound (entries : List (List UInt8 × NbtTree))
  | intArray (values : List UInt32)
  | longArray (values : List UInt64)

namespace NbtTree

def kind : NbtTree → UInt8
  | .byte _ => 1
  | .short _ => 2
  | .int _ => 3
  | .long _ => 4
  | .float _ => 5
  | .double _ => 6
  | .byteArray _ => 7
  | .string _ => 8
  | .list _ _ => 9
  | .compound _ => 10
  | .intArray _ => 11
  | .longArray _ => 12

/-- A text behind its length. -/
def nameBytes (text : List UInt8) : List UInt8 := beBytes 2 text.length ++ text

mutual

/-- The bytes of a tag behind its kind and its name. -/
def payload : NbtTree → List UInt8
  | .byte bits => beBytes 1 bits.toNat
  | .short bits => beBytes 2 bits.toNat
  | .int bits => beBytes 4 bits.toNat
  | .long bits => beBytes 8 bits.toNat
  | .float bits => beBytes 4 bits.toNat
  | .double bits => beBytes 8 bits.toNat
  | .byteArray values => beBytes 4 values.length ++ values
  | .string text => nameBytes text
  | .list kind values => kind :: (beBytes 4 values.length ++ payloads values)
  | .compound entries => entriesBytes entries ++ [0]
  | .intArray values => beBytes 4 values.length ++ values.flatMap fun value => beBytes 4 value.toNat
  | .longArray values =>
    beBytes 4 values.length ++ values.flatMap fun value => beBytes 8 value.toNat

def payloads : List NbtTree → List UInt8
  | [] => []
  | tree :: trees => tree.payload ++ payloads trees

def entriesBytes : List (List UInt8 × NbtTree) → List UInt8
  | [] => []
  | (name, tree) :: entries => tree.kind :: nameBytes name ++ tree.payload ++ entriesBytes entries

end

/-- No length passes its width, and a list holds tags of the kind it declares. -/
inductive Valid : NbtTree → Prop where
  | byte (bits : UInt8) : Valid (.byte bits)
  | short (bits : UInt16) : Valid (.short bits)
  | int (bits : UInt32) : Valid (.int bits)
  | long (bits : UInt64) : Valid (.long bits)
  | float (bits : UInt32) : Valid (.float bits)
  | double (bits : UInt64) : Valid (.double bits)
  | byteArray {values : List UInt8} (hlength : values.length < 2 ^ 31) : Valid (.byteArray values)
  | string {text : List UInt8} (hlength : text.length < 2 ^ 16) : Valid (.string text)
  | list {kind : UInt8} {values : List NbtTree} (hlength : values.length < 2 ^ 31)
    (hkind : ∀ value ∈ values, value.kind = kind) (hvalues : ∀ value ∈ values, Valid value) :
    Valid (.list kind values)
  | compound {entries : List (List UInt8 × NbtTree)}
    (hnames : ∀ entry ∈ entries, entry.1.length < 2 ^ 16)
    (hvalues : ∀ entry ∈ entries, Valid entry.2) : Valid (.compound entries)
  | intArray {values : List UInt32} (hlength : values.length < 2 ^ 31) : Valid (.intArray values)
  | longArray {values : List UInt64} (hlength : values.length < 2 ^ 31) : Valid (.longArray values)

/-- The bytes of a tag with a name. -/
def encoding (name : List UInt8) (tree : NbtTree) : List UInt8 :=
  tree.kind :: nameBytes name ++ tree.payload

theorem payloads_eq (trees : List NbtTree) : payloads trees = (trees.map payload).flatten := by
  induction trees with
  | nil => rfl
  | cons tree trees ih => simp [payloads, ih]

theorem kind_ne_zero (tree : NbtTree) : tree.kind ≠ 0 := by
  cases tree <;> simp [kind]

end NbtTree

/-! ### The readers of a fixed width -/

/-- The reader takes `width` bytes and returns a function of them. -/
def FixedWidth {α : Type} (reader : PacketReader α) (width : Nat) (value : List UInt8 → α) : Prop :=
  ∀ bytes, reader bytes =
    if bytes.length < width then .error .unexpectedEof
    else .ok (value (bytes.take width), bytes.drop width)

variable {used : List UInt8} {α : Type} {width rounds : Nat} {tree : NbtTree}
  {skipPayload : UInt8 → Skipper Unit}

section FixedWidth

variable {α : Type} {reader : PacketReader α} {width : Nat} {value : List UInt8 → α}

theorem FixedWidth.reads (h : FixedWidth reader width value) (hlength : used.length = width) :
    Reads (read reader) used (value used) := by
  intro rest
  have hlong : ¬ (used ++ rest).length < width := by
    rw [List.length_append]
    omega
  show some (reader (used ++ rest)) = _
  rw [h, if_neg hlong, List.take_left' hlength, List.drop_left' hlength]

theorem FixedWidth.takes (h : FixedWidth reader width value) :
    Takes (read reader) fun used result => used.length = width ∧ result = value used := by
  intro bytes result rest hread
  change some (reader bytes) = _ at hread
  rw [h] at hread
  by_cases hshort : bytes.length < width
  · rw [if_pos hshort] at hread
    cases hread
  · rw [if_neg hshort] at hread
    cases hread
    exact ⟨bytes.take width, (List.take_append_drop width bytes).symm, by simp; omega, rfl⟩

theorem FixedWidth.map {β : Type} (h : FixedWidth reader width value) (f : α → β) :
    FixedWidth (do return f (← reader)) width fun bytes => f (value bytes) := by
  intro bytes
  show (reader bytes >>= fun step => .ok (f step.1, step.2)) = _
  rw [h]
  by_cases hshort : bytes.length < width
  · rw [if_pos hshort, if_pos hshort]
    rfl
  · rw [if_neg hshort, if_neg hshort]
    rfl

end FixedWidth

theorem fixedWidth_readBytes (width : Nat) :
    FixedWidth (PacketReader.readBytes width) width fun bytes => bytes := fun _ => rfl

theorem fixedWidth_readU8 : FixedWidth PacketReader.readU8 1 fun bytes => bytes.headD 0 := by
  intro bytes
  cases bytes with
  | nil => rfl
  | cons byte bytes => simp [PacketReader.readU8]

theorem fixedWidth_readUnsigned (width : Nat) :
    FixedWidth (PacketReader.readUnsigned width) width beValue :=
  (fixedWidth_readBytes width).map beValue

theorem fixedWidth_readSigned (width : Nat) :
    FixedWidth (PacketReader.readSigned width) width fun bytes =>
      if beValue bytes < 2 ^ (8 * width - 1) then (beValue bytes : Int)
      else beValue bytes - 2 ^ (8 * width) :=
  (fixedWidth_readUnsigned width).map fun value =>
    if value < 2 ^ (8 * width - 1) then (value : Int) else value - 2 ^ (8 * width)

theorem fixedWidth_readF32 : FixedWidth PacketReader.readF32 4 fun bytes =>
    Float32.ofBits (UInt32.ofNat (beValue bytes)) :=
  (fixedWidth_readUnsigned 4).map fun value => Float32.ofBits (UInt32.ofNat value)

theorem fixedWidth_readF64 : FixedWidth PacketReader.readF64 8 fun bytes =>
    Float.ofBits (UInt64.ofNat (beValue bytes)) :=
  (fixedWidth_readUnsigned 8).map fun value => Float.ofBits (UInt64.ofNat value)

/-! ### Numbers, lengths and names -/

theorem reads_u8 (byte : UInt8) : Reads (read PacketReader.readU8) [byte] byte :=
  fixedWidth_readU8.reads rfl

theorem takes_u8 : Takes (read PacketReader.readU8) fun used byte => used = [byte] := by
  refine fixedWidth_readU8.takes.mono ?_
  rintro used byte ⟨hlength, rfl⟩
  obtain ⟨first, rfl⟩ := List.length_eq_one_iff.mp hlength
  rfl

theorem reads_skipped {reader : PacketReader α} {value : List UInt8 → α}
    (h : FixedWidth reader width value) (hlength : used.length = width) :
    Reads (do let _ ← read reader) used () := by
  have hreads : Reads (do let _ ← read reader) (used ++ []) () :=
    (h.reads hlength).bind (Reads.pure ())
  rwa [List.append_nil] at hreads

theorem takes_skipped {reader : PacketReader α} {value : List UInt8 → α}
    (h : FixedWidth reader width value) :
    Takes (do let _ ← read reader) fun used _ => used.length = width := by
  refine h.takes.bind fun first _ hfirst => Takes.pure ?_
  rw [List.append_nil]
  exact hfirst.1

theorem reads_readNbtLength {length : Nat} (h : length < 2 ^ 31) :
    Reads readNbtLength (beBytes 4 length) length := by
  have hvalue : beValue (beBytes 4 length) = length := beValue_beBytes 4 length (by omega)
  have hwidth : (beBytes 4 length).length = 4 := length_beBytes 4 length
  have hreads := (fixedWidth_readSigned 4).reads hwidth
  rw [hvalue, if_pos h] at hreads
  have hnonneg : ¬ (length : Int) < 0 := by omega
  have hnext : Reads (if (length : Int) < 0 then fail "negative slot nbt length"
      else return (length : Int).toNat : Skipper Nat) [] length := by
    rw [if_neg hnonneg]
    exact Reads.pure length
  have hall : Reads readNbtLength (beBytes 4 length ++ []) length := hreads.bind hnext
  rwa [List.append_nil] at hall

theorem takes_readNbtLength :
    Takes readNbtLength fun used length => used = beBytes 4 length ∧ length < 2 ^ 31 := by
  refine (fixedWidth_readSigned 4).takes.bind fun first value hfirst => ?_
  obtain ⟨hlength, hvalue⟩ := hfirst
  by_cases hnegative : value < 0
  · rw [if_pos hnegative]
    exact Takes.refuse _
  · rw [if_neg hnegative]
    refine Takes.pure ?_
    have hlt := beValue_lt first
    rw [hlength] at hlt
    by_cases hsmall : beValue first < 2 ^ (8 * 4 - 1)
    · rw [if_pos hsmall] at hvalue
      subst hvalue
      refine ⟨?_, by simpa using hsmall⟩
      rw [List.append_nil, Int.toNat_natCast, ← hlength, beBytes_beValue]
    · rw [if_neg hsmall] at hvalue
      omega

theorem reads_skipNbtName {text : List UInt8} (h : text.length < 2 ^ 16) :
    Reads skipNbtName (NbtTree.nameBytes text) () := by
  have hvalue : beValue (beBytes 2 text.length) = text.length := beValue_beBytes 2 _ (by omega)
  have hwidth : (beBytes 2 text.length).length = 2 := length_beBytes 2 text.length
  have hreads := (fixedWidth_readUnsigned 2).reads hwidth
  rw [hvalue] at hreads
  exact hreads.bind (reads_skipped (fixedWidth_readBytes text.length) rfl)

theorem takes_skipNbtName : Takes skipNbtName fun used _ =>
    ∃ text : List UInt8, text.length < 2 ^ 16 ∧ used = NbtTree.nameBytes text := by
  refine (fixedWidth_readUnsigned 2).takes.bind fun first length hfirst => ?_
  obtain ⟨hwidth, rfl⟩ := hfirst
  refine (takes_skipped (fixedWidth_readBytes (beValue first))).mono ?_
  intro text _ hlength
  have hlt := beValue_lt first
  rw [hwidth] at hlt
  refine ⟨text, by omega, ?_⟩
  rw [NbtTree.nameBytes, hlength, ← hwidth, beBytes_beValue]

theorem reads_skipNbtArray {count : Nat} {values : List UInt8} (hcount : count < 2 ^ 31)
    (hwidth : width ≤ 8) (hlength : values.length = count * width) :
    Reads (skipNbtArray width) (beBytes 4 count ++ values) () := by
  refine (reads_readNbtLength hcount).bind ?_
  have hfits : ¬ 2 ^ 64 ≤ count * width := by
    have hmul : count * width ≤ count * 8 := Nat.mul_le_mul_left _ hwidth
    omega
  rw [if_neg hfits]
  exact reads_skipped (fixedWidth_readBytes _) hlength

theorem takes_skipNbtArray (width : Nat) : Takes (skipNbtArray width) fun used _ =>
    ∃ count values, count < 2 ^ 31 ∧ values.length = count * width ∧
      used = beBytes 4 count ++ values := by
  refine takes_readNbtLength.bind fun first count hfirst => ?_
  obtain ⟨rfl, hcount⟩ := hfirst
  by_cases hlarge : 2 ^ 64 ≤ count * width
  · rw [if_pos hlarge]
    exact Takes.refuse _
  · rw [if_neg hlarge]
    refine (takes_skipped (fixedWidth_readBytes (count * width))).mono ?_
    intro values _ hlength
    exact ⟨count, values, hcount, hlength, rfl⟩

/-! ### Whole trees are skipped -/

namespace NbtTree

theorem payload_length_pos (tree : NbtTree) : 1 ≤ tree.payload.length := by
  cases tree <;> simp only [payload, nameBytes, List.length_append, List.length_cons,
    length_beBytes] <;> omega

theorem length_le_payloads {trees : List NbtTree} (h : tree ∈ trees) :
    tree.payload.length ≤ (payloads trees).length := by
  rw [payloads_eq]
  exact (List.sublist_flatten_of_mem (List.mem_map_of_mem h)).length_le

theorem count_le_entriesBytes (entries : List (List UInt8 × NbtTree)) :
    entries.length ≤ (entriesBytes entries).length := by
  induction entries with
  | nil => simp
  | cons entry entries ih =>
    simp only [entriesBytes, List.length_append, List.length_cons]
    omega

theorem length_le_entriesBytes {entry : List UInt8 × NbtTree}
    {entries : List (List UInt8 × NbtTree)} (h : entry ∈ entries) :
    entry.2.payload.length < (entriesBytes entries).length := by
  induction entries with
  | nil => cases h
  | cons first entries ih =>
    simp only [entriesBytes, List.length_append, List.length_cons]
    rcases List.mem_cons.mp h with rfl | h
    · omega
    · have := ih h
      omega

end NbtTree

open NbtTree

theorem reads_compoundRound_end (skipPayload : UInt8 → Skipper Unit) :
    Reads (compoundRound skipPayload) [0] false :=
  (reads_u8 0).bind (Reads.pure false)

theorem reads_compoundRound {name : List UInt8} (hname : name.length < 2 ^ 16)
    (htree : Reads (skipPayload tree.kind) tree.payload ()) :
    Reads (compoundRound skipPayload) (tree.kind :: nameBytes name ++ tree.payload) true := by
  have hbody : Reads (do
      skipNbtName
      skipPayload tree.kind
      return true) (nameBytes name ++ (tree.payload ++ [])) true :=
    (reads_skipNbtName hname).bind (htree.bind (Reads.pure true))
  rw [List.append_nil] at hbody
  have hentry : Reads (if tree.kind = 0 then return false
      else do
        skipNbtName
        skipPayload tree.kind
        return true) (nameBytes name ++ tree.payload) true := by
    rwa [if_neg (kind_ne_zero tree)]
  exact (reads_u8 tree.kind).bind hentry

theorem reads_compoundLoop (rounds : Nat) {entries : List (List UInt8 × NbtTree)}
    (hrounds : entries.length < rounds) (hnames : ∀ entry ∈ entries, entry.1.length < 2 ^ 16)
    (htrees : ∀ entry ∈ entries, Reads (skipPayload entry.2.kind) entry.2.payload ()) :
    Reads (compoundLoop skipPayload rounds) (entriesBytes entries ++ [0]) () := by
  induction entries generalizing rounds with
  | nil =>
    obtain ⟨rounds, rfl⟩ := Nat.exists_eq_add_one_of_ne_zero (Nat.ne_of_gt hrounds)
    exact (reads_compoundRound_end skipPayload).bind (Reads.pure ())
  | cons entry entries ih =>
    obtain ⟨rounds, rfl⟩ := Nat.exists_eq_add_one_of_ne_zero (Nat.ne_of_gt (Nat.zero_lt_of_lt hrounds))
    have hround := reads_compoundRound (hnames entry (by simp)) (htrees entry (by simp))
    have hrest := ih rounds (by simpa using hrounds)
      (fun later hmem => hnames later (by simp [hmem]))
      (fun later hmem => htrees later (by simp [hmem]))
    have hbytes : entriesBytes (entry :: entries) ++ [0] =
        (entry.2.kind :: nameBytes entry.1 ++ entry.2.payload) ++ (entriesBytes entries ++ [0]) := by
      simp [entriesBytes]
    rw [hbytes]
    exact hround.bind hrest

theorem length_flatMap_beBytes (width : Nat) (value : α → Nat) (values : List α) :
    (values.flatMap fun item => beBytes width (value item)).length = values.length * width := by
  induction values with
  | nil => simp
  | cons item values ih =>
    rw [List.flatMap_cons, List.length_append, ih, length_beBytes, List.length_cons]
    ring

theorem reads_skipNbtPayload (h : tree.Valid) (hrounds : tree.payload.length ≤ rounds) :
    Reads (skipNbtPayload (rounds + 1) tree.kind) tree.payload () := by
  induction h generalizing rounds with
  | byte bits => exact reads_skipped fixedWidth_readU8 (by simp [payload])
  | short bits => exact reads_skipped (fixedWidth_readSigned 2) (by simp [payload])
  | int bits => exact reads_skipped (fixedWidth_readSigned 4) (by simp [payload])
  | long bits => exact reads_skipped (fixedWidth_readSigned 8) (by simp [payload])
  | float bits => exact reads_skipped fixedWidth_readF32 (by simp [payload])
  | double bits => exact reads_skipped fixedWidth_readF64 (by simp [payload])
  | byteArray hlength => exact reads_skipNbtArray hlength (by decide) (by simp)
  | string hlength => exact reads_skipNbtName hlength
  | @list kind values hlength hkind _ ih =>
    simp only [payload, List.length_cons, List.length_append, length_beBytes] at hrounds
    obtain ⟨rounds, rfl⟩ : ∃ less, rounds = less + 1 := ⟨rounds - 1, by omega⟩
    have hitems : Reads ((skipNbtPayload (rounds + 1) kind).times values.length)
        (payloads values) () := by
      rw [payloads_eq, ← List.length_map payload]
      refine Reads.times fun piece hmem => ?_
      obtain ⟨value, hvalue, rfl⟩ := List.mem_map.mp hmem
      have hless := length_le_payloads hvalue
      rw [← hkind value hvalue]
      exact ih value hvalue (by omega)
    exact (reads_u8 kind).bind ((reads_readNbtLength hlength).bind hitems)
  | @compound entries hnames _ ih =>
    simp only [payload, List.length_append, List.length_singleton] at hrounds
    obtain ⟨rounds, rfl⟩ : ∃ less, rounds = less + 1 := ⟨rounds - 1, by omega⟩
    have hmany := count_le_entriesBytes entries
    refine reads_compoundLoop _ (by omega) hnames fun entry hmem => ?_
    have hless := length_le_entriesBytes hmem
    exact ih entry hmem (by omega)
  | intArray hlength =>
    exact reads_skipNbtArray hlength (by decide) (length_flatMap_beBytes 4 _ _)
  | longArray hlength =>
    exact reads_skipNbtArray hlength (by decide) (length_flatMap_beBytes 8 _ _)

/-! ### Nothing but trees is skipped -/

/-- Some bytes are the payload of a valid tag of a kind. -/
def IsPayload (kind : UInt8) (used : List UInt8) : Prop :=
  ∃ tree : NbtTree, tree.Valid ∧ tree.kind = kind ∧ used = tree.payload

/-- Some bytes are the entries of a compound that the loop has gone over. -/
def AreEntries (used : List UInt8) : Prop :=
  ∃ entries : List (List UInt8 × NbtTree), (∀ entry ∈ entries, entry.1.length < 2 ^ 16) ∧
    (∀ entry ∈ entries, entry.2.Valid) ∧ used = entriesBytes entries

theorem takes_compoundRound
    (h : ∀ kind, Takes (skipPayload kind) fun used _ => IsPayload kind used) :
    Takes (compoundRound skipPayload) fun used more =>
      (more = false ∧ used = [0]) ∨
      (more = true ∧ ∃ (name : List UInt8) (tree : NbtTree), name.length < 2 ^ 16 ∧ tree.Valid ∧
        used = tree.kind :: nameBytes name ++ tree.payload) := by
  refine takes_u8.bind fun first kind hfirst => ?_
  subst hfirst
  by_cases hend : kind = 0
  · subst hend
    rw [if_pos rfl]
    exact Takes.pure (.inl ⟨rfl, rfl⟩)
  · rw [if_neg hend]
    refine takes_skipNbtName.bind fun second _ hsecond => ?_
    obtain ⟨name, hname, rfl⟩ := hsecond
    refine (h kind).bind fun third _ hthird => ?_
    obtain ⟨tree, hvalid, rfl, rfl⟩ := hthird
    exact Takes.pure (.inr ⟨rfl, name, tree, hname, hvalid, by simp⟩)

theorem takes_compoundLoop (h : ∀ kind, Takes (skipPayload kind) fun used _ => IsPayload kind used)
    (rounds : Nat) : Takes (compoundLoop skipPayload rounds) fun used _ =>
      ∃ entries, AreEntries entries ∧ used = entries ++ [0] := by
  induction rounds with
  | zero => exact Takes.spent
  | succ rounds ih =>
    refine (takes_compoundRound h).bind fun first more hfirst => ?_
    rcases hfirst with ⟨rfl, rfl⟩ | ⟨rfl, name, tree, hname, hvalid, rfl⟩
    · exact Takes.pure ⟨[], ⟨[], by simp, by simp, rfl⟩, rfl⟩
    · refine Takes.mono ih ?_
      rintro used _ ⟨_, ⟨entries, hnames, htrees, rfl⟩, rfl⟩
      exact ⟨_, ⟨(name, tree) :: entries, List.forall_mem_cons.mpr ⟨hname, hnames⟩,
        List.forall_mem_cons.mpr ⟨hvalid, htrees⟩, rfl⟩, by simp [entriesBytes]⟩

theorem exists_numbers {count : Nat} (values : List UInt8)
    (hlength : values.length = count * width) :
    ∃ numbers : List Nat, numbers.length = count ∧ (∀ number ∈ numbers, number < 256 ^ width) ∧
      values = numbers.flatMap (beBytes width) := by
  induction count generalizing values with
  | zero =>
    rw [Nat.zero_mul] at hlength
    exact ⟨[], rfl, by simp, List.length_eq_zero_iff.mp hlength⟩
  | succ count ih =>
    rw [Nat.succ_mul] at hlength
    obtain ⟨numbers, hcount, hsmall, hrest⟩ := ih (values.drop width) (by
      rw [List.length_drop]
      omega)
    have hfirst : (values.take width).length = width := by
      rw [List.length_take]
      omega
    have hlt := beValue_lt (values.take width)
    have hback := beBytes_beValue (values.take width)
    rw [hfirst] at hlt hback
    refine ⟨beValue (values.take width) :: numbers, by simp [hcount], ?_, ?_⟩
    · simpa using ⟨hlt, hsmall⟩
    · rw [List.flatMap_cons, hback, ← hrest, List.take_append_drop]

theorem toNat_ofNat_32 {number : Nat} (h : number < 256 ^ 4) : (UInt32.ofNat number).toNat = number := by
  rw [UInt32.toNat_ofNat']
  omega

theorem toNat_ofNat_64 {number : Nat} (h : number < 256 ^ 8) : (UInt64.ofNat number).toNat = number := by
  rw [UInt64.toNat_ofNat']
  omega

theorem bits_16 (h : used.length = 2) : used = beBytes 2 (UInt16.ofNat (beValue used)).toNat := by
  have hlt := beValue_lt used
  have hback := beBytes_beValue used
  rw [h] at hlt hback
  rw [UInt16.toNat_ofNat', show beValue used % 2 ^ 16 = beValue used by omega, hback]

theorem bits_32 (h : used.length = 4) : used = beBytes 4 (UInt32.ofNat (beValue used)).toNat := by
  have hlt := beValue_lt used
  have hback := beBytes_beValue used
  rw [h] at hlt hback
  rw [toNat_ofNat_32 hlt, hback]

theorem bits_64 (h : used.length = 8) : used = beBytes 8 (UInt64.ofNat (beValue used)).toNat := by
  have hlt := beValue_lt used
  have hback := beBytes_beValue used
  rw [h] at hlt hback
  rw [toNat_ofNat_64 hlt, hback]

theorem isPayload_name (h : ∃ text : List UInt8, text.length < 2 ^ 16 ∧ used = nameBytes text) :
    IsPayload 8 used := by
  obtain ⟨text, hlength, rfl⟩ := h
  exact ⟨.string text, .string hlength, rfl, rfl⟩

theorem isPayload_intArray
    (h : ∃ count values, count < 2 ^ 31 ∧
    values.length = count * 4 ∧ used = beBytes 4 count ++ values) : IsPayload 11 used := by
  obtain ⟨count, values, hcount, hlength, rfl⟩ := h
  obtain ⟨numbers, rfl, hsmall, rfl⟩ := exists_numbers _ hlength
  refine ⟨.intArray (numbers.map UInt32.ofNat), .intArray (by simpa using hcount), rfl, ?_⟩
  rw [payload, List.length_map, List.flatMap_map]
  congr 1
  refine List.flatMap_congr fun number hmem => ?_
  rw [toNat_ofNat_32 (hsmall number hmem)]

theorem isPayload_longArray
    (h : ∃ count values, count < 2 ^ 31 ∧
    values.length = count * 8 ∧ used = beBytes 4 count ++ values) : IsPayload 12 used := by
  obtain ⟨count, values, hcount, hlength, rfl⟩ := h
  obtain ⟨numbers, rfl, hsmall, rfl⟩ := exists_numbers _ hlength
  refine ⟨.longArray (numbers.map UInt64.ofNat), .longArray (by simpa using hcount), rfl, ?_⟩
  rw [payload, List.length_map, List.flatMap_map]
  congr 1
  refine List.flatMap_congr fun number hmem => ?_
  rw [toNat_ofNat_64 (hsmall number hmem)]

theorem exists_values {kind : UInt8} {pieces : List (List UInt8)}
    (h : ∀ piece ∈ pieces, IsPayload kind piece) :
    ∃ values : List NbtTree, values.length = pieces.length ∧
      (∀ value ∈ values, value.kind = kind) ∧ (∀ value ∈ values, value.Valid) ∧
      pieces.flatten = payloads values := by
  induction pieces with
  | nil => exact ⟨[], rfl, by simp, by simp, rfl⟩
  | cons piece pieces ih =>
    obtain ⟨tree, hvalid, hkind, rfl⟩ := h piece (by simp)
    obtain ⟨values, hlength, hkinds, hvalids, hflat⟩ := ih fun later hmem => h later (by simp [hmem])
    exact ⟨tree :: values, by simp [hlength], by simpa using ⟨hkind, hkinds⟩,
      by simpa using ⟨hvalid, hvalids⟩, by rw [List.flatten_cons, hflat, payloads]⟩

theorem takes_skipNbtPayload (rounds : Nat) (tagType : UInt8) :
    Takes (skipNbtPayload rounds tagType) fun used _ => IsPayload tagType used := by
  induction rounds generalizing tagType with
  | zero => exact Takes.spent
  | succ rounds ih =>
    unfold skipNbtPayload
    split
    next hkind =>
      obtain rfl : tagType = 1 := UInt8.toNat_inj.mp hkind
      refine (takes_skipped fixedWidth_readU8).mono fun used _ hlength => ?_
      obtain ⟨byte, rfl⟩ := List.length_eq_one_iff.mp hlength
      exact ⟨.byte byte, .byte byte, rfl, by simp [payload, beBytes, leBytes]⟩
    next hkind =>
      obtain rfl : tagType = 2 := UInt8.toNat_inj.mp hkind
      refine (takes_skipped (fixedWidth_readSigned 2)).mono fun used _ hlength => ?_
      exact ⟨.short (UInt16.ofNat (beValue used)), .short _, rfl, bits_16 hlength⟩
    next hkind =>
      obtain rfl : tagType = 3 := UInt8.toNat_inj.mp hkind
      refine (takes_skipped (fixedWidth_readSigned 4)).mono fun used _ hlength => ?_
      exact ⟨.int (UInt32.ofNat (beValue used)), .int _, rfl, bits_32 hlength⟩
    next hkind =>
      obtain rfl : tagType = 4 := UInt8.toNat_inj.mp hkind
      refine (takes_skipped (fixedWidth_readSigned 8)).mono fun used _ hlength => ?_
      exact ⟨.long (UInt64.ofNat (beValue used)), .long _, rfl, bits_64 hlength⟩
    next hkind =>
      obtain rfl : tagType = 5 := UInt8.toNat_inj.mp hkind
      refine (takes_skipped fixedWidth_readF32).mono fun used _ hlength => ?_
      exact ⟨.float (UInt32.ofNat (beValue used)), .float _, rfl, bits_32 hlength⟩
    next hkind =>
      obtain rfl : tagType = 6 := UInt8.toNat_inj.mp hkind
      refine (takes_skipped fixedWidth_readF64).mono fun used _ hlength => ?_
      exact ⟨.double (UInt64.ofNat (beValue used)), .double _, rfl, bits_64 hlength⟩
    next hkind =>
      obtain rfl : tagType = 7 := UInt8.toNat_inj.mp hkind
      refine (takes_skipNbtArray 1).mono fun used _ hused => ?_
      obtain ⟨count, values, hcount, hlength, rfl⟩ := hused
      rw [Nat.mul_one] at hlength
      subst hlength
      exact ⟨.byteArray values, .byteArray hcount, rfl, rfl⟩
    next hkind =>
      obtain rfl : tagType = 8 := UInt8.toNat_inj.mp hkind
      exact takes_skipNbtName.mono fun used _ hused => isPayload_name hused
    next hkind =>
      obtain rfl : tagType = 9 := UInt8.toNat_inj.mp hkind
      refine takes_u8.bind fun first kind hfirst => ?_
      subst hfirst
      refine takes_readNbtLength.bind fun second len hsecond => ?_
      obtain ⟨rfl, hlen⟩ := hsecond
      refine (Takes.times (ih kind) len).mono fun used _ hused => ?_
      obtain ⟨pieces, rfl, rfl, hpieces⟩ := hused
      obtain ⟨values, hlength, hkinds, hvalids, hflat⟩ := exists_values hpieces
      refine ⟨.list kind values, .list (by rw [hlength]; exact hlen) hkinds hvalids, rfl, ?_⟩
      rw [payload, hlength, hflat]
      rfl
    next hkind =>
      obtain rfl : tagType = 10 := UInt8.toNat_inj.mp hkind
      refine (takes_compoundLoop ih (rounds + 1)).mono fun used _ hused => ?_
      obtain ⟨_, ⟨entries, hnames, htrees, rfl⟩, rfl⟩ := hused
      exact ⟨.compound entries, .compound hnames htrees, rfl, rfl⟩
    next hkind =>
      obtain rfl : tagType = 11 := UInt8.toNat_inj.mp hkind
      exact (takes_skipNbtArray 4).mono fun used _ hused => isPayload_intArray hused
    next hkind =>
      obtain rfl : tagType = 12 := UInt8.toNat_inj.mp hkind
      exact (takes_skipNbtArray 8).mono fun used _ hused => isPayload_longArray hused
    next => exact Takes.refuse _

/-! ### The rounds suffice -/

theorem skipNbtPayload_consumes (rounds : Nat) (tagType : UInt8) :
    Takes (skipNbtPayload rounds tagType) fun used _ => 1 ≤ used.length := by
  refine (takes_skipNbtPayload rounds tagType).mono ?_
  rintro used _ ⟨tree, _, _, rfl⟩
  exact payload_length_pos tree

theorem compoundRound_consumes (rounds : Nat) :
    Takes (compoundRound (skipNbtPayload rounds)) fun used _ => 1 ≤ used.length := by
  refine (takes_compoundRound (takes_skipNbtPayload rounds)).mono ?_
  rintro used more (⟨_, rfl⟩ | ⟨_, name, tree, _, _, rfl⟩)
  · simp
  · simp

theorem ends_skipped (reader : PacketReader α) (bound : Nat) :
    Ends (do let _ ← read reader : Skipper Unit) bound := by
  intro bytes _
  show ExceptT.bind (some (reader bytes)) _ ≠ none
  rcases reader bytes with error | step <;> nofun

theorem ends_readNbtLength (bound : Nat) : Ends readNbtLength bound := by
  refine (Ends.lift _ bound).bind (fixedWidth_readSigned 4).takes fun first value _ => ?_
  by_cases hnegative : value < 0
  · rw [if_pos hnegative]
    exact Ends.refuse _ _
  · rw [if_neg hnegative]
    exact Ends.pure _ _

theorem ends_skipNbtName (bound : Nat) : Ends skipNbtName bound :=
  (Ends.lift _ bound).bind (fixedWidth_readUnsigned 2).takes fun _ length _ =>
    ends_skipped (PacketReader.readBytes length) _

theorem ends_skipNbtArray (width bound : Nat) : Ends (skipNbtArray width) bound := by
  refine (ends_readNbtLength bound).bind takes_readNbtLength fun first count _ => ?_
  by_cases hlarge : 2 ^ 64 ≤ count * width
  · rw [if_pos hlarge]
    exact Ends.refuse _ _
  · rw [if_neg hlarge]
    exact ends_skipped _ _

theorem ends_compoundRound (h : ∀ kind, Ends (skipNbtPayload rounds kind) rounds) :
    Ends (compoundRound (skipNbtPayload rounds)) (rounds + 1) := by
  refine (Ends.lift _ _).bind takes_u8 fun first kind hfirst => ?_
  subst hfirst
  by_cases hend : kind = 0
  · rw [if_pos hend]
    exact Ends.pure _ _
  · rw [if_neg hend]
    refine (ends_skipNbtName _).bind takes_skipNbtName fun second _ _ => ?_
    refine ((h kind).mono (by simp)).bind (takes_skipNbtPayload rounds kind) fun third _ _ => ?_
    exact Ends.pure _ _

theorem ends_compoundLoop (h : ∀ kind, Ends (skipNbtPayload rounds kind) rounds) {turns : Nat}
    (hturns : turns ≤ rounds + 1) : Ends (compoundLoop (skipNbtPayload rounds) turns) turns := by
  induction turns with
  | zero =>
    intro bytes hlt
    exact absurd hlt (Nat.not_lt_zero _)
  | succ turns ih =>
    refine ((ends_compoundRound h).mono hturns).bind (compoundRound_consumes rounds)
      fun first more hfirst => ?_
    cases more with
    | false => exact Ends.pure _ _
    | true => exact (ih (by omega)).mono (by omega)

theorem ends_skipNbtPayload (rounds : Nat) (tagType : UInt8) :
    Ends (skipNbtPayload rounds tagType) rounds := by
  induction rounds generalizing tagType with
  | zero =>
    intro bytes hlt
    exact absurd hlt (Nat.not_lt_zero _)
  | succ rounds ih =>
    unfold skipNbtPayload
    split
    next => exact ends_skipped _ _
    next => exact ends_skipped _ _
    next => exact ends_skipped _ _
    next => exact ends_skipped _ _
    next => exact ends_skipped _ _
    next => exact ends_skipped _ _
    next => exact ends_skipNbtArray 1 _
    next => exact ends_skipNbtName _
    next =>
      refine (Ends.lift _ _).bind takes_u8 fun first kind hfirst => ?_
      subst hfirst
      refine (ends_readNbtLength _).bind takes_readNbtLength fun second len _ => ?_
      exact (Ends.times (ih kind) (takes_skipNbtPayload rounds kind) len).mono (by simp)
    next => exact ends_compoundLoop ih (Nat.le_refl _)
    next => exact ends_skipNbtArray 4 _
    next => exact ends_skipNbtArray 8 _
    next => exact Ends.refuse _ _

/-! ### The rounds do not matter -/

theorem compoundRound_extends {more less : UInt8 → Skipper Unit}
    (h : ∀ kind, Extends (more kind) (less kind)) :
    Extends (compoundRound more) (compoundRound less) := by
  refine (Extends.refl _).bind fun kind => ?_
  by_cases hend : kind = 0
  · rw [if_pos hend, if_pos hend]
    exact Extends.refl _
  · rw [if_neg hend, if_neg hend]
    exact (Extends.refl _).bind fun _ => (h kind).bind fun _ => Extends.refl _

theorem compoundLoop_extends {more less : UInt8 → Skipper Unit}
    (h : ∀ kind, Extends (more kind) (less kind)) (turns : Nat) :
    Extends (compoundLoop more (turns + 1)) (compoundLoop less turns) := by
  induction turns with
  | zero => exact Extends.spent _
  | succ turns ih =>
    refine (compoundRound_extends h).bind fun again => ?_
    cases again with
    | false => exact Extends.refl _
    | true => exact ih

theorem skipNbtPayload_extends (rounds : Nat) (tagType : UInt8) :
    Extends (skipNbtPayload (rounds + 1) tagType) (skipNbtPayload rounds tagType) := by
  induction rounds generalizing tagType with
  | zero => exact Extends.spent _
  | succ rounds ih =>
    rw [skipNbtPayload, skipNbtPayload]
    split
    all_goals try exact Extends.refl _
    next => exact (Extends.refl _).bind fun kind => (Extends.refl _).bind fun len => (ih kind).times len
    next => exact compoundLoop_extends ih (rounds + 1)

theorem skipRoot_extends (rounds : Nat) : Extends (skipRoot (rounds + 1)) (skipRoot rounds) := by
  refine (Extends.refl _).bind fun tagType => ?_
  by_cases hend : tagType = 0
  · rw [if_pos hend, if_pos hend]
    exact Extends.refl _
  · rw [if_neg hend, if_neg hend]
    exact (Extends.refl _).bind fun _ => skipNbtPayload_extends rounds tagType

theorem ends_skipRoot (rounds : Nat) : Ends (skipRoot rounds) (rounds + 1) := by
  refine (Ends.lift _ _).bind takes_u8 fun first tagType hfirst => ?_
  subst hfirst
  by_cases hend : tagType = 0
  · rw [if_pos hend]
    exact Ends.pure _ _
  · rw [if_neg hend]
    exact (ends_skipNbtName _).bind takes_skipNbtName fun second _ _ =>
      (ends_skipNbtPayload rounds tagType).mono (by simp)

theorem skipRoot_eq {bytes : List UInt8} (h : bytes.length ≤ rounds) :
    skipRoot rounds bytes = skipSlotNbtRoot bytes := by
  induction rounds, h using Nat.le_induction with
  | base => rfl
  | succ rounds hle ih =>
    rw [skipRoot_extends rounds bytes (ends_skipRoot rounds (by omega)), ih]

/-! ### The root -/

theorem skipSlotNbtRoot_reads {name : List UInt8} (hname : name.length < 2 ^ 16)
    (hvalid : tree.Valid) (suffix : List UInt8) :
    skipSlotNbtRoot (tree.encoding name ++ suffix) = some (.ok ((), suffix)) := by
  have hlong : tree.payload.length + 1 ≤ (tree.encoding name ++ suffix).length := by
    simp only [encoding, List.length_append, List.length_cons]
    omega
  obtain ⟨rounds, hrounds⟩ : ∃ rounds, (tree.encoding name ++ suffix).length = rounds + 1 :=
    ⟨(tree.encoding name ++ suffix).length - 1, by omega⟩
  have hroot : Reads (skipRoot (rounds + 1)) ([tree.kind] ++ (nameBytes name ++ tree.payload)) () := by
    refine (reads_u8 tree.kind).bind ?_
    rw [if_neg (kind_ne_zero tree)]
    exact (reads_skipNbtName hname).bind (reads_skipNbtPayload hvalid (by omega))
  rw [skipSlotNbtRoot, hrounds]
  exact hroot suffix

theorem takes_skipRoot (rounds : Nat) : Takes (skipRoot rounds) fun used _ =>
    used = [0] ∨ ∃ (name : List UInt8) (tree : NbtTree), name.length < 2 ^ 16 ∧ tree.Valid ∧
      used = tree.encoding name := by
  refine takes_u8.bind fun first tagType hfirst => ?_
  subst hfirst
  by_cases hend : tagType = 0
  · subst hend
    rw [if_pos rfl]
    exact Takes.pure (.inl rfl)
  · rw [if_neg hend]
    refine takes_skipNbtName.bind fun second _ hsecond => ?_
    obtain ⟨name, hname, rfl⟩ := hsecond
    refine (takes_skipNbtPayload rounds tagType).mono fun used _ hused => ?_
    obtain ⟨tree, hvalid, rfl, rfl⟩ := hused
    exact .inr ⟨name, tree, hname, hvalid, by simp [encoding]⟩

/-- The encoding of a tree is skipped whole and nothing behind it; what is skipped is the encoding
    of a tree or the single byte 0; the skipper comes to an end on all bytes, and every round of
    its two loops takes one at least. -/
theorem skipSlotNbtRoot_skips_one_tree {name : List UInt8} {tree : NbtTree}
    (hname : name.length < 2 ^ 16) (hvalid : tree.Valid) (suffix bytes : List UInt8) :
    skipSlotNbtRoot (tree.encoding name ++ suffix) = some (.ok ((), suffix)) ∧
    (∀ rest, skipSlotNbtRoot bytes = some (.ok ((), rest)) → ∃ used, bytes = used ++ rest ∧
      (used = [0] ∨ ∃ (name : List UInt8) (tree : NbtTree), name.length < 2 ^ 16 ∧ tree.Valid ∧
        used = tree.encoding name)) ∧
    skipSlotNbtRoot bytes ≠ none ∧
    (∀ rounds, bytes.length ≤ rounds → skipRoot rounds bytes = skipSlotNbtRoot bytes) ∧
    (∀ rounds tagType rest, skipNbtPayload rounds tagType bytes = some (.ok ((), rest)) →
      rest.length < bytes.length) ∧
    ∀ rounds more rest, compoundRound (skipNbtPayload rounds) bytes = some (.ok (more, rest)) →
      rest.length < bytes.length := by
  refine ⟨skipSlotNbtRoot_reads hname hvalid suffix, fun rest h => takes_skipRoot _ h,
    ends_skipRoot _ (Nat.lt_succ_self _), fun rounds h => skipRoot_eq h, ?_, ?_⟩
  · intro rounds tagType rest h
    obtain ⟨used, rfl, hused⟩ := skipNbtPayload_consumes rounds tagType h
    rw [List.length_append]
    omega
  · intro rounds more rest h
    obtain ⟨used, rfl, hused⟩ := compoundRound_consumes rounds h
    rw [List.length_append]
    omega

/-- A compound of a list that holds a byte, and a list of no elements. -/
theorem skipSlotNbtRoot_skips_one_tree_compound :
    skipSlotNbtRoot ((NbtTree.compound [([65], .list 1 [.byte 5]), ([66], .list 0 [])]).encoding []
      ++ [7, 8]) = some (.ok ((), [7, 8])) := by
  have hvalid : (NbtTree.compound [([65], .list 1 [.byte 5]), ([66], .list 0 [])]).Valid := by
    refine .compound (by simp) ?_
    refine List.forall_mem_cons.mpr ⟨.list (by simp) (by simp [kind]) ?_, ?_⟩
    · simpa using Valid.byte 5
    · have hempty : (NbtTree.list 0 []).Valid := .list (by simp) (by simp) (by simp)
      simpa using hempty
  exact (skipSlotNbtRoot_skips_one_tree (by simp) hvalid [7, 8] []).1

/-! ### The tags of the stores -/

theorem writeStringU16_cases {value : String} {bytes : List UInt8}
    (h : writeStringU16 value = .ok bytes) :
    value.toUTF8.data.toList.length < 2 ^ 16 ∧ bytes = nameBytes value.toUTF8.data.toList := by
  simp only [writeStringU16] at h
  split at h
  next hlength => exact ⟨hlength, (Except.ok.inj h).symm⟩
  · cases h

theorem nameBytes_inj {text length rest : List UInt8} (hlength : length.length = 2)
    (h : nameBytes text = length ++ rest) : beBytes 2 text.length = length ∧ text = rest :=
  List.append_inj h (by rw [length_beBytes, hlength])

/-- A text of the one byte 255, which is no UTF-8, is skipped; no tag of the stores is written
    so. -/
theorem skipSlotNbtRoot_accepts_no_text :
    skipSlotNbtRoot [8, 0, 0, 0, 1, 255] = some (.ok ((), [])) ∧
      [8, 0, 0, 0, 1, 255] ≠ [(0 : UInt8)] ∧
      ¬ ∃ name tag, writeNamedTags [(name, tag)] = .ok [8, 0, 0, 0, 1, 255] := by
  refine ⟨rfl, by decide, ?_⟩
  rintro ⟨name, tag, hwritten⟩
  rw [writeNamedTags] at hwritten
  obtain ⟨title, htitle, hwritten⟩ := except_bind_eq_ok.mp hwritten
  obtain ⟨payload, hpayload, hwritten⟩ := except_bind_eq_ok.mp hwritten
  have hbytes : tag.tagType :: (title ++ payload) = [8, 0, 0, 0, 1, 255] := by
    simpa [writeNamedTags, pure, Except.pure, bind, Except.bind] using hwritten
  obtain ⟨hkind, hrest⟩ := List.cons.inj hbytes
  obtain ⟨hshort, rfl⟩ := writeStringU16_cases htitle
  rw [nameBytes, List.append_assoc] at hrest
  have hsplit : beBytes 2 name.toUTF8.data.toList.length ++ (name.toUTF8.data.toList ++ payload) =
      [0, 0] ++ [0, 1, 255] := hrest
  obtain ⟨hlength, hrest⟩ := List.append_inj hsplit (by simp)
  have hempty : name.toUTF8.data.toList.length = 0 := by
    rw [← beValue_beBytes 2 _ hshort, hlength]
    rfl
  rw [List.length_eq_zero_iff.mp hempty, List.nil_append] at hrest
  cases tag with
  | string value =>
    rw [writeTagPayload] at hpayload
    obtain ⟨-, htext⟩ := writeStringU16_cases hpayload
    rw [hrest] at htext
    have hlength : ([0, 1] : List UInt8).length = 2 := rfl
    have hsplit : nameBytes value.toUTF8.data.toList = [0, 1] ++ [255] := htext.symm
    obtain ⟨-, hvalue⟩ := nameBytes_inj hlength hsplit
    have hbytes : value.toUTF8 = ⟨#[255]⟩ :=
      ByteArray.ext (Array.toList_inj.mp hvalue)
    have hinvalid : ¬ (ByteArray.mk #[255]).IsValidUTF8 := by decide +kernel
    exact hinvalid (hbytes ▸ value.isValidUTF8)
  | _ => simp [NbtTag.tagType] at hkind

end RevyCraft.SlotNbt
