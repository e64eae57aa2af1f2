/-
  RevyCraft/Nbt.lean
  ==================
  **Named binary tags** — the tree format of the Anvil stores (`nbt.rs` of
  `mc-storage-je-anvil-1_7_10` and of `mc-plugin-storage-je-anvil-1_18_2`).

  A compound is the ordered list of its entries, as its map iterates them.
  A tag is `Valid` when every number fits the width it is written with and
  every list holds what it says; reading back a written valid tag gives that
  tag (`readNbt_writeNbt`).
-/
import RevyCraft.Bytes
import Mathlib.Data.String.Basic

namespace RevyCraft

open Bytes

/-! ### Outcomes of the stores -/

/-- `StorageError`. -/
inductive StorageError where
  | io
  | invalidData (message : String)
  | plugin (message : String)

/-- How a call of a store ends when it does not return a value. -/
inductive StorageFault where
  | error (error : StorageError)
  | panic (message : String)

abbrev Storage (α : Type) : Type := Except StorageFault α

namespace Storage

def fail {α : Type} (error : StorageError) : Storage α := .error (.error error)

def invalidData {α : Type} (message : String) : Storage α := fail (.invalidData message)

def panicked {α : Type} (message : String) : Storage α := .error (.panic message)

end Storage

/-! ### Tags -/

/-- A tag.  Floating-point numbers are the bits they are written as. -/
inductive NbtTag where
  | byte (value : Int)
  | short (value : Int)
  | int (value : Int)
  | long (value : Int)
  | float (bits : UInt32)
  | double (bits : UInt64)
  | byteArray (values : List UInt8)
  | string (value : String)
  | list (tagType : UInt8) (values : List NbtTag)
  | compound (values : List (String × NbtTag))
  | intArray (values : List Int)
  | longArray (values : List Int)

/-- What the two generations of the format say differently. -/
structure NbtDialect where
  longArrays : Bool
  /-- The message for a negative length of the named kind of list. -/
  negativeLength : String → String

/-- `nbt.rs` of the 1.18.2 store, which the 26.1 store shares. -/
def NbtDialect.modern : NbtDialect := ⟨true, fun kind => kind ++ " length was negative"⟩

abbrev NbtFields : Type := List (String × NbtTag)

variable {fields : NbtFields} {α β : Type} {bytes : List UInt8} {length : Nat}

namespace NbtFields

/-- `get` of the ordered map. -/
def get : NbtFields → String → Option NbtTag
  | [], _ => none
  | (k, v) :: rest, key => if key = k then some v else get rest key

/-- `insert` of the ordered map. -/
def insert : NbtFields → String → NbtTag → NbtFields
  | [], key, value => [(key, value)]
  | (k, v) :: rest, key, value =>
    if key < k then (key, value) :: (k, v) :: rest
    else if key = k then (key, value) :: rest
    else (k, v) :: insert rest key value

/-- The map that is left when the entries are inserted one after another. -/
def ofList (entries : List (String × NbtTag)) : NbtFields :=
  entries.foldl (fun fields entry => fields.insert entry.1 entry.2) []

/-- `or_insert_with`. -/
def orInsert (fields : NbtFields) (key : String) (value : NbtTag) : NbtFields :=
  if (fields.get key).isSome then fields else fields.insert key value

def Sorted (fields : NbtFields) : Prop := fields.Pairwise fun a b => a.1 < b.1

@[simp] theorem get_nil (key : String) : get [] key = none := rfl

@[simp] theorem get_insert (fields : NbtFields) (key k : String) (value : NbtTag) :
    (fields.insert key value).get k = if k = key then some value else fields.get k := by
  induction fields with
  | nil => rfl
  | cons entry rest ih =>
    obtain ⟨k', v'⟩ := entry
    simp only [insert]
    split
    · rfl
    · split
      next hsame =>
        subst hsame
        simp only [get]
        split <;> rfl
      next hother =>
        simp only [get, ih]
        by_cases h : k = k'
        · rw [if_pos h, if_pos h, if_neg fun hk : k = key => hother (hk.symm.trans h)]
        · rw [if_neg h, if_neg h]

theorem mem_insert {key : String} {value : NbtTag} {entry : String × NbtTag}
    (h : entry ∈ fields.insert key value) : entry = (key, value) ∨ entry ∈ fields := by
  induction fields with
  | nil => simpa [insert] using h
  | cons first rest ih =>
    obtain ⟨k', v'⟩ := first
    simp only [insert] at h
    split at h
    · simpa using h
    · split at h
      · rcases List.mem_cons.mp h with h | h
        · exact .inl h
        · exact .inr (List.mem_cons_of_mem _ h)
      · rcases List.mem_cons.mp h with h | h
        · exact .inr (h ▸ List.mem_cons_self)
        · exact (ih h).imp id (List.mem_cons_of_mem _)

theorem Sorted.insert (h : fields.Sorted) (key : String) (value : NbtTag) :
    (fields.insert key value).Sorted := by
  induction fields with
  | nil => simp [NbtFields.insert, Sorted]
  | cons first rest ih =>
    obtain ⟨k', v'⟩ := first
    obtain ⟨hfirst, hrest⟩ := List.pairwise_cons.mp h
    simp only [NbtFields.insert]
    split
    next hlt =>
      refine List.pairwise_cons.mpr ⟨fun entry hentry => ?_, h⟩
      rcases List.mem_cons.mp hentry with rfl | hentry
      · exact hlt
      · exact hlt.trans (hfirst entry hentry)
    next hge =>
      split
      next hsame =>
        subst hsame
        exact List.pairwise_cons.mpr ⟨hfirst, hrest⟩
      next hother =>
        refine List.pairwise_cons.mpr ⟨fun entry hentry => ?_, ih hrest⟩
        rcases mem_insert hentry with rfl | hentry
        · exact lt_of_le_of_ne (not_lt.mp hge) (Ne.symm hother)
        · exact hfirst entry hentry

theorem insert_last {key : String} (h : ∀ entry ∈ fields, entry.1 < key) (value : NbtTag) :
    fields.insert key value = fields ++ [(key, value)] := by
  induction fields with
  | nil => rfl
  | cons first rest ih =>
    obtain ⟨k', v'⟩ := first
    have hlt : k' < key := h (k', v') List.mem_cons_self
    simp only [insert, if_neg hlt.not_gt, if_neg hlt.ne', List.cons_append]
    rw [ih fun entry hentry => h entry (List.mem_cons_of_mem _ hentry)]

theorem mem_ofList {entries : List (String × NbtTag)} {entry : String × NbtTag}
    (h : entry ∈ ofList entries) : entry ∈ entries := by
  have hfold : ∀ (l : List (String × NbtTag)) (fields : NbtFields),
      entry ∈ l.foldl (fun fields entry => fields.insert entry.1 entry.2) fields →
        entry ∈ fields ∨ entry ∈ l := by
    intro l
    induction l with
    | nil => exact fun _ h => .inl h
    | cons first l ih =>
      intro fields h
      rcases ih _ h with h | h
      · rcases mem_insert h with h | h
        · exact .inr (h ▸ List.mem_cons_self)
        · exact .inl h
      · exact .inr (List.mem_cons_of_mem _ h)
  simpa using hfold entries [] h

end NbtFields

/-! ### Reading fields -/

namespace NbtTag

def tagType : NbtTag → UInt8
  | .byte _ => 1
  | .short _ => 2
  | .int _ => 3
  | .long _ => 4
  | .float _ => 5
  | .double _ => 6
  | .byteArray _ => 7
  | .string _ => 8
  | .list _ _ => 9
  | .compound _ => 10
  | .intArray _ => 11
  | .longArray _ => 12

def asCompound : NbtTag → Storage NbtFields
  | .compound values => .ok values
  | _ => Storage.invalidData "expected compound tag"

end NbtTag

namespace NbtFields

def listField (compound : NbtFields) (key : String) : Storage (List NbtTag) :=
  match compound.get key with
  | some (.list _ values) => .ok values
  | _ => Storage.invalidData ("missing list field " ++ key)

def stringField (compound : NbtFields) (key : String) : Storage String :=
  match compound.get key with
  | some (.string value) => .ok value
  | _ => Storage.invalidData ("missing string field " ++ key)

def intField (compound : NbtFields) (key : String) : Storage Int :=
  match compound.get key with
  | some (.int value) => .ok value
  | _ => Storage.invalidData ("missing int field " ++ key)

def byteField (compound : NbtFields) (key : String) : Storage Int :=
  match compound.get key with
  | some (.byte value) => .ok value
  | _ => Storage.invalidData ("missing byte field " ++ key)

end NbtFields

/-- `unwrap_or`: an error is answered by a default; a panic is not caught. -/
def Storage.unwrapOr {α : Type} (default : α) : Storage α → Storage α
  | .error (.error _) => .ok default
  | result => result

@[simp] theorem Storage.unwrapOr_ok (default value : α) :
    Storage.unwrapOr default (.ok value) = .ok value := rfl

/-! ### Writing -/

/-- `write_string_u16`. -/
def writeStringU16 (value : String) : Storage (List UInt8) :=
  let bytes := value.toUTF8.data.toList
  if bytes.length < 2 ^ 16 then .ok (beBytes 2 bytes.length ++ bytes)
  else Storage.invalidData "nbt string too long"

/-- A length as an `i32`. -/
def writeLength (length : Nat) (kind : String) : Storage (List UInt8) :=
  if length < 2 ^ 31 then .ok (beInt 4 length)
  else Storage.panicked (kind ++ " length should fit into i32")

mutual

def writeTagPayload : NbtTag → Storage (List UInt8)
  | .byte value => return beInt 1 value
  | .short value => return beInt 2 value
  | .int value => return beInt 4 value
  | .long value => return beInt 8 value
  | .float bits => return beBytes 4 bits.toNat
  | .double bits => return beBytes 8 bits.toNat
  | .byteArray values => return (← writeLength values.length "byte array") ++ values
  | .string value => writeStringU16 value
  | .list tagType values => do
    let length ← writeLength values.length "list"
    let items ← writeTagPayloads values
    return tagType :: length ++ items
  | .compound values => do
    let entries ← writeNamedTags values
    return entries ++ [0]
  | .intArray values =>
    return (← writeLength values.length "int array") ++ values.flatMap (beInt 4)
  | .longArray values =>
    return (← writeLength values.length "long array") ++ values.flatMap (beInt 8)

def writeTagPayloads : List NbtTag → Storage (List UInt8)
  | [] => return []
  | value :: rest => do
    let first ← writeTagPayload value
    let others ← writeTagPayloads rest
    return first ++ others

def writeNamedTags : List (String × NbtTag) → Storage (List UInt8)
  | [] => return []
  | (name, value) :: rest => do
    let title ← writeStringU16 name
    let payload ← writeTagPayload value
    let others ← writeNamedTags rest
    return value.tagType :: title ++ payload ++ others

end

/-- `write_named_tag` of a whole document, whose tag type is that of a compound. -/
def writeNbt (name : String) (tag : NbtTag) : Storage (List UInt8) := do
  let title ← writeStringU16 name
  let payload ← writeTagPayload tag
  return 10 :: title ++ payload

/-! ### Reading -/

/-- The bytes behind the cursor. -/
abbrev NbtReader (α : Type) : Type := StateT (List UInt8) (Except StorageFault) α

namespace NbtReader

def fail {α : Type} (error : StorageError) : NbtReader α := fun _ => Storage.fail error

/-- `read_exact`. -/
def readExact (length : Nat) : NbtReader (List UInt8) := fun bytes =>
  if bytes.length < length then Storage.fail .io
  else .ok (bytes.take length, bytes.drop length)

def readU8 : NbtReader UInt8
  | [] => Storage.fail .io
  | byte :: rest => .ok (byte, rest)

def readSigned (width : Nat) : NbtReader Int := return beIntValue (← readExact width)

def readF32 : NbtReader UInt32 := return UInt32.ofNat (beValue (← readExact 4))
def readF64 : NbtReader UInt64 := return UInt64.ofNat (beValue (← readExact 8))

def readStringU16 : NbtReader String := do
  let length := beValue (← readExact 2)
  let bytes ← readExact length
  match String.fromUTF8? ⟨bytes.toArray⟩ with
  | none => fail (.invalidData "invalid utf-8 string")
  | some value => return value

variable (dialect : NbtDialect)

/-- The length of a list of the named kind. -/
def readLength (kind : String) : NbtReader Nat := do
  let length ← readSigned 4
  if length < 0 then fail (.invalidData (dialect.negativeLength kind)) else return length.toNat

/-- `count` values of one kind. -/
def readMany {α : Type} (reader : NbtReader α) : Nat → NbtReader (List α)
  | 0 => return []
  | count + 1 => do
    let first ← reader
    let others ← readMany reader count
    return first :: others

/-- The loop over the entries of a compound.  An entry takes bytes, so a loop that is allowed one
    round for each byte comes to the end. -/
def readNamedTags (readPayload : UInt8 → NbtReader NbtTag) : Nat → NbtFields → NbtReader NbtFields
  | 0, _ => fail .io
  | rounds + 1, fields => do
    let childType ← readU8
    if childType = 0 then return fields
    else
      let name ← readStringU16
      let value ← readPayload childType
      readNamedTags readPayload rounds (fields.insert name value)

/-- `read_tag_payload`.  A tag is shorter than the tag that holds it, so the bytes also bound how
    deep the tags are nested. -/
def readTagPayload : Nat → UInt8 → NbtReader NbtTag
  | 0, _ => fail .io
  | depth + 1, tagType =>
    match tagType.toNat with
    | 1 => return .byte (← readSigned 1)
    | 2 => return .short (← readSigned 2)
    | 3 => return .int (← readSigned 4)
    | 4 => return .long (← readSigned 8)
    | 5 => return .float (← readF32)
    | 6 => return .double (← readF64)
    | 7 => do
      let length ← readLength dialect "byte array"
      return .byteArray (← readExact length)
    | 8 => return .string (← readStringU16)
    | 9 => do
      let childType ← readU8
      let length ← readLength dialect "list"
      return .list childType (← readMany (readTagPayload depth childType) length)
    | 10 => return .compound (← readNamedTags (readTagPayload depth) depth [])
    | 11 => do
      let length ← readLength dialect "int array"
      return .intArray (← readMany (readSigned 4) length)
    | 12 =>
      if dialect.longArrays then do
        let length ← readLength dialect "long array"
        return .longArray (← readMany (readSigned 8) length)
      else fail (.invalidData ("unsupported nbt tag type " ++ toString tagType.toNat))
    | _ => fail (.invalidData ("unsupported nbt tag type " ++ toString tagType.toNat))

def document (depth : Nat) : NbtReader NbtTag := do
  let tagType ← readU8
  if tagType ≠ 10 then fail (.invalidData "root nbt tag must be a compound")
  else
    let _ ← readStringU16
    readTagPayload dialect depth tagType

end NbtReader

/-- `read_nbt`; the bytes behind the document are ignored. -/
def readNbt (dialect : NbtDialect) (bytes : List UInt8) : Storage NbtTag :=
  (NbtReader.document dialect bytes.length bytes).map Prod.fst

/-! ### Valid tags -/

def utf8Length (value : String) : Nat := value.toUTF8.data.toList.length

/-- Every number fits the width it is written with, every list holds tags of the kind it names and
    no length passes its own width. -/
inductive NbtTag.Valid (dialect : NbtDialect) : NbtTag → Prop where
  | byte {value : Int} (h : FitsSigned 1 value) : Valid dialect (.byte value)
  | short {value : Int} (h : FitsSigned 2 value) : Valid dialect (.short value)
  | int {value : Int} (h : FitsSigned 4 value) : Valid dialect (.int value)
  | long {value : Int} (h : FitsSigned 8 value) : Valid dialect (.long value)
  | float (bits : UInt32) : Valid dialect (.float bits)
  | double (bits : UInt64) : Valid dialect (.double bits)
  | byteArray {values : List UInt8} (hlength : values.length < 2 ^ 31) :
    Valid dialect (.byteArray values)
  | string {value : String} (hlength : utf8Length value < 2 ^ 16) : Valid dialect (.string value)
  | list {tagType : UInt8} {values : List NbtTag} (hlength : values.length < 2 ^ 31)
    (htypes : ∀ value ∈ values, value.tagType = tagType)
    (hvalues : ∀ value ∈ values, Valid dialect value) : Valid dialect (.list tagType values)
  | compound {values : NbtFields} (hsorted : values.Sorted)
    (hnames : ∀ entry ∈ values, utf8Length entry.1 < 2 ^ 16)
    (hvalues : ∀ entry ∈ values, Valid dialect entry.2) : Valid dialect (.compound values)
  | intArray {values : List Int} (hlength : values.length < 2 ^ 31)
    (hvalues : ∀ value ∈ values, FitsSigned 4 value) : Valid dialect (.intArray values)
  | longArray {values : List Int} (hdialect : dialect.longArrays = true)
    (hlength : values.length < 2 ^ 31) (hvalues : ∀ value ∈ values, FitsSigned 8 value) :
    Valid dialect (.longArray values)

/-! ### Reading back what was written -/

namespace NbtReader

theorem bind_ok {reader : NbtReader α} {next : α → NbtReader β} {rest : List UInt8} {value : α}
    (h : reader bytes = .ok (value, rest)) : (reader >>= next) bytes = next value rest := by
  show (reader bytes >>= fun step => next step.1 step.2) = next value rest
  rw [h]
  rfl

theorem readExact_append (h : bytes.length = length) (rest : List UInt8) :
    readExact length (bytes ++ rest) = .ok (bytes, rest) := by
  subst h
  simp [readExact]

theorem readSigned_beInt {width : Nat} {value : Int} (h : FitsSigned width value)
    (rest : List UInt8) : readSigned width (beInt width value ++ rest) = .ok (value, rest) := by
  rw [readSigned, bind_ok (readExact_append (length_beInt width value) rest), beIntValue_beInt h]
  rfl

theorem readF32_bits (bits : UInt32) (rest : List UInt8) :
    readF32 (beBytes 4 bits.toNat ++ rest) = .ok (bits, rest) := by
  rw [readF32, bind_ok (readExact_append (length_beBytes 4 _) rest),
    beValue_beBytes 4 _ bits.toNat_lt, UInt32.ofNat_toNat]
  rfl

theorem readF64_bits (bits : UInt64) (rest : List UInt8) :
    readF64 (beBytes 8 bits.toNat ++ rest) = .ok (bits, rest) := by
  rw [readF64, bind_ok (readExact_append (length_beBytes 8 _) rest),
    beValue_beBytes 8 _ bits.toNat_lt, UInt64.ofNat_toNat]
  rfl

theorem readStringU16_write {value : String} (h : writeStringU16 value = .ok bytes)
    (rest : List UInt8) : readStringU16 (bytes ++ rest) = .ok (value, rest) := by
  simp only [writeStringU16] at h
  split at h
  next hlength =>
    obtain rfl := Except.ok.inj h
    have htext : String.fromUTF8? ⟨value.toUTF8.data.toList.toArray⟩ = some value := by
      rw [Array.toArray_toList]
      simp only [String.fromUTF8?, String.toUTF8_eq_toByteArray, dif_pos value.isValidUTF8]
      rfl
    rw [readStringU16, List.append_assoc, bind_ok (readExact_append (length_beBytes 2 _) _),
      beValue_beBytes 2 _ hlength, bind_ok (readExact_append rfl rest), htext]
    rfl
  · cases h

theorem readLength_write (dialect : NbtDialect) {kind title : String}
    (h : writeLength length title = .ok bytes) (rest : List UInt8) :
    readLength dialect kind (bytes ++ rest) = .ok (length, rest) := by
  unfold writeLength at h
  split at h
  next hlength =>
    obtain rfl := Except.ok.inj h
    have hfits : FitsSigned 4 (length : Int) := by
      unfold FitsSigned
      omega
    rw [readLength, bind_ok (readSigned_beInt hfits rest), if_neg (by omega), Int.toNat_natCast]
    rfl
  · cases h

/-- `Reads reader bytes value`: with any bytes behind them, the bytes are read as the value. -/
def Reads {α : Type} (reader : NbtReader α) (bytes : List UInt8) (value : α) : Prop :=
  ∀ rest, reader (bytes ++ rest) = .ok (value, rest)

theorem Reads.bind {reader : NbtReader α} {next : α → NbtReader β} {bytes' : List UInt8} {value : α}
    {value' : β} (h : Reads reader bytes value) (h' : Reads (next value) bytes' value') :
    Reads (reader >>= next) (bytes ++ bytes') value' := by
  intro rest
  rw [List.append_assoc, bind_ok (h _)]
  exact h' rest

theorem Reads.pure (value : α) : Reads (Pure.pure value) [] value := fun _ => rfl

theorem Reads.wrap {reader : NbtReader α} {value : α} (h : Reads reader bytes value) (f : α → β) :
    Reads (reader >>= fun value => Pure.pure (f value)) bytes (f value) := by
  intro rest
  rw [bind_ok (h rest)]
  rfl

theorem readU8_cons (byte : UInt8) (rest : List UInt8) : readU8 (byte :: rest) = .ok (byte, rest) :=
  rfl

theorem reads_readMany {reader : NbtReader α} {write : α → List UInt8} {values : List α}
    (h : ∀ value ∈ values, Reads reader (write value) value) :
    Reads (readMany reader values.length) (values.flatMap write) values := by
  induction values with
  | nil => exact Reads.pure []
  | cons value values ih =>
    have hrest := ih fun other hother => h other (List.mem_cons_of_mem _ hother)
    exact (h value List.mem_cons_self).bind (hrest.wrap (value :: ·))

/-- A tag is written, and what is written is read back as the tag by a reader that may go as deep
    as there are bytes. -/
def RoundTrips (dialect : NbtDialect) (tag : NbtTag) : Prop :=
  ∃ bytes, writeTagPayload tag = .ok bytes ∧
    ∀ depth, bytes.length < depth → Reads (readTagPayload dialect depth tag.tagType) bytes tag

variable {dialect : NbtDialect}

theorem RoundTrips.list {tagType : UInt8} {values : List NbtTag}
    (hvalues : ∀ value ∈ values, RoundTrips dialect value)
    (htypes : ∀ value ∈ values, value.tagType = tagType) :
    ∃ items, writeTagPayloads values = .ok items ∧ ∀ depth, items.length < depth →
      Reads (readMany (readTagPayload dialect depth tagType) values.length) items values := by
  induction values with
  | nil => exact ⟨[], rfl, fun _ _ => Reads.pure []⟩
  | cons value values ih =>
    obtain ⟨first, hfirst, hreads⟩ := hvalues value List.mem_cons_self
    obtain ⟨others, hothers, hreads'⟩ := ih (fun other h => hvalues other (List.mem_cons_of_mem _ h))
      fun other h => htypes other (List.mem_cons_of_mem _ h)
    refine ⟨first ++ others, by rw [writeTagPayloads, hfirst, hothers]; rfl, fun depth hdepth => ?_⟩
    rw [List.length_append] at hdepth
    have hhead := hreads depth (by omega)
    rw [htypes value List.mem_cons_self] at hhead
    exact hhead.bind ((hreads' depth (by omega)).wrap (value :: ·))

theorem tagType_ne_zero (tag : NbtTag) : tag.tagType ≠ 0 := by
  cases tag <;> exact of_decide_eq_true rfl

theorem RoundTrips.compound {values : NbtFields}
    (hvalues : ∀ entry ∈ values, RoundTrips dialect entry.2)
    (hnames : ∀ entry ∈ values, utf8Length entry.1 < 2 ^ 16) :
    ∃ entries, writeNamedTags values = .ok entries ∧ values.length ≤ entries.length ∧
      ∀ depth rounds front, entries.length < depth → values.length < rounds →
        NbtFields.Sorted (front ++ values) →
          Reads (readNamedTags (readTagPayload dialect depth) rounds front) (entries ++ [0])
            (front ++ values) := by
  induction values with
  | nil =>
    refine ⟨[], rfl, Nat.le_refl _, fun depth rounds front _ hrounds _ => ?_⟩
    obtain ⟨rounds, rfl⟩ : ∃ more, rounds = more + 1 := ⟨rounds - 1, by omega⟩
    intro rest
    rw [List.append_nil, readNamedTags]
    exact bind_ok (readU8_cons 0 rest)
  | cons entry values ih =>
    obtain ⟨name, value⟩ := entry
    obtain ⟨payload, hpayload, hreads⟩ := hvalues (name, value) List.mem_cons_self
    obtain ⟨others, hothers, hlength, hreads'⟩ :=
      ih (fun other h => hvalues other (List.mem_cons_of_mem _ h))
        fun other h => hnames other (List.mem_cons_of_mem _ h)
    have htitle : writeStringU16 name =
        .ok (beBytes 2 (utf8Length name) ++ name.toUTF8.data.toList) :=
      if_pos (hnames (name, value) List.mem_cons_self)
    refine ⟨value.tagType ::
      (beBytes 2 (utf8Length name) ++ name.toUTF8.data.toList) ++ payload ++ others, ?_, ?_, ?_⟩
    · rw [writeNamedTags, htitle, hpayload, hothers]
      rfl
    · simp only [List.length_cons, List.length_append]
      omega
    · intro depth rounds front hdepth hrounds hsorted
      simp only [List.length_cons, List.length_append] at hdepth hrounds
      obtain ⟨rounds, rfl⟩ : ∃ more, rounds = more + 1 := ⟨rounds - 1, by omega⟩
      have hlast : NbtFields.insert front name value = front ++ [(name, value)] := by
        refine NbtFields.insert_last (fun before hbefore => ?_) value
        exact (List.pairwise_append.mp hsorted).2.2 before hbefore (name, value)
          List.mem_cons_self
      have hloop := hreads' depth rounds (front ++ [(name, value)]) (by omega) (by omega)
        (by simpa [NbtFields.Sorted] using hsorted)
      rw [← hlast] at hloop
      intro rest
      rw [readNamedTags]
      simp only [List.cons_append, List.append_assoc]
      have hend : others ++ 0 :: ([] ++ rest) = others ++ [0] ++ rest := by simp
      rw [bind_ok (readU8_cons value.tagType _), if_neg (tagType_ne_zero value),
        ← List.append_assoc (beBytes 2 _), bind_ok (readStringU16_write htitle _),
        bind_ok (hreads depth (by omega) _), hend, hloop rest, hlast]
      simp

theorem RoundTrips.intro {tag : NbtTag} (hwrite : writeTagPayload tag = .ok bytes)
    (hreads : ∀ depth, bytes.length ≤ depth →
      Reads (readTagPayload dialect (depth + 1) tag.tagType) bytes tag) :
    RoundTrips dialect tag := by
  refine ⟨bytes, hwrite, fun depth hdepth => ?_⟩
  obtain ⟨depth, rfl⟩ : ∃ more, depth = more + 1 := ⟨depth - 1, by omega⟩
  exact hreads depth (by omega)

theorem writeLength_eq (h : length < 2 ^ 31) (kind : String) :
    writeLength length kind = .ok (beInt 4 length) := if_pos h

theorem reads_counted {kind : String} {next : Nat → NbtReader α} {value : α} {f : α → β}
    (hlength : length < 2 ^ 31) (h : Reads (next length) bytes value) :
    Reads (readLength dialect kind >>= fun length => next length >>= fun value => pure (f value))
      (beInt 4 length ++ bytes) (f value) :=
  Reads.bind (readLength_write dialect (writeLength_eq hlength kind)) (h.wrap f)

end NbtReader

theorem NbtTag.Valid.roundTrips {dialect : NbtDialect} {tag : NbtTag} (h : tag.Valid dialect) :
    NbtReader.RoundTrips dialect tag := by
  open NbtReader in
  induction h with
  | byte h => exact .intro rfl fun _ _ => Reads.wrap (readSigned_beInt h) NbtTag.byte
  | short h => exact .intro rfl fun _ _ => Reads.wrap (readSigned_beInt h) NbtTag.short
  | int h => exact .intro rfl fun _ _ => Reads.wrap (readSigned_beInt h) NbtTag.int
  | long h => exact .intro rfl fun _ _ => Reads.wrap (readSigned_beInt h) NbtTag.long
  | float bits => exact .intro rfl fun _ _ => Reads.wrap (readF32_bits bits) NbtTag.float
  | double bits => exact .intro rfl fun _ _ => Reads.wrap (readF64_bits bits) NbtTag.double
  | @byteArray values hlength =>
    have hwrite : writeTagPayload (.byteArray values) = .ok (beInt 4 values.length ++ values) := by
      rw [writeTagPayload, writeLength_eq hlength]
      rfl
    exact .intro hwrite fun depth _ => reads_counted hlength (readExact_append rfl)
  | @string value hlength =>
    have hwrite : writeStringU16 value =
        .ok (beBytes 2 (utf8Length value) ++ value.toUTF8.data.toList) := if_pos hlength
    exact .intro hwrite fun _ _ => Reads.wrap (readStringU16_write hwrite) NbtTag.string
  | @list tagType values hlength htypes _ ih =>
    obtain ⟨items, hitems, hreads⟩ := RoundTrips.list ih htypes
    have hwrite : writeTagPayload (.list tagType values) =
        .ok (tagType :: beInt 4 values.length ++ items) := by
      rw [writeTagPayload, writeLength_eq hlength, hitems]
      rfl
    refine .intro hwrite fun depth hdepth rest => ?_
    simp only [List.length_append, List.length_cons] at hdepth
    exact (bind_ok (readU8_cons tagType _)).trans
      (reads_counted hlength (hreads depth (by omega)) rest)
  | @compound values hsorted hnames _ ih =>
    obtain ⟨entries, hentries, hlength, hreads⟩ := RoundTrips.compound ih hnames
    have hwrite : writeTagPayload (.compound values) = .ok (entries ++ [0]) := by
      rw [writeTagPayload, hentries]
      rfl
    refine .intro hwrite fun depth hdepth => ?_
    rw [List.length_append, List.length_singleton] at hdepth
    exact Reads.wrap (hreads depth depth [] (by omega) (by omega) hsorted) NbtTag.compound
  | @intArray values hlength hvalues =>
    have hwrite : writeTagPayload (.intArray values) =
        .ok (beInt 4 values.length ++ values.flatMap (beInt 4)) := by
      rw [writeTagPayload, writeLength_eq hlength]
      rfl
    exact .intro hwrite fun _ _ =>
      reads_counted hlength (reads_readMany fun value h => readSigned_beInt (hvalues value h))
  | @longArray values hdialect hlength hvalues =>
    have hwrite : writeTagPayload (.longArray values) =
        .ok (beInt 4 values.length ++ values.flatMap (beInt 8)) := by
      rw [writeTagPayload, writeLength_eq hlength]
      rfl
    refine .intro hwrite fun depth _ => ?_
    have hbranch : readTagPayload dialect (depth + 1) (NbtTag.longArray values).tagType =
        readLength dialect "long array" >>= fun length =>
          readMany (readSigned 8) length >>= fun values => pure (.longArray values) :=
      if_pos hdialect
    rw [hbranch]
    exact reads_counted hlength (reads_readMany fun value h => readSigned_beInt (hvalues value h))

/-- A document whose root is a valid compound is written under any name, and read back as it
    was. -/
theorem readNbt_writeNbt_named {dialect : NbtDialect} {root : NbtFields} {name : String}
    (h : (NbtTag.compound root).Valid dialect) (hname : utf8Length name < 2 ^ 16) :
    ∃ bytes, writeNbt name (.compound root) = .ok bytes ∧
      readNbt dialect bytes = .ok (.compound root) := by
  obtain ⟨payload, hpayload, hreads⟩ := h.roundTrips
  obtain ⟨title, htitle⟩ : ∃ title, writeStringU16 name = .ok title := ⟨_, if_pos hname⟩
  refine ⟨10 :: title ++ payload, by rw [writeNbt, htitle, hpayload]; rfl, ?_⟩
  have hdepth : payload.length < (10 :: title ++ payload).length := by
    simp only [List.cons_append, List.length_cons, List.length_append]
    omega
  have hroot := hreads _ hdepth []
  rw [List.append_nil] at hroot
  have hdocument : NbtReader.document dialect (10 :: title ++ payload).length
      (10 :: title ++ payload) = .ok (.compound root, []) := by
    rw [NbtReader.document, List.cons_append, NbtReader.bind_ok (NbtReader.readU8_cons 10 _),
      if_neg (by decide), NbtReader.bind_ok (NbtReader.readStringU16_write htitle payload)]
    exact hroot
  rw [readNbt, hdocument]
  rfl

/-! ### What is read is valid -/

namespace NbtReader

/-- What the reader returns has the property. -/
def Yields {α : Type} (reader : NbtReader α) (P : α → Prop) : Prop :=
  ∀ bytes value rest, reader bytes = .ok (value, rest) → P value

section Yields

variable {α β : Type} {P : α → Prop} {Q : β → Prop} {dialect : NbtDialect}

theorem Yields.pure {value : α} (h : P value) : Yields (Pure.pure value) P := by
  intro bytes found rest hread
  cases hread
  exact h

theorem Yields.fail (error : StorageError) : Yields (NbtReader.fail error) P := by
  intro bytes value rest hread
  cases hread

theorem Yields.bind {reader : NbtReader α} {next : α → NbtReader β} (h : Yields reader P)
    (h' : ∀ value, P value → Yields (next value) Q) : Yields (reader >>= next) Q := by
  intro bytes value' rest hread
  change (reader bytes >>= fun step => next step.1 step.2) = _ at hread
  cases hfirst : reader bytes with
  | error fault =>
    rw [hfirst] at hread
    cases hread
  | ok step =>
    rw [hfirst] at hread
    exact h' step.1 (h bytes step.1 step.2 hfirst) step.2 value' rest hread

theorem yields_readU8 : Yields readU8 fun _ => True := fun _ _ _ _ => trivial

theorem yields_readExact (length : Nat) : Yields (readExact length) fun bytes =>
    bytes.length = length := by
  intro bytes value rest hread
  unfold readExact at hread
  split at hread
  · cases hread
  · cases hread
    rw [List.length_take]
    omega

theorem yields_readSigned (width : Nat) : Yields (readSigned width) (FitsSigned width) := by
  refine Yields.bind (yields_readExact width) fun bytes hlength => .pure ?_
  subst hlength
  exact fitsSigned_toSigned (beValue_lt bytes)

theorem yields_readStringU16 : Yields readStringU16 fun value => utf8Length value < 2 ^ 16 := by
  refine Yields.bind (yields_readExact 2) fun header hheader => ?_
  refine Yields.bind (yields_readExact _) fun bytes hlength => ?_
  have hbound := beValue_lt header
  rw [hheader] at hbound
  cases htext : String.fromUTF8? ⟨bytes.toArray⟩ with
  | none => exact .fail _
  | some value =>
    refine .pure ?_
    unfold String.fromUTF8? at htext
    split at htext
    · cases htext
      change bytes.toArray.toList.length < 2 ^ 16
      rw [List.toList_toArray, hlength]
      exact hbound
    · cases htext

theorem yields_readLength (kind : String) :
    Yields (readLength dialect kind) fun length => length < 2 ^ 31 := by
  refine Yields.bind (yields_readSigned 4) fun length hfits => ?_
  split
  · exact .fail _
  · refine .pure ?_
    unfold FitsSigned at hfits
    omega

theorem yields_readMany {reader : NbtReader α} (h : Yields reader P) (count : Nat) :
    Yields (readMany reader count) fun values => values.length = count ∧ ∀ value ∈ values, P value := by
  induction count with
  | zero => exact .pure ⟨rfl, fun _ hmem => by cases hmem⟩
  | succ count ih =>
    refine Yields.bind h fun first hfirst => Yields.bind ih fun others hothers => .pure ⟨?_, ?_⟩
    · rw [List.length_cons, hothers.1]
    · intro value hmem
      rcases List.mem_cons.mp hmem with rfl | hmem
      · exact hfirst
      · exact hothers.2 value hmem

/-- What a compound needs to be valid. -/
def ValidFields (dialect : NbtDialect) (fields : NbtFields) : Prop :=
  fields.Sorted ∧ ∀ entry ∈ fields, utf8Length entry.1 < 2 ^ 16 ∧ entry.2.Valid dialect

theorem yields_readNamedTags {readPayload : UInt8 → NbtReader NbtTag}
    (h : ∀ tagType, Yields (readPayload tagType) (NbtTag.Valid dialect)) (rounds : Nat)
    (hfields : ValidFields dialect fields) :
    Yields (readNamedTags readPayload rounds fields) (ValidFields dialect) := by
  induction rounds generalizing fields with
  | zero => exact .fail _
  | succ rounds ih =>
    refine Yields.bind yields_readU8 fun childType _ => ?_
    split
    · exact .pure hfields
    · refine Yields.bind yields_readStringU16 fun name hname => ?_
      refine Yields.bind (h childType) fun value hvalue => ih ⟨hfields.1.insert name value, ?_⟩
      intro entry hentry
      rcases NbtFields.mem_insert hentry with rfl | hentry
      · exact ⟨hname, hvalue⟩
      · exact hfields.2 entry hentry

/-- However deep the tags are nested, the reader returns a valid tag of the kind it is asked for. -/
theorem yields_readTagPayload (depth : Nat) (tagType : UInt8) :
    Yields (readTagPayload dialect depth tagType) fun tag =>
      tag.Valid dialect ∧ tag.tagType = tagType := by
  induction depth generalizing tagType with
  | zero => exact .fail _
  | succ depth ih =>
    have hkind : ∀ {tag : NbtTag} {n : Nat}, tagType.toNat = n → tag.tagType.toNat = n →
        tag.tagType = tagType := fun hn htag => UInt8.toNat_inj.mp (htag.trans hn.symm)
    unfold readTagPayload
    split
    next hn => exact .bind (yields_readSigned 1) fun value h => .pure ⟨.byte h, hkind hn rfl⟩
    next hn => exact .bind (yields_readSigned 2) fun value h => .pure ⟨.short h, hkind hn rfl⟩
    next hn => exact .bind (yields_readSigned 4) fun value h => .pure ⟨.int h, hkind hn rfl⟩
    next hn => exact .bind (yields_readSigned 8) fun value h => .pure ⟨.long h, hkind hn rfl⟩
    next hn =>
      exact .bind (P := fun _ => True) (fun _ _ _ _ => trivial) fun bits _ =>
        .pure ⟨.float bits, hkind hn rfl⟩
    next hn =>
      exact .bind (P := fun _ => True) (fun _ _ _ _ => trivial) fun bits _ =>
        .pure ⟨.double bits, hkind hn rfl⟩
    next hn =>
      refine .bind (yields_readLength _) fun length hlength =>
        .bind (yields_readExact length) fun values hvalues => .pure ⟨.byteArray ?_, hkind hn rfl⟩
      rw [hvalues]
      exact hlength
    next hn => exact .bind yields_readStringU16 fun value h => .pure ⟨.string h, hkind hn rfl⟩
    next hn =>
      refine .bind yields_readU8 fun childType _ => .bind (yields_readLength _) fun length hlength =>
        .bind (yields_readMany (ih childType) length) fun values hvalues =>
          .pure ⟨.list ?_ (fun value hmem => (hvalues.2 value hmem).2)
            fun value hmem => (hvalues.2 value hmem).1, hkind hn rfl⟩
      rw [hvalues.1]
      exact hlength
    next hn =>
      refine .bind (yields_readNamedTags (fun tagType => ?_) depth ⟨List.Pairwise.nil, ?_⟩)
        fun fields hfields => .pure ⟨.compound hfields.1 (fun entry hentry =>
          (hfields.2 entry hentry).1) fun entry hentry => (hfields.2 entry hentry).2, hkind hn rfl⟩
      · exact fun bytes value rest hread => (ih tagType bytes value rest hread).1
      · exact fun entry hentry => by cases hentry
    next hn =>
      refine .bind (yields_readLength _) fun length hlength =>
        .bind (yields_readMany (yields_readSigned 4) length) fun values hvalues =>
          .pure ⟨.intArray ?_ hvalues.2, hkind hn rfl⟩
      rw [hvalues.1]
      exact hlength
    next hn =>
      split
      next hdialect =>
        refine .bind (yields_readLength _) fun length hlength =>
          .bind (yields_readMany (yields_readSigned 8) length) fun values hvalues =>
            .pure ⟨.longArray hdialect ?_ hvalues.2, hkind hn rfl⟩
        rw [hvalues.1]
        exact hlength
      next => exact .fail _
    next => exact .fail _

theorem yields_document (depth : Nat) :
    Yields (document dialect depth) fun tag => tag.Valid dialect ∧ tag.tagType = 10 := by
  refine Yields.bind yields_readU8 fun tagType _ => ?_
  split
  · exact .fail _
  next hroot =>
    obtain rfl : tagType = 10 := not_not.mp hroot
    exact .bind yields_readStringU16 fun _ _ => yields_readTagPayload depth 10

end Yields

end NbtReader

/-- Reading undoes writing: a valid compound is read back from what is written of it, under any
    name; and what is read, however deep it is nested, is valid, so that it is read back again. -/
theorem nbt_roundTrips :
    (∀ (root : NbtFields) (name : String), (NbtTag.compound root).Valid .modern →
      utf8Length name < 2 ^ 16 →
        ∃ bytes, writeNbt name (.compound root) = .ok bytes ∧
          readNbt .modern bytes = .ok (.compound root)) ∧
    ∀ depth bytes tag rest, NbtReader.document .modern depth bytes = .ok (tag, rest) →
      tag.Valid .modern ∧ ∀ name, utf8Length name < 2 ^ 16 →
        ∃ bytes', writeNbt name tag = .ok bytes' ∧ readNbt .modern bytes' = .ok tag := by
  refine ⟨fun root name hroot hname => readNbt_writeNbt_named hroot hname, ?_⟩
  intro depth bytes tag rest hread
  obtain ⟨hvalid, hroot⟩ := NbtReader.yields_document depth bytes tag rest hread
  refine ⟨hvalid, fun name hname => ?_⟩
  cases hvalid with
  | compound hsorted hnames hvalues =>
    exact readNbt_writeNbt_named (.compound hsorted hnames hvalues) hname
  | _ => cases hroot

/-- A list of compounds, of which one has a text and the other is empty. -/
def nestedFields : NbtFields :=
  [("Items", .list 10 [.compound [("id", .string "minecraft:stone")], .compound []])]

theorem nbt_roundTrips_nested : ∃ bytes, writeNbt "Level" (.compound nestedFields) = .ok bytes ∧
    readNbt .modern bytes = .ok (.compound nestedFields) := by
  have hitem : (NbtTag.compound [("id", .string "minecraft:stone")]).Valid .modern :=
    .compound (by unfold NbtFields.Sorted; decide) (by decide)
      (List.forall_mem_singleton.mpr (.string (by decide)))
  have hempty : (NbtTag.compound []).Valid .modern :=
    .compound (by unfold NbtFields.Sorted; decide) (by decide) (by simp)
  refine nbt_roundTrips.1 nestedFields "Level" ?_ (by decide)
  refine .compound (by unfold NbtFields.Sorted; decide) (by decide) ?_
  intro entry hentry
  obtain rfl := List.mem_singleton.mp hentry
  exact .list (by decide) (by decide) (by simp [hitem, hempty])

end RevyCraft
