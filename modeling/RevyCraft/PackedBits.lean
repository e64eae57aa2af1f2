/-
  RevyCraft/PackedBits.lean
  =========================
  **Values packed into words**, and palettes that number what is packed.

    * *Spilling*: values of one width behind each other, across the borders of the
      words (`packSpilling`).
    * *Aligned*: as many values in a word as fit, none across a border
      (`packAligned`).
    * *Palettes*: each key gets the next number the first time it is met
      (`Palette.intern`).

  Either packing is described bit by bit (`bitAt`), and a value is read back as the
  number that its bits spell (`extract`).
-/
import Mathlib.Data.List.Nodup
import Mathlib.Data.List.Perm.Subperm
import Mathlib.Data.Nat.Bitwise
import Mathlib.Tactic.Ring

namespace PackedBits

variable {W : Nat}

/-! ### The bits of a list of cells -/

/-- Bit `k` of cells that have this width, the low bits of a cell first. -/
def bitAt (width : Nat) (cells : List (BitVec W)) (k : Nat) : Bool :=
  ((cells[k / width]?).getD 0).getLsbD (k % width)

/-- The number that `width` bits of the words from `start` on spell. -/
def extract (words : List (BitVec W)) (start : Nat) : Nat → Nat
  | 0 => 0
  | width + 1 => (bitAt W words start).toNat + 2 * extract words (start + 1) width

theorem testBit_extract (words : List (BitVec W)) (start width b : Nat) :
    (extract words start width).testBit b = (decide (b < width) && bitAt W words (start + b)) := by
  induction width generalizing start b with
  | zero => simp [extract]
  | succ width ih =>
    rw [extract]
    cases b with
    | zero => cases bitAt W words start <;> simp [Nat.testBit_zero, Nat.add_mod]
    | succ b =>
      rw [Nat.testBit_succ]
      have hhalf : ((bitAt W words start).toNat + 2 * extract words (start + 1) width) / 2 =
          extract words (start + 1) width := by
        cases bitAt W words start <;> simp only [Bool.toNat_true, Bool.toNat_false] <;> omega
      rw [hhalf, ih, Nat.add_right_comm, Nat.add_assoc]
      simp

variable {value : BitVec W} {width start : Nat} {words words' values : List (BitVec W)}

theorem getLsbD_of_width {b : Nat} (hvalue : value.toNat < 2 ^ width) (hb : width ≤ b) :
    value.getLsbD b = false := by
  rw [← BitVec.testBit_toNat]
  exact Nat.testBit_lt_two_pow (Nat.lt_of_lt_of_le hvalue (Nat.pow_le_pow_right (by decide) hb))

theorem extract_eq (hvalue : value.toNat < 2 ^ width)
    (hbits : ∀ b, b < width → bitAt W words (start + b) = value.getLsbD b) :
    extract words start width = value.toNat := by
  apply Nat.eq_of_testBit_eq
  intro b
  rw [testBit_extract, BitVec.testBit_toNat]
  by_cases hb : b < width
  · simp [hb, hbits b hb]
  · rw [getLsbD_of_width hvalue (by omega)]
    simp [hb]

theorem bitAt_replicate_zero (width count k : Nat) :
    bitAt width (List.replicate count (0 : BitVec W)) k = false := by
  unfold bitAt
  rw [List.getElem?_replicate]
  split <;> simp

theorem bitAt_cons (hwidth : 0 < width) (cell : BitVec W) (cells : List (BitVec W)) (k : Nat) :
    bitAt width (cell :: cells) k =
      if k < width then cell.getLsbD k else bitAt width cells (k - width) := by
  unfold bitAt
  split
  next hk => rw [Nat.div_eq_of_lt hk, Nat.mod_eq_of_lt hk, List.getElem?_cons_zero, Option.getD_some]
  next hk =>
    have hdiv : k / width = (k - width) / width + 1 := Nat.div_eq_sub_div hwidth (by omega)
    have hmod : k % width = (k - width) % width := Nat.mod_eq_sub_mod (by omega)
    rw [hdiv, hmod, List.getElem?_cons_succ]

theorem bitAt_cell {b i : Nat} {cells : List (BitVec W)} {cell : BitVec W}
    (hcell : cells[i]? = some cell) (hb : b < width) :
    bitAt width cells (i * width + b) = cell.getLsbD b := by
  unfold bitAt
  rw [Nat.mul_comm i width, Nat.mul_add_div (by omega), Nat.div_eq_of_lt hb, Nat.add_zero, hcell,
    Nat.mul_add_mod, Nat.mod_eq_of_lt hb, Option.getD_some]

/-! ### Values across the borders of words -/

/-- `words[index] |= value`; `none` where there is no such word. -/
def orAt (words : List (BitVec W)) (index : Nat) (value : BitVec W) : Option (List (BitVec W)) :=
  if index < words.length then some (words.modify index (· ||| value)) else none

/-- Puts a value of `width` bits at the bit `start`. -/
def orBits (words : List (BitVec W)) (width start : Nat) (value : BitVec W) :
    Option (List (BitVec W)) := do
  let words ← orAt words (start / W) (value <<< (start % W))
  if start % W + width > W then
    let spill := start % W + width - W
    orAt words (start / W + 1) (value >>> (width - spill))
  else some words

/-- The loop over the values, from the one of this index on. -/
def packFrom (width : Nat) : List (BitVec W) → Nat → List (BitVec W) → Option (List (BitVec W))
  | words, _, [] => some words
  | words, index, value :: values => do
    let words ← orBits words width (index * width) value
    packFrom width words (index + 1) values

/-- Values behind each other in as many words as they need. -/
def packSpilling (values : List (BitVec W)) (width : Nat) : Option (List (BitVec W)) :=
  packFrom width (List.replicate ((values.length * width + W - 1) / W) 0) 0 values

theorem length_orAt {index : Nat} (h : orAt words index value = some words') :
    words'.length = words.length := by
  unfold orAt at h
  split at h
  · rw [← Option.some.inj h, List.length_modify]
  · cases h

theorem bitAt_orAt {index : Nat} (h : orAt words index value = some words') (k : Nat) :
    bitAt W words' k = (bitAt W words k || (decide (k / W = index) && value.getLsbD (k % W))) := by
  unfold orAt at h
  split at h
  next hindex =>
    rw [← Option.some.inj h]
    unfold bitAt
    rw [List.getElem?_modify]
    by_cases hk : index = k / W
    · subst hk
      simp [List.getElem?_eq_getElem hindex]
    · simp [hk, eq_comm]
  · cases h

theorem length_orBits (h : orBits words width start value = some words') :
    words'.length = words.length := by
  obtain ⟨middle, hfirst, hsecond⟩ := Option.bind_eq_some_iff.mp h
  by_cases hspill : start % W + width > W
  · rw [if_pos hspill] at hsecond
    rw [length_orAt hsecond, length_orAt hfirst]
  · rw [if_neg hspill] at hsecond
    rw [← Option.some.inj hsecond, length_orAt hfirst]

theorem word_cases (hW : 0 < W) (start k : Nat) :
    (k / W < start / W ∧ k < start) ∨
    (k / W = start / W ∧ k + start % W = start + k % W) ∨
    (k / W = start / W + 1 ∧ k + start % W = start + W + k % W) ∨
    (start / W + 1 < k / W ∧ start + W < k) := by
  have hk := Nat.div_add_mod k W
  have hs := Nat.div_add_mod start W
  have hkmod := Nat.mod_lt k hW
  have hsmod := Nat.mod_lt start hW
  rcases Nat.lt_trichotomy (k / W) (start / W) with hlt | heq | hgt
  · have hmul : W * (k / W + 1) ≤ W * (start / W) := Nat.mul_le_mul_left W hlt
    rw [Nat.mul_add] at hmul
    exact .inl ⟨hlt, by omega⟩
  · rw [heq] at hk
    exact .inr (.inl ⟨heq, by omega⟩)
  · rcases Nat.eq_or_lt_of_le hgt with hnext | hfar
    · rw [← hnext, Nat.mul_succ] at hk
      exact .inr (.inr (.inl ⟨hnext.symm, by omega⟩))
    · have hmul : W * (start / W + 1 + 1) ≤ W * (k / W) := Nat.mul_le_mul_left W hfar
      rw [Nat.mul_add, Nat.mul_add] at hmul
      exact .inr (.inr (.inr ⟨hfar, by omega⟩))

theorem bitAt_orBits (hW : 0 < W) (hwidth : width ≤ W) (hvalue : value.toNat < 2 ^ width)
    (h : orBits words width start value = some words') (k : Nat) :
    bitAt W words' k = (bitAt W words k || (decide (start ≤ k) && value.getLsbD (k - start))) := by
  obtain ⟨middle, hfirst, hsecond⟩ := Option.bind_eq_some_iff.mp h
  have hbit := bitAt_orAt hfirst k
  have hkmod := Nat.mod_lt k hW
  have hsmod := Nat.mod_lt start hW
  rw [BitVec.getLsbD_shiftLeft] at hbit
  by_cases hspill : start % W + width > W
  · rw [if_pos hspill] at hsecond
    have hrest := bitAt_orAt hsecond k
    have hshift : width - (start % W + width - W) = W - start % W := by omega
    rw [BitVec.getLsbD_ushiftRight, hshift] at hrest
    rw [hrest, hbit]
    rcases word_cases hW start k with
      ⟨hword, hbelow⟩ | ⟨hword, hsame⟩ | ⟨hword, hnext⟩ | ⟨hword, habove⟩
    · have h1 : ¬ k / W = start / W := by omega
      have h2 : ¬ k / W = start / W + 1 := by omega
      have h3 : ¬ start ≤ k := by omega
      simp [h1, h2, h3]
    · have h2 : ¬ k / W = start / W + 1 := by omega
      rcases Nat.lt_or_ge (k % W) (start % W) with hlt | hge
      · have h3 : ¬ start ≤ k := by omega
        simp [hword, hkmod, hlt, h3]
      · have hoffset : k % W - start % W = k - start := by omega
        have h3 : start ≤ k := by omega
        have h4 : ¬ k % W < start % W := by omega
        simp [hword, hkmod, h3, h4, hoffset]
    · have h1 : ¬ k / W = start / W := by omega
      have hoffset : W - start % W + k % W = k - start := by omega
      have h3 : start ≤ k := by omega
      simp [hword, h3, hoffset]
    · have h1 : ¬ k / W = start / W := by omega
      have h2 : ¬ k / W = start / W + 1 := by omega
      simp [h1, h2, getLsbD_of_width hvalue (show width ≤ k - start by omega)]
  · rw [if_neg hspill] at hsecond
    rw [← Option.some.inj hsecond, hbit]
    rcases word_cases hW start k with
      ⟨hword, hbelow⟩ | ⟨hword, hsame⟩ | ⟨hword, hnext⟩ | ⟨hword, habove⟩
    · have h1 : ¬ k / W = start / W := by omega
      have h3 : ¬ start ≤ k := by omega
      simp [h1, h3]
    · rcases Nat.lt_or_ge (k % W) (start % W) with hlt | hge
      · have h3 : ¬ start ≤ k := by omega
        simp [hword, hkmod, hlt, h3]
      · have hoffset : k % W - start % W = k - start := by omega
        have h3 : start ≤ k := by omega
        have h4 : ¬ k % W < start % W := by omega
        simp [hword, hkmod, h3, h4, hoffset]
    · have h1 : ¬ k / W = start / W := by omega
      simp [h1, getLsbD_of_width hvalue (show width ≤ k - start by omega)]
    · have h1 : ¬ k / W = start / W := by omega
      simp [h1, getLsbD_of_width hvalue (show width ≤ k - start by omega)]

theorem orBits_eq_some (value : BitVec W) (hwidth : 0 < width)
    (hroom : start + width ≤ W * words.length) :
    ∃ words', orBits words width start value = some words' := by
  have hs := Nat.div_add_mod start W
  have hfirst : start / W < words.length := Nat.div_lt_of_lt_mul (by omega)
  have hmiddle : orAt words (start / W) (value <<< (start % W)) =
      some (words.modify (start / W) (· ||| value <<< (start % W))) := if_pos hfirst
  unfold orBits
  rw [hmiddle, Option.bind_eq_bind, Option.bind_some]
  by_cases hspill : start % W + width > W
  · have hsecond : start / W + 1 < words.length := by
      refine Nat.lt_of_mul_lt_mul_left (a := W) ?_
      rw [Nat.mul_add]
      omega
    rw [if_pos hspill]
    exact ⟨_, if_pos (by rwa [List.length_modify])⟩
  · rw [if_neg hspill]
    exact ⟨_, rfl⟩

theorem packFrom_spec {index : Nat} (hwidth : 0 < width) (hwide : width ≤ W)
    (hvalues : ∀ value ∈ values, value.toNat < 2 ^ width)
    (hroom : (index + values.length) * width ≤ W * words.length) :
    ∃ words', packFrom width words index values = some words' ∧ words'.length = words.length ∧
      ∀ k, bitAt W words' k = (bitAt W words k ||
        (decide (index * width ≤ k) && bitAt width values (k - index * width))) := by
  induction values generalizing words index with
  | nil => exact ⟨words, rfl, rfl, fun k => by simp [bitAt]⟩
  | cons value values ih =>
    rw [List.length_cons, show index + (values.length + 1) = index + 1 + values.length by omega,
      Nat.add_mul, Nat.add_mul, Nat.one_mul] at hroom
    obtain ⟨middle, hput⟩ := orBits_eq_some value hwidth
      (show index * width + width ≤ W * words.length by omega)
    have hlength := length_orBits hput
    have hroom' : (index + 1 + values.length) * width ≤ W * middle.length := by
      rw [hlength, Nat.add_mul, Nat.add_mul, Nat.one_mul]
      omega
    obtain ⟨words', hrest, hlength', hbits⟩ := ih
      (fun later hmem => hvalues later (List.mem_cons_of_mem _ hmem)) hroom'
    refine ⟨words', ?_, by rw [hlength', hlength], fun k => ?_⟩
    · show (orBits words width (index * width) value).bind _ = _
      rw [hput, Option.bind_some]
      exact hrest
    have hvalue := hvalues value List.mem_cons_self
    rw [hbits, bitAt_orBits (by omega) hwide hvalue hput, bitAt_cons hwidth, Nat.add_mul,
      Nat.one_mul, Bool.or_assoc]
    by_cases hk : index * width ≤ k
    · by_cases hin : k - index * width < width
      · have hnot : ¬ index * width + width ≤ k := by omega
        simp [hk, hin, hnot]
      · have hyes : index * width + width ≤ k := by omega
        have hoffset : k - (index * width + width) = k - index * width - width := by omega
        simp [hk, hin, hyes, hoffset, getLsbD_of_width hvalue (Nat.le_of_not_lt hin)]
    · have hnot : ¬ index * width + width ≤ k := by omega
      simp [hk, hnot]

theorem packSpilling_spec (hwidth : 0 < width) (hwide : width ≤ W)
    (hvalues : ∀ value ∈ values, value.toNat < 2 ^ width) :
    ∃ words, packSpilling values width = some words ∧
      words.length = (values.length * width + W - 1) / W ∧
      ∀ (i : Nat) (value : BitVec W), values[i]? = some value →
        extract words (i * width) width = value.toNat := by
  have hroom : (0 + values.length) * width ≤
      W * (List.replicate ((values.length * width + W - 1) / W) (0 : BitVec W)).length := by
    have hdiv := Nat.div_add_mod (values.length * width + W - 1) W
    have hmod := Nat.mod_lt (values.length * width + W - 1) (show W > 0 by omega)
    rw [List.length_replicate, Nat.zero_add]
    omega
  obtain ⟨words, hpack, hlength, hbits⟩ := packFrom_spec hwidth hwide hvalues hroom
  refine ⟨words, hpack, by rw [hlength, List.length_replicate], fun i value hvalue => ?_⟩
  refine extract_eq (hvalues value (List.mem_of_getElem? hvalue)) fun b hb => ?_
  rw [hbits, bitAt_replicate_zero, Nat.zero_mul, Nat.sub_zero, bitAt_cell hvalue hb]
  simp

/-! ### As many values in a word as fit -/

/-- The loop inside a word, from the value of this number on. -/
def packWord (width : Nat) : BitVec W → Nat → List (BitVec W) → BitVec W
  | word, _, [] => word
  | word, number, value :: values =>
    packWord width (word ||| value <<< (number * width)) (number + 1) values

/-- The loop over the words. -/
def packAligned (width perWord : Nat) : Nat → List (BitVec W) → List (BitVec W)
  | 0, _ => []
  | count + 1, values =>
    packWord width 0 0 (values.take perWord) :: packAligned width perWord count (values.drop perWord)

theorem getLsbD_packWord (hwidth : 0 < width) (hvalues : ∀ value ∈ values, value.toNat < 2 ^ width)
    (word : BitVec W) (number : Nat) {k : Nat} (hk : k < W) :
    (packWord width word number values).getLsbD k = (word.getLsbD k ||
      (decide (number * width ≤ k) && bitAt width values (k - number * width))) := by
  induction values generalizing word number with
  | nil => simp [packWord, bitAt]
  | cons value values ih =>
    have hvalue := hvalues value List.mem_cons_self
    rw [packWord, ih fun later hmem => hvalues later (List.mem_cons_of_mem _ hmem),
      BitVec.getLsbD_or, BitVec.getLsbD_shiftLeft, bitAt_cons hwidth, Nat.add_mul, Nat.one_mul,
      Bool.or_assoc]
    by_cases hfrom : number * width ≤ k
    · have hnlt : ¬ k < number * width := by omega
      by_cases hin : k - number * width < width
      · have hnot : ¬ number * width + width ≤ k := by omega
        simp [hk, hfrom, hnlt, hin, hnot]
      · have hyes : number * width + width ≤ k := by omega
        have hoffset : k - (number * width + width) = k - number * width - width := by omega
        simp [hk, hfrom, hin, hyes, hoffset, getLsbD_of_width hvalue (Nat.le_of_not_lt hin)]
    · have hnot : ¬ number * width + width ≤ k := by omega
      have hlt : k < number * width := by omega
      simp [hfrom, hlt, hnot]

theorem getElem?_packAligned {perWord count j : Nat} (values : List (BitVec W)) (hj : j < count) :
    (packAligned width perWord count values)[j]? =
      some (packWord width 0 0 ((values.drop (j * perWord)).take perWord)) := by
  induction count generalizing values j with
  | zero => omega
  | succ count ih =>
    cases j with
    | zero => simp [packAligned]
    | succ j =>
      rw [packAligned, List.getElem?_cons_succ, ih (values.drop perWord) (by omega), List.drop_drop,
        Nat.add_mul, Nat.one_mul, Nat.add_comm]

theorem packAligned_spec {perWord count : Nat} (hwidth : 0 < width) (hfits : perWord * width ≤ W)
    (hvalues : ∀ value ∈ values, value.toNat < 2 ^ width) (hroom : values.length ≤ perWord * count)
    {i : Nat} (hvalue : values[i]? = some value) :
    extract (packAligned width perWord count values) (i / perWord * W + i % perWord * width) width =
      value.toNat := by
  obtain ⟨hi, -⟩ := List.getElem?_eq_some_iff.mp hvalue
  have hper : 0 < perWord := Nat.pos_of_mul_pos_right (show 0 < perWord * count by omega)
  have hword : i / perWord < count := Nat.div_lt_of_lt_mul (by omega)
  have hnumber := Nat.mod_lt i hper
  have hinside : i % perWord * width + width ≤ W := by
    have hmul : (i % perWord + 1) * width ≤ perWord * width := Nat.mul_le_mul_right width hnumber
    rw [Nat.add_mul, Nat.one_mul] at hmul
    omega
  have hcell : ((values.drop (i / perWord * perWord)).take perWord)[i % perWord]? = some value := by
    rw [List.getElem?_take_of_lt hnumber, List.getElem?_drop, Nat.div_add_mod']
    exact hvalue
  refine extract_eq (hvalues value (List.mem_of_getElem? hvalue)) fun b hb => ?_
  have hbelow : i % perWord * width + b < W := by omega
  rw [Nat.add_assoc, bitAt_cell (getElem?_packAligned values hword) hbelow,
    getLsbD_packWord hwidth (fun later hmem =>
      hvalues later (List.mem_of_mem_drop (List.mem_of_mem_take hmem))) 0 0 hbelow,
    Nat.zero_mul, Nat.sub_zero, bitAt_cell hcell hb]
  simp

/-! ### Palettes -/

/-- The entries in the order of their numbers, and the number of each key. -/
structure Palette (κ β : Type) where
  entries : List β
  numbers : List (κ × Nat)

namespace Palette

variable {κ ι β : Type} [DecidableEq κ]

/-- The number of an item, which gets the next one if its key has none. -/
def intern (key : ι → κ) (entry : ι → β) (palette : Palette κ β) (item : ι) : Nat × Palette κ β :=
  match palette.numbers.lookup (key item) with
  | some number => (number, palette)
  | none =>
    (palette.entries.length,
      ⟨palette.entries ++ [entry item], (key item, palette.entries.length) :: palette.numbers⟩)

def internAll (key : ι → κ) (entry : ι → β) (palette : Palette κ β) :
    List ι → List Nat × Palette κ β
  | [] => ([], palette)
  | item :: items =>
    let first := palette.intern key entry item
    let rest := first.2.internAll key entry items
    (first.1 :: rest.1, rest.2)

/-- The number of an item's key is that of its entry. -/
def Numbers (key : ι → κ) (entry : ι → β) (P : ι → Prop) (palette : Palette κ β) : Prop :=
  ∀ item, P item → ∀ number, palette.numbers.lookup (key item) = some number →
    palette.entries[number]? = some (entry item)

variable (key : ι → κ) (entry : ι → β) {P : ι → Prop} {palette : Palette κ β}

theorem intern_spec (hkey : ∀ a b, P a → P b → key a = key b → entry a = entry b)
    (h : palette.Numbers key entry P) {item : ι} (hitem : P item) :
    (palette.intern key entry item).2.Numbers key entry P ∧
      palette.entries <+: (palette.intern key entry item).2.entries ∧
      (palette.intern key entry item).2.entries[(palette.intern key entry item).1]? =
        some (entry item) := by
  unfold intern
  split
  next number hfound => exact ⟨h, List.prefix_refl _, h item hitem number hfound⟩
  next hnew =>
    refine ⟨fun other hother number hnumber => ?_, List.prefix_append _ _, by simp⟩
    rw [List.lookup_cons] at hnumber
    split at hnumber
    next hsame =>
      rw [← Option.some.inj hnumber, List.getElem?_concat_length,
        hkey other item hother hitem (beq_iff_eq.mp hsame)]
    next =>
      have hold := h other hother number hnumber
      rwa [List.getElem?_append_left (List.getElem?_eq_some_iff.mp hold).1]

theorem getElem?_of_prefix {entries entries' : List β} (h : entries <+: entries') {number : Nat}
    {value : β} (hvalue : entries[number]? = some value) : entries'[number]? = some value := by
  obtain ⟨more, rfl⟩ := h
  rwa [List.getElem?_append_left (List.getElem?_eq_some_iff.mp hvalue).1]

theorem internAll_spec (hkey : ∀ a b, P a → P b → key a = key b → entry a = entry b)
    {items : List ι} (h : palette.Numbers key entry P) (hitems : ∀ item ∈ items, P item) :
    (palette.internAll key entry items).1.length = items.length ∧
      palette.entries <+: (palette.internAll key entry items).2.entries ∧
      ∀ (i : Nat) (item : ι), items[i]? = some item → ∃ number,
        (palette.internAll key entry items).1[i]? = some number ∧
        (palette.internAll key entry items).2.entries[number]? = some (entry item) := by
  induction items generalizing palette with
  | nil => exact ⟨rfl, List.prefix_refl _, fun i item hitem => by simp at hitem⟩
  | cons first items ih =>
    obtain ⟨hnumbers, hprefix, hfirst⟩ :=
      intern_spec key entry hkey h (hitems first List.mem_cons_self)
    obtain ⟨hlength, hprefix', hrest⟩ := ih hnumbers fun item hmem =>
      hitems item (List.mem_cons_of_mem _ hmem)
    rw [internAll]
    refine ⟨by simp [hlength], hprefix.trans hprefix', fun i item hitem => ?_⟩
    cases i with
    | zero =>
      rw [List.getElem?_cons_zero, Option.some.injEq] at hitem
      subst hitem
      exact ⟨_, List.getElem?_cons_zero, getElem?_of_prefix hprefix' hfirst⟩
    | succ i =>
      rw [List.getElem?_cons_succ] at hitem
      obtain ⟨number, hnumber, hvalue⟩ := hrest i item hitem
      exact ⟨number, by rwa [List.getElem?_cons_succ], hvalue⟩

theorem length_intern (palette : Palette κ β) (item : ι) :
    (palette.intern key entry item).2.entries.length ≤ palette.entries.length + 1 := by
  unfold intern
  split <;> simp

theorem mem_intern {item : ι} {value : β}
    (h : value ∈ (palette.intern key entry item).2.entries) :
    value ∈ palette.entries ∨ value = entry item := by
  unfold intern at h
  split at h
  · exact .inl h
  · exact (List.mem_append.mp h).imp_right List.mem_singleton.mp

/-- No entry is there twice, and each has a number. -/
structure Distinct (palette : Palette κ κ) : Prop where
  nodup : palette.entries.Nodup
  numbered : ∀ value ∈ palette.entries, palette.numbers.lookup value ≠ none

theorem Distinct.intern {palette : Palette κ κ} (h : palette.Distinct) (item : κ) :
    (palette.intern id id item).2.Distinct := by
  unfold Palette.intern
  split
  next => exact h
  next hnew =>
    have hfresh : item ∉ palette.entries := fun hmem => h.numbered item hmem hnew
    refine ⟨List.nodup_append.mpr ⟨h.nodup, List.nodup_singleton _, ?_⟩, fun value hmem => ?_⟩
    · intro a ha b hb hab
      rw [List.mem_singleton] at hb
      exact hfresh (by simpa [hab, hb] using ha)
    · rw [List.lookup_cons]
      split
      next => exact Option.some_ne_none _
      next hother =>
        rcases List.mem_append.mp hmem with hold | hlast
        · exact h.numbered value hold
        · exact absurd (List.mem_singleton.mp hlast) (by simpa using hother)

theorem length_internAll {palette : Palette κ κ} (h : palette.Distinct) {all : List κ}
    (hentries : ∀ value ∈ palette.entries, value ∈ all) {items : List κ}
    (hitems : ∀ item ∈ items, item ∈ all) :
    (palette.internAll id id items).2.entries.length ≤ all.length ∧
      ∀ value ∈ (palette.internAll id id items).2.entries, value ∈ all := by
  induction items generalizing palette with
  | nil => exact ⟨(List.subperm_of_subset h.nodup hentries).length_le, hentries⟩
  | cons first items ih =>
    rw [internAll]
    refine ih (h.intern first) (fun value hmem => ?_) fun item hmem =>
      hitems item (List.mem_cons_of_mem _ hmem)
    unfold intern at hmem
    split at hmem
    next => exact hentries value hmem
    next =>
      rcases List.mem_append.mp hmem with hold | hlast
      · exact hentries value hold
      · rw [List.mem_singleton.mp hlast]
        exact hitems first List.mem_cons_self

end Palette

end PackedBits
