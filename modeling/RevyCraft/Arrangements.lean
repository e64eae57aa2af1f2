/-
  RevyCraft/Arrangements.lean
  ===========================
  **Things laid out on a grid**, wherever on it they are.

  An arrangement says what is at each column and row.  `StartsAt` and `EndsAt` are the
  corners of its bounding box, `Shows` compares it with a pattern from its corner on, and
  `Translated` with an arrangement laid elsewhere.  `scattered` is about a list that is
  filled cell by cell.
-/
import Mathlib.Data.List.Basic

namespace RevyCraft.Arrangements

/-! ### Arrangements -/

/-- What is at each column and row. -/
abbrev Arrangement (α : Type) := Nat → Nat → Option α

variable {x y x' y' width : Nat}

section Arrangement

variable {α : Type} {a b : Arrangement α}

/-- The first column and the first row that are not empty. -/
structure StartsAt (a : Arrangement α) (column row : Nat) : Prop where
  le : ∀ x y, (a x y).isSome → column ≤ x ∧ row ≤ y
  left : ∃ y, (a column y).isSome
  top : ∃ x, (a x row).isSome

/-- The last column and the last row that are not empty. -/
structure EndsAt (a : Arrangement α) (column row : Nat) : Prop where
  le : ∀ x y, (a x y).isSome → x ≤ column ∧ y ≤ row
  right : ∃ y, (a column y).isSome
  bottom : ∃ x, (a x row).isSome

theorem StartsAt.unique (h : StartsAt a x y) (h' : StartsAt a x' y') : x = x' ∧ y = y' := by
  obtain ⟨row, hleft⟩ := h.left
  obtain ⟨column, htop⟩ := h.top
  obtain ⟨row', hleft'⟩ := h'.left
  obtain ⟨column', htop'⟩ := h'.top
  exact ⟨Nat.le_antisymm (h.le _ _ hleft').1 (h'.le _ _ hleft).1,
    Nat.le_antisymm (h.le _ _ htop').2 (h'.le _ _ htop).2⟩

theorem EndsAt.unique (h : EndsAt a x y) (h' : EndsAt a x' y') : x = x' ∧ y = y' := by
  obtain ⟨row, hright⟩ := h.right
  obtain ⟨column, hbottom⟩ := h.bottom
  obtain ⟨row', hright'⟩ := h'.right
  obtain ⟨column', hbottom'⟩ := h'.bottom
  exact ⟨Nat.le_antisymm (h'.le _ _ hright).1 (h.le _ _ hright').1,
    Nat.le_antisymm (h'.le _ _ hbottom).2 (h.le _ _ hbottom').2⟩

/-- Moved to the origin, it is the pattern. -/
def Shows (a pattern : Arrangement α) : Prop :=
  ∃ column row, StartsAt a column row ∧ ∀ x y, a (column + x) (row + y) = pattern x y

/-- What is laid somewhere, laid elsewhere. -/
def Translated (a b : Arrangement α) : Prop :=
  ∃ column row column' row' : Nat, (∀ x y, (a x y).isSome → column ≤ x ∧ row ≤ y) ∧
    (∀ x y, (b x y).isSome → column' ≤ x ∧ row' ≤ y) ∧
    ∀ x y, a (column + x) (row + y) = b (column' + x) (row' + y)

theorem Translated.symm (h : Translated a b) : Translated b a := by
  obtain ⟨column, row, column', row', ha, hb, hsame⟩ := h
  exact ⟨column', row', column, row, hb, ha, fun x y => (hsame x y).symm⟩

theorem Translated.startsAt {column row column' row' : Nat}
    (hb : ∀ x y, (b x y).isSome → column' ≤ x ∧ row' ≤ y)
    (hsame : ∀ x y, a (column + x) (row + y) = b (column' + x) (row' + y))
    (h : StartsAt a (column + x) (row + y)) (ha : ∀ x y, (a x y).isSome → column ≤ x ∧ row ≤ y) :
    StartsAt b (column' + x) (row' + y) where
  le u v huv := by
    obtain ⟨hu, hv⟩ := hb u v huv
    obtain ⟨u, rfl⟩ := Nat.exists_eq_add_of_le hu
    obtain ⟨v, rfl⟩ := Nat.exists_eq_add_of_le hv
    rw [← hsame] at huv
    have := h.le _ _ huv
    omega
  left := by
    obtain ⟨v, hleft⟩ := h.left
    obtain ⟨v, rfl⟩ := Nat.exists_eq_add_of_le (ha _ _ hleft).2
    exact ⟨row' + v, hsame x v ▸ hleft⟩
  top := by
    obtain ⟨u, htop⟩ := h.top
    obtain ⟨u, rfl⟩ := Nat.exists_eq_add_of_le (ha _ _ htop).1
    exact ⟨column' + u, hsame u y ▸ htop⟩

theorem Shows.translated {pattern : Arrangement α} (h : Shows a pattern) (hmoved : Translated a b) :
    Shows b pattern := by
  obtain ⟨column, row, column', row', ha, hb, hsame⟩ := hmoved
  obtain ⟨u, v, hstart, hshown⟩ := h
  obtain ⟨y, hleft⟩ := hstart.left
  obtain ⟨x, htop⟩ := hstart.top
  obtain ⟨p, rfl⟩ := Nat.exists_eq_add_of_le (ha _ _ hleft).1
  obtain ⟨q, rfl⟩ := Nat.exists_eq_add_of_le (ha _ _ htop).2
  refine ⟨column' + p, row' + q, Translated.startsAt hb hsame hstart ha, fun x y => ?_⟩
  rw [← hshown, Nat.add_assoc, Nat.add_assoc, ← hsame, Nat.add_assoc, Nat.add_assoc]

theorem shows_translated_iff {pattern : Arrangement α} (h : Translated a b) :
    Shows a pattern ↔ Shows b pattern :=
  ⟨fun hshows => hshows.translated h, fun hshows => hshows.translated h.symm⟩

theorem EndsAt.shown {pattern : Arrangement α} {column row : Nat} (h : EndsAt a x y)
    (hstart : StartsAt a column row) (hshown : ∀ u v, a (column + u) (row + v) = pattern u v) :
    EndsAt pattern (x - column) (y - row) where
  le u v huv := by
    rw [← hshown] at huv
    have := h.le _ _ huv
    omega
  right := by
    obtain ⟨v, hright⟩ := h.right
    obtain ⟨hx, hv⟩ := hstart.le _ _ hright
    refine ⟨v - row, ?_⟩
    rw [← hshown, Nat.add_sub_cancel' hx, Nat.add_sub_cancel' hv]
    exact hright
  bottom := by
    obtain ⟨u, hbottom⟩ := h.bottom
    obtain ⟨hu, hy⟩ := hstart.le _ _ hbottom
    refine ⟨u - column, ?_⟩
    rw [← hshown, Nat.add_sub_cancel' hu, Nat.add_sub_cancel' hy]
    exact hbottom

theorem Shows.unique {pattern pattern' : Arrangement α} (h : Shows a pattern)
    (h' : Shows a pattern') : pattern = pattern' := by
  obtain ⟨column, row, hstart, hshown⟩ := h
  obtain ⟨column', row', hstart', hshown'⟩ := h'
  obtain ⟨rfl, rfl⟩ := hstart.unique hstart'
  funext x y
  rw [← hshown, ← hshown']

end Arrangement

/-! ### Row by row -/

theorem index_div_mod (h : x < width) :
    (y * width + x) / width = y ∧ (y * width + x) % width = x := by
  constructor
  · rw [Nat.add_comm, Nat.add_mul_div_right _ _ (Nat.zero_lt_of_lt h), Nat.div_eq_of_lt h,
      Nat.zero_add]
  · rw [Nat.add_comm, Nat.add_mul_mod_self_right, Nat.mod_eq_of_lt h]

theorem index_eq (width index : Nat) : index / width * width + index % width = index := by
  rw [Nat.mul_comm]
  exact Nat.div_add_mod index width

theorem index_inj (hx : x < width) (hx' : x' < width) (h : y * width + x = y' * width + x') :
    x = x' ∧ y = y' := by
  obtain ⟨hdiv, hmod⟩ := index_div_mod (y := y) hx
  obtain ⟨hdiv', hmod'⟩ := index_div_mod (y := y') hx'
  rw [h] at hdiv hmod
  exact ⟨hmod.symm.trans hmod', hdiv.symm.trans hdiv'⟩

theorem index_lt {height : Nat} (hx : x < width) (hy : y < height) :
    y * width + x < width * height :=
  calc y * width + x < (y + 1) * width := by
        rw [Nat.add_mul]
        omega
    _ ≤ width * height := by
        rw [Nat.mul_comm]
        exact Nat.mul_le_mul_left _ hy

section Scattered

variable {α β : Type} {given : List α} {index : Nat}

theorem scattered_other {position : α → Nat} {value : α → β} {cells : List β}
    (h : ∀ item ∈ given, position item ≠ index) :
    (given.foldl (fun cells item => cells.set (position item) (value item)) cells)[index]? =
      cells[index]? := by
  induction given generalizing cells with
  | nil => rfl
  | cons item rest ih =>
    rw [List.foldl_cons, ih fun other hother => h other (List.mem_cons_of_mem _ hother)]
    exact List.getElem?_set_ne (h item List.mem_cons_self)

theorem scattered_at (position : α → Nat) (value : α → β) (cells : List β) {item : α}
    (hmem : item ∈ given) (hbound : position item < cells.length)
    (hone : ∀ other ∈ given, position other = position item → value other = value item) :
    (given.foldl (fun cells item => cells.set (position item) (value item)) cells)[position item]? =
      some (value item) := by
  induction given generalizing cells item with
  | nil => cases hmem
  | cons first rest ih =>
    rw [List.foldl_cons]
    have hrest := fun other hother => hone other (List.mem_cons_of_mem first hother)
    by_cases hlater : ∃ other ∈ rest, position other = position item
    · obtain ⟨other, hother, hsame⟩ := hlater
      rw [← hsame, ← hrest other hother hsame]
      refine ih _ hother ?_ fun another hanother h => ?_
      · rw [List.length_set, hsame]
        exact hbound
      · rw [hrest another hanother (h.trans hsame), hrest other hother hsame]
    · have hfirst : item = first := by
        rcases List.mem_cons.mp hmem with hfirst | hlast
        · exact hfirst
        · exact absurd ⟨item, hlast, rfl⟩ hlater
      subst hfirst
      rw [scattered_other fun other hother hsame => hlater ⟨other, hother, hsame⟩]
      exact List.getElem?_set_self hbound

end Scattered

end RevyCraft.Arrangements
