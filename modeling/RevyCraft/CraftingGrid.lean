/-
  RevyCraft/CraftingGrid.lean
  ===========================
  **What a crafting grid makes** (`current_crafting_recipe` of `mc-content-canonical`).

  The grid is read as an arrangement of item keys.  A recipe is made just when the
  arrangement, moved to the corner, is its pattern (`madeOf_iff`); so it does not matter
  where in the grid it is laid.  What is used up is one item of each occupied cell
  (`consumed_iff`).
-/
import RevyCraft.Arrangements
import RevyCraft.WindowClicks

namespace RevyCraft.CraftingGrid

open Canonical WindowClicks Arrangements

/-! ### Grids and recipes -/

/-- The item kinds that are laid in a grid. -/
def laid (inputs : List (Option ItemStack)) (width : Nat) : Arrangement String :=
  fun x y => if x < width then inputs[y * width + x]?.join.map ItemStack.key else none

/-- The item kinds of a recipe. -/
def pattern (recipe : Recipe) : Arrangement String :=
  fun x y => if x < recipe.width then recipe.pattern[y * recipe.width + x]?.join else none

/-- What a recipe makes. -/
def output (recipe : Recipe) : ItemStack := ItemStack.new recipe.outputKey recipe.outputCount 0

/-- What the grid makes. -/
def madeOf (inputs : List (Option ItemStack)) (width : Nat) : Option ItemStack :=
  (currentCraftingRecipe inputs width).map (·.1)

theorem recipes_fill : ∀ recipe ∈ recipes,
    recipe.pattern.length = recipe.width * recipe.height ∧ 0 < recipe.width ∧ 0 < recipe.height ∧
      EndsAt (pattern recipe) (recipe.width - 1) (recipe.height - 1) := by
  have hends : ∀ recipe ∈ recipes, recipe.pattern.length = recipe.width * recipe.height ∧
      0 < recipe.width ∧ 0 < recipe.height ∧
      (pattern recipe (recipe.width - 1) (recipe.height - 1)).isSome := by
    decide
  intro recipe hmem
  obtain ⟨hlength, hwidth, hheight, hcorner⟩ := hends recipe hmem
  refine ⟨hlength, hwidth, hheight, ⟨fun x y hcell => ?_, ⟨_, hcorner⟩, ⟨_, hcorner⟩⟩⟩
  unfold pattern at hcell
  split at hcell
  next hx =>
    refine ⟨by omega, ?_⟩
    by_contra hy
    rw [List.getElem?_eq_none] at hcell
    · cases hcell
    · rw [hlength, Nat.mul_comm recipe.width]
      exact Nat.le_trans (Nat.mul_le_mul_right _ (by omega)) (Nat.le_add_right _ _)
  next => cases hcell

theorem recipes_differ : ∀ recipe ∈ recipes, ∀ other ∈ recipes,
    (∀ x < 3, ∀ y < 3, pattern recipe x y = pattern other x y) →
      recipe.outputKey = other.outputKey ∧ recipe.outputCount = other.outputCount := by
  decide

theorem recipes_make : ∀ recipe ∈ recipes, ∀ other ∈ recipes, recipe.outputKey = other.outputKey →
    recipe.pattern = other.pattern ∧ recipe.width = other.width := by
  decide

/-! ### The cells of a grid -/

section Grid

variable {inputs : List (Option ItemStack)} {width : Nat}

theorem mem_occupiedCells_iff {index : Nat} {stack : ItemStack} :
    (index, stack) ∈ occupiedCells inputs ↔ inputs[index]? = some (some stack) := by
  refine ⟨mem_occupiedCells, fun h => ?_⟩
  exact List.mem_filterMap.mpr ⟨(some stack, index), List.mk_mem_zipIdx_iff_getElem?.mpr h, rfl⟩

theorem laid_at (hwidth : 0 < width) {index : Nat} {stack : ItemStack}
    (h : inputs[index]? = some (some stack)) :
    laid inputs width (index % width) (index / width) = some stack.key := by
  unfold laid
  rw [if_pos (Nat.mod_lt index hwidth), index_eq, h]
  rfl

theorem laid_isSome (hwidth : 0 < width) {x y : Nat} :
    (laid inputs width x y).isSome ↔
      ∃ cell ∈ occupiedCells inputs, cell.1 % width = x ∧ cell.1 / width = y := by
  constructor
  · intro hsome
    unfold laid at hsome
    split at hsome
    next hx =>
      rw [Option.isSome_map, Option.isSome_iff_exists] at hsome
      obtain ⟨stack, hstack⟩ := hsome
      obtain ⟨hdiv, hmod⟩ := index_div_mod (y := y) hx
      exact ⟨(y * width + x, stack), mem_occupiedCells_iff.mpr (Option.join_eq_some_iff.mp hstack),
        hmod, hdiv⟩
    next => cases hsome
  · rintro ⟨⟨index, stack⟩, hmem, rfl, rfl⟩
    rw [laid_at hwidth (mem_occupiedCells_iff.mp hmem)]
    rfl

theorem startsAt_of_min (hwidth : 0 < width) {minX minY : Nat}
    (hx : ((occupiedCells inputs).map fun cell => cell.1 % width).min? = some minX)
    (hy : ((occupiedCells inputs).map fun cell => cell.1 / width).min? = some minY) :
    StartsAt (laid inputs width) minX minY := by
  obtain ⟨hmemX, hminX⟩ := List.min?_eq_some_iff.mp hx
  obtain ⟨hmemY, hminY⟩ := List.min?_eq_some_iff.mp hy
  obtain ⟨left, hleft, hminX'⟩ := List.mem_map.mp hmemX
  obtain ⟨top, htop, hminY'⟩ := List.mem_map.mp hmemY
  refine ⟨fun x y hcell => ?_, ⟨_, (laid_isSome hwidth).mpr ⟨left, hleft, hminX', rfl⟩⟩,
    ⟨_, (laid_isSome hwidth).mpr ⟨top, htop, rfl, hminY'⟩⟩⟩
  obtain ⟨cell, hmem, rfl, rfl⟩ := (laid_isSome hwidth).mp hcell
  exact ⟨hminX _ (List.mem_map_of_mem hmem), hminY _ (List.mem_map_of_mem hmem)⟩

theorem endsAt_of_max (hwidth : 0 < width) {maxX maxY : Nat}
    (hx : ((occupiedCells inputs).map fun cell => cell.1 % width).max? = some maxX)
    (hy : ((occupiedCells inputs).map fun cell => cell.1 / width).max? = some maxY) :
    EndsAt (laid inputs width) maxX maxY := by
  obtain ⟨hmemX, hmaxX⟩ := List.max?_eq_some_iff.mp hx
  obtain ⟨hmemY, hmaxY⟩ := List.max?_eq_some_iff.mp hy
  obtain ⟨right, hright, hmaxX'⟩ := List.mem_map.mp hmemX
  obtain ⟨bottom, hbottom, hmaxY'⟩ := List.mem_map.mp hmemY
  refine ⟨fun x y hcell => ?_, ⟨_, (laid_isSome hwidth).mpr ⟨right, hright, hmaxX', rfl⟩⟩,
    ⟨_, (laid_isSome hwidth).mpr ⟨bottom, hbottom, rfl, hmaxY'⟩⟩⟩
  obtain ⟨cell, hmem, rfl, rfl⟩ := (laid_isSome hwidth).mp hcell
  exact ⟨hmaxX _ (List.mem_map_of_mem hmem), hmaxY _ (List.mem_map_of_mem hmem)⟩

variable {minX minY maxX maxY : Nat}

/-- The cells of the bounding box, row by row. -/
def boxed (inputs : List (Option ItemStack)) (width minX minY maxX maxY : Nat) :
    List (Option (Nat × String)) :=
  craftingGrid (occupiedCells inputs) width minX minY (maxX - minX + 1) (maxY - minY + 1)

/-- The box has the pattern of a recipe. -/
def fits (inputs : List (Option ItemStack)) (width minX minY maxX maxY : Nat) (recipe : Recipe) :
    Bool :=
  recipe.width = maxX - minX + 1 && recipe.height = maxY - minY + 1 &&
    (recipe.pattern.zip (boxed inputs width minX minY maxX maxY)).all
      fun cell => cell.1 = cell.2.map (·.2)

theorem currentCraftingRecipe_cases (hwidth : 0 < width) :
    occupiedCells inputs = [] ∧ currentCraftingRecipe inputs width = none ∨
    ∃ minX minY maxX maxY, StartsAt (laid inputs width) minX minY ∧
      EndsAt (laid inputs width) maxX maxY ∧
      currentCraftingRecipe inputs width =
        (recipes.find? (fits inputs width minX minY maxX maxY)).map fun recipe => (output recipe,
          (boxed inputs width minX minY maxX maxY).filterMap fun cell => cell.map (·.1)) := by
  by_cases hempty : occupiedCells inputs = []
  · refine .inl ⟨hempty, ?_⟩
    unfold currentCraftingRecipe
    rw [hempty]
    rfl
  · have hne : ∀ f : Nat × ItemStack → Nat, (occupiedCells inputs).map f ≠ [] := fun f h =>
      hempty (List.map_eq_nil_iff.mp h)
    obtain ⟨minX, hminX⟩ :=
      Option.isSome_iff_exists.mp (List.isSome_min?_of_ne_nil (hne fun cell => cell.1 % width))
    obtain ⟨minY, hminY⟩ :=
      Option.isSome_iff_exists.mp (List.isSome_min?_of_ne_nil (hne fun cell => cell.1 / width))
    obtain ⟨maxX, hmaxX⟩ :=
      Option.isSome_iff_exists.mp (List.isSome_max?_of_ne_nil (hne fun cell => cell.1 % width))
    obtain ⟨maxY, hmaxY⟩ :=
      Option.isSome_iff_exists.mp (List.isSome_max?_of_ne_nil (hne fun cell => cell.1 / width))
    refine .inr ⟨minX, minY, maxX, maxY, startsAt_of_min hwidth hminX hminY,
      endsAt_of_max hwidth hmaxX hmaxY, ?_⟩
    unfold currentCraftingRecipe
    dsimp only
    rw [hminX, hmaxX, hminY, hmaxY]
    rfl

theorem laid_lt_width (hends : EndsAt (laid inputs width) maxX maxY) : maxX < width := by
  obtain ⟨y, hright⟩ := hends.right
  unfold laid at hright
  split at hright
  next h => exact h
  next => cases hright

theorem boxed_length :
    (boxed inputs width minX minY maxX maxY).length = (maxX - minX + 1) * (maxY - minY + 1) :=
  craftingGrid_length ..

theorem boxed_getElem? (hwidth : 0 < width) (hstarts : StartsAt (laid inputs width) minX minY)
    (hends : EndsAt (laid inputs width) maxX maxY) {x y : Nat} (hx : x < maxX - minX + 1)
    (hy : y < maxY - minY + 1) :
    (boxed inputs width minX minY maxX maxY)[y * (maxX - minX + 1) + x]? =
      some (inputs[(minY + y) * width + (minX + x)]?.join.map fun stack =>
        ((minY + y) * width + (minX + x), stack.key)) := by
  have hlt := laid_lt_width hends
  have hlast : minX ≤ maxX := by
    obtain ⟨row, hright⟩ := hends.right
    exact (hstarts.le _ _ hright).1
  -- Cells that go to the same place of the box come from the same place of the grid.
  have hplace : ∀ cell ∈ occupiedCells inputs,
      (cell.1 / width - minY) * (maxX - minX + 1) + (cell.1 % width - minX) =
        y * (maxX - minX + 1) + x → cell.1 = (minY + y) * width + (minX + x) := by
    intro cell hmem hsame
    have hcell := (laid_isSome hwidth).mpr ⟨cell, hmem, rfl, rfl⟩
    have hlow := hstarts.le _ _ hcell
    have hhigh := hends.le _ _ hcell
    obtain ⟨hcolumn, hrow⟩ := index_inj (by omega) hx hsame
    rw [← index_eq width cell.1, ← hcolumn, ← hrow, Nat.add_sub_cancel' hlow.1,
      Nat.add_sub_cancel' hlow.2]
  cases hat : inputs[(minY + y) * width + (minX + x)]?.join with
  | some stack =>
    have hinput := Option.join_eq_some_iff.mp hat
    have hmem := mem_occupiedCells_iff.mpr hinput
    have hin : minX + x < width := by omega
    obtain ⟨hdiv, hmod⟩ := index_div_mod (y := minY + y) hin
    have hput := scattered_at (fun cell : Nat × ItemStack =>
        (cell.1 / width - minY) * (maxX - minX + 1) + (cell.1 % width - minX))
      (fun cell : Nat × ItemStack => some (cell.1, cell.2.key))
      (List.replicate ((maxX - minX + 1) * (maxY - minY + 1)) none) hmem ?_ ?_
    · dsimp only at hput
      rw [hdiv, hmod, Nat.add_sub_cancel_left, Nat.add_sub_cancel_left] at hput
      exact hput
    · dsimp only
      rw [hdiv, hmod, Nat.add_sub_cancel_left, Nat.add_sub_cancel_left, List.length_replicate]
      exact index_lt hx hy
    · intro other hother hsame
      dsimp only at hsame ⊢
      rw [hdiv, hmod, Nat.add_sub_cancel_left, Nat.add_sub_cancel_left] at hsame
      have hindex := hplace other hother hsame
      have hthere := mem_occupiedCells hother
      rw [hindex, hinput] at hthere
      cases hthere
      rw [hindex]
  | none =>
    refine (scattered_other fun cell hmem hsame => ?_).trans ?_
    · have hthere := mem_occupiedCells hmem
      rw [hplace cell hmem hsame] at hthere
      rw [hthere] at hat
      cases hat
    · rw [List.getElem?_replicate, if_pos]
      · rfl
      · exact index_lt hx hy

end Grid

/-! ### What is made and what is used up -/

section Made

variable {inputs : List (Option ItemStack)} {width minX minY maxX maxY : Nat}

theorem boxed_laid (hwidth : 0 < width) (hstarts : StartsAt (laid inputs width) minX minY)
    (hends : EndsAt (laid inputs width) maxX maxY) {x y : Nat} (hx : x < maxX - minX + 1)
    (hy : y < maxY - minY + 1) {cell : Option (Nat × String)}
    (h : (boxed inputs width minX minY maxX maxY)[y * (maxX - minX + 1) + x]? = some cell) :
    cell.map (·.2) = laid inputs width (minX + x) (minY + y) := by
  have hlt := laid_lt_width hends
  have hlast : minX ≤ maxX := by
    obtain ⟨row, hright⟩ := hends.right
    exact (hstarts.le _ _ hright).1
  rw [boxed_getElem? hwidth hstarts hends hx hy] at h
  cases h
  unfold laid
  rw [if_pos (by omega), Option.map_map]
  rfl

theorem mem_consumed_iff (hwidth : 0 < width) (hstarts : StartsAt (laid inputs width) minX minY)
    (hends : EndsAt (laid inputs width) maxX maxY) (index : Nat) :
    (index ∈ (boxed inputs width minX minY maxX maxY).filterMap fun cell => cell.map (·.1)) ↔
      ∃ stack, inputs[index]? = some (some stack) := by
  rw [List.mem_filterMap]
  constructor
  · rintro ⟨cell, hmem, hcell⟩
    obtain ⟨cell, rfl, rfl⟩ := Option.map_eq_some_iff.mp hcell
    obtain ⟨stack, hstack⟩ := mem_craftingGrid hmem
    exact ⟨stack, mem_occupiedCells hstack⟩
  · rintro ⟨stack, hstack⟩
    have hcell : (laid inputs width (index % width) (index / width)).isSome := by
      rw [laid_at hwidth hstack]
      rfl
    have hlow := hstarts.le _ _ hcell
    have hhigh := hends.le _ _ hcell
    have hbox := boxed_getElem? hwidth hstarts hends (x := index % width - minX)
      (y := index / width - minY) (by omega) (by omega)
    rw [Nat.add_sub_cancel' hlow.1, Nat.add_sub_cancel' hlow.2, index_eq, hstack] at hbox
    exact ⟨some (index, stack.key), List.mem_of_getElem? hbox, rfl⟩

theorem consumed_nodup (hwidth : 0 < width) (hstarts : StartsAt (laid inputs width) minX minY)
    (hends : EndsAt (laid inputs width) maxX maxY) :
    ((boxed inputs width minX minY maxX maxY).filterMap fun cell => cell.map (·.1)).Nodup := by
  have hlt := laid_lt_width hends
  have hlast : minX ≤ maxX := by
    obtain ⟨row, hright⟩ := hends.right
    exact (hstarts.le _ _ hright).1
  have hplace : ∀ place cell, (boxed inputs width minX minY maxX maxY)[place]? = some (some cell) →
      cell.1 = (minY + place / (maxX - minX + 1)) * width + (minX + place % (maxX - minX + 1)) := by
    intro place cell hcell
    have hbound := (List.getElem?_eq_some_iff.mp hcell).1
    rw [boxed_length] at hbound
    have hgrid := boxed_getElem? hwidth hstarts hends
      (x := place % (maxX - minX + 1)) (y := place / (maxX - minX + 1))
      (Nat.mod_lt _ (Nat.succ_pos _)) (Nat.div_lt_of_lt_mul hbound)
    rw [index_eq, hcell] at hgrid
    obtain ⟨stack, -, rfl⟩ := Option.map_eq_some_iff.mp (Option.some.inj hgrid).symm
    rfl
  refine List.pairwise_filterMap.mpr (List.pairwise_iff_getElem.mpr ?_)
  intro place other hbound hbound' hbefore index hindex index' hindex' hsame
  obtain ⟨cell, hcell, rfl⟩ := Option.map_eq_some_iff.mp hindex
  obtain ⟨cell', hcell', rfl⟩ := Option.map_eq_some_iff.mp hindex'
  rw [hplace place cell (List.getElem?_eq_some_iff.mpr ⟨hbound, hcell⟩),
    hplace other cell' (List.getElem?_eq_some_iff.mpr ⟨hbound', hcell'⟩)] at hsame
  have hcolumn : place % (maxX - minX + 1) < maxX - minX + 1 := Nat.mod_lt _ (Nat.succ_pos _)
  have hcolumn' : other % (maxX - minX + 1) < maxX - minX + 1 := Nat.mod_lt _ (Nat.succ_pos _)
  obtain ⟨hx, hy⟩ := index_inj (by omega) (by omega) hsame
  have hplaces := index_eq (maxX - minX + 1) place
  rw [Nat.add_left_cancel hx, Nat.add_left_cancel hy, index_eq] at hplaces
  omega

theorem matches_iff (hwidth : 0 < width) (hstarts : StartsAt (laid inputs width) minX minY)
    (hends : EndsAt (laid inputs width) maxX maxY) {recipe : Recipe} (hrecipe : recipe ∈ recipes) :
    fits inputs width minX minY maxX maxY recipe = true ↔
      Arrangements.Shows (laid inputs width) (pattern recipe) := by
  obtain ⟨hlength, hpos, hpos', hfill⟩ := recipes_fill recipe hrecipe
  simp only [fits, Bool.and_eq_true, decide_eq_true_eq, List.all_eq_true]
  constructor
  · rintro ⟨⟨hw, hh⟩, hall⟩
    refine ⟨minX, minY, hstarts, fun x y => ?_⟩
    by_cases hin : x < maxX - minX + 1 ∧ y < maxY - minY + 1
    · have hbound := index_lt hin.1 hin.2
      have hat : y * (maxX - minX + 1) + x < recipe.pattern.length := by
        rw [hlength, hw, hh]
        exact hbound
      have hat' := hbound
      rw [← @boxed_length inputs width] at hat'
      have hcell := boxed_laid hwidth hstarts hends hin.1 hin.2 (List.getElem?_eq_getElem hat')
      have hsame := hall _ (List.getElem_zip ▸
        List.getElem_mem (l := recipe.pattern.zip (boxed inputs width minX minY maxX maxY))
          (n := y * (maxX - minX + 1) + x) (by rw [List.length_zip]; omega))
      dsimp only at hsame
      unfold pattern
      rw [← hcell, ← hsame, if_pos (by omega), hw, List.getElem?_eq_getElem hat]
      rfl
    · have hlaid : laid inputs width (minX + x) (minY + y) = none := by
        rw [← Option.not_isSome_iff_eq_none]
        intro hsome
        have hlow := hstarts.le _ _ hsome
        have hhigh := hends.le _ _ hsome
        omega
      have hpattern : pattern recipe x y = none := by
        rw [← Option.not_isSome_iff_eq_none]
        intro hsome
        have := hfill.le _ _ hsome
        omega
      rw [hlaid, hpattern]
  · rintro ⟨column, row, hstarts', hshown⟩
    obtain ⟨rfl, rfl⟩ := hstarts.unique hstarts'
    obtain ⟨hw, hh⟩ := hfill.unique (hends.shown hstarts hshown)
    have hw' : recipe.width = maxX - minX + 1 := by omega
    have hh' : recipe.height = maxY - minY + 1 := by omega
    refine ⟨⟨hw', hh'⟩, fun cell hcell => ?_⟩
    obtain ⟨place, hplace⟩ := List.mem_iff_getElem?.mp hcell
    obtain ⟨hexpected, hactual⟩ := List.getElem?_zip_eq_some.mp hplace
    have hbound := (List.getElem?_eq_some_iff.mp hactual).1
    rw [boxed_length] at hbound
    have hx := Nat.mod_lt place (Nat.succ_pos (maxX - minX))
    have hy := Nat.div_lt_of_lt_mul hbound
    have hmap := boxed_laid hwidth hstarts hends hx hy
      ((congrArg _ (index_eq (maxX - minX + 1) place)).trans hactual)
    rw [hmap, hshown]
    unfold pattern
    rw [hw', if_pos hx, index_eq, hexpected]
    rfl

end Made

section Recipes

variable {inputs : List (Option ItemStack)} {width : Nat}

theorem currentCraftingRecipe_made (hwidth : 0 < width) {made : ItemStack} {consume : List Nat}
    (h : currentCraftingRecipe inputs width = some (made, consume)) :
    (∃ recipe ∈ recipes, made = output recipe ∧
      Arrangements.Shows (laid inputs width) (pattern recipe)) ∧
      consume.Nodup ∧ ∀ index, index ∈ consume ↔ ∃ stack, inputs[index]? = some (some stack) := by
  obtain ⟨-, hnone⟩ | ⟨minX, minY, maxX, maxY, hstarts, hends, hfound⟩ :=
    @currentCraftingRecipe_cases inputs width hwidth
  · rw [hnone] at h
    cases h
  · rw [hfound] at h
    obtain ⟨recipe, hrecipe, hmade⟩ := Option.map_eq_some_iff.mp h
    cases hmade
    have hmem := List.mem_of_find?_eq_some hrecipe
    exact ⟨⟨recipe, hmem, rfl, (matches_iff hwidth hstarts hends hmem).mp
      (List.find?_some hrecipe)⟩, consumed_nodup hwidth hstarts hends,
      mem_consumed_iff hwidth hstarts hends⟩

theorem madeOf_iff (hwidth : 0 < width) {recipe : Recipe} (hrecipe : recipe ∈ recipes) :
    madeOf inputs width = some (output recipe) ↔
      Arrangements.Shows (laid inputs width) (pattern recipe) := by
  constructor
  · intro hmade
    obtain ⟨⟨made, consume⟩, hcurrent, hsame⟩ := Option.map_eq_some_iff.mp hmade
    obtain ⟨⟨other, hother, rfl, hshown⟩, -⟩ := currentCraftingRecipe_made hwidth hcurrent
    obtain ⟨hpattern, hw⟩ := recipes_make other hother recipe hrecipe
      (congrArg ItemStack.key hsame)
    unfold pattern at hshown ⊢
    rwa [hpattern, hw] at hshown
  · intro hshown
    obtain ⟨hempty, -⟩ | ⟨minX, minY, maxX, maxY, hstarts, hends, hfound⟩ :=
      @currentCraftingRecipe_cases inputs width hwidth
    · obtain ⟨column, row, hstarts, -⟩ := hshown
      obtain ⟨y, hleft⟩ := hstarts.left
      obtain ⟨cell, hmem, -⟩ := (laid_isSome hwidth).mp hleft
      rw [hempty] at hmem
      cases hmem
    · have hsome := List.find?_isSome.mpr
        ⟨recipe, hrecipe, (matches_iff hwidth hstarts hends hrecipe).mpr hshown⟩
      obtain ⟨other, hother⟩ := Option.isSome_iff_exists.mp hsome
      have hmem := List.mem_of_find?_eq_some hother
      have hshown' := (matches_iff hwidth hstarts hends hmem).mp (List.find?_some hother)
      have hpattern := hshown'.unique hshown
      obtain ⟨hkey, hcount⟩ := recipes_differ other hmem recipe hrecipe
        fun x _ y _ => congrFun (congrFun hpattern x) y
      unfold madeOf
      rw [hfound, hother]
      change some (output other) = some (output recipe)
      unfold output
      rw [hkey, hcount]

theorem exists_recipe (hwidth : 0 < width) {made : ItemStack} (h : madeOf inputs width = some made) :
    ∃ recipe ∈ recipes, made = output recipe := by
  obtain ⟨⟨made, consume⟩, hcurrent, rfl⟩ := Option.map_eq_some_iff.mp h
  obtain ⟨⟨recipe, hrecipe, hmade, -⟩, -⟩ := currentCraftingRecipe_made hwidth hcurrent
  exact ⟨recipe, hrecipe, hmade⟩

theorem madeOf_translated {inputs' : List (Option ItemStack)} {width' : Nat} (hwidth : 0 < width)
    (hwidth' : 0 < width') (h : Translated (laid inputs width) (laid inputs' width')) :
    madeOf inputs width = madeOf inputs' width' := by
  refine Option.ext fun made => ?_
  constructor
  · intro hmade
    obtain ⟨recipe, hrecipe, rfl⟩ := exists_recipe hwidth hmade
    rw [madeOf_iff hwidth hrecipe, shows_translated_iff h] at hmade
    rwa [madeOf_iff hwidth' hrecipe]
  · intro hmade
    obtain ⟨recipe, hrecipe, rfl⟩ := exists_recipe hwidth' hmade
    rw [madeOf_iff hwidth' hrecipe, ← shows_translated_iff h] at hmade
    rwa [madeOf_iff hwidth hrecipe]

/-- What a grid of any width makes: the recipe whose pattern is laid in it, wherever in the grid;
    and one item of each occupied cell is what is used up. -/
theorem currentCraftingRecipe_spec (inputs : List (Option ItemStack)) (hwidth : 0 < width) :
    (∀ recipe ∈ recipes, madeOf inputs width = some (output recipe) ↔
      Arrangements.Shows (laid inputs width) (pattern recipe)) ∧
    (∀ made, madeOf inputs width = some made → ∃ recipe ∈ recipes, made = output recipe) ∧
    (∀ made consume, currentCraftingRecipe inputs width = some (made, consume) →
      consume.Nodup ∧ ∀ index, index ∈ consume ↔ ∃ stack, inputs[index]? = some (some stack)) ∧
    ∀ inputs' width', 0 < width' → Translated (laid inputs width) (laid inputs' width') →
      madeOf inputs width = madeOf inputs' width' :=
  ⟨fun _ hrecipe => madeOf_iff hwidth hrecipe, fun _ hmade => exists_recipe hwidth hmade,
    fun _ _ hcurrent => (currentCraftingRecipe_made hwidth hcurrent).2,
    fun _ _ hwidth' hmoved => madeOf_translated hwidth hwidth' hmoved⟩

/-- Two planks above each other, in a grid of two by two. -/
def planksAbove : List (Option ItemStack) :=
  let stack := some (ItemStack.new Catalog.OAK_PLANKS 1 0)
  [none, stack, none, stack]

theorem currentCraftingRecipe_spec_planks :
    ∃ consume, currentCraftingRecipe planksAbove 2 = some (ItemStack.new Catalog.STICK 4 0, consume) ∧
      consume.Nodup ∧ ∀ index, index ∈ consume ↔ ∃ stack, planksAbove[index]? = some (some stack) := by
  have hspec := currentCraftingRecipe_spec planksAbove (show 0 < 2 by decide)
  exact ⟨_, rfl, hspec.2.2.1 _ _ rfl⟩

end Recipes

end RevyCraft.CraftingGrid
