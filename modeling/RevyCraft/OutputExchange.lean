/-
  RevyCraft/OutputExchange.lean
  =============================
  **What is given for an output** (`try_take_output` of `mc-content-canonical`).

    * `Fair`: what leaves the slots for what the cursor gains.
    * `Exchangeable`: the states of a window where an output is exchanged fairly.
    * `tryTakeOutput_fair_iff`: these, and no others.

  An output joins a cursor of its key, whatever else the cursor's items are, and the right
  button takes one item of what a recipe makes for all of what the recipe uses up.
-/
import RevyCraft.CraftingGrid
import RevyCraft.ClickTotals

namespace RevyCraft.OutputExchange

open Canonical WindowClicks StackRequests CraftingGrid ClickTotals

/-! ### The exchange -/

/-- How many cells the grid of a window has. -/
def gridSize (kind : ContainerKindId) : Nat :=
  if kind = Ids.PLAYER then 4 else if kind = Ids.CRAFTING_TABLE then 9 else 0

/-- What a window offers at its output. -/
def offered (kind : ContainerKindId) (localSlots : List (Option ItemStack)) : Option ItemStack :=
  if kind = Ids.PLAYER then madeIn 4 2 localSlots
  else if kind = Ids.CRAFTING_TABLE then madeIn 9 3 localSlots
  else if kind = Ids.FURNACE then localSlots[2]?.join
  else none

/-- One item of each occupied cell of the grid is gone. -/
def UsedUp (kind : ContainerKindId) (before after : List (Option ItemStack)) : Prop :=
  ∀ index, index ≠ 0 →
    (index ≤ gridSize kind → ∀ stack, before[index]? = some (some stack) →
      1 ≤ stack.count ∧ after[index]? = some (remaining stack 1)) ∧
    ((gridSize kind < index ∨ before[index]?.join = none) → after[index]? = before[index]?)

/-- What leaves the slots of a window for what the cursor gains. -/
def Fair (kind : ContainerKindId) (before : List (Option ItemStack)) (cursor : Option ItemStack)
    (after : List (Option ItemStack)) (cursor' : Option ItemStack) : Bool → Prop
  | false => cursor' = cursor ∧
      ∀ index, ¬ derived kind (.windowLocal index) → after[index]? = before[index]?
  | true => ∃ output, offered kind before = some output ∧
      if kind = Ids.FURNACE then
        ∃ amount, amount ≤ output.count ∧ Gained amount output cursor cursor' ∧
          after = before.set 2 (remaining output amount)
      else Gained output.count output cursor cursor' ∧ UsedUp kind before after

/-- The cursor is empty, or has the key of the output and room for so many. -/
def HasRoom (cursor : Option ItemStack) (output : ItemStack) (amount : Nat) : Prop :=
  ∀ held, cursor = some held → held.key = output.key ∧ held.count + amount ≤ MAX_STACK_SIZE

/-- Nothing is taken, or: the cursor has nothing but the same items, and of a recipe all of what
    it makes is taken.  (Stacks without an item do not occur.) -/
def Exchangeable (kind : ContainerKindId) (localSlots : List (Option ItemStack))
    (cursor : Option ItemStack) (button : InventoryClickButton) : Prop :=
  ∀ output, offered kind localSlots = some output → 0 < takenBy button output →
    HasRoom cursor output (takenBy button output) →
      (∀ held, cursor = some held → held.identity = output.identity) ∧
      if kind = Ids.FURNACE then takenBy button output ≤ output.count
      else takenBy button output = output.count ∧
        ∀ index, index ≠ 0 → index ≤ gridSize kind →
          ∀ stack, localSlots[index]? = some (some stack) → 1 ≤ stack.count

/-! ### The cursor -/

section Cursor

variable {cursor : Option ItemStack} {output : ItemStack} {amount : Nat}

theorem takeOntoCursor_eq_none :
    takeOntoCursor cursor output amount = none ↔ ¬ HasRoom cursor output amount := by
  unfold takeOntoCursor HasRoom
  cases cursor with
  | none => simp
  | some existing => simp [MAX_STACK_SIZE]

end Cursor

/-! ### The slots -/

variable {consume : List Nat} {inputCount width : Nat} {output : ItemStack}

section Slots

variable {localSlots : List (Option ItemStack)}

theorem consumeOne_getElem? (localSlots : List (Option ItemStack)) (index other : Nat) :
    (consumeOne localSlots index)[other]? =
      if other = index then localSlots[other]?.map decrementCursor else localSlots[other]? := by
  by_cases hsame : other = index
  · subst hsame
    rw [if_pos rfl]
    unfold consumeOne
    split
    next stack hstack =>
      rw [List.getElem?_set_self (List.getElem?_eq_some_iff.mp hstack).1, hstack]
      rfl
    next hnone =>
      cases hat : localSlots[other]? with
      | none => rfl
      | some stack =>
        cases stack with
        | none => rfl
        | some stack => exact absurd hat (hnone stack)
  · rw [if_neg hsame]
    unfold consumeOne
    split
    · exact List.getElem?_set_ne (Ne.symm hsame)
    · rfl

theorem consumed_getElem? (hnodup : consume.Nodup) (start other : Nat) :
    (consume.foldl (fun slots index => consumeOne slots (start + index)) localSlots)[other]? =
      if ∃ index ∈ consume, other = start + index then localSlots[other]?.map decrementCursor
      else localSlots[other]? := by
  induction consume generalizing localSlots with
  | nil => simp
  | cons first rest ih =>
    obtain ⟨hfirst, hrest⟩ := List.nodup_cons.mp hnodup
    rw [List.foldl_cons, ih hrest, consumeOne_getElem?]
    by_cases hsame : other = start + first
    · have hlater : ¬ ∃ index ∈ rest, other = start + index := by
        rintro ⟨index, hindex, hother⟩
        obtain rfl : index = first := by omega
        exact hfirst hindex
      rw [if_neg hlater, if_pos hsame, if_pos ⟨first, List.mem_cons_self, hsame⟩]
    · rw [if_neg hsame]
      refine if_congr ?_ rfl rfl
      constructor
      · rintro ⟨index, hindex, hother⟩
        exact ⟨index, List.mem_cons_of_mem _ hindex, hother⟩
      · rintro ⟨index, hindex, hother⟩
        rcases List.mem_cons.mp hindex with rfl | hindex
        · exact absurd hother hsame
        · exact ⟨index, hindex, hother⟩

end Slots

/-! ### The outputs -/

section Outputs

variable {kind : ContainerKindId} {localSlots : List (Option ItemStack)}
  {cursor : Option ItemStack} {button : InventoryClickButton}

theorem exchangeable_of_refused
    (h : ∀ output, offered kind localSlots = some output →
      takeOntoCursor cursor output (takenBy button output) = none) :
    Exchangeable kind localSlots cursor button :=
  fun output hoffered _ hroom => absurd hroom (takeOntoCursor_eq_none.mp (h output hoffered))

theorem takeCraftingResult_taken {held : ItemStack}
    (hrecipe : currentCraftingRecipe ((localSlots.drop 1).take inputCount) width =
      some (output, consume))
    (htake : takeOntoCursor cursor output (takenBy button output) = some held) :
    takeCraftingResult localSlots 1 inputCount width cursor button =
      (true, recomputeCraftingResult
        (consume.foldl (fun slots index => consumeOne slots (1 + index)) localSlots) width,
        some held) := by
  unfold takeCraftingResult
  dsimp only
  rw [hrecipe]
  cases button <;>
  · dsimp only [takenBy] at htake ⊢
    rw [htake]

theorem mem_consume_iff (hwidth : 0 < width)
    (hrecipe : currentCraftingRecipe ((localSlots.drop 1).take inputCount) width =
      some (output, consume)) {index : Nat} (hindex : index ≠ 0) :
    (∃ cell ∈ consume, index = 1 + cell) ↔
      index ≤ inputCount ∧ ∃ stack, localSlots[index]? = some (some stack) := by
  have hconsume := (currentCraftingRecipe_made hwidth hrecipe).2.2
  constructor
  · rintro ⟨cell, hcell, rfl⟩
    obtain ⟨stack, hstack⟩ := (hconsume cell).mp hcell
    have hbound := (List.getElem?_eq_some_iff.mp hstack).1
    rw [List.length_take] at hbound
    rw [List.getElem?_take_of_lt (by omega), List.getElem?_drop] at hstack
    exact ⟨by omega, stack, hstack⟩
  · rintro ⟨hbound, stack, hstack⟩
    obtain ⟨cell, rfl⟩ : ∃ cell, index = 1 + cell := ⟨index - 1, by omega⟩
    refine ⟨cell, (hconsume cell).mpr ⟨stack, ?_⟩, rfl⟩
    rw [List.getElem?_take_of_lt (by omega), List.getElem?_drop]
    exact hstack

theorem usedUp_iff (hwidth : 0 < width) (hsize : gridSize kind = inputCount)
    (hrecipe : currentCraftingRecipe ((localSlots.drop 1).take inputCount) width =
      some (output, consume)) : UsedUp kind localSlots (recomputeCraftingResult
        (consume.foldl (fun slots index => consumeOne slots (1 + index)) localSlots) width) ↔
      ∀ index, index ≠ 0 → index ≤ gridSize kind →
        ∀ stack, localSlots[index]? = some (some stack) → 1 ≤ stack.count := by
  have hnodup := (currentCraftingRecipe_made hwidth hrecipe).2.1
  have hafter : ∀ index, index ≠ 0 → (recomputeCraftingResult
      (consume.foldl (fun slots index => consumeOne slots (1 + index)) localSlots) width)[index]? =
        if ∃ cell ∈ consume, index = 1 + cell then localSlots[index]?.map decrementCursor
        else localSlots[index]? := by
    intro index hindex
    rw [recomputeCraftingResult_getElem? _ _ hindex, consumed_getElem? hnodup]
  constructor
  · intro hused index hindex hbound stack hstack
    exact ((hused index hindex).1 hbound stack hstack).1
  · intro hpos index hindex
    rw [hafter index hindex]
    constructor
    · intro hbound stack hstack
      have hcount := hpos index hindex hbound stack hstack
      refine ⟨hcount, ?_⟩
      rw [if_pos ((mem_consume_iff hwidth hrecipe hindex).mpr ⟨hsize ▸ hbound, stack, hstack⟩),
        hstack, Option.map_some, decrementCursor_eq stack hcount]
    · intro hout
      refine if_neg fun hin => ?_
      obtain ⟨hbound, stack, hstack⟩ := (mem_consume_iff hwidth hrecipe hindex).mp hin
      rcases hout with hout | hout
      · omega
      · rw [hstack] at hout
        cases hout

theorem takeCraftingResult_fair_iff (hwidth : 0 < width) (hkind : kind ≠ Ids.FURNACE)
    (hsize : gridSize kind = inputCount)
    (hoffered : offered kind localSlots = madeIn inputCount width localSlots)
    (hderived : derived kind (.windowLocal 0)) : ∃ taken localSlots' cursor',
      takeCraftingResult localSlots 1 inputCount width cursor button =
        (taken, localSlots', cursor') ∧
      (Fair kind localSlots cursor localSlots' cursor' taken ↔
        Exchangeable kind localSlots cursor button) := by
  by_cases hrefused : ∀ output, madeIn inputCount width localSlots = some output →
      takeOntoCursor cursor output (takenBy button output) = none
  · obtain ⟨localSlots', htaken, hkept⟩ := takeCraftingResult_kept hrefused
    refine ⟨false, localSlots', cursor, htaken, iff_of_true ⟨rfl, fun index hindex => ?_⟩ ?_⟩
    · refine hkept index ?_
      rintro rfl
      exact hindex hderived
    · exact exchangeable_of_refused (hoffered ▸ hrefused)
  · push Not at hrefused
    obtain ⟨output, hmade, hroom⟩ := hrefused
    obtain ⟨held, htake⟩ := Option.ne_none_iff_exists'.mp hroom
    have hroom' : HasRoom cursor output (takenBy button output) := by
      by_contra hno
      exact hroom (takeOntoCursor_eq_none.mpr hno)
    obtain ⟨⟨output, consume⟩, hrecipe, rfl⟩ := Option.map_eq_some_iff.mp hmade
    have hcount := (currentCraftingRecipe_counted _ width output hmade).1
    have hsome : 0 < takenBy button output := by
      cases button with
      | left => exact hcount
      | right => exact Nat.one_pos
    refine ⟨true, _, some held, takeCraftingResult_taken hrecipe htake, ?_⟩
    have hfair : Fair kind localSlots cursor (recomputeCraftingResult
        (consume.foldl (fun slots index => consumeOne slots (1 + index)) localSlots) width)
          (some held) true ↔ Gained output.count output cursor (some held) ∧
            ∀ index, index ≠ 0 → index ≤ gridSize kind →
              ∀ stack, localSlots[index]? = some (some stack) → 1 ≤ stack.count := by
      simp only [Fair, hoffered, hmade, Option.some.injEq, exists_eq_left', if_neg hkind,
        usedUp_iff hwidth hsize hrecipe]
    have hexchange : Exchangeable kind localSlots cursor button ↔
        (∀ held, cursor = some held → held.identity = output.identity) ∧
          takenBy button output = output.count ∧
            ∀ index, index ≠ 0 → index ≤ gridSize kind →
              ∀ stack, localSlots[index]? = some (some stack) → 1 ≤ stack.count := by
      simp only [Exchangeable, hoffered, hmade, Option.some.injEq, forall_eq', hsome, hroom',
        forall_const, if_neg hkind]
    rw [hfair, hexchange, gained_taken htake]
    constructor
    · rintro ⟨⟨hall, hsame⟩, hpos⟩
      exact ⟨hsame, hall.symm, hpos⟩
    · rintro ⟨hsame, hall, hpos⟩
      exact ⟨⟨hall.symm, hsame⟩, hpos⟩

end Outputs

section Windows

variable {kind : ContainerKindId} {localSlots : List (Option ItemStack)}
  {cursor : Option ItemStack} {button : InventoryClickButton}

theorem takeOutputSlot_taken {held : ItemStack} (hslot : localSlots[2]? = some (some output))
    (hsome : 0 < takenBy button output)
    (htake : takeOntoCursor cursor output (takenBy button output) = some held) :
    takeOutputSlot localSlots cursor 2 button =
      (true, localSlots.set 2 (if output.count - takenBy button output = 0 then none
        else some { output with count := output.count - takenBy button output }), some held) := by
  unfold takeOutputSlot
  rw [hslot]
  cases button <;>
  · dsimp only [takenBy] at htake hsome ⊢
    rw [if_neg (Nat.ne_of_gt hsome), htake]
    rfl

theorem takeOutputSlot_nothing
    (h : ∀ output, localSlots[2]?.join = some output → takenBy button output = 0 ∨
      takeOntoCursor cursor output (takenBy button output) = none) :
    takeOutputSlot localSlots cursor 2 button = (false, localSlots, cursor) := by
  unfold takeOutputSlot
  split
  next output hslot =>
    rcases h output (by rw [hslot]; rfl) with hzero | hrefused
    · cases button with
      | left => exact if_pos hzero
      | right => cases hzero
    · cases button <;>
      · dsimp only [takenBy] at hrefused ⊢
        rw [hrefused]
        exact ite_self _
  next => rfl

theorem left_eq_remaining {amount : Nat} (h : amount ≤ output.count) :
    (if output.count - amount = 0 then none
      else some { output with count := output.count - amount }) = remaining output amount := by
  unfold remaining
  by_cases hall : output.count = amount
  · rw [if_pos (by omega), if_pos hall]
  · rw [if_neg (by omega), if_neg hall]

theorem takeOutputSlot_fair_iff (hkind : kind = Ids.FURNACE) :
    ∃ taken localSlots' cursor',
      takeOutputSlot localSlots cursor 2 button = (taken, localSlots', cursor') ∧
      (Fair kind localSlots cursor localSlots' cursor' taken ↔
        Exchangeable kind localSlots cursor button) := by
  subst hkind
  have hoffered : offered Ids.FURNACE localSlots = localSlots[2]?.join := rfl
  by_cases hnothing : ∀ output, localSlots[2]?.join = some output → takenBy button output = 0 ∨
      takeOntoCursor cursor output (takenBy button output) = none
  · refine ⟨false, localSlots, cursor, takeOutputSlot_nothing hnothing,
      iff_of_true ⟨rfl, fun _ _ => rfl⟩ ?_⟩
    intro output houtput hsome hroom
    rcases hnothing output houtput with hzero | hrefused
    · omega
    · exact absurd hroom (takeOntoCursor_eq_none.mp hrefused)
  · push Not at hnothing
    obtain ⟨output, houtput, hzero, hroom⟩ := hnothing
    obtain ⟨held, htake⟩ := Option.ne_none_iff_exists'.mp hroom
    have hroom' : HasRoom cursor output (takenBy button output) := by
      by_contra hno
      exact hroom (takeOntoCursor_eq_none.mpr hno)
    have hsome : 0 < takenBy button output := Nat.pos_of_ne_zero hzero
    refine ⟨true, _, some held, takeOutputSlot_taken (Option.join_eq_some_iff.mp houtput) hsome htake,
      ?_⟩
    have hexchange : Exchangeable Ids.FURNACE localSlots cursor button ↔
        (∀ held, cursor = some held → held.identity = output.identity) ∧
          takenBy button output ≤ output.count := by
      simp only [Exchangeable, hoffered, houtput, Option.some.injEq, forall_eq', hsome, hroom',
        forall_const, if_pos]
    rw [hexchange]
    unfold Fair
    constructor
    · rintro ⟨output', houtput', hfair⟩
      cases (hoffered.symm.trans houtput').symm.trans houtput
      rw [if_pos rfl] at hfair
      obtain ⟨amount, hle, hgained, -⟩ := hfair
      obtain ⟨rfl, hsame⟩ := (gained_taken htake).mp hgained
      exact ⟨hsame, hle⟩
    · rintro ⟨hsame, hle⟩
      refine ⟨output, hoffered.trans houtput, ?_⟩
      rw [if_pos rfl]
      exact ⟨_, hle, (gained_taken htake).mpr ⟨rfl, hsame⟩, by rw [left_eq_remaining hle]⟩

/-- An output is exchanged fairly in just these states of a window. -/
theorem tryTakeOutput_fair_iff (kind : ContainerKindId) (localSlots : List (Option ItemStack))
    (cursor : Option ItemStack) (button : InventoryClickButton) :
    ∃ taken localSlots' cursor',
      tryTakeOutput kind localSlots cursor button = (taken, localSlots', cursor') ∧
      (Fair kind localSlots cursor localSlots' cursor' taken ↔
        Exchangeable kind localSlots cursor button) := by
  unfold tryTakeOutput
  by_cases hplayer : kind = Ids.PLAYER
  · rw [if_pos hplayer]
    refine takeCraftingResult_fair_iff (by decide) ?_ ?_ ?_ ⟨.inl hplayer, rfl⟩
    · subst hplayer
      decide
    · unfold gridSize
      rw [if_pos hplayer]
    · unfold offered
      rw [if_pos hplayer]
  · rw [if_neg hplayer]
    by_cases htable : kind = Ids.CRAFTING_TABLE
    · rw [if_pos htable]
      refine takeCraftingResult_fair_iff (by decide) ?_ ?_ ?_ ⟨.inr htable, rfl⟩
      · subst htable
        decide
      · unfold gridSize
        rw [if_neg hplayer, if_pos htable]
      · unfold offered
        rw [if_neg hplayer, if_pos htable]
    · rw [if_neg htable]
      by_cases hfurnace : kind = Ids.FURNACE
      · rw [if_pos hfurnace]
        exact takeOutputSlot_fair_iff hfurnace
      · rw [if_neg hfurnace]
        have hoffered : offered kind localSlots = none := by
          unfold offered
          rw [if_neg hplayer, if_neg htable, if_neg hfurnace]
        refine ⟨false, localSlots, cursor, rfl, iff_of_true ⟨rfl, fun _ _ => rfl⟩ ?_⟩
        exact exchangeable_of_refused fun output houtput => by
          rw [hoffered] at houtput
          cases houtput

/-- The player's window with one log in the grid. -/
def logLaid : List (Option ItemStack) :=
  [some (ItemStack.new Catalog.OAK_PLANKS 4 0), some (ItemStack.new Catalog.OAK_LOG 1 0), none, none,
    none, none, none, none, none]

/-- The right button takes one plank of the four, and the log is gone. -/
theorem right_click_loses_planks :
    tryTakeOutput Ids.PLAYER logLaid none .right =
        (true, List.replicate 9 none, some (ItemStack.new Catalog.OAK_PLANKS 1 0)) ∧
      offered Ids.PLAYER logLaid = some (ItemStack.new Catalog.OAK_PLANKS 4 0) ∧
      ¬ Fair Ids.PLAYER logLaid none (List.replicate 9 none)
        (some (ItemStack.new Catalog.OAK_PLANKS 1 0)) true := by
  have hoffered : offered Ids.PLAYER logLaid = some (ItemStack.new Catalog.OAK_PLANKS 4 0) := rfl
  refine ⟨rfl, hoffered, ?_⟩
  rintro ⟨output, houtput, hfair⟩
  cases hoffered.symm.trans houtput
  rw [if_neg (by decide)] at hfair
  have hcount := congrArg (Option.map ItemStack.count) hfair.1.2
  revert hcount
  decide

end Windows

end RevyCraft.OutputExchange
