/-
  RevyCraft/FurnaceAccounts.lean
  ==============================
  **The accounts of a furnace** (`tick_furnace` of `mc-content-canonical`), over any number
  of ticks.

    * `Sound`: counts, fuel gauge and progress are in their bounds.
    * `Account`: what a stretch of time has used up and made.
    * `tick_account`: one tick; `Account.trans`: one stretch after another.
    * `ticks_account`: any number of ticks.
-/
import RevyCraft.OutputExchange

namespace RevyCraft.FurnaceAccounts

open Canonical WindowClicks ClickTotals OutputExchange StackRequests

/-! ### The gauges and slots -/

def burnLeft (state : OpenContainerState) : Int := property state Ids.FURNACE_BURN_LEFT
def burnMax (state : OpenContainerState) : Int := property state Ids.FURNACE_BURN_MAX
def cookProgress (state : OpenContainerState) : Int := property state Ids.FURNACE_COOK_PROGRESS
def cookTotal (state : OpenContainerState) : Int := property state Ids.FURNACE_COOK_TOTAL

def slotAt (state : OpenContainerState) (index : Nat) : Option ItemStack :=
  state.localSlots[index]?.join

def smelted (input : ItemStack) : Option String :=
  if input.key = Catalog.SAND then some Catalog.GLASS
  else if input.key = Catalog.COBBLESTONE then some Catalog.STONE
  else none

/-- How long one item of a fuel burns. -/
def burnTime (fuel : Option ItemStack) : Int := (furnaceFuelBurnTime fuel).getD 0

structure Sound (state : OpenContainerState) : Prop where
  kind : state.kind = Ids.FURNACE
  slots : state.localSlots.length = 3
  counted : ∀ index, Counted (slotAt state index)
  burn : 0 ≤ burnLeft state ∧ burnLeft state ≤ burnMax state
  cook : 0 ≤ cookProgress state ∧ cookProgress state < cookTotal state

section Properties

variable {state : OpenContainerState} {key other : ContainerPropertyKey} {value : Int}

theorem property_setProperty :
    property (setProperty state key value) other =
      if key = other then value else property state other := by
  unfold property setProperty
  dsimp only
  rw [BTreeMap.getElem?_insert_eq]
  split <;> rfl

theorem burnLeft_set : burnLeft (setProperty state key value) =
    if key = Ids.FURNACE_BURN_LEFT then value else burnLeft state := property_setProperty

theorem burnMax_set : burnMax (setProperty state key value) =
    if key = Ids.FURNACE_BURN_MAX then value else burnMax state := property_setProperty

theorem cookProgress_set : cookProgress (setProperty state key value) =
    if key = Ids.FURNACE_COOK_PROGRESS then value else cookProgress state := property_setProperty

theorem cookTotal_set : cookTotal (setProperty state key value) =
    if key = Ids.FURNACE_COOK_TOTAL then value else cookTotal state := property_setProperty

theorem keys_differ :
    Ids.FURNACE_BURN_LEFT ≠ Ids.FURNACE_BURN_MAX ∧
      Ids.FURNACE_BURN_LEFT ≠ Ids.FURNACE_COOK_PROGRESS ∧
      Ids.FURNACE_BURN_LEFT ≠ Ids.FURNACE_COOK_TOTAL ∧
      Ids.FURNACE_BURN_MAX ≠ Ids.FURNACE_COOK_PROGRESS ∧
      Ids.FURNACE_BURN_MAX ≠ Ids.FURNACE_COOK_TOTAL ∧
      Ids.FURNACE_COOK_PROGRESS ≠ Ids.FURNACE_COOK_TOTAL := by
  decide

/-- The furnace has its gauges and slots afterwards. -/
structure Reads (state : OpenContainerState) (left max progress total : Int)
    (localSlots : List (Option ItemStack)) : Prop where
  left : burnLeft state = left
  max : burnMax state = max
  progress : cookProgress state = progress
  total : cookTotal state = total
  slots : state.localSlots = localSlots
  kind : state.kind = Ids.FURNACE

variable {left max progress total : Int} {localSlots : List (Option ItemStack)}

theorem Reads.setBurnLeft (h : Reads state left max progress total localSlots) (value : Int) :
    Reads (setProperty state Ids.FURNACE_BURN_LEFT value) value max progress total localSlots := by
  obtain ⟨h1, h2, h3, -, -, -⟩ := keys_differ
  exact ⟨by rw [burnLeft_set, if_pos rfl], by rw [burnMax_set, if_neg h1, h.max],
    by rw [cookProgress_set, if_neg h2, h.progress], by rw [cookTotal_set, if_neg h3, h.total],
    h.slots, h.kind⟩

theorem Reads.setBurnMax (h : Reads state left max progress total localSlots) (value : Int) :
    Reads (setProperty state Ids.FURNACE_BURN_MAX value) left value progress total localSlots := by
  obtain ⟨h1, -, -, h4, h5, -⟩ := keys_differ
  exact ⟨by rw [burnLeft_set, if_neg (Ne.symm h1), h.left], by rw [burnMax_set, if_pos rfl],
    by rw [cookProgress_set, if_neg h4, h.progress], by rw [cookTotal_set, if_neg h5, h.total],
    h.slots, h.kind⟩

theorem Reads.setProgress (h : Reads state left max progress total localSlots) (value : Int) :
    Reads (setProperty state Ids.FURNACE_COOK_PROGRESS value) left max value total localSlots := by
  obtain ⟨-, h2, -, h4, -, h6⟩ := keys_differ
  exact ⟨by rw [burnLeft_set, if_neg (Ne.symm h2), h.left],
    by rw [burnMax_set, if_neg (Ne.symm h4), h.max], by rw [cookProgress_set, if_pos rfl],
    by rw [cookTotal_set, if_neg h6, h.total], h.slots, h.kind⟩

theorem Reads.setTotal (h : Reads state left max progress total localSlots) (value : Int) :
    Reads (setProperty state Ids.FURNACE_COOK_TOTAL value) left max progress value localSlots := by
  obtain ⟨-, -, h3, -, h5, h6⟩ := keys_differ
  exact ⟨by rw [burnLeft_set, if_neg (Ne.symm h3), h.left],
    by rw [burnMax_set, if_neg (Ne.symm h5), h.max],
    by rw [cookProgress_set, if_neg (Ne.symm h6), h.progress], by rw [cookTotal_set, if_pos rfl],
    h.slots, h.kind⟩

end Properties

/-! ### What is used up and made -/

/-- A slot after so many of its items were used up. -/
def Consumed (before after : Option ItemStack) (amount : Nat) : Prop :=
  (amount = 0 ∧ after = before) ∨
    ∃ stack, before = some stack ∧ amount ≤ stack.count ∧ after = remaining stack amount

/-- A slot after so many items of a key were put into it. -/
def Produced (key : Option String) (before after : Option ItemStack) (amount : Nat) : Prop :=
  (amount = 0 ∧ after = before) ∨
    ∃ made, key = some made ∧ (∀ there, before = some there → there.key = made) ∧
      after = some { before.getD (ItemStack.new made 1 0) with
        count := before.elim 0 ItemStack.count + amount }

section Slots

variable {a b c : Option ItemStack} {n m : Nat}

theorem Consumed.kind {α : Type} {f : ItemStack → α} (h : Consumed a b n)
    (hf : ∀ (stack : ItemStack) (count : Nat), f { stack with count := count } = f stack)
    {left : ItemStack} (hleft : b = some left) : a.map f = some (f left) := by
  rcases h with ⟨-, rfl⟩ | ⟨stack, rfl, -, rfl⟩
  · rw [hleft]
    rfl
  · unfold remaining at hleft
    split at hleft
    · cases hleft
    · cases hleft
      rw [hf]
      rfl

theorem Consumed.counted (h : Consumed a b n) (ha : Counted a) : Counted b := by
  rcases h with ⟨-, rfl⟩ | ⟨stack, rfl, hle, rfl⟩
  · exact ha
  · exact remaining_counted ha hle

theorem Consumed.trans (h : Consumed a b n) (h' : Consumed b c m) : Consumed a c (n + m) := by
  rcases h with ⟨rfl, rfl⟩ | ⟨stack, rfl, hle, rfl⟩
  · rw [Nat.zero_add]
    exact h'
  · rcases h' with ⟨rfl, rfl⟩ | ⟨left, hleft, hle', rfl⟩
    · exact .inr ⟨stack, rfl, hle, rfl⟩
    · refine .inr ⟨stack, rfl, ?_⟩
      unfold remaining at hleft
      split at hleft
      · cases hleft
      · cases hleft
        dsimp only at hle'
        refine ⟨by omega, ?_⟩
        unfold remaining
        dsimp only
        by_cases hall : stack.count = n + m
        · rw [if_pos hall, if_pos (by omega)]
        · rw [if_neg hall, if_neg (by omega), Nat.sub_sub]

theorem Consumed.one {stack : ItemStack} (h : Counted (some stack)) :
    Consumed (some stack) (decrementCursor (some stack)) 1 := by
  have hpos := (counted_some.mp h).1
  exact .inr ⟨stack, rfl, hpos, decrementCursor_eq stack hpos⟩

theorem Produced.trans {key : Option String} (h : Produced key a b n) (h' : Produced key b c m) :
    Produced key a c (n + m) := by
  rcases h with ⟨rfl, rfl⟩ | ⟨made, rfl, hsame, rfl⟩
  · rw [Nat.zero_add]
    exact h'
  · rcases h' with ⟨rfl, rfl⟩ | ⟨made', hkey, -, rfl⟩
    · exact .inr ⟨made, rfl, hsame, rfl⟩
    · refine .inr ⟨made, rfl, hsame, ?_⟩
      simp [Nat.add_assoc]

theorem Produced.of_consumed {input left : Option ItemStack} (h : Consumed input left m)
    (hput : Produced (left.bind smelted) a b n) : Produced (input.bind smelted) a b n := by
  rcases hput with hnothing | ⟨made, hkey, hput⟩
  · exact .inl hnothing
  · obtain ⟨stack, hstack, hmade⟩ := Option.bind_eq_some_iff.mp hkey
    have hkind := h.kind (f := smelted) (fun _ _ => rfl) hstack
    rw [hmade] at hkind
    refine .inr ⟨made, ?_, hput⟩
    obtain ⟨first, rfl, hfirst⟩ := Option.map_eq_some_iff.mp hkind
    exact hfirst

end Slots

/-! ### The phases of a tick -/

section Phases

variable {state : OpenContainerState} {left max progress total : Int}
  {localSlots : List (Option ItemStack)}

theorem Reads.normalize (h : Reads state left max progress total localSlots) :
    Reads (normalizeFurnace state) left (if left = 0 then 0 else max)
      (if (furnaceAvailableOutput localSlots).isNone then 0 else progress) FURNACE_COOK_TOTAL
      localSlots := by
  have htotal := h.setTotal FURNACE_COOK_TOTAL
  unfold normalizeFurnace
  dsimp only
  generalize setProperty state Ids.FURNACE_COOK_TOTAL FURNACE_COOK_TOTAL = settled at htotal ⊢
  rw [show property settled Ids.FURNACE_BURN_LEFT = left from htotal.left]
  have hmax : Reads (if left = 0 then setProperty settled Ids.FURNACE_BURN_MAX 0 else settled)
      left (if left = 0 then 0 else max) progress FURNACE_COOK_TOTAL localSlots := by
    split
    · exact htotal.setBurnMax 0
    · exact htotal
  generalize (if left = 0 then setProperty settled Ids.FURNACE_BURN_MAX 0 else settled) = cooled
    at hmax ⊢
  rw [hmax.slots]
  split
  · exact hmax.setProgress 0
  · exact hmax

theorem Reads.spend (h : Reads state left max progress total localSlots) :
    Reads (if left > 0 then setProperty state Ids.FURNACE_BURN_LEFT (left - 1) else state)
      (if left > 0 then left - 1 else left) max progress total localSlots := by
  split
  · exact h.setBurnLeft (left - 1)
  · exact h

theorem consumeOne_join (localSlots : List (Option ItemStack)) (index other : Nat) :
    (consumeOne localSlots index)[other]?.join =
      if other = index then decrementCursor localSlots[other]?.join
      else localSlots[other]?.join := by
  rw [consumeOne_getElem?]
  split
  · cases localSlots[other]? with
    | none => rfl
    | some stack => rfl
  · rfl

theorem consumeOne_length (localSlots : List (Option ItemStack)) (index : Nat) :
    (consumeOne localSlots index).length = localSlots.length := by
  unfold consumeOne
  split
  · exact List.length_set ..
  · rfl

theorem furnaceFuelBurnTime_pos {fuel : Option ItemStack} {time : Int}
    (h : furnaceFuelBurnTime fuel = some time) : 0 < time := by
  unfold furnaceFuelBurnTime at h
  split at h
  · cases h
  · split_ifs at h <;> cases h <;> decide

theorem Reads.lit (h : Reads state left max progress total localSlots) :
    (∃ time, left = 0 ∧ (furnaceAvailableOutput localSlots).isSome ∧
      furnaceFuelBurnTime localSlots[1]?.join = some time ∧
      Reads (lightFurnace state) time time progress total (consumeOne localSlots 1)) ∨
    ¬ (left = 0 ∧ (furnaceAvailableOutput localSlots).isSome ∧
        (furnaceFuelBurnTime localSlots[1]?.join).isSome) ∧ lightFurnace state = state := by
  unfold lightFurnace
  rw [show property state Ids.FURNACE_BURN_LEFT = left from h.left, h.slots]
  split
  · next hout =>
    cases htime : furnaceFuelBurnTime localSlots[1]?.join with
    | none => exact .inr ⟨fun hlit => absurd hlit.2.2 (by simp), rfl⟩
    | some time =>
      have htimed := (h.setBurnLeft time).setBurnMax time
      exact .inl ⟨time, hout.1, hout.2, rfl, htimed.left, htimed.max, htimed.progress, htimed.total,
        congrArg (consumeOne · 1) htimed.slots, htimed.kind⟩
  · next hlit => exact .inr ⟨fun hout => hlit ⟨hout.1, hout.2.1⟩, rfl⟩

theorem Reads.light (h : Reads state left max progress total localSlots)
    (hcounted : Counted localSlots[1]?.join) (hleft : 0 ≤ left) (hmax : left ≤ max) :
    ∃ left' max' localSlots' used, Reads (lightFurnace state) left' max' progress total localSlots' ∧
      Consumed localSlots[1]?.join localSlots'[1]?.join used ∧
      (∀ index, index ≠ 1 → localSlots'[index]?.join = localSlots[index]?.join) ∧
      localSlots'.length = localSlots.length ∧
      left' = left + used * burnTime localSlots[1]?.join ∧ 0 ≤ left' ∧ left' ≤ max' := by
  rcases h.lit with ⟨time, hout, -, htime, hlit⟩ | ⟨-, hsame⟩
  · refine ⟨time, time, consumeOne localSlots 1, 1, hlit, ?_, ?_, consumeOne_length .., ?_,
      (furnaceFuelBurnTime_pos htime).le, Int.le_refl _⟩
    · rw [consumeOne_join, if_pos rfl]
      cases hfuel : localSlots[1]?.join with
      | none =>
        rw [hfuel] at htime
        cases htime
      | some fuel => exact .one (hfuel ▸ hcounted)
    · intro index hindex
      rw [consumeOne_join, if_neg hindex]
    · unfold burnTime
      rw [htime, hout]
      simp
  · rw [hsame]
    exact ⟨left, max, localSlots, 0, h, .inl ⟨rfl, rfl⟩, fun _ _ => rfl, rfl, by simp, hleft, hmax⟩

theorem furnaceAvailableOutput_some {output : ItemStack}
    (h : furnaceAvailableOutput localSlots = some output) :
    ∃ input made, localSlots[0]?.join = some input ∧ smelted input = some made ∧
      output = ItemStack.new made 1 0 ∧
      ∀ there, localSlots[2]?.join = some there → there.key = made ∧ there.count < 64 := by
  unfold furnaceAvailableOutput at h
  cases hinput : localSlots[0]?.join with
  | none =>
    rw [hinput] at h
    cases h
  | some input =>
    rw [hinput] at h
    dsimp only at h
    have hmade : ∀ made, (if input.key = Catalog.SAND ∧ input.count > 0 then
        some (ItemStack.new Catalog.GLASS 1 0)
      else if input.key = Catalog.COBBLESTONE ∧ input.count > 0 then
        some (ItemStack.new Catalog.STONE 1 0)
      else none) = some made → ∃ key, smelted input = some key ∧ made = ItemStack.new key 1 0 := by
      intro made hmade
      unfold smelted
      split_ifs at hmade with hsand hcobble
      · cases hmade
        exact ⟨_, if_pos hsand.1, rfl⟩
      · cases hmade
        have hne : ¬ input.key = Catalog.SAND := by
          rw [hcobble.1]
          decide
        exact ⟨_, (if_neg hne).trans (if_pos hcobble.1), rfl⟩
    cases hthere : localSlots[2]?.join with
    | none =>
      rw [hthere] at h
      obtain ⟨key, hkey, rfl⟩ := hmade output h
      exact ⟨input, key, rfl, hkey, rfl, fun _ hnone => by cases hnone⟩
    | some existing =>
      rw [hthere] at h
      obtain ⟨hsome, hfits⟩ := Option.filter_eq_some_iff.mp h
      obtain ⟨key, hkey, rfl⟩ := hmade output hsome
      rw [Bool.and_eq_true, decide_eq_true_eq, decide_eq_true_eq] at hfits
      refine ⟨input, key, rfl, hkey, rfl, fun there hsame => ?_⟩
      cases hsame
      exact hfits

end Phases

section Cook

variable {state : OpenContainerState} {left max progress total : Int}
  {localSlots : List (Option ItemStack)}

theorem storeOutput_length (localSlots : List (Option ItemStack)) (output : ItemStack) :
    (storeOutput localSlots output).length = localSlots.length := by
  unfold storeOutput
  split
  · exact List.length_set ..
  · exact List.length_set ..
  · rfl

theorem storeOutput_other {output : ItemStack} {index : Nat} (h : index ≠ 2) :
    (storeOutput localSlots output)[index]? = localSlots[index]? := by
  unfold storeOutput
  split
  · exact List.getElem?_set_ne (Ne.symm h)
  · exact List.getElem?_set_ne (Ne.symm h)
  · rfl

theorem storeOutput_produced (hlength : localSlots.length = 3) {made : String}
    (hroom : ∀ there, localSlots[2]?.join = some there → there.key = made ∧ there.count < 64) :
    Produced (some made) localSlots[2]?.join
        (storeOutput localSlots (ItemStack.new made 1 0))[2]?.join 1 ∧
      Counted (storeOutput localSlots (ItemStack.new made 1 0))[2]?.join := by
  have hin : 2 < localSlots.length := by omega
  cases hat : localSlots[2]? with
  | none => exact absurd (List.getElem?_eq_none_iff.mp hat) (by omega)
  | some stack =>
    unfold storeOutput
    rw [hat]
    rw [hat] at hroom
    cases stack with
    | none =>
      dsimp only
      rw [List.getElem?_set_self hin]
      refine ⟨.inr ⟨made, rfl, fun _ hnone => (by cases hnone), rfl⟩, ?_⟩
      exact counted_some.mpr ⟨Nat.le_refl 1, (by decide : 1 ≤ MAX_STACK_SIZE)⟩
    | some existing =>
      obtain ⟨hkey, hcount⟩ := hroom existing rfl
      dsimp only
      have hsame : existing.key = (ItemStack.new made 1 0).key := hkey
      have hmin : min (existing.count + (ItemStack.new made 1 0).count) 255 = existing.count + 1 := by
        change min (existing.count + 1) 255 = _
        omega
      rw [List.getElem?_set_self hin, if_pos hsame, hmin]
      refine ⟨.inr ⟨made, rfl, fun there hthere => ?_, rfl⟩, counted_some.mpr ⟨?_, ?_⟩⟩
      · cases hthere
        exact hkey
      · exact Nat.succ_pos _
      · exact hcount

theorem Reads.cook (h : Reads state left max progress FURNACE_COOK_TOTAL localSlots)
    (hlength : localSlots.length = 3) (hcounted : ∀ index : Nat, Counted localSlots[index]?.join)
    (hprogress : 0 ≤ progress) :
    ∃ progress' localSlots' made,
      Reads (cookFurnace FURNACE_COOK_TOTAL state) left max progress' FURNACE_COOK_TOTAL
        localSlots' ∧
      Consumed localSlots[0]?.join localSlots'[0]?.join made ∧
      Produced (localSlots[0]?.join.bind smelted) localSlots[2]?.join localSlots'[2]?.join made ∧
      localSlots'[1]?.join = localSlots[1]?.join ∧ localSlots'.length = 3 ∧
      (∀ index : Nat, Counted localSlots'[index]?.join) ∧
      FURNACE_COOK_TOTAL * made + progress' ≤ progress + 1 ∧ 0 ≤ progress' ∧
      progress' < FURNACE_COOK_TOTAL := by
  have hkept : ∀ progress', Reads (setProperty state Ids.FURNACE_COOK_PROGRESS progress') left max
      progress' FURNACE_COOK_TOTAL localSlots := fun progress' => h.setProgress progress'
  have htotal : FURNACE_COOK_TOTAL = 200 := rfl
  unfold cookFurnace
  rw [h.slots]
  cases havailable : furnaceAvailableOutput localSlots with
  | none =>
    refine ⟨0, localSlots, 0, hkept 0, .inl ⟨rfl, rfl⟩, .inl ⟨rfl, rfl⟩, rfl, hlength, hcounted,
      ?_, Int.le_refl _, ?_⟩
    · omega
    · omega
  | some output =>
    dsimp only
    rw [show property state Ids.FURNACE_COOK_PROGRESS = progress from h.progress]
    split
    next hdone =>
      obtain ⟨input, made, hinput, hmade, rfl, hroom⟩ := furnaceAvailableOutput_some havailable
      have hother : ∀ index : Nat, index ≠ 0 →
          (consumeOne localSlots 0)[index]?.join = localSlots[index]?.join := fun index hindex => by
        rw [consumeOne_join, if_neg hindex]
      have hroom' : ∀ there, (consumeOne localSlots 0)[2]?.join = some there →
          there.key = made ∧ there.count < 64 := by
        rw [hother 2 (by decide)]
        exact hroom
      obtain ⟨hproduced, hcounted'⟩ :=
        storeOutput_produced ((consumeOne_length localSlots 0).trans hlength) hroom'
      have hconsumed : Consumed localSlots[0]?.join (consumeOne localSlots 0)[0]?.join 1 := by
        rw [consumeOne_join, if_pos rfl, hinput]
        exact .one (hinput ▸ hcounted 0)
      have hstored := ({ h with slots := rfl } : Reads { state with
          localSlots := storeOutput (consumeOne localSlots 0) (ItemStack.new made 1 0) } left max
            progress FURNACE_COOK_TOTAL
              (storeOutput (consumeOne localSlots 0) (ItemStack.new made 1 0)))
      refine ⟨0, _, 1, hstored.setProgress 0, ?_, ?_, ?_, ?_, fun index => ?_, ?_, Int.le_refl _, ?_⟩
      · rw [storeOutput_other (by decide)]
        exact hconsumed
      · rw [hinput, Option.bind_some, hmade, ← hother 2 (by decide)]
        exact hproduced
      · rw [storeOutput_other (by decide), hother 1 (by decide)]
      · rw [storeOutput_length, consumeOne_length, hlength]
      · by_cases hindex : index = 2
        · subst hindex
          exact hcounted'
        · rw [storeOutput_other hindex]
          by_cases hzero : index = 0
          · subst hzero
            exact hconsumed.counted (hcounted 0)
          · rw [hother index hzero]
            exact hcounted index
      · omega
      · omega
    next hless =>
      refine ⟨min (progress + 1) 32767, localSlots, 0, hkept _, .inl ⟨rfl, rfl⟩, .inl ⟨rfl, rfl⟩,
        rfl, hlength, hcounted, ?_, ?_, ?_⟩
      · omega
      · omega
      · omega

end Cook

/-! ### The accounts -/

/-- What a furnace has used up and made between two states, in so many ticks of burning. -/
structure Account (before after : OpenContainerState) (made used spent burning : Nat) : Prop where
  input : Consumed (slotAt before 0) (slotAt after 0) made
  output : Produced ((slotAt before 0).bind smelted) (slotAt before 2) (slotAt after 2) made
  fuel : Consumed (slotAt before 1) (slotAt after 1) used
  cooked : FURNACE_COOK_TOTAL * made + cookProgress after ≤ cookProgress before + burning
  burnt : (spent : Int) = burnLeft before + used * burnTime (slotAt before 1) - burnLeft after

section Accounts

variable {a b c : OpenContainerState} {made used spent burning made' used' spent' burning' : Nat}

theorem Account.refl (state : OpenContainerState) : Account state state 0 0 0 0 :=
  ⟨.inl ⟨rfl, rfl⟩, .inl ⟨rfl, rfl⟩, .inl ⟨rfl, rfl⟩, by simp, by simp⟩

theorem burnTime_consumed {fuel left : Option ItemStack} {n m : Nat} (h : Consumed fuel left n)
    (hcounted : Counted fuel) (hmore : ∃ rest, Consumed left rest m) :
    (m : Int) * burnTime left = m * burnTime fuel := by
  cases hleft : left with
  | none =>
    obtain ⟨rest, ⟨rfl, -⟩ | ⟨stack, hstack, -⟩⟩ := hmore
    · simp
    · rw [hleft] at hstack
      cases hstack
  | some stack =>
    have hpos : stack.count ≠ 0 := Nat.ne_of_gt (h.counted hcounted stack hleft).1
    have hkey := h.kind (f := ItemStack.key) (fun _ _ => rfl) hleft
    obtain ⟨first, rfl, hfirst⟩ := Option.map_eq_some_iff.mp hkey
    have hpos' : first.count ≠ 0 := Nat.ne_of_gt (counted_some.mp hcounted).1
    unfold burnTime furnaceFuelBurnTime
    dsimp only
    rw [if_neg hpos, if_neg hpos', hfirst]

theorem Account.trans (h : Account a b made used spent burning)
    (h' : Account b c made' used' spent' burning') (hcounted : Counted (slotAt a 1)) :
    Account a c (made + made') (used + used') (spent + spent') (burning + burning') where
  input := h.input.trans h'.input
  output := h.output.trans (h'.output.of_consumed h.input)
  fuel := h.fuel.trans h'.fuel
  cooked := by
    have hfirst := h.cooked
    have hthen := h'.cooked
    push_cast
    rw [Int.mul_add]
    omega
  burnt := by
    have hfirst := h.burnt
    have hthen := h'.burnt
    rw [burnTime_consumed h.fuel hcounted ⟨_, h'.fuel⟩] at hthen
    push_cast
    rw [Int.add_mul]
    omega

end Accounts

section Ticks

variable {state : OpenContainerState}

theorem tickFurnace_eq {lit : OpenContainerState} {left : Int} (hkind : state.kind = Ids.FURNACE)
    (hlit : lightFurnace (if burnLeft state > 0 then
        setProperty (normalizeFurnace state) Ids.FURNACE_BURN_LEFT (burnLeft state - 1)
      else normalizeFurnace state) = lit)
    (hleft : burnLeft lit = left) :
    tickFurnace state = if left > 0 then cookFurnace FURNACE_COOK_TOTAL lit
      else setProperty (setProperty lit Ids.FURNACE_COOK_PROGRESS 0) Ids.FURNACE_BURN_MAX 0 := by
  have hreads : Reads state (burnLeft state) (burnMax state) (cookProgress state) (cookTotal state)
      state.localSlots := ⟨rfl, rfl, rfl, rfl, rfl, hkind⟩
  have hgauge : property (normalizeFurnace state) Ids.FURNACE_BURN_LEFT = burnLeft state :=
    hreads.normalize.left
  have htotal : ((normalizeFurnace state).properties[Ids.FURNACE_COOK_TOTAL]?).getD
      FURNACE_COOK_TOTAL = FURNACE_COOK_TOTAL := by
    have hread : ((normalizeFurnace state).properties[Ids.FURNACE_COOK_TOTAL]?).getD 0 =
        FURNACE_COOK_TOTAL := hreads.normalize.total
    cases hat : (normalizeFurnace state).properties[Ids.FURNACE_COOK_TOTAL]? with
    | none => rfl
    | some total =>
      rw [hat] at hread
      exact hread
  have hleft' : property lit Ids.FURNACE_BURN_LEFT = left := hleft
  unfold tickFurnace
  simp only [hgauge, htotal, hlit, hleft']

theorem tick_account (h : Sound state) :
    Sound (canonicalContent.tickContainer state) ∧ ∃ made used,
      Account state (canonicalContent.tickContainer state) made used
        (if 0 < burnLeft state then 1 else 0)
        (if 0 < burnLeft (canonicalContent.tickContainer state) then 1 else 0) := by
  have htick : canonicalContent.tickContainer state = tickFurnace state := if_pos h.kind
  rw [htick]
  obtain ⟨hkind, hlength, hcounted, ⟨hleft, hmax⟩, hprogress, hcook⟩ := h
  have hreads : Reads state (burnLeft state) (burnMax state) (cookProgress state) (cookTotal state)
      state.localSlots := ⟨rfl, rfl, rfl, rfl, rfl, hkind⟩
  have hsettled := hreads.normalize
  generalize hprogress' : (if (furnaceAvailableOutput state.localSlots).isNone then 0
    else cookProgress state) = progress at hsettled
  have hburnt := hsettled.spend
  generalize hleft' : (if burnLeft state > 0 then burnLeft state - 1 else burnLeft state) = left
    at hburnt
  have hless : 0 ≤ left ∧ left ≤ (if burnLeft state = 0 then 0 else burnMax state) := by
    rw [← hleft']
    split_ifs <;> omega
  have hspent : ((if 0 < burnLeft state then 1 else 0 : Nat) : Int) = burnLeft state - left := by
    rw [← hleft']
    split_ifs <;> omega
  have hsome : 0 ≤ progress ∧ progress ≤ cookProgress state := by
    rw [← hprogress']
    split_ifs <;> omega
  obtain ⟨left', max', localSlots, used, hlit, hfuel, hother, hlength', htimed, hpos, hbound⟩ :=
    hburnt.light (hcounted 1) hless.1 hless.2
  have hcounted' : ∀ index : Nat, Counted localSlots[index]?.join := by
    intro index
    by_cases hindex : index = 1
    · exact hindex ▸ hfuel.counted (hcounted 1)
    · exact hother index hindex ▸ hcounted index
  rw [tickFurnace_eq hkind rfl hlit.left]
  generalize lightFurnace _ = lit at hlit ⊢
  by_cases hburning : left' > 0
  · rw [if_pos hburning]
    obtain ⟨progress', slots, made, hcooked, hinput, houtput, hsame, hthree, hcounts, hdone, hlow,
      hhigh⟩ := hlit.cook (hlength'.trans hlength) hcounted' hsome.1
    refine ⟨⟨hcooked.kind, ?_, fun index => ?_, ?_, ?_⟩, made, used, ?_, ?_, ?_, ?_, ?_⟩
    · rw [hcooked.slots]
      exact hthree
    · unfold slotAt
      rw [hcooked.slots]
      exact hcounts index
    · rw [hcooked.left, hcooked.max]
      exact ⟨hpos, hbound⟩
    · rw [hcooked.progress, hcooked.total]
      exact ⟨hlow, hhigh⟩
    · unfold slotAt
      rw [hcooked.slots, ← hother 0 (by decide)]
      exact hinput
    · unfold slotAt
      rw [hcooked.slots, ← hother 0 (by decide), ← hother 2 (by decide)]
      exact houtput
    · unfold slotAt
      rw [hcooked.slots, hsame]
      exact hfuel
    · rw [hcooked.progress, hcooked.left, if_pos hburning]
      push_cast
      omega
    · rw [hcooked.left, hspent, htimed]
      unfold slotAt
      omega
  · rw [if_neg hburning]
    have hout : left' = 0 := by omega
    have hended := (hlit.setProgress 0).setBurnMax 0
    have htotal' : FURNACE_COOK_TOTAL = 200 := rfl
    refine ⟨⟨hended.kind, ?_, fun index => ?_, ?_, ?_⟩, 0, used, .inl ⟨rfl, ?_⟩, .inl ⟨rfl, ?_⟩,
      ?_, ?_, ?_⟩
    · rw [hended.slots, hlength', hlength]
    · unfold slotAt
      rw [hended.slots]
      exact hcounted' index
    · rw [hended.left, hended.max, hout]
      exact ⟨Int.le_refl _, Int.le_refl _⟩
    · rw [hended.progress, hended.total]
      exact ⟨Int.le_refl _, by decide⟩
    · unfold slotAt
      rw [hended.slots]
      exact hother 0 (by decide)
    · unfold slotAt
      rw [hended.slots]
      exact hother 2 (by decide)
    · unfold slotAt
      rw [hended.slots]
      exact hfuel
    · rw [hended.progress, hended.left, if_neg hburning]
      push_cast
      omega
    · rw [hended.left, hspent, htimed]
      unfold slotAt
      omega

/-- The state of a furnace after so many ticks. -/
def ticked (state : OpenContainerState) : Nat → OpenContainerState
  | 0 => state
  | n + 1 => canonicalContent.tickContainer (ticked state n)

/-- The ticks that found the furnace burning, and used one tick of its fuel. -/
def ticksSpent (state : OpenContainerState) : Nat → Nat
  | 0 => 0
  | n + 1 => ticksSpent state n + if 0 < burnLeft (ticked state n) then 1 else 0

def ticksBurning (state : OpenContainerState) : Nat → Nat
  | 0 => 0
  | n + 1 => ticksBurning state n + if 0 < burnLeft (ticked state (n + 1)) then 1 else 0

/-- Over any number of ticks the bounds are kept, each item that is made is an item of the input,
    cooking takes its ticks of burning, and burning the time of the fuel. -/
theorem ticks_account (h : Sound state) (n : Nat) :
    Sound (ticked state n) ∧ ∃ made used,
      Account state (ticked state n) made used (ticksSpent state n) (ticksBurning state n) := by
  induction n with
  | zero => exact ⟨h, 0, 0, .refl state⟩
  | succ n ih =>
    obtain ⟨hsound, made, used, haccount⟩ := ih
    obtain ⟨hsound', made', used', haccount'⟩ := tick_account hsound
    exact ⟨hsound', made + made', used + used', haccount.trans haccount' (h.counted 1)⟩

def sandFurnace : OpenContainerState where
  kind := Ids.FURNACE
  binding := .virtual
  localSlots := [some (ItemStack.new Catalog.SAND 2 0), some (ItemStack.new Catalog.STICK 1 0), none]
  properties := furnaceDefaultProperties

theorem sandFurnace_sound : Sound sandFurnace where
  kind := rfl
  slots := rfl
  counted index := by
    unfold slotAt sandFurnace
    match index with
    | 0 => exact counted_some.mpr (by decide)
    | 1 => exact counted_some.mpr (by decide)
    | 2 => exact counted_none
    | _ + 3 => exact counted_none
  burn := by decide
  cook := by decide

theorem ticks_account_sand :
    Sound (ticked sandFurnace 400) ∧ ∃ made used,
      Account sandFurnace (ticked sandFurnace 400) made used (ticksSpent sandFurnace 400)
        (ticksBurning sandFurnace 400) :=
  ticks_account sandFurnace_sound 400

end Ticks

/-! ### A furnace that rests -/

/-- A furnace that does not burn after a tick: its fire is out by then, and there is nothing to
    smelt or nothing to light it with. -/
def Rests (state : OpenContainerState) : Prop :=
  burnLeft state < 0 ∨ burnLeft state ≤ 1 ∧
    ((furnaceAvailableOutput state.localSlots).isNone ∨
      (furnaceFuelBurnTime (slotAt state 1)).isNone)

instance (state : OpenContainerState) : Decidable (Rests state) :=
  inferInstanceAs (Decidable (_ ∨ _ ∧ (_ ∨ _)))

/-- The ticks of burning in a furnace: those of its fire and of its fuel. -/
def heat (state : OpenContainerState) : Int :=
  max (burnLeft state) 0 +
    (slotAt state 1).elim 0 ItemStack.count * burnTime (slotAt state 1)

section Rest

variable {state : OpenContainerState} {left max progress total : Int}
  {localSlots : List (Option ItemStack)}

theorem cookFurnace_fire (cookTotal : Int) (lit : OpenContainerState) :
    burnLeft (cookFurnace cookTotal lit) = burnLeft lit ∧
      slotAt (cookFurnace cookTotal lit) 1 = slotAt lit 1 := by
  have hkey : Ids.FURNACE_COOK_PROGRESS ≠ Ids.FURNACE_BURN_LEFT := Ne.symm keys_differ.2.1
  unfold cookFurnace
  cases furnaceAvailableOutput lit.localSlots with
  | none => exact ⟨by rw [burnLeft_set, if_neg hkey], rfl⟩
  | some output =>
    dsimp only
    split
    · refine ⟨by rw [burnLeft_set, if_neg hkey]; rfl, ?_⟩
      change (storeOutput (consumeOne lit.localSlots 0) output)[1]?.join = _
      rw [storeOutput_other (by decide), consumeOne_join, if_neg (by decide)]
      rfl
    · exact ⟨by rw [burnLeft_set, if_neg hkey], rfl⟩

/-- The furnace when it has spent a tick of its fire and is about to be lit. -/
def spent (state : OpenContainerState) : OpenContainerState :=
  if burnLeft state > 0 then
    setProperty (normalizeFurnace state) Ids.FURNACE_BURN_LEFT (burnLeft state - 1)
  else normalizeFurnace state

def leftAfter (state : OpenContainerState) : Int :=
  if burnLeft state > 0 then burnLeft state - 1 else burnLeft state

theorem spent_reads (hkind : state.kind = Ids.FURNACE) : ∃ max progress,
    Reads (spent state) (leftAfter state) max progress FURNACE_COOK_TOTAL state.localSlots :=
  have hreads : Reads state (burnLeft state) (burnMax state) (cookProgress state) (cookTotal state)
      state.localSlots := ⟨rfl, rfl, rfl, rfl, rfl, hkind⟩
  ⟨_, _, hreads.normalize.spend⟩

theorem tickFurnace_spent (hkind : state.kind = Ids.FURNACE) : tickFurnace state =
    if burnLeft (lightFurnace (spent state)) > 0 then
      cookFurnace FURNACE_COOK_TOTAL (lightFurnace (spent state))
    else setProperty (setProperty (lightFurnace (spent state)) Ids.FURNACE_COOK_PROGRESS 0)
      Ids.FURNACE_BURN_MAX 0 := tickFurnace_eq hkind rfl rfl

/-- **The fire and the fuel after a tick.** -/
theorem tickFurnace_fire (hkind : state.kind = Ids.FURNACE) :
    (∃ time, leftAfter state = 0 ∧ (furnaceAvailableOutput state.localSlots).isSome ∧
      furnaceFuelBurnTime (slotAt state 1) = some time ∧ burnLeft (tickFurnace state) = time ∧
      slotAt (tickFurnace state) 1 = decrementCursor (slotAt state 1)) ∨
    ¬ (leftAfter state = 0 ∧ (furnaceAvailableOutput state.localSlots).isSome ∧
        (furnaceFuelBurnTime (slotAt state 1)).isSome) ∧
      burnLeft (tickFurnace state) = leftAfter state ∧
      slotAt (tickFurnace state) 1 = slotAt state 1 := by
  obtain ⟨max, progress, hspent⟩ := spent_reads hkind
  have hends : burnLeft (tickFurnace state) = burnLeft (lightFurnace (spent state)) ∧
      slotAt (tickFurnace state) 1 = slotAt (lightFurnace (spent state)) 1 := by
    rw [tickFurnace_spent hkind]
    split
    · exact cookFurnace_fire ..
    · obtain ⟨h1, h2, -⟩ := keys_differ
      exact ⟨by rw [burnLeft_set, if_neg (Ne.symm h1), burnLeft_set, if_neg (Ne.symm h2)], rfl⟩
  rw [hends.1, hends.2]
  rcases hspent.lit with ⟨time, hout, havailable, htime, hlit⟩ | ⟨hnot, hsame⟩
  · refine .inl ⟨time, hout, havailable, htime, hlit.left, ?_⟩
    unfold slotAt
    rw [hlit.slots, consumeOne_join, if_pos rfl]
  · rw [hsame]
    refine .inr ⟨hnot, hspent.left, ?_⟩
    unfold slotAt
    rw [hspent.slots]

theorem rests_iff (hkind : state.kind = Ids.FURNACE) :
    Rests state ↔ burnLeft (tickFurnace state) ≤ 0 := by
  have hnone : ∀ {α : Type} {x : Option α}, x.isNone ↔ ¬ x.isSome := by simp
  unfold Rests
  rw [hnone, hnone]
  rcases tickFurnace_fire hkind with ⟨time, hout, havailable, htime, hleft, -⟩ | ⟨hnot, hleft, -⟩
  · have hpos := furnaceFuelBurnTime_pos htime
    rw [hleft, htime]
    unfold leftAfter at hout
    split_ifs at hout <;> grind
  · rw [hleft]
    unfold leftAfter at hnot ⊢
    split_ifs at hnot ⊢ <;> grind

theorem tick_heat (hkind : state.kind = Ids.FURNACE) :
    heat (tickFurnace state) = heat state - if 0 < burnLeft state then 1 else 0 := by
  unfold heat
  rcases tickFurnace_fire hkind with ⟨time, hout, -, htime, hleft, hfuel⟩ | ⟨-, hleft, hfuel⟩
  · have hpos := furnaceFuelBurnTime_pos htime
    rw [hleft, hfuel]
    cases hstack : slotAt state 1 with
    | none =>
      rw [hstack] at htime
      cases htime
    | some fuel =>
      rw [hstack] at htime
      have hcount : fuel.count ≠ 0 := by
        intro hzero
        simp [furnaceFuelBurnTime, hzero] at htime
      have hrest : (((decrementCursor (some fuel)).elim 0 ItemStack.count : Nat) : Int) *
          burnTime (decrementCursor (some fuel)) = (fuel.count - 1) * time := by
        unfold decrementCursor
        dsimp only
        split
        · next hlast =>
          have hone : fuel.count = 1 := by omega
          simp [hone]
        · next hmore =>
          have hsame : furnaceFuelBurnTime (some { fuel with count := fuel.count - 1 }) =
              some time := by
            rw [← htime]
            unfold furnaceFuelBurnTime
            dsimp only
            rw [if_neg hmore, if_neg hcount]
          rw [burnTime, hsame]
          simp only [Option.elim_some, Option.getD_some]
          congr 1
          omega
      have hwhole : burnTime (some fuel) = time := by rw [burnTime, htime]; rfl
      rw [hrest, hwhole, Int.sub_mul]
      simp only [Option.elim_some, Int.one_mul]
      unfold leftAfter at hout
      split_ifs at hout ⊢ <;> omega
  · rw [hleft, hfuel]
    unfold leftAfter
    split_ifs <;> omega

theorem tickFurnace_of_resting (hkind : state.kind = Ids.FURNACE)
    (htotal : state.properties[Ids.FURNACE_COOK_TOTAL]? = some FURNACE_COOK_TOTAL)
    (hprogress : state.properties[Ids.FURNACE_COOK_PROGRESS]? = some 0)
    (hmax : state.properties[Ids.FURNACE_BURN_MAX]? = some 0) (hleft : burnLeft state ≤ 0)
    (hrests : Rests state) : tickFurnace state = state := by
  have hset : ∀ {key value}, state.properties[key]? = some value →
      setProperty state key value = state := by
    intro key value hvalue
    unfold setProperty
    rw [insert_self hvalue]
  have hnormal : normalizeFurnace state = state := by
    unfold normalizeFurnace
    simp only [hset htotal, hset hmax, hset hprogress, ite_self]
  have hspent : spent state = state := by
    unfold spent
    rw [if_neg (by omega), hnormal]
  have hlit : lightFurnace state = state := by
    have hreads : Reads state (burnLeft state) (burnMax state) (cookProgress state)
        (cookTotal state) state.localSlots := ⟨rfl, rfl, rfl, rfl, rfl, hkind⟩
    rcases hreads.lit with ⟨time, hout, havailable, htime, -⟩ | ⟨-, hsame⟩
    · unfold Rests slotAt at hrests
      rw [htime] at hrests
      cases hnone : furnaceAvailableOutput state.localSlots with
      | none =>
        rw [hnone] at havailable
        cases havailable
      | some output =>
        rw [hnone] at hrests
        simp at hrests
        omega
    · exact hsame
  rw [tickFurnace_spent hkind, hspent, hlit, if_neg (by omega), hset hprogress, hset hmax]

/-- **A furnace that rests does so from one tick on**: the second tick changes nothing. -/
theorem Rests.again (hkind : state.kind = Ids.FURNACE) (h : Rests state) :
    tickFurnace (tickFurnace state) = tickFurnace state := by
  have hleft := (rests_iff hkind).mp h
  obtain ⟨max, progress, hspent⟩ := spent_reads hkind
  have hunlit : ¬ burnLeft (lightFurnace (spent state)) > 0 := by
    intro hburns
    rw [tickFurnace_spent hkind, if_pos hburns, (cookFurnace_fire ..).1] at hleft
    omega
  have hkeep : ¬ (leftAfter state = 0 ∧ (furnaceAvailableOutput state.localSlots).isSome ∧
      (furnaceFuelBurnTime state.localSlots[1]?.join).isSome) ∧
      lightFurnace (spent state) = spent state := by
    rcases hspent.lit with ⟨time, -, -, htime, hlit⟩ | hkeep
    · have hpos := furnaceFuelBurnTime_pos htime
      rw [hlit.left] at hunlit
      omega
    · exact hkeep
  have hticked : tickFurnace state = setProperty (setProperty (spent state)
      Ids.FURNACE_COOK_PROGRESS 0) Ids.FURNACE_BURN_MAX 0 := by
    rw [tickFurnace_spent hkind, if_neg hunlit, hkeep.2]
  have hreads := (hspent.setProgress 0).setBurnMax 0
  rw [← hticked] at hreads
  have htotal : (tickFurnace state).properties[Ids.FURNACE_COOK_TOTAL]? =
      some FURNACE_COOK_TOTAL := by
    have hread : ((tickFurnace state).properties[Ids.FURNACE_COOK_TOTAL]?).getD 0 =
        FURNACE_COOK_TOTAL := hreads.total
    cases hat : (tickFurnace state).properties[Ids.FURNACE_COOK_TOTAL]? with
    | none =>
      rw [hat] at hread
      cases hread
    | some total =>
      rw [hat] at hread
      exact congrArg some hread
  refine tickFurnace_of_resting hreads.kind htotal ?_ ?_ hleft ?_
  · rw [hticked]
    unfold setProperty
    dsimp only
    rw [BTreeMap.getElem?_insert_eq, if_neg keys_differ.2.2.2.1, BTreeMap.getElem?_insert_eq,
      if_pos rfl]
  · rw [hticked]
    unfold setProperty
    simp
  · unfold Rests slotAt
    rw [hreads.left, hreads.slots]
    rw [hreads.left] at hleft
    by_cases hcold : leftAfter state < 0
    · exact .inl hcold
    · have hout : leftAfter state = 0 := by omega
      refine .inr ⟨by omega, ?_⟩
      rcases not_and_or.mp (not_and.mp hkeep.1 hout) with hno | hno
      · exact .inl (Option.isNone_iff_eq_none.mpr (Option.not_isSome_iff_eq_none.mp hno))
      · exact .inr (Option.isNone_iff_eq_none.mpr (Option.not_isSome_iff_eq_none.mp hno))

end Rest

end RevyCraft.FurnaceAccounts
