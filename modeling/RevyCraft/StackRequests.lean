/-
  RevyCraft/StackRequests.lean
  ============================
  **What a Bedrock stack request asks for, and what its click does** (the actions of
  `inventory.rs` in `mc-proto-be-924`, applied by `click.rs` of the core).

  A request names an amount.  The plugin turns it into a click, whose button says one
  item or more than one, and the core gives the buttons the meaning that a mouse has:
  half of a stack, one item of it, all of it, a merge or a swap.  So a click moves the
  amount only for some amounts (`Transfer.Exact`).

    * `Transfer.Done`: what is asked for.
    * `Transfer.Refused`: the click is refused, and the client is sent the window again.
    * `request_done_iff`: when a request gets what it asks for.
-/
import RevyCraft.BedrockBatches
import RevyCraft.WindowClicks

namespace RevyCraft.StackRequests

open Bedrock Canonical WindowClicks

/-! ### Requests -/

/-- What a request asks for, where it is between a slot and the cursor. -/
inductive Transfer where
  | take (amount : Nat) (slot : InventorySlot)
  | place (amount : Nat) (slot : InventorySlot)
  | swap (slot : InventorySlot)
  | drop (amount : Nat)

/-- The transfer that an action of a request is. -/
def transferOf : ItemStackRequestAction → Option Transfer
  | .take amount source destination =>
    match decodeRequestSlot source, decodeRequestSlot destination with
    | some (.slot slot), some .cursor => some (.take amount.toNat slot)
    | _, _ => none
  | .place amount source destination =>
    match decodeRequestSlot source, decodeRequestSlot destination with
    | some .cursor, some (.slot slot) => some (.place amount.toNat slot)
    | _, _ => none
  | .swap source destination =>
    match decodeRequestSlot source, decodeRequestSlot destination with
    | some .cursor, some (.slot slot) => some (.swap slot)
    | some (.slot slot), some .cursor => some (.swap slot)
    | _, _ => none
  | .drop amount source =>
    match decodeRequestSlot source with
    | some .cursor => some (.drop amount.toNat)
    | _ => none
  | .other => none

namespace Transfer

def target : Transfer → InventoryClickTarget
  | .take _ slot | .place _ slot | .swap slot => .slot slot
  | .drop _ => .outside

def button : Transfer → InventoryClickButton
  | .take amount _ | .place amount _ | .drop amount => if amount ≤ 1 then .right else .left
  | .swap _ => .left

end Transfer

theorem decodeRequestActions_eq (playerId : PlayerId) (transaction : InventoryTransactionContext)
    (action : ItemStackRequestAction) (rest : List ItemStackRequestAction) :
    decodeRequestActions playerId transaction (action :: rest) =
      (transferOf action).map fun transfer => .inventoryClick playerId transaction
        transfer.target transfer.button .authoritative := by
  have hbutton : ∀ amount : Int, amountToButton amount =
      if amount.toNat ≤ 1 then InventoryClickButton.right else .left := by
    intro amount
    unfold amountToButton
    exact ite_congr (propext ⟨fun h => by omega, fun h => by omega⟩) (fun _ => rfl) fun _ => rfl
  cases action with
  | take amount source destination =>
    simp only [decodeRequestActions, transferOf, List.head?_cons, Option.bind_some, translateAction,
      translateTakeAction]
    rcases decodeRequestSlot source with _ | ⟨slot⟩ | _ <;>
      rcases decodeRequestSlot destination with _ | ⟨slot'⟩ | _ <;>
      simp [Transfer.target, Transfer.button, hbutton]
  | place amount source destination =>
    simp only [decodeRequestActions, transferOf, List.head?_cons, Option.bind_some, translateAction,
      translatePlaceAction]
    rcases decodeRequestSlot source with _ | ⟨slot⟩ | _ <;>
      rcases decodeRequestSlot destination with _ | ⟨slot'⟩ | _ <;>
      simp [Transfer.target, Transfer.button, hbutton]
  | swap source destination =>
    simp only [decodeRequestActions, transferOf, List.head?_cons, Option.bind_some, translateAction,
      translateSwapAction]
    rcases decodeRequestSlot source with _ | ⟨slot⟩ | _ <;>
      rcases decodeRequestSlot destination with _ | ⟨slot'⟩ | _ <;>
      simp [Transfer.target, Transfer.button]
  | drop amount source =>
    simp only [decodeRequestActions, transferOf, List.head?_cons, Option.bind_some, translateAction,
      translateDropAction]
    rcases decodeRequestSlot source with _ | ⟨slot⟩ | _ <;>
      simp [Transfer.target, Transfer.button, hbutton]
  | other => rfl

/-! ### What is asked for -/

/-- A place has so many items of a stack more than before; it had none of any other item. -/
def Gained (amount : Nat) (stack : ItemStack) (before after : Option ItemStack) : Prop :=
  (∀ there, before = some there → there.identity = stack.identity) ∧
    after = some { stack with count := (before.elim 0 ItemStack.count) + amount }

namespace Transfer

/-- The amount is positive and the source has it. -/
def Asks (before : View) : Transfer → Prop
  | .take amount slot => ∃ stack, before.slots slot = some stack ∧ 1 ≤ amount ∧ amount ≤ stack.count
  | .place amount _ => ∃ stack, before.cursor = some stack ∧ 1 ≤ amount ∧ amount ≤ stack.count
  | .swap _ => True
  | .drop amount => ∃ stack, before.cursor = some stack ∧ 1 ≤ amount ∧ amount ≤ stack.count

/-- The amount has moved from the source to the destination, and no other slot has changed but the
    ones whose contents are derived. -/
def Done (derived : InventorySlot → Prop) (before after : View) : Transfer → Prop
  | .take amount slot => ∃ stack, before.slots slot = some stack ∧
      Gained amount stack before.cursor after.cursor ∧
      (¬ derived slot → after.slots slot = remaining stack amount) ∧
      ∀ other, other ≠ slot → ¬ derived other → after.slots other = before.slots other
  | .place amount slot => ∃ stack, before.cursor = some stack ∧
      Gained amount stack (before.slots slot) (after.slots slot) ∧
      after.cursor = remaining stack amount ∧
      ∀ other, other ≠ slot → ¬ derived other → after.slots other = before.slots other
  | .swap slot => after.cursor = before.slots slot ∧
      (¬ derived slot → after.slots slot = before.cursor) ∧
      ∀ other, other ≠ slot → ¬ derived other → after.slots other = before.slots other
  | .drop amount => ∃ stack, before.cursor = some stack ∧ after.cursor = remaining stack amount ∧
      ∀ other, ¬ derived other → after.slots other = before.slots other

end Transfer

/-- When a click on a slot is refused.  The client is then sent the window again. -/
def RefusedAt (place : Place) (button : InventoryClickButton) (before : View)
    (slot : InventorySlot) : Prop :=
  match place with
  | .free => button = .right ∧ ∃ held, before.cursor = some held ∧
      ∃ there, before.slots slot = some there ∧
        (there.identity ≠ held.identity ∨ MAX_STACK_SIZE ≤ there.count)
  | .smelted => ∀ output, before.slots slot = some output →
      takeOntoCursor before.cursor output (takenBy button output) = none
  | .crafted made => ∀ output, made = some output →
      takeOntoCursor before.cursor output (takenBy button output) = none
  | .closed => True

namespace Transfer

/-- When the click of a request is refused. -/
def Refused (place : InventorySlot → Place) (before : View) : Transfer → Prop
  | .take amount slot => RefusedAt (place slot) (take amount slot).button before slot
  | .place amount slot => RefusedAt (place slot) (Transfer.place amount slot).button before slot
  | .swap slot => RefusedAt (place slot) (swap slot).button before slot
  | .drop _ => False

/-- When a request gets what it asks for. -/
def Exact (place : InventorySlot → Place) (before : View) : Transfer → Prop
  | .take amount slot =>
    match place slot with
    | .free => before.cursor = none ∧ ∀ stack, before.slots slot = some stack →
        amount = stack.count ∨ amount = 1 ∧ stack.count = 2
    | .smelted => ∀ stack, before.slots slot = some stack → (amount = 1 ∨ amount = stack.count) ∧
        ∀ held, before.cursor = some held →
          held.identity = stack.identity ∧ held.count + amount ≤ MAX_STACK_SIZE
    | .crafted _ => False
    | .closed => False
  | .place amount slot =>
    match place slot with
    | .free => ∀ stack, before.cursor = some stack →
        (before.slots slot = none → amount = 1 ∨ amount = stack.count) ∧
        ∀ there, before.slots slot = some there → there.identity = stack.identity ∧
          there.count < MAX_STACK_SIZE ∧
          (amount = 1 ∨ amount = min stack.count (MAX_STACK_SIZE - there.count))
    | .smelted => False
    | .crafted _ => False
    | .closed => False
  | .swap slot =>
    match place slot with
    | .free => ∀ held, before.cursor = some held → ∀ there, before.slots slot = some there →
        there.identity = held.identity → held.count = MAX_STACK_SIZE
    | .smelted => ∀ held, before.cursor = some held →
        before.slots slot = some held ∧ MAX_STACK_SIZE < held.count + held.count
    | .crafted made => before.cursor = before.slots slot ∧
        ∀ output, made = some output → takeOntoCursor before.cursor output output.count = none
    | .closed => before.cursor = before.slots slot
  | .drop amount => ∀ stack, before.cursor = some stack → amount = 1 ∨ amount = stack.count

end Transfer

/-! ### A slot that takes and gives -/

variable {stack output : ItemStack} {n amount : Nat}

theorem withCount_inj {m : Nat} :
    ({ stack with count := n } : ItemStack) = { stack with count := m } ↔ n = m := by
  simp

theorem remaining_eq_some : some { stack with count := n } = remaining stack amount ↔
      stack.count ≠ amount ∧ n = stack.count - amount := by
  unfold remaining
  split
  next h => simp [h]
  next h => simp [h]

theorem remaining_eq_none : none = remaining stack amount ↔ stack.count = amount := by
  unfold remaining
  split
  next h => simp [h]
  next h => simp [h]

theorem decrementCursor_eq (stack : ItemStack) (h : 1 ≤ stack.count) :
    decrementCursor (some stack) = remaining stack 1 := by
  show (if stack.count - 1 = 0 then none else some { stack with count := stack.count - 1 }) = _
  unfold remaining
  by_cases hone : stack.count = 1
  · rw [if_pos (by omega), if_pos hone]
  · rw [if_neg (by omega), if_neg hone]

theorem remaining_inj {m : Nat} (hn : n ≤ stack.count) (hm : m ≤ stack.count) :
    remaining stack n = remaining stack m ↔ n = m := by
  unfold remaining
  split <;> split <;> simp <;> omega

theorem not_match_iff {left right : ItemStack} :
    ¬ stackKeysMatch left right = true ↔ left.identity ≠ right.identity :=
  not_congr (ItemStack.stackKeysMatch_iff left right)

theorem withCount_of_identity {left right : ItemStack} (h : left.identity = right.identity) (n : Nat) :
    ({ left with count := n } : ItemStack) = { right with count := n } := by
  simp only [ItemStack.identity, ItemIdentity.mk.injEq] at h
  simp [h]

section FreeSlot

variable {cursor slot cursor' slot' : Option ItemStack} {applied : Bool} {amount : Nat}
  {stack : ItemStack}

/-! The clicks, by what they move. -/

theorem left_take : applyClickSlotValue .left none (some stack) = .ok (true, some stack, none) := rfl

theorem right_take (h : Counted (some stack)) :
    applyClickSlotValue .right none (some stack) = .ok (true,
      some { stack with count := (stack.count + 1) / 2 }, remaining stack ((stack.count + 1) / 2)) := by
  obtain ⟨hlow, hhigh⟩ := h stack rfl
  unfold MAX_STACK_SIZE at hhigh
  have hhalf : min (stack.count + 1) u8Max / 2 = (stack.count + 1) / 2 := by
    unfold u8Max
    omega
  simp only [applyClickSlotValue, applyRightClickSlotValue, hhalf, remaining]
  by_cases hone : stack.count = 1
  · rw [if_pos (by omega), if_pos (by omega)]
  · rw [if_neg (by omega), if_neg (by omega),
      show stack.count / 2 = stack.count - (stack.count + 1) / 2 by omega]

theorem right_place (h : 1 ≤ stack.count) :
    applyClickSlotValue .right (some stack) none =
      .ok (true, remaining stack 1, some { stack with count := 1 }) := by
  rw [← decrementCursor_eq stack h]
  rfl

variable {there : ItemStack}

theorem right_add (hsame : there.identity = stack.identity)
    (hroom : there.count < MAX_STACK_SIZE) :
    applyClickSlotValue .right (some stack) (some there) =
      .ok (true, decrementCursor (some stack), some { there with count := there.count + 1 }) := by
  have hkeys : stackKeysMatch stack there = true :=
    (ItemStack.stackKeysMatch_iff stack there).mpr hsame.symm
  have hcount : min (there.count + 1) u8Max = there.count + 1 := by
    unfold MAX_STACK_SIZE at hroom
    unfold u8Max
    omega
  simp only [applyClickSlotValue, applyRightClickSlotValue, hkeys, hroom, decide_true, Bool.and_self,
    if_true, hcount]

theorem right_refused (h : there.identity ≠ stack.identity ∨ MAX_STACK_SIZE ≤ there.count) :
    applyClickSlotValue .right (some stack) (some there) = .ok (false, some stack, some there) := by
  have hno : ¬ (stackKeysMatch stack there && decide (there.count < MAX_STACK_SIZE)) = true := by
    rw [Bool.and_eq_true, decide_eq_true_eq, ItemStack.stackKeysMatch_iff]
    rintro ⟨hsame, hroom⟩
    rcases h with hne | hfull
    · exact hne hsame.symm
    · omega
  simp only [applyClickSlotValue, applyRightClickSlotValue, hno, if_false, Bool.false_eq_true]

theorem left_add (h : FitsU8 (some stack)) (hthere : Counted (some there))
    (hsame : there.identity = stack.identity) :
    applyClickSlotValue .left (some stack) (some there) =
      .ok (true, remaining stack (min stack.count (MAX_STACK_SIZE - there.count)),
        some { there with
          count := there.count + min stack.count (MAX_STACK_SIZE - there.count) }) := by
  obtain ⟨hlow, hfull⟩ := hthere there rfl
  have hbyte := h stack rfl
  unfold MAX_STACK_SIZE at hfull ⊢
  unfold u8Max at hbyte
  have hkeys : stackKeysMatch stack there = true :=
    (ItemStack.stackKeysMatch_iff stack there).mpr hsame.symm
  have hmerged : min (stack.count + there.count) 64 =
      there.count + min stack.count (64 - there.count) := by omega
  have hleft : stack.count + there.count - (there.count + min stack.count (64 - there.count)) =
      stack.count - min stack.count (64 - there.count) := by omega
  have hfits : ¬ stack.count - min stack.count (64 - there.count) > 255 := by omega
  simp only [applyClickSlotValue, applyLeftClickSlotValue, hkeys, if_true, MAX_STACK_SIZE, u8Max,
    remaining, hmerged, hleft, hfits, if_false]
  by_cases hall : stack.count = min stack.count (64 - there.count)
  · rw [if_pos (by omega), if_pos hall]
  · rw [if_neg (by omega), if_neg hall]

theorem left_swap (h : there.identity ≠ stack.identity) :
    applyClickSlotValue .left (some stack) (some there) = .ok (true, some there, some stack) := by
  have hkeys : ¬ stackKeysMatch stack there = true := not_match_iff.mpr (Ne.symm h)
  simp only [applyClickSlotValue, applyLeftClickSlotValue, hkeys, if_false, Bool.false_eq_true]

/-- Taking from a slot moves the amount just when the cursor is empty and the button happens to
    mean the amount: all of the stack, or one of two. -/
theorem take_free (hcursor : FitsU8 cursor) (hslot : Counted (some stack)) (hlow : 1 ≤ amount)
    (hhigh : amount ≤ stack.count)
    (h : applyClickSlotValue (if amount ≤ 1 then .right else .left) cursor (some stack) =
      .ok (applied, cursor', slot')) :
    (Gained amount stack cursor cursor' ∧ slot' = remaining stack amount) ↔
      cursor = none ∧ (amount = stack.count ∨ amount = 1 ∧ stack.count = 2) := by
  obtain ⟨hpos, hfull⟩ := hslot stack rfl
  unfold MAX_STACK_SIZE at hfull
  rcases cursor with _ | held
  · simp only [Gained, Option.elim_none, Nat.zero_add, reduceCtorEq, false_implies, implies_true,
      true_and]
    by_cases hone : amount ≤ 1
    · rw [if_pos hone, right_take hslot] at h
      cases h
      rw [Option.some.injEq, withCount_inj, remaining_inj (by omega) hhigh]
      omega
    · rw [if_neg hone, left_take] at h
      cases h
      have hsame : stack = { stack with count := amount } ↔ stack.count = amount :=
        withCount_inj (n := stack.count)
      rw [Option.some.injEq, hsame, remaining_eq_none]
      omega
  · -- Every click with something on the cursor leaves the slot with no less, or with another item.
    simp only [reduceCtorEq, false_and, iff_false, not_and]
    rintro ⟨hidentity, hgained⟩ hleft
    have hsame := hidentity held rfl
    have hheld := hcursor held rfl
    have hdone : cursor' = some held ∨ ∃ n, stack.count ≤ n ∧ slot' = some { stack with count := n } := by
      by_cases hone : amount ≤ 1
      · rw [if_pos hone] at h
        by_cases hroom : stack.count < MAX_STACK_SIZE
        · rw [right_add hsame.symm hroom] at h
          cases h
          exact .inr ⟨stack.count + 1, by omega, rfl⟩
        · rw [right_refused (.inr (Nat.le_of_not_lt hroom))] at h
          cases h
          exact .inl rfl
      · rw [if_neg hone, left_add hcursor hslot hsame.symm] at h
        cases h
        exact .inr ⟨_, Nat.le_add_right _ _, rfl⟩
    rcases hdone with hkept | ⟨n, hn, hmore⟩
    · rw [hkept, Option.some.injEq, ← withCount_of_identity hsame] at hgained
      have := congrArg ItemStack.count hgained
      simp only [Option.elim_some] at this
      omega
    · rw [hmore, remaining_eq_some] at hleft
      omega

/-- Placing into an empty slot moves one item or all; onto a stack of the same items one, or what
    there is room for. -/
theorem place_free (hcursor : FitsU8 (some stack)) (hslot : Counted slot) (hlow : 1 ≤ amount)
    (hhigh : amount ≤ stack.count)
    (h : applyClickSlotValue (if amount ≤ 1 then .right else .left) (some stack) slot =
      .ok (applied, cursor', slot')) :
    (Gained amount stack slot slot' ∧ cursor' = remaining stack amount) ↔
      (slot = none → amount = 1 ∨ amount = stack.count) ∧
        ∀ there, slot = some there → there.identity = stack.identity ∧
          there.count < MAX_STACK_SIZE ∧
          (amount = 1 ∨ amount = min stack.count (MAX_STACK_SIZE - there.count)) := by
  rcases slot with _ | there
  · simp only [Gained, Option.elim_none, Nat.zero_add, reduceCtorEq, false_implies, implies_true,
      true_and, and_true, true_implies]
    by_cases hone : amount ≤ 1
    · rw [if_pos hone, right_place (by omega)] at h
      cases h
      rw [Option.some.injEq, withCount_inj, remaining_inj (by omega) hhigh]
      omega
    · rw [if_neg hone] at h
      cases h
      have hsame : stack = { stack with count := amount } ↔ stack.count = amount :=
        withCount_inj (n := stack.count)
      rw [Option.some.injEq, hsame, remaining_eq_none]
      omega
  · simp only [reduceCtorEq, false_implies, true_and, Option.some.injEq, forall_eq']
    by_cases hsame : there.identity = stack.identity
    · simp only [Gained, Option.some.injEq, forall_eq', hsame, true_and, Option.elim_some,
        withCount_of_identity hsame.symm]
      by_cases hone : amount ≤ 1
      · have hamount : amount = 1 := by omega
        subst hamount
        rw [if_pos hone] at h
        by_cases hroom : there.count < MAX_STACK_SIZE
        · rw [right_add hsame hroom, decrementCursor_eq stack hhigh] at h
          cases h
          simp [hroom]
        · rw [right_refused (.inr (Nat.le_of_not_lt hroom))] at h
          cases h
          simp only [hroom, false_and, iff_false, not_and]
          intro hgained
          have := congrArg ItemStack.count (Option.some.inj hgained)
          simp at this
      · rw [if_neg hone, left_add hcursor hslot hsame] at h
        cases h
        rw [Option.some.injEq, withCount_inj, remaining_inj (Nat.min_le_left _ _) hhigh]
        omega
    · have hnot : ¬ Gained amount stack (some there) slot' := fun hgained =>
        hsame (hgained.1 there rfl)
      simp only [hnot, hsame, false_and]

theorem swap_free (hcursor : FitsU8 cursor) (hslot : Counted slot)
    (h : applyClickSlotValue .left cursor slot = .ok (applied, cursor', slot')) :
    (cursor' = slot ∧ slot' = cursor) ↔
      ∀ held, cursor = some held → ∀ there, slot = some there → there.identity = held.identity →
        held.count = MAX_STACK_SIZE := by
  rcases cursor with _ | held <;> rcases slot with _ | there
  · cases h
    simp
  · cases h
    simp
  · cases h
    simp
  · simp only [Option.some.injEq, forall_eq']
    obtain ⟨hlow, hfull⟩ := hslot there rfl
    by_cases hsame : there.identity = held.identity
    · rw [left_add hcursor hslot hsame] at h
      cases h
      have hheld : held = { there with count := held.count } :=
        withCount_of_identity hsame.symm held.count
      have hthere : there = { held with count := there.count } :=
        withCount_of_identity hsame there.count
      have hback : remaining held (min held.count (MAX_STACK_SIZE - there.count)) = some there ↔
          held.count ≠ min held.count (MAX_STACK_SIZE - there.count) ∧
            there.count = held.count - min held.count (MAX_STACK_SIZE - there.count) := by
        rw [eq_comm, hthere]
        exact remaining_eq_some
      have hput : ({ there with
          count := there.count + min held.count (MAX_STACK_SIZE - there.count) } : ItemStack) =
            held ↔ there.count + min held.count (MAX_STACK_SIZE - there.count) = held.count := by
        rw [hheld]
        exact withCount_inj
      rw [hback, Option.some.injEq, hput]
      simp only [hsame, true_implies]
      omega
    · rw [left_swap hsame] at h
      cases h
      simp [hsame]

theorem refused_free {button : InventoryClickButton} (hcursor : FitsU8 cursor)
    (hslot : Counted slot) (h : applyClickSlotValue button cursor slot = .ok (applied, cursor', slot')) :
    applied = false ↔ button = .right ∧ ∃ held, cursor = some held ∧ ∃ there, slot = some there ∧
      (there.identity ≠ held.identity ∨ MAX_STACK_SIZE ≤ there.count) := by
  rcases cursor with _ | held
  · have happlied : applied = true := by
      cases button <;> rcases slot with _ | there <;>
      · cases h
        rfl
    simp [happlied]
  rcases slot with _ | there
  · have happlied : applied = true := by
      cases button <;>
      · cases h
        rfl
    simp [happlied]
  simp only [Option.some.injEq, exists_eq_left']
  cases button with
  | left =>
    have happlied : applied = true := by
      by_cases hsame : there.identity = held.identity
      · rw [left_add hcursor hslot hsame] at h
        cases h
        rfl
      · rw [left_swap hsame] at h
        cases h
        rfl
    simp [happlied]
  | right =>
    by_cases hrefused : there.identity ≠ held.identity ∨ MAX_STACK_SIZE ≤ there.count
    · rw [right_refused hrefused] at h
      cases h
      simp only [hrefused, and_self]
    · obtain ⟨hsame, hroom⟩ := not_or.mp hrefused
      rw [right_add (not_not.mp hsame) (Nat.lt_of_not_le hroom)] at h
      cases h
      simp only [hrefused, and_false, Bool.true_eq_false]

end FreeSlot

/-! ### What a click leaves of a window -/

section Click

variable {derived : InventorySlot → Prop} {slot : InventorySlot} {button : InventoryClickButton}
  {before after : View} {place : InventorySlot → Place} {amount : Nat} {applied : Bool}

theorem not_gained_same {held : Option ItemStack} (h : 1 ≤ amount) :
    ¬ Gained amount stack held held := by
  rintro ⟨-, hgained⟩
  rcases held with _ | there
  · cases hgained
  · have := congrArg ItemStack.count (Option.some.inj hgained)
    simp only [Option.elim_some] at this
    omega

theorem ne_remaining (hlow : 1 ≤ amount) (hhigh : amount ≤ stack.count) :
    some stack ≠ remaining stack amount := by
  have hstack : some stack = remaining stack 0 := by
    rw [remaining, if_neg (by omega)]
    rfl
  rw [hstack]
  exact fun h => by
    rw [remaining_inj (Nat.zero_le _) hhigh] at h
    omega

theorem takeOntoCursor_some {existing held : ItemStack} :
    takeOntoCursor (some existing) output n = some held ↔ existing.key = output.key ∧
      existing.count + n ≤ MAX_STACK_SIZE ∧
      held = { existing with count := existing.count + n } := by
  unfold takeOntoCursor MAX_STACK_SIZE
  dsimp only
  by_cases h : existing.key = output.key ∧ existing.count + n ≤ 64
  · rw [if_pos h, show min (existing.count + n) 255 = existing.count + n by omega,
      Option.some.injEq]
    simp only [h, true_and, eq_comm]
  · rw [if_neg h]
    constructor
    · intro hnone
      cases hnone
    · rintro ⟨hkey, hroom, -⟩
      exact absurd ⟨hkey, hroom⟩ h

/-- An output that is taken is what was asked for when all of it was, or one of it, and it joins
    the same items. -/
theorem gained_taken {held : ItemStack} {cursor : Option ItemStack}
    (h : takeOntoCursor cursor output n = some held) :
    Gained amount output cursor (some held) ↔ amount = n ∧
      ∀ existing, cursor = some existing → existing.identity = output.identity := by
  rcases cursor with _ | existing
  · cases h
    simp only [Gained, reduceCtorEq, false_implies, implies_true, true_and, and_true,
      Option.elim_none, Nat.zero_add, Option.some.injEq, withCount_inj]
    exact eq_comm
  · obtain ⟨-, -, rfl⟩ := takeOntoCursor_some.mp h
    simp only [Gained, Option.some.injEq, forall_eq', Option.elim_some]
    constructor
    · rintro ⟨hsame, hgained⟩
      refine ⟨?_, hsame⟩
      have := congrArg ItemStack.count hgained
      dsimp only at this
      omega
    · rintro ⟨rfl, hsame⟩
      exact ⟨hsame, withCount_of_identity hsame _⟩

theorem takenBy_button (hlow : 1 ≤ amount) :
    amount = takenBy (Transfer.take amount slot).button output ↔
      amount = 1 ∨ amount = output.count := by
  simp only [Transfer.button]
  by_cases hone : amount ≤ 1
  · rw [if_pos hone]
    simp only [takenBy]
    omega
  · rw [if_neg hone]
    simp only [takenBy]
    omega

theorem take_iff
    (h : Clicked derived slot (Transfer.take amount slot).button before after applied (place slot))
    (hasks : (Transfer.take amount slot).Asks before) (hcursor : FitsU8 before.cursor)
    (hslots : ∀ slot, Counted (before.slots slot)) :
    (Transfer.take amount slot).Done derived before after ↔
      (Transfer.take amount slot).Exact place before := by
  obtain ⟨stack, hstack, hlow, hhigh⟩ := hasks
  have hpos := (hslots slot stack hstack).1
  unfold Transfer.Done Transfer.Exact
  simp only [hstack, Option.some.injEq, exists_eq_left', forall_eq']
  generalize place slot = here at h ⊢
  cases h with
  | free hfree hclick hkept =>
    rw [hstack] at hclick
    have hcounted : Counted (some stack) := hstack ▸ hslots slot
    rw [← take_free hcursor hcounted hlow hhigh hclick]
    constructor
    · exact fun ⟨hgained, hleft, _⟩ => ⟨hgained, hleft hfree⟩
    · exact fun ⟨hgained, hleft⟩ => ⟨hgained, fun _ => hleft, hkept⟩
  | @smelted output held hfree houtput htake hheld hleft hkept =>
    rw [hstack] at houtput
    cases houtput
    dsimp only
    rw [hheld, hleft, gained_taken htake, ← takenBy_button hlow]
    constructor
    · rintro ⟨⟨hall, hsame⟩, -⟩
      refine ⟨hall, fun existing hexisting => ⟨hsame existing hexisting, ?_⟩⟩
      rw [hexisting] at htake
      rw [hall]
      exact (takeOntoCursor_some.mp htake).2.1
    · rintro ⟨hall, hjoins⟩
      refine ⟨⟨hall, fun existing hexisting => (hjoins existing hexisting).1⟩, fun _ => ?_, hkept⟩
      exact congrArg (remaining stack) hall.symm
  | unsmelted hfree hnone hkept =>
    dsimp only
    constructor
    · rintro ⟨hgained, -⟩
      rw [hkept.1] at hgained
      exact absurd hgained (not_gained_same hlow)
    · rintro ⟨hall, hjoins⟩
      have hrefused := hnone stack hstack
      cases hcursor : before.cursor with
      | none =>
        rw [hcursor] at hrefused
        cases hrefused
      | some existing =>
        obtain ⟨hsame, hroom⟩ := hjoins existing hcursor
        rw [hcursor, ← (takenBy_button hlow).mpr hall] at hrefused
        have htake := takeOntoCursor_some.mpr
          ⟨congrArg ItemIdentity.key hsame, hroom, rfl⟩
        rw [hrefused] at htake
        cases htake
  | crafted htake hother hfree hchanged =>
    simp only [iff_false]
    rintro ⟨-, -, hkept⟩
    exact hchanged (hkept _ hother hfree)
  | uncrafted hnone hkept | closed hkept =>
    simp only [iff_false]
    rintro ⟨hgained, -⟩
    rw [hkept.1] at hgained
    exact not_gained_same hlow hgained

theorem place_iff
    (h : Clicked derived slot (Transfer.place amount slot).button before after applied (place slot))
    (hasks : (Transfer.place amount slot).Asks before) (hcursor : FitsU8 before.cursor)
    (hslots : ∀ slot, Counted (before.slots slot)) :
    (Transfer.place amount slot).Done derived before after ↔
      (Transfer.place amount slot).Exact place before := by
  obtain ⟨stack, hstack, hlow, hhigh⟩ := hasks
  unfold Transfer.Done Transfer.Exact
  simp only [hstack, Option.some.injEq, exists_eq_left', forall_eq']
  generalize place slot = here at h ⊢
  have hstays : after.cursor = some stack → after.cursor ≠ remaining stack amount := by
    intro hsame
    rw [hsame]
    exact ne_remaining hlow hhigh
  cases h with
  | free hfree hclick hkept =>
    rw [hstack] at hclick hcursor
    rw [← place_free hcursor (hslots slot) hlow hhigh hclick]
    constructor
    · exact fun ⟨hgained, hleft, _⟩ => ⟨hgained, hleft⟩
    · exact fun ⟨hgained, hleft⟩ => ⟨hgained, hleft, hkept⟩
  | @smelted output held hfree houtput htake hheld hleft hkept =>
    simp only [iff_false]
    rintro ⟨-, hcursor', -⟩
    rw [hstack] at htake
    obtain ⟨-, -, rfl⟩ := takeOntoCursor_some.mp htake
    rw [hheld, remaining_eq_some] at hcursor'
    omega
  | unsmelted hfree hnone hkept =>
    simp only [iff_false]
    rintro ⟨-, hcursor', -⟩
    exact hstays (hkept.1.trans hstack) hcursor'
  | crafted htake hother hfree hchanged =>
    simp only [iff_false]
    rintro ⟨-, -, hkept⟩
    exact hchanged (hkept _ hother hfree)
  | uncrafted hnone hkept | closed hkept =>
    simp only [iff_false]
    rintro ⟨-, hcursor', -⟩
    exact hstays (hkept.1.trans hstack) hcursor'

theorem kept_swap_iff (h : Kept derived before after) :
    (Transfer.swap slot).Done derived before after ↔ before.cursor = before.slots slot := by
  unfold Transfer.Done
  rw [h.1]
  constructor
  · exact fun hdone => hdone.1
  · intro hsame
    exact ⟨hsame, fun hfree => (h.2 slot hfree).trans hsame.symm,
      fun other _ hother => h.2 other hother⟩

theorem swap_iff
    (h : Clicked derived slot (Transfer.swap slot).button before after applied (place slot))
    (hcursor : FitsU8 before.cursor) (hslots : ∀ slot, Counted (before.slots slot)) :
    (Transfer.swap slot).Done derived before after ↔ (Transfer.swap slot).Exact place before := by
  unfold Transfer.Exact
  dsimp only
  generalize place slot = here at h ⊢
  cases h with
  | free hfree hclick hkept =>
    rw [← swap_free hcursor (hslots slot) hclick]
    constructor
    · exact fun ⟨hleft, hput, _⟩ => ⟨hleft, hput hfree⟩
    · exact fun ⟨hleft, hput⟩ => ⟨hleft, fun _ => hput, hkept⟩
  | @smelted output held hfree houtput htake hheld hleft hkept =>
    have hempty : remaining output output.count = none := if_pos rfl
    simp only [Transfer.Done]
    rw [hheld, hleft, houtput, show takenBy (Transfer.swap slot).button output = output.count from rfl,
      hempty]
    change takeOntoCursor before.cursor output output.count = some held at htake
    cases hheldBefore : before.cursor with
    | none =>
      rw [hheldBefore] at htake
      cases htake
      simp only [true_and, implies_true, reduceCtorEq, false_implies, iff_true]
      exact hkept
    | some existing =>
      rw [hheldBefore] at htake
      obtain ⟨-, hroom, rfl⟩ := takeOntoCursor_some.mp htake
      constructor
      · rintro ⟨-, hput, -⟩
        cases hput hfree
      · intro hexact
        obtain ⟨hsame, hmuch⟩ := hexact existing rfl
        cases hsame
        omega
  | unsmelted hfree hnone hkept =>
    rw [kept_swap_iff hkept]
    constructor
    · intro hsame held hheld
      have hslot := hsame.symm.trans hheld
      refine ⟨hslot, ?_⟩
      by_contra hroom
      have htake := takeOntoCursor_some.mpr ⟨rfl, Nat.le_of_not_lt hroom, rfl⟩
      have hrefused := hnone held hslot
      rw [hheld] at hrefused
      rw [show takenBy (Transfer.swap slot).button held = held.count from rfl, htake] at hrefused
      cases hrefused
    · intro hexact
      cases hheld : before.cursor with
      | some held => exact (hexact held hheld).1.symm
      | none =>
        cases hslot : before.slots slot with
        | none => rfl
        | some output =>
          have hrefused := hnone output hslot
          rw [hheld] at hrefused
          cases hrefused
  | crafted htake hother hfree hchanged =>
    rename_i output held other
    constructor
    · rintro ⟨-, -, hkept⟩
      exact absurd (hkept _ hother hfree) hchanged
    · rintro ⟨-, hnone⟩
      have hrefused := hnone output rfl
      rw [show takeOntoCursor before.cursor output output.count = some held from htake] at hrefused
      cases hrefused
  | uncrafted hnone hkept =>
    rw [kept_swap_iff hkept]
    exact ⟨fun hsame => ⟨hsame, hnone⟩, fun hsame => hsame.1⟩
  | closed hkept => exact kept_swap_iff hkept

theorem refused_iff {here : Place} (h : Clicked derived slot button before after applied here)
    (hcursor : FitsU8 before.cursor) (hslots : ∀ slot, Counted (before.slots slot)) :
    applied = false ↔ RefusedAt here button before slot := by
  cases h with
  | free hfree hclick hkept => exact refused_free hcursor (hslots slot) hclick
  | @smelted output held hfree houtput htake hheld hleft hkept =>
    simp only [Bool.true_eq_false, false_iff]
    intro hnone
    rw [hnone output houtput] at htake
    cases htake
  | unsmelted hfree hnone hkept => exact iff_of_true rfl hnone
  | @crafted output held other htake hother hfree hchanged =>
    simp only [Bool.true_eq_false, false_iff]
    intro hnone
    rw [hnone output rfl] at htake
    cases htake
  | uncrafted hnone hkept => exact iff_of_true rfl hnone
  | closed hkept => exact iff_of_true rfl trivial

end Click

/-! ### Requests and their clicks -/

section Requests

variable {held : PlayerSessionState × PlayerInventory} {windowId : Nat} {kind : ContainerKindId}
  {slot : InventorySlot} {button : InventoryClickButton}

theorem drop_iff {derived : InventorySlot → Prop} {before after : View}
    {place : InventorySlot → Place} (hasks : (Transfer.drop amount).Asks before)
    (hcursor : after.cursor = (applyOutsideClick before.cursor (Transfer.drop amount).button).2)
    (hslots : after.slots = before.slots) : (Transfer.drop amount).Done derived before after ↔
      (Transfer.drop amount).Exact place before := by
  obtain ⟨stack, hstack, hlow, hhigh⟩ := hasks
  simp only [Transfer.Done, Transfer.Exact, Transfer.button, hstack, Option.some.injEq,
    exists_eq_left', forall_eq', hslots, implies_true, and_true] at hcursor ⊢
  rw [hcursor]
  by_cases hone : amount ≤ 1
  · rw [if_pos hone]
    change decrementCursor (some stack) = _ ↔ _
    rw [decrementCursor_eq stack (by omega), remaining_inj (by omega) hhigh]
    omega
  · rw [if_neg hone]
    change none = remaining stack amount ↔ _
    rw [remaining_eq_none]
    omega

/-- A click moves what its request asks for, or is refused, in just these states of the window. -/
theorem request_done_iff (playerId : PlayerId) (transaction : InventoryTransactionContext)
    {action : ItemStackRequestAction} {transfer : Transfer}
    (rest : List ItemStackRequestAction) (htransfer : transferOf action = some transfer)
    (hopen : activeWindowContainer canonicalContent held.1 transaction.windowId = some kind)
    (hfull : Full held.2) (hcursor : FitsU8 held.1.cursor)
    (hslots : ∀ slot, Counted ((viewOf transaction.windowId held).slots slot))
    (hasks : transfer.Asks (viewOf transaction.windowId held)) :
    decodeRequestActions playerId transaction (action :: rest) =
        some (.inventoryClick playerId transaction transfer.target transfer.button
          .authoritative) ∧
      ∃ applied window held',
        clickHeld canonicalContent transaction.windowId transfer.target transfer.button kind held =
          .ok ((applied, window), held') ∧
        (transfer.Done (derived kind) (viewOf transaction.windowId held)
            (viewOf transaction.windowId held') ↔
          transfer.Exact (placeOf kind (contentsOf transaction.windowId held).localSlots)
            (viewOf transaction.windowId held)) ∧
        ((applied = true → transfer.Done (derived kind) (viewOf transaction.windowId held)
            (viewOf transaction.windowId held')) ↔
          transfer.Refused (placeOf kind (contentsOf transaction.windowId held).localSlots)
              (viewOf transaction.windowId held) ∨
            transfer.Exact (placeOf kind (contentsOf transaction.windowId held).localSlots)
              (viewOf transaction.windowId held)) := by
  refine ⟨by rw [decodeRequestActions_eq, htransfer]; rfl, ?_⟩
  have hlogic : ∀ {applied : Bool} {done refused exact : Prop}, (applied = false ↔ refused) →
      (done ↔ exact) → (done ↔ exact) ∧ ((applied = true → done) ↔ refused ∨ exact) := by
    intro applied done refused exact hrefused hdone
    refine ⟨hdone, ?_⟩
    rw [← hrefused, hdone]
    cases applied <;> simp
  cases transfer with
  | take amount slot =>
    obtain ⟨applied, window, held', hclick, hclicked⟩ := clickHeld_clicked slot
      (Transfer.take amount slot).button hopen hfull hcursor hslots
    exact ⟨applied, window, held', hclick, hlogic (refused_iff hclicked hcursor hslots)
      (take_iff hclicked hasks hcursor hslots)⟩
  | place amount slot =>
    obtain ⟨applied, window, held', hclick, hclicked⟩ := clickHeld_clicked slot
      (Transfer.place amount slot).button hopen hfull hcursor hslots
    exact ⟨applied, window, held', hclick, hlogic (refused_iff hclicked hcursor hslots)
      (place_iff hclicked hasks hcursor hslots)⟩
  | swap slot =>
    obtain ⟨applied, window, held', hclick, hclicked⟩ := clickHeld_clicked slot
      (Transfer.swap slot).button hopen hfull hcursor hslots
    exact ⟨applied, window, held', hclick, hlogic (refused_iff hclicked hcursor hslots)
      (swap_iff hclicked hcursor hslots)⟩
  | drop amount =>
    obtain ⟨window, hclick⟩ := clickHeld_outside canonicalContent kind
    refine ⟨true, window, _, hclick, hlogic ?_ (drop_iff hasks ?_ ?_)⟩
    · simp [Transfer.Refused]
    · rfl
    · rfl

/-- A player with a full stack of stone in the first slot of the main inventory. -/
def stoneHeld : PlayerSessionState × PlayerInventory :=
  (⟨⟨1⟩, none, none, 1, ⟨⟨0, 0⟩, 2, ∅⟩, none, none, 0⟩,
    ⟨List.replicate 9 none ++ some (ItemStack.new Catalog.STONE 64 0) :: List.replicate 35 none,
      none⟩)

/-- The request to take some of the stone onto the cursor. -/
def takeStone (amount : Int) : ItemStackRequestAction :=
  .take amount ⟨some .inventoryContainer, 0⟩ ⟨some .cursorContainer, 0⟩

theorem stoneHeld_counted (slot : InventorySlot) : Counted ((viewOf 0 stoneHeld).slots slot) := by
  have hslots : ∀ stack ∈ stoneHeld.2.slots, Counted stack := by
    intro stack hmem held hheld
    subst hheld
    rw [show stoneHeld.2.slots = List.replicate 9 none ++
      some (ItemStack.new Catalog.STONE 64 0) :: List.replicate 35 none from rfl] at hmem
    rw [List.mem_append, List.mem_cons] at hmem
    rcases hmem with hmem | hmem | hmem
    · cases List.eq_of_mem_replicate hmem
    · cases hmem
      decide
    · cases List.eq_of_mem_replicate hmem
  rw [viewOf_player]
  dsimp only
  by_cases hvalid : slot.Valid
  · rcases hvalid with rfl | hindexed
    · intro held hheld
      cases hheld
    · obtain ⟨index, hindex⟩ := Option.isSome_iff_exists.mp hindexed
      rw [PlayerInventory.getSlot_of_index hindex, PlayerInventory.get]
      cases hat : stoneHeld.2.slots[index]? with
      | none =>
        intro held hheld
        cases hheld
      | some stack => exact hslots stack (List.mem_of_getElem? hat)
  · rw [getSlot_invalid hvalid]
    intro held hheld
    cases hheld

theorem stoneHeld_cursor : FitsU8 stoneHeld.1.cursor := fun _ hheld => by cases hheld

theorem request_done_iff_all :
    ∃ applied window held',
      clickHeld canonicalContent 0 (.slot (.mainInventory 0)) .left Ids.PLAYER stoneHeld =
        .ok ((applied, window), held') ∧
      (Transfer.take 64 (.mainInventory 0)).Done (derived Ids.PLAYER) (viewOf 0 stoneHeld)
        (viewOf 0 held') := by
  have hasks : (Transfer.take 64 (.mainInventory 0)).Asks (viewOf 0 stoneHeld) :=
    ⟨ItemStack.new Catalog.STONE 64 0, rfl, by decide, by decide⟩
  have htransfer : transferOf (takeStone 64) = some (.take 64 (.mainInventory 0)) := rfl
  have hopen : activeWindowContainer canonicalContent stoneHeld.1 0 = some Ids.PLAYER := rfl
  obtain ⟨-, applied, window, held', hclick, hdone, -⟩ :=
    request_done_iff ⟨7⟩ ⟨0, 0⟩ [] htransfer hopen rfl stoneHeld_cursor stoneHeld_counted hasks
  refine ⟨applied, window, held', hclick, hdone.mpr ?_⟩
  have hplace : placeOf Ids.PLAYER (contentsOf 0 stoneHeld).localSlots (.mainInventory 0) = .free :=
    rfl
  unfold Transfer.Exact
  dsimp only
  rw [hplace]
  refine ⟨rfl, fun stack hstack => .inl ?_⟩
  cases hstack
  rfl

/-- Five of the stones are asked for, and all are moved. -/
theorem take_five_moves_all :
    ∃ window held',
      transferOf (takeStone 5) = some (.take 5 (.mainInventory 0)) ∧
      (Transfer.take 5 (.mainInventory 0)).Asks (viewOf 0 stoneHeld) ∧
      (∀ slot, Counted ((viewOf 0 stoneHeld).slots slot)) ∧
      decodeRequestActions ⟨7⟩ ⟨0, 0⟩ [takeStone 5] =
        some (.inventoryClick ⟨7⟩ ⟨0, 0⟩ (.slot (.mainInventory 0)) .left .authoritative) ∧
      clickHeld canonicalContent 0 (.slot (.mainInventory 0)) .left Ids.PLAYER stoneHeld =
        .ok ((true, window), held') ∧
      (viewOf 0 held').cursor = some (ItemStack.new Catalog.STONE 64 0) ∧
      ¬ (Transfer.take 5 (.mainInventory 0)).Done (derived Ids.PLAYER) (viewOf 0 stoneHeld)
        (viewOf 0 held') := by
  refine ⟨_, _, rfl, ⟨ItemStack.new Catalog.STONE 64 0, rfl, by decide, by decide⟩,
    stoneHeld_counted, rfl, rfl, rfl, ?_⟩
  rintro ⟨stack, hstack, ⟨-, hgained⟩, -⟩
  cases hstack
  have hcount := congrArg (Option.map ItemStack.count) hgained
  revert hcount
  decide

end Requests

end RevyCraft.StackRequests
