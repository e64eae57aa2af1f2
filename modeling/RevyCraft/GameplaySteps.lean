/-
  RevyCraft/GameplaySteps.lean
  ============================
  **What gameplay does to a transaction.**

  Between the two ends of a login a transaction is only read and pushed to.
  A gameplay command of the core itself pushes no item and tells a player
  nothing but slots of the inventory and blocks as the overlay has them
  (`BuiltinOp`).
-/
import RevyCraft.TransactionView

namespace RevyCraft

open Std

variable {C : ContentBehavior}

/-! ### Runs of reads and pushes -/

variable (C) in
/-- Reads, and operations that `Q` allows where they are pushed. -/
inductive Gameplay (Q : GameplayTransaction → CoreOp → Prop) :
    GameplayTransaction → GameplayTransaction → Prop where
  | refl (tx : GameplayTransaction) : Gameplay Q tx tx
  | read {tx tx' : GameplayTransaction} (readSet : GameplayReadSet)
      (hrest : Gameplay Q { tx with readSet := readSet } tx') : Gameplay Q tx tx'
  | push {tx tx' : GameplayTransaction} {op : CoreOp} {applied : AppliedCoreOp}
      {s : OverlayState} (hop : op.Pushable) (hq : Q tx op)
      (hrun : (reduceCoreOp C op tx.nowMs tx.materializedPreviewPlayers).run (overlayState C)
        tx.state = .ok (applied, s))
      (hrest : Gameplay Q (tx.journaled s op) tx') : Gameplay Q tx tx'

variable {tx tx' : GameplayTransaction} {position : BlockPos} {playerId : PlayerId}

variable {R : CoreOp → Prop} {hand : InteractionHand}

namespace Gameplay

variable {Q : GameplayTransaction → CoreOp → Prop}

theorem trans {a b c : GameplayTransaction} (hab : Gameplay C Q a b) (hbc : Gameplay C Q b c) :
    Gameplay C Q a c := by
  induction hab with
  | refl tx => exact hbc
  | read readSet _ ih => exact .read readSet (ih hbc)
  | push hop hq hrun _ ih => exact .push hop hq hrun (ih hbc)

theorem pushed {op : CoreOp} (h : Tx.pushPreviewedOp C op tx = .ok ((), tx')) (hop : op.Pushable)
    (hq : Q tx op) : Gameplay C Q tx tx' := by
  obtain ⟨applied, s, hrun, rfl⟩ := Tx.pushPreviewedOp_ok h
  exact .push hop hq hrun (.refl _)

theorem keeps {P : GameplayTransaction → Prop}
    (hread : ∀ tx readSet, P tx → P { tx with readSet := readSet })
    (hpush : ∀ tx op applied s, op.Pushable → Q tx op →
      (reduceCoreOp C op tx.nowMs tx.materializedPreviewPlayers).run (overlayState C) tx.state =
        .ok (applied, s) → P tx → P (tx.journaled s op)) (h : Gameplay C Q tx tx') (htx : P tx) :
    P tx' := by
  induction h with
  | refl tx => exact htx
  | @read tx tx' readSet _ ih => exact ih (hread tx readSet htx)
  | @push tx tx' op applied s hop hq hrun _ ih => exact ih (hpush tx op applied s hop hq hrun htx)

theorem previews {base : ServerCore} {nowMs : Nat} (h : Gameplay C Q tx tx')
    (hp : Previews C base nowMs tx) : Previews C base nowMs tx' := by
  refine h.keeps ?_ ?_ hp
  · intro tx readSet hp
    exact hp.step (.read readSet)
  · intro tx op applied s hop _ hrun hp
    exact hp.step (.push hop hrun)

theorem journal_where (hR : ∀ tx op, Q tx op → R op) (h : Gameplay C Q tx tx') :
    ∃ ops, tx'.journal = tx.journal ++ ops ∧ ∀ op ∈ ops, op.Pushable ∧ R op := by
  induction h with
  | refl tx => exact ⟨[], by simp, by simp⟩
  | read readSet _ ih => exact ih
  | @push tx tx' op applied s hop hq hrun _ ih =>
    obtain ⟨ops, hops, hpushable⟩ := ih
    refine ⟨op :: ops, ?_, ?_⟩
    · rw [hops, GameplayTransaction.journaled, List.append_assoc, List.singleton_append]
    · intro op' hop'
      rcases List.mem_cons.mp hop' with rfl | hop'
      · exact ⟨hop, hR tx op' hq⟩
      · exact hpushable op' hop'

theorem journal (h : Gameplay C Q tx tx') :
    ∃ ops, tx'.journal = tx.journal ++ ops ∧ ∀ op ∈ ops, op.Pushable := by
  obtain ⟨ops, hops, hpushable⟩ := h.journal_where (R := fun _ => True) fun _ _ _ => trivial
  exact ⟨ops, hops, fun op hop => (hpushable op hop).1⟩

end Gameplay

/-! ### Effects -/

theorem applyEffectToTransaction_gameplay {effect : GameplayEffect}
    (heffect : R (coreOpFromEffect effect))
    (h : applyEffectToTransaction C effect tx = .ok ((), tx')) :
    Gameplay C (fun _ => R) tx tx' := by
  cases effect
  case spawnDroppedItem => exact .pushed h rfl heffect
  all_goals exact .pushed h trivial heffect

theorem applyEffects_gameplay {effects : List GameplayEffect}
    (heffects : ∀ effect ∈ effects, R (coreOpFromEffect effect))
    (h : applyEffects C effects tx = .ok ((), tx')) : Gameplay C (fun _ => R) tx tx' := by
  induction effects generalizing tx with
  | nil =>
    cases h
    exact .refl _
  | cons effect rest ih =>
    obtain ⟨_, tx₁, heffect, hrest⟩ := Tx.bind_ok h
    refine (applyEffectToTransaction_gameplay (heffects effect List.mem_cons_self) heffect).trans ?_
    exact ih (fun effect' heffect' => heffects effect' (List.mem_cons_of_mem _ heffect')) hrest

theorem coreOpFromEffect_pushable (effect : GameplayEffect) :
    (coreOpFromEffect effect).Pushable := by
  cases effect
  case spawnDroppedItem => rfl
  all_goals trivial

/-! ### Blocks of the overlay -/

theorem overlay_step_blocks {o : StateOp} (ho : ¬ o.Touches .blocks) (s : OverlayState)
    (pos : ChunkPos) : (overlayState C o s).2.chunkAt C pos = s.chunkAt C pos := by
  cases o
  case ensureChunk other =>
    simp only [overlayState, OverlayState.ensureChunk]
    split
    · rfl
    · rename_i habsent
      unfold OverlayState.chunkAt
      simp only [BTreeMap.getElem?_insert_eq]
      split
      · rename_i heq
        subst heq
        have hnone : s.overlay.chunks[other]? = none := by
          simpa using habsent
        simp [hnone]
      · rfl
  case setBlockState => exact absurd rfl ho
  case playerSessionInventoryMut playerId edit =>
    simp only [overlayState, OverlayState.editSessionInventory]
    repeat' split
    all_goals rfl
  case removePlayerActiveMining entityId =>
    simp only [overlayState]
    split <;> rfl
  case takeDroppedItem entityId =>
    simp only [overlayState]
    split <;> rfl
  case removeOnlinePlayer playerId =>
    simp only [overlayState, OverlayState.removeOnlinePlayer]
    split <;> rfl
  all_goals rfl

theorem overlay_run_blocks {α : Type} {parts : List Part} {p : CoreM α} (hp : Within parts p)
    (hblocks : .blocks ∉ parts) {s s' : OverlayState} {a : α}
    (hrun : p.run (overlayState C) s = .ok (a, s')) (pos : BlockPos) :
    s'.blockAt C pos = s.blockAt C pos := by
  induction p generalizing s with
  | pure b =>
    cases hrun
    rfl
  | op o next ih =>
    rw [ih _ (hp.2 _) hrun]
    unfold OverlayState.blockAt
    rw [overlay_step_blocks (fun htouch => hblocks (hp.1 _ htouch))]
  | panic message => cases hrun

/-! ### Commands of the core -/

variable (C) in
/-- What a gameplay command of the core pushes. -/
def BuiltinOp (tx : GameplayTransaction) : CoreOp → Prop
  | .spawnDroppedItem _ _ _ => False
  | .emitEvent event => (∃ playerId, event.target = .player playerId) ∧
    match event.event with
    | .blockChanged position block => block = tx.state.blockAt C position
    | .selectedHotbarSlotChanged _ => True
    | .inventorySlotChanged _ _ _ _ => True
    | _ => False
  | _ => True

namespace Builtin

open Tx (bind_ok worldMeta_ok playerSnapshot_ok blockState_ok blockEntity_ok canEditBlock_ok)

theorem blockState_shown {block : Option BlockState}
    (h : Tx.blockState C position tx = .ok (block, tx')) :
    ∃ readSet, tx' = { tx with readSet := readSet } ∧ block = tx.state.blockAt C position := by
  obtain ⟨readSet, s, rfl, hrun⟩ := blockState_ok h
  cases hrun
  exact ⟨readSet, rfl, rfl⟩

theorem setHeldSlot_gameplay {slot : Int} (h : setHeldSlot C playerId slot tx = .ok ((), tx')) :
    Gameplay C (BuiltinOp C) tx tx' := by
  unfold setHeldSlot at h
  obtain ⟨player, tx₁, hplayer, h₁⟩ := bind_ok h
  obtain ⟨readSet, -, rfl, -⟩ := playerSnapshot_ok hplayer
  refine .read readSet ?_
  cases player with
  | none =>
    cases h₁
    exact .refl _
  | some player =>
    dsimp only at h₁
    split at h₁
    · obtain ⟨_, tx₂, hclear, h₂⟩ := bind_ok h₁
      exact (Gameplay.pushed hclear trivial trivial).trans (.pushed h₂ trivial trivial)
    · exact .pushed h₁ trivial ⟨⟨playerId, rfl⟩, trivial⟩

theorem creativeInventorySet_gameplay {slot : InventorySlot} {stack : Option ItemStack}
    (h : creativeInventorySet C playerId slot stack tx = .ok ((), tx')) :
    Gameplay C (BuiltinOp C) tx tx' := by
  unfold creativeInventorySet at h
  obtain ⟨player, tx₁, hplayer, h₁⟩ := bind_ok h
  obtain ⟨readSet, -, rfl, -⟩ := playerSnapshot_ok hplayer
  refine .read readSet ?_
  cases player with
  | none =>
    cases h₁
    exact .refl _
  | some player =>
    obtain ⟨current, tx₂, hmeta, h₂⟩ := bind_ok h₁
    obtain ⟨readSet₂, rfl⟩ := worldMeta_ok hmeta
    refine .read readSet₂ ?_
    split at h₂
    · obtain ⟨_, tx₃, hslot, h₃⟩ := bind_ok h₂
      exact (Gameplay.pushed hslot trivial ⟨⟨playerId, rfl⟩, trivial⟩).trans
        (.pushed h₃ trivial ⟨⟨playerId, rfl⟩, trivial⟩)
    · exact .pushed h₂ trivial trivial

theorem clearThenTell_gameplay {block : Option BlockState} {tx₁ tx₂ : GameplayTransaction}
    (hclear : Tx.clearMining C playerId tx = .ok ((), tx₁))
    (htell : Tx.emitEvent C (.player playerId) (.blockChanged position block) tx₁ = .ok ((), tx₂))
    (hshown : block = tx.state.blockAt C position) : Gameplay C (BuiltinOp C) tx tx₂ := by
  refine (Gameplay.pushed hclear trivial trivial).trans (.pushed htell trivial ?_)
  obtain ⟨applied, s, hrun, rfl⟩ := Tx.pushPreviewedOp_ok hclear
  refine ⟨⟨playerId, rfl⟩, ?_⟩
  change block = s.blockAt C position
  rw [overlay_run_blocks (reduceCoreOp_within _ _ _) (by simp [CoreOp.parts]) hrun]
  exact hshown

variable (C) in
/-- The rest of `dig_block`, once it is known whether the block is a container with contents. -/
def digUnlessRefused (playerId : PlayerId) (position : BlockPos) (player : PlayerSnapshot)
    (current : Option BlockState) (protectedContainer : Bool) : TxM Unit := do
  if !(← Tx.canEditBlock C playerId position) || current.all C.isAirBlock ||
      current.any C.isUnbreakableBlock || protectedContainer then
    Tx.clearMining C playerId
    Tx.emitEvent C (.player playerId) (.blockChanged position current)
    return
  if (← Tx.worldMeta C).gameMode = 1 then
    Tx.clearMining C playerId
    Tx.setBlock C position none
    return
  match current with
  | none => throw "non-empty breakable block after validation"
  | some current =>
    let tool := C.toolSpecForItem
      (player.inventory.selectedHotbarStack player.selectedHotbarSlot)
    Tx.beginMining C playerId position ((C.survivalMiningDurationMs current tool).getD 50)

theorem digUnlessRefused_gameplay {current : Option BlockState} (player : PlayerSnapshot)
    (protectedContainer : Bool)
    (h : digUnlessRefused C playerId position player current protectedContainer tx =
      .ok ((), tx')) (hshown : current = tx.state.blockAt C position) :
    Gameplay C (BuiltinOp C) tx tx' := by
  unfold digUnlessRefused at h
  obtain ⟨allowed, tx₁, hallowed, h₁⟩ := bind_ok h
  obtain ⟨readSet, -, rfl, -⟩ := canEditBlock_ok hallowed
  refine .read readSet ?_
  split at h₁
  · obtain ⟨_, tx₂, hclear, h₂⟩ := bind_ok h₁
    obtain ⟨_, tx₃, htell, h₃⟩ := bind_ok h₂
    cases h₃
    exact clearThenTell_gameplay hclear htell hshown
  obtain ⟨worldMeta, tx₂, hmeta, h₂⟩ := bind_ok h₁
  obtain ⟨readSet₂, rfl⟩ := worldMeta_ok hmeta
  refine .read readSet₂ ?_
  split at h₂
  · obtain ⟨_, tx₃, hclear, h₃⟩ := bind_ok h₂
    obtain ⟨_, tx₄, hset, h₄⟩ := bind_ok h₃
    cases h₄
    exact (Gameplay.pushed hclear trivial trivial).trans (.pushed hset trivial trivial)
  · cases current with
    | none => cases h₂
    | some block => exact .pushed h₂ trivial trivial

theorem digBlock_gameplay {status : Nat}
    (h : digBlock C playerId position status tx = .ok ((), tx')) :
    Gameplay C (BuiltinOp C) tx tx' := by
  unfold digBlock at h
  dsimp only at h
  split at h
  · cases h
    exact .refl _
  obtain ⟨player, tx₁, hplayer, h₁⟩ := bind_ok h
  obtain ⟨readSet, -, rfl, -⟩ := playerSnapshot_ok hplayer
  refine .read readSet ?_
  cases player with
  | none =>
    cases h₁
    exact .refl _
  | some player =>
    dsimp only at h₁
    split at h₁
    · obtain ⟨_, tx₂, hclear, h₂⟩ := bind_ok h₁
      cases h₂
      exact .pushed hclear trivial trivial
    obtain ⟨current, tx₂, hcurrent, h₂⟩ := bind_ok h₁
    obtain ⟨readSet₂, rfl, hshown⟩ := blockState_shown hcurrent
    refine .read readSet₂ ?_
    split at h₂
    · obtain ⟨entity, tx₃, hentity, h₃⟩ := bind_ok h₂
      obtain ⟨readSet₃, -, rfl, -⟩ := blockEntity_ok hentity
      exact .read readSet₃ (digUnlessRefused_gameplay player
        (entity.any BlockEntityState.hasInventoryContents) h₃ hshown)
    · exact digUnlessRefused_gameplay player false h₂ hshown

theorem tellAll_gameplay {events : List TargetedEvent}
    (h : applyEffects C (events.map .emitEvent) tx = .ok ((), tx'))
    (hevents : ∀ event ∈ events, (∃ playerId, event.target = .player playerId) ∧
      ((∃ slot, event.event = .selectedHotbarSlotChanged slot) ∨
        ∃ windowId kind slot stack, event.event = .inventorySlotChanged windowId kind slot stack)) :
    Gameplay C (BuiltinOp C) tx tx' := by
  induction events generalizing tx with
  | nil =>
    cases h
    exact .refl _
  | cons event rest ih =>
    obtain ⟨_, tx₁, htell, hrest⟩ := bind_ok h
    refine Gameplay.trans (.pushed htell trivial ?_)
      (ih hrest fun event' hevent' => hevents event' (List.mem_cons_of_mem _ hevent'))
    obtain ⟨htarget, ⟨slot, hslot⟩ | ⟨windowId, kind, slot, stack, hslot⟩⟩ :=
      hevents event List.mem_cons_self
    · exact ⟨htarget, by simp [hslot]⟩
    · exact ⟨htarget, by simp [hslot]⟩

theorem placeRejection_gameplay {placePos : BlockPos} {player : PlayerSnapshot}
    (h : placeRejection C playerId hand placePos player tx = .ok ((), tx')) :
    Gameplay C (BuiltinOp C) tx tx' := by
  unfold placeRejection at h
  obtain ⟨block, tx₁, hblock, h₁⟩ := bind_ok h
  obtain ⟨readSet, rfl, hshown⟩ := blockState_shown hblock
  refine .read readSet ?_
  obtain ⟨_, tx₂, htell, h₂⟩ := bind_ok h₁
  refine (Gameplay.pushed htell trivial ⟨⟨playerId, rfl⟩, hshown⟩).trans (tellAll_gameplay h₂ ?_)
  intro event hevent
  simp only [placeInventoryCorrection, List.mem_cons, List.not_mem_nil, or_false] at hevent
  rcases hevent with rfl | rfl
  · exact ⟨⟨playerId, rfl⟩, .inr ⟨_, _, _, _, rfl⟩⟩
  · exact ⟨⟨playerId, rfl⟩, .inl ⟨_, rfl⟩⟩

theorem placeBlock_gameplay {face : Option BlockFace} {heldItem : Option ItemStack}
    (h : placeBlock C playerId hand position face heldItem tx = .ok ((), tx')) :
    Gameplay C (BuiltinOp C) tx tx' := by
  unfold placeBlock at h
  dsimp only at h
  cases face with
  | none =>
    cases h
    exact .refl _
  | some face =>
  obtain ⟨player, tx₁, hplayer, h₁⟩ := bind_ok h
  obtain ⟨readSet, -, rfl, -⟩ := playerSnapshot_ok hplayer
  refine .read readSet ?_
  cases player with
  | none =>
    cases h₁
    exact .refl _
  | some player =>
  dsimp only at h₁
  cases hselected : player.inventory.selectedStack player.selectedHotbarSlot hand with
  | none =>
    rw [hselected] at h₁
    exact placeRejection_gameplay h₁
  | some selectedStack =>
  rw [hselected] at h₁
  dsimp only at h₁
  split at h₁
  · obtain ⟨_, tx₂, hreject, h₂⟩ := bind_ok h₁
    cases h₂
    exact placeRejection_gameplay hreject
  cases hblock : C.placeableBlockStateFromItemKey selectedStack.key with
  | none =>
    rw [hblock] at h₁
    exact placeRejection_gameplay h₁
  | some block =>
  rw [hblock] at h₁
  obtain ⟨target, tx₂, htarget, h₂⟩ := bind_ok h₁
  obtain ⟨readSet₂, rfl, -⟩ := blockState_shown htarget
  refine .read readSet₂ ?_
  obtain ⟨occupant, tx₃, hoccupant, h₃⟩ := bind_ok h₂
  obtain ⟨readSet₃, rfl, -⟩ := blockState_shown hoccupant
  refine .read readSet₃ ?_
  obtain ⟨allowed, tx₄, hallowed, h₄⟩ := bind_ok h₃
  obtain ⟨readSet₄, -, rfl, -⟩ := canEditBlock_ok hallowed
  refine .read readSet₄ ?_
  split at h₄
  · obtain ⟨_, tx₅, hreject, h₅⟩ := bind_ok h₄
    cases h₅
    exact placeRejection_gameplay hreject
  obtain ⟨_, tx₅, hclear, h₅⟩ := bind_ok h₄
  refine (Gameplay.pushed hclear trivial trivial).trans ?_
  obtain ⟨_, tx₆, hset, h₆⟩ := bind_ok h₅
  refine (Gameplay.pushed hset trivial trivial).trans ?_
  obtain ⟨worldMeta, tx₇, hmeta, h₇⟩ := bind_ok h₆
  obtain ⟨readSet₇, rfl⟩ := worldMeta_ok hmeta
  refine .read readSet₇ ?_
  split at h₇
  · exact .pushed h₇ trivial trivial
  · cases h₇
    exact .refl _

theorem useBlock_gameplay {face : Option BlockFace} {heldItem : Option ItemStack}
    (h : useBlock C playerId hand position face heldItem tx = .ok ((), tx')) :
    Gameplay C (BuiltinOp C) tx tx' := by
  unfold useBlock at h
  obtain ⟨target, tx₁, htarget, h₁⟩ := bind_ok h
  obtain ⟨readSet, rfl, hshown⟩ := blockState_shown htarget
  refine .read readSet ?_
  split at h₁
  · obtain ⟨allowed, tx₂, hallowed, h₂⟩ := bind_ok h₁
    obtain ⟨readSet₂, -, rfl, -⟩ := canEditBlock_ok hallowed
    refine .read readSet₂ ?_
    split at h₂
    · exact .pushed h₂ trivial ⟨⟨playerId, rfl⟩, hshown⟩
    · obtain ⟨_, tx₃, hclear, h₃⟩ := bind_ok h₂
      exact (Gameplay.pushed hclear trivial trivial).trans (.pushed h₃ trivial trivial)
  · exact placeBlock_gameplay h₁

end Builtin

theorem applyBuiltinGameplayCommand_gameplay {command : GameplayCommand}
    (h : applyBuiltinGameplayCommand C command tx = .ok ((), tx')) :
    Gameplay C (BuiltinOp C) tx tx' := by
  cases command with
  | moveIntent => exact .pushed h trivial trivial
  | setHeldSlot => exact Builtin.setHeldSlot_gameplay h
  | creativeInventorySet => exact Builtin.creativeInventorySet_gameplay h
  | digBlock => exact Builtin.digBlock_gameplay h
  | placeBlock => exact Builtin.placeBlock_gameplay h
  | useBlock => exact Builtin.useBlock_gameplay h

end RevyCraft
