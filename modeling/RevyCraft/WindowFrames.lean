/-
  RevyCraft/WindowFrames.lean
  ===========================
  **Invariants about blocks, containers and windows.**

  What a program that touches none of them keeps, and the operations that are
  made of such programs and of a few steps on windows: an invariant that the
  steps keep is kept by the operation (`AboutWindows`).
-/
import RevyCraft.EntityInvariant
import RevyCraft.WindowRuns

namespace RevyCraft

open Std
open RevyCraft.Core
open Prog (run Keeps triple_bind triple_pure)
open ServerCore

variable {C : ContentBehavior}

/-! ### Frames of windows -/

variable {s t : ServerCore} {playerId : PlayerId}

theorem Within.inventoryOf_isSome {α : Type} {parts : List Part} {p : CoreM α} (hp : Within parts p)
    (honline : .online ∉ parts) {a : α} (hrun : run (baseState C) p s = .ok (a, t))
    (playerId : PlayerId) : (t.inventoryOf playerId).isSome = (s.inventoryOf playerId).isSome := by
  have hkeeps : Keeps (baseState C) (fun t : ServerCore =>
      t.entities.playersByPlayerId = s.entities.playersByPlayerId ∧
        ∀ entityId : EntityId, (t.entities.playerInventory[entityId]?).isSome =
          (s.entities.playerInventory[entityId]?).isSome) p := by
    refine Prog.Uses.keeps (fun o ho u hu => ?_) hp
    have hnotOnline : ¬ o.Touches .online := fun htouch => honline (ho .online htouch)
    have hindex : Part.online.Same C u (baseState C o u).2 := baseState_same hnotOnline u
    refine ⟨hindex.1.trans hu.1, fun entityId => ?_⟩
    rw [← hu.2 entityId]
    by_cases htouch : o.Touches .inventory
    · rcases touches_inventory htouch with h | ⟨_, _, rfl⟩ | ⟨_, _, rfl⟩
      · exact absurd h hnotOnline
      · exact isSome_edited _ _ _ _
      · exact editSessionInventory_keys _ _ _ _
    · rw [show (baseState C o u).2.entities.playerInventory = _ from baseState_same htouch u]
  obtain ⟨hindex, hinventories⟩ := hkeeps s ⟨rfl, fun _ => rfl⟩ a t hrun
  unfold ServerCore.inventoryOf
  rw [hindex]
  cases s.entities.playersByPlayerId[playerId]? with
  | none => rfl
  | some entityId => exact hinventories entityId

theorem windowOf_of_same (h : Part.activeContainer.Same C s t) (playerId : PlayerId) :
    t.windowOf playerId = s.windowOf playerId := by
  have hmap := h playerId
  unfold ServerCore.windowOf
  cases hs : s.sessions.playerSessions[playerId]? with
  | none =>
    rw [hs, Option.map_none, Option.map_eq_none_iff] at hmap
    rw [hmap]
  | some session =>
    rw [hs, Option.map_some] at hmap
    obtain ⟨session', ht, hwindow⟩ := Option.map_eq_some_iff.mp hmap
    rw [ht]
    exact hwindow

theorem containerKindAt_of_same (h : Part.blocks.Same C s t) (position : BlockPos) :
    t.containerKindAt C position = s.containerKindAt C position := by
  unfold ServerCore.containerKindAt ServerCore.blockAt
  rw [h]

/-! ### Leaving -/

theorem removeOnlinePlayer_world (s : ServerCore) (playerId : PlayerId) :
    (s.removeOnlinePlayer playerId).2.world = s.world := by
  unfold ServerCore.removeOnlinePlayer
  split <;> rfl

theorem removeOnlinePlayer_fst (s : ServerCore) (playerId : PlayerId) :
    (s.removeOnlinePlayer playerId).1 = s.sessions.playerSessions[playerId]? := by
  unfold ServerCore.removeOnlinePlayer
  cases s.sessions.playerSessions[playerId]? with
  | none => rfl
  | some session => rfl

/-- A core after the window of a player that left was put away. -/
def ServerCore.withoutWindow (C : ContentBehavior) (window : Option OpenInventoryWindow)
    (playerId : PlayerId) (core : ServerCore) : ServerCore :=
  match window with
  | none => core
  | some window => withoutWindowViewer window playerId (core.writtenBack C window)

/-- A disconnect is refused, or the player is taken away, its window put away and the player
    saved. -/
theorem disconnectPlayerState_ok {answer : Option DisconnectDelta}
    (h : run (baseState C) (disconnectPlayerState C playerId) s = .ok (answer, t)) :
    ∃ cleared s₁, run (baseState C) (stateClearActiveMining playerId) s = .ok (cleared, s₁) ∧
      ((s₁.playerSnapshot playerId = none ∨ s₁.sessions.playerSessions[playerId]? = none) ∧
          t = s₁ ∨
        ∃ session saved left, (s₁.playerSnapshot playerId).isSome ∧
          s₁.sessions.playerSessions[playerId]? = some session ∧
          left = (s₁.removeOnlinePlayer playerId).2.withoutWindow C session.activeContainer
            playerId ∧
          t = { left with
            world.savedPlayers := left.world.savedPlayers.insert playerId saved }) := by
  unfold disconnectPlayerState at h
  obtain ⟨cleared, s₁, hclear, h₁⟩ := Prog.run_bind_ok h
  refine ⟨cleared, s₁, hclear, ?_⟩
  obtain ⟨persisted, s₂, hpersisted, h₂⟩ := Prog.run_bind_ok h₁
  obtain ⟨rfl, hanswer⟩ := persistedOnline_ok hpersisted
  rcases hanswer with ⟨hmissing, rfl⟩ | ⟨snapshot, session, saved, hsnapshot, hsession, rfl, -⟩
  · cases h₂
    exact .inl ⟨hmissing, rfl⟩
  · refine .inr ⟨session, saved, _, by rw [hsnapshot]; rfl, hsession, rfl, ?_⟩
    dsimp only at h₂
    obtain ⟨removed, s₃, hremove, h₃⟩ := Prog.run_bind_ok h₂
    have hremoved : (removed, s₃) = s₂.removeOnlinePlayer playerId := by
      cases hremove
      rfl
    have hfirst : removed = some session := by
      rw [← hsession, ← removeOnlinePlayer_fst, ← hremoved]
    subst hfirst
    rw [← hremoved]
    dsimp only at h₃ ⊢
    cases hwindow : session.activeContainer with
    | none =>
      rw [hwindow] at h₃
      cases h₃
      rfl
    | some window =>
      rw [hwindow] at h₃
      dsimp only at h₃
      rw [run_bind_of (writebackWorldContainerState_run _ window),
        run_bind_of (unregisterWorldContainerViewerState_run _ window playerId)] at h₃
      cases h₃
      rfl

/-! ### Operations made of steps on windows -/

/-- The parts of a core that blocks, containers and windows are kept in. -/
def containerParts : List Part :=
  [.blocks, .blockEntities, .containerViewers, .activeContainer, .online]

variable (C) in
/-- The invariant is kept by whatever touches none of these parts. -/
def AboutWindows (I : ServerCore → Prop) : Prop :=
  ∀ {α : Type} {parts : List Part} {p : CoreM α}, Within parts p →
    (∀ part ∈ containerParts, part ∉ parts) → Keeps (baseState C) I p

section AboutWindows

variable {I : ServerCore → Prop} (hI : AboutWindows C I)

include hI

theorem AboutWindows.reads {α : Type} {p : CoreM α} (hp : Within [] p) : Keeps (baseState C) I p :=
  hI hp fun _ _ => List.not_mem_nil

theorem AboutWindows.closeContainerState
    (hclose : ∀ includePlayerContents, Keeps (baseState C) I
      (closePlayerActiveContainerState C playerId includePlayerContents)) (windowId : Nat)
    (includePlayerContents : Bool) :
    Keeps (baseState C) I (closeContainerState C playerId windowId includePlayerContents) := by
  have hactive := hI.reads (activeWindowId_within playerId)
  unfold RevyCraft.closeContainerState
  split
  · exact hclose includePlayerContents
  · split
    · unfold closeInventoryWindowState
      split
      · exact triple_pure fun _ hs => hs
      · refine triple_bind hactive fun active => ?_
        cases active with
        | none => exact triple_pure fun _ hs => hs
        | some active =>
          dsimp only
          split
          · exact triple_pure fun _ hs => hs
          · exact hclose true
    · refine triple_bind hactive fun active => ?_
      split
      · exact hclose false
      · exact triple_pure fun _ hs => hs

theorem AboutWindows.stateCompleteSurvivalMining {place : BlockPos}
    (hset : Keeps (baseState C) I (stateSetBlock C place none)) (playerId : PlayerId)
    (nowMs : Nat) :
    Keeps (baseState C) I (stateCompleteSurvivalMining C playerId place nowMs) := by
  unfold RevyCraft.stateCompleteSurvivalMining
  refine triple_bind (hI.reads (composePlayerSnapshot_within playerId)) fun player => ?_
  cases player with
  | none => exact triple_pure fun _ hs => hs
  | some player =>
    refine triple_bind (hI.reads (playerActiveMining_within playerId)) fun mining => ?_
    cases mining with
    | none => exact triple_pure fun _ hs => hs
    | some mining =>
      dsimp only
      split
      · exact triple_pure fun _ hs => hs
      · refine triple_bind (hI.reads (Within.reads fun _ h => h)) fun current => ?_
        refine triple_bind (hI (miningRefused_within player place current) (by decide))
          fun refused => ?_
        split
        · refine triple_bind (hI (stateClearActiveMining_within playerId) (by decide))
            fun cleared => ?_
          exact triple_pure fun _ hs => hs
        · refine triple_bind hset fun block => ?_
          cases current with
          | none => exact triple_pure fun _ hs => hs
          | some current =>
            dsimp only
            split
            · exact triple_bind (triple_pure fun _ hs => hs) fun _ => triple_pure fun _ hs => hs
            · refine triple_bind (hI (stateSpawnDroppedItem_within ..) (by decide))
                fun spawned => ?_
              exact triple_pure fun _ hs => hs

theorem AboutWindows.applyInventoryClickState {transaction : InventoryTransactionContext}
    {target : InventoryClickTarget} {button : InventoryClickButton}
    (hclick : ∀ container, Keeps (baseState C) I (playerSessionInventoryMut playerId
      (clickHeld C transaction.windowId target button container)))
    (hsync : ∀ position, Keeps (baseState C) I
      (syncWorldContainerViewersState C position playerId))
    (validation : InventoryClickValidation) : Keeps (baseState C) I
      (applyInventoryClickState C playerId transaction target button validation) := by
  unfold RevyCraft.applyInventoryClickState
  dsimp only
  refine triple_bind (hI.reads (Within.reads fun _ h => h)) fun session => ?_
  cases session with
  | none => exact triple_pure fun _ hs => hs
  | some session =>
    refine triple_bind (hI.reads (composePlayerSnapshot_within playerId)) fun snapshot => ?_
    cases snapshot with
    | none => exact triple_pure fun _ hs => hs
    | some snapshot =>
      refine triple_bind (hI.reads (playerInventory_within playerId)) fun inventory => ?_
      cases inventory with
      | none => exact triple_pure fun _ hs => hs
      | some inventory =>
        dsimp only
        split
        · exact triple_pure fun _ hs => hs
        · next container _ =>
          refine triple_bind (hclick container) fun clicked => ?_
          cases clicked with
          | none => exact triple_pure fun _ hs => hs
          | some clicked =>
            dsimp only
            refine triple_bind (hI.reads (playerSelectedHotbar_within playerId))
              fun selected => ?_
            split
            · split
              · exact triple_bind (hsync _) fun sync => triple_pure fun _ hs => hs
              · exact triple_bind (triple_pure fun _ hs => hs) fun _ => triple_pure fun _ hs => hs
            · exact triple_bind (triple_pure fun _ hs => hs) fun _ => triple_pure fun _ hs => hs

end AboutWindows

end RevyCraft
