/-
  RevyCraft/EntityInvariant.lean
  ==============================
  **The entities of a core are consistent.**

  The index of the players, their identities and components, the sessions and
  the kinds of the entities agree with each other (`Consistent`).  Most
  operations keep the shape of these maps (`SameShape`): they change values,
  not who has them.  The others come, go, drop and pick up, and each has its
  own step lemma.  As long as the entity counter has not reached its end, no
  id is given out twice.
-/
import RevyCraft.GameplaySteps
import RevyCraft.Replay

namespace RevyCraft

open Std
open RevyCraft.Core

variable {C : ContentBehavior}

/-! ### Consistency -/

/-- What the maps of a core say about each other. -/
structure Consistent (s : ServerCore) : Prop where
  /-- An indexed player has a player entity with every component, and a session. -/
  indexed : ∀ (playerId : PlayerId) (entityId : EntityId),
    s.entities.playersByPlayerId[playerId]? = some entityId →
      s.entities.entityKinds[entityId]? = some .player ∧
      (∃ identity, s.entities.playerIdentity[entityId]? = some identity ∧
        identity.playerId = playerId) ∧
      s.entities.playerTransform[entityId]?.isSome ∧
      s.entities.playerVitals[entityId]?.isSome ∧
      s.entities.playerInventory[entityId]?.isSome ∧
      s.entities.playerSelectedHotbar[entityId]?.isSome ∧
      (s.sessions.playerSessions[playerId]?).map (·.entityId) = some entityId
  identified : ∀ (entityId : EntityId) (identity : PlayerIdentity),
    s.entities.playerIdentity[entityId]? = some identity →
      s.entities.playersByPlayerId[identity.playerId]? = some entityId
  connected : ∀ (playerId : PlayerId) (session : PlayerSessionState),
    s.sessions.playerSessions[playerId]? = some session →
      s.entities.playersByPlayerId[playerId]? = some session.entityId
  dropped : ∀ entityId : EntityId, s.entities.droppedItems[entityId]?.isSome →
    s.entities.entityKinds[entityId]? = some .droppedItem
  /-- Only indexed players have components. -/
  owned : ∀ entityId : EntityId, (s.entities.playerTransform[entityId]?.isSome ∨
      s.entities.playerVitals[entityId]?.isSome ∨ s.entities.playerInventory[entityId]?.isSome ∨
      s.entities.playerSelectedHotbar[entityId]?.isSome ∨
      s.entities.playerActiveMining[entityId]?.isSome) →
    ∃ playerId : PlayerId, s.entities.playersByPlayerId[playerId]? = some entityId
  /-- Every id in use was given out. -/
  allocated : ∀ entityId : EntityId, s.entities.entityKinds[entityId]?.isSome →
    entityId.value < s.entities.nextEntityId

/-! ### Changes of values only -/

/-- The maps of two cores have the same keys, and the same entities behind them. -/
structure SameShape (s t : ServerCore) : Prop where
  index : t.entities.playersByPlayerId = s.entities.playersByPlayerId
  identity : t.entities.playerIdentity = s.entities.playerIdentity
  kinds : t.entities.entityKinds = s.entities.entityKinds
  vitals : t.entities.playerVitals = s.entities.playerVitals
  dropped : t.entities.droppedItems = s.entities.droppedItems
  counter : t.entities.nextEntityId = s.entities.nextEntityId
  sessions : SameSessions (·.entityId) s t
  transform : ∀ entityId : EntityId,
    t.entities.playerTransform[entityId]?.isSome = s.entities.playerTransform[entityId]?.isSome
  inventory : ∀ entityId : EntityId,
    t.entities.playerInventory[entityId]?.isSome = s.entities.playerInventory[entityId]?.isSome
  hotbar : ∀ entityId : EntityId, t.entities.playerSelectedHotbar[entityId]?.isSome =
    s.entities.playerSelectedHotbar[entityId]?.isSome
  mining : ∀ entityId : EntityId, t.entities.playerActiveMining[entityId]?.isSome →
    s.entities.playerActiveMining[entityId]?.isSome

theorem SameShape.refl (s : ServerCore) : SameShape s s :=
  ⟨rfl, rfl, rfl, rfl, rfl, rfl, fun _ => rfl, fun _ => rfl, fun _ => rfl, fun _ => rfl,
    fun _ h => h⟩

variable {s t core core' : ServerCore} {o : StateOp} {nowMs : Nat} {playerId : PlayerId}
  {op : CoreOp} {ops : List CoreOp} {events : List TargetedEvent} {connectionId : ConnectionId}
  {username : String}

theorem SameShape.trans {u : ServerCore} (hst : SameShape s t) (htu : SameShape t u) :
    SameShape s u where
  index := htu.index.trans hst.index
  identity := htu.identity.trans hst.identity
  kinds := htu.kinds.trans hst.kinds
  vitals := htu.vitals.trans hst.vitals
  dropped := htu.dropped.trans hst.dropped
  counter := htu.counter.trans hst.counter
  sessions := hst.sessions.trans htu.sessions
  transform := fun entityId => (htu.transform entityId).trans (hst.transform entityId)
  inventory := fun entityId => (htu.inventory entityId).trans (hst.inventory entityId)
  hotbar := fun entityId => (htu.hotbar entityId).trans (hst.hotbar entityId)
  mining := fun entityId h => hst.mining entityId (htu.mining entityId h)

theorem Consistent.sameShape (h : Consistent s) (hst : SameShape s t) : Consistent t where
  indexed := by
    intro playerId entityId hindex
    rw [hst.index] at hindex
    rw [hst.kinds, hst.identity, hst.transform, hst.vitals, hst.inventory, hst.hotbar,
      hst.sessions playerId]
    exact h.indexed playerId entityId hindex
  identified := by
    intro entityId identity hidentity
    rw [hst.identity] at hidentity
    rw [hst.index]
    exact h.identified entityId identity hidentity
  connected := by
    intro playerId session hsession
    have hmap := hst.sessions playerId
    rw [hsession] at hmap
    obtain ⟨before, hbefore, hentity⟩ := Option.map_eq_some_iff.mp hmap.symm
    rw [hst.index, h.connected playerId before hbefore]
    exact congrArg some hentity
  dropped := by
    intro entityId hdropped
    rw [hst.dropped] at hdropped
    rw [hst.kinds]
    exact h.dropped entityId hdropped
  owned := by
    intro entityId howned
    rw [hst.transform, hst.vitals, hst.inventory, hst.hotbar] at howned
    rw [hst.index]
    apply h.owned entityId
    rcases howned with h | h | h | h | h
    · exact .inl h
    · exact .inr (.inl h)
    · exact .inr (.inr (.inl h))
    · exact .inr (.inr (.inr (.inl h)))
    · exact .inr (.inr (.inr (.inr (hst.mining entityId h))))
  allocated := by
    intro entityId hkind
    rw [hst.kinds] at hkind
    rw [hst.counter]
    exact h.allocated entityId hkind

/-- The parts whose change is more than a change of values. -/
def shapeParts : List Part := [.online, .entityKinds, .droppedItems, .entityCounter, .miningStart]

theorem touches_transform (h : o.Touches .transform) :
    o.Touches .online ∨ ∃ entityId edit, o = .playerTransformMut entityId edit := by
  cases o
  case playerTransformMut entityId edit => exact .inr ⟨entityId, edit, rfl⟩
  case spawnOnlinePlayer => exact .inl List.mem_cons_self
  case removeOnlinePlayer => exact .inl List.mem_cons_self
  case playerSessionInventoryMut =>
    rcases h with h | ⟨_, h⟩
    · cases h
    · exact h.elim
  case setPlayerActiveMining => rcases h with h | h <;> cases h
  all_goals cases h

theorem touches_inventory (h : o.Touches .inventory) :
    o.Touches .online ∨ (∃ entityId edit, o = .playerInventoryMut entityId edit) ∨
      ∃ playerId edit, o = .playerSessionInventoryMut playerId edit := by
  cases o
  case playerInventoryMut entityId edit => exact .inr (.inl ⟨entityId, edit, rfl⟩)
  case playerSessionInventoryMut playerId edit => exact .inr (.inr ⟨playerId, edit, rfl⟩)
  case spawnOnlinePlayer => exact .inl List.mem_cons_self
  case removeOnlinePlayer => exact .inl List.mem_cons_self
  case setPlayerActiveMining => rcases h with h | h <;> cases h
  all_goals cases h

theorem touches_selectedHotbar (h : o.Touches .selectedHotbar) :
    o.Touches .online ∨ ∃ entityId edit, o = .playerSelectedHotbarMut entityId edit := by
  cases o
  case playerSelectedHotbarMut entityId edit => exact .inr ⟨entityId, edit, rfl⟩
  case spawnOnlinePlayer => exact .inl List.mem_cons_self
  case removeOnlinePlayer => exact .inl List.mem_cons_self
  case playerSessionInventoryMut =>
    rcases h with h | ⟨_, h⟩
    · cases h
    · exact h.elim
  case setPlayerActiveMining => rcases h with h | h <;> cases h
  all_goals cases h

theorem editSessionInventory_keys (s : ServerCore) (playerId : PlayerId)
    (edit : PlayerSessionState × PlayerInventory → PlayerSessionState × PlayerInventory)
    (entityId : EntityId) :
    ((s.editSessionInventory playerId edit).2.entities.playerInventory[entityId]?).isSome =
      (s.entities.playerInventory[entityId]?).isSome := by
  unfold ServerCore.editSessionInventory
  split
  · rfl
  · rename_i owner howner
    split
    · rename_i session inventory hsession hinventory
      simp only [BTreeMap.getElem?_insert_eq]
      split
      · rename_i heq
        rw [← heq, hinventory]
        rfl
      · rfl
    · rfl

theorem baseState_sameShape (ho : ∀ part ∈ shapeParts, ¬ o.Touches part) (s : ServerCore) :
    SameShape s (baseState C o s).2 := by
  have hsame : ∀ part ∈ shapeParts, part.Same C s (baseState C o s).2 :=
    fun part hpart => baseState_same (ho part hpart) s
  have honline := hsame .online (by decide)
  have hnotOnline := ho .online (by decide)
  refine ⟨honline.1, honline.2.1, hsame .entityKinds (by decide), honline.2.2.1,
    hsame .droppedItems (by decide), hsame .entityCounter (by decide), honline.2.2.2, ?_, ?_, ?_,
    hsame .miningStart (by decide)⟩
  · intro entityId
    by_cases htouch : o.Touches .transform
    · rcases touches_transform htouch with h | ⟨_, _, rfl⟩
      · exact absurd h hnotOnline
      · exact isSome_edited _ _ _ _
    · rw [show (baseState C o s).2.entities.playerTransform = _ from baseState_same htouch s]
  · intro entityId
    by_cases htouch : o.Touches .inventory
    · rcases touches_inventory htouch with h | ⟨_, _, rfl⟩ | ⟨_, _, rfl⟩
      · exact absurd h hnotOnline
      · exact isSome_edited _ _ _ _
      · exact editSessionInventory_keys _ _ _ _
    · rw [show (baseState C o s).2.entities.playerInventory = _ from baseState_same htouch s]
  · intro entityId
    by_cases htouch : o.Touches .selectedHotbar
    · rcases touches_selectedHotbar htouch with h | ⟨_, _, rfl⟩
      · exact absurd h hnotOnline
      · exact isSome_edited _ _ _ _
    · rw [show (baseState C o s).2.entities.playerSelectedHotbar = _ from
        baseState_same htouch s]

theorem Within.sameShape {α : Type} {parts : List Part} {p : CoreM α} (hp : Within parts p)
    (hparts : ∀ part ∈ shapeParts, part ∉ parts) {s' : ServerCore} {a : α}
    (hrun : p.run (baseState C) s = .ok (a, s')) : SameShape s s' := by
  have hkeeps : Prog.Keeps (baseState C) (SameShape s) p := by
    refine Prog.Uses.keeps (fun o ho t hst => hst.trans ?_) hp
    exact baseState_sameShape (fun part hpart htouch => hparts part hpart (ho part htouch)) t
  exact hkeeps s (.refl s) a s' hrun

/-! ### The counter -/

theorem le_saturatingSuccI32 (n : Int) : n ≤ saturatingSuccI32 n := by
  unfold saturatingSuccI32
  split <;> omega

theorem baseState_counter (o : StateOp) (s : ServerCore) :
    s.entities.nextEntityId ≤ (baseState C o s).2.entities.nextEntityId := by
  by_cases htouch : o.Touches .entityCounter
  · cases o
    case allocateEntityId => exact le_saturatingSuccI32 _
    case spawnOnlinePlayer player center nowMs expectedEntityId =>
      have hsucc := le_saturatingSuccI32 s.entities.nextEntityId
      cases expectedEntityId with
      | none =>
        simp only [baseState, ServerCore.spawnOnlinePlayer, ServerCore.claimEntityId]
        split <;> omega
      | some entityId =>
        have hid := le_saturatingSuccI32 entityId.value
        simp only [baseState, ServerCore.spawnOnlinePlayer, ServerCore.claimEntityId]
        split <;> omega
    case setPlayerActiveMining => rcases htouch with h | h <;> cases h
    case playerSessionInventoryMut =>
      rcases htouch with h | ⟨_, h⟩
      · cases h
      · exact h.elim
    case removeOnlinePlayer =>
      change Part.entityCounter ∈ _ at htouch
      simp at htouch
    all_goals cases htouch
  · exact Int.le_of_eq (baseState_same htouch s : _ = _).symm

theorem counter_le {α : Type} {p : CoreM α} {a : α} (hrun : p.run (baseState C) s = .ok (a, t)) :
    s.entities.nextEntityId ≤ t.entities.nextEntityId := by
  induction p generalizing s with
  | pure b =>
    cases hrun
    exact Int.le_refl _
  | op o next ih => exact Int.le_trans (baseState_counter o s) (ih _ hrun)
  | panic message => cases hrun

/-! ### Dropped items -/

theorem Consistent.next_free (h : Consistent s) :
    s.entities.entityKinds[(⟨s.entities.nextEntityId⟩ : EntityId)]? = none := by
  by_contra hused
  have := h.allocated ⟨s.entities.nextEntityId⟩ (Option.isSome_iff_ne_none.mpr hused)
  simp at this

theorem Consistent.setKind (h : Consistent s) (entityId : EntityId)
    (hkind : s.entities.entityKinds[entityId]? ≠ some .player) {next : Int}
    (hnext : s.entities.nextEntityId ≤ next) (hid : entityId.value < next) : Consistent { s with
      entities.nextEntityId := next
      entities.entityKinds := s.entities.entityKinds.insert entityId .droppedItem } where
  indexed := by
    intro playerId owner hindex
    obtain ⟨hplayer, hrest⟩ := h.indexed playerId owner hindex
    refine ⟨?_, hrest⟩
    simp only [BTreeMap.getElem?_insert_eq]
    rw [if_neg]
    · exact hplayer
    · rintro rfl
      exact hkind hplayer
  identified := h.identified
  connected := h.connected
  dropped := by
    intro other hother
    simp only [BTreeMap.getElem?_insert_eq]
    split
    · rfl
    · exact h.dropped other hother
  owned := h.owned
  allocated := by
    intro other hother
    simp only [BTreeMap.getElem?_insert_eq] at hother
    change other.value < next
    split at hother
    · rename_i heq
      rw [← heq]
      exact hid
    · exact Int.lt_of_lt_of_le (h.allocated other hother) hnext

theorem Consistent.setItem (h : Consistent s) (entityId : EntityId)
    (hkind : s.entities.entityKinds[entityId]? = some .droppedItem) (item : DroppedItemState) :
    Consistent { s with
      entities.droppedItems := s.entities.droppedItems.insert entityId item } where
  indexed := h.indexed
  identified := h.identified
  connected := h.connected
  dropped := by
    intro other hother
    simp only [BTreeMap.getElem?_insert_eq] at hother ⊢
    split at hother
    · rename_i heq
      rw [← heq]
      exact hkind
    · exact h.dropped other hother
  owned := h.owned
  allocated := h.allocated

theorem Consistent.takeItem (h : Consistent s) (entityId : EntityId) :
    Consistent { s with entities.droppedItems := s.entities.droppedItems.erase entityId } where
  indexed := h.indexed
  identified := h.identified
  connected := h.connected
  dropped := by
    intro other hother
    simp only [BTreeMap.getElem?_erase_eq] at hother ⊢
    split at hother
    · cases hother
    · exact h.dropped other hother
  owned := h.owned
  allocated := h.allocated

theorem Consistent.forgetItem (h : Consistent s) (entityId : EntityId)
    (hkind : s.entities.entityKinds[entityId]? = some .droppedItem)
    (hitem : s.entities.droppedItems[entityId]? = none) :
    Consistent { s with entities.entityKinds := s.entities.entityKinds.erase entityId } where
  indexed := by
    intro playerId owner hindex
    obtain ⟨hplayer, hrest⟩ := h.indexed playerId owner hindex
    refine ⟨?_, hrest⟩
    simp only [BTreeMap.getElem?_erase_eq]
    rw [if_neg]
    · exact hplayer
    · rintro rfl
      rw [hkind] at hplayer
      cases hplayer
  identified := h.identified
  connected := h.connected
  dropped := by
    intro other hother
    simp only [BTreeMap.getElem?_erase_eq]
    rw [if_neg]
    · exact h.dropped other hother
    · rintro rfl
      rw [hitem] at hother
      cases hother
  owned := h.owned
  allocated := by
    intro other hother
    simp only [BTreeMap.getElem?_erase_eq] at hother
    split at hother
    · cases hother
    · exact h.allocated other hother

theorem succ_of_not_exhausted {n : Int} (h : saturatingSuccI32 n < i32Max) :
    saturatingSuccI32 n = n + 1 := by
  unfold saturatingSuccI32 at h ⊢
  split <;> simp_all

theorem stateSpawnDroppedItem_consistent {position : Vec3} {item : ItemStack}
    {delta : Option DroppedItemSpawnDelta}
    (hrun : (stateSpawnDroppedItem position item nowMs).run (baseState C) s = .ok (delta, t))
    (h : Consistent s) (hids : t.entities.nextEntityId < i32Max) : Consistent t := by
  have hfree := h.next_free
  cases hrun
  have hsucc := succ_of_not_exhausted hids
  have hkind := h.setKind ⟨s.entities.nextEntityId⟩ (by rw [hfree]; simp)
    (le_saturatingSuccI32 _) (by simp only [hsucc]; omega)
  refine hkind.setItem ⟨s.entities.nextEntityId⟩ ?_ _
  simp

theorem tickDroppedItemState_consistent {entityId : EntityId} {delta : DroppedItemTickDelta}
    (hrun : (tickDroppedItemState C entityId nowMs).run (baseState C) s = .ok (delta, t))
    (h : Consistent s) : Consistent t := by
  unfold tickDroppedItemState at hrun
  obtain ⟨taken, s₁, htake, h₁⟩ := Prog.run_bind_ok hrun
  cases htake
  cases htaken : (baseState C (.takeDroppedItem entityId) s).1 with
  | none =>
    rw [htaken] at h₁
    cases h₁
    exact h.takeItem entityId
  | some item =>
    rw [htaken] at h₁
    obtain ⟨moved, s₂, hmove, h₂⟩ := Prog.run_bind_ok h₁
    have hkind := h.dropped entityId (by
      rw [show s.entities.droppedItems[entityId]? = some item from htaken]
      rfl)
    have hshape := Within.sameShape (advanceDroppedItemEntity_within item nowMs)
      (fun _ _ => List.not_mem_nil) hmove
    have htook := (h.takeItem entityId).sameShape hshape
    have hkind₂ : s₂.entities.entityKinds[entityId]? = some .droppedItem := by
      rw [hshape.kinds]
      exact hkind
    have hitem₂ : s₂.entities.droppedItems[entityId]? = none := by
      rw [hshape.dropped]
      simp [baseState]
    split at h₂
    · cases h₂
      exact htook.forgetItem entityId hkind₂ hitem₂
    · split at h₂
      · cases h₂
        exact htook.setItem entityId hkind₂ _
      · obtain ⟨picker, s₃, hpicker, h₃⟩ := Prog.run_bind_ok h₂
        have hshape₃ := Within.sameShape (nearestPickupPlayerIn_within _)
          (fun _ _ => List.not_mem_nil) hpicker
        split at h₃
        · cases h₃
          exact (htook.sameShape hshape₃).setItem entityId (by rw [hshape₃.kinds]; exact hkind₂) _
        · rename_i playerId
          obtain ⟨⟨inventoryDelta, leftover⟩, s₄, hmerge, h₄⟩ := Prog.run_bind_ok h₃
          have hshape₄ := hshape₃.trans
            ((mergeStackIntoOnlinePlayerInventoryState_within playerId _).sameShape
              (by decide) hmerge)
          have hmerged := htook.sameShape hshape₄
          have hkind₄ : s₄.entities.entityKinds[entityId]? = some .droppedItem := by
            rw [hshape₄.kinds]
            exact hkind₂
          cases leftover with
          | some leftover =>
            cases h₄
            exact hmerged.setItem entityId hkind₄ _
          | none =>
            cases h₄
            exact hmerged.forgetItem entityId hkind₄ (by rw [hshape₄.dropped]; exact hitem₂)

/-! ### Mining -/

theorem Consistent.setMining (h : Consistent s) {entityId : EntityId}
    (hindex : s.entities.playersByPlayerId[playerId]? = some entityId)
    (mining : ActiveMiningState) : Consistent { s with
      entities.playerActiveMining := s.entities.playerActiveMining.insert entityId mining } where
  indexed := h.indexed
  identified := h.identified
  connected := h.connected
  dropped := h.dropped
  owned := by
    intro other hother
    by_cases heq : entityId = other
    · rw [← heq]
      exact ⟨playerId, hindex⟩
    · simp only [BTreeMap.getElem?_insert_eq, if_neg heq] at hother
      exact h.owned other hother
  allocated := h.allocated

theorem stateBeginMining_consistent {position : BlockPos} {durationMs : Nat}
    {delta : Option BeginMiningDelta}
    (hrun : (stateBeginMining C playerId position durationMs nowMs).run (baseState C) s =
      .ok (delta, t)) (h : Consistent s) : Consistent t := by
  unfold stateBeginMining at hrun
  obtain ⟨found, s₁, hid, h₁⟩ := Prog.run_bind_ok hrun
  cases hid
  cases hindex : s.entities.playersByPlayerId[playerId]? with
  | none =>
    simp only [baseState, hindex] at h₁
    cases h₁
    exact h
  | some entityId =>
    simp only [baseState, hindex] at h₁
    obtain ⟨mining, s₂, hmining, h₂⟩ := Prog.run_bind_ok h₁
    cases hmining
    split at h₂
    · cases h₂
      exact h
    · obtain ⟨cleared, s₃, hclear, h₃⟩ := Prog.run_bind_ok h₂
      have hshape₃ := (stateClearActiveMining_within playerId).sameShape (by decide) hclear
      obtain ⟨inventory, s₄, hinventory, h₄⟩ := Prog.run_bind_ok h₃
      have hshape₄ := hshape₃.trans (Within.sameShape (playerInventory_within playerId)
        (fun _ _ => List.not_mem_nil) hinventory)
      cases inventory with
      | none =>
        cases h₄
        exact h.sameShape hshape₄
      | some inventory =>
        obtain ⟨slot, s₅, hslot, h₅⟩ := Prog.run_bind_ok h₄
        have hshape₅ := hshape₄.trans (Within.sameShape (playerSelectedHotbar_within playerId)
          (fun _ _ => List.not_mem_nil) hslot)
        cases slot with
        | none =>
          cases h₅
          exact h.sameShape hshape₅
        | some slot =>
          cases h₅
          exact (h.sameShape hshape₅).setMining (by rw [hshape₅.index]; exact hindex) _

theorem stateCompleteSurvivalMining_consistent {position : BlockPos}
    {delta : Option CompleteMiningDelta}
    (hrun : (stateCompleteSurvivalMining C playerId position nowMs).run (baseState C) s =
      .ok (delta, t)) (h : Consistent s) (hids : t.entities.nextEntityId < i32Max) :
    Consistent t := by
  unfold stateCompleteSurvivalMining at hrun
  obtain ⟨player, s₁, hplayer, h₁⟩ := Prog.run_bind_ok hrun
  have hshape₁ := Within.sameShape (composePlayerSnapshot_within playerId)
    (fun _ _ => List.not_mem_nil) hplayer
  cases player with
  | none =>
    cases h₁
    exact h.sameShape hshape₁
  | some player =>
    obtain ⟨mining, s₂, hmining, h₂⟩ := Prog.run_bind_ok h₁
    have hshape₂ := hshape₁.trans (Within.sameShape (playerActiveMining_within playerId)
      (fun _ _ => List.not_mem_nil) hmining)
    cases mining with
    | none =>
      cases h₂
      exact h.sameShape hshape₂
    | some mining =>
      dsimp only at h₂
      split at h₂
      · cases h₂
        exact h.sameShape hshape₂
      · obtain ⟨current, s₃, hcurrent, h₃⟩ := Prog.run_bind_ok h₂
        cases hcurrent
        obtain ⟨refused, s₄, hrefused, h₄⟩ := Prog.run_bind_ok h₃
        have hshape₄ := hshape₂.trans
          ((miningRefused_within player position _).sameShape (by decide) hrefused)
        cases refused with
        | true =>
          obtain ⟨cleared, s₅, hclear, h₅⟩ := Prog.run_bind_ok h₄
          cases h₅
          exact h.sameShape (hshape₄.trans
            ((stateClearActiveMining_within playerId).sameShape (by decide) hclear))
        | false =>
          obtain ⟨block, s₅, hblock, h₅⟩ := Prog.run_bind_ok h₄
          have hset := h.sameShape (hshape₄.trans
            ((stateSetBlock_within position none).sameShape (by decide) hblock))
          cases hcurrent : (baseState C (.blockState position) s₂).1 with
          | none =>
            rw [hcurrent] at h₅
            cases h₅
            exact hset
          | some current =>
            rw [hcurrent] at h₅
            dsimp only at h₅
            split at h₅
            · cases h₅
              exact hset
            · obtain ⟨spawned, s₆, hspawned, h₆⟩ := Prog.run_bind_ok h₅
              cases h₆
              exact stateSpawnDroppedItem_consistent hspawned hset hids

/-! ### Players -/

theorem Consistent.spawn (h : Consistent s) {player : PlayerSnapshot}
    (hoffline : s.entities.playersByPlayerId[player.id]? = none) (center : ChunkPos) (nowMs : Nat)
    (hids : saturatingSuccI32 s.entities.nextEntityId < i32Max) :
    Consistent (s.spawnOnlinePlayer player center nowMs (some ⟨s.entities.nextEntityId⟩)).2 := by
  have hsucc := succ_of_not_exhausted hids
  have hfree := h.next_free
  have hunused : ∀ playerId : PlayerId, s.entities.playersByPlayerId[playerId]? ≠
      some ⟨s.entities.nextEntityId⟩ := by
    intro playerId hindex
    rw [(h.indexed playerId _ hindex).1] at hfree
    cases hfree
  have hcounter : (s.spawnOnlinePlayer player center nowMs
      (some ⟨s.entities.nextEntityId⟩)).2.entities.nextEntityId = s.entities.nextEntityId + 1 := by
    simp [ServerCore.spawnOnlinePlayer, ServerCore.claimEntityId, hsucc]
  constructor
  case indexed =>
    intro playerId entityId hindex
    simp only [ServerCore.spawnOnlinePlayer, ServerCore.claimEntityId,
      BTreeMap.getElem?_insert_eq] at hindex ⊢
    by_cases heq : player.id = playerId
    · rw [if_pos heq] at hindex
      cases hindex
      simp [heq, playerIdentityOf, newSession]
    · rw [if_neg heq] at hindex
      have hne : (⟨s.entities.nextEntityId⟩ : EntityId) ≠ entityId := by
        rintro rfl
        exact hunused playerId hindex
      simp only [if_neg heq, if_neg hne]
      exact h.indexed playerId entityId hindex
  case identified =>
    intro entityId identity hidentity
    simp only [ServerCore.spawnOnlinePlayer, ServerCore.claimEntityId,
      BTreeMap.getElem?_insert_eq] at hidentity ⊢
    by_cases heq : (⟨s.entities.nextEntityId⟩ : EntityId) = entityId
    · rw [if_pos heq] at hidentity
      cases hidentity
      exact (if_pos rfl).trans (congrArg some heq)
    · rw [if_neg heq] at hidentity
      have hold := h.identified entityId identity hidentity
      rw [if_neg]
      · exact hold
      · intro hid
        rw [← hid, hoffline] at hold
        cases hold
  case connected =>
    intro playerId session hsession
    simp only [ServerCore.spawnOnlinePlayer, ServerCore.claimEntityId,
      BTreeMap.getElem?_insert_eq] at hsession ⊢
    split at hsession
    · rename_i heq
      cases hsession
      rw [if_pos heq]
      rfl
    · rename_i heq
      rw [if_neg heq]
      exact h.connected playerId session hsession
  case dropped =>
    intro entityId hitem
    simp only [ServerCore.spawnOnlinePlayer, ServerCore.claimEntityId,
      BTreeMap.getElem?_insert_eq] at hitem ⊢
    have hkind := h.dropped entityId hitem
    rw [if_neg]
    · exact hkind
    · rintro rfl
      rw [hfree] at hkind
      cases hkind
  case owned =>
    intro entityId howned
    simp only [ServerCore.spawnOnlinePlayer, ServerCore.claimEntityId,
      BTreeMap.getElem?_insert_eq, BTreeMap.getElem?_erase_eq] at howned ⊢
    by_cases heq : (⟨s.entities.nextEntityId⟩ : EntityId) = entityId
    · exact ⟨player.id, by rw [if_pos rfl, heq]⟩
    · simp only [if_neg heq] at howned
      obtain ⟨playerId, hindex⟩ := h.owned entityId howned
      refine ⟨playerId, ?_⟩
      rw [if_neg]
      · exact hindex
      · rintro rfl
        rw [hoffline] at hindex
        cases hindex
  case allocated =>
    intro entityId hkind
    rw [hcounter]
    simp only [ServerCore.spawnOnlinePlayer, ServerCore.claimEntityId,
      BTreeMap.getElem?_insert_eq] at hkind
    split at hkind
    · rename_i heq
      rw [← heq]
      change s.entities.nextEntityId < _
      omega
    · have := h.allocated entityId hkind
      omega

theorem Consistent.remove (h : Consistent s) (playerId : PlayerId) :
    Consistent (s.removeOnlinePlayer playerId).2 := by
  unfold ServerCore.removeOnlinePlayer
  split
  · exact h
  rename_i session hsession
  have hindex := h.connected playerId session hsession
  obtain ⟨hkind, ⟨identity, hidentity, hself⟩, -⟩ := h.indexed playerId _ hindex
  have hother : ∀ other owner, playerId ≠ other →
      s.entities.playersByPlayerId[other]? = some owner → session.entityId ≠ owner := by
    rintro other owner hne hother rfl
    obtain ⟨-, ⟨identity', hidentity', hself'⟩, -⟩ := h.indexed other _ hother
    rw [hidentity] at hidentity'
    cases hidentity'
    exact hne (hself.symm.trans hself')
  constructor
  case indexed =>
    intro other owner howner
    simp only [BTreeMap.getElem?_erase_eq] at howner ⊢
    split at howner
    · cases howner
    · rename_i hne
      simp only [if_neg hne, if_neg (hother other owner hne howner)]
      exact h.indexed other owner howner
  case identified =>
    intro entityId identity' hidentity'
    simp only [BTreeMap.getElem?_erase_eq] at hidentity' ⊢
    split at hidentity'
    · cases hidentity'
    · rename_i hne
      have hold := h.identified entityId identity' hidentity'
      rw [if_neg]
      · exact hold
      · rintro rfl
        rw [hindex] at hold
        exact hne (Option.some.inj hold)
  case connected =>
    intro other session' hsession'
    simp only [BTreeMap.getElem?_erase_eq] at hsession' ⊢
    split at hsession'
    · cases hsession'
    · rename_i hne
      rw [if_neg hne]
      exact h.connected other session' hsession'
  case dropped =>
    intro entityId hitem
    simp only [BTreeMap.getElem?_erase_eq]
    have hitemKind := h.dropped entityId hitem
    rw [if_neg]
    · exact hitemKind
    · rintro rfl
      rw [hkind] at hitemKind
      cases hitemKind
  case owned =>
    intro entityId howned
    simp only [BTreeMap.getElem?_erase_eq] at howned ⊢
    by_cases heq : session.entityId = entityId
    · simp [heq] at howned
    · simp only [if_neg heq] at howned
      obtain ⟨owner, howner⟩ := h.owned entityId howned
      refine ⟨owner, ?_⟩
      rw [if_neg]
      · exact howner
      · rintro rfl
        rw [hindex] at howner
        exact heq (Option.some.inj howner)
  case allocated =>
    intro entityId hallocated
    simp only [BTreeMap.getElem?_erase_eq] at hallocated
    split at hallocated
    · cases hallocated
    · exact h.allocated entityId hallocated

theorem disconnectPlayerState_consistent {delta : Option DisconnectDelta}
    (hrun : (disconnectPlayerState C playerId).run (baseState C) s = .ok (delta, t))
    (h : Consistent s) : Consistent t := by
  unfold disconnectPlayerState at hrun
  obtain ⟨cleared, s₁, hclear, h₁⟩ := Prog.run_bind_ok hrun
  have hshape₁ := (stateClearActiveMining_within playerId).sameShape (by decide) hclear
  obtain ⟨persisted, s₂, hpersisted, h₂⟩ := Prog.run_bind_ok h₁
  have hshape₂ := hshape₁.trans (Within.sameShape
    (persistedOnlinePlayerSnapshotState_within playerId) (fun _ _ => List.not_mem_nil) hpersisted)
  have hbefore := h.sameShape hshape₂
  cases persisted with
  | none =>
    cases h₂
    exact hbefore
  | some persisted =>
    obtain ⟨removed, s₃, hremove, h₃⟩ := Prog.run_bind_ok h₂
    have hafter : Consistent s₃ := by
      cases hremove
      exact hbefore.remove playerId
    cases removed with
    | none =>
      cases h₃
      exact hafter
    | some session =>
      -- what is left writes the container back and saves the player
      dsimp only at h₃
      refine hafter.sameShape (Within.sameShape (show
        Within (.savedPlayers :: windowParts) _ from ?_) (by decide) h₃)
      have hsave : Within (.savedPlayers :: windowParts) (do
          setSavedPlayer playerId (some persisted)
          pure (some (⟨playerId, session.entityId, cleared⟩ : DisconnectDelta))) := by
        refine Within.bind ?_ fun _ => Within.pure _
        exact Within.writes (by decide) fun _ h => h
      split
      · refine ((writebackWorldContainerState_within _).mono (by decide)).bind fun _ => ?_
        exact ((unregisterWorldContainerViewerState_within _ _).mono (by decide)).bind
          fun _ => hsave
      · exact hsave

/-! ### Operations -/

/-- A login that an operation prepares is of an offline player and takes the next id. -/
def CoreOp.LoginFits (op : CoreOp) (s : ServerCore) : Prop :=
  match op with
  | .prepareLogin _ player entityId =>
    s.entities.playersByPlayerId[player.id]? = none ∧ entityId = ⟨s.entities.nextEntityId⟩
  | _ => True

/-- **One operation** keeps a core consistent while there are ids left. -/
theorem reduceCoreOp_consistent {players : BTreeSet PlayerId} {applied : AppliedCoreOp}
    (hrun : (reduceCoreOp C op nowMs players).run (baseState C) s = .ok (applied, t))
    (hfits : op.LoginFits s) (h : Consistent s) (hids : t.entities.nextEntityId < i32Max) :
    Consistent t := by
  have hplain : (∀ part ∈ shapeParts, part ∉ op.parts) → Consistent t := fun hparts =>
    h.sameShape ((reduceCoreOp_within op nowMs players).sameShape hparts hrun)
  cases op
  case prepareLogin playerId player entityId =>
    obtain ⟨hoffline, rfl⟩ := hfits
    by_cases hplayer : playerId ∈ players
    · rw [reduce_prepareLogin hplayer] at hrun
      obtain ⟨center, -, hspawned⟩ := except_map_eq_ok.mp hrun
      cases hspawned
      refine h.spawn hoffline center nowMs ?_
      refine Int.lt_of_le_of_lt (Int.le_of_eq ?_) hids
      simp [baseState, ServerCore.spawnOnlinePlayer, ServerCore.claimEntityId]
    · unfold reduceCoreOp at hrun
      dsimp only at hrun
      rw [if_neg (by simpa using hplayer)] at hrun
      cases hrun
      exact h
  case beginMining playerId position durationMs =>
    obtain ⟨delta, u, hmining, hrest⟩ := Prog.run_bind_ok hrun
    cases hrest
    exact stateBeginMining_consistent hmining h
  case completeMining playerId position =>
    obtain ⟨delta, u, hmining, hrest⟩ := Prog.run_bind_ok hrun
    cases hrest
    exact stateCompleteSurvivalMining_consistent hmining h hids
  case tickDroppedItem entityId =>
    obtain ⟨delta, u, htick, hrest⟩ := Prog.run_bind_ok hrun
    cases hrest
    exact tickDroppedItemState_consistent htick h
  case spawnDroppedItem expected position item =>
    obtain ⟨delta, u, hspawn, hrest⟩ := Prog.run_bind_ok hrun
    cases hrest
    exact stateSpawnDroppedItem_consistent hspawn h hids
  case disconnectPlayer playerId =>
    obtain ⟨delta, u, hleave, hrest⟩ := Prog.run_bind_ok hrun
    cases hrest
    exact disconnectPlayerState_consistent hleave h
  all_goals exact hplain (by simp [CoreOp.parts]; try decide)

theorem CoreOp.loginFits_of_no_login (hop : op.login? = none) (s : ServerCore) :
    op.LoginFits s := by
  cases op
  case prepareLogin => cases hop
  all_goals trivial

/-! ### Commands, ticks and batches -/

theorem applyCoreOps_reduce (h : applyCoreOps C core ops nowMs = .ok (events, core')) :
    reduceOps C nowMs (finalizedPlayersOf ops) ops core = .ok core' := by
  rw [← applyOpsFrom_state nowMs _ ops (.new ∅) core]
  unfold applyCoreOps at h
  rw [h]
  rfl

/-- The operations hold no login, or begin with one that fits. -/
def LoginsFit (core : ServerCore) (ops : List CoreOp) : Prop :=
  (∀ op ∈ ops, op.login? = none) ∨
    ∃ first rest, ops = first :: rest ∧ first.LoginFits core ∧ ∀ op ∈ rest, op.login? = none

variable (C) in
/-- A core becomes another by operations that fit. -/
def RunsOps (core core' : ServerCore) : Prop :=
  ∃ nowMs players ops, reduceOps C nowMs players ops core = .ok core' ∧ LoginsFit core ops

theorem RunsOps.refl (core : ServerCore) : RunsOps C core core :=
  ⟨0, ∅, [], rfl, .inl fun op hop => by cases hop⟩

theorem RunsOps.applied (h : applyCoreOps C core ops nowMs = .ok (events, core'))
    (hops : ∀ op ∈ ops, op.login? = none) : RunsOps C core core' :=
  ⟨nowMs, _, ops, applyCoreOps_reduce h, .inl hops⟩

theorem validateAndApplyGameplayJournal_cases {journal : GameplayJournal}
    {result : GameplayJournalApplyResult}
    (h : core.validateAndApplyGameplayJournal C journal = .ok (result, core')) :
    (result = .conflict ∧ core' = core) ∨ ∃ events, result = .applied events ∧
      applyCoreOps C core journal.ops journal.nowMs = .ok (events, core') := by
  cases result with
  | conflict => exact .inl ⟨rfl, validateAndApplyGameplayJournal_conflict h⟩
  | applied events =>
    unfold ServerCore.validateAndApplyGameplayJournal at h
    obtain ⟨matching, -, h⟩ := except_bind_eq_ok.mp h
    cases matching with
    | false => cases h
    | true =>
      obtain ⟨⟨events', core''⟩, happly, h⟩ := except_bind_eq_ok.mp h
      cases h
      exact .inr ⟨events, rfl, happly⟩

theorem commitTransaction_apply {tx : GameplayTransaction}
    (h : core.commitTransaction C tx = .ok (events, core')) :
    applyCoreOps C core tx.journal tx.nowMs = .ok (events, core') := by
  unfold ServerCore.commitTransaction at h
  obtain ⟨⟨result, core''⟩, hjournal, h₁⟩ := except_bind_eq_ok.mp h
  rcases validateAndApplyGameplayJournal_cases hjournal with ⟨rfl, -⟩ | ⟨events', rfl, happly⟩
  · cases h₁
  · cases h₁
    exact happly

theorem pushable_no_login (hop : op.Pushable) : op.login? = none := by
  cases op
  case prepareLogin => exact hop.elim
  all_goals rfl

theorem applyBuiltinGameplayCommand_runs {command : GameplayCommand}
    (h : core.applyBuiltinGameplayCommand C command nowMs = .ok (events, core')) :
    RunsOps C core core' := by
  unfold ServerCore.applyBuiltinGameplayCommand at h
  obtain ⟨⟨_, tx⟩, hcommand, h⟩ := except_bind_eq_ok.mp h
  obtain ⟨ops, hjournal, hops⟩ := (applyBuiltinGameplayCommand_gameplay hcommand).journal
  refine .applied (commitTransaction_apply h) ?_
  intro op hop
  rw [hjournal] at hop
  exact pushable_no_login (hops op (by simpa [GameplayTransaction.new] using hop))

theorem loginJournal {tx tx₁ tx₂ : GameplayTransaction} {R : CoreOp → Prop}
    (hbegin : Tx.beginLogin C connectionId username playerId (.new core nowMs) = .ok (none, tx))
    (hgameplay : Gameplay C (fun _ => R) tx tx₁)
    (hfinalize : Tx.finalizeLogin C connectionId playerId tx₁ = .ok (.ok (), tx₂)) :
    ∃ player ops, tx₂.journal = .prepareLogin playerId player ⟨core.entities.nextEntityId⟩ ::
        (ops ++ [.finalizeLogin connectionId playerId]) ∧
      (∀ op ∈ ops, op.Pushable ∧ R op) ∧ player.id = playerId ∧
      core.entities.playersByPlayerId[playerId]? = none ∧ tx₂.nowMs = nowMs := by
  have hpreviews : Previews C core nowMs tx := (Previews.new core nowMs).step
    (Tx.beginLogin_step hbegin)
  have hpreviews₁ := hgameplay.previews hpreviews
  obtain ⟨ops, hops, hpushable⟩ := hgameplay.journal_where (R := R) fun _ _ h => h
  rcases Tx.beginLogin_ok hbegin with ⟨⟨reason, hreason⟩, -⟩ |
    ⟨-, habsent, readSet, player, allocated, s, entityId, applied, hplayer, hallocated, hrun, rfl⟩
  · cases hreason
  rcases Tx.finalizeLogin_ok hfinalize with ⟨⟨message, hmessage⟩, -⟩ |
    ⟨-, honline, applied', s', hrun', rfl⟩
  · cases hmessage
  have hentity : entityId = ⟨core.entities.nextEntityId⟩ := by
    cases hallocated
    rfl
  subst hentity
  have hoffline := hpreviews.offline (playerId, player.id) (by
    simp [GameplayTransaction.journaled, GameplayTransaction.new, loginsOf, CoreOp.login?])
  refine ⟨player, ops, ?_, hpushable, ?_, hoffline, hpreviews₁.now⟩
  · simp [GameplayTransaction.journaled, GameplayTransaction.new, hops]
  · -- the player is online in the overlay, where only the login put one
    have hentry : ∃ entry, tx₁.overlay.playersByPlayerId[playerId]? = some entry := by
      unfold OverlayState.playerEntityId overlaid at honline
      cases hentry : tx₁.state.overlay.playersByPlayerId[playerId]? with
      | some entry => exact ⟨entry, hentry⟩
      | none =>
        rw [hentry, show tx₁.state.base = core from hpreviews₁.snapshot, Option.getD_none,
          hoffline] at honline
        cases honline
    obtain ⟨entry, hentry⟩ := hentry
    obtain ⟨-, login, hlogin, hid⟩ := hpreviews₁.entries playerId entry hentry
    have hlogins : loginsOf tx₁.journal = [(playerId, player.id)] := by
      rw [hops]
      have hnone : ops.filterMap CoreOp.login? = [] :=
        List.filterMap_eq_nil_iff.mpr fun op hop => pushable_no_login (hpushable op hop).1
      simp [GameplayTransaction.journaled, GameplayTransaction.new, loginsOf, CoreOp.login?, hnone]
    rw [hlogins] at hlogin
    rw [List.mem_singleton.mp hlogin] at hid
    exact hid

theorem loginJournal_runs {tx tx₁ tx₂ : GameplayTransaction} {R : CoreOp → Prop}
    (hbegin : Tx.beginLogin C connectionId username playerId (.new core nowMs) = .ok (none, tx))
    (hgameplay : Gameplay C (fun _ => R) tx tx₁)
    (hfinalize : Tx.finalizeLogin C connectionId playerId tx₁ = .ok (.ok (), tx₂))
    (happly : applyCoreOps C core tx₂.journal tx₂.nowMs = .ok (events, core')) :
    RunsOps C core core' := by
  obtain ⟨player, ops, hjournal, hops, hid, hoffline, -⟩ :=
    loginJournal hbegin hgameplay hfinalize
  refine ⟨tx₂.nowMs, _, tx₂.journal, applyCoreOps_reduce happly, .inr ⟨_, _, hjournal, ?_, ?_⟩⟩
  · exact ⟨by rw [hid]; exact hoffline, rfl⟩
  · intro op hop
    rcases List.mem_append.mp hop with hop | hop
    · exact pushable_no_login (hops op hop).1
    · rw [List.mem_singleton.mp hop]
      rfl

theorem loginStart_runs
    (h : core.loginStart C connectionId username playerId nowMs = .ok (events, core')) :
    RunsOps C core core' := by
  unfold ServerCore.loginStart at h
  obtain ⟨⟨rejection, tx⟩, hbegin, h⟩ := except_bind_eq_ok.mp h
  cases rejection with
  | some rejection =>
    cases h
    exact .refl _
  | none =>
    obtain ⟨⟨result, tx₁⟩, hfinalize, h⟩ := except_bind_eq_ok.mp h
    cases result with
    | error message => cases h
    | ok done =>
      exact loginJournal_runs (R := fun _ => True) hbegin (.refl _) hfinalize
        (commitTransaction_apply h)

theorem applyCommittedLoginEffects_applied {effects : List GameplayEffect}
    (h : core.applyCommittedLoginEffects C connectionId username playerId nowMs effects =
      .ok (.applied events, core')) :
    ∃ tx tx₁ tx₂, Tx.beginLogin C connectionId username playerId (.new core nowMs) =
        .ok (none, tx) ∧ applyEffects C effects tx = .ok ((), tx₁) ∧
      Tx.finalizeLogin C connectionId playerId tx₁ = .ok (.ok (), tx₂) ∧
      applyCoreOps C core tx₂.journal tx₂.nowMs = .ok (events, core') := by
  unfold ServerCore.applyCommittedLoginEffects at h
  obtain ⟨preview, hpreview, h⟩ := except_bind_eq_ok.mp h
  unfold ServerCore.loginPreview at hpreview
  obtain ⟨⟨rejection, tx⟩, hbegin, hpreview⟩ := except_bind_eq_ok.mp hpreview
  cases rejection with
  | some rejection =>
    cases hpreview
    cases h
  | none =>
    cases hpreview
    unfold ServerCore.finishLoginEffects at h
    obtain ⟨⟨_, tx₁⟩, heffects, h⟩ := except_bind_eq_ok.mp h
    obtain ⟨⟨outcome, tx₂⟩, hfinalize, h⟩ := except_bind_eq_ok.mp h
    cases outcome with
    | error message => cases h
    | ok done =>
      obtain ⟨⟨result, core''⟩, hjournal, h₃⟩ := except_bind_eq_ok.mp h
      rcases validateAndApplyGameplayJournal_cases hjournal with ⟨rfl, -⟩ | ⟨events', rfl, happly⟩
      · cases h₃
      · cases h₃
        exact ⟨tx, tx₁, tx₂, hbegin, heffects, hfinalize, happly⟩

theorem applyCommittedLoginEffects_runs {effects : List GameplayEffect}
    (h : core.applyCommittedLoginEffects C connectionId username playerId nowMs effects =
      .ok (.applied events, core')) : RunsOps C core core' := by
  obtain ⟨tx, tx₁, tx₂, hbegin, heffects, hfinalize, happly⟩ := applyCommittedLoginEffects_applied h
  exact loginJournal_runs (R := fun _ => True) hbegin
    (applyEffects_gameplay (fun _ _ => trivial) heffects) hfinalize happly

def CoreOp.Scheduled : CoreOp → Prop
  | .tickActiveContainer _ => True
  | .tickDroppedItem _ => True
  | .completeMining _ _ => True
  | .advanceMiningStage _ _ _ _ _ => True
  | .requestKeepAlive _ => True
  | .disconnectPlayer _ => True
  | _ => False

def CoreOp.TicksWindow : CoreOp → Prop
  | .tickActiveContainer _ => True
  | _ => False

theorem activeContainerOp_scheduled (playerId : PlayerId) :
    Prog.Triple (baseState C) (fun _ => True) (activeContainerOp playerId)
      fun found _ => ∀ op, found = some op → op.Scheduled := by
  intro s _ found t hrun
  cases hrun
  intro op hop
  split at hop
  · cases hop
    trivial
  · cases hop

theorem activeMiningOp_scheduled (nowMs : Nat) (entityId : EntityId) :
    Prog.Triple (baseState C) (fun _ => True) (activeMiningOp nowMs entityId)
      fun found _ => ∀ op, found = some op → op.Scheduled ∧ ¬ op.TicksWindow := by
  unfold activeMiningOp
  refine Prog.triple_bind (R := fun _ _ => True) (fun _ _ _ _ _ => trivial) fun mining => ?_
  split
  · refine Prog.triple_bind (R := fun _ _ => True) (fun _ _ _ _ _ => trivial) fun identity => ?_
    split
    · dsimp only
      repeat' split
      all_goals exact Prog.triple_pure fun _ _ op hop => by cases hop <;> exact ⟨trivial, id⟩
    · exact Prog.triple_pure fun _ _ op hop => by cases hop
  · exact Prog.triple_pure fun _ _ op hop => by cases hop

theorem keepaliveOp_scheduled (nowMs keepaliveTimeoutMs : Nat) (playerId : PlayerId) :
    Prog.Triple (baseState C) (fun _ => True) (keepaliveOp nowMs keepaliveTimeoutMs playerId)
      fun found _ => ∀ op, found = some op → op.Scheduled ∧ ¬ op.TicksWindow := by
  unfold keepaliveOp
  refine Prog.triple_bind (R := fun _ _ => True) (fun _ _ _ _ _ => trivial) fun session => ?_
  split
  · repeat' split
    all_goals exact Prog.triple_pure fun _ _ op hop => by cases hop <;> exact ⟨trivial, id⟩
  · exact Prog.triple_pure fun _ _ op hop => by cases hop

theorem schedulerTick_scheduled {keepaliveTimeoutMs : Nat}
    (h : core.ask C (schedulerTick nowMs keepaliveTimeoutMs) = .ok ops) :
    ∀ op ∈ ops, op.Scheduled := by
  obtain ⟨⟨ops', core'⟩, hrun, rfl⟩ := except_map_eq_ok.mp h
  unfold schedulerTick at hrun
  obtain ⟨players, s₁, -, h₁⟩ := Prog.run_bind_ok hrun
  obtain ⟨containerOps, s₂, hcontainers, h₂⟩ := Prog.run_bind_ok h₁
  obtain ⟨items, s₃, -, h₃⟩ := Prog.run_bind_ok h₂
  obtain ⟨miningOps, s₄, hmining, h₄⟩ := Prog.run_bind_ok h₃
  obtain ⟨keepaliveOps, s₅, hkeepalive, h₅⟩ := Prog.run_bind_ok h₄
  cases h₅
  obtain ⟨entityIds, s₆, -, hmining⟩ := Prog.run_bind_ok hmining
  obtain ⟨playerIds, s₇, -, hkeepalive⟩ := Prog.run_bind_ok hkeepalive
  intro op hop
  simp only [List.mem_append, List.mem_map] at hop
  rcases hop with ((hop | ⟨entityId, -, rfl⟩) | hop) | hop
  · exact Prog.triple_filterMap activeContainerOp_scheduled _ _ trivial _ _ hcontainers op hop
  · trivial
  · exact (Prog.triple_filterMap (activeMiningOp_scheduled nowMs) _ _ trivial _ _ hmining op
      hop).1
  · exact (Prog.triple_filterMap (keepaliveOp_scheduled nowMs _) _ _ trivial _ _ hkeepalive op
      hop).1

theorem CoreOp.Scheduled.no_login (hop : op.Scheduled) : op.login? = none := by
  cases op
  case prepareLogin => exact hop.elim
  all_goals rfl

theorem tick_runs (h : core.tick C nowMs = .ok (events, core')) : RunsOps C core core' := by
  unfold ServerCore.tick at h
  obtain ⟨ops, hops, happly⟩ := except_bind_eq_ok.mp h
  exact .applied happly fun op hop => (schedulerTick_scheduled hops op hop).no_login

theorem applyCommand_runs {command : CoreCommand}
    (h : core.applyCommand C command nowMs = .ok (events, core')) : RunsOps C core core' := by
  cases command
  case loginStart => exact loginStart_runs h
  case gameplay => exact applyBuiltinGameplayCommand_runs h
  all_goals exact .applied h (by simp [CoreOp.login?])

def ServerCore.withSettings (core : ServerCore) (config : CoreConfig) (worldMeta : WorldMeta) :
    ServerCore :=
  { core with world.config := config, world.worldMeta := worldMeta }

/-- **One recorded mutation** runs operations that fit, or changes the settings. -/
theorem CoreTransferMutation.apply_runs {mutation : CoreTransferMutation}
    (h : mutation.apply C core = .ok core') : RunsOps C core core' ∨
      ∃ config worldMeta, core' = core.withSettings config worldMeta := by
  have hpanic : ∀ {α : Type} {x : Panics α} {a : α}, orPanic x = .ok a → x = .ok a := by
    intro α x a hx
    cases x <;> cases hx
    rfl
  cases mutation with
  | command issued nowMs =>
    obtain ⟨⟨events, state⟩, hrun, h₁⟩ := except_bind_eq_ok.mp h
    cases h₁
    exact .inl (applyCommand_runs (hpanic hrun))
  | builtinGameplayCommand issued nowMs =>
    obtain ⟨⟨events, state⟩, hrun, h₁⟩ := except_bind_eq_ok.mp h
    cases h₁
    exact .inl (applyBuiltinGameplayCommand_runs (hpanic hrun))
  | builtinTick nowMs =>
    obtain ⟨⟨events, state⟩, hrun, h₁⟩ := except_bind_eq_ok.mp h
    cases h₁
    exact .inl (tick_runs (hpanic hrun))
  | gameplayEffects nowMs effects =>
    obtain ⟨⟨events, state⟩, hrun, h₁⟩ := except_bind_eq_ok.mp h
    cases h₁
    refine .inl (.applied (hpanic hrun) ?_)
    intro op hop
    obtain ⟨effect, -, rfl⟩ := List.mem_map.mp hop
    exact pushable_no_login (coreOpFromEffect_pushable effect)
  | loginEffects connectionId username playerId nowMs effects =>
    obtain ⟨⟨result, state⟩, hrun, h₁⟩ := except_bind_eq_ok.mp h
    cases result with
    | conflict => cases h₁
    | applied events =>
      cases h₁
      exact .inl (applyCommittedLoginEffects_runs (hpanic hrun))
  | setMaxPlayers maxPlayers | reconfigure config =>
    cases h
    exact .inr ⟨_, _, rfl⟩

/-! ### Whole runs -/

variable (C) in
/-- What every operation that fits and every change of the settings keeps. -/
structure Stable (I : ServerCore → Prop) : Prop where
  operation : ∀ {op : CoreOp} {nowMs : Nat} {players : BTreeSet PlayerId} {s t : ServerCore}
    {applied : AppliedCoreOp},
    (reduceCoreOp C op nowMs players).run (baseState C) s = .ok (applied, t) →
    op.LoginFits s → I s → I t
  settings : ∀ {s : ServerCore} (config : CoreConfig) (worldMeta : WorldMeta),
    I s → I (s.withSettings config worldMeta)

section Stable

variable {I : ServerCore → Prop} (hI : Stable C I)

include hI

theorem Stable.reduceOps {players : BTreeSet PlayerId}
    (hrun : reduceOps C nowMs players ops s = .ok t) (hops : ∀ op ∈ ops, op.login? = none)
    (h : I s) : I t := by
  induction ops generalizing s with
  | nil =>
    cases hrun
    exact h
  | cons op rest ih =>
    obtain ⟨⟨applied, u⟩, hop, hrest⟩ := except_bind_eq_ok.mp hrun
    refine ih hrest (fun op' hop' => hops op' (List.mem_cons_of_mem _ hop')) ?_
    exact hI.operation hop (CoreOp.loginFits_of_no_login (hops op List.mem_cons_self) s) h

theorem Stable.runsOps (h : RunsOps C core core') (hcore : I core) : I core' := by
  obtain ⟨nowMs, players, ops, hreduce, hops | ⟨first, rest, rfl, hfits, hrest⟩⟩ := h
  · exact hI.reduceOps hreduce hops hcore
  · obtain ⟨⟨applied, core₁⟩, hfirst, hops⟩ := except_bind_eq_ok.mp hreduce
    exact hI.reduceOps hops hrest (hI.operation hfirst hfits hcore)

theorem Stable.applyMutations {mutations : List CoreTransferMutation}
    (h : applyMutations C mutations core = .ok core') (hcore : I core) : I core' := by
  induction mutations generalizing core with
  | nil =>
    cases h
    exact hcore
  | cons mutation rest ih =>
    obtain ⟨between, hfirst, hrest⟩ := except_bind_eq_ok.mp h
    refine ih hrest ?_
    rcases mutation.apply_runs hfirst with hruns | ⟨config, worldMeta, rfl⟩
    · exact hI.runsOps hruns hcore
    · exact hI.settings config worldMeta hcore

/-- **What every step keeps holds after every run.** -/
theorem Stable.leads {version last : CoreVersion} {commits : List CoreCommit}
    (h : Leads C version commits last) (hversion : I version.state) : I last.state := by
  induction h with
  | nil version => exact hversion
  | cons _ _ hstate _ ih => exact ih (hI.applyMutations hstate hversion)

end Stable

theorem Consistent.withWorld (h : Consistent core) (world : WorldStore) :
    Consistent { core with world := world } :=
  ⟨h.indexed, h.identified, h.connected, h.dropped, h.owned, h.allocated⟩

theorem stable_consistent :
    Stable C fun s => s.entities.nextEntityId < i32Max → Consistent s := by
  constructor
  · intro op nowMs players s t applied hrun hfits h hids
    have hcounter := counter_le hrun
    exact reduceCoreOp_consistent hrun hfits (h (by omega)) hids
  · intro s config worldMeta h hids
    exact (h hids).withWorld _

/-- A core as the server starts it: empty, or with the world of a snapshot. -/
inductive ServerCore.Started : ServerCore → Prop where
  | new (config : CoreConfig) : Started (.new config)
  | fromSnapshot (config : CoreConfig) (snapshot : WorldSnapshot) :
      Started (.fromSnapshot config snapshot)

theorem ServerCore.Started.consistent (h : core.Started) : Consistent core := by
  have hnew : ∀ config, Consistent (.new config) := fun config => by
    constructor <;> simp [ServerCore.new]
  cases h with
  | new config => exact hnew config
  | fromSnapshot config snapshot => exact (hnew config).withWorld _

/-- How many entity ids a core has given out; the counter starts at one. -/
def ServerCore.allocatedEntityIds (core : ServerCore) : Int := core.entities.nextEntityId - 1

/-! ### The checks of the import -/

theorem forM_ok {α : Type} {l : List α} {f : α → Except CoreTransferError Unit}
    (h : ∀ a ∈ l, f a = .ok ()) : l.forM f = .ok () := by
  induction l with
  | nil => rfl
  | cons a rest ih =>
    simp only [List.forM, h a List.mem_cons_self]
    exact ih fun a' ha' => h a' (List.mem_cons_of_mem _ ha')

theorem Consistent.validate {version : CoreVersion} (h : Consistent version.state) :
    (CoreTransferSnapshotV1.fromVersion version).validate = .ok () := by
  unfold CoreTransferSnapshotV1.validate
  rw [forM_ok, forM_ok, forM_ok, forM_ok]
  · simp only [bind, Except.bind]
    rw [if_neg]
    rw [Bool.not_eq_true, ExtTreeMap.contains_eq_isSome_getElem?]
    change (version.state.entities.entityKinds[
      (⟨version.state.entities.nextEntityId⟩ : EntityId)]?).isSome = false
    rw [h.next_free]
    rfl
  · intro entityId hitem
    unfold CoreTransferSnapshotV1.validateDroppedItem
    rw [if_neg]
    rw [not_not]
    refine h.dropped entityId ?_
    rw [← ExtTreeMap.contains_eq_isSome_getElem?]
    exact ExtTreeMap.contains_iff_mem.mpr (ExtTreeMap.mem_keys.mp hitem)
  · rintro ⟨playerId, session⟩ hsession
    have hconnected := h.connected playerId session (BTreeMap.mem_toList.mp hsession)
    exact if_neg (not_not.mpr hconnected)
  · rintro ⟨entityId, identity⟩ hidentity
    have hidentified := h.identified entityId identity (BTreeMap.mem_toList.mp hidentity)
    exact if_neg (not_not.mpr hidentified)
  · rintro ⟨playerId, entityId⟩ hindex
    obtain ⟨hkind, ⟨identity, hidentity, hself⟩, htransform, hvitals, hinventory, hhotbar,
      hsession⟩ := h.indexed playerId entityId (BTreeMap.mem_toList.mp hindex)
    obtain ⟨session, hsession, hentity⟩ := Option.map_eq_some_iff.mp hsession
    simp [CoreTransferSnapshotV1.validatePlayer, CoreTransferSnapshotV1.fromVersion, hkind,
      hidentity, hself, ExtTreeMap.contains_eq_isSome_getElem?, htransform, hvitals, hinventory,
      hhotbar, hsession, hentity]

/-- **Every reachable core survives a transfer unchanged.**  After any batches of commands,
    ticks, effects, logins and changes of the settings on a core as it was started, with ids
    left: the checks of the import pass, the components belong to indexed players, no id is used
    twice, importing what is exported gives the version back, and only the size of the encoding
    can keep it from being exported. -/
theorem reachable_core_transfers {cs : Codec CoreTransferSnapshotV1} (hcs : cs.RoundTrips)
    {core : ServerCore} (hstart : core.Started) {batches : List MutationBatch}
    {last : CoreVersion} {commits : List CoreCommit}
    (hrun : runBatches C (.initial core) batches = .ok (last, commits))
    (hids : last.state.allocatedEntityIds < 2 ^ 31 - 2) :
    (CoreTransferSnapshotV1.fromVersion last).validate = .ok () ∧
    (∀ entityId : EntityId, last.state.entities.playerIdentity[entityId]?.isSome ∨
      last.state.entities.playerTransform[entityId]?.isSome ∨
      last.state.entities.playerVitals[entityId]?.isSome ∨
      last.state.entities.playerInventory[entityId]?.isSome ∨
      last.state.entities.playerSelectedHotbar[entityId]?.isSome ∨
      last.state.entities.playerActiveMining[entityId]?.isSome →
      last.state.entities.entityKinds[entityId]? = some .player ∧
        ∃ playerId : PlayerId, last.state.entities.playersByPlayerId[playerId]? = some entityId) ∧
    (∀ (entityId : EntityId) (first second : PlayerId),
      last.state.entities.playersByPlayerId[first]? = some entityId →
      last.state.entities.playersByPlayerId[second]? = some entityId → first = second) ∧
    (∀ (entityId : EntityId) (playerId : PlayerId),
      last.state.entities.playersByPlayerId[playerId]? = some entityId →
      last.state.entities.droppedItems[entityId]? = none) ∧
    (∀ snapshot, last.prepareProcessTransfer cs = .ok snapshot →
      CoreVersion.importProcessTransfer cs snapshot.bytes = .ok last) ∧
    (cs.Encodable (.fromVersion last) →
      (cs.bytes (.fromVersion last)).length ≤ MAX_CORE_TRANSFER_BYTES →
      ∃ snapshot, last.prepareProcessTransfer cs = .ok snapshot) := by
  have h : Consistent last.state := by
    refine stable_consistent.leads (runBatches_leads hrun) (fun _ => hstart.consistent) ?_
    unfold ServerCore.allocatedEntityIds at hids
    unfold i32Max
    omega
  refine ⟨h.validate, ?_, ?_, ?_, ?_, ?_⟩
  · intro entityId howned
    have hindexed : ∃ playerId : PlayerId,
        last.state.entities.playersByPlayerId[playerId]? = some entityId := by
      rcases howned with hidentity | howned
      · obtain ⟨identity, hidentity⟩ := Option.isSome_iff_exists.mp hidentity
        exact ⟨_, h.identified entityId identity hidentity⟩
      · exact h.owned entityId howned
    obtain ⟨playerId, hindex⟩ := hindexed
    exact ⟨(h.indexed playerId entityId hindex).1, playerId, hindex⟩
  · intro entityId first second hfirst hsecond
    obtain ⟨-, ⟨identity, hidentity, hself⟩, -⟩ := h.indexed first entityId hfirst
    obtain ⟨-, ⟨identity', hidentity', hself'⟩, -⟩ := h.indexed second entityId hsecond
    rw [hidentity] at hidentity'
    cases hidentity'
    exact hself.symm.trans hself'
  · intro entityId playerId hindex
    have hkind := (h.indexed playerId entityId hindex).1
    by_contra hitem
    rw [h.dropped entityId (Option.isSome_iff_ne_none.mpr hitem)] at hkind
    cases hkind
  · intro snapshot hsnapshot
    rw [importProcessTransfer_prepared hcs hsnapshot, h.validate]
    rfl
  · intro hencodable hfits
    rcases encodeTransfer_spec cs hencodable (show MAX_CORE_TRANSFER_BYTES ≤ u64Max from by decide)
      with ⟨-, hencode⟩ | ⟨hexceeds, -⟩
    · unfold CoreVersion.prepareProcessTransfer
      rw [hencode]
      exact ⟨_, rfl⟩
    · omega

/-- Two players with their sessions, an item and a chest go through a transfer. -/
theorem reachable_core_transfers_joinAndDrop :
    ∃ last commits snapshot,
      runBatches canonicalContent chestVersion [joinAndDrop] = .ok (last, commits) ∧
      last.state.allocatedEntityIds < 2 ^ 31 - 2 ∧
      (last.state.entities.playersByPlayerId.size = 2 ∧
        last.state.sessions.playerSessions.size = 2 ∧ last.state.entities.droppedItems.size = 1 ∧
        last.state.world.blockEntities.size = 1) ∧
      last.prepareProcessTransfer (snapshotCodec last) = .ok snapshot ∧
      CoreVersion.importProcessTransfer (snapshotCodec last) snapshot.bytes = .ok last := by
  have hrun : endsWith (fun ran => decide (ran.1.state.allocatedEntityIds < 2 ^ 31 - 2 ∧
      (ran.1.state.entities.playersByPlayerId.size = 2 ∧
        ran.1.state.sessions.playerSessions.size = 2 ∧
        ran.1.state.entities.droppedItems.size = 1 ∧
        ran.1.state.world.blockEntities.size = 1) ∧
      (Cbor.ofSnapshot ran.1).bytes.length ≤ MAX_CORE_TRANSFER_BYTES))
      (runBatches canonicalContent chestVersion [joinAndDrop]) = true := by
    decide +kernel
  obtain ⟨⟨last, commits⟩, hlast, hchecks⟩ := endsWith_iff.mp hrun
  obtain ⟨hids, hsizes, hfits⟩ := of_decide_eq_true hchecks
  obtain ⟨-, -, -, -, himports, hexports⟩ := reachable_core_transfers
    (snapshotCodec_roundTrips last) (.fromSnapshot _ chestWorld) hlast hids
  obtain ⟨snapshot, hsnapshot⟩ := hexports (Codec.single_encodable _ _)
    ((congrArg List.length (Codec.single_bytes _ _)).trans_le hfits)
  exact ⟨last, commits, snapshot, hlast, hids, hsizes, hsnapshot, himports snapshot hsnapshot⟩

/-! ### A core too large to be exported -/

/-- One byte more than a transfer may have. -/
def longLevelName : String := String.ofList (List.replicate (MAX_CORE_TRANSFER_BYTES + 1) 'a')

def longNamedCore : ServerCore := .new { CoreConfig.default with levelName := longLevelName }

theorem utf8ByteSize_replicate (n : Nat) :
    (String.ofList (List.replicate n 'a')).utf8ByteSize = n := by
  induction n with
  | zero => rfl
  | succ n ih =>
    rw [List.replicate_succ', String.ofList_append, String.utf8ByteSize_append, ih]
    rfl

theorem levelName_le_ofSnapshot (version : CoreVersion) :
    version.state.world.config.levelName.utf8ByteSize ≤ (Cbor.ofSnapshot version).bytes.length := by
  set config := version.state.world.config
  have htext : config.levelName.utf8ByteSize ≤ (Cbor.text config.levelName).bytes.length := by
    rw [Cbor.bytes, List.length_append]
    exact Nat.le_add_left _ _
  have hconfig : (Cbor.text config.levelName).bytes.length ≤ (Cbor.ofConfig config).bytes.length :=
    Cbor.length_le_struct List.mem_cons_self
  have hworld : (Cbor.ofConfig config).bytes.length ≤
      (Cbor.ofWorld version.state.world).bytes.length := Cbor.length_le_struct List.mem_cons_self
  have hsnapshot : (Cbor.ofWorld version.state.world).bytes.length ≤
      (Cbor.ofSnapshot version).bytes.length :=
    Cbor.length_le_struct (List.mem_cons_of_mem _ (List.mem_cons_of_mem _ List.mem_cons_self))
  omega

/-- The first version of a core with such a name has a codec, but exceeds the limit. -/
theorem long_named_core_is_not_exported :
    longNamedCore.Started ∧
      runBatches canonicalContent (.initial longNamedCore) [] = .ok (.initial longNamedCore, []) ∧
      longNamedCore.allocatedEntityIds < 2 ^ 31 - 2 ∧
      (snapshotCodec (.initial longNamedCore)).RoundTrips ∧
      ∃ actual, (CoreVersion.initial longNamedCore).prepareProcessTransfer
        (snapshotCodec (.initial longNamedCore)) =
          .error (.budgetExceeded actual MAX_CORE_TRANSFER_BYTES) := by
  refine ⟨.new _, rfl, ?_, snapshotCodec_roundTrips _, ?_⟩
  · change (1 : Int) - 1 < 2 ^ 31 - 2
    decide
  have hlong : longLevelName.utf8ByteSize = MAX_CORE_TRANSFER_BYTES + 1 := utf8ByteSize_replicate _
  have hsize : longLevelName.utf8ByteSize ≤
      (Cbor.ofSnapshot (.initial longNamedCore)).bytes.length :=
    levelName_le_ofSnapshot (.initial longNamedCore)
  rcases encodeTransfer_spec (snapshotCodec (.initial longNamedCore))
    (Codec.single_encodable _ _) (show MAX_CORE_TRANSFER_BYTES ≤ u64Max from by decide)
    with ⟨hfits, -⟩ | ⟨-, actual, hencode⟩
  · rw [snapshotCodec, Codec.single_bytes] at hfits
    omega
  · refine ⟨actual, ?_⟩
    unfold CoreVersion.prepareProcessTransfer
    rw [hencode]
    rfl

end RevyCraft
