/-
  RevyCraft/Frames.lean
  =====================
  **What the gameplay functions leave alone.**

  The state of a core falls into parts, and every method of the interface
  touches a few of them.  A program that uses only methods within a list of
  parts changes no other part of the core it runs on (`Within.same`).  The
  parts of every gameplay function are listed in the next file.
-/
import RevyCraft.Canonical

namespace RevyCraft

open Std
open Prog (uses_perform uses_bind uses_pure uses_lift uses_traverse uses_filterMap uses_fold)
open RevyCraft.Core

/-! ### Parts -/

inductive Part where
  | blocks
  | blockEntities
  | containerViewers
  | savedPlayers
  /-- The index of the players, their identities and vitals, and who has a session. -/
  | online
  | entityKinds
  | transform
  | inventory
  | selectedHotbar
  | activeMining
  /-- The beginning of mining, the one way an entity comes to mine. -/
  | miningStart
  | droppedItems
  | view
  | activeContainer
  /-- Cursor, window counter and keep-alive of a session. -/
  | sessionRest
  | entityCounter
  | keepAliveCounter
  /-- Nothing that is written: the listing of the players' entities. -/
  | entityListing
  /-- The configuration, which no method changes. -/
  | settings
  deriving DecidableEq

/-- What an edit of a session can change. -/
def sessionTouches (edit : PlayerSessionState → PlayerSessionState) : Part → Prop
  | .online => ∃ session, (edit session).entityId ≠ session.entityId
  | .view => ∃ session, (edit session).view ≠ session.view
  | .activeContainer => ∃ session, (edit session).activeContainer ≠ session.activeContainer
  | .sessionRest => True
  | _ => False

/-- The parts a method touches. -/
def StateOp.Touches : StateOp → Part → Prop
  | .playerEntityIds, part => part = .entityListing
  | .setBlockState _ _, part => part = .blocks
  | .setBlockEntity _ _, part => part = .blockEntities
  | .playerSessionMut _ edit, part => sessionTouches edit part
  | .playerSessionInventoryMut _ edit, part =>
    part = .inventory ∨ ∃ inventory, sessionTouches (fun session => (edit (session, inventory)).1) part
  | .playerTransformMut _ _, part => part = .transform
  | .playerInventoryMut _ _, part => part = .inventory
  | .playerSelectedHotbarMut _ _, part => part = .selectedHotbar
  | .playerActiveMiningMut _ _, part => part = .activeMining
  | .removePlayerActiveMining _, part => part = .activeMining
  | .setPlayerActiveMining _ _, part => part = .activeMining ∨ part = .miningStart
  | .allocateEntityId, part => part = .entityCounter
  | .allocateKeepAliveId, part => part = .keepAliveCounter
  | .setEntityKind _ _, part => part = .entityKinds
  | .setDroppedItem _ _, part => part = .droppedItems
  | .takeDroppedItem _, part => part = .droppedItems
  | .setSavedPlayer _ _, part => part = .savedPlayers
  | .setContainerViewers _ _, part => part = .containerViewers
  | .spawnOnlinePlayer _ _ _ _, part =>
    part ∈ [.online, .entityKinds, .transform, .inventory, .selectedHotbar, .activeMining, .view,
      .activeContainer, .sessionRest, .entityCounter]
  | .removeOnlinePlayer _, part =>
    part ∈ [.online, .entityKinds, .transform, .inventory, .selectedHotbar, .activeMining, .view,
      .activeContainer, .sessionRest]
  | _, _ => False

/-- The method touches no other parts. -/
def within (parts : List Part) (o : StateOp) : Prop := ∀ part, o.Touches part → part ∈ parts

/-- The program uses only methods that touch no other parts. -/
abbrev Within {α : Type} (parts : List Part) (p : CoreM α) : Prop :=
  Prog.Uses (S := CoreState) (within parts) p

theorem Within.mono {α : Type} {few many : List Part} (hsub : few ⊆ many) {p : CoreM α}
    (h : Within few p) : Within many p :=
  Prog.Uses.mono (fun _ ho part htouch => hsub (ho part htouch)) h

/-! ### A part is the same in two cores -/

/-- Every session has the same value there. -/
def SameSessions {β : Type} (f : PlayerSessionState → β) (s t : ServerCore) : Prop :=
  ∀ playerId : PlayerId, (t.sessions.playerSessions[playerId]?).map f =
    (s.sessions.playerSessions[playerId]?).map f

variable (C : ContentBehavior)

def Part.Same (part : Part) (s t : ServerCore) : Prop :=
  match part with
  | .blocks => ∀ pos, t.chunkAt C pos = s.chunkAt C pos
  | .blockEntities => t.world.blockEntities = s.world.blockEntities
  | .containerViewers => t.world.containerViewers = s.world.containerViewers
  | .savedPlayers => t.world.savedPlayers = s.world.savedPlayers
  | .online => t.entities.playersByPlayerId = s.entities.playersByPlayerId ∧
      t.entities.playerIdentity = s.entities.playerIdentity ∧
      t.entities.playerVitals = s.entities.playerVitals ∧ SameSessions (·.entityId) s t
  | .entityKinds => t.entities.entityKinds = s.entities.entityKinds
  | .transform => t.entities.playerTransform = s.entities.playerTransform
  | .inventory => t.entities.playerInventory = s.entities.playerInventory
  | .selectedHotbar => t.entities.playerSelectedHotbar = s.entities.playerSelectedHotbar
  | .activeMining => t.entities.playerActiveMining = s.entities.playerActiveMining
  | .miningStart => ∀ entityId : EntityId, t.entities.playerActiveMining[entityId]?.isSome →
      s.entities.playerActiveMining[entityId]?.isSome
  | .droppedItems => t.entities.droppedItems = s.entities.droppedItems
  | .view => SameSessions (·.view) s t
  | .activeContainer => SameSessions (·.activeContainer) s t
  | .sessionRest => SameSessions (fun session => (session.cursor, session.nextNonPlayerWindowId,
      session.pendingKeepAliveId, session.lastKeepAliveSentAt, session.nextKeepAliveAt)) s t
  | .entityCounter => t.entities.nextEntityId = s.entities.nextEntityId
  | .keepAliveCounter => t.sessions.nextKeepAliveId = s.sessions.nextKeepAliveId
  | .entityListing => True
  | .settings => t.world.config = s.world.config ∧ t.world.worldMeta = s.world.worldMeta ∧
      t.sessions.keepaliveIntervalMs = s.sessions.keepaliveIntervalMs ∧
      t.sessions.keepaliveTimeoutMs = s.sessions.keepaliveTimeoutMs

variable {C}

variable {β : Type} {s : ServerCore} {part : Part} {playerId : PlayerId} {o : StateOp}

theorem SameSessions.trans {f : PlayerSessionState → β} {t u : ServerCore}
    (hst : SameSessions f s t) (htu : SameSessions f t u) : SameSessions f s u :=
  fun playerId => (htu playerId).trans (hst playerId)

theorem Part.Same.refl (part : Part) (s : ServerCore) : part.Same C s s := by
  cases part <;> simp [Part.Same, SameSessions]

theorem Part.Same.trans {t u : ServerCore} (hst : part.Same C s t) (htu : part.Same C t u) :
    part.Same C s u := by
  cases part
  case blocks => exact fun pos => (htu pos).trans (hst pos)
  case online =>
    exact ⟨htu.1.trans hst.1, htu.2.1.trans hst.2.1, htu.2.2.1.trans hst.2.2.1,
      hst.2.2.2.trans htu.2.2.2⟩
  case miningStart => exact fun entityId hu => hst entityId (htu entityId hu)
  case view => exact SameSessions.trans hst htu
  case activeContainer => exact SameSessions.trans hst htu
  case sessionRest => exact SameSessions.trans hst htu
  case entityListing => trivial
  case settings =>
    exact ⟨htu.1.trans hst.1, htu.2.1.trans hst.2.1, htu.2.2.1.trans hst.2.2.1,
      htu.2.2.2.trans hst.2.2.2⟩
  all_goals exact Eq.trans htu hst

/-! ### The methods on a core -/

section Edits

variable {K V β : Type} [Ord K] [TransOrd K] [LawfulEqOrd K] [DecidableEq K]

theorem getElem?_edited (m : BTreeMap K V) (k : K) (edit : V → V) (a : K) :
    (edited m k edit)[a]? = if k = a then (m[a]?).map edit else m[a]? := by
  unfold edited
  by_cases h : k = a
  · subst h
    cases hm : m[k]? with
    | none => simp [hm]
    | some v => simp
  · cases hm : m[k]? with
    | none => simp [h]
    | some v => simp [h, BTreeMap.getElem?_insert_eq]

theorem edited_map {f : V → β} {edit : V → V} (h : ∀ v, f (edit v) = f v) (m : BTreeMap K V)
    (k a : K) : ((edited m k edit)[a]?).map f = (m[a]?).map f := by
  rw [getElem?_edited]
  split
  · cases m[a]? with
    | none => rfl
    | some v => simp [h]
  · rfl

theorem isSome_edited (m : BTreeMap K V) (k : K) (edit : V → V) (a : K) :
    ((edited m k edit)[a]?).isSome = (m[a]?).isSome := by
  rw [getElem?_edited]
  split <;> simp

end Edits

theorem chunkAt_ensureChunk (s : ServerCore) (pos other : ChunkPos) :
    (s.ensureChunk C pos).chunkAt C other = s.chunkAt C other := by
  unfold ServerCore.ensureChunk
  split
  · rfl
  · rename_i habsent
    unfold ServerCore.chunkAt
    simp only [BTreeMap.getElem?_insert_eq]
    split
    · rename_i hpos
      subst hpos
      have : s.world.chunks[pos]? = none := by
        simpa using habsent
      simp [this]
    · rfl
theorem editSessionInventory_same {f : PlayerSessionState → β}
    {edit : PlayerSessionState × PlayerInventory → PlayerSessionState × PlayerInventory}
    (h : ∀ session inventory, f (edit (session, inventory)).1 = f session) :
    SameSessions f s (s.editSessionInventory playerId edit).2 := by
  intro other
  unfold ServerCore.editSessionInventory
  split
  · rfl
  · split
    · rename_i session inventory hsession hinventory
      simp only [BTreeMap.getElem?_insert_eq]
      split
      · rename_i hp
        subst hp
        rw [hsession]
        simp [h]
      · rfl
    · rfl

theorem ensureChunk_eq (s : ServerCore) (pos : ChunkPos) :
    ∃ chunks, s.ensureChunk C pos = { s with world.chunks := chunks } := by
  unfold ServerCore.ensureChunk
  split
  · exact ⟨s.world.chunks, rfl⟩
  · exact ⟨_, rfl⟩

theorem setBlockAt_eq (s : ServerCore) (pos : BlockPos) (block : Option BlockState) :
    ∃ chunks, s.setBlockAt C pos block = { s with world.chunks := chunks } := by
  obtain ⟨chunks, hchunks⟩ := ensureChunk_eq (C := C) s pos.chunkPos
  unfold ServerCore.setBlockAt
  rw [hchunks]
  exact ⟨_, rfl⟩

theorem editSessionInventory_eq (s : ServerCore) (playerId : PlayerId)
    (edit : PlayerSessionState × PlayerInventory → PlayerSessionState × PlayerInventory) :
    ∃ sessions inventories, (s.editSessionInventory playerId edit).2 =
      { s with sessions.playerSessions := sessions, entities.playerInventory := inventories } := by
  unfold ServerCore.editSessionInventory
  split
  · exact ⟨_, _, rfl⟩
  · split
    · exact ⟨_, _, rfl⟩
    · exact ⟨_, _, rfl⟩

theorem baseState_same (h : ¬ o.Touches part) (s : ServerCore) :
    part.Same C s (baseState C o s).2 := by
  cases o
  case ensureChunk pos =>
    cases part
    case blocks => exact chunkAt_ensureChunk s pos
    all_goals
      obtain ⟨chunks, hchunks⟩ := ensureChunk_eq (C := C) s pos
      simp [baseState, hchunks, Part.Same, SameSessions]
  case playerSessionMut playerId edit =>
    cases part
    case online =>
      refine ⟨rfl, rfl, rfl, fun _ => edited_map (fun session => ?_) _ _ _⟩
      exact not_not.mp fun hne => h ⟨session, hne⟩
    case view =>
      refine fun _ => edited_map (fun session => ?_) _ _ _
      exact not_not.mp fun hne => h ⟨session, hne⟩
    case activeContainer =>
      refine fun _ => edited_map (fun session => ?_) _ _ _
      exact not_not.mp fun hne => h ⟨session, hne⟩
    case sessionRest => exact absurd trivial h
    all_goals simp [baseState, Part.Same, ServerCore.chunkAt]
  case playerSessionInventoryMut playerId edit =>
    obtain ⟨sessions, inventories, heq⟩ := editSessionInventory_eq s playerId edit
    cases part
    case online =>
      refine ⟨by simp [baseState, heq], by simp [baseState, heq], by simp [baseState, heq],
        editSessionInventory_same fun session inventory => ?_⟩
      exact not_not.mp fun hne => h (.inr ⟨inventory, session, hne⟩)
    case view =>
      refine editSessionInventory_same fun session inventory => ?_
      exact not_not.mp fun hne => h (.inr ⟨inventory, session, hne⟩)
    case activeContainer =>
      refine editSessionInventory_same fun session inventory => ?_
      exact not_not.mp fun hne => h (.inr ⟨inventory, session, hne⟩)
    case sessionRest => exact absurd (.inr ⟨.newEmpty, trivial⟩) h
    case inventory => exact absurd (.inl rfl) h
    all_goals simp [baseState, heq, Part.Same, ServerCore.chunkAt]
  case removeOnlinePlayer playerId =>
    simp only [baseState, ServerCore.removeOnlinePlayer]
    split
    · exact Part.Same.refl _ _
    · cases part <;> simp_all [StateOp.Touches, Part.Same, ServerCore.chunkAt]
  case spawnOnlinePlayer player center nowMs expected =>
    cases part <;>
      simp_all [StateOp.Touches, Part.Same, ServerCore.chunkAt, baseState,
        ServerCore.spawnOnlinePlayer]
  case setBlockState pos block =>
    obtain ⟨chunks, hchunks⟩ := setBlockAt_eq (C := C) s pos block
    cases part
    case blocks => exact absurd rfl h
    all_goals simp [baseState, hchunks, Part.Same, SameSessions]
  case playerActiveMiningMut entityId edit =>
    cases part
    case activeMining => exact absurd rfl h
    case miningStart =>
      intro other hother
      rwa [baseState, isSome_edited] at hother
    all_goals simp [baseState, Part.Same, SameSessions, ServerCore.chunkAt]
  case removePlayerActiveMining entityId =>
    cases part
    case activeMining => exact absurd rfl h
    case miningStart =>
      intro other hother
      simp only [baseState, BTreeMap.getElem?_erase_eq] at hother
      split at hother
      · cases hother
      · exact hother
    all_goals simp [baseState, Part.Same, SameSessions, ServerCore.chunkAt]
  case setPlayerActiveMining entityId state =>
    cases part
    case activeMining => exact absurd (Or.inl rfl) h
    case miningStart => exact absurd (Or.inr rfl) h
    all_goals simp [baseState, Part.Same, SameSessions, ServerCore.chunkAt]
  -- what is left reads, or writes the one map its part is
  all_goals
    cases part <;> first
      | exact Part.Same.refl _ s
      | exact rfl
      | exact trivial
      | exact absurd rfl h
      | exact fun _ => rfl
      | exact fun _ hsome => hsome
      | exact ⟨rfl, rfl, rfl, fun _ => rfl⟩
      | exact ⟨rfl, rfl, rfl, rfl⟩

/-- **Frame.**  A program changes only the parts it touches. -/
theorem Within.same {α : Type} {parts : List Part} {p : CoreM α} (hp : Within parts p)
    (hpart : part ∉ parts) {s' : ServerCore} {a : α} (hrun : p.run (baseState C) s = .ok (a, s')) :
    part.Same C s s' := by
  have hkeeps : Prog.Keeps (baseState C) (part.Same C s) p := by
    refine Prog.Uses.keeps (fun o ho t hst => ?_) hp
    exact hst.trans (baseState_same (fun htouch => hpart (ho part htouch)) t)
  exact hkeeps s (Part.Same.refl part s) a s' hrun

/-! ### Rules for `Within` -/

section Rules

variable {α β : Type} {parts : List Part}

theorem Within.pure (a : α) : Within parts (Pure.pure a : CoreM α) := uses_pure a

theorem Within.lift (x : Panics α) : Within parts (Prog.lift x : CoreM α) := uses_lift x

theorem Within.bind {p : CoreM α} {f : α → CoreM β} (hp : Within parts p)
    (hf : ∀ a, Within parts (f a)) : Within parts (p >>= f) := uses_bind hp hf

theorem Within.traverse {f : β → CoreM α} (hf : ∀ b, Within parts (f b)) (bs : List β) :
    Within parts (Prog.traverse f bs) := uses_traverse hf bs

theorem Within.filterMap {f : β → CoreM (Option α)} (hf : ∀ b, Within parts (f b))
    (bs : List β) : Within parts (Prog.filterMap f bs) := uses_filterMap hf bs

theorem Within.fold {f : α → β → CoreM α} (hf : ∀ a b, Within parts (f a b)) (a : α)
    (bs : List β) : Within parts (Prog.fold f a bs) := uses_fold hf a bs

theorem Within.reads (h : ∀ part, o.Touches part → False) :
    Within parts (Prog.perform (S := CoreState) o) :=
  uses_perform fun part htouch => (h part htouch).elim

theorem Within.writes (hpart : part ∈ parts) (h : ∀ part', o.Touches part' → part' = part) :
    Within parts (Prog.perform (S := CoreState) o) :=
  uses_perform fun part' htouch => (h part' htouch).symm ▸ hpart

end Rules

/-! ### The methods as programs -/

section Methods

variable {α V : Type} {parts : List Part}

theorem answer_within (edit : V → Panics (α × V)) (found : Option V) :
    Within parts (answer edit found) := by
  cases found with
  | none => exact Within.pure _
  | some value => exact (Within.lift _).bind fun _ => Within.pure _

theorem committed_keeps {edit : V → Panics (α × V)} {f : V → β}
    (h : ∀ v a v', edit v = .ok (a, v') → f v' = f v) (v : V) : f (committed edit v) = f v := by
  unfold committed
  split
  · rename_i a v' hedit
    exact h v a v' hedit
  · rfl

/-- What an edit of a session, held alone or with other things, keeps: whose session it is,
    and what is not listed. -/
structure SessionEdit (parts : List Part) (session : V → PlayerSessionState)
    (edit : V → Panics (α × V)) : Prop where
  entityId : ∀ v a v', edit v = .ok (a, v') → (session v').entityId = (session v).entityId
  view : .view ∈ parts ∨ ∀ v a v', edit v = .ok (a, v') → (session v').view = (session v).view
  activeContainer : .activeContainer ∈ parts ∨
    ∀ v a v', edit v = .ok (a, v') → (session v').activeContainer = (session v).activeContainer
  rest : .sessionRest ∈ parts

theorem SessionEdit.touches {session : V → PlayerSessionState} {edit : V → Panics (α × V)}
    (h : SessionEdit parts session edit) (hold : PlayerSessionState → V)
    (hhold : ∀ s, session (hold s) = s)
    (htouch : sessionTouches (fun s => session (committed edit (hold s))) part) : part ∈ parts := by
  cases part
  case online =>
    obtain ⟨s, hs⟩ := htouch
    refine absurd (committed_keeps (f := fun v => (session v).entityId) h.entityId (hold s)) ?_
    rw [hhold]
    exact hs
  case view =>
    obtain ⟨s, hs⟩ := htouch
    refine h.view.resolve_right fun hkept => hs ?_
    rw [committed_keeps (f := fun v => (session v).view) hkept, hhold]
  case activeContainer =>
    obtain ⟨s, hs⟩ := htouch
    refine h.activeContainer.resolve_right fun hkept => hs ?_
    rw [committed_keeps (f := fun v => (session v).activeContainer) hkept, hhold]
  case sessionRest => exact h.rest
  all_goals exact htouch.elim

theorem playerSessionMut_within {edit : PlayerSessionState → Panics (α × PlayerSessionState)}
    (h : SessionEdit parts id edit) : Within parts (playerSessionMut playerId edit) :=
  Within.bind (uses_perform fun _ htouch => h.touches id (fun _ => rfl) htouch)
    fun _ => answer_within _ _

theorem playerSessionInventoryMut_within
    {edit : PlayerSessionState × PlayerInventory →
      Panics (α × PlayerSessionState × PlayerInventory)} (hinventory : .inventory ∈ parts)
    (h : SessionEdit parts Prod.fst edit) :
    Within parts (playerSessionInventoryMut playerId edit) := by
  refine Within.bind (uses_perform fun part htouch => ?_) fun _ => answer_within _ _
  rcases htouch with rfl | ⟨inventory, htouch⟩
  · exact hinventory
  · exact h.touches (fun s => (s, inventory)) (fun _ => rfl) htouch

theorem playerTransformMut_within (hpart : .transform ∈ parts) (entityId : EntityId)
    (edit : PlayerTransform → Panics (α × PlayerTransform)) :
    Within parts (playerTransformMut entityId edit) :=
  Within.bind (Within.writes hpart fun _ h => h) fun _ => answer_within _ _

theorem playerInventoryMut_within (hpart : .inventory ∈ parts) (entityId : EntityId)
    (edit : PlayerInventory → Panics (α × PlayerInventory)) :
    Within parts (playerInventoryMut entityId edit) :=
  Within.bind (Within.writes hpart fun _ h => h) fun _ => answer_within _ _

theorem playerSelectedHotbarMut_within (hpart : .selectedHotbar ∈ parts) (entityId : EntityId)
    (edit : Nat → Panics (α × Nat)) : Within parts (playerSelectedHotbarMut entityId edit) :=
  Within.bind (Within.writes hpart fun _ h => h) fun _ => answer_within _ _

theorem playerActiveMiningMut_within (hpart : .activeMining ∈ parts) (entityId : EntityId)
    (edit : ActiveMiningState → Panics (α × ActiveMiningState)) :
    Within parts (playerActiveMiningMut entityId edit) :=
  Within.bind (Within.writes hpart fun _ h => h) fun _ => answer_within _ _

end Methods

end RevyCraft
