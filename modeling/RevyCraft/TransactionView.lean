/-
  RevyCraft/TransactionView.lean
  ==============================
  **A transaction sees the core it will commit to.**

  A call on a transaction reads, pushes an operation that it previews on the
  overlay, or begins or finalizes a login (`TxStep`).  Along any sequence of
  calls, reducing the journal on the core below gives a core that the overlay
  simulates (`Previews`).  When every login that was begun is finalized, the
  listing of the players' entities agrees as well, because then every player
  came online under the id it logged in with.
-/
import RevyCraft.Overlay
import RevyCraft.CanonicalContent

namespace RevyCraft

open Std

variable {C : ContentBehavior}

/-! ### Running transaction methods -/

variable {playerId : PlayerId} {player : PlayerSnapshot} {α : Type} {tx tx' : GameplayTransaction}
  {op : CoreOp} {connectionId : ConnectionId} {nowMs : Nat} {players : BTreeSet PlayerId}
  {s : OverlayState} {base : ServerCore}

theorem composePlayerSnapshot_online {σ : Type} {handler : Prog.Handler CoreState σ} {s s' : σ}
    (h : (Core.composePlayerSnapshot playerId).run handler s = .ok (some player, s')) :
    (handler (.playerEntityId playerId) s).1.isSome := by
  obtain ⟨found, t, hid, hrest⟩ := Prog.run_bind_ok h
  cases hid
  revert hrest
  cases (handler (.playerEntityId playerId) s).1 with
  | none =>
    intro hrest
    cases hrest
  | some entityId =>
    intro hrest
    rfl

namespace Tx

theorem bind_ok {β : Type} {m : TxM α} {f : α → TxM β} {tx'' : GameplayTransaction} {b : β}
    (h : (m >>= f) tx = .ok (b, tx'')) :
    ∃ a tx', m tx = .ok (a, tx') ∧ f a tx' = .ok (b, tx'') := by
  obtain ⟨⟨a, tx'⟩, hm, hf⟩ := except_bind_eq_ok.mp h
  exact ⟨a, tx', hm, hf⟩

theorem overlayView_ok {p : CoreM α} {a : α} (h : overlayView C p tx = .ok (a, tx')) :
    tx' = tx ∧ ∃ s, p.run (overlayState C) ⟨tx.snapshot, tx.overlay⟩ = .ok (a, s) := by
  obtain ⟨⟨b, s⟩, hp, h⟩ := except_bind_eq_ok.mp h
  cases h
  exact ⟨rfl, s, hp⟩

theorem onOverlay_ok {p : CoreM α} {a : α} (h : onOverlay C p tx = .ok (a, tx')) :
    ∃ s, p.run (overlayState C) ⟨tx.snapshot, tx.overlay⟩ = .ok (a, s) ∧
      tx' = { tx with snapshot := s.base, overlay := s.overlay } := by
  obtain ⟨⟨b, s⟩, hp, h⟩ := except_bind_eq_ok.mp h
  cases h
  exact ⟨s, hp, rfl⟩

end Tx

/-- The operations that a transaction previews outside of a login. -/
def CoreOp.Pushable : CoreOp → Prop
  | .setPlayerPose _ _ _ _ _ => True
  | .setSelectedHotbarSlot _ _ => True
  | .setInventorySlot _ _ _ => True
  | .clearMining _ => True
  | .beginMining _ _ _ => True
  | .openContainerAt _ _ => True
  | .openVirtualContainer _ _ => True
  | .setBlock _ _ => True
  | .spawnDroppedItem expectedEntityId _ _ => expectedEntityId = none
  | .emitEvent _ => True
  | _ => False

def GameplayTransaction.state (tx : GameplayTransaction) : OverlayState := ⟨tx.snapshot, tx.overlay⟩

/-- The transaction with a next state of its overlay, and an operation journaled. -/
def GameplayTransaction.journaled (tx : GameplayTransaction) (s : OverlayState) (op : CoreOp) :
    GameplayTransaction :=
  { tx with snapshot := s.base, overlay := s.overlay, journal := tx.journal ++ [op] }

variable (C) in
/-- What one call does to a transaction. -/
inductive TxStep (tx : GameplayTransaction) : GameplayTransaction → Prop where
  | read (readSet : GameplayReadSet) : TxStep tx { tx with readSet := readSet }
  | push {op : CoreOp} {applied : AppliedCoreOp} {s : OverlayState} (hop : op.Pushable)
      (hrun : (reduceCoreOp C op tx.nowMs tx.materializedPreviewPlayers).run (overlayState C)
        tx.state = .ok (applied, s)) : TxStep tx (tx.journaled s op)
  | beginLogin {playerId : PlayerId} {username : String} {allocated s : OverlayState}
      {entityId : EntityId} {applied : AppliedCoreOp} (readSet : GameplayReadSet)
      (habsent : tx.state.playerEntityId playerId = none)
      (hallocated : overlayState C .allocateEntityId tx.state = (entityId, allocated))
      (hrun : (reduceCoreOp C (.prepareLogin playerId
          (Tx.loginPlayer C tx.snapshot.world.config
            (overlaid tx.overlay.savedPlayers tx.snapshot.world.savedPlayers playerId) username
            playerId) entityId) tx.nowMs (tx.materializedPreviewPlayers.insert playerId)).run
        (overlayState C) allocated = .ok (applied, s)) :
      TxStep tx { tx.journaled s (.prepareLogin playerId
          (Tx.loginPlayer C tx.snapshot.world.config
            (overlaid tx.overlay.savedPlayers tx.snapshot.world.savedPlayers playerId) username
            playerId) entityId) with
        readSet := readSet, preparedPlayers := tx.preparedPlayers.insert playerId entityId }
  | finalizeLogin {connectionId : ConnectionId} {playerId : PlayerId} {applied : AppliedCoreOp}
      {s : OverlayState} (honline : (tx.state.playerEntityId playerId).isSome)
      (hrun : (reduceCoreOp C (.finalizeLogin connectionId playerId) tx.nowMs
        tx.materializedPreviewPlayers).run (overlayState C) tx.state = .ok (applied, s)) :
      TxStep tx { tx.journaled s (.finalizeLogin connectionId playerId) with
        finalizedPlayers := tx.finalizedPlayers.insert playerId }

variable {position : BlockPos} {entityId : EntityId} {applied : AppliedCoreOp}

namespace Tx

theorem pushPreviewedOp_ok (h : pushPreviewedOp C op tx = .ok ((), tx')) :
    ∃ applied s, (reduceCoreOp C op tx.nowMs tx.materializedPreviewPlayers).run (overlayState C)
      tx.state = .ok (applied, s) ∧ tx' = tx.journaled s op := by
  obtain ⟨tx₁, tx₂, hget, h⟩ := bind_ok h
  cases hget
  obtain ⟨applied, tx₃, hon, h⟩ := bind_ok h
  obtain ⟨s, hrun, rfl⟩ := onOverlay_ok hon
  cases h
  exact ⟨applied, s, hrun, rfl⟩

theorem push_step (h : pushPreviewedOp C op tx = .ok ((), tx')) (hop : op.Pushable) :
    TxStep C tx tx' := by
  obtain ⟨applied, s, hrun, rfl⟩ := pushPreviewedOp_ok h
  exact .push hop hrun

theorem finalizeLogin_ok {result : Except String Unit}
    (h : finalizeLogin C connectionId playerId tx = .ok (result, tx')) :
    ((∃ message, result = .error message) ∧ tx' = tx) ∨
      (result = .ok () ∧ (tx.state.playerEntityId playerId).isSome ∧ ∃ applied s,
        (reduceCoreOp C (.finalizeLogin connectionId playerId) tx.nowMs
          tx.materializedPreviewPlayers).run (overlayState C) tx.state = .ok (applied, s) ∧
        tx' = { tx.journaled s (.finalizeLogin connectionId playerId) with
          finalizedPlayers := tx.finalizedPlayers.insert playerId }) := by
  unfold finalizeLogin at h
  obtain ⟨snapshot, tx₁, hcompose, h₁⟩ := bind_ok h
  obtain ⟨htx₁, s, hcompose⟩ := overlayView_ok hcompose
  subst htx₁
  split at h₁
  · cases h₁
    exact .inl ⟨⟨_, rfl⟩, rfl⟩
  rename_i hsnapshot
  obtain ⟨session, tx₂, hsession, h₂⟩ := bind_ok h₁
  obtain ⟨htx₂, -⟩ := overlayView_ok hsession
  subst htx₂
  split at h₂
  · cases h₂
    exact .inl ⟨⟨_, rfl⟩, rfl⟩
  obtain ⟨_, tx₃, hmodify, h₃⟩ := bind_ok h₂
  cases hmodify
  obtain ⟨_, tx₄, hpush, h₄⟩ := bind_ok h₃
  obtain ⟨applied, s', hrun, rfl⟩ := pushPreviewedOp_ok hpush
  cases h₄
  refine .inr ⟨rfl, ?_, applied, s', hrun, rfl⟩
  cases snapshot with
  | none => exact absurd rfl hsnapshot
  | some player => exact composePlayerSnapshot_online hcompose

theorem finalizeLogin_step {result : Except String Unit}
    (h : finalizeLogin C connectionId playerId tx = .ok (result, tx')) :
    tx' = tx ∨ TxStep C tx tx' := by
  rcases finalizeLogin_ok h with ⟨-, rfl⟩ | ⟨-, honline, applied, s, hrun, rfl⟩
  · exact .inl rfl
  · exact .inr (.finalizeLogin honline hrun)

theorem beginLogin_ok {username : String} {rejection : Option (List TargetedEvent)}
    (h : beginLogin C connectionId username playerId tx = .ok (rejection, tx')) :
    ((∃ reason, rejection = some (rejectConnection connectionId reason)) ∧
      ∃ readSet, tx' = { tx with readSet := readSet }) ∨
    (rejection = none ∧ tx.state.playerEntityId playerId = none ∧
      ∃ (readSet : GameplayReadSet) (player : PlayerSnapshot) (allocated s : OverlayState)
        (entityId : EntityId) (applied : AppliedCoreOp),
        player = loginPlayer C tx.snapshot.world.config
          (overlaid tx.overlay.savedPlayers tx.snapshot.world.savedPlayers playerId) username
          playerId ∧
        overlayState C .allocateEntityId tx.state = (entityId, allocated) ∧
        (reduceCoreOp C (.prepareLogin playerId player entityId) tx.nowMs
          (tx.materializedPreviewPlayers.insert playerId)).run (overlayState C) allocated =
            .ok (applied, s) ∧
        tx' = { tx.journaled s (.prepareLogin playerId player entityId) with
          readSet := readSet, preparedPlayers := tx.preparedPlayers.insert playerId entityId }) := by
  unfold beginLogin at h
  split at h
  · cases h
    exact .inl ⟨⟨_, rfl⟩, tx.readSet, rfl⟩
  obtain ⟨count, tx₁, hcount, h₁⟩ := bind_ok h
  obtain ⟨htx₁, -⟩ := overlayView_ok hcount
  subst htx₁
  obtain ⟨_, tx₂, hrecord, h₂⟩ := bind_ok h₁
  cases hrecord
  obtain ⟨_, tx₃, hget, h₃⟩ := bind_ok h₂
  cases hget
  split at h₃
  · cases h₃
    exact .inl ⟨⟨_, rfl⟩, _, rfl⟩
  obtain ⟨existing, tx₄, hexisting, h₄⟩ := bind_ok h₃
  obtain ⟨htx₄, s₄, hexisting⟩ := overlayView_ok hexisting
  subst htx₄
  obtain ⟨_, tx₅, hrecord, h₅⟩ := bind_ok h₄
  cases hrecord
  split at h₅
  · cases h₅
    exact .inl ⟨⟨_, rfl⟩, _, rfl⟩
  rename_i hoffline
  obtain ⟨saved, tx₆, hsaved, h₆⟩ := bind_ok h₅
  obtain ⟨htx₆, s₆, hsaved⟩ := overlayView_ok hsaved
  subst htx₆
  obtain ⟨_, tx₇, hrecord, h₇⟩ := bind_ok h₆
  cases hrecord
  obtain ⟨_, tx₈, hget, h₈⟩ := bind_ok h₇
  cases hget
  obtain ⟨_, tx₉, hget, h₉⟩ := bind_ok h₈
  cases hget
  obtain ⟨_, tx₁₀, hrecord, h₁₀⟩ := bind_ok h₉
  cases hrecord
  obtain ⟨entityId, tx₁₁, hallocate, h₁₁⟩ := bind_ok h₁₀
  obtain ⟨allocated, hallocated, rfl⟩ := onOverlay_ok hallocate
  obtain ⟨_, tx₁₂, hget, h₁₂⟩ := bind_ok h₁₁
  cases hget
  obtain ⟨applied, tx₁₃, hprepare, h₁₃⟩ := bind_ok h₁₂
  obtain ⟨s, hrun, rfl⟩ := onOverlay_ok hprepare
  obtain ⟨_, tx₁₄, hmodify, h₁₄⟩ := bind_ok h₁₃
  cases hmodify
  cases h₁₄
  cases hexisting
  cases hsaved
  refine .inr ⟨rfl, Option.not_isSome_iff_eq_none.mp hoffline, _, _, allocated, s, entityId,
    applied, rfl, Except.ok.inj hallocated, hrun, rfl⟩

theorem beginLogin_step {username : String} {rejection : Option (List TargetedEvent)}
    (h : beginLogin C connectionId username playerId tx = .ok (rejection, tx')) :
    TxStep C tx tx' := by
  rcases beginLogin_ok h with ⟨-, readSet, rfl⟩ |
    ⟨-, habsent, readSet, player, allocated, s, entityId, applied, rfl, hallocated, hrun, rfl⟩
  · exact .read readSet
  · exact .beginLogin readSet habsent hallocated hrun

theorem recordedRead_ok (p : CoreM α) (decided : GameplayTransaction → Bool)
    (update : α → GameplayReadSet → GameplayReadSet) {a : α}
    (h : (do
      let found ← overlayView C p
      if !decided (← get) then record (update found)
      pure found : TxM α) tx = .ok (a, tx')) : ∃ readSet s, tx' = { tx with readSet := readSet } ∧
      p.run (overlayState C) tx.state = .ok (a, s) := by
  obtain ⟨found, tx₁, hview, h₁⟩ := bind_ok h
  obtain ⟨htx₁, s, hrun⟩ := overlayView_ok hview
  subst htx₁
  obtain ⟨_, tx₂, hget, h₂⟩ := bind_ok h₁
  cases hget
  split at h₂
  · cases h₂
    exact ⟨_, s, rfl, hrun⟩
  · cases h₂
    exact ⟨tx'.readSet, s, rfl, hrun⟩

theorem worldMeta_ok {current : WorldMeta} (h : worldMeta C tx = .ok (current, tx')) :
    ∃ readSet, tx' = { tx with readSet := readSet } := by
  obtain ⟨found, tx₁, hview, h₁⟩ := bind_ok h
  obtain ⟨htx₁, -⟩ := overlayView_ok hview
  subst htx₁
  cases h₁
  exact ⟨_, rfl⟩

theorem playerSnapshot_ok {player : Option PlayerSnapshot}
    (h : playerSnapshot C playerId tx = .ok (player, tx')) :
    ∃ readSet s, tx' = { tx with readSet := readSet } ∧
      (Core.composePlayerSnapshot playerId).run (overlayState C) tx.state = .ok (player, s) :=
  recordedRead_ok (Core.composePlayerSnapshot playerId) (·.overlayTouchesPlayer playerId)
    (fun snapshot reads => { reads with
      playerSnapshots := reads.playerSnapshots.insertIfNew playerId snapshot }) h

theorem blockState_ok {block : Option BlockState}
    (h : blockState C position tx = .ok (block, tx')) :
    ∃ readSet s, tx' = { tx with readSet := readSet } ∧
      (Core.blockState position).run (overlayState C) tx.state = .ok (block, s) :=
  recordedRead_ok (Core.blockState position) (·.overlayTouchesBlock position)
    (fun block reads => { reads with
      blockStates := reads.blockStates.insertIfNew position block }) h

theorem blockEntity_ok {entity : Option BlockEntityState}
    (h : blockEntity C position tx = .ok (entity, tx')) :
    ∃ readSet s, tx' = { tx with readSet := readSet } ∧
      (Core.blockEntity position).run (overlayState C) tx.state = .ok (entity, s) :=
  recordedRead_ok (Core.blockEntity position) (·.overlayTouchesBlockEntity position)
    (fun entity reads => { reads with
      blockEntities := reads.blockEntities.insertIfNew position entity }) h

theorem canEditBlock_ok {allowed : Bool}
    (h : canEditBlock C playerId position tx = .ok (allowed, tx')) :
    ∃ readSet s, tx' = { tx with readSet := readSet } ∧
      (canEditBlockNow playerId position).run (overlayState C) tx.state = .ok (allowed, s) :=
  recordedRead_ok (canEditBlockNow playerId position)
    (·.overlayMayAffectCanEditBlock playerId position)
    (fun allowed reads => { reads with
      canEditBlock := reads.canEditBlock.insertIfNew ⟨playerId, position⟩ allowed }) h

end Tx

/-! ### Sequences of calls -/

inductive TxCall where
  | worldMeta
  | playerSnapshot (playerId : PlayerId)
  | blockState (position : BlockPos)
  | blockEntity (position : BlockPos)
  | canEditBlock (playerId : PlayerId) (position : BlockPos)
  | setPlayerPose (playerId : PlayerId) (position : Option Vec3) (yaw pitch : Option Float32)
      (onGround : Bool)
  | setSelectedHotbarSlot (playerId : PlayerId) (slot : Nat)
  | setInventorySlot (playerId : PlayerId) (slot : InventorySlot) (stack : Option ItemStack)
  | clearMining (playerId : PlayerId)
  | beginMining (playerId : PlayerId) (position : BlockPos) (durationMs : Nat)
  | openContainerAt (playerId : PlayerId) (position : BlockPos)
  | openVirtualContainer (playerId : PlayerId) (kind : ContainerKindId)
  | setBlock (position : BlockPos) (block : Option BlockState)
  | spawnDroppedItem (position : Vec3) (item : ItemStack)
  | emitEvent (target : EventTarget) (event : CoreEvent)
  | beginLogin (connectionId : ConnectionId) (username : String) (playerId : PlayerId)
  | finalizeLogin (connectionId : ConnectionId) (playerId : PlayerId)

variable (C) in
def TxCall.run : TxCall → TxM Unit
  | .worldMeta => discard (Tx.worldMeta C)
  | .playerSnapshot playerId => discard (Tx.playerSnapshot C playerId)
  | .blockState position => discard (Tx.blockState C position)
  | .blockEntity position => discard (Tx.blockEntity C position)
  | .canEditBlock playerId position => discard (Tx.canEditBlock C playerId position)
  | .setPlayerPose playerId position yaw pitch onGround =>
    Tx.setPlayerPose C playerId position yaw pitch onGround
  | .setSelectedHotbarSlot playerId slot => Tx.setSelectedHotbarSlot C playerId slot
  | .setInventorySlot playerId slot stack => Tx.setInventorySlot C playerId slot stack
  | .clearMining playerId => Tx.clearMining C playerId
  | .beginMining playerId position durationMs => Tx.beginMining C playerId position durationMs
  | .openContainerAt playerId position => Tx.openContainerAt C playerId position
  | .openVirtualContainer playerId kind => Tx.openVirtualContainer C playerId kind
  | .setBlock position block => Tx.setBlock C position block
  | .spawnDroppedItem position item => Tx.spawnDroppedItem C position item
  | .emitEvent target event => Tx.emitEvent C target event
  | .beginLogin connectionId username playerId =>
    discard (Tx.beginLogin C connectionId username playerId)
  | .finalizeLogin connectionId playerId => discard (Tx.finalizeLogin C connectionId playerId)

variable (C) in
def runTxCalls : List TxCall → TxM Unit
  | [] => pure ()
  | call :: rest => do
    call.run C
    runTxCalls rest

theorem discard_ok {m : TxM α} (h : (discard m : TxM Unit) tx = .ok ((), tx')) :
    ∃ a, m tx = .ok (a, tx') := by
  obtain ⟨⟨a, tx₁⟩, hm, h⟩ := except_map_eq_ok.mp h
  cases h
  exact ⟨a, hm⟩

/-- **One call** is one step. -/
theorem TxCall.run_step {call : TxCall} (h : call.run C tx = .ok ((), tx')) : TxStep C tx tx' := by
  cases call
  case worldMeta =>
    obtain ⟨_, h⟩ := discard_ok h
    obtain ⟨readSet, rfl⟩ := Tx.worldMeta_ok h
    exact .read readSet
  case playerSnapshot =>
    obtain ⟨_, h⟩ := discard_ok h
    obtain ⟨readSet, -, rfl, -⟩ := Tx.playerSnapshot_ok h
    exact .read readSet
  case blockState =>
    obtain ⟨_, h⟩ := discard_ok h
    obtain ⟨readSet, -, rfl, -⟩ := Tx.blockState_ok h
    exact .read readSet
  case blockEntity =>
    obtain ⟨_, h⟩ := discard_ok h
    obtain ⟨readSet, -, rfl, -⟩ := Tx.blockEntity_ok h
    exact .read readSet
  case canEditBlock =>
    obtain ⟨_, h⟩ := discard_ok h
    obtain ⟨readSet, -, rfl, -⟩ := Tx.canEditBlock_ok h
    exact .read readSet
  case beginLogin =>
    obtain ⟨_, h⟩ := discard_ok h
    exact Tx.beginLogin_step h
  case finalizeLogin =>
    obtain ⟨_, h⟩ := discard_ok h
    rcases Tx.finalizeLogin_step h with rfl | hstep
    · exact .read tx'.readSet
    · exact hstep
  case spawnDroppedItem => exact Tx.push_step h rfl
  all_goals exact Tx.push_step h trivial

/-! ### Reducing a journal -/

variable (C) in
/-- The loop of `apply_core_ops` without its events. -/
def reduceOps (nowMs : Nat) (players : BTreeSet PlayerId) :
    List CoreOp → ServerCore → Panics ServerCore
  | [], core => .ok core
  | op :: rest, core => do
    let (_, core) ← (reduceCoreOp C op nowMs players).run (baseState C) core
    reduceOps nowMs players rest core

theorem reduceOps_snoc (nowMs : Nat) (players : BTreeSet PlayerId) (ops : List CoreOp)
    (op : CoreOp) (core : ServerCore) :
    reduceOps C nowMs players (ops ++ [op]) core =
      (reduceOps C nowMs players ops core).bind fun core =>
        ((reduceCoreOp C op nowMs players).run (baseState C) core).map (·.2) := by
  induction ops generalizing core with
  | nil =>
    simp only [List.nil_append, reduceOps, Except.bind]
    cases (reduceCoreOp C op nowMs players).run (baseState C) core <;> rfl
  | cons first rest ih =>
    simp only [List.cons_append, reduceOps, ih]
    cases (reduceCoreOp C first nowMs players).run (baseState C) core <;> rfl

theorem applyOpsFrom_state (nowMs : Nat) (players : BTreeSet PlayerId) (ops : List CoreOp)
    (builder : CoreEventBuilder) (core : ServerCore) :
    (applyOpsFrom C nowMs players ops builder core).map (·.2) =
      reduceOps C nowMs players ops core := by
  induction ops generalizing builder core with
  | nil => rfl
  | cons op rest ih =>
    simp only [applyOpsFrom, reduceOps]
    rcases (reduceCoreOp C op nowMs players).run (baseState C) core with message | ⟨applied, core'⟩
    · rfl
    · have hrest := ih (builder.build C core' applied).2 core'
      simp only [bind, Except.bind] at hrest ⊢
      rw [← hrest]
      rcases applyOpsFrom C nowMs players rest (builder.build C core' applied).2 core'
        with message | ⟨later, core''⟩
      · rfl
      · rfl

theorem reduceCoreOp_players
    (hop : ∀ playerId player entityId, op ≠ .prepareLogin playerId player entityId) (nowMs : Nat)
    (players others : BTreeSet PlayerId) :
    reduceCoreOp C op nowMs players = reduceCoreOp C op nowMs others := by
  cases op
  case prepareLogin playerId player entityId => exact absurd rfl (hop playerId player entityId)
  all_goals rfl

theorem CoreOp.Pushable.not_prepareLogin (hop : op.Pushable) (playerId : PlayerId)
    (player : PlayerSnapshot) (entityId : EntityId) :
    op ≠ .prepareLogin playerId player entityId := by
  rintro rfl
  exact hop

theorem CoreOp.Pushable.parts (hop : op.Pushable) :
    .entityListing ∉ op.parts ∧ .online ∉ op.parts ∧ .savedPlayers ∉ op.parts := by
  cases op <;> first
    | exact hop.elim
    | simp [CoreOp.parts, windowParts, blockParts]

theorem reduce_prepareLogin {σ : Type} {handler : Prog.Handler CoreState σ}
    (hplayer : playerId ∈ players) (s : σ) :
    (reduceCoreOp C (.prepareLogin playerId player entityId) nowMs players).run handler s =
      player.position.chunkPos.map fun center => (.prepareLogin playerId entityId,
        (handler (.spawnOnlinePlayer player center nowMs (some entityId)) s).2) := by
  unfold reduceCoreOp
  dsimp only
  rw [if_pos (ExtTreeSet.contains_iff_mem.mpr hplayer)]
  unfold Core.spawnOnlinePlayer
  cases player.position.chunkPos with
  | ok center => rfl
  | error message => rfl

/-! ### The overlay's own entries -/

/-- Only coming and going of players records an entry of their index, and only saving a
    player one of the saved players. -/
theorem overlay_entries_kept (o : StateOp) (s : OverlayState) :
    (¬ o.Touches .online →
      (overlayState C o s).2.overlay.playersByPlayerId = s.overlay.playersByPlayerId) ∧
    (¬ o.Touches .savedPlayers →
      (overlayState C o s).2.overlay.savedPlayers = s.overlay.savedPlayers) := by
  cases o
  case ensureChunk pos =>
    simp only [overlayState, OverlayState.ensureChunk]
    split <;> simp
  case setBlockState position block =>
    simp only [overlayState, OverlayState.setBlockAt, OverlayState.ensureChunk]
    split <;> simp
  case playerSessionInventoryMut playerId edit =>
    simp only [overlayState, OverlayState.editSessionInventory]
    repeat' split
    all_goals simp
  case removePlayerActiveMining entityId =>
    simp only [overlayState]
    split <;> simp
  case takeDroppedItem entityId =>
    simp only [overlayState]
    split <;> simp
  case setSavedPlayer playerId snapshot => exact ⟨fun _ => rfl, fun h => absurd rfl h⟩
  case spawnOnlinePlayer player center nowMs expectedEntityId =>
    exact ⟨fun h => absurd (List.mem_cons_self) h, fun _ => rfl⟩
  case removeOnlinePlayer playerId =>
    refine ⟨fun h => absurd (List.mem_cons_self) h, fun _ => ?_⟩
    simp only [overlayState, OverlayState.removeOnlinePlayer]
    split <;> rfl
  all_goals exact ⟨fun _ => rfl, fun _ => rfl⟩

theorem overlay_run_entries {parts : List Part} {p : CoreM α} (hp : Within parts p)
    (honline : .online ∉ parts) (hsaved : .savedPlayers ∉ parts) {s' : OverlayState} {a : α}
    (hrun : p.run (overlayState C) s = .ok (a, s')) :
    s'.overlay.playersByPlayerId = s.overlay.playersByPlayerId ∧
      s'.overlay.savedPlayers = s.overlay.savedPlayers := by
  induction p generalizing s with
  | pure b =>
    cases hrun
    exact ⟨rfl, rfl⟩
  | op o next ih =>
    have hkept := overlay_entries_kept (C := C) o s
    obtain ⟨hindex, hplayers⟩ := ih _ (hp.2 _) hrun
    rw [hkept.1 fun htouch => honline (hp.1 _ htouch)] at hindex
    rw [hkept.2 fun htouch => hsaved (hp.1 _ htouch)] at hplayers
    exact ⟨hindex, hplayers⟩
  | panic message => cases hrun

/-! ### Logins -/

/-- The player a login is for, and the id under which it comes online. -/
def CoreOp.login? : CoreOp → Option (PlayerId × PlayerId)
  | .prepareLogin playerId player _ => some (playerId, player.id)
  | _ => none

def loginsOf (journal : List CoreOp) : List (PlayerId × PlayerId) := journal.filterMap CoreOp.login?

theorem loginsOf_snoc_other
    (hop : ∀ playerId player entityId, op ≠ .prepareLogin playerId player entityId)
    (journal : List CoreOp) : loginsOf (journal ++ [op]) = loginsOf journal := by
  have hnone : op.login? = none := by
    cases op
    case prepareLogin playerId player entityId => exact absurd rfl (hop playerId player entityId)
    all_goals rfl
  simp [loginsOf, List.filterMap_append, hnone]

theorem loginsOf_snoc_login (journal : List CoreOp) (playerId : PlayerId)
    (player : PlayerSnapshot) (entityId : EntityId) :
    loginsOf (journal ++ [.prepareLogin playerId player entityId]) =
      loginsOf journal ++ [(playerId, player.id)] := by
  simp [loginsOf, List.filterMap_append, CoreOp.login?]

/-- When every pair's first component is some pair's second, but not that of an earlier one,
    the components agree. -/
theorem components_agree {l : List (α × α)}
    (hfresh : l.Pairwise fun earlier later => earlier.2 ≠ later.1)
    (hcovered : ∀ a ∈ l, ∃ b ∈ l, b.2 = a.1) (hsame : ∀ a ∈ l, ∀ b ∈ l, a.1 = b.1 → a.2 = b.2) :
    ∀ a ∈ l, a.2 = a.1 := by
  have hsuffix : ∀ l₂ l₁ : List (α × α), l = l₁ ++ l₂ → ∀ a ∈ l₂, a.2 = a.1 := by
    intro l₂
    induction l₂ with
    | nil => simp
    | cons first rest ih =>
      intro l₁ hl a ha
      have hrest := ih (l₁ ++ [first]) (by simp [hl])
      rcases List.mem_cons.mp ha with rfl | ha
      · obtain ⟨b, hb, hba⟩ := hcovered a (by simp [hl])
        rw [hl] at hb hfresh
        rcases List.mem_append.mp hb with hb | hb
        · exact absurd hba ((List.pairwise_append.mp hfresh).2.2 b hb a List.mem_cons_self)
        · rcases List.mem_cons.mp hb with rfl | hb
          · exact hba
          · have hb' := hrest b hb
            have hab : a.1 = b.1 := by rw [← hba, hb']
            rw [hsame a (by simp [hl]) b (by simp [hl, hb]) hab, hba]
      · exact hrest a ha
  exact hsuffix l [] rfl

/-- The id under which a login brings a player online. -/
def savedId (core : ServerCore) (playerId : PlayerId) : PlayerId :=
  ((core.world.savedPlayers[playerId]?).map (·.id)).getD playerId

theorem loginPlayer_id (config : CoreConfig) (saved : Option PlayerSnapshot) (username : String)
    (playerId : PlayerId) :
    (Tx.loginPlayer C config saved username playerId).id = (saved.map (·.id)).getD playerId := by
  cases saved <;> rfl

/-! ### The invariant -/

variable (C) in
/-- Reducing the journal on the core below gives a core that the overlay simulates. -/
structure Previews (base : ServerCore) (nowMs : Nat) (tx : GameplayTransaction) : Prop where
  snapshot : tx.snapshot = base
  now : tx.nowMs = nowMs
  replay : ∀ players : BTreeSet PlayerId, (∀ login ∈ loginsOf tx.journal, login.1 ∈ players) →
    ∃ core, reduceOps C nowMs players tx.journal base = .ok core ∧ Simulates C tx.state core
  prepared : ∀ login ∈ loginsOf tx.journal, login.1 ∈ tx.preparedPlayers
  finalized : ∀ playerId ∈ tx.finalizedPlayers,
    (tx.state.playerEntityId playerId).isSome ∧ ∃ connectionId,
      CoreOp.finalizeLogin connectionId playerId ∈ tx.journal
  saved : tx.overlay.savedPlayers = ∅
  /-- Every recorded entry of the index is of a login. -/
  entries : ∀ (playerId : PlayerId) (entry : Option EntityId),
    tx.overlay.playersByPlayerId[playerId]? = some entry →
      entry.isSome ∧ ∃ login ∈ loginsOf tx.journal, login.2 = playerId
  ids : ∀ login ∈ loginsOf tx.journal, login.2 = savedId base login.1
  offline : ∀ login ∈ loginsOf tx.journal, base.entities.playersByPlayerId[login.1]? = none
  fresh : (loginsOf tx.journal).Pairwise fun earlier later => earlier.2 ≠ later.1
  shown : ∀ login ∈ loginsOf tx.journal,
    tx.overlay.playersByPlayerId[login.2]?.isSome

theorem Previews.new (base : ServerCore) (nowMs : Nat) :
    Previews C base nowMs (.new base nowMs) where
  snapshot := rfl
  now := rfl
  replay := fun _ _ => ⟨base, rfl, .fresh base⟩
  prepared := by simp [GameplayTransaction.new, loginsOf]
  finalized := by simp [GameplayTransaction.new]
  saved := rfl
  entries := by simp [GameplayTransaction.new, TxOverlay.default]
  ids := by simp [GameplayTransaction.new, loginsOf]
  offline := by simp [GameplayTransaction.new, loginsOf]
  fresh := .nil
  shown := by simp [GameplayTransaction.new, loginsOf]

theorem Previews.journaled (h : Previews C base nowMs tx)
    (hop : ∀ playerId player entityId, op ≠ .prepareLogin playerId player entityId)
    (hparts : .entityListing ∉ op.parts ∧ .online ∉ op.parts ∧ .savedPlayers ∉ op.parts)
    (hrun : (reduceCoreOp C op tx.nowMs players).run (overlayState C) tx.state = .ok (applied, s)) :
    Previews C base nowMs (tx.journaled s op) := by
  have hlogins := loginsOf_snoc_other hop tx.journal
  have hbase := overlay_run_base _ hrun
  obtain ⟨hentries, hsaved⟩ := overlay_run_entries
    (reduceCoreOp_within op tx.nowMs players) hparts.2.1 hparts.2.2 hrun
  constructor
  case snapshot => exact hbase.trans h.snapshot
  case now => exact h.now
  case replay =>
    intro others hothers
    change ∀ login ∈ loginsOf (tx.journal ++ [op]), _ at hothers
    rw [hlogins] at hothers
    obtain ⟨core, hreduce, hsim⟩ := h.replay others hothers
    have hagree := overlay_run (reduceCoreOp_within (C := C) op tx.nowMs players) hparts.1 hsim
    rw [hrun] at hagree
    obtain ⟨core', hcore', hsim'⟩ := hagree.ok
    refine ⟨core', ?_, hsim'⟩
    change reduceOps C nowMs others (tx.journal ++ [op]) base = _
    rw [reduceOps_snoc, hreduce, ← h.now, reduceCoreOp_players hop tx.nowMs others players]
    simp only [Except.bind, hcore']
    rfl
  case prepared =>
    change ∀ login ∈ loginsOf (tx.journal ++ [op]), _
    rw [hlogins]
    exact h.prepared
  case finalized =>
    intro playerId hplayer
    obtain ⟨honline, connectionId, hmem⟩ := h.finalized playerId hplayer
    refine ⟨?_, connectionId, List.mem_append_left _ hmem⟩
    change (s.playerEntityId playerId).isSome
    unfold OverlayState.playerEntityId at honline ⊢
    rw [hentries, hbase]
    exact honline
  case saved => exact hsaved.trans h.saved
  case entries =>
    change ∀ playerId entry, s.overlay.playersByPlayerId[playerId]? = some entry →
      _ ∧ ∃ login ∈ loginsOf (tx.journal ++ [op]), _
    rw [hlogins, hentries]
    exact h.entries
  case ids =>
    change ∀ login ∈ loginsOf (tx.journal ++ [op]), _
    rw [hlogins]
    exact h.ids
  case offline =>
    change ∀ login ∈ loginsOf (tx.journal ++ [op]), _
    rw [hlogins]
    exact h.offline
  case fresh =>
    change (loginsOf (tx.journal ++ [op])).Pairwise _
    rw [hlogins]
    exact h.fresh
  case shown =>
    change ∀ login ∈ loginsOf (tx.journal ++ [op]), (s.overlay.playersByPlayerId[login.2]?).isSome
    rw [hlogins, hentries]
    exact h.shown

/-- A player that is given the id an allocation just took leaves the counter where the
    allocation left it. -/
theorem spawn_after_allocate (core : ServerCore) (player : PlayerSnapshot) (center : ChunkPos)
    (nowMs : Nat) :
    ServerCore.spawnOnlinePlayer
        { core with entities.nextEntityId := saturatingSuccI32 core.entities.nextEntityId } player
        center nowMs (some ⟨core.entities.nextEntityId⟩) =
      core.spawnOnlinePlayer player center nowMs (some ⟨core.entities.nextEntityId⟩) := by
  simp [ServerCore.spawnOnlinePlayer, ServerCore.claimEntityId]

theorem beginLogin_overlay {allocated s₀ : OverlayState}
    (hallocated : overlayState C .allocateEntityId s₀ = (entityId, allocated))
    (hrun : (reduceCoreOp C (.prepareLogin playerId player entityId) nowMs
      (players.insert playerId)).run (overlayState C) allocated = .ok (applied, s)) :
    ∃ center, player.position.chunkPos = .ok center ∧
      s = (allocated.spawnOnlinePlayer player center nowMs (some entityId)).2 ∧
      s.base = s₀.base ∧ s.overlay.savedPlayers = s₀.overlay.savedPlayers ∧
      s.overlay.playersByPlayerId = s₀.overlay.playersByPlayerId.insert player.id (some entityId) := by
  rw [reduce_prepareLogin (by simp)] at hrun
  obtain ⟨center, hcenter, hs⟩ := except_map_eq_ok.mp hrun
  cases hallocated
  cases hs
  exact ⟨center, hcenter, rfl, rfl, rfl, rfl⟩

theorem Simulates.beginLogin {allocated s₀ : OverlayState} {others : BTreeSet PlayerId}
    {core : ServerCore} (hsim : Simulates C s₀ core)
    (hallocated : overlayState C .allocateEntityId s₀ = (entityId, allocated))
    (hrun : (reduceCoreOp C (.prepareLogin playerId player entityId) nowMs
      (players.insert playerId)).run (overlayState C) allocated = .ok (applied, s))
    (hplayer : playerId ∈ others) :
    ∃ core', (reduceCoreOp C (.prepareLogin playerId player entityId) nowMs others).run
        (baseState C) core = .ok (applied, core') ∧ Simulates C s core' := by
  obtain ⟨hid, hallocatedSim⟩ := overlay_step .allocateEntityId (fun h => by cases h) hsim
  rw [hallocated] at hid hallocatedSim
  obtain ⟨center, hcenter, rfl, -⟩ := beginLogin_overlay hallocated hrun
  rw [reduce_prepareLogin (by simp), hcenter] at hrun
  cases hrun
  have hspawned := (hallocatedSim.spawnOnlinePlayer player center nowMs (some entityId)).2
  change entityId = ⟨core.entities.nextEntityId⟩ at hid
  subst hid
  refine ⟨(core.spawnOnlinePlayer player center nowMs
    (some ⟨core.entities.nextEntityId⟩)).2, ?_, ?_⟩
  · rw [reduce_prepareLogin hplayer, hcenter]
    rfl
  · rw [← spawn_after_allocate]
    exact hspawned

/-- A player without an entity in the overlay is offline below and none of the logins. -/
theorem Previews.absent (h : Previews C base nowMs tx)
    (habsent : tx.state.playerEntityId playerId = none) :
    base.entities.playersByPlayerId[playerId]? = none ∧
      ∀ login ∈ loginsOf tx.journal, login.2 ≠ playerId := by
  unfold OverlayState.playerEntityId overlaid at habsent
  cases hentry : tx.state.overlay.playersByPlayerId[playerId]? with
  | some entry =>
    rw [hentry] at habsent
    obtain ⟨hsome, -⟩ := h.entries playerId entry hentry
    change entry = none at habsent
    rw [habsent] at hsome
    cases hsome
  | none =>
    rw [hentry] at habsent
    refine ⟨by rw [← h.snapshot]; exact habsent, ?_⟩
    rintro login hlogin rfl
    have hshown := h.shown login hlogin
    change (tx.state.overlay.playersByPlayerId[login.2]?).isSome at hshown
    rw [hentry] at hshown
    cases hshown

theorem Previews.step (h : Previews C base nowMs tx) (hstep : TxStep C tx tx') :
    Previews C base nowMs tx' := by
  cases hstep with
  | read readSet => exact { h with }
  | push hop hrun => exact h.journaled hop.not_prepareLogin hop.parts hrun
  | @finalizeLogin connectionId playerId applied s honline hrun =>
    have hkept := h.journaled (by simp) (by simp [CoreOp.parts]) hrun
    refine { hkept with finalized := ?_ }
    intro other hother
    change other ∈ tx.finalizedPlayers.insert playerId at hother
    rw [ExtTreeSet.mem_insert] at hother
    rcases hother with heq | hother
    · obtain rfl := LawfulEqCmp.eq_of_compare heq
      refine ⟨?_, connectionId, List.mem_append_right _ (List.mem_singleton_self _)⟩
      have hentries := overlay_run_entries
        (reduceCoreOp_within (.finalizeLogin connectionId playerId) tx.nowMs _)
        (by simp [CoreOp.parts]) (by simp [CoreOp.parts]) hrun
      have hbase := overlay_run_base _ hrun
      change (s.playerEntityId playerId).isSome
      unfold OverlayState.playerEntityId at honline ⊢
      rw [hentries.1, hbase]
      exact honline
    · exact hkept.finalized other hother
  | @beginLogin playerId username allocated s entityId applied readSet habsent hallocated hrun =>
    have hsaved : overlaid tx.overlay.savedPlayers tx.snapshot.world.savedPlayers playerId =
        base.world.savedPlayers[playerId]? := by
      rw [h.saved, h.snapshot]
      exact Shows.empty playerId
    generalize hplayer : Tx.loginPlayer C tx.snapshot.world.config
      (overlaid tx.overlay.savedPlayers tx.snapshot.world.savedPlayers playerId) username
      playerId = player at hrun
    have hid : player.id = savedId base playerId := by
      rw [← hplayer, loginPlayer_id, hsaved]
      rfl
    obtain ⟨center, -, -, hbase, hsavedKept, hentries⟩ := beginLogin_overlay hallocated hrun
    obtain ⟨hoffline, hother⟩ := h.absent habsent
    have hlogins := loginsOf_snoc_login tx.journal playerId player entityId
    have hjournal : ∀ login, login ∈ loginsOf (tx.journal ++
        [CoreOp.prepareLogin playerId player entityId]) ↔
        login ∈ loginsOf tx.journal ∨ login = (playerId, player.id) := by
      intro login
      rw [hlogins, List.mem_append, List.mem_singleton]
    constructor
    case snapshot => exact hbase.trans h.snapshot
    case now => exact h.now
    case replay =>
      intro others hothers
      obtain ⟨core, hreduce, hsim⟩ := h.replay others fun login hlogin =>
        hothers login ((hjournal login).mpr (.inl hlogin))
      obtain ⟨core', hcore', hsim'⟩ := hsim.beginLogin hallocated hrun
        (hothers (playerId, player.id) ((hjournal _).mpr (.inr rfl)))
      refine ⟨core', ?_, hsim'⟩
      change reduceOps C nowMs others
        (tx.journal ++ [CoreOp.prepareLogin playerId player entityId]) base = _
      rw [reduceOps_snoc, hreduce, ← h.now]
      simp only [Except.bind, hcore']
      rfl
    case prepared =>
      intro login hlogin
      change login.1 ∈ tx.preparedPlayers.insert playerId entityId
      rw [ExtTreeMap.mem_insert]
      rcases (hjournal login).mp hlogin with hlogin | rfl
      · exact .inr (h.prepared login hlogin)
      · exact .inl ReflCmp.compare_self
    case finalized =>
      intro other hfinal
      obtain ⟨honline, connectionId, hmem⟩ := h.finalized other hfinal
      refine ⟨?_, connectionId, List.mem_append_left _ hmem⟩
      change (overlaid s.overlay.playersByPlayerId s.base.entities.playersByPlayerId other).isSome
      rw [hentries, hbase, overlaid_insert]
      split
      · rfl
      · exact honline
    case saved => exact hsavedKept.trans h.saved
    case entries =>
      intro other entry hentry
      change s.overlay.playersByPlayerId[other]? = some entry at hentry
      rw [hentries, BTreeMap.getElem?_insert_eq] at hentry
      split at hentry
      · rename_i heq
        cases hentry
        exact ⟨rfl, (playerId, player.id), (hjournal _).mpr (.inr rfl), heq⟩
      · obtain ⟨hsome, login, hlogin, hid⟩ := h.entries other entry hentry
        exact ⟨hsome, login, (hjournal _).mpr (.inl hlogin), hid⟩
    case ids =>
      intro login hlogin
      rcases (hjournal login).mp hlogin with hlogin | rfl
      · exact h.ids login hlogin
      · exact hid
    case offline =>
      intro login hlogin
      rcases (hjournal login).mp hlogin with hlogin | rfl
      · exact h.offline login hlogin
      · exact hoffline
    case fresh =>
      change (loginsOf (tx.journal ++
        [CoreOp.prepareLogin playerId player entityId])).Pairwise _
      rw [hlogins, List.pairwise_append]
      refine ⟨h.fresh, List.pairwise_singleton _ _, ?_⟩
      intro earlier hearlier later hlater
      obtain rfl := List.mem_singleton.mp hlater
      exact hother earlier hearlier
    case shown =>
      intro login hlogin
      change (s.overlay.playersByPlayerId[login.2]?).isSome
      rw [hentries, BTreeMap.getElem?_insert_eq]
      split
      · rfl
      · rcases (hjournal login).mp hlogin with hlogin | rfl
        · exact h.shown login hlogin
        · contradiction

theorem Previews.run {calls : List TxCall} (h : Previews C base nowMs tx)
    (hrun : runTxCalls C calls tx = .ok ((), tx')) : Previews C base nowMs tx' := by
  induction calls generalizing tx with
  | nil =>
    cases hrun
    exact h
  | cons call rest ih =>
    obtain ⟨_, tx₁, hcall, hrest⟩ := Tx.bind_ok hrun
    exact ih (h.step (TxCall.run_step hcall)) hrest

/-! ### The listing of the players' entities -/

theorem mem_foldl_insert (below : BTreeMap PlayerId EntityId)
    (entries : List (PlayerId × Option EntityId)) (hsome : ∀ entry ∈ entries, entry.2.isSome)
    (ids : BTreeSet EntityId) (entityId : EntityId) :
    entityId ∈ entries.foldl (fun entityIds (entry : PlayerId × Option EntityId) =>
        match entry.2 with
        | some entityId => entityIds.insert entityId
        | none =>
          match below[entry.1]? with
          | some entityId => entityIds.erase entityId
          | none => entityIds) ids ↔
      entityId ∈ ids ∨ ∃ playerId, (playerId, some entityId) ∈ entries := by
  induction entries generalizing ids with
  | nil => simp
  | cons entry rest ih =>
    obtain ⟨playerId, value⟩ := entry
    have hvalue := hsome _ List.mem_cons_self
    rw [List.foldl_cons, ih fun entry' h' => hsome entry' (List.mem_cons_of_mem _ h')]
    cases value with
    | none => cases hvalue
    | some other =>
      simp only [ExtTreeSet.mem_insert, List.mem_cons, Prod.mk.injEq, Option.some.injEq]
      by_cases heq : other = entityId
      · subst heq
        simp
      · have hne : ¬ compare other entityId = .eq := fun h => heq (LawfulEqCmp.eq_of_compare h)
        simp [hne, Ne.symm heq]

/-- With every login finalized under its own id, the overlay lists the entities of the core. -/
theorem Simulates.playerEntityIds {core : ServerCore} (h : Simulates C s core)
    (hentries : ∀ (playerId : PlayerId) (entry : Option EntityId),
      s.overlay.playersByPlayerId[playerId]? = some entry →
        entry.isSome ∧ s.base.entities.playersByPlayerId[playerId]? = none) :
    s.playerEntityIds = ExtTreeSet.ofList core.entities.playersByPlayerId.values compare := by
  refine ExtTreeSet.ext_mem fun entityId => ?_
  have hsome : ∀ entry ∈ s.overlay.playersByPlayerId.toList, entry.2.isSome := by
    rintro ⟨playerId, entry⟩ hentry
    exact (hentries playerId entry (BTreeMap.mem_toList.mp hentry)).1
  refine (mem_foldl_insert _ _ hsome _ entityId).trans ?_
  simp only [ExtTreeSet.mem_ofList, List.contains_iff_mem, BTreeMap.mem_values,
    BTreeMap.mem_toList]
  constructor
  · rintro (⟨playerId, hbelow⟩ | ⟨playerId, hentry⟩)
    · refine ⟨playerId, ?_⟩
      rw [← h.playersByPlayerId playerId, overlaid]
      cases hentry : s.overlay.playersByPlayerId[playerId]? with
      | none => exact hbelow
      | some entry =>
        have hnone := (hentries playerId entry hentry).2
        rw [hbelow] at hnone
        cases hnone
    · refine ⟨playerId, ?_⟩
      rw [← h.playersByPlayerId playerId, overlaid, hentry]
      rfl
  · rintro ⟨playerId, hcore⟩
    rw [← h.playersByPlayerId playerId, overlaid] at hcore
    cases hentry : s.overlay.playersByPlayerId[playerId]? with
    | none =>
      rw [hentry] at hcore
      exact .inl ⟨playerId, hcore⟩
    | some entry =>
      rw [hentry] at hcore
      refine .inr ⟨playerId, ?_⟩
      rw [hentry]
      exact congrArg some hcore

/-- When every begun login is finalized, every player came online under its own id. -/
theorem Previews.entries_offline (h : Previews C base nowMs tx)
    (hfinalized : ∀ playerId ∈ tx.preparedPlayers, playerId ∈ tx.finalizedPlayers)
    {entry : Option EntityId} (hentry : tx.overlay.playersByPlayerId[playerId]? = some entry) :
    entry.isSome ∧ base.entities.playersByPlayerId[playerId]? = none := by
  have hown : ∀ login ∈ loginsOf tx.journal, login.2 = login.1 := by
    refine components_agree h.fresh ?_ ?_
    · intro login hlogin
      obtain ⟨honline, -⟩ := h.finalized _ (hfinalized _ (h.prepared login hlogin))
      by_contra hnone
      rw [not_exists] at hnone
      -- nothing recorded for it, and it was offline below
      have hunrecorded : tx.overlay.playersByPlayerId[login.1]? = none := by
        cases hentry' : tx.overlay.playersByPlayerId[login.1]? with
        | none => rfl
        | some entry' =>
          obtain ⟨-, other, hother, hid⟩ := h.entries _ _ hentry'
          exact absurd ⟨hother, hid⟩ (hnone other)
      have hoffline := h.offline login hlogin
      rw [← h.snapshot] at hoffline
      change (overlaid tx.overlay.playersByPlayerId
        tx.snapshot.entities.playersByPlayerId login.1).isSome at honline
      rw [overlaid, hunrecorded, Option.getD_none, hoffline] at honline
      cases honline
    · intro a ha b hb hab
      rw [h.ids a ha, h.ids b hb, hab]
  obtain ⟨hsome, login, hlogin, rfl⟩ := h.entries playerId entry hentry
  refine ⟨hsome, ?_⟩
  rw [hown login hlogin]
  exact h.offline login hlogin

/-! ### The view of a transaction -/

/-- The methods of `CoreStateRead`. -/
def StateOp.IsRead : StateOp → Prop
  | .config | .worldMeta | .blockState _ | .blockEntity _ | .savedPlayer _ | .playerEntityId _
  | .playerSession _ | .playerIdentityByEntity _ | .playerTransformByEntity _
  | .playerVitalsByEntity _ | .playerInventoryByEntity _ | .playerSelectedHotbarByEntity _
  | .playerActiveMiningByEntity _ | .droppedItemByEntity _ | .playerIds | .playerEntityIds
  | .droppedItemIds | .containerViewers _ | .keepaliveIntervalMs => True
  | _ => False

/-- **The overlay simulates the live core.**  After any calls on a transaction of which every
    begun login is finalized, applying the journal to the core below succeeds and gives a core
    that answers every read as the overlay does; the core below is as it was. -/
theorem transaction_previews_commit {base : ServerCore} {nowMs : Nat} {calls : List TxCall}
    {tx : GameplayTransaction}
    (hrun : (runTxCalls C calls).run (.new base nowMs) = .ok ((), tx))
    (hfinalized : ∀ playerId ∈ tx.preparedPlayers, playerId ∈ tx.finalizedPlayers) :
    tx.snapshot = base ∧ ∃ events core,
      applyCoreOps C base tx.journal nowMs = .ok (events, core) ∧
      (∀ o : StateOp, o.IsRead →
        (overlayState C o tx.state).1 = (baseState C o core).1) ∧
      (∀ entityId : EntityId, overlaid tx.overlay.entityKinds base.entities.entityKinds entityId =
        core.entities.entityKinds[entityId]?) ∧
      tx.currentNextEntityId = core.entities.nextEntityId := by
  have h : Previews C base nowMs tx := (Previews.new base nowMs).run hrun
  have hplayers : ∀ login ∈ loginsOf tx.journal, login.1 ∈ finalizedPlayersOf tx.journal := by
    intro login hlogin
    obtain ⟨-, connectionId, hmem⟩ := h.finalized _ (hfinalized _ (h.prepared login hlogin))
    simp only [finalizedPlayersOf, ExtTreeSet.mem_ofList, List.contains_iff_mem,
      List.mem_filterMap]
    exact ⟨_, hmem, rfl⟩
  obtain ⟨core, hreduce, hsim⟩ := h.replay _ hplayers
  rw [← applyOpsFrom_state nowMs _ tx.journal (.new ∅) base] at hreduce
  obtain ⟨⟨events, core'⟩, happly, rfl⟩ := except_map_eq_ok.mp hreduce
  refine ⟨h.snapshot, events, core', happly, ?_, ?_, hsim.nextEntityId⟩
  · intro o ho
    by_cases hlisting : o = .playerEntityIds
    · subst hlisting
      refine hsim.playerEntityIds fun playerId entry hentry => ?_
      obtain ⟨hsome, hoffline⟩ := h.entries_offline hfinalized hentry
      exact ⟨hsome, by rw [show tx.state.base = base from h.snapshot]; exact hoffline⟩
    · refine (overlay_step o (fun htouch => ?_) hsim).1
      cases o <;> first | exact hlisting rfl | exact ho | exact htouch
  · intro entityId
    have hkinds := hsim.entityKinds entityId
    rw [show tx.state.base = base from h.snapshot] at hkinds
    exact hkinds

/-- A login, with an item dropped and a slot emptied before it is finalized. -/
def loginCalls : List TxCall :=
  [.beginLogin ⟨1⟩ "alice" ⟨7⟩, .spawnDroppedItem ⟨0.5, 4, 0.5⟩ (.new "minecraft:stone" 1 0),
    .setInventorySlot ⟨7⟩ (.hotbar 0) none, .finalizeLogin ⟨1⟩ ⟨7⟩, .clearMining ⟨7⟩]

theorem transaction_previews_commit_login :
    ∃ tx, (runTxCalls canonicalContent loginCalls).run (.new (.new .default) 5) = .ok ((), tx) ∧
      ∃ events core,
        applyCoreOps canonicalContent (.new .default) tx.journal 5 = .ok (events, core) ∧
        (overlayState canonicalContent .playerEntityIds tx.state).1 =
          (baseState canonicalContent .playerEntityIds core).1 ∧
        tx.currentNextEntityId = core.entities.nextEntityId := by
  have hok : (match (runTxCalls canonicalContent loginCalls).run (.new (.new .default) 5) with
      | .ok (_, tx) =>
        tx.preparedPlayers.keys.all fun playerId => tx.finalizedPlayers.contains playerId
      | .error _ => false) = true := by decide +kernel
  split at hok
  · rename_i tx hrun
    refine ⟨tx, hrun, ?_⟩
    obtain ⟨-, events, core, happly, hreads, -, hnext⟩ := transaction_previews_commit hrun (by
      intro playerId hplayer
      rw [List.all_eq_true] at hok
      exact ExtTreeSet.contains_iff_mem.mp (hok playerId (ExtTreeMap.mem_keys.mpr hplayer)))
    exact ⟨events, core, happly, hreads .playerEntityIds trivial, hnext⟩
  · cases hok

end RevyCraft
